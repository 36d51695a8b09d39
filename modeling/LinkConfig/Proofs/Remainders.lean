import LinkConfig.Proofs.ExactReports
import LinkConfig.Proofs.Withdrawal

/-! # What a withdrawal leaves

Whatever a configuration is withdrawn from, what is left is what the other does not hold, in its old
order. Each list is filtered by the keys of the other, so that it does not matter in what order
configurations are withdrawn, nor whether one is withdrawn again.
-/
namespace LinkConfig
open Keyed

variable {F : Family}

/-- Taking a value back leaves none exactly where it was held. -/
theorem unfill_eq {α : Type} [DecidableEq α] (z x y : α) :
    unfill z x y = if x = y then z else x := by
  unfold unfill
  by_cases hy : y = z
  · subst hy
    simp
  · simp [hy]

/-- After two such steps there is a value if neither took it. -/
theorem ite_eq_twice {α : Type} [DecidableEq α] (z x y w : α) :
    (if (if x = y then z else x) = w then z else if x = y then z else x) =
      if x = y ∨ x = w then z else x := by
  by_cases hy : x = y
  · have heither : x = y ∨ x = w := .inl hy
    rw [if_pos hy, if_pos heither, ite_self]
  · have heither : x = y ∨ x = w ↔ x = w := or_iff_right hy
    rw [if_neg hy, if_congr heither rfl rfl]

namespace Keyed
variable {α κ : Type} [BEq κ] [LawfulBEq κ] {key : α → κ} {l : List α}

theorem foldl_drop_eq_filter_all (h : (l.map key).Nodup) (xs : List α) :
    xs.foldl (drop key) l = l.filter fun x => xs.all (key · != key x) := by
  rw [foldl_drop h]
  refine List.filter_congr fun x _ => ?_
  rw [Bool.eq_iff_iff]
  simp

theorem filter_all_self (key : α → κ) (l : List α) :
    l.filter (fun x => l.all (key · != key x)) = [] := by
  refine List.filter_eq_nil_iff.mpr fun x hx hall => ?_
  have hne := List.all_eq_true.mp hall x hx
  rw [bne_self_eq_false] at hne
  contradiction

end Keyed

namespace Config

/-- The configuration without the entries that `b` has too: addresses count by value and routes by
destination, and a gateway or an MSS that the two share is unset. -/
def without (c b : Config F) : Config F :=
  { c with
    addresses := c.addresses.filter fun e => b.addresses.all (·.address != e.address)
    routes := c.routes.filter fun r => b.routes.all (·.destination != r.destination)
    gateway := if c.gateway = b.gateway then none else c.gateway
    nameservers := c.nameservers.filter (· ∉ b.nameservers)
    domains := c.domains.filter (· ∉ b.domains)
    searches := c.searches.filter (· ∉ b.searches)
    mss := if c.mss = b.mss then 0 else c.mss }

variable {c : Config F} (a b : Config F)

theorem Sound.without (hc : c.Sound) : (c.without b).Sound where
  addresses_nodup := (List.filter_sublist.map _).nodup hc.addresses_nodup
  routes_nodup := (List.filter_sublist.map _).nodup hc.routes_nodup
  nameservers_nodup := hc.nameservers_nodup.filter _
  domains_nodup := hc.domains_nodup.filter _
  domains_named hmem := hc.domains_named (List.mem_of_mem_filter hmem)
  searches_nodup := hc.searches_nodup.filter _
  searches_named hmem := hc.searches_named (List.mem_of_mem_filter hmem)
  gateway_specified := by
    unfold Config.without
    split
    · exact (Option.some_ne_none _).symm
    · exact hc.gateway_specified

/-- However often an entry is withdrawn, and in whatever order, only its key counts. -/
theorem config_withdraw_eq_without (hc : c.Sound) : (c.withdraw b).config = c.without b := by
  have hvalues {α : Type} [DecidableEq α] {l : List α} (h : l.Nodup) (xs : List α) :
      xs.foldl (drop id) l = l.filter (· ∉ xs) := by
    rw [foldl_drop (by rwa [List.map_id])]
    simp
  rw [config_withdraw_unfill, foldl_drop_eq_filter_all hc.addresses_nodup,
    foldl_drop_eq_filter_all hc.routes_nodup, hvalues hc.nameservers_nodup,
    hvalues hc.domains_nodup, hvalues hc.searches_nodup, unfill_eq, unfill_eq]
  rfl

theorem without_comm : (c.without a).without b = (c.without b).without a := by
  have hvalue {α : Type} [DecidableEq α] (z x y w : α) :
      (if (if x = y then z else x) = w then z else if x = y then z else x) =
        if (if x = w then z else x) = y then z else if x = w then z else x := by
    rw [ite_eq_twice, ite_eq_twice, if_congr or_comm rfl rfl]
  apply Config.ext
  case gateway => exact hvalue none c.gateway a.gateway b.gateway
  case mss => exact hvalue 0 c.mss a.mss b.mss
  case addresses | routes | nameservers | domains | searches => exact List.filter_comm _ _ _
  case neverDefault | privacy | path => rfl

theorem without_without : (c.without b).without b = c.without b := by
  have hvalue {α : Type} [DecidableEq α] (z x y : α) :
      (if (if x = y then z else x) = y then z else if x = y then z else x) =
        if x = y then z else x := by
    rw [ite_eq_twice, if_congr or_self_iff rfl rfl]
  have hlist {α : Type} (p : α → Bool) (l : List α) : (l.filter p).filter p = l.filter p := by
    simp only [List.filter_filter, Bool.and_self]
  apply Config.ext
  case gateway => exact hvalue none c.gateway b.gateway
  case mss => exact hvalue 0 c.mss b.mss
  case addresses | routes | nameservers | domains | searches => exact hlist _ _
  case neverDefault | privacy | path => rfl

theorem without_self (c : Config F) :
    c.without c = { neverDefault := c.neverDefault, privacy := c.privacy, path := c.path } := by
  have hvalues {α : Type} [DecidableEq α] (l : List α) : l.filter (· ∉ l) = [] := by simp
  unfold without
  rw [filter_all_self AddressEntry.address, filter_all_self Route.destination, hvalues, hvalues,
    hvalues, if_pos rfl, if_pos rfl]

/-- A withdrawal leaves exactly what the other configuration does not hold. Made again it finds
nothing to do, two of them may be made in either order, and of a configuration that is withdrawn
from itself nothing is left. -/
theorem withdraw_leaves_rest (hc : c.Sound) :
    (c.withdraw b).config = c.without b ∧
      ((c.withdraw b).config.withdraw b).config = (c.withdraw b).config ∧
      ((c.withdraw b).config.withdraw b).changes = ∅ ∧
      ((c.withdraw a).config.withdraw b).config = ((c.withdraw b).config.withdraw a).config ∧
      (c.withdraw c).config.isEmpty ∧ (c.withdraw c).config.mss = 0 := by
  have hagain : ((c.withdraw b).config.withdraw b).config = (c.withdraw b).config := by
    rw [config_withdraw_eq_without b hc, config_withdraw_eq_without b (hc.without b),
      without_without]
  refine ⟨config_withdraw_eq_without b hc, hagain, ?_, ?_, ?_, ?_⟩
  · refine Changes.ext_has fun f => ?_
    have hexact := withdraw_exact (c.withdraw b).config b f
    rw [hagain] at hexact
    rw [Changes.has_empty, ← Bool.not_eq_true, hexact, not_not]
    cases f <;> rfl
  · rw [config_withdraw_eq_without a hc, config_withdraw_eq_without b hc,
      config_withdraw_eq_without b (hc.without a), config_withdraw_eq_without a (hc.without b),
      without_comm]
  · rw [config_withdraw_eq_without c hc, without_self]
    rfl
  · rw [config_withdraw_eq_without c hc, without_self]

/-- What a tunnel and a lease have contributed is withdrawn, though the tunnel names one address
twice and one that is not there, and routes with other gateways. -/
theorem withdraw_leaves_rest_tunnelAndLease :
    let own : AddressEntry .v4 := { address := ⟨0x0a000001⟩, prefixLen := 24, source := .user }
    let inner : AddressEntry .v4 := { address := ⟨0x0a000009⟩, prefixLen := 32, source := .vpn }
    let net : Route .v4 := { network := ⟨0x0a010000⟩, prefixLen := 16, gateway := ⟨0x0a000009⟩ }
    let lease : Config .v4 :=
      { gateway := some ⟨0x0a0000fe⟩, nameservers := [⟨0x0a000035⟩], domains := ["lan"] }
    let tunnel : Config .v4 :=
      { addresses := [{ inner with prefixLen := 8 }, { inner with address := ⟨0x0a000008⟩ }, inner]
        routes := [{ net with gateway := ⟨0x0a0000fe⟩ }], nameservers := [⟨0x0a000036⟩]
        gateway := some ⟨0x0a0000fd⟩, mss := 1380 }
    let c : Config .v4 :=
      { addresses := [own, inner], routes := [net, { net with prefixLen := 17 }]
        gateway := some ⟨0x0a0000fe⟩, nameservers := [⟨0x0a000035⟩, ⟨0x0a000036⟩, ⟨0x0a000037⟩]
        domains := ["lan", "vpn"], mss := 1380 }
    c.Sound ∧ (c.withdraw tunnel).config = { c with
        addresses := [own], routes := [{ net with prefixLen := 17 }]
        nameservers := [⟨0x0a000035⟩, ⟨0x0a000037⟩], mss := 0 } ∧
      ((c.withdraw lease).config.withdraw tunnel).config =
        ((c.withdraw tunnel).config.withdraw lease).config := by
  intro own inner net lease tunnel c
  have hwf : c.WellFormed := by decide
  obtain ⟨hrest, -, -, hcomm, -⟩ := withdraw_leaves_rest lease tunnel hwf.toSound
  exact ⟨hwf.toSound, hrest.trans (by decide), hcomm⟩

end Config

end LinkConfig
