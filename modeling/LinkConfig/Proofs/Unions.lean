import LinkConfig.Proofs.KeyedUnions
import LinkConfig.Proofs.MergeGroups
import LinkConfig.Proofs.RepeatedReports

/-! # Merging as a union

A merger keeps everything that either side holds. Resolver entries and routes stay where they are,
with the new ones behind them in their order, and addresses are sorted in. For what both sides have
the merged values count, with the higher source and, for an address, with the longer lease. A
configuration is the outcome of a merger exactly if this holds of it.
-/
namespace LinkConfig
open Keyed

variable {F : Family}

namespace AddressEntry
variable {old new e : AddressEntry F}

/-- The entry is `new` with the higher of the two sources and the lease that ends later. Of leases
that end together it has the new one, unless the running system reports an entry that is not its
own. -/
structure Combines (old new e : AddressEntry F) : Prop where
  address : e.address = new.address
  prefixLen : e.prefixLen = new.prefixLen
  flags : e.flags = new.flags
  source : e.source = max old.source new.source
  lease_of_lt : new.lease.horizon < old.lease.horizon → e.lease = old.lease
  lease_of_gt : old.lease.horizon < new.lease.horizon → e.lease = new.lease
  lease_of_eq : old.lease.horizon = new.lease.horizon →
    e.lease = if new.source = .kernel ∧ old.source ≠ .kernel then old.lease else new.lease

theorem keepsLease_iff_horizon :
    old.keepsLease new ↔ new.lease.horizon < old.lease.horizon ∨
      old.lease.horizon = new.lease.horizon ∧ new.source = .kernel ∧ old.source ≠ .kernel := by
  rw [keepsLease_iff, Lease.compareExpiry_eq_gt_iff, Lease.compareExpiry_eq_eq_iff]

theorem combines_updated (old new : AddressEntry F) : Combines old new (old.updated new) := by
  have hlease : (old.updated new).lease = if old.keepsLease new then old.lease else new.lease := rfl
  simp only [keepsLease_iff_horizon] at hlease
  refine ⟨rfl, rfl, rfl, rfl, fun hlt => ?_, fun hgt => ?_, fun heq => ?_⟩
  · rw [hlease, if_pos (.inl hlt)]
  · rw [hlease, if_neg (not_or.mpr ⟨hgt.not_gt, fun h => hgt.ne h.1⟩)]
  · simp [hlease, heq]

theorem combines_iff : Combines old new e ↔ e = old.updated new := by
  constructor
  · intro h
    have hupdated := combines_updated old new
    have hlease : e.lease = (old.updated new).lease := by
      rcases lt_trichotomy old.lease.horizon new.lease.horizon with hgt | heq | hlt
      · rw [h.lease_of_gt hgt, hupdated.lease_of_gt hgt]
      · rw [h.lease_of_eq heq, hupdated.lease_of_eq heq]
      · rw [h.lease_of_lt hlt, hupdated.lease_of_lt hlt]
    obtain ⟨_, _, _, _, _⟩ := e
    rw [updated, mk.injEq]
    exact ⟨h.address, h.prefixLen, hlease, h.flags, h.source⟩
  · rintro rfl
    exact combines_updated old new

end AddressEntry

namespace Config
open AddressEntry

/-- The configuration `d` holds what `c` holds and what `src` adds to it. -/
structure IsUnion (c src d : Config F) : Prop where
  addresses_ascending : Ascending c.privacy d.addresses
  addresses : Unites AddressEntry.address Combines c.addresses src.addresses d.addresses
  destinations : d.routes.map Route.destination = c.routes.map Route.destination ++
    (src.routes.map Route.destination).filter (· ∉ c.routes.map Route.destination)
  routes : Unites Route.destination
    (fun old new r => r = { new with source := max old.source new.source })
    c.routes src.routes d.routes
  nameservers : d.nameservers = c.nameservers ++ src.nameservers.filter (· ∉ c.nameservers)
  domains : d.domains = c.domains ++ src.domains.filter (· ∉ c.domains)
  searches : d.searches = c.searches ++ src.searches.filter (· ∉ c.searches)
  gateway : d.gateway = c.gateway.or src.gateway
  mss : d.mss = if c.mss = 0 then src.mss else c.mss
  neverDefault : d.neverDefault = c.neverDefault
  privacy : d.privacy = c.privacy
  path : d.path = c.path

variable {c src d : Config F}

theorem IsUnion.unique {d' : Config F} (hd : d.WellFormed) (h : c.IsUnion src d)
    (h' : c.IsUnion src d') : d = d' := by
  apply Config.ext
  case addresses =>
    exact h.addresses_ascending.eq_of_mem_iff h'.addresses_ascending fun e =>
      (h.addresses e).trans (h'.addresses e).symm
  case routes =>
    exact eq_of_map_key hd.routes_nodup (h.destinations.trans h'.destinations.symm) fun r =>
      (h.routes r).trans (h'.routes r).symm
  case gateway => rw [h.gateway, h'.gateway]
  case nameservers => rw [h.nameservers, h'.nameservers]
  case domains => rw [h.domains, h'.domains]
  case searches => rw [h.searches, h'.searches]
  case neverDefault => rw [h.neverDefault, h'.neverDefault]
  case mss => rw [h.mss, h'.mss]
  case privacy => rw [h.privacy, h'.privacy]
  case path => rw [h.path, h'.path]

theorem find?_addresses_merge (hc : c.WellFormed) (hsrc : src.WellFormed) (n : Address F) :
    (c.merge src).config.addresses.find? (·.address == n) = joint updated
      (c.addresses.find? (·.address == n)) (src.addresses.find? (·.address == n)) := by
  have hentry := entriesOf_merge (entriesOf_eq_find? hc n) (entriesOf_eq_find? hsrc n)
  rw [← List.head?_filter, ← entriesOf, hentry]
  cases c.addresses.find? (·.address == n) <;> cases src.addresses.find? (·.address == n) <;> rfl

theorem foldl_insertName_eq_extend {xs : List String} (hne : "" ∉ xs) (l : List String) :
    xs.foldl insertName l = extend l xs := by
  rw [foldl_insertName_eq_foldl_insertNew hne, foldl_insertNew_eq_extend]

theorem isUnion_merge (hc : c.WellFormed) (hsrc : src.WellFormed) :
    c.IsUnion src (c.merge src).config := by
  have hmerged : (c.merge src).config.WellFormed := stepwise_wellFormed.merge c src hc
  have hfields := config_merge_fill c hsrc
  have hroutes : (c.merge src).config.routes =
      src.routes.foldl (upsert Route.destination Route.updated) c.routes := by rw [hfields]
  constructor
  case addresses_ascending => exact privacy_merge c src ▸ hmerged.addresses_ascending
  case addresses =>
    exact unites_of_find? keepsKey_updated (fun _ _ _ => combines_iff) hc.addresses_nodup
      hsrc.addresses_nodup hmerged.addresses_nodup (find?_addresses_merge hc hsrc)
  case destinations =>
    rw [hroutes, map_key_foldl_upsert Route.keepsKey_updated, extend_of_nodup hsrc.routes_nodup]
  case routes =>
    rw [hroutes]
    exact unites_of_find? Route.keepsKey_updated (fun _ _ _ => Iff.rfl) hc.routes_nodup
      hsrc.routes_nodup (hroutes ▸ hmerged.routes_nodup)
      (find?_foldl_upsert_eq_joint Route.keepsKey_updated hsrc.routes_nodup)
  case nameservers =>
    rw [hfields]
    exact (foldl_insertNew_eq_extend _ _).trans (extend_of_nodup hsrc.nameservers_nodup _)
  case domains =>
    rw [hfields]
    exact (foldl_insertName_eq_extend hsrc.domains_named _).trans
      (extend_of_nodup hsrc.domains_nodup _)
  case searches =>
    rw [hfields]
    exact (foldl_insertName_eq_extend hsrc.searches_named _).trans
      (extend_of_nodup hsrc.searches_nodup _)
  case gateway =>
    rw [hfields]
    cases hgateway : c.gateway <;> simp [fill]
  case mss => rw [hfields]; rfl
  case neverDefault => rw [hfields]
  case privacy => rw [hfields]
  case path => rw [hfields]

/-- A merger comes to the one configuration that is the union of the two. -/
theorem eq_merge_iff_isUnion (hc : c.WellFormed) (hsrc : src.WellFormed) :
    d = (c.merge src).config ↔ c.IsUnion src d := by
  have hmerged := isUnion_merge hc hsrc
  constructor
  · rintro rfl
    exact hmerged
  · intro h
    exact (hmerged.unique (stepwise_wellFormed.merge c src hc) h).symm

/-- The running system reports that a lease was prolonged, and knows of another address, which no
one owns. The route that both sides have keeps its place and its source. -/
theorem eq_merge_iff_isUnion_prolongedLease :
    let held : AddressEntry .v4 :=
      { address := ⟨0x0a000007⟩, prefixLen := 24, lease := ⟨100, 60, 50⟩, source := .dhcp }
    let own : AddressEntry .v4 := { address := ⟨0x0a000001⟩, prefixLen := 24, source := .user }
    let prolonged := { held with
      lease := ⟨150, 60, 50⟩, flags := Flag.noPrefixRoute, source := .kernel }
    let other : AddressEntry .v4 := { address := ⟨0x0a000002⟩, prefixLen := 16 }
    let leased : Route .v4 := { network := ⟨0x0a010000⟩, prefixLen := 16, source := .dhcp }
    let tunnel : Route .v4 := { network := ⟨0x0a020000⟩, prefixLen := 16, metric := 50 }
    let moved := { leased with gateway := ⟨0x0a0000fe⟩, mss := 1400, source := .kernel }
    let c : Config .v4 :=
      { addresses := [own, held], routes := [leased, { leased with prefixLen := 17 }]
        nameservers := [⟨0x0a000035⟩, ⟨0x0a000036⟩], domains := ["lan"], neverDefault := true }
    let src : Config .v4 :=
      { addresses := [prolonged, other], routes := [tunnel, moved], gateway := some ⟨0x0a0000fe⟩
        nameservers := [⟨0x0a000037⟩, ⟨0x0a000035⟩], domains := ["vpn", "lan"], mss := 1380
        privacy := .preferTemporary }
    let d : Config .v4 :=
      { addresses := [own, { prolonged with source := .dhcp }, other]
        routes := [{ moved with source := .dhcp }, { leased with prefixLen := 17 }, tunnel]
        gateway := some ⟨0x0a0000fe⟩, nameservers := [⟨0x0a000035⟩, ⟨0x0a000036⟩, ⟨0x0a000037⟩]
        domains := ["lan", "vpn"], neverDefault := true, mss := 1380 }
    c.WellFormed ∧ src.WellFormed ∧ c.IsUnion src d := by
  intro held own prolonged other leased tunnel moved c src d
  have hwf : c.WellFormed ∧ src.WellFormed := by decide
  have hmerged : d = (c.merge src).config := by decide
  exact ⟨hwf.1, hwf.2, (eq_merge_iff_isUnion hwf.1 hwf.2).mp hmerged⟩

end Config

end LinkConfig
