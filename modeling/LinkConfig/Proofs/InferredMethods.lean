import LinkConfig.Config.Intent
import Mathlib.Data.List.Induction

/-! # Inferred methods

Each address suggests how the addresses of a link are obtained. What is inferred from a list of them
is the strongest suggestion, wherever in the list it stands. Another order of the addresses is
another order of those that are declared, and changes nothing else in the setting.
-/
namespace LinkConfig

variable {F : Family}

/-- A suggestion gives way to stronger ones. -/
def Method.strength : Method → Nat
  | disabled => 0
  | linkLocal => 1
  | manual => 2
  | auto => 3

theorem Method.strength_inj {m n : Method} : m.strength = n.strength ↔ m = n := by
  cases m <;> cases n <;> decide

namespace AddressEntry
variable {e : AddressEntry F}

/-- How the address by itself seems to be obtained. -/
def suggested (e : AddressEntry F) : Method :=
  if e.address.isLinkLocal then .linkLocal
  else if e.isPermanent then .manual
  else .auto

theorem suggested_eq_auto_iff :
    e.suggested = .auto ↔ ¬ e.address.isLinkLocal ∧ ¬ e.isPermanent := by
  unfold suggested
  cases e.address.isLinkLocal <;> cases e.isPermanent <;> simp

theorem suggested_eq_manual_iff :
    e.suggested = .manual ↔ ¬ e.address.isLinkLocal ∧ e.isPermanent := by
  unfold suggested
  cases e.address.isLinkLocal <;> cases e.isPermanent <;> simp

theorem suggested_ne_disabled (e : AddressEntry F) : e.suggested ≠ .disabled := by
  unfold suggested
  cases e.address.isLinkLocal <;> cases e.isPermanent <;> simp

end AddressEntry

namespace Config
open AddressEntry

variable {c : Config F} {e : AddressEntry F} {es fs : List (AddressEntry F)} {m : Method}
  {best best' : Option Method}

/-- Of the methods that the entries suggest, if there are entries, none is stronger. -/
def IsStrongest (es : List (AddressEntry F)) : Option Method → Prop
  | none => es = []
  | some m => (∃ e ∈ es, e.suggested = m) ∧ ∀ e ∈ es, e.suggested.strength ≤ m.strength

namespace IsStrongest

theorem unique (h : IsStrongest es best) (h' : IsStrongest es best') : best = best' := by
  cases best with
  | none =>
    obtain rfl : es = [] := h
    cases best' with
    | none => rfl
    | some n =>
      obtain ⟨⟨e, he, -⟩, -⟩ := h'
      exact absurd he List.not_mem_nil
  | some m =>
    obtain ⟨⟨e, he, rfl⟩, hmax⟩ := h
    cases best' with
    | none =>
      obtain rfl : es = [] := h'
      exact absurd he List.not_mem_nil
    | some n =>
      obtain ⟨⟨e', he', rfl⟩, hmax'⟩ := h'
      have hle := hmax' e he
      have hge := hmax e' he'
      rw [Method.strength_inj.mp (Nat.le_antisymm hle hge)]

theorem perm (h : IsStrongest es best) (hperm : es.Perm fs) : IsStrongest fs best := by
  cases best with
  | none =>
    obtain rfl : es = [] := h
    exact hperm.symm.eq_nil
  | some m =>
    obtain ⟨⟨e, he, hm⟩, hmax⟩ := h
    exact ⟨⟨e, hperm.mem_iff.mp he, hm⟩, fun x hx => hmax x (hperm.mem_iff.mpr hx)⟩

/-- Nothing stronger is suggested. -/
theorem not_suggested {n : Method} (h : IsStrongest es (some m)) (hlt : m.strength < n.strength) :
    ¬ ∃ e ∈ es, e.suggested = n := by
  obtain ⟨-, hmax⟩ := h
  rintro ⟨e, he, rfl⟩
  exact Nat.not_le.mpr hlt (hmax e he)

/-- Any entry that is not link-local outweighs those that are, and one that expires outweighs those
that are permanent. -/
theorem getD_eq (h : IsStrongest es best) :
    best.getD .disabled =
      if ∃ e ∈ es, e.suggested = .auto then .auto
      else if ∃ e ∈ es, e.suggested = .manual then .manual
      else if es ≠ [] then .linkLocal
      else .disabled := by
  cases best with
  | none =>
    obtain rfl : es = [] := h
    simp
  | some m =>
    obtain ⟨e, he, hm⟩ := h.1
    cases m with
    | disabled => exact absurd hm (suggested_ne_disabled e)
    | linkLocal =>
      rw [if_neg (h.not_suggested (by decide)), if_neg (h.not_suggested (by decide)),
        if_pos (List.ne_nil_of_mem he)]
      rfl
    | manual =>
      rw [if_neg (h.not_suggested (by decide)), if_pos ⟨e, he, hm⟩]
      rfl
    | auto =>
      rw [if_pos ⟨e, he, hm⟩]
      rfl

end IsStrongest

theorem inferMethod_none (e : AddressEntry F) : inferMethod none e = some e.suggested := by
  unfold inferMethod suggested
  cases e.address.isLinkLocal <;> cases e.isPermanent <;> rfl

theorem inferMethod_some (hm : m ≠ .disabled) (e : AddressEntry F) :
    inferMethod (some m) e =
      some (if m.strength < e.suggested.strength then e.suggested else m) := by
  unfold inferMethod suggested
  cases e.address.isLinkLocal <;> cases e.isPermanent <;> cases m <;>
    first | contradiction | rfl

theorem IsStrongest.concat (h : IsStrongest es best) (e : AddressEntry F) :
    IsStrongest (es ++ [e]) (inferMethod best e) := by
  cases best with
  | none =>
    obtain rfl : es = [] := h
    rw [inferMethod_none]
    exact ⟨⟨e, List.mem_singleton_self e, rfl⟩, List.forall_mem_singleton.mpr (Nat.le_refl _)⟩
  | some m =>
    obtain ⟨⟨x, hx, rfl⟩, hmax⟩ := h
    rw [inferMethod_some (suggested_ne_disabled x)]
    split
    next hlt =>
      refine ⟨⟨e, List.mem_append_right _ (List.mem_singleton_self e), rfl⟩, ?_⟩
      have hold : ∀ y ∈ es, y.suggested.strength ≤ e.suggested.strength :=
        fun y hy => Nat.le_of_lt (Nat.lt_of_le_of_lt (hmax y hy) hlt)
      exact List.forall_mem_append.mpr ⟨hold, List.forall_mem_singleton.mpr (Nat.le_refl _)⟩
    next hge =>
      refine ⟨⟨x, List.mem_append_left _ hx, rfl⟩, ?_⟩
      exact List.forall_mem_append.mpr ⟨hmax, List.forall_mem_singleton.mpr (Nat.not_lt.mp hge)⟩

/-- The invariant of the scan, over every beginning of the list. -/
theorem isStrongest_foldl (es : List (AddressEntry F)) :
    IsStrongest es (es.foldl inferMethod none) := by
  induction es using List.reverseRecOn with
  | nil => rfl
  | append_singleton es e ih =>
    rw [List.foldl_append]
    exact ih.concat e

theorem foldl_inferMethod_perm (h : es.Perm fs) :
    es.foldl inferMethod none = fs.foldl inferMethod none :=
  ((isStrongest_foldl es).perm h).unique (isStrongest_foldl fs)

theorem method_toSetting (c : Config F) :
    c.toSetting.method =
      if ∃ e ∈ c.addresses, ¬ e.address.isLinkLocal ∧ ¬ e.isPermanent then .auto
      else if ∃ e ∈ c.addresses, ¬ e.address.isLinkLocal ∧ e.isPermanent then .manual
      else if c.addresses ≠ [] then .linkLocal
      else .disabled := by
  have hstrongest := (isStrongest_foldl c.addresses).getD_eq
  simp only [suggested_eq_auto_iff, suggested_eq_manual_iff] at hstrongest
  exact hstrongest

theorem method_toSetting_eq_auto_iff :
    c.toSetting.method = .auto ↔
      ∃ e ∈ c.addresses, ¬ e.address.isLinkLocal ∧ ¬ e.isPermanent := by
  rw [method_toSetting]
  split
  next h => exact iff_of_true rfl h
  next h =>
    refine iff_of_false ?_ h
    split
    · exact nofun
    · split <;> exact nofun

theorem isDeclared_iff : isDeclared e ↔ e.isPermanent ∧ ¬ e.address.isLinkLocal := by
  rw [isDeclared, Bool.and_eq_true, Bool.not_eq_true', Bool.not_eq_true, and_comm]

theorem isDeclaredRoute_iff {r : Route F} :
    isDeclaredRoute r ↔ r.source = .user ∧ r.prefixLen ≠ 0 ∧ ¬ r.network.isLinkLocal := by
  simp [isDeclaredRoute, and_comm]

theorem specified?_gateway (r : Route F) :
    r.gateway.specified? = if r.hasGateway then some r.gateway else none := by
  unfold Address.specified? Route.hasGateway
  cases r.gateway.isUnspecified <;> rfl

/-- A configuration with an address that expires is described as automatic, one with permanent
addresses as manual, and one with none but link-local addresses as link-local; link-local addresses
do not count beside others. The permanent ones are declared with the gateway, and the routes of the
user with a next hop if they have one. When the addresses change places, those that are declared
change places, and nothing else does. -/
theorem inferred_in_any_order (c : Config F) :
    c.toSetting.method =
        (if ∃ e ∈ c.addresses, ¬ e.address.isLinkLocal ∧ ¬ e.isPermanent then .auto
          else if ∃ e ∈ c.addresses, ¬ e.address.isLinkLocal ∧ e.isPermanent then .manual
          else if c.addresses ≠ [] then .linkLocal
          else .disabled) ∧
      c.toSetting.addresses =
        (c.addresses.filter fun e => e.isPermanent ∧ ¬ e.address.isLinkLocal).map (fun e =>
          { address := e.address, prefixLen := e.prefixLen, gateway := c.gateway }) ∧
      c.toSetting.routes =
        (c.routes.filter fun r =>
          r.source = .user ∧ r.prefixLen ≠ 0 ∧ ¬ r.network.isLinkLocal).map (fun r =>
            { destination := r.network, prefixLen := r.prefixLen
              nextHop := if r.hasGateway then some r.gateway else none, metric := r.metric }) ∧
      ∀ es : List (AddressEntry F), es.Perm c.addresses →
        ∃ declared : List (DeclaredAddress F), declared.Perm c.toSetting.addresses ∧
          toSetting { c with addresses := es } = { c.toSetting with addresses := declared } := by
  refine ⟨method_toSetting c, ?addresses, ?routes, ?order⟩
  case addresses =>
    simp only [← isDeclared_iff, Bool.decide_eq_true]
    rfl
  case routes =>
    simp only [← isDeclaredRoute_iff, Bool.decide_eq_true, ← specified?_gateway]
    rfl
  case order =>
    intro es hperm
    refine ⟨(toSetting { c with addresses := es }).addresses, (hperm.filter _).map _, ?_⟩
    rw [toSetting, foldl_inferMethod_perm hperm]
    rfl

/-- Two permanent addresses beside one that expires, and link-local addresses of both kinds. -/
def mixedAddresses : Config .v6 :=
  { addresses := [
      { address := ⟨0xfe800000000000000000000000000001⟩, prefixLen := 64 },
      { address := ⟨0x20010db8000000000000000000000005⟩, prefixLen := 64 },
      { address := ⟨0xfe800000000000000000000000000002⟩, prefixLen := 64, lease := ⟨0, 600, 600⟩ },
      { address := ⟨0x20010db8000000000000000000000006⟩, prefixLen := 64, lease := ⟨0, 600, 600⟩ },
      { address := ⟨0x20010db8000000000000000000000007⟩, prefixLen := 48 }]
    gateway := some ⟨0x20010db8000000000000000000000001⟩ }

theorem inferred_in_any_order_mixedAddresses :
    let turned := { mixedAddresses with addresses := mixedAddresses.addresses.reverse }
    turned.addresses.Perm mixedAddresses.addresses ∧ mixedAddresses.toSetting.method = .auto ∧
      mixedAddresses.toSetting.addresses.length = 2 ∧
      ∃ declared, declared.Perm mixedAddresses.toSetting.addresses ∧
        declared ≠ mixedAddresses.toSetting.addresses ∧
        turned.toSetting = { mixedAddresses.toSetting with addresses := declared } := by
  intro turned
  have hperm := List.reverse_perm mixedAddresses.addresses
  obtain ⟨hmethod, -, -, horder⟩ := inferred_in_any_order mixedAddresses
  obtain ⟨declared, hdeclared, hturned⟩ := horder _ hperm
  refine ⟨hperm, hmethod.trans (by decide), by decide, declared, hdeclared, ?_, hturned⟩
  rintro rfl
  exact absurd (congrArg Setting.addresses hturned) (by decide)

end Config

end LinkConfig
