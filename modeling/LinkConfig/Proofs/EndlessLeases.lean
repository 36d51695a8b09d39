import LinkConfig.Proofs.EntryOrder
import LinkConfig.Proofs.InferredMethods

/-! # Leases without an end

A lease has no end if its lifetime is unlimited or zero, but only an unlimited one is permanent. A
lifetime of zero is therefore taken for one that ends where entries are put in order and where a
configuration is described; all other leases without an end come first and are declared.
-/
namespace LinkConfig

variable {F : Family}

theorem Lease.isPermanent_iff_expiry {l : Lease} :
    l.isPermanent ↔ l.expiry = none ∧ l.lifetime ≠ 0 := by
  unfold isPermanent expiry
  have hne : unlimited ≠ 0 := by decide
  by_cases h : l.lifetime = unlimited
  · simp [h, hne]
  · by_cases h0 : l.lifetime = 0 <;> simp [h, h0, hne.symm]

namespace AddressEntry
variable {privacy : Privacy} {a b : AddressEntry F}

theorem compareRest_of_zero (ha : a.lease.lifetime = 0) (hb : b.lease.lifetime ≠ 0) :
    compareRest a b =
      (compare a.prefixLen b.prefixLen).then
        ((compare a.lease.timestamp b.lease.timestamp).then .lt) := by
  have hlt : compare a.lease.lifetime b.lease.lifetime = .lt := by
    have hpos : 0 < b.lease.lifetime := UInt32.pos_iff_ne_zero.mpr hb
    simp [compare, compareOfLessAndEq, ha, hpos]
  rw [compareRest, hlt]
  rfl

/-- An entry without an end comes before one with an end, unless its lifetime is zero: then it does
only where the address, the prefix and the timestamp do not tell otherwise. -/
theorem compareIn_of_expiry (ha : a.expiry = none) (hb : b.expiry ≠ none)
    (htentative : a.isTentative = b.isTentative) (hclass : a.address.classify = b.address.classify)
    (htemporary : a.isTemporary = b.isTemporary) (hsource : a.source = b.source) :
    compareIn privacy a b =
      if a.lease.lifetime ≠ 0 then .lt
      else (compare a.address b.address).then ((compare a.prefixLen b.prefixLen).then
        ((compare a.lease.timestamp b.lease.timestamp).then .lt)) := by
  have hb' : b.isPermanent = false := by
    rw [← Bool.not_eq_true]
    exact fun h => hb (Lease.isPermanent_iff_expiry.mp h).1
  have hagree : compareIn privacy a b = (compare b.isPermanent a.isPermanent).then
      ((compare a.address b.address).then (compareRest a b)) := by
    rw [compareIn_of_agree htentative htemporary hsource, hclass]
    simp
  rw [hagree, hb']
  split
  next h =>
    have ha' : a.isPermanent := Lease.isPermanent_iff_expiry.mpr ⟨ha, h⟩
    rw [ha']
    rfl
  next h =>
    have ha' : a.isPermanent = false := by
      rw [← Bool.not_eq_true]
      exact fun hp => h (Lease.isPermanent_iff_expiry.mp hp).2
    have hlifetime : b.lease.lifetime ≠ 0 := fun h0 => hb (if_pos (.inr h0))
    rw [ha', compareRest_of_zero (not_not.mp h) hlifetime]
    rfl

end AddressEntry

namespace Config

/-- Where no lifetime is zero, an entry without an end comes before one with an end that is like it
so far, and is declared, and entries without an end are not described as automatic. One whose
lifetime is zero is placed by its address, is not declared, and has the configuration described as
automatic. -/
theorem endless_unless_zero :
    (∀ (privacy : Privacy) (a b : AddressEntry F), a.expiry = none → b.expiry ≠ none →
        a.isTentative = b.isTentative → a.address.classify = b.address.classify →
        a.isTemporary = b.isTemporary → a.source = b.source →
        AddressEntry.compareIn privacy a b =
          if a.lease.lifetime ≠ 0 then .lt
          else (compare a.address b.address).then ((compare a.prefixLen b.prefixLen).then
            ((compare a.lease.timestamp b.lease.timestamp).then .lt))) ∧
      ∀ c : Config F,
        c.toSetting.addresses =
          (c.addresses.filter fun e =>
            ¬ e.address.isLinkLocal ∧ e.expiry = none ∧ e.lease.lifetime ≠ 0).map (fun e =>
              { address := e.address, prefixLen := e.prefixLen, gateway := c.gateway }) ∧
        ((∀ e ∈ c.addresses, e.expiry = none) →
          (c.toSetting.method = .auto ↔
            ∃ e ∈ c.addresses, ¬ e.address.isLinkLocal ∧ e.lease.lifetime = 0)) := by
  refine ⟨fun privacy a b => AddressEntry.compareIn_of_expiry, fun c => ⟨?_, fun hendless => ?_⟩⟩
  · have hdeclared (e : AddressEntry F) : isDeclared e ↔
        ¬ e.address.isLinkLocal ∧ e.expiry = none ∧ e.lease.lifetime ≠ 0 := by
      rw [isDeclared_iff, and_comm]
      exact and_congr_right fun _ => Lease.isPermanent_iff_expiry
    simp only [← hdeclared, Bool.decide_eq_true]
    rfl
  · rw [method_toSetting_eq_auto_iff]
    refine exists_congr fun e => and_congr_right fun he => and_congr_right fun _ => ?_
    have hpermanent : e.isPermanent ↔ e.lease.lifetime ≠ 0 :=
      Lease.isPermanent_iff_expiry.trans (and_iff_right (hendless e he))
    rw [hpermanent, not_not]

/-- An entry whose lifetime is zero. -/
def zeroLifetime : AddressEntry .v4 :=
  { address := ⟨0x0a000009⟩, prefixLen := 24, lease := ⟨0, 0, 0⟩ }

/-- An entry like it, but with an end. -/
def shortLifetime : AddressEntry .v4 :=
  { address := ⟨0x0a000001⟩, prefixLen := 24, lease := ⟨0, 100, 100⟩ }

theorem endless_zeroLifetime :
    let c : Config .v4 := { addresses := [zeroLifetime] }
    zeroLifetime.expiry = none ∧ shortLifetime.expiry = some 100 ∧
      zeroLifetime.isTentative = shortLifetime.isTentative ∧
      zeroLifetime.address.classify = shortLifetime.address.classify ∧
      zeroLifetime.isTemporary = shortLifetime.isTemporary ∧
      zeroLifetime.source = shortLifetime.source ∧
      (∀ privacy, AddressEntry.compareIn privacy zeroLifetime shortLifetime = .gt) ∧
      ¬ zeroLifetime.address.isLinkLocal ∧ c.toSetting.addresses = [] ∧
      (∀ e ∈ c.addresses, e.expiry = none) ∧ c.toSetting.method = .auto := by
  intro c
  refine ⟨by decide, by decide, by decide, by decide, by decide, by decide, ?_, by decide,
    by decide, by decide, by decide⟩
  intro privacy
  cases privacy <;> decide

/-- A lease without an end comes first at a higher address too, and does not make the description
automatic, and nor does a link-local address whose lifetime is zero. -/
theorem endless_unless_zero_unlimited :
    let endless : AddressEntry .v4 :=
      { shortLifetime with address := ⟨0x0a000063⟩, lease := ⟨7, Lease.unlimited, 50⟩ }
    let c : Config .v4 := { addresses := [endless, { zeroLifetime with address := ⟨0xa9fe0001⟩ }] }
    AddressEntry.compareIn .preferTemporary endless shortLifetime = .lt ∧
      c.toSetting.addresses = [{ address := ⟨0x0a000063⟩, prefixLen := 24 }] ∧
      (∀ e ∈ c.addresses, e.expiry = none) ∧ c.toSetting.method ≠ .auto := by
  intro endless c
  obtain ⟨horder, hsetting⟩ := endless_unless_zero (F := .v4)
  obtain ⟨haddresses, hmethod⟩ := hsetting c
  have hendless : ∀ e ∈ c.addresses, e.expiry = none := by decide
  refine ⟨?_, haddresses.trans (by decide), hendless, ?_⟩
  · rw [horder .preferTemporary endless shortLifetime (by decide) (by decide) (by decide)
      (by decide) (by decide) (by decide)]
    decide
  · rw [Ne, hmethod hendless]
    decide

end Config

end LinkConfig
