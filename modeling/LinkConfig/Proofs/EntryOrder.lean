import LinkConfig.AddressEntry.Order

/-! # The order of address entries is total

The comparison of entries is lexicographic. Whether an entry takes part in the privacy extensions
at all does not matter for it: two entries outside of them are not temporary either. Entries that
compare equal are equal, so that each set of entries has one order.
-/
namespace LinkConfig
open Std

instance : TransOrd Source := inferInstanceAs (TransCmp (compareOn Source.rank))

instance : LawfulEqOrd Source where
  compare_self {s} := (ReflCmp.compare_self : compareOn Source.rank s s = .eq)
  eq_of_compare h := Source.rank_inj.mp (LawfulEqOrd.eq_of_compare (α := Nat) h)

instance : TransOrd AddressClass := inferInstanceAs (TransCmp (compareOn AddressClass.rank))

variable {F : Family}

instance : TransOrd (Address F) := inferInstanceAs (TransCmp (compareOn Address.toNat))

instance : LawfulEqOrd (Address F) where
  compare_self {a} := (ReflCmp.compare_self : compareOn Address.toNat a a = .eq)
  eq_of_compare h := Address.toNat_inj.mp (LawfulEqOrd.eq_of_compare (α := Nat) h)

/-- What comes after two different addresses does not count. -/
theorem Address.compare_then {a b : Address F} (h : a ≠ b) (o : Ordering) :
    (compare a b).then o = compare a b := by
  cases hcompare : compare a b with
  | eq => exact absurd (LawfulEqOrd.eq_of_compare hcompare) h
  | lt => rfl
  | gt => rfl

namespace AddressEntry

theorem isTemporary_eq_false {e : AddressEntry F} (h : e.usesPrivacy = false) :
    e.isTemporary = false := by
  simp only [usesPrivacy, isTemporary, hasFlag, bne_eq_false_iff_eq] at *
  calc e.flags &&& Flag.temporary
      = e.flags &&& ((Flag.temporary ||| Flag.manageTempAddr) &&& Flag.temporary) := rfl
    _ = 0 := by rw [← UInt32.and_assoc, h, UInt32.zero_and]

/-- Only being temporary counts: entries outside of the privacy extensions agree in it. -/
theorem comparePrivacy_eq (privacy : Privacy) :
    comparePrivacy (F := F) privacy =
      if privacy = .preferTemporary then fun a b => compareOn isTemporary b a
      else compareOn isTemporary := by
  funext a b
  unfold comparePrivacy
  split
  · next h =>
    simp only [Bool.and_eq_true, Bool.not_eq_true'] at h
    have ha := isTemporary_eq_false h.1
    have hb := isTemporary_eq_false h.2
    split <;> simp [compareOn, ha, hb]
  · split <;> rfl

instance (privacy : Privacy) : TransCmp (comparePrivacy (F := F) privacy) := by
  rw [comparePrivacy_eq]
  split <;> infer_instance

instance : TransCmp (compareRest (F := F)) :=
  inferInstanceAs (TransCmp
    (compareLex (compareOn prefixLen)
      (compareLex (compareOn (·.lease.timestamp))
        (compareLex (compareOn (·.lease.lifetime))
          (compareLex (compareOn (·.lease.preferred))
            (compareLex (compareOn flags) (compareOn source)))))))

instance (privacy : Privacy) : TransCmp (compareIn (F := F) privacy) :=
  inferInstanceAs (TransCmp
    (compareLex (compareOn isTentative)
      (compareLex (compareOn fun e => e.address.classify)
        (compareLex (comparePrivacy privacy)
          (compareLex (fun a b => compareOn source b a)
            (compareLex (fun a b => compareOn isPermanent b a)
              (compareLex (compareOn address) compareRest)))))))

/-- The address and the rest are all that an entry holds. -/
instance (privacy : Privacy) : LawfulEqCmp (compareIn (F := F) privacy) where
  eq_of_compare {a b} h := by
    simp only [compareIn, compareRest, Ordering.then_eq_eq, LawfulEqOrd.compare_eq_iff_eq] at h
    obtain ⟨-, -, -, -, -, haddress, hlen, htime, hlife, hpref, hflags, hsource⟩ := h
    obtain ⟨_, _, ⟨_, _, _⟩, _, _⟩ := a
    obtain ⟨_, _, ⟨_, _, _⟩, _, _⟩ := b
    simp_all

variable {privacy : Privacy} {a b c : AddressEntry F}

theorem precedes_trans (hab : precedes privacy a b) (hbc : precedes privacy b c) :
    precedes privacy a c := TransCmp.isLE_trans hab hbc

theorem precedes_antisymm (hab : precedes privacy a b) (hba : precedes privacy b a) : a = b :=
  LawfulEqCmp.eq_of_compare (OrientedCmp.isLE_antisymm hab hba)

theorem precedes_of_not (h : ¬ precedes privacy a b) : precedes privacy b a := by
  have hgt : compareIn privacy a b = .gt := by simpa [precedes] using h
  have hswap : compareIn privacy b a = (compareIn privacy a b).swap := OrientedCmp.eq_swap
  rw [precedes, hswap, hgt]
  rfl

theorem compareIn_eq_lt_iff : compareIn privacy a b = .lt ↔ precedes privacy a b ∧ a ≠ b := by
  have heq : compareIn privacy a b = .eq ↔ a = b := LawfulEqCmp.compare_eq_iff_eq
  rw [precedes, Ordering.isLE_iff_eq_lt_or_eq_eq, ne_eq, ← heq]
  cases compareIn privacy a b <;> simp

/-- Entries that are alike in being tentative, in being temporary and in their source: the class
decides, then permanence, whatever is preferred, and then the address and what else they hold. -/
theorem compareIn_of_agree (htentative : a.isTentative = b.isTentative)
    (htemporary : a.isTemporary = b.isTemporary) (hsource : a.source = b.source) :
    compareIn privacy a b =
      (compare a.address.classify b.address.classify).then
        ((compare b.isPermanent a.isPermanent).then
          ((compare a.address b.address).then (compareRest a b))) := by
  have hprivacy : comparePrivacy privacy a b = .eq := by
    rw [comparePrivacy_eq]
    split <;> simp [compareOn, htemporary]
  simp [compareIn, htentative, hprivacy, hsource]

end AddressEntry

end LinkConfig
