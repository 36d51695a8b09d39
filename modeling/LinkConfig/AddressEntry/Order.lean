import LinkConfig.Address.Class
import LinkConfig.AddressEntry

/-! # The order of address lists

Address lists have one order, in which entries come earlier that are not tentative, then those of
a lower class, then stable ones unless temporary ones are preferred, then those of a higher
source, then permanent ones. The address and what else an entry holds decide the rest, so that
only equal entries compare equal.
-/
namespace LinkConfig

/-- What is preferred of the stable and the temporary addresses of a link. -/
inductive Privacy where
  | unknown
  | disabled
  | preferPublic
  | preferTemporary
deriving DecidableEq

namespace AddressEntry
variable {F : Family}

/-- Two entries outside of the privacy extensions are not told apart by them. -/
def comparePrivacy (privacy : Privacy) (a b : AddressEntry F) : Ordering :=
  if !a.usesPrivacy && !b.usesPrivacy then .eq
  else if privacy = .preferTemporary then compare b.isTemporary a.isTemporary
  else compare a.isTemporary b.isTemporary

def compareRest (a b : AddressEntry F) : Ordering :=
  (compare a.prefixLen b.prefixLen).then <|
  (compare a.lease.timestamp b.lease.timestamp).then <|
  (compare a.lease.lifetime b.lease.lifetime).then <|
  (compare a.lease.preferred b.lease.preferred).then <|
  (compare a.flags b.flags).then <|
  compare a.source b.source

def compareIn (privacy : Privacy) (a b : AddressEntry F) : Ordering :=
  (compare a.isTentative b.isTentative).then <|
  (compare a.address.classify b.address.classify).then <|
  (comparePrivacy privacy a b).then <|
  (compare b.source a.source).then <|
  (compare b.isPermanent a.isPermanent).then <|
  (compare a.address b.address).then <|
  compareRest a b

/-- Whether `a` may stand before `b`. -/
def precedes (privacy : Privacy) (a b : AddressEntry F) : Bool := (compareIn privacy a b).isLE

/-- Puts an entry before the first one that it may stand before. -/
def place (privacy : Privacy) (e : AddressEntry F) : List (AddressEntry F) → List (AddressEntry F)
  | [] => [e]
  | x :: xs => if precedes privacy e x then e :: x :: xs else x :: place privacy e xs

/-- The entries in order; equal ones keep their places. -/
def sort (privacy : Privacy) (es : List (AddressEntry F)) : List (AddressEntry F) :=
  es.foldr (place privacy) []

def isSorted (privacy : Privacy) : List (AddressEntry F) → Bool
  | [] => true
  | [_] => true
  | a :: b :: es => precedes privacy a b && isSorted privacy (b :: es)

/-- The entries in order, and whether they were not before. -/
def arrange (privacy : Privacy) (es : List (AddressEntry F)) : List (AddressEntry F) × Bool :=
  if isSorted privacy es then (es, false) else (sort privacy es, true)

theorem place_perm (privacy : Privacy) (e : AddressEntry F) (es : List (AddressEntry F)) :
    (place privacy e es).Perm (e :: es) := by
  induction es with
  | nil => exact .refl _
  | cons x xs ih =>
    rw [place]
    split
    · exact .refl _
    · exact (ih.cons x).trans (.swap e x xs)

theorem sort_perm (privacy : Privacy) (es : List (AddressEntry F)) :
    (sort privacy es).Perm es := by
  induction es with
  | nil => exact .refl _
  | cons e es ih => exact (place_perm privacy e _).trans (ih.cons e)

/-- Sorting a sorted list changes nothing. -/
theorem sort_of_isSorted (privacy : Privacy) {es : List (AddressEntry F)}
    (h : isSorted privacy es) : sort privacy es = es := by
  induction es with
  | nil => rfl
  | cons a es ih =>
    cases es with
    | nil => rfl
    | cons b es =>
      rw [isSorted, Bool.and_eq_true] at h
      change place privacy a (sort privacy (b :: es)) = _
      rw [ih h.2, place, if_pos h.1]

theorem arrange_fst (privacy : Privacy) (es : List (AddressEntry F)) :
    (arrange privacy es).1 = sort privacy es := by
  rw [arrange]
  split
  · next h => exact (sort_of_isSorted privacy h).symm
  · rfl

end AddressEntry

end LinkConfig
