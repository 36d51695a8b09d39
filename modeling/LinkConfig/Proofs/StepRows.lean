import LinkConfig.Proofs.ListSteps

/-! # Rows of steps of one list

A row of steps may change a list and change it back. It does not if each step leads on in one
direction, as inserting new elements and dropping elements do, nor if each step has a key of its
own. A row of steps none of which would change the list by itself does not change it either. Such is
a row of insertions that is repeated, where each insertion finds the element that it left.
-/
namespace LinkConfig
open Keyed

variable {F : Family} {α β κ : Type}

namespace Keyed

section Rows
variable {step : List α → β → List α} {l : List α} {xs : List β}

theorem foldl_eq_self (h : ∀ x ∈ xs, step l x = l) : xs.foldl step l = l := by
  induction xs with
  | nil => rfl
  | cons x xs ih =>
    rw [List.forall_mem_cons] at h
    rw [List.foldl_cons, h.1, ih h.2]

variable [DecidableEq α]

/-- No step of a row changes the list if none would by itself. -/
theorem changesIn_eq_false_iff : changesIn step l xs = false ↔ ∀ x ∈ xs, step l x = l := by
  induction xs with
  | nil => simp [changesIn]
  | cons x xs ih =>
    simp only [changesIn, Bool.or_eq_false_iff, bne_eq_false_iff_eq, List.forall_mem_cons]
    refine and_congr_right fun hx => ?_
    rw [hx, ih]

theorem changesIn_of_ne_foldl (h : l ≠ xs.foldl step l) : changesIn step l xs := by
  rw [← Bool.not_eq_false, changesIn_eq_false_iff]
  intro hall
  exact h (foldl_eq_self hall).symm

/-- What grows with every step that changes the list grows in the row if one of them does. -/
theorem measure_foldl {f : List α → Int} (h : ∀ l x, step l x ≠ l → f l < f (step l x)) (l : List α)
    (xs : List β) :
    f l ≤ f (xs.foldl step l) ∧ (changesIn step l xs → f l < f (xs.foldl step l)) := by
  induction xs generalizing l with
  | nil => simp [changesIn]
  | cons x xs ih =>
    obtain ⟨hle, hlt⟩ := ih (step l x)
    rw [List.foldl_cons]
    by_cases hx : step l x = l
    · rw [hx] at hle hlt ⊢
      simpa [changesIn, hx] using And.intro hle hlt
    · have hstep := h l x hx
      constructor
      · omega
      · intro _
        omega

theorem changesIn_iff_of_length_lt (h : ∀ l x, step l x ≠ l → l.length < (step l x).length) :
    changesIn step l xs ↔ l ≠ xs.foldl step l := by
  refine ⟨fun hc => ?_, changesIn_of_ne_foldl⟩
  have hgrows := (measure_foldl (f := fun l => (l.length : Int))
    (fun l x hx => Int.ofNat_lt.mpr (h l x hx)) l xs).2 hc
  intro he
  rw [← he] at hgrows
  omega

theorem changesIn_iff_of_lt_length (h : ∀ l x, step l x ≠ l → (step l x).length < l.length) :
    changesIn step l xs ↔ l ≠ xs.foldl step l := by
  refine ⟨fun hc => ?_, changesIn_of_ne_foldl⟩
  have hshrinks := (measure_foldl (f := fun l => -(l.length : Int))
    (fun l x hx => by have hlt := h l x hx; omega) l xs).2 hc
  intro he
  rw [← he] at hshrinks
  omega

end Rows

theorem length_drop_lt [BEq κ] {key : α → κ} {l : List α} {x : α} (h : drop key l x ≠ l) :
    (drop key l x).length < l.length :=
  Nat.lt_of_le_of_ne drop_sublist.length_le fun he => h (drop_sublist.eq_of_length he)

theorem length_lt_insertNew [DecidableEq α] {l : List α} {x : α} (h : insertNew l x ≠ l) :
    l.length < (insertNew l x).length := by
  rw [insertNew_eq_ite] at h ⊢
  split at h
  · contradiction
  · next hx => simp [hx]

section Keys
variable [BEq κ] {key : α → κ} {update : α → α → α} {step : List α → α → List α}
  {l xs : List α} {x : α}

/-- A step by an element shows in what there is of its key, wherever that stands, and nowhere
else. -/
structure ShowsInKey (key : α → κ) (step : List α → α → List α) : Prop where
  filter_of_ne : ∀ {l x k}, key x ≠ k →
    ((step l x).filter (key · == k)).Perm (l.filter (key · == k))
  eq_of_filter : ∀ {l x}, ((step l x).filter (key · == key x)).Perm (l.filter (key · == key x)) →
    step l x = l

theorem ShowsInKey.filter_foldl (h : ShowsInKey key step) {k : κ} (hk : k ∉ xs.map key) :
    ((xs.foldl step l).filter (key · == k)).Perm (l.filter (key · == k)) := by
  induction xs generalizing l with
  | nil => exact .refl _
  | cons x xs ih =>
    rw [List.map_cons, List.mem_cons, not_or] at hk
    exact (ih hk.2).trans (h.filter_of_ne fun he => hk.1 he.symm)

/-- The first step that changes the list is not undone by the later ones. -/
theorem ShowsInKey.changesIn_iff [DecidableEq α] (h : ShowsInKey key step)
    (hn : (xs.map key).Nodup) : changesIn step l xs ↔ l ≠ xs.foldl step l := by
  refine ⟨fun hc => ?_, changesIn_of_ne_foldl⟩
  induction xs with
  | nil => contradiction
  | cons x xs ih =>
    rw [List.map_cons, List.nodup_cons] at hn
    by_cases hx : step l x = l
    · rw [List.foldl_cons, hx]
      refine ih hn.2 ?_
      simpa [changesIn, hx] using hc
    · intro he
      have hlater := h.filter_foldl (l := step l x) hn.1
      rw [← List.foldl_cons, ← he] at hlater
      exact hx (h.eq_of_filter hlater.symm)

variable [LawfulBEq κ]

theorem upsert_eq_of_filter (hk : KeepsKey key update)
    (h : ((upsert key update l x).filter (key · == key x)).Perm (l.filter (key · == key x))) :
    upsert key update l x = l := by
  induction l with
  | nil => simp [upsert] at h
  | cons y l ih =>
    rw [upsert] at h ⊢
    by_cases hy : key y = key x
    · have hupdated : key (update y x) = key x := hk hy
      simp only [hy, hupdated, BEq.rfl, if_true, List.filter_cons_of_pos] at h ⊢
      have hone : [update y x].Perm [y] := (List.perm_append_right_iff _).mp h
      rw [List.singleton_perm_singleton.mp hone]
    · simp only [beq_iff_eq, hy, if_false, not_false_eq_true, List.filter_cons_of_neg] at h ⊢
      rw [ih h]

theorem upsert_showsInKey (hk : KeepsKey key update) : ShowsInKey key (upsert key update) where
  filter_of_ne h := .of_eq (filter_upsert_of_ne hk h)
  eq_of_filter := upsert_eq_of_filter hk

theorem find?_upsert_of_ne (hk : KeepsKey key update) {k : κ} (h : key x ≠ k) :
    (upsert key update l x).find? (key · == k) = l.find? (key · == k) := by
  rw [← List.head?_filter, ← List.head?_filter, filter_upsert_of_ne hk h]

theorem find?_upsert_self (hk : KeepsKey key update) :
    (upsert key update l x).find? (key · == key x) =
      some ((l.find? (key · == key x)).elim x (update · x)) := by
  induction l with
  | nil => simp [upsert]
  | cons y l ih =>
    rw [upsert]
    by_cases hy : key y = key x
    · simp [hy, hk hy]
    · simp [hy, ih]

theorem find?_foldl_upsert_of_notMem (hk : KeepsKey key update) {k : κ} (h : k ∉ xs.map key) :
    (xs.foldl (upsert key update) l).find? (key · == k) = l.find? (key · == k) := by
  induction xs generalizing l with
  | nil => rfl
  | cons y xs ih =>
    rw [List.map_cons, List.mem_cons, not_or] at h
    rw [List.foldl_cons, ih h.2, find?_upsert_of_ne hk fun he => h.1 he.symm]

/-- Of many insertions with different keys each leaves what it would leave by itself. -/
theorem find?_foldl_upsert (hk : KeepsKey key update) (hn : (xs.map key).Nodup) (hx : x ∈ xs) :
    (xs.foldl (upsert key update) l).find? (key · == key x) =
      some ((l.find? (key · == key x)).elim x (update · x)) := by
  induction xs generalizing l with
  | nil => contradiction
  | cons y xs ih =>
    rw [List.map_cons, List.nodup_cons] at hn
    rw [List.foldl_cons]
    rcases List.mem_cons.mp hx with rfl | hx
    · rw [find?_foldl_upsert_of_notMem hk hn.1, find?_upsert_self hk]
    · have hne : key y ≠ key x := fun he => hn.1 (he ▸ List.mem_map_of_mem hx)
      rw [ih hn.2 hx, find?_upsert_of_ne hk hne]

/-- Insertions that have nothing to add to what they left have nothing to do when they are
repeated. -/
theorem upsert_foldl_upsert [DecidableEq α] (hk : KeepsKey key update)
    (hself : ∀ x, update x x = x) (hagain : ∀ old x, update (update old x) x = update old x)
    (hn : (xs.map key).Nodup) :
    ∀ x ∈ xs, upsert key update (xs.foldl (upsert key update) l) x =
      xs.foldl (upsert key update) l := by
  intro x hx
  rw [upsert_eq_self_iff (find?_foldl_upsert hk hn hx)]
  cases l.find? (key · == key x) with
  | none => exact hself x
  | some old => exact hagain old x

end Keys

end Keyed

theorem AddressEntry.report_showsInKey (privacy : Privacy) :
    ShowsInKey (address (F := F)) (report privacy) where
  filter_of_ne h :=
    ((report_perm privacy _ _).filter _).trans (.of_eq (filter_upsert_of_ne keepsKey_updated h))
  eq_of_filter h := by
    have hupsert := ((report_perm privacy _ _).filter _).symm.trans h
    exact report_eq_self_iff.mpr (upsert_eq_of_filter keepsKey_updated hupsert)

theorem length_lt_insertName {l : List String} {x : String} (h : insertName l x ≠ l) :
    l.length < (insertName l x).length := by
  unfold insertName at h ⊢
  split at h
  · contradiction
  · next hx =>
    rw [if_neg hx]
    exact length_lt_insertNew h

end LinkConfig
