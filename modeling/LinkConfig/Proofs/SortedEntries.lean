import LinkConfig.Proofs.EntryOrder

/-! # Sorted address lists

Sorting yields the one arrangement of its entries in which each may stand before all later ones.
It therefore does not depend on the arrangement it is given, and commutes with leaving entries
out.
-/
namespace LinkConfig.AddressEntry
variable {F : Family} {privacy : Privacy} {es fs : List (AddressEntry F)}

/-- Each entry comes before all later ones, and none of them equals it. -/
def Ascending (privacy : Privacy) (es : List (AddressEntry F)) : Prop :=
  es.Pairwise fun a b => compareIn privacy a b = .lt

instance (privacy : Privacy) (es : List (AddressEntry F)) : Decidable (Ascending privacy es) :=
  inferInstanceAs (Decidable (es.Pairwise _))

theorem ascending_iff :
    Ascending privacy es ↔ es.Pairwise (fun a b => precedes privacy a b) ∧ es.Nodup := by
  simp only [Ascending, compareIn_eq_lt_iff, List.pairwise_and_iff]
  rfl

theorem isSorted_iff : isSorted privacy es ↔ es.Pairwise fun a b => precedes privacy a b := by
  induction es with
  | nil => simp [isSorted]
  | cons a es ih =>
    cases es with
    | nil => simp [isSorted]
    | cons b es =>
      rw [isSorted, Bool.and_eq_true, ih]
      constructor
      · rintro ⟨hab, hb⟩
        refine List.pairwise_cons.mpr ⟨?_, hb⟩
        intro c hc
        rcases List.mem_cons.mp hc with rfl | hc
        · exact hab
        · exact precedes_trans hab (List.rel_of_pairwise_cons hb hc)
      · intro h
        obtain ⟨ha, hb⟩ := List.pairwise_cons.mp h
        exact ⟨ha b List.mem_cons_self, hb⟩

theorem pairwise_place {e : AddressEntry F} (h : es.Pairwise fun a b => precedes privacy a b) :
    (place privacy e es).Pairwise fun a b => precedes privacy a b := by
  induction es with
  | nil => exact List.pairwise_singleton _ _
  | cons x xs ih =>
    obtain ⟨hx, hxs⟩ := List.pairwise_cons.mp h
    rw [place]
    split
    · next hex =>
      refine List.pairwise_cons.mpr ⟨?_, h⟩
      intro y hy
      rcases List.mem_cons.mp hy with rfl | hy
      · exact hex
      · exact precedes_trans hex (hx y hy)
    · next hex =>
      refine List.pairwise_cons.mpr ⟨?_, ih hxs⟩
      intro y hy
      rcases List.mem_cons.mp ((place_perm privacy e xs).mem_iff.mp hy) with rfl | hy
      · exact precedes_of_not hex
      · exact hx y hy

theorem pairwise_sort (privacy : Privacy) (es : List (AddressEntry F)) :
    (sort privacy es).Pairwise fun a b => precedes privacy a b := by
  induction es with
  | nil => exact List.Pairwise.nil
  | cons e es ih => exact pairwise_place ih

/-- Sorting forgets the arrangement. -/
theorem sort_congr (h : es.Perm fs) : sort privacy es = sort privacy fs := by
  have hperm : (sort privacy es).Perm (sort privacy fs) :=
    (sort_perm privacy es).trans (h.trans (sort_perm privacy fs).symm)
  refine List.Perm.eq_of_pairwise ?_ (pairwise_sort privacy es) (pairwise_sort privacy fs) hperm
  intro a b _ _ hab hba
  exact precedes_antisymm hab hba

theorem ascending_sort (h : es.Nodup) : Ascending privacy (sort privacy es) :=
  ascending_iff.mpr ⟨pairwise_sort privacy es, (sort_perm privacy es).nodup_iff.mpr h⟩

theorem Ascending.sort_eq (h : Ascending privacy es) : sort privacy es = es :=
  sort_of_isSorted privacy (isSorted_iff.mpr (ascending_iff.mp h).1)

theorem Ascending.eq_of_perm (hes : Ascending privacy es) (hfs : Ascending privacy fs)
    (h : es.Perm fs) : es = fs := by
  rw [← hes.sort_eq, sort_congr h, hfs.sort_eq]

/-- Which entries there are determines an ascending list. -/
theorem Ascending.eq_of_mem_iff (hes : Ascending privacy es) (hfs : Ascending privacy fs)
    (h : ∀ e, e ∈ es ↔ e ∈ fs) : es = fs := by
  have hnodup := (ascending_iff.mp hes).2
  have hnodup' := (ascending_iff.mp hfs).2
  exact hes.eq_of_perm hfs ((List.perm_ext_iff_of_nodup hnodup hnodup').mpr h)

/-- Leaving entries out before or after sorting is the same. -/
theorem filter_sort (privacy : Privacy) (p : AddressEntry F → Bool) (es : List (AddressEntry F)) :
    (sort privacy es).filter p = sort privacy (es.filter p) := by
  have hsorted : isSorted privacy ((sort privacy es).filter p) :=
    isSorted_iff.mpr ((pairwise_sort privacy es).filter p)
  rw [← sort_of_isSorted privacy hsorted]
  exact sort_congr ((sort_perm privacy es).filter p)

/-- Sorting on the way to a sorted list changes nothing. -/
theorem sort_append_sort (privacy : Privacy) (es fs : List (AddressEntry F)) :
    sort privacy (sort privacy es ++ fs) = sort privacy (es ++ fs) :=
  sort_congr ((sort_perm privacy es).append_right fs)

theorem mem_sort {e : AddressEntry F} : e ∈ sort privacy es ↔ e ∈ es :=
  (sort_perm privacy es).mem_iff

end LinkConfig.AddressEntry
