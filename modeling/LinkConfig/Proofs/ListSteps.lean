import LinkConfig.Config.Edit
import LinkConfig.Proofs.KeyedLists
import LinkConfig.Proofs.SortedEntries

/-! # Steps of single lists

A report of an address is an insertion by key after which the list is sorted again, unless it has no
news. Names are inserted unless they are empty. Here is what one such step keeps, and what many of
them come to.
-/
namespace LinkConfig
open Keyed

variable {F : Family}

namespace AddressEntry
variable {privacy : Privacy} {es xs ys : List (AddressEntry F)} {e : AddressEntry F}

theorem keepsKey_updated : KeepsKey (address (F := F)) updated := fun _ _ _ => rfl

/-- An address list after a report: it is sorted again if the report says anything new. -/
def report (privacy : Privacy) (es : List (AddressEntry F)) (e : AddressEntry F) :
    List (AddressEntry F) :=
  if upsert address updated es e = es then es else sort privacy (upsert address updated es e)

/-- A report is an insertion, wherever sorting moves the entries. -/
theorem report_perm (privacy : Privacy) (es : List (AddressEntry F)) (e : AddressEntry F) :
    (report privacy es e).Perm (upsert address updated es e) := by
  unfold report
  split
  · next h => exact .of_eq h.symm
  · exact sort_perm privacy _

theorem report_eq_self_iff : report privacy es e = es ↔ upsert address updated es e = es := by
  constructor
  · intro h
    have hperm := (report_perm privacy es e).symm
    rw [h] at hperm
    exact of_not_not fun hne => not_perm_of_upsert_ne hne hperm
  · intro h
    rw [report, if_pos h]

theorem nodup_report (h : (es.map address).Nodup) (e : AddressEntry F) :
    ((report privacy es e).map address).Nodup :=
  ((report_perm privacy es e).map address).nodup_iff.mpr (nodup_upsert keepsKey_updated h)

/-- Whatever a report changes in an entry, the list is in order again. -/
theorem ascending_report (hs : Ascending privacy es) (h : (es.map address).Nodup)
    (e : AddressEntry F) : Ascending privacy (report privacy es e) := by
  unfold report
  split
  · exact hs
  · exact ascending_sort (List.Nodup.of_map _ (nodup_upsert keepsKey_updated h))

theorem nodup_sort_append (privacy : Privacy) (h : ((es ++ xs).map address).Nodup) :
    ((sort privacy es ++ xs).map address).Nodup :=
  (((sort_perm privacy es).append_right xs).map address).nodup_iff.mpr h

/-- Reports of new addresses are sorted in, whatever the order in which they come. -/
theorem foldl_report_sort (h : ((es ++ xs).map address).Nodup) :
    xs.foldl (report privacy) (sort privacy es) = sort privacy (es ++ xs) := by
  induction xs generalizing es with
  | nil => rw [List.foldl_nil, List.append_nil]
  | cons x xs ih =>
    have hfind := find?_eq_none_of_nodup (nodup_sort_append privacy h) List.mem_cons_self
    have hreport : report privacy (sort privacy es) x = sort privacy (es ++ [x]) := by
      rw [report, if_neg (upsert_ne_of_find?_eq_none hfind), upsert_of_find?_eq_none hfind,
        sort_append_sort]
    have hassoc : es ++ x :: xs = es ++ [x] ++ xs := by simp
    rw [hassoc] at h
    rw [List.foldl_cons, hreport, ih h, hassoc]

/-- Dropping a segment before sorting or after it is the same. -/
theorem foldl_drop_sort (h : ((es ++ xs ++ ys).map address).Nodup) :
    xs.foldl (drop address) (sort privacy (es ++ xs ++ ys)) = sort privacy (es ++ ys) := by
  have hsorted := ((sort_perm privacy (es ++ xs ++ ys)).map address).nodup_iff.mpr h
  rw [foldl_drop hsorted, filter_sort, filter_notMem_append h]

theorem changesIn_report (h : ((es ++ xs).map address).Nodup) :
    changesIn (report privacy) es xs = !xs.isEmpty := by
  refine changesIn_of_forall_ne fun x hx => ?_
  rw [ne_eq, report_eq_self_iff]
  exact upsert_ne_of_find?_eq_none (find?_eq_none_of_nodup h hx)

end AddressEntry

/-- The list with the name `x`, unless it is there or empty. -/
def insertName (l : List String) (x : String) : List String :=
  if x.isEmpty then l else insertNew l x

theorem insertName_eq_insertNew {l : List String} {x : String} (hx : x ≠ "") :
    insertName l x = insertNew l x := by
  have hname : ¬ x.isEmpty := by rwa [String.isEmpty_iff]
  rw [insertName, if_neg hname]

theorem insertName_of_mem {l : List String} {x : String} (h : x ∈ l) : insertName l x = l := by
  unfold insertName
  split
  · rfl
  · exact insertNew_of_mem h

theorem nodup_insertName {l : List String} (h : l.Nodup) (x : String) : (insertName l x).Nodup := by
  unfold insertName
  split
  · exact h
  · exact nodup_insertNew h x

theorem empty_notMem_insertName {l : List String} (h : "" ∉ l) (x : String) :
    "" ∉ insertName l x := by
  unfold insertName
  split
  · exact h
  · next hx =>
    have hne : "" ≠ x := by
      rintro rfl
      exact hx rfl
    rw [insertNew_eq_ite]
    split <;> simp [h, hne]

theorem foldl_insertName_eq_foldl_insertNew {xs : List String} (hne : "" ∉ xs) (l : List String) :
    xs.foldl insertName l = xs.foldl insertNew l := by
  refine List.foldl_ext insertName insertNew l ?_
  intro l x hx
  exact insertName_eq_insertNew fun he => hne (he ▸ hx)

theorem foldl_insertName_of_nodup {l xs : List String} (h : (l ++ xs).Nodup) (hne : "" ∉ xs) :
    xs.foldl insertName l = l ++ xs := by
  rw [foldl_insertName_eq_foldl_insertNew hne, foldl_insertNew_of_nodup h]

theorem changesIn_insertName {l xs : List String} (h : (l ++ xs).Nodup) (hne : "" ∉ xs) :
    changesIn insertName l xs = !xs.isEmpty := by
  refine changesIn_of_forall_ne fun x hx => ?_
  rw [insertName_eq_insertNew fun he => hne (he ▸ hx)]
  exact upsert_ne_of_find?_eq_none (find?_eq_none_of_nodup (by rwa [List.map_id]) hx)

end LinkConfig
