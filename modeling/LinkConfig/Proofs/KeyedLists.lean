import Mathlib.Data.List.Nodup

/-! # Lists with keys

The lists of a configuration hold at most one element of each key. An element is inserted by its
key: one that is there already is updated in place, and otherwise the new one is appended. An
element is dropped by its key as well. Here is what inserting and dropping many elements comes to.
-/
namespace LinkConfig.Keyed
variable {α β κ : Type} [BEq κ] {key : α → κ} {update : α → α → α} {l xs : List α} {x : α}

/-- The list with `x`, or with what the element of its key becomes by it. -/
def upsert (key : α → κ) (update : α → α → α) : List α → α → List α
  | [], x => [x]
  | y :: l, x => if key y == key x then update y x :: l else y :: upsert key update l x

/-- The list with `x`, unless it is there already. -/
abbrev insertNew [DecidableEq α] : List α → α → List α := upsert id fun old _ => old

/-- The list without the first element of the key of `x`. -/
def drop (key : α → κ) (l : List α) (x : α) : List α := l.eraseP (key · == key x)

/-- Elements of one key are updated to one of the same key. -/
def KeepsKey (key : α → κ) (update : α → α → α) : Prop :=
  ∀ ⦃old new⦄, key old = key new → key (update old new) = key new

theorem upsert_of_find?_eq_none (h : l.find? (key · == key x) = none) :
    upsert key update l x = l ++ [x] := by
  induction l with
  | nil => rfl
  | cons y l ih =>
    rw [List.find?_cons] at h
    split at h
    · contradiction
    · next hy =>
      rw [upsert, hy, if_neg Bool.false_ne_true, ih h]
      rfl

theorem upsert_of_find?_eq_some [DecidableEq α] {old : α}
    (h : l.find? (key · == key x) = some old) :
    upsert key update l x = l.replace old (update old x) := by
  induction l with
  | nil => simp at h
  | cons y l ih =>
    rw [List.find?_cons] at h
    split at h
    · next hy =>
      cases h
      rw [upsert, if_pos hy, List.replace_cons_self]
    · next hy =>
      have hyo : (old == y) = false := by
        rw [beq_eq_false_iff_ne]
        rintro rfl
        have hold : (key old == key x) = true := by simpa using List.find?_some h
        rw [hold] at hy
        contradiction
      rw [upsert, hy, if_neg Bool.false_ne_true, ih h, List.replace_cons, hyo]

theorem upsert_ne_of_find?_eq_none (h : l.find? (key · == key x) = none) :
    upsert key update l x ≠ l := by
  rw [upsert_of_find?_eq_none h]
  intro he
  simpa using congrArg List.length he

/-- The list stays as it is exactly if the update does nothing to the element there is. -/
theorem upsert_eq_self_iff {old : α} (h : l.find? (key · == key x) = some old) :
    upsert key update l x = l ↔ update old x = old := by
  induction l with
  | nil => simp at h
  | cons y l ih =>
    rw [List.find?_cons] at h
    split at h
    · next hy =>
      cases h
      rw [upsert, if_pos hy, List.cons_eq_cons]
      exact and_iff_left rfl
    · next hy =>
      rw [upsert, hy, if_neg Bool.false_ne_true, List.cons_eq_cons, ih h]
      exact and_iff_right rfl

/-- Inserting shows in the contents, wherever they are moved. -/
theorem not_perm_of_upsert_ne (h : upsert key update l x ≠ l) :
    ¬ (upsert key update l x).Perm l := by
  induction l with
  | nil => simp [upsert]
  | cons y l ih =>
    rw [upsert] at h ⊢
    split
    · next hy =>
      rw [if_pos hy] at h
      intro hperm
      have hone : [update y x].Perm [y] := (List.perm_append_right_iff l).mp hperm
      exact h (by rw [List.singleton_perm_singleton.mp hone])
    · next hy =>
      rw [if_neg hy] at h
      rw [List.perm_cons]
      exact ih fun he => h (by rw [he])

theorem drop_sublist : (drop key l x).Sublist l := List.eraseP_sublist

theorem foldl_drop_sublist (key : α → κ) (l xs : List α) : (xs.foldl (drop key) l).Sublist l := by
  induction xs generalizing l with
  | nil => exact List.Sublist.refl l
  | cons x xs ih => exact (ih (drop key l x)).trans drop_sublist

variable [LawfulBEq κ]

theorem map_key_upsert (hk : KeepsKey key update) :
    (upsert key update l x).map key =
      if key x ∈ l.map key then l.map key else l.map key ++ [key x] := by
  induction l with
  | nil => simp [upsert]
  | cons y l ih =>
    rw [upsert]
    split
    · next hy => simp [hk (eq_of_beq hy), eq_of_beq hy]
    · next hy =>
      have hy' : ¬ key x = key y := fun h => hy (beq_iff_eq.mpr h.symm)
      rw [List.map_cons, ih]
      by_cases hx : key x ∈ l.map key <;> simp [hx, hy']

theorem nodup_upsert (hk : KeepsKey key update) (h : (l.map key).Nodup) :
    ((upsert key update l x).map key).Nodup := by
  rw [map_key_upsert hk]
  split
  · exact h
  · next hx => simpa [List.nodup_append, h] using hx

/-- Elements of other keys are not touched. -/
theorem filter_upsert_of_ne (hk : KeepsKey key update) {k : κ} (h : key x ≠ k) :
    (upsert key update l x).filter (key · == k) = l.filter (key · == k) := by
  induction l with
  | nil => simp [upsert, h]
  | cons y l ih =>
    rw [upsert]
    split
    · next hy => simp [hk (eq_of_beq hy), h, eq_of_beq hy]
    · next hy => rw [List.filter_cons, List.filter_cons, ih]

theorem filter_drop_of_ne {k : κ} (h : key x ≠ k) :
    (drop key l x).filter (key · == k) = l.filter (key · == k) := by
  induction l with
  | nil => rfl
  | cons y l ih =>
    by_cases hy : key y = key x
    · rw [drop, List.eraseP_cons_of_pos (by simpa using hy), List.filter_cons_of_neg]
      simpa [hy] using h
    · rw [drop, List.eraseP_cons_of_neg (by simpa using hy), List.filter_cons, List.filter_cons]
      rw [drop] at ih
      rw [ih]

/-- Of the elements of its key there is one afterwards, if there was at most one. -/
theorem filter_upsert_self (hk : KeepsKey key update) {o : Option α}
    (h : l.filter (key · == key x) = o.toList) :
    (upsert key update l x).filter (key · == key x) = [o.elim x (update · x)] := by
  induction l with
  | nil =>
    cases o with
    | none => simp [upsert]
    | some old => simp at h
  | cons y l ih =>
    rw [upsert]
    split
    · next hy =>
      rw [List.filter_cons_of_pos (by simpa using hy)] at h
      cases o with
      | none => simp at h
      | some old =>
        obtain ⟨rfl, hl⟩ := List.cons_eq_cons.mp h
        rw [List.filter_cons_of_pos (by simp [hk (eq_of_beq hy)]), hl]
        rfl
    · next hy =>
      rw [List.filter_cons_of_neg (by simpa using hy)] at h ⊢
      exact ih h

/-- Where keys do not repeat, the first element of a key is the only one. -/
theorem filter_eq_toList_find? (h : (l.map key).Nodup) (k : κ) :
    l.filter (key · == k) = (l.find? (key · == k)).toList := by
  induction l with
  | nil => rfl
  | cons y l ih =>
    rw [List.map_cons, List.nodup_cons] at h
    by_cases hy : key y = k
    · have hrest : l.filter (key · == k) = [] := by
        rw [List.filter_eq_nil_iff]
        intro z hz
        have hne : key z ≠ k := fun hzk => h.1 (List.mem_map.mpr ⟨z, hz, hzk.trans hy.symm⟩)
        simpa using hne
      rw [List.filter_cons_of_pos (by simpa using hy), List.find?_cons_of_pos (by simpa using hy),
        hrest]
      rfl
    · rw [List.filter_cons_of_neg (by simpa using hy), List.find?_cons_of_neg (by simpa using hy),
        ih h.2]

/-- Where keys do not repeat, an element is what is found of its key. -/
theorem find?_of_mem (h : (l.map key).Nodup) (hx : x ∈ l) :
    l.find? (key · == key x) = some x := by
  have hmem : x ∈ l.filter (key · == key x) := List.mem_filter.mpr ⟨hx, by simp⟩
  rw [filter_eq_toList_find? h] at hmem
  exact Option.mem_toList.mp hmem

/-- Where keys do not repeat, moving elements around does not show within one key. -/
theorem filter_eq_of_perm (h : (l.map key).Nodup) (hp : l.Perm xs) (k : κ) :
    l.filter (key · == k) = xs.filter (key · == k) := by
  have hnodup : (xs.map key).Nodup := (hp.map key).nodup_iff.mp h
  have hfilter := hp.filter (key · == k)
  rw [filter_eq_toList_find? h, filter_eq_toList_find? hnodup] at hfilter ⊢
  cases hl : l.find? (key · == k) with
  | none =>
    rw [hl] at hfilter
    exact (List.nil_perm.mp hfilter).symm
  | some x =>
    rw [hl] at hfilter
    exact List.singleton_perm.mp hfilter

theorem insertNew_eq_ite [DecidableEq α] : insertNew l x = if x ∈ l then l else l ++ [x] := by
  induction l with
  | nil => rfl
  | cons y l ih =>
    rw [insertNew, upsert, id_eq, id_eq]
    by_cases hy : y = x
    · simp [hy]
    · have hy' : ¬ x = y := fun h => hy h.symm
      rw [if_neg (by simpa using hy)]
      change y :: insertNew l x = _
      rw [ih]
      by_cases hx : x ∈ l <;> simp [hx, hy']

theorem drop_eq_self_iff : drop key l x = l ↔ key x ∉ l.map key := by
  rw [drop, List.eraseP_eq_self_iff]
  simp

theorem drop_ne_iff_any : drop key l x ≠ l ↔ l.any (key · == key x) := by
  rw [ne_eq, drop_eq_self_iff]
  simp

theorem erase_eq_drop [DecidableEq α] (l : List α) (x : α) : l.erase x = drop id l x :=
  List.erase_eq_eraseP' x l

/-- Where keys do not repeat, dropping by a key drops all there is of it. -/
theorem drop_eq_filter (h : (l.map key).Nodup) : drop key l x = l.filter (key · != key x) := by
  induction l with
  | nil => rfl
  | cons y l ih =>
    rw [List.map_cons, List.nodup_cons] at h
    by_cases hy : key y = key x
    · rw [drop, List.eraseP_cons_of_pos (by simpa using hy),
        List.filter_cons_of_neg (by simpa using hy)]
      symm
      rw [List.filter_eq_self]
      intro z hz
      have hne : key z ≠ key x := fun he => h.1 (hy ▸ he ▸ List.mem_map_of_mem hz)
      simpa using hne
    · rw [drop, List.eraseP_cons_of_neg (by simpa using hy),
        List.filter_cons_of_pos (by simpa using hy)]
      exact congrArg (y :: ·) (ih h.2)

/-- Of two elements the one whose key is there already may as well come second. -/
theorem upsert_comm_of_mem (hk : KeepsKey key update) {y : α} (hx : key x ∈ l.map key)
    (hne : key x ≠ key y) :
    upsert key update (upsert key update l x) y = upsert key update (upsert key update l y) x := by
  induction l with
  | nil => contradiction
  | cons z l ih =>
    by_cases hzx : key z = key x
    · have hzy : ¬ key z = key y := by rwa [hzx]
      have hupdated : ¬ key (update z x) = key y := by rwa [hk hzx]
      simp [upsert, hzx, hne, hupdated]
    · have hrest : key x ∈ l.map key := by
        rcases List.mem_cons.mp hx with he | hmem
        · exact absurd he.symm hzx
        · exact hmem
      by_cases hzy : key z = key y
      · have hupdated : ¬ key (update z y) = key x := by rw [hk hzy]; exact hne.symm
        simp [upsert, hzy, hne.symm, hupdated]
      · simp [upsert, hzx, hzy, ih hrest]

/-- An element that was updated before it is inserted might have been inserted before it was
updated. -/
theorem upsert_update (hk : KeepsKey key update)
    (hassoc : ∀ x y z, update (update x y) z = update x (update y z)) {y : α}
    (hyx : key y = key x) :
    upsert key update l (update y x) = upsert key update (upsert key update l y) x := by
  induction l with
  | nil => simp [upsert, hyx]
  | cons z l ih =>
    by_cases hz : key z = key x
    · simp [upsert, hyx, hz, hk hyx, hk (hz.trans hyx.symm), hassoc]
    · simp [upsert, hyx, hz, hk hyx, ih]

theorem find?_eq_none_of_nodup (h : ((l ++ xs).map key).Nodup) (hx : x ∈ xs) :
    l.find? (key · == key x) = none := by
  rw [List.map_append, List.nodup_append] at h
  rw [List.find?_eq_none]
  intro y hy
  have hne := h.2.2 (key y) (List.mem_map_of_mem hy) (key x) (List.mem_map_of_mem hx)
  simpa using hne

/-- Elements of new keys end up behind the old ones, in their order. -/
theorem foldl_upsert_of_nodup (h : ((l ++ xs).map key).Nodup) :
    xs.foldl (upsert key update) l = l ++ xs := by
  induction xs generalizing l with
  | nil => simp
  | cons x xs ih =>
    have hassoc : l ++ x :: xs = l ++ [x] ++ xs := by simp
    rw [List.foldl_cons, upsert_of_find?_eq_none (find?_eq_none_of_nodup h List.mem_cons_self)]
    rw [hassoc] at h ⊢
    exact ih h

theorem foldl_upsert_of_mem (hk : KeepsKey key update) (hx : key x ∈ l.map key)
    (hxs : key x ∉ xs.map key) :
    xs.foldl (upsert key update) (upsert key update l x) =
      upsert key update (xs.foldl (upsert key update) l) x := by
  induction xs generalizing l with
  | nil => rfl
  | cons y xs ih =>
    rw [List.map_cons, List.mem_cons, not_or] at hxs
    have hmem : key x ∈ (upsert key update l y).map key := by
      rw [map_key_upsert hk]
      split
      · exact hx
      · exact List.mem_append_left _ hx
    rw [List.foldl_cons, List.foldl_cons, upsert_comm_of_mem hk hx hxs.1, ih hmem hxs.2]

/-- Whether an element is inserted into a list before the list is inserted, or afterwards, is the
same. -/
theorem foldl_upsert_upsert (hk : KeepsKey key update)
    (hassoc : ∀ x y z, update (update x y) z = update x (update y z)) (h : (xs.map key).Nodup) :
    (upsert key update xs x).foldl (upsert key update) l =
      upsert key update (xs.foldl (upsert key update) l) x := by
  induction xs generalizing l with
  | nil => rfl
  | cons y xs ih =>
    rw [List.map_cons, List.nodup_cons] at h
    rw [upsert, List.foldl_cons]
    split
    · next hy =>
      have hyx : key y = key x := eq_of_beq hy
      have hmem : key x ∈ (upsert key update l y).map key := by
        rw [map_key_upsert hk, ← hyx]
        split
        · next hl => exact hl
        · simp
      rw [List.foldl_cons, upsert_update hk hassoc hyx,
        foldl_upsert_of_mem hk hmem (hyx ▸ h.1)]
    · rw [List.foldl_cons, ih h.2]

theorem foldl_upsert_assoc (hk : KeepsKey key update)
    (hassoc : ∀ x y z, update (update x y) z = update x (update y z))
    (h : (xs.map key).Nodup) (ys : List α) :
    (ys.foldl (upsert key update) xs).foldl (upsert key update) l =
      ys.foldl (upsert key update) (xs.foldl (upsert key update) l) := by
  induction ys generalizing xs with
  | nil => rfl
  | cons y ys ih =>
    rw [List.foldl_cons, List.foldl_cons, ih (nodup_upsert hk h), foldl_upsert_upsert hk hassoc h]

theorem foldl_drop (h : (l.map key).Nodup) (xs : List α) :
    xs.foldl (drop key) l = l.filter (key · ∉ xs.map key) := by
  induction xs generalizing l with
  | nil => simp
  | cons x xs ih =>
    rw [List.foldl_cons, drop_eq_filter h]
    rw [ih ((List.filter_sublist.map key).nodup h), List.filter_filter]
    refine List.filter_congr fun y _ => ?_
    rw [Bool.eq_iff_iff]
    simp [and_comm]

/-- Where keys do not repeat, leaving out the keys of a segment leaves out the segment. -/
theorem filter_notMem_append {r : List α} (h : ((l ++ xs ++ r).map key).Nodup) :
    (l ++ xs ++ r).filter (key · ∉ xs.map key) = l ++ r := by
  rw [List.map_append, List.map_append, List.nodup_append, List.nodup_append] at h
  obtain ⟨⟨-, -, hl⟩, -, hr⟩ := h
  have hkeep {y : α} (hy : key y ∉ xs.map key) : decide (key y ∉ xs.map key) := by simpa using hy
  have hleft : l.filter (key · ∉ xs.map key) = l := by
    refine List.filter_eq_self.mpr fun y hy => hkeep ?_
    intro hmem
    exact hl _ (List.mem_map_of_mem hy) _ hmem rfl
  have hmiddle : xs.filter (key · ∉ xs.map key) = [] := by
    refine List.filter_eq_nil_iff.mpr fun y hy => ?_
    simpa using ⟨y, hy, rfl⟩
  have hright : r.filter (key · ∉ xs.map key) = r := by
    refine List.filter_eq_self.mpr fun y hy => hkeep ?_
    intro hmem
    exact hr _ (List.mem_append_right _ hmem) _ (List.mem_map_of_mem hy) rfl
  rw [List.filter_append, List.filter_append, hleft, hmiddle, hright, List.append_nil]

theorem foldl_drop_append {r : List α} (h : ((l ++ xs ++ r).map key).Nodup) :
    xs.foldl (drop key) (l ++ xs ++ r) = l ++ r := by
  rw [foldl_drop h, filter_notMem_append h]

/-- Whether any of the steps changes the list. -/
def changesIn [DecidableEq α] (step : List α → β → List α) : List α → List β → Bool
  | _, [] => false
  | l, x :: xs => step l x != l || changesIn step (step l x) xs

/-- Where each element by itself would change the list, the first one does. -/
theorem changesIn_of_forall_ne [DecidableEq α] {step : List α → β → List α} {xs : List β}
    (h : ∀ x ∈ xs, step l x ≠ l) : changesIn step l xs = !xs.isEmpty := by
  cases xs with
  | nil => rfl
  | cons x xs =>
    rw [changesIn, bne_iff_ne.mpr (h x List.mem_cons_self), Bool.true_or]
    rfl

theorem changesIn_drop [DecidableEq α] (h : ∀ x ∈ xs, x ∈ l) :
    changesIn (drop key) l xs = !xs.isEmpty := by
  refine changesIn_of_forall_ne fun x hx => ?_
  rw [ne_eq, drop_eq_self_iff, not_not]
  exact List.mem_map_of_mem (h x hx)

theorem changesIn_upsert [DecidableEq α] (h : ((l ++ xs).map key).Nodup) :
    changesIn (upsert key update) l xs = !xs.isEmpty :=
  changesIn_of_forall_ne fun _ hx => upsert_ne_of_find?_eq_none (find?_eq_none_of_nodup h hx)

theorem keepsKey_insertNew : KeepsKey (id : α → α) fun old _ => old := fun _ _ h => h

theorem nodup_insertNew [DecidableEq α] (h : l.Nodup) (x : α) : (insertNew l x).Nodup := by
  have hid := nodup_upsert (x := x) keepsKey_insertNew (l.map_id.symm ▸ h)
  rwa [List.map_id] at hid

theorem nodup_foldl_insertNew [DecidableEq α] (h : l.Nodup) (xs : List α) :
    (xs.foldl insertNew l).Nodup := by
  induction xs generalizing l with
  | nil => exact h
  | cons x xs ih => exact ih (nodup_insertNew h x)

/-- What is new of a list are the first occurrences of what was not there before. -/
theorem foldl_insertNew_eq_eraseDups [DecidableEq α] :
    xs.foldl insertNew l = l ++ (xs.filter (· ∉ l)).eraseDups := by
  induction xs generalizing l with
  | nil => simp
  | cons x xs ih =>
    rw [List.foldl_cons, ih, insertNew_eq_ite]
    by_cases hx : x ∈ l
    · simp [hx]
    · have hrest : xs.filter (· ∉ l ++ [x]) = (xs.filter (· ∉ l)).filter fun y => !y == x := by
        rw [List.filter_filter]
        refine List.filter_congr fun y _ => ?_
        simp [Bool.and_comm, Bool.beq_eq_decide_eq]
      rw [if_neg hx, hrest, List.filter_cons_of_pos (by simpa using hx), List.eraseDups_cons,
        List.append_assoc]
      rfl

theorem foldl_insertNew_nil [DecidableEq α] : xs.foldl insertNew [] = xs.eraseDups := by
  simp [foldl_insertNew_eq_eraseDups]

theorem mem_foldl_insertNew [DecidableEq α] (h : x ∈ xs.foldl insertNew l) : x ∈ l ∨ x ∈ xs := by
  rw [foldl_insertNew_eq_eraseDups, List.mem_append, List.mem_eraseDups, List.mem_filter] at h
  exact h.imp_right And.left

theorem mem_foldl_insertNew_of_mem [DecidableEq α] (h : x ∈ xs) : x ∈ xs.foldl insertNew l := by
  rw [foldl_insertNew_eq_eraseDups, List.mem_append, List.mem_eraseDups, List.mem_filter]
  by_cases hx : x ∈ l
  · exact .inl hx
  · exact .inr ⟨h, by simpa using hx⟩

theorem insertNew_of_mem [DecidableEq α] (h : x ∈ l) : insertNew l x = l := by
  rw [insertNew_eq_ite, if_pos h]

theorem foldl_insertNew_of_nodup [DecidableEq α] (h : (l ++ xs).Nodup) :
    xs.foldl insertNew l = l ++ xs :=
  foldl_upsert_of_nodup (by rwa [List.map_id])

theorem foldl_insertNew_assoc [DecidableEq α] (h : xs.Nodup) (ys : List α) :
    (ys.foldl insertNew xs).foldl insertNew l = ys.foldl insertNew (xs.foldl insertNew l) :=
  foldl_upsert_assoc keepsKey_insertNew (fun _ _ _ => rfl) (by rwa [List.map_id]) ys

theorem foldl_drop_id_append [DecidableEq α] {r : List α} (h : (l ++ xs ++ r).Nodup) :
    xs.foldl (drop id) (l ++ xs ++ r) = l ++ r :=
  foldl_drop_append (by rwa [List.map_id])

theorem changesIn_insertNew [DecidableEq α] (h : (l ++ xs).Nodup) :
    changesIn insertNew l xs = !xs.isEmpty :=
  changesIn_upsert (by rwa [List.map_id])

end LinkConfig.Keyed
