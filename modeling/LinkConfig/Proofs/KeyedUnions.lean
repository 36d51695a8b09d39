import LinkConfig.Proofs.StepRows

/-! # Lists told by their keys

A list that repeats no key is told by its keys, in their order, and by its elements. Inserting many
elements continues the keys by those that are new. Where the inserted keys do not repeat either, the
elements are those of which only one list has the key, and what the update makes of the two that
share one. Where the update keeps nothing of the old element, the last insertion of a key counts.
-/
namespace LinkConfig.Keyed

variable {α κ : Type} [BEq κ] [LawfulBEq κ] {key : α → κ} {update : α → α → α} {l xs m : List α}

/-- Where keys do not repeat, what is found of a key is the element that has it. -/
theorem find?_eq_some_iff (h : (l.map key).Nodup) {k : κ} {x : α} :
    l.find? (key · == k) = some x ↔ x ∈ l ∧ key x = k := by
  constructor
  · intro hx
    exact ⟨List.mem_of_find?_eq_some hx, by simpa using List.find?_some hx⟩
  · rintro ⟨hx, rfl⟩
    exact find?_of_mem h hx

theorem find?_eq_none_iff {k : κ} : l.find? (key · == k) = none ↔ k ∉ l.map key := by
  simp

omit [BEq κ] [LawfulBEq κ] in
/-- The keys in their order and the elements determine a list. -/
theorem eq_of_map_key (h : (l.map key).Nodup) (hkeys : l.map key = m.map key)
    (hmem : ∀ x, x ∈ l ↔ x ∈ m) : l = m := by
  have hlength : l.length = m.length := by simpa using congrArg List.length hkeys
  refine List.ext_getElem hlength fun i hl hm => ?_
  have hkey : key l[i] = key m[i] := by
    have hget := List.getElem_of_eq hkeys (i := i) (by simpa using hl)
    simpa using hget
  have hl' : l[i] ∈ m := (hmem _).mp (List.getElem_mem hl)
  exact List.inj_on_of_nodup_map (hkeys ▸ h) hl' (List.getElem_mem hm) hkey

/-- The keys in their order and what is found of each determine a list. -/
theorem eq_of_find? (h : (l.map key).Nodup) (hkeys : l.map key = m.map key)
    (hfind : ∀ k, l.find? (key · == k) = m.find? (key · == k)) : l = m := by
  refine eq_of_map_key h hkeys fun x => ?_
  have hmem : x ∈ l ∧ key x = key x ↔ x ∈ m ∧ key x = key x := by
    rw [← find?_eq_some_iff h, ← find?_eq_some_iff (hkeys ▸ h), hfind]
  simpa using hmem

/-- The list continued by the first occurrences of what is new in `js`. -/
def extend (ks js : List κ) : List κ := ks ++ (js.filter (· ∉ ks)).eraseDups

theorem mem_extend {ks js : List κ} {k : κ} : k ∈ extend ks js ↔ k ∈ ks ∨ k ∈ js := by
  rw [extend, List.mem_append, List.mem_eraseDups, List.mem_filter, decide_eq_true_eq]
  tauto

/-- What the list was continued by is not new any more. -/
theorem extend_extend (ks js : List κ) : extend (extend ks js) js = extend ks js := by
  have hold : js.filter (· ∉ extend ks js) = [] := by
    refine List.filter_eq_nil_iff.mpr fun k hk => ?_
    have hmem : k ∈ extend ks js := mem_extend.mpr (.inr hk)
    simpa only [decide_eq_true_eq, not_not] using hmem
  rw [extend, hold, List.eraseDups_nil, List.append_nil]

/-- Inserting elements continues the keys. -/
theorem map_key_foldl_upsert (hk : KeepsKey key update) (l xs : List α) :
    (xs.foldl (upsert key update) l).map key = extend (l.map key) (xs.map key) := by
  unfold extend
  induction xs generalizing l with
  | nil => simp
  | cons x xs ih =>
    rw [List.foldl_cons, ih, map_key_upsert hk, List.map_cons]
    by_cases hx : key x ∈ l.map key
    · rw [if_pos hx, List.filter_cons_of_neg (by simpa using hx)]
    · have hrest : (xs.map key).filter (· ∉ l.map key ++ [key x]) =
          ((xs.map key).filter (· ∉ l.map key)).filter fun k => !k == key x := by
        rw [List.filter_filter]
        refine List.filter_congr fun k _ => ?_
        rw [Bool.eq_iff_iff]
        simp [and_comm]
      rw [if_neg hx, hrest, List.filter_cons_of_pos (by simpa using hx), List.eraseDups_cons,
        List.append_assoc]
      rfl

theorem eraseDups_of_nodup {ks : List κ} (h : ks.Nodup) : ks.eraseDups = ks := by
  induction ks with
  | nil => rfl
  | cons k ks ih =>
    rw [List.nodup_cons] at h
    have hrest : ks.filter (fun j => !j == k) = ks := by
      rw [List.filter_eq_self]
      intro j hj
      have hne : j ≠ k := fun he => h.1 (he ▸ hj)
      simpa using hne
    rw [List.eraseDups_cons, hrest, ih h.2]

/-- Without repetitions, what is new of a list is all that was not there before. -/
theorem extend_of_nodup {js : List κ} (h : js.Nodup) (ks : List κ) :
    extend ks js = ks ++ js.filter (· ∉ ks) := by
  rw [extend, eraseDups_of_nodup (h.filter _)]

theorem foldl_insertNew_eq_extend [DecidableEq α] (l xs : List α) :
    xs.foldl insertNew l = extend l xs :=
  foldl_insertNew_eq_eraseDups

/-- The elements of `m` are those of which only one of the lists `l` and `xs` has the key, and for
each shared key one in which the two elements are combined. -/
def Unites (key : α → κ) (Combined : α → α → α → Prop) (l xs m : List α) : Prop :=
  ∀ z, z ∈ m ↔ z ∈ l ∧ key z ∉ xs.map key ∨ z ∈ xs ∧ key z ∉ l.map key ∨
    ∃ x ∈ l, ∃ y ∈ xs, key x = key y ∧ Combined x y z

/-- What there is of a key that was there as `x` and came as `y`. -/
def joint (update : α → α → α) (x y : Option α) : Option α :=
  y.elim x fun y => some (x.elim y (update · y))

theorem find?_foldl_upsert_eq_joint (hk : KeepsKey key update) (hxs : (xs.map key).Nodup) (k : κ) :
    (xs.foldl (upsert key update) l).find? (key · == k) =
      joint update (l.find? (key · == k)) (xs.find? (key · == k)) := by
  cases hy : xs.find? (key · == k) with
  | none => exact find?_foldl_upsert_of_notMem hk (find?_eq_none_iff.mp hy)
  | some y =>
    obtain ⟨hmem, rfl⟩ := (find?_eq_some_iff hxs).mp hy
    exact find?_foldl_upsert hk hxs hmem

theorem unites_of_find? {Combined : α → α → α → Prop} (hk : KeepsKey key update)
    (hcombined : ∀ x y z, Combined x y z ↔ z = update x y)
    (hl : (l.map key).Nodup) (hxs : (xs.map key).Nodup) (hm : (m.map key).Nodup)
    (hfind : ∀ k, m.find? (key · == k) =
      joint update (l.find? (key · == k)) (xs.find? (key · == k))) :
    Unites key Combined l xs m := by
  intro z
  have hmem {l : List α} (h : (l.map key).Nodup) :
      z ∈ l ↔ l.find? (key · == key z) = some z := by simp [find?_eq_some_iff h]
  have hshared : (∃ x ∈ l, ∃ y ∈ xs, key x = key y ∧ Combined x y z) ↔
      ∃ x y, l.find? (key · == key z) = some x ∧ xs.find? (key · == key z) = some y ∧
        z = update x y := by
    simp only [find?_eq_some_iff hl, find?_eq_some_iff hxs, hcombined]
    constructor
    · rintro ⟨x, hx, y, hy, hxy, rfl⟩
      have hkey : key (update x y) = key y := hk hxy
      exact ⟨x, y, ⟨hx, hxy.trans hkey.symm⟩, ⟨hy, hkey.symm⟩, rfl⟩
    · rintro ⟨x, y, ⟨hx, hxz⟩, ⟨hy, hyz⟩, hz⟩
      exact ⟨x, hx, y, hy, hxz.trans hyz.symm, hz⟩
  -- Everything is said by what the two lists have of the key of `z`.
  rw [hmem hm, hmem hl, hmem hxs, hshared, ← find?_eq_none_iff, ← find?_eq_none_iff, hfind]
  cases l.find? (key · == key z) <;> cases xs.find? (key · == key z) <;> simp [joint, eq_comm]

end LinkConfig.Keyed
