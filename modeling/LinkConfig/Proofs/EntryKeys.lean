import LinkConfig.Proofs.AddressText
import LinkConfig.Proofs.SortedEntries

/-! # Entries compared by their keys

The comparison of entries is that of their keys, which are rows of numbers, part by part from the
left. An address counts with its bytes. Each key belongs to one entry only, so that every list of
entries, repeated or not, has exactly one arrangement in ascending order, which is the one that
arranging it leaves.
-/
namespace LinkConfig

variable {F : Family}

/-- Rows of the same length are compared before what follows them. -/
theorem compare_append {xs ys : List ℕ} (hlen : xs.length = ys.length) (as bs : List ℕ) :
    compare (xs ++ as) (ys ++ bs) = (compare xs ys).then (compare as bs) := by
  induction xs generalizing ys with
  | nil =>
    cases ys with
    | nil => simp
    | cons y ys => simp at hlen
  | cons x xs ih =>
    cases ys with
    | nil => simp at hlen
    | cons y ys =>
      simp only [List.length_cons, Nat.add_right_cancel_iff] at hlen
      simp only [List.cons_append, List.compare_cons_cons, ih hlen, Ordering.then_assoc]

/-- A digit more decides between numbers that were equal before it. -/
theorem compare_mul_add {base m n x y : ℕ} (hx : x < base) (hy : y < base) :
    compare (base * m + x) (base * n + y) = (compare m n).then (compare x y) := by
  rcases Nat.lt_trichotomy m n with hlt | rfl | hgt
  · have hstep : base * (m + 1) ≤ base * n := Nat.mul_le_mul_left base hlt
    have hless : base * m + x < base * n + y := by rw [Nat.mul_succ] at hstep; omega
    rw [Nat.compare_eq_lt.mpr hless, Nat.compare_eq_lt.mpr hlt]
    rfl
  · have hsame : compare m m = .eq := Nat.compare_eq_eq.mpr rfl
    rw [hsame, Nat.compare_eq_ite_lt, Nat.compare_eq_ite_lt]
    simp
  · have hstep : base * (n + 1) ≤ base * m := Nat.mul_le_mul_left base hgt
    have hgreater : base * n + y < base * m + x := by rw [Nat.mul_succ] at hstep; omega
    rw [Nat.compare_eq_gt.mpr hgreater, Nat.compare_eq_gt.mpr hgt]
    rfl

/-- Rows of digits of the same length compare as the numbers that they write, after what was
written before them. -/
theorem compare_foldl_digits {base m n : ℕ} {xs ys : List ℕ} (hlen : xs.length = ys.length)
    (hx : ∀ x ∈ xs, x < base) (hy : ∀ y ∈ ys, y < base) :
    compare (xs.foldl (fun k d => base * k + d) m) (ys.foldl (fun k d => base * k + d) n) =
      (compare m n).then (compare xs ys) := by
  induction xs generalizing m n ys with
  | nil =>
    cases ys with
    | nil => cases h : compare m n <;> simp [h]
    | cons y ys => simp at hlen
  | cons x xs ih =>
    cases ys with
    | nil => simp at hlen
    | cons y ys =>
      simp only [List.length_cons, Nat.add_right_cancel_iff] at hlen
      rw [List.forall_mem_cons] at hx hy
      rw [List.foldl_cons, List.foldl_cons, ih hlen hx.2 hy.2, compare_mul_add hx.1 hy.1,
        List.compare_cons_cons, Ordering.then_assoc]

namespace Address

/-- The bytes of the address, the most significant first. -/
def bytes (a : Address F) : List ℕ :=
  (List.range (F.width / 8)).map fun i => a.toNat >>> (8 * (F.width / 8 - 1 - i)) % 2 ^ 8

theorem length_bytes (a : Address F) : a.bytes.length = F.width / 8 := by simp [bytes]

theorem lt_of_mem_bytes {a : Address F} {b : ℕ} (h : b ∈ a.bytes) : b < 2 ^ 8 := by
  simp only [bytes, List.mem_map] at h
  obtain ⟨i, -, rfl⟩ := h
  exact Nat.mod_lt _ (by decide)

theorem foldl_bytes (a : Address F) : a.bytes.foldl (fun k d => 2 ^ 8 * k + d) 0 = a.toNat := by
  have hwidth : 8 * (F.width / 8) = F.width := by cases F <;> rfl
  rw [bytes, foldl_parts, hwidth]
  exact Nat.mod_eq_of_lt a.word.isLt

/-- Addresses compare byte by byte. -/
theorem compare_bytes (a b : Address F) : compare a.bytes b.bytes = compare a b := by
  have hdigits := compare_foldl_digits (m := 0) (n := 0)
    (a.length_bytes.trans b.length_bytes.symm) (fun _ => lt_of_mem_bytes) (fun _ => lt_of_mem_bytes)
  rw [foldl_bytes, foldl_bytes] at hdigits
  exact hdigits.symm

end Address

namespace AddressEntry

/-- What an entry is compared by, the part that counts most first. What is to come earlier has the
lower number. -/
def orderKey (privacy : Privacy) (e : AddressEntry F) : List ℕ :=
  [e.isTentative.toNat, e.address.classify.rank,
    if privacy = .preferTemporary then (!e.isTemporary).toNat else e.isTemporary.toNat,
    Source.user.rank - e.source.rank, (!e.isPermanent).toNat] ++ (e.address.bytes ++
  [e.prefixLen.toNat, e.lease.timestamp.toNat, e.lease.lifetime.toNat, e.lease.preferred.toNat,
    e.flags.toNat, e.source.rank])

variable {privacy : Privacy} {a b c : AddressEntry F} {es fs : List (AddressEntry F)}

theorem compare_toNat (p q : Bool) : compare p.toNat q.toNat = compare p q := by
  cases p <;> cases q <;> rfl

theorem compare_not (p q : Bool) : compare (!p) (!q) = compare q p := by
  cases p <;> cases q <;> rfl

theorem compare_user_sub (s t : Source) :
    compare (Source.user.rank - s.rank) (Source.user.rank - t.rank) = compare t s := by
  cases s <;> cases t <;> rfl

theorem comparePrivacy_eq_compare (privacy : Privacy) (a b : AddressEntry F) :
    comparePrivacy privacy a b =
      compare (if privacy = .preferTemporary then (!a.isTemporary).toNat else a.isTemporary.toNat)
        (if privacy = .preferTemporary then (!b.isTemporary).toNat else b.isTemporary.toNat) := by
  rw [comparePrivacy_eq]
  by_cases h : privacy = .preferTemporary
  · simp only [if_pos h, compare_toNat, compare_not, compareOn]
  · simp only [if_neg h, compare_toNat, compareOn]

theorem compareRest_eq_compare (a b : AddressEntry F) :
    compareRest a b = compare
      [a.prefixLen.toNat, a.lease.timestamp.toNat, a.lease.lifetime.toNat, a.lease.preferred.toNat,
        a.flags.toNat, a.source.rank]
      [b.prefixLen.toNat, b.lease.timestamp.toNat, b.lease.lifetime.toNat, b.lease.preferred.toNat,
        b.flags.toNat, b.source.rank] := by
  have hbyte (m n : UInt8) : compare m n = compare m.toNat n.toNat := by
    simp [compare, compareOfLessAndEq, UInt8.lt_iff_toNat_lt, UInt8.toNat_inj]
  have hword (m n : UInt32) : compare m n = compare m.toNat n.toNat := by
    simp [compare, compareOfLessAndEq, UInt32.lt_iff_toNat_lt, UInt32.toNat_inj]
  have hsource : compare a.source b.source = compare a.source.rank b.source.rank := rfl
  simp only [compareRest, List.compare_cons_cons, List.compare_nil_nil, hbyte, hword, hsource,
    Ordering.then_eq]

theorem compareIn_eq_compare_orderKey (privacy : Privacy) (a b : AddressEntry F) :
    compareIn privacy a b = compare (orderKey privacy a) (orderKey privacy b) := by
  have hlen : a.address.bytes.length = b.address.bytes.length :=
    a.address.length_bytes.trans b.address.length_bytes.symm
  have hclass : compare a.address.classify b.address.classify =
      compare a.address.classify.rank b.address.classify.rank := rfl
  rw [orderKey, orderKey, compareIn]
  simp only [List.cons_append, List.nil_append, List.compare_cons_cons, compare_append hlen,
    Address.compare_bytes, compare_toNat, compare_not, compare_user_sub, hclass,
    comparePrivacy_eq_compare, compareRest_eq_compare]

theorem arrange_snd_iff : (arrange privacy es).2 ↔ (arrange privacy es).1 ≠ es := by
  unfold arrange
  by_cases h : isSorted privacy es
  · simp [h]
  · simp only [h, Bool.false_eq_true, if_false, true_iff]
    intro hsame
    have hsorted := isSorted_iff.mpr (pairwise_sort privacy es)
    rw [hsame] at hsorted
    exact h hsorted

/-- Every arrangement in which each entry may stand before all later ones is the one. -/
theorem eq_arrange_iff :
    fs = (arrange privacy es).1 ↔ fs.Perm es ∧ fs.Pairwise fun a b => precedes privacy a b := by
  rw [arrange_fst]
  constructor
  · rintro rfl
    exact ⟨sort_perm privacy es, pairwise_sort privacy es⟩
  · rintro ⟨hperm, hpairwise⟩
    rw [← sort_of_isSorted privacy (isSorted_iff.mpr hpairwise)]
    exact sort_congr hperm

theorem compareIn_trans {o : Ordering} (hab : compareIn privacy a b = o)
    (hbc : compareIn privacy b c = o) : compareIn privacy a c = o := by
  cases o with
  | lt => exact Std.TransCmp.lt_trans hab hbc
  | eq => exact Std.TransCmp.eq_trans hab hbc
  | gt => exact Std.TransCmp.gt_trans hab hbc

/-- Entries compare as their keys do. The comparison is a total order in which entries are equal
only if they are the same, and arranging a list leaves the one arrangement of its entries in that
order, and says whether it was in another. -/
theorem ordered_by_keys (privacy : Privacy) :
    (∀ a b : AddressEntry F,
        compareIn privacy a b = compare (orderKey privacy a) (orderKey privacy b) ∧
        compareIn privacy b a = (compareIn privacy a b).swap ∧
        (compareIn privacy a b = .eq ↔ a = b)) ∧
      (∀ (a b c : AddressEntry F) o,
        compareIn privacy a b = o → compareIn privacy b c = o → compareIn privacy a c = o) ∧
      ∀ es : List (AddressEntry F),
        (∀ fs, fs = (arrange privacy es).1 ↔
          fs.Perm es ∧ fs.Pairwise fun a b => compareIn privacy a b ≠ .gt) ∧
        (∀ fs, fs.Perm es → (arrange privacy fs).1 = (arrange privacy es).1) ∧
        ((arrange privacy es).2 ↔ (arrange privacy es).1 ≠ es) := by
  refine ⟨fun a b => ⟨?_, ?_, ?_⟩, fun a b c o => compareIn_trans, fun es => ⟨?_, ?_, ?_⟩⟩
  · exact compareIn_eq_compare_orderKey privacy a b
  · exact Std.OrientedCmp.eq_swap
  · exact Std.LawfulEqCmp.compare_eq_iff_eq
  · intro fs
    have harranged : fs = (arrange privacy es).1 ↔ _ := eq_arrange_iff
    simpa [precedes, Ordering.isLE_iff_ne_gt] using harranged
  · intro fs hperm
    rw [arrange_fst, arrange_fst, sort_congr hperm]
  · exact arrange_snd_iff

/-- Whether a stable address takes part in the privacy extensions makes no difference: two of them
are told apart by their sources. The temporary one, which is there twice, comes before both. -/
theorem ordered_by_keys_temporaryFirst :
    let plain : AddressEntry .v6 :=
      { address := ⟨0x20010db8000000000000000000000001⟩, prefixLen := 64 }
    let managed : AddressEntry .v6 :=
      { plain with address := ⟨0xfd000000000000000000000000000002⟩, flags := Flag.manageTempAddr
                   source := .kernel }
    let temporary : AddressEntry .v6 :=
      { plain with address := ⟨0x20010db8000000000000000000000003⟩, flags := Flag.temporary }
    let es := [plain, temporary, managed, temporary]
    let sorted := [temporary, temporary, managed, plain]
    compareIn .preferTemporary temporary managed = .lt ∧
      compareIn .preferTemporary managed plain = .lt ∧
      compareIn .preferTemporary temporary plain = .lt ∧
      es.reverse.Perm es ∧ (arrange .preferTemporary es.reverse).1 = sorted ∧
      (arrange .preferTemporary es).2 := by
  intro plain managed temporary es sorted
  obtain ⟨-, htrans, harrange⟩ := ordered_by_keys (F := .v6) .preferTemporary
  obtain ⟨hunique, hperm, hmoved⟩ := harrange es
  have hfirst : compareIn .preferTemporary temporary managed = .lt := by decide
  have hsecond : compareIn .preferTemporary managed plain = .lt := by decide
  have hsorted : sorted = (arrange .preferTemporary es).1 := (hunique sorted).mpr (by decide)
  refine ⟨hfirst, hsecond, htrans _ _ _ _ hfirst hsecond, List.reverse_perm es, ?_, ?_⟩
  · rw [hperm _ (List.reverse_perm es), hsorted]
  · rw [hmoved, ← hsorted]
    decide

end AddressEntry

end LinkConfig
