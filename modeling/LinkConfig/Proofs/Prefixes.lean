import LinkConfig.Address

/-! # Nested prefixes

An address lies in a prefix when their leading bits agree. Of two prefixes that hold one address the
longer lies in the shorter, and no prefix lies in a longer one.
-/
namespace LinkConfig.Address

variable {F : Family} {a n p x : Address F} {k len : UInt8}

theorem getMsbD_netmask {w l i : Nat} (hl : l ≤ w) : (netmask w l).getMsbD i = decide (i < l) := by
  rw [netmask, BitVec.getMsbD_shiftLeft, BitVec.getMsbD_allOnes]
  congr 1
  rw [eq_iff_iff]
  omega

theorem and_netmask_eq_iff {w l : Nat} {u v : BitVec w} (hl : l ≤ w) :
    u &&& netmask w l = v &&& netmask w l ↔ ∀ i < l, u.getMsbD i = v.getMsbD i := by
  constructor
  · intro h i hi
    have hbit := congrArg (BitVec.getMsbD · i) h
    simpa [getMsbD_netmask hl, hi] using hbit
  · intro h
    apply BitVec.eq_of_getMsbD_eq
    intro i hw
    rw [BitVec.getMsbD_and, BitVec.getMsbD_and, getMsbD_netmask hl]
    by_cases hi : i < l
    · rw [h i hi]
    · simp [hi]

theorem within_iff :
    a.within p len ↔
      len ≤ F.hostLen ∧ ∀ i < len.toNat, a.word.getMsbD i = p.word.getMsbD i := by
  unfold within
  split
  next h =>
    subst h
    exact iff_of_true rfl ⟨UInt8.zero_le, nofun⟩
  next =>
    split
    next h =>
      exact iff_of_false Bool.false_ne_true fun hle => UInt8.not_lt.mpr hle.1 h
    next h =>
      have hlen : len ≤ F.hostLen := UInt8.not_lt.mp h
      have hwidth : len.toNat ≤ F.width := F.toNat_hostLen ▸ hlen
      rw [beq_iff_eq, and_netmask_eq_iff hwidth, and_iff_right hlen]

theorem within_comm : a.within p len ↔ p.within a len := by
  rw [within_iff, within_iff]
  exact and_congr_right fun _ => forall₂_congr fun _ _ => eq_comm

theorem within_trans (hx : x.within n len) (hn : n.within p k) (hk : k ≤ len) : x.within p k := by
  obtain ⟨-, hbits⟩ := within_iff.mp hx
  obtain ⟨hhost, hbits'⟩ := within_iff.mp hn
  refine within_iff.mpr ⟨hhost, ?_⟩
  intro i hi
  have hlt : i < len.toNat := Nat.lt_of_lt_of_le hi hk
  exact (hbits i hlt).trans (hbits' i hi)

theorem within_of_common (hx : x.within n len) (hp : x.within p k) (hk : k ≤ len) :
    n.within p k :=
  within_trans (within_comm.mp hx) hp hk

/-- The leading bits agree when the numbers that they write are the same. -/
theorem within_iff_shiftRight (hlen : len ≤ F.hostLen) :
    a.within p len ↔
      a.toNat >>> (F.width - len.toNat) = p.toNat >>> (F.width - len.toNat) := by
  have hwidth : len.toNat ≤ F.width := F.toNat_hostLen ▸ hlen
  rw [within_iff, and_iff_right hlen, toNat, toNat, ← BitVec.toNat_ushiftRight,
    ← BitVec.toNat_ushiftRight, BitVec.toNat_inj]
  generalize hrest : F.width - len.toNat = rest
  constructor
  · intro h
    apply BitVec.eq_of_getMsbD_eq
    intro i hi
    rw [BitVec.getMsbD_ushiftRight, BitVec.getMsbD_ushiftRight]
    by_cases hlt : i < rest
    · simp [hlt]
    · rw [h _ (by omega)]
  · intro h i hi
    have hbit := congrArg (BitVec.getMsbD · (i + rest)) h
    have hlt : i + rest < F.width := by omega
    have hge : ¬ i + rest < rest := by omega
    simpa [BitVec.getMsbD_ushiftRight, hlt, hge] using hbit

/-- The address with bit `i`, counted from the left, turned over. -/
def flip (a : Address F) (i : Nat) : Address F :=
  ⟨a.word ^^^ BitVec.twoPow F.width (F.width - 1 - i)⟩

theorem getMsbD_flip {i j : Nat} (hi : i < F.width) :
    (a.flip i).word.getMsbD j = (a.word.getMsbD j ^^ decide (j = i)) := by
  have hbit : F.width - 1 - i < F.width := by omega
  have hplace : F.width - (F.width - 1 - i) - 1 = i := by omega
  rw [flip, BitVec.getMsbD_xor, BitVec.getMsbD_twoPow, hplace, decide_eq_true hbit, Bool.true_and]

/-- Every address that lies in `n/len` lies in `p/k`. -/
def Encloses (p : Address F) (k : UInt8) (n : Address F) (len : UInt8) : Prop :=
  ∀ x : Address F, x.within n len → x.within p k

/-- One address and the lengths tell: if the outer prefix were the longer one, it would miss the
address that differs from `n` in the first bit after the inner one. -/
theorem encloses_iff (hlen : len ≤ F.hostLen) : Encloses p k n len ↔ k ≤ len ∧ n.within p k := by
  constructor
  · intro h
    have hn : n.within p k := h n (within_self n hlen)
    refine ⟨UInt8.not_lt.mp fun hlt => ?_, hn⟩
    rw [UInt8.lt_iff_toNat_lt] at hlt
    obtain ⟨hk, hbits⟩ := within_iff.mp hn
    have hbound : k.toNat ≤ F.width := F.toNat_hostLen ▸ hk
    have hwidth : len.toNat < F.width := by omega
    have hinner : (n.flip len.toNat).within n len := by
      refine within_iff.mpr ⟨hlen, ?_⟩
      intro i hi
      rw [getMsbD_flip hwidth, decide_eq_false (Nat.ne_of_lt hi), Bool.xor_false]
    obtain ⟨-, houter⟩ := within_iff.mp (h _ hinner)
    have hbit := (houter _ hlt).trans (hbits _ hlt).symm
    rw [getMsbD_flip hwidth] at hbit
    simp at hbit
  · rintro ⟨hle, hn⟩ x hx
    exact within_trans hx hn hle

instance (p : Address F) (k : UInt8) (n : Address F) (len : UInt8) :
    Decidable (Encloses p k n len) :=
  if hlen : len ≤ F.hostLen then decidable_of_iff _ (encloses_iff hlen).symm
  else .isTrue fun _ hx => absurd (within_iff.mp hx).1 hlen

end LinkConfig.Address
