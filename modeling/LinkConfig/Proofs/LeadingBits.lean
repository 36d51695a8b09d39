import LinkConfig.Address.Text
import LinkConfig.Proofs.Prefixes

/-! # Prefixes as leading bits

That two addresses lie in one prefix of a length says no more than that so many of their leading
bits agree, which relates the addresses of a family like an equality, the looser the shorter the
prefix is. In the IPv6 forms of IPv4 addresses the same bits stand behind 96 others that are common
to all.
-/
namespace LinkConfig

theorem Colon.write_mapped (h l : Nat) :
    write [0, 0, 0, 0, 0, 0xffff, h, l] =
      "::ffff:".toList ++ Dotted.write [h / 256, h % 256, l / 256, l % 256] := rfl

namespace Address

variable {F : Family} {a p : Address F} {k len : UInt8}

theorem within_equivalence (hlen : len ≤ F.hostLen) :
    Equivalence fun a p : Address F => (a.within p len : Prop) where
  refl a := within_self a hlen
  symm := within_comm.mp
  trans hab hbc := within_trans hab hbc (UInt8.le_refl len)

theorem within_of_le (hk : k ≤ len) (h : a.within p len) : a.within p k := by
  have hlen : len ≤ F.hostLen := (within_iff.mp h).1
  exact within_trans h (within_self p (UInt8.le_trans hk hlen)) hk

/-- The mask that tells is shifted by less than its width, and the byte that says how far does not
wrap. -/
theorem within_eq_masked (hne : len ≠ 0) (hlen : len ≤ F.hostLen) :
    let shift := (F.hostLen - len).toNat
    shift < F.width ∧ ∀ a p : Address F,
      a.within p len = (a.word &&& BitVec.allOnes F.width <<< shift ==
        p.word &&& BitVec.allOnes F.width <<< shift) := by
  intro shift
  have hshift : shift = F.width - len.toNat := by
    rw [← F.toNat_hostLen]
    exact UInt8.toNat_sub_of_le _ _ hlen
  have hpos : 0 < len.toNat := Nat.pos_of_ne_zero fun h => hne (UInt8.toNat_inj.mp h)
  have hwidth : len.toNat ≤ F.width := F.toNat_hostLen ▸ hlen
  refine ⟨by omega, fun a p => ?_⟩
  rw [within, if_neg hne, if_neg (UInt8.not_lt.mpr hlen), netmask, hshift]

/-- The IPv6 form of an IPv4 address, `::ffff:a.b.c.d`. -/
def mapped (a : Address .v4) : Address .v6 := ⟨0xffff#96 ++ a.word⟩

theorem toNat_mapped (a : Address .v4) : a.mapped.toNat = 0xffff00000000 + a.toNat := by
  have hbound : a.toNat < 2 ^ 32 := a.word.isLt
  have happend : a.mapped.toNat = 0xffff <<< 32 ||| a.toNat := BitVec.toNat_append _ _
  rw [happend, ← Nat.shiftLeft_add_eq_or_of_lt hbound]
  rfl

theorem groups_mapped (a : Address .v4) :
    a.mapped.groups = [0, 0, 0, 0, 0, 0xffff, a.toNat / 65536, a.toNat % 65536] := by
  have hbound : a.toNat < 2 ^ 32 := a.word.isLt
  have hgroups : a.mapped.groups = [a.mapped.group 0, a.mapped.group 1, a.mapped.group 2,
      a.mapped.group 3, a.mapped.group 4, a.mapped.group 5, a.mapped.group 6,
      a.mapped.group 7] := rfl
  simp only [hgroups, group, toNat_mapped, List.cons.injEq, and_true]
  omega

/-- The mapped form is written with the quad of the IPv4 address. -/
theorem chars_mapped (a : Address .v4) : a.mapped.chars = "::ffff:".toList ++ a.chars := by
  have hbound : a.toNat < 2 ^ 32 := a.word.isLt
  have hoctets : a.octets = [a.octet 0, a.octet 1, a.octet 2, a.octet 3] := rfl
  have hquad : [a.toNat / 65536 / 256, a.toNat / 65536 % 256, a.toNat % 65536 / 256,
      a.toNat % 65536 % 256] = a.octets := by
    simp only [hoctets, octet, List.cons.injEq, and_true]
    omega
  have hmapped : a.mapped.chars = Colon.write a.mapped.groups := rfl
  rw [hmapped, groups_mapped, Colon.write_mapped, hquad]
  rfl

theorem getMsbD_mapped (a : Address .v4) (i : Nat) :
    a.mapped.word.getMsbD i =
      if 96 ≤ i then a.word.getMsbD (i - 96) else (0xffff#96).getMsbD i :=
  BitVec.getMsbD_append

theorem getMsbD_mapped_add (a : Address .v4) (i : Nat) :
    a.mapped.word.getMsbD (96 + i) = a.word.getMsbD i := by
  rw [getMsbD_mapped, if_pos (Nat.le_add_right 96 i), Nat.add_sub_cancel_left]

theorem within_mapped {a p : Address .v4} (hlen : len ≤ 159) :
    a.mapped.within p.mapped (96 + len) ↔ a.within p len := by
  -- up to this length the sum is a byte
  have hsum : (96 + len).toNat = 96 + len.toNat := by
    have hle : len.toNat ≤ 159 := hlen
    rw [UInt8.toNat_add]
    exact Nat.mod_eq_of_lt (by simp; omega)
  have hhost : 96 + len ≤ Family.v6.hostLen ↔ len ≤ Family.v4.hostLen := by
    rw [UInt8.le_iff_toNat_le, UInt8.le_iff_toNat_le, hsum]
    exact Nat.add_le_add_iff_left (k := 32)
  rw [within_iff, within_iff, hhost, hsum]
  refine and_congr_right fun _ => ⟨fun h i hi => ?_, fun h i hi => ?_⟩
  · have hbit := h (96 + i) (Nat.add_lt_add_left hi 96)
    rwa [getMsbD_mapped_add, getMsbD_mapped_add] at hbit
  · rw [getMsbD_mapped, getMsbD_mapped]
    split
    · exact h _ (by omega)
    · rfl

/-- In both families an address lies in a prefix if the length is one of the family and that many
leading bits agree, as a mask tells that is shifted by less than its width. To lie in one prefix is
an equivalence for each length, the coarser the shorter, and the prefixes of IPv4 are those of the
mapped addresses. -/
theorem within_by_leading_bits (F : Family) :
    (∀ (a p : Address F) (len : UInt8),
      a.within p len ↔
        len ≤ F.hostLen ∧ ∀ i < len.toNat, a.word.getMsbD i = p.word.getMsbD i) ∧
      (∀ len : UInt8, len ≠ 0 → len ≤ F.hostLen →
        let shift := (F.hostLen - len).toNat
        shift < F.width ∧ ∀ a p : Address F,
          a.within p len = (a.word &&& BitVec.allOnes F.width <<< shift ==
            p.word &&& BitVec.allOnes F.width <<< shift)) ∧
      (∀ len ≤ F.hostLen, Equivalence fun a p : Address F => (a.within p len : Prop)) ∧
      (∀ (a p : Address F) (k len : UInt8), k ≤ len → a.within p len → a.within p k) ∧
      (∀ a : Address .v4, a.mapped.chars = "::ffff:".toList ++ a.chars) ∧
      ∀ (a p : Address .v4) (len : UInt8), len ≤ 159 →
        a.within p len = a.mapped.within p.mapped (96 + len) := by
  refine ⟨fun a p len => within_iff, fun len => within_eq_masked, fun len => within_equivalence,
    fun a p k len => within_of_le, chars_mapped, fun a p len hlen => ?_⟩
  rw [Bool.eq_iff_iff, within_mapped hlen]

/-- Two hosts that part in bit 17, so that a prefix of 18 bits is too long for them, as one of 33 is
for all. From 160 on the length of the mapped prefix wraps, here to one that holds every address. -/
theorem within_by_leading_bits_subnetHosts :
    let a : Address .v4 := ⟨0x0a004046⟩
    let b : Address .v4 := ⟨0x0a000002⟩
    (∀ i < 17, a.word.getMsbD i = b.word.getMsbD i) ∧ a.within b 17 ∧ a.within b 9 ∧
      a.mapped.within b.mapped 113 ∧ ¬ a.mapped.within b.mapped 114 ∧
      ¬ a.mapped.within a.mapped 129 ∧ ¬ a.mapped.within a.mapped 255 ∧
      a.mapped.within b.mapped (96 + 160) := by
  intro a b
  obtain ⟨hbits, -, -, hshorter, -, hmapped⟩ := within_by_leading_bits .v4
  have hagree : ∀ i < 17, a.word.getMsbD i = b.word.getMsbD i := by decide
  have hwithin : a.within b 17 := (hbits a b 17).mpr ⟨by decide, hagree⟩
  refine ⟨hagree, hwithin, hshorter a b 9 17 (by decide) hwithin, ?_, ?_, ?_, ?_, by decide⟩
  · exact (hmapped a b 17 (by decide)).symm.trans hwithin
  · exact fun h => absurd ((hmapped a b 18 (by decide)).trans h) (by decide)
  · exact fun h => absurd ((hmapped a a 33 (by decide)).trans h) (by decide)
  · exact fun h => absurd ((hmapped a a 159 (by decide)).trans h) (by decide)

end Address

end LinkConfig
