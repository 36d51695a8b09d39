import LinkConfig.Address.Class
import LinkConfig.Proofs.Prefixes
import Mathlib.Logic.Basic

/-! # Address classes as prefixes

The class of an address is told from its parts as they are written, one test after another. Each
test passes exactly in the prefixes of its class, with two addresses taken out of one of them, and
no address lies in the prefixes of two classes, so that the order of the tests decides nothing.
-/
namespace LinkConfig

variable {F : Family}

namespace AddressClass

/-- Whether the address lies in the prefixes of the class. Global addresses have no prefix of their
own, and the forms of IPv4 addresses are for the other family. -/
def spans : {F : Family} → AddressClass → Address F → Bool
  | .v6, mapped, a => a.within (.ofParts 65536 [0, 0, 0, 0, 0, 0xffff, 0, 0]) 96
  | .v6, compat, a => a.within .unspecified 96 && a != .unspecified && a != ⟨1⟩
  | .v6, loopback, a => a == ⟨1⟩
  | .v6, linkLocal, a => a.within (.ofParts 65536 [0xfe80, 0, 0, 0, 0, 0, 0, 0]) 10
  | .v6, siteLocal, a => a.within (.ofParts 65536 [0xfec0, 0, 0, 0, 0, 0, 0, 0]) 10
  | .v4, loopback, a => a.within (.ofParts 256 [127, 0, 0, 0]) 8
  | .v4, linkLocal, a => a.within (.ofParts 256 [169, 254, 0, 0]) 16
  | .v4, siteLocal, a =>
    a.within (.ofParts 256 [10, 0, 0, 0]) 8 || a.within (.ofParts 256 [172, 16, 0, 0]) 12 ||
      a.within (.ofParts 256 [192, 168, 0, 0]) 16
  | _, unspecified, a => a == .unspecified
  | _, _, _ => false

variable {c d : AddressClass}

/-- Of a group the mask leaves the ten leading bits. -/
theorem and_tenBits (g : Nat) : g &&& 0xffc0 = g / 64 % 1024 * 64 := by
  have hmask : 0xffc0 = (2 ^ 10 - 1) <<< 6 := rfl
  have hright : g / 64 % 1024 * 64 = ((g >>> 6) % 2 ^ 10) <<< 6 := by omega
  rw [hmask, hright]
  refine Nat.eq_of_testBit_eq fun i => ?_
  rw [Nat.testBit_and, Nat.testBit_shiftLeft, Nat.testBit_shiftLeft, Nat.testBit_mod_two_pow,
    Nat.testBit_two_pow_sub_one, Nat.testBit_shiftRight]
  by_cases h : 6 ≤ i
  · simp [h, Nat.add_sub_cancel' h, Bool.and_comm]
  · simp [h]

theorem spans_v6_iff {a : Address .v6} : c.spans a ↔ match c with
    | mapped => a.toNat >>> 32 = 0xffff
    | compat => a.toNat >>> 32 = 0 ∧ a.toNat ≠ 0 ∧ a.toNat ≠ 1
    | unspecified => a.toNat = 0
    | loopback => a.toNat = 1
    | linkLocal => a.toNat >>> 118 = 0x3fa
    | siteLocal => a.toNat >>> 118 = 0x3fb
    | global => False := by
  have hzero : a = .unspecified ↔ a.toNat = 0 := Address.toNat_inj.symm
  have hone : a = ⟨1⟩ ↔ a.toNat = 1 := Address.toNat_inj.symm
  have hlow : a.within .unspecified 96 ↔ a.toNat >>> 32 = 0 :=
    Address.within_iff_shiftRight (by decide)
  cases c with
  | mapped => exact Address.within_iff_shiftRight (by decide)
  | compat =>
    rw [spans, Bool.and_eq_true, Bool.and_eq_true, bne_iff_ne, bne_iff_ne, hlow, ne_eq, ne_eq,
      hzero, hone, and_assoc]
  | unspecified => simpa [spans] using hzero
  | loopback => simpa [spans] using hone
  | linkLocal => exact Address.within_iff_shiftRight (by decide)
  | siteLocal => exact Address.within_iff_shiftRight (by decide)
  | global => simp [spans]

theorem spans_v4_iff {a : Address .v4} : c.spans a ↔ match c with
    | unspecified => a.toNat = 0
    | loopback => a.toNat >>> 24 = 127
    | linkLocal => a.toNat >>> 16 = 0xa9fe
    | siteLocal =>
      a.toNat >>> 24 = 10 ∨ a.toNat >>> 20 = 0xac1 ∨ a.toNat >>> 16 = 0xc0a8
    | _ => False := by
  have hzero : a = .unspecified ↔ a.toNat = 0 := Address.toNat_inj.symm
  cases c with
  | unspecified => simpa [spans] using hzero
  | loopback => exact Address.within_iff_shiftRight (by decide)
  | linkLocal => exact Address.within_iff_shiftRight (by decide)
  | siteLocal =>
    have hten : a.within (.ofParts 256 [10, 0, 0, 0]) 8 ↔ a.toNat >>> 24 = 10 :=
      Address.within_iff_shiftRight (by decide)
    have hmiddle : a.within (.ofParts 256 [172, 16, 0, 0]) 12 ↔ a.toNat >>> 20 = 0xac1 :=
      Address.within_iff_shiftRight (by decide)
    have hlast : a.within (.ofParts 256 [192, 168, 0, 0]) 16 ↔ a.toNat >>> 16 = 0xc0a8 :=
      Address.within_iff_shiftRight (by decide)
    simp only [spans, Bool.or_eq_true, hten, hmiddle, hlast, or_assoc]
  | mapped => simp [spans]
  | compat => simp [spans]
  | global => simp [spans]

/-- The prefixes of two classes have no address in common. -/
theorem spans_unique {a : Address F} (hc : c.spans a) (hd : d.spans a) : c = d := by
  cases F with
  | v4 =>
    rw [spans_v4_iff] at hc hd
    cases c <;> cases d <;> simp only [reduceCtorEq] at hc hd ⊢ <;> omega
  | v6 =>
    rw [spans_v6_iff] at hc hd
    cases c <;> cases d <;> simp only [reduceCtorEq] at hc hd ⊢ <;> omega

theorem not_spans_global (a : Address F) : ¬ global.spans a := by
  cases F <;> simp [spans]

/-- The classes that have prefixes, as they are tried. -/
def special : List AddressClass := [mapped, compat, unspecified, loopback, linkLocal, siteLocal]

theorem mem_special (h : c ≠ global) : c ∈ special := by
  cases c with
  | global => contradiction
  | _ => decide

theorem getD_find?_cons {α : Type} (p : α → Bool) (x y : α) (xs : List α) :
    ((x :: xs).find? p).getD y = if p x then x else (xs.find? p).getD y := by
  cases h : p x <;> simp [h]

end AddressClass

namespace Address
open AddressClass

/-- An address is of the first class in whose prefixes it lies. -/
theorem classify_eq_find? (a : Address F) :
    a.classify = (special.find? (·.spans a)).getD .global := by
  have hzero : a.isUnspecified ↔ AddressClass.unspecified.spans a := by
    cases F <;> simp [spans]
  simp only [special, getD_find?_cons]
  cases F with
  | v4 =>
    have hbound : a.toNat < 2 ^ 32 := a.word.isLt
    have hnone {c : AddressClass} (hc : c.spans a = false) : ¬ c.spans a := by simp [hc]
    rw [classify, classV4, if_neg (hnone (c := mapped) rfl), if_neg (hnone (c := compat) rfl)]
    refine if_congr hzero rfl (if_congr ?_ rfl (if_congr ?_ rfl (if_congr ?_ rfl rfl)))
    all_goals
      rw [spans_v4_iff]
      dsimp only [octet]
      omega
  | v6 =>
    have hbound : a.toNat < 2 ^ 128 := a.word.isLt
    have hone : a.toNat = 1 ↔ loopback.spans a := (spans_v6_iff (c := loopback)).symm
    rw [classify, classV6]
    refine if_congr ?mapped rfl (if_congr ?compat rfl (if_congr hzero rfl (if_congr hone rfl
      (if_congr ?linkLocal rfl (if_congr ?siteLocal rfl rfl)))))
    case mapped | compat =>
      rw [spans_v6_iff]
      dsimp only [group]
      omega
    case linkLocal | siteLocal =>
      rw [spans_v6_iff, and_tenBits]
      dsimp only [group]
      omega

theorem spans_classify {a : Address F} (h : a.classify ≠ .global) : a.classify.spans a := by
  rw [classify_eq_find?] at h ⊢
  cases hfind : special.find? (·.spans a) with
  | none => simp [hfind] at h
  | some c =>
    have hspans := List.find?_some hfind
    exact hspans

theorem classify_eq_of_spans {a : Address F} {c : AddressClass} (h : c.spans a) :
    a.classify = c := by
  have hc : c ≠ .global := by
    rintro rfl
    exact not_spans_global a h
  refine spans_unique (spans_classify fun hglobal => ?_) h
  rw [classify_eq_find?] at hglobal
  cases hfind : special.find? (·.spans a) with
  | none => exact List.find?_eq_none.mp hfind c (mem_special hc) h
  | some d =>
    have hspans := List.find?_some hfind
    rw [hfind, Option.getD_some] at hglobal
    exact not_spans_global a (hglobal ▸ hspans)

/-- Every class but one is that of the addresses in its prefixes, and the global addresses are those
that lie in none. -/
theorem classify_by_prefixes (a : Address F) :
    (∀ c, c ≠ .global → (a.classify = c ↔ c.spans a)) ∧
      (a.classify = .global ↔ ∀ c : AddressClass, ¬ c.spans a) := by
  refine ⟨fun c hc => ⟨?_, classify_eq_of_spans⟩, ?_, ?_⟩
  · rintro rfl
    exact spans_classify hc
  · intro hglobal c hspans
    have hc : c = .global := (classify_eq_of_spans hspans).symm.trans hglobal
    exact not_spans_global a (hc ▸ hspans)
  · intro hnone
    exact Decidable.byContradiction fun hglobal => hnone _ (spans_classify hglobal)

/-- Addresses next to each other on both sides of the borders between classes. -/
theorem classify_by_prefixes_borders :
    (⟨1⟩ : Address .v6).classify = .loopback ∧ (⟨2⟩ : Address .v6).classify = .compat ∧
      (⟨0xfffeffffffff⟩ : Address .v6).classify = .global ∧
      (⟨0xffff00000000⟩ : Address .v6).classify = .mapped ∧
      (⟨0xfebfffffffffffffffffffffffffffff⟩ : Address .v6).classify = .linkLocal ∧
      (⟨0xfec00000000000000000000000000000⟩ : Address .v6).classify = .siteLocal ∧
      (⟨0xac1fffff⟩ : Address .v4).classify = .siteLocal ∧
      (⟨0xac200000⟩ : Address .v4).classify = .global := by
  refine ⟨?_, ?_, ?_, ?_, ?_, ?_, ?_, ?_⟩
  · exact ((classify_by_prefixes _).1 .loopback (by decide)).mpr (by decide)
  · exact ((classify_by_prefixes _).1 .compat (by decide)).mpr (by decide)
  · exact (classify_by_prefixes _).2.mpr fun c => by cases c <;> decide
  · exact ((classify_by_prefixes _).1 .mapped (by decide)).mpr (by decide)
  · exact ((classify_by_prefixes _).1 .linkLocal (by decide)).mpr (by decide)
  · exact ((classify_by_prefixes _).1 .siteLocal (by decide)).mpr (by decide)
  · exact ((classify_by_prefixes _).1 .siteLocal (by decide)).mpr (by decide)
  · exact (classify_by_prefixes _).2.mpr fun c => by cases c <;> decide

end Address

end LinkConfig
