import LinkConfig.Cidr
import LinkConfig.Proofs.AddressText
import LinkConfig.Proofs.Blanks
import Mathlib.Data.List.TakeWhile

/-! # Prefixes read back

Addresses are written in hexadecimal digits, dots and colons. Neither a blank nor a slash is among
them, so that an address is read back as it stands, and ends where the slash before the length of
a prefix begins.
-/
namespace LinkConfig
open Text

variable {c : Char} {cs : List Char}

theorem bind_eq_ok_iff {ε α β : Type} {x : Except ε α} {f : α → Except ε β} {b : β} :
    x >>= f = .ok b ↔ ∃ a, x = .ok a ∧ f a = .ok b := by
  cases x with
  | error e => simp [bind, Except.bind]
  | ok a => simp [bind, Except.bind]

theorem mapError_eq_ok_iff {ε ε' α : Type} {x : Except ε α} {f : ε → ε'} {a : α} :
    x.mapError f = .ok a ↔ x = .ok a := by
  cases x with
  | error e => exact iff_of_false nofun nofun
  | ok b => exact ⟨fun h => by cases h; rfl, fun h => by cases h; rfl⟩

namespace Text

/-- The characters that addresses of both families are written in. -/
def isAddressChar (c : Char) : Bool := c == '.' || c == ':' || (digit? 16 c).isSome

theorem toNat_of_isSome_digit? (h : (digit? 16 c).isSome) :
    48 ≤ c.toNat ∧ c.toNat ≤ 57 ∨ 65 ≤ c.toNat ∧ c.toNat ≤ 70 ∨ 97 ≤ c.toNat ∧ c.toNat ≤ 102 := by
  unfold digit? at h
  split at h
  · next hdigit => exact .inl hdigit
  · split at h
    · next hlower => exact .inr (.inr hlower)
    · split at h
      · next hupper => exact .inr (.inl hupper)
      · cases h

theorem isBlank_of_isAddressChar (h : isAddressChar c) : isBlank c = false := by
  simp only [isAddressChar, Bool.or_eq_true, beq_iff_eq] at h
  obtain (rfl | rfl) | hdigit := h
  · decide
  · decide
  · have hrange := toNat_of_isSome_digit? hdigit
    simp only [isBlank, inRanges, blankRanges, List.any_cons, List.any_nil, Bool.or_false,
      Bool.or_eq_false_iff, Bool.and_eq_false_iff, decide_eq_false_iff_not]
    omega

theorem ne_slash_of_isAddressChar (h : isAddressChar c) : c ≠ '/' := by
  rintro rfl
  contradiction

theorem isAddressChar_of_mem_toDigits {base n : Nat} (hb : 1 < base) (h16 : base ≤ 16)
    (h : c ∈ Nat.toDigits base n) : isAddressChar c := by
  have hdigit : digit? 16 c ≠ none := by
    intro hnone
    refine not_mem_toDigits hb h16 ?_ n h
    rw [digit?_eq_filter h16, hnone, Option.filter_none]
  simp [isAddressChar, Option.isSome_iff_ne_none.mpr hdigit]

/-- A length has no sign and no leading zeros when it is written. -/
theorem readByte_decimal {n : Nat} (h : n < 256) : readByte (decimal n) = some (UInt8.ofNat n) := by
  have hsign : (decimal n).head? ≠ some '+' := fun h =>
    not_mem_toDigits (by decide) (by decide) (by decide) n (List.mem_of_head? h)
  have hread : readNat 10 (decimal n) = some n := readNat_toDigits (by decide) (by decide) n
  rw [readByte_of_head? hsign, hread, Option.filter_some, if_pos (by simpa using h),
    Option.map_some]

end Text

theorem Dotted.isAddressChar_of_mem_write {os : List Nat} (h : c ∈ write os) :
    isAddressChar c := by
  by_cases hdot : c = '.'
  · subst hdot; rfl
  · obtain ⟨p, hp, hc⟩ := exists_mem_of_mem_intercalate h hdot
    obtain ⟨o, -, rfl⟩ := List.mem_map.mp hp
    exact isAddressChar_of_mem_toDigits (by decide) (by decide) hc

namespace Colon
variable {gs : List Nat}

theorem isAddressChar_of_mem_writeGroups (h : c ∈ writeGroups gs) : isAddressChar c := by
  by_cases hcolon : c = ':'
  · subst hcolon; rfl
  · obtain ⟨p, hp, hc⟩ := exists_mem_of_mem_intercalate h hcolon
    obtain ⟨g, -, rfl⟩ := List.mem_map.mp hp
    exact isAddressChar_of_mem_toDigits (by decide) (by decide) hc

theorem isAddressChar_of_mem_write (h : c ∈ write gs) : isAddressChar c := by
  have hcolon : isAddressChar ':' := rfl
  unfold write at h
  split at h
  next =>
    have hmapped : "::ffff:".toList.all isAddressChar := rfl
    rcases List.mem_append.mp h with hmem | hmem
    · exact List.all_eq_true.mp hmapped c hmem
    · exact Dotted.isAddressChar_of_mem_write hmem
  next =>
    unfold writeShort at h
    dsimp only at h
    split at h
    · simp only [List.mem_append, List.mem_cons, List.not_mem_nil, or_false] at h
      rcases h with (hhead | rfl | rfl) | htail
      · exact isAddressChar_of_mem_writeGroups hhead
      · exact hcolon
      · exact hcolon
      · exact isAddressChar_of_mem_writeGroups htail
    · exact isAddressChar_of_mem_writeGroups h

end Colon

namespace AnyAddress
variable (a : AnyAddress)

theorem isAddressChar_of_mem_chars (h : c ∈ a.chars) : isAddressChar c := by
  obtain ⟨F, a⟩ := a
  cases F with
  | v4 => exact Dotted.isAddressChar_of_mem_write h
  | v6 => exact Colon.isAddressChar_of_mem_write h

theorem slash_notMem_chars : '/' ∉ a.chars := fun h =>
  ne_slash_of_isAddressChar (a.isAddressChar_of_mem_chars h) rfl

theorem chars_ne_nil : a.chars ≠ [] := by
  intro hnil
  have hread := a.ofChars?_chars
  rw [hnil] at hread
  contradiction

theorem read_append_chars {before after : List Char} (hbefore : ∀ c ∈ before, isBlank c)
    (hafter : ∀ c ∈ after, isBlank c) : read (before ++ (a.chars ++ after)) = .ok a := by
  have hplain : ∀ c ∈ a.chars, isBlank c = false := fun c hc =>
    isBlank_of_isAddressChar (a.isAddressChar_of_mem_chars hc)
  rw [read, trim_append hbefore hafter a.chars_ne_nil hplain, ofChars?_chars]

theorem read_chars : read a.chars = .ok a := by
  simpa using a.read_append_chars (List.forall_mem_nil _) (List.forall_mem_nil _)

end AnyAddress

namespace Cidr
variable {len : UInt8}

def text (p : Cidr) : String := s!"{p.address.text}/{p.len}"

def chars (p : Cidr) : List Char := p.address.chars ++ '/' :: decimal p.len.toNat

theorem toList_text (p : Cidr) : p.text.toList = p.chars := by
  have htext : p.text = p.address.text ++ "/" ++ String.ofList (decimal p.len.toNat) := rfl
  simp [htext, chars, AnyAddress.text, Address.text, AnyAddress.chars]

theorem readLen_decimal {max : UInt8} (h : len ≤ max) :
    readLen max (decimal len.toNat) = .ok len := by
  have htrim : trim (decimal len.toNat) = decimal len.toNat :=
    trim_eq_self fun c hc =>
      isBlank_of_isAddressChar (isAddressChar_of_mem_toDigits (by decide) (by decide) hc)
  have hfits : ¬ max < len := UInt8.not_lt.mpr h
  rw [readLen, htrim, readByte_decimal len.toNat_lt, UInt8.ofNat_toNat]
  exact if_neg hfits

theorem read_of_notMem (h : '/' ∉ cs) :
    read cs = (do let a ← AnyAddress.read cs; return ⟨a, a.family.hostLen⟩) := by
  have haddress : ∀ c ∈ cs, (c != '/') = true := fun c hc =>
    bne_iff_ne.mpr (ne_of_mem_of_not_mem hc h)
  have hnone : cs.dropWhile (· != '/') = [] := List.dropWhile_eq_nil_iff.mpr haddress
  rw [read, List.takeWhile_eq_self_iff.mpr haddress, hnone]

/-- The first slash ends the address. -/
theorem read_append_slash (h : '/' ∉ cs) (ds : List Char) :
    read (cs ++ '/' :: ds) =
      (do let a ← AnyAddress.read cs; return ⟨a, ← readLen a.family.hostLen ds⟩) := by
  have haddress : ∀ c ∈ cs, (c != '/') = true := fun c hc =>
    bne_iff_ne.mpr (ne_of_mem_of_not_mem hc h)
  have hslash : ∀ c ∈ ('/' :: ds).head?, (c != '/') = false := by simp
  rw [read, takeWhile_append_of_head? haddress hslash, dropWhile_append_of_head? haddress hslash]

/-- A prefix that is not longer than its address is read back. -/
theorem read_chars {p : Cidr} (h : p.len ≤ p.address.family.hostLen) : read p.chars = .ok p := by
  rw [chars, read_append_slash p.address.slash_notMem_chars, AnyAddress.read_chars]
  dsimp only [bind, Except.bind]
  rw [readLen_decimal h]
  rfl

theorem le_of_readLen {max : UInt8} (h : readLen max cs = .ok len) : len ≤ max := by
  unfold readLen at h
  split at h
  · contradiction
  · split at h
    · contradiction
    · next hle =>
      cases h
      exact UInt8.not_lt.mp hle

/-- What is read as a prefix is not longer than its address. -/
theorem len_le_of_read {p : Cidr} (h : read cs = .ok p) : p.len ≤ p.address.family.hostLen := by
  unfold read at h
  obtain ⟨a, -, h⟩ := bind_eq_ok_iff.mp h
  split at h
  · cases h
    exact UInt8.le_refl _
  · obtain ⟨len, hlen, h⟩ := bind_eq_ok_iff.mp h
    cases h
    exact le_of_readLen hlen

end Cidr

end LinkConfig
