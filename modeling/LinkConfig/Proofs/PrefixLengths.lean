import LinkConfig.Proofs.CidrText

/-! # Lengths of prefixes read

What stands behind the slash is a decimal number, with a plus sign or without and with blanks around
it, or it is no length. The number counts with its value, however many digits it has: one that is
too large for the family is told apart from one that is too large for a byte, and none is taken for
a smaller one.
-/
namespace LinkConfig
open Text

namespace Text

theorem isBlank_of_isDigit {c : Char} (h : c.isDigit) : isBlank c = false := by
  have hdigit : (digit? 10 c).isSome := by rw [digit?_ten, if_pos h, Option.isSome_some]
  have hhex : (digit? 16 c).isSome := by
    rw [digit?_eq_filter (by decide)] at hdigit
    exact Option.isSome_of_isSome_filter _ _ hdigit
  exact isBlank_of_isAddressChar (by simp [isAddressChar, hhex])

/-- A number as it may be written: digits, at least one and any number of zeros before the others,
perhaps with a plus sign, and blanks around. -/
structure Numeral where
  before : List Char
  signed : Bool
  digits : List Char
  after : List Char
  before_blank : ∀ c ∈ before, isBlank c
  digits_ne : digits ≠ []
  digits_isDigit : ∀ c ∈ digits, c.isDigit
  after_blank : ∀ c ∈ after, isBlank c

namespace Numeral
variable (n : Numeral)

def body : List Char := if n.signed then '+' :: n.digits else n.digits

def chars : List Char := n.before ++ (n.body ++ n.after)

/-- The value of the digits, without a bound. -/
def value : Nat := Nat.ofDigitChars 10 n.digits 0

theorem body_ne_nil : n.body ≠ [] := by
  unfold body
  split
  · exact List.cons_ne_nil _ _
  · exact n.digits_ne

theorem trim_chars : trim n.chars = n.body := by
  have hdigits : ∀ c ∈ n.digits, isBlank c = false := fun c hc =>
    isBlank_of_isDigit (n.digits_isDigit c hc)
  refine trim_append n.before_blank n.after_blank n.body_ne_nil ?_
  unfold body
  split
  · exact List.forall_mem_cons.mpr ⟨by decide, hdigits⟩
  · exact hdigits

theorem readNat_digits : readNat 10 n.digits = some n.value :=
  readNat_eq_some_iff.mpr ⟨n.digits_ne, n.digits_isDigit, rfl⟩

theorem readByte_body :
    readByte n.body = ((some n.value).filter (· < 256)).map UInt8.ofNat := by
  rw [← n.readNat_digits, body]
  split
  · rfl
  · refine readByte_of_head? fun hsign => ?_
    have hdigit := n.digits_isDigit _ (List.mem_of_head? hsign)
    contradiction

end Numeral

theorem exists_digits_of_readByte {cs : List Char} (h : (readByte cs).isSome) :
    ∃ (signed : Bool) (digits : List Char),
      cs = (if signed then '+' :: digits else digits) ∧ (readNat 10 digits).isSome := by
  have hread {ds : List Char} (hds : (((readNat 10 ds).filter (· < 256)).map UInt8.ofNat).isSome) :
      (readNat 10 ds).isSome :=
    Option.isSome_of_isSome_filter _ _ (Option.isSome_map.symm.trans hds)
  by_cases hsign : cs.head? = some '+'
  · obtain ⟨ds, rfl⟩ := List.head?_eq_some_iff.mp hsign
    exact ⟨true, ds, rfl, hread h⟩
  · rw [readByte_of_head? hsign] at h
    exact ⟨false, cs, rfl, hread h⟩

/-- What is read as a byte is a number. -/
theorem Numeral.exists_chars_eq {cs : List Char} (h : (readByte (trim cs)).isSome) :
    ∃ n : Numeral, n.chars = cs := by
  obtain ⟨before, after, hcs, hbefore, hafter⟩ := exists_append_trim cs
  obtain ⟨signed, digits, htrim, hread⟩ := exists_digits_of_readByte h
  obtain ⟨v, hv⟩ := Option.isSome_iff_exists.mp hread
  obtain ⟨hne, hdigit, -⟩ := readNat_eq_some_iff.mp hv
  refine ⟨⟨before, signed, digits, after, hbefore, hne, hdigit, hafter⟩, ?_⟩
  rw [hcs, htrim]
  rfl

end Text

namespace Cidr
variable {max : UInt8} {cs : List Char}

theorem readLen_numeral (n : Numeral) {len : UInt8} (h : n.value = len.toNat) :
    readLen max n.chars = if len ≤ max then .ok len else .error (.prefixTooLarge len max) := by
  have hfits : len.toNat < 256 := len.toNat_lt
  rw [readLen, n.trim_chars, n.readByte_body, h, Option.filter_some, if_pos (by simpa using hfits),
    Option.map_some, UInt8.ofNat_toNat]
  by_cases hle : len ≤ max
  · rw [if_pos hle]
    exact if_neg (UInt8.not_lt.mpr hle)
  · rw [if_neg hle]
    exact if_pos (UInt8.not_le.mp hle)

theorem readLen_eq_error (h : readByte (trim cs) = none) :
    readLen max cs = .error (.invalidPrefix (String.ofList cs)) := by
  rw [readLen, h]

theorem readLen_numeral_of_le (n : Numeral) (h : 256 ≤ n.value) :
    readLen max n.chars = .error (.invalidPrefix (String.ofList n.chars)) := by
  refine readLen_eq_error ?_
  rw [n.trim_chars, n.readByte_body, Option.filter_some, if_neg (by simpa using h),
    Option.map_none]

theorem readLen_of_forall_ne (h : ∀ n : Numeral, n.chars ≠ cs) :
    readLen max cs = .error (.invalidPrefix (String.ofList cs)) := by
  refine readLen_eq_error (Option.not_isSome_iff_eq_none.mp fun hread => ?_)
  obtain ⟨n, hn⟩ := Numeral.exists_chars_eq hread
  exact h n hn

/-- An address with blanks around it is read, alone as the prefix of itself, and with a number
behind the first slash as far as the number allows. What is no number is an error, and what is no
address is one whatever stands behind it. -/
theorem lengths_never_wrap (a : AnyAddress) {before after : List Char}
    (hbefore : ∀ c ∈ before, isBlank c) (hafter : ∀ c ∈ after, isBlank c) :
    let text := before ++ (a.chars ++ after)
    let max := a.family.hostLen
    read text = .ok ⟨a, max⟩ ∧
      (∀ n : Numeral,
        (∀ len : UInt8, n.value = len.toNat →
          read (text ++ '/' :: n.chars) =
            if len ≤ max then .ok ⟨a, len⟩ else .error (.prefixTooLarge len max)) ∧
        (256 ≤ n.value →
          read (text ++ '/' :: n.chars) = .error (.invalidPrefix (String.ofList n.chars)))) ∧
      (∀ ds, (∀ n : Numeral, n.chars ≠ ds) →
        read (text ++ '/' :: ds) = .error (.invalidPrefix (String.ofList ds))) ∧
      ∀ cs, '/' ∉ cs → AnyAddress.ofChars? (trim cs) = none →
        read cs = .error (.invalidAddress (String.ofList cs)) ∧
          ∀ ds, read (cs ++ '/' :: ds) = .error (.invalidAddress (String.ofList cs)) := by
  intro text max
  have haddress : AnyAddress.read text = .ok a := a.read_append_chars hbefore hafter
  have hslash : '/' ∉ text := by
    have hblanks {cs : List Char} (hcs : ∀ c ∈ cs, isBlank c) : '/' ∉ cs := fun hc =>
      absurd (hcs _ hc) (by decide)
    simp [text, hblanks hbefore, a.slash_notMem_chars, hblanks hafter]
  have hread (ds : List Char) : read (text ++ '/' :: ds) = (readLen max ds).map (⟨a, ·⟩) := by
    rw [read_append_slash hslash, haddress]
    rfl
  refine ⟨?_, fun n => ⟨fun len hlen => ?_, fun hlarge => ?_⟩, fun ds hds => ?_,
    fun cs hcs hnone => ?_⟩
  · rw [read_of_notMem hslash, haddress]
    rfl
  · rw [hread, readLen_numeral n hlen]
    split <;> rfl
  · rw [hread, readLen_numeral_of_le n hlarge]
    rfl
  · rw [hread, readLen_of_forall_ne hds]
    rfl
  · have herror : AnyAddress.read cs = .error (.invalidAddress (String.ofList cs)) := by
      rw [AnyAddress.read, hnone]
    refine ⟨?_, fun ds => ?_⟩
    · rw [read_of_notMem hcs, herror]
      rfl
    · rw [read_append_slash hcs, herror]
      rfl

/-- The digits after a plus sign, with blanks around. -/
def padded (digits : List Char) (hne : digits ≠ []) (hdigits : ∀ c ∈ digits, c.isDigit) :
    Numeral where
  before := ['\u2003']
  signed := true
  digits := digits
  after := ['\n']
  before_blank := by decide
  digits_ne := hne
  digits_isDigit := hdigits
  after_blank := by decide

/-- Seven digits for the longest length, a length that no address has, one that a byte would take
for a shorter one, and no length at all. -/
theorem lengths_never_wrap_paddedLoopback :
    (∀ c ∈ ['\u00a0', ' '], isBlank c) ∧ (∀ c ∈ ['\t'], isBlank c) ∧
      read "\u00a0 ::1\t/\u2003+0000128\n".toList = .ok ⟨⟨.v6, ⟨1⟩⟩, 128⟩ ∧
      read "\u00a0 ::1\t/\u2003+129\n".toList = .error (.prefixTooLarge 129 128) ∧
      read "\u00a0 ::1\t/\u2003+384\n".toList = .error (.invalidPrefix "\u2003+384\n") ∧
      read "\u00a0 ::1\t/".toList = .error (.invalidPrefix "") ∧
      read "10.0.0.256/ 8".toList = .error (.invalidAddress "10.0.0.256") := by
  have hbefore : ∀ c ∈ ['\u00a0', ' '], isBlank c := by decide
  have hafter : ∀ c ∈ ['\t'], isBlank c := by decide
  obtain ⟨-, hnumeral, hother, haddress⟩ := lengths_never_wrap ⟨.v6, ⟨1⟩⟩ hbefore hafter
  have hempty : ∀ n : Numeral, n.chars ≠ [] := by
    intro n hn
    obtain ⟨-, hrest⟩ := List.append_eq_nil_iff.mp hn
    exact n.body_ne_nil (List.append_eq_nil_iff.mp hrest).1
  refine ⟨hbefore, hafter, ?_, ?_, ?_, ?_, ?_⟩
  · exact (hnumeral (padded "0000128".toList (by decide) (by decide))).1 128 (by decide)
  · exact (hnumeral (padded "129".toList (by decide) (by decide))).1 129 (by decide)
  · exact (hnumeral (padded "384".toList (by decide) (by decide))).2 (by decide)
  · exact hother [] hempty
  · exact (haddress "10.0.0.256".toList (by decide) (by decide)).2 " 8".toList

end Cidr

end LinkConfig
