import LinkConfig.Proofs.CidrText
import LinkConfig.Proofs.ResolverLines
import Mathlib.Data.List.TakeWhile

/-! # Resolver files written and read

Nameservers are written one in a line, with any blanks before the keyword, separators after it and a
comment behind the address. The lines between them may be blank, comments, or begin with another
word. Whatever the decoration, the nameservers are read back in order, and nothing is skipped.
-/
namespace LinkConfig
open Text

namespace Resolver
variable {c : Char} {line text : List Char}

theorem endsValue_of_isAddressChar (h : isAddressChar c) : endsValue c = false := by
  have hmark : c ≠ '#' ∧ c ≠ ';' := by
    constructor <;> rintro rfl <;> contradiction
  simp [endsValue, isBlank_of_isAddressChar h, hmark]

/-- The first word of the line, where `ends` tells what ends a word. -/
def firstWord (ends : Char → Bool) (line : List Char) : List Char :=
  (trimStart line).takeWhile (!ends ·)

/-- What may stand in a line. -/
inductive Line where
  /-- A nameserver, and what stands before the keyword, before the address and behind it. -/
  | server (indent gap : List Char) (address : AnyAddress) (tail : List Char)
  | blank (text : List Char)
  | comment (indent : List Char) (mark : Char) (text : List Char)
  | other (text : List Char)

namespace Line

def chars : Line → List Char
  | server indent gap address tail => indent ++ (keyword ++ (gap ++ (address.chars ++ tail)))
  | blank text => text
  | comment indent mark text => indent ++ mark :: text
  | other text => text

/-- The parts are what they are called, all in one line. Another word than the keyword may end at
any blank, or at a separator alone. -/
def WellFormed : Line → Prop
  | server indent gap _ tail =>
    (∀ c ∈ indent, isBlank c ∧ c ≠ '\n') ∧ (gap ≠ [] ∧ ∀ c ∈ gap, isSeparator c) ∧
      (∀ c ∈ tail.head?, endsValue c) ∧ '\n' ∉ tail
  | blank text => ∀ c ∈ text, isBlank c ∧ c ≠ '\n'
  | comment indent mark text =>
    (∀ c ∈ indent, isBlank c ∧ c ≠ '\n') ∧ (mark = '#' ∨ mark = ';') ∧ '\n' ∉ text
  | other text =>
    (firstWord isBlank text ≠ keyword ∨ firstWord isSeparator text ≠ keyword) ∧ '\n' ∉ text

instance : DecidablePred WellFormed
  | server .. => inferInstanceAs (Decidable (_ ∧ _ ∧ _))
  | blank _ => inferInstanceAs (Decidable (∀ _ ∈ _, _))
  | comment .. => inferInstanceAs (Decidable (_ ∧ _ ∧ _))
  | other _ => inferInstanceAs (Decidable (_ ∧ _))

def server? : Line → Option AnyAddress
  | server _ _ address _ => some address
  | _ => none

end Line

namespace Names
variable {v indent gap tail : List Char}

theorem head?_trimStart (h : Names line v indent gap tail) :
    (trimStart line).head? = some 'n' := by
  rw [h.trimStart_eq, head?_keyword_append]

/-- A line that names a value begins with the keyword, whichever of the two ends a word. -/
theorem firstWord_eq (h : Names line v indent gap tail) {ends : Char → Bool}
    (hseparates : ∀ c, isSeparator c → ends c) (hkeyword : keyword.all (!ends ·)) :
    firstWord ends line = keyword := by
  rw [firstWord, h.trimStart_eq]
  refine takeWhile_append_of_head? (List.all_eq_true.mp hkeyword) ?_
  obtain ⟨d, gap, rfl⟩ := List.exists_cons_of_ne_nil h.gap_ne
  simpa using hseparates d (h.gap_separates d List.mem_cons_self)

end Names

namespace Line
variable {l : Line}

theorem value?_chars (hl : l.WellFormed) : value? l.chars = l.server?.map AnyAddress.chars := by
  cases l with
  | server indent gap address tail =>
    obtain ⟨hindent, ⟨hgap, hseparates⟩, htail, -⟩ := hl
    have hnames : Names (indent ++ (keyword ++ (gap ++ (address.chars ++ tail)))) address.chars
        indent gap tail :=
      { eq := rfl
        indent_blank := fun c hc => (hindent c hc).1
        gap_ne := hgap
        gap_separates := hseparates
        value_ne := address.chars_ne_nil
        value_plain := fun c hc =>
          endsValue_of_isAddressChar (address.isAddressChar_of_mem_chars hc)
        tail_ends := htail }
    exact hnames.value?
  | blank text =>
    refine value?_eq_none fun v indent gap tail hnames => ?_
    have hstart : trimStart text = [] := List.dropWhile_eq_nil_iff.mpr fun c hc => (hl c hc).1
    have hhead := hnames.head?_trimStart
    rw [chars, hstart] at hhead
    contradiction
  | comment indent mark text =>
    obtain ⟨hindent, hmark, -⟩ := hl
    refine value?_eq_none fun v _ gap tail hnames => ?_
    have hstart : trimStart (indent ++ mark :: text) = mark :: text := by
      refine dropWhile_append_of_head? (fun c hc => (hindent c hc).1) ?_
      rintro c ⟨rfl⟩
      obtain rfl | rfl := hmark <;> decide
    have hhead := hnames.head?_trimStart
    rw [chars, hstart, List.head?_cons, Option.some_inj] at hhead
    subst hhead
    contradiction
  | other text =>
    obtain ⟨hword, -⟩ := hl
    refine value?_eq_none fun v indent gap tail hnames => ?_
    rcases hword with hword | hword
    · exact hword (hnames.firstWord_eq (fun _ => isBlank_of_isSeparator) (by decide))
    · exact hword (hnames.firstWord_eq (fun _ => id) (by decide))

theorem lineFeed_notMem_chars (hl : l.WellFormed) : '\n' ∉ l.chars := by
  cases l with
  | server indent gap address tail =>
    obtain ⟨hindent, ⟨-, hseparates⟩, -, htail⟩ := hl
    have haddress : '\n' ∉ address.chars := fun hc =>
      absurd (address.isAddressChar_of_mem_chars hc) (by decide)
    have hgap : '\n' ∉ gap := fun hc => absurd (hseparates _ hc) (by decide)
    have hkeyword : '\n' ∉ keyword := by decide
    have hblanks : '\n' ∉ indent := fun hc => (hindent _ hc).2 rfl
    simp [chars, haddress, hgap, hkeyword, hblanks, htail]
  | blank text => exact fun hc => (hl _ hc).2 rfl
  | comment indent mark text =>
    obtain ⟨hindent, hmark, htext⟩ := hl
    have hblanks : '\n' ∉ indent := fun hc => (hindent _ hc).2 rfl
    have hne : '\n' ≠ mark := by
      obtain rfl | rfl := hmark <;> decide
    simp [chars, hblanks, hne, htext]
  | other text => exact hl.2

end Line

theorem values_lines {ls : List Line} (h : ∀ l ∈ ls, l.WellFormed) :
    values (['\n'].intercalate (ls.map Line.chars)) =
      (ls.filterMap Line.server?).map AnyAddress.chars := by
  cases ls with
  | nil => rfl
  | cons l ls =>
    have hsplit : (['\n'].intercalate ((l :: ls).map Line.chars)).splitOn '\n' =
        (l :: ls).map Line.chars :=
      List.splitOn_intercalate '\n'
        (List.forall_mem_map.mpr fun l hl => Line.lineFeed_notMem_chars (h l hl)) (by simp)
    rw [values, hsplit, List.filterMap_map, List.map_filterMap]
    exact List.filterMap_congr fun l hl => Line.value?_chars (h l hl)

theorem Reading.ofValues_chars (as : List AnyAddress) :
    ofValues (as.map AnyAddress.chars) = { servers := as } := by
  have hservers : (as.map AnyAddress.chars).filterMap AnyAddress.ofChars? = as := by
    rw [List.filterMap_map]
    exact (List.filterMap_congr fun a _ => a.ofChars?_chars).trans List.filterMap_some
  have hskipped :
      (as.map AnyAddress.chars).filter (fun v => (AnyAddress.ofChars? v).isNone) = [] := by
    simp [AnyAddress.ofChars?_chars]
  rw [ofValues, hservers, hskipped]
  rfl

/-- A file of such lines, the last one ended or not, is read as the nameservers it was written for,
in order and with their repetitions. -/
theorem read_written_lines {ls : List Line} (h : ∀ l ∈ ls, l.WellFormed) :
    let text := ['\n'].intercalate (ls.map Line.chars)
    read text = { servers := ls.filterMap Line.server? } ∧
      read (text ++ ['\n']) = { servers := ls.filterMap Line.server? } := by
  intro text
  have hvalues : values text = (ls.filterMap Line.server?).map AnyAddress.chars := values_lines h
  have hended : values (text ++ ['\n']) = values text := by
    rw [values_append]
    exact List.append_nil _
  rw [read_eq, read_eq, hended, hvalues, Reading.ofValues_chars]
  exact ⟨rfl, rfl⟩

/-- Three nameservers, one of them twice, among lines that look like nameservers and are not. -/
def decoratedLines : List Line :=
  [.comment [' '] ';' "nameserver 10.0.0.1".toList,
    .server ['\u00a0', '\t'] ['\t', ' '] ⟨.v6, ⟨0x20010db8000000000000000000000053⟩⟩
      "#local".toList,
    .blank ['\u2003', '\r'], .other "nameserver#10.0.0.2".toList,
    .server [] [' '] ⟨.v4, ⟨0x0a000035⟩⟩ ['\r'], .other "search nameserver 10.0.0.3".toList,
    .server ['\r'] [' '] ⟨.v6, ⟨0xffff0a000035⟩⟩ ['\u2028', 'x'],
    .other "nameserver\u00a010.0.0.4".toList, .server [] ['\t'] ⟨.v4, ⟨0x0a000035⟩⟩ []]

theorem read_written_lines_decorated :
    (∀ l ∈ decoratedLines, l.WellFormed) ∧
      (decoratedLines.map Line.chars)[1]? = some "\u00a0\tnameserver\t 2001:db8::53#local".toList ∧
      (read (['\n'].intercalate (decoratedLines.map Line.chars))).servers.map AnyAddress.text =
        ["2001:db8::53", "10.0.0.53", "::ffff:10.0.0.53", "10.0.0.53"] := by
  have hlines : ∀ l ∈ decoratedLines, l.WellFormed := by decide
  refine ⟨hlines, by decide, ?_⟩
  rw [(read_written_lines hlines).1]
  decide

end Resolver

end LinkConfig
