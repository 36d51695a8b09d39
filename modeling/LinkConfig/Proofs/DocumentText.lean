import LinkConfig.Document
import LinkConfig.Proofs.Numerals

/-! # Documents are determined by their text

What a document begins with tells its kind. A quoted text and a bracketed list tell where they end;
a number ends where no digit follows, and in a document none ever does. So the text of a document,
with whatever is written after it, can be taken apart in one way only.
-/
namespace LinkConfig

namespace Text
variable {m n : Nat} {r s : List Char}

/-- No digit comes first, so that a number can be written before. -/
def NoDigitFirst (r : List Char) : Prop := ∀ c ∈ r.head?, ¬c.isDigit

theorem noDigitFirst_cons {c : Char} (hc : ¬c.isDigit) (r : List Char) : NoDigitFirst (c :: r) := by
  rintro _ ⟨⟩
  exact hc

theorem takeWhile_decimal_append (hr : NoDigitFirst r) (n : Nat) :
    (decimal n ++ r).takeWhile Char.isDigit = decimal n := by
  have hdigits : ∀ c ∈ decimal n, c.isDigit := fun c hc =>
    Nat.isDigit_of_mem_toDigits (by decide) (by decide) hc
  have hrest : r.takeWhile Char.isDigit = [] := by
    cases r with
    | nil => rfl
    | cons c r => exact List.takeWhile_cons_of_neg (hr c rfl)
  rw [List.takeWhile_append_of_pos hdigits, hrest, List.append_nil]

theorem decimal_append_inj (hr : NoDigitFirst r) (hs : NoDigitFirst s)
    (h : decimal m ++ r = decimal n ++ s) : m = n ∧ r = s := by
  have hdigits : decimal m = decimal n := by
    rw [← takeWhile_decimal_append hr m, h, takeWhile_decimal_append hs n]
  have hnumber := congrArg (readNat 10) hdigits
  rw [decimal, decimal, readNat_toDigits (by decide) (by decide),
    readNat_toDigits (by decide) (by decide)] at hnumber
  exact ⟨Option.some_inj.mp hnumber, List.append_cancel_left (hdigits ▸ h)⟩

end Text

open Text

namespace Document
variable {α : Type} {l : Layout} {depth : Nat} {r s : List Char}

/-- Reads what follows a backslash. -/
def unescapeAfter : List Char → Option (Char × List Char)
  | 'u' :: a :: b :: c :: d :: cs => (readNat 16 [a, b, c, d]).map fun n => (Char.ofNat n, cs)
  | 'b' :: cs => some ('\x08', cs)
  | 't' :: cs => some ('\t', cs)
  | 'n' :: cs => some ('\n', cs)
  | 'f' :: cs => some ('\x0c', cs)
  | 'r' :: cs => some ('\r', cs)
  | c :: cs => some (c, cs)
  | [] => none

/-- Reads a character of a quoted text, unless the text ends. -/
def unescape : List Char → Option (Char × List Char)
  | [] => none
  | c :: cs =>
    if c = '"' then none else if c = '\\' then unescapeAfter cs else some (c, cs)

theorem readNat_hex4 {n : Nat} (h : n < 0x20) : readNat 16 (hex4 n) = some n := by
  have hall : ∀ n < 0x20, readNat 16 (hex4 n) = some n := by decide
  exact hall n h

theorem unescape_escape_append (c : Char) (r : List Char) :
    unescape (escape c ++ r) = some (c, r) := by
  unfold escape
  split
  -- seven characters have an escape of their own
  iterate 7 rfl
  next hquote hbackslash _ _ _ _ _ =>
    split
    next hcontrol =>
      have hchar : (readNat 16 (hex4 c.toNat)).map (Char.ofNat ·, r) = some (c, r) := by
        rw [readNat_hex4 hcontrol, Option.map_some, Char.ofNat_toNat]
      exact hchar
    next => rw [List.singleton_append, unescape, if_neg hquote, if_neg hbackslash]

theorem flatMap_escape_append_inj {cs ds : List Char}
    (h : cs.flatMap escape ++ '"' :: r = ds.flatMap escape ++ '"' :: s) : cs = ds ∧ r = s := by
  induction cs generalizing ds with
  | nil =>
    cases ds with
    | nil => simpa using h
    | cons d ds =>
      have hread := congrArg unescape h
      rw [List.flatMap_cons, List.append_assoc, unescape_escape_append] at hread
      cases hread
  | cons c cs ih =>
    have hread := congrArg unescape h
    rw [List.flatMap_cons, List.append_assoc, unescape_escape_append] at hread
    cases ds with
    | nil => cases hread
    | cons d ds =>
      rw [List.flatMap_cons, List.append_assoc, unescape_escape_append] at hread
      obtain ⟨rfl, hrest⟩ := Prod.mk.inj (Option.some_inj.mp hread)
      obtain ⟨rfl, hrs⟩ := ih hrest
      exact ⟨rfl, hrs⟩

theorem quote_append_inj {a b : String} (h : quote a ++ r = quote b ++ s) : a = b ∧ r = s := by
  simp only [quote, List.append_assoc, List.cons_append, List.nil_append,
    List.cons.injEq, true_and] at h
  obtain ⟨hab, hrs⟩ := flatMap_escape_append_inj h
  exact ⟨String.toList_injective hab, hrs⟩

/-- Before an item stand blanks only. -/
def Layout.IsBlank (l : Layout) : Prop := ∀ depth, ∀ c ∈ l.newline depth, c = '\n' ∨ c = ' '

theorem Layout.isBlank_compact : Layout.compact.IsBlank := nofun

theorem Layout.isBlank_indented : Layout.indented.IsBlank := by
  intro depth c hc
  obtain rfl | hc := List.mem_cons.mp hc
  · exact .inl rfl
  · exact .inr (List.eq_of_mem_replicate hc)

theorem head?_newline_append (hl : l.IsBlank) {c : Char}
    (h : (l.newline depth ++ r).head? = some c) : c = '\n' ∨ c = ' ' ∨ r.head? = some c := by
  rw [List.head?_append, Option.or_eq_some_iff] at h
  obtain h | ⟨-, h⟩ := h
  · obtain rfl | rfl := hl depth c (List.mem_of_head? h)
    · exact .inl rfl
    · exact .inr (.inl rfl)
  · exact .inr (.inr h)

/-- Arrays and objects are written alike, between brackets of their own. -/
inductive Bracket where
  | square
  | curly

namespace Bracket

def opening : Bracket → Char
  | square => '['
  | curly => '\x7b'

def closing : Bracket → Char
  | square => ']'
  | curly => '\x7d'

theorem closing_ne (b : Bracket) :
    b.closing ≠ ',' ∧ b.closing ≠ '\n' ∧ b.closing ≠ ' ' ∧ ¬b.closing.isDigit := by
  cases b <;> decide

end Bracket

/-- The items after the first. -/
def writeRest (l : Layout) (depth : Nat) (f : α → List Char) (xs : List α) : List Char :=
  xs.flatMap fun x => [','] ++ l.newline depth ++ f x

/-- Items between brackets. -/
def writeBetween (l : Layout) (depth : Nat) (b : Bracket) (f : α → List Char) : List α → List Char
  | [] => [b.opening, b.closing]
  | x :: xs =>
    [b.opening] ++ l.newline (depth + 1) ++ f x ++ writeRest l (depth + 1) f xs ++
      l.newline depth ++ [b.closing]

def writeMember (l : Layout) (depth : Nat) (m : String × Document) : List Char :=
  quote m.1 ++ l.colon ++ writeAt l depth m.2

theorem writeItems_eq (l : Layout) (depth : Nat) (ds : List Document) :
    writeItems l depth ds = writeRest l depth (writeAt l depth) ds := by
  induction ds with
  | nil => rw [writeItems]; rfl
  | cons d ds ih => rw [writeItems, ih]; rfl

theorem writeMembers_eq (l : Layout) (depth : Nat) (ms : List (String × Document)) :
    writeMembers l depth ms = writeRest l depth (writeMember l depth) ms := by
  induction ms with
  | nil => rw [writeMembers]; rfl
  | cons m ms ih =>
    obtain ⟨k, d⟩ := m
    rw [writeMembers, ih]
    simp [writeRest, writeMember]

theorem writeAt_array (l : Layout) (depth : Nat) (ds : List Document) :
    writeAt l depth (.array ds) = writeBetween l depth .square (writeAt l (depth + 1)) ds := by
  cases ds with
  | nil => rw [writeAt]; rfl
  | cons d ds => rw [writeAt, writeItems_eq]; rfl

theorem writeAt_object (l : Layout) (depth : Nat) (ms : List (String × Document)) :
    writeAt l depth (.object ms) = writeBetween l depth .curly (writeMember l (depth + 1)) ms := by
  cases ms with
  | nil => rw [writeAt]; rfl
  | cons m ms =>
    obtain ⟨k, d⟩ := m
    rw [writeAt, writeMembers_eq]
    simp [writeBetween, writeMember, Bracket.opening, Bracket.closing]

/-- What `f` writes for `x` tells where it ends, if no digit follows. -/
def EndsItself (f : α → List Char) (x : α) : Prop :=
  ∀ y r s, NoDigitFirst r → NoDigitFirst s → f x ++ r = f y ++ s → x = y ∧ r = s

section Between
variable {b : Bracket} {f : α → List Char} {xs ys : List α}

theorem head?_closing (hl : l.IsBlank) (depth : Nat) (b : Bracket) (r : List Char) {c : Char}
    (h : (l.newline depth ++ b.closing :: r).head? = some c) : c ≠ ',' ∧ ¬c.isDigit := by
  obtain rfl | rfl | h := head?_newline_append hl h
  · decide
  · decide
  · cases h
    exact ⟨b.closing_ne.1, b.closing_ne.2.2.2⟩

theorem noDigitFirst_writeRest (hl : l.IsBlank) (f : α → List Char) (xs : List α) :
    NoDigitFirst (writeRest l (depth + 1) f xs ++ (l.newline depth ++ b.closing :: r)) := by
  cases xs with
  | nil => exact fun c hc => (head?_closing hl depth b r hc).2
  | cons x xs => exact noDigitFirst_cons (by decide) _

theorem writeRest_append_inj (hl : l.IsBlank) (hf : ∀ x ∈ xs, EndsItself f x)
    (h : writeRest l (depth + 1) f xs ++ (l.newline depth ++ b.closing :: r) =
      writeRest l (depth + 1) f ys ++ (l.newline depth ++ b.closing :: s)) : xs = ys ∧ r = s := by
  induction xs generalizing ys with
  | nil =>
    cases ys with
    | nil => simpa [writeRest] using h
    | cons y ys => exact absurd rfl (head?_closing hl depth b r (congrArg List.head? h)).1
  | cons x xs ih =>
    cases ys with
    | nil => exact absurd rfl (head?_closing hl depth b s (congrArg List.head? h.symm)).1
    | cons y ys =>
      rw [List.forall_mem_cons] at hf
      have hitem : f x ++ (writeRest l (depth + 1) f xs ++ (l.newline depth ++ b.closing :: r)) =
          f y ++ (writeRest l (depth + 1) f ys ++ (l.newline depth ++ b.closing :: s)) := by
        simpa [writeRest] using h
      obtain ⟨rfl, hrest⟩ := hf.1 _ _ _ (noDigitFirst_writeRest hl f xs)
        (noDigitFirst_writeRest hl f ys) hitem
      obtain ⟨rfl, hrs⟩ := ih hf.2 hrest
      exact ⟨rfl, hrs⟩

/-- A list is not taken for the empty one, as no item begins like a closing bracket. -/
theorem writeBetween_append_inj (hl : l.IsBlank) (hf : ∀ x ∈ xs, EndsItself f x)
    (hhead : ∀ y t, (f y ++ t).head? ≠ some b.closing)
    (h : writeBetween l depth b f xs ++ r = writeBetween l depth b f ys ++ s) :
    xs = ys ∧ r = s := by
  have hempty : ∀ y t u, b.closing :: t ≠ l.newline (depth + 1) ++ (f y ++ u) := by
    intro y t u he
    obtain hc | hc | hc := head?_newline_append hl (congrArg List.head? he.symm)
    · exact b.closing_ne.2.1 hc
    · exact b.closing_ne.2.2.1 hc
    · exact hhead y u hc
  cases xs with
  | nil =>
    cases ys with
    | nil => simpa [writeBetween] using h
    | cons y ys => exact absurd (by simpa [writeBetween] using h) (hempty y _ _)
  | cons x xs =>
    cases ys with
    | nil => exact absurd (by simpa [writeBetween] using h.symm) (hempty x _ _)
    | cons y ys =>
      have hrest : writeRest l (depth + 1) f (x :: xs) ++ (l.newline depth ++ b.closing :: r) =
          writeRest l (depth + 1) f (y :: ys) ++ (l.newline depth ++ b.closing :: s) := by
        simpa [writeBetween, writeRest] using h
      exact writeRest_append_inj hl hf hrest

end Between

/-- The first character of a document tells its kind. -/
def Leads (c : Char) : Document → Prop
  | text _ => c = '"'
  | number _ => c.isDigit
  | array _ => c = '['
  | object _ => c = '\x7b'

theorem exists_leads (l : Layout) (depth : Nat) (d : Document) :
    ∃ c cs, writeAt l depth d = c :: cs ∧ Leads c d := by
  cases d with
  | text a => exact ⟨_, _, by rw [writeAt, quote]; rfl, rfl⟩
  | number n =>
    obtain ⟨c, cs, hc⟩ := List.exists_cons_of_ne_nil (Nat.toDigits_ne_nil (n := n) (b := 10))
    have hdigit : c.isDigit :=
      Nat.isDigit_of_mem_toDigits (by decide) (by decide) (hc ▸ List.mem_cons_self)
    exact ⟨c, cs, by rw [writeAt, decimal, hc], hdigit⟩
  | array ds =>
    cases ds with
    | nil => exact ⟨_, _, by rw [writeAt_array]; rfl, rfl⟩
    | cons d ds => exact ⟨_, _, by rw [writeAt_array]; rfl, rfl⟩
  | object ms =>
    cases ms with
    | nil => exact ⟨_, _, by rw [writeAt_object]; rfl, rfl⟩
    | cons m ms => exact ⟨_, _, by rw [writeAt_object]; rfl, rfl⟩

theorem exists_leads_of_append_eq {d e : Document}
    (h : writeAt l depth d ++ r = writeAt l depth e ++ s) : ∃ c, Leads c d ∧ Leads c e := by
  obtain ⟨c, cs, hd, hc⟩ := exists_leads l depth d
  obtain ⟨c', cs', he, hc'⟩ := exists_leads l depth e
  rw [hd, he] at h
  obtain rfl : c = c' := (List.cons.inj h).1
  exact ⟨c, hc, hc'⟩

theorem head?_writeAt_append (l : Layout) (depth : Nat) (d : Document) (r : List Char) :
    (writeAt l depth d ++ r).head? ≠ some ']' := by
  obtain ⟨c, cs, hd, hc⟩ := exists_leads l depth d
  rw [hd]
  rintro ⟨⟩
  cases d <;> simp [Leads] at hc

theorem head?_writeMember_append (l : Layout) (depth : Nat) (m : String × Document)
    (r : List Char) : (writeMember l depth m ++ r).head? ≠ some '\x7d' := by
  simp [writeMember, quote]

theorem endsItself_writeMember {m : String × Document} (hm : EndsItself (writeAt l depth) m.2) :
    EndsItself (writeMember l depth) m := by
  intro n r s hr hs h
  simp only [writeMember, List.append_assoc] at h
  obtain ⟨hkey, hrest⟩ := quote_append_inj h
  obtain ⟨hvalue, hrs⟩ := hm _ _ _ hr hs (List.append_cancel_left hrest)
  exact ⟨Prod.ext hkey hvalue, hrs⟩

/-- Induction over the items and members. -/
theorem inductionOn {P : Document → Prop} (d : Document) (text : ∀ s, P (text s))
    (number : ∀ n, P (number n)) (array : ∀ ds, (∀ d ∈ ds, P d) → P (array ds))
    (object : ∀ ms, (∀ m ∈ ms, P m.2) → P (object ms)) : P d :=
  match d with
  | .text s => text s
  | .number n => number n
  | .array ds => array ds fun d _ => inductionOn d text number array object
  | .object ms => object ms fun (_, d) _ => inductionOn d text number array object
termination_by sizeOf d
decreasing_by
  · decreasing_tactic
  next hm =>
    have hlt := List.sizeOf_lt_of_mem hm
    simp only [Prod.mk.sizeOf_spec, Document.object.sizeOf_spec] at hlt ⊢
    omega

theorem endsItself_writeAt (hl : l.IsBlank) (depth : Nat) (d : Document) :
    EndsItself (writeAt l depth) d := by
  induction d using inductionOn generalizing depth with
  | text a =>
    intro e r s hr hs h
    cases e with
    | text b =>
      rw [writeAt, writeAt] at h
      obtain ⟨rfl, hrs⟩ := quote_append_inj h
      exact ⟨rfl, hrs⟩
    | _ => exact absurd (exists_leads_of_append_eq h) (by simp [Leads])
  | number m =>
    intro e r s hr hs h
    cases e with
    | number n =>
      rw [writeAt, writeAt] at h
      obtain ⟨rfl, hrs⟩ := decimal_append_inj hr hs h
      exact ⟨rfl, hrs⟩
    | _ => exact absurd (exists_leads_of_append_eq h) (by simp [Leads])
  | array ds ih =>
    intro e r s hr hs h
    cases e with
    | array es =>
      rw [writeAt_array, writeAt_array] at h
      obtain ⟨rfl, hrs⟩ := writeBetween_append_inj hl (fun d hd => ih d hd (depth + 1))
        (head?_writeAt_append l _) h
      exact ⟨rfl, hrs⟩
    | _ => exact absurd (exists_leads_of_append_eq h) (by simp [Leads])
  | object ms ih =>
    intro e r s hr hs h
    cases e with
    | object ns =>
      rw [writeAt_object, writeAt_object] at h
      obtain ⟨rfl, hrs⟩ := writeBetween_append_inj hl
        (fun m hm => endsItself_writeMember (ih m hm (depth + 1))) (head?_writeMember_append l _) h
      exact ⟨rfl, hrs⟩
    | _ => exact absurd (exists_leads_of_append_eq h) (by simp [Leads])

theorem write_injective (hl : l.IsBlank) : Function.Injective (write l) := by
  intro d e h
  have hempty : NoDigitFirst [] := nofun
  exact (endsItself_writeAt hl 0 d e [] [] hempty hempty (by simpa [write] using h)).1

end Document
end LinkConfig
