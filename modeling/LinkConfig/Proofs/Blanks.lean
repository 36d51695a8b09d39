import LinkConfig.Text
import Mathlib.Data.List.Basic

/-! # Blanks around a text

A span is told by its members and by what comes after it. So trimming takes away the blanks around a
text, and nothing else.
-/
namespace LinkConfig.Text

section
variable {α : Type} {p : α → Bool} {xs ys : List α}

theorem takeWhile_append_of_head? (hxs : ∀ x ∈ xs, p x) (hys : ∀ y ∈ ys.head?, p y = false) :
    (xs ++ ys).takeWhile p = xs := by
  rw [List.takeWhile_append_of_pos hxs]
  cases ys with
  | nil => simp
  | cons y ys => simp [hys y rfl]

theorem dropWhile_append_of_head? (hxs : ∀ x ∈ xs, p x) (hys : ∀ y ∈ ys.head?, p y = false) :
    (xs ++ ys).dropWhile p = ys := by
  rw [List.dropWhile_append_of_pos hxs]
  cases ys with
  | nil => rfl
  | cons y ys => simp [hys y rfl]

theorem eq_false_of_mem_head?_dropWhile {x : α} (h : x ∈ (xs.dropWhile p).head?) :
    p x = false := by
  have hfirst := List.head?_dropWhile_not p xs
  rwa [Option.mem_def.mp h] at hfirst

end

-- By the characters of the text: what else decides such a statement tries every character there is.
instance decidableForallMem (p : Char → Prop) [DecidablePred p] (text : List Char) :
    Decidable (∀ c ∈ text, p c) :=
  text.decidableBAll p

instance decidableForallMemOption (p : Char → Prop) [DecidablePred p] (c? : Option Char) :
    Decidable (∀ c ∈ c?, p c) :=
  c?.decidableForallMem

variable {before text after : List Char}

theorem trim_append (hbefore : ∀ c ∈ before, isBlank c) (hafter : ∀ c ∈ after, isBlank c)
    (hne : text ≠ []) (htext : ∀ c ∈ text, isBlank c = false) :
    trim (before ++ (text ++ after)) = text := by
  have hends {s t : List Char} (hs : s ≠ []) (hplain : ∀ c ∈ s, isBlank c = false) :
      ∀ c ∈ (s ++ t).head?, isBlank c = false := by
    obtain ⟨d, s, rfl⟩ := List.exists_cons_of_ne_nil hs
    rintro c ⟨rfl⟩
    exact hplain _ List.mem_cons_self
  rw [trim, trimStart, dropWhile_append_of_head? hbefore (hends hne htext), trimEnd,
    List.reverse_append, dropWhile_append_of_head? (by simpa using hafter), List.reverse_reverse]
  simpa using hends (t := []) (List.reverse_ne_nil_iff.mpr hne) (by simpa using htext)

theorem trim_eq_self (h : ∀ c ∈ text, isBlank c = false) : trim text = text := by
  cases text with
  | nil => rfl
  | cons c cs =>
    simpa using
      trim_append (List.forall_mem_nil _) (List.forall_mem_nil _) (List.cons_ne_nil c cs) h

theorem exists_append_trim (text : List Char) :
    ∃ before after, text = before ++ (trim text ++ after) ∧
      (∀ c ∈ before, isBlank c) ∧ ∀ c ∈ after, isBlank c := by
  refine ⟨text.takeWhile isBlank, ((trimStart text).reverse.takeWhile isBlank).reverse, ?_, ?_, ?_⟩
  · rw [trim, trimEnd, ← List.reverse_append, List.takeWhile_append_dropWhile, List.reverse_reverse,
      trimStart, List.takeWhile_append_dropWhile]
  · exact List.all_eq_true.mp List.all_takeWhile
  · simpa using List.all_eq_true.mp (List.all_takeWhile (p := isBlank))

end LinkConfig.Text
