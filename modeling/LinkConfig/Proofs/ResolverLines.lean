import LinkConfig.Proofs.Blanks
import LinkConfig.Resolver

/-! # Lines of a resolver file

A line names a value if it consists of blanks, the keyword, separators, the value, and whatever
follows from the first blank or comment sign on. Since a carriage return is a blank, one at the end
of a line is never part of a value, so that it does not matter which lines lose theirs. A file is
read line by line, whatever ends its lines.
-/
namespace LinkConfig.Resolver
open Text

/-- The word that a value stands after. -/
def keyword : List Char := "nameserver".toList

theorem head?_keyword_append (cs : List Char) : (keyword ++ cs).head? = some 'n' := rfl

variable {line v : List Char} {c : Char}

theorem value?_eq (line : List Char) :
    value? line = (keyword.isPrefixOf? (trimStart line)).bind fun rest =>
      let value := (rest.dropWhile isSeparator).takeWhile (!endsValue ·)
      if rest.head?.any isSeparator && !value.isEmpty then some value else none := rfl

/-- The line names the value `v`, after blanks, the keyword and separators. -/
structure Names (line v : List Char) (indent gap tail : List Char) : Prop where
  eq : line = indent ++ (keyword ++ (gap ++ (v ++ tail)))
  indent_blank : ∀ c ∈ indent, isBlank c
  gap_ne : gap ≠ []
  gap_separates : ∀ c ∈ gap, isSeparator c
  value_ne : v ≠ []
  value_plain : ∀ c ∈ v, endsValue c = false
  tail_ends : ∀ c ∈ tail.head?, endsValue c

theorem isBlank_of_isSeparator (h : isSeparator c) : isBlank c := by
  simp only [isSeparator, Bool.or_eq_true, beq_iff_eq] at h
  obtain rfl | rfl := h <;> decide

theorem endsValue_of_isBlank (h : isBlank c) : endsValue c := by
  simp [endsValue, h]

namespace Names
variable {indent gap tail : List Char}

theorem trimStart_eq (h : Names line v indent gap tail) :
    trimStart line = keyword ++ (gap ++ (v ++ tail)) := by
  rw [h.eq]
  refine dropWhile_append_of_head? h.indent_blank ?_
  simp only [head?_keyword_append, Option.mem_some_iff, forall_eq']
  decide

theorem value? (h : Names line v indent gap tail) : value? line = some v := by
  have hfirst : ∀ c ∈ (v ++ tail).head?, endsValue c = false := by
    obtain ⟨d, w, rfl⟩ := List.exists_cons_of_ne_nil h.value_ne
    rintro c ⟨rfl⟩
    exact h.value_plain _ List.mem_cons_self
  have hrest : keyword.isPrefixOf? (keyword ++ (gap ++ (v ++ tail))) = some (gap ++ (v ++ tail)) :=
    List.isPrefixOf?_eq_some_iff_append_eq.mpr rfl
  have hgap : (gap ++ (v ++ tail)).dropWhile isSeparator = v ++ tail := by
    refine dropWhile_append_of_head? h.gap_separates fun c hc => ?_
    by_contra hsep
    have hends := endsValue_of_isBlank (isBlank_of_isSeparator (Bool.not_eq_false _ ▸ hsep))
    rw [hfirst c hc] at hends
    contradiction
  have hvalue : (v ++ tail).takeWhile (!endsValue ·) = v :=
    takeWhile_append_of_head? (by simpa using h.value_plain) (by simpa using h.tail_ends)
  have hsome : (gap ++ (v ++ tail)).head?.any isSeparator := by
    obtain ⟨d, gap, rfl⟩ := List.exists_cons_of_ne_nil h.gap_ne
    simpa using h.gap_separates d List.mem_cons_self
  rw [value?_eq, h.trimStart_eq, hrest, Option.bind_some, hgap, hvalue, hsome]
  simpa using h.value_ne

end Names

theorem exists_names_of_value? (h : value? line = some v) :
    ∃ indent gap tail, Names line v indent gap tail := by
  rw [value?_eq] at h
  obtain ⟨rest, hrest, h⟩ := Option.bind_eq_some_iff.mp h
  have hstart : keyword ++ rest = trimStart line :=
    List.isPrefixOf?_eq_some_iff_append_eq.mp hrest
  dsimp only at h
  split at h
  next hfound =>
    cases h
    obtain ⟨hgap, hvalue⟩ := Bool.and_eq_true_iff.mp hfound
    refine ⟨line.takeWhile isBlank, rest.takeWhile isSeparator,
      (rest.dropWhile isSeparator).dropWhile (!endsValue ·), ?_, ?_, ?_, ?_, ?_, ?_, ?_⟩
    · rw [List.takeWhile_append_dropWhile, List.takeWhile_append_dropWhile, hstart, trimStart,
        List.takeWhile_append_dropWhile]
    · exact List.all_eq_true.mp List.all_takeWhile
    · intro hnil
      cases rest with
      | nil => contradiction
      | cons c rest =>
        have hc : isSeparator c := hgap
        simp [hc] at hnil
    · exact List.all_eq_true.mp List.all_takeWhile
    · simpa using hvalue
    · simpa using List.all_eq_true.mp (List.all_takeWhile (p := (!endsValue ·)))
    · intro c hc
      simpa using eq_false_of_mem_head?_dropWhile hc
  next => cases h

theorem value?_eq_some_iff :
    value? line = some v ↔ ∃ indent gap tail, Names line v indent gap tail :=
  ⟨exists_names_of_value?, fun ⟨_, _, _, h⟩ => h.value?⟩

theorem value?_eq_none (h : ∀ v indent gap tail, ¬ Names line v indent gap tail) :
    value? line = none := by
  cases hline : value? line with
  | none => rfl
  | some v =>
    obtain ⟨indent, gap, tail, hnames⟩ := exists_names_of_value? hline
    exact absurd hnames (h v indent gap tail)

/-- What follows the value takes in a carriage return at the end of the line. -/
theorem value?_append_return (line : List Char) : value? (line ++ ['\r']) = value? line := by
  have hreturn : endsValue '\r' := by decide
  ext v
  rw [value?_eq_some_iff, value?_eq_some_iff]
  constructor
  · rintro ⟨indent, gap, tail, h⟩
    rcases List.eq_nil_or_concat' tail with rfl | ⟨tail, last, rfl⟩
    · have hlast : '\r' ∈ v := by
        obtain ⟨w, c, rfl⟩ := (List.eq_nil_or_concat' v).resolve_left h.value_ne
        have hc : '\r' = c := by simpa using congrArg List.getLast? h.eq
        exact List.mem_append_right w (List.mem_singleton.mpr hc)
      rw [h.value_plain _ hlast] at hreturn
      contradiction
    · have hsplit : line ++ ['\r'] = (indent ++ (keyword ++ (gap ++ (v ++ tail)))) ++ [last] := by
        simp [h.eq]
      obtain ⟨hline, -⟩ := List.append_inj' hsplit rfl
      refine ⟨indent, gap, tail, { h with eq := hline, tail_ends := fun c hc => ?_ }⟩
      exact h.tail_ends c (by simp [Option.mem_def.mp hc])
  · rintro ⟨indent, gap, tail, h⟩
    refine ⟨indent, gap, tail ++ ['\r'], { h with eq := by simp [h.eq], tail_ends := ?_ }⟩
    cases tail with
    | nil => simpa using hreturn
    | cons c tail => simpa using h.tail_ends

theorem value?_dropReturn (line : List Char) : value? (dropReturn line) = value? line := by
  unfold dropReturn
  split
  next hlast =>
    rw [← value?_append_return, List.dropLast_append_getLast? _ hlast]
  next => rfl

theorem filterMap_linesOf (pieces : List (List Char)) :
    (linesOf pieces).filterMap value? = pieces.filterMap value? := by
  fun_induction linesOf pieces with
  | case1 => rfl
  | case2 last hempty =>
    rw [List.isEmpty_iff.mp hempty]
    rfl
  | case3 last => rfl
  | case4 line rest hrest ih =>
    rw [List.filterMap_cons, List.filterMap_cons, value?_dropReturn, ih]

/-- The values that the lines of the text name. -/
def values (text : List Char) : List (List Char) := (text.splitOn '\n').filterMap value?

theorem values_append (s t : List Char) : values (s ++ '\n' :: t) = values s ++ values t := by
  rw [values, List.splitOn_append_cons_self, List.filterMap_append]
  rfl

theorem values_append_return {line : List Char} (h : '\n' ∉ line) :
    values (line ++ ['\r']) = values line := by
  rw [values, values, List.splitOn_eq_singleton h, List.splitOn_eq_singleton (by simp [h]),
    List.filterMap_cons, List.filterMap_cons, value?_append_return]

/-- The text with a carriage return before every line feed. -/
def withReturns (text : List Char) : List Char :=
  text.flatMap fun c => if c = '\n' then ['\r', '\n'] else [c]

/-- The line read so far, `line`, grows until it ends. -/
theorem values_append_withReturns {line : List Char} (h : '\n' ∉ line) (text : List Char) :
    values (line ++ withReturns text) = values (line ++ text) := by
  induction text generalizing line with
  | nil => rfl
  | cons c text ih =>
    by_cases hc : c = '\n'
    · subst hc
      have hends : withReturns ('\n' :: text) = '\r' :: '\n' :: withReturns text := rfl
      have hrest : values ([] ++ withReturns text) = values ([] ++ text) := ih (by simp)
      rw [hends, List.append_cons, values_append, values_append, values_append_return h]
      exact congrArg _ hrest
    · have hgoes : withReturns (c :: text) = c :: withReturns text := by simp [withReturns, hc]
      rw [hgoes, List.append_cons line c text, List.append_cons line c (withReturns text)]
      exact ih (by simp [h, Ne.symm hc])

instance : Append Reading := ⟨fun r s => ⟨r.servers ++ s.servers, r.skipped ++ s.skipped⟩⟩

/-- The values read as addresses. -/
def Reading.ofValues (values : List (List Char)) : Reading where
  servers := values.filterMap AnyAddress.ofChars?
  skipped := (values.filter fun v => (AnyAddress.ofChars? v).isNone).map String.ofList

theorem Reading.ofValues_append (xs ys : List (List Char)) :
    ofValues (xs ++ ys) = ofValues xs ++ ofValues ys := by
  unfold ofValues
  rw [List.filterMap_append, List.filter_append, List.map_append]
  rfl

theorem read_eq (text : List Char) : read text = .ofValues (values text) := by
  rw [values, ← filterMap_linesOf]
  rfl

theorem read_append (s t : List Char) : read (s ++ '\n' :: t) = read s ++ read t := by
  rw [read_eq, values_append, Reading.ofValues_append, ← read_eq, ← read_eq]

theorem read_withReturns (text : List Char) : read (withReturns text) = read text := by
  rw [read_eq, read_eq, ← List.nil_append (withReturns text),
    values_append_withReturns (by simp), List.nil_append]

/-- Two texts with a line end between them are read as each by itself, addresses and values that
are none, and line feeds may have carriage returns before them or not. -/
theorem read_line_by_line (s t : List Char) :
    ((read (s ++ '\n' :: t)).servers = (read s).servers ++ (read t).servers ∧
      (read (s ++ '\n' :: t)).skipped = (read s).skipped ++ (read t).skipped) ∧
    read (withReturns s) = read s := by
  rw [read_append]
  exact ⟨⟨rfl, rfl⟩, read_withReturns s⟩

/-- A value that is no address, between two that are. -/
example :
    read "nameserver 10.0.0.53\nnameserver 10.0.0.256\r\n\tnameserver ::1#loopback".toList =
      { servers := [⟨.v4, ⟨0x0a000035⟩⟩, ⟨.v6, ⟨1⟩⟩], skipped := ["10.0.0.256"] } := by
  decide

end LinkConfig.Resolver
