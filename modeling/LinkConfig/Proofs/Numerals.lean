import LinkConfig.Text

/-! # Numbers written and read

In every base up to sixteen the digits of a number are read back as that number, and no character
that is not a digit of the base stands among them. In base ten every row of digits is read, as the
number that it writes.
-/
namespace LinkConfig.Text

variable {base n d : Nat} {c : Char}

/-- A digit of a base is one of every larger base. -/
theorem digit?_eq_filter (hb : base ≤ 16) : digit? base c = (digit? 16 c).filter (· < base) := by
  rw [digit?, digit?, Option.filter_filter]
  congr 1
  funext k
  rw [← Bool.decide_and, decide_eq_decide]
  omega

theorem digit?_digitChar (hb : base ≤ 16) (hd : d < base) : digit? base d.digitChar = some d := by
  have hsixteen : ∀ d < 16, digit? 16 d.digitChar = some d := by decide
  rw [digit?_eq_filter hb, hsixteen d (Nat.lt_of_lt_of_le hd hb), Option.filter_some,
    if_pos (by simpa)]

theorem readDigits_append (cs ds : List Char) :
    readDigits base n (cs ++ ds) = (readDigits base n cs).bind (readDigits base · ds) := by
  induction cs generalizing n with
  | nil => rfl
  | cons c cs ih =>
    simp only [List.cons_append, readDigits, Option.bind_assoc]
    exact Option.bind_congr fun d _ => ih

theorem readDigits_toDigits (hb : 1 < base) (h16 : base ≤ 16) (n : Nat) :
    readDigits base 0 (Nat.toDigits base n) = some n := by
  induction n using Nat.strongRecOn with
  | ind n ih =>
    rw [Nat.toDigits_eq_if hb]
    split
    next hlt => simp [readDigits, digit?_digitChar h16 hlt]
    next hle =>
      have hdiv : n / base < n := Nat.div_lt_self (by omega) hb
      have hmod : n % base < base := Nat.mod_lt _ (by omega)
      rw [readDigits_append, ih _ hdiv]
      simp [readDigits, digit?_digitChar h16 hmod, Nat.div_add_mod]

theorem readNat_toDigits (hb : 1 < base) (h16 : base ≤ 16) (n : Nat) :
    readNat base (Nat.toDigits base n) = some n := by
  rw [readNat, if_neg (by simp), readDigits_toDigits hb h16]

theorem readDigits_eq_none_of_mem {cs : List Char} (hmem : c ∈ cs) (hc : digit? base c = none) :
    readDigits base n cs = none := by
  induction cs generalizing n with
  | nil => cases hmem
  | cons x xs ih =>
    rw [readDigits, Option.bind_eq_none_iff]
    intro d hx
    obtain rfl | hxs := List.mem_cons.mp hmem
    · cases hc.symm.trans hx
    · exact ih hxs

theorem readNat_eq_none_of_mem {cs : List Char} (hmem : c ∈ cs) (hc : digit? base c = none) :
    readNat base cs = none := by
  rw [readNat, readDigits_eq_none_of_mem hmem hc, ite_self]

theorem not_mem_toDigits (hb : 1 < base) (h16 : base ≤ 16) (hc : digit? base c = none) (n : Nat) :
    c ∉ Nat.toDigits base n := by
  intro hmem
  cases (readNat_toDigits hb h16 n).symm.trans (readNat_eq_none_of_mem hmem hc)

theorem isDigit_iff_le : c.isDigit ↔ '0' ≤ c ∧ c ≤ '9' := by
  rw [Char.isDigit, Bool.and_eq_true, decide_eq_true_eq, decide_eq_true_eq]
  rfl

theorem digit?_ten (c : Char) :
    digit? 10 c = if c.isDigit then some (c.toNat - '0'.toNat) else none := by
  simp only [digit?, isDigit_iff_le]
  split
  next h =>
    have hle : c.toNat ≤ '9'.toNat := h.2
    have hlt : c.toNat - '0'.toNat < 10 := by
      simp only [Char.reduceToNat] at hle ⊢
      omega
    rw [Option.filter_some, if_pos (decide_eq_true hlt)]
  next =>
    -- a letter counts ten at least
    split
    · simp
    · split <;> simp

/-- Digits are read as the number that they write, of any length. -/
theorem readDigits_eq_some_iff {cs : List Char} {v : Nat} :
    readDigits 10 n cs = some v ↔ (∀ c ∈ cs, c.isDigit) ∧ Nat.ofDigitChars 10 cs n = v := by
  induction cs generalizing n with
  | nil => simp [readDigits]
  | cons c cs ih =>
    rw [readDigits, digit?_ten, Nat.ofDigitChars_cons, List.forall_mem_cons]
    by_cases hc : c.isDigit
    · rw [if_pos hc, Option.bind_some, ih, and_iff_right hc]
    · rw [if_neg hc, Option.bind_none]
      simp [hc]

theorem readNat_eq_some_iff {cs : List Char} {v : Nat} :
    readNat 10 cs = some v ↔
      cs ≠ [] ∧ (∀ c ∈ cs, c.isDigit) ∧ Nat.ofDigitChars 10 cs 0 = v := by
  rw [readNat, ← readDigits_eq_some_iff]
  cases cs <;> simp

/-- What does not begin with a plus sign is digits from its first character on. -/
theorem readByte_of_head? {cs : List Char} (h : cs.head? ≠ some '+') :
    readByte cs = ((readNat 10 cs).filter (· < 256)).map UInt8.ofNat := by
  unfold readByte
  split
  · next ds => exact absurd rfl h
  · rfl

/-- No number but zero begins with a zero. -/
theorem eq_zero_of_head?_toDigits (hb : 1 < base)
    (h : (Nat.toDigits base n).head? = some '0') : n = 0 := by
  induction n using Nat.strongRecOn with
  | ind n ih =>
    rw [Nat.toDigits_eq_if hb] at h
    split at h
    next => simpa using h
    next hle =>
      rw [List.head?_append, List.head?_eq_some_head Nat.toDigits_ne_nil, Option.some_or,
        ← List.head?_eq_some_head] at h
      have hzero := ih _ (Nat.div_lt_self (by omega) hb) h
      rw [Nat.div_eq_zero_iff] at hzero
      omega

end LinkConfig.Text
