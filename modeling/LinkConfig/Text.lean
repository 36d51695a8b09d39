/-! # Texts

Texts are taken character by character. A blank is what Unicode calls white space, which is more
than the four characters of `Char.isWhitespace`. `Nat.toDigits` writes a number in a base up to
sixteen, and `readNat` is the way back.

A line ends at a line feed or at the end of the text. A carriage return right before the line feed
belongs to the line's end; one before the end of the text does not.
-/
namespace LinkConfig.Text

/-- The ranges of code points with the property `White_Space`, ends included. -/
def blankRanges : List (Nat × Nat) :=
  [(0x9, 0xd), (0x20, 0x20), (0x85, 0x85), (0xa0, 0xa0), (0x1680, 0x1680), (0x2000, 0x200a),
   (0x2028, 0x2029), (0x202f, 0x202f), (0x205f, 0x205f), (0x3000, 0x3000)]

def inRanges (ranges : List (Nat × Nat)) (c : Char) : Bool :=
  ranges.any fun r => r.1 ≤ c.toNat && c.toNat ≤ r.2

def isBlank (c : Char) : Bool := inRanges blankRanges c

def trimStart (s : List Char) : List Char := s.dropWhile isBlank

def trimEnd (s : List Char) : List Char := (s.reverse.dropWhile isBlank).reverse

def trim (s : List Char) : List Char := trimEnd (trimStart s)

/-- The table holds 25 characters. -/
example : (blankRanges.map fun r => r.2 + 1 - r.1).sum = 25 := rfl

def decimal (n : Nat) : List Char := Nat.toDigits 10 n

/-- Letters count from ten, in either case. -/
def digit? (base : Nat) (c : Char) : Option Nat :=
  (if '0' ≤ c ∧ c ≤ '9' then some (c.toNat - '0'.toNat)
   else if 'a' ≤ c ∧ c ≤ 'f' then some (c.toNat - 'a'.toNat + 10)
   else if 'A' ≤ c ∧ c ≤ 'F' then some (c.toNat - 'A'.toNat + 10)
   else none).filter (· < base)

/-- Continues the number `n` with the digits that follow it. -/
def readDigits (base n : Nat) : List Char → Option Nat
  | [] => some n
  | c :: cs => (digit? base c).bind fun d => readDigits base (base * n + d) cs

/-- The number that is written by digits alone, at least one of them and any number of leading
zeros. -/
def readNat (base : Nat) (cs : List Char) : Option Nat :=
  if cs.isEmpty then none else readDigits base 0 cs

/-- A number that fits in a byte; a plus sign may come first. -/
def readByte (cs : List Char) : Option UInt8 :=
  let digits := match cs with
    | '+' :: ds => ds
    | ds => ds
  ((readNat 10 digits).filter (· < 256)).map UInt8.ofNat

def dropReturn (line : List Char) : List Char :=
  if line.getLast? = some '\r' then line.dropLast else line

def linesOf : List (List Char) → List (List Char)
  | [] => []
  | [last] => if last.isEmpty then [] else [last]
  | line :: rest => dropReturn line :: linesOf rest

def lines (s : List Char) : List (List Char) := linesOf (s.splitOn '\n')

end LinkConfig.Text
