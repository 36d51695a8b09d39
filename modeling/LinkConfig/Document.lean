import LinkConfig.Text

/-! # JSON documents

A document is a value of objects, arrays, texts and numbers; members keep their order. It is
written in a layout: on one line, or with two blanks for each level of depth.
-/
namespace LinkConfig

inductive Document where
  | text (s : String)
  | number (n : Nat)
  | array (items : List Document)
  | object (members : List (String × Document))

namespace Document

/-- Four hexadecimal digits. -/
def hex4 (n : Nat) : List Char :=
  [n / 4096 % 16, n / 256 % 16, n / 16 % 16, n % 16].map Nat.digitChar

/-- Control characters are escaped, by a letter where there is one, and so are the quote and the
backslash. -/
def escape (c : Char) : List Char :=
  match c with
  | '"' => ['\\', '"']
  | '\\' => ['\\', '\\']
  | '\x08' => ['\\', 'b']
  | '\t' => ['\\', 't']
  | '\n' => ['\\', 'n']
  | '\x0c' => ['\\', 'f']
  | '\r' => ['\\', 'r']
  | c => if c.toNat < 0x20 then ['\\', 'u'] ++ hex4 c.toNat else [c]

def quote (s : String) : List Char := ['"'] ++ s.toList.flatMap escape ++ ['"']

/-- What stands before an item at a depth, and between a key and its value. -/
structure Layout where
  newline : Nat → List Char
  colon : List Char

def Layout.compact : Layout := ⟨fun _ => [], [':']⟩

def Layout.indented : Layout := ⟨fun depth => '\n' :: List.replicate (2 * depth) ' ', [':', ' ']⟩

mutual
def writeAt (l : Layout) (depth : Nat) : Document → List Char
  | text s => quote s
  | number n => Text.decimal n
  | array [] => ['[', ']']
  | array (d :: ds) =>
    ['['] ++ l.newline (depth + 1) ++ writeAt l (depth + 1) d ++ writeItems l (depth + 1) ds ++
      l.newline depth ++ [']']
  | object [] => ['\x7b', '\x7d']
  | object ((k, d) :: ms) =>
    ['\x7b'] ++ l.newline (depth + 1) ++ quote k ++ l.colon ++ writeAt l (depth + 1) d ++
      writeMembers l (depth + 1) ms ++ l.newline depth ++ ['\x7d']

def writeItems (l : Layout) (depth : Nat) : List Document → List Char
  | [] => []
  | d :: ds => [','] ++ l.newline depth ++ writeAt l depth d ++ writeItems l depth ds

def writeMembers (l : Layout) (depth : Nat) : List (String × Document) → List Char
  | [] => []
  | (k, d) :: ms =>
    [','] ++ l.newline depth ++ quote k ++ l.colon ++ writeAt l depth d ++ writeMembers l depth ms
end

def write (l : Layout) (d : Document) : List Char := writeAt l 0 d

end Document

end LinkConfig
