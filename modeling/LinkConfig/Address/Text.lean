import LinkConfig.Address
import LinkConfig.Text

/-! # Addresses as text

IPv4 addresses are written as four decimal octets with dots between them, IPv6 addresses as eight
hexadecimal groups with colons between them. A double colon stands, once, for one or more groups of
zero, and the last two groups may be written as a dotted quad.

The written form is unique: `::` replaces the longest run of at least two zero groups, the first
of several, and only the addresses `::ffff:a.b.c.d` end in a dotted quad.
-/
namespace LinkConfig.Dotted
open Text

def write (octets : List Nat) : List Char := ['.'].intercalate (octets.map decimal)

/-- An octet is written without leading zeros. -/
def readOctet (cs : List Char) : Option Nat :=
  if cs.head? = some '0' ∧ cs.length ≠ 1 then none else (readNat 10 cs).filter (· < 256)

def readOctets (cs : List Char) : Option (List Nat) :=
  ((cs.splitOn '.').mapM readOctet).filter (·.length = 4)

def read (cs : List Char) : Option (Address .v4) := (readOctets cs).map (.ofParts 256)

end LinkConfig.Dotted

namespace LinkConfig.Colon
open Text

/-- Length of the run of zeros that `gs` begins with. -/
def zeroRun (gs : List Nat) : Nat := (gs.takeWhile (· == 0)).length

/-- Where the longest run of zeros starts and how long it is; of two equal ones the first. -/
def longestZeroRun : List Nat → Nat × Nat
  | [] => (0, 0)
  | g :: gs =>
    let (start, len) := longestZeroRun gs
    if len ≤ zeroRun (g :: gs) then (0, zeroRun (g :: gs)) else (start + 1, len)

def writeGroups (gs : List Nat) : List Char := [':'].intercalate (gs.map (Nat.toDigits 16))

def writeShort (gs : List Nat) : List Char :=
  let (start, len) := longestZeroRun gs
  if 1 < len then writeGroups (gs.take start) ++ [':', ':'] ++ writeGroups (gs.drop (start + len))
  else writeGroups gs

def write (gs : List Nat) : List Char :=
  match gs with
  | [0, 0, 0, 0, 0, 0xffff, h, l] =>
    "::ffff:".toList ++ Dotted.write [h / 256, h % 256, l / 256, l % 256]
  | _ => writeShort gs

/-- A group has one to four digits. -/
def readGroup (cs : List Char) : Option Nat := if cs.length ≤ 4 then readNat 16 cs else none

/-- A dotted quad in place of two groups. -/
def readQuad (cs : List Char) : Option (List Nat) :=
  match Dotted.readOctets cs with
  | some [a, b, c, d] => some [256 * a + b, 256 * c + d]
  | _ => none

/-- Groups of which the last two may be written as a quad. -/
def readPieces : List (List Char) → Option (List Nat)
  | [] => some []
  | [p] => readQuad p <|> (readGroup p).map ([·])
  | p :: ps => do return (← readGroup p) :: (← readPieces ps)

/-- No groups at all are written by no character. -/
def pieces (cs : List Char) : List (List Char) := if cs.isEmpty then [] else cs.splitOn ':'

/-- What stands before and after the first double colon. -/
def cut : List Char → Option (List Char × List Char)
  | [] => none
  | [_] => none
  | c :: d :: cs =>
    if c = ':' ∧ d = ':' then some ([], cs)
    else (cut (d :: cs)).map fun (l, r) => (c :: l, r)

def readGroups (cs : List Char) : Option (List Nat) :=
  match cut cs with
  | none => (readPieces (pieces cs)).filter (·.length = 8)
  | some (l, r) => do
    let head ← (pieces l).mapM readGroup
    let tail ← readPieces (pieces r)
    let given := head.length + tail.length
    if given < 8 then some (head ++ List.replicate (8 - given) 0 ++ tail) else none

def read (cs : List Char) : Option (Address .v6) := (readGroups cs).map (.ofParts 65536)

end LinkConfig.Colon

namespace LinkConfig
variable {F : Family}

namespace Address

def chars : {F : Family} → Address F → List Char
  | .v4, a => Dotted.write a.octets
  | .v6, a => Colon.write a.groups

def text (a : Address F) : String := String.ofList a.chars

end Address

namespace AnyAddress

def chars (a : AnyAddress) : List Char := a.address.chars

def text (a : AnyAddress) : String := a.address.text

/-- Reads an address of either family; no blanks are allowed around it. -/
def ofChars? (cs : List Char) : Option AnyAddress :=
  (Dotted.read cs).map Address.widen <|> (Colon.read cs).map Address.widen

end AnyAddress

end LinkConfig
