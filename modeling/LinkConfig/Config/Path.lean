import LinkConfig.Config
import LinkConfig.Text

/-! # Where configurations are published

Paths are numbered, across both families, below a root of the family's or of one's own.
-/
namespace LinkConfig

structure PathPool where
  /-- The root of all paths, in place of the families' own. -/
  root : Option String := none
  next : UInt32 := 0
deriving DecidableEq

namespace PathPool

/-- The root without slashes at its end. -/
def stem (a : PathPool) (F : Family) : List Char :=
  ((a.root.getD F.objectRoot).toList.reverse.dropWhile (· == '/')).reverse

/-- The next path. The numbers start again after the last of 32 bits. -/
def take (a : PathPool) (F : Family) : String × PathPool :=
  (String.ofList (a.stem F ++ ['/'] ++ Text.decimal a.next.toNat), { a with next := a.next + 1 })

end PathPool

namespace Config
variable {F : Family}

/-- Gives the configuration a path, unless it has one. -/
def publish (c : Config F) (a : PathPool) : Config F × PathPool :=
  match c.path with
  | some _ => (c, a)
  | none =>
    let (path, a) := a.take F
    ({ c with path := some path }, a)

end Config

end LinkConfig
