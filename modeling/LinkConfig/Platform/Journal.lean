import LinkConfig.Platform.Memory

/-! # Commands as data

A `Command` is something that a table of links may be asked to do: to change a link, or to begin or
cease to refuse reads or writes. A table that is kept with a journal remembers what it was asked and
did, so that its state can be told from its history.
-/
namespace LinkConfig.LinkTable

/-- A change to one link. -/
inductive Change (F : Family) where
  | insert
  | enslave (master : UInt32)
  | erase
  | putAddresses (addresses : List (AddressEntry F))
  | putRoutes (routes : List (Route F))
  /-- As a platform is asked to, which it may refuse. -/
  | writeAddresses (addresses : List (AddressEntry F))
  | writeRoutes (routes : List (Route F))
deriving DecidableEq

inductive Command (F : Family) where
  | on (i : UInt32) (change : Change F)
  | refuseReads (refuse : Bool)
  | refuseWrites (refuse : Bool)
deriving DecidableEq

variable {F : Family}

def Change.make (t : LinkTable F) (i : UInt32) : Change F → Written (LinkTable F)
  | insert => .done (t.insert i)
  | enslave master => .done (t.enslave i master)
  | erase => .done (t.erase i)
  | putAddresses addresses => .done (t.putAddresses i addresses)
  | putRoutes routes => .done (t.putRoutes i routes)
  | writeAddresses addresses => platform.writeAddresses t i addresses
  | writeRoutes routes => platform.writeRoutes t i routes

def Command.carryOut (t : LinkTable F) : Command F → Written (LinkTable F)
  | on i change => change.make t i
  | refuseReads refuse => .done { t with refusesReads := refuse }
  | refuseWrites refuse => .done { t with refusesWrites := refuse }

/-- A table of links, with the commands that were carried out on it, the latest first. -/
structure Journal (F : Family) where
  table : LinkTable F := {}
  done : List (Command F) := []

namespace Journal

/-- Keeps what the command left, and remembers the command unless it was refused. -/
def perform (s : Journal F) (c : Command F) : Journal F :=
  let w := c.carryOut s.table
  ⟨w.state, if w.isOk then c :: s.done else s.done⟩

/-- The journal of a table that was empty at first. -/
def run (cs : List (Command F)) : Journal F := cs.foldl perform {}

end Journal

end LinkConfig.LinkTable
