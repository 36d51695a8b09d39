import LinkConfig.Platform

/-! # Links in memory

A platform whose links are a table in memory. Reads and writes can be made to fail.
-/
namespace LinkConfig

structure Link (F : Family) where
  master : Option UInt32 := none
  addresses : List (AddressEntry F) := []
  routes : List (Route F) := []
deriving DecidableEq

/-- The links that are known, by index. -/
structure LinkTable (F : Family) where
  link? : UInt32 → Option (Link F) := fun _ => none
  refusesReads : Bool := false
  refusesWrites : Bool := false

namespace LinkTable
variable {F : Family} {α : Type}

/-- Stores what `f` makes of the link, which need not be known yet. -/
def alter (t : LinkTable F) (i : UInt32) (f : Option (Link F) → Option (Link F)) : LinkTable F :=
  { t with link? := fun j => if j = i then f (t.link? i) else t.link? j }

/-- Changes a link, adding it first if it is unknown. -/
def update (t : LinkTable F) (i : UInt32) (f : Link F → Link F) : LinkTable F :=
  t.alter i fun l => some (f (l.getD {}))

def insert (t : LinkTable F) (i : UInt32) : LinkTable F := t.update i id

/-- Adds a link that belongs to `master`. -/
def enslave (t : LinkTable F) (i master : UInt32) : LinkTable F :=
  t.update i fun l => { l with master := some master }

def erase (t : LinkTable F) (i : UInt32) : LinkTable F := t.alter i fun _ => none

def putAddresses (t : LinkTable F) (i : UInt32) (addresses : List (AddressEntry F)) : LinkTable F :=
  t.update i fun l => { l with addresses }

def putRoutes (t : LinkTable F) (i : UInt32) (routes : List (Route F)) : LinkTable F :=
  t.update i fun l => { l with routes }

/-- The addresses of a link; an unknown one has none. -/
def addressesOf (t : LinkTable F) (i : UInt32) : List (AddressEntry F) :=
  (t.link? i).elim [] Link.addresses

/-- The routes of a link; an unknown one has none. -/
def routesOf (t : LinkTable F) (i : UInt32) : List (Route F) := (t.link? i).elim [] Link.routes

def known (t : LinkTable F) (i : UInt32) : Except Fault (Link F) :=
  match t.link? i with
  | some l => .ok l
  | none => .error (.linkNotFound i)

/-- Refuses a read if reads fail, before it looks for the link. -/
def read (t : LinkTable F) (i : UInt32) (name : String) (f : Link F → α) : Except Fault α :=
  if t.refusesReads then .error ((Fault.platform "read refused").during name)
  else (t.known i).map f

/-- Refuses a write if writes fail, before it looks for the link. No link is added. -/
def write (t : LinkTable F) (i : UInt32) (name : String) (f : Link F → Link F) :
    Written (LinkTable F) :=
  if t.refusesWrites then .refused t ((Fault.platform "write refused").during name)
  else match t.known i with
    | .error fault => .refused t fault
    | .ok l => .done (t.alter i fun _ => some (f l))

/-- The table as a platform. -/
def platform : Platform F (LinkTable F) where
  hasMaster t i := t.read i "get link" fun l => l.master.isSome
  addresses t i := t.read i "get addresses" Link.addresses
  routes t i := t.read i "get routes" Link.routes
  writeAddresses t i addresses := t.write i "sync addresses" fun l => { l with addresses }
  writeRoutes t i routes := t.write i "sync routes" fun l => { l with routes }

@[simp] theorem link?_alter_self (t : LinkTable F) (i : UInt32)
    (f : Option (Link F) → Option (Link F)) : (t.alter i f).link? i = f (t.link? i) := by
  simp [alter]

theorem link?_alter_of_ne (t : LinkTable F) {i j : UInt32} (h : j ≠ i)
    (f : Option (Link F) → Option (Link F)) : (t.alter i f).link? j = t.link? j := by
  simp [alter, h]

end LinkTable

end LinkConfig
