import LinkConfig.Address.Text
import LinkConfig.Source

/-! # Address entries

An address as it is assigned to a link: with the prefix of its network, a lease, flags of one bit
each and the source that contributed it. `AddressEntry.updated` says what becomes of an entry when
the same address is reported again.
-/
namespace LinkConfig

/-- How long an address is valid and preferred, in seconds from `timestamp`. -/
structure Lease where
  timestamp : UInt32
  lifetime : UInt32
  preferred : UInt32
deriving DecidableEq

namespace Lease

/-- The lifetime without an end. -/
def unlimited : UInt32 := 0xffffffff

def permanent : Lease := ⟨0, unlimited, unlimited⟩

def isPermanent (l : Lease) : Bool := l.lifetime == unlimited

/-- The second at which the lease ends, if it does. A lifetime of zero has no end either. -/
def expiry (l : Lease) : Option Nat :=
  if l.lifetime = unlimited ∨ l.lifetime = 0 then none
  else some (l.timestamp.toNat + l.lifetime.toNat)

/-- A lease without an end is the longest. -/
def compareExpiry (k l : Lease) : Ordering :=
  match k.expiry, l.expiry with
  | none, none => .eq
  | none, some _ => .gt
  | some _, none => .lt
  | some m, some n => compare m n

end Lease

namespace Flag

def temporary : UInt32 := 0x001
/-- Another name of the same bit. -/
def secondary : UInt32 := temporary
def noDad : UInt32 := 0x002
def optimistic : UInt32 := 0x004
def dadFailed : UInt32 := 0x008
def homeAddress : UInt32 := 0x010
def deprecated : UInt32 := 0x020
def tentative : UInt32 := 0x040
def permanent : UInt32 := 0x080
def manageTempAddr : UInt32 := 0x100
def noPrefixRoute : UInt32 := 0x200

end Flag

structure AddressEntry (F : Family) where
  address : Address F
  prefixLen : UInt8
  lease : Lease := .permanent
  flags : UInt32 := 0
  source : Source := .unknown
deriving DecidableEq

namespace AddressEntry
variable {F : Family}

def hasFlag (e : AddressEntry F) (flag : UInt32) : Bool := e.flags &&& flag != 0

/-- Another host may still turn out to have the address. -/
def isTentative (e : AddressEntry F) : Bool := e.hasFlag Flag.tentative

def isTemporary (e : AddressEntry F) : Bool := e.hasFlag Flag.temporary

/-- Whether the address takes part in privacy extensions at all. -/
def usesPrivacy (e : AddressEntry F) : Bool :=
  e.hasFlag (Flag.temporary ||| Flag.manageTempAddr)

/-- Whether the prefix of the address is left without a route. -/
def lacksPrefixRoute (e : AddressEntry F) : Bool := e.hasFlag Flag.noPrefixRoute

def isPermanent (e : AddressEntry F) : Bool := e.lease.isPermanent

def expiry (e : AddressEntry F) : Option Nat := e.lease.expiry

def text (e : AddressEntry F) : String :=
  let lease := if e.isPermanent then "forever" else
    s!"{e.lease.lifetime}sec pref {e.lease.preferred}sec lifetime {e.lease.timestamp}"
  let tentative := if e.isTentative then " tentative" else ""
  s!"{e.address.text}/{e.prefixLen} lft {lease}{tentative} src {e.source.name}"

/-- A lease outlives a report that ends earlier. It also outlives a report of the running system
that ends at the same time, unless the entry came from there itself. -/
def keepsLease (old new : AddressEntry F) : Bool :=
  match old.lease.compareExpiry new.lease with
  | .gt => true
  | .eq => new.source == .kernel && old.source != .kernel
  | .lt => false

/-- What an entry becomes when its address is reported again: the new one, with the higher of the
two sources and, where it is kept, the old lease. -/
def updated (old new : AddressEntry F) : AddressEntry F :=
  { new with
    lease := if old.keepsLease new then old.lease else new.lease
    source := max old.source new.source }

@[simp] theorem address_updated (old new : AddressEntry F) :
    (old.updated new).address = new.address := rfl

end AddressEntry

end LinkConfig
