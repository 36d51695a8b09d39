import LinkConfig.Address.Text
import LinkConfig.Source

/-! # Routes

A route leads to a destination, directly if its gateway is the unspecified address. A metric
ranks routes, the lowest first; an `mss` of zero is unset.
-/
namespace LinkConfig

structure Route (F : Family) where
  network : Address F
  prefixLen : UInt8
  gateway : Address F := .unspecified
  metric : UInt32 := 0
  mss : UInt32 := 0
  source : Source := .unknown
deriving DecidableEq

namespace Route
variable {F : Family}

/-- The route to everywhere. -/
def everywhere (gateway : Address F) (metric : UInt32) : Route F :=
  { network := .unspecified, prefixLen := 0, gateway, metric }

/-- The network of all zeros counts as everywhere, whatever the length of its prefix. -/
def isDefault (r : Route F) : Bool := r.network.isUnspecified

def hasGateway (r : Route F) : Bool := !r.gateway.isUnspecified

/-- Routes with one destination are versions of one route. -/
def destination (r : Route F) : Address F × UInt8 := (r.network, r.prefixLen)

def destinationText (r : Route F) : String := s!"{r.network.text}/{r.prefixLen}"

def text (r : Route F) : String :=
  let via := if r.hasGateway then s!" via {r.gateway.text}" else ""
  let mss := if r.mss = 0 then "" else s!" mss {r.mss}"
  s!"{r.destinationText}{via} metric {r.metric}{mss} src {r.source.name}"

/-- What a route becomes when its destination is reported again. -/
def updated (old new : Route F) : Route F := { new with source := max old.source new.source }

@[simp] theorem destination_updated (old new : Route F) :
    (old.updated new).destination = new.destination := rfl

end Route

end LinkConfig
