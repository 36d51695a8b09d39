import LinkConfig.Address
import LinkConfig.Config
import LinkConfig.Platform

/-! # Committing to a link

The addresses of a configuration and the routes that do not come by themselves are written to a
link. Both writes are tried, whatever becomes of the other.
-/
namespace LinkConfig.Config
variable {F : Family} {σ : Type}

/-- Whether the prefix of an address covers the destination. An address that lacks a prefix route
does not count. -/
def isDirect (c : Config F) (network : Address F) (len : UInt8) : Bool :=
  c.addresses.any fun e =>
    e.prefixLen ≤ len && network.within e.address e.prefixLen && !e.lacksPrefixRoute

/-- Whether the route has to be written: it has a gateway or leads beyond the addresses' own
prefixes, and it is no default route of a link that never supplies one. -/
def writes (c : Config F) (r : Route F) : Bool :=
  (r.hasGateway || !c.isDirect r.network r.prefixLen) && (!c.neverDefault || r.prefixLen != 0)

def routesToWrite (c : Config F) : List (Route F) := c.routes.filter c.writes

/-- Which of the two writes succeeded, and the state they left. -/
structure Committed (F : Family) (σ : Type) where
  state : σ
  addresses : Bool
  routes : Bool
  log : List (Event F)

def Committed.isSuccess (r : Committed F σ) : Bool := r.addresses && r.routes

/-- The event that tells why a write was refused, if it was. -/
def unwritten (event : Fault → Event F) : Except Fault Unit → List (Event F)
  | .ok () => []
  | .error fault => [event fault]

/-- Goes on from the state that the first write left, whatever was answered to it. -/
def commit (c : Config F) (p : Platform F σ) (s : σ) (i : UInt32) : Committed F σ :=
  let first := p.writeAddresses s i c.addresses
  let chosen := c.routesToWrite
  let second := p.writeRoutes first.state i chosen
  { state := second.state, addresses := first.isOk, routes := second.isOk
    log := unwritten (.addressesUnwritten i) first.result ++
      [.routesChosen i chosen.length c.routes.length] ++
      unwritten (.routesUnwritten i) second.result }

end LinkConfig.Config
