import LinkConfig.Address

/-! # Settings

What the user declares for one family of a connection: how addresses are obtained, static
addresses and routes, and what replaces the resolver data that comes by itself.
-/
namespace LinkConfig

inductive Method where
  | disabled
  | linkLocal
  | auto
  | manual
deriving DecidableEq

structure DeclaredAddress (F : Family) where
  address : Address F
  prefixLen : UInt8
  gateway : Option (Address F) := none
deriving DecidableEq

/-- A metric of zero leaves the choice to the connection. -/
structure DeclaredRoute (F : Family) where
  destination : Address F
  prefixLen : UInt8
  nextHop : Option (Address F) := none
  metric : UInt32 := 0
deriving DecidableEq

structure Setting (F : Family) where
  method : Method := .disabled
  addresses : List (DeclaredAddress F) := []
  routes : List (DeclaredRoute F) := []
  nameservers : List (Address F) := []
  searches : List String := []
  neverDefault : Bool := false
  ignoreAutoRoutes : Bool := false
  ignoreAutoDns : Bool := false
deriving DecidableEq

namespace Setting
variable {F : Family}

/-- The setting of a link without configuration. -/
def disabled : Setting F := {}

/-- The gateway that the setting asks for: the first one given with an address. -/
def gateway (s : Setting F) : Option (Address F) :=
  s.addresses.findSome? fun a => a.gateway.bind Address.specified?

end Setting

end LinkConfig
