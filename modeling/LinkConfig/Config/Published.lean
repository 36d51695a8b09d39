import LinkConfig.Config

/-! # What a configuration publishes

Leases, sources and the switches are bookkeeping and not published. Two configurations count as
equal if they publish the same, in the same order.
-/
namespace LinkConfig

structure PublishedRoute (F : Family) where
  network : Address F
  prefixLen : UInt8
  gateway : Address F
  metric : UInt32
deriving DecidableEq

structure Published (F : Family) where
  gateway : Option (Address F)
  addresses : List (Address F × UInt8)
  routes : List (PublishedRoute F)
  nameservers : List (Address F)
  domains : List String
  searches : List String
deriving DecidableEq

variable {F : Family}

namespace Published

/-- The fields in which `p` and `q` differ. -/
def diff (p q : Published F) : Changes where
  gateway := p.gateway != q.gateway
  addresses := p.addresses != q.addresses
  routes := p.routes != q.routes
  nameservers := p.nameservers != q.nameservers
  domains := p.domains != q.domains
  searches := p.searches != q.searches

/-- The part that a resolver needs. -/
def dns (p : Published F) : List (Address F) × List String × List String :=
  (p.nameservers, p.domains, p.searches)

theorem diff_eq_empty_iff {p q : Published F} : p.diff q = ∅ ↔ p = q := by
  cases p; cases q
  simp [diff, EmptyCollection.emptyCollection]

end Published

namespace Config

def published (c : Config F) : Published F where
  gateway := c.gateway
  addresses := c.addresses.map fun e => (e.address, e.prefixLen)
  routes := c.routes.map fun r => ⟨r.network, r.prefixLen, r.gateway, r.metric⟩
  nameservers := c.nameservers
  domains := c.domains
  searches := c.searches

/-- Whether the two publish the same. -/
def agrees (c d : Config F) : Bool := c.published == d.published

end Config

end LinkConfig
