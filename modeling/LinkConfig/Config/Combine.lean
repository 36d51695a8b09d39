import LinkConfig.Config.Edit
import LinkConfig.Config.Published

/-! # Whole configurations

Contributions are merged into a configuration and withdrawn from it again, and one configuration
takes the place of another.
-/
namespace LinkConfig.Config
variable {F : Family}

/-- Adds every entry of `src`. Its gateway and its MSS only fill a gap. -/
def merge (c src : Config F) : Outcome F :=
  (Outcome.start c)
    |>.forEach src.addresses insertAddress
    |>.forEach src.nameservers insertNameserver
    |>.andIf c.gateway.isNone (·.setGateway src.gateway)
    |>.forEach src.routes insertRoute
    |>.forEach src.domains insertDomain
    |>.forEach src.searches insertSearch
    |>.andIf (c.mss == 0) (·.setMss src.mss)

def dropAddress (c : Config F) (e : AddressEntry F) : Outcome F :=
  if c.addresses.any (·.address == e.address) then
    ⟨{ c with addresses := c.addresses.eraseP (·.address == e.address) }, .only .addresses, []⟩
  else .start c

def dropRoute (c : Config F) (r : Route F) : Outcome F :=
  if c.routes.any (·.destination == r.destination) then
    ⟨{ c with routes := c.routes.eraseP (·.destination == r.destination) }, .only .routes, []⟩
  else .start c

def dropNameserver (c : Config F) (a : Address F) : Outcome F :=
  if a ∈ c.nameservers then
    ⟨{ c with nameservers := c.nameservers.erase a }, .only .nameservers, []⟩
  else .start c

def dropDomain (c : Config F) (domain : String) : Outcome F :=
  if domain ∈ c.domains then ⟨{ c with domains := c.domains.erase domain }, .only .domains, []⟩
  else .start c

def dropSearch (c : Config F) (search : String) : Outcome F :=
  if search ∈ c.searches then ⟨{ c with searches := c.searches.erase search }, .only .searches, []⟩
  else .start c

/-- Withdraws every entry of `src`: addresses by value, routes by destination. The gateway and the
MSS go if they are those of `src`. -/
def withdraw (c src : Config F) : Outcome F :=
  (Outcome.start c)
    |>.forEach src.addresses dropAddress
    |>.forEach src.nameservers dropNameserver
    |>.andIf (src.gateway.isSome && c.gateway == src.gateway) (·.setGateway none)
    |>.forEach src.routes dropRoute
    |>.forEach src.domains dropDomain
    |>.forEach src.searches dropSearch
    |>.andIf (src.mss != 0 && c.mss == src.mss) (·.setMss 0)

/-- What replacing a configuration did. -/
structure Replacement (F : Family) where
  config : Config F
  /-- The published fields that differ. -/
  relevant : Changes
  /-- Whether anything differs, bookkeeping included. -/
  anyChanged : Bool
  log : List (Event F)

/-- The configuration with every field from `src` but the path. -/
def copy (c src : Config F) : Config F :=
  { c with
    addresses := src.addresses
    routes := src.routes
    gateway := src.gateway
    nameservers := src.nameservers
    domains := src.domains
    searches := src.searches
    mss := src.mss
    neverDefault := src.neverDefault
    privacy := src.privacy }

/-- Makes the configuration equal to `src`, apart from where it is published. -/
def replaceBy (c src : Config F) : Replacement F :=
  let relevant := c.published.diff src.published
  let any := !relevant.isEmpty || c.addresses != src.addresses || c.routes != src.routes ||
    c.mss != src.mss || c.neverDefault != src.neverDefault || c.privacy != src.privacy
  { config := if any then c.copy src else c
    relevant, anyChanged := any, log := [.replaced relevant any] }

end LinkConfig.Config
