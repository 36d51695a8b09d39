import LinkConfig.Config

/-! # Single edits

Each edit touches one part of a configuration and keeps the lists free of repetition: an address,
a route destination or a resolver entry that is there already is updated in place or left alone.
Address lists stay sorted.
-/
namespace LinkConfig.Config
variable {F : Family}

/-- Puts the addresses in order. -/
def sortAddresses (c : Config F) : Outcome F :=
  let (sorted, moved) := AddressEntry.arrange c.privacy c.addresses
  ⟨{ c with addresses := sorted }, .when moved .addresses, []⟩

/-- Replaces the addresses by `es`, in order. -/
def putAddresses (c : Config F) (es : List (AddressEntry F)) (event : Event F) : Outcome F :=
  ⟨{ c with addresses := AddressEntry.sort c.privacy es }, .only .addresses, [event]⟩

def insertAddress (c : Config F) (new : AddressEntry F) : Outcome F :=
  match c.addresses.find? (·.address == new.address) with
  | none => c.putAddresses (c.addresses ++ [new]) (.addressAdded new)
  | some old =>
    let merged := old.updated new
    if merged = old then ⟨c, ∅, [.addressUnchanged new.address]⟩
    else c.putAddresses (c.addresses.replace old merged) (.addressUpdated merged)

def insertRoute (c : Config F) (new : Route F) : Outcome F :=
  match c.routes.find? (·.destination == new.destination) with
  | none => ⟨{ c with routes := c.routes ++ [new] }, .only .routes, [.routeAdded new]⟩
  | some old =>
    let merged := old.updated new
    if merged = old then ⟨c, ∅, [.routeUnchanged new]⟩
    else ⟨{ c with routes := c.routes.replace old merged }, .only .routes, [.routeUpdated merged]⟩

def insertNameserver (c : Config F) (a : Address F) : Outcome F :=
  if a ∈ c.nameservers then .start c
  else ⟨{ c with nameservers := c.nameservers ++ [a] }, .only .nameservers, []⟩

/-- Without effect if the domain is empty. -/
def insertDomain (c : Config F) (domain : String) : Outcome F :=
  if domain.isEmpty || domain ∈ c.domains then .start c
  else ⟨{ c with domains := c.domains ++ [domain] }, .only .domains, []⟩

/-- Without effect if the suffix is empty. -/
def insertSearch (c : Config F) (search : String) : Outcome F :=
  if search.isEmpty || search ∈ c.searches then .start c
  else ⟨{ c with searches := c.searches ++ [search] }, .only .searches, []⟩

/-- The list without the element at `i`, if there is one. -/
def without? {α : Type} (l : List α) (i : Nat) : Option (List α) :=
  if i < l.length then some (l.eraseIdx i) else none

def removeAddress (c : Config F) (i : Nat) : Option (Outcome F) :=
  (without? c.addresses i).map fun l => ⟨{ c with addresses := l }, .only .addresses, []⟩

def removeRoute (c : Config F) (i : Nat) : Option (Outcome F) :=
  (without? c.routes i).map fun l => ⟨{ c with routes := l }, .only .routes, []⟩

def removeNameserver (c : Config F) (i : Nat) : Option (Outcome F) :=
  (without? c.nameservers i).map fun l => ⟨{ c with nameservers := l }, .only .nameservers, []⟩

def removeDomain (c : Config F) (i : Nat) : Option (Outcome F) :=
  (without? c.domains i).map fun l => ⟨{ c with domains := l }, .only .domains, []⟩

def removeSearch (c : Config F) (i : Nat) : Option (Outcome F) :=
  (without? c.searches i).map fun l => ⟨{ c with searches := l }, .only .searches, []⟩

def clearAddresses (c : Config F) : Outcome F :=
  ⟨{ c with addresses := [] }, .when (!c.addresses.isEmpty) .addresses, []⟩

def clearRoutes (c : Config F) : Outcome F :=
  ⟨{ c with routes := [] }, .when (!c.routes.isEmpty) .routes, []⟩

def clearNameservers (c : Config F) : Outcome F :=
  ⟨{ c with nameservers := [] }, .when (!c.nameservers.isEmpty) .nameservers, []⟩

def clearDomains (c : Config F) : Outcome F :=
  ⟨{ c with domains := [] }, .when (!c.domains.isEmpty) .domains, []⟩

def clearSearches (c : Config F) : Outcome F :=
  ⟨{ c with searches := [] }, .when (!c.searches.isEmpty) .searches, []⟩

/-- The unspecified address takes the gateway away. -/
def setGateway (c : Config F) (gateway : Option (Address F)) : Outcome F :=
  let gateway := gateway.bind Address.specified?
  ⟨{ c with gateway }, .when (c.gateway != gateway) .gateway, []⟩

def setNeverDefault (c : Config F) (neverDefault : Bool) : Outcome F :=
  .start { c with neverDefault }

def setMss (c : Config F) (mss : UInt32) : Outcome F := .start { c with mss }

/-- A new preference may move addresses. -/
def setPrivacy (c : Config F) (privacy : Privacy) : Outcome F := sortAddresses { c with privacy }

end LinkConfig.Config
