import LinkConfig.Config.Edit
import LinkConfig.Platform

/-! # Capturing a link

A configuration is captured from what the platform answers about a link. The default routes are
folded into the gateway. What cannot be read counts as empty.
-/
namespace LinkConfig

variable {F : Family}

/-- The answers to the three reads of a link. -/
structure LinkAnswers (F : Family) where
  hasMaster : Except Fault Bool
  addresses : Except Fault (List (AddressEntry F))
  routes : Except Fault (List (Route F))

def Platform.answers {σ : Type} (p : Platform F σ) (s : σ) (i : UInt32) : LinkAnswers F :=
  ⟨p.hasMaster s i, p.addresses s i, p.routes s i⟩

/-- What nameservers are imported from, or why there are none. -/
abbrev NameserverAnswer := Except Fault Resolver.Reading

/-- The value, or `d` and an event that tells the fault. -/
def valueOr {α : Type} (d : α) (event : Fault → Event F) : Except Fault α → α × List (Event F)
  | .ok a => (a, [])
  | .error f => (d, [event f])

/-- Of the routes to everywhere the one of lowest metric; of several the first. -/
def Route.preferredDefault (routes : List (Route F)) : Option (Route F) :=
  (routes.filter isDefault).foldl (fun best r =>
    match best with
    | none => some r
    | some b => if r.metric < b.metric then some r else some b) none

/-- Whether the route only says that the gateway is on the link. -/
def Route.leadsTo (r : Route F) (gateway : Address F) : Bool :=
  r.prefixLen == F.hostLen && r.network == gateway && !r.hasGateway

namespace Config

/-- The configuration without nameservers that the tables of a link describe. -/
def ofTables (addresses : List (AddressEntry F)) (routes : List (Route F)) (privacy : Privacy) :
    Config F :=
  let others := routes.filter (!·.isDefault)
  match Route.preferredDefault routes with
  | none => { addresses, routes := others, privacy }
  | some d =>
    { addresses, routes := others.filter (!·.leadsTo d.gateway)
      gateway := d.gateway.specified?, privacy }

/-- The nameservers of the family that may be asked. -/
def usable (servers : List AnyAddress) : List (Address F) :=
  servers.filterMap fun a => (a.narrow F).bind Address.specified?

/-- Adds the nameservers of the reading and tells how many were new. -/
def importNameservers (c : Config F) (i : UInt32) (reading : Resolver.Reading) : Outcome F :=
  let o := (Outcome.start c).forEach (usable reading.servers) insertNameserver
  let count := o.config.nameservers.length - c.nameservers.length
  { o with log := reading.skipped.map .nameserverSkipped ++ [.nameserversImported i count] }

/-- Imports what the resolver answered, if one was asked. -/
def consult (c : Config F) (i : UInt32) : Option NameserverAnswer → Outcome F
  | none => .start c
  | some (.ok reading) => c.importNameservers i reading
  | some (.error fault) => ⟨c, ∅, [.nameserversUnread i fault]⟩

/-- The configuration of link `i` with the given answers, and what there is to tell. There is
none if the link belongs to another one. Nameservers are only asked for if the link has an
address and a default route. -/
def capture (answers : LinkAnswers F) (i : UInt32) (resolver : Option NameserverAnswer)
    (privacy : Privacy) : Option (Config F) × List (Event F) :=
  let (enslaved, masterLog) := valueOr false (.masterUnread i) answers.hasMaster
  if enslaved then (none, masterLog ++ [.enslaved i])
  else
    let (addresses, addressLog) := valueOr [] (.addressesUnread i) answers.addresses
    let (routes, routeLog) := valueOr [] (.routesUnread i) answers.routes
    let wanted := (Route.preferredDefault routes).isSome && !addresses.isEmpty
    let o := (ofTables addresses routes privacy).consult i (if wanted then resolver else none)
    (some o.config.sortAddresses.config, masterLog ++ addressLog ++ routeLog ++ o.log)

end Config

end LinkConfig
