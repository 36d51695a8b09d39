import LinkConfig.Config
import LinkConfig.Document

/-! # Snapshots

The addresses, routes and resolver data of a configuration, and where it is published, as a
document. Each address carries the gateway of the configuration.
-/
namespace LinkConfig.Config
variable {F : Family}

/-- The member, if there is a value. -/
def memberIf (key : String) (value : Option String) : List (String × Document) :=
  value.toList.map fun v => (key, .text v)

def texts (ts : List String) : Document := .array (ts.map .text)

def addressDocument (gateway : Address F) (e : AddressEntry F) : Document :=
  .object [("address", .text e.address.text), ("prefix", .number e.prefixLen.toNat),
    ("gateway", .text gateway.text)]

def routeDocument (r : Route F) : Document :=
  .object [("dest", .text r.network.text), ("prefix", .number r.prefixLen.toNat),
    ("next-hop", .text r.gateway.text), ("metric", .number r.metric.toNat)]

def snapshot (c : Config F) : Document :=
  .object <|
    memberIf "path" c.path ++
    memberIf "gateway" (c.gateway.map Address.text) ++
    [("addresses", .array (c.addresses.map (addressDocument (c.gateway.getD .unspecified)))),
     ("routes", .array (c.routes.map routeDocument)),
     ("nameservers", texts (c.nameservers.map Address.text)),
     ("domains", texts c.domains),
     ("searches", texts c.searches)]

def json (c : Config F) (layout : Document.Layout) : String :=
  String.ofList (c.snapshot.write layout)

end LinkConfig.Config
