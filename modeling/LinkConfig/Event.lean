import LinkConfig.AddressEntry
import LinkConfig.Changes
import LinkConfig.Fault
import LinkConfig.Resolver
import LinkConfig.Route
import LinkConfig.Text.Quoted

/-! # Events

What operations have to tell, beside their results. An event is a fact; its severity and its
wording are functions of it.
-/
namespace LinkConfig

inductive Severity where
  | trace
  | debug
  | warn
deriving DecidableEq

inductive Event (F : Family) where
  | addressAdded (entry : AddressEntry F)
  | addressUpdated (entry : AddressEntry F)
  | addressUnchanged (address : Address F)
  | routeAdded (route : Route F)
  | routeUpdated (route : Route F)
  | routeUnchanged (route : Route F)
  | settingApplied (changes : Changes)
  | replaced (relevant : Changes) (anyChanged : Bool)
  | masterUnread (ifindex : UInt32) (fault : Fault)
  | enslaved (ifindex : UInt32)
  | addressesUnread (ifindex : UInt32) (fault : Fault)
  | routesUnread (ifindex : UInt32) (fault : Fault)
  | nameserverSkipped (value : String)
  | nameserversImported (ifindex : UInt32) (count : Nat)
  | nameserversUnread (ifindex : UInt32) (fault : Fault)
  | addressesUnwritten (ifindex : UInt32) (fault : Fault)
  | routesChosen (ifindex : UInt32) (count all : Nat)
  | routesUnwritten (ifindex : UInt32) (fault : Fault)
deriving DecidableEq

namespace Event
variable {F : Family}

/-- Edits are traced, decisions about a link are debugging matter, and a warning says that
something could not be read or written. -/
def severity : Event F → Severity
  | addressAdded _ | addressUpdated _ | addressUnchanged _ => .trace
  | routeAdded _ | routeUpdated _ | routeUnchanged _ => .trace
  | settingApplied _ | replaced .. | nameserverSkipped _ => .trace
  | enslaved _ | nameserversImported .. | routesChosen .. => .debug
  | masterUnread .. | addressesUnread .. | routesUnread .. | nameserversUnread .. => .warn
  | addressesUnwritten .. | routesUnwritten .. => .warn

def text : Event F → String
  | addressAdded e => s!"address {e.text} added"
  | addressUpdated e => s!"address {e.address.text} updated: {e.text}"
  | addressUnchanged a => s!"address {a.text} unchanged"
  | routeAdded r => s!"route {r.text} added"
  | routeUpdated r => s!"route {r.destinationText} updated: {r.text}"
  | routeUnchanged r => s!"route {r.destinationText} unchanged"
  | settingApplied c => s!"merged {F.name} setting: {c.summary}"
  | replaced c any => s!"replaced {F.name} config: relevant [{c.summary}], any changed {any}"
  | masterUnread i f => s!"ifindex {i}: failed to query master: {f.message}"
  | enslaved i => s!"ifindex {i}: link has a master, no {F.name} config"
  | addressesUnread i f => s!"ifindex {i}: failed to read {F.name} addresses: {f.message}"
  | routesUnread i f => s!"ifindex {i}: failed to read {F.name} routes: {f.message}"
  | nameserverSkipped v => s!"skipping nameserver entry {String.ofList (Text.quoted v.toList)}"
  | nameserversImported i n => s!"ifindex {i}: imported {n} {F.name} nameservers"
  | nameserversUnread i f => s!"ifindex {i}: failed to read nameservers: {f.message}"
  | addressesUnwritten i f => s!"ifindex {i}: failed to sync {F.name} addresses: {f.message}"
  | routesChosen i n all => s!"ifindex {i}: committing {n} of {all} {F.name} routes"
  | routesUnwritten i f => s!"ifindex {i}: failed to sync {F.name} routes: {f.message}"

end Event

end LinkConfig
