import LinkConfig.Proofs.EditEffects
import LinkConfig.Proofs.PreferredRoutes

/-! # What capturing does

A configuration is captured from two tables: the addresses in order, and the routes without those
that are folded into the gateway. An answer that is a fault counts as an empty table.
-/
namespace LinkConfig
open Keyed

variable {F : Family}

theorem valueOr_fst {α : Type} (d : α) (event : Fault → Event F) (answer : Except Fault α) :
    (valueOr d event answer).1 = answer.toOption.getD d := by
  cases answer <;> rfl

namespace LinkAnswers
variable (answers : LinkAnswers F)

def isEnslaved : Bool := answers.hasMaster.toOption.getD false

def addressTable : List (AddressEntry F) := answers.addresses.toOption.getD []

def routeTable : List (Route F) := answers.routes.toOption.getD []

/-- There are an address and a default route, so that nameservers are of use. -/
def reachesOut : Bool :=
  (Route.preferredDefault answers.routeTable).isSome && !answers.addressTable.isEmpty

end LinkAnswers

namespace Route
variable {routes : List (Route F)} {r : Route F}

/-- The route is a default route, or only says that the preferred gateway is on the link. -/
def isFolded (routes : List (Route F)) (r : Route F) : Bool :=
  r.isDefault || (preferredDefault routes).any (r.leadsTo ·.gateway)

end Route

namespace Config
open LinkAnswers

theorem ofTables_eq (addresses : List (AddressEntry F)) (routes : List (Route F))
    (privacy : Privacy) :
    ofTables addresses routes privacy =
      { addresses, routes := routes.filter (!·.isFolded routes)
        gateway := ((Route.preferredDefault routes).map Route.gateway).bind Address.specified?
        privacy } := by
  unfold ofTables Route.isFolded
  cases Route.preferredDefault routes <;> simp [List.filter_filter, Bool.and_comm]

/-- The nameservers of the family that the resolver answered, repetitions included. -/
def imports : Option NameserverAnswer → List (Address F)
  | some (.ok reading) => usable reading.servers
  | _ => []

theorem unspecified_notMem_imports (resolver : Option NameserverAnswer) :
    .unspecified ∉ imports (F := F) resolver := by
  rcases resolver with _ | fault | reading
  · exact List.not_mem_nil
  · exact List.not_mem_nil
  · intro hmem
    obtain ⟨a, -, ha⟩ := List.mem_filterMap.mp hmem
    exact specified?_ne (a.narrow F) ha

theorem config_consult (c : Config F) (i : UInt32) (resolver : Option NameserverAnswer) :
    (c.consult i resolver).config =
      c.withNameservers ((imports resolver).foldl insertNew c.nameservers) := by
  rcases resolver with _ | fault | reading
  · rfl
  · rfl
  · exact (Outcome.forEach_insertNameserver (.start c) _).1

/-- The captured configuration, field by field. -/
theorem capture_eq (answers : LinkAnswers F) (i : UInt32) (resolver : Option NameserverAnswer)
    (privacy : Privacy) :
    (capture answers i resolver privacy).1 =
      if answers.isEnslaved then none
      else some {
        addresses := AddressEntry.sort privacy answers.addressTable
        routes := answers.routeTable.filter (!·.isFolded answers.routeTable)
        gateway :=
          ((Route.preferredDefault answers.routeTable).map Route.gateway).bind Address.specified?
        nameservers :=
          (imports (if answers.reachesOut then resolver else none)).foldl insertNew []
        privacy } := by
  unfold capture
  dsimp only
  rw [valueOr_fst, valueOr_fst, valueOr_fst]
  change (if answers.isEnslaved then _ else _ : Option (Config F) × List (Event F)).1 = _
  split
  · rfl
  · rw [config_consult, ofTables_eq, (sortAddresses_puts _).config]
    rfl

end Config

end LinkConfig
