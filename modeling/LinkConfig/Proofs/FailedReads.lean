import LinkConfig.Platform.Memory
import LinkConfig.Proofs.CaptureContents

/-! # Reads that fail

Capturing a link reads whether it belongs to another one, its two tables, and the resolver. Each of
the four reads may fail by itself. Then it counts as one that succeeds and finds nothing, and what
the other reads found is in the captured configuration as before, except that nameservers are asked
for on behalf of an address and a default route.
-/
namespace LinkConfig

variable {F : Family} {σ α : Type}

/-- Which reads fail, and why. -/
structure Failures where
  hasMaster : Option Fault := none
  addresses : Option Fault := none
  routes : Option Fault := none
  nameservers : Option Fault := none

/-- The answer, unless there is a fault. -/
def failing (fault : Option Fault) (answer : Except Fault α) : Except Fault α :=
  fault.elim answer .error

/-- The answer, or `d` in place of a fault. -/
def emptied (fault : Option Fault) (d : α) (answer : Except Fault α) : Except Fault α :=
  fault.elim answer fun _ => .ok d

theorem toOption_failing (fault : Option Fault) (d : α) (answer : Except Fault α) :
    (failing fault answer).toOption.getD d =
      if fault.isSome then d else answer.toOption.getD d := by
  cases fault <;> rfl

theorem toOption_failing_eq_emptied (fault : Option Fault) (d : α) (answer : Except Fault α) :
    (failing fault answer).toOption.getD d = (emptied fault d answer).toOption.getD d := by
  cases fault <;> rfl

namespace Platform

/-- The platform with reads that fail. -/
def failing (p : Platform F σ) (f : Failures) : Platform F σ :=
  { p with
    hasMaster := fun s i => LinkConfig.failing f.hasMaster (p.hasMaster s i)
    addresses := fun s i => LinkConfig.failing f.addresses (p.addresses s i)
    routes := fun s i => LinkConfig.failing f.routes (p.routes s i) }

/-- The platform on which the same reads succeed and find nothing. -/
def emptied (p : Platform F σ) (f : Failures) : Platform F σ :=
  { p with
    hasMaster := fun s i => LinkConfig.emptied f.hasMaster false (p.hasMaster s i)
    addresses := fun s i => LinkConfig.emptied f.addresses [] (p.addresses s i)
    routes := fun s i => LinkConfig.emptied f.routes [] (p.routes s i) }

end Platform

namespace Config
variable (p : Platform F σ) (s : σ) (i : UInt32) (resolver : Option NameserverAnswer)
  (privacy : Privacy) (f : Failures)

/-- Of the answers only what they count as is looked at. -/
theorem capture_eq_of_tables {answers answers' : LinkAnswers F}
    {resolver resolver' : Option NameserverAnswer}
    (hmaster : answers'.isEnslaved = answers.isEnslaved)
    (haddresses : answers'.addressTable = answers.addressTable)
    (hroutes : answers'.routeTable = answers.routeTable)
    (hresolver : imports (F := F) resolver' = imports resolver) :
    (capture answers' i resolver' privacy).1 = (capture answers i resolver privacy).1 := by
  have hreaches : answers'.reachesOut = answers.reachesOut := by
    rw [LinkAnswers.reachesOut, LinkAnswers.reachesOut, haddresses, hroutes]
  have himports : imports (F := F) (if answers'.reachesOut then resolver' else none) =
      imports (if answers.reachesOut then resolver else none) := by
    rw [hreaches]
    split
    · exact hresolver
    · rfl
  rw [capture_eq, capture_eq, hmaster, haddresses, hroutes, himports]

theorem imports_eq_elim :
    imports (F := F) resolver =
      resolver.elim [] fun answer => usable (answer.toOption.getD {}).servers := by
  rcases resolver with _ | _ | _ <;> rfl

theorem capture_failing_eq_emptied :
    (capture ((p.failing f).answers s i) i (resolver.map (LinkConfig.failing f.nameservers))
        privacy).1 =
      (capture ((p.emptied f).answers s i) i (resolver.map (LinkConfig.emptied f.nameservers {}))
        privacy).1 := by
  refine capture_eq_of_tables i privacy (toOption_failing_eq_emptied ..)
    (toOption_failing_eq_emptied ..) (toOption_failing_eq_emptied ..) ?_
  rw [imports_eq_elim, imports_eq_elim]
  cases resolver with
  | none => rfl
  | some answer =>
    exact congrArg (usable ·.servers) (toOption_failing_eq_emptied f.nameservers {} answer)

theorem addressTable_failing :
    ((p.failing f).answers s i).addressTable =
      if f.addresses.isSome then [] else (p.answers s i).addressTable := toOption_failing ..

theorem routeTable_failing :
    ((p.failing f).answers s i).routeTable =
      if f.routes.isSome then [] else (p.answers s i).routeTable := toOption_failing ..

theorem imports_failing (fault : Option Fault) :
    imports (F := F) (resolver.map (LinkConfig.failing fault)) =
      if fault.isSome then [] else imports resolver := by
  cases fault <;> rcases resolver with _ | _ | _ <;> rfl

theorem reachesOut_failing :
    ((p.failing f).answers s i).reachesOut =
      (f.addresses.isNone && f.routes.isNone && (p.answers s i).reachesOut) := by
  rw [LinkAnswers.reachesOut, addressTable_failing, routeTable_failing]
  cases f.addresses <;> cases f.routes <;>
    simp [LinkAnswers.reachesOut, Route.preferredDefault]

theorem imports_of_reachesOut_failing :
    imports (F := F) (if ((p.failing f).answers s i).reachesOut then
        resolver.map (LinkConfig.failing f.nameservers) else none) =
      if f.addresses.isSome ∨ f.routes.isSome ∨ f.nameservers.isSome then []
      else imports (if (p.answers s i).reachesOut then resolver else none) := by
  have hnone : imports (F := F) none = [] := rfl
  rw [reachesOut_failing, apply_ite imports, imports_failing, apply_ite imports, hnone]
  cases f.addresses <;> cases f.routes <;> cases f.nameservers <;> simp

/-- What the configuration is without the reads that failed. -/
def lacking (f : Failures) (c : Config F) : Config F :=
  { c with
    addresses := if f.addresses.isSome then [] else c.addresses
    routes := if f.routes.isSome then [] else c.routes
    gateway := if f.routes.isSome then none else c.gateway
    nameservers :=
      if f.addresses.isSome ∨ f.routes.isSome ∨ f.nameservers.isSome then [] else c.nameservers }

theorem capture_failing :
    (capture ((p.failing f).answers s i) i (resolver.map (LinkConfig.failing f.nameservers))
        privacy).1 =
      (capture ((p.failing { hasMaster := f.hasMaster }).answers s i) i resolver privacy).1.map
        (lacking f) := by
  have hmaster : ((p.failing f).answers s i).isEnslaved =
      ((p.failing { hasMaster := f.hasMaster }).answers s i).isEnslaved := rfl
  have hreaches : ((p.failing { hasMaster := f.hasMaster }).answers s i).reachesOut =
      (p.answers s i).reachesOut := rfl
  rw [capture_eq, capture_eq, hmaster, hreaches, addressTable_failing, routeTable_failing,
    imports_of_reachesOut_failing]
  split
  · rfl
  · rw [Option.map_some, Option.some_inj, lacking]
    ext1
    case addresses => cases f.addresses <;> rfl
    case routes => cases f.routes <;> rfl
    case gateway => cases f.routes <;> rfl
    case nameservers => exact apply_ite (List.foldl Keyed.insertNew []) ..
    all_goals rfl

/-- Whichever of the four reads fail, and why: the same is captured as if each of them had succeeded
and found no master, no addresses, no routes and no nameservers. There is no configuration only if
the master was read and is there. The reads that succeed contribute what they do when none of the
other three fails, save that nameservers go with the addresses and the routes. -/
theorem failed_reads_are_empty (p : Platform F σ) (s : σ) (i : UInt32)
    (resolver : Option NameserverAnswer) (privacy : Privacy) (f : Failures) :
    let captured (p : Platform F σ) (resolver : Option NameserverAnswer) : Option (Config F) :=
      (capture (p.answers s i) i resolver privacy).1
    let failed := captured (p.failing f) (resolver.map (LinkConfig.failing f.nameservers))
    failed = captured (p.emptied f) (resolver.map (LinkConfig.emptied f.nameservers {})) ∧
      (failed = none ↔ f.hasMaster = none ∧ p.hasMaster s i = .ok true) ∧
      failed = (captured (p.failing { hasMaster := f.hasMaster }) resolver).map (lacking f) := by
  intro captured failed
  refine ⟨capture_failing_eq_emptied p s i resolver privacy f, ?_,
    capture_failing p s i resolver privacy f⟩
  refine capture_eq_none_iff.trans ?_
  change LinkConfig.failing f.hasMaster (p.hasMaster s i) = .ok true ↔ _
  cases f.hasMaster <;> simp [LinkConfig.failing]

/-- Without the addresses the routes are still captured, but no resolver is asked. -/
example :
    let t := (({} : LinkTable .v4).putAddresses 1 [{ address := ⟨0x0a000002⟩, prefixLen := 24 }])
      |>.putRoutes 1 [.everywhere ⟨0x0a000001⟩ 100, { network := ⟨0xc0a80000⟩, prefixLen := 16 }]
    let p := LinkTable.platform.failing { addresses := some (.platform "busy") }
    let resolver : Option NameserverAnswer := some (.ok { servers := [⟨.v4, ⟨0x0a000035⟩⟩] })
    (capture (p.answers t 1) 1 resolver .disabled).1 =
      some { routes := [{ network := ⟨0xc0a80000⟩, prefixLen := 16 }]
             gateway := some ⟨0x0a000001⟩, privacy := .disabled } := by
  decide

end Config

end LinkConfig
