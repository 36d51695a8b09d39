import LinkConfig.Config.Combine
import LinkConfig.Config.Intent
import LinkConfig.Config.Path

/-! # Edits as data

An `Edit` is a change to a configuration that has not been made yet, so that whole histories can
be spoken of. The removal of what is not there cannot be made.
-/
namespace LinkConfig

inductive Edit (F : Family) where
  | insertAddress (entry : AddressEntry F)
  | insertRoute (route : Route F)
  | insertNameserver (address : Address F)
  | insertDomain (domain : String)
  | insertSearch (search : String)
  | removeAddress (i : Nat)
  | removeRoute (i : Nat)
  | removeNameserver (i : Nat)
  | removeDomain (i : Nat)
  | removeSearch (i : Nat)
  | clearAddresses
  | clearRoutes
  | clearNameservers
  | clearDomains
  | clearSearches
  | setGateway (gateway : Option (Address F))
  | setNeverDefault (neverDefault : Bool)
  | setMss (mss : UInt32)
  | setPrivacy (privacy : Privacy)
  | sortAddresses
  | applySetting (setting : Setting F) (metric : UInt32)
  | merge (src : Config F)
  | withdraw (src : Config F)
  | replaceBy (src : Config F)
  /-- Takes the next path of the pool, unless there is one. -/
  | publish (pool : PathPool)

variable {F : Family}

/-- What replacing did, as the outcome of an edit. -/
def Config.Replacement.outcome (r : Config.Replacement F) : Outcome F :=
  ⟨r.config, r.relevant, r.log⟩

@[simp] theorem Config.Replacement.config_outcome (r : Config.Replacement F) :
    r.outcome.config = r.config := rfl

namespace Edit

def apply : Edit F → Config F → Option (Outcome F)
  | insertAddress e, c => some (c.insertAddress e)
  | insertRoute r, c => some (c.insertRoute r)
  | insertNameserver a, c => some (c.insertNameserver a)
  | insertDomain d, c => some (c.insertDomain d)
  | insertSearch s, c => some (c.insertSearch s)
  | removeAddress i, c => c.removeAddress i
  | removeRoute i, c => c.removeRoute i
  | removeNameserver i, c => c.removeNameserver i
  | removeDomain i, c => c.removeDomain i
  | removeSearch i, c => c.removeSearch i
  | clearAddresses, c => some c.clearAddresses
  | clearRoutes, c => some c.clearRoutes
  | clearNameservers, c => some c.clearNameservers
  | clearDomains, c => some c.clearDomains
  | clearSearches, c => some c.clearSearches
  | setGateway g, c => some (c.setGateway g)
  | setNeverDefault b, c => some (c.setNeverDefault b)
  | setMss n, c => some (c.setMss n)
  | setPrivacy p, c => some (c.setPrivacy p)
  | sortAddresses, c => some c.sortAddresses
  | applySetting s m, c => some (c.applySetting s m)
  | merge src, c => some (c.merge src)
  | withdraw src, c => some (c.withdraw src)
  | replaceBy src, c => some (c.replaceBy src).outcome
  | publish pool, c => some (.start (c.publish pool).1)

/-- The outcomes of the edits, made one after another, unless one of them cannot be made. -/
def run : List (Edit F) → Config F → Option (List (Outcome F))
  | [], _ => some []
  | e :: es, c => do
    let o ← e.apply c
    let os ← run es o.config
    return o :: os

variable {e : Edit F} {es : List (Edit F)} {c : Config F} {os : List (Outcome F)}

theorem run_cons_eq_some :
    run (e :: es) c = some os ↔
      ∃ o rest, e.apply c = some o ∧ run es o.config = some rest ∧ os = o :: rest := by
  simp only [run, Option.bind_eq_bind, Option.bind_eq_some_iff, Option.pure_def, Option.some.injEq,
    eq_comm (a := os)]
  constructor
  · rintro ⟨o, ho, rest, hrest, h⟩
    exact ⟨o, rest, ho, hrest, h⟩
  · rintro ⟨o, rest, ho, hrest, h⟩
    exact ⟨o, ho, rest, hrest, h⟩

/-- The beginning of a history is one too. -/
theorem run_take (h : run es c = some os) (k : Nat) : run (es.take k) c = some (os.take k) := by
  induction es generalizing c os k with
  | nil =>
    cases h
    simp [run]
  | cons e es ih =>
    obtain ⟨o, rest, ho, hrest, rfl⟩ := run_cons_eq_some.mp h
    cases k with
    | zero => rfl
    | succ k => exact run_cons_eq_some.mpr ⟨o, rest.take k, ho, ih hrest k, rfl⟩

end Edit

/-- The configuration that a row of outcomes ends with. -/
def Config.reached (c : Config F) (os : List (Outcome F)) : Config F :=
  os.foldl (fun _ o => o.config) c

end LinkConfig
