import LinkConfig.Config.Combine
import LinkConfig.Config.Intent

/-! # What rows of edits inherit

Merging, withdrawing and applying a setting are rows of edits of one list or one value. What relates
every such edit to the configuration it is made to, and is handed on from step to step, relates
the whole row to the configuration it starts from.
-/
namespace LinkConfig
open Outcome

variable {F : Family} {α : Type} {R : Config F → Outcome F → Prop} {c : Config F} {o : Outcome F}

/-- The relation of an operation to the configuration it is made to survives a row of steps. -/
structure HandedOn (R : Config F → Outcome F → Prop) : Prop where
  start : ∀ c, R c (.start c)
  andThen : ∀ {c o} step, R c o → R o.config (step o.config) → R c (o.andThen step)

namespace HandedOn

theorem forEach (hR : HandedOn R) {act : Config F → α → Outcome F} (ho : R c o)
    (h : ∀ c x, R c (act c x)) (xs : List α) : R c (o.forEach xs act) := by
  induction xs generalizing o with
  | nil => exact ho
  | cons x xs ih => exact ih (hR.andThen (act · x) ho (h o.config x))

theorem andIf (hR : HandedOn R) {step : Config F → Outcome F} (ho : R c o) (b : Bool)
    (h : ∀ c, R c (step c)) : R c (o.andIf b step) := by
  cases b with
  | false => exact ho
  | true => exact hR.andThen step ho (h o.config)

end HandedOn

/-- The relation is handed on and holds of all edits of which larger operations are made. -/
structure Stepwise (R : Config F → Outcome F → Prop) : Prop extends HandedOn R where
  /-- What there is to tell does not matter. -/
  relog : ∀ {c o} log, R c o → R c { o with log }
  insertAddress : ∀ (c : Config F) e, R c (c.insertAddress e)
  insertRoute : ∀ (c : Config F) r, R c (c.insertRoute r)
  insertNameserver : ∀ (c : Config F) a, R c (c.insertNameserver a)
  insertDomain : ∀ (c : Config F) d, R c (c.insertDomain d)
  insertSearch : ∀ (c : Config F) s, R c (c.insertSearch s)
  dropAddress : ∀ (c : Config F) e, R c (c.dropAddress e)
  dropRoute : ∀ (c : Config F) r, R c (c.dropRoute r)
  dropNameserver : ∀ (c : Config F) a, R c (c.dropNameserver a)
  dropDomain : ∀ (c : Config F) d, R c (c.dropDomain d)
  dropSearch : ∀ (c : Config F) s, R c (c.dropSearch s)
  clearRoutes : ∀ c : Config F, R c c.clearRoutes
  clearNameservers : ∀ c : Config F, R c c.clearNameservers
  clearDomains : ∀ c : Config F, R c c.clearDomains
  clearSearches : ∀ c : Config F, R c c.clearSearches
  setGateway : ∀ (c : Config F) g, R c (c.setGateway g)
  setNeverDefault : ∀ (c : Config F) b, R c (c.setNeverDefault b)
  setMss : ∀ (c : Config F) n, R c (c.setMss n)

namespace Stepwise

theorem merge (hR : Stepwise R) (c src : Config F) : R c (c.merge src) := by
  have haddresses := hR.forEach (hR.start c) hR.insertAddress src.addresses
  have hnameservers := hR.forEach haddresses hR.insertNameserver src.nameservers
  have hgateway := hR.andIf hnameservers c.gateway.isNone (hR.setGateway · src.gateway)
  have hroutes := hR.forEach hgateway hR.insertRoute src.routes
  have hdomains := hR.forEach hroutes hR.insertDomain src.domains
  have hsearches := hR.forEach hdomains hR.insertSearch src.searches
  exact hR.andIf hsearches (c.mss == 0) (hR.setMss · src.mss)

theorem withdraw (hR : Stepwise R) (c src : Config F) : R c (c.withdraw src) := by
  have haddresses := hR.forEach (hR.start c) hR.dropAddress src.addresses
  have hnameservers := hR.forEach haddresses hR.dropNameserver src.nameservers
  have hgateway := hR.andIf hnameservers (src.gateway.isSome && c.gateway == src.gateway)
    (hR.setGateway · none)
  have hroutes := hR.forEach hgateway hR.dropRoute src.routes
  have hdomains := hR.forEach hroutes hR.dropDomain src.domains
  have hsearches := hR.forEach hdomains hR.dropSearch src.searches
  exact hR.andIf hsearches (src.mss != 0 && c.mss == src.mss) (hR.setMss · 0)

theorem applySetting (hR : Stepwise R) (c : Config F) (s : Setting F) (metric : UInt32) :
    R c (c.applySetting s metric) := by
  have haddress (c : Config F) (a : DeclaredAddress F) := hR.insertAddress c a.entry
  have hroute (c : Config F) (r : DeclaredRoute F) := hR.insertRoute c (r.entry metric)
  have hdefault := hR.andIf (hR.start c) (s.neverDefault || s.ignoreAutoRoutes)
    (hR.setNeverDefault · s.neverDefault)
  have hgateway := hR.andIf hdefault s.gateway.isSome (hR.setGateway · s.gateway)
  have haddresses := hR.forEach hgateway haddress s.addresses
  have hcleared := hR.andIf haddresses s.ignoreAutoRoutes hR.clearRoutes
  have hroutes := hR.forEach hcleared hroute s.routes
  have hservers := hR.andIf hroutes s.ignoreAutoDns hR.clearNameservers
  have hdomains := hR.andIf hservers s.ignoreAutoDns hR.clearDomains
  have hdns := hR.andIf hdomains s.ignoreAutoDns hR.clearSearches
  have hnameservers := hR.forEach hdns hR.insertNameserver s.nameservers
  have hsearches := hR.forEach hnameservers hR.insertSearch s.searches
  exact hR.relog _ hsearches

end Stepwise

end LinkConfig
