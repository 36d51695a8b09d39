import LinkConfig.Proofs.EditEffects
import LinkConfig.Proofs.Replacements
import LinkConfig.Proofs.StepRows

/-! # Exactly what changed is reported

A field that an edit reports holds something else afterwards, and no other field does. For a single
step this is how its report is made. A merger is many steps, each of which reports for itself, so
that a later one must not undo what an earlier one did: the entries that are merged in have
different keys, and resolver entries only become more. The same goes for a setting, unless it clears
a list first, which it might fill again with what was there.
-/
namespace LinkConfig
open Keyed

variable {F : Family} {α : Type}

/-- The setting takes nothing away, and declares nothing twice. -/
structure Setting.OnlyAdds (s : Setting F) : Prop where
  keeps_routes : s.ignoreAutoRoutes = false
  keeps_dns : s.ignoreAutoDns = false
  addresses_nodup : (s.addresses.map DeclaredAddress.address).Nodup
  routes_nodup : (s.routes.map fun r => (r.destination, r.prefixLen)).Nodup

/-- The two hold the same in the field: the same entries, with everything that belongs to them, in
the same order. -/
def Config.SameIn (c d : Config F) : Field → Prop
  | .gateway => c.gateway = d.gateway
  | .addresses => c.addresses = d.addresses
  | .routes => c.routes = d.routes
  | .nameservers => c.nameservers = d.nameservers
  | .domains => c.domains = d.domains
  | .searches => c.searches = d.searches

namespace Outcome
variable {c : Config F} {o : Outcome F} {f : Field}

/-- The outcome of an operation on `c` reports the fields that are not as they were, and no
other. -/
def ReportsExactly (c : Config F) (o : Outcome F) : Prop :=
  ∀ f, o.changes.has f ↔ ¬ c.SameIn o.config f

theorem reportsExactly_of_silent (h : o.changes = ∅) (hsame : ∀ f, c.SameIn o.config f) :
    o.ReportsExactly c := by
  intro f
  rw [h, Changes.has_empty]
  exact iff_of_false Bool.false_ne_true (not_not_intro (hsame f))

theorem Puts.reportsExactly [DecidableEq α] {put : List α → Config F} {old new : List α}
    (h : o.Puts f put old new) (hput : c.SameIn (put new) f ↔ old = new)
    (hother : ∀ g, g ≠ f → c.SameIn (put new) g) : o.ReportsExactly c := by
  intro g
  rw [h.config, h.changes, Changes.has_when, Bool.and_eq_true, bne_iff_ne, beq_iff_eq]
  by_cases hg : g = f
  · subst hg
    rw [hput, and_iff_left rfl, ne_comm]
  · exact iff_of_false (fun hand => hg hand.2) (not_not_intro (hother g hg))

end Outcome

namespace Config
open Outcome

variable (c : Config F)

theorem sameIn_withAddresses (l : List (AddressEntry F)) (f : Field) (hf : f ≠ .addresses) :
    c.SameIn (c.withAddresses l) f := by
  cases f with
  | addresses => contradiction
  | gateway | routes | nameservers | domains | searches => rfl

theorem sameIn_withRoutes (l : List (Route F)) (f : Field) (hf : f ≠ .routes) :
    c.SameIn (c.withRoutes l) f := by
  cases f with
  | routes => contradiction
  | gateway | addresses | nameservers | domains | searches => rfl

theorem sameIn_withNameservers (l : List (Address F)) (f : Field) (hf : f ≠ .nameservers) :
    c.SameIn (c.withNameservers l) f := by
  cases f with
  | nameservers => contradiction
  | gateway | addresses | routes | domains | searches => rfl

theorem sameIn_withDomains (l : List String) (f : Field) (hf : f ≠ .domains) :
    c.SameIn (c.withDomains l) f := by
  cases f with
  | domains => contradiction
  | gateway | addresses | routes | nameservers | searches => rfl

theorem sameIn_withSearches (l : List String) (f : Field) (hf : f ≠ .searches) :
    c.SameIn (c.withSearches l) f := by
  cases f with
  | searches => contradiction
  | gateway | addresses | routes | nameservers | domains => rfl

variable {c} {o : Outcome F}

theorem exact_of_addresses {l : List (AddressEntry F)}
    (h : o.Puts .addresses c.withAddresses c.addresses l) : o.ReportsExactly c :=
  h.reportsExactly Iff.rfl (c.sameIn_withAddresses l)

theorem exact_of_routes {l : List (Route F)} (h : o.Puts .routes c.withRoutes c.routes l) :
    o.ReportsExactly c :=
  h.reportsExactly Iff.rfl (c.sameIn_withRoutes l)

theorem exact_of_nameservers {l : List (Address F)}
    (h : o.Puts .nameservers c.withNameservers c.nameservers l) : o.ReportsExactly c :=
  h.reportsExactly Iff.rfl (c.sameIn_withNameservers l)

theorem exact_of_domains {l : List String} (h : o.Puts .domains c.withDomains c.domains l) :
    o.ReportsExactly c :=
  h.reportsExactly Iff.rfl (c.sameIn_withDomains l)

theorem exact_of_searches {l : List String} (h : o.Puts .searches c.withSearches c.searches l) :
    o.ReportsExactly c :=
  h.reportsExactly Iff.rfl (c.sameIn_withSearches l)

variable (c)

theorem setGateway_exact (gateway : Option (Address F)) :
    (c.setGateway gateway).ReportsExactly c := by
  intro f
  cases f <;> simp [setGateway, Changes.when, Changes.ofPred, Changes.has, SameIn]

/-- The preference is no field itself. -/
theorem setPrivacy_exact (privacy : Privacy) : (c.setPrivacy privacy).ReportsExactly c := by
  have hsorted : (c.setPrivacy privacy).ReportsExactly { c with privacy } :=
    exact_of_addresses (sortAddresses_puts { c with privacy })
  exact hsorted

variable {src : Config F} {s : Setting F}

theorem merge_exact (haddresses : (src.addresses.map AddressEntry.address).Nodup)
    (hroutes : (src.routes.map Route.destination).Nodup) : (c.merge src).ReportsExactly c := by
  intro f
  rw [changes_merge, config_merge]
  cases f with
  | gateway => by_cases h : c.gateway.isNone <;> simp [Changes.has, SameIn, h]
  | addresses => exact (AddressEntry.report_showsInKey c.privacy).changesIn_iff haddresses
  | routes => exact (upsert_showsInKey Route.keepsKey_updated).changesIn_iff hroutes
  | nameservers => exact changesIn_iff_of_length_lt fun _ _ => length_lt_insertNew
  | domains => exact changesIn_iff_of_length_lt fun _ _ => length_lt_insertName
  | searches => exact changesIn_iff_of_length_lt fun _ _ => length_lt_insertName

theorem withdraw_exact (src : Config F) : (c.withdraw src).ReportsExactly c := by
  intro f
  rw [changes_withdraw, config_withdraw]
  cases f with
  | gateway =>
    by_cases h : src.gateway.isSome && c.gateway == src.gateway
    · obtain ⟨hsome, hshared⟩ := Bool.and_eq_true_iff.mp h
      have hne : c.gateway ≠ none := by
        rw [beq_iff_eq.mp hshared]
        exact Option.isSome_iff_ne_none.mp hsome
      simpa [Changes.has, SameIn, h] using hne
    · simp [Changes.has, SameIn, h]
  | addresses | routes | nameservers | domains | searches =>
    exact changesIn_iff_of_lt_length fun _ _ => length_drop_lt

theorem applySetting_exact (hs : s.OnlyAdds) (metric : UInt32) :
    (c.applySetting s metric).ReportsExactly c := by
  have haddresses : ((s.addresses.map DeclaredAddress.entry).map AddressEntry.address).Nodup := by
    rw [List.map_map]
    exact hs.addresses_nodup
  have hroutes : ((s.routes.map (·.entry metric)).map Route.destination).Nodup := by
    rw [List.map_map]
    exact hs.routes_nodup
  intro f
  rw [changes_applySetting, config_applySetting, hs.keeps_routes, hs.keeps_dns]
  cases f with
  | gateway => by_cases h : s.gateway.isSome <;> simp [Changes.has, SameIn, h]
  | addresses => exact (AddressEntry.report_showsInKey c.privacy).changesIn_iff haddresses
  | routes => exact (upsert_showsInKey Route.keepsKey_updated).changesIn_iff hroutes
  | nameservers => exact changesIn_iff_of_length_lt fun _ _ => length_lt_insertNew
  | domains => exact iff_of_false Bool.false_ne_true (not_not_intro rfl)
  | searches => exact changesIn_iff_of_length_lt fun _ _ => length_lt_insertName

theorem publish_exact (pool : PathPool) : (start (c.publish pool).1).ReportsExactly c := by
  refine reportsExactly_of_silent rfl fun f => ?_
  unfold publish
  split <;> cases f <;> rfl

end Config

namespace Edit
open Config Outcome

variable {e : Edit F} {c : Config F} {o : Outcome F}

/-- What the edit brings in does not repeat itself, and takes the place of nothing. -/
def BringsInOnce : Edit F → Prop
  | merge src =>
    (src.addresses.map AddressEntry.address).Nodup ∧ (src.routes.map Route.destination).Nodup
  | applySetting setting _ => setting.OnlyAdds
  | replaceBy _ => False
  | _ => True

/-- An edit reports exactly the fields that hold something else than before. -/
theorem reports_exactly (h : e.apply c = some o) (he : e.BringsInOnce) :
    ∀ f, o.changes.has f ↔ ¬ c.SameIn o.config f := by
  change o.ReportsExactly c
  cases e with
  | insertAddress entry => cases h; exact exact_of_addresses (c.insertAddress_puts entry)
  | insertRoute route => cases h; exact exact_of_routes (c.insertRoute_puts route)
  | insertNameserver address =>
    cases h
    exact exact_of_nameservers (c.insertNameserver_puts address)
  | insertDomain domain => cases h; exact exact_of_domains (c.insertDomain_puts domain)
  | insertSearch search => cases h; exact exact_of_searches (c.insertSearch_puts search)
  | removeAddress i => exact exact_of_addresses (removeAddress_puts h)
  | removeRoute i => exact exact_of_routes (removeRoute_puts h)
  | removeNameserver i => exact exact_of_nameservers (removeNameserver_puts h)
  | removeDomain i => exact exact_of_domains (removeDomain_puts h)
  | removeSearch i => exact exact_of_searches (removeSearch_puts h)
  | clearAddresses => cases h; exact exact_of_addresses c.clearAddresses_puts
  | clearRoutes => cases h; exact exact_of_routes c.clearRoutes_puts
  | clearNameservers => cases h; exact exact_of_nameservers c.clearNameservers_puts
  | clearDomains => cases h; exact exact_of_domains c.clearDomains_puts
  | clearSearches => cases h; exact exact_of_searches c.clearSearches_puts
  | setGateway gateway => cases h; exact c.setGateway_exact gateway
  | setNeverDefault neverDefault =>
    cases h
    exact reportsExactly_of_silent rfl fun f => by cases f <;> rfl
  | setMss mss =>
    cases h
    exact reportsExactly_of_silent rfl fun f => by cases f <;> rfl
  | setPrivacy privacy => cases h; exact c.setPrivacy_exact privacy
  | sortAddresses => cases h; exact exact_of_addresses c.sortAddresses_puts
  | applySetting setting metric => cases h; exact c.applySetting_exact he metric
  | merge src => cases h; exact c.merge_exact he.1 he.2
  | withdraw src => cases h; exact c.withdraw_exact src
  | replaceBy src => contradiction
  | publish pool => cases h; exact c.publish_exact pool

/-- Two leases become the user's own. In between the second one comes first, but in the end each
stands where it stood before. -/
theorem reports_exactly_claimedLeases :
    let first : AddressEntry .v4 := { address := ⟨0x0a000001⟩, prefixLen := 24, source := .dhcp }
    let second := { first with address := ⟨0x0a000002⟩ }
    let first' := { first with source := .user }
    let second' := { second with source := .user }
    let leased : Config .v4 :=
      { addresses := [first, second], gateway := some ⟨0x0a0000fe⟩, domains := ["lan"] }
    let own : Config .v4 :=
      { addresses := [second', first'], gateway := some ⟨0x0a0000fd⟩, domains := ["lan"] }
    let o := leased.merge own
    (leased.insertAddress second').config.addresses = [second', first] ∧
      o.config.addresses = [first', second'] ∧ o.changes = .only .addresses ∧
      ∀ f, o.changes.has f ↔ ¬ leased.SameIn o.config f := by
  intro first second first' second' leased own o
  have honce : (Edit.merge own).BringsInOnce := by
    change _ ∧ _
    decide
  exact ⟨by decide, by decide, by decide, reports_exactly rfl honce⟩

/-- Nameservers that are cleared and declared again are reported, though they are what they were. -/
example :
    let held : Config .v4 := { nameservers := [⟨0x0a000035⟩] }
    let o := held.applySetting { nameservers := [⟨0x0a000035⟩], ignoreAutoDns := true } 100
    o.changes = .only .nameservers ∧ o.config = held := by
  decide

end Edit

end LinkConfig
