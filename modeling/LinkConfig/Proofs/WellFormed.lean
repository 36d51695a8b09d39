import LinkConfig.Proofs.CaptureEffects
import LinkConfig.Proofs.Replacements
import LinkConfig.Proofs.Stepwise

/-! # Well-formed configurations

The lists of a configuration do not repeat themselves, its addresses are in order, its names are not
empty and its gateway is an address. Each edit of one list keeps this, and so does every row of
such edits. Replacing a configuration copies lists and preference together, so that the order of
the addresses comes along.
-/
namespace LinkConfig
open Keyed

variable {F : Family}

namespace Config

/-- What holds of a configuration in whatever order its addresses are. -/
structure Sound (c : Config F) : Prop where
  addresses_nodup : (c.addresses.map AddressEntry.address).Nodup
  routes_nodup : (c.routes.map Route.destination).Nodup
  nameservers_nodup : c.nameservers.Nodup
  domains_nodup : c.domains.Nodup
  domains_named : "" ∉ c.domains
  searches_nodup : c.searches.Nodup
  searches_named : "" ∉ c.searches
  gateway_specified : c.gateway ≠ some .unspecified

/-- What every edit keeps. -/
structure WellFormed (c : Config F) : Prop extends c.Sound where
  addresses_ascending : AddressEntry.Ascending c.privacy c.addresses

instance (c : Config F) : Decidable c.WellFormed :=
  decidable_of_iff
    (((c.addresses.map AddressEntry.address).Nodup ∧ (c.routes.map Route.destination).Nodup ∧
        c.nameservers.Nodup ∧ c.domains.Nodup ∧ "" ∉ c.domains ∧ c.searches.Nodup ∧
        "" ∉ c.searches ∧ c.gateway ≠ some .unspecified) ∧
      AddressEntry.Ascending c.privacy c.addresses)
    ⟨fun ⟨⟨h₁, h₂, h₃, h₄, h₅, h₆, h₇, h₈⟩, h₉⟩ => ⟨⟨h₁, h₂, h₃, h₄, h₅, h₆, h₇, h₈⟩, h₉⟩,
      fun ⟨⟨h₁, h₂, h₃, h₄, h₅, h₆, h₇, h₈⟩, h₉⟩ => ⟨⟨h₁, h₂, h₃, h₄, h₅, h₆, h₇, h₈⟩, h₉⟩⟩

/-- The order is all that sorting adds. -/
theorem Sound.setPrivacy {c : Config F} (h : c.Sound) (privacy : Privacy) :
    (c.setPrivacy privacy).config.WellFormed := by
  unfold Config.setPrivacy
  rw [(sortAddresses_puts _).config]
  have hperm := AddressEntry.sort_perm privacy c.addresses
  exact { h with
    addresses_ascending := AddressEntry.ascending_sort (List.Nodup.of_map _ h.addresses_nodup)
    addresses_nodup := (hperm.map _).nodup_iff.mpr h.addresses_nodup }

namespace WellFormed
variable {c : Config F}

theorem empty (privacy : Privacy) : ({ privacy } : Config F).WellFormed where
  addresses_ascending := List.Pairwise.nil
  addresses_nodup := List.nodup_nil
  routes_nodup := List.nodup_nil
  nameservers_nodup := List.nodup_nil
  domains_nodup := List.nodup_nil
  domains_named := List.not_mem_nil
  searches_nodup := List.nodup_nil
  searches_named := List.not_mem_nil
  gateway_specified := nofun

theorem sublist_addresses (h : c.WellFormed) {l : List (AddressEntry F)}
    (hl : l.Sublist c.addresses) : (c.withAddresses l).WellFormed :=
  { h with
    addresses_ascending := h.addresses_ascending.sublist hl
    addresses_nodup := (hl.map _).nodup h.addresses_nodup }

theorem sublist_routes (h : c.WellFormed) {l : List (Route F)} (hl : l.Sublist c.routes) :
    (c.withRoutes l).WellFormed :=
  { h with routes_nodup := (hl.map _).nodup h.routes_nodup }

theorem sublist_nameservers (h : c.WellFormed) {l : List (Address F)}
    (hl : l.Sublist c.nameservers) : (c.withNameservers l).WellFormed :=
  { h with nameservers_nodup := hl.nodup h.nameservers_nodup }

theorem sublist_domains (h : c.WellFormed) {l : List String} (hl : l.Sublist c.domains) :
    (c.withDomains l).WellFormed :=
  { h with
    domains_nodup := hl.nodup h.domains_nodup
    domains_named := fun hmem => h.domains_named (hl.subset hmem) }

theorem sublist_searches (h : c.WellFormed) {l : List String} (hl : l.Sublist c.searches) :
    (c.withSearches l).WellFormed :=
  { h with
    searches_nodup := hl.nodup h.searches_nodup
    searches_named := fun hmem => h.searches_named (hl.subset hmem) }

theorem clearAddresses (h : c.WellFormed) : c.clearAddresses.config.WellFormed :=
  h.sublist_addresses (List.nil_sublist _)

theorem clearRoutes (h : c.WellFormed) : c.clearRoutes.config.WellFormed :=
  h.sublist_routes (List.nil_sublist _)

theorem clearNameservers (h : c.WellFormed) : c.clearNameservers.config.WellFormed :=
  h.sublist_nameservers (List.nil_sublist _)

theorem clearDomains (h : c.WellFormed) : c.clearDomains.config.WellFormed :=
  h.sublist_domains (List.nil_sublist _)

theorem clearSearches (h : c.WellFormed) : c.clearSearches.config.WellFormed :=
  h.sublist_searches (List.nil_sublist _)

theorem dropAddress (h : c.WellFormed) (e : AddressEntry F) :
    (c.dropAddress e).config.WellFormed :=
  (c.dropAddress_puts e).config ▸ h.sublist_addresses drop_sublist

theorem dropRoute (h : c.WellFormed) (r : Route F) : (c.dropRoute r).config.WellFormed :=
  (c.dropRoute_puts r).config ▸ h.sublist_routes drop_sublist

theorem dropNameserver (h : c.WellFormed) (a : Address F) :
    (c.dropNameserver a).config.WellFormed :=
  (c.dropNameserver_puts a).config ▸ h.sublist_nameservers drop_sublist

theorem dropDomain (h : c.WellFormed) (domain : String) :
    (c.dropDomain domain).config.WellFormed :=
  (c.dropDomain_puts domain).config ▸ h.sublist_domains drop_sublist

theorem dropSearch (h : c.WellFormed) (search : String) :
    (c.dropSearch search).config.WellFormed :=
  (c.dropSearch_puts search).config ▸ h.sublist_searches drop_sublist

theorem insertAddress (h : c.WellFormed) (e : AddressEntry F) :
    (c.insertAddress e).config.WellFormed := by
  rw [(c.insertAddress_puts e).config]
  exact { h with
    addresses_ascending := AddressEntry.ascending_report h.addresses_ascending h.addresses_nodup e
    addresses_nodup := AddressEntry.nodup_report h.addresses_nodup e }

theorem insertRoute (h : c.WellFormed) (r : Route F) : (c.insertRoute r).config.WellFormed := by
  rw [(c.insertRoute_puts r).config]
  exact { h with routes_nodup := nodup_upsert Route.keepsKey_updated h.routes_nodup }

theorem insertNameserver (h : c.WellFormed) (a : Address F) :
    (c.insertNameserver a).config.WellFormed := by
  rw [(c.insertNameserver_puts a).config]
  exact { h with nameservers_nodup := nodup_insertNew h.nameservers_nodup a }

theorem insertDomain (h : c.WellFormed) (domain : String) :
    (c.insertDomain domain).config.WellFormed := by
  rw [(c.insertDomain_puts domain).config]
  exact { h with
    domains_nodup := nodup_insertName h.domains_nodup domain
    domains_named := empty_notMem_insertName h.domains_named domain }

theorem insertSearch (h : c.WellFormed) (search : String) :
    (c.insertSearch search).config.WellFormed := by
  rw [(c.insertSearch_puts search).config]
  exact { h with
    searches_nodup := nodup_insertName h.searches_nodup search
    searches_named := empty_notMem_insertName h.searches_named search }

theorem setGateway (h : c.WellFormed) (gateway : Option (Address F)) :
    (c.setGateway gateway).config.WellFormed :=
  { h with gateway_specified := specified?_ne gateway }

theorem setNeverDefault (h : c.WellFormed) (neverDefault : Bool) :
    (c.setNeverDefault neverDefault).config.WellFormed :=
  { h with }

theorem publish (h : c.WellFormed) (pool : PathPool) : (c.publish pool).1.WellFormed := by
  unfold Config.publish
  split
  · exact h
  · exact { h with }

theorem setMss (h : c.WellFormed) (mss : UInt32) : (c.setMss mss).config.WellFormed := { h with }

theorem sortAddresses (h : c.WellFormed) : c.sortAddresses.config.WellFormed :=
  h.toSound.setPrivacy c.privacy

theorem replaceBy (h : c.WellFormed) (old : Config F) : (old.replaceBy c).config.WellFormed := by
  rw [config_replaceBy]
  exact { h with }

end WellFormed

theorem stepwise_wellFormed :
    Stepwise fun (c : Config F) o => c.WellFormed → o.config.WellFormed where
  start _ h := h
  andThen _ h hstep := fun hc => hstep (h hc)
  relog _ h := h
  insertAddress _ e h := h.insertAddress e
  insertRoute _ r h := h.insertRoute r
  insertNameserver _ a h := h.insertNameserver a
  insertDomain _ d h := h.insertDomain d
  insertSearch _ s h := h.insertSearch s
  dropAddress _ e h := h.dropAddress e
  dropRoute _ r h := h.dropRoute r
  dropNameserver _ a h := h.dropNameserver a
  dropDomain _ d h := h.dropDomain d
  dropSearch _ s h := h.dropSearch s
  clearRoutes _ h := h.clearRoutes
  clearNameservers _ h := h.clearNameservers
  clearDomains _ h := h.clearDomains
  clearSearches _ h := h.clearSearches
  setGateway _ g h := h.setGateway g
  setNeverDefault _ b h := h.setNeverDefault b
  setMss _ n h := h.setMss n

end Config

namespace Edit
open Config

/-- The configurations that the edit reads, beside the one it is made to. -/
def sources : Edit F → List (Config F)
  | merge src | withdraw src | replaceBy src => [src]
  | _ => []

variable {e : Edit F} {c : Config F} {o : Outcome F}

theorem wellFormed_apply (h : e.apply c = some o) (hc : c.WellFormed)
    (hsources : ∀ src ∈ e.sources, src.WellFormed) : o.config.WellFormed := by
  cases e with
  | insertAddress entry => cases h; exact hc.insertAddress entry
  | insertRoute route => cases h; exact hc.insertRoute route
  | insertNameserver address => cases h; exact hc.insertNameserver address
  | insertDomain domain => cases h; exact hc.insertDomain domain
  | insertSearch search => cases h; exact hc.insertSearch search
  | removeAddress i =>
    rw [(removeAddress_puts h).config]
    exact hc.sublist_addresses (List.eraseIdx_sublist _ i)
  | removeRoute i =>
    rw [(removeRoute_puts h).config]
    exact hc.sublist_routes (List.eraseIdx_sublist _ i)
  | removeNameserver i =>
    rw [(removeNameserver_puts h).config]
    exact hc.sublist_nameservers (List.eraseIdx_sublist _ i)
  | removeDomain i =>
    rw [(removeDomain_puts h).config]
    exact hc.sublist_domains (List.eraseIdx_sublist _ i)
  | removeSearch i =>
    rw [(removeSearch_puts h).config]
    exact hc.sublist_searches (List.eraseIdx_sublist _ i)
  | clearAddresses => cases h; exact hc.clearAddresses
  | clearRoutes => cases h; exact hc.clearRoutes
  | clearNameservers => cases h; exact hc.clearNameservers
  | clearDomains => cases h; exact hc.clearDomains
  | clearSearches => cases h; exact hc.clearSearches
  | setGateway gateway => cases h; exact hc.setGateway gateway
  | setNeverDefault neverDefault => cases h; exact hc.setNeverDefault neverDefault
  | setMss mss => cases h; exact hc.setMss mss
  | setPrivacy privacy => cases h; exact hc.toSound.setPrivacy privacy
  | sortAddresses => cases h; exact hc.sortAddresses
  | applySetting setting metric =>
    cases h
    exact stepwise_wellFormed.applySetting c setting metric hc
  | merge src => cases h; exact stepwise_wellFormed.merge c src hc
  | withdraw src => cases h; exact stepwise_wellFormed.withdraw c src hc
  | replaceBy src => cases h; exact (hsources src List.mem_cons_self).replaceBy c
  | publish pool => cases h; exact hc.publish pool

end Edit

/-- The tables of the link repeat neither an address nor a destination. -/
structure LinkAnswers.IsDistinct (answers : LinkAnswers F) : Prop where
  addresses : ∀ es, answers.addresses = .ok es → (es.map AddressEntry.address).Nodup
  routes : ∀ rs, answers.routes = .ok rs → (rs.map Route.destination).Nodup

namespace LinkAnswers
variable {answers : LinkAnswers F}

theorem IsDistinct.addressTable (h : answers.IsDistinct) :
    (answers.addressTable.map AddressEntry.address).Nodup := by
  unfold LinkAnswers.addressTable
  cases haddresses : answers.addresses with
  | ok es => exact h.addresses es haddresses
  | error fault => exact List.nodup_nil

theorem IsDistinct.routeTable (h : answers.IsDistinct) :
    (answers.routeTable.map Route.destination).Nodup := by
  unfold LinkAnswers.routeTable
  cases hroutes : answers.routes with
  | ok rs => exact h.routes rs hroutes
  | error fault => exact List.nodup_nil

end LinkAnswers

/-- Sorting comes last, after everything that does not mind the order. -/
theorem Config.wellFormed_capture {answers : LinkAnswers F} (hd : answers.IsDistinct) {i : UInt32}
    {resolver : Option NameserverAnswer} {privacy : Privacy} {c : Config F}
    (h : (capture answers i resolver privacy).1 = some c) : c.WellFormed := by
  rw [capture_eq] at h
  split at h
  · contradiction
  · cases h
    have hempty := (WellFormed.empty (F := F) privacy).toSound
    have hperm := AddressEntry.sort_perm privacy answers.addressTable
    exact { hempty with
      addresses_ascending := AddressEntry.ascending_sort (List.Nodup.of_map _ hd.addressTable)
      addresses_nodup := (hperm.map _).nodup_iff.mpr hd.addressTable
      routes_nodup := (List.filter_sublist.map _).nodup hd.routeTable
      nameservers_nodup := nodup_foldl_insertNew List.nodup_nil _
      gateway_specified := specified?_ne _ }

end LinkConfig
