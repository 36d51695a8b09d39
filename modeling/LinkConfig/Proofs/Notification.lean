import LinkConfig.Proofs.ExactReports
import LinkConfig.Proofs.Stepwise

/-! # Nothing changes unheard

Whoever holds what a configuration published, and after each edit renews the fields that the edit
reported, holds what the configuration publishes now. The invariant is that an edit leaves the
published fields alone that it does not report. It is transitive, so that operations made of many
edits, which report what any of them did, have it from them.
-/
namespace LinkConfig

variable {F : Family}

namespace Published

/-- The old one, with the fields of `changes` from the new one. -/
def renew (old new : Published F) (changes : Changes) : Published F where
  gateway := if changes.gateway then new.gateway else old.gateway
  addresses := if changes.addresses then new.addresses else old.addresses
  routes := if changes.routes then new.routes else old.routes
  nameservers := if changes.nameservers then new.nameservers else old.nameservers
  domains := if changes.domains then new.domains else old.domains
  searches := if changes.searches then new.searches else old.searches

variable {p q r : Published F} {f : Field} {changes : Changes}

theorem diff_self_has : (p.diff p).has f = false := by
  rw [diff_eq_empty_iff.mpr rfl, Changes.has_empty]

theorem diff_trans (h : (p.diff r).has f) : (p.diff q).has f ∨ (q.diff r).has f := by
  by_contra hno
  rw [not_or] at hno
  obtain ⟨hpq, hqr⟩ := hno
  cases f <;> simp_all [diff, Changes.has]

theorem renew_eq (h : ∀ f, (p.diff q).has f → changes.has f) : p.renew q changes = q := by
  have hfield (f : Field) (hf : changes.has f = false) : (p.diff q).has f = false := by
    by_contra hd
    rw [Bool.not_eq_false] at hd
    rw [h f hd] at hf
    contradiction
  have hgateway := hfield .gateway
  have haddresses := hfield .addresses
  have hroutes := hfield .routes
  have hnameservers := hfield .nameservers
  have hdomains := hfield .domains
  have hsearches := hfield .searches
  cases p
  cases q
  simp_all [renew, diff, Changes.has]

end Published

/-- Where two configurations hold the same they publish the same. -/
theorem Config.SameIn.agreesIn {c d : Config F} {f : Field} (h : c.SameIn d f) :
    c.published.AgreesIn d.published f := by
  cases f with
  | addresses => exact congrArg (List.map _) h
  | routes => exact congrArg (List.map _) h
  | gateway | nameservers | domains | searches => exact h

namespace Outcome

/-- The outcome of an operation on `c` reports every published field that is not what it was. -/
def Reports (c : Config F) (o : Outcome F) : Prop :=
  ∀ f, (c.published.diff o.config.published).has f → o.changes.has f

variable {c : Config F} {o : Outcome F}

theorem reports_of_published_eq (h : o.config.published = c.published) : o.Reports c := by
  intro f hf
  rw [h, Published.diff_self_has] at hf
  contradiction

theorem reports_start (c : Config F) : (start c).Reports c := reports_of_published_eq rfl

theorem ReportsExactly.reports (h : o.ReportsExactly c) : o.Reports c := by
  intro f hf
  refine (h f).mpr fun hsame => ?_
  exact Published.diff_has_iff.mp hf hsame.agreesIn

theorem Reports.andThen (h : o.Reports c) {step : Config F → Outcome F}
    (hstep : (step o.config).Reports o.config) : (o.andThen step).Reports c := by
  intro f hf
  rw [changes_andThen, Changes.has_union, Bool.or_eq_true]
  rcases Published.diff_trans (q := o.config.published) hf with hf | hf
  · exact .inl (h f hf)
  · exact .inr (hstep f hf)

end Outcome

namespace Config
open Outcome

variable (c : Config F)

theorem insertAddress_reports (e : AddressEntry F) : (c.insertAddress e).Reports c :=
  (exact_of_addresses (c.insertAddress_puts e)).reports

theorem insertRoute_reports (r : Route F) : (c.insertRoute r).Reports c :=
  (exact_of_routes (c.insertRoute_puts r)).reports

theorem insertNameserver_reports (a : Address F) : (c.insertNameserver a).Reports c :=
  (exact_of_nameservers (c.insertNameserver_puts a)).reports

theorem insertDomain_reports (domain : String) : (c.insertDomain domain).Reports c :=
  (exact_of_domains (c.insertDomain_puts domain)).reports

theorem insertSearch_reports (search : String) : (c.insertSearch search).Reports c :=
  (exact_of_searches (c.insertSearch_puts search)).reports

theorem dropAddress_reports (e : AddressEntry F) : (c.dropAddress e).Reports c :=
  (exact_of_addresses (c.dropAddress_puts e)).reports

theorem dropRoute_reports (r : Route F) : (c.dropRoute r).Reports c :=
  (exact_of_routes (c.dropRoute_puts r)).reports

theorem dropNameserver_reports (a : Address F) : (c.dropNameserver a).Reports c :=
  (exact_of_nameservers (c.dropNameserver_puts a)).reports

theorem dropDomain_reports (domain : String) : (c.dropDomain domain).Reports c :=
  (exact_of_domains (c.dropDomain_puts domain)).reports

theorem dropSearch_reports (search : String) : (c.dropSearch search).Reports c :=
  (exact_of_searches (c.dropSearch_puts search)).reports

theorem clearAddresses_reports : c.clearAddresses.Reports c :=
  (exact_of_addresses c.clearAddresses_puts).reports

theorem clearRoutes_reports : c.clearRoutes.Reports c :=
  (exact_of_routes c.clearRoutes_puts).reports

theorem clearNameservers_reports : c.clearNameservers.Reports c :=
  (exact_of_nameservers c.clearNameservers_puts).reports

theorem clearDomains_reports : c.clearDomains.Reports c :=
  (exact_of_domains c.clearDomains_puts).reports

theorem clearSearches_reports : c.clearSearches.Reports c :=
  (exact_of_searches c.clearSearches_puts).reports

theorem sortAddresses_reports : c.sortAddresses.Reports c :=
  (exact_of_addresses c.sortAddresses_puts).reports

theorem setGateway_reports (gateway : Option (Address F)) : (c.setGateway gateway).Reports c :=
  (c.setGateway_exact gateway).reports

theorem setNeverDefault_reports (neverDefault : Bool) :
    (c.setNeverDefault neverDefault).Reports c :=
  reports_of_published_eq rfl

theorem setMss_reports (mss : UInt32) : (c.setMss mss).Reports c := reports_of_published_eq rfl

/-- The preference is not published, and the order it leads to is. -/
theorem setPrivacy_reports (privacy : Privacy) : (c.setPrivacy privacy).Reports c :=
  (c.setPrivacy_exact privacy).reports

theorem stepwise_reports : Stepwise fun (c : Config F) o => o.Reports c where
  start := reports_start
  andThen _ h hstep := h.andThen hstep
  relog _ h := h
  insertAddress := insertAddress_reports
  insertRoute := insertRoute_reports
  insertNameserver := insertNameserver_reports
  insertDomain := insertDomain_reports
  insertSearch := insertSearch_reports
  dropAddress := dropAddress_reports
  dropRoute := dropRoute_reports
  dropNameserver := dropNameserver_reports
  dropDomain := dropDomain_reports
  dropSearch := dropSearch_reports
  clearRoutes := clearRoutes_reports
  clearNameservers := clearNameservers_reports
  clearDomains := clearDomains_reports
  clearSearches := clearSearches_reports
  setGateway := setGateway_reports
  setNeverDefault := setNeverDefault_reports
  setMss := setMss_reports

/-- What replacing reports as relevant is the whole difference. -/
theorem replaceBy_reports (src : Config F) : (c.replaceBy src).outcome.Reports c := by
  intro f hf
  rw [Replacement.config_outcome, config_replaceBy] at hf
  exact hf

theorem published_publish (pool : PathPool) : (c.publish pool).1.published = c.published := by
  unfold publish
  split <;> rfl

end Config

namespace Edit
open Config

variable {e : Edit F} {es : List (Edit F)} {c : Config F} {o : Outcome F} {os : List (Outcome F)}

theorem reports_of_apply (h : e.apply c = some o) : o.Reports c := by
  cases e with
  | insertAddress entry => cases h; exact c.insertAddress_reports entry
  | insertRoute route => cases h; exact c.insertRoute_reports route
  | insertNameserver address => cases h; exact c.insertNameserver_reports address
  | insertDomain domain => cases h; exact c.insertDomain_reports domain
  | insertSearch search => cases h; exact c.insertSearch_reports search
  | removeAddress i => exact (exact_of_addresses (removeAddress_puts h)).reports
  | removeRoute i => exact (exact_of_routes (removeRoute_puts h)).reports
  | removeNameserver i => exact (exact_of_nameservers (removeNameserver_puts h)).reports
  | removeDomain i => exact (exact_of_domains (removeDomain_puts h)).reports
  | removeSearch i => exact (exact_of_searches (removeSearch_puts h)).reports
  | clearAddresses => cases h; exact c.clearAddresses_reports
  | clearRoutes => cases h; exact c.clearRoutes_reports
  | clearNameservers => cases h; exact c.clearNameservers_reports
  | clearDomains => cases h; exact c.clearDomains_reports
  | clearSearches => cases h; exact c.clearSearches_reports
  | setGateway gateway => cases h; exact c.setGateway_reports gateway
  | setNeverDefault neverDefault => cases h; exact c.setNeverDefault_reports neverDefault
  | setMss mss => cases h; exact c.setMss_reports mss
  | setPrivacy privacy => cases h; exact c.setPrivacy_reports privacy
  | sortAddresses => cases h; exact c.sortAddresses_reports
  | applySetting setting metric => cases h; exact stepwise_reports.applySetting c setting metric
  | merge src => cases h; exact stepwise_reports.merge c src
  | withdraw src => cases h; exact stepwise_reports.withdraw c src
  | replaceBy src => cases h; exact c.replaceBy_reports src
  | publish pool => cases h; exact Outcome.reports_of_published_eq (c.published_publish pool)

end Edit

/-- What a consumer of the outcomes holds that starts with `p`. -/
def Published.follow (p : Published F) (os : List (Outcome F)) : Published F :=
  os.foldl (fun p o => p.renew o.config.published o.changes) p

/-- The fields that any of the outcomes reports. -/
def Outcome.reported : List (Outcome F) → Changes
  | [] => ∅
  | o :: os => o.changes ∪ reported os

namespace Edit
open Outcome

variable {es : List (Edit F)} {c : Config F} {os : List (Outcome F)}

theorem follow_eq_published (h : run es c = some os) :
    c.published.follow os = (c.reached os).published := by
  induction es generalizing c os with
  | nil =>
    cases h
    rfl
  | cons e es ih =>
    obtain ⟨o, rest, ho, hrest, rfl⟩ := run_cons_eq_some.mp h
    have hrenew := Published.renew_eq (reports_of_apply ho)
    calc c.published.follow (o :: rest)
        = (c.published.renew o.config.published o.changes).follow rest := rfl
      _ = o.config.published.follow rest := by rw [hrenew]
      _ = (o.config.reached rest).published := ih hrest

theorem reported_of_diff (h : run es c = some os) {f : Field}
    (hf : (c.published.diff (c.reached os).published).has f) : (reported os).has f := by
  induction es generalizing c os with
  | nil =>
    cases h
    rw [Config.reached, List.foldl_nil, Published.diff_self_has] at hf
    contradiction
  | cons e es ih =>
    obtain ⟨o, rest, ho, hrest, rfl⟩ := run_cons_eq_some.mp h
    rw [reported, Changes.has_union, Bool.or_eq_true]
    rcases Published.diff_trans (q := o.config.published) hf with hf | hf
    · exact .inl (reports_of_apply ho f hf)
    · exact .inr (ih hrest hf)

/-- After any number of the edits of a history, whoever renewed what was reported is up to date, and
whatever has changed since the start was reported at some time. -/
theorem up_to_date (h : run es c = some os) (k : Nat) :
    c.published.follow (os.take k) = (c.reached (os.take k)).published ∧
      ∀ f, (c.published.diff (c.reached (os.take k)).published).has f →
        (reported (os.take k)).has f :=
  ⟨follow_eq_published (run_take h k), fun _ => reported_of_diff (run_take h k)⟩

/-- A lease is merged, prolonged without news for the public, withdrawn, and followed by an address
of one's own. -/
def leaseHistory : List (Edit .v4) :=
  let held := { address := ⟨0x0a000007⟩, prefixLen := 24, lease := ⟨0, 60, 60⟩ }
  let lease := { addresses := [held], gateway := some ⟨0x0a0000fe⟩ }
  let own := { addresses := [{ address := ⟨0x0a000001⟩, prefixLen := 24 }] }
  [.merge lease, .insertAddress { held with lease := ⟨30, 60, 60⟩ }, .withdraw lease,
    .replaceBy own]

theorem up_to_date_leaseHistory :
    ∃ os, run leaseHistory {} = some os ∧ os.length = 4 ∧
      ∀ k, (Config.published {}).follow (os.take k) = (Config.reached {} (os.take k)).published ∧
        ∀ f, ((Config.published {}).diff (Config.reached {} (os.take k)).published).has f →
          (reported (os.take k)).has f := by
  have hrun : ∃ os, run leaseHistory {} = some os ∧ os.length = 4 := ⟨_, rfl, rfl⟩
  obtain ⟨os, hos, hlength⟩ := hrun
  exact ⟨os, hos, hlength, up_to_date hos⟩

end Edit

end LinkConfig
