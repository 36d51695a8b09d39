import LinkConfig.Config.History
import LinkConfig.Proofs.ListSteps

/-! # What edits do

An insertion or removal puts one list in the place of another and reports exactly whether the two
differ. The operations on whole configurations are rows of such steps, so that each of their lists
is a fold over the list that is merged in or withdrawn.
-/
namespace LinkConfig
open Keyed

variable {F : Family} {α β : Type}

theorem Route.keepsKey_updated : KeepsKey (Route.destination (F := F)) Route.updated :=
  fun _ _ _ => rfl

theorem Changes.when_false (f : Field) : Changes.when false f = ∅ :=
  Changes.ext_has fun g => by simp

namespace Config
variable (c : Config F)

abbrev withAddresses (l : List (AddressEntry F)) : Config F := { c with addresses := l }

abbrev withRoutes (l : List (Route F)) : Config F := { c with routes := l }

abbrev withNameservers (l : List (Address F)) : Config F := { c with nameservers := l }

abbrev withDomains (l : List String) : Config F := { c with domains := l }

abbrev withSearches (l : List String) : Config F := { c with searches := l }

end Config

namespace Outcome

theorem forEach_map (o : Outcome F) (f : β → α) (xs : List β) (act : Config F → α → Outcome F) :
    o.forEach (xs.map f) act = o.forEach xs fun c x => act c (f x) := List.foldl_map

variable [DecidableEq α]

/-- The operation puts `new` in the place of `old` and reports whether they differ. -/
structure Puts (o : Outcome F) (f : Field) (put : List α → Config F) (old new : List α) : Prop where
  config : o.config = put new
  changes : o.changes = .when (new != old) f

theorem Puts.of_eq {f : Field} {put : List α → Config F} {old new : List α} {o : Outcome F}
    (h : new = old) (hconfig : o.config = put old) (hchanges : o.changes = ∅) :
    o.Puts f put old new := by
  subst h
  exact ⟨hconfig, by simp [hchanges, Changes.when_false]⟩

theorem Puts.of_ne {f : Field} {put : List α → Config F} {old new : List α} {o : Outcome F}
    (h : new ≠ old) (hconfig : o.config = put new) (hchanges : o.changes = .only f) :
    o.Puts f put old new :=
  ⟨hconfig, by rw [hchanges, bne_iff_ne.mpr h]; rfl⟩

/-- A row of such operations folds the list. -/
theorem forEach_puts {f : Field} {put : List α → Config F} {act : Config F → β → Outcome F}
    {step : List α → β → List α} (h : ∀ l x, (act (put l) x).Puts f put l (step l x))
    {o : Outcome F} {l : List α} (ho : o.config = put l) (xs : List β) :
    (o.forEach xs act).config = put (xs.foldl step l) ∧
      (o.forEach xs act).changes = o.changes ∪ .when (changesIn step l xs) f := by
  induction xs generalizing o l with
  | nil =>
    refine ⟨ho, ?_⟩
    rw [changesIn, Changes.when_false]
    exact Changes.ext_has fun g => by simp
  | cons x xs ih =>
    have hstep : (o.andThen (act · x)).config = put (step l x) := by
      rw [config_andThen, ho]
      exact (h l x).config
    obtain ⟨hconfig, hchanges⟩ := ih hstep
    rw [forEach_cons, hconfig, hchanges, changes_andThen, ho, (h l x).changes]
    refine ⟨rfl, Changes.ext_has fun g => ?_⟩
    rw [changesIn]
    simp only [Changes.has_union, Changes.has_when, Bool.or_assoc, Bool.and_or_distrib_right]

/-- Such an operation in a row of others, where it may not be wanted. -/
theorem andIf_puts {f : Field} {put : List α → Config F} {act : Config F → Outcome F}
    {o : Outcome F} {l new : List α} (h : (act (put l)).Puts f put l new) (ho : o.config = put l)
    (b : Bool) :
    (o.andIf b act).config = put (if b then new else l) ∧
      (o.andIf b act).changes = o.changes ∪ .when (b && new != l) f := by
  cases b with
  | false => exact ⟨ho, Changes.ext_has fun g => by simp [andIf]⟩
  | true =>
    rw [← ho] at h
    refine ⟨h.config, ?_⟩
    rw [andIf, if_pos rfl, changes_andThen, h.changes, Bool.true_and]

section Patterns
variable {f : Field} {l : List α} {c : Config F} (put : List α → Config F)

theorem puts_insertNew (hc : put l = c) (x : α) :
    (if x ∈ l then .start c else ⟨put (l ++ [x]), .only f, []⟩ : Outcome F).Puts f put l
      (insertNew l x) := by
  rw [insertNew_eq_ite]
  split
  · exact .of_eq rfl hc.symm rfl
  · exact .of_ne (by simp) rfl rfl

theorem puts_insertName {l : List String} (put : List String → Config F) (hc : put l = c)
    (x : String) :
    (if x.isEmpty || x ∈ l then .start c
      else ⟨put (l ++ [x]), .only f, []⟩ : Outcome F).Puts f put l (insertName l x) := by
  unfold insertName
  by_cases hx : x.isEmpty
  · simpa [hx] using .of_eq rfl hc.symm rfl
  · simpa [hx] using puts_insertNew put hc x

theorem puts_drop {κ : Type} [BEq κ] [LawfulBEq κ] (key : α → κ) (hc : put l = c) (x : α) :
    (if l.any (key · == key x) then ⟨put (l.eraseP (key · == key x)), .only f, []⟩
      else .start c : Outcome F).Puts f put l (drop key l x) := by
  split
  · next h => exact .of_ne (drop_ne_iff_any.mpr h) rfl rfl
  · next h => exact .of_eq (not_not.mp (drop_ne_iff_any.not.mpr h)) hc.symm rfl

theorem puts_erase (hc : put l = c) (x : α) :
    (if x ∈ l then ⟨put (l.erase x), .only f, []⟩ else .start c : Outcome F).Puts f put l
      (drop id l x) := by
  have h := puts_drop (f := f) put id hc x
  rw [← erase_eq_drop] at h ⊢
  simpa [← List.erase_eq_eraseP'] using h

theorem puts_remove {i : Nat} {o : Outcome F}
    (h : (Config.without? l i).map (fun l => ⟨put l, .only f, []⟩) = some o) :
    o.Puts f put l (l.eraseIdx i) := by
  obtain ⟨l', hl, rfl⟩ := Option.map_eq_some_iff.mp h
  unfold Config.without? at hl
  split at hl
  · next hi =>
    cases hl
    refine .of_ne ?_ rfl rfl
    intro he
    have hlength := congrArg List.length he
    rw [List.length_eraseIdx_of_lt hi] at hlength
    omega
  · contradiction

theorem puts_nil : (⟨put [], .when (!l.isEmpty) f, []⟩ : Outcome F).Puts f put l [] := by
  refine ⟨rfl, ?_⟩
  cases l <;> rfl

end Patterns

end Outcome

namespace Config
open Outcome

variable (c : Config F)

theorem putAddresses_puts {e : AddressEntry F} {es : List (AddressEntry F)} (event : Event F)
    (hes : es = upsert AddressEntry.address AddressEntry.updated c.addresses e)
    (h : es ≠ c.addresses) :
    (c.putAddresses es event).Puts .addresses c.withAddresses c.addresses
      (AddressEntry.report c.privacy c.addresses e) := by
  subst hes
  refine .of_ne (AddressEntry.report_eq_self_iff.not.mpr h) ?_ rfl
  rw [AddressEntry.report, if_neg h]
  rfl

theorem insertAddress_puts (e : AddressEntry F) :
    (c.insertAddress e).Puts .addresses c.withAddresses c.addresses
      (AddressEntry.report c.privacy c.addresses e) := by
  let es := upsert AddressEntry.address AddressEntry.updated c.addresses e
  unfold insertAddress
  split
  · next h =>
    have hes : es = c.addresses ++ [e] := upsert_of_find?_eq_none h
    have hne : es ≠ c.addresses := upsert_ne_of_find?_eq_none h
    exact c.putAddresses_puts _ hes.symm (hes ▸ hne)
  · next old h =>
    have hes : es = c.addresses.replace old (old.updated e) := upsert_of_find?_eq_some h
    have hself : es = c.addresses ↔ old.updated e = old := upsert_eq_self_iff h
    dsimp only
    split
    · next heq => exact .of_eq (AddressEntry.report_eq_self_iff.mpr (hself.mpr heq)) rfl rfl
    · next hne => exact c.putAddresses_puts _ hes.symm (hes ▸ hself.not.mpr hne)

theorem insertRoute_puts (r : Route F) :
    (c.insertRoute r).Puts .routes c.withRoutes c.routes
      (upsert Route.destination Route.updated c.routes r) := by
  let rs := upsert Route.destination Route.updated c.routes r
  unfold insertRoute
  split
  · next h =>
    have hrs : rs = c.routes ++ [r] := upsert_of_find?_eq_none h
    have hne : rs ≠ c.routes := upsert_ne_of_find?_eq_none h
    exact .of_ne hne (by rw [← hrs]) rfl
  · next old h =>
    have hrs : rs = c.routes.replace old (old.updated r) := upsert_of_find?_eq_some h
    have hself : rs = c.routes ↔ old.updated r = old := upsert_eq_self_iff h
    dsimp only
    split
    · next heq => exact .of_eq (hself.mpr heq) rfl rfl
    · next hne => exact .of_ne (hself.not.mpr hne) (by rw [← hrs]) rfl

theorem insertNameserver_puts (a : Address F) :
    (c.insertNameserver a).Puts .nameservers c.withNameservers c.nameservers
      (insertNew c.nameservers a) :=
  puts_insertNew c.withNameservers rfl a

theorem insertDomain_puts (domain : String) :
    (c.insertDomain domain).Puts .domains c.withDomains c.domains
      (insertName c.domains domain) :=
  puts_insertName c.withDomains rfl domain

theorem insertSearch_puts (search : String) :
    (c.insertSearch search).Puts .searches c.withSearches c.searches
      (insertName c.searches search) :=
  puts_insertName c.withSearches rfl search

theorem dropAddress_puts (e : AddressEntry F) :
    (c.dropAddress e).Puts .addresses c.withAddresses c.addresses
      (drop AddressEntry.address c.addresses e) :=
  puts_drop c.withAddresses _ rfl e

theorem dropRoute_puts (r : Route F) :
    (c.dropRoute r).Puts .routes c.withRoutes c.routes
      (drop Route.destination c.routes r) :=
  puts_drop c.withRoutes _ rfl r

theorem dropNameserver_puts (a : Address F) :
    (c.dropNameserver a).Puts .nameservers c.withNameservers c.nameservers
      (drop id c.nameservers a) :=
  puts_erase c.withNameservers rfl a

theorem dropDomain_puts (domain : String) :
    (c.dropDomain domain).Puts .domains c.withDomains c.domains
      (drop id c.domains domain) :=
  puts_erase c.withDomains rfl domain

theorem dropSearch_puts (search : String) :
    (c.dropSearch search).Puts .searches c.withSearches c.searches
      (drop id c.searches search) :=
  puts_erase c.withSearches rfl search

variable {c} {i : Nat} {o : Outcome F}

theorem removeAddress_puts (h : c.removeAddress i = some o) :
    o.Puts .addresses c.withAddresses c.addresses (c.addresses.eraseIdx i) :=
  puts_remove c.withAddresses h

theorem removeRoute_puts (h : c.removeRoute i = some o) :
    o.Puts .routes c.withRoutes c.routes (c.routes.eraseIdx i) :=
  puts_remove c.withRoutes h

theorem removeNameserver_puts (h : c.removeNameserver i = some o) :
    o.Puts .nameservers c.withNameservers c.nameservers (c.nameservers.eraseIdx i) :=
  puts_remove c.withNameservers h

theorem removeDomain_puts (h : c.removeDomain i = some o) :
    o.Puts .domains c.withDomains c.domains (c.domains.eraseIdx i) :=
  puts_remove c.withDomains h

theorem removeSearch_puts (h : c.removeSearch i = some o) :
    o.Puts .searches c.withSearches c.searches (c.searches.eraseIdx i) :=
  puts_remove c.withSearches h

variable (c)

theorem clearAddresses_puts : c.clearAddresses.Puts .addresses c.withAddresses c.addresses [] :=
  puts_nil c.withAddresses

theorem clearRoutes_puts : c.clearRoutes.Puts .routes c.withRoutes c.routes [] :=
  puts_nil c.withRoutes

theorem clearNameservers_puts :
    c.clearNameservers.Puts .nameservers c.withNameservers c.nameservers [] :=
  puts_nil c.withNameservers

theorem clearDomains_puts : c.clearDomains.Puts .domains c.withDomains c.domains [] :=
  puts_nil c.withDomains

theorem clearSearches_puts : c.clearSearches.Puts .searches c.withSearches c.searches [] :=
  puts_nil c.withSearches

theorem sortAddresses_puts :
    c.sortAddresses.Puts .addresses c.withAddresses c.addresses
      (AddressEntry.sort c.privacy c.addresses) := by
  have hsorted := AddressEntry.isSorted_iff.mpr
    (AddressEntry.pairwise_sort c.privacy c.addresses)
  unfold sortAddresses AddressEntry.arrange
  by_cases h : AddressEntry.isSorted c.privacy c.addresses
  · rw [if_pos h]
    exact .of_eq (AddressEntry.sort_of_isSorted c.privacy h) rfl (Changes.when_false _)
  · rw [if_neg h]
    refine .of_ne ?_ rfl rfl
    intro he
    rw [he] at hsorted
    exact h hsorted

theorem specified?_ne (gateway : Option (Address F)) :
    gateway.bind Address.specified? ≠ some .unspecified := by
  intro h
  obtain ⟨a, -, ha⟩ := Option.bind_eq_some_iff.mp h
  unfold Address.specified? at ha
  split at ha
  · contradiction
  · next hspec =>
    cases ha
    exact hspec (Address.isUnspecified_iff.mpr rfl)

end Config

namespace Outcome
open Config

variable (o : Outcome F)

theorem forEach_insertAddress (es : List (AddressEntry F)) :
    (o.forEach es insertAddress).config =
        o.config.withAddresses
          (es.foldl (AddressEntry.report o.config.privacy) o.config.addresses) ∧
      (o.forEach es insertAddress).changes = o.changes ∪
        .when (changesIn (AddressEntry.report o.config.privacy) o.config.addresses es) .addresses :=
  forEach_puts (fun l e => insertAddress_puts (withAddresses _ l) e) rfl es

theorem forEach_insertRoute (rs : List (Route F)) :
    (o.forEach rs insertRoute).config =
        o.config.withRoutes (rs.foldl (upsert Route.destination Route.updated) o.config.routes) ∧
      (o.forEach rs insertRoute).changes = o.changes ∪
        .when (changesIn (upsert Route.destination Route.updated) o.config.routes rs) .routes :=
  forEach_puts (fun l r => insertRoute_puts (withRoutes _ l) r) rfl rs

theorem forEach_insertNameserver (as : List (Address F)) :
    (o.forEach as insertNameserver).config =
        o.config.withNameservers (as.foldl insertNew o.config.nameservers) ∧
      (o.forEach as insertNameserver).changes =
        o.changes ∪ .when (changesIn insertNew o.config.nameservers as) .nameservers :=
  forEach_puts (fun l a => insertNameserver_puts (withNameservers _ l) a) rfl as

theorem forEach_insertDomain (ds : List String) :
    (o.forEach ds insertDomain).config =
        o.config.withDomains (ds.foldl insertName o.config.domains) ∧
      (o.forEach ds insertDomain).changes =
        o.changes ∪ .when (changesIn insertName o.config.domains ds) .domains :=
  forEach_puts (fun l d => insertDomain_puts (withDomains _ l) d) rfl ds

theorem forEach_insertSearch (ss : List String) :
    (o.forEach ss insertSearch).config =
        o.config.withSearches (ss.foldl insertName o.config.searches) ∧
      (o.forEach ss insertSearch).changes =
        o.changes ∪ .when (changesIn insertName o.config.searches ss) .searches :=
  forEach_puts (fun l s => insertSearch_puts (withSearches _ l) s) rfl ss

theorem forEach_dropAddress (es : List (AddressEntry F)) :
    (o.forEach es dropAddress).config =
        o.config.withAddresses (es.foldl (drop AddressEntry.address) o.config.addresses) ∧
      (o.forEach es dropAddress).changes = o.changes ∪
        .when (changesIn (drop AddressEntry.address) o.config.addresses es) .addresses :=
  forEach_puts (fun l e => dropAddress_puts (withAddresses _ l) e) rfl es

theorem forEach_dropRoute (rs : List (Route F)) :
    (o.forEach rs dropRoute).config =
        o.config.withRoutes (rs.foldl (drop Route.destination) o.config.routes) ∧
      (o.forEach rs dropRoute).changes =
        o.changes ∪ .when (changesIn (drop Route.destination) o.config.routes rs) .routes :=
  forEach_puts (fun l r => dropRoute_puts (withRoutes _ l) r) rfl rs

theorem forEach_dropNameserver (as : List (Address F)) :
    (o.forEach as dropNameserver).config =
        o.config.withNameservers (as.foldl (drop id) o.config.nameservers) ∧
      (o.forEach as dropNameserver).changes =
        o.changes ∪ .when (changesIn (drop id) o.config.nameservers as) .nameservers :=
  forEach_puts (fun l a => dropNameserver_puts (withNameservers _ l) a) rfl as

theorem forEach_dropDomain (ds : List String) :
    (o.forEach ds dropDomain).config =
        o.config.withDomains (ds.foldl (drop id) o.config.domains) ∧
      (o.forEach ds dropDomain).changes =
        o.changes ∪ .when (changesIn (drop id) o.config.domains ds) .domains :=
  forEach_puts (fun l d => dropDomain_puts (withDomains _ l) d) rfl ds

theorem forEach_dropSearch (ss : List String) :
    (o.forEach ss dropSearch).config =
        o.config.withSearches (ss.foldl (drop id) o.config.searches) ∧
      (o.forEach ss dropSearch).changes =
        o.changes ∪ .when (changesIn (drop id) o.config.searches ss) .searches :=
  forEach_puts (fun l s => dropSearch_puts (withSearches _ l) s) rfl ss

theorem andIf_setGateway (b : Bool) (g : Option (Address F)) :
    (o.andIf b (·.setGateway g)).config =
        { o.config with gateway := if b then g.bind Address.specified? else o.config.gateway } ∧
      (o.andIf b (·.setGateway g)).changes =
        o.changes ∪ .when (b && o.config.gateway != g.bind Address.specified?) .gateway := by
  cases b with
  | false => exact ⟨rfl, Changes.ext_has fun f => by simp [andIf]⟩
  | true => exact ⟨rfl, by simp [andIf, setGateway]⟩

theorem andIf_setMss (b : Bool) (n : UInt32) :
    (o.andIf b (·.setMss n)).config = { o.config with mss := if b then n else o.config.mss } ∧
      (o.andIf b (·.setMss n)).changes = o.changes := by
  cases b with
  | false => exact ⟨rfl, rfl⟩
  | true => exact ⟨rfl, Changes.ext_has fun f => by simp [andIf, setMss]⟩

theorem andIf_setNeverDefault (b neverDefault : Bool) :
    (o.andIf b (·.setNeverDefault neverDefault)).config =
        { o.config with neverDefault := if b then neverDefault else o.config.neverDefault } ∧
      (o.andIf b (·.setNeverDefault neverDefault)).changes = o.changes := by
  cases b with
  | false => exact ⟨rfl, rfl⟩
  | true => exact ⟨rfl, Changes.ext_has fun f => by simp [andIf, setNeverDefault]⟩

theorem andIf_clearRoutes (b : Bool) :
    (o.andIf b clearRoutes).config = o.config.withRoutes (if b then [] else o.config.routes) ∧
      (o.andIf b clearRoutes).changes =
        o.changes ∪ .when (b && [] != o.config.routes) .routes :=
  andIf_puts (clearRoutes_puts o.config) rfl b

theorem andIf_clearNameservers (b : Bool) :
    (o.andIf b clearNameservers).config =
        o.config.withNameservers (if b then [] else o.config.nameservers) ∧
      (o.andIf b clearNameservers).changes =
        o.changes ∪ .when (b && [] != o.config.nameservers) .nameservers :=
  andIf_puts (clearNameservers_puts o.config) rfl b

theorem andIf_clearDomains (b : Bool) :
    (o.andIf b clearDomains).config = o.config.withDomains (if b then [] else o.config.domains) ∧
      (o.andIf b clearDomains).changes =
        o.changes ∪ .when (b && [] != o.config.domains) .domains :=
  andIf_puts (clearDomains_puts o.config) rfl b

theorem andIf_clearSearches (b : Bool) :
    (o.andIf b clearSearches).config =
        o.config.withSearches (if b then [] else o.config.searches) ∧
      (o.andIf b clearSearches).changes =
        o.changes ∪ .when (b && [] != o.config.searches) .searches :=
  andIf_puts (clearSearches_puts o.config) rfl b

end Outcome

namespace Config
open Outcome

theorem config_merge (c src : Config F) : (c.merge src).config = { c with
    addresses := src.addresses.foldl (AddressEntry.report c.privacy) c.addresses
    routes := src.routes.foldl (upsert Route.destination Route.updated) c.routes
    gateway := if c.gateway.isNone then src.gateway.bind Address.specified? else c.gateway
    nameservers := src.nameservers.foldl insertNew c.nameservers
    domains := src.domains.foldl insertName c.domains
    searches := src.searches.foldl insertName c.searches
    mss := if c.mss == 0 then src.mss else c.mss } := by
  unfold merge
  rw [(andIf_setMss _ _ _).1, (forEach_insertSearch _ _).1, (forEach_insertDomain _ _).1,
    (forEach_insertRoute _ _).1, (andIf_setGateway _ _ _).1, (forEach_insertNameserver _ _).1,
    (forEach_insertAddress _ _).1]
  rfl

theorem changes_merge (c src : Config F) : (c.merge src).changes = {
    gateway := c.gateway.isNone && c.gateway != src.gateway.bind Address.specified?
    addresses := changesIn (AddressEntry.report c.privacy) c.addresses src.addresses
    routes := changesIn (upsert Route.destination Route.updated) c.routes src.routes
    nameservers := changesIn insertNew c.nameservers src.nameservers
    domains := changesIn insertName c.domains src.domains
    searches := changesIn insertName c.searches src.searches } := by
  unfold merge
  rw [(andIf_setMss _ _ _).2, (forEach_insertSearch _ _).2, (forEach_insertDomain _ _).2,
    (forEach_insertRoute _ _).2, (andIf_setGateway _ _ _).2, (forEach_insertNameserver _ _).2,
    (forEach_insertAddress _ _).2]
  rw [(forEach_insertDomain _ _).1, (forEach_insertRoute _ _).1, (andIf_setGateway _ _ _).1,
    (forEach_insertNameserver _ _).1, (forEach_insertAddress _ _).1]
  refine Changes.ext_has fun f => ?_
  simp only [changes_start, Changes.has_union, Changes.has_empty, Changes.has_when]
  cases f <;> simp [Changes.has, beq_eq_decide]

theorem config_withdraw (c src : Config F) : (c.withdraw src).config = { c with
    addresses := src.addresses.foldl (drop AddressEntry.address) c.addresses
    routes := src.routes.foldl (drop Route.destination) c.routes
    gateway := if src.gateway.isSome && c.gateway == src.gateway then none else c.gateway
    nameservers := src.nameservers.foldl (drop id) c.nameservers
    domains := src.domains.foldl (drop id) c.domains
    searches := src.searches.foldl (drop id) c.searches
    mss := if src.mss != 0 && c.mss == src.mss then 0 else c.mss } := by
  unfold withdraw
  rw [(andIf_setMss _ _ _).1, (forEach_dropSearch _ _).1, (forEach_dropDomain _ _).1,
    (forEach_dropRoute _ _).1, (andIf_setGateway _ _ _).1, (forEach_dropNameserver _ _).1,
    (forEach_dropAddress _ _).1]
  rfl

theorem changes_withdraw (c src : Config F) : (c.withdraw src).changes = {
    gateway := src.gateway.isSome && c.gateway == src.gateway
    addresses := changesIn (drop AddressEntry.address) c.addresses src.addresses
    routes := changesIn (drop Route.destination) c.routes src.routes
    nameservers := changesIn (drop id) c.nameservers src.nameservers
    domains := changesIn (drop id) c.domains src.domains
    searches := changesIn (drop id) c.searches src.searches } := by
  unfold withdraw
  rw [(andIf_setMss _ _ _).2, (forEach_dropSearch _ _).2, (forEach_dropDomain _ _).2,
    (forEach_dropRoute _ _).2, (andIf_setGateway _ _ _).2, (forEach_dropNameserver _ _).2,
    (forEach_dropAddress _ _).2]
  rw [(forEach_dropDomain _ _).1, (forEach_dropRoute _ _).1, (andIf_setGateway _ _ _).1,
    (forEach_dropNameserver _ _).1, (forEach_dropAddress _ _).1]
  have hg (h : src.gateway.isSome) (he : c.gateway = src.gateway) : c.gateway ≠ none := by
    rw [he]
    exact Option.isSome_iff_ne_none.mp h
  refine Changes.ext_has fun f => ?_
  simp only [changes_start, Changes.has_union, Changes.has_empty, Changes.has_when]
  cases f <;> simp [Changes.has, beq_eq_decide]
  exact hg

theorem config_applySetting (c : Config F) (s : Setting F) (metric : UInt32) :
    (c.applySetting s metric).config = { c with
      addresses := (s.addresses.map DeclaredAddress.entry).foldl (AddressEntry.report c.privacy)
        c.addresses
      routes := (s.routes.map (·.entry metric)).foldl (upsert Route.destination Route.updated)
        (if s.ignoreAutoRoutes then [] else c.routes)
      gateway := if s.gateway.isSome then s.gateway.bind Address.specified? else c.gateway
      nameservers := s.nameservers.foldl insertNew (if s.ignoreAutoDns then [] else c.nameservers)
      domains := if s.ignoreAutoDns then [] else c.domains
      searches := s.searches.foldl insertName (if s.ignoreAutoDns then [] else c.searches)
      neverDefault := if s.neverDefault || s.ignoreAutoRoutes then s.neverDefault
        else c.neverDefault } := by
  unfold applySetting
  dsimp only
  rw [← forEach_map _ DeclaredAddress.entry _ insertAddress,
    ← forEach_map _ (DeclaredRoute.entry · metric) _ insertRoute]
  rw [(forEach_insertSearch _ _).1, (forEach_insertNameserver _ _).1, (andIf_clearSearches _ _).1,
    (andIf_clearDomains _ _).1, (andIf_clearNameservers _ _).1, (forEach_insertRoute _ _).1,
    (andIf_clearRoutes _ _).1, (forEach_insertAddress _ _).1, (andIf_setGateway _ _ _).1,
    (andIf_setNeverDefault _ _ _).1]
  rfl

theorem changes_applySetting (c : Config F) (s : Setting F) (metric : UInt32) :
    (c.applySetting s metric).changes = {
      gateway := s.gateway.isSome && c.gateway != s.gateway.bind Address.specified?
      addresses := changesIn (AddressEntry.report c.privacy) c.addresses
        (s.addresses.map DeclaredAddress.entry)
      routes := (s.ignoreAutoRoutes && [] != c.routes) ||
        changesIn (upsert Route.destination Route.updated)
          (if s.ignoreAutoRoutes then [] else c.routes) (s.routes.map (·.entry metric))
      nameservers := (s.ignoreAutoDns && [] != c.nameservers) ||
        changesIn insertNew (if s.ignoreAutoDns then [] else c.nameservers) s.nameservers
      domains := s.ignoreAutoDns && [] != c.domains
      searches := (s.ignoreAutoDns && [] != c.searches) ||
        changesIn insertName (if s.ignoreAutoDns then [] else c.searches) s.searches } := by
  unfold applySetting
  dsimp only
  rw [← forEach_map _ DeclaredAddress.entry _ insertAddress,
    ← forEach_map _ (DeclaredRoute.entry · metric) _ insertRoute]
  rw [(forEach_insertSearch _ _).2, (forEach_insertNameserver _ _).2, (andIf_clearSearches _ _).2,
    (andIf_clearDomains _ _).2, (andIf_clearNameservers _ _).2, (forEach_insertRoute _ _).2,
    (andIf_clearRoutes _ _).2, (forEach_insertAddress _ _).2, (andIf_setGateway _ _ _).2,
    (andIf_setNeverDefault _ _ _).2]
  rw [(forEach_insertNameserver _ _).1, (andIf_clearSearches _ _).1,
    (andIf_clearDomains _ _).1, (andIf_clearNameservers _ _).1, (forEach_insertRoute _ _).1,
    (andIf_clearRoutes _ _).1, (forEach_insertAddress _ _).1, (andIf_setGateway _ _ _).1,
    (andIf_setNeverDefault _ _ _).1]
  refine Changes.ext_has fun f => ?_
  simp only [changes_start, config_start, Changes.has_union, Changes.has_empty, Changes.has_when]
  cases f <;> simp [Changes.has, beq_eq_decide]

end Config

end LinkConfig
