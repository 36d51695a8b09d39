import LinkConfig.Config.Intent
import LinkConfig.Proofs.Withdrawal

/-! # Rebuilding a configuration from its description

The setting that describes a configuration leaves out flags, sources, leases, and whatever came by
itself. What is built from it is what the user could have declared, in an order of its own, and is
described by its setting without loss. It publishes the same as the original if that has nothing
to lose and its addresses are told apart by nothing that is left out.
-/
namespace LinkConfig
open Keyed

variable {F : Family}

theorem findSome?_filter_const {α β : Type} (p : α → Bool) (o : Option β) (l : List α) :
    (l.filter p).findSome? (fun _ => o) = if l.any p then o else none := by
  induction l with
  | nil => rfl
  | cons x xs ih =>
    rw [List.filter_cons, List.any_cons]
    cases p x with
    | false => exact ih
    | true => cases o with
      | none => exact ih.trans (ite_self _)
      | some b => rfl

/-- A list of the same length is left only if nothing is left out. -/
theorem map_filter_eq_map_iff {α β : Type} {p : α → Bool} {f g : α → β} {l : List α} :
    (l.filter p).map f = l.map g ↔ ∀ x ∈ l, p x ∧ f x = g x := by
  rw [forall₂_and]
  constructor
  · intro h
    have hlength := congrArg List.length h
    rw [List.length_map, List.length_map] at hlength
    have hkept := List.length_filter_eq_length_iff.mp hlength
    rw [List.filter_eq_self.mpr hkept] at h
    exact ⟨hkept, List.map_inj_left.mp h⟩
  · rintro ⟨hkept, h⟩
    rw [List.filter_eq_self.mpr hkept]
    exact List.map_congr_left h

namespace AddressEntry
variable {privacy : Privacy} {a b : AddressEntry F} {es : List (AddressEntry F)}

/-- The entry as the user would declare it. -/
def declared (e : AddressEntry F) : AddressEntry F :=
  { address := e.address, prefixLen := e.prefixLen, source := .user }

theorem isDeclared_declared (e : AddressEntry F) :
    Config.isDeclared e.declared = !e.address.isLinkLocal :=
  Bool.and_true _

/-- Where nothing else counts, the class and then the address decide, whatever is preferred. -/
theorem compareIn_eq_of_ne (h : a.address ≠ b.address) (htentative : a.isTentative = b.isTentative)
    (htemporary : a.isTemporary = b.isTemporary) (hsource : a.source = b.source)
    (hpermanent : a.isPermanent = b.isPermanent) :
    compareIn privacy a b =
      (compare a.address.classify b.address.classify).then (compare a.address b.address) := by
  rw [compareIn_of_agree htentative htemporary hsource, hpermanent, Address.compare_then h]
  simp

/-- Entries that agree in what is left out and counts for their order keep it. -/
theorem ascending_declared (h : Ascending privacy es) (hn : (es.map address).Nodup)
    (hentries : ∀ a ∈ es, ∀ b ∈ es, a.isTentative = b.isTentative ∧
      a.isTemporary = b.isTemporary ∧ a.source = b.source ∧ a.isPermanent = b.isPermanent) :
    Ascending .unknown (es.map declared) := by
  have hne : es.Pairwise fun a b => a.address ≠ b.address := List.pairwise_map.mp hn
  refine List.pairwise_map.mpr (List.Pairwise.imp_of_mem ?_ (h.and hne))
  rintro a b ha hb ⟨hlt, hab⟩
  obtain ⟨htentative, htemporary, hsource, hpermanent⟩ := hentries a ha b hb
  rw [compareIn_eq_of_ne hab htentative htemporary hsource hpermanent] at hlt
  exact (compareIn_eq_of_ne (a := a.declared) (b := b.declared) hab rfl rfl rfl rfl).trans hlt

end AddressEntry

namespace Route

/-- The route as the user would declare it; `metric` is that of routes without one. -/
def declared (r : Route F) (metric : UInt32) : Route F :=
  { r with
    metric := if r.metric = 0 then metric else r.metric
    mss := 0
    source := .user }

theorem declared_declared (r : Route F) (metric : UInt32) :
    (r.declared metric).declared metric = r.declared metric := by
  unfold declared
  split <;> simp_all

theorem metric_declared_eq_iff {r : Route F} {metric : UInt32} :
    (r.declared metric).metric = r.metric ↔ (r.metric = 0 → metric = 0) := by
  change (if r.metric = 0 then metric else r.metric) = r.metric ↔ _
  rw [ite_eq_right_iff]
  refine forall_congr' fun h => ?_
  rw [h]

end Route

namespace Config
open AddressEntry

variable {c : Config F} {metric : UInt32}

/-- What the setting that describes `c` makes of an empty configuration. -/
def rebuilt (c : Config F) (metric : UInt32) : Config F :=
  (({} : Config F).applySetting c.toSetting metric).config

theorem wellFormed_rebuilt (c : Config F) (metric : UInt32) : (c.rebuilt metric).WellFormed :=
  stepwise_wellFormed.applySetting {} c.toSetting metric (WellFormed.empty .unknown)

/-- Each declared address carries the gateway. -/
theorem gateway_toSetting (h : c.gateway ≠ some .unspecified) :
    c.toSetting.gateway = if c.addresses.any isDeclared then c.gateway else none := by
  change ((c.addresses.filter isDeclared).map _).findSome? _ = _
  rw [List.findSome?_map, ← findSome?_filter_const]
  exact congrArg (fun g => List.findSome? (fun _ => g) _) (bind_specified?_eq h)

theorem entry_nextHop (r : Route F) (metric : UInt32) :
    DeclaredRoute.entry ⟨r.network, r.prefixLen, r.gateway.specified?, r.metric⟩ metric =
      r.declared metric := by
  have hgateway : r.gateway.specified?.getD .unspecified = r.gateway := by
    unfold Address.specified?
    split
    · next h => exact (Address.isUnspecified_iff.mp h).symm
    · rfl
  unfold DeclaredRoute.entry Route.declared
  rw [hgateway]

theorem rebuilt_eq (hc : c.WellFormed) (metric : UInt32) :
    c.rebuilt metric = {
      addresses := sort .unknown ((c.addresses.filter isDeclared).map AddressEntry.declared)
      routes := (c.routes.filter isDeclaredRoute).map (·.declared metric)
      gateway := if c.addresses.any isDeclared then c.gateway else none
      nameservers := c.nameservers
      searches := c.searches } := by
  have haddresses : c.toSetting.addresses.map DeclaredAddress.entry =
      (c.addresses.filter isDeclared).map AddressEntry.declared := List.map_map
  have hroutes : c.toSetting.routes.map (·.entry metric) =
      (c.routes.filter isDeclaredRoute).map (·.declared metric) := by
    rw [toSetting, List.map_map]
    exact List.map_congr_left fun r _ => entry_nextHop r metric
  have haddresses_nodup :
      (((c.addresses.filter isDeclared).map AddressEntry.declared).map address).Nodup := by
    rw [List.map_map]
    exact (List.filter_sublist.map _).nodup hc.addresses_nodup
  have hsorted : ((c.addresses.filter isDeclared).map AddressEntry.declared).foldl
      (AddressEntry.report .unknown) (sort .unknown []) = sort .unknown ([] ++ _) :=
    foldl_report_sort haddresses_nodup
  have hroutes_nodup : (((c.routes.filter isDeclaredRoute).map fun r => r.declared metric).map
      Route.destination).Nodup := by
    rw [List.map_map]
    exact (List.filter_sublist.map _).nodup hc.routes_nodup
  have hgateway : (if c.toSetting.gateway.isSome then
      c.toSetting.gateway.bind Address.specified? else none) =
        if c.addresses.any isDeclared then c.gateway else none := by
    rw [gateway_toSetting hc.gateway_specified]
    cases c.addresses.any isDeclared with
    | false => rfl
    | true =>
      rw [if_pos rfl, bind_specified?_eq hc.gateway_specified]
      cases c.gateway <;> rfl
  rw [rebuilt, config_applySetting, haddresses, hroutes, Config.mk.injEq]
  exact ⟨hsorted, foldl_upsert_of_nodup hroutes_nodup, hgateway,
    foldl_insertNew_of_nodup hc.nameservers_nodup, rfl,
    foldl_insertName_of_nodup hc.searches_nodup hc.searches_named, rfl, rfl, rfl, rfl⟩

theorem mem_addresses_rebuilt (hc : c.WellFormed) {e : AddressEntry F} :
    e ∈ (c.rebuilt metric).addresses ↔ ∃ x ∈ c.addresses, isDeclared x ∧ x.declared = e := by
  rw [rebuilt_eq hc, mem_sort, List.mem_map]
  simp only [List.mem_filter, and_assoc]

theorem mem_routes_rebuilt (hc : c.WellFormed) {r : Route F} :
    r ∈ (c.rebuilt metric).routes ↔ ∃ x ∈ c.routes, isDeclaredRoute x ∧ x.declared metric = r := by
  rw [rebuilt_eq hc, List.mem_map]
  simp only [List.mem_filter, and_assoc]

theorem rebuilt_rebuilt (hc : c.WellFormed) (metric : UInt32) :
    (c.rebuilt metric).rebuilt metric = c.rebuilt metric := by
  have hdeclared : ∀ e ∈ (c.rebuilt metric).addresses, isDeclared e ∧ e.declared = e := by
    intro e he
    obtain ⟨x, -, hx, rfl⟩ := (mem_addresses_rebuilt hc).mp he
    exact ⟨(isDeclared_declared x).trans (Bool.and_eq_true_iff.mp hx).1, rfl⟩
  have hroutes : ∀ r ∈ (c.rebuilt metric).routes, isDeclaredRoute r ∧ r.declared metric = r := by
    intro r hr
    obtain ⟨x, -, hx, rfl⟩ := (mem_routes_rebuilt hc).mp hr
    refine ⟨?_, x.declared_declared metric⟩
    rw [isDeclaredRoute, Bool.and_eq_true] at hx ⊢
    exact ⟨hx.1, rfl⟩
  have hrebuilt := wellFormed_rebuilt c metric
  have hfields := rebuilt_eq hc metric
  rw [rebuilt_eq hrebuilt, map_filter_eq_map_iff.mpr hdeclared, map_filter_eq_map_iff.mpr hroutes,
    List.map_id', List.map_id']
  apply Config.ext
  case addresses =>
    have hascending := hrebuilt.addresses_ascending
    have hprivacy : (c.rebuilt metric).privacy = .unknown := by rw [hfields]
    rw [hprivacy] at hascending
    exact hascending.sort_eq
  case gateway =>
    dsimp only
    split
    · rfl
    · next hany =>
      have hnone : c.addresses.any isDeclared = false := by
        refine List.any_eq_false.mpr fun x hx hkept => hany ?_
        have hmem : x.declared ∈ (c.rebuilt metric).addresses :=
          (mem_addresses_rebuilt hc).mpr ⟨x, hx, hkept, rfl⟩
        exact List.any_eq_true.mpr ⟨x.declared, hmem, (hdeclared _ hmem).1⟩
      rw [hfields, hnone]
      rfl
  case routes | nameservers | searches => rfl
  case domains | neverDefault | mss | privacy | path => rw [hfields]

/-- The declared entries are published like the original ones if none is left out and none moves. -/
theorem addresses_agree_iff {es : List (AddressEntry F)} (hn : (es.map address).Nodup) :
    (sort .unknown ((es.filter isDeclared).map AddressEntry.declared)).map
        (fun e => (e.address, e.prefixLen)) = es.map (fun e => (e.address, e.prefixLen)) ↔
      (∀ e ∈ es, isDeclared e) ∧ Ascending .unknown (es.map AddressEntry.declared) := by
  constructor
  · intro h
    have hlength := congrArg List.length h
    rw [List.length_map, (sort_perm _ _).length_eq, List.length_map, List.length_map] at hlength
    have hkept := List.length_filter_eq_length_iff.mp hlength
    rw [List.filter_eq_self.mpr hkept] at h
    -- What the user declares of an entry is all of it that is published.
    have hsame : (sort .unknown (es.map AddressEntry.declared)).map AddressEntry.declared =
        es.map AddressEntry.declared := by
      have hentries := congrArg (List.map fun p => DeclaredAddress.entry ⟨p.1, p.2, none⟩) h
      rwa [List.map_map, List.map_map] at hentries
    have hself : (sort .unknown (es.map AddressEntry.declared)).map AddressEntry.declared =
        sort .unknown (es.map AddressEntry.declared) := by
      refine (List.map_congr_left fun e he => ?_).trans (List.map_id _)
      obtain ⟨x, -, rfl⟩ := List.mem_map.mp (mem_sort.mp he)
      rfl
    have hnodup : (es.map AddressEntry.declared).Nodup := by
      refine List.Nodup.of_map address ?_
      rwa [List.map_map]
    rw [← hsame, hself]
    exact ⟨hkept, ascending_sort hnodup⟩
  · rintro ⟨hkept, hascending⟩
    rw [List.filter_eq_self.mpr hkept, hascending.sort_eq, List.map_map]
    rfl

/-- When the same is published after a configuration was described and built again. -/
theorem rebuilt_agrees_iff (hc : c.WellFormed) (metric : UInt32) :
    (c.rebuilt metric).agrees c ↔ c.domains = [] ∧ (c.gateway.isSome → c.addresses ≠ []) ∧
      (∀ e ∈ c.addresses, isDeclared e) ∧
      Ascending .unknown (c.addresses.map AddressEntry.declared) ∧
      ∀ r ∈ c.routes, isDeclaredRoute r ∧ (r.metric = 0 → metric = 0) := by
  have haddresses := addresses_agree_iff hc.addresses_nodup
  have hroutes : ((c.routes.filter isDeclaredRoute).map (·.declared metric)).map
      (fun r => (⟨r.network, r.prefixLen, r.gateway, r.metric⟩ : PublishedRoute F)) =
        c.routes.map (fun r => ⟨r.network, r.prefixLen, r.gateway, r.metric⟩) ↔
      ∀ r ∈ c.routes, isDeclaredRoute r ∧ (r.metric = 0 → metric = 0) := by
    rw [List.map_map, map_filter_eq_map_iff]
    refine forall₂_congr fun r _ => and_congr_right fun _ => ?_
    rw [← Route.metric_declared_eq_iff]
    simp [Route.declared]
  have hgateway (hkept : ∀ e ∈ c.addresses, isDeclared e) :
      (if c.addresses.any isDeclared then c.gateway else none) = c.gateway ↔
        (c.gateway.isSome → c.addresses ≠ []) := by
    cases hentries : c.addresses with
    | nil => cases c.gateway <;> simp
    | cons e es =>
      have he : isDeclared e := hkept e (hentries ▸ List.mem_cons_self)
      simp [he]
  rw [agrees, beq_iff_eq, published, published, Published.mk.injEq, rebuilt_eq hc]
  dsimp only
  rw [haddresses, hroutes]
  constructor
  · rintro ⟨hg, ⟨hkept, hascending⟩, hr, -, hdomains, -⟩
    exact ⟨hdomains.symm, (hgateway hkept).mp hg, hkept, hascending, hr⟩
  · rintro ⟨hdomains, hg, hkept, hascending, hr⟩
    exact ⟨(hgateway hkept).mpr hg, ⟨hkept, hascending⟩, hr, rfl, hdomains.symm, rfl⟩

/-- A setting can describe the configuration: its addresses are such as the user declares and have
one source, and its routes were declared. -/
structure Describable (c : Config F) (metric : UInt32) : Prop where
  domains : c.domains = []
  gateway : c.gateway.isSome → c.addresses ≠ []
  addresses : ∀ e ∈ c.addresses,
    e.isPermanent ∧ ¬ e.address.isLinkLocal ∧ ¬ e.isTentative ∧ ¬ e.isTemporary
  sources : ∀ a ∈ c.addresses, ∀ b ∈ c.addresses, a.source = b.source
  routes : ∀ r ∈ c.routes, r.source = .user ∧ r.prefixLen ≠ 0 ∧ ¬ r.network.isLinkLocal ∧
    (r.metric ≠ 0 ∨ metric = 0)

instance (c : Config F) (metric : UInt32) : Decidable (c.Describable metric) :=
  decidable_of_iff
    (c.domains = [] ∧ (c.gateway.isSome → c.addresses ≠ []) ∧
      (∀ e ∈ c.addresses,
        e.isPermanent ∧ ¬ e.address.isLinkLocal ∧ ¬ e.isTentative ∧ ¬ e.isTemporary) ∧
      (∀ a ∈ c.addresses, ∀ b ∈ c.addresses, a.source = b.source) ∧
      ∀ r ∈ c.routes, r.source = .user ∧ r.prefixLen ≠ 0 ∧ ¬ r.network.isLinkLocal ∧
        (r.metric ≠ 0 ∨ metric = 0))
    ⟨fun ⟨h₁, h₂, h₃, h₄, h₅⟩ => ⟨h₁, h₂, h₃, h₄, h₅⟩,
      fun ⟨h₁, h₂, h₃, h₄, h₅⟩ => ⟨h₁, h₂, h₃, h₄, h₅⟩⟩

theorem Describable.rebuilt_agrees (h : c.Describable metric) (hc : c.WellFormed) :
    (c.rebuilt metric).agrees c := by
  refine (rebuilt_agrees_iff hc metric).mpr ⟨h.domains, h.gateway, ?kept, ?order, ?routes⟩
  case kept =>
    intro e he
    obtain ⟨hpermanent, hlocal, -, -⟩ := h.addresses e he
    simp [isDeclared, hpermanent, hlocal]
  case order =>
    refine ascending_declared hc.addresses_ascending hc.addresses_nodup fun a ha b hb => ?_
    obtain ⟨hpermanent, -, htentative, htemporary⟩ := h.addresses a ha
    obtain ⟨hpermanent', -, htentative', htemporary'⟩ := h.addresses b hb
    simp_all [h.sources a ha b hb]
  case routes =>
    intro r hr
    obtain ⟨hsource, hlen, hlocal, hmetric⟩ := h.routes r hr
    refine ⟨by simp [isDeclaredRoute, hsource, hlen, hlocal], ?_⟩
    intro hzero
    exact hmetric.resolve_left (not_not.mpr hzero)

/-- When a configuration is described and built again a second time, nothing more is lost. Nothing
that is published is lost the first time if a setting can describe it. -/
theorem rebuilt_stable (hc : c.WellFormed) (metric : UInt32) :
    (c.rebuilt metric).rebuilt metric = c.rebuilt metric ∧
      (c.Describable metric → (c.rebuilt metric).agrees c) :=
  ⟨rebuilt_rebuilt hc metric, fun h => h.rebuilt_agrees hc⟩

/-- Two leases without an end, the private address first, and routes in an order of their own. -/
theorem rebuilt_stable_endlessLeases :
    let leased : AddressEntry .v4 :=
      { address := ⟨0x08080808⟩, prefixLen := 24, flags := Flag.noPrefixRoute, source := .dhcp
        lease := ⟨100, Lease.unlimited, 50⟩ }
    let own : AddressEntry .v4 := { address := ⟨0x08080808⟩, prefixLen := 24, source := .user }
    let route : Route .v4 :=
      { network := ⟨0x0a020000⟩, prefixLen := 16, gateway := ⟨0x0a0000fe⟩, metric := 5
        source := .user }
    let direct : Route .v4 :=
      { network := ⟨0x0a010000⟩, prefixLen := 16, metric := 7, source := .user }
    let c : Config .v4 :=
      { addresses := [{ leased with address := ⟨0x0a000007⟩, flags := 0 }, leased]
        routes := [{ route with mss := 1400 }, direct], gateway := some ⟨0x0a0000fe⟩
        nameservers := [⟨0x0a000036⟩, ⟨0x0a000035⟩], searches := ["vpn", "lan"]
        neverDefault := true, mss := 1380, privacy := .preferTemporary }
    let d : Config .v4 :=
      { addresses := [{ own with address := ⟨0x0a000007⟩ }, own], routes := [route, direct]
        gateway := some ⟨0x0a0000fe⟩, nameservers := [⟨0x0a000036⟩, ⟨0x0a000035⟩]
        searches := ["vpn", "lan"] }
    c.WellFormed ∧ c.Describable 100 ∧ c.rebuilt 100 = d ∧ d.agrees c ∧ d ≠ c ∧
      d.rebuilt 100 = d := by
  intro leased own route direct c d
  have hwf : c.WellFormed := by decide
  have hdescribable : c.Describable 100 := by decide
  have hd : c.rebuilt 100 = d := by decide
  obtain ⟨hagain, hagrees⟩ := rebuilt_stable hwf 100
  rw [hd] at hagain hagrees
  exact ⟨hwf, hdescribable, hd, hagrees hdescribable, by decide, hagain⟩

end Config

end LinkConfig
