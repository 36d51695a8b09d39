import LinkConfig.Proofs.KeyedUnions
import LinkConfig.Proofs.MergeGroups
import LinkConfig.Proofs.RepeatedReports

/-! # What an applied setting leaves

What the user declares holds afterwards, whatever was there: a declared address or route is as it
was declared last, and nothing else is touched but what the setting clears. A configuration is what
a setting leads to exactly if this holds of it. Since it goes on to hold, the setting changes
nothing when it is applied again, though it may clear lists on the way.
-/
namespace LinkConfig
open Keyed

variable {F : Family}

namespace Keyed
variable {α κ : Type} [BEq κ] [LawfulBEq κ] {key : α → κ} {update : α → α → α} {l xs : List α}

/-- Of insertions that keep nothing of what was there the last one of a key counts. -/
theorem find?_foldl_upsert_of_overwrites (hk : KeepsKey key update)
    (h : ∀ x ∈ xs, ∀ old, update old x = x) (k : κ) :
    (xs.foldl (upsert key update) l).find? (key · == k) =
      (xs.filter (key · == k)).getLast?.or (l.find? (key · == k)) := by
  induction xs generalizing l with
  | nil => rfl
  | cons x xs ih =>
    rw [List.foldl_cons, ih fun y hy => h y (List.mem_cons_of_mem _ hy)]
    by_cases hx : key x = k
    · subst hx
      have hself : (l.find? (key · == key x)).elim x (update · x) = x := by
        cases l.find? (key · == key x) with
        | none => rfl
        | some old => exact h x List.mem_cons_self old
      rw [find?_upsert_self hk, hself, List.filter_cons_of_pos (by simp), List.getLast?_cons]
      cases (xs.filter (key · == key x)).getLast? <;> rfl
    · rw [find?_upsert_of_ne hk hx, List.filter_cons_of_neg (by simpa using hx)]

end Keyed

namespace AddressEntry
variable {old : AddressEntry F}

/-- The user's entry is permanent, which no lease outlives, and nobody has a higher source. -/
theorem updated_entry (old : AddressEntry F) (a : DeclaredAddress F) :
    old.updated a.entry = a.entry := by
  have hlease : ¬ old.keepsLease a.entry := by
    rw [keepsLease_iff, Lease.compareExpiry_eq_gt_iff]
    rintro (hlt | ⟨-, hsource, -⟩)
    · exact not_top_lt hlt
    · exact nomatch hsource
  have hsource : max old.source a.entry.source = a.entry.source := by
    change max old.source .user = .user
    cases old.source <;> rfl
  rw [updated, if_neg hlease, hsource]

theorem foldl_accumulate_entry (o : Option (AddressEntry F)) (as : List (DeclaredAddress F)) :
    (as.map DeclaredAddress.entry).foldl accumulate o = (as.getLast?.map (·.entry)).or o := by
  induction as generalizing o with
  | nil => rfl
  | cons a as ih =>
    have hself : accumulate o a.entry = some a.entry := by
      cases o with
      | none => rfl
      | some old => exact congrArg some (updated_entry old a)
    rw [List.map_cons, List.foldl_cons, hself, ih, List.getLast?_cons]
    cases as.getLast? <;> rfl

end AddressEntry

theorem Route.updated_entry (old : Route F) (r : DeclaredRoute F) (metric : UInt32) :
    old.updated (r.entry metric) = r.entry metric := by
  have hsource : max old.source (r.entry metric).source = (r.entry metric).source := by
    change max old.source .user = .user
    cases old.source <;> rfl
  rw [updated, hsource]

namespace Setting
variable (s : Setting F)

/-- How the address is declared: the last declaration of it counts. -/
def declaration? (a : Address F) : Option (DeclaredAddress F) :=
  (s.addresses.filter (·.address == a)).getLast?

/-- How the route to a destination is declared, likewise. -/
def routeDeclaration? (k : Address F × UInt8) : Option (DeclaredRoute F) :=
  (s.routes.filter fun r => (r.destination, r.prefixLen) == k).getLast?

theorem gateway_eq_find? :
    s.gateway = (s.addresses.filterMap (·.gateway)).find? (!·.isUnspecified) := by
  unfold gateway
  induction s.addresses with
  | nil => rfl
  | cons a as ih =>
    rw [List.findSome?_cons, ih, List.filterMap_cons]
    cases a.gateway with
    | none => rfl
    | some g => cases h : g.isUnspecified <;> simp [Address.specified?, h]

theorem gateway_specified : s.gateway ≠ some .unspecified := by
  intro h
  rw [gateway_eq_find?] at h
  have hspecified := List.find?_some h
  rw [Address.isUnspecified_iff.mpr rfl] at hspecified
  contradiction

end Setting

namespace Config
open AddressEntry

/-- The configuration `d` is as `s` declares, and otherwise as `c`. -/
structure Enforces (c : Config F) (s : Setting F) (metric : UInt32) (d : Config F) : Prop where
  addresses_ascending : Ascending c.privacy d.addresses
  addresses : ∀ a, d.entriesOf a = (s.declaration? a).elim (c.entriesOf a) fun declared =>
    [{ address := a, prefixLen := declared.prefixLen
       lease := ⟨0, Lease.unlimited, Lease.unlimited⟩, flags := 0, source := .user }]
  destinations : d.routes.map Route.destination =
    extend ((if s.ignoreAutoRoutes then [] else c.routes).map Route.destination)
      (s.routes.map fun r => (r.destination, r.prefixLen))
  routes : ∀ k, d.routes.find? (·.destination == k) = (s.routeDeclaration? k).elim
    ((if s.ignoreAutoRoutes then [] else c.routes).find? (·.destination == k)) fun declared =>
      some { network := k.1, prefixLen := k.2, gateway := declared.nextHop.getD .unspecified
             metric := if declared.metric = 0 then metric else declared.metric
             mss := 0, source := .user }
  nameservers : d.nameservers =
    extend (if s.ignoreAutoDns then [] else c.nameservers) s.nameservers
  domains : d.domains = if s.ignoreAutoDns then [] else c.domains
  searches : d.searches =
    extend (if s.ignoreAutoDns then [] else c.searches) (s.searches.filter (· ≠ ""))
  gateway : d.gateway =
    ((s.addresses.filterMap (·.gateway)).find? (!·.isUnspecified)).or c.gateway
  neverDefault : d.neverDefault =
    if s.neverDefault then true else if s.ignoreAutoRoutes then false else c.neverDefault
  mss : d.mss = c.mss
  privacy : d.privacy = c.privacy
  path : d.path = c.path

variable {c d : Config F} {s : Setting F} {metric : UInt32}

theorem mem_entriesOf_self {e : AddressEntry F} : e ∈ c.entriesOf e.address ↔ e ∈ c.addresses := by
  simp [entriesOf]

theorem Enforces.unique {d' : Config F} (hd : d.WellFormed) (h : c.Enforces s metric d)
    (h' : c.Enforces s metric d') : d = d' := by
  apply Config.ext
  case addresses =>
    refine h.addresses_ascending.eq_of_mem_iff h'.addresses_ascending fun e => ?_
    rw [← mem_entriesOf_self, ← mem_entriesOf_self, h.addresses, h'.addresses]
  case routes =>
    exact eq_of_find? hd.routes_nodup (h.destinations.trans h'.destinations.symm) fun k =>
      (h.routes k).trans (h'.routes k).symm
  case gateway => rw [h.gateway, h'.gateway]
  case nameservers => rw [h.nameservers, h'.nameservers]
  case domains => rw [h.domains, h'.domains]
  case searches => rw [h.searches, h'.searches]
  case neverDefault => rw [h.neverDefault, h'.neverDefault]
  case mss => rw [h.mss, h'.mss]
  case privacy => rw [h.privacy, h'.privacy]
  case path => rw [h.path, h'.path]

/-- What the setting clears it fills again, and what it declares is there already. -/
theorem Enforces.again (h : c.Enforces s metric d) : d.Enforces s metric d := by
  have hextend {α : Type} [BEq α] [LawfulBEq α] {old new js : List α} {b : Bool}
      (hnew : new = extend (if b then [] else old) js) :
      new = extend (if b then [] else new) js := by
    cases b with
    | false => rw [if_neg Bool.false_ne_true] at hnew ⊢; rw [hnew, extend_extend]
    | true => exact hnew
  constructor
  case addresses_ascending => exact h.privacy ▸ h.addresses_ascending
  case addresses =>
    intro a
    have hentries := h.addresses a
    cases hdeclared : s.declaration? a with
    | none => rfl
    | some declared => rwa [hdeclared] at hentries
  case destinations =>
    have hdestinations := h.destinations
    rw [apply_ite (List.map Route.destination)] at hdestinations ⊢
    exact hextend hdestinations
  case routes =>
    intro k
    have hfound := h.routes k
    cases hdeclared : s.routeDeclaration? k with
    | none =>
      rw [hdeclared] at hfound
      cases hignore : s.ignoreAutoRoutes with
      | false => rfl
      | true => rwa [hignore] at hfound
    | some declared => rwa [hdeclared] at hfound
  case nameservers => exact hextend h.nameservers
  case domains =>
    have hdomains := h.domains
    cases hignore : s.ignoreAutoDns with
    | false => rfl
    | true => rwa [hignore] at hdomains
  case searches => exact hextend h.searches
  case gateway =>
    have hgateway := h.gateway
    cases hfound : (s.addresses.filterMap (·.gateway)).find? (!·.isUnspecified) with
    | none => rfl
    | some g => rwa [hfound] at hgateway
  case neverDefault =>
    have hdefault := h.neverDefault
    cases hnever : s.neverDefault <;> cases hignore : s.ignoreAutoRoutes <;> simp_all
  case mss | privacy | path => rfl

theorem foldl_insertName_eq_extend_filter (l xs : List String) :
    xs.foldl insertName l = extend l (xs.filter (· ≠ "")) := by
  rw [← foldl_insertNew_eq_extend, List.foldl_filter]
  refine congrArg₂ (fun f xs => List.foldl f l xs) ?_ rfl
  funext l x
  by_cases hx : x = "" <;> simp [insertName, hx]

theorem enforces_applySetting (hc : c.WellFormed) (s : Setting F) (metric : UInt32) :
    c.Enforces s metric (c.applySetting s metric).config := by
  have happlied : (c.applySetting s metric).config.WellFormed :=
    stepwise_wellFormed.applySetting c s metric hc
  have hfields := config_applySetting c s metric
  have hprivacy : (c.applySetting s metric).config.privacy = c.privacy := by rw [hfields]
  have hroutes : (c.applySetting s metric).config.routes =
      (s.routes.map (·.entry metric)).foldl (upsert Route.destination Route.updated)
        (if s.ignoreAutoRoutes then [] else c.routes) := by rw [hfields]
  constructor
  case addresses_ascending => exact hprivacy ▸ happlied.addresses_ascending
  case addresses =>
    intro a
    have hentries := Edit.entriesOf_apply (e := .applySetting s metric) (a := a) rfl trivial
      (entriesOf_eq_find? hc a)
    have hreports : (s.addresses.map DeclaredAddress.entry).filter (·.address == a) =
        (s.addresses.filter (·.address == a)).map DeclaredAddress.entry := List.filter_map
    rw [Edit.reports, hreports, foldl_accumulate_entry, ← Setting.declaration?] at hentries
    rw [hentries]
    cases hdeclared : s.declaration? a with
    | none => exact (entriesOf_eq_find? hc a).symm
    | some declared =>
      have haddress : declared.address = a := by
        have hmem := List.mem_of_getLast? hdeclared
        simpa using (List.mem_filter.mp hmem).2
      rw [← haddress]
      rfl
  case destinations =>
    rw [hroutes, map_key_foldl_upsert Route.keepsKey_updated, List.map_map]
    rfl
  case routes =>
    intro k
    have hoverwrites : ∀ r ∈ s.routes.map (·.entry metric), ∀ old : Route F,
        old.updated r = r := by
      intro r hr old
      obtain ⟨declared, -, rfl⟩ := List.mem_map.mp hr
      exact old.updated_entry declared metric
    have hlast : ((s.routes.map (·.entry metric)).filter (·.destination == k)).getLast? =
        (s.routeDeclaration? k).map (·.entry metric) := by
      rw [List.filter_map, List.getLast?_map]
      rfl
    rw [hroutes, find?_foldl_upsert_of_overwrites Route.keepsKey_updated hoverwrites, hlast]
    cases hdeclared : s.routeDeclaration? k with
    | none => rfl
    | some declared =>
      have hk : (declared.destination, declared.prefixLen) = k := by
        have hmem := List.mem_of_getLast? hdeclared
        simpa using (List.mem_filter.mp hmem).2
      rw [← hk]
      rfl
  case nameservers =>
    rw [hfields]
    exact foldl_insertNew_eq_extend _ _
  case domains => rw [hfields]
  case searches =>
    rw [hfields]
    exact foldl_insertName_eq_extend_filter _ _
  case gateway =>
    rw [hfields, ← s.gateway_eq_find?, bind_specified?_eq s.gateway_specified]
    cases s.gateway <;> rfl
  case neverDefault =>
    rw [hfields]
    cases s.neverDefault <;> cases s.ignoreAutoRoutes <;> rfl
  case mss => rw [hfields]
  case privacy => exact hprivacy
  case path => rw [hfields]

/-- A setting leads to the one configuration that is as it declares, and applied again it leaves
that as it is. -/
theorem eq_applySetting_iff_enforces (hc : c.WellFormed) :
    (d = (c.applySetting s metric).config ↔ c.Enforces s metric d) ∧
      ((c.applySetting s metric).config.applySetting s metric).config =
        (c.applySetting s metric).config := by
  have happlied (c : Config F) (hc : c.WellFormed) : (c.applySetting s metric).config.WellFormed :=
    stepwise_wellFormed.applySetting c s metric hc
  have henforced := enforces_applySetting hc s metric
  constructor
  · constructor
    · rintro rfl
      exact henforced
    · intro h
      exact (henforced.unique (happlied c hc) h).symm
  · have honce := happlied c hc
    have hagain := enforces_applySetting honce s metric
    exact hagain.unique (happlied _ honce) henforced.again

/-- A lease is claimed by the user, who declares its address and a route twice, each time in another
way. -/
theorem eq_applySetting_iff_enforces_claimedLease :
    let leased : AddressEntry .v4 :=
      { address := ⟨0x0a000007⟩, prefixLen := 24, lease := ⟨100, 60, 50⟩, flags := Flag.tentative
        source := .dhcp }
    let own : AddressEntry .v4 := { address := ⟨0x0a000001⟩, prefixLen := 24, source := .static }
    let net : Route .v4 :=
      { network := ⟨0x0a010000⟩, prefixLen := 16, mss := 1400, source := .dhcp }
    let other : Route .v4 := { network := ⟨0x0a020000⟩, prefixLen := 16, metric := 50 }
    let c : Config .v4 :=
      { addresses := [own, leased], routes := [net, other], nameservers := [⟨0x0a000036⟩]
        domains := ["lan"], gateway := some ⟨0x0a0000fd⟩, mss := 1380, neverDefault := true }
    let s : Setting .v4 :=
      { addresses := [⟨⟨0x0a000007⟩, 24, some .unspecified⟩, ⟨⟨0x0a000008⟩, 24, some ⟨0x0a0000fe⟩⟩,
          ⟨⟨0x0a000007⟩, 16, some ⟨0x0a0000fc⟩⟩]
        routes := [⟨⟨0x0a010000⟩, 16, some ⟨0x0a0000fe⟩, 7⟩, ⟨⟨0x0a030000⟩, 16, none, 0⟩,
          ⟨⟨0x0a010000⟩, 16, none, 0⟩]
        nameservers := [⟨0x0a000035⟩, ⟨0x0a000036⟩, ⟨0x0a000035⟩], searches := ["", "vpn", "vpn"]
        ignoreAutoDns := true }
    let user : AddressEntry .v4 := { address := ⟨0x0a000007⟩, prefixLen := 16, source := .user }
    let route : Route .v4 :=
      { network := ⟨0x0a010000⟩, prefixLen := 16, metric := 100, source := .user }
    let d : Config .v4 :=
      { addresses := [user, { user with address := ⟨0x0a000008⟩, prefixLen := 24 }, own]
        routes := [route, other, { route with network := ⟨0x0a030000⟩ }]
        nameservers := [⟨0x0a000035⟩, ⟨0x0a000036⟩], searches := ["vpn"]
        gateway := some ⟨0x0a0000fe⟩, mss := 1380, neverDefault := true }
    c.WellFormed ∧ c.Enforces s 100 d ∧ (d.applySetting s 100).config = d := by
  intro leased own net other c s user route d
  have hwf : c.WellFormed := by decide
  have happlied : d = (c.applySetting s 100).config := by decide
  have hagain : ((c.applySetting s 100).config.applySetting s 100).config =
      (c.applySetting s 100).config := (eq_applySetting_iff_enforces (d := d) hwf).2
  exact ⟨hwf, (eq_applySetting_iff_enforces hwf).1.mp happlied, by rw [happlied, hagain]⟩

end Config

end LinkConfig
