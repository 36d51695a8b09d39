import LinkConfig.Proofs.LeaseReports
import LinkConfig.Proofs.Withdrawal

/-! # Merging contributions among themselves

Contributions may be merged with each other before they are merged into a configuration. What is
published is the same, though entries are shared and each list on the way is sorted by a preference
of its own. Of the leases only that is the same which the order of addresses depends on: whether
they are permanent.
-/
namespace LinkConfig
open Keyed

variable {F : Family}

theorem Source.max_assoc (s t u : Source) : max (max s t) u = max s (max t u) := by
  rw [← rank_inj, rank_max, rank_max, rank_max, rank_max, Nat.max_assoc]

theorem Lease.isPermanent_iff {l : Lease} (h : l.lifetime ≠ 0) :
    l.isPermanent ↔ l.horizon = ⊤ := by
  unfold isPermanent horizon expiry
  by_cases hl : l.lifetime = unlimited
  · simp [hl]
  · simp [hl, h]

namespace AddressEntry
variable {privacy : Privacy} {a b : AddressEntry F} {es fs : List (AddressEntry F)}

/-- The entry without its lease, except for whether it is permanent. -/
def outline (e : AddressEntry F) : AddressEntry F :=
  { e with lease := if e.isPermanent then .permanent else ⟨0, 0, 0⟩ }

theorem isPermanent_outline (e : AddressEntry F) : e.outline.isPermanent = e.isPermanent := by
  unfold outline
  cases h : e.isPermanent <;> rfl

theorem compareIn_outline (h : a.address ≠ b.address) :
    compareIn privacy a.outline b.outline = compareIn privacy a b := by
  unfold compareIn
  rw [isPermanent_outline, isPermanent_outline]
  rw [Address.compare_then h]
  exact congrArg _ (congrArg _ (congrArg _ (congrArg _ (congrArg _ (Address.compare_then h _)))))

theorem ascending_outline (h : Ascending privacy es) (hn : (es.map address).Nodup) :
    Ascending privacy (es.map outline) := by
  have hne : es.Pairwise fun a b => a.address ≠ b.address := List.pairwise_map.mp hn
  refine List.pairwise_map.mpr ((h.and hne).imp ?_)
  rintro a b ⟨hlt, hab⟩
  rwa [compareIn_outline hab]

theorem mem_map_outline_iff {e : AddressEntry F} :
    e ∈ es.map outline ↔ e ∈ (es.filter (·.address == e.address)).map outline := by
  simp only [List.mem_map, List.mem_filter, beq_iff_eq]
  constructor
  · rintro ⟨x, hx, rfl⟩
    exact ⟨x, ⟨hx, rfl⟩, rfl⟩
  · rintro ⟨x, ⟨hx, -⟩, h⟩
    exact ⟨x, hx, h⟩

/-- Lists in order whose entries have the same outlines have them in the same order. -/
theorem map_outline_eq (hes : Ascending privacy es) (hn : (es.map address).Nodup)
    (hfs : Ascending privacy fs) (hn' : (fs.map address).Nodup)
    (h : ∀ x, (es.filter (·.address == x)).map outline = (fs.filter (·.address == x)).map outline) :
    es.map outline = fs.map outline := by
  refine (ascending_outline hes hn).eq_of_mem_iff (ascending_outline hfs hn') fun e => ?_
  rw [mem_map_outline_iff, h, ← mem_map_outline_iff]

variable {old new : AddressEntry F}

theorem lifetime_updated_ne_zero (hold : old.lease.lifetime ≠ 0) (hnew : new.lease.lifetime ≠ 0) :
    (old.updated new).lease.lifetime ≠ 0 := by
  change (if old.keepsLease new then old.lease else new.lease).lifetime ≠ 0
  split
  · exact hold
  · exact hnew

theorem isPermanent_updated (hold : old.lease.lifetime ≠ 0) (hnew : new.lease.lifetime ≠ 0) :
    (old.updated new).isPermanent = (old.isPermanent || new.isPermanent) := by
  have hold' := Lease.isPermanent_iff hold
  have hnew' := Lease.isPermanent_iff hnew
  change Lease.isPermanent (if old.keepsLease new then old.lease else new.lease) = _
  rw [Bool.eq_iff_iff, Bool.or_eq_true]
  change _ ↔ old.lease.isPermanent ∨ new.lease.isPermanent
  split
  · next hkeeps =>
    have hle := horizon_le_of_keepsLease hkeeps
    rw [hold', hnew']
    exact (or_iff_left_of_imp fun htop => top_le_iff.mp (htop ▸ hle)).symm
  · next hkeeps =>
    have hle := horizon_le_of_not_keepsLease hkeeps
    rw [hold', hnew']
    exact (or_iff_right_of_imp fun htop => top_le_iff.mp (htop ▸ hle)).symm

/-- Which lease is kept may depend on how reports are grouped, but not whether it is permanent. -/
theorem outline_updated_assoc {x y z : AddressEntry F} (hx : x.lease.lifetime ≠ 0)
    (hy : y.lease.lifetime ≠ 0) (hz : z.lease.lifetime ≠ 0) :
    ((x.updated y).updated z).outline = (x.updated (y.updated z)).outline := by
  have hpermanent : ((x.updated y).updated z).isPermanent =
      (x.updated (y.updated z)).isPermanent := by
    rw [isPermanent_updated (lifetime_updated_ne_zero hx hy) hz, isPermanent_updated hx hy,
      isPermanent_updated hx (lifetime_updated_ne_zero hy hz), isPermanent_updated hy hz,
      Bool.or_assoc]
  have hsource : ((x.updated y).updated z).source = (x.updated (y.updated z)).source :=
    Source.max_assoc x.source y.source z.source
  unfold outline
  rw [hpermanent, mk.injEq]
  exact ⟨rfl, rfl, rfl, rfl, hsource⟩

/-- What there is of an address after it is reported as `y` has it, if it does. -/
def join (x y : Option (AddressEntry F)) : Option (AddressEntry F) := y.toList.foldl accumulate x

theorem map_outline_join_assoc {x y z : Option (AddressEntry F)}
    (hx : ∀ e, x = some e → e.lease.lifetime ≠ 0) (hy : ∀ e, y = some e → e.lease.lifetime ≠ 0)
    (hz : ∀ e, z = some e → e.lease.lifetime ≠ 0) :
    (join (join x y) z).map outline = (join x (join y z)).map outline := by
  cases z with
  | none => rfl
  | some z =>
    cases y with
    | none => rfl
    | some y =>
      cases x with
      | none => rfl
      | some x => exact congrArg some (outline_updated_assoc (hx x rfl) (hy y rfl) (hz z rfl))

end AddressEntry

theorem Route.updated_assoc (x y z : Route F) :
    (x.updated y).updated z = x.updated (y.updated z) := by
  unfold updated
  rw [mk.injEq]
  exact ⟨rfl, rfl, rfl, rfl, rfl, Source.max_assoc x.source y.source z.source⟩

theorem fill_assoc {α : Type} [DecidableEq α] (z x y w : α) :
    fill z (fill z x y) w = fill z x (fill z y w) := by
  unfold fill
  split <;> simp_all

namespace Config
open AddressEntry

variable {a b c : Config F}

theorem entriesOf_eq_find? (h : c.WellFormed) (n : Address F) :
    c.entriesOf n = (c.addresses.find? (·.address == n)).toList :=
  filter_eq_toList_find? h.addresses_nodup n

theorem privacy_merge (a b : Config F) : (a.merge b).config.privacy = a.privacy := by
  rw [config_merge]

theorem entriesOf_merge {x y : Option (AddressEntry F)} {n : Address F}
    (ha : a.entriesOf n = x.toList) (hb : b.entriesOf n = y.toList) :
    (a.merge b).config.entriesOf n = (join x y).toList := by
  have happly := Edit.entriesOf_apply (e := .merge b) (a := n) rfl trivial ha
  rwa [Edit.reports, hb] at happly

/-- No lease has a lifetime of zero, which would have no end though it is not permanent. -/
def HasTerms (c : Config F) : Prop := ∀ e ∈ c.addresses, e.lease.lifetime ≠ 0

instance (c : Config F) : Decidable c.HasTerms := inferInstanceAs (Decidable (∀ _ ∈ _, _))

theorem HasTerms.find? (h : c.HasTerms) (n : Address F) :
    ∀ e, c.addresses.find? (·.address == n) = some e → e.lease.lifetime ≠ 0 :=
  fun e he => h e (List.mem_of_find?_eq_some he)

theorem map_outline_merge_assoc (ha : a.WellFormed) (hb : b.WellFormed) (hc : c.WellFormed)
    (hta : a.HasTerms) (htb : b.HasTerms) (htc : c.HasTerms) :
    ((a.merge b).config.merge c).config.addresses.map outline =
      (a.merge (b.merge c).config).config.addresses.map outline := by
  have hleft := stepwise_wellFormed.merge _ c (stepwise_wellFormed.merge a b ha)
  have hright := stepwise_wellFormed.merge a (b.merge c).config ha
  have hascending := hleft.addresses_ascending
  have hascending' := hright.addresses_ascending
  rw [privacy_merge, privacy_merge] at hascending
  rw [privacy_merge] at hascending'
  refine map_outline_eq hascending hleft.addresses_nodup hascending' hright.addresses_nodup ?_
  intro n
  have hx := entriesOf_eq_find? ha n
  have hy := entriesOf_eq_find? hb n
  have hz := entriesOf_eq_find? hc n
  have hjoin := map_outline_join_assoc (hta.find? n) (htb.find? n) (htc.find? n)
  change (Config.entriesOf _ n).map outline = (Config.entriesOf _ n).map outline
  rw [entriesOf_merge (entriesOf_merge hx hy) hz, entriesOf_merge hx (entriesOf_merge hy hz),
    ← Option.toList_map, ← Option.toList_map, hjoin]

theorem foldl_insertName_assoc {l xs ys : List String} (h : xs.Nodup) (hxs : "" ∉ xs)
    (hys : "" ∉ ys) :
    (ys.foldl insertName xs).foldl insertName l = ys.foldl insertName (xs.foldl insertName l) := by
  have hnamed : "" ∉ ys.foldl insertNew xs := fun hmem => (mem_foldl_insertNew hmem).elim hxs hys
  rw [foldl_insertName_eq_foldl_insertNew hys, foldl_insertName_eq_foldl_insertNew hnamed,
    foldl_insertName_eq_foldl_insertNew hxs, foldl_insertName_eq_foldl_insertNew hys,
    foldl_insertNew_assoc h]

/-- However contributions are grouped when they are merged, the same is published in the end, and
the MSS is the same. -/
theorem merge_assoc_agrees (ha : a.WellFormed) (hb : b.WellFormed) (hc : c.WellFormed)
    (hta : a.HasTerms) (htb : b.HasTerms) (htc : c.HasTerms) :
    ((a.merge b).config.merge c).config.agrees (a.merge (b.merge c).config).config ∧
      ((a.merge b).config.merge c).config.mss = (a.merge (b.merge c).config).config.mss := by
  have hbc := stepwise_wellFormed.merge b c hb
  have haddresses := map_outline_merge_assoc ha hb hc hta htb htc
  have hpublished (es : List (AddressEntry F)) : es.map (fun e => (e.address, e.prefixLen)) =
      (es.map outline).map fun e => (e.address, e.prefixLen) := by
    rw [List.map_map]
    rfl
  have hroutes := foldl_upsert_assoc (l := a.routes) Route.keepsKey_updated
    Route.updated_assoc hb.routes_nodup c.routes
  have hnameservers := foldl_insertNew_assoc (l := a.nameservers) hb.nameservers_nodup
    c.nameservers
  have hdomains := foldl_insertName_assoc (l := a.domains) hb.domains_nodup hb.domains_named
    hc.domains_named
  have hsearches := foldl_insertName_assoc (l := a.searches) hb.searches_nodup hb.searches_named
    hc.searches_named
  rw [agrees, beq_iff_eq, published, published, hpublished, haddresses, ← hpublished]
  rw [config_merge_fill _ hc, config_merge_fill _ hb, config_merge_fill _ hbc,
    config_merge_fill _ hc]
  dsimp only
  rw [hroutes, hnameservers, hdomains, hsearches, fill_assoc, fill_assoc]
  exact ⟨rfl, rfl⟩

/-- Three leases of one address end at the same time. Which of them is kept depends on the grouping,
and is not published. -/
theorem merge_assoc_agrees_sharedLease :
    let held : AddressEntry .v4 := { address := ⟨0x0a000007⟩, prefixLen := 24 }
    let own : Config .v4 :=
      { addresses := [{ address := ⟨0x0a000001⟩, prefixLen := 24, flags := Flag.temporary },
          { held with lease := ⟨100, 60, 50⟩, source := .static }]
        gateway := some ⟨0x0a0000fe⟩, domains := ["lan"], privacy := .preferTemporary }
    let report : Config .v4 :=
      { addresses := [{ held with lease := ⟨130, 30, 30⟩ }]
        routes := [{ network := ⟨0x0a010000⟩, prefixLen := 16, source := .dhcp }]
        gateway := some ⟨0x0a0000fd⟩, nameservers := [⟨0x0a000035⟩, ⟨0x0a000036⟩], mss := 1380 }
    let kernel : Config .v4 :=
      { addresses := [{ held with lease := ⟨140, 20, 20⟩, source := .kernel },
          { address := ⟨0x0a000001⟩, prefixLen := 16, flags := Flag.temporary, source := .kernel }]
        routes := [{ network := ⟨0x0a010000⟩, prefixLen := 16, gateway := ⟨0x0a0000fe⟩ }]
        nameservers := [⟨0x0a000036⟩, ⟨0x0a000037⟩], domains := ["vpn", "lan"]
        privacy := .preferPublic }
    let left := ((own.merge report).config.merge kernel).config
    let right := (own.merge (report.merge kernel).config).config
    (∀ c ∈ [own, report, kernel], c.WellFormed ∧ c.HasTerms) ∧
      left.agrees right ∧ left.mss = right.mss ∧ left ≠ right := by
  intro held own report kernel left right
  have hwf : ∀ c ∈ [own, report, kernel], c.WellFormed ∧ c.HasTerms := by decide
  obtain ⟨ha, hta⟩ := hwf own (by decide)
  obtain ⟨hb, htb⟩ := hwf report (by decide)
  obtain ⟨hc, htc⟩ := hwf kernel (by decide)
  obtain ⟨hagrees, hmss⟩ := merge_assoc_agrees ha hb hc hta htb htc
  exact ⟨hwf, hagrees, hmss, by decide⟩

end Config

end LinkConfig
