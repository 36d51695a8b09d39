import LinkConfig.Platform.Memory
import LinkConfig.Proofs.WellFormed

/-! # What a captured configuration repeats

The tables of a link come from outside. Capturing puts the addresses in order and folds routes into
the gateway, but takes out no repetition, so that the addresses and destinations of a captured
configuration repeat themselves exactly where the tables did. Its nameservers and its gateway are
always as every edit leaves them.
-/
namespace LinkConfig.Config
open Keyed

variable {F : Family}

/-- Only a table that repeats itself, beyond what is folded into the gateway, is captured with
repetitions. Everything else that is captured is sound, whatever the platform and the resolver
answer. -/
theorem capture_repeats_as_tables {answers : LinkAnswers F} {i : UInt32}
    {resolver : Option NameserverAnswer} {privacy : Privacy} {c : Config F}
    (h : (capture answers i resolver privacy).1 = some c) :
    ((c.addresses.map AddressEntry.address).Nodup ↔
        (answers.addressTable.map AddressEntry.address).Nodup) ∧
      ((c.routes.map Route.destination).Nodup ↔
        answers.routeTable.Pairwise fun r s => r.destination = s.destination →
          r.isFolded answers.routeTable ∨ s.isFolded answers.routeTable) ∧
      c.nameservers.Nodup ∧ .unspecified ∉ c.nameservers ∧ c.gateway ≠ some .unspecified ∧
      ∀ r ∈ c.routes, r.network ≠ .unspecified := by
  rw [capture_eq] at h
  split at h
  · contradiction
  · cases h
    refine ⟨?addresses, ?routes, ?nameservers, ?specified, specified?_ne _, ?networks⟩
    case addresses =>
      exact ((AddressEntry.sort_perm privacy answers.addressTable).map _).nodup_iff
    case routes =>
      -- both sides speak of the pairs of the table, in its order
      rw [List.Nodup, List.pairwise_map, List.pairwise_filter]
      refine List.Pairwise.iff fun r s => ?_
      cases r.isFolded answers.routeTable <;> cases s.isFolded answers.routeTable <;> simp
    case nameservers =>
      exact nodup_foldl_insertNew List.nodup_nil _
    case specified =>
      intro hmem
      rcases mem_foldl_insertNew hmem with hnil | himports
      · exact List.not_mem_nil hnil
      · exact unspecified_notMem_imports _ himports
    case networks =>
      intro r hr hnetwork
      obtain ⟨-, hkept⟩ := List.mem_filter.mp hr
      have hdefault : r.isDefault := Address.isUnspecified_iff.mpr hnetwork
      simp [Route.isFolded, hdefault] at hkept

/-- An address under two prefixes, and a destination at two metrics. -/
def repeatingTables : LinkTable .v4 :=
  (({} : LinkTable .v4).putAddresses 1
      [{ address := ⟨0x0a000002⟩, prefixLen := 24, source := .kernel },
        { address := ⟨0x0a000002⟩, prefixLen := 16, source := .kernel }]).putRoutes 1
    [{ network := ⟨0x0a000000⟩, prefixLen := 24, metric := 100 },
      { network := ⟨0x0a000000⟩, prefixLen := 24, metric := 600 }]

theorem capture_repeats_repeatingTables :
    ∃ c, (capture (LinkTable.platform.answers repeatingTables 1) 1 none .unknown).1 = some c ∧
      ¬ (c.addresses.map AddressEntry.address).Nodup ∧
      ¬ (c.routes.map Route.destination).Nodup :=
  ⟨_, rfl, by decide, by decide⟩

/-- The way to the gateway is told twice, beside a default route that is not preferred. -/
def gatewayTables : LinkTable .v4 :=
  (({} : LinkTable .v4).putAddresses 1 [{ address := ⟨0x0a000002⟩, prefixLen := 24 }]).putRoutes 1
    [{ network := ⟨0x0a0000fe⟩, prefixLen := 32, metric := 600 }, .everywhere ⟨0x0a000001⟩ 200,
      { network := ⟨0x0a0000fe⟩, prefixLen := 32 }, .everywhere ⟨0x0a0000fe⟩ 100,
      { network := ⟨0x0a0000fe⟩, prefixLen := 32, gateway := ⟨0x0a000009⟩ }]

theorem capture_repeats_gatewayTables :
    let answers : LinkAnswers .v4 := LinkTable.platform.answers gatewayTables 1
    let resolver : Option NameserverAnswer :=
      some (.ok { servers := [⟨.v4, ⟨0x0a000035⟩⟩, ⟨.v4, ⟨0⟩⟩, ⟨.v4, ⟨0x0a000035⟩⟩] })
    ¬ (answers.routeTable.map Route.destination).Nodup ∧
      ∃ c, (capture answers 1 resolver .unknown).1 = some c ∧
        (c.addresses.map AddressEntry.address).Nodup ∧ (c.routes.map Route.destination).Nodup ∧
        c.nameservers.Nodup ∧ .unspecified ∉ c.nameservers ∧ c.gateway ≠ some .unspecified ∧
        ∀ r ∈ c.routes, r.network ≠ .unspecified := by
  intro answers resolver
  have hcapture : ((capture answers 1 resolver .unknown).1).isSome := by decide
  obtain ⟨c, hc⟩ := Option.isSome_iff_exists.mp hcapture
  obtain ⟨haddresses, hroutes, hrest⟩ := capture_repeats_as_tables hc
  exact ⟨by decide, c, hc, haddresses.mpr (by decide), hroutes.mpr (by decide), hrest⟩

end LinkConfig.Config
