import LinkConfig.Proofs.RepeatedReports
import LinkConfig.Proofs.StepRows

/-! # Mergers that are made again

A merger does nothing if none of its steps would do anything by itself. After a merger this is so
for the same merger, for each of its steps finds what it left: the other steps concern other keys.
The exception is that of single reports, where the running system takes an entry over from nobody.
A configuration merged into itself finds nothing new in any case.
-/
namespace LinkConfig
open Keyed

variable {F : Family}

namespace Route

theorem updated_self (r : Route F) : r.updated r = r := by
  rw [updated, Source.max_self]

theorem updated_updated (old new : Route F) : (old.updated new).updated new = old.updated new := by
  rw [updated, updated, Source.max_max_right]

end Route

namespace Config
open AddressEntry

/-- No step of merging `src` into `c` would do anything by itself. -/
structure Absorbs (c src : Config F) : Prop where
  addresses : ∀ e ∈ src.addresses, AddressEntry.report c.privacy c.addresses e = c.addresses
  routes : ∀ r ∈ src.routes, upsert Route.destination Route.updated c.routes r = c.routes
  gateway : c.gateway = none → src.gateway.bind Address.specified? = none
  nameservers : ∀ a ∈ src.nameservers, insertNew c.nameservers a = c.nameservers
  domains : ∀ d ∈ src.domains, insertName c.domains d = c.domains
  searches : ∀ s ∈ src.searches, insertName c.searches s = c.searches
  mss : c.mss = 0 → src.mss = 0

theorem filledGateway_eq_self_iff {old new : Option (Address F)} :
    (if old.isNone then new else old) = old ↔ (old = none → new = none) := by
  cases old <;> simp

theorem filledMss_eq_self_iff {old new : UInt32} :
    (if old == 0 then new else old) = old ↔ (old = 0 → new = 0) := by
  by_cases h : old = 0 <;> simp [h]

variable {c src : Config F}

theorem Absorbs.silent (h : c.Absorbs src) :
    (c.merge src).config = c ∧ (c.merge src).changes = ∅ := by
  have hunchanged : (c.gateway.isNone && c.gateway != src.gateway.bind Address.specified?) =
      false := by
    cases hc : c.gateway with
    | none => simp [h.gateway hc]
    | some a => rfl
  rw [config_merge, changes_merge, filledGateway_eq_self_iff.mpr h.gateway,
    filledMss_eq_self_iff.mpr h.mss, hunchanged, foldl_eq_self h.addresses,
    foldl_eq_self h.routes, foldl_eq_self h.nameservers, foldl_eq_self h.domains,
    foldl_eq_self h.searches, changesIn_eq_false_iff.mpr h.addresses,
    changesIn_eq_false_iff.mpr h.routes, changesIn_eq_false_iff.mpr h.nameservers,
    changesIn_eq_false_iff.mpr h.domains, changesIn_eq_false_iff.mpr h.searches]
  exact ⟨rfl, rfl⟩

theorem merge_silent_iff :
    (c.merge src).config = c ∧ (c.merge src).changes = ∅ ↔ c.Absorbs src := by
  refine ⟨fun ⟨hconfig, hchanges⟩ => ?_, Absorbs.silent⟩
  rw [config_merge, Config.ext_iff] at hconfig
  rw [changes_merge] at hchanges
  obtain ⟨-, -, hgateway, -, -, -, -, hmss, -, -⟩ := hconfig
  constructor
  · exact changesIn_eq_false_iff.mp (congrArg Changes.addresses hchanges)
  · exact changesIn_eq_false_iff.mp (congrArg Changes.routes hchanges)
  · exact filledGateway_eq_self_iff.mp hgateway
  · exact changesIn_eq_false_iff.mp (congrArg Changes.nameservers hchanges)
  · exact changesIn_eq_false_iff.mp (congrArg Changes.domains hchanges)
  · exact changesIn_eq_false_iff.mp (congrArg Changes.searches hchanges)
  · exact filledMss_eq_self_iff.mp hmss

/-- A merger that is made again is silent exactly if no report of it took an entry over. -/
theorem absorbs_merge_iff (hc : c.WellFormed) (hsrc : src.WellFormed) :
    (c.merge src).config.Absorbs src ↔ ∀ old ∈ c.addresses, ∀ new ∈ src.addresses,
      old.address = new.address → ¬ new.TakesOver old := by
  have hagain {new : AddressEntry F} (hnew : new ∈ src.addresses) :=
    report_foldl_report_eq_iff c.privacy hc.addresses_nodup hsrc.addresses_nodup hnew
  rw [config_merge]
  constructor
  · intro h old hold new hnew
    exact (hagain hnew).mp (h.addresses new hnew) old hold
  · intro h
    constructor
    · intro new hnew
      exact (hagain hnew).mpr fun old hold => h old hold new hnew
    · exact upsert_foldl_upsert Route.keepsKey_updated Route.updated_self Route.updated_updated
        hsrc.routes_nodup
    · intro hnone
      cases hgateway : c.gateway with
      | none => simpa [hgateway] using hnone
      | some a => simp [hgateway] at hnone
    · intro a ha
      exact insertNew_of_mem (mem_foldl_insertNew_of_mem ha)
    · intro d hd
      rw [foldl_insertName_eq_foldl_insertNew hsrc.domains_named]
      exact insertName_of_mem (mem_foldl_insertNew_of_mem hd)
    · intro s hs
      rw [foldl_insertName_eq_foldl_insertNew hsrc.searches_named]
      exact insertName_of_mem (mem_foldl_insertNew_of_mem hs)
    · intro hzero
      by_cases hmss : c.mss = 0
      · simpa [hmss] using hzero
      · simp [hmss] at hzero

theorem absorbs_self (hc : c.WellFormed) : c.Absorbs c where
  addresses e he := by
    rw [report_eq_self_iff, upsert_eq_self_iff (find?_of_mem hc.addresses_nodup he)]
    exact e.updated_self
  routes r hr := by
    rw [upsert_eq_self_iff (find?_of_mem hc.routes_nodup hr)]
    exact r.updated_self
  gateway h := by rw [h]; rfl
  nameservers _ := insertNew_of_mem
  domains _ := insertName_of_mem
  searches _ := insertName_of_mem
  mss h := h

/-- A merger that is made again is silent exactly if no entry was taken over the first time, which
takes a report of the running system on an address that nobody contributed. A configuration that is
merged into itself is left alone. -/
theorem merge_again (hc : c.WellFormed) (hsrc : src.WellFormed) :
    let once := c.merge src
    let twice := once.config.merge src
    (twice.config = once.config ∧ twice.changes = ∅ ↔ ∀ old ∈ c.addresses,
        ∀ new ∈ src.addresses, old.address = new.address → ¬ new.TakesOver old) ∧
      ((∀ old ∈ c.addresses, ∀ new ∈ src.addresses, old.address = new.address →
          ¬ (old.source = .unknown ∧ new.source = .kernel)) →
        twice.config = once.config ∧ twice.changes = ∅) ∧
      (c.merge c).config = c ∧ (c.merge c).changes = ∅ := by
  intro once twice
  have hagain := merge_silent_iff.trans (absorbs_merge_iff hc hsrc)
  refine ⟨hagain, fun hsources => ?_, merge_silent_iff.mpr (absorbs_self hc)⟩
  refine hagain.mpr fun old hold new hnew haddress htake => ?_
  exact hsources old hold new hnew haddress ⟨htake.source_old, htake.source_new⟩

/-- What is merged in comes in another order: an address of the running system, the lease that it
saw prolonged, and the user's claim to the address that nobody contributed. -/
theorem merge_again_leasedAndForeign :
    let prolonged : AddressEntry .v4 :=
      { address := ⟨0x0a000007⟩, prefixLen := 24, lease := ⟨130, 90, 30⟩, source := .kernel }
    let declared : AddressEntry .v4 := { address := ⟨0x0a000002⟩, prefixLen := 16, source := .user }
    let temporary := { prolonged with address := ⟨0x0a000009⟩, flags := Flag.temporary }
    let src : Config .v4 :=
      { addresses := [temporary, declared, prolonged], nameservers := [⟨0x0a000035⟩]
        gateway := some ⟨0x0a0000fe⟩, searches := ["lan"], mss := 1380
        privacy := .preferTemporary }
    let once := leasedAndForeign.merge src
    let twice := once.config.merge src
    leasedAndForeign.WellFormed ∧ src.WellFormed ∧ once.changes.size = 4 ∧
      twice.config = once.config ∧ twice.changes = ∅ := by
  intro prolonged declared temporary src once twice
  have hwf : leasedAndForeign.WellFormed ∧ src.WellFormed := by decide
  obtain ⟨-, hagain, -⟩ := merge_again hwf.1 hwf.2
  exact ⟨hwf.1, hwf.2, by decide, hagain (by decide)⟩

end Config

end LinkConfig
