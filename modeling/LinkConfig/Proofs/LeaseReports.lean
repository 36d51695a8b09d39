import LinkConfig.Config.History
import LinkConfig.Proofs.EditEffects
import LinkConfig.Proofs.Replacements
import Mathlib.Data.List.Induction
import Mathlib.Order.WithBot

/-! # Leases and sources are never weakened

An address may be reported many times, by different sources and with different leases. Its entry
holds the highest source and one of the longest leases of all the reports so far, and is otherwise
as it was reported last. Where the entry stands in its list and what else happens to the
configuration does not matter, unless the entry is taken away.
-/
namespace LinkConfig
open Keyed

variable {F : Family}

namespace Lease

/-- The second at which the lease ends, after all others if it does not. -/
def horizon (l : Lease) : WithTop ℕ := l.expiry.elim ⊤ WithTop.some

variable {k l : Lease}

theorem compareExpiry_eq_gt_iff : k.compareExpiry l = .gt ↔ l.horizon < k.horizon := by
  unfold compareExpiry horizon
  cases k.expiry <;> cases l.expiry <;> simp [Nat.compare_eq_gt]

theorem compareExpiry_eq_eq_iff : k.compareExpiry l = .eq ↔ k.horizon = l.horizon := by
  unfold compareExpiry horizon
  cases k.expiry <;> cases l.expiry <;> simp

end Lease

namespace AddressEntry
variable {old new : AddressEntry F}

theorem horizon_le_of_keepsLease (h : old.keepsLease new) :
    new.lease.horizon ≤ old.lease.horizon := by
  unfold keepsLease at h
  split at h
  · next hgt => exact (Lease.compareExpiry_eq_gt_iff.mp hgt).le
  · next heq => exact (Lease.compareExpiry_eq_eq_iff.mp heq).ge
  · contradiction

theorem horizon_le_of_not_keepsLease (h : ¬ old.keepsLease new) :
    old.lease.horizon ≤ new.lease.horizon := by
  rw [← not_lt, ← Lease.compareExpiry_eq_gt_iff]
  intro hgt
  unfold keepsLease at h
  rw [hgt] at h
  exact h rfl

/-- What the running system reports does not replace a lease that someone else gave. -/
theorem keepsLease_of_kernel (hnew : new.source = .kernel) (hold : old.source ≠ .kernel)
    (h : new.lease.horizon ≤ old.lease.horizon) : old.keepsLease new := by
  unfold keepsLease
  rcases h.lt_or_eq with hlt | heq
  · rw [Lease.compareExpiry_eq_gt_iff.mpr hlt]
  · rw [Lease.compareExpiry_eq_eq_iff.mpr heq.symm, hnew]
    simpa using hold

/-- What the reports say together: the highest source, the longest lease as one of them gave it,
and everything else as in the last. -/
structure Accumulates (rs : List (AddressEntry F)) (e : AddressEntry F) : Prop where
  source_le : ∀ r ∈ rs, r.source ≤ e.source
  source_mem : ∃ r ∈ rs, r.source = e.source
  horizon_le : ∀ r ∈ rs, r.lease.horizon ≤ e.lease.horizon
  lease_mem : ∃ r ∈ rs, r.lease = e.lease
  last : ∃ r, rs.getLast? = some r ∧ r.prefixLen = e.prefixLen ∧ r.flags = e.flags

variable {rs : List (AddressEntry F)} {e r : AddressEntry F}

theorem Accumulates.singleton (r : AddressEntry F) : Accumulates [r] r where
  source_le _ hr := by rw [List.mem_singleton.mp hr]; exact Nat.le_refl _
  source_mem := ⟨r, List.mem_singleton_self r, rfl⟩
  horizon_le _ hr := by rw [List.mem_singleton.mp hr]
  lease_mem := ⟨r, List.mem_singleton_self r, rfl⟩
  last := ⟨r, rfl, rfl, rfl⟩

/-- One more report adds its source and its lease, and settles the rest. -/
theorem Accumulates.updated (h : Accumulates rs e) (r : AddressEntry F) :
    Accumulates (rs ++ [r]) (e.updated r) := by
  have hsource : (e.updated r).source.rank = max e.source.rank r.source.rank :=
    Source.rank_max e.source r.source
  have hmem {P : AddressEntry F → Prop} : (∃ x ∈ rs, P x) → ∃ x ∈ rs ++ [r], P x := by
    rintro ⟨x, hx, hp⟩
    exact ⟨x, List.mem_append_left _ hx, hp⟩
  have hnew {P : AddressEntry F → Prop} (hp : P r) : ∃ x ∈ rs ++ [r], P x :=
    ⟨r, List.mem_append_right _ (List.mem_singleton_self r), hp⟩
  have hlease : (e.updated r).lease = if e.keepsLease r then e.lease else r.lease := rfl
  constructor
  · intro x hx
    change x.source.rank ≤ (e.updated r).source.rank
    rcases List.mem_append.mp hx with hx | hx
    · have hle : x.source.rank ≤ e.source.rank := h.source_le x hx
      omega
    · rw [List.mem_singleton.mp hx]
      omega
  · rcases le_total r.source.rank e.source.rank with hle | hle
    · refine hmem (h.source_mem.imp fun x hx => ⟨hx.1, hx.2.trans (Source.rank_inj.mp ?_)⟩)
      omega
    · refine hnew (Source.rank_inj.mp ?_)
      omega
  · intro x hx
    rw [hlease]
    split
    · next hkeep =>
      rcases List.mem_append.mp hx with hx | hx
      · exact h.horizon_le x hx
      · rw [List.mem_singleton.mp hx]
        exact horizon_le_of_keepsLease hkeep
    · next hkeep =>
      rcases List.mem_append.mp hx with hx | hx
      · exact (h.horizon_le x hx).trans (horizon_le_of_not_keepsLease hkeep)
      · rw [List.mem_singleton.mp hx]
  · rw [hlease]
    split
    · exact hmem h.lease_mem
    · exact hnew rfl
  · exact ⟨r, List.getLast?_concat, rfl, rfl⟩

/-- What there is of an address after one more report. -/
def accumulate (o : Option (AddressEntry F)) (r : AddressEntry F) : Option (AddressEntry F) :=
  some (o.elim r (·.updated r))

theorem accumulates_foldl (h : rs ≠ []) :
    ∃ e, rs.foldl accumulate none = some e ∧ Accumulates rs e := by
  -- From the end, since what is settled last are the flags and the length of the prefix.
  induction rs using List.reverseRecOn with
  | nil => contradiction
  | append_singleton rs r ih =>
    rw [List.foldl_append]
    by_cases hrs : rs = []
    · subst hrs
      exact ⟨r, rfl, .singleton r⟩
    · obtain ⟨e, he, hacc⟩ := ih hrs
      rw [he]
      exact ⟨e.updated r, rfl, hacc.updated r⟩

end AddressEntry

namespace Outcome

/-- The operation on `c` leaves the addresses alone, and what their order depends on. -/
structure SparesAddresses (c : Config F) (o : Outcome F) : Prop where
  addresses : o.config.addresses = c.addresses
  privacy : o.config.privacy = c.privacy

end Outcome

namespace Config
variable (c : Config F)

theorem insertRoute_spares (r : Route F) : (c.insertRoute r).SparesAddresses c := by
  constructor <;> rw [(c.insertRoute_puts r).config]

theorem insertNameserver_spares (a : Address F) : (c.insertNameserver a).SparesAddresses c := by
  constructor <;> rw [(c.insertNameserver_puts a).config]

theorem insertDomain_spares (domain : String) : (c.insertDomain domain).SparesAddresses c := by
  constructor <;> rw [(c.insertDomain_puts domain).config]

theorem insertSearch_spares (search : String) : (c.insertSearch search).SparesAddresses c := by
  constructor <;> rw [(c.insertSearch_puts search).config]

theorem addresses_publish (pool : PathPool) : (c.publish pool).1.addresses = c.addresses := by
  unfold publish
  split <;> rfl

end Config

namespace AddressEntry
variable {a : Address F} {es rs : List (AddressEntry F)} {o : Option (AddressEntry F)}

theorem sort_toList (privacy : Privacy) (o : Option (AddressEntry F)) :
    sort privacy o.toList = o.toList := by
  cases o <;> rfl

theorem filter_sort_of_eq (privacy : Privacy) (h : es.filter (·.address == a) = o.toList) :
    (sort privacy es).filter (·.address == a) = o.toList := by
  rw [filter_sort, h, sort_toList]

theorem filter_report (privacy : Privacy) (h : es.filter (·.address == a) = o.toList)
    (r : AddressEntry F) :
    (report privacy es r).filter (·.address == a) =
      (([r].filter (·.address == a)).foldl accumulate o).toList := by
  have hupsert : (upsert address updated es r).filter (·.address == a) =
      (([r].filter (·.address == a)).foldl accumulate o).toList := by
    by_cases hr : r.address = a
    · subst hr
      rw [filter_upsert_self keepsKey_updated h, List.filter_cons_of_pos (by simp)]
      rfl
    · rw [filter_upsert_of_ne keepsKey_updated hr, List.filter_cons_of_neg (by simpa using hr)]
      exact h
  unfold report
  split
  · next hself => rwa [hself] at hupsert
  · exact filter_sort_of_eq privacy hupsert

/-- Of many reports those of the address are taken into its entry, one after another. -/
theorem filter_foldl_report (privacy : Privacy) (h : es.filter (·.address == a) = o.toList)
    (rs : List (AddressEntry F)) :
    (rs.foldl (report privacy) es).filter (·.address == a) =
      ((rs.filter (·.address == a)).foldl accumulate o).toList := by
  induction rs generalizing es o with
  | nil => exact h
  | cons r rs ih =>
    have hsplit : (r :: rs).filter (·.address == a) =
        [r].filter (·.address == a) ++ rs.filter (·.address == a) := by
      rw [← List.filter_append, List.singleton_append]
    rw [List.foldl_cons, ih (filter_report privacy h r), hsplit, List.foldl_append]

theorem filter_foldl_drop (h : ∀ x ∈ rs, x.address ≠ a) :
    (rs.foldl (drop address) es).filter (·.address == a) = es.filter (·.address == a) := by
  induction rs generalizing es with
  | nil => rfl
  | cons r rs ih =>
    rw [List.foldl_cons, ih fun x hx => h x (List.mem_cons_of_mem _ hx)]
    exact filter_drop_of_ne (h r List.mem_cons_self)

theorem filter_eraseIdx {i : Nat} (h : ∀ x, es[i]? = some x → x.address ≠ a) :
    (es.eraseIdx i).filter (·.address == a) = es.filter (·.address == a) := by
  induction es generalizing i with
  | nil => rfl
  | cons e es ih =>
    cases i with
    | zero =>
      have he : e.address ≠ a := h e rfl
      rw [List.eraseIdx_cons_zero, List.filter_cons_of_neg (by simpa using he)]
    | succ i => rw [List.eraseIdx_cons_succ, List.filter_cons, List.filter_cons, ih h]

end AddressEntry

/-- The entries of the address, of which a configuration without repetition has at most one. -/
def Config.entriesOf (c : Config F) (a : Address F) : List (AddressEntry F) :=
  c.addresses.filter (·.address == a)

namespace Edit
open Config AddressEntry

variable {a : Address F} {e : Edit F} {es : List (Edit F)} {c : Config F} {o : Outcome F}
  {os : List (Outcome F)} {x : Option (AddressEntry F)}

/-- What the edit reports about the address. -/
def reports (a : Address F) : Edit F → List (AddressEntry F)
  | insertAddress entry => [entry].filter (·.address == a)
  | merge src => src.entriesOf a
  | applySetting setting _ => (setting.addresses.map DeclaredAddress.entry).filter (·.address == a)
  | _ => []

/-- The edit, made to `c`, does not take an entry of the address away. -/
def Spares (a : Address F) (c : Config F) : Edit F → Prop
  | removeAddress i => ∀ entry, c.addresses[i]? = some entry → entry.address ≠ a
  | clearAddresses => c.entriesOf a = []
  | withdraw src => src.entriesOf a = [] ∨ c.entriesOf a = []
  | replaceBy src => src.entriesOf a = c.entriesOf a
  | _ => True

theorem spares_of_reports (h : e.reports a ≠ []) : e.Spares a c := by
  cases e <;> first | exact trivial | exact absurd rfl h

theorem entriesOf_of_spares (h : o.SparesAddresses c) (hx : c.entriesOf a = x.toList) :
    o.config.entriesOf a = x.toList := by
  rwa [entriesOf, h.addresses]

/-- An edit that spares the entry of an address adds to it what it reports. -/
theorem entriesOf_apply (h : e.apply c = some o) (hs : e.Spares a c)
    (hx : c.entriesOf a = x.toList) :
    o.config.entriesOf a = ((e.reports a).foldl accumulate x).toList := by
  cases e with
  | insertAddress entry =>
    cases h
    rw [entriesOf, (c.insertAddress_puts entry).config]
    exact filter_report c.privacy hx entry
  | removeAddress i =>
    rw [entriesOf, (removeAddress_puts h).config]
    exact (filter_eraseIdx hs).trans hx
  | removeRoute i =>
    rw [entriesOf, (removeRoute_puts h).config]
    exact hx
  | removeNameserver i =>
    rw [entriesOf, (removeNameserver_puts h).config]
    exact hx
  | removeDomain i =>
    rw [entriesOf, (removeDomain_puts h).config]
    exact hx
  | removeSearch i =>
    rw [entriesOf, (removeSearch_puts h).config]
    exact hx
  | clearAddresses =>
    cases h
    exact hs.symm.trans hx
  | setPrivacy privacy =>
    cases h
    rw [entriesOf, Config.setPrivacy, (sortAddresses_puts _).config]
    exact filter_sort_of_eq privacy hx
  | sortAddresses =>
    cases h
    rw [entriesOf, c.sortAddresses_puts.config]
    exact filter_sort_of_eq c.privacy hx
  | applySetting setting metric =>
    cases h
    rw [entriesOf, config_applySetting]
    exact filter_foldl_report c.privacy hx _
  | merge src =>
    cases h
    rw [entriesOf, config_merge]
    exact filter_foldl_report c.privacy hx src.addresses
  | withdraw src =>
    cases h
    rw [entriesOf, config_withdraw]
    rcases hs with hsrc | hnone
    · have hother : ∀ x ∈ src.addresses, x.address ≠ a := by
        intro x hx
        simpa using List.filter_eq_nil_iff.mp hsrc x hx
      exact (filter_foldl_drop hother).trans hx
    · have hsub := (foldl_drop_sublist address c.addresses src.addresses).filter
        (·.address == a)
      rw [← entriesOf, hnone, List.sublist_nil] at hsub
      exact hsub.trans (hnone.symm.trans hx)
  | replaceBy src =>
    cases h
    rw [Replacement.config_outcome, config_replaceBy]
    exact hs.trans hx
  | publish pool =>
    cases h
    rw [Outcome.config_start, entriesOf, addresses_publish]
    exact hx
  | insertRoute route => cases h; exact entriesOf_of_spares (c.insertRoute_spares route) hx
  | insertNameserver address =>
    cases h
    exact entriesOf_of_spares (c.insertNameserver_spares address) hx
  | insertDomain domain => cases h; exact entriesOf_of_spares (c.insertDomain_spares domain) hx
  | insertSearch search => cases h; exact entriesOf_of_spares (c.insertSearch_spares search) hx
  | clearRoutes | clearNameservers | clearDomains | clearSearches | setGateway _
  | setNeverDefault _ | setMss _ =>
    cases h
    exact hx

/-- Each of the edits, made after those before it, spares the entry of the address. -/
def SparesThroughout (a : Address F) : List (Edit F) → Config F → Prop
  | [], _ => True
  | e :: es, c => e.Spares a c ∧ ∀ o, e.apply c = some o → SparesThroughout a es o.config

theorem entriesOf_run (h : run es c = some os) (hs : SparesThroughout a es c)
    (hx : c.entriesOf a = x.toList) :
    (c.reached os).entriesOf a = ((es.flatMap (reports a)).foldl accumulate x).toList := by
  induction es generalizing c os x with
  | nil =>
    cases h
    exact hx
  | cons e es ih =>
    obtain ⟨o, rest, ho, hrest, rfl⟩ := run_cons_eq_some.mp h
    obtain ⟨he, hes⟩ := hs
    have hnext := entriesOf_apply ho he hx
    rw [List.flatMap_cons, List.foldl_append]
    have hrun := ih hrest (hes o ho) hnext
    exact hrun

/-- However the reports of an address are mixed with other edits, its entry says what they say
together; and whenever the running system reports it, with a lease that is not longer, the lease
that someone else gave stays. -/
theorem reports_accumulate (h : run es c = some os) (hs : SparesThroughout a es c)
    (hnew : c.entriesOf a = []) (hreports : es.flatMap (reports a) ≠ []) :
    (∃ entry, (c.reached os).entriesOf a = [entry] ∧
        Accumulates (es.flatMap (reports a)) entry) ∧
      ∀ (d : Config F) (e : Edit F) (o : Outcome F) (old new : AddressEntry F),
        e.apply d = some o → d.entriesOf a = [old] → e.reports a = [new] →
        new.source = .kernel → old.source ≠ .kernel → new.lease.horizon ≤ old.lease.horizon →
        ∃ entry, o.config.entriesOf a = [entry] ∧ entry.lease = old.lease := by
  constructor
  · obtain ⟨entry, hentry, hacc⟩ := accumulates_foldl hreports
    have hrun := entriesOf_run (x := none) h hs hnew
    rw [hentry] at hrun
    exact ⟨entry, hrun, hacc⟩
  · intro d e o old new ho hold hreport hkernel hother hle
    have hspares : e.Spares a d := spares_of_reports (by simp [hreport])
    have happly := entriesOf_apply (x := some old) ho hspares hold
    rw [hreport] at happly
    refine ⟨old.updated new, happly, ?_⟩
    exact if_pos (keepsLease_of_kernel hkernel hother hle)

def grantedLease : AddressEntry .v4 :=
  { address := ⟨0x0a000007⟩, prefixLen := 24, lease := ⟨100, 60, 50⟩, source := .dhcp }

/-- The lease as the running system reports it, a while after and ending at the same time. -/
def foundLease : AddressEntry .v4 :=
  { grantedLease with lease := ⟨130, 30, 30⟩, flags := 8, source := .kernel }

/-- A lease is granted and found while another address comes and goes. -/
def leaseReports : List (Edit .v4) :=
  [.insertAddress { address := ⟨0x0a000001⟩, prefixLen := 24, flags := Flag.tentative },
    .insertAddress grantedLease, .removeAddress 1, .merge { addresses := [foundLease] }]

theorem reports_accumulate_leaseReports :
    (∃ os entry, run leaseReports {} = some os ∧
      (Config.reached {} os).entriesOf ⟨0x0a000007⟩ = [entry] ∧
      Accumulates (leaseReports.flatMap (reports ⟨0x0a000007⟩)) entry) ∧
    let d : Config .v4 := { addresses := [grantedLease] }
    let e : Edit .v4 := .merge { addresses := [foundLease] }
    d.entriesOf ⟨0x0a000007⟩ = [grantedLease] ∧ e.reports ⟨0x0a000007⟩ = [foundLease] ∧
      foundLease.lease.horizon ≤ grantedLease.lease.horizon ∧
      ∃ o entry, e.apply d = some o ∧ o.config.entriesOf ⟨0x0a000007⟩ = [entry] ∧
        entry.lease = ⟨100, 60, 50⟩ := by
  have hrun : ∃ os, run leaseReports {} = some os := ⟨_, rfl⟩
  have hspares : SparesThroughout ⟨0x0a000007⟩ leaseReports {} := by
    refine ⟨trivial, fun o ho => ⟨trivial, fun o' ho' => ⟨?_, fun o'' ho'' => ⟨trivial, ?_⟩⟩⟩⟩
    · cases ho
      cases ho'
      intro entry hentry
      cases hentry
      decide
    · exact fun _ _ => trivial
  obtain ⟨os, hos⟩ := hrun
  obtain ⟨⟨entry, hentry, hacc⟩, hkernel⟩ := reports_accumulate hos hspares rfl (by decide)
  refine ⟨⟨os, entry, hos, hentry, hacc⟩, ?_⟩
  intro d e
  have hle : foundLease.lease.horizon ≤ grantedLease.lease.horizon := by decide
  obtain ⟨stored, hstored, hlease⟩ := hkernel d e _ grantedLease foundLease rfl rfl rfl rfl
    (by decide) hle
  exact ⟨rfl, rfl, hle, _, stored, rfl, hstored, hlease⟩

end Edit

end LinkConfig
