import LinkConfig.Proofs.LeaseReports
import LinkConfig.Proofs.WellFormed

/-! # Reports that are made again

A report that is made a second time finds the entry that it left, and leaves it alone. There is one
exception. The running system keeps the lease of an entry that nobody contributed, but becomes its
source, so that the same report, made again, replaces a lease of the system's own. Made a third
time it is silent in any case. Reports of other addresses in between make no difference.
-/
namespace LinkConfig
open Keyed

variable {F : Family}

namespace AddressEntry
variable {old new : AddressEntry F}

theorem keepsLease_iff :
    old.keepsLease new ↔ old.lease.compareExpiry new.lease = .gt ∨
      old.lease.compareExpiry new.lease = .eq ∧ new.source = .kernel ∧ old.source ≠ .kernel := by
  unfold keepsLease
  cases old.lease.compareExpiry new.lease <;> simp

/-- The running system reports an entry that nobody contributed, with another lease that ends at
the same time. -/
structure TakesOver (new old : AddressEntry F) : Prop where
  source_old : old.source = .unknown
  source_new : new.source = .kernel
  expiry : old.expiry = new.expiry
  lease_ne : old.lease ≠ new.lease

instance (new old : AddressEntry F) : Decidable (TakesOver new old) :=
  decidable_of_iff
    (old.source = .unknown ∧ new.source = .kernel ∧ old.expiry = new.expiry ∧
      old.lease ≠ new.lease)
    ⟨fun ⟨h₁, h₂, h₃, h₄⟩ => ⟨h₁, h₂, h₃, h₄⟩, fun ⟨h₁, h₂, h₃, h₄⟩ => ⟨h₁, h₂, h₃, h₄⟩⟩

theorem compareExpiry_eq_of_expiry (h : old.expiry = new.expiry) :
    old.lease.compareExpiry new.lease = .eq := by
  have hhorizon : old.lease.horizon = new.lease.horizon := congrArg (·.elim ⊤ WithTop.some) h
  exact Lease.compareExpiry_eq_eq_iff.mpr hhorizon

theorem expiry_eq_of_compareExpiry (h : old.lease.compareExpiry new.lease = .eq) :
    old.expiry = new.expiry := by
  unfold Lease.compareExpiry at h
  unfold expiry
  cases hold : old.lease.expiry <;> cases hnew : new.lease.expiry <;> simp_all

theorem updated_eq_self_iff :
    old.updated new = old ↔ (old.keepsLease new ∨ old.lease = new.lease) ∧
      new.address = old.address ∧ new.prefixLen = old.prefixLen ∧ new.flags = old.flags ∧
      max old.source new.source = old.source := by
  have hlease : (if old.keepsLease new then old.lease else new.lease) = old.lease ↔
      old.keepsLease new ∨ old.lease = new.lease := by
    by_cases h : old.keepsLease new <;> simp [h, eq_comm]
  rw [← hlease]
  unfold updated
  generalize (if old.keepsLease new then old.lease else new.lease) = lease
  cases old
  simp only [mk.injEq]
  tauto

/-- What a report left is another thing after the same report only if the lease is. -/
theorem updated_updated_eq_iff :
    (old.updated new).updated new = old.updated new ↔
      (old.updated new).keepsLease new ∨ (old.updated new).lease = new.lease := by
  rw [updated_eq_self_iff]
  exact and_iff_left ⟨rfl, rfl, rfl, Source.max_max_right old.source new.source⟩

theorem source_updated_eq_kernel_iff (hnew : new.source = .kernel) (hold : old.source ≠ .kernel) :
    (old.updated new).source = .kernel ↔ old.source = .unknown := by
  change max old.source new.source = .kernel ↔ _
  rw [hnew]
  revert hold
  cases old.source <;> decide

theorem updated_updated_iff :
    (old.updated new).updated new = old.updated new ↔ ¬ new.TakesOver old := by
  rw [updated_updated_eq_iff]
  by_cases hkeep : old.keepsLease new
  · have hlease : (old.updated new).lease = old.lease := if_pos hkeep
    rw [keepsLease_iff, hlease]
    rcases keepsLease_iff.mp hkeep with hgt | ⟨heq, hnew, hold⟩
    · refine iff_of_true (.inl (.inl hgt)) ?_
      intro htake
      rw [compareExpiry_eq_of_expiry htake.expiry] at hgt
      contradiction
    · -- the lease was kept from the running system, and is again unless the entry is now its own
      have hsource := source_updated_eq_kernel_iff hnew hold
      have htake : new.TakesOver old ↔ old.source = .unknown ∧ old.lease ≠ new.lease :=
        ⟨fun h => ⟨h.source_old, h.lease_ne⟩,
          fun h => ⟨h.1, hnew, expiry_eq_of_compareExpiry heq, h.2⟩⟩
      rw [heq, htake, ← hsource]
      simp [hnew, or_iff_not_imp_left]
  · have hlease : (old.updated new).lease = new.lease := if_neg hkeep
    refine iff_of_true (.inr hlease) ?_
    intro htake
    have heq := compareExpiry_eq_of_expiry htake.expiry
    have hold : old.source ≠ .kernel := by
      rw [htake.source_old]
      decide
    exact hkeep (keepsLease_iff.mpr (.inr ⟨heq, htake.source_new, hold⟩))

/-- After a report the entry has a source, unless the report had none either. -/
theorem not_takesOver_updated : ¬ new.TakesOver (old.updated new) := by
  intro htake
  have hsource : max old.source new.source = .unknown := htake.source_old
  rw [htake.source_new] at hsource
  revert hsource
  cases old.source <;> decide

theorem updated_self (e : AddressEntry F) : e.updated e = e :=
  updated_eq_self_iff.mpr ⟨.inr rfl, rfl, rfl, rfl, e.source.max_self⟩

variable {es rs : List (AddressEntry F)} {r : AddressEntry F}

/-- Of many reports of different addresses each leaves what it would leave by itself. -/
theorem find?_foldl_report (privacy : Privacy) (h : (es.map address).Nodup)
    (hn : (rs.map address).Nodup) (hr : r ∈ rs) :
    (rs.foldl (report privacy) es).find? (·.address == r.address) =
      some ((es.find? (·.address == r.address)).elim r (·.updated r)) := by
  have hentry := filter_eq_toList_find? h r.address
  have hone : rs.filter (·.address == r.address) = [r] := by
    rw [filter_eq_toList_find? hn, find?_of_mem hn hr]
    rfl
  rw [← List.head?_filter, filter_foldl_report privacy hentry, hone]
  rfl

/-- A report that is made again after many others changes the list exactly if it took an entry
over. -/
theorem report_foldl_report_eq_iff (privacy : Privacy) (h : (es.map address).Nodup)
    (hn : (rs.map address).Nodup) (hr : r ∈ rs) :
    report privacy (rs.foldl (report privacy) es) r = rs.foldl (report privacy) es ↔
      ∀ old ∈ es, old.address = r.address → ¬ r.TakesOver old := by
  have hentries : (∀ old ∈ es, old.address = r.address → ¬ r.TakesOver old) ↔
      ∀ old ∈ (es.find? (·.address == r.address)).toList, ¬ r.TakesOver old := by
    rw [← filter_eq_toList_find? h]
    simp
  rw [hentries, report_eq_self_iff, upsert_eq_self_iff (find?_foldl_report privacy h hn hr)]
  cases es.find? (·.address == r.address) with
  | none => simp [updated_self]
  | some old => simp [updated_updated_iff]

end AddressEntry

namespace Config
open AddressEntry

variable {c : Config F} {e new : AddressEntry F}

theorem find?_insertAddress (h : (c.addresses.map address).Nodup) (new : AddressEntry F) :
    (c.insertAddress new).config.addresses.find? (·.address == new.address) =
      some ((c.addresses.find? (·.address == new.address)).elim new (·.updated new)) := by
  have hone : ([new].map address).Nodup := List.nodup_singleton new.address
  rw [(c.insertAddress_puts new).config]
  exact find?_foldl_report c.privacy h hone (List.mem_singleton_self new)

theorem insertAddress_silent_iff (h : c.addresses.find? (·.address == new.address) = some e) :
    (c.insertAddress new).config = c ∧ (c.insertAddress new).changes = ∅ ↔ e.updated new = e := by
  have hputs := c.insertAddress_puts new
  have hself : AddressEntry.report c.privacy c.addresses new = c.addresses ↔ e.updated new = e :=
    report_eq_self_iff.trans (upsert_eq_self_iff h)
  rw [hputs.config, hputs.changes, ← hself]
  constructor
  · rintro ⟨hconfig, -⟩
    exact congrArg addresses hconfig
  · intro hsame
    rw [hsame]
    exact ⟨rfl, by simp [Changes.when_false]⟩

/-- A report that is made again is silent exactly if it did not take an entry over, and made once
more it is silent in any case. -/
theorem insertAddress_again (h : (c.addresses.map address).Nodup) (new : AddressEntry F) :
    let once := c.insertAddress new
    let twice := once.config.insertAddress new
    let thrice := twice.config.insertAddress new
    (twice.config = once.config ∧ twice.changes = ∅ ↔
        ∀ old ∈ c.addresses, old.address = new.address → ¬ new.TakesOver old) ∧
      thrice.config = twice.config ∧ thrice.changes = ∅ := by
  intro once twice thrice
  have honce := find?_insertAddress h new
  have hnodup : (once.config.addresses.map address).Nodup := by
    rw [(c.insertAddress_puts new).config]
    exact nodup_report h new
  have htwice := find?_insertAddress hnodup new
  rw [honce] at htwice
  rw [insertAddress_silent_iff honce, insertAddress_silent_iff htwice]
  have hentries : (∀ old ∈ c.addresses, old.address = new.address → ¬ new.TakesOver old) ↔
      ∀ old ∈ (c.addresses.find? (·.address == new.address)).toList, ¬ new.TakesOver old := by
    rw [← filter_eq_toList_find? h]
    simp
  rw [hentries]
  cases hold : c.addresses.find? (·.address == new.address) with
  | none => simp [updated_self]
  | some old => simpa [updated_updated_iff] using not_takesOver_updated

/-- A lease, and an address that nobody contributed. -/
def leasedAndForeign : Config .v4 :=
  let leased :=
    { address := ⟨0x0a000007⟩, prefixLen := 24, lease := ⟨100, 60, 50⟩, source := .dhcp }
  let foreign := { address := ⟨0x0a000002⟩, prefixLen := 24 }
  ((({} : Config .v4).insertAddress leased).config.insertAddress foreign).config

/-- The running system has a prolonged lease that ends when the one it knows of does. -/
theorem insertAddress_again_leasedAndForeign :
    let new : AddressEntry .v4 :=
      { address := ⟨0x0a000007⟩, prefixLen := 24, lease := ⟨130, 30, 30⟩
        flags := Flag.noPrefixRoute, source := .kernel }
    let once := leasedAndForeign.insertAddress new
    let twice := once.config.insertAddress new
    leasedAndForeign.WellFormed ∧ once.changes = .only .addresses ∧
      twice.config = once.config ∧ twice.changes = ∅ := by
  intro new once twice
  have hwf : leasedAndForeign.WellFormed := by decide
  have hagain := insertAddress_again hwf.addresses_nodup new
  exact ⟨hwf, by decide, hagain.1.mpr (by decide)⟩

/-- The running system takes the other address over, with a permanent lease that it counts from
when it saw the address. -/
theorem insertAddress_again_changes :
    let new : AddressEntry .v4 :=
      { address := ⟨0x0a000002⟩, prefixLen := 24
        lease := ⟨500, Lease.unlimited, Lease.unlimited⟩, source := .kernel }
    let once := leasedAndForeign.insertAddress new
    let twice := once.config.insertAddress new
    leasedAndForeign.WellFormed ∧ twice.config ≠ once.config ∧
      twice.changes = .only .addresses := by
  decide

end Config

end LinkConfig
