import LinkConfig.Proofs.LeaseReports
import LinkConfig.Proofs.Session

/-! # Reports in any order

An address list without repetition is determined by its entries and the preference by which it is
sorted. Reports of different addresses therefore lead to one list in whatever order they come. Each
of them changes the list exactly if it would have done so by itself, so that together they report
the same.
-/
namespace LinkConfig
open Keyed

variable {F : Family}

namespace AddressEntry
variable {privacy : Privacy} {es fs rs ss : List (AddressEntry F)} {e : AddressEntry F}

/-- No address is repeated, and the entries are in order. -/
structure Arranged (privacy : Privacy) (es : List (AddressEntry F)) : Prop where
  nodup : (es.map address).Nodup
  ascending : Ascending privacy es

namespace Arranged

theorem report (h : Arranged privacy es) (r : AddressEntry F) :
    Arranged privacy (report privacy es r) :=
  ⟨nodup_report h.nodup r, ascending_report h.ascending h.nodup r⟩

theorem foldl_report (h : Arranged privacy es) (rs : List (AddressEntry F)) :
    Arranged privacy (rs.foldl (AddressEntry.report privacy) es) := by
  induction rs generalizing es with
  | nil => exact h
  | cons r rs ih => exact ih (h.report r)

theorem eq_of_filter (hes : Arranged privacy es) (hfs : Arranged privacy fs)
    (h : ∀ a, es.filter (·.address == a) = fs.filter (·.address == a)) : es = fs := by
  refine hes.ascending.eq_of_mem_iff hfs.ascending fun e => ?_
  have hmem := congrArg (e ∈ ·) (h e.address)
  simpa using hmem

end Arranged

/-- Reports of different addresses lead to one list. -/
theorem foldl_report_perm (h : Arranged privacy es) (hn : (rs.map address).Nodup)
    (hp : rs.Perm ss) :
    rs.foldl (report privacy) es = ss.foldl (report privacy) es := by
  refine (h.foldl_report rs).eq_of_filter (h.foldl_report ss) fun a => ?_
  have hentry := filter_eq_toList_find? h.nodup a
  rw [filter_foldl_report privacy hentry, filter_foldl_report privacy hentry,
    filter_eq_of_perm hn hp]

/-- Whether a report changes a list depends on the entry of its address only. -/
theorem report_eq_self_congr
    (h : es.filter (·.address == e.address) = fs.filter (·.address == e.address)) :
    report privacy es e = es ↔ report privacy fs e = fs := by
  have hfind : es.find? (·.address == e.address) = fs.find? (·.address == e.address) := by
    rw [← List.head?_filter, ← List.head?_filter, h]
  rw [report_eq_self_iff, report_eq_self_iff]
  cases hes : es.find? (·.address == e.address) with
  | none =>
    rw [hes] at hfind
    exact iff_of_false (upsert_ne_of_find?_eq_none hes) (upsert_ne_of_find?_eq_none hfind.symm)
  | some old =>
    rw [hes] at hfind
    rw [upsert_eq_self_iff hes, upsert_eq_self_iff hfind.symm]

theorem filter_report_of_ne (h : (es.map address).Nodup) {r : AddressEntry F} {a : Address F}
    (ha : r.address ≠ a) :
    (report privacy es r).filter (·.address == a) = es.filter (·.address == a) := by
  have hentry := filter_eq_toList_find? h a
  rw [filter_report privacy hentry, List.filter_cons_of_neg (by simpa using ha)]
  exact hentry.symm

/-- Reports of different addresses do not keep each other from changing the list. -/
theorem changesIn_report_iff (h : (es.map address).Nodup) (hn : (rs.map address).Nodup) :
    changesIn (report privacy) es rs ↔ ∃ r ∈ rs, report privacy es r ≠ es := by
  induction rs generalizing es with
  | nil => simp [changesIn]
  | cons r rs ih =>
    rw [List.map_cons, List.nodup_cons] at hn
    have hother : ∀ x ∈ rs, (report privacy (report privacy es r) x ≠ report privacy es r ↔
        report privacy es x ≠ es) := by
      intro x hx
      have hne : r.address ≠ x.address := fun he => hn.1 (he ▸ List.mem_map_of_mem hx)
      exact not_congr (report_eq_self_congr (filter_report_of_ne h hne))
    rw [changesIn, Bool.or_eq_true, bne_iff_ne, ih (nodup_report h r) hn.2,
      List.exists_mem_cons_iff]
    exact or_congr_right (exists_congr fun x => and_congr_right fun hx => hother x hx)

theorem changesIn_report_perm (h : (es.map address).Nodup) (hn : (rs.map address).Nodup)
    (hp : rs.Perm ss) : changesIn (report privacy) es rs = changesIn (report privacy) es ss := by
  have hn' : (ss.map address).Nodup := (hp.map address).nodup_iff.mp hn
  rw [Bool.eq_iff_iff, changesIn_report_iff h hn, changesIn_report_iff h hn']
  exact exists_congr fun r => and_congr_left fun _ => hp.mem_iff

end AddressEntry

namespace Config
open AddressEntry

/-- Every session leaves address lists without repetition and in order. Reports of different
addresses lead such a configuration to the same one, with the same changes, in whatever order they
come; and such lists are the same as soon as their entries and the preferences are. -/
theorem addresses_forget_history :
    (∀ (ms : List (Move F)) cs, Move.run ms = some cs → (∀ m ∈ ms, m.IsDistinct) →
        ∀ c ∈ cs, Arranged c.privacy c.addresses) ∧
      ∀ c : Config F, Arranged c.privacy c.addresses →
        (∀ rs ss : List (AddressEntry F), (rs.map address).Nodup → rs.Perm ss →
          let o := (Outcome.start c).forEach rs insertAddress
          let o' := (Outcome.start c).forEach ss insertAddress
          o.config = o'.config ∧ o.changes = o'.changes) ∧
        ∀ d : Config F, Arranged d.privacy d.addresses → d.privacy = c.privacy →
          (∀ e, e ∈ d.addresses ↔ e ∈ c.addresses) → d.addresses = c.addresses := by
  refine ⟨fun ms cs hrun hd c hc => ?_, fun c hc => ⟨fun rs ss hn hp => ⟨?_, ?_⟩, ?_⟩⟩
  · have hwf := Move.invariant_wellFormed.of_run hrun hd c hc
    exact ⟨hwf.addresses_nodup, hwf.addresses_ascending⟩
  · rw [(Outcome.forEach_insertAddress _ rs).1, (Outcome.forEach_insertAddress _ ss).1,
      Outcome.config_start, foldl_report_perm hc hn hp]
  · rw [(Outcome.forEach_insertAddress _ rs).2, (Outcome.forEach_insertAddress _ ss).2,
      Outcome.config_start, changesIn_report_perm hc.nodup hn hp]
  · intro d hd hprivacy hentries
    rw [hprivacy] at hd
    exact hd.ascending.eq_of_mem_iff hc.ascending hentries

def stableEntry : AddressEntry .v4 :=
  { address := ⟨0x0a000001⟩, prefixLen := 24, source := .static }

def temporaryEntry : AddressEntry .v4 :=
  { address := ⟨0x0a000002⟩, prefixLen := 24, flags := Flag.temporary, source := .kernel }

def preferringTemporary : Config .v4 :=
  { addresses := [temporaryEntry, stableEntry], privacy := .preferTemporary }

/-- The second configuration comes to the entries of the first by way of another preference, and of
an address that it does not keep. -/
def directAndDetour : List (Move .v4) :=
  [.create .preferTemporary, .edit 0 (.insertAddress stableEntry),
    .edit 0 (.insertAddress temporaryEntry), .create .preferPublic,
    .edit 1 (.insertAddress { stableEntry with lease := ⟨0, 60, 60⟩ }),
    .edit 1 (.insertAddress { address := ⟨0x0a000003⟩, prefixLen := 8 }),
    .edit 1 (.merge preferringTemporary), .edit 1 (.removeAddress 1),
    .edit 1 (.setPrivacy .preferTemporary)]

theorem addresses_forget_history_directAndDetour :
    ∃ c d : Config .v4, Move.run directAndDetour = some [c, d] ∧ c.addresses.length = 2 ∧
      d.addresses = c.addresses ∧
      let news : List (AddressEntry .v4) :=
        [{ stableEntry with flags := Flag.tentative },
          { temporaryEntry with lease := ⟨500, Lease.unlimited, Lease.unlimited⟩ },
          { address := ⟨0x0a000004⟩, prefixLen := 24, source := .user }]
      ((Outcome.start c).forEach news insertAddress).config =
        ((Outcome.start c).forEach news.reverse insertAddress).config := by
  have hrun : ∃ c d : Config .v4, Move.run directAndDetour = some [c, d] ∧
      c.addresses.length = 2 ∧ d.privacy = c.privacy ∧ d.addresses.Perm c.addresses :=
    ⟨preferringTemporary, preferringTemporary, rfl, rfl, rfl, .refl _⟩
  obtain ⟨c, d, hrun, hlength, hprivacy, hperm⟩ := hrun
  have hdistinct : ∀ m ∈ directAndDetour, m.IsDistinct := by
    simp [directAndDetour, Move.IsDistinct]
  obtain ⟨hsessions, hforget⟩ := addresses_forget_history (F := .v4)
  have hc := hsessions _ _ hrun hdistinct c (by simp)
  have hd := hsessions _ _ hrun hdistinct d (by simp)
  obtain ⟨horder, hentries⟩ := hforget c hc
  refine ⟨c, d, hrun, hlength, hentries d hd hprivacy fun e => hperm.mem_iff, ?_⟩
  exact (horder _ _ (by decide) (List.reverse_perm _).symm).1

end Config

end LinkConfig
