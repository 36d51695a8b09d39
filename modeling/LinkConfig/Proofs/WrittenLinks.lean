import LinkConfig.Config.Capture
import LinkConfig.Config.Commit
import LinkConfig.Platform.Memory

/-! # What is written to a link in memory

A write puts one table of a link in the place of another, if writes are not refused and the link is
known. Both are looked at before the link is touched, so that a refused write leaves the links as
they were. After a commit that succeeded both tables are those of the configuration, and the next
reads answer them.
-/
namespace LinkConfig

variable {F : Family}

namespace LinkTable
variable {t : LinkTable F} {i : UInt32} {name : String} {f : Link F → Link F} {l : Link F}

/-- Puts the link through `f`, if it is known. -/
def modify (t : LinkTable F) (i : UInt32) (f : Link F → Link F) : LinkTable F :=
  t.alter i (Option.map f)

/-- A write to the link is carried out. -/
def Accepts (t : LinkTable F) (i : UInt32) : Prop :=
  t.refusesWrites = false ∧ (t.link? i).isSome

theorem link?_modify (t : LinkTable F) (i j : UInt32) (f : Link F → Link F) :
    (t.modify i f).link? j = if j = i then (t.link? j).map f else t.link? j := by
  by_cases h : j = i
  · subst h
    simp [modify]
  · simp [modify, h, link?_alter_of_ne]

theorem modify_of_link? (hl : t.link? i = some l) (f : Link F → Link F) :
    t.modify i f = t.alter i fun _ => some (f l) := by
  rw [modify, alter, alter, hl]
  rfl

theorem accepts_modify : (t.modify i f).Accepts i ↔ t.Accepts i := by
  rw [Accepts, link?_modify, if_pos rfl, Option.isSome_map]
  rfl

theorem write_of_accepts (h : t.Accepts i) : t.write i name f = .done (t.modify i f) := by
  obtain ⟨hwrites, hknown⟩ := h
  obtain ⟨l, hl⟩ := Option.isSome_iff_exists.mp hknown
  rw [modify_of_link? hl, write, known, hwrites, hl]
  rfl

theorem writeAddresses_of_accepts (h : t.Accepts i) (es : List (AddressEntry F)) :
    platform.writeAddresses t i es = .done (t.modify i fun l => { l with addresses := es }) :=
  write_of_accepts h

theorem writeRoutes_of_accepts (h : t.Accepts i) (rs : List (Route F)) :
    platform.writeRoutes t i rs = .done (t.modify i fun l => { l with routes := rs }) :=
  write_of_accepts h

/-- Neither check comes after the change. -/
theorem write_of_not_accepts (h : ¬ t.Accepts i) :
    ∃ fault, t.write i name f = .refused t fault := by
  unfold write known
  cases hwrites : t.refusesWrites with
  | true => exact ⟨_, rfl⟩
  | false =>
    cases hl : t.link? i with
    | none => exact ⟨_, rfl⟩
    | some l => exact absurd ⟨hwrites, by simp [hl]⟩ h

theorem isOk_write : (t.write i name f).isOk ↔ t.Accepts i := by
  by_cases h : t.Accepts i
  · simp [write_of_accepts h, h]
  · obtain ⟨fault, hfault⟩ : ∃ fault, t.write i name f = .refused t fault :=
      write_of_not_accepts h
    simp [hfault, h]

theorem state_write_of_not_isOk (h : ¬ (t.write i name f).isOk) :
    (t.write i name f).state = t := by
  obtain ⟨fault, hfault⟩ : ∃ fault, t.write i name f = .refused t fault :=
    write_of_not_accepts (mt isOk_write.mpr h)
  rw [hfault, Written.state_refused]

theorem alter_alter (t : LinkTable F) (i : UInt32) (f g : Option (Link F) → Option (Link F)) :
    (t.alter i f).alter i g = t.alter i (g ∘ f) := by
  have hlinks : ((t.alter i f).alter i g).link? = (t.alter i (g ∘ f)).link? := by
    funext j
    by_cases h : j = i <;> simp [alter, h]
  unfold alter at hlinks ⊢
  rw [mk.injEq]
  exact ⟨hlinks, rfl, rfl⟩

theorem modify_modify (t : LinkTable F) (i : UInt32) (f g : Link F → Link F) :
    (t.modify i f).modify i g = t.modify i (g ∘ f) := by
  rw [modify, modify, alter_alter, Option.map_comp_map]
  rfl

theorem answers_alter (hreads : t.refusesReads = false) (i : UInt32) (l : Link F) :
    platform.answers (t.alter i fun _ => some l) i =
      ⟨.ok l.master.isSome, .ok l.addresses, .ok l.routes⟩ := by
  have hread : (t.alter i fun _ => some l).refusesReads = false := hreads
  simp [Platform.answers, platform, read, known, hread, Except.map]

/-- Nothing is known of a link whose reads are refused. -/
theorem answers_of_refusesReads (hreads : t.refusesReads) (i : UInt32) :
    ∃ master addresses routes,
      platform.answers t i = ⟨.error master, .error addresses, .error routes⟩ := by
  simp [Platform.answers, platform, read, hreads]

end LinkTable

namespace Config
variable {c : Config F} {r : Route F} {t : LinkTable F} {i : UInt32}

theorem mem_routesToWrite_iff :
    r ∈ c.routesToWrite ↔ r ∈ c.routes ∧ (r.hasGateway ∨ ¬ c.isDirect r.network r.prefixLen) ∧
      (c.neverDefault → r.prefixLen ≠ 0) := by
  rw [routesToWrite, List.mem_filter, writes]
  cases c.neverDefault <;> simp

theorem accepts_of_isSuccess (h : (c.commit LinkTable.platform t i).isSuccess) : t.Accepts i :=
  LinkTable.isOk_write.mp (Bool.and_eq_true_iff.mp h).1

/-- The second write is answered like the first: that the link is known does not change. -/
theorem commit_of_accepts (h : t.Accepts i) (c : Config F) :
    (c.commit LinkTable.platform t i).isSuccess ∧
      (c.commit LinkTable.platform t i).state =
        t.modify i fun l => { l with addresses := c.addresses, routes := c.routesToWrite } := by
  have hagain : (t.modify i fun l => { l with addresses := c.addresses }).Accepts i :=
    LinkTable.accepts_modify.mpr h
  dsimp only [commit, Committed.isSuccess]
  rw [LinkTable.writeAddresses_of_accepts h, Written.state_done,
    LinkTable.writeRoutes_of_accepts hagain, Written.state_done, LinkTable.modify_modify]
  exact ⟨rfl, rfl⟩

/-- A commit that succeeded puts both tables in place, and nothing else. -/
theorem state_of_isSuccess (h : (c.commit LinkTable.platform t i).isSuccess) :
    ∃ l, t.link? i = some l ∧
      (c.commit LinkTable.platform t i).state = t.alter i fun _ =>
        some { l with addresses := c.addresses, routes := c.routesToWrite } := by
  have haccepts := accepts_of_isSuccess h
  obtain ⟨l, hl⟩ := Option.isSome_iff_exists.mp haccepts.2
  exact ⟨l, hl, (commit_of_accepts haccepts c).2.trans (LinkTable.modify_of_link? hl _)⟩

theorem answers_of_isSuccess (hreads : t.refusesReads = false)
    (h : (c.commit LinkTable.platform t i).isSuccess) :
    ∃ l, t.link? i = some l ∧
      LinkTable.platform.answers (c.commit LinkTable.platform t i).state i =
        ⟨.ok l.master.isSome, .ok c.addresses, .ok c.routesToWrite⟩ := by
  obtain ⟨l, hl, hstate⟩ := state_of_isSuccess h
  refine ⟨l, hl, ?_⟩
  rw [hstate]
  exact LinkTable.answers_alter hreads i _

theorem refusesReads_of_isSuccess (h : (c.commit LinkTable.platform t i).isSuccess) :
    (c.commit LinkTable.platform t i).state.refusesReads = t.refusesReads := by
  obtain ⟨l, -, hstate⟩ := state_of_isSuccess h
  rw [hstate]
  rfl

end Config

end LinkConfig
