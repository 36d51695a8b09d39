import LinkConfig.Platform.Journal
import LinkConfig.Proofs.RefusedWrites

/-! # The last write to a link

The state of a table that was empty at first can be told from its journal. A link is known from the
first change that adds it on until it is erased, and has the tables and the master that were last
given to it in that time. Writes are refused while they are switched off and to unknown links; what
is done to one link has no bearing on another.
-/
namespace LinkConfig.LinkTable

variable {F : Family}

theorem modify_eq_update {t : LinkTable F} {i : UInt32} (h : t.Accepts i) (f : Link F → Link F) :
    t.modify i f = t.update i f := by
  obtain ⟨l, hl⟩ := Option.isSome_iff_exists.mp h.2
  simp [modify, update, alter, hl]

namespace Change

/-- The change adds the link if it is unknown. -/
def adds : Change F → Bool
  | insert | enslave _ | putAddresses _ | putRoutes _ => true
  | erase | writeAddresses _ | writeRoutes _ => false

def isWrite : Change F → Bool
  | writeAddresses _ | writeRoutes _ => true
  | _ => false

def master? : Change F → Option UInt32
  | enslave master => some master
  | _ => none

def addresses? : Change F → Option (List (AddressEntry F))
  | putAddresses addresses | writeAddresses addresses => some addresses
  | _ => none

def routes? : Change F → Option (List (Route F))
  | putRoutes routes | writeRoutes routes => some routes
  | _ => none

/-- What the link is after the change was made. -/
def effect (l : Option (Link F)) : Change F → Option (Link F)
  | insert => some (l.getD {})
  | enslave master => some { l.getD {} with master := some master }
  | erase => none
  | putAddresses addresses | writeAddresses addresses => some { l.getD {} with addresses }
  | putRoutes routes | writeRoutes routes => some { l.getD {} with routes }

variable {t : LinkTable F} {i : UInt32} {change : Change F} {l : Option (Link F)}

/-- The change is made, and not refused. -/
def Fits (t : LinkTable F) (i : UInt32) (change : Change F) : Prop := change.isWrite → t.Accepts i

theorem make_of_fits (h : change.Fits t i) :
    change.make t i = .done (t.alter i fun l => change.effect l) := by
  cases change with
  | insert | enslave _ | erase | putAddresses _ | putRoutes _ => rfl
  | writeAddresses _ | writeRoutes _ =>
    exact (write_of_accepts (h rfl)).trans (congrArg _ (modify_eq_update (h rfl) _))

theorem make_of_not_fits (h : ¬ change.Fits t i) :
    ∃ fault, change.make t i = .refused t fault := by
  cases change with
  | insert | enslave _ | erase | putAddresses _ | putRoutes _ => exact absurd nofun h
  | writeAddresses _ | writeRoutes _ =>
    exact write_of_not_accepts fun haccepts => h fun _ => haccepts

/-- The changes, the latest first, account for all that is known of the link. -/
structure Accounts (changes : List (Change F)) (l : Option (Link F)) : Prop where
  isSome : l.isSome = changes.any adds
  master : l.bind Link.master = changes.findSome? master?
  addresses : l.elim [] Link.addresses = (changes.findSome? addresses?).getD []
  routes : l.elim [] Link.routes = (changes.findSome? routes?).getD []

theorem accounts_nil : Accounts (F := F) [] none := ⟨rfl, rfl, rfl, rfl⟩

theorem Accounts.effect {changes : List (Change F)} (h : Accounts changes l)
    (hwrite : change.isWrite → l.isSome) (herase : change ≠ .erase) :
    Accounts (change :: changes) (change.effect l) := by
  obtain ⟨hsome, hmaster, haddresses, hroutes⟩ := h
  cases change with
  | erase => contradiction
  | insert => cases l <;> exact ⟨rfl, hmaster, haddresses, hroutes⟩
  | enslave master => cases l <;> exact ⟨rfl, rfl, haddresses, hroutes⟩
  | putAddresses addresses => cases l <;> exact ⟨rfl, hmaster, rfl, hroutes⟩
  | putRoutes routes => cases l <;> exact ⟨rfl, hmaster, haddresses, rfl⟩
  | writeAddresses addresses =>
    obtain ⟨l, rfl⟩ := Option.isSome_iff_exists.mp (hwrite rfl)
    exact ⟨hsome, hmaster, rfl, hroutes⟩
  | writeRoutes routes =>
    obtain ⟨l, rfl⟩ := Option.isSome_iff_exists.mp (hwrite rfl)
    exact ⟨hsome, hmaster, haddresses, rfl⟩

end Change

namespace Command

def change? (i : UInt32) : Command F → Option (Change F)
  | on j change => if j = i then some change else none
  | _ => none

def refusesReads? : Command F → Option Bool
  | refuseReads refuse => some refuse
  | _ => none

def refusesWrites? : Command F → Option Bool
  | refuseWrites refuse => some refuse
  | _ => none

/-- The command may have to do with the link. -/
def concerns (i : UInt32) : Command F → Bool
  | on j _ => j == i
  | _ => true

end Command

namespace Journal
variable {s s' : Journal F} {i j : UInt32} {change : Change F} {c : Command F}

/-- The changes to the link since it was last erased, the latest first. -/
def since (s : Journal F) (i : UInt32) : List (Change F) :=
  (s.done.filterMap (Command.change? i)).takeWhile (· ≠ .erase)

/-- The last command on reads says that they are refused. -/
def refusesReads (s : Journal F) : Bool := (s.done.findSome? Command.refusesReads?).getD false

def refusesWrites (s : Journal F) : Bool := (s.done.findSome? Command.refusesWrites?).getD false

theorem since_on_self (t : LinkTable F) (done : List (Command F)) :
    since ⟨t, .on i change :: done⟩ i =
      if change = .erase then [] else change :: since ⟨t, done⟩ i := by
  by_cases h : change = .erase <;> simp [since, Command.change?, h]

theorem since_on_of_ne (t : LinkTable F) (done : List (Command F)) (h : j ≠ i) :
    since ⟨t, .on i change :: done⟩ j = since ⟨t, done⟩ j := by
  simp [since, Command.change?, h.symm]

theorem perform_of_fits (h : change.Fits s.table i) :
    s.perform (.on i change) =
      ⟨s.table.alter i fun l => change.effect l, .on i change :: s.done⟩ := by
  rw [perform, Command.carryOut, Change.make_of_fits h]
  rfl

theorem perform_of_not_fits (h : ¬ change.Fits s.table i) : s.perform (.on i change) = s := by
  obtain ⟨fault, hfault⟩ := Change.make_of_not_fits h
  rw [perform, Command.carryOut, hfault]
  rfl

/-- The state of the table can be told from what was done. -/
structure Tells (s : Journal F) : Prop where
  links : ∀ i, Change.Accounts (s.since i) (s.table.link? i)
  reads : s.table.refusesReads = s.refusesReads
  writes : s.table.refusesWrites = s.refusesWrites

theorem Tells.perform (hs : s.Tells) (c : Command F) : (s.perform c).Tells := by
  cases c with
  | refuseReads refuse => exact { hs with reads := rfl }
  | refuseWrites refuse => exact { hs with writes := rfl }
  | on i change =>
    by_cases hfits : change.Fits s.table i
    · rw [perform_of_fits hfits]
      refine { hs with links := fun j => ?_ }
      by_cases hj : j = i
      · subst hj
        rw [since_on_self, link?_alter_self]
        split
        next herase =>
          subst herase
          exact Change.accounts_nil
        next herase => exact (hs.links j).effect (fun hwrite => (hfits hwrite).2) herase
      · rw [since_on_of_ne _ _ hj, link?_alter_of_ne _ hj]
        exact hs.links j
    · rw [perform_of_not_fits hfits]
      exact hs

/-- What a read answers, if the link is known and has `a` to tell. -/
def answer {α : Type} (s : Journal F) (i : UInt32) (name : String) (a : α) : Except Fault α :=
  if s.refusesReads then .error (.operation name "read refused")
  else if (s.since i).any Change.adds then .ok a else .error (.linkNotFound i)

theorem Tells.read {α : Type} (hs : s.Tells) {name : String} {f : Link F → α} {a : α}
    (ha : ∀ l, s.table.link? i = some l → f l = a) :
    s.table.read i name f = s.answer i name a := by
  unfold LinkTable.read LinkTable.known answer
  rw [hs.reads, ← (hs.links i).isSome]
  cases hl : s.table.link? i with
  | none => rfl
  | some l =>
    rw [← ha l hl]
    rfl

/-- The tables answer alike what is asked about the link. -/
structure AgreesOn (i : UInt32) (t t' : LinkTable F) : Prop where
  link : t.link? i = t'.link? i
  reads : t.refusesReads = t'.refusesReads
  writes : t.refusesWrites = t'.refusesWrites

theorem AgreesOn.perform (h : AgreesOn i s.table s'.table) (hc : c.concerns i) :
    AgreesOn i (s.perform c).table (s'.perform c).table := by
  cases c with
  | refuseReads refuse => exact { h with reads := rfl }
  | refuseWrites refuse => exact { h with writes := rfl }
  | on j change =>
    obtain rfl : j = i := by simpa [Command.concerns] using hc
    have hfits : change.Fits s.table j ↔ change.Fits s'.table j := by
      rw [Change.Fits, Change.Fits, Accepts, Accepts, h.writes, h.link]
    by_cases hs : change.Fits s.table j
    · rw [perform_of_fits hs, perform_of_fits (hfits.mp hs)]
      refine { h with link := ?_ }
      rw [link?_alter_self, link?_alter_self, h.link]
    · rw [perform_of_not_fits hs, perform_of_not_fits (mt hfits.mpr hs)]
      exact h

end Journal

end LinkConfig.LinkTable
