import LinkConfig.Proofs.Numerals
import LinkConfig.Proofs.Session
import Mathlib.Algebra.Group.Nat.Defs

/-! # Where configurations are published

Configurations of both families are published from one pool. A path ends in its number, whatever it
begins with, so that no path is handed out twice before the numbers start again. A configuration
takes a path once, when it is first published. No edit gives it another one, and its clones are
the only configurations that share it.
-/
namespace LinkConfig
open Text

variable {F G : Family} {i j : Nat}

/-- The path ends in a slash and the number. -/
def Numbered (path : String) (n : Nat) : Prop :=
  ∃ stem, path = String.ofList (stem ++ '/' :: decimal n)

namespace Numbered
variable {path : String} {m n : Nat}

theorem of_take (a : PathPool) (F : Family) : Numbered (a.take F).1 a.next.toNat :=
  ⟨a.stem F, by simp [PathPool.take]⟩

/-- No digit is a slash: the number begins after the last one. -/
theorem takeWhile_eq (stem : List Char) (n : Nat) :
    (stem ++ '/' :: decimal n).reverse.takeWhile (· != '/') = (decimal n).reverse := by
  have hdigits : ∀ c ∈ (decimal n).reverse, (c != '/') = true := by
    intro c hc
    rw [bne_iff_ne]
    rintro rfl
    exact not_mem_toDigits (by decide) (by decide) (by decide) n (List.mem_reverse.mp hc)
  rw [List.reverse_append, List.reverse_cons, List.append_assoc,
    List.takeWhile_append_of_pos hdigits]
  simp

theorem unique (hm : Numbered path m) (hn : Numbered path n) : m = n := by
  obtain ⟨s, rfl⟩ := hm
  obtain ⟨t, ht⟩ := hn
  have hdigits : (decimal m).reverse = (decimal n).reverse := by
    rw [← takeWhile_eq s, String.ofList_injective ht, takeWhile_eq]
  have hread := congrArg (readNat 10) (List.reverse_injective hdigits)
  rw [decimal, decimal, readNat_toDigits (by decide) (by decide),
    readNat_toDigits (by decide) (by decide)] at hread
  exact Option.some.inj hread

end Numbered

namespace Edit

/-- The pool that the edit takes a path from. -/
def pool? : Edit F → Option PathPool
  | publish pool => some pool
  | _ => none

end Edit

theorem Config.stepwise_path : Stepwise fun (c : Config F) o => o.config.path = c.path where
  start _ := rfl
  andThen _ h hstep := hstep.trans h
  relog _ h := h
  insertAddress c e := (c.insertAddress_puts e).config ▸ rfl
  insertRoute c r := (c.insertRoute_puts r).config ▸ rfl
  insertNameserver c a := (c.insertNameserver_puts a).config ▸ rfl
  insertDomain c d := (c.insertDomain_puts d).config ▸ rfl
  insertSearch c s := (c.insertSearch_puts s).config ▸ rfl
  dropAddress c e := (c.dropAddress_puts e).config ▸ rfl
  dropRoute c r := (c.dropRoute_puts r).config ▸ rfl
  dropNameserver c a := (c.dropNameserver_puts a).config ▸ rfl
  dropDomain c d := (c.dropDomain_puts d).config ▸ rfl
  dropSearch c s := (c.dropSearch_puts s).config ▸ rfl
  clearRoutes _ := rfl
  clearNameservers _ := rfl
  clearDomains _ := rfl
  clearSearches _ := rfl
  setGateway _ _ := rfl
  setNeverDefault _ _ := rfl
  setMss _ _ := rfl

namespace Edit
variable {e : Edit F} {c : Config F} {o : Outcome F}

theorem path_apply (h : e.apply c = some o) (he : e.pool? = none) : o.config.path = c.path := by
  have hstep := Config.stepwise_path (F := F)
  cases e with
  | insertAddress entry => cases h; exact hstep.insertAddress c entry
  | insertRoute route => cases h; exact hstep.insertRoute c route
  | insertNameserver address => cases h; exact hstep.insertNameserver c address
  | insertDomain domain => cases h; exact hstep.insertDomain c domain
  | insertSearch search => cases h; exact hstep.insertSearch c search
  | removeAddress i => exact (Config.removeAddress_puts h).config ▸ rfl
  | removeRoute i => exact (Config.removeRoute_puts h).config ▸ rfl
  | removeNameserver i => exact (Config.removeNameserver_puts h).config ▸ rfl
  | removeDomain i => exact (Config.removeDomain_puts h).config ▸ rfl
  | removeSearch i => exact (Config.removeSearch_puts h).config ▸ rfl
  | clearAddresses | clearRoutes | clearNameservers | clearDomains | clearSearches | setGateway _
  | setNeverDefault _ | setMss _ | setPrivacy _ | sortAddresses =>
    cases h
    rfl
  | applySetting setting metric => cases h; exact hstep.applySetting c setting metric
  | merge src => cases h; exact hstep.merge c src
  | withdraw src => cases h; exact hstep.withdraw c src
  | replaceBy src =>
    cases h
    rw [Config.Replacement.config_outcome, Config.config_replaceBy]
  | publish pool => contradiction

end Edit

namespace Move
variable {m : Move F} {cs cs' : List (Config F)} {c : Config F}

/-- The pool that the move takes a path from. -/
def pool? : Move F → Option PathPool
  | edit _ e => e.pool?
  | _ => none

theorem path_apply (h : m.apply cs = some cs') (hm : m.pool? = none) (hc : cs[i]? = some c) :
    ∃ c', cs'[i]? = some c' ∧ c'.path = c.path := by
  have hi : i < cs.length := (List.getElem?_eq_some_iff.mp hc).1
  have hold (new : List (Config F)) : (cs ++ new)[i]? = some c := by
    rw [List.getElem?_append_left hi, hc]
  cases m with
  | create privacy => cases h; exact ⟨c, hold _, rfl⟩
  | clone j =>
    obtain ⟨b, -, rfl⟩ := Option.map_eq_some_iff.mp h
    exact ⟨c, hold _, rfl⟩
  | capture answers link resolver privacy => cases h; exact ⟨c, hold _, rfl⟩
  | edit j e =>
    obtain ⟨b, hb, h⟩ := Option.bind_eq_some_iff.mp h
    obtain ⟨_, -, h⟩ := Option.bind_eq_some_iff.mp h
    obtain ⟨o, ho, h⟩ := Option.bind_eq_some_iff.mp h
    cases h
    by_cases hj : j = i
    · subst hj
      rw [hb] at hc
      cases hc
      exact ⟨o.config, List.getElem?_set_self hi, Edit.path_apply ho hm⟩
    · exact ⟨c, by rw [List.getElem?_set_ne hj, hc], rfl⟩

end Move

/-- A path that was handed out, and the configuration that took it, if one did. -/
structure Grant where
  family : Family
  holder : Option Nat
  path : String
deriving DecidableEq

/-- The configurations of both families, the pool that all of them are published from, and what was
handed out of it so far. -/
structure Registry where
  pool : PathPool := {}
  configs : (F : Family) → List (Config F) := fun _ => []
  grants : List Grant := []

namespace Registry

inductive Step where
  /-- A path is taken for something else. -/
  | take (F : Family)
  | publish (F : Family) (i : Nat)
  /-- A move that takes no path. -/
  | move (F : Family) (m : Move F)

def withConfigs (r : Registry) (F : Family) (cs : List (Config F)) : Registry :=
  { r with configs := Function.update r.configs F cs }

def apply (r : Registry) : Step → Option Registry
  | .take F =>
    let (path, pool) := r.pool.take F
    some { r with pool, grants := r.grants ++ [⟨F, none, path⟩] }
  | .publish F i => do
    let c ← (r.configs F)[i]?
    let (c', pool) := c.publish r.pool
    let granted := if c.path.isNone then c'.path.toList.map (Grant.mk F (some i)) else []
    return { r.withConfigs F ((r.configs F).set i c') with pool, grants := r.grants ++ granted }
  | .move F m => do
    guard m.pool?.isNone
    let cs ← m.apply (r.configs F)
    return r.withConfigs F cs

/-- The registry after the steps, unless one of them cannot be made. -/
def after (r : Registry) (steps : List Step) : Option Registry := steps.foldlM apply r

/-- Where a configuration is published. -/
def pathOf (r : Registry) (F : Family) (i : Nat) : Option String :=
  (r.configs F)[i]?.bind Config.path

variable {r r' : Registry} {step : Step} {c : Config F}

@[simp] theorem configs_withConfigs_self (r : Registry) (cs : List (Config F)) :
    (r.withConfigs F cs).configs F = cs := by
  simp [withConfigs]

theorem configs_withConfigs_of_ne (r : Registry) (cs : List (Config F)) (h : G ≠ F) :
    (r.withConfigs F cs).configs G = r.configs G := by
  simp [withConfigs, h]

theorem withConfigs_self (r : Registry) (F : Family) : r.withConfigs F (r.configs F) = r := by
  rw [withConfigs, Function.update_eq_self]

theorem apply_publish_of_some {path : String} (hc : (r.configs F)[i]? = some c)
    (hpath : c.path = some path) : r.apply (.publish F i) = some r := by
  have hset : (r.configs F).set i c = r.configs F := by
    obtain ⟨hi, rfl⟩ := List.getElem?_eq_some_iff.mp hc
    exact List.set_getElem_self hi
  simp [apply, hc, Config.publish, hpath, hset, withConfigs_self]

theorem apply_publish_of_none (hc : (r.configs F)[i]? = some c) (hpath : c.path = none) :
    r.apply (.publish F i) = some
      { r.withConfigs F ((r.configs F).set i { c with path := some (r.pool.take F).1 }) with
        pool := (r.pool.take F).2
        grants := r.grants ++ [⟨F, some i, (r.pool.take F).1⟩] } := by
  simp [apply, hc, Config.publish, hpath]

/-- A configuration keeps its path, and stays without one as long as it is not published itself. -/
theorem path_apply (h : r.apply step = some r') (hc : (r.configs F)[i]? = some c) :
    ∃ c', (r'.configs F)[i]? = some c' ∧
      (c.path.isSome ∨ step ≠ .publish F i → c'.path = c.path) := by
  cases step with
  | take G => cases h; exact ⟨c, hc, fun _ => rfl⟩
  | publish G j =>
    obtain ⟨b, hb, -⟩ := Option.bind_eq_some_iff.mp h
    cases hpath : b.path with
    | some path =>
      rw [apply_publish_of_some hb hpath] at h
      cases h
      exact ⟨c, hc, fun _ => rfl⟩
    | none =>
      rw [apply_publish_of_none hb hpath] at h
      cases h
      by_cases hG : F = G
      · subst hG
        rw [configs_withConfigs_self]
        by_cases hj : j = i
        · subst hj
          rw [hb] at hc
          cases hc
          refine ⟨_, List.getElem?_set_self (List.getElem?_eq_some_iff.mp hb).1, fun hkeep => ?_⟩
          simp [hpath] at hkeep
        · exact ⟨c, by rw [List.getElem?_set_ne hj, hc], fun _ => rfl⟩
      · exact ⟨c, by rw [configs_withConfigs_of_ne r _ hG, hc], fun _ => rfl⟩
  | move G m =>
    obtain ⟨_, hguard, h⟩ := Option.bind_eq_some_iff.mp h
    obtain ⟨cs, hcs, h⟩ := Option.bind_eq_some_iff.mp h
    cases h
    by_cases hG : F = G
    · subst hG
      have hm : m.pool? = none := by simpa [guard] using hguard
      obtain ⟨c', hc', hpath⟩ := Move.path_apply hcs hm hc
      exact ⟨c', by simpa using hc', fun _ => hpath⟩
    · exact ⟨c, by rw [configs_withConfigs_of_ne r cs hG, hc], fun _ => rfl⟩

theorem path_after {steps : List Step} (h : r.after steps = some r')
    (hc : (r.configs F)[i]? = some c) :
    ∃ c', (r'.configs F)[i]? = some c' ∧
      (c.path.isSome ∨ .publish F i ∉ steps → c'.path = c.path) := by
  induction steps generalizing r c with
  | nil => cases h; exact ⟨c, hc, fun _ => rfl⟩
  | cons step steps ih =>
    obtain ⟨s, hs, hrest⟩ := Option.bind_eq_some_iff.mp h
    obtain ⟨d, hd, hstep⟩ := path_apply hs hc
    obtain ⟨c', hc', hsteps⟩ := ih hrest hd
    refine ⟨c', hc', ?_⟩
    rintro (hsome | hmem)
    · have hkept := hstep (.inl hsome)
      rw [hsteps (.inl (hkept ▸ hsome)), hkept]
    · rw [List.mem_cons, not_or] at hmem
      rw [hsteps (.inr hmem.2), hstep (.inr (Ne.symm hmem.1))]

/-- A step hands out nothing, or the next path of the pool. -/
theorem grants_apply (h : r.apply step = some r') :
    r'.pool = r.pool ∧ r'.grants = r.grants ∨
      ∃ F holder, r'.pool = (r.pool.take F).2 ∧
        r'.grants = r.grants ++ [⟨F, holder, (r.pool.take F).1⟩] ∧
        ∀ i, holder = some i → r'.pathOf F i = some (r.pool.take F).1 := by
  cases step with
  | take F => cases h; exact .inr ⟨F, none, rfl, rfl, nofun⟩
  | publish F i =>
    obtain ⟨c, hc, -⟩ := Option.bind_eq_some_iff.mp h
    cases hpath : c.path with
    | some path =>
      rw [apply_publish_of_some hc hpath] at h
      cases h
      exact .inl ⟨rfl, rfl⟩
    | none =>
      rw [apply_publish_of_none hc hpath] at h
      cases h
      refine .inr ⟨F, some i, rfl, rfl, fun j hj => ?_⟩
      cases hj
      simp [pathOf, List.getElem?_set_self (List.getElem?_eq_some_iff.mp hc).1]
  | move F m =>
    obtain ⟨_, -, h⟩ := Option.bind_eq_some_iff.mp h
    obtain ⟨cs, -, h⟩ := Option.bind_eq_some_iff.mp h
    cases h
    exact .inl ⟨rfl, rfl⟩

/-- The paths are numbered in the order in which they were handed out, and whoever took one is
published there. -/
structure Orderly (r : Registry) : Prop where
  next : r.pool.next = UInt32.ofNat r.grants.length
  numbered : ∀ k g, r.grants[k]? = some g → Numbered g.path (k % 2 ^ 32)
  held : ∀ g ∈ r.grants, ∀ i, g.holder = some i → r.pathOf g.family i = some g.path

namespace Orderly

theorem empty (root : Option String) : Orderly { pool := { root } } where
  next := rfl
  numbered := by simp
  held := by simp

theorem pathOf_apply {path : String} (h : r.apply step = some r')
    (hpath : r.pathOf F i = some path) : r'.pathOf F i = some path := by
  obtain ⟨c, hc, hcpath⟩ := Option.bind_eq_some_iff.mp hpath
  obtain ⟨c', hc', hkept⟩ := path_apply h hc
  have hsome : c.path.isSome := by simp [hcpath]
  rw [pathOf, hc', Option.bind_some, hkept (.inl hsome), hcpath]

theorem apply (hr : r.Orderly) (h : r.apply step = some r') : r'.Orderly := by
  have hheld : ∀ g ∈ r.grants, ∀ i, g.holder = some i → r'.pathOf g.family i = some g.path :=
    fun g hg i hi => pathOf_apply h (hr.held g hg i hi)
  rcases grants_apply h with ⟨hpool, hgrants⟩ | ⟨F, holder, hpool, hgrants, hholder⟩
  · refine ⟨?next, ?numbered, ?held⟩
    case next => rw [hpool, hgrants, hr.next]
    case numbered => rw [hgrants]; exact hr.numbered
    case held => rw [hgrants]; exact hheld
  · refine ⟨?next, ?numbered, ?held⟩
    case next =>
      rw [hpool, hgrants, List.length_append, UInt32.ofNat_add, ← hr.next]
      rfl
    case numbered =>
      intro k g hk
      rw [hgrants, List.getElem?_append] at hk
      split at hk
      · exact hr.numbered k g hk
      · rw [List.getElem?_singleton] at hk
        split at hk
        · cases hk
          have hlast : k = r.grants.length := by omega
          have hnumbered := Numbered.of_take r.pool F
          rwa [hr.next, UInt32.toNat_ofNat', ← hlast] at hnumbered
        · contradiction
    case held =>
      intro g hg i hi
      rw [hgrants] at hg
      rcases List.mem_append.mp hg with hg | hg
      · exact hheld g hg i hi
      · rw [List.mem_singleton.mp hg] at hi ⊢
        exact hholder i hi

theorem after {steps : List Step} (hr : r.Orderly) (h : r.after steps = some r') : r'.Orderly := by
  induction steps generalizing r with
  | nil => cases h; exact hr
  | cons step steps ih =>
    obtain ⟨s, hs, hrest⟩ := Option.bind_eq_some_iff.mp h
    exact ih (hr.apply hs) hrest

theorem nodup_paths (hr : r.Orderly) (hcount : r.grants.length ≤ 2 ^ 32) :
    (r.grants.map Grant.path).Nodup := by
  rw [List.nodup_iff_getElem?_ne_getElem?]
  intro m n hmn hn he
  rw [List.length_map] at hn
  have hm : m < r.grants.length := Nat.lt_trans hmn hn
  rw [List.getElem?_map, List.getElem?_map, List.getElem?_eq_getElem hm,
    List.getElem?_eq_getElem hn, Option.map_some, Option.map_some, Option.some_inj] at he
  have hfirst := hr.numbered m _ (List.getElem?_eq_getElem hm)
  have hsecond := hr.numbered n _ (List.getElem?_eq_getElem hn)
  have hsame := hfirst.unique (he ▸ hsecond)
  omega

end Orderly

/-- Configurations of both families are published from one pool, which numbers at most as many paths
as there are numbers. No two of the paths are equal. A configuration has the path it took when it
was first published, and takes no other one; until then it has none of its own. Two configurations
that each took a path are published at different places. -/
theorem paths_distinct_and_kept {root : Option String} {steps : List Step} {r : Registry}
    (h : after { pool := { root } } steps = some r) (hcount : r.grants.length ≤ 2 ^ 32) :
    (r.grants.map Grant.path).Nodup ∧
      (∀ later r', r.after later = some r' → ∀ F i c, (r.configs F)[i]? = some c →
        ∃ c', (r'.configs F)[i]? = some c' ∧
          (c.path.isSome ∨ .publish F i ∉ later → c'.path = c.path)) ∧
      (∀ F i c, (r.configs F)[i]? = some c → ∃ r', r.apply (.publish F i) = some r' ∧
        (c.path.isSome → r' = r) ∧
        (c.path = none → ∃ path, r'.pathOf F i = some path ∧
          r'.grants = r.grants ++ [⟨F, some i, path⟩])) ∧
      (∀ g ∈ r.grants, ∀ i, g.holder = some i → r.pathOf g.family i = some g.path) ∧
      ∀ g ∈ r.grants, ∀ g' ∈ r.grants, ∀ i i', g.holder = some i → g'.holder = some i' →
        (g.family, i) ≠ (g'.family, i') → r.pathOf g.family i ≠ r.pathOf g'.family i' := by
  have hr := (Orderly.empty root).after h
  have hnodup := hr.nodup_paths hcount
  refine ⟨hnodup, fun later r' h F i c hc => path_after h hc, ?publishing, hr.held, ?holders⟩
  case publishing =>
    intro F i c hc
    cases hpath : c.path with
    | some path => exact ⟨r, apply_publish_of_some hc hpath, fun _ => rfl, nofun⟩
    | none =>
      refine ⟨_, apply_publish_of_none hc hpath, nofun, fun _ => ⟨_, ?_, rfl⟩⟩
      simp [pathOf, List.getElem?_set_self (List.getElem?_eq_some_iff.mp hc).1]
  case holders =>
    intro g hg g' hg' i i' hi hi' hne hpath
    rw [hr.held g hg i hi, hr.held g' hg' i' hi', Option.some_inj] at hpath
    obtain rfl := List.inj_on_of_nodup_map hnodup hg hg' hpath
    rw [hi, Option.some_inj] at hi'
    exact hne (by rw [hi'])

/-- A clone shares the path of what it was cloned from. A configuration of its own does not come to
share it by being made equal to the clone. -/
def clonedAndReplaced : List Step :=
  let cloned : Config .v4 := { privacy := .preferPublic, path := some "/net/example/1" }
  [.move .v4 (.create .preferPublic), .take .v6, .publish .v4 0, .move .v4 (.clone 0),
    .move .v6 (.create .unknown), .publish .v6 0, .move .v4 (.create .unknown), .publish .v4 2,
    .publish .v4 1, .move .v4 (.edit 2 (.replaceBy cloned))]

/-- What these steps hand out: nothing to the clone, nor to what is published already. -/
def grantsOfClones : List Grant :=
  [⟨.v6, none, "/net/example/0"⟩, ⟨.v4, some 0, "/net/example/1"⟩,
    ⟨.v6, some 0, "/net/example/2"⟩, ⟨.v4, some 2, "/net/example/3"⟩]

theorem paths_distinct_and_kept_clonedAndReplaced :
    ∃ r, after { pool := { root := some "/net/example//" } } clonedAndReplaced = some r ∧
      r.grants = grantsOfClones ∧ (r.grants.map Grant.path).Nodup ∧
      r.pathOf .v4 1 = some "/net/example/1" ∧ r.pathOf .v4 2 = some "/net/example/3" ∧
      r.pathOf .v4 0 ≠ r.pathOf .v4 2 := by
  have hrun : ∃ r, after { pool := { root := some "/net/example//" } } clonedAndReplaced = some r ∧
      r.grants = grantsOfClones ∧ r.pathOf .v4 1 = some "/net/example/1" :=
    ⟨_, rfl, by decide, by decide⟩
  obtain ⟨r, hr, hgrants, hclone⟩ := hrun
  obtain ⟨hnodup, -, -, hheld, hholders⟩ := paths_distinct_and_kept hr (by rw [hgrants]; decide)
  rw [hgrants] at hheld hholders
  have hzero : (⟨.v4, some 0, "/net/example/1"⟩ : Grant) ∈ grantsOfClones := by decide
  have htwo : (⟨.v4, some 2, "/net/example/3"⟩ : Grant) ∈ grantsOfClones := by decide
  exact ⟨r, hr, hgrants, hnodup, hclone, hheld _ htwo 2 rfl,
    hholders _ hzero _ htwo 0 2 rfl rfl (by decide)⟩

end Registry

end LinkConfig
