import LinkConfig.Proofs.DefaultRoutes
import LinkConfig.Proofs.InOrder
import Mathlib.Data.List.MinMax

/-! # Reading back what was written

A link that a configuration was written to is captured with the addresses as they were and, of the
routes that were written, those that are not folded into the gateway. Since a gateway is not
written, it is missing when the link is captured a second time. Nothing else is, and from then on
the link does not change.
-/
namespace LinkConfig

variable {F : Family}

/-- The preferred default route is the first of those with the least metric. -/
theorem Route.preferredDefault_eq_argmin (routes : List (Route F)) :
    preferredDefault routes = (routes.filter isDefault).argmin (·.metric.toNat) := by
  have hprefer : prefer (F := F) = List.argAux fun r b => r.metric.toNat < b.metric.toNat := by
    funext best r
    cases best <;> rfl
  change (routes.filter isDefault).foldl prefer none = _
  rw [hprefer]
  rfl

namespace LinkTable

/-- The configuration of the link, for which no resolver is asked. -/
def captured (t : LinkTable F) (i : UInt32) (privacy : Privacy) : Option (Config F) :=
  (Config.capture (platform.answers t i) i none privacy).1

/-- The link is known and belongs to no other, and neither reads nor writes are refused. -/
structure Serves (t : LinkTable F) (i : UInt32) : Prop where
  link : ∃ l, t.link? i = some l ∧ l.master = none
  reads : t.refusesReads = false
  writes : t.refusesWrites = false

theorem Serves.accepts {t : LinkTable F} {i : UInt32} (ht : t.Serves i) : t.Accepts i := by
  obtain ⟨l, hl, -⟩ := ht.link
  exact ⟨ht.writes, by rw [hl, Option.isSome_some]⟩

end LinkTable

namespace Config
open LinkTable

variable {c d : Config F} {t : LinkTable F} {i : UInt32} {l : Link F}

theorem isSuccess_commit (ht : t.Serves i) : (c.commit platform t i).isSuccess :=
  (commit_of_accepts ht.accepts c).1

theorem state_commit (ht : t.Serves i) (hl : t.link? i = some l) :
    (c.commit platform t i).state =
      t.alter i fun _ => some { l with addresses := c.addresses, routes := c.routesToWrite } :=
  (commit_of_accepts ht.accepts c).2.trans (modify_of_link? hl _)

theorem serves_commit (ht : t.Serves i) : (c.commit platform t i).state.Serves i := by
  obtain ⟨l, hl, hmaster⟩ := ht.link
  rw [state_commit ht hl]
  exact ⟨⟨_, link?_alter_self t i _, hmaster⟩, ht.reads, ht.writes⟩

/-- Writing the same tables once more does not change the links. -/
theorem state_commit_commit (ht : t.Serves i) (haddresses : d.addresses = c.addresses)
    (hroutes : d.routesToWrite = c.routesToWrite) :
    (d.commit platform (c.commit platform t i).state i).state = (c.commit platform t i).state := by
  obtain ⟨l, hl, -⟩ := ht.link
  have hserves := serves_commit (c := c) ht
  rw [state_commit ht hl] at hserves ⊢
  rw [state_commit hserves (link?_alter_self t i _), alter_alter, haddresses, hroutes]
  rfl

/-- What is captured of a link that the configuration was written to. -/
def readBack (c : Config F) : Config F where
  addresses := c.addresses
  routes := c.routesToWrite.filter (!·.isFolded c.routesToWrite)
  gateway := ((Route.preferredDefault c.routesToWrite).map Route.gateway).bind Address.specified?
  privacy := c.privacy

theorem captured_commit (ht : t.Serves i) (hc : c.InOrder) :
    (c.commit platform t i).state.captured i c.privacy = some c.readBack := by
  obtain ⟨l, hl, hmaster⟩ := ht.link
  have hsuccess : (c.commit platform t i).isSuccess := isSuccess_commit ht
  obtain ⟨l', hl', hanswers⟩ := answers_of_isSuccess ht.reads hsuccess
  rw [hl] at hl'
  cases hl'
  have hfree : ¬ (LinkAnswers.isEnslaved
      ⟨.ok l.master.isSome, .ok c.addresses, .ok c.routesToWrite⟩ : Bool) := by
    simp [LinkAnswers.isEnslaved, hmaster, Except.toOption]
  rw [captured, hanswers, capture_eq, if_neg hfree]
  simp only [LinkAnswers.addressTable, LinkAnswers.routeTable, Except.toOption, Option.getD_some,
    ite_self, imports, List.foldl_nil, hc.sort_eq]
  rfl

theorem mem_routes_readBack {r : Route F} (h : r ∈ c.readBack.routes) :
    r ∈ c.routesToWrite ∧ r.isDefault = false := by
  obtain ⟨hr, hkept⟩ := List.mem_filter.mp h
  rw [Route.isFolded, Bool.not_or, Bool.and_eq_true, Bool.not_eq_true'] at hkept
  exact ⟨hr, hkept.1⟩

/-- What was written once is written again: it still has a gateway or leads beyond the prefixes of
the addresses, which are the same. -/
theorem routesToWrite_readBack (c : Config F) :
    c.readBack.routesToWrite = c.readBack.routes := by
  refine List.filter_eq_self.mpr fun r hr => ?_
  obtain ⟨-, hneeded, -⟩ := mem_routesToWrite_iff.mp (mem_routes_readBack hr).1
  have hdirect : c.readBack.isDirect r.network r.prefixLen = c.isDirect r.network r.prefixLen := rfl
  rw [writes, hdirect]
  simpa [readBack] using hneeded

theorem readBack_readBack (c : Config F) :
    c.readBack.readBack = { c.readBack with gateway := none } := by
  have hdefault : ∀ r ∈ c.readBack.routes, r.isDefault = false :=
    fun r hr => (mem_routes_readBack hr).2
  have hnone := Route.preferredDefault_eq_none_iff.mpr hdefault
  have hkept := Route.filter_isFolded_eq_self_iff.mpr hdefault
  rw [readBack, routesToWrite_readBack, hnone, hkept]
  rfl

/-- A configuration of any session, written to a link and captured from it, is the one that was
written, with its default routes folded into the gateway and without what is not part of the
tables. Writing and capturing that one loses the gateway and nothing else; writing the result
changes nothing. -/
theorem captured_commit_commit {ms : List (Move F)} {cs : List (Config F)}
    (hrun : Move.run ms = some cs) (hc : c ∈ cs) (ht : t.Serves i) :
    ∃ c₁ : Config F,
      let best := (c.routesToWrite.filter Route.isDefault).argmin (·.metric.toNat)
      let first := c.commit platform t i
      let second := c₁.commit platform first.state i
      let third := Config.commit { c₁ with gateway := none } platform second.state i
      first.isSuccess ∧ first.state.captured i c.privacy = some c₁ ∧
        c₁.addresses = c.addresses ∧
        c₁.gateway = best.bind (·.gateway.specified?) ∧
        c₁.routes = c.routesToWrite.filter (fun r =>
          !r.isDefault && best.all fun b => !r.leadsTo b.gateway) ∧
        second.isSuccess ∧
        second.state.captured i c.privacy = some { c₁ with gateway := none } ∧
        third.isSuccess ∧ third.state = second.state := by
  have horder := Move.inOrder_of_run hrun c hc
  have hfirst := serves_commit (c := c) ht
  have hsecond := serves_commit (c := c.readBack) hfirst
  refine ⟨c.readBack, isSuccess_commit ht, captured_commit ht horder, rfl, ?gateway, ?routes,
    isSuccess_commit hfirst, ?second, isSuccess_commit hsecond, ?third⟩
  case gateway =>
    rw [readBack, Route.preferredDefault_eq_argmin, Option.bind_map]
    rfl
  case routes =>
    rw [readBack]
    refine List.filter_congr fun r _ => ?_
    rw [Route.isFolded, Bool.not_or, Route.preferredDefault_eq_argmin]
    cases (c.routesToWrite.filter Route.isDefault).argmin (·.metric.toNat) <;> rfl
  case second =>
    rw [← readBack_readBack]
    exact captured_commit hfirst horder
  case third => exact state_commit_commit hfirst rfl rfl

/-- Half of all addresses are behind a peer, which is told to be on the link. The default route
itself is left out. -/
def peerRoutes : Config .v4 :=
  { addresses := [{ address := ⟨0x0a080001⟩, prefixLen := 32, flags := Flag.temporary },
      { address := ⟨0x0a080002⟩, prefixLen := 32 }]
    routes := [.everywhere ⟨0x0a0000fe⟩ 10,
      { network := ⟨0⟩, prefixLen := 1, gateway := ⟨0x0a000001⟩, metric := 20 },
      { network := ⟨0x0a000001⟩, prefixLen := 32 },
      { network := ⟨0xc0a80000⟩, prefixLen := 16, gateway := ⟨0x0a000001⟩ }]
    neverDefault := true, privacy := .preferTemporary }

/-- The temporary address comes last, and is moved to the front. -/
def peerMoves : List (Move .v4) :=
  [.create .preferTemporary] ++
    peerRoutes.addresses.reverse.map (fun e => .edit 0 (.insertAddress e)) ++
    peerRoutes.routes.map (fun r => .edit 0 (.insertRoute r)) ++
    [.edit 0 (.setNeverDefault true)]

theorem captured_commit_commit_peerRoutes :
    let t := (({} : LinkTable .v4).insert 3).enslave 4 3
    let first := peerRoutes.commit platform t 3
    Move.run peerMoves = some [peerRoutes] ∧ t.Serves 3 ∧ first.isSuccess ∧
      ∃ c₁ : Config .v4,
        let second := c₁.commit platform first.state 3
        first.state.captured 3 .preferTemporary = some c₁ ∧
          c₁.gateway = some ⟨0x0a000001⟩ ∧ c₁.routes = peerRoutes.routes.drop 3 ∧
          second.state.captured 3 .preferTemporary = some { c₁ with gateway := none } := by
  intro t first
  have hrun : Move.run peerMoves = some [peerRoutes] := rfl
  have ht : t.Serves 3 := ⟨⟨{}, rfl, rfl⟩, rfl, rfl⟩
  obtain ⟨c₁, hsuccess, hcaptured, -, hgateway, hroutes, -, hagain, -⟩ :=
    captured_commit_commit hrun (List.mem_singleton_self peerRoutes) ht
  refine ⟨hrun, ht, hsuccess, c₁, hcaptured, ?_, ?_, hagain⟩
  · rw [hgateway]
    decide
  · rw [hroutes]
    decide

end Config

end LinkConfig
