import LinkConfig.Proofs.WellFormed

/-! # Sessions

Any number of configurations of one family are in use together. New ones come into use, and each of
them is edited by itself or by what another one holds. All of them stay well-formed.
-/
namespace LinkConfig

variable {F : Family}

/-- What happens in a session. A configuration is known by how many came into use before it. -/
inductive Move (F : Family) where
  | create (privacy : Privacy)
  | clone (i : Nat)
  | capture (answers : LinkAnswers F) (link : UInt32) (resolver : Option NameserverAnswer)
      (privacy : Privacy)
  | edit (i : Nat) (e : Edit F)

namespace Move

/-- The configurations in use afterwards, unless the move cannot be made. An edit reads nothing but
configurations in use. -/
def apply (cs : List (Config F)) : Move F → Option (List (Config F))
  | create privacy => some (cs ++ [{ privacy }])
  | clone i => cs[i]?.map fun c => cs ++ [c]
  | capture answers link resolver privacy =>
    some (cs ++ (Config.capture answers link resolver privacy).1.toList)
  | edit i e => do
    let c ← cs[i]?
    guard (∀ src ∈ e.sources, src ∈ cs)
    let o ← e.apply c
    return cs.set i o.config

/-- The configurations in use after the moves, from none at all. -/
def run (ms : List (Move F)) : Option (List (Config F)) := ms.foldlM apply []

/-- If the move is a capture, the tables it reads do not repeat themselves. -/
def IsDistinct : Move F → Prop
  | capture answers .. => answers.IsDistinct
  | _ => True

variable {cs cs' : List (Config F)} {m : Move F}

/-- What is in use after a move was in use before, is new, or comes of an edit. -/
theorem origin_of_apply (h : m.apply cs = some cs') {c : Config F} (hc : c ∈ cs') :
    c ∈ cs ∨ (∃ privacy, c = { privacy }) ∨
      (∃ answers link resolver privacy, m = capture answers link resolver privacy ∧
        (Config.capture answers link resolver privacy).1 = some c) ∨
      ∃ b ∈ cs, ∃ e o, (∀ src ∈ Edit.sources e, src ∈ cs) ∧ e.apply b = some o ∧ c = o.config := by
  cases m with
  | create privacy =>
    cases h
    rcases List.mem_append.mp hc with hc | hc
    · exact .inl hc
    · exact .inr (.inl ⟨privacy, List.mem_singleton.mp hc⟩)
  | clone i =>
    obtain ⟨b, hb, rfl⟩ := Option.map_eq_some_iff.mp h
    rcases List.mem_append.mp hc with hc | hc
    · exact .inl hc
    · rw [List.mem_singleton.mp hc]
      exact .inl (List.mem_of_getElem? hb)
  | capture answers link resolver privacy =>
    cases h
    rcases List.mem_append.mp hc with hc | hc
    · exact .inl hc
    · exact .inr (.inr (.inl ⟨answers, link, resolver, privacy, rfl, Option.mem_toList.mp hc⟩))
  | edit i e =>
    obtain ⟨b, hb, h⟩ := Option.bind_eq_some_iff.mp h
    obtain ⟨_, hguard, h⟩ := Option.bind_eq_some_iff.mp h
    obtain ⟨o, ho, h⟩ := Option.bind_eq_some_iff.mp h
    cases h
    have hsources : ∀ src ∈ e.sources, src ∈ cs := by simpa [guard] using hguard
    rcases List.mem_or_eq_of_mem_set hc with hc | rfl
    · exact .inl hc
    · exact .inr (.inr (.inr ⟨b, List.mem_of_getElem? hb, e, o, hsources, ho, rfl⟩))

end Move

/-- What holds of every new configuration and of every captured one, given that the move that
captures it is as `Q` says, and survives every edit. -/
structure Invariant (P : Config F → Prop) (Q : Move F → Prop) : Prop where
  create : ∀ privacy, P { privacy }
  capture : ∀ {answers link resolver privacy c}, Q (.capture answers link resolver privacy) →
    (Config.capture answers link resolver privacy).1 = some c → P c
  edit : ∀ {e : Edit F} {c o}, e.apply c = some o → P c → (∀ src ∈ e.sources, P src) → P o.config

namespace Invariant
open Move

variable {P : Config F → Prop} {Q : Move F → Prop} {cs cs' : List (Config F)} {m : Move F}

theorem apply (hP : Invariant P Q) (h : m.apply cs = some cs') (hm : Q m) (hcs : ∀ c ∈ cs, P c) :
    ∀ c ∈ cs', P c := by
  intro c hc
  rcases origin_of_apply h hc with hold | ⟨privacy, rfl⟩ | hcapture | hedit
  · exact hcs c hold
  · exact hP.create privacy
  · obtain ⟨answers, link, resolver, privacy, rfl, hcapture⟩ := hcapture
    exact hP.capture hm hcapture
  · obtain ⟨b, hb, e, o, hsources, ho, rfl⟩ := hedit
    exact hP.edit ho (hcs b hb) fun src hsrc => hcs src (hsources src hsrc)

theorem foldlM {ms : List (Move F)} (hP : Invariant P Q) (h : ms.foldlM Move.apply cs = some cs')
    (hms : ∀ m ∈ ms, Q m) (hcs : ∀ c ∈ cs, P c) : ∀ c ∈ cs', P c := by
  induction ms generalizing cs with
  | nil =>
    cases h
    exact hcs
  | cons m ms ih =>
    obtain ⟨next, hnext, h⟩ := Option.bind_eq_some_iff.mp h
    have hheld := hP.apply hnext (hms m List.mem_cons_self) hcs
    exact ih h (fun m hm => hms m (List.mem_cons_of_mem _ hm)) hheld

theorem of_run {ms : List (Move F)} (hP : Invariant P Q) (h : run ms = some cs)
    (hms : ∀ m ∈ ms, Q m) : ∀ c ∈ cs, P c :=
  hP.foldlM h hms fun _ hc => absurd hc List.not_mem_nil

end Invariant

namespace Move

variable {cs : List (Config F)}

theorem invariant_wellFormed : Invariant (F := F) Config.WellFormed IsDistinct where
  create := Config.WellFormed.empty
  capture hd h := Config.wellFormed_capture hd h
  edit h hc hsources := Edit.wellFormed_apply h hc hsources

/-- In every session all configurations are well-formed at any time. -/
theorem wellFormed_of_run {ms : List (Move F)} (h : run ms = some cs)
    (hd : ∀ m ∈ ms, m.IsDistinct) : ∀ c ∈ cs, c.WellFormed :=
  invariant_wellFormed.of_run h hd

/-- A link is captured, cloned, and given what a lease contributes; the clone is put in another
order. -/
def capturedAndMerged : List (Move .v4) :=
  let lease := { address := ⟨0x0a000007⟩, prefixLen := 24, source := .dhcp }
  [.capture
      { hasMaster := .ok false
        addresses := .ok [{ address := ⟨0x0a000002⟩, prefixLen := 24, flags := Flag.temporary },
          { address := ⟨0x0a000001⟩, prefixLen := 24, flags := Flag.tentative }]
        routes := .ok [.everywhere ⟨0x0a0000fe⟩ 100, { network := ⟨0x0a000000⟩, prefixLen := 24 }] }
      2 (some (.ok { servers := [⟨.v4, ⟨0x0a000035⟩⟩] })) .preferTemporary,
    .clone 0, .create .unknown, .edit 2 (.insertAddress lease),
    .edit 0 (.merge { addresses := [lease] }), .edit 1 (.setPrivacy .preferPublic)]

theorem wellFormed_capturedAndMerged :
    ∃ cs, run capturedAndMerged = some cs ∧ (∀ m ∈ capturedAndMerged, m.IsDistinct) ∧
      ∀ c ∈ cs, c.WellFormed := by
  have hrun : (run capturedAndMerged).isSome := by decide
  have hd : ∀ m ∈ capturedAndMerged, m.IsDistinct := by
    simp only [capturedAndMerged, List.forall_mem_cons, List.not_mem_nil, false_imp_iff,
      implies_true, IsDistinct, and_true]
    constructor
    · intro es h
      cases h
      decide
    · intro rs h
      cases h
      decide
  obtain ⟨cs, hcs⟩ := Option.isSome_iff_exists.mp hrun
  exact ⟨cs, hcs, hd, wellFormed_of_run hcs hd⟩

end Move

end LinkConfig
