import LinkConfig.Proofs.WrittenLinks

/-! # Writes that are refused

A write to a link in memory is carried out unless it is refused on the way, writes fail or the link
is unknown; otherwise nothing happens. A commit asks for both of its writes, whatever is answered to
the first, so that each of the two tables is either the new one or the one from before. Masters,
other links and which links are known stay as they are.
-/
namespace LinkConfig

variable {F : Family}

namespace LinkTable
variable {t : LinkTable F} {i : UInt32} {refused : List Request} {request : Request}
  {name : String} {f : Link F → Link F}

theorem modify_id (t : LinkTable F) (i : UInt32) : t.modify i id = t := by
  have hlinks : (t.modify i id).link? = t.link? := by
    funext j
    simp [link?_modify]
  cases t
  rw [modify, alter, mk.injEq]
  exact ⟨hlinks, rfl, rfl⟩

theorem isOk_guarded_write :
    (Platform.guarded refused request (.refused t) (t.write i name f)).isOk ↔
      request ∉ refused ∧ t.Accepts i := by
  unfold Platform.guarded
  split
  next h => simp [h]
  next h => rw [isOk_write, and_iff_right h]

theorem state_guarded_write_of_not_isOk
    (h : ¬ (Platform.guarded refused request (.refused t) (t.write i name f)).isOk) :
    (Platform.guarded refused request (.refused t) (t.write i name f)).state = t := by
  unfold Platform.guarded at h ⊢
  by_cases hrefused : request ∈ refused
  · rw [if_pos hrefused, Written.state_refused]
  · rw [if_neg hrefused] at h ⊢
    exact state_write_of_not_isOk h

/-- What a write leaves. -/
theorem state_guarded_write :
    let w := Platform.guarded refused request (.refused t) (t.write i name f)
    w.state = t.modify i (if w.isOk then f else id) := by
  intro w
  split
  next hok =>
    obtain ⟨hrefused, haccepts⟩ := isOk_guarded_write.mp hok
    have hw : w = .done (t.modify i f) := (if_neg hrefused).trans (write_of_accepts haccepts)
    rw [hw, Written.state_done]
  next hok =>
    rw [modify_id]
    exact state_guarded_write_of_not_isOk hok

theorem writeAddresses_refusing (t : LinkTable F) (i : UInt32) (es : List (AddressEntry F)) :
    (platform.refusing refused).writeAddresses t i es =
      Platform.guarded refused .writeAddresses (.refused t)
        (t.write i "sync addresses" fun l => { l with addresses := es }) := rfl

theorem writeRoutes_refusing (t : LinkTable F) (i : UInt32) (rs : List (Route F)) :
    (platform.refusing refused).writeRoutes t i rs =
      Platform.guarded refused .writeRoutes (.refused t)
        (t.write i "sync routes" fun l => { l with routes := rs }) := rfl

end LinkTable

namespace Config
variable {c : Config F} {t : LinkTable F} {i : UInt32} {refused : List Request}

/-- The link with those of the two tables that could be written. -/
def overwrite (c : Config F) (addresses routes : Bool) (l : Link F) : Link F :=
  { l with
    addresses := if addresses then c.addresses else l.addresses
    routes := if routes then c.routesToWrite else l.routes }

theorem overwrite_eq (c : Config F) (addresses routes : Bool) :
    c.overwrite addresses routes =
      (if routes then fun l => { l with routes := c.routesToWrite } else id) ∘
        (if addresses then fun l => { l with addresses := c.addresses } else id) := by
  cases addresses <;> cases routes <;> rfl

theorem state_commit_refusing (c : Config F) (t : LinkTable F) (i : UInt32)
    (refused : List Request) :
    let r := c.commit (LinkTable.platform.refusing refused) t i
    r.state = t.modify i (c.overwrite r.addresses r.routes) := by
  dsimp only [commit]
  rw [overwrite_eq, LinkTable.writeRoutes_refusing, LinkTable.state_guarded_write,
    LinkTable.writeAddresses_refusing, LinkTable.state_guarded_write, LinkTable.modify_modify]

theorem addresses_commit_refusing :
    (c.commit (LinkTable.platform.refusing refused) t i).addresses ↔
      .writeAddresses ∉ refused ∧ t.Accepts i := LinkTable.isOk_guarded_write

theorem routes_commit_refusing :
    (c.commit (LinkTable.platform.refusing refused) t i).routes ↔
      .writeRoutes ∉ refused ∧ t.Accepts i := by
  dsimp only [commit]
  rw [LinkTable.writeRoutes_refusing, LinkTable.isOk_guarded_write,
    LinkTable.writeAddresses_refusing, LinkTable.state_guarded_write, LinkTable.accepts_modify]

/-- Whatever is refused, a commit to a link in memory asks for both writes, the second one with the
same routes after either answer. Each succeeds if it is not refused itself, writes do not fail and
the link is known; then the table of the link is that of the configuration, and otherwise the one
from before. No link is added or gets another master, and other links do not change. -/
theorem commit_exact (c : Config F) (t : LinkTable F) (i : UInt32) (refused : List Request) :
    let p := LinkTable.platform.refusing refused
    let r := c.commit p t i
    let first := p.writeAddresses t i c.addresses
    let second := p.writeRoutes first.state i c.routesToWrite
    (r.addresses = first.isOk ∧ r.routes = second.isOk ∧
        r.isSuccess = (first.isOk && second.isOk)) ∧
      (r.addresses ↔
        .writeAddresses ∉ refused ∧ t.refusesWrites = false ∧ (t.link? i).isSome) ∧
      (r.routes ↔ .writeRoutes ∉ refused ∧ t.refusesWrites = false ∧ (t.link? i).isSome) ∧
      r.state.addressesOf i = (if r.addresses then c.addresses else t.addressesOf i) ∧
      r.state.routesOf i = (if r.routes then c.routesToWrite else t.routesOf i) ∧
      (∀ j, (r.state.link? j).map Link.master = (t.link? j).map Link.master) ∧
      (∀ j, j ≠ i → r.state.link? j = t.link? j) ∧
      r.state.refusesReads = t.refusesReads ∧ r.state.refusesWrites = t.refusesWrites := by
  intro p r first second
  have hfirst : r.addresses ↔ .writeAddresses ∉ refused ∧ t.Accepts i := addresses_commit_refusing
  have hsecond : r.routes ↔ .writeRoutes ∉ refused ∧ t.Accepts i := routes_commit_refusing
  have hlinks (j : UInt32) : r.state.link? j =
      if j = i then (t.link? j).map (c.overwrite r.addresses r.routes) else t.link? j := by
    rw [state_commit_refusing c t i refused, LinkTable.link?_modify]
  refine ⟨⟨rfl, rfl, rfl⟩, hfirst, hsecond, ?addresses, ?routes, ?masters, ?others, ?switches⟩
  case addresses =>
    rw [LinkTable.addressesOf, LinkTable.addressesOf, hlinks, if_pos rfl]
    cases hl : t.link? i with
    | none => simp [LinkTable.Accepts, hl, hfirst]
    | some l => rfl
  case routes =>
    rw [LinkTable.routesOf, LinkTable.routesOf, hlinks, if_pos rfl]
    cases hl : t.link? i with
    | none => simp [LinkTable.Accepts, hl, hsecond]
    | some l => rfl
  case masters =>
    intro j
    rw [hlinks]
    split
    · exact Option.map_map ..
    · rfl
  case others =>
    intro j hj
    rw [hlinks, if_neg hj]
  case switches =>
    rw [state_commit_refusing c t i refused]
    exact ⟨rfl, rfl⟩

/-- A link with tables of its own that belongs to another one. -/
def bridgedTables : LinkTable .v4 :=
  (({} : LinkTable .v4).insert 2).enslave 1 2
    |>.putAddresses 1 [{ address := ⟨0xc0a80005⟩, prefixLen := 16 }]
    |>.putRoutes 1 [.everywhere ⟨0xc0a80001⟩ 600]

/-- With the addresses refused, the old ones stay beside the new routes. -/
theorem commit_exact_bridgedTables :
    let c : Config .v4 :=
      { addresses := [{ address := ⟨0x0a000002⟩, prefixLen := 24 }]
        routes := [{ network := ⟨0x0a000000⟩, prefixLen := 24 }, .everywhere ⟨0x0a000001⟩ 100] }
    let r := c.commit (LinkTable.platform.refusing [.writeAddresses]) bridgedTables 1
    (r.addresses = false ∧ r.routes = true ∧ r.isSuccess = false) ∧
      r.state.addressesOf 1 = [{ address := ⟨0xc0a80005⟩, prefixLen := 16 }] ∧
      r.state.routesOf 1 = [.everywhere ⟨0x0a000001⟩ 100] ∧
      (r.state.link? 1).map Link.master = some (some 2) ∧
      (2 : UInt32) ≠ 1 ∧ r.state.link? 2 = some {} ∧ r.state.link? 3 = none := by
  intro c r
  have haddresses : r.addresses = false := rfl
  have hroutes : r.routes = true := rfl
  obtain ⟨⟨-, -, hsuccess⟩, -, -, hold, hnew, hmasters, hothers, -⟩ :=
    commit_exact c bridgedTables 1 [.writeAddresses]
  have hne : (2 : UInt32) ≠ 1 := by decide
  refine ⟨⟨haddresses, hroutes, hsuccess⟩, ?_, ?_, (hmasters 1).trans rfl, hne,
    (hothers 2 hne).trans rfl, (hothers 3 (by decide)).trans rfl⟩
  · exact hold.trans rfl
  · exact hnew.trans (by decide)

end Config

end LinkConfig
