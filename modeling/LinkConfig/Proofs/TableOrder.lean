import LinkConfig.Platform.Memory
import LinkConfig.Proofs.CaptureContents
import LinkConfig.Proofs.Replacements

/-! # The order of a link's tables

A platform may list the addresses and routes of a link in any order. That of the addresses does not
show in what is captured. That of the routes shows in the order of the captured ones alone, unless
default routes of lowest metric lead to different gateways.
-/
namespace LinkConfig

variable {F : Family} {σ : Type}

theorem Route.isFolded_congr {routes routes' : List (Route F)} {r : Route F}
    (h : (preferredDefault routes').map gateway = (preferredDefault routes).map gateway) :
    r.isFolded routes' = r.isFolded routes := by
  have hany (rs : List (Route F)) :
      (preferredDefault rs).any (r.leadsTo ·.gateway) =
        ((preferredDefault rs).map gateway).any r.leadsTo := Option.any_map.symm
  rw [isFolded, isFolded, hany, hany, h]

namespace Config
open Route (preferredDefault IsLowest)

variable {answers answers' : LinkAnswers F} {i : UInt32} {resolver : Option NameserverAnswer}
  {privacy : Privacy} {c : Config F}

theorem routes_of_capture (h : (capture answers i resolver privacy).1 = some c) :
    c.routes = answers.routeTable.filter (!·.isFolded answers.routeTable) := by
  rw [capture_eq] at h
  split at h
  · contradiction
  · cases h
    rfl

/-- Of the tables only which addresses there are, the preferred gateway and the routes count. -/
theorem capture_congr (hmaster : answers'.hasMaster = answers.hasMaster)
    (haddresses : answers'.addressTable.Perm answers.addressTable)
    (hgateway : (preferredDefault answers'.routeTable).map Route.gateway =
      (preferredDefault answers.routeTable).map Route.gateway) :
    (capture answers' i resolver privacy).1 = (capture answers i resolver privacy).1.map fun c =>
      { c with routes := answers'.routeTable.filter (!·.isFolded answers.routeTable) } := by
  have henslaved : answers'.isEnslaved = answers.isEnslaved := by
    rw [LinkAnswers.isEnslaved, hmaster]
    rfl
  have hreaches : answers'.reachesOut = answers.reachesOut := by
    rw [LinkAnswers.reachesOut, LinkAnswers.reachesOut, haddresses.isEmpty_eq,
      ← Option.isSome_map, hgateway, Option.isSome_map]
  have hfolded : answers'.routeTable.filter (!·.isFolded answers'.routeTable) =
      answers'.routeTable.filter (!·.isFolded answers.routeTable) :=
    List.filter_congr fun r _ => by rw [Route.isFolded_congr hgateway]
  rw [capture_eq, capture_eq, henslaved, hreaches, hgateway, hfolded,
    AddressEntry.sort_congr haddresses]
  split <;> rfl

/-- The order of the addresses does not count. -/
theorem capture_eq_of_perm (hmaster : answers'.hasMaster = answers.hasMaster)
    (haddresses : answers'.addressTable.Perm answers.addressTable)
    (hroutes : answers'.routeTable = answers.routeTable) :
    (capture answers' i resolver privacy).1 = (capture answers i resolver privacy).1 := by
  rw [capture_congr hmaster haddresses (by rw [hroutes]), hroutes]
  cases hbefore : (capture answers i resolver privacy).1 with
  | none => rfl
  | some c =>
    rw [← routes_of_capture hbefore]
    rfl

/-- A link that is captured again after its tables were put into another order yields the same
configuration if only the addresses changed places. If the routes did, it yields one that differs in
the order of its routes alone, as long as all default routes of lowest metric agree in the gateway.
-/
theorem capture_forgets_order {p : Platform F σ} {s s' : σ} {i : UInt32} {enslaved : Bool}
    {es es' : List (AddressEntry F)} {rs rs' : List (Route F)}
    (h : p.answers s i = ⟨.ok enslaved, .ok es, .ok rs⟩)
    (h' : p.answers s' i = ⟨.ok enslaved, .ok es', .ok rs'⟩)
    (hes : es'.Perm es) (hrs : rs'.Perm rs) (resolver : Option NameserverAnswer)
    (privacy : Privacy) :
    let before := (capture (p.answers s i) i resolver privacy).1
    let after := (capture (p.answers s' i) i resolver privacy).1
    (rs' = rs → after = before ∧
      ∀ c ∈ before, ∀ c' ∈ after, ∀ path, let r := Config.replaceBy { c with path } c'
        r.relevant = ∅ ∧ r.anyChanged = false ∧ r.config = { c with path }) ∧
    ((∀ d e, IsLowest rs d → IsLowest rs e → d.gateway = e.gateway) →
      (after = none ↔ before = none) ∧
      ∀ c ∈ before, ∃ routes, routes.Perm c.routes ∧ after = some { c with routes }) := by
  intro before after
  have hmaster : (p.answers s' i).hasMaster = (p.answers s i).hasMaster := by rw [h, h']
  have haddresses : (p.answers s' i).addressTable.Perm (p.answers s i).addressTable := by
    rwa [h, h']
  have hroutes : (p.answers s' i).routeTable.Perm (p.answers s i).routeTable := by rwa [h, h']
  constructor
  · rintro rfl
    have htable : (p.answers s' i).routeTable = (p.answers s i).routeTable := by
      rw [h, h']
      rfl
    have hsame : after = before := capture_eq_of_perm hmaster haddresses htable
    refine ⟨hsame, fun c hc c' hc' path => ?_⟩
    rw [hsame] at hc'
    obtain rfl := Option.mem_unique hc hc'
    simp only [replaceBy_of_path, and_self]
  · intro hagree
    have hgateway : (preferredDefault (p.answers s' i).routeTable).map Route.gateway =
        (preferredDefault (p.answers s i).routeTable).map Route.gateway := by
      refine Route.gateway_preferredDefault_of_perm hroutes ?_
      rwa [h]
    have hafter : after = _ := capture_congr hmaster haddresses hgateway
    rw [hafter]
    refine ⟨Option.map_eq_none_iff, fun c hc => ⟨_, ?_, Option.mem_map_of_mem _ hc⟩⟩
    rw [routes_of_capture hc]
    exact hroutes.filter _

/-- An address that is listed twice, and a temporary one. -/
def listedAddresses : List (AddressEntry .v4) :=
  [{ address := ⟨0x0a000002⟩, prefixLen := 24 }, { address := ⟨0x0a000002⟩, prefixLen := 24 },
    { address := ⟨0x0a000003⟩, prefixLen := 24, flags := Flag.temporary }]

/-- Two default routes of lowest metric to one gateway, which is told to be on the link, and a third
one. -/
def listedRoutes : List (Route .v4) :=
  [.everywhere ⟨0x0a0000fe⟩ 600, { network := ⟨0xc0a80000⟩, prefixLen := 16 },
    .everywhere ⟨0x0a000001⟩ 100, { network := ⟨0x0a000001⟩, prefixLen := 32 },
    { network := ⟨0⟩, prefixLen := 0, gateway := ⟨0x0a000001⟩, metric := 100, mss := 1400 },
    { network := ⟨0xac100000⟩, prefixLen := 12, gateway := ⟨0x0a0000fe⟩ }]

theorem capture_forgets_order_reversed :
    let listed := (({} : LinkTable .v4).putAddresses 1 listedAddresses).putRoutes 1 listedRoutes
    let readdressed := listed.putAddresses 1 listedAddresses.reverse
    let rerouted := readdressed.putRoutes 1 listedRoutes.reverse
    let resolver : Option NameserverAnswer := some (.ok { servers := [⟨.v4, ⟨0x0a000035⟩⟩] })
    let captured (t : LinkTable .v4) :=
      (capture (LinkTable.platform.answers t 1) 1 resolver .preferTemporary).1
    captured readdressed = captured listed ∧
      ∃ c, captured listed = some c ∧ c.gateway = some ⟨0x0a000001⟩ ∧ c.nameservers ≠ [] ∧
        ∃ routes, routes.Perm c.routes ∧ routes ≠ c.routes ∧
          captured rerouted = some { c with routes } := by
  intro listed readdressed rerouted resolver captured
  have hlisted : LinkTable.platform.answers listed 1 =
      ⟨.ok false, .ok listedAddresses, .ok listedRoutes⟩ := rfl
  have hreaddressed : LinkTable.platform.answers readdressed 1 =
      ⟨.ok false, .ok listedAddresses.reverse, .ok listedRoutes⟩ := rfl
  have hrerouted : LinkTable.platform.answers rerouted 1 =
      ⟨.ok false, .ok listedAddresses.reverse, .ok listedRoutes.reverse⟩ := rfl
  have haddresses := List.reverse_perm listedAddresses
  have hroutes := List.reverse_perm listedRoutes
  have hgateway (d : Route .v4) (hd : IsLowest listedRoutes d) : d.gateway = ⟨0x0a000001⟩ := by
    have hall : ∀ d ∈ listedRoutes, d.network = .unspecified → d.metric ≤ 100 →
        d.gateway = ⟨0x0a000001⟩ := by decide
    exact hall d hd.mem hd.network (hd.le (.everywhere ⟨0x0a000001⟩ 100) (by decide) rfl)
  obtain ⟨hsame, -⟩ := (capture_forgets_order hlisted hreaddressed haddresses (.refl _) resolver
    .preferTemporary).1 rfl
  obtain ⟨-, hrearranged⟩ := (capture_forgets_order hlisted hrerouted haddresses hroutes resolver
    .preferTemporary).2 fun d e hd he => (hgateway d hd).trans (hgateway e he).symm
  obtain ⟨routes, hperm, hafter⟩ := hrearranged _ rfl
  refine ⟨hsame, _, rfl, by decide, by decide, routes, hperm, ?_, hafter⟩
  rintro rfl
  exact absurd hafter (by decide)

end Config

end LinkConfig
