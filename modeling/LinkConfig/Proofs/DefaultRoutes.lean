import LinkConfig.Proofs.CaptureEffects
import LinkConfig.Proofs.WrittenLinks

/-! # Links that never supply a default route

What counts as a default route is told by its network when a link is captured, and by the length of
its prefix when one is committed to. A configuration that never supplies a default route keeps its
promise as long as the two agree: then no default route is written, and the link is captured again
with all its routes and without a gateway.
-/
namespace LinkConfig

variable {F : Family}

namespace Route
variable {routes : List (Route F)}

theorem filter_isFolded_eq_self_iff :
    routes.filter (!·.isFolded routes) = routes ↔ ∀ r ∈ routes, r.isDefault = false := by
  rw [List.filter_eq_self]
  constructor
  · intro h r hr
    have hkept := h r hr
    rw [isFolded, Bool.not_or, Bool.and_eq_true, Bool.not_eq_true'] at hkept
    exact hkept.1
  · intro h r hr
    rw [isFolded, h r hr, preferredDefault_eq_none_iff.mpr h]
    rfl

end Route

namespace Config
variable {c : Config F}

/-- Each route of the configuration to the network of all zeros is a route to everywhere, or comes
by itself. -/
def WithholdsDefaults (c : Config F) : Prop :=
  ∀ r ∈ c.routes, r.isDefault → r.prefixLen ≠ 0 → ¬ r.hasGateway ∧ c.isDirect r.network r.prefixLen

instance (c : Config F) : Decidable c.WithholdsDefaults := inferInstanceAs (Decidable (∀ _ ∈ _, _))

theorem withholdsDefaults_iff (hc : c.neverDefault) :
    c.WithholdsDefaults ↔ ∀ r ∈ c.routesToWrite, r.isDefault = false := by
  constructor
  · intro h r hr
    obtain ⟨hmem, hneeded, hlen⟩ := mem_routesToWrite_iff.mp hr
    by_contra hdefault
    obtain ⟨hdirect, hcovered⟩ := h r hmem (by simpa using hdefault) (hlen hc)
    exact hneeded.elim hdirect fun hnot => hnot hcovered
  · intro h r hmem hdefault hlen
    by_contra hneeded
    have hwritten : r ∈ c.routesToWrite := by
      refine mem_routesToWrite_iff.mpr ⟨hmem, ?_, fun _ => hlen⟩
      by_contra hno
      rw [not_or, not_not] at hno
      exact hneeded hno
    rw [h r hwritten] at hdefault
    contradiction

/-- Where the configuration withholds its default routes, and only there, none is written, and none
of the routes that are written is missing when the link is captured again. Then there is no gateway
either. -/
theorem neverDefault_captured (hc : c.neverDefault) :
    (c.WithholdsDefaults ↔ ∀ r ∈ c.routesToWrite, r.isDefault = false) ∧
      ∀ (t : LinkTable F) (i : UInt32) (resolver : Option NameserverAnswer) (privacy : Privacy),
        (c.commit LinkTable.platform t i).isSuccess →
        (∀ l, t.link? i = some l → l.master = none) →
        ∃ d,
          (capture (LinkTable.platform.answers (c.commit LinkTable.platform t i).state i) i resolver
            privacy).1 = some d ∧
          (c.WithholdsDefaults → d.gateway = none) ∧
          (t.refusesReads = false → (d.routes = c.routesToWrite ↔ c.WithholdsDefaults)) := by
  refine ⟨withholdsDefaults_iff hc, ?_⟩
  intro t i resolver privacy hsuccess hmaster
  rw [withholdsDefaults_iff hc]
  cases hreads : t.refusesReads with
  | true =>
    -- a link that cannot be read is captured without routes
    have hrefuses := (refusesReads_of_isSuccess hsuccess).trans hreads
    obtain ⟨master, addresses, routes, hanswers⟩ := LinkTable.answers_of_refusesReads hrefuses i
    rw [hanswers, capture_eq]
    exact ⟨_, rfl, fun _ => rfl, nofun⟩
  | false =>
    obtain ⟨l, hl, hanswers⟩ := answers_of_isSuccess hreads hsuccess
    rw [hanswers, capture_eq, hmaster l hl]
    refine ⟨_, rfl, ?_, fun _ => Route.filter_isFolded_eq_self_iff⟩
    intro hnone
    exact congrArg (fun d => (d.map Route.gateway).bind Address.specified?)
      (Route.preferredDefault_eq_none_iff.mpr hnone)

/-- A default route that is written by the length of its prefix, and lost as a gateway. -/
def halvedDefault : Config .v4 :=
  { routes := [{ network := ⟨0⟩, prefixLen := 1, gateway := ⟨0x0a000001⟩ }], neverDefault := true }

theorem neverDefault_captured_halvedDefault :
    let committed := halvedDefault.commit LinkTable.platform (({} : LinkTable .v4).insert 1) 1
    (∃ r ∈ halvedDefault.routesToWrite, r.isDefault) ∧ committed.isSuccess ∧
      ∃ d, (capture (LinkTable.platform.answers committed.state 1) 1 none .unknown).1 = some d ∧
        d.gateway = some ⟨0x0a000001⟩ ∧ d.routes ≠ halvedDefault.routesToWrite :=
  ⟨⟨_, List.mem_cons_self, rfl⟩, rfl, _, rfl, rfl, by decide⟩

/-- A default route that is left out, and one to half of all addresses that comes by itself. -/
def tunnelRoutes : Config .v4 :=
  { addresses := [{ address := ⟨0x0a000005⟩, prefixLen := 24 },
      { address := ⟨0x01000001⟩, prefixLen := 1 }]
    routes := [.everywhere ⟨0x0a000001⟩ 100, { network := ⟨0x0a000000⟩, prefixLen := 24 },
      { network := ⟨0xc0a80000⟩, prefixLen := 16, gateway := ⟨0x0a0000fe⟩ },
      { network := ⟨0⟩, prefixLen := 1 }]
    neverDefault := true }

theorem neverDefault_captured_tunnelRoutes :
    let t := ({} : LinkTable .v4).insert 1
    let committed := tunnelRoutes.commit LinkTable.platform t 1
    tunnelRoutes.WithholdsDefaults ∧ committed.isSuccess ∧
      ∃ d, (capture (LinkTable.platform.answers committed.state 1) 1 none .unknown).1 = some d ∧
        d.gateway = none ∧ d.routes = tunnelRoutes.routesToWrite ∧ d.routes ≠ [] := by
  intro t committed
  have hwithholds : tunnelRoutes.WithholdsDefaults := by decide
  have hsuccess : committed.isSuccess := rfl
  obtain ⟨-, hcaptured⟩ := neverDefault_captured (c := tunnelRoutes) rfl
  obtain ⟨d, hd, hgateway, hroutes⟩ := hcaptured t 1 none .unknown hsuccess (by decide)
  have hroutes := (hroutes rfl).mpr hwithholds
  exact ⟨hwithholds, hsuccess, d, hd, hgateway hwithholds, hroutes, by rw [hroutes]; decide⟩

end Config

end LinkConfig
