import LinkConfig.Config.Edit
import LinkConfig.Proofs.Prefixes
import LinkConfig.Proofs.WrittenLinks
import Mathlib.Data.List.MinMax

/-! # Forwarding

A destination is forwarded by those of the routes that cover it whose prefix is longest. On a link
these are the routes that were written and those that the addresses bring by themselves. A route
into the prefix of an address is not written, and is missed where a route through a gateway leads
into that prefix as well.
-/
namespace LinkConfig

variable {F : Family}

namespace Route
variable {table : List (Route F)} {r g : Route F} {x : Address F}

def covers (r : Route F) (x : Address F) : Bool := x.within r.network r.prefixLen

/-- The routes that forward the destination. -/
def longest (table : List (Route F)) (x : Address F) : List (Route F) :=
  let matching := table.filter (·.covers x)
  matching.filter fun r => matching.all (·.prefixLen ≤ r.prefixLen)

theorem mem_longest_iff :
    r ∈ longest table x ↔
      r ∈ table ∧ r.covers x ∧ ∀ s ∈ table, s.covers x → s.prefixLen ≤ r.prefixLen := by
  rw [longest, List.mem_filter, List.mem_filter, List.all_eq_true, and_assoc]
  simp [List.mem_filter]

theorem longest_ne_nil_iff : longest table x ≠ [] ↔ ∃ r ∈ table, r.covers x := by
  constructor
  · intro h
    obtain ⟨r, hr⟩ := List.exists_mem_of_ne_nil _ h
    obtain ⟨hmem, hcovers, -⟩ := mem_longest_iff.mp hr
    exact ⟨r, hmem, hcovers⟩
  · rintro ⟨r, hmem, hcovers⟩
    have hmatching : r ∈ table.filter (·.covers x) := List.mem_filter.mpr ⟨hmem, hcovers⟩
    have hsome : (table.filter (·.covers x)).argmax (·.prefixLen.toNat) ≠ none := by
      rw [Ne, List.argmax_eq_none]
      exact List.ne_nil_of_mem hmatching
    obtain ⟨m, hm⟩ := Option.ne_none_iff_exists'.mp hsome
    obtain ⟨hmem', hcovers'⟩ := List.mem_filter.mp (List.argmax_mem hm)
    refine List.ne_nil_of_mem (mem_longest_iff.mpr ⟨hmem', hcovers', ?_⟩)
    intro s hs hx
    exact List.le_of_mem_argmax (List.mem_filter.mpr ⟨hs, hx⟩) hm

/-- No route that forwards the destination has a gateway. -/
def IsOnLink (table : List (Route F)) (x : Address F) : Prop :=
  ∀ r ∈ longest table x, ¬ r.hasGateway

instance (table : List (Route F)) (x : Address F) : Decidable (IsOnLink table x) :=
  inferInstanceAs (Decidable (∀ _ ∈ _, _))

theorem isOnLink_iff :
    IsOnLink table x ↔
      ∀ g ∈ table, g.hasGateway → g.covers x →
        ∃ r ∈ table, r.covers x ∧ g.prefixLen < r.prefixLen := by
  constructor
  · intro h g hg hgateway hcovers
    by_contra hno
    refine h g (mem_longest_iff.mpr ⟨hg, hcovers, ?_⟩) hgateway
    intro s hs hx
    by_contra hlt
    exact hno ⟨s, hs, hx, UInt8.not_le.mp hlt⟩
  · intro h r hr hgateway
    obtain ⟨hmem, hcovers, hmax⟩ := mem_longest_iff.mp hr
    obtain ⟨s, hs, hx, hlt⟩ := h r hmem hgateway hcovers
    exact UInt8.not_le.mpr hlt (hmax s hs hx)

end Route

/-- The route that an address brings by itself. -/
def AddressEntry.prefixRoute (e : AddressEntry F) : Route F :=
  { network := e.address, prefixLen := e.prefixLen }

namespace Config
open Route

variable {c : Config F} {r p : Route F} {x n : Address F} {len : UInt8}

def prefixRoutes (c : Config F) : List (Route F) :=
  (c.addresses.filter (!·.lacksPrefixRoute)).map AddressEntry.prefixRoute

theorem hasGateway_of_mem_prefixRoutes (h : p ∈ c.prefixRoutes) : p.hasGateway = false := by
  obtain ⟨e, -, rfl⟩ := List.mem_map.mp h
  simp [AddressEntry.prefixRoute, hasGateway]

theorem isDirect_iff :
    c.isDirect n len ↔ ∃ p ∈ c.prefixRoutes, p.prefixLen ≤ len ∧ p.covers n := by
  simp only [isDirect, prefixRoutes, List.any_eq_true, Bool.and_eq_true, List.mem_map,
    List.mem_filter, decide_eq_true_eq]
  constructor
  · rintro ⟨e, he, ⟨hle, hwithin⟩, hflag⟩
    exact ⟨e.prefixRoute, ⟨e, ⟨he, hflag⟩, rfl⟩, hle, hwithin⟩
  · rintro ⟨_, ⟨e, ⟨he, hflag⟩, rfl⟩, hle, hwithin⟩
    exact ⟨e, he, ⟨hle, hwithin⟩, hflag⟩

theorem isDirect_of_covers (hp : p ∈ c.prefixRoutes) (hx : p.covers x) (hr : r.covers x)
    (hle : p.prefixLen ≤ r.prefixLen) : c.isDirect r.network r.prefixLen :=
  isDirect_iff.mpr ⟨p, hp, hle, Address.within_of_common hr hx hle⟩

/-- A route that is left out is covered by one that an address brings. -/
theorem exists_prefixRoute_of_not_writes (hc : c.neverDefault = false) (h : ¬ c.writes r) :
    r.hasGateway = false ∧
      ∃ p ∈ c.prefixRoutes, p.prefixLen ≤ r.prefixLen ∧ ∀ x, r.covers x → p.covers x := by
  obtain ⟨hgateway, hdirect⟩ : r.hasGateway = false ∧ c.isDirect r.network r.prefixLen := by
    simpa [writes, hc] using h
  obtain ⟨p, hp, hle, hcovers⟩ := isDirect_iff.mp hdirect
  exact ⟨hgateway, p, hp, hle, fun _ hx => Address.within_trans hx hcovers hle⟩

/-- The routes that are written, and those that come by themselves. -/
def installed (c : Config F) : List (Route F) := c.routesToWrite ++ c.prefixRoutes

/-- The routes there would be if none were left out. -/
def described (c : Config F) : List (Route F) := c.routes ++ c.prefixRoutes

theorem mem_described_iff :
    r ∈ c.described ↔ r ∈ c.installed ∨ r ∈ c.routes ∧ ¬ c.writes r := by
  rw [described, installed, List.mem_append, List.mem_append, routesToWrite, List.mem_filter]
  by_cases h : c.writes r <;> simp [h, or_comm]

theorem mem_installed_of_hasGateway (hc : c.neverDefault = false) (hr : r ∈ c.described)
    (hgateway : r.hasGateway) : r ∈ c.installed := by
  rcases mem_described_iff.mp hr with hinstalled | ⟨-, hleft⟩
  · exact hinstalled
  · rw [(exists_prefixRoute_of_not_writes hc hleft).1] at hgateway
    contradiction

theorem longest_installed_ne_nil_iff (hc : c.neverDefault = false) :
    longest c.installed x ≠ [] ↔ longest c.described x ≠ [] := by
  rw [longest_ne_nil_iff, longest_ne_nil_iff]
  constructor
  · rintro ⟨r, hr, hx⟩
    exact ⟨r, mem_described_iff.mpr (.inl hr), hx⟩
  · rintro ⟨r, hr, hx⟩
    rcases mem_described_iff.mp hr with hinstalled | ⟨-, hleft⟩
    · exact ⟨r, hinstalled, hx⟩
    · obtain ⟨-, p, hp, -, hcovers⟩ := exists_prefixRoute_of_not_writes hc hleft
      exact ⟨p, List.mem_append_right _ hp, hcovers x hx⟩

/-- Wherever a route that is left out would come before a gateway, the prefix of an address does. -/
def PrefixesStepIn (c : Config F) (x : Address F) : Prop :=
  ∀ r ∈ c.routes, ¬ c.writes r → r.covers x →
    ∀ g ∈ c.routes, g.hasGateway → g.covers x → g.prefixLen < r.prefixLen →
      ∃ p ∈ c.prefixRoutes, p.covers x ∧ g.prefixLen < p.prefixLen

instance (c : Config F) (x : Address F) : Decidable (c.PrefixesStepIn x) :=
  inferInstanceAs (Decidable (∀ _ ∈ _, _))

theorem isOnLink_installed (hx : IsOnLink c.described x) (h : c.PrefixesStepIn x) :
    IsOnLink c.installed x := by
  rw [isOnLink_iff] at hx ⊢
  intro g hg hgateway hgx
  obtain ⟨r, hr, hrx, hlt⟩ := hx g (mem_described_iff.mpr (.inl hg)) hgateway hgx
  rcases mem_described_iff.mp hr with hinstalled | ⟨hmem, hleft⟩
  · exact ⟨r, hinstalled, hrx, hlt⟩
  · have hroute : g ∈ c.routes := by
      rcases List.mem_append.mp hg with hwritten | hprefix
      · exact List.mem_of_mem_filter hwritten
      · rw [hasGateway_of_mem_prefixRoutes hprefix] at hgateway
        contradiction
    obtain ⟨p, hp, hpx, hstep⟩ := h r hmem hleft hrx g hroute hgateway hgx hlt
    exact ⟨p, List.mem_append_right _ hp, hpx, hstep⟩

theorem prefixesStepIn_of_isOnLink (hc : c.neverDefault = false) (h : IsOnLink c.installed x) :
    c.PrefixesStepIn x := by
  intro r hr hleft hrx g hg hgateway hgx hlt
  have hinstalled := mem_installed_of_hasGateway hc (List.mem_append_left _ hg) hgateway
  obtain ⟨m, hm⟩ := List.exists_mem_of_ne_nil _ (longest_ne_nil_iff.mpr ⟨g, hinstalled, hgx⟩)
  have honlink := h m hm
  obtain ⟨hmem, hmx, hmax⟩ := mem_longest_iff.mp hm
  have hlonger : g.prefixLen < m.prefixLen := by
    refine UInt8.not_le.mp fun hle => h g (mem_longest_iff.mpr ⟨hinstalled, hgx, ?_⟩) hgateway
    intro s hs hsx
    exact UInt8.le_trans (hmax s hs hsx) hle
  rcases List.mem_append.mp hmem with hwritten | hprefix
  · -- the prefix that covers what was left out is no longer than `m`, so `m` would be left out too
    obtain ⟨-, p, hp, -, hcovers⟩ := exists_prefixRoute_of_not_writes hc hleft
    have hpx := hcovers x hrx
    have hdirect := isDirect_of_covers hp hpx hmx (hmax p (List.mem_append_right _ hp) hpx)
    obtain ⟨-, hneeded, -⟩ := mem_routesToWrite_iff.mp hwritten
    exact absurd hdirect (hneeded.resolve_left honlink)
  · exact ⟨m, hprefix, hmx, hlonger⟩

/-- Leaving out routes loses no destination, and diverts one to a gateway only where no prefix of an
address steps in for what was left out. A configuration whose gateways lead out of the prefixes
of its addresses diverts none. -/
theorem forwards_as_described (hc : c.neverDefault = false) (x : Address F) :
    (longest c.installed x ≠ [] ↔ longest c.described x ≠ []) ∧
      (IsOnLink c.described x → (IsOnLink c.installed x ↔ c.PrefixesStepIn x)) ∧
      ((∀ g ∈ c.routes, g.hasGateway → ¬ c.isDirect g.network g.prefixLen) →
        c.PrefixesStepIn x) := by
  refine ⟨longest_installed_ne_nil_iff hc, fun hx => ?_, fun hbeyond => ?_⟩
  · exact ⟨prefixesStepIn_of_isOnLink hc, isOnLink_installed hx⟩
  · intro r hr hleft hrx g hg hgateway hgx hlt
    obtain ⟨-, p, hp, -, hcovers⟩ := exists_prefixRoute_of_not_writes hc hleft
    refine ⟨p, hp, hcovers x hrx, UInt8.not_le.mp fun hle => ?_⟩
    exact hbeyond g hg hgateway (isDirect_of_covers hp (hcovers x hrx) hgx hle)

/-- A quarter of the prefix of an address is on the link, and the half that it lies in is behind a
gateway. -/
def nestedRoutes : Config .v4 :=
  let quarter := { network := ⟨0x0a000040⟩, prefixLen := 26 }
  let half := { network := ⟨0x0a000000⟩, prefixLen := 25, gateway := ⟨0x0a000001⟩ }
  let addressed := ({} : Config .v4).insertAddress { address := ⟨0x0a000002⟩, prefixLen := 24 }
  ((addressed.config.insertRoute quarter).config.insertRoute half).config

theorem forwards_nestedRoutes_to_gateway :
    nestedRoutes.neverDefault = false ∧
      (∀ r ∈ nestedRoutes.described, r.prefixLen ≤ Family.v4.hostLen) ∧
      longest nestedRoutes.described ⟨0x0a000046⟩ ≠ [] ∧
      IsOnLink nestedRoutes.described ⟨0x0a000046⟩ ∧
      ¬ IsOnLink nestedRoutes.installed ⟨0x0a000046⟩ := by
  decide

/-- Another address steps in for half of the quarter. -/
theorem forwards_nestedRoutes_as_described :
    let c := (nestedRoutes.insertAddress { address := ⟨0x0a000041⟩, prefixLen := 27 }).config
    c.neverDefault = false ∧ IsOnLink c.described ⟨0x0a000046⟩ ∧
      IsOnLink c.installed ⟨0x0a000046⟩ ∧ ¬ IsOnLink c.installed ⟨0x0a000064⟩ := by
  intro c
  have hc : c.neverDefault = false := by decide
  obtain ⟨-, hfirst, -⟩ := forwards_as_described hc ⟨0x0a000046⟩
  obtain ⟨-, hsecond, -⟩ := forwards_as_described hc ⟨0x0a000064⟩
  have honlink : IsOnLink c.described ⟨0x0a000046⟩ := by decide
  refine ⟨hc, honlink, (hfirst honlink).mpr (by decide), ?_⟩
  rw [hsecond (by decide)]
  decide

end Config

end LinkConfig
