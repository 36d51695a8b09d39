import LinkConfig.Proofs.Prefixes
import LinkConfig.Proofs.WrittenLinks

/-! # Routes into the prefixes of addresses

Whether a destination is direct is told from two lengths and one address, yet it means that all
addresses of the destination lie in the prefix of one address. The routes that are written are
those that remain when such routes are left out, and leaving them out a second time leaves out
nothing.
-/
namespace LinkConfig.Config

variable {F : Family} {c : Config F} {r : Route F} {n : Address F} {len : UInt8}

/-- The prefix of an address that does not lack its prefix route holds all of `n/len`. -/
def Covers (c : Config F) (n : Address F) (len : UInt8) : Prop :=
  ∃ e ∈ c.addresses, ¬ e.lacksPrefixRoute ∧ e.address.Encloses e.prefixLen n len

instance (c : Config F) (n : Address F) (len : UInt8) : Decidable (c.Covers n len) :=
  inferInstanceAs (Decidable (∃ _ ∈ _, _))

theorem isDirect_iff_covers (hlen : len ≤ F.hostLen) : c.isDirect n len ↔ c.Covers n len := by
  rw [isDirect, List.any_eq_true]
  refine exists_congr fun e => and_congr_right fun _ => ?_
  rw [Address.encloses_iff hlen, Bool.and_eq_true, Bool.and_eq_true, decide_eq_true_eq,
    Bool.not_eq_true', Bool.not_eq_true, and_comm]

theorem writes_iff (hlen : r.prefixLen ≤ F.hostLen) :
    c.writes r ↔ ¬ (¬ r.hasGateway ∧ c.Covers r.network r.prefixLen) ∧
      ¬ (c.neverDefault ∧ r.prefixLen = 0) := by
  rw [← isDirect_iff_covers hlen, writes]
  cases r.hasGateway <;> cases c.isDirect r.network r.prefixLen <;> cases c.neverDefault <;> simp

/-- A destination is direct if all its addresses lie in the prefix of one address. Of the routes,
those on the link to such destinations are left out, and those to everywhere on a link that never
supplies a default route; no other is, and what was left in stays in. -/
theorem routesToWrite_by_inclusion (hroutes : ∀ r ∈ c.routes, r.prefixLen ≤ F.hostLen) :
    (∀ (n : Address F) (len : UInt8), len ≤ F.hostLen →
        (c.isDirect n len ↔ ∃ e ∈ c.addresses, ¬ e.lacksPrefixRoute ∧
          ∀ x : Address F, x.within n len → x.within e.address e.prefixLen)) ∧
      c.routesToWrite = c.routes.filter (fun r =>
        ¬ (r.gateway = .unspecified ∧ c.Covers r.network r.prefixLen) ∧
          ¬ (c.neverDefault ∧ r.prefixLen = 0)) ∧
      routesToWrite { c with routes := c.routesToWrite } = c.routesToWrite := by
  refine ⟨fun n len hlen => isDirect_iff_covers hlen, ?_, ?_⟩
  · refine List.filter_congr fun r hr => ?_
    rw [Bool.eq_iff_iff, decide_eq_true_eq, writes_iff (hroutes r hr)]
    simp [Route.hasGateway]
  · change (c.routes.filter c.writes).filter c.writes = c.routes.filter c.writes
    rw [List.filter_filter]
    simp

/-- A quarter of the prefix of an address, told by one of its hosts, all of the prefix through a
gateway, a wider network, and one whose address lacks its prefix route. -/
def overlappingRoutes : Config .v4 :=
  { addresses := [{ address := ⟨0x0a000002⟩, prefixLen := 24 },
      { address := ⟨0xac100002⟩, prefixLen := 16, flags := Flag.noPrefixRoute }]
    routes := [{ network := ⟨0x0a000046⟩, prefixLen := 26 },
      { network := ⟨0x0a000000⟩, prefixLen := 24, gateway := ⟨0x0a000001⟩ },
      { network := ⟨0x0a000000⟩, prefixLen := 16 }, { network := ⟨0xac100000⟩, prefixLen := 16 },
      .everywhere ⟨0x0a000001⟩ 100]
    neverDefault := true }

theorem routesToWrite_by_inclusion_overlappingRoutes :
    (∀ r ∈ overlappingRoutes.routes, r.prefixLen ≤ Family.v4.hostLen) ∧
      (∀ x : Address .v4, x.within ⟨0x0a000046⟩ 26 → x.within ⟨0x0a000002⟩ 24) ∧
      ¬ overlappingRoutes.isDirect ⟨0xac100000⟩ 16 ∧
      overlappingRoutes.routesToWrite = (overlappingRoutes.routes.drop 1).take 3 := by
  have hroutes : ∀ r ∈ overlappingRoutes.routes, r.prefixLen ≤ Family.v4.hostLen := by decide
  obtain ⟨hdirect, hwritten, -⟩ := routesToWrite_by_inclusion hroutes
  have hquarter := (hdirect ⟨0x0a000046⟩ 26 (by decide)).mp (by decide)
  refine ⟨hroutes, ?_, ?_, ?_⟩
  · -- the other address lacks its prefix route
    obtain ⟨e, he, hflag, hx⟩ := hquarter
    rcases List.mem_cons.mp he with rfl | he
    · exact hx
    · rw [List.mem_singleton.mp he] at hflag
      exact absurd (by decide) hflag
  · decide
  · rw [hwritten]
    decide

end LinkConfig.Config
