import LinkConfig.Proofs.CaptureEffects
import LinkConfig.Proofs.SortedEntries

/-! # What a captured configuration holds

The tables of a link, the answer of the resolver and the privacy preference determine the captured
configuration. Which one it is can be told without the passes that compute it: the preferred default
route is known by its place in the table, and everything else follows from it.
-/
namespace LinkConfig
open Keyed

variable {F : Family} {σ : Type}

namespace Route
variable {routes : List (Route F)} {r : Route F}

theorem leadsTo_iff {gateway : Address F} : r.leadsTo gateway ↔
    r.network = gateway ∧ r.prefixLen = F.hostLen ∧ r.gateway = .unspecified := by
  rw [leadsTo, hasGateway, Bool.not_not, Bool.and_eq_true, Bool.and_eq_true, beq_iff_eq,
    beq_iff_eq, Address.isUnspecified_iff]
  exact and_assoc.trans and_left_comm

theorem not_isFolded_iff : (!r.isFolded routes) ↔ r.network ≠ .unspecified ∧
    ∀ d ∈ preferredDefault routes, ¬ (r.network = d.gateway ∧ r.prefixLen = F.hostLen ∧
      r.gateway = .unspecified) := by
  rw [isFolded, Bool.not_or, Bool.and_eq_true, Bool.not_eq_true', ← Bool.not_eq_true,
    isDefault_iff]
  refine and_congr_right fun _ => ?_
  cases preferredDefault routes with
  | none => simp
  | some d => simp [← leadsTo_iff]

end Route

namespace Config

/-- What a configuration captured from these tables holds, where `best` is the default route that
the table of routes prefers. -/
structure Describes (c : Config F) (addressTable : List (AddressEntry F))
    (routeTable : List (Route F)) (best : Option (Route F)) (resolver : Option NameserverAnswer)
    (privacy : Privacy) : Prop where
  addresses_perm : c.addresses.Perm addressTable
  addresses_sorted : c.addresses.Pairwise fun a b => AddressEntry.compareIn privacy a b ≠ .gt
  gateway : c.gateway = best.bind fun d =>
    if d.gateway = .unspecified then none else some d.gateway
  routes : c.routes = routeTable.filter fun r => r.network ≠ .unspecified ∧
    ∀ d ∈ best, ¬ (r.network = d.gateway ∧ r.prefixLen = F.hostLen ∧ r.gateway = .unspecified)
  nameservers : c.nameservers =
    match resolver, best, addressTable with
    | some (.ok reading), some _, _ :: _ =>
      ((reading.servers.filterMap (·.narrow F)).filter (· ≠ .unspecified)).eraseDups
    | _, _, _ => []
  domains : c.domains = []
  searches : c.searches = []
  neverDefault : c.neverDefault = false
  mss : c.mss = 0
  privacy_eq : c.privacy = privacy
  path : c.path = none

variable {addressTable : List (AddressEntry F)} {routeTable : List (Route F)}
  {best : Option (Route F)} {resolver : Option NameserverAnswer} {privacy : Privacy}
  {answers : LinkAnswers F} {i : UInt32} {c : Config F}

/-- The description leaves nothing open. -/
theorem Describes.unique {d : Config F}
    (hc : c.Describes addressTable routeTable best resolver privacy)
    (hd : d.Describes addressTable routeTable best resolver privacy) : c = d := by
  have haddresses : c.addresses = d.addresses := by
    refine List.Perm.eq_of_pairwise ?_ hc.addresses_sorted hd.addresses_sorted
      (hc.addresses_perm.trans hd.addresses_perm.symm)
    intro a b _ _ hab hba
    exact AddressEntry.precedes_antisymm (Ordering.isLE_iff_ne_gt.mpr hab)
      (Ordering.isLE_iff_ne_gt.mpr hba)
  exact Config.ext haddresses (hc.routes.trans hd.routes.symm) (hc.gateway.trans hd.gateway.symm)
    (hc.nameservers.trans hd.nameservers.symm) (hc.domains.trans hd.domains.symm)
    (hc.searches.trans hd.searches.symm) (hc.neverDefault.trans hd.neverDefault.symm)
    (hc.mss.trans hd.mss.symm) (hc.privacy_eq.trans hd.privacy_eq.symm)
    (hc.path.trans hd.path.symm)

theorem usable_eq_filter (servers : List AnyAddress) :
    usable (F := F) servers = (servers.filterMap (·.narrow F)).filter (· ≠ .unspecified) := by
  have hspecified : (Address.specified? : Address F → Option (Address F)) =
      Option.guard fun a => decide (a ≠ .unspecified) := by
    funext a
    by_cases ha : a = .unspecified <;> simp [Address.specified?, Option.guard, ha]
  rw [usable, ← List.filterMap_filterMap, hspecified, List.filterMap_eq_filter]

theorem capture_eq_none_iff :
    (capture answers i resolver privacy).1 = none ↔ answers.hasMaster = .ok true := by
  rw [capture_eq]
  unfold LinkAnswers.isEnslaved
  rcases answers.hasMaster with fault | _ | _ <;> simp [Except.toOption]

theorem describes_of_capture (h : (capture answers i resolver privacy).1 = some c) :
    c.Describes answers.addressTable answers.routeTable
      (Route.preferredDefault answers.routeTable) resolver privacy := by
  rw [capture_eq] at h
  split at h
  · contradiction
  · cases h
    refine ⟨AddressEntry.sort_perm privacy _, ?sorted, ?gateway, ?routes, ?nameservers, rfl, rfl,
      rfl, rfl, rfl, rfl⟩
    case sorted =>
      refine (AddressEntry.pairwise_sort privacy _).imp ?_
      exact fun hle => Ordering.isLE_iff_ne_gt.mp hle
    case gateway =>
      cases Route.preferredDefault answers.routeTable with
      | none => rfl
      | some d => simp [Address.specified?]
    case routes =>
      refine List.filter_congr fun r _ => ?_
      exact Bool.eq_iff_iff.mpr (Route.not_isFolded_iff.trans decide_eq_true_iff.symm)
    case nameservers =>
      rw [foldl_insertNew_nil, LinkAnswers.reachesOut]
      rcases resolver with _ | fault | reading
      · rw [ite_self]
        rfl
      · cases Route.preferredDefault answers.routeTable <;> cases answers.addressTable <;> rfl
      · cases Route.preferredDefault answers.routeTable with
        | none => rfl
        | some d =>
          cases answers.addressTable with
          | nil => rfl
          | cons e es => exact congrArg List.eraseDups (usable_eq_filter reading.servers)

/-- Capturing fails on a link that is known to belong to another one, and on no other. What it
yields elsewhere is the one configuration that the tables, the resolver and the preference
describe, where what could not be read counts as an empty table. -/
theorem capture_eq_some_iff_describes (p : Platform F σ) (s : σ) (i : UInt32)
    (resolver : Option NameserverAnswer) (privacy : Privacy) :
    ((capture (p.answers s i) i resolver privacy).1 = none ↔ p.hasMaster s i = .ok true) ∧
      ∀ c, (capture (p.answers s i) i resolver privacy).1 = some c ↔
        p.hasMaster s i ≠ .ok true ∧ ∃ best,
          Route.Prefers ((p.routes s i).toOption.getD []) best ∧
            c.Describes ((p.addresses s i).toOption.getD []) ((p.routes s i).toOption.getD []) best
              resolver privacy := by
  refine ⟨capture_eq_none_iff, fun c => ⟨fun h => ?_, ?_⟩⟩
  · refine ⟨fun henslaved => ?_, _, Route.prefers_preferredDefault _, describes_of_capture h⟩
    rw [capture_eq_none_iff.mpr henslaved] at h
    contradiction
  · rintro ⟨hfree, best, hbest, hc⟩
    have hcaptured : (capture (p.answers s i) i resolver privacy).1 ≠ none :=
      mt capture_eq_none_iff.mp hfree
    obtain ⟨d, hd⟩ := Option.ne_none_iff_exists'.mp hcaptured
    have hpreferred := hbest.unique (Route.prefers_preferredDefault _)
    rw [hd, hc.unique (hpreferred ▸ describes_of_capture hd)]

end Config

end LinkConfig
