import LinkConfig.Proofs.LeaseReports
import LinkConfig.Proofs.Session

/-! # Address lists stay in order

Whether or not an address list repeats itself, it is in order under the preference of its
configuration: every edit that changes an entry sorts the list again, leaving entries out does not
disturb their order, and a captured list is sorted whatever the table it comes from.
-/
namespace LinkConfig
open Keyed

variable {F : Family}

namespace Config

/-- Each address may stand before all later ones. -/
def InOrder (c : Config F) : Prop :=
  c.addresses.Pairwise fun a b => AddressEntry.precedes c.privacy a b

namespace InOrder
variable {c : Config F} {o : Outcome F}

theorem sort_eq (h : c.InOrder) : AddressEntry.sort c.privacy c.addresses = c.addresses :=
  AddressEntry.sort_of_isSorted c.privacy (AddressEntry.isSorted_iff.mpr h)

theorem of_spares (h : c.InOrder) (ho : o.SparesAddresses c) : o.config.InOrder := by
  unfold InOrder
  rw [ho.addresses, ho.privacy]
  exact h

theorem sublist (h : c.InOrder) {l : List (AddressEntry F)} (hl : l.Sublist c.addresses) :
    (c.withAddresses l).InOrder :=
  List.Pairwise.sublist hl h

theorem insertAddress (h : c.InOrder) (e : AddressEntry F) :
    (c.insertAddress e).config.InOrder := by
  rw [(c.insertAddress_puts e).config]
  change (AddressEntry.report c.privacy c.addresses e).Pairwise _
  unfold AddressEntry.report
  split
  · exact h
  · exact AddressEntry.pairwise_sort c.privacy _

theorem dropAddress (h : c.InOrder) (e : AddressEntry F) : (c.dropAddress e).config.InOrder := by
  rw [(c.dropAddress_puts e).config]
  exact h.sublist drop_sublist

end InOrder

theorem inOrder_setPrivacy (c : Config F) (privacy : Privacy) :
    (c.setPrivacy privacy).config.InOrder := by
  unfold Config.setPrivacy
  rw [(sortAddresses_puts _).config]
  exact AddressEntry.pairwise_sort privacy c.addresses

theorem stepwise_inOrder : Stepwise fun (c : Config F) o => c.InOrder → o.config.InOrder where
  start _ h := h
  andThen _ h hstep := fun hc => hstep (h hc)
  relog _ h := h
  insertAddress _ e h := h.insertAddress e
  insertRoute c r h := h.of_spares (c.insertRoute_spares r)
  insertNameserver c a h := h.of_spares (c.insertNameserver_spares a)
  insertDomain c d h := h.of_spares (c.insertDomain_spares d)
  insertSearch c s h := h.of_spares (c.insertSearch_spares s)
  dropAddress _ e h := h.dropAddress e
  dropRoute c r h := (c.dropRoute_puts r).config ▸ h
  dropNameserver c a h := (c.dropNameserver_puts a).config ▸ h
  dropDomain c d h := (c.dropDomain_puts d).config ▸ h
  dropSearch c s h := (c.dropSearch_puts s).config ▸ h
  clearRoutes _ h := h
  clearNameservers _ h := h
  clearDomains _ h := h
  clearSearches _ h := h
  setGateway _ _ h := h
  setNeverDefault _ _ h := h
  setMss _ _ h := h

end Config

namespace Edit
open Config

variable {e : Edit F} {c : Config F} {o : Outcome F}

theorem inOrder_apply (h : e.apply c = some o) (hc : c.InOrder)
    (hsources : ∀ src ∈ e.sources, src.InOrder) : o.config.InOrder := by
  have hstep := stepwise_inOrder (F := F)
  cases e with
  | insertAddress entry => cases h; exact hc.insertAddress entry
  | insertRoute route => cases h; exact hstep.insertRoute c route hc
  | insertNameserver address => cases h; exact hstep.insertNameserver c address hc
  | insertDomain domain => cases h; exact hstep.insertDomain c domain hc
  | insertSearch search => cases h; exact hstep.insertSearch c search hc
  | removeAddress i =>
    rw [(removeAddress_puts h).config]
    exact hc.sublist (List.eraseIdx_sublist _ i)
  | removeRoute i => exact (removeRoute_puts h).config ▸ hc
  | removeNameserver i => exact (removeNameserver_puts h).config ▸ hc
  | removeDomain i => exact (removeDomain_puts h).config ▸ hc
  | removeSearch i => exact (removeSearch_puts h).config ▸ hc
  | clearAddresses => cases h; exact hc.sublist (List.nil_sublist _)
  | clearRoutes | clearNameservers | clearDomains | clearSearches | setGateway _
  | setNeverDefault _ | setMss _ =>
    cases h
    exact hc
  | setPrivacy privacy => cases h; exact c.inOrder_setPrivacy privacy
  | sortAddresses => cases h; exact c.inOrder_setPrivacy c.privacy
  | applySetting setting metric => cases h; exact hstep.applySetting c setting metric hc
  | merge src => cases h; exact hstep.merge c src hc
  | withdraw src => cases h; exact hstep.withdraw c src hc
  | replaceBy src =>
    cases h
    rw [Replacement.config_outcome, config_replaceBy]
    exact hsources src List.mem_cons_self
  | publish pool =>
    cases h
    unfold Config.publish
    split <;> exact hc

end Edit

theorem Config.inOrder_capture {answers : LinkAnswers F} {i : UInt32}
    {resolver : Option NameserverAnswer} {privacy : Privacy} {c : Config F}
    (h : (capture answers i resolver privacy).1 = some c) : c.InOrder := by
  rw [capture_eq] at h
  split at h
  · contradiction
  · cases h
    exact AddressEntry.pairwise_sort privacy _

namespace Move

theorem invariant_inOrder : Invariant (F := F) Config.InOrder fun _ => True where
  create _ := List.Pairwise.nil
  capture _ h := Config.inOrder_capture h
  edit h hc hsources := Edit.inOrder_apply h hc hsources

/-- In every session the addresses of all configurations are in order, repeated or not. -/
theorem inOrder_of_run {ms : List (Move F)} {cs : List (Config F)} (h : run ms = some cs) :
    ∀ c ∈ cs, c.InOrder :=
  invariant_inOrder.of_run h fun _ _ => trivial

end Move

end LinkConfig
