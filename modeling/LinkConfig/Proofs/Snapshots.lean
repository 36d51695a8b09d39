import LinkConfig.Config.Published
import LinkConfig.Config.Snapshot
import LinkConfig.Proofs.AddressText
import LinkConfig.Proofs.DocumentText

/-! # What a snapshot tells

A snapshot is a document of what is published, and where. The snapshots of two configurations are
the same text exactly if the configurations publish the same and are published at one place. A
member that is left out is told from one that is not by the keys that follow.
-/
namespace LinkConfig.Config
open Document

variable {F : Family}

def publishedAddress (gateway : Address F) (a : Address F × UInt8) : Document :=
  .object [("address", .text a.1.text), ("prefix", .number a.2.toNat),
    ("gateway", .text gateway.text)]

def publishedRoute (r : PublishedRoute F) : Document :=
  .object [("dest", .text r.network.text), ("prefix", .number r.prefixLen.toNat),
    ("next-hop", .text r.gateway.text), ("metric", .number r.metric.toNat)]

/-- What is published at a path, as a document. -/
def snapshotOf (path : Option String) (p : Published F) : Document :=
  .object <|
    memberIf "path" path ++
    memberIf "gateway" (p.gateway.map Address.text) ++
    [("addresses", .array (p.addresses.map (publishedAddress (p.gateway.getD .unspecified)))),
     ("routes", .array (p.routes.map publishedRoute)),
     ("nameservers", texts (p.nameservers.map Address.text)),
     ("domains", texts p.domains),
     ("searches", texts p.searches)]

/-- A snapshot shows what is published of a configuration, and no more of its entries than that. -/
theorem snapshot_eq (c : Config F) : c.snapshot = snapshotOf c.path c.published := by
  rw [snapshot, snapshotOf, published, List.map_map, List.map_map]
  rfl

theorem memberIf_append_inj {key : String} {v w : Option String}
    {ms ns : List (String × Document)} (hms : key ∉ ms.map Prod.fst) (hns : key ∉ ns.map Prod.fst)
    (h : memberIf key v ++ ms = memberIf key w ++ ns) : v = w ∧ ms = ns := by
  cases v with
  | none =>
    cases w with
    | none => exact ⟨rfl, h⟩
    | some b =>
      obtain rfl : ms = (key, text b) :: ns := h
      exact absurd List.mem_cons_self hms
  | some a =>
    cases w with
    | none =>
      obtain rfl : (key, text a) :: ms = ns := h
      exact absurd List.mem_cons_self hns
    | some b =>
      obtain ⟨hhead, hrest⟩ := List.cons.inj h
      cases hhead
      exact ⟨rfl, hrest⟩

theorem texts_injective : Function.Injective texts := by
  intro ts us h
  exact (List.map_inj_right fun _ _ => Document.text.inj).mp (Document.array.inj h)

theorem publishedAddress_injective (gateway : Address F) :
    Function.Injective (publishedAddress gateway) := by
  intro a b h
  simp only [publishedAddress, Document.object.injEq, List.cons.injEq, Prod.mk.injEq,
    Document.text.injEq, Document.number.injEq, true_and, and_true] at h
  exact Prod.ext (Address.text_injective h.1) (UInt8.toNat_inj.mp h.2)

theorem publishedRoute_injective : Function.Injective (publishedRoute (F := F)) := by
  intro a b h
  simp only [publishedRoute, Document.object.injEq, List.cons.injEq, Prod.mk.injEq,
    Document.text.injEq, Document.number.injEq, true_and, and_true] at h
  obtain ⟨hnetwork, hprefix, hgateway, hmetric⟩ := h
  cases a
  cases b
  simp only [PublishedRoute.mk.injEq]
  exact ⟨Address.text_injective hnetwork, UInt8.toNat_inj.mp hprefix,
    Address.text_injective hgateway, UInt32.toNat_inj.mp hmetric⟩

theorem snapshotOf_inj {path path' : Option String} {p q : Published F}
    (h : snapshotOf path p = snapshotOf path' q) : path = path' ∧ p = q := by
  have hmembers := Document.object.inj h
  simp only [List.append_assoc] at hmembers
  obtain ⟨hpath, hmembers⟩ := memberIf_append_inj (by simp [memberIf]) (by simp [memberIf]) hmembers
  obtain ⟨hgateway, hmembers⟩ := memberIf_append_inj (by simp) (by simp) hmembers
  have hgateway : p.gateway = q.gateway := Option.map_injective Address.text_injective hgateway
  simp only [List.cons.injEq, Prod.mk.injEq, true_and, and_true, Document.array.injEq, hgateway]
    at hmembers
  obtain ⟨haddresses, hroutes, hnameservers, hdomains, hsearches⟩ := hmembers
  have haddresses := (List.map_inj_right (publishedAddress_injective _)).mp haddresses
  have hroutes := (List.map_inj_right publishedRoute_injective).mp hroutes
  have hnameservers := (List.map_inj_right Address.text_injective).mp (texts_injective hnameservers)
  refine ⟨hpath, ?_⟩
  cases p
  cases q
  simp only [Published.mk.injEq]
  exact ⟨hgateway, haddresses, hroutes, hnameservers, texts_injective hdomains,
    texts_injective hsearches⟩

theorem json_eq_iff_of_isBlank {l : Layout} (hl : l.IsBlank) {c d : Config F} :
    c.json l = d.json l ↔ c.agrees d ∧ c.path = d.path := by
  rw [agrees, beq_iff_eq]
  constructor
  · intro h
    have hsnapshot : c.snapshot = d.snapshot := write_injective hl (String.ofList_injective h)
    rw [snapshot_eq, snapshot_eq] at hsnapshot
    exact (snapshotOf_inj hsnapshot).symm
  · rintro ⟨hpublished, hpath⟩
    rw [json, json, snapshot_eq, snapshot_eq, hpublished, hpath]

/-- In either layout the text says what is published, and where, and nothing else. -/
theorem json_eq_json_iff (c d : Config F) :
    (c.json .compact = d.json .compact ↔ c.agrees d ∧ c.path = d.path) ∧
      (c.json .indented = d.json .indented ↔ c.agrees d ∧ c.path = d.path) :=
  ⟨json_eq_iff_of_isBlank Layout.isBlank_compact, json_eq_iff_of_isBlank Layout.isBlank_indented⟩

end LinkConfig.Config
