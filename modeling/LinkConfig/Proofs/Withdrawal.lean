import LinkConfig.Proofs.WellFormed
import Mathlib.Data.List.Induction

/-! # Withdrawing what was merged

Contributions that have no entry in common can be merged into a configuration and withdrawn from it
in any order. Merging them puts their lists one after another, with the addresses sorted, and takes
the first gateway and the first MSS there are. Withdrawing one of them cuts its segments out again:
sorting commutes with leaving entries out.
-/
namespace LinkConfig
open Keyed

variable {F : Family} {α κ : Type}

section Fill
variable [DecidableEq α] {z x y : α} {ys pre post : List α}

/-- The value, or `y` if it is only the `z` that stands for none. -/
def fill (z x y : α) : α := if x = z then y else x

/-- The value, unless `y` is one and the same. -/
def unfill (z x y : α) : α := if y ≠ z ∧ x = y then z else x

/-- The value `x` is one that no other shares, or it is none and so are the others but one. -/
def Exclusive (z x : α) (ys : List α) : Prop :=
  if x = z then ys.countP (· ≠ z) ≤ 1 else x ∉ ys

instance (z x : α) (ys : List α) : Decidable (Exclusive z x ys) :=
  inferInstanceAs (Decidable (if x = z then ys.countP (· ≠ z) ≤ 1 else x ∉ ys))

theorem foldl_fill_of_ne (hx : x ≠ z) : ys.foldl (fill z) x = x := by
  induction ys with
  | nil => rfl
  | cons y ys ih => rwa [List.foldl_cons, fill, if_neg hx]

theorem foldl_fill_of_forall_eq (h : ∀ y ∈ ys, y = z) : ys.foldl (fill z) x = x := by
  induction ys with
  | nil => rfl
  | cons y ys ih =>
    have hfill : fill z x y = x := by
      rw [fill, h y List.mem_cons_self, ite_eq_right_iff]
      exact Eq.symm
    rw [List.foldl_cons, hfill]
    exact ih fun y hy => h y (List.mem_cons_of_mem _ hy)

theorem forall_eq_of_countP_eq_zero (h : ys.countP (· ≠ z) = 0) : ∀ y ∈ ys, y = z := by
  intro y hy
  simpa using List.countP_eq_zero.mp h y hy

/-- Where nothing is shared, taking a value back leaves what there would be without it. -/
theorem unfill_foldl_fill (h : Exclusive z x (pre ++ y :: post)) :
    unfill z ((pre ++ y :: post).foldl (fill z) x) y = (pre ++ post).foldl (fill z) x := by
  unfold Exclusive at h
  split at h
  · next hx =>
    subst hx
    -- There is no value at the start: either `y` is none too, or it is the only one to come.
    by_cases hy : y = x
    · subst hy
      rw [unfill, if_neg (by simp), List.foldl_append, List.foldl_append, List.foldl_cons, fill]
      split
      · next hpre => rw [hpre]
      · rfl
    · rw [List.countP_append, List.countP_cons_of_pos (by simpa using hy)] at h
      have hpre : ∀ w ∈ pre, w = x := forall_eq_of_countP_eq_zero (by omega)
      have hpost : ∀ w ∈ post, w = x := forall_eq_of_countP_eq_zero (by omega)
      have hwithout : (pre ++ post).foldl (fill x) x = x := by
        rw [List.foldl_append, foldl_fill_of_forall_eq hpre, foldl_fill_of_forall_eq hpost]
      have hwith : (pre ++ y :: post).foldl (fill x) x = y := by
        rw [List.foldl_append, foldl_fill_of_forall_eq hpre, List.foldl_cons, fill, if_pos rfl,
          foldl_fill_of_ne hy]
      rw [hwith, hwithout, unfill, if_pos ⟨hy, rfl⟩]
  · next hx =>
    have hne : x ≠ y := by
      rintro rfl
      exact h (by simp)
    rw [foldl_fill_of_ne hx, foldl_fill_of_ne hx, unfill, if_neg fun hy => hne hy.2]

theorem Exclusive.singleton (h : Exclusive z x ys) (hy : y ∈ ys) : Exclusive z x [y] := by
  unfold Exclusive at h ⊢
  split
  · exact List.countP_le_length
  · next hx =>
    rw [if_neg hx] at h
    rw [List.mem_singleton]
    rintro rfl
    exact h hy

/-- A value is taken exactly if it can be taken back. -/
theorem fill_eq_iff (h : Exclusive z x [y]) : x = z ∧ y ≠ z ↔ y ≠ z ∧ fill z x y = y := by
  unfold Exclusive at h
  unfold fill
  split at h
  · next hx => simp [hx]
  · next hx =>
    rw [List.mem_singleton] at h
    simp [hx, h]

end Fill

theorem bind_specified?_eq {g : Option (Address F)} (h : g ≠ some .unspecified) :
    g.bind Address.specified? = g := by
  cases g with
  | none => rfl
  | some a =>
    have ha : ¬ a.isUnspecified := by
      rw [Address.isUnspecified_iff]
      rintro rfl
      exact h rfl
    rw [Option.bind_some, Address.specified?, if_neg ha]

namespace Config

/-- No entry of one configuration is in the other: addresses count by value, routes by
destination. -/
structure DisjointFrom (a b : Config F) : Prop where
  addresses : (a.addresses.map AddressEntry.address).Disjoint
    (b.addresses.map AddressEntry.address)
  routes : (a.routes.map Route.destination).Disjoint (b.routes.map Route.destination)
  nameservers : a.nameservers.Disjoint b.nameservers
  domains : a.domains.Disjoint b.domains
  searches : a.searches.Disjoint b.searches

instance (a b : Config F) : Decidable (a.DisjointFrom b) :=
  decidable_of_iff
    ((∀ k ∈ a.addresses.map AddressEntry.address, k ∉ b.addresses.map AddressEntry.address) ∧
      (∀ k ∈ a.routes.map Route.destination, k ∉ b.routes.map Route.destination) ∧
      (∀ n ∈ a.nameservers, n ∉ b.nameservers) ∧ (∀ d ∈ a.domains, d ∉ b.domains) ∧
      ∀ s ∈ a.searches, s ∉ b.searches)
    ⟨fun ⟨h₁, h₂, h₃, h₄, h₅⟩ => ⟨h₁, h₂, h₃, h₄, h₅⟩,
      fun ⟨h₁, h₂, h₃, h₄, h₅⟩ => ⟨h₁, h₂, h₃, h₄, h₅⟩⟩

/-- A base and contributions to it, no two of which have an entry in common. -/
structure Separate (a : Config F) (bs : List (Config F)) : Prop where
  wellFormed : ∀ c ∈ a :: bs, c.WellFormed
  disjoint : (a :: bs).Pairwise DisjointFrom

namespace Separate
variable {a : Config F} {bs bs' : List (Config F)}

theorem sublist (h : Separate a bs) (hs : bs'.Sublist bs) : Separate a bs' where
  wellFormed c hc := h.wellFormed c ((hs.cons_cons a).subset hc)
  disjoint := h.disjoint.sublist (hs.cons_cons a)

theorem nodup_keys {f : Config F → List α} {key : α → κ}
    (hf : ∀ c ∈ a :: bs, ((f c).map key).Nodup)
    (hd : (a :: bs).Pairwise fun b c => ((f b).map key).Disjoint ((f c).map key)) :
    ((f a ++ bs.flatMap f).map key).Nodup := by
  have hflat : (f a ++ bs.flatMap f).map key = (a :: bs).flatMap fun c => (f c).map key := by
    rw [List.map_append, List.map_flatMap, List.flatMap_cons]
  rw [hflat, List.nodup_flatMap]
  exact ⟨hf, hd⟩

theorem addresses_nodup (h : Separate a bs) :
    ((a.addresses ++ bs.flatMap (·.addresses)).map AddressEntry.address).Nodup :=
  nodup_keys (fun c hc => (h.wellFormed c hc).addresses_nodup)
    (h.disjoint.imp fun hd => hd.addresses)

theorem routes_nodup (h : Separate a bs) :
    ((a.routes ++ bs.flatMap (·.routes)).map Route.destination).Nodup :=
  nodup_keys (fun c hc => (h.wellFormed c hc).routes_nodup)
    (h.disjoint.imp fun hd => hd.routes)

theorem nodup_values {f : Config F → List α} (hf : ∀ c ∈ a :: bs, (f c).Nodup)
    (hd : (a :: bs).Pairwise fun b c => (f b).Disjoint (f c)) : (f a ++ bs.flatMap f).Nodup :=
  List.nodup_flatMap.mpr ⟨hf, hd⟩

theorem nameservers_nodup (h : Separate a bs) :
    (a.nameservers ++ bs.flatMap (·.nameservers)).Nodup :=
  nodup_values (fun c hc => (h.wellFormed c hc).nameservers_nodup)
    (h.disjoint.imp fun hd => hd.nameservers)

theorem domains_nodup (h : Separate a bs) : (a.domains ++ bs.flatMap (·.domains)).Nodup :=
  nodup_values (fun c hc => (h.wellFormed c hc).domains_nodup)
    (h.disjoint.imp fun hd => hd.domains)

theorem searches_nodup (h : Separate a bs) : (a.searches ++ bs.flatMap (·.searches)).Nodup :=
  nodup_values (fun c hc => (h.wellFormed c hc).searches_nodup)
    (h.disjoint.imp fun hd => hd.searches)

end Separate

/-- The configuration with the contributions merged into it, in order. -/
def mergeAll (a : Config F) (bs : List (Config F)) : Config F :=
  bs.foldl (fun c b => (c.merge b).config) a

/-- What merging comes to if no entries are shared. -/
def joined (a : Config F) (bs : List (Config F)) : Config F :=
  { a with
    addresses := AddressEntry.sort a.privacy (a.addresses ++ bs.flatMap (·.addresses))
    routes := a.routes ++ bs.flatMap (·.routes)
    gateway := (bs.map (·.gateway)).foldl (fill none) a.gateway
    nameservers := a.nameservers ++ bs.flatMap (·.nameservers)
    domains := a.domains ++ bs.flatMap (·.domains)
    searches := a.searches ++ bs.flatMap (·.searches)
    mss := (bs.map (·.mss)).foldl (fill 0) a.mss }

variable {a b : Config F} {bs pre post : List (Config F)}

theorem config_merge_fill (c : Config F) (hb : b.WellFormed) :
    (c.merge b).config = { c with
      addresses := b.addresses.foldl (AddressEntry.report c.privacy) c.addresses
      routes := b.routes.foldl (upsert Route.destination Route.updated) c.routes
      gateway := fill none c.gateway b.gateway
      nameservers := b.nameservers.foldl insertNew c.nameservers
      domains := b.domains.foldl insertName c.domains
      searches := b.searches.foldl insertName c.searches
      mss := fill 0 c.mss b.mss } := by
  have hgateway : (if c.gateway.isNone then b.gateway else c.gateway) =
      fill none c.gateway b.gateway := if_congr Option.isNone_iff_eq_none rfl rfl
  have hmss : (if c.mss == 0 then b.mss else c.mss) = fill 0 c.mss b.mss :=
    if_congr beq_iff_eq rfl rfl
  rw [config_merge, bind_specified?_eq hb.gateway_specified, hgateway, hmss]

theorem config_withdraw_unfill (c b : Config F) :
    (c.withdraw b).config = { c with
      addresses := b.addresses.foldl (drop AddressEntry.address) c.addresses
      routes := b.routes.foldl (drop Route.destination) c.routes
      gateway := unfill none c.gateway b.gateway
      nameservers := b.nameservers.foldl (drop id) c.nameservers
      domains := b.domains.foldl (drop id) c.domains
      searches := b.searches.foldl (drop id) c.searches
      mss := unfill 0 c.mss b.mss } := by
  have hgateway : (if b.gateway.isSome && c.gateway == b.gateway then none else c.gateway) =
      unfill none c.gateway b.gateway := by
    refine if_congr ?_ rfl rfl
    rw [Bool.and_eq_true, beq_iff_eq, Option.isSome_iff_ne_none]
  have hmss : (if b.mss != 0 && c.mss == b.mss then 0 else c.mss) = unfill 0 c.mss b.mss := by
    refine if_congr ?_ rfl rfl
    rw [Bool.and_eq_true, beq_iff_eq, bne_iff_ne]
  rw [config_withdraw, hgateway, hmss]

/-- The next contribution continues the lists of those before. -/
theorem merge_joined (h : Separate a (bs ++ [b])) :
    ((joined a bs).merge b).config = joined a (bs ++ [b]) := by
  have hb := h.wellFormed b (by simp)
  have hflat {α : Type} (f : Config F → List α) :
      f a ++ (bs ++ [b]).flatMap f = f a ++ bs.flatMap f ++ f b := by simp
  have haddresses := h.addresses_nodup
  have hroutes := h.routes_nodup
  have hnameservers := h.nameservers_nodup
  have hdomains := h.domains_nodup
  have hsearches := h.searches_nodup
  rw [hflat] at haddresses hroutes hnameservers hdomains hsearches
  rw [config_merge_fill _ hb]
  unfold joined
  rw [hflat, hflat, hflat, hflat, hflat, List.map_append, List.map_append, List.foldl_append,
    List.foldl_append]
  dsimp only
  rw [AddressEntry.foldl_report_sort haddresses, foldl_upsert_of_nodup hroutes,
    foldl_insertNew_of_nodup hnameservers,
    foldl_insertName_of_nodup hdomains hb.domains_named,
    foldl_insertName_of_nodup hsearches hb.searches_named]
  rfl

theorem mergeAll_eq_joined (h : Separate a bs) : mergeAll a bs = joined a bs := by
  induction bs using List.reverseRecOn with
  | nil =>
    have ha := h.wellFormed a List.mem_cons_self
    simp [mergeAll, joined, ha.addresses_ascending.sort_eq]
  | append_singleton bs b ih =>
    calc mergeAll a (bs ++ [b])
        = ((mergeAll a bs).merge b).config := by rw [mergeAll, List.foldl_append]; rfl
      _ = ((joined a bs).merge b).config := by rw [ih (h.sublist (List.sublist_append_left bs [b]))]
      _ = joined a (bs ++ [b]) := merge_joined h

theorem withdraw_joined (h : Separate a (pre ++ b :: post))
    (hgateway : Exclusive none a.gateway ((pre ++ b :: post).map (·.gateway)))
    (hmss : Exclusive 0 a.mss ((pre ++ b :: post).map (·.mss))) :
    ((joined a (pre ++ b :: post)).withdraw b).config = joined a (pre ++ post) := by
  have hwith {α : Type} (f : Config F → List α) :
      f a ++ (pre ++ b :: post).flatMap f = f a ++ pre.flatMap f ++ f b ++ post.flatMap f := by simp
  have hwithout {α : Type} (f : Config F → List α) :
      f a ++ (pre ++ post).flatMap f = f a ++ pre.flatMap f ++ post.flatMap f := by simp
  have haddresses := h.addresses_nodup
  have hroutes := h.routes_nodup
  have hnameservers := h.nameservers_nodup
  have hdomains := h.domains_nodup
  have hsearches := h.searches_nodup
  rw [hwith] at haddresses hroutes hnameservers hdomains hsearches
  rw [List.map_append, List.map_cons] at hgateway hmss
  rw [config_withdraw_unfill]
  unfold joined
  simp only [hwith, hwithout, List.map_append, List.map_cons]
  rw [AddressEntry.foldl_drop_sort haddresses, foldl_drop_append hroutes,
    foldl_drop_id_append hnameservers, foldl_drop_id_append hdomains,
    foldl_drop_id_append hsearches, unfill_foldl_fill hgateway, unfill_foldl_fill hmss]

/-- Merging one contribution and withdrawing it report the same. -/
theorem changes_withdraw_merge (h : Separate a [b])
    (hgateway : Exclusive none a.gateway [b.gateway]) :
    ((a.merge b).config.withdraw b).changes = (a.merge b).changes := by
  have hb := h.wellFormed b (by simp)
  have hmerged : (a.merge b).config = joined a [b] := mergeAll_eq_joined h
  have hflat {α : Type} (f : Config F → List α) : f a ++ [b].flatMap f = f a ++ f b := by simp
  have haddresses := h.addresses_nodup
  have hroutes := h.routes_nodup
  have hnameservers := h.nameservers_nodup
  have hdomains := h.domains_nodup
  have hsearches := h.searches_nodup
  rw [hflat] at haddresses hroutes hnameservers hdomains hsearches
  have hg : (b.gateway.isSome && (joined a [b]).gateway == b.gateway) =
      (a.gateway.isNone && a.gateway != b.gateway) := by
    rw [Bool.eq_iff_iff, Bool.and_eq_true, Bool.and_eq_true, beq_iff_eq, bne_iff_ne,
      Option.isSome_iff_ne_none, Option.isNone_iff_eq_none]
    refine (fill_eq_iff hgateway).symm.trans (and_congr_right fun ha => ?_)
    rw [ha, ne_comm]
  rw [changes_merge, changes_withdraw, hmerged, hg, bind_specified?_eq hb.gateway_specified,
    AddressEntry.changesIn_report haddresses, changesIn_upsert hroutes,
    changesIn_insertNew hnameservers, changesIn_insertName hdomains hb.domains_named,
    changesIn_insertName hsearches hb.searches_named]
  unfold joined
  simp only [hflat]
  have hright {α : Type} {l : List α} {r : List α} : ∀ x ∈ r, x ∈ l ++ r :=
    fun _ => List.mem_append_right l
  rw [changesIn_drop fun x hx => AddressEntry.mem_sort.mpr (hright x hx), changesIn_drop hright,
    changesIn_drop hright, changesIn_drop hright, changesIn_drop hright]

/-- However many separate contributions are merged, withdrawing one of them leaves what merging the
others gives. A single one is withdrawn without a trace, and reports what it reported before. -/
theorem withdraw_mergeAll (h : Separate a (pre ++ b :: post))
    (hgateway : Exclusive none a.gateway ((pre ++ b :: post).map (·.gateway)))
    (hmss : Exclusive 0 a.mss ((pre ++ b :: post).map (·.mss))) :
    ((a.mergeAll (pre ++ b :: post)).withdraw b).config = a.mergeAll (pre ++ post) ∧
      ((a.merge b).config.withdraw b).config = a ∧
      ((a.merge b).config.withdraw b).changes = (a.merge b).changes := by
  have hmem : b ∈ pre ++ b :: post := by simp
  have hone : Separate a [b] := h.sublist (List.singleton_sublist.mpr hmem)
  have hg : Exclusive none a.gateway [b.gateway] := hgateway.singleton (List.mem_map_of_mem hmem)
  have hm : Exclusive 0 a.mss [b.mss] := hmss.singleton (List.mem_map_of_mem hmem)
  have hothers := h.sublist ((List.sublist_cons_self b post).append_left pre)
  refine ⟨?_, ?_, changes_withdraw_merge hone hg⟩
  · rw [mergeAll_eq_joined h, mergeAll_eq_joined hothers, withdraw_joined h hgateway hmss]
  · have hmerged : (a.merge b).config = joined a ([] ++ b :: []) := mergeAll_eq_joined hone
    have hnone : a = joined a ([] ++ []) := mergeAll_eq_joined (h.sublist (List.nil_sublist _))
    rw [hmerged, withdraw_joined hone hg hm, ← hnone]

/-- A tunnel is taken down, and what a lease and a router contribute stays. -/
theorem withdraw_mergeAll_tunnel :
    let own : Config .v4 := { addresses := [{ address := ⟨0x0a000005⟩, prefixLen := 24 }] }
    let lease : Config .v4 :=
      { addresses := [{ address := ⟨0x0a000007⟩, prefixLen := 24, source := .dhcp }]
        gateway := some ⟨0x0a0000fe⟩, nameservers := [⟨0x0a000035⟩], domains := ["lan"] }
    let router : Config .v4 := { routes := [{ network := ⟨0x0a020000⟩, prefixLen := 16 }] }
    let tunnel : Config .v4 :=
      { addresses := [{ address := ⟨0x0a000001⟩, prefixLen := 32, source := .vpn }]
        routes := [{ network := ⟨0x0a010000⟩, prefixLen := 16 }], domains := ["vpn"], mss := 1380 }
    ((own.mergeAll [lease, tunnel, router]).withdraw tunnel).config =
      own.mergeAll [lease, router] := by
  intro own lease router tunnel
  have hwf : ∀ c ∈ [own, lease, tunnel, router], c.WellFormed := by decide
  have hdisjoint : [own, lease, tunnel, router].Pairwise DisjointFrom := by decide
  have hgateway : Exclusive none own.gateway ([lease, tunnel, router].map (·.gateway)) := by decide
  have hmss : Exclusive 0 own.mss ([lease, tunnel, router].map (·.mss)) := by decide
  have hseparate : Separate own ([lease] ++ tunnel :: [router]) := ⟨hwf, hdisjoint⟩
  exact (withdraw_mergeAll hseparate hgateway hmss).1

end Config

end LinkConfig
