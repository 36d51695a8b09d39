import LinkConfig.Proofs.CidrText
import LinkConfig.Setting.Declare

/-! # Settings declared again

What a setting holds can be written as declarations, which give the setting back when they are
made again. For this every prefix has to be one of its family, which none is declared without.
-/
namespace LinkConfig
open Text

variable {F : Family} {α : Type}

namespace DeclaredAddress

def cidr (a : DeclaredAddress F) : Cidr := ⟨a.address.widen, a.prefixLen⟩

def declaration (a : DeclaredAddress F) : Declaration :=
  match a.gateway with
  | none => .address a.cidr.text
  | some g => .addressVia a.cidr.text g.text

end DeclaredAddress

namespace DeclaredRoute

def cidr (r : DeclaredRoute F) : Cidr := ⟨r.destination.widen, r.prefixLen⟩

def declaration (r : DeclaredRoute F) : Declaration :=
  .route r.cidr.text (r.nextHop.map Address.text) r.metric

end DeclaredRoute

namespace Setting

/-- The switches that are on. -/
def switches (s : Setting F) : List Declaration :=
  [(s.neverDefault, .neverDefault), (s.ignoreAutoRoutes, .ignoreAutoRoutes),
    (s.ignoreAutoDns, .ignoreAutoDns)].filterMap fun (b, d) => if b then some d else none

/-- The declarations that tell all of a setting but its method. -/
def declarations (s : Setting F) : List Declaration :=
  s.addresses.map DeclaredAddress.declaration ++ s.routes.map DeclaredRoute.declaration ++
    s.nameservers.map (fun a => .nameserver a.text) ++ s.searches.map .search ++ s.switches

/-- The setting is one for the method, and no prefix in it is longer than an address. -/
structure Fits (method : Method) (s : Setting F) : Prop where
  method_eq : s.method = method
  addresses : ∀ a ∈ s.addresses, a.prefixLen ≤ F.hostLen
  routes : ∀ r ∈ s.routes, r.prefixLen ≤ F.hostLen

variable {method : Method} {s t u : Setting F} {text : String}

theorem ofFamily_eq_ok_iff {a : AnyAddress} {b : Address F} :
    ofFamily a text = .ok b ↔ a = b.widen := by
  unfold ofFamily
  rw [Address.widen, ← AnyAddress.narrow_eq_some]
  cases a.narrow F <;> simp

theorem readCidr_text (subject : Subject) {p : Cidr} (h : p.len ≤ p.address.family.hostLen) :
    readCidr subject p.text = .ok p := by
  have hslash : '/' ∈ p.text.toList := by simp [Cidr.toList_text, Cidr.chars]
  rw [readCidr, if_pos hslash, Cidr.toList_text, Cidr.read_chars h]
  rfl

theorem read_text (a : Address F) : AnyAddress.read a.text.toList = .ok a.widen := by
  rw [Address.text, String.toList_ofList]
  exact a.widen.read_chars

theorem readAddress_text (a : Address F) : readAddress a.text = .ok a := by
  refine bind_eq_ok_iff.mpr ⟨a.widen, ?_, ofFamily_eq_ok_iff.mpr rfl⟩
  rw [read_text]
  rfl

theorem readNextHop_text (a : Address F) : readNextHop a.text = .ok a := by
  rw [readNextHop, read_text]
  exact ofFamily_eq_ok_iff.mpr rfl

theorem declareAddress_text {a : Address F} {len : UInt8} (h : len ≤ F.hostLen)
    (g : Option (Address F)) :
    s.declareAddress (Cidr.text ⟨a.widen, len⟩) g =
      .ok { s with addresses := s.addresses ++ [⟨a, len, g⟩] } := by
  have hread := readCidr_text .address (p := ⟨a.widen, len⟩) h
  refine bind_eq_ok_iff.mpr ⟨_, hread, bind_eq_ok_iff.mpr ⟨a, ofFamily_eq_ok_iff.mpr rfl, rfl⟩⟩

theorem declare_address {a : DeclaredAddress F} (h : a.prefixLen ≤ F.hostLen) :
    s.declare a.declaration = .ok { s with addresses := s.addresses ++ [a] } := by
  obtain ⟨a, len, g⟩ := a
  cases g with
  | none => exact declareAddress_text h none
  | some g =>
    refine bind_eq_ok_iff.mpr ⟨g, ?_, declareAddress_text h (some g)⟩
    exact mapError_eq_ok_iff.mpr (readAddress_text g)

theorem declare_route {r : DeclaredRoute F} (h : r.prefixLen ≤ F.hostLen) :
    s.declare r.declaration = .ok { s with routes := s.routes ++ [r] } := by
  obtain ⟨a, len, hop, metric⟩ := r
  have hread := readCidr_text .destination (p := ⟨a.widen, len⟩) h
  have hhop : (hop.map Address.text).mapM readNextHop = .ok hop := by
    cases hop with
    | none => rfl
    | some g =>
      simp only [Option.map_some, Option.mapM_some, readNextHop_text]
      rfl
  refine bind_eq_ok_iff.mpr ⟨_, hread, bind_eq_ok_iff.mpr ⟨a, ofFamily_eq_ok_iff.mpr rfl, ?_⟩⟩
  exact bind_eq_ok_iff.mpr ⟨hop, hhop, rfl⟩

theorem declare_nameserver (a : Address F) :
    s.declare (.nameserver a.text) = .ok { s with nameservers := s.nameservers ++ [a] } :=
  bind_eq_ok_iff.mpr ⟨a, readAddress_text a, rfl⟩

theorem declareAll_append {ds es : List Declaration} (hds : s.declareAll ds = .ok t)
    (hes : t.declareAll es = .ok u) : s.declareAll (ds ++ es) = .ok u := by
  unfold declareAll at *
  rw [List.foldlM_append, hds]
  exact hes

/-- Declarations that each append one element append the whole list. -/
theorem declareAll_map (f : α → Declaration) (put : List α → Setting F) {xs : List α}
    (h : ∀ l, ∀ x ∈ xs, (put l).declare (f x) = .ok (put (l ++ [x]))) (l : List α) :
    (put l).declareAll (xs.map f) = .ok (put (l ++ xs)) := by
  induction xs generalizing l with
  | nil => rw [List.append_nil]; rfl
  | cons x xs ih =>
    have hrest := ih (fun l y hy => h l y (List.mem_cons_of_mem x hy)) (l ++ [x])
    rw [List.append_assoc] at hrest
    rw [List.map_cons, declareAll, List.foldlM_cons, h l x List.mem_cons_self]
    exact hrest

theorem declareAll_addresses (s : Setting F) {as : List (DeclaredAddress F)}
    (h : ∀ a ∈ as, a.prefixLen ≤ F.hostLen) :
    s.declareAll (as.map DeclaredAddress.declaration) =
      .ok { s with addresses := s.addresses ++ as } :=
  declareAll_map _ (fun l => { s with addresses := l })
    (fun _ a ha => declare_address (h a ha)) s.addresses

theorem declareAll_routes (s : Setting F) {rs : List (DeclaredRoute F)}
    (h : ∀ r ∈ rs, r.prefixLen ≤ F.hostLen) :
    s.declareAll (rs.map DeclaredRoute.declaration) = .ok { s with routes := s.routes ++ rs } :=
  declareAll_map _ (fun l => { s with routes := l })
    (fun _ r hr => declare_route (h r hr)) s.routes

theorem declareAll_nameservers (s : Setting F) (as : List (Address F)) :
    s.declareAll (as.map fun a => .nameserver a.text) =
      .ok { s with nameservers := s.nameservers ++ as } :=
  declareAll_map _ (fun l => { s with nameservers := l })
    (fun _ a _ => declare_nameserver a) s.nameservers

theorem declareAll_searches (s : Setting F) (xs : List String) :
    s.declareAll (xs.map .search) = .ok { s with searches := s.searches ++ xs } :=
  declareAll_map _ (fun l => { s with searches := l }) (fun _ _ _ => rfl) s.searches

theorem declareAll_switches (s t : Setting F) :
    s.declareAll t.switches = .ok { s with
      neverDefault := s.neverDefault || t.neverDefault
      ignoreAutoRoutes := s.ignoreAutoRoutes || t.ignoreAutoRoutes
      ignoreAutoDns := s.ignoreAutoDns || t.ignoreAutoDns } := by
  unfold switches
  cases t.neverDefault <;> cases t.ignoreAutoRoutes <;> cases t.ignoreAutoDns <;>
    simp [declareAll, declare, pure, Except.pure, bind, Except.bind]

theorem Fits.declareAll_declarations (h : s.Fits method) :
    ({ method } : Setting F).declareAll s.declarations = .ok s := by
  obtain ⟨rfl, haddresses, hroutes⟩ := h
  have haddresses := declareAll_addresses { method := s.method } haddresses
  have hroutes := declareAll_append haddresses (declareAll_routes _ hroutes)
  have hnameservers := declareAll_append hroutes (declareAll_nameservers _ s.nameservers)
  have hsearches := declareAll_append hnameservers (declareAll_searches _ s.searches)
  exact declareAll_append hsearches (declareAll_switches _ s)

theorem len_le_of_readCidr {subject : Subject} {p : Cidr} (h : readCidr subject text = .ok p)
    {a : Address F} (ha : ofFamily p.address text = .ok a) : p.len ≤ F.hostLen := by
  unfold readCidr at h
  split at h
  · have hlen := Cidr.len_le_of_read (mapError_eq_ok_iff.mp h)
    rwa [ofFamily_eq_ok_iff.mp ha] at hlen
  · contradiction

namespace Fits

theorem declareAddress (hs : s.Fits method) {g : Option (Address F)}
    (h : s.declareAddress text g = .ok t) : t.Fits method := by
  obtain ⟨p, hp, h⟩ := bind_eq_ok_iff.mp h
  obtain ⟨a, ha, h⟩ := bind_eq_ok_iff.mp h
  cases h
  refine { hs with addresses := ?_ }
  intro b hb
  rcases List.mem_append.mp hb with hb | hb
  · exact hs.addresses b hb
  · rw [List.mem_singleton.mp hb]
    exact len_le_of_readCidr hp ha

theorem declareRoute (hs : s.Fits method) {via : Option String} {metric : UInt32}
    (h : s.declareRoute text via metric = .ok t) : t.Fits method := by
  obtain ⟨p, hp, h⟩ := bind_eq_ok_iff.mp h
  obtain ⟨a, ha, h⟩ := bind_eq_ok_iff.mp h
  obtain ⟨hop, -, h⟩ := bind_eq_ok_iff.mp h
  cases h
  refine { hs with routes := ?_ }
  intro r hr
  rcases List.mem_append.mp hr with hr | hr
  · exact hs.routes r hr
  · rw [List.mem_singleton.mp hr]
    exact len_le_of_readCidr hp ha

theorem declare (hs : s.Fits method) {d : Declaration} (h : s.declare d = .ok t) :
    t.Fits method := by
  cases d with
  | address text => exact hs.declareAddress h
  | addressVia text gateway =>
    obtain ⟨g, -, h⟩ := bind_eq_ok_iff.mp h
    exact hs.declareAddress h
  | route text via metric => exact hs.declareRoute h
  | nameserver text =>
    obtain ⟨a, -, h⟩ := bind_eq_ok_iff.mp h
    cases h
    exact { hs with }
  | search _ | neverDefault | ignoreAutoRoutes | ignoreAutoDns =>
    cases h
    exact { hs with }

theorem build (hs : s.Fits method) (ds : List Declaration) : (s.build ds).Fits method := by
  induction ds generalizing s with
  | nil => exact hs
  | cons d ds ih =>
    refine ih ?_
    change Fits method ((s.declare d).toOption.getD s)
    cases hd : s.declare d with
    | error e => exact hs
    | ok t => exact hs.declare hd

end Fits

/-- However a setting was declared, its prefixes are ones of the family, and its declarations can
all be made again and give it back. -/
theorem build_declarations (method : Method) (ds : List Declaration) :
    let s := ({ method } : Setting F).build ds
    (∀ a ∈ s.addresses, a.prefixLen ≤ F.hostLen) ∧ (∀ r ∈ s.routes, r.prefixLen ≤ F.hostLen) ∧
      ({ method } : Setting F).declareAll s.declarations = .ok s := by
  have hempty : Fits method ({ method } : Setting F) := ⟨rfl, by simp, by simp⟩
  have hfits := hempty.build ds
  exact ⟨hfits.addresses, hfits.routes, hfits.declareAll_declarations⟩

/-- Two of the declarations cannot be read. The others are not written in the way in which they are
written again. -/
def looseDeclarations : List Declaration :=
  [.address "10.0.0.2/24", .addressVia " 0:0:0:0:0:FFFF:a00:1 / +096 " "::0", .ignoreAutoDns,
    .route "2001:DB8:0:1:0::/048" (some "FE80::1") 50, .address "fe80::1/129",
    .nameserver "::192.0.2.1", .search "", .search ""]

theorem build_declarations_looseDeclarations :
    let s := ({ method := .manual } : Setting .v6).build looseDeclarations
    s.addresses = [⟨⟨0xffff0a000001⟩, 96, some ⟨0⟩⟩] ∧
      s.declarations =
        [.addressVia "::ffff:10.0.0.1/96" "::", .route "2001:db8:0:1::/48" (some "fe80::1") 50,
          .nameserver "::c000:201", .search "", .search "", .ignoreAutoDns] ∧
      (∀ a ∈ s.addresses, a.prefixLen ≤ Family.hostLen .v6) ∧
      ({ method := .manual } : Setting .v6).declareAll s.declarations = .ok s := by
  intro s
  obtain ⟨haddresses, -, hagain⟩ := build_declarations (F := .v6) .manual looseDeclarations
  exact ⟨by decide, by decide, haddresses, hagain⟩

end Setting

end LinkConfig
