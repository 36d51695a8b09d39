import LinkConfig.Config.Capture
import Mathlib.Data.List.Induction

/-! # Preferred default routes

Of the default routes in a table the one of lowest metric is preferred, and of several the first.
Its place in the table tells which one it is. Where all of lowest metric lead to one gateway, the
order of the table does not matter.
-/
namespace LinkConfig.Route

variable {F : Family} {routes routes' : List (Route F)} {best : Option (Route F)} {d r : Route F}

/-- The better one of the best so far and the next. -/
def prefer (best : Option (Route F)) (r : Route F) : Option (Route F) :=
  match best with
  | none => some r
  | some b => if r.metric < b.metric then some r else some b

/-- No route of the table to the network of all zeros has a lower metric than `d`, which is one of
them. -/
structure IsLowest (routes : List (Route F)) (d : Route F) : Prop where
  mem : d ∈ routes
  network : d.network = .unspecified
  le : ∀ r ∈ routes, r.network = .unspecified → d.metric ≤ r.metric

/-- `d` is the first of the routes of lowest metric to the network of all zeros. -/
def IsFirstLowest (routes : List (Route F)) (d : Route F) : Prop :=
  ∃ before after, routes = before ++ d :: after ∧ d.network = .unspecified ∧
    (∀ r ∈ before, r.network = .unspecified → d.metric < r.metric) ∧
    ∀ r ∈ after, r.network = .unspecified → d.metric ≤ r.metric

/-- Which default route a table prefers, if it has any. -/
def Prefers (routes : List (Route F)) : Option (Route F) → Prop
  | none => ∀ r ∈ routes, r.network ≠ .unspecified
  | some d => IsFirstLowest routes d

theorem isDefault_iff : r.isDefault ↔ r.network = .unspecified := Address.isUnspecified_iff

theorem IsLowest.perm (h : IsLowest routes d) (hperm : routes.Perm routes') : IsLowest routes' d :=
  ⟨hperm.mem_iff.mp h.mem, h.network, fun r hr => h.le r (hperm.mem_iff.mpr hr)⟩

namespace IsFirstLowest

theorem isLowest (h : IsFirstLowest routes d) : IsLowest routes d := by
  obtain ⟨before, after, rfl, hdefault, hbefore, hafter⟩ := h
  refine ⟨List.mem_append_cons_self, hdefault, fun r hr hr0 => ?_⟩
  rcases List.mem_append.mp hr with hr | hr
  · exact UInt32.le_of_lt (hbefore r hr hr0)
  · rcases List.mem_cons.mp hr with rfl | hr
    · exact UInt32.le_refl _
    · exact hafter r hr hr0

/-- A route further down does not come first if its metric is no lower. -/
theorem concat (h : IsFirstLowest routes d) (hr : r.network = .unspecified → d.metric ≤ r.metric) :
    IsFirstLowest (routes ++ [r]) d := by
  obtain ⟨before, after, rfl, hdefault, hbefore, hafter⟩ := h
  refine ⟨before, after ++ [r], by simp, hdefault, hbefore, fun s hs hs0 => ?_⟩
  rcases List.mem_append.mp hs with hs | hs
  · exact hafter s hs hs0
  · obtain rfl := List.mem_singleton.mp hs
    exact hr hs0

/-- A route at the end comes first if its metric is the lowest. -/
theorem last (hr : r.network = .unspecified)
    (h : ∀ s ∈ routes, s.network = .unspecified → r.metric < s.metric) :
    IsFirstLowest (routes ++ [r]) r :=
  ⟨routes, [], rfl, hr, h, fun _ hs => absurd hs List.not_mem_nil⟩

/-- Of two places in the table one comes first, and then it has the lower metric. -/
theorem unique {e : Route F} (hd : IsFirstLowest routes d) (he : IsFirstLowest routes e) :
    d = e := by
  have hle := hd.isLowest.le e he.isLowest.mem he.isLowest.network
  have hge := he.isLowest.le d hd.isLowest.mem hd.isLowest.network
  obtain ⟨before, after, rfl, hdefault, hbefore, -⟩ := hd
  obtain ⟨before', after', hsplit, hdefault', hbefore', -⟩ := he
  rcases List.append_eq_append_iff.mp hsplit with ⟨ms, rfl, hms⟩ | ⟨ms, rfl, hms⟩
  · cases ms with
    | nil => exact (List.cons_eq_cons.mp hms).1
    | cons m ms =>
      obtain ⟨rfl, -⟩ := List.cons_eq_cons.mp hms
      exact absurd (hbefore' d (by simp) hdefault) (UInt32.not_lt.mpr hle)
  · cases ms with
    | nil => exact (List.cons_eq_cons.mp hms).1.symm
    | cons m ms =>
      obtain ⟨rfl, -⟩ := List.cons_eq_cons.mp hms
      exact absurd (hbefore e (by simp) hdefault') (UInt32.not_lt.mpr hge)

end IsFirstLowest

namespace Prefers

theorem isLowest (h : Prefers routes (some d)) : IsLowest routes d := IsFirstLowest.isLowest h

theorem unique {best' : Option (Route F)} (h : Prefers routes best) (h' : Prefers routes best') :
    best = best' := by
  cases best with
  | none =>
    cases best' with
    | none => rfl
    | some e => exact absurd h'.isLowest.network (h e h'.isLowest.mem)
  | some d =>
    cases best' with
    | none => exact absurd h.isLowest.network (h' d h.isLowest.mem)
    | some e => exact congrArg some (IsFirstLowest.unique h h')

/-- One more route at the end of the table is preferred if it is the first default route or has a
lower metric than the one preferred so far. -/
theorem concat (h : Prefers routes best) (r : Route F) :
    Prefers (routes ++ [r]) (if r.isDefault then prefer best r else best) := by
  cases best with
  | none =>
    split
    · next hr =>
      exact .last (isDefault_iff.mp hr) fun s hs hdefault => absurd hdefault (h s hs)
    · next hr =>
      intro s hs
      rcases List.mem_append.mp hs with hs | hs
      · exact h s hs
      · obtain rfl := List.mem_singleton.mp hs
        exact mt isDefault_iff.mpr hr
  | some b =>
    rw [prefer]
    split
    · next hr =>
      split
      · next hlt =>
        refine .last (isDefault_iff.mp hr) fun s hs hdefault => ?_
        exact UInt32.lt_of_lt_of_le hlt (h.isLowest.le s hs hdefault)
      · next hge => exact IsFirstLowest.concat h fun _ => UInt32.not_lt.mp hge
    · next hr => exact IsFirstLowest.concat h fun hdefault => absurd (isDefault_iff.mpr hdefault) hr

end Prefers

theorem preferredDefault_concat (routes : List (Route F)) (r : Route F) :
    preferredDefault (routes ++ [r]) =
      if r.isDefault then prefer (preferredDefault routes) r else preferredDefault routes := by
  have hfold (rs : List (Route F)) :
      preferredDefault rs = (rs.filter isDefault).foldl prefer none := rfl
  rw [hfold, hfold, List.filter_append]
  cases hr : r.isDefault <;> simp [hr]

theorem prefers_preferredDefault (routes : List (Route F)) :
    Prefers routes (preferredDefault routes) := by
  induction routes using List.reverseRecOn with
  | nil => exact fun r hr => absurd hr List.not_mem_nil
  | append_singleton routes r ih =>
    rw [preferredDefault_concat]
    exact ih.concat r

theorem preferredDefault_eq_none_iff :
    preferredDefault routes = none ↔ ∀ r ∈ routes, r.isDefault = false := by
  have hnetwork : (∀ r ∈ routes, r.isDefault = false) ↔ Prefers routes none := by
    simp only [Prefers, ne_eq, ← isDefault_iff, Bool.not_eq_true]
  rw [hnetwork]
  exact ⟨fun h => h ▸ prefers_preferredDefault routes, (prefers_preferredDefault routes).unique⟩

/-- Which of the lowest default routes comes first does not matter if they agree in the gateway. -/
theorem gateway_preferredDefault_of_perm (h : routes'.Perm routes)
    (hagree : ∀ d e, IsLowest routes d → IsLowest routes e → d.gateway = e.gateway) :
    (preferredDefault routes').map gateway = (preferredDefault routes).map gateway := by
  have hbest := prefers_preferredDefault routes
  have hbest' := prefers_preferredDefault routes'
  generalize preferredDefault routes = best at *
  generalize preferredDefault routes' = best' at *
  cases best with
  | none =>
    cases best' with
    | none => rfl
    | some e =>
      have he := hbest'.isLowest.perm h
      exact absurd he.network (hbest e he.mem)
  | some d =>
    have hd := hbest.isLowest
    cases best' with
    | none => exact absurd hd.network (hbest' d (h.mem_iff.mpr hd.mem))
    | some e => exact congrArg some (hagree e d (hbest'.isLowest.perm h) hd)

end LinkConfig.Route
