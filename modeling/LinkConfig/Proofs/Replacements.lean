import LinkConfig.Config.Combine

/-! # One configuration in the place of another

Replacing a configuration leaves the other one, published where the first was. What it calls
relevant are the published fields in which the two differ, and it calls something changed if they
differ in anything but the path. The published fields do not hold everything, but with the entries,
the switches and the preference they do. Done again it does nothing.
-/
namespace LinkConfig

variable {F : Family}

namespace Published
variable {p q : Published F} {f : Field}

/-- The two publish the same in the field. -/
def AgreesIn (p q : Published F) : Field → Prop
  | .gateway => p.gateway = q.gateway
  | .addresses => p.addresses = q.addresses
  | .routes => p.routes = q.routes
  | .nameservers => p.nameservers = q.nameservers
  | .domains => p.domains = q.domains
  | .searches => p.searches = q.searches

theorem diff_has_iff : (p.diff q).has f ↔ ¬ p.AgreesIn q f := by
  cases f <;> simp [diff, Changes.has, AgreesIn]

theorem isEmpty_diff : (p.diff q).isEmpty = (p == q) := by
  rw [Bool.eq_iff_iff, Changes.isEmpty, beq_iff_eq, beq_iff_eq, diff_eq_empty_iff]

end Published

namespace Config
variable {c src : Config F}

/-- The path is the only field that is not copied. -/
theorem copy_eq (c src : Config F) : c.copy src = { src with path := c.path } := rfl

theorem anyChanged_eq_false_iff :
    (c.replaceBy src).anyChanged = false ↔ c.copy src = c := by
  have hany : (c.replaceBy src).anyChanged = false ↔ c.published = src.published ∧
      c.addresses = src.addresses ∧ c.routes = src.routes ∧ c.mss = src.mss ∧
      c.neverDefault = src.neverDefault ∧ c.privacy = src.privacy := by
    simp [replaceBy, Published.isEmpty_diff, and_assoc]
  rw [hany]
  constructor
  · rintro ⟨hpublished, haddresses, hroutes, hmss, hdefault, hprivacy⟩
    simp only [published, Published.mk.injEq] at hpublished
    obtain ⟨hgateway, -, -, hnameservers, hdomains, hsearches⟩ := hpublished
    ext1 <;> simp only [copy, *]
  · intro h
    rw [← h]
    exact ⟨rfl, rfl, rfl, rfl, rfl, rfl⟩

/-- Where nothing changed there was nothing to copy. -/
theorem config_replaceBy (c src : Config F) :
    (c.replaceBy src).config = { src with path := c.path } := by
  cases h : (c.replaceBy src).anyChanged with
  | true => exact (if_pos h).trans (c.copy_eq src)
  | false =>
    have hsame := anyChanged_eq_false_iff.mp h
    exact (if_neg (Bool.eq_false_iff.mp h)).trans (hsame.symm.trans (c.copy_eq src))

/-- A configuration replaced by one that differs in the path at most stays as it is, and there is
nothing to report. -/
theorem replaceBy_of_path (c : Config F) (path : Option String) :
    replaceBy { c with path } c = ⟨{ c with path }, ∅, false, [.replaced ∅ false]⟩ := by
  have hdiff : ({ c with path } : Config F).published.diff c.published = ∅ :=
    Published.diff_eq_empty_iff.mpr rfl
  simp [replaceBy, hdiff, Changes.isEmpty]

/-- Replacing tells exactly what differs, of what is published and of everything, makes everything
the same but the path, and has nothing to do when it is done again. -/
theorem replaceBy_settles (c src : Config F) :
    let r := c.replaceBy src
    let again := r.config.replaceBy src
    (∀ f, r.relevant.has f ↔ ¬ c.published.AgreesIn src.published f) ∧
      (!r.relevant.isEmpty) = (!c.agrees src) ∧
      (r.anyChanged ↔ { c with path := none } ≠ { src with path := none }) ∧
      r.config = { src with path := c.path } ∧
      again.relevant = ∅ ∧ again.anyChanged = false ∧ again.config = r.config := by
  intro r again
  have hagain : again = ⟨r.config, ∅, false, [.replaced ∅ false]⟩ := by
    change r.config.replaceBy src = _
    rw [config_replaceBy]
    exact replaceBy_of_path src c.path
  refine ⟨fun f => Published.diff_has_iff, ?_, ?_, config_replaceBy c src, ?_⟩
  · exact congrArg (!·) Published.isEmpty_diff
  · have hpath : { src with path := c.path } = c ↔
        ({ c with path := none } : Config F) = { src with path := none } := by
      rw [Config.ext_iff, Config.ext_iff]
      simp only [eq_comm, and_true]
    rw [← Bool.not_eq_false, anyChanged_eq_false_iff, copy_eq, hpath]
  · rw [hagain]
    exact ⟨rfl, rfl, rfl⟩

end Config

end LinkConfig
