import Mathlib.Data.List.Basic
import Welfare.Proofs.Assessment.Trail

/-!
# Where a refusal stands

Three entries refuse: an exclusion that is met, a score that falls short, and the note that a scheme
has no rules.  The last two end the trail.  Exclusions do not: they are looked at first, every rule
is looked at after them all the same, and the trail keeps that order.  So somebody who is
disqualified finds the reasons at the front of the trail, and its end speaks of the rule that was
looked at last.

* `Assessment.IsRefusal` — an entry that refuses.
* `RuleSet.lastFinding` — the finding of the rule that was looked at last.
* `Scheme.refusal_is_not_last` — a trail that does not end with its refusal.
* `Scheme.refusals_are_explained` — where the refusal stands in every trail.
-/

set_option autoImplicit false

namespace Welfare

/-! ## Entries that refuse -/

/-- An entry that refuses: it opens as a disqualification or as a score that falls short, or it says
that there are no rules. -/
def Assessment.IsRefusal (entry : String) : Prop :=
  "❌ Disqualified: ".toList <+: entry.toList ∨ "⚠️ Total score (".toList <+: entry.toList ∨
    entry = Assessment.noRules

namespace Finding

/-- The note that there are no rules opens like no finding. -/
theorem render_ne_noRules (f : Finding) : f.render ≠ Assessment.noRules := by
  intro h
  have hhead := f.kind.head?_opening_append f.body.toList
  rw [← toList_render, h] at hhead
  revert hhead
  cases f.kind <;> decide

/-- Of the findings, exclusions and scores that fall short refuse. -/
theorem isRefusal_render {f : Finding} :
    Assessment.IsRefusal f.render ↔ f.kind = .disqualified ∨ f.kind = .belowThreshold := by
  have hdisqualified := opening_isPrefix_render (f := f) (k := .disqualified)
  have hbelow := opening_isPrefix_render (f := f) (k := .belowThreshold)
  constructor
  · rintro (h | h | h)
    · exact .inl (hdisqualified.1 h)
    · exact .inr (hbelow.1 h)
    · exact absurd h f.render_ne_noRules
  · rintro (h | h)
    · exact .inl (hdisqualified.2 h)
    · exact .inr (.inl (hbelow.2 h))

end Finding

/-! ## The end of the trail -/

namespace RuleSet

variable (s : RuleSet) (p : Profile)

/-- The finding of the rule that was looked at last and left one: the last priority rule that is
met, or else the last inclusion rule, or else the last exclusion that is met. -/
def lastFinding : Option Finding :=
  ((s.prioritiesMet p).getLast?.map fun r ↦ .boosted r.boost r.explanation).or <|
    (s.inclusion.getLast?.map (·.outcome p)).or <|
      (s.exclusionsMet p).getLast?.map (.disqualified ·.explanation)

theorem getLast?_trail : (s.findings p).trail.getLast? = s.lastFinding p := by
  rw [findings_eq, lastFinding, List.getLast?_append, List.getLast?_append, List.getLast?_map,
    List.getLast?_map, List.getLast?_map]

variable {s p} {f : Finding}

/-- Which rule was looked at last, and that the lists behind it have left nothing. -/
theorem lastFinding_cases (h : s.lastFinding p = some f) :
    (∃ r, (s.prioritiesMet p).getLast? = some r ∧ Finding.boosted r.boost r.explanation = f) ∨
    (s.prioritiesMet p = [] ∧ ∃ r, s.inclusion.getLast? = some r ∧ r.outcome p = f) ∨
    (s.prioritiesMet p = [] ∧ s.inclusion = [] ∧
      ∃ r, (s.exclusionsMet p).getLast? = some r ∧ Finding.disqualified r.explanation = f) := by
  rw [lastFinding, Option.or_eq_some_iff, Option.or_eq_some_iff, Option.map_eq_some_iff,
    Option.map_eq_some_iff, Option.map_eq_some_iff, Option.map_eq_none_iff,
    Option.map_eq_none_iff, List.getLast?_eq_none_iff, List.getLast?_eq_none_iff] at h
  rcases h with hpriority | ⟨hpriority, hinclusion | ⟨hinclusion, hexclusion⟩⟩
  · exact .inl hpriority
  · exact .inr (.inl ⟨hpriority, hinclusion⟩)
  · exact .inr (.inr ⟨hpriority, hinclusion, hexclusion⟩)

/-- The trail ends with an exclusion only if nothing else has left an entry. -/
theorem kind_lastFinding (h : s.lastFinding p = some f) :
    f.kind = .disqualified ↔ s.inclusion = [] ∧ s.prioritiesMet p = [] := by
  rcases lastFinding_cases h with
    ⟨r, hr, rfl⟩ | ⟨-, r, hr, rfl⟩ | ⟨hpriority, hinclusion, r, -, rfl⟩
  · refine iff_of_false (by simp [Finding.kind]) fun hnil ↦ ?_
    simp [hnil.2] at hr
  · refine iff_of_false (by rw [Rule.kind_outcome]; split <;> simp) fun hnil ↦ ?_
    simp [hnil.1] at hr
  · exact iff_of_true rfl ⟨hinclusion, hpriority⟩

theorem kind_lastFinding_ne (h : s.lastFinding p = some f) : f.kind ≠ .belowThreshold := by
  rcases lastFinding_cases h with ⟨r, -, rfl⟩ | ⟨-, r, -, rfl⟩ | ⟨-, -, r, -, rfl⟩
  · simp [Finding.kind]
  · rw [Rule.kind_outcome]
    split <;> simp
  · simp [Finding.kind]

/-- An exclusion that is met leaves an entry, so the trail has an end. -/
theorem exists_lastFinding (h : ∃ r ∈ s.exclusion, r.holds p = true) :
    ∃ f, s.lastFinding p = some f := by
  obtain ⟨r, hr, hholds⟩ := h
  have hmem : Finding.disqualified r.explanation ∈ (s.findings p).trail := by
    rw [findings_eq, List.append_assoc]
    refine List.mem_append_left _ (List.mem_map.2 ⟨r, ?_, rfl⟩)
    exact List.mem_filter.2 ⟨hr, hholds⟩
  rw [← getLast?_trail]
  exact ⟨_, List.getLast?_eq_getLast_of_ne_nil (List.ne_nil_of_mem hmem)⟩

end RuleSet

/-! ## Where the refusal stands -/

namespace Scheme

variable {s : Scheme} {rules : RuleSet} {p : Profile}

/-- Without an exclusion that is met, a refusal ends with the score that falls short. -/
theorem getLast?_reasoning_of_short (h : s.rules = some rules)
    (hshort : rules.FallsShort p rules.threshold) :
    (s.assess p).reasoning.getLast? =
      some (Finding.belowThreshold (s.assess p).score rules.threshold).render := by
  rw [reasoning_assess h, Findings.fullTrail_eq_append, if_pos hshort, score_assess h,
    ← RuleSet.total_findings]
  simp

/-- With an exclusion that is met, nothing is noted behind the rules. -/
theorem reasoning_of_disqualified (h : s.rules = some rules)
    (hdisqualified : (rules.findings p).disqualified = true) :
    (s.assess p).reasoning = (rules.findings p).trail.map Finding.render := by
  rw [reasoning_assess h, Findings.fullTrail_eq_append, if_neg (by simp [hdisqualified]),
    List.append_nil]

/-- **A trail need not end with its refusal.**  Somebody who pays income tax is excluded, but is
also a farmer, and the trail ends with that. -/
theorem refusal_is_not_last :
    let taxpayer : Rule := {
      field := ⟨"exclusions.is_income_tax_payer"⟩, operator := .equals, value := .bool true
      explanation := "Income tax payers are excluded" }
    let farmer : Rule := {
      field := ⟨"occupation.primary_occupation"⟩, operator := .equals, value := .str "Farmer"
      explanation := "Primary occupation must be farming" }
    let rules : RuleSet := { inclusion := [farmer], exclusion := [taxpayer] }
    let s : Scheme := { id := "SCH001", criteria := some { rules := some rules } }
    let p : Profile := ⟨.obj [
      ("exclusions", .obj [("is_income_tax_payer", .bool true)]),
      ("occupation", .obj [("primary_occupation", .str "Farmer")])]⟩
    (s.assess p).eligible = false ∧
      (s.assess p).reasoning =
        ["❌ Disqualified: Income tax payers are excluded",
         "✅ Primary occupation must be farming"] ∧
      ¬ ∃ entry, (s.assess p).reasoning.getLast? = some entry ∧ Assessment.IsRefusal entry := by
  intro taxpayer farmer rules s p
  have hreasoning : (s.assess p).reasoning =
      ["❌ Disqualified: Income tax payers are excluded",
       "✅ Primary occupation must be farming"] := by decide +kernel
  refine ⟨by decide +kernel, hreasoning, ?_⟩
  rintro ⟨entry, hlast, hrefusal⟩
  rw [hreasoning] at hlast
  obtain rfl := Option.some.inj hlast
  exact absurd ((Finding.isRefusal_render (f := .passed farmer.explanation)).1 hrefusal)
    (by decide)

/-- **Every refusal is explained, and where.**  The trail of a scheme without rules is the note that
there are none.  If no exclusion is met, the trail ends with the score that falls short of the
threshold.  If exclusions are met, the trail begins with one entry for each of them, in the order of
the catalog, no further entry opens as theirs do, and no score that falls short is noted; the trail
then ends with the finding of the rule that was looked at last, which is a refusal exactly when the
scheme has no inclusion rules and no priority rule is met. -/
theorem refusals_are_explained (hrefused : (s.assess p).eligible = false) :
    (s.rules = none → (s.assess p).reasoning = [Assessment.noRules]) ∧
    ∀ rules : RuleSet, s.rules = some rules →
      ((∀ r ∈ rules.exclusion, r.holds p = false) →
        (s.assess p).reasoning.getLast? =
          some (Finding.belowThreshold (s.assess p).score rules.threshold).render) ∧
      ((∃ r ∈ rules.exclusion, r.holds p = true) →
        (rules.exclusionsMet p).map ("❌ Disqualified: " ++ ·.explanation) <+:
          (s.assess p).reasoning ∧
        (s.assess p).entriesOpening "❌ Disqualified: " = (rules.exclusionsMet p).length ∧
        (s.assess p).entriesOpening "⚠️ Total score (" = 0 ∧
        ∃ last, rules.lastFinding p = some last ∧
          (s.assess p).reasoning.getLast? = some last.render ∧
          (Assessment.IsRefusal last.render ↔
            rules.inclusion = [] ∧ rules.prioritiesMet p = [])) := by
  refine ⟨fun hnone ↦ by rw [assess, hnone], fun rules hrules ↦ ⟨fun hunmet ↦ ?_, fun hmet ↦ ?_⟩⟩
  · have hqualified := RuleSet.disqualified_findings.2 hunmet
    refine getLast?_reasoning_of_short hrules ?_
    by_contra hreached
    rw [(eligible_assess hrules).2 ⟨hqualified, hreached⟩] at hrefused
    cases hrefused
  · have hdisqualified : (rules.findings p).disqualified = true := by
      rw [← Bool.not_eq_false, RuleSet.disqualified_findings]
      obtain ⟨r, hr, hholds⟩ := hmet
      intro hunmet
      rw [hunmet r hr] at hholds
      cases hholds
    have hreasoning := reasoning_of_disqualified (p := p) hrules hdisqualified
    have hcount := entriesOpening_assess (p := p) hrules
    refine ⟨?_, hcount .disqualified, (hcount .belowThreshold).trans ?_, ?_⟩
    · rw [hreasoning, RuleSet.findings_eq, List.map_append, List.map_append, List.map_map,
        List.append_assoc]
      exact List.prefix_append _ _
    · exact if_neg fun hshort ↦ absurd hshort.1 (by rw [hdisqualified]; decide)
    · obtain ⟨last, hlast⟩ := RuleSet.exists_lastFinding hmet
      refine ⟨last, hlast, ?_, ?_⟩
      · rw [hreasoning, List.getLast?_map, RuleSet.getLast?_trail, hlast]
        rfl
      · rw [Finding.isRefusal_render, ← RuleSet.kind_lastFinding hlast]
        exact or_iff_left (RuleSet.kind_lastFinding_ne hlast)

/-- Somebody who is excluded twice and has nothing else to show: the trail is made of refusals, and
ends with one. -/
theorem taxpayer_in_service_is_refused :
    let taxpayer : Rule := {
      field := ⟨"exclusions.is_income_tax_payer"⟩, operator := .equals, value := .bool true
      explanation := "Income tax payers are excluded" }
    let employee : Rule := { taxpayer with
      field := ⟨"exclusions.is_government_employee"⟩
      explanation := "Government employees are excluded" }
    let rules : RuleSet := { exclusion := [taxpayer, employee], minimumScore := some 10.0 }
    let s : Scheme := { id := "SCH001", criteria := some { rules := some rules } }
    let p : Profile := ⟨.obj [("exclusions", .obj [
      ("is_government_employee", .bool true), ("is_income_tax_payer", .bool true)])]⟩
    (s.assess p).eligible = false ∧ (∃ r ∈ rules.exclusion, r.holds p = true) ∧
      (s.assess p).entriesOpening "❌ Disqualified: " = 2 ∧
      ∃ last, (s.assess p).reasoning.getLast? = some last ∧ Assessment.IsRefusal last := by
  intro taxpayer employee rules s p
  have hrules : s.rules = some rules := rfl
  have hrefused : (s.assess p).eligible = false := by decide +kernel
  have hmet : ∃ r ∈ rules.exclusion, r.holds p = true :=
    ⟨taxpayer, List.mem_cons_self, by decide +kernel⟩
  obtain ⟨-, hentries, -, last, -, hlast, hrefusal⟩ :=
    ((refusals_are_explained hrefused).2 rules hrules).2 hmet
  exact ⟨hrefused, hmet, hentries.trans (by decide +kernel), last.render, hlast,
    hrefusal.2 ⟨rfl, rfl⟩⟩

end Scheme

end Welfare
