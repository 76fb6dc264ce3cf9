import Welfare.Assessment

/-!
# What an assessment adds up to

`RuleSet.findings` runs over the three lists of rules one after the other, and the runs share one
state: a flag, two sums, the trail and the documents.  This file says what comes out of it without a
state.  Each run is described on its own, from whatever was found before it, as a function of the
rules that are met and those that are not; the three together then give every field of an
assessment in closed form.

* `RuleSet.exclusionsMet`, `inclusionsMet`, `inclusionsFailed`, `prioritiesMet` — the rules that
  matter, in the order of the catalog.
* `Findings.foldl_addExclusion`, `foldl_addInclusion`, `foldl_addPriority` — one run.
* `RuleSet.findings_eq` — the three runs together.
* `Scheme.assess_eq_reckoning` — the whole assessment.
-/

set_option autoImplicit false

namespace Welfare

/-- A sum of doubles, added up from zero, first to last. -/
def sum (xs : List Float) : Float := xs.foldl (· + ·) 0.0

/-- The entry of an inclusion rule. -/
def Rule.outcome (r : Rule) (p : Profile) : Finding :=
  if r.holds p then .passed r.explanation else .failed r.explanation

/-- A rule asks for a document when its field lies in the `documents` of a profile. -/
theorem Rule.asksForDocument_eq (r : Rule) :
    r.asksForDocument = "documents.".toList.isPrefixOf r.field.path.toList := by
  rw [Rule.asksForDocument, Bool.eq_iff_iff, beq_iff_eq, Field.category_eq_some_iff,
    List.isPrefixOf_iff_prefix]
  exact Iff.rfl

/-! ## The rules that matter -/

namespace RuleSet

variable (s : RuleSet) (p : Profile)

/-- The exclusions that a profile meets. -/
def exclusionsMet : List Rule := s.exclusion.filter (·.holds p)

/-- The inclusion rules that a profile meets. -/
def inclusionsMet : List Rule := s.inclusion.filter (·.holds p)

/-- The inclusion rules that a profile fails. -/
def inclusionsFailed : List Rule := s.inclusion.filter (!·.holds p)

/-- The priority rules that a profile meets. -/
def prioritiesMet : List Rule := s.priority.filter (·.holds p)

/-- The points that are added up. -/
def pointsMet : List Float := (s.inclusionsMet p).map Rule.points

/-- The boosts that are added up. -/
def boostsMet : List Float := (s.prioritiesMet p).map Rule.boost

end RuleSet

/-! ## One run -/

namespace Findings

variable (p : Profile) (rules : List Rule) (f : Findings)

/-- A run over exclusions notes those that are met, and disqualifies if there are any. -/
theorem foldl_addExclusion :
    rules.foldl (addExclusion p) f =
      { f with
        disqualified := f.disqualified || rules.any (·.holds p)
        trail := f.trail ++ (rules.filter (·.holds p)).map (.disqualified ·.explanation) } := by
  induction rules generalizing f with
  | nil => simp
  | cons r rules ih =>
    rw [List.foldl_cons, ih]
    by_cases h : r.holds p <;> simp [addExclusion, h]

/-- A run over inclusion rules adds the points of those that are met to the points so far, notes all
of them, and collects the documents that the failed ones ask for. -/
theorem foldl_addInclusion :
    rules.foldl (addInclusion p) f =
      { f with
        points := ((rules.filter (·.holds p)).map Rule.points).foldl (· + ·) f.points
        trail := f.trail ++ rules.map (·.outcome p)
        missingDocuments := f.missingDocuments ++
          ((rules.filter (!·.holds p)).filter Rule.asksForDocument).map Rule.documentLabel } := by
  induction rules generalizing f with
  | nil => simp
  | cons r rules ih =>
    rw [List.foldl_cons, ih]
    by_cases h : r.holds p
    · simp [addInclusion, Rule.outcome, h]
    · by_cases hd : r.asksForDocument <;> simp [addInclusion, Rule.outcome, h, hd]

/-- A run over priority rules adds the boosts of those that are met to the boost so far, and notes
them. -/
theorem foldl_addPriority :
    rules.foldl (addPriority p) f =
      { f with
        boost := ((rules.filter (·.holds p)).map Rule.boost).foldl (· + ·) f.boost
        trail := f.trail ++
          (rules.filter (·.holds p)).map fun r ↦ .boosted r.boost r.explanation } := by
  induction rules generalizing f with
  | nil => simp
  | cons r rules ih =>
    rw [List.foldl_cons, ih]
    by_cases h : r.holds p <;> simp [addPriority, h]

end Findings

/-! ## All runs together -/

/-- What rules find, in closed form: no run changes what another one found. -/
theorem RuleSet.findings_eq (s : RuleSet) (p : Profile) :
    s.findings p =
      { disqualified := s.exclusion.any (·.holds p)
        points := sum ((s.inclusionsMet p).map Rule.points)
        boost := sum ((s.prioritiesMet p).map Rule.boost)
        trail :=
          (s.exclusionsMet p).map (.disqualified ·.explanation) ++
          s.inclusion.map (·.outcome p) ++
          (s.prioritiesMet p).map fun r ↦ .boosted r.boost r.explanation
        missingDocuments :=
          ((s.inclusionsFailed p).filter Rule.asksForDocument).map Rule.documentLabel } := by
  rw [findings, Findings.foldl_addExclusion, Findings.foldl_addInclusion,
    Findings.foldl_addPriority]
  rfl

theorem RuleSet.disqualified_findings {s : RuleSet} {p : Profile} :
    (s.findings p).disqualified = false ↔ ∀ r ∈ s.exclusion, r.holds p = false := by
  rw [findings_eq]
  simp

namespace Findings

variable (f : Findings) (minimum : Float)

theorem eligible_eq_decide :
    f.eligible minimum = decide (f.disqualified = false ∧ minimum ≤ f.total) := by
  cases h : f.disqualified <;> simp [eligible, h]

/-- The last entry is missing only from the trail of somebody who is eligible or disqualified. -/
theorem fullTrail_eq_append :
    f.fullTrail minimum = f.trail ++
      if f.disqualified = false ∧ ¬ minimum ≤ f.total then [.belowThreshold f.total minimum]
      else [] := by
  rw [fullTrail, eligible_eq_decide]
  by_cases hm : minimum ≤ f.total <;> cases h : f.disqualified <;> simp [hm]

end Findings

theorem RuleSet.total_findings (s : RuleSet) (p : Profile) :
    (s.findings p).total = sum (s.pointsMet p) + sum (s.boostsMet p) := by
  rw [Findings.total, findings_eq]
  rfl

theorem Scheme.score_assess {s : Scheme} {rules : RuleSet} {p : Profile}
    (h : s.rules = some rules) :
    (s.assess p).score = sum (rules.pointsMet p) + sum (rules.boostsMet p) := by
  rw [← rules.total_findings p, assess, h]

/-- Who meets no exclusion and reaches the threshold is eligible. -/
theorem Scheme.eligible_iff {s : Scheme} {rules : RuleSet} {p : Profile}
    (h : s.rules = some rules) :
    (s.assess p).eligible = true ↔ (∀ r ∈ rules.exclusion, r.holds p = false) ∧
      rules.threshold ≤ sum (rules.pointsMet p) + sum (rules.boostsMet p) := by
  have heligible : (s.assess p).eligible = (rules.findings p).eligible rules.threshold := by
    rw [assess, h]
  rw [heligible, Findings.eligible_eq_decide, decide_eq_true_eq, RuleSet.disqualified_findings,
    RuleSet.total_findings]

/-- **An assessment says exactly what the rules add up to.**  The trail lists the exclusions that
are met, then every inclusion rule, then the priority rules that are met, each in the order of the
catalog.  One more entry notes a score that does not reach the threshold, which a score that is not
a number never does; it stands there only when nothing disqualifies. -/
theorem Scheme.assess_eq_reckoning {s : Scheme} {rules : RuleSet} (p : Profile)
    (h : s.rules = some rules) :
    let boost := sum ((rules.prioritiesMet p).map Rule.boost)
    let total := sum ((rules.inclusionsMet p).map Rule.points) + boost
    s.assess p =
      { schemeId := s.id
        schemeName := s.name
        eligible := decide ((∀ r ∈ rules.exclusion, r.holds p = false) ∧ rules.threshold ≤ total)
        score := total
        reasoning := List.map Finding.render <|
          (rules.exclusionsMet p).map (.disqualified ·.explanation) ++
          rules.inclusion.map (·.outcome p) ++
          (rules.prioritiesMet p).map (fun r ↦ .boosted r.boost r.explanation) ++
          if (∀ r ∈ rules.exclusion, r.holds p = false) ∧ ¬ rules.threshold ≤ total then
            [.belowThreshold total rules.threshold]
          else []
        missingDocuments :=
          ((rules.inclusionsFailed p).filter fun r ↦
            "documents.".toList.isPrefixOf r.field.path.toList).map Rule.documentLabel
        priorityBoost := boost } := by
  intro boost total
  have htotal : (rules.findings p).total = total := by rw [Findings.total, rules.findings_eq]
  have hdocuments : (fun r : Rule ↦ "documents.".toList.isPrefixOf r.field.path.toList) =
      Rule.asksForDocument := funext fun r ↦ r.asksForDocument_eq.symm
  rw [Scheme.assess, h]
  simp only [Findings.eligible_eq_decide, Findings.fullTrail_eq_append, htotal,
    RuleSet.disqualified_findings, hdocuments]
  rw [rules.findings_eq]

/-- A farmer who has the land but no card: the points fall short, the boost does not make up for it,
and the card is still needed. -/
theorem Scheme.assess_farmer_without_card :
    let land : Rule := {
      field := ⟨"land_area"⟩, operator := .notEmpty, value := .null, weight := some 12.5
      explanation := "Must own land" }
    let card : Rule := {
      field := ⟨"documents.ration_card"⟩, operator := .notEmpty, value := .null
      weight := some 10.0, explanation := "Ration card required" }
    let rules : RuleSet := {
      inclusion := [land, card], exclusion := [{ card with operator := .unsupported "absent" }]
      priority := [{ land with priorityBoost := some 0.25, explanation := "Farmer" }]
      minimumScore := some 20.0 }
    let s : Scheme := { id := "SCH001", criteria := some { rules := some rules } }
    let p : Profile := ⟨.obj [("farmer_details", .obj [("land_area", .str "2 acres")])]⟩
    s.rules = some rules ∧ (s.assess p).eligible = false ∧
      (s.assess p).missingDocuments = ["Ration card"] ∧
      (s.assess p).reasoning =
        ["✅ Must own land", "ℹ️ Failed: Ration card required", "⭐ Priority Boost (0.25): Farmer",
         "⚠️ Total score (12.75) is below minimum threshold (20)"] := by
  intro land card rules s p
  have hrules : s.rules = some rules := rfl
  refine ⟨hrules, ?_⟩
  rw [Scheme.assess_eq_reckoning p hrules]
  decide +kernel

end Welfare
