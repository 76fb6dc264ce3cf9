import Welfare.Proofs.Assessment.Inert
import Welfare.Proofs.Double.Sum

/-!
# What an operator that is not known does to a verdict

A rule with an operator that is not known is never met.  Whom that hurts depends on the list the
rule stands in: an inclusion rule or a priority rule that is never met gives no points, but an
exclusion that is never met excludes nobody.  So an operator that is misspelt closes a scheme in two
of the three lists, and opens it in the third.

The rule that is never met may as well be taken out of its list, as far as the rules that are met
go, and what is left of the amounts is a sublist of what there was.

* `Rule.withOperator` — the rule under another operator.
* `filter_modify_of_neg` — a rule that is never met counts as taken out.
* `Scheme.misspelt_exclusion_opens` — a scheme that opens.
* `Scheme.unknown_operators_open_exclusions_only` — which lists close, and when the third opens.
-/

set_option autoImplicit false

namespace Welfare

/-- The rule under another operator. -/
def Rule.withOperator (r : Rule) (op : Operator) : Rule := { r with operator := op }

namespace RuleSet

variable (s : RuleSet) (i : ℕ) (op : Operator)

/-- The rules with another operator in one inclusion rule. -/
def withInclusionOperator : RuleSet :=
  { s with inclusion := s.inclusion.modify i (·.withOperator op) }

/-- The rules with another operator in one exclusion. -/
def withExclusionOperator : RuleSet :=
  { s with exclusion := s.exclusion.modify i (·.withOperator op) }

/-- The rules with another operator in one priority rule. -/
def withPriorityOperator : RuleSet :=
  { s with priority := s.priority.modify i (·.withOperator op) }

end RuleSet

theorem Rule.holds_withOperator {op : Operator} (h : op.isSupported = false) (r : Rule)
    (p : Profile) : (r.withOperator op).holds p = false :=
  Rule.holds_eq_false (.inl h)

/-! ## A rule that is never met -/

/-- What a change makes a filter drop counts as taken out. -/
theorem filter_modify_of_neg {α : Type} {P : α → Bool} {f : α → α} (h : ∀ a, P (f a) = false)
    (xs : List α) (i : ℕ) : (xs.modify i f).filter P = (xs.eraseIdx i).filter P := by
  induction xs generalizing i with
  | nil => simp
  | cons x xs ih =>
    cases i with
    | zero => simp [h]
    | succ i => simp [List.filter_cons, ih]

/-- What holds of a whole list holds of one item and of all others. -/
theorem forall_mem_iff_eraseIdx {α : Type} {P : α → Prop} {xs : List α} {a : α} {i : ℕ}
    (h : xs[i]? = some a) : (∀ x ∈ xs, P x) ↔ P a ∧ ∀ x ∈ xs.eraseIdx i, P x := by
  obtain ⟨hi, rfl⟩ := List.getElem?_eq_some_iff.1 h
  rw [← List.forall_mem_cons]
  exact forall_congr' fun x ↦ imp_congr_left (List.getElem_cons_eraseIdx_perm hi).mem_iff.symm

section Lists

variable {rules : List Rule} {p : Profile} {op : Operator}

/-- Of the amounts that are added up, no other is left out and none is put in. -/
theorem amounts_met_modify_sublist (hop : op.isSupported = false) (amount : Rule → Float) (i : ℕ) :
    (((rules.modify i (·.withOperator op)).filter (·.holds p)).map amount).Sublist
      ((rules.filter (·.holds p)).map amount) := by
  rw [filter_modify_of_neg (P := (Rule.holds · p)) (Rule.holds_withOperator hop · p)]
  exact ((List.eraseIdx_sublist rules i).filter _).map amount

/-- Exclusions of which one is never met exclude whom the others exclude. -/
theorem unmet_modify_iff (hop : op.isSupported = false) (i : ℕ) :
    (∀ r ∈ rules.modify i (·.withOperator op), r.holds p = false) ↔
      ∀ r ∈ rules.eraseIdx i, r.holds p = false := by
  have hfilter := filter_modify_of_neg (P := (Rule.holds · p))
    (Rule.holds_withOperator hop · p) rules i
  simpa [List.filter_eq_nil_iff] using congrArg (· = []) hfilter

end Lists

/-! ## Verdicts -/

namespace RuleSet

/-- Rules that never take points away. -/
structure NonnegativeAmounts (s : RuleSet) : Prop where
  points : ∀ r ∈ s.inclusion, 0.0 ≤ r.points
  boost : ∀ r ∈ s.priority, 0.0 ≤ r.boost

theorem NonnegativeAmounts.pointsMet {s : RuleSet} (h : s.NonnegativeAmounts) (p : Profile) :
    ∀ x ∈ s.pointsMet p, 0.0 ≤ x :=
  List.forall_mem_map.2 fun r hr ↦ h.points r (List.mem_of_mem_filter hr)

theorem NonnegativeAmounts.boostsMet {s : RuleSet} (h : s.NonnegativeAmounts) (p : Profile) :
    ∀ x ∈ s.boostsMet p, 0.0 ≤ x :=
  List.forall_mem_map.2 fun r hr ↦ h.boost r (List.mem_of_mem_filter hr)

end RuleSet

namespace Scheme

variable {s t : Scheme} {rules rules' : RuleSet} {p : Profile}

/-- Two assessments of which the second is no better: it keeps a refusal, and its score is not
larger. -/
structure NoBetter (s t : Scheme) (p : Profile) : Prop where
  refused : (s.assess p).eligible = false → (t.assess p).eligible = false
  score : (t.assess p).score ≤ (s.assess p).score

/-- An assessment is no better if it only leaves out amounts, none of them negative, and nothing
else that the verdict depends on changes. -/
theorem noBetter_of_sublist (hs : s.rules = some rules) (ht : t.rules = some rules')
    (hamounts : rules.NonnegativeAmounts) (hexclusion : rules'.exclusion = rules.exclusion)
    (hthreshold : rules'.threshold = rules.threshold)
    (hpoints : (rules'.pointsMet p).Sublist (rules.pointsMet p))
    (hboosts : (rules'.boostsMet p).Sublist (rules.boostsMet p)) : s.NoBetter t p := by
  have hpos := hamounts.pointsMet p
  have hpos' := hamounts.boostsMet p
  have hscore : (t.assess p).score ≤ (s.assess p).score := by
    rw [score_assess hs, score_assess ht]
    exact Double.add_le_add_of_nonneg (Double.sum_nonneg fun x hx ↦ hpos x (hpoints.subset hx))
      (Double.sum_le_sum_of_sublist hpoints hpos)
      (Double.sum_nonneg fun x hx ↦ hpos' x (hboosts.subset hx))
      (Double.sum_le_sum_of_sublist hboosts hpos')
  refine ⟨?_, hscore⟩
  rw [← Bool.not_eq_true, ← Bool.not_eq_true, eligible_iff hs, eligible_iff ht, hexclusion,
    hthreshold, ← score_assess hs, ← score_assess ht]
  rintro hrefused ⟨hunmet, hreached⟩
  exact hrefused ⟨hunmet, Double.le_trans_double hreached hscore⟩

/-- **An exclusion that is misspelt opens a scheme.**  No weight is negative, and somebody who pays
income tax is excluded; with `equal` for `equals` in the exclusion, nobody is. -/
theorem misspelt_exclusion_opens :
    let taxpayer : Rule := {
      field := ⟨"exclusions.is_income_tax_payer"⟩, operator := .equals, value := .bool true
      explanation := "Income tax payers are excluded" }
    let farmer : Rule := {
      field := ⟨"occupation.primary_occupation"⟩, operator := .equals, value := .str "Farmer"
      weight := some 10.0, explanation := "Primary occupation must be farming" }
    let rules : RuleSet := {
      inclusion := [farmer], exclusion := [taxpayer], minimumScore := some 10.0 }
    let s : Scheme := { id := "SCH001", criteria := some { rules := some rules } }
    let misspelt : Operator := .ofTag "equal"
    let t := s.withRules (rules.withExclusionOperator 0 misspelt)
    let p : Profile := ⟨.obj [
      ("exclusions", .obj [("is_income_tax_payer", .bool true)]),
      ("occupation", .obj [("primary_occupation", .str "Farmer")])]⟩
    rules.NonnegativeAmounts ∧ misspelt.isSupported = false ∧
      (s.assess p).eligible = false ∧ (t.assess p).eligible = true := by
  intro taxpayer farmer rules s misspelt t p
  have hamounts : rules.NonnegativeAmounts := ⟨by decide +kernel, by decide +kernel⟩
  exact ⟨hamounts, by decide +kernel, by decide +kernel, by decide +kernel⟩

/-- **An operator that is not known closes a scheme everywhere but in its exclusions.**  If no
points and no boosts are negative, an unknown operator in an inclusion rule or in a priority rule
keeps every refusal and does not raise the score.  In an exclusion it leaves the score alone,
whatever the amounts, and a refusal is lost exactly when the exclusion was met, no other one is, and
the score reaches the threshold. -/
theorem unknown_operators_open_exclusions_only {op : Operator} (hs : s.rules = some rules)
    (hop : op.isSupported = false) (i : ℕ) :
    (rules.NonnegativeAmounts →
      s.NoBetter (s.withRules (rules.withInclusionOperator i op)) p ∧
      s.NoBetter (s.withRules (rules.withPriorityOperator i op)) p) ∧
    ∀ r, rules.exclusion[i]? = some r →
      let t := s.withRules (rules.withExclusionOperator i op)
      (t.assess p).score = (s.assess p).score ∧
      ((s.assess p).eligible = false ∧ (t.assess p).eligible = true ↔
        r.holds p = true ∧ (∀ q ∈ rules.exclusion.eraseIdx i, q.holds p = false) ∧
          rules.threshold ≤ (s.assess p).score) := by
  constructor
  · intro hamounts
    have hpoints : ((rules.withInclusionOperator i op).pointsMet p).Sublist (rules.pointsMet p) :=
      amounts_met_modify_sublist hop Rule.points i
    have hboosts : ((rules.withPriorityOperator i op).boostsMet p).Sublist (rules.boostsMet p) :=
      amounts_met_modify_sublist hop Rule.boost i
    exact ⟨noBetter_of_sublist hs (s.rules_withRules _) hamounts rfl rfl hpoints (.refl _),
      noBetter_of_sublist hs (s.rules_withRules _) hamounts rfl rfl (.refl _) hboosts⟩
  · intro r hr t
    have ht : t.rules = some (rules.withExclusionOperator i op) := s.rules_withRules _
    have hscore : (t.assess p).score = (s.assess p).score := by
      rw [score_assess hs, score_assess ht]
      rfl
    have hclosed := eligible_iff (p := p) hs
    rw [← score_assess hs, forall_mem_iff_eraseIdx hr] at hclosed
    -- the exclusion that is never met drops out of the conditions, and nothing else changes
    have hopen : (t.assess p).eligible = true ↔
        (∀ q ∈ rules.exclusion.eraseIdx i, q.holds p = false) ∧
          rules.threshold ≤ (s.assess p).score := by
      rw [eligible_iff ht, ← score_assess ht, hscore, ← unmet_modify_iff hop]
      exact Iff.rfl
    refine ⟨hscore, ?_⟩
    rw [← Bool.not_eq_true, hclosed, hopen]
    cases r.holds p <;> simp

/-- With two exclusions, a misspelt one still leaves the other; an unknown operator where there are
points to be had keeps the refusal, and the last exclusion that is misspelt opens the scheme. -/
theorem employee_stays_excluded_until_misspelt :
    let employee : Rule := {
      field := ⟨"exclusions.is_government_employee"⟩, operator := .equals, value := .bool true
      explanation := "Government employees are excluded" }
    let taxpayer : Rule := { employee with
      field := ⟨"exclusions.is_income_tax_payer"⟩
      explanation := "Income tax payers are excluded" }
    let farmer : Rule := {
      field := ⟨"occupation.primary_occupation"⟩, operator := .equals, value := .str "Farmer"
      weight := some 10.0, explanation := "Primary occupation must be farming" }
    let rules : RuleSet := {
      inclusion := [farmer], exclusion := [employee, taxpayer]
      priority := [{ farmer with priorityBoost := some 2.5 }], minimumScore := some 12.5 }
    let s : Scheme := { id := "SCH001", criteria := some { rules := some rules } }
    let misspelt : Operator := .ofTag "EQUALS"
    let p : Profile := ⟨.obj [
      ("exclusions", .obj [("is_government_employee", .bool true)]),
      ("occupation", .obj [("primary_occupation", .str "Farmer")])]⟩
    rules.NonnegativeAmounts ∧ misspelt.isSupported = false ∧ (s.assess p).eligible = false ∧
      ((s.withRules (rules.withInclusionOperator 0 misspelt)).assess p).eligible = false ∧
      ((s.withRules (rules.withExclusionOperator 1 misspelt)).assess p).eligible ≠ true ∧
      ((s.withRules (rules.withExclusionOperator 0 misspelt)).assess p).eligible = true := by
  intro employee taxpayer farmer rules s misspelt p
  have hamounts : rules.NonnegativeAmounts := ⟨by decide +kernel, by decide +kernel⟩
  have hmisspelt : misspelt.isSupported = false := by decide +kernel
  have hrefused : (s.assess p).eligible = false := by decide +kernel
  have hrules : s.rules = some rules := rfl
  have hunknown := unknown_operators_open_exclusions_only (p := p) hrules hmisspelt
  refine ⟨hamounts, hmisspelt, hrefused, ((hunknown 0).1 hamounts).1.refused hrefused,
    fun hopen ↦ ?_, ?_⟩
  · -- the exclusion that was not met is not what keeps the scheme closed
    obtain ⟨hmet, -⟩ := ((hunknown 1).2 taxpayer rfl).2.1 ⟨hrefused, hopen⟩
    exact absurd hmet (by decide +kernel)
  · exact (((hunknown 0).2 employee rfl).2.2 (by decide +kernel)).2

end Scheme

end Welfare
