import Welfare.Proofs.Assessment.Reckoning
import Welfare.Proofs.Insertion

/-!
# Rules that are not met

The rules of a scheme are looked at one after the other, and every look may change what was found so
far.  A rule that a profile does not meet changes almost nothing: among the exclusions and the
priority rules it leaves no trace at all, and among the inclusion rules it leaves one entry of the
trail and, if it asks for a document, the name of that document.  Both stand where the rule stands,
so an author may put such a rule anywhere without moving anything else.

* `Operator.holds_none`, `Rule.holds_eq_false` — which rules are never met.
* `RuleSet.findings_insert_exclusion`, `findings_insert_priority`, `findings_insert_inclusion` — one
  list with one rule more.
* `Scheme.unmet_rules_are_inert` — the whole assessment.
-/

set_option autoImplicit false

namespace Welfare

/-! ## Rules that are never met -/

/-- A field that a profile does not have passes no operator. -/
theorem Operator.holds_none (op : Operator) (operand : Json) : op.holds none operand = false := by
  cases op with
  | between => simp [holds, liesBetween]
  | _ => rfl

/-- An operator that is not known passes nothing, and a field that is not there never passes. -/
theorem Rule.holds_eq_false {r : Rule} {p : Profile}
    (h : r.operator.isSupported = false ∨ p.resolve r.field = none) : r.holds p = false := by
  rw [Rule.holds]
  rcases h with hop | hfield
  · cases hr : r.operator with
    | unsupported tag => rfl
    | _ => rw [hr] at hop; cases hop
  · rw [hfield, Operator.holds_none]

/-! ## One rule more -/

namespace RuleSet

variable {s : RuleSet} {p : Profile} {r : Rule}

/-- An exclusion that is not met leaves no trace. -/
theorem findings_insert_exclusion (h : r.holds p = false) (i : Nat) :
    { s with exclusion := s.exclusion.insertIdx i r }.findings p = s.findings p := by
  rw [findings_eq, findings_eq]
  simp only [exclusionsMet, inclusionsMet, inclusionsFailed, prioritiesMet,
    any_insertIdx_of_neg (P := (Rule.holds · p)) h,
    filter_insertIdx_of_neg (P := (Rule.holds · p)) h]

/-- A priority rule that is not met leaves no trace. -/
theorem findings_insert_priority (h : r.holds p = false) (i : Nat) :
    { s with priority := s.priority.insertIdx i r }.findings p = s.findings p := by
  rw [findings_eq, findings_eq]
  simp only [exclusionsMet, inclusionsMet, inclusionsFailed, prioritiesMet,
    filter_insertIdx_of_neg (P := (Rule.holds · p)) h]

/-- The documents that failed rules ask for, up to a place in the list of inclusion rules. -/
def documentsBefore (s : RuleSet) (p : Profile) (i : Nat) : Nat :=
  (s.inclusion.take i).countP fun q ↦ q.asksForDocument && !q.holds p

/-- An inclusion rule that is not met leaves an entry, and a document if it asks for one, where it
stands. -/
theorem findings_insert_inclusion (h : r.holds p = false) {i : Nat} (hi : i ≤ s.inclusion.length) :
    { s with inclusion := s.inclusion.insertIdx i r }.findings p =
      { s.findings p with
        trail := (s.findings p).trail.insertIdx ((s.exclusionsMet p).length + i)
          (.failed r.explanation)
        missingDocuments :=
          if r.asksForDocument then
            (s.findings p).missingDocuments.insertIdx (s.documentsBefore p i) r.documentLabel
          else (s.findings p).missingDocuments } := by
  have houtcome : r.outcome p = .failed r.explanation := by rw [Rule.outcome, h]; rfl
  have htrail : (s.exclusionsMet p).map (.disqualified ·.explanation) ++
        (s.inclusion.insertIdx i r).map (·.outcome p) ++
        ((s.prioritiesMet p).map fun r ↦ .boosted r.boost r.explanation) =
      (s.findings p).trail.insertIdx ((s.exclusionsMet p).length + i)
        (.failed r.explanation) := by
    have hplace : (s.exclusionsMet p).length + i ≤
        ((s.exclusionsMet p).map (Finding.disqualified ·.explanation) ++
          s.inclusion.map (·.outcome p)).length := by
      rw [List.length_append, List.length_map, List.length_map]
      omega
    rw [findings_eq, List.map_insertIdx, houtcome, append_insertIdx, List.length_map,
      insertIdx_append hplace]
  have hdocuments : ((s.inclusion.insertIdx i r).filter (!·.holds p)).filter Rule.asksForDocument =
      if r.asksForDocument then
        ((s.inclusionsFailed p).filter Rule.asksForDocument).insertIdx (s.documentsBefore p i) r
      else (s.inclusionsFailed p).filter Rule.asksForDocument := by
    rw [inclusionsFailed, List.filter_filter, List.filter_filter]
    split
    · next hd => exact filter_insertIdx_of_pos (by rw [hd, h]; rfl) hi
    · next hd => exact filter_insertIdx_of_neg (by rw [Bool.eq_false_iff.2 hd]; rfl) i
  rw [findings_eq, ← htrail, findings_eq]
  simp only [exclusionsMet, inclusionsMet, inclusionsFailed, prioritiesMet,
    filter_insertIdx_of_neg (P := (Rule.holds · p)) h, hdocuments]
  split
  · simp only [List.map_insertIdx]
  · rfl

/-- The entries of the exclusions and of the first inclusion rules are part of the trail. -/
theorem le_length_trail {i : Nat} (hi : i ≤ s.inclusion.length) :
    (s.exclusionsMet p).length + i ≤ (s.findings p).trail.length := by
  rw [findings_eq, List.length_append, List.length_append, List.length_map, List.length_map]
  omega

end RuleSet

/-! ## The whole assessment -/

namespace Scheme

variable {s : Scheme} {rules : RuleSet} {p : Profile} {r : Rule}

/-- Rules that find the same, with the same threshold, are assessed alike. -/
theorem assess_withRules {rules' : RuleSet} (hs : s.rules = some rules)
    (hfindings : rules'.findings p = rules.findings p)
    (hthreshold : rules'.threshold = rules.threshold) :
    (s.withRules rules').assess p = s.assess p := by
  rw [assess, assess, hs, rules_withRules]
  simp only [hfindings, hthreshold]
  rfl

theorem assess_insert_inclusion (hs : s.rules = some rules) (h : r.holds p = false) {i : Nat}
    (hi : i ≤ rules.inclusion.length) :
    (s.withRules { rules with inclusion := rules.inclusion.insertIdx i r }).assess p =
      { s.assess p with
        reasoning := (s.assess p).reasoning.insertIdx ((rules.exclusionsMet p).length + i)
          (Finding.failed r.explanation).render
        missingDocuments :=
          if r.asksForDocument then
            (s.assess p).missingDocuments.insertIdx (rules.documentsBefore p i) r.documentLabel
          else (s.assess p).missingDocuments } := by
  have htrail : ∀ tail : List Finding,
      (rules.findings p).trail.insertIdx ((rules.exclusionsMet p).length + i)
          (.failed r.explanation) ++ tail =
        ((rules.findings p).trail ++ tail).insertIdx ((rules.exclusionsMet p).length + i)
          (.failed r.explanation) :=
    fun tail ↦ insertIdx_append (RuleSet.le_length_trail hi)
  rw [assess, assess, hs, rules_withRules]
  simp only [RuleSet.findings_insert_inclusion h hi, Findings.fullTrail, htrail,
    List.map_insertIdx]
  rfl

/-- The place of an entry of the trail is one that the trail has. -/
theorem le_length_reasoning (hs : s.rules = some rules) {i : Nat}
    (hi : i ≤ rules.inclusion.length) :
    (rules.exclusionsMet p).length + i ≤ (s.assess p).reasoning.length := by
  rw [assess, hs]
  show _ ≤ (((rules.findings p).fullTrail rules.threshold).map Finding.render).length
  rw [List.length_map, Findings.fullTrail, List.length_append]
  exact Nat.le_add_right_of_le (RuleSet.le_length_trail hi)

/-- The place of a document is one that the documents have. -/
theorem documentsBefore_le_length (hs : s.rules = some rules) (i : Nat) :
    rules.documentsBefore p i ≤ (s.assess p).missingDocuments.length := by
  have hdocuments : (s.assess p).missingDocuments = (rules.findings p).missingDocuments := by
    rw [assess, hs]
  rw [hdocuments, RuleSet.findings_eq, List.length_map, RuleSet.inclusionsFailed,
    List.filter_filter, ← List.countP_eq_length_filter]
  exact (List.take_sublist i rules.inclusion).countP_le

/-- **Rules that are not met are inert.**  A rule with an operator that is not known, or on a field
that a profile does not have, is never met.  A rule that is not met changes nothing at all among the
exclusions and among the priority rules, wherever it stands.  Behind the first `i` inclusion rules
it adds one entry to the trail, behind those of the exclusions and of these rules, and the document
it asks for, if it lies among the documents of a profile, behind those that these rules ask for;
the score, the boost, the verdict and every other entry stay as they are. -/
theorem unmet_rules_are_inert :
    (∀ (r : Rule) (p : Profile), r.operator.isSupported = false ∨ p.resolve r.field = none →
      r.holds p = false) ∧
    ∀ (s : Scheme) (rules : RuleSet) (p : Profile) (r : Rule), s.rules = some rules →
      r.holds p = false → ∀ i : Nat,
      (s.withRules { rules with exclusion := rules.exclusion.insertIdx i r }).assess p =
        s.assess p ∧
      (s.withRules { rules with priority := rules.priority.insertIdx i r }).assess p =
        s.assess p ∧
      (i ≤ rules.inclusion.length →
        let entry := (rules.exclusionsMet p).length + i
        let document := (rules.inclusion.take i).countP fun q ↦
          "documents.".toList.isPrefixOf q.field.path.toList && !q.holds p
        entry ≤ (s.assess p).reasoning.length ∧
        document ≤ (s.assess p).missingDocuments.length ∧
        (s.withRules { rules with inclusion := rules.inclusion.insertIdx i r }).assess p =
          { s.assess p with
            reasoning := (s.assess p).reasoning.insertIdx entry ("ℹ️ Failed: " ++ r.explanation)
            missingDocuments :=
              if "documents.".toList <+: r.field.path.toList then
                (s.assess p).missingDocuments.insertIdx document r.documentLabel
              else (s.assess p).missingDocuments }) := by
  refine ⟨fun r p h ↦ Rule.holds_eq_false h, fun s rules p r hs h i ↦ ⟨?_, ?_, fun hi ↦ ?_⟩⟩
  · exact assess_withRules hs (RuleSet.findings_insert_exclusion h i) rfl
  · exact assess_withRules hs (RuleSet.findings_insert_priority h i) rfl
  · have hdocument := documentsBefore_le_length (p := p) hs i
    have hassess := assess_insert_inclusion hs h hi
    simp only [RuleSet.documentsBefore, Rule.asksForDocument_eq,
      List.isPrefixOf_iff_prefix] at hdocument hassess
    exact ⟨le_length_reasoning hs hi, hdocument, hassess⟩

/-- A farmer who is looked at twice: once by a scheme that also asks for an income certificate, with
an operator that is not known, between the land and the card.  The entry and the document stand
between those of the other two. -/
theorem unmet_certificate_between_land_and_card :
    let land : Rule := {
      field := ⟨"documents.land"⟩, operator := .notEmpty, value := .null
      explanation := "Land record required" }
    let card : Rule := { land with field := ⟨"documents.card"⟩, explanation := "Card required" }
    let certificate : Rule := {
      field := ⟨"documents.income"⟩, operator := .unsupported "is_set", value := .null
      weight := some 5.0, explanation := "Income certificate required" }
    let young : Rule := {
      field := ⟨"age"⟩, operator := .lessThan, value := .num (.int 30 (by decide))
      explanation := "Under thirty" }
    let rules : RuleSet := {
      inclusion := [land, card], exclusion := [young], minimumScore := some 1.0 }
    let s : Scheme := { id := "SCH001", criteria := some { rules := some rules } }
    let p : Profile := ⟨.obj [("age", .num (.int 25 (by decide)))]⟩
    certificate.operator.isSupported = false ∧
      (s.withRules { rules with exclusion := [young, certificate] }).assess p = s.assess p ∧
      ((s.withRules { rules with inclusion := [land, certificate, card] }).assess p).reasoning =
        ["❌ Disqualified: Under thirty", "ℹ️ Failed: Land record required",
         "ℹ️ Failed: Income certificate required", "ℹ️ Failed: Card required"] ∧
      ((s.withRules { rules with inclusion := [land, certificate, card] }).assess
        p).missingDocuments = ["Land record", "Income certificate", "Card"] := by
  intro land card certificate young rules s p
  have hrules : s.rules = some rules := rfl
  have hunmet : certificate.holds p = false := unmet_rules_are_inert.1 certificate p (.inl rfl)
  have hinert := unmet_rules_are_inert.2 s rules p certificate hrules hunmet 1
  have hinclusion := (hinert.2.2 (by decide)).2.2
  refine ⟨rfl, hinert.1, ?_, ?_⟩
  · exact (congrArg Assessment.reasoning hinclusion).trans (by decide +kernel)
  · exact (congrArg Assessment.missingDocuments hinclusion).trans (by decide +kernel)

end Scheme

end Welfare
