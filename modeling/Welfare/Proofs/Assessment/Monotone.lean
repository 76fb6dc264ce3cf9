import Welfare.Proofs.Double.Sum
import Welfare.Proofs.Insertion
import Welfare.Proofs.Rule.Codec

/-!
# What can only help

A score is a sum of doubles, so putting one more amount into it changes all roundings behind it, and
a sum may even run into an infinity.  Still, a met rule that adds nothing negative never takes an
eligibility away, and neither does an exclusion less or a lower minimum: rounded addition keeps the
order of running sums, and a threshold that is reached shows that no sum has reached the infinity at
the lower end, which is the only one that another could be opposed to.

* `RuleSet.FiniteAmounts` — what is read from a document has only finite amounts.
* `sum_met_le_sum_met_insertIdx` — what met rules come to with one rule more.
* `Scheme.NoWorse`, `Scheme.noWorse_of_le` — an assessment with one sum larger.
* `Scheme.verdict_is_monotone` — the four changes that can only help.
-/

set_option autoImplicit false

namespace Welfare

open Json (Document Origin)

/-! ## Finite amounts -/

/-- Rules whose points, boosts and minimum are finite. -/
structure RuleSet.FiniteAmounts (s : RuleSet) : Prop where
  points : ∀ r ∈ s.inclusion, r.points.isFinite = true
  boost : ∀ r ∈ s.priority, r.boost.isFinite = true
  threshold : s.threshold.isFinite = true

theorem isFinite_getD {x : Option Float} (h : ∀ y, x = some y → y.isFinite = true) :
    (x.getD 0.0).isFinite = true := by
  cases x with
  | none => exact Double.isFinite_zero
  | some y => exact h y rfl

theorem Rule.Storable.isFinite_points {r : Rule} (h : r.Storable) : r.points.isFinite = true :=
  isFinite_getD h.weight

theorem Rule.Storable.isFinite_boost {r : Rule} (h : r.Storable) : r.boost.isFinite = true :=
  isFinite_getD h.boost

/-- A document has no other amounts than finite ones. -/
theorem RuleSet.finiteAmounts_of_decode {origin : Origin} {d : Document} {s : RuleSet}
    (h : decode origin d = .ok s) : s.FiniteAmounts := by
  have hstorable := storable_of_decode h
  exact ⟨fun r hr ↦ (hstorable.inclusion r hr).isFinite_points,
    fun r hr ↦ (hstorable.priority r hr).isFinite_boost, isFinite_getD hstorable.minimum⟩

/-! ## One rule more -/

/-- A met rule whose amount is not negative does not make the sum of the amounts smaller. -/
theorem sum_met_le_sum_met_insertIdx {rules : List Rule} {p : Profile} {r : Rule} {i : ℕ}
    {amount : Rule → Float} (hrules : ∀ q ∈ rules, (amount q).isFinite = true)
    (hi : i ≤ rules.length) (hr : r.holds p = true) (hfinite : (amount r).isFinite = true)
    (hpos : 0.0 ≤ amount r) :
    sum ((rules.filter (·.holds p)).map amount) ≤
      sum (((rules.insertIdx i r).filter (·.holds p)).map amount) := by
  have hmet : ∀ x ∈ (rules.filter (·.holds p)).map amount, x.isFinite = true := by
    intro x hx
    obtain ⟨q, hq, rfl⟩ := List.mem_map.1 hx
    exact hrules q (List.mem_of_mem_filter hq)
  rw [filter_insertIdx_of_pos (P := (Rule.holds · p)) hr hi, List.map_insertIdx]
  exact Double.sum_le_sum_insertIdx hmet hfinite hpos _

/-! ## Verdicts -/

namespace Scheme

variable {s t : Scheme} {rules rules' : RuleSet} {p : Profile}

/-- Two assessments of which the second is no worse: it keeps an eligibility, and if both scores are
numbers, the second is not smaller. -/
def NoWorse (s t : Scheme) (p : Profile) : Prop :=
  ((s.assess p).eligible = true → (t.assess p).eligible = true) ∧
  ((s.assess p).score.isNaN = false → (t.assess p).score.isNaN = false →
    (s.assess p).score ≤ (t.assess p).score)

/-- If one of the two sums in a score grows, and nothing else that the verdict depends on changes,
the assessment is no worse. -/
theorem noWorse_of_le {x y z : Float} (hs : s.rules = some rules) (ht : t.rules = some rules')
    (hfinite : rules.threshold.isFinite = true) (hthreshold : rules'.threshold = rules.threshold)
    (hexclusion : rules'.exclusion = rules.exclusion) (hx : (s.assess p).score = x + z)
    (hy : (t.assess p).score = y + z) (h : x ≤ y) : s.NoWorse t p := by
  rw [NoWorse, eligible_iff hs, eligible_iff ht, ← score_assess hs, ← score_assess ht, hexclusion,
    hthreshold, hx, hy]
  refine ⟨fun heligible ↦ ⟨heligible.1, ?_⟩, fun hn hn' ↦ Double.add_le_add_right h hn hn'⟩
  exact Double.le_add_of_le_add hfinite heligible.2 h

/-- **What can only help.**  Whatever is read from a document has finite amounts only.  For rules
with finite amounts, putting a rule that is met and whose points are not negative anywhere among the
inclusion rules, or one whose boost is not negative anywhere among the priority rules, keeps an
eligibility, and does not lower a score that is a number before and after; taking an exclusion away
keeps an eligibility, and so does lowering the minimum. -/
theorem verdict_is_monotone :
    (∀ (origin : Origin) (d : Document) (rules : RuleSet),
      RuleSet.decode origin d = .ok rules → rules.FiniteAmounts) ∧
    ∀ (s : Scheme) (rules : RuleSet) (p : Profile), s.rules = some rules → rules.FiniteAmounts →
      (∀ (r : Rule) (i : ℕ), i ≤ rules.inclusion.length → r.holds p = true →
        r.points.isFinite = true → 0.0 ≤ r.points →
        s.NoWorse (s.withRules { rules with inclusion := rules.inclusion.insertIdx i r }) p) ∧
      (∀ (r : Rule) (i : ℕ), i ≤ rules.priority.length → r.holds p = true →
        r.boost.isFinite = true → 0.0 ≤ r.boost →
        s.NoWorse (s.withRules { rules with priority := rules.priority.insertIdx i r }) p) ∧
      (∀ i : ℕ, (s.assess p).eligible = true →
        ((s.withRules { rules with exclusion := rules.exclusion.eraseIdx i }).assess p).eligible =
          true) ∧
      (∀ minimum : Option Float, minimum.getD 0.0 ≤ rules.threshold →
        (s.assess p).eligible = true →
        ((s.withRules { rules with minimumScore := minimum }).assess p).eligible = true) := by
  refine ⟨fun origin d rules h ↦ RuleSet.finiteAmounts_of_decode h,
    fun s rules p hs hamounts ↦ ⟨fun r i hi hr hfinite hpos ↦ ?_, fun r i hi hr hfinite hpos ↦ ?_,
      fun i heligible ↦ ?_, fun minimum hle heligible ↦ ?_⟩⟩
  · have hpoints := sum_met_le_sum_met_insertIdx hamounts.points hi hr hfinite hpos
    have ht := s.rules_withRules { rules with inclusion := rules.inclusion.insertIdx i r }
    have hscore := score_assess (p := p) ht
    exact noWorse_of_le hs ht hamounts.threshold rfl rfl (score_assess hs) hscore hpoints
  · have hboosts := sum_met_le_sum_met_insertIdx hamounts.boost hi hr hfinite hpos
    have ht := s.rules_withRules { rules with priority := rules.priority.insertIdx i r }
    exact noWorse_of_le hs ht hamounts.threshold rfl rfl
      ((score_assess hs).trans (Double.add_comm_double _ _))
      ((score_assess ht).trans (Double.add_comm_double _ _)) hboosts
  · obtain ⟨hunmet, hreached⟩ := (eligible_iff hs).1 heligible
    exact (eligible_iff (s.rules_withRules _)).2
      ⟨fun q hq ↦ hunmet q (List.mem_of_mem_eraseIdx hq), hreached⟩
  · obtain ⟨hunmet, hreached⟩ := (eligible_iff hs).1 heligible
    exact (eligible_iff (s.rules_withRules _)).2 ⟨hunmet, Double.le_trans_double hle hreached⟩

/-- Two rules whose points run into an infinity: a third one between them, worth a tenth of a point,
changes neither the verdict nor the score. -/
theorem tenth_between_huge_weights :
    let huge : Rule := {
      field := ⟨"age"⟩, operator := .notEmpty, value := .null, weight := some 1.5e308
      explanation := "Age is known" }
    let tenth : Rule := { huge with weight := some 0.1 }
    let levy : Rule := { huge with priorityBoost := some (-2.5) }
    let rules : RuleSet := {
      inclusion := [huge, huge], priority := [levy], minimumScore := some 40.0 }
    let s : Scheme := { id := "SCH001", criteria := some { rules := some rules } }
    let t := s.withRules { rules with inclusion := [huge, tenth, huge] }
    let p : Profile := ⟨.obj [("age", .num (.int 64 (by decide)))]⟩
    rules.FiniteAmounts ∧ tenth.holds p = true ∧ 0.0 ≤ tenth.points ∧
      (s.assess p).eligible = true ∧ (t.assess p).eligible = true ∧
      (s.assess p).score.isInf = true ∧ (s.assess p).score ≤ (t.assess p).score := by
  intro huge tenth levy rules s t p
  have hamounts : rules.FiniteAmounts :=
    ⟨by decide +kernel, by decide +kernel, by decide +kernel⟩
  have hmet : tenth.holds p = true := by decide +kernel
  have hpos : 0.0 ≤ tenth.points := by decide +kernel
  have hnoWorse : s.NoWorse t p :=
    (verdict_is_monotone.2 s rules p rfl hamounts).1 tenth 1 (by decide) hmet
      (by decide +kernel) hpos
  have heligible : (s.assess p).eligible = true := by decide +kernel
  exact ⟨hamounts, hmet, hpos, heligible, hnoWorse.1 heligible, by decide +kernel,
    hnoWorse.2 (by decide +kernel) (by decide +kernel)⟩

end Scheme

end Welfare
