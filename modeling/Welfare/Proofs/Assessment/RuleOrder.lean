import Welfare.Proofs.Assessment.Reckoning
import Welfare.Proofs.Double.Sum
import Welfare.Proofs.Rule.Codec

/-!
# The order of rules

A score is added up in the order in which a catalog lists the rules, and every addition of doubles
is rounded.  So the order can matter, and where the exact sum lies on the threshold it can decide:
a tenth, two tenths and seven tenths of a point come to one point in this order and to a little
less in the opposite one.

That is all the order can do.  It does not matter at all as long as nothing is rounded, or at most
two amounts are added up in each list; and in general it moves a score by no more than the roundings
do, so a threshold that is further away decides as the exact sum does.

* `RuleSet.Reordered` — the same rules in another order.
* `Scheme.order_of_tenths_decides` — an order that decides.
* `Scheme.order_matters_by_rounding_only` — when it does not.
-/

set_option autoImplicit false

namespace Welfare

open Double (SumsExactly absoluteSum count exactSum gamma)
open Json.Document (ofJson)

/-! ## Other orders -/

namespace RuleSet

/-- The same rules, each list in an order of its own. -/
structure Reordered (s t : RuleSet) : Prop where
  inclusion : s.inclusion.Perm t.inclusion
  exclusion : s.exclusion.Perm t.exclusion
  priority : s.priority.Perm t.priority
  minimum : s.minimumScore = t.minimumScore

/-- Everything that is added up. -/
def amountsMet (s : RuleSet) (p : Profile) : List Float := s.pointsMet p ++ s.boostsMet p

/-- How far roundings can take a score from the exact sum. -/
def errorBound (s : RuleSet) (p : Profile) : ℚ :=
  gamma ((s.amountsMet p).length + 1) * absoluteSum (s.amountsMet p)

namespace Reordered

variable {s t : RuleSet} {p : Profile}

theorem threshold (h : s.Reordered t) : s.threshold = t.threshold := by
  rw [RuleSet.threshold, RuleSet.threshold, h.minimum]

theorem pointsMet (h : s.Reordered t) : (s.pointsMet p).Perm (t.pointsMet p) :=
  (h.inclusion.filter _).map _

theorem boostsMet (h : s.Reordered t) : (s.boostsMet p).Perm (t.boostsMet p) :=
  (h.priority.filter _).map _

theorem amountsMet (h : s.Reordered t) : (s.amountsMet p).Perm (t.amountsMet p) :=
  h.pointsMet.append h.boostsMet

theorem errorBound (h : s.Reordered t) : s.errorBound p = t.errorBound p := by
  rw [RuleSet.errorBound, RuleSet.errorBound, h.amountsMet.length_eq,
    Double.absoluteSum_perm h.amountsMet]

/-- Exclusions disqualify in any order. -/
theorem unmet_iff (h : s.Reordered t) :
    (∀ r ∈ s.exclusion, r.holds p = false) ↔ ∀ r ∈ t.exclusion, r.holds p = false :=
  forall_congr' fun _ ↦ imp_congr_left h.exclusion.mem_iff

end Reordered

end RuleSet

/-! ## What the order leaves alone -/

namespace Scheme

variable {s t : Scheme} {rules rules' : RuleSet} {p : Profile}

/-- The verdict depends on the order through the score only. -/
theorem eligible_eq_of_score_eq (hs : s.rules = some rules) (ht : t.rules = some rules')
    (h : rules.Reordered rules') (hscore : (s.assess p).score = (t.assess p).score) :
    (s.assess p).eligible = (t.assess p).eligible := by
  rw [Bool.eq_iff_iff, eligible_iff hs, eligible_iff ht, h.unmet_iff, h.threshold,
    ← score_assess hs, ← score_assess ht, hscore]

/-- A finite score is off by no more than the roundings. -/
theorem abs_score_sub_le (hs : s.rules = some rules)
    (hfinite : (s.assess p).score.isFinite = true) :
    |(count (s.assess p).score : ℚ) - exactSum (rules.amountsMet p)| ≤ rules.errorBound p := by
  rw [score_assess hs] at hfinite ⊢
  exact Double.abs_count_sum_add_sum_sub_le hfinite

/-- A threshold that is further away than the roundings can take a score decides as the exact sum
does. -/
theorem eligible_iff_exactSum (hs : s.rules = some rules)
    (hfinite : (s.assess p).score.isFinite = true) (hthreshold : rules.threshold.isFinite = true)
    (hfar : rules.errorBound p < |(exactSum (rules.amountsMet p) : ℚ) - count rules.threshold|) :
    (s.assess p).eligible = true ↔ (∀ r ∈ rules.exclusion, r.holds p = false) ∧
      count rules.threshold ≤ exactSum (rules.amountsMet p) := by
  have hnumbers : rules.threshold.isNaN = false ∧ (s.assess p).score.isNaN = false :=
    ⟨Double.isNaN_of_isFinite hthreshold, Double.isNaN_of_isFinite hfinite⟩
  have hreached : rules.threshold ≤ (s.assess p).score ↔
      count rules.threshold ≤ exactSum (rules.amountsMet p) := by
    have hclose := abs_le.1 (abs_score_sub_le hs hfinite)
    rw [Double.le_iff, and_iff_right hnumbers.1, and_iff_right hnumbers.2,
      ← Int.cast_le (R := ℚ), ← Int.cast_le (R := ℚ)]
    rcases lt_abs.1 hfar with habove | hbelow
    · exact iff_of_true (by linarith) (by linarith)
    · exact iff_of_false (by linarith) (by linarith)
  rw [eligible_iff hs, ← score_assess hs, hreached]

/-- Two schemes score a profile alike, to the bit, and give it the same verdict. -/
def SameResult (s t : Scheme) (p : Profile) : Prop :=
  (s.assess p).score = (t.assess p).score ∧ (s.assess p).eligible = (t.assess p).eligible

theorem sameResult_of_score_eq (hs : s.rules = some rules) (ht : t.rules = some rules')
    (h : rules.Reordered rules') (hscore : (s.assess p).score = (t.assess p).score) :
    s.SameResult t p :=
  ⟨hscore, eligible_eq_of_score_eq hs ht h hscore⟩

/-- **An order that decides.**  Three amounts that come to exactly one point where they are read: in
one order their doubles add up to one, and in the opposite order to the double below it.  Both rule
sets can be read from a document. -/
theorem order_of_tenths_decides :
    let worth (weight : Float) : Rule := {
      field := ⟨"age"⟩, operator := .notEmpty, value := .null, weight := some weight
      explanation := "Age is known" }
    let rules : RuleSet := {
      inclusion := [worth 0.1, worth 0.2, worth 0.7], minimumScore := some 1.0 }
    let rules' : RuleSet := {
      inclusion := [worth 0.7, worth 0.2, worth 0.1], minimumScore := some 1.0 }
    let s : Scheme := { id := "SCH001", criteria := some { rules := some rules } }
    let p : Profile := ⟨.obj [("age", .num (.int 64 (by decide)))]⟩
    RuleSet.decode .value (ofJson rules.toJson) = .ok rules ∧
      RuleSet.decode .value (ofJson rules'.toJson) = .ok rules' ∧
      rules.Reordered rules' ∧
      (s.assess p).score = 1.0 ∧ (s.assess p).eligible = true ∧
      ((s.withRules rules').assess p).score = 0.9999999999999999 ∧
      ((s.withRules rules').assess p).eligible = false := by
  intro worth rules rules' s p
  have hworth : ∀ w : Float, w.isFinite = true → (worth w).Storable := by
    intro w hw
    refine ⟨rfl, trivial, fun x hx ↦ ?_, fun x hx ↦ by cases hx⟩
    obtain rfl := Option.some.inj hx
    exact hw
  have hminimum : ∀ x : Float, some 1.0 = some x → x.isFinite = true := by
    intro x hx
    obtain rfl := Option.some.inj hx
    decide +kernel
  have hnone : ∀ r ∈ ([] : List Rule), r.Storable := List.forall_mem_nil _
  have hstorable : rules.Storable := by
    refine ⟨?_, hnone, hnone, hminimum⟩
    simp only [rules, List.forall_mem_cons]
    exact ⟨hworth _ (by decide +kernel), hworth _ (by decide +kernel), hworth _ (by decide +kernel),
      hnone⟩
  have hreordered : rules.Reordered rules' :=
    ⟨List.reverse_perm rules'.inclusion, .refl _, .refl _, rfl⟩
  have hstorable' : rules'.Storable :=
    ⟨fun r hr ↦ hstorable.inclusion r (hreordered.inclusion.mem_iff.2 hr), hnone, hnone, hminimum⟩
  exact ⟨RuleSet.decode_toJson hstorable .value, RuleSet.decode_toJson hstorable' .value,
    hreordered, by decide +kernel, by decide +kernel, by decide +kernel, by decide +kernel⟩

/-- **The order of rules matters by rounding only.**  Between two orders of the same rules, the
order of the exclusions never changes the score or the verdict.  Nor does any other order if at most
two inclusion rules and at most two priority rules are met, or if the amounts that count are added
up without rounding.  In general a finite score, in any order, is off from the exact sum of the
amounts by no more than `(1 + 2⁻⁵³) ^ (n + 1) - 1` of what the `n` amounts come to without their
signs; and a threshold that is further away from the exact sum than this is reached in both orders
or in neither, as the exact sum says. -/
theorem order_matters_by_rounding_only (hs : s.rules = some rules) (ht : t.rules = some rules')
    (h : rules.Reordered rules') :
    (rules.inclusion = rules'.inclusion → rules.priority = rules'.priority → s.SameResult t p) ∧
    ((rules.inclusionsMet p).length ≤ 2 → (rules.prioritiesMet p).length ≤ 2 →
      s.SameResult t p) ∧
    (SumsExactly (rules.amountsMet p) → s.SameResult t p) ∧
    ((s.assess p).score.isFinite = true → (t.assess p).score.isFinite = true →
      let bound := ((1 + 1 / 2 ^ 53) ^ ((rules.amountsMet p).length + 1) - 1 : ℚ) *
        absoluteSum (rules.amountsMet p)
      |(count (s.assess p).score : ℚ) - exactSum (rules.amountsMet p)| ≤ bound ∧
      |(count (t.assess p).score : ℚ) - exactSum (rules.amountsMet p)| ≤ bound ∧
      (rules.threshold.isFinite = true →
        bound < |(exactSum (rules.amountsMet p) : ℚ) - count rules.threshold| →
        (s.assess p).eligible = (t.assess p).eligible ∧
        ((s.assess p).eligible = true ↔ (∀ r ∈ rules.exclusion, r.holds p = false) ∧
          count rules.threshold ≤ exactSum (rules.amountsMet p)))) := by
  have hsame := sameResult_of_score_eq (p := p) hs ht h
  rw [score_assess hs, score_assess ht] at hsame
  refine ⟨fun hinclusion hpriority ↦ hsame ?_, fun hpoints hboosts ↦ hsame ?_,
    fun hexact ↦ hsame (Double.sum_add_sum_eq hexact h.pointsMet h.boostsMet), ?_⟩
  · simp only [RuleSet.pointsMet, RuleSet.boostsMet, RuleSet.inclusionsMet, RuleSet.prioritiesMet,
      hinclusion, hpriority]
  · exact Double.add_congr (Double.value_sum_of_perm h.pointsMet (by simpa [RuleSet.pointsMet]))
      (Double.value_sum_of_perm h.boostsMet (by simpa [RuleSet.boostsMet]))
  · intro hsf htf bound
    have hs' := abs_score_sub_le hs hsf
    have ht' := abs_score_sub_le ht htf
    rw [← h.errorBound, ← Double.exactSum_perm h.amountsMet] at ht'
    refine ⟨hs', ht', fun hthreshold hfar ↦ ?_⟩
    have hverdict := eligible_iff_exactSum hs hsf hthreshold hfar
    have hverdict' : (t.assess p).eligible = true ↔ _ := eligible_iff_exactSum ht htf
      (h.threshold ▸ hthreshold)
      (by rwa [← h.errorBound, ← Double.exactSum_perm h.amountsMet, ← h.threshold])
    rw [← h.unmet_iff, ← Double.exactSum_perm h.amountsMet, ← h.threshold] at hverdict'
    exact ⟨Bool.eq_iff_iff.2 (hverdict.trans hverdict'.symm), hverdict⟩

/-- Amounts in quarters of a point are added up without rounding, so they reach a minimum of just
their sum in every order. -/
theorem quarters_in_another_order :
    let worth (weight : Float) : Rule := {
      field := ⟨"age"⟩, operator := .notEmpty, value := .null, weight := some weight
      explanation := "Age is known" }
    let rules : RuleSet := {
      inclusion := [worth 0.25, worth 0.5, worth 12.5], minimumScore := some 13.25 }
    let rules' : RuleSet := {
      inclusion := [worth 12.5, worth 0.5, worth 0.25], minimumScore := some 13.25 }
    let s : Scheme := { id := "SCH001", criteria := some { rules := some rules } }
    let p : Profile := ⟨.obj [("age", .num (.int 64 (by decide)))]⟩
    rules.Reordered rules' ∧ SumsExactly (rules.amountsMet p) ∧
      s.SameResult (s.withRules rules') p ∧
      ((s.withRules rules').assess p).eligible = true := by
  intro worth rules rules' s p
  have hreordered : rules.Reordered rules' :=
    ⟨List.reverse_perm rules'.inclusion, .refl _, .refl _, rfl⟩
  -- a quarter of a point is `2 ^ 1072` of the smallest doubles
  have hexact : SumsExactly (rules.amountsMet p) :=
    ⟨1072, by decide +kernel, by decide +kernel, by decide +kernel⟩
  have hsame : s.SameResult (s.withRules rules') p :=
    (order_matters_by_rounding_only rfl (s.rules_withRules rules') hreordered).2.2.1 hexact
  exact ⟨hreordered, hexact, hsame, hsame.2.symm.trans (by decide +kernel)⟩

end Scheme

end Welfare
