import Mathlib.Data.List.Basic
import Welfare.Proofs.Assessment.Reckoning
import Welfare.Proofs.Decimal.Characters

/-!
# The trail cannot be forged

Most of what stands in the trail was written by the author of a catalog: explanations are arbitrary
texts and may quote any other entry.  Still the kind of an entry is read off its front, because
every kind opens with a character that opens no other kind, and nothing of the author's stands
before it.  The amounts inside an entry are written without parentheses, so the first parenthesis
behind an amount ends it, and the text behind it is the explanation.

* `Finding.Kind`, `Finding.Kind.opening` — the kinds of entries and their fixed fronts.
* `Finding.opening_isPrefix_render` — an entry opens as its kind does and as no other.
* `Finding.render_eq_iff` — two entries read the same exactly when they say the same.
* `RuleSet.count_kind` — how many findings of each kind there are.
* `Scheme.trail_cannot_be_forged` — how many entries open in each way, and what their absence means.
-/

set_option autoImplicit false

namespace Welfare

namespace Finding

/-! ## Kinds of entries -/

/-- The kinds of entries. -/
inductive Kind where
  | disqualified
  | passed
  | failed
  | boosted
  | belowThreshold
deriving DecidableEq, Repr

/-- The kind of an entry. -/
def kind : Finding → Kind
  | .disqualified _ => .disqualified
  | .passed _ => .passed
  | .failed _ => .failed
  | .boosted _ _ => .boosted
  | .belowThreshold _ _ => .belowThreshold

/-- The front of the entries of a kind. -/
def Kind.opening : Kind → String
  | .disqualified => "❌ Disqualified: "
  | .passed => "✅ "
  | .failed => "ℹ️ Failed: "
  | .boosted => "⭐ Priority Boost ("
  | .belowThreshold => "⚠️ Total score ("

/-- What an entry says behind its front. -/
def body : Finding → String
  | .disqualified explanation | .passed explanation | .failed explanation => explanation
  | .boosted boost explanation => amount boost ++ ("): " ++ explanation)
  | .belowThreshold total minimum =>
    amount total ++ (") is below minimum threshold (" ++ (amount minimum ++ ")"))

theorem toList_render (f : Finding) :
    f.render.toList = f.kind.opening.toList ++ f.body.toList := by
  rw [← String.toList_append]
  cases f with
  | boosted boost explanation =>
    show ("⭐ Priority Boost (" ++ amount boost ++ "): " ++ explanation).toList = _
    rw [String.append_assoc, String.append_assoc]
    rfl
  | belowThreshold total minimum =>
    show ("⚠️ Total score (" ++ amount total ++ ") is below minimum threshold (" ++ amount minimum
      ++ ")").toList = _
    rw [String.append_assoc, String.append_assoc, String.append_assoc]
    rfl
  | _ => rfl

/-! ## Fronts -/

/-- Every kind has a front of its own, down to the first character. -/
theorem Kind.eq_of_head?_opening {k l : Kind}
    (h : k.opening.toList.head? = l.opening.toList.head?) : k = l := by
  revert h
  cases k <;> cases l <;> decide

theorem Kind.head?_opening_append (k : Kind) (cs : List Char) :
    (k.opening.toList ++ cs).head? = k.opening.toList.head? := by
  cases k <;> rfl

/-- Texts with the fronts of two kinds differ, whatever follows. -/
theorem Kind.eq_of_opening_append {k l : Kind} {cs ds : List Char}
    (h : k.opening.toList ++ cs = l.opening.toList ++ ds) : k = l := by
  refine eq_of_head?_opening ?_
  rw [← k.head?_opening_append cs, h, l.head?_opening_append ds]

/-- An entry opens as its kind does, and as no other. -/
theorem opening_isPrefix_render {f : Finding} {k : Kind} :
    k.opening.toList <+: f.render.toList ↔ f.kind = k := by
  rw [toList_render]
  constructor
  · rintro ⟨rest, h⟩
    exact (Kind.eq_of_opening_append h).symm
  · rintro rfl
    exact List.prefix_append _ _

/-- The entries of a trail that open as a kind does are those of the kind. -/
theorem countP_opening (k : Kind) (fs : List Finding) :
    (fs.map render).countP (fun entry ↦ k.opening.toList.isPrefixOf entry.toList) =
      (fs.map kind).count k := by
  rw [List.count, List.countP_map, List.countP_map]
  refine List.countP_congr fun f _ ↦ ?_
  rw [Function.comp_apply, Function.comp_apply, List.isPrefixOf_iff_prefix,
    opening_isPrefix_render, beq_iff_eq]

/-! ## Reading an entry back -/

/-- Two entries say the same: they are of one kind, with one explanation and with amounts that are
written alike. -/
inductive SameWords : Finding → Finding → Prop where
  | disqualified (e : String) : SameWords (.disqualified e) (.disqualified e)
  | passed (e : String) : SameWords (.passed e) (.passed e)
  | failed (e : String) : SameWords (.failed e) (.failed e)
  | boosted {b c : Float} (e : String) (h : amount b = amount c) :
    SameWords (.boosted b e) (.boosted c e)
  | belowThreshold {t u m n : Float} (ht : amount t = amount u) (hm : amount m = amount n) :
    SameWords (.belowThreshold t m) (.belowThreshold u n)

/-- An amount has neither parentheses nor spaces. -/
theorem notMem_amount (x : Float) {c : Char} (hc : c ∈ ['(', ')', ' ']) :
    c ∉ (amount x).toList := by
  intro hmem
  have hnumeral := amountLayout.isNumeral_of_mem_render x c hmem
  simp only [List.mem_cons, List.not_mem_nil, or_false] at hc
  rcases hc with rfl | rfl | rfl <;> exact absurd hnumeral (by decide)

/-- What stands before the first mark, and what stands behind it, can be read off a text. -/
theorem eq_of_append_cons {α : Type} {a : α} {xs ys zs ws : List α} (hxs : a ∉ xs) (hys : a ∉ ys)
    (h : xs ++ a :: zs = ys ++ a :: ws) : xs = ys ∧ zs = ws := by
  induction xs generalizing ys with
  | nil =>
    cases ys with
    | nil => exact ⟨rfl, (List.cons.inj h).2⟩
    | cons y ys => exact absurd (List.cons.inj h).1 (List.ne_of_not_mem_cons hys)
  | cons x xs ih =>
    cases ys with
    | nil => exact absurd (List.cons.inj h).1.symm (List.ne_of_not_mem_cons hxs)
    | cons y ys =>
      obtain ⟨rfl, htail⟩ := List.cons.inj h
      obtain ⟨rfl, hrest⟩ :=
        ih (List.not_mem_of_not_mem_cons hxs) (List.not_mem_of_not_mem_cons hys) htail
      exact ⟨rfl, hrest⟩

/-- An amount in parentheses, and the text behind it, can be read off an entry. -/
theorem amount_append_inj {x y : Float} {s t : String} (hs : ∃ r, s.toList = ')' :: r)
    (ht : ∃ r, t.toList = ')' :: r) (h : amount x ++ s = amount y ++ t) :
    amount x = amount y ∧ s = t := by
  obtain ⟨r, hr⟩ := hs
  obtain ⟨q, hq⟩ := ht
  have hchars : (amount x).toList ++ ')' :: r = (amount y).toList ++ ')' :: q := by
    rw [← hr, ← hq, ← String.toList_append, ← String.toList_append, h]
  have hparen : ')' ∈ ['(', ')', ' '] := by decide
  obtain ⟨hamount, hrest⟩ :=
    eq_of_append_cons (notMem_amount x hparen) (notMem_amount y hparen) hchars
  refine ⟨String.toList_inj.1 hamount, String.toList_inj.1 ?_⟩
  rw [hr, hq, hrest]

theorem boosted_inj {b c : Float} {d e : String}
    (h : amount b ++ ("): " ++ d) = amount c ++ ("): " ++ e)) : amount b = amount c ∧ d = e := by
  obtain ⟨hamount, hrest⟩ := amount_append_inj ⟨_, by rw [String.toList_append]; rfl⟩
    ⟨_, by rw [String.toList_append]; rfl⟩ h
  exact ⟨hamount, (String.append_right_inj _).1 hrest⟩

theorem belowThreshold_inj {t u m n : Float}
    (h : amount t ++ (") is below minimum threshold (" ++ (amount m ++ ")")) =
      amount u ++ (") is below minimum threshold (" ++ (amount n ++ ")"))) :
    amount t = amount u ∧ amount m = amount n := by
  obtain ⟨htotal, hrest⟩ := amount_append_inj ⟨_, by rw [String.toList_append]; rfl⟩
    ⟨_, by rw [String.toList_append]; rfl⟩ h
  have hminimum : amount m ++ ")" = amount n ++ ")" := (String.append_right_inj _).1 hrest
  exact ⟨htotal, (amount_append_inj ⟨[], rfl⟩ ⟨[], rfl⟩ hminimum).1⟩

/-- Entries that read the same say the same. -/
theorem sameWords_of_render_eq {f g : Finding} (h : f.render = g.render) : f.SameWords g := by
  have htext : f.kind.opening.toList ++ f.body.toList = g.kind.opening.toList ++ g.body.toList := by
    rw [← toList_render, ← toList_render, h]
  have hkind : f.kind = g.kind := Kind.eq_of_opening_append htext
  have hbody : f.body = g.body := by
    rw [hkind] at htext
    exact String.toList_inj.1 (List.append_cancel_left htext)
  cases f with
  | disqualified d =>
    cases g with
    | disqualified e => cases hbody; exact .disqualified d
    | _ => cases hkind
  | passed d =>
    cases g with
    | passed e => cases hbody; exact .passed d
    | _ => cases hkind
  | failed d =>
    cases g with
    | failed e => cases hbody; exact .failed d
    | _ => cases hkind
  | boosted b d =>
    cases g with
    | boosted c e =>
      obtain ⟨hamount, rfl⟩ := boosted_inj hbody
      exact .boosted d hamount
    | _ => cases hkind
  | belowThreshold t m =>
    cases g with
    | belowThreshold u n =>
      obtain ⟨htotal, hminimum⟩ := belowThreshold_inj hbody
      exact .belowThreshold htotal hminimum
    | _ => cases hkind

theorem SameWords.render_eq {f g : Finding} (h : f.SameWords g) : f.render = g.render := by
  cases h with
  | boosted e h => exact congrArg (fun a ↦ "⭐ Priority Boost (" ++ a ++ "): " ++ e) h
  | belowThreshold ht hm =>
    exact congrArg₂ (fun t m ↦
      "⚠️ Total score (" ++ t ++ ") is below minimum threshold (" ++ m ++ ")") ht hm
  | disqualified e => rfl
  | passed e => rfl
  | failed e => rfl

/-- Two entries read the same exactly when they say the same. -/
theorem render_eq_iff {f g : Finding} : f.render = g.render ↔ f.SameWords g :=
  ⟨sameWords_of_render_eq, SameWords.render_eq⟩

end Finding

/-! ## Counting entries -/

theorem Rule.kind_outcome (r : Rule) (p : Profile) :
    (r.outcome p).kind = if r.holds p then .passed else .failed := by
  rw [Rule.outcome]
  split <;> rfl

namespace RuleSet

open Finding (Kind)

variable (s : RuleSet) (p : Profile) (minimum : Float)

/-- Whether the score alone stands in the way. -/
abbrev FallsShort : Prop :=
  (s.findings p).disqualified = false ∧ ¬ minimum ≤ (s.findings p).total

/-- The kinds of the findings, first to last. -/
theorem map_kind_fullTrail :
    ((s.findings p).fullTrail minimum).map Finding.kind =
      List.replicate (s.exclusionsMet p).length .disqualified ++
      s.inclusion.map (fun r ↦ if r.holds p then .passed else .failed) ++
      List.replicate (s.prioritiesMet p).length .boosted ++
      if s.FallsShort p minimum then [.belowThreshold] else [] := by
  have houtcome : Finding.kind ∘ (Rule.outcome · p) =
      fun r ↦ if r.holds p then Kind.passed else .failed := funext fun r ↦ r.kind_outcome p
  have htrail : (s.findings p).trail.map Finding.kind =
      List.replicate (s.exclusionsMet p).length .disqualified ++
      s.inclusion.map (fun r ↦ if r.holds p then .passed else .failed) ++
      List.replicate (s.prioritiesMet p).length .boosted := by
    rw [findings_eq, List.map_append, List.map_append, List.map_map, List.map_map, List.map_map,
      houtcome]
    exact congrArg₂ (· ++ ·) (congrArg (· ++ _) List.map_const') List.map_const'
  rw [Findings.fullTrail_eq_append, List.map_append, htrail]
  split <;> rfl

/-- Every inclusion rule is met or failed. -/
theorem count_outcomes (rules : List Rule) (k : Kind) :
    (rules.map fun r ↦ if r.holds p then Kind.passed else .failed).count k =
      match k with
      | .passed => (rules.filter (·.holds p)).length
      | .failed => (rules.filter (!·.holds p)).length
      | _ => 0 := by
  induction rules with
  | nil => cases k <;> rfl
  | cons r rules ih =>
    rw [List.map_cons, List.count_cons, ih]
    by_cases h : r.holds p <;> cases k <;> simp [h]

/-- How many findings of each kind there are. -/
theorem count_kind (k : Kind) :
    (((s.findings p).fullTrail minimum).map Finding.kind).count k =
      match k with
      | .disqualified => (s.exclusionsMet p).length
      | .passed => (s.inclusionsMet p).length
      | .failed => (s.inclusionsFailed p).length
      | .boosted => (s.prioritiesMet p).length
      | .belowThreshold => if s.FallsShort p minimum then 1 else 0 := by
  rw [map_kind_fullTrail, List.count_append, List.count_append, List.count_append, count_outcomes,
    List.count_replicate, List.count_replicate]
  by_cases h : s.FallsShort p minimum
  · rw [if_pos h, if_pos h]
    cases k <;> simp [inclusionsMet, inclusionsFailed]
  · rw [if_neg h, if_neg h]
    cases k <;> simp [inclusionsMet, inclusionsFailed]

/-- Nobody is disqualified without an exclusion that is met. -/
theorem length_exclusionsMet_eq_zero_iff :
    (s.exclusionsMet p).length = 0 ↔ (s.findings p).disqualified = false := by
  rw [disqualified_findings, List.length_eq_zero_iff, exclusionsMet, List.filter_eq_nil_iff]
  simp only [Bool.not_eq_true]

end RuleSet

/-- The number of entries that open with a text. -/
def Assessment.entriesOpening (a : Assessment) (front : String) : Nat :=
  a.reasoning.countP fun entry ↦ front.toList.isPrefixOf entry.toList

/-- A trail has no entry with a front when none opens with it. -/
theorem Assessment.entriesOpening_eq_zero_iff {a : Assessment} {front : String} :
    a.entriesOpening front = 0 ↔ ∀ entry ∈ a.reasoning, ¬ front.toList <+: entry.toList := by
  rw [entriesOpening, List.countP_eq_zero]
  simp only [List.isPrefixOf_iff_prefix]

namespace Scheme

variable {s : Scheme} {rules : RuleSet} {p : Profile}

theorem reasoning_assess (h : s.rules = some rules) :
    (s.assess p).reasoning =
      ((rules.findings p).fullTrail rules.threshold).map Finding.render := by
  rw [assess, h]

theorem eligible_assess (h : s.rules = some rules) :
    (s.assess p).eligible = true ↔
      (rules.findings p).disqualified = false ∧ ¬ rules.FallsShort p rules.threshold := by
  have heligible : (s.assess p).eligible = (rules.findings p).eligible rules.threshold := by
    rw [assess, h]
  rw [heligible, Findings.eligible_eq_decide, decide_eq_true_eq, RuleSet.FallsShort]
  tauto

/-- How many entries open as those of a kind do. -/
theorem entriesOpening_assess (h : s.rules = some rules) (k : Finding.Kind) :
    (s.assess p).entriesOpening k.opening =
      match k with
      | .disqualified => (rules.exclusionsMet p).length
      | .passed => (rules.inclusionsMet p).length
      | .failed => (rules.inclusionsFailed p).length
      | .boosted => (rules.prioritiesMet p).length
      | .belowThreshold => if rules.FallsShort p rules.threshold then 1 else 0 := by
  rw [Assessment.entriesOpening, reasoning_assess h, Finding.countP_opening, RuleSet.count_kind]

/-- **The trail cannot be forged.**  Whatever the author of a catalog wrote into the explanations of
its rules, the fronts of the entries tell how many exclusions are met, how many inclusion rules are
met and failed, and how many priority rules are met; and somebody is eligible exactly when no entry
opens like one of the two that stand for a refusal.  Moreover two entries read the same only if they
are of one kind, with one explanation and with amounts that are written alike. -/
theorem trail_cannot_be_forged :
    (∀ (s : Scheme) (rules : RuleSet) (p : Profile), s.rules = some rules →
      (s.assess p).entriesOpening "❌ Disqualified: " = (rules.exclusionsMet p).length ∧
      (s.assess p).entriesOpening "✅ " = (rules.inclusionsMet p).length ∧
      (s.assess p).entriesOpening "ℹ️ Failed: " = (rules.inclusionsFailed p).length ∧
      (s.assess p).entriesOpening "⭐ Priority Boost (" = (rules.prioritiesMet p).length ∧
      ((s.assess p).eligible = true ↔ ∀ entry ∈ (s.assess p).reasoning,
        ¬ "❌ Disqualified: ".toList <+: entry.toList ∧
        ¬ "⚠️ Total score (".toList <+: entry.toList)) ∧
    (∀ f g : Finding, f.render = g.render ↔ f.SameWords g) := by
  refine ⟨fun s rules p h ↦ ?_, fun f g ↦ Finding.render_eq_iff⟩
  have hcount := entriesOpening_assess (p := p) h
  refine ⟨hcount .disqualified, hcount .passed, hcount .failed, hcount .boosted, ?_⟩
  have hexclusions : (∀ entry ∈ (s.assess p).reasoning,
      ¬ "❌ Disqualified: ".toList <+: entry.toList) ↔
        (rules.findings p).disqualified = false := by
    rw [← Assessment.entriesOpening_eq_zero_iff, ← rules.length_exclusionsMet_eq_zero_iff]
    exact iff_of_eq (congrArg (· = 0) (hcount .disqualified))
  have hshort : (∀ entry ∈ (s.assess p).reasoning,
      ¬ "⚠️ Total score (".toList <+: entry.toList) ↔ ¬ rules.FallsShort p rules.threshold := by
    rw [← Assessment.entriesOpening_eq_zero_iff]
    refine (iff_of_eq (congrArg (· = 0) (hcount .belowThreshold))).trans ?_
    simp
  rw [eligible_assess h, forall₂_and, hexclusions, hshort]

/-- An author who writes refusals into explanations, and closes the parenthesis of a boost, does not
change what the fronts of the entries say. -/
theorem trail_of_forged_explanations :
    let bait : Rule := {
      field := ⟨"age"⟩, operator := .notEmpty, value := .null
      explanation := "❌ Disqualified: ⚠️ Total score (" }
    let rules : RuleSet := {
      inclusion := [bait, { bait with operator := .unsupported "absent" }]
      exclusion := [{ bait with operator := .unsupported "absent" }]
      priority := [{ bait with priorityBoost := some 0.5, explanation := "1): ✅ " }] }
    let s : Scheme := { id := "SCH001", criteria := some { rules := some rules } }
    let p : Profile := ⟨.obj [("age", .str "64")]⟩
    s.rules = some rules ∧
      (s.assess p).reasoning =
        ["✅ ❌ Disqualified: ⚠️ Total score (", "ℹ️ Failed: ❌ Disqualified: ⚠️ Total score (",
         "⭐ Priority Boost (0.5): 1): ✅ "] ∧
      (s.assess p).entriesOpening "❌ Disqualified: " = 0 ∧
      (s.assess p).entriesOpening "✅ " = 1 ∧
      (s.assess p).entriesOpening "ℹ️ Failed: " = 1 ∧
      (s.assess p).entriesOpening "⭐ Priority Boost (" = 1 ∧
      (s.assess p).eligible = true := by
  intro bait rules s p
  have hrules : s.rules = some rules := rfl
  obtain ⟨hdisqualified, hpassed, hfailed, hboosted, heligible⟩ :=
    trail_cannot_be_forged.1 s rules p hrules
  have hreasoning : (s.assess p).reasoning =
      ["✅ ❌ Disqualified: ⚠️ Total score (", "ℹ️ Failed: ❌ Disqualified: ⚠️ Total score (",
       "⭐ Priority Boost (0.5): 1): ✅ "] := by decide +kernel
  refine ⟨hrules, hreasoning, hdisqualified.trans ?_, hpassed.trans ?_, hfailed.trans ?_,
    hboosted.trans ?_, heligible.2 ?_⟩
  · decide +kernel
  · decide +kernel
  · decide +kernel
  · decide +kernel
  · rw [hreasoning]
    decide +kernel

end Scheme

end Welfare
