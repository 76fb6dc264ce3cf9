import Mathlib.Data.List.Forall2
import Welfare.Screening

/-!
# What a screening depends on

Two screenings are compared: of two profiles, against two lists of schemes.  The comparison is made
once, for rules that give the same answer to the two profiles, and carried from a rule through the
three runs of an assessment to the whole list.  The two ways in which screenings come to agree are
then cases of it.

* `Rule.Agrees`, `RuleSet.Agrees`, `Scheme.Agrees` — the same answer from two sides.
* `RuleSet.Agrees.findings_eq` — such rules find the same.
* `Profile.screen_congr` — such screenings are the same.
* `Scheme.fields` — everything that a scheme asks about.
* `Scheme.Alike` — schemes that differ at most in what decides nothing.
* `Profile.screen_eq_of_indistinguishable` — neither the rest of a profile nor the rest of a catalog
  shows in a screening.
-/

set_option autoImplicit false

namespace Welfare

/-! ## Agreement of two sides -/

/-- A rule says to one profile what another rule says to another profile, in the same words. -/
structure Rule.Agrees (p q : Profile) (r t : Rule) : Prop where
  holds : r.holds p = t.holds q
  field : r.field = t.field
  explanation : r.explanation = t.explanation

/-- Rule sets agree rule by rule.  What a rule adds to the score counts only where it is added. -/
structure RuleSet.Agrees (p q : Profile) (s t : RuleSet) : Prop where
  exclusion : List.Forall₂ (Rule.Agrees p q) s.exclusion t.exclusion
  inclusion : List.Forall₂ (fun a b ↦ a.Agrees p q b ∧ a.points = b.points) s.inclusion t.inclusion
  priority : List.Forall₂ (fun a b ↦ a.Agrees p q b ∧ a.boost = b.boost) s.priority t.priority
  threshold : s.threshold = t.threshold

/-- Schemes agree when they go by the same id and name and their rules, if any, agree. -/
structure Scheme.Agrees (p q : Profile) (s t : Scheme) : Prop where
  id : s.id = t.id
  name : s.name = t.name
  rules : Option.Rel (RuleSet.Agrees p q) s.rules t.rules

variable {p q : Profile}

/-! ### One step -/

namespace Rule.Agrees

variable {r t : Rule} (h : r.Agrees p q t) (f : Findings)

include h

theorem addExclusion_eq : f.addExclusion p r = f.addExclusion q t := by
  rw [Findings.addExclusion, Findings.addExclusion, h.holds, h.explanation]

theorem addInclusion_eq (hpoints : r.points = t.points) :
    f.addInclusion p r = f.addInclusion q t := by
  have hasks : r.asksForDocument = t.asksForDocument := by
    rw [Rule.asksForDocument, Rule.asksForDocument, h.field]
  have hlabel : r.documentLabel = t.documentLabel := by
    rw [Rule.documentLabel, Rule.documentLabel, h.explanation]
  rw [Findings.addInclusion, Findings.addInclusion, h.holds, h.explanation, hpoints, hasks, hlabel]

theorem addPriority_eq (hboost : r.boost = t.boost) : f.addPriority p r = f.addPriority q t := by
  rw [Findings.addPriority, Findings.addPriority, h.holds, h.explanation, hboost]

end Rule.Agrees

/-! ### All steps -/

/-- Runs over lists that are related item by item stay equal if every step keeps them equal. -/
theorem foldl_eq_of_forall₂ {α β : Type} {R : β → β → Prop} {f g : α → β → α} {xs ys : List β}
    (hstep : ∀ a x y, R x y → f a x = g a y) (h : List.Forall₂ R xs ys) (a : α) :
    xs.foldl f a = ys.foldl g a := by
  induction h generalizing a with
  | nil => rfl
  | cons hxy _ ih => rw [List.foldl_cons, List.foldl_cons, hstep _ _ _ hxy, ih]

/-- Rules that agree find the same. -/
theorem RuleSet.Agrees.findings_eq {s t : RuleSet} (h : s.Agrees p q t) :
    s.findings p = t.findings q := by
  rw [RuleSet.findings, RuleSet.findings,
    foldl_eq_of_forall₂ (fun f _ _ hr ↦ hr.addExclusion_eq f) h.exclusion {},
    foldl_eq_of_forall₂ (fun f _ _ hr ↦ hr.1.addInclusion_eq f hr.2) h.inclusion _,
    foldl_eq_of_forall₂ (fun f _ _ hr ↦ hr.1.addPriority_eq f hr.2) h.priority _]

theorem Scheme.Agrees.assess_eq {s t : Scheme} (h : s.Agrees p q t) : s.assess p = t.assess q := by
  have hrules := h.rules
  rw [Scheme.assess, Scheme.assess, h.id, h.name]
  generalize s.rules = a, t.rules = b at hrules
  cases hrules with
  | none => rfl
  | some hab => simp only [hab.findings_eq, hab.threshold]

/-- **Screenings agree** when the citizens go by the same id and name and the schemes agree one by
one. -/
theorem Profile.screen_congr {ss ts : List Scheme} (hid : p.citizenId = q.citizenId)
    (hname : p.fullName = q.fullName) (h : List.Forall₂ (Scheme.Agrees p q) ss ts) :
    p.screen ss = q.screen ts := by
  have hassess : ss.map (·.assess p) = ts.map (·.assess q) := by
    -- on empty lists `rfl` would compare the two assessments before it looked at the lists
    induction h with
    | nil => rw [List.map_nil, List.map_nil]
    | cons hs _ ih => rw [List.map_cons, List.map_cons, hs.assess_eq, ih]
  have hsubject : p.subject = q.subject := by rw [subject, subject, hid, hname]
  rw [screen, screen, hassess, hsubject, hid]

/-! ## The rest of a profile -/

/-- Everything that a scheme asks about. -/
def Scheme.fields (s : Scheme) : List Field :=
  match s.rules with
  | none => []
  | some rules => (rules.exclusion ++ rules.inclusion ++ rules.priority).map Rule.field

theorem Rule.agrees_self {r : Rule} (h : p.resolve r.field = q.resolve r.field) :
    r.Agrees p q r := ⟨by rw [Rule.holds, Rule.holds, h], rfl, rfl⟩

/-- A scheme agrees with itself on profiles that answer all it asks about alike. -/
theorem Scheme.agrees_self {s : Scheme} (h : ∀ f ∈ s.fields, p.resolve f = q.resolve f) :
    s.Agrees p q s := by
  refine ⟨rfl, rfl, ?_⟩
  cases hs : s.rules with
  | none => exact .none
  | some rules =>
    have hrule : ∀ r ∈ rules.exclusion ++ rules.inclusion ++ rules.priority, r.Agrees p q r := by
      intro r hr
      refine Rule.agrees_self (h _ ?_)
      rw [Scheme.fields, hs]
      exact List.mem_map_of_mem hr
    refine .some ⟨List.forall₂_same.2 fun r hr ↦ ?_, List.forall₂_same.2 fun r hr ↦ ⟨?_, rfl⟩,
      List.forall₂_same.2 fun r hr ↦ ⟨?_, rfl⟩, rfl⟩
    all_goals exact hrule r (by simp [hr])

/-! ## The rest of a catalog -/

/-- Rules with the same condition and the same words. -/
structure Rule.Alike (r t : Rule) : Prop where
  field : r.field = t.field
  operator : r.operator = t.operator
  value : r.value = t.value
  explanation : r.explanation = t.explanation

/-- Rule sets with the same rules and the same threshold, up to what the rules carry along. -/
structure RuleSet.Alike (s t : RuleSet) : Prop where
  exclusion : List.Forall₂ Rule.Alike s.exclusion t.exclusion
  inclusion : List.Forall₂ (fun a b ↦ a.Alike b ∧ a.points = b.points) s.inclusion t.inclusion
  priority : List.Forall₂ (fun a b ↦ a.Alike b ∧ a.boost = b.boost) s.priority t.priority
  threshold : s.threshold = t.threshold

/-- Schemes that differ at most in what decides nothing. -/
structure Scheme.Alike (s t : Scheme) : Prop where
  id : s.id = t.id
  name : s.name = t.name
  rules : Option.Rel RuleSet.Alike s.rules t.rules

theorem Rule.Alike.agrees {r t : Rule} (h : r.Alike t) : r.Agrees p p t :=
  ⟨by rw [Rule.holds, Rule.holds, h.field, h.operator, h.value], h.field, h.explanation⟩

theorem RuleSet.Alike.agrees {s t : RuleSet} (h : s.Alike t) : s.Agrees p p t where
  exclusion := h.exclusion.imp fun _ _ hr ↦ hr.agrees
  inclusion := h.inclusion.imp fun _ _ hr ↦ ⟨hr.1.agrees, hr.2⟩
  priority := h.priority.imp fun _ _ hr ↦ ⟨hr.1.agrees, hr.2⟩
  threshold := h.threshold

theorem Scheme.Alike.agrees {s t : Scheme} (h : s.Alike t) : s.Agrees p p t := by
  have hrules := h.rules
  refine ⟨h.id, h.name, ?_⟩
  generalize s.rules = a, t.rules = b at hrules
  cases hrules with
  | none => exact .none
  | some hab => exact .some hab.agrees

/-! ## Noninterference -/

/-- **A screening shows nothing but what it is about.**  Profiles that answer every field of the
schemes alike and go by the same id and name are screened alike, whatever else is on record about
the citizens; and schemes that have the same rules are answered alike, whatever else the catalog
says about them. -/
theorem Profile.screen_eq_of_indistinguishable :
    (∀ (schemes : List Scheme) (p q : Profile),
      (∀ s ∈ schemes, ∀ f ∈ s.fields, p.resolve f = q.resolve f) →
      p.citizenId = q.citizenId → p.fullName = q.fullName →
      p.screen schemes = q.screen schemes) ∧
    (∀ (p : Profile) (ss ts : List Scheme),
      List.Forall₂ Scheme.Alike ss ts → p.screen ss = p.screen ts) := by
  refine ⟨fun schemes p q hfields hid hname ↦ ?_, fun p ss ts h ↦ ?_⟩
  · refine screen_congr hid hname (List.forall₂_same.2 fun s hs ↦ ?_)
    exact Scheme.agrees_self (hfields s hs)
  · exact screen_congr rfl rfl (h.imp fun _ _ hst ↦ hst.agrees)

/-- The size of a family does not show where only the income is asked for, nor do the notes of an
author, the name of a rule, or points on a rule that gives none. -/
theorem Profile.screen_of_income_alone :
    let income : Json := .num (.int 8000 (by decide))
    let low : Rule := {
      field := ⟨"income"⟩, operator := .lessThan, value := .num (.int 9000 (by decide))
      weight := some 10.0, explanation := "Low income" }
    let none : Rule := { low with operator := .unsupported "absent", weight := .none }
    let asked : Scheme := {
      id := "SCH004"
      criteria := some { rules := some { inclusion := [low], exclusion := [none] } } }
    let noted : Scheme := {
      id := "SCH004"
      criteria := some {
        rules := some {
          inclusion := [{ low with id := some "R1", priorityBoost := some 3.0 }]
          exclusion := [{ none with weight := some 5.0, disqualifies := some false }]
          logic := some "AND" }
        other := [("summary", .str "Workers")] }
      metadata := [("ministry", .str "Labour")] }
    let p : Profile := ⟨.obj [("citizen_id", .str "CIT001"),
      ("financial", .obj [("income", income)])]⟩
    let q : Profile := ⟨.obj [("citizen_id", .str "CIT001"), ("family", .obj [("size", .str "7")]),
      ("financial", .obj [("income", income)])]⟩
    (∀ f ∈ asked.fields, p.resolve f = q.resolve f) ∧ asked.Alike noted ∧
      p.screen [asked] = q.screen [asked] ∧ p.screen [asked] = p.screen [noted] := by
  intro income low none asked noted p q
  have hfields : ∀ f ∈ asked.fields, p.resolve f = q.resolve f := by
    intro f hf
    have hf : f = ⟨"income"⟩ := by simpa [asked, Scheme.fields, Scheme.rules, low, none] using hf
    subst hf
    rfl
  have hlow : low.Alike { low with id := some "R1", priorityBoost := some 3.0 } :=
    ⟨rfl, rfl, rfl, rfl⟩
  have hnone : none.Alike { none with weight := some 5.0, disqualifies := some false } :=
    ⟨rfl, rfl, rfl, rfl⟩
  have halike : asked.Alike noted :=
    ⟨rfl, rfl, .some ⟨.cons hnone .nil, .cons ⟨hlow, rfl⟩ .nil, .nil, rfl⟩⟩
  refine ⟨hfields, halike, ?_, ?_⟩
  · have hid : p.citizenId = q.citizenId := by decide +kernel
    have hname : p.fullName = q.fullName := by decide +kernel
    exact screen_eq_of_indistinguishable.1 [asked] p q (by simpa using hfields) hid hname
  · exact screen_eq_of_indistinguishable.2 p [asked] [noted] (.cons halike .nil)

end Welfare
