import Welfare.Proofs.Operator.Reading

/-!
# Equality of values

A catalog compares values in two ways.  `equals` takes texts without regard to case and numbers by
their doubles, and `in` looks for its value with case.  Below the top of a value both compare
strictly, so that a list with `5` is not the list with `5.0`, although `5` equals `5.0`.

Both are equality of what is seen of a value, so both are equivalences, however lower case is made
and however deep the values go.  What an `in` finds therefore depends on nothing but what is seen of
its candidates.

* `SameCandidates`, `Operator.oneOf_congr` — lists in which `in` finds the same.
* `Operator.exists_equals_of_oneOf`, `Operator.oneOf_of_exists_equals` — `in` against `equals`.
* `equality_of_values_is_an_equivalence` — both kinds of equality, and `in`.
-/

set_option autoImplicit false

namespace Welfare

namespace Json

variable {lower : String → String} {v w : Json}

/-! ## Kinds of values -/

/-- Whether a value is a text can be seen. -/
theorem isText_iff (lower : String → String) :
    (∃ s, v = .str s) ↔ ∃ s, v.looseView lower = .inl s := by
  cases v <;> simp [looseView]

/-- Whether a value is a number can be seen. -/
theorem isNumber_iff (lower : String → String) :
    (∃ n, v = .num n) ↔ ∃ x, v.looseView lower = .inr (.inl x) := by
  cases v <;> simp [looseView, exactView]

/-- Of what is no text, case hides nothing. -/
theorem exactView_eq_of_looseView_eq (hv : ∀ s, v ≠ .str s)
    (h : v.looseView lower = w.looseView lower) : v.exactView = w.exactView := by
  have hexact : ∀ u : Json, (∀ s, u ≠ .str s) → u.looseView lower = .inr u.exactView := by
    intro u hu
    cases u with
    | str s => exact absurd rfl (hu s)
    | _ => rfl
  have hw : ∀ s, w ≠ .str s := fun s hs ↦ by
    obtain ⟨t, ht⟩ := (isText_iff lower).2 (h ▸ (isText_iff lower).1 ⟨s, hs⟩)
    exact hv t ht
  rw [hexact v hv, hexact w hw] at h
  exact Sum.inr_injective h

end Json

/-! ## Candidates -/

/-- Lists with the same candidates: each has one of the same value in the other. -/
structure SameCandidates (cs ds : List Json) : Prop where
  forth : ∀ c ∈ cs, ∃ d ∈ ds, c.sameValue d = true
  back : ∀ d ∈ ds, ∃ c ∈ cs, c.sameValue d = true

section Candidates

variable {cs ds : List Json}

/-- Candidates may be repeated, and put in another order. -/
theorem SameCandidates.of_subset (h : cs ⊆ ds) (h' : ds ⊆ cs) : SameCandidates cs ds :=
  ⟨fun c hc ↦ ⟨c, h hc, Json.sameValue_iff.2 rfl⟩, fun d hd ↦ ⟨d, h' hd, Json.sameValue_iff.2 rfl⟩⟩

/-- Candidates may be replaced by others of the same value. -/
theorem SameCandidates.of_forall₂ (h : List.Forall₂ (·.sameValue · = true) cs ds) :
    SameCandidates cs ds := by
  induction h with
  | nil => exact ⟨by simp, by simp⟩
  | cons hsame _ ih =>
    refine ⟨List.forall_mem_cons.2 ⟨⟨_, by simp, hsame⟩, fun c hc ↦ ?_⟩,
      List.forall_mem_cons.2 ⟨⟨_, by simp, hsame⟩, fun d hd ↦ ?_⟩⟩
    · obtain ⟨d, hd, hcd⟩ := ih.forth c hc
      exact ⟨d, List.mem_cons_of_mem _ hd, hcd⟩
    · obtain ⟨c, hc, hcd⟩ := ih.back d hd
      exact ⟨c, List.mem_cons_of_mem _ hc, hcd⟩

theorem SameCandidates.exists_iff (h : SameCandidates cs ds) (x : ℤ ⊕ Json.Content) :
    (∃ c ∈ cs, x = c.exactView) ↔ ∃ d ∈ ds, x = d.exactView := by
  constructor
  · rintro ⟨c, hc, rfl⟩
    obtain ⟨d, hd, hcd⟩ := h.forth c hc
    exact ⟨d, hd, Json.sameValue_iff.1 hcd⟩
  · rintro ⟨d, hd, rfl⟩
    obtain ⟨c, hc, hcd⟩ := h.back d hd
    exact ⟨c, hc, (Json.sameValue_iff.1 hcd).symm⟩

end Candidates

namespace Operator

variable {lower : String → String} {actual : Option Json} {cs ds : List Json}

/-- What is found among the same candidates is the same. -/
theorem oneOf_congr (h : SameCandidates cs ds) :
    oneOf.holds actual (.arr cs) = oneOf.holds actual (.arr ds) := by
  rw [Bool.eq_iff_iff, oneOf_iff, oneOf_iff]
  simp only [h.exists_iff]

/-- What is found among candidates equals one of them. -/
theorem exists_equals_of_oneOf (h : oneOf.holds actual (.arr cs) = true) :
    ∃ c ∈ cs, equalsUnder lower actual c = true := by
  obtain ⟨v, rfl, c, hc, hview⟩ := oneOf_iff.1 h
  exact ⟨c, hc, equalsUnder_iff.2 ⟨v, rfl, Json.looseView_eq_of_exactView_eq hview⟩⟩

/-- What is no text and equals a candidate is found. -/
theorem oneOf_of_exists_equals (hactual : ∀ s, actual ≠ some (.str s))
    (h : ∃ c ∈ cs, equalsUnder lower actual c = true) : oneOf.holds actual (.arr cs) = true := by
  obtain ⟨c, hc, hequals⟩ := h
  obtain ⟨v, rfl, hview⟩ := equalsUnder_iff.1 hequals
  have hv : ∀ s, v ≠ .str s := fun s hs ↦ hactual s (congrArg some hs)
  exact oneOf_iff.2 ⟨v, rfl, c, hc, Json.exactView_eq_of_looseView_eq hv hview⟩

end Operator

/-! ## Equivalences -/

open Operator in
/-- **Both kinds of equality are equivalences.**  Between the values that are there `equals` is one,
whatever function makes the lower case of texts, and so is the strict equality of `in`, which is the
finer one; neither a text nor a number equals anything of another kind.  `in` finds what is strictly
equal to a candidate, hence only what equals one, and all of that unless it is a text; and what it
finds does not change when candidates are put in another order, repeated, or replaced by strictly
equal ones. -/
theorem equality_of_values_is_an_equivalence :
    equals.holds = equalsUnder Text.toLower ∧
    (Equivalence fun v w : Json ↦ v.sameValue w = true) ∧
    (∀ lower : String → String,
      (Equivalence fun v w : Json ↦ equalsUnder lower (some v) w = true) ∧
      (∀ v w : Json, v.sameValue w = true → equalsUnder lower (some v) w = true) ∧
      ∀ v w : Json, equalsUnder lower (some v) w = true →
        ((∃ s, v = .str s) ↔ ∃ t, w = .str t) ∧ ((∃ m, v = .num m) ↔ ∃ n, w = .num n)) ∧
    ∀ (actual : Option Json) (cs : List Json),
      (oneOf.holds actual (.arr cs) = true ↔
        ∃ v, actual = some v ∧ ∃ c ∈ cs, v.sameValue c = true) ∧
      (∀ lower : String → String,
        (oneOf.holds actual (.arr cs) = true → ∃ c ∈ cs, equalsUnder lower actual c = true) ∧
        ((∀ s, actual ≠ some (.str s)) → (∃ c ∈ cs, equalsUnder lower actual c = true) →
          oneOf.holds actual (.arr cs) = true)) ∧
      ∀ ds, (cs.Perm ds ∨ (cs ⊆ ds ∧ ds ⊆ cs) ∨ List.Forall₂ (·.sameValue · = true) cs ds) →
        oneOf.holds actual (.arr cs) = oneOf.holds actual (.arr ds) := by
  have hequals : ∀ lower (v w : Json), equalsUnder lower (some v) w = true ↔
      v.looseView lower = w.looseView lower := fun lower v w ↦ Json.sameUnder_iff
  refine ⟨equalsUnder_toLower.symm, ?_, fun lower ↦ ⟨?_, fun v w h ↦ ?_, fun v w h ↦ ?_⟩,
    fun actual cs ↦ ⟨?_, fun lower ↦ ⟨exists_equals_of_oneOf, oneOf_of_exists_equals⟩,
      fun ds h ↦ oneOf_congr ?_⟩⟩
  · simp only [Json.sameValue_iff]
    exact eq_equivalence.comap Json.exactView
  · simp only [hequals]
    exact eq_equivalence.comap (Json.looseView lower)
  · exact (hequals lower v w).2 (Json.looseView_eq_of_exactView_eq (Json.sameValue_iff.1 h))
  · rw [Json.isText_iff lower, Json.isText_iff lower, Json.isNumber_iff lower,
      Json.isNumber_iff lower, (hequals lower v w).1 h]
    exact ⟨Iff.rfl, Iff.rfl⟩
  · simp only [oneOf_iff, Json.sameValue_iff]
  · rcases h with hperm | ⟨hforth, hback⟩ | hreplaced
    · exact .of_subset hperm.subset hperm.symm.subset
    · exact .of_subset hforth hback
    · exact .of_forall₂ hreplaced

open Operator in
/-- `5.0` is found among candidates in which `5` is repeated, and equals `5`; lists of the two are
different.  A text in capitals is equal to its candidate, and not found. -/
theorem five_is_found_as_double :
    let five : Json := .num (.int 5 (by decide))
    let double : Json := .num (.double 5.0 (by decide +kernel))
    five.sameValue double = true ∧
    equals.holds (some double) five = true ∧
    oneOf.holds (some double) (.arr [.null, five, five]) = true ∧
    oneOf.holds (some double) (.arr [five, .null]) = true ∧
    equals.holds (some (.arr [five])) (.arr [double]) = false ∧
    (∃ c ∈ [Json.str "Farmer"], equals.holds (some (.str "FARMER")) c = true) ∧
    oneOf.holds (some (.str "FARMER")) (.arr [.str "Farmer"]) = false := by
  intro five double
  obtain ⟨hlower, -, hequals, hfound⟩ := equality_of_values_is_an_equivalence
  obtain ⟨hequiv, hfiner, -⟩ := hequals Text.toLower
  have hsame : five.sameValue double = true := by decide +kernel
  have hequal : equals.holds (some double) five = true := by
    rw [hlower]
    exact hequiv.symm (hfiner five double hsame)
  have hdouble : oneOf.holds (some double) (.arr [.null, five, five]) = true :=
    ((hfound (some double) _).2.1 Text.toLower).2 (by simp [double]) ⟨five, by simp, hequal⟩
  refine ⟨hsame, hequal, hdouble, ?_, by decide +kernel,
    ⟨.str "Farmer", by simp, by decide +kernel⟩, by decide +kernel⟩
  exact ((hfound (some double) _).2.2 _ (.inr (.inl ⟨by simp, by simp⟩))).symm.trans hdouble

end Welfare
