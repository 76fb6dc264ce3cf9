import Welfare.Proofs.Double.Packing

/-!
# Adding doubles

A double that is a number is put on a line: its count of smallest doubles, with the infinities at
both ends.  Doubles compare as their counts do, and adding is adding the counts, rounding, and
cutting off at the ends; only an infinity is kept as it is.  From this follow the rules by which a
running sum can be followed.

* `count`, `le_iff` — where a double stands, and what `≤` says.
* `isNaN_add_iff`, `count_add_of_isFinite`, `count_add_of_isInf` — what a sum is.
* `add_le_add_right`, `le_add_of_nonneg` — adding keeps the order, and adding what is not negative
  never makes less.
* `le_add_of_le_add` — what is reached stays reached when one part grows.
-/

set_option autoImplicit false

namespace Welfare.Double

open Float.Model Float.Model.UnpackedFloat

/-! ## Counts -/

/-- What the bits of a double hold. -/
def value (x : Float) : UnpackedFloat := x.toModel.unpack

/-- Where a double stands: its count of smallest doubles. -/
def count (x : Float) : ℤ := units (value x)

theorem stored_value (x : Float) : Stored (value x) := stored_unpack _

variable {x y z : Float}

theorem isFinite_value : (value x).isFinite = x.isFinite := rfl

theorem isNaN_value : (value x).isNaN = x.isNaN := rfl

theorem isInf_value : (value x).isInf = x.isInf := rfl

/-- A number is infinite or finite. -/
theorem isInf_or_isFinite (h : x.isNaN = false) : x.isInf = true ∨ x.isFinite = true := by
  rw [← isNaN_value] at h
  rw [← isInf_value, ← isFinite_value]
  rcases value_cases (value x) with hx | ⟨s, hx⟩ | hx
  · rw [hx] at h
    cases h
  · exact .inl (by rw [hx]; rfl)
  · exact .inr hx

theorem abs_count_lt (h : x.isFinite = true) : |count x| < limit :=
  abs_units_lt h (stored_value x)

theorem abs_count_of_isInf (h : x.isInf = true) : |count x| = limit := by
  rw [← isInf_value] at h
  rw [count]
  cases hvalue : value x with
  | infinity s => rw [units_infinity, abs_apply, abs_of_pos limit_pos]
  | _ => rw [hvalue] at h; cases h

theorem abs_count_le (x : Float) : |count x| ≤ limit := by
  rw [count]
  cases hvalue : value x with
  | notANumber => exact limit_pos.le
  | infinity s => rw [units_infinity, abs_apply, abs_of_pos limit_pos]
  | _ => exact hvalue ▸ (abs_count_lt (x := x) (by rw [← isFinite_value, hvalue]; rfl)).le

/-- Doubles compare as their counts do. -/
theorem le_iff : x ≤ y ↔ x.isNaN = false ∧ y.isNaN = false ∧ count x ≤ count y := by
  have hle : x ≤ y ↔ (value x).le (value y) = true := by
    show Float.le x y = true ↔ _
    exact decide_eq_true_iff
  rw [hle, UnpackedFloat.le, ← isNaN_value, ← isNaN_value]
  by_cases hx : (value x).isNaN = true
  · cases hvalue : value x with
    | notANumber =>
      exact iff_of_false Bool.false_ne_true fun h ↦ nomatch h.1
    | _ => rw [hvalue] at hx; cases hx
  by_cases hy : (value y).isNaN = true
  · cases hvalue : value y with
    | notANumber =>
      refine iff_of_false ?_ fun h ↦ nomatch h.2.1
      cases value x <;> exact Bool.false_ne_true
    | _ => rw [hvalue] at hy; cases hy
  rw [Bool.not_eq_true] at hx hy
  rw [compare_units (stored_value x) (stored_value y) hx hy]
  simp [hx, hy, count, Ordering.isLE_iff_ne_gt, compare_gt_iff_gt]

theorem le_refl_double (h : x.isNaN = false) : x ≤ x := le_iff.2 ⟨h, h, le_rfl⟩

theorem le_trans_double (hxy : x ≤ y) (hyz : y ≤ z) : x ≤ z := by
  obtain ⟨hx, -, hle⟩ := le_iff.1 hxy
  obtain ⟨-, hz, hle'⟩ := le_iff.1 hyz
  exact le_iff.2 ⟨hx, hz, hle.trans hle'⟩

/-! ## Sums -/

theorem canonical_add {u v : UnpackedFloat} (hu : Canonical u) (hv : Canonical v) :
    Canonical (UnpackedFloat.add Format.binary64 u v) := by
  cases u with
  | notANumber => trivial
  | infinity s =>
    cases v with
    | infinity t => cases s <;> cases t <;> trivial
    | _ => trivial
  | _ =>
    cases v with
    | notANumber => trivial
    | infinity t => trivial
    | _ => exact (rounds_add rfl hu rfl hv).canonical

/-- A sum is what the values add up to, packed. -/
theorem value_add (x y : Float) :
    value (x + y) = settled (UnpackedFloat.add Format.binary64 (value x) (value y)) := by
  rw [← unpack_pack (canonical_add (stored_value x).canonical (stored_value y).canonical)]
  exact congrArg (UnpackedFloat.unpack Format.binary64) (UInt64.toBitVec_ofBitVec _)

/-- A sum depends on its parts only through what their bits hold. -/
theorem add_congr {x' y' : Float} (hx : value x = value x') (hy : value y = value y') :
    x + y = x' + y' :=
  congrArg₂ (fun u v ↦ Float.ofModel (Float.Model.pack (UnpackedFloat.add Format.binary64 u v)))
    hx hy

/-- Doubles add up to the same in either order. -/
theorem add_comm_double (x y : Float) : x + y = y + x :=
  congrArg (fun u ↦ Float.ofModel (Float.Model.pack u)) (add_comm_unpacked (value x) (value y))

theorem isNaN_settled (u : UnpackedFloat) : (settled u).isNaN = u.isNaN := by
  cases u with
  | finite s m e hm =>
    rw [settled_finite]
    by_cases hlarge : 971 < e
    · rw [if_pos hlarge]
      rfl
    · rw [if_neg hlarge]
  | _ => rfl

/-- An infinity swallows what is finite. -/
theorem infinity_add (s : Sign) {v : UnpackedFloat} (hv : v.isFinite = true) :
    UnpackedFloat.add Format.binary64 (.infinity s) v = .infinity s := by
  cases v with
  | notANumber => cases hv
  | infinity t => cases hv
  | _ => rfl

/-- Finite doubles add up to their counts, rounded and cut off. -/
theorem count_add_of_isFinite (hx : x.isFinite = true) (hy : y.isFinite = true) :
    count (x + y) = clamp (round (count x + count y)) := by
  have hrounds := rounds_add hx (stored_value x).canonical hy (stored_value y).canonical
  have hsettled := units_settled hrounds.canonical hrounds.isFinite
  rw [hrounds.units_eq] at hsettled
  rw [count, value_add]
  exact hsettled

/-- A sum with an infinity in front. -/
theorem count_add_of_isInf (hx : x.isInf = true) (hn : (x + y).isNaN = false) :
    count (x + y) = count x := by
  rw [← isInf_value] at hx
  rw [← isNaN_value, value_add, isNaN_settled] at hn
  rw [count, count, value_add]
  cases hvalue : value x with
  | infinity s =>
    rw [hvalue] at hn
    rcases value_cases (value y) with hy | ⟨t, hy⟩ | hy
    · rw [hy] at hn
      cases hn
    · rw [hy] at hn ⊢
      cases s <;> cases t <;> first | rfl | cases hn
    · rw [infinity_add s hy]
      rfl
  | _ => rw [hvalue] at hx; cases hx

/-- A sum is a number exactly when its parts are, and are no opposite infinities. -/
theorem isNaN_add_iff : (x + y).isNaN = false ↔ x.isNaN = false ∧ y.isNaN = false ∧
    (x.isInf = true → y.isInf = true → count x = count y) := by
  rw [← isNaN_value, ← isNaN_value, ← isNaN_value, ← isInf_value, ← isInf_value, count, count,
    value_add, isNaN_settled]
  have hfinite := fun hu hv ↦
    rounds_add hu (stored_value x).canonical hv (stored_value y).canonical
  have hpos := limit_pos
  generalize value x = u at hfinite ⊢
  generalize value y = v at hfinite ⊢
  have hno : ∀ {w : UnpackedFloat}, w.isFinite = true → ¬ w.isInf = true := fun hw hinf ↦ by
    rw [isInf_unpacked hw] at hinf
    cases hinf
  rcases value_cases u with rfl | ⟨s, rfl⟩ | hu
  · exact iff_of_false (fun h ↦ by cases h) fun h ↦ by cases h.1
  · rcases value_cases v with rfl | ⟨t, rfl⟩ | hv
    · exact iff_of_false (fun h ↦ by cases h) fun h ↦ by cases h.2.1
    · cases s <;> cases t <;> first
      | exact iff_of_true rfl ⟨rfl, rfl, fun _ _ ↦ rfl⟩
      | refine iff_of_false (fun h ↦ by cases h) fun h ↦ absurd (h.2.2 rfl rfl) ?_
        dsimp only [units_infinity, Sign.apply]
        omega
    · rw [infinity_add s hv]
      exact iff_of_true rfl ⟨rfl, isNaN_unpacked hv, fun _ hinf ↦ absurd hinf (hno hv)⟩
  · rcases value_cases v with rfl | ⟨t, rfl⟩ | hv
    · rw [add_comm_unpacked]
      exact iff_of_false (fun h ↦ by cases h) fun h ↦ by cases h.2.1
    · rw [add_comm_unpacked, infinity_add t hu]
      exact iff_of_true rfl ⟨isNaN_unpacked hu, rfl, fun hinf ↦ absurd hinf (hno hu)⟩
    · exact iff_of_true (isNaN_unpacked (hfinite hu hv).isFinite)
        ⟨isNaN_unpacked hu, isNaN_unpacked hv, fun hinf ↦ absurd hinf (hno hu)⟩

/-! ## Adding and order -/

/-- What is at least the largest count is an infinity. -/
theorem isInf_of_limit_le (hn : x.isNaN = false) (h : limit ≤ |count x|) : x.isInf = true := by
  rcases isInf_or_isFinite hn with hinf | hfinite
  · exact hinf
  · exact absurd (abs_count_lt hfinite) (not_lt.2 h)

/-- Adding the same to both sides keeps their order, as long as the sums are numbers. -/
theorem add_le_add_right (h : x ≤ y) (hx : (x + z).isNaN = false) (hy : (y + z).isNaN = false) :
    x + z ≤ y + z := by
  refine le_iff.2 ⟨hx, hy, ?_⟩
  obtain ⟨hxn, hyn, hle⟩ := le_iff.1 h
  rcases isInf_or_isFinite (isNaN_add_iff.1 hx).2.1 with hz | hz
  · -- an infinity that is added to both is what both come to
    rw [add_comm_double x z] at hx ⊢
    rw [add_comm_double y z] at hy ⊢
    rw [count_add_of_isInf hz hx, count_add_of_isInf hz hy]
  · have hlow := abs_le.1 (abs_count_le (x + z))
    have hhigh := abs_le.1 (abs_count_le (y + z))
    rcases isInf_or_isFinite hxn with hxi | hxf
    · rw [count_add_of_isInf hxi hx]
      rcases abs_eq limit_pos.le |>.1 (abs_count_of_isInf hxi) with hplus | hminus
      · have hyi : y.isInf = true := isInf_of_limit_le hyn ((hplus ▸ hle).trans (le_abs_self _))
        rwa [count_add_of_isInf hyi hy]
      · rw [hminus]
        exact hhigh.1
    · rcases isInf_or_isFinite hyn with hyi | hyf
      · rw [count_add_of_isInf hyi hy]
        have hxlt := abs_lt.1 (abs_count_lt hxf)
        rcases abs_eq limit_pos.le |>.1 (abs_count_of_isInf hyi) with hplus | hminus
        · rw [hplus]
          exact hlow.2
        · omega
      · rw [count_add_of_isFinite hxf hz, count_add_of_isFinite hyf hz]
        exact clamp_mono (round_mono (by omega))

/-- What is finite can be added to any number. -/
theorem isNaN_add_of_isFinite (hx : x.isNaN = false) (hy : y.isFinite = true) :
    (x + y).isNaN = false :=
  isNaN_add_iff.2 ⟨hx, isNaN_of_isFinite hy, fun _ hinf ↦ by
    rw [isInf_of_isFinite hy] at hinf
    cases hinf⟩

/-- What a finite double is reached by stays reached when one part of it grows: the part that
stays is not the infinity at the lower end. -/
theorem le_add_of_le_add {m : Float} (hm : m.isFinite = true) (h : m ≤ x + z) (hxy : x ≤ y) :
    m ≤ y + z := by
  obtain ⟨hmn, hsum, hreached⟩ := le_iff.1 h
  obtain ⟨hxn, hzn, hopposite⟩ := isNaN_add_iff.1 hsum
  obtain ⟨-, hyn, hle⟩ := le_iff.1 hxy
  have hlow := abs_lt.1 (abs_count_lt hm)
  have hnumber : (y + z).isNaN = false := by
    refine isNaN_add_iff.2 ⟨hyn, hzn, fun hyi hzi ↦ ?_⟩
    have hz : count z = limit := by
      rw [add_comm_double] at hsum hreached
      rw [count_add_of_isInf hzi hsum] at hreached
      rcases (abs_eq limit_pos.le).1 (abs_count_of_isInf hzi) with hplus | hminus
      · exact hplus
      · omega
    have hx : -limit < count x := by
      rcases isInf_or_isFinite hxn with hxi | hxf
      · rw [hopposite hxi hzi, hz]
        have := limit_pos
        omega
      · exact (abs_lt.1 (abs_count_lt hxf)).1
    rcases (abs_eq limit_pos.le).1 (abs_count_of_isInf hyi) with hplus | hminus
    · rw [hplus, hz]
    · omega
  have hgrow := add_le_add_right hxy hsum hnumber
  exact le_iff.2 ⟨hmn, hnumber, hreached.trans (le_iff.1 hgrow).2.2⟩

theorem count_zero : count 0.0 = 0 := by decide +kernel

/-- A finite double is its own rounding. -/
theorem clamp_round_count (h : x.isFinite = true) : clamp (round (count x)) = count x := by
  have hshort : Short (count x) := short_units h (stored_value x).canonical
  rw [round_of_short hshort, clamp_of_abs_lt (abs_count_lt h)]

/-- Adding what is not negative never makes less. -/
theorem le_add_of_nonneg (hx : x.isNaN = false) (hy : y.isFinite = true) (h : 0.0 ≤ y) :
    x ≤ x + y := by
  have hsum := isNaN_add_of_isFinite hx hy
  have hcount : 0 ≤ count y := count_zero ▸ (le_iff.1 h).2.2
  refine le_iff.2 ⟨hx, hsum, ?_⟩
  rcases isInf_or_isFinite hx with hinf | hfinite
  · rw [count_add_of_isInf hinf hsum]
  · rw [count_add_of_isFinite hfinite hy]
    conv_lhs => rw [← clamp_round_count hfinite]
    exact clamp_mono (round_mono (by omega))

end Welfare.Double
