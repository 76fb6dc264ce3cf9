import Welfare.Proofs.Assessment.Reckoning
import Welfare.Proofs.Double.Addition

/-!
# Sums of doubles

A score is added up from zero, one rounded addition after the other.  As long as what is added is
finite, the running sum stays a number, and it can be followed in three ways: it keeps the order of
what it starts from; it is exact while all parts lie on one grid; and in general it is off by a
small share of what the parts come to without their signs.

* `sum_le_sum_insertIdx` — one more part that is not negative never makes a sum smaller.
* `sum_le_sum_of_sublist` — parts left out never make a sum larger when none of them is negative.
* `SumsExactly`, `count_sum` — parts that are added without rounding.
* `gamma`, `abs_count_sum_sub_le` — how far a sum is from the exact one.
-/

set_option autoImplicit false

namespace Welfare.Double

open Float.Model Float.Model.UnpackedFloat

variable {a b w x y : Float} {xs ys : List Float}

/-! ## Order -/

/-- Adding the same parts keeps the order of what is started from. -/
theorem foldl_add_le_foldl_add (h : a ≤ b) (hxs : ∀ x ∈ xs, x.isFinite = true) :
    xs.foldl (· + ·) a ≤ xs.foldl (· + ·) b := by
  induction xs generalizing a b with
  | nil => exact h
  | cons x xs ih =>
    rw [List.forall_mem_cons] at hxs
    obtain ⟨ha, hb, -⟩ := le_iff.1 h
    exact ih (add_le_add_right h (isNaN_add_of_isFinite ha hxs.1)
      (isNaN_add_of_isFinite hb hxs.1)) hxs.2

theorem isFinite_zero : Float.isFinite 0.0 = true := by decide +kernel

/-- One more part that is not negative never makes a running sum smaller, wherever it is added. -/
theorem foldl_add_le_foldl_add_insertIdx (ha : a.isNaN = false)
    (hxs : ∀ x ∈ xs, x.isFinite = true) (hw : w.isFinite = true) (hpos : 0.0 ≤ w) (i : Nat) :
    xs.foldl (· + ·) a ≤ (xs.insertIdx i w).foldl (· + ·) a := by
  induction xs generalizing a i with
  | nil =>
    cases i with
    | zero => exact le_add_of_nonneg ha hw hpos
    | succ i => exact le_refl_double ha
  | cons x xs ih =>
    cases i with
    | zero => exact foldl_add_le_foldl_add (le_add_of_nonneg ha hw hpos) hxs
    | succ i =>
      rw [List.forall_mem_cons] at hxs
      rw [List.insertIdx_succ_cons]
      exact ih (isNaN_add_of_isFinite ha hxs.1) hxs.2 i

theorem sum_le_sum_insertIdx (hxs : ∀ x ∈ xs, x.isFinite = true) (hw : w.isFinite = true)
    (hpos : 0.0 ≤ w) (i : Nat) : sum xs ≤ sum (xs.insertIdx i w) :=
  foldl_add_le_foldl_add_insertIdx (isNaN_of_isFinite isFinite_zero) hxs hw hpos i

/-- Adding what is not negative to what is not negative never makes less, even at infinity. -/
theorem le_add_of_nonneg_of_nonneg (hx : 0.0 ≤ x) (hy : 0.0 ≤ y) : x ≤ x + y := by
  obtain ⟨-, hxn, hxpos⟩ := le_iff.1 hx
  obtain ⟨-, hyn, hypos⟩ := le_iff.1 hy
  rw [count_zero] at hxpos hypos
  rcases isInf_or_isFinite hyn with hinf | hfinite
  · have hlimit : count y = limit := by rw [← abs_count_of_isInf hinf, abs_of_nonneg hypos]
    have hle := (abs_le.1 (abs_count_le x)).2
    -- the other infinity would be negative
    have hsum : (y + x).isNaN = false := isNaN_add_iff.2 ⟨hyn, hxn, fun _ hxi ↦ by
      rw [hlimit, ← abs_count_of_isInf hxi, abs_of_nonneg hxpos]⟩
    rw [add_comm_double]
    refine le_iff.2 ⟨hxn, hsum, ?_⟩
    rwa [count_add_of_isInf hinf hsum, hlimit]
  · exact le_add_of_nonneg hxn hfinite hy

/-- What is not negative is added up in order, even at infinity. -/
theorem add_le_add_of_nonneg (ha : 0.0 ≤ a) (hab : a ≤ b) (hx : 0.0 ≤ x) (hxy : x ≤ y) :
    a + x ≤ b + y := by
  have hb := le_trans_double ha hab
  have hnumber : ∀ {u v : Float}, 0.0 ≤ u → 0.0 ≤ v → (u + v).isNaN = false := fun hu hv ↦
    (le_iff.1 (le_add_of_nonneg_of_nonneg hu hv)).2.1
  have hfirst : a + x ≤ b + x := add_le_add_right hab (hnumber ha hx) (hnumber hb hx)
  have hsecond : x + b ≤ y + b :=
    add_le_add_right hxy (hnumber hx hb) (hnumber (le_trans_double hx hxy) hb)
  rw [add_comm_double x b, add_comm_double y b] at hsecond
  exact le_trans_double hfirst hsecond

/-- Fewer parts, none of them negative, come to no more, even if they start from less. -/
theorem foldl_add_le_foldl_add_of_sublist (h : xs.Sublist ys) (hys : ∀ y ∈ ys, 0.0 ≤ y)
    (ha : 0.0 ≤ a) (hab : a ≤ b) : xs.foldl (· + ·) a ≤ ys.foldl (· + ·) b := by
  induction h generalizing a b with
  | slnil => exact hab
  | cons y _ ih =>
    rw [List.forall_mem_cons] at hys
    have hby := le_add_of_nonneg_of_nonneg (le_trans_double ha hab) hys.1
    exact ih hys.2 ha (le_trans_double hab hby)
  | cons_cons y _ ih =>
    rw [List.forall_mem_cons] at hys
    have hay := le_trans_double ha (le_add_of_nonneg_of_nonneg ha hys.1)
    have hyy := le_refl_double (le_iff.1 hys.1).2.1
    exact ih hys.2 hay (add_le_add_of_nonneg ha hab hys.1 hyy)

theorem zero_le_zero : (0.0 : Float) ≤ 0.0 := le_refl_double (isNaN_of_isFinite isFinite_zero)

theorem sum_le_sum_of_sublist (h : xs.Sublist ys) (hys : ∀ y ∈ ys, 0.0 ≤ y) : sum xs ≤ sum ys :=
  foldl_add_le_foldl_add_of_sublist h hys zero_le_zero zero_le_zero

theorem sum_nonneg (hxs : ∀ x ∈ xs, 0.0 ≤ x) : 0.0 ≤ sum xs := by
  have h := sum_le_sum_of_sublist (List.nil_sublist xs) hxs
  rwa [sum, List.foldl_nil] at h

/-! ## Exact sums -/

/-- What doubles come to without any rounding, counted in smallest doubles. -/
def exactSum (xs : List Float) : ℤ := (xs.map count).sum

/-- What doubles come to without their signs. -/
def absoluteSum (xs : List Float) : ℤ := (xs.map fun x ↦ |count x|).sum

@[simp] theorem exactSum_nil : exactSum [] = 0 := rfl

@[simp] theorem exactSum_cons (x : Float) (xs : List Float) :
    exactSum (x :: xs) = count x + exactSum xs := List.sum_cons

@[simp] theorem exactSum_append (xs ys : List Float) :
    exactSum (xs ++ ys) = exactSum xs + exactSum ys := by
  simp [exactSum]

@[simp] theorem absoluteSum_nil : absoluteSum [] = 0 := rfl

@[simp] theorem absoluteSum_cons (x : Float) (xs : List Float) :
    absoluteSum (x :: xs) = |count x| + absoluteSum xs := List.sum_cons

@[simp] theorem absoluteSum_append (xs ys : List Float) :
    absoluteSum (xs ++ ys) = absoluteSum xs + absoluteSum ys := by
  simp [absoluteSum]

theorem exactSum_perm (h : xs.Perm ys) : exactSum xs = exactSum ys := (h.map _).sum_eq

theorem absoluteSum_perm (h : xs.Perm ys) : absoluteSum xs = absoluteSum ys := (h.map _).sum_eq

theorem absoluteSum_nonneg (xs : List Float) : 0 ≤ absoluteSum xs :=
  List.sum_nonneg (by simp)

theorem abs_exactSum_le (xs : List Float) : |exactSum xs| ≤ absoluteSum xs := by
  induction xs with
  | nil => simp
  | cons x xs ih =>
    rw [exactSum_cons, absoluteSum_cons]
    exact (abs_add_le _ _).trans (by omega)

/-- Doubles that lie on one grid and do not leave it however they are added up: whole multiples of
some power of two, of which they come to at most `2 ^ 53` even without their signs. -/
def SumsExactly (xs : List Float) : Prop :=
  ∃ grain : ℕ, (∀ x ∈ xs, x.isFinite = true ∧ (2 : ℤ) ^ grain ∣ count x) ∧
    absoluteSum xs ≤ 2 ^ (53 + grain) ∧ absoluteSum xs < limit

theorem isFinite_of_abs_count_lt (hn : x.isNaN = false) (h : |count x| < limit) :
    x.isFinite = true := by
  rcases isInf_or_isFinite hn with hinf | hfinite
  · exact absurd (abs_count_of_isInf hinf) h.ne
  · exact hfinite

/-- A sum that needs no rounding is exact. -/
theorem add_exact (hx : x.isFinite = true) (hy : y.isFinite = true)
    (hshort : Short (count x + count y)) (hlt : |count x + count y| < limit) :
    (x + y).isFinite = true ∧ count (x + y) = count x + count y := by
  have hcount : count (x + y) = count x + count y := by
    rw [count_add_of_isFinite hx hy, round_of_short hshort, clamp_of_abs_lt hlt]
  refine ⟨isFinite_of_abs_count_lt (isNaN_add_of_isFinite (isNaN_of_isFinite hx) hy) ?_, hcount⟩
  rwa [hcount]

theorem short_of_dvd {n : ℤ} {grain : ℕ} (h : (2 : ℤ) ^ grain ∣ n) (hle : |n| ≤ 2 ^ (53 + grain)) :
    Short n := by
  obtain ⟨m, rfl⟩ := h
  refine ⟨m, grain, ?_, mul_comm _ _⟩
  rw [abs_mul, abs_of_pos (by positivity), pow_add, mul_comm] at hle
  exact le_of_mul_le_mul_right hle (by positivity)

/-- A running sum stays exact on its grid. -/
theorem count_foldl_add {grain : ℕ} (ha : a.isFinite = true) (hdvd : (2 : ℤ) ^ grain ∣ count a)
    (hxs : ∀ x ∈ xs, x.isFinite = true ∧ (2 : ℤ) ^ grain ∣ count x)
    (hle : |count a| + absoluteSum xs ≤ 2 ^ (53 + grain))
    (hlt : |count a| + absoluteSum xs < limit) :
    (xs.foldl (· + ·) a).isFinite = true ∧
      count (xs.foldl (· + ·) a) = count a + exactSum xs := by
  induction xs generalizing a with
  | nil => exact ⟨ha, by simp⟩
  | cons x xs ih =>
    rw [List.forall_mem_cons] at hxs
    obtain ⟨⟨hx, hxdvd⟩, hxs⟩ := hxs
    rw [absoluteSum_cons] at hle hlt
    have hrest := absoluteSum_nonneg xs
    have htriangle := abs_add_le (count a) (count x)
    have hsum := Int.dvd_add hdvd hxdvd
    obtain ⟨hfinite, hcount⟩ := add_exact ha hx (short_of_dvd hsum (by omega)) (by omega)
    rw [← hcount] at hsum htriangle
    obtain ⟨hfinite, hstep⟩ := ih hfinite hsum hxs (by omega) (by omega)
    exact ⟨hfinite, by rw [List.foldl_cons, hstep, hcount, exactSum_cons, add_assoc]⟩

/-- Doubles on one grid are added up without rounding. -/
theorem count_sum (h : SumsExactly xs) :
    (sum xs).isFinite = true ∧ count (sum xs) = exactSum xs := by
  obtain ⟨grain, hxs, hle, hlt⟩ := h
  have hzero : (2 : ℤ) ^ grain ∣ count 0.0 := by
    rw [count_zero]
    exact dvd_zero _
  have hsum := count_foldl_add isFinite_zero hzero hxs (by rwa [count_zero, abs_zero, zero_add])
    (by rwa [count_zero, abs_zero, zero_add])
  rwa [count_zero, zero_add] at hsum

theorem SumsExactly.left (h : SumsExactly (xs ++ ys)) : SumsExactly xs := by
  obtain ⟨grain, hmem, hle, hlt⟩ := h
  have hys := absoluteSum_nonneg ys
  rw [absoluteSum_append] at hle hlt
  exact ⟨grain, fun x hx ↦ hmem x (List.mem_append_left ys hx), by omega, by omega⟩

theorem SumsExactly.perm (h : SumsExactly xs) (hp : xs.Perm ys) : SumsExactly ys := by
  obtain ⟨grain, hmem, hle, hlt⟩ := h
  rw [absoluteSum_perm hp] at hle hlt
  exact ⟨grain, fun x hx ↦ hmem x (hp.mem_iff.2 hx), hle, hlt⟩

/-- A sum that starts from zero is never a zero with a sign. -/
theorem value_sum_ne_negative_zero (xs : List Float) : value (sum xs) ≠ .zero .negative := by
  have hsettled : ∀ u : UnpackedFloat, u ≠ .zero .negative → settled u ≠ .zero .negative := by
    intro u hu
    cases u with
    | finite s m e hm =>
      rw [settled_finite]
      by_cases he : 971 < e
      · rw [if_pos he]
        exact fun h ↦ by cases h
      · rw [if_neg he]
        exact hu
    | _ => exact hu
  have hrun : ∀ a : Float, value a ≠ .zero .negative →
      value (xs.foldl (· + ·) a) ≠ .zero .negative := by
    induction xs with
    | nil => exact fun a ha ↦ ha
    | cons x xs ih =>
      intro a ha
      refine ih (a + x) ?_
      rw [value_add]
      exact hsettled _ (add_ne_negative_zero (stored_value a).canonical
        (stored_value x).canonical ha)
  refine hrun 0.0 ?_
  rw [show value 0.0 = .zero .positive from rfl]
  exact fun h ↦ by cases h

/-- Sums without rounding that come to the same have the same bits. -/
theorem value_sum_eq (hxs : SumsExactly xs) (hys : SumsExactly ys)
    (h : exactSum xs = exactSum ys) : value (sum xs) = value (sum ys) := by
  obtain ⟨hxf, hxc⟩ := count_sum hxs
  obtain ⟨hyf, hyc⟩ := count_sum hys
  exact eq_of_units_eq (stored_value _).canonical (stored_value _).canonical hxf hyf
    (value_sum_ne_negative_zero xs) (value_sum_ne_negative_zero ys) (hxc.trans (h.trans hyc.symm))

/-- Two sums without rounding, of the same parts in other orders, add up to the same bits. -/
theorem sum_add_sum_eq {xs' ys' : List Float} (h : SumsExactly (xs ++ ys)) (hxs : xs.Perm xs')
    (hys : ys.Perm ys') : sum xs + sum ys = sum xs' + sum ys' := by
  have hright : SumsExactly ys := (h.perm List.perm_append_comm).left
  exact add_congr (value_sum_eq h.left (h.left.perm hxs) (exactSum_perm hxs))
    (value_sum_eq hright (hright.perm hys) (exactSum_perm hys))

/-! ## Short sums -/

/-- A value without a sign on its zero. -/
def unsigned : UnpackedFloat → UnpackedFloat
  | .zero _ => .zero .positive
  | u => u

/-- What comes first takes the sign off a zero, and changes nothing else. -/
theorem value_zero_add (x : Float) : value (0.0 + x) = unsigned (value x) := by
  rw [value_add, show value 0.0 = .zero .positive from rfl]
  have hstored := stored_value x
  generalize value x = u at hstored ⊢
  cases u with
  | zero s => cases s <;> rfl
  | finite s m e hm => exact settled_of_stored hstored
  | _ => rfl

theorem unsigned_add_comm (u v : UnpackedFloat) :
    UnpackedFloat.add Format.binary64 (unsigned u) v =
      UnpackedFloat.add Format.binary64 (unsigned v) u := by
  cases u with
  | zero s =>
    cases v with
    | zero t => cases s <;> cases t <;> rfl
    | _ => rfl
  | _ =>
    cases v with
    | zero t => rfl
    | _ => exact add_comm_unpacked _ _

/-- Up to two doubles come to the same in either order, whatever they are. -/
theorem value_sum_of_perm (hp : xs.Perm ys) (h : xs.length ≤ 2) :
    value (sum xs) = value (sum ys) := by
  induction hp with
  | nil => rfl
  | @cons x l l' hp ih =>
    -- of one element there is no other order
    rcases l with _ | ⟨z, _ | ⟨w, l⟩⟩
    · rw [hp.nil_eq]
    · rw [List.perm_singleton.1 hp.symm]
    · simp at h
  | swap x y l =>
    obtain rfl : l = [] := List.eq_nil_of_length_eq_zero (by simpa using h)
    show value (0.0 + y + x) = value (0.0 + x + y)
    rw [value_add (0.0 + y), value_zero_add, value_add (0.0 + x), value_zero_add,
      unsigned_add_comm]
  | trans hp hp' ih ih' => exact (ih h).trans (ih' (hp.length_eq ▸ h))

/-! ## Errors -/

/-- What `n` roundings to 53 binary digits can be off by, as a share of what is rounded. -/
def gamma (n : ℕ) : ℚ := (1 + 1 / 2 ^ 53) ^ n - 1

theorem gamma_nonneg (n : ℕ) : 0 ≤ gamma n :=
  sub_nonneg.2 (one_le_pow₀ (by norm_num))

theorem gamma_mono {n k : ℕ} (h : n ≤ k) : gamma n ≤ gamma k :=
  sub_le_sub_right (pow_le_pow_right₀ (by norm_num) h) 1

/-- One rounding more. -/
theorem gamma_succ (n : ℕ) : gamma (n + 1) = gamma n * (1 + 1 / 2 ^ 53) + 1 / 2 ^ 53 := by
  rw [gamma, gamma, pow_succ]
  ring

/-- A finite sum of two doubles is off by one rounding. -/
theorem abs_count_add_sub_le (h : (x + y).isFinite = true) :
    |(count (x + y) : ℚ) - (count x + count y)| ≤ 1 / 2 ^ 53 * |(count x + count y : ℚ)| := by
  obtain ⟨hx, hy⟩ := isFinite_of_add h
  have hcount : count (x + y) = round (count x + count y) := by
    have hlt := abs_lt.1 (abs_count_lt h)
    have hsum := count_add_of_isFinite hx hy
    rw [clamp] at hsum
    omega
  have herror := abs_sub_round_mul_le (count x + count y)
  rw [← hcount, abs_sub_comm] at herror
  rw [one_div_mul_eq_div, le_div_iff₀ (by positivity)]
  exact_mod_cast herror

/-- A share `u` lost in one step and a share `g` lost in those that follow. -/
theorem error_step {a x c e r s g u : ℚ} (hg : 0 ≤ g) (hu : 0 ≤ u) (hs : 0 ≤ s)
    (hstep : |c - (a + x)| ≤ u * |a + x|) (hrest : |r - (c + e)| ≤ g * (|c| + s)) :
    |r - (a + (x + e))| ≤ (g * (1 + u) + u) * (|a| + (|x| + s)) := by
  have hsize : |a + x| ≤ |a| + |x| := abs_add_le a x
  have hc : |c| ≤ (1 + u) * |a + x| := by
    have hback := abs_add_le (c - (a + x)) (a + x)
    rw [sub_add_cancel] at hback
    linarith
  calc |r - (a + (x + e))|
      = |(r - (c + e)) + (c - (a + x))| := by congr 1; ring
    _ ≤ |r - (c + e)| + |c - (a + x)| := abs_add_le _ _
    _ ≤ g * ((1 + u) * |a + x| + s) + u * |a + x| := by
        have := mul_le_mul_of_nonneg_left hc hg
        linarith
    _ ≤ g * ((1 + u) * (|a| + |x|) + (1 + u) * s) + (u * (|a| + |x|) + u * s) := by
        gcongr
        · nlinarith
        · nlinarith [mul_le_mul_of_nonneg_left hsize hu, mul_nonneg hu hs]
    _ = (g * (1 + u) + u) * (|a| + (|x| + s)) := by ring

/-- What is started from and added to a finite sum is finite. -/
theorem isFinite_of_foldl_add (h : (xs.foldl (· + ·) a).isFinite = true) : a.isFinite = true := by
  induction xs generalizing a with
  | nil => exact h
  | cons x xs ih => exact (isFinite_of_add (ih h)).1

/-- A running sum is off by one rounding for every step. -/
theorem abs_count_foldl_add_sub_le (h : (xs.foldl (· + ·) a).isFinite = true) :
    |(count (xs.foldl (· + ·) a) : ℚ) - (count a + exactSum xs)| ≤
      gamma xs.length * (|(count a : ℚ)| + absoluteSum xs) := by
  induction xs generalizing a with
  | nil => simp [gamma]
  | cons x xs ih =>
    have hrests : (0 : ℚ) ≤ absoluteSum xs := by exact_mod_cast absoluteSum_nonneg xs
    have hfirst : (a + x).isFinite = true :=
      isFinite_of_foldl_add (show (xs.foldl (· + ·) (a + x)).isFinite = true from h)
    have hstep := error_step (gamma_nonneg xs.length) (by positivity) hrests
      (abs_count_add_sub_le hfirst) (ih h)
    rw [List.foldl_cons, List.length_cons, gamma_succ, exactSum_cons, absoluteSum_cons]
    push_cast
    exact hstep

/-- A finite sum is off by at most one rounding for every part. -/
theorem abs_count_sum_sub_le (h : (sum xs).isFinite = true) :
    |(count (sum xs) : ℚ) - exactSum xs| ≤ gamma xs.length * absoluteSum xs := by
  have hrun := abs_count_foldl_add_sub_le (a := 0.0) h
  rw [count_zero, Int.cast_zero, zero_add, abs_zero, zero_add] at hrun
  exact hrun

/-- Two finite sums that are added up are off by one rounding more. -/
theorem abs_count_sum_add_sum_sub_le (h : (sum xs + sum ys).isFinite = true) :
    |(count (sum xs + sum ys) : ℚ) - exactSum (xs ++ ys)| ≤
      gamma ((xs ++ ys).length + 1) * absoluteSum (xs ++ ys) := by
  obtain ⟨hx, hy⟩ := isFinite_of_add h
  have hlast := abs_count_add_sub_le h
  have hxle : |(count (sum xs) : ℚ) - exactSum xs| ≤ gamma (xs ++ ys).length * absoluteSum xs :=
    (abs_count_sum_sub_le hx).trans <| mul_le_mul_of_nonneg_right
      (gamma_mono (by simp)) (by exact_mod_cast absoluteSum_nonneg xs)
  have hyle : |(count (sum ys) : ℚ) - exactSum ys| ≤ gamma (xs ++ ys).length * absoluteSum ys :=
    (abs_count_sum_sub_le hy).trans <| mul_le_mul_of_nonneg_right
      (gamma_mono (by simp)) (by exact_mod_cast absoluteSum_nonneg ys)
  have hexact : |(exactSum (xs ++ ys) : ℚ)| ≤ absoluteSum (xs ++ ys) := by
    exact_mod_cast abs_exactSum_le (xs ++ ys)
  have hparts : |(count (sum xs) + count (sum ys) : ℚ) - exactSum (xs ++ ys)| ≤
      gamma (xs ++ ys).length * absoluteSum (xs ++ ys) := by
    rw [exactSum_append, absoluteSum_append]
    push_cast
    rw [add_sub_add_comm, mul_add]
    exact (abs_add_le _ _).trans (add_le_add hxle hyle)
  have hsize : |(count (sum xs) + count (sum ys) : ℚ)| ≤
      (1 + gamma (xs ++ ys).length) * absoluteSum (xs ++ ys) := by
    have hback := abs_add_le ((count (sum xs) + count (sum ys) : ℚ) - exactSum (xs ++ ys))
      (exactSum (xs ++ ys))
    rw [sub_add_cancel] at hback
    linarith
  calc |(count (sum xs + sum ys) : ℚ) - exactSum (xs ++ ys)|
      ≤ |(count (sum xs + sum ys) : ℚ) - (count (sum xs) + count (sum ys))| +
          |(count (sum xs) + count (sum ys) : ℚ) - exactSum (xs ++ ys)| := abs_sub_le _ _ _
    _ ≤ 1 / 2 ^ 53 * ((1 + gamma (xs ++ ys).length) * absoluteSum (xs ++ ys)) +
          gamma (xs ++ ys).length * absoluteSum (xs ++ ys) :=
        add_le_add (hlast.trans (mul_le_mul_of_nonneg_left hsize (by positivity))) hparts
    _ = gamma ((xs ++ ys).length + 1) * absoluteSum (xs ++ ys) := by
        rw [gamma_succ]
        ring

end Welfare.Double
