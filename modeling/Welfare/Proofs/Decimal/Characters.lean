import Welfare.Decimal.Layout

/-!
# The characters of a written double

Whatever the layout, a double is written with digits, signs, a point and the letters of `e`, `inf`
and `NaN`.  A text around it can therefore mark where the number ends with any other character.

* `isNumeral` — the characters.
* `Layout.isNumeral_of_mem_render` — no other character is written.
-/

set_option autoImplicit false

namespace Welfare.Decimal

/-- The characters that doubles are written with. -/
def isNumeral (c : Char) : Bool := c.isDigit || "+-.eNainf".toList.contains c

theorem isNumeral_of_isDigit {c : Char} (h : c.isDigit = true) : isNumeral c = true := by
  rw [isNumeral, h, Bool.true_or]

theorem isNumeral_of_mem_replicate {n : Nat} :
    ∀ c ∈ List.replicate n '0', isNumeral c = true := by
  intro c hc
  rw [List.eq_of_mem_replicate hc]
  decide

theorem isNumeral_of_mem_toDigits (n : Nat) : ∀ c ∈ Nat.toDigits 10 n, isNumeral c = true := by
  intro c hc
  exact isNumeral_of_isDigit (Nat.isDigit_of_mem_toDigits (by decide) (by decide) hc)

namespace Layout

variable {digits : List Char}

/-- A point and zeros are all that is added to the digits. -/
theorem isNumeral_of_mem_withPoint (h : ∀ c ∈ digits, isNumeral c = true) (place : Int)
    (marksWhole : Bool) : ∀ c ∈ withPoint digits place marksWhole, isNumeral c = true := by
  have hzeros : ∀ n, ∀ c ∈ List.replicate n '0', isNumeral c = true :=
    fun n ↦ isNumeral_of_mem_replicate
  rw [withPoint]
  split
  · rw [List.forall_mem_cons, List.forall_mem_cons, List.forall_mem_append]
    exact ⟨by decide, by decide, hzeros _, h⟩
  · split
    · rw [List.forall_mem_append, List.forall_mem_append]
      refine ⟨⟨h, hzeros _⟩, ?_⟩
      cases marksWhole <;> exact List.all_eq_true.1 rfl
    · rw [List.forall_mem_append, List.forall_mem_cons]
      refine ⟨fun c hc ↦ h c (List.mem_of_mem_take hc), by decide, fun c hc ↦ ?_⟩
      exact h c (List.mem_of_mem_drop hc)

/-- Besides the digits there are a point, the letter and the sign of the exponent, and its
digits. -/
theorem isNumeral_of_mem_withExponent (h : ∀ c ∈ digits, isNumeral c = true) (power : Int) :
    ∀ c ∈ withExponent digits power, isNumeral c = true := by
  have hexponent : ∀ c ∈ 'e' :: (if power < 0 then '-' else '+') :: Nat.toDigits 10 power.natAbs,
      isNumeral c = true := by
    rw [List.forall_mem_cons, List.forall_mem_cons]
    refine ⟨by decide, ?_, isNumeral_of_mem_toDigits _⟩
    split <;> decide
  rcases digits with _ | ⟨d, _ | ⟨e, rest⟩⟩
  · exact hexponent
  · exact List.forall_mem_append.2 ⟨h, hexponent⟩
  · have hpoint : ∀ c ∈ d :: '.' :: e :: rest, isNumeral c = true := by
      rw [List.forall_mem_cons] at h
      rw [List.forall_mem_cons, List.forall_mem_cons]
      exact ⟨h.1, by decide, h.2⟩
    exact List.forall_mem_append.2 ⟨hpoint, hexponent⟩

theorem isNumeral_of_mem_magnitude (l : Layout) (b : Binary) :
    ∀ c ∈ l.magnitude b, isNumeral c = true := by
  have hdigits := isNumeral_of_mem_toDigits (b.shortest l.tie).digits
  rw [magnitude]
  split
  · rw [List.forall_mem_cons]
    refine ⟨by decide, ?_⟩
    cases l.marksWhole <;> exact List.all_eq_true.1 rfl
  · dsimp only
    split
    · exact isNumeral_of_mem_withPoint hdigits _ _
    · split
      · exact isNumeral_of_mem_withPoint hdigits _ _
      · exact isNumeral_of_mem_withExponent hdigits _

/-- Every character of a written double is one of those for doubles. -/
theorem isNumeral_of_mem_render (l : Layout) (x : Float) :
    ∀ c ∈ (l.render x).toList, isNumeral c = true := by
  have hbody : ∀ c ∈ (if x.isInf then "inf".toList else l.magnitude (Binary.ofFloat x)),
      isNumeral c = true := by
    split
    · exact List.all_eq_true.1 rfl
    · exact l.isNumeral_of_mem_magnitude _
  rw [render]
  split
  · exact List.all_eq_true.1 rfl
  · rw [String.toList_ofList]
    split
    · rw [List.forall_mem_cons]
      exact ⟨by decide, hbody⟩
    · exact hbody

end Layout

end Welfare.Decimal
