import Welfare.Proofs.Double.Finite
import Welfare.Rule.Codec

/-!
# Operators are stable under their tags

An operator is written as its tag.  Reading the tag gives the operator back unless the operator is
an unsupported one under the tag of a known one.  No such operator is ever read: texts become the
operators they name, and the other values become their own literals, none of which is the tag of a
known operator.

* `Number.head_print` — the literal of a number starts with a digit or a minus sign.
* `Operator.Stable` — the tag of the operator names it.
* `Operator.stable_ofJson` — every operator that is read is stable.
-/

set_option autoImplicit false

namespace Welfare

/-! ## Literals of numbers -/

namespace Decimal.Layout

variable {c : Char} {digits : List Char}

/-- A digit stands in front of the point. -/
theorem head_withPoint (hc : c.isDigit = true) (place : Int) (marksWhole : Bool) :
    ∃ d, (withPoint (c :: digits) place marksWhole).head? = some d ∧ d.isDigit = true := by
  rw [withPoint]
  split
  · exact ⟨'0', rfl, by decide⟩
  · split
    · exact ⟨c, rfl, hc⟩
    · have hsucc : place.toNat = (place.toNat - 1) + 1 := by omega
      rw [hsucc]
      exact ⟨c, rfl, hc⟩

/-- A digit stands in front of the exponent. -/
theorem head_withExponent (power : Int) :
    (withExponent (c :: digits) power).head? = some c := by
  cases digits with
  | nil => rfl
  | cons d ds => rfl

theorem head_toDigits (n : Nat) :
    ∃ c rest, Nat.toDigits 10 n = c :: rest ∧ c.isDigit = true := by
  cases hdigits : Nat.toDigits 10 n with
  | nil => exact absurd hdigits Nat.toDigits_ne_nil
  | cons c rest =>
    have hmem : c ∈ Nat.toDigits 10 n := hdigits ▸ List.mem_cons_self
    exact ⟨c, rest, rfl, Nat.isDigit_of_mem_toDigits (by decide) (by decide) hmem⟩

/-- The text of a magnitude starts with a digit. -/
theorem head_magnitude (l : Layout) (b : Binary) :
    ∃ c, (l.magnitude b).head? = some c ∧ c.isDigit = true := by
  rw [magnitude]
  split
  · exact ⟨'0', rfl, by decide⟩
  · obtain ⟨c, rest, hdigits, hc⟩ := head_toDigits (b.shortest l.tie).digits
    simp only [hdigits]
    split
    · exact head_withPoint hc _ _
    · split
      · exact head_withPoint hc _ _
      · exact ⟨c, head_withExponent _, hc⟩

end Decimal.Layout

/-- The literal of a number starts with a digit or a minus sign. -/
theorem Json.Number.head_print (n : Json.Number) :
    ∃ c, n.print.toList.head? = some c ∧ (c = '-' ∨ c.isDigit = true) := by
  cases n with
  | int n hn =>
    rw [Json.Number.print, Int.toString_eq_repr, Int.repr_eq_if]
    split
    · obtain ⟨c, rest, hdigits, hc⟩ := Decimal.Layout.head_toDigits n.toNat
      exact ⟨c, by rw [Nat.toList_repr, hdigits]; rfl, Or.inr hc⟩
    · exact ⟨'-', by rw [String.toList_append]; rfl, Or.inl rfl⟩
  | double x hx =>
    obtain ⟨c, hbody, hc⟩ := Json.floatLayout.head_magnitude (Binary.ofFloat x)
    rw [Json.Number.print, Decimal.Layout.render, Double.isNaN_of_isFinite hx,
      Double.isInf_of_isFinite hx]
    simp only [Bool.false_eq_true, if_false, String.toList_ofList]
    split
    · exact ⟨'-', rfl, Or.inl rfl⟩
    · exact ⟨c, hbody, Or.inr hc⟩

/-! ## Stable operators -/

namespace Operator

/-- The tag of the operator names the operator. -/
def Stable (op : Operator) : Prop := ofTag op.tag = op

theorem stable_ofTag (tag : String) : (ofTag tag).Stable := ofTag_tag_ofTag tag

/-- A tag that does not start with a small letter names no known operator. -/
theorem stable_unsupported {tag : String} {c : Char} (htag : tag.toList.head? = some c)
    (hc : c.isLower = false) : (unsupported tag).Stable := by
  have hhead : tag.toList.head?.map Char.isLower = some false := by
    rw [htag]
    exact congrArg some hc
  show ofTag tag = unsupported tag
  unfold ofTag
  split <;> first | exact absurd hhead (by decide) | rfl

theorem isLower_of_isDigit {c : Char} (h : c.isDigit = true) : c.isLower = false := by
  have hle : c.toNat ≤ 57 := (Char.isDigit_iff_toNat.1 h).2
  have hlower (h : c.isLower = true) : 97 ≤ c.toNat :=
    UInt32.le_iff_toNat_le.1 (of_decide_eq_true (Bool.and_eq_true_iff.1 h).1)
  exact Bool.eq_false_iff.2 fun h ↦ absurd (hlower h) (by omega)

/-- Every operator that is read is stable. -/
theorem stable_ofJson (v : Option Json) : (Operator.ofJson v).Stable := by
  cases v with
  | none => rfl
  | some v =>
    cases v with
    | null => rfl
    | str s => exact stable_ofTag s
    | bool b => cases b <;> rfl
    | num n =>
      obtain ⟨c, hprint, hc⟩ := n.head_print
      refine stable_unsupported hprint ?_
      rcases hc with rfl | hc
      · decide
      · exact isLower_of_isDigit hc
    | arr xs =>
      have hhead : (Json.arr xs).compact.toList.head? = some '[' := by
        rw [Json.compact, String.toList_append, String.toList_append]; rfl
      exact stable_unsupported hhead (by decide)
    | obj ms =>
      have hhead : (Json.obj ms).compact.toList.head? = some '\x7b' := by
        rw [Json.compact, String.toList_append, String.toList_append]; rfl
      exact stable_unsupported hhead (by decide)

end Operator

end Welfare
