import Mathlib.Data.List.Basic
import Welfare.Text.Numeral

/-!
# The grammar of numerals

A numeral is an optional plus sign with one or more decimal digits behind it, and nothing else, not
even a blank.  Its digits may open with zeros, so a number has numerals of any length; what keeps a
numeral below a limit is its value alone.

* `IsNumeral` — the texts that are numerals of a number, said without the reader.
* `numeral?_eq_some_iff` — they are the ones that are read, as far as the number is below the limit.
-/

set_option autoImplicit false

namespace Welfare.Text

variable {s : String} {cs : List Char} {limit n : Nat}

/-- A text is a numeral of a number. -/
def IsNumeral (s : String) (n : Nat) : Prop :=
  ∃ sign digits, s.toList = sign ++ digits ∧ (sign = [] ∨ sign = ['+']) ∧
    digits ≠ [] ∧ (∀ c ∈ digits, c.isDigit = true) ∧ Nat.ofDigitChars 10 digits 0 = n

theorem digits?_eq_some_iff : digits? cs = some n ↔
    cs ≠ [] ∧ (∀ c ∈ cs, c.isDigit = true) ∧ Nat.ofDigitChars 10 cs 0 = n := by
  have hvalue : digitsValue cs = Nat.ofDigitChars 10 cs 0 := rfl
  have hgrammar : (cs.isEmpty || !cs.all Char.isDigit) = true ↔
      ¬(cs ≠ [] ∧ ∀ c ∈ cs, c.isDigit = true) := by
    simp [Decidable.or_iff_not_imp_left]
  rw [digits?, hvalue, ← and_assoc]
  split
  · next h => exact iff_of_false (Option.some_ne_none n).symm fun hn ↦ hgrammar.1 h hn.1
  · next h => rw [Option.some_inj, and_iff_right (not_not.1 (mt hgrammar.2 h))]

/-- Digits are no sign. -/
theorem dropPlus_of_forall (h : ∀ c ∈ cs, c.isDigit = true) : dropPlus cs = cs := by
  unfold dropPlus
  split
  · next ds => exact absurd (h '+' List.mem_cons_self) (by decide)
  · rfl

theorem isNumeral_iff : IsNumeral s n ↔ digits? (dropPlus s.toList) = some n := by
  constructor
  · rintro ⟨sign, digits, hs, rfl | rfl, hdigits⟩
    · rw [hs, List.nil_append, dropPlus_of_forall hdigits.2.1]
      exact digits?_eq_some_iff.2 hdigits
    · rw [hs]
      exact digits?_eq_some_iff.2 hdigits
  · intro h
    rw [digits?_eq_some_iff] at h
    unfold dropPlus at h
    split at h
    · next ds hs => exact ⟨['+'], ds, hs, .inr rfl, h⟩
    · exact ⟨[], s.toList, rfl, .inl rfl, h⟩

/-- What is read is the numerals of the numbers below the limit. -/
theorem numeral?_eq_some_iff : numeral? limit s = some n ↔ IsNumeral s n ∧ n < limit := by
  rw [numeral?, Option.filter_eq_some_iff, isNumeral_iff, decide_eq_true_iff]

theorem numeral?_eq_none_iff : numeral? limit s = none ↔ ¬∃ n, IsNumeral s n ∧ n < limit := by
  simp only [← numeral?_eq_some_iff, Option.eq_none_iff_forall_ne_some, not_exists]

/-- A text is a numeral of one number only. -/
theorem IsNumeral.unique {m : Nat} (hm : IsNumeral s m) (hn : IsNumeral s n) : m = n := by
  rw [isNumeral_iff] at hm hn
  exact Option.some_inj.1 (hm.symm.trans hn)

end Welfare.Text
