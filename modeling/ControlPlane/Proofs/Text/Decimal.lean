import Mathlib.Algebra.Group.Nat.Defs
import ControlPlane.Text.Digits

/-!
# Decimal numbers read back

A number written by `padded` consists of decimal digits only, and the digits stand
for that number again.  The number of digits is exact as long as the number fits
the width, so a reader that takes a fixed number of digits takes all of them.
-/

namespace ControlPlane.Text

/-! ## Single digits -/

theorem digitValue_digitOf {value : Nat} (small : value < 10) :
    digitValue (digitOf value) = value := by
  have all : ∀ digit : Fin 10, digitValue (digitOf digit) = digit.val := by decide
  exact all ⟨value, small⟩

theorem isDigit_digitOf {value : Nat} (small : value < 10) : isDigit (digitOf value) = true := by
  have all : ∀ digit : Fin 10, isDigit (digitOf digit) = true := by decide
  exact all ⟨value, small⟩

theorem toNat_of_isDigit {char : Char} (digit : isDigit char = true) :
    48 ≤ char.toNat ∧ char.toNat ≤ 57 := by
  simp only [isDigit, Bool.and_eq_true, decide_eq_true_eq, Char.le_def] at digit
  exact digit

/-! ## Runs of digits -/

/-- The value of a run grows by the digit at its end. -/
theorem ofDigits_concat (digits : List Char) (digit : Char) :
    ofDigits (digits ++ [digit]) = 10 * ofDigits digits + digitValue digit := by
  rw [ofDigits, List.foldl_append]
  rfl

@[simp]
theorem length_lastDigits (width value : Nat) : (lastDigits width value).length = width := by
  induction width generalizing value with
  | zero => rfl
  | succ width ih => rw [lastDigits, List.length_append, ih, List.length_singleton]

theorem isDigit_of_mem_lastDigits {width value : Nat} {char : Char}
    (member : char ∈ lastDigits width value) : isDigit char = true := by
  induction width generalizing value with
  | zero => cases member
  | succ width ih =>
    rw [lastDigits, List.mem_append, List.mem_singleton] at member
    rcases member with front | rfl
    · exact ih front
    · exact isDigit_digitOf (Nat.mod_lt _ (by decide))

theorem ofDigits_lastDigits {width value : Nat} (fits : value < 10 ^ width) :
    ofDigits (lastDigits width value) = value := by
  induction width generalizing value with
  | zero =>
    rw [Nat.pow_zero, Nat.lt_one_iff] at fits
    rw [fits]
    rfl
  | succ width ih =>
    have front : value / 10 < 10 ^ width := by
      rw [Nat.pow_succ] at fits
      exact Nat.div_lt_of_lt_mul (Nat.mul_comm _ _ ▸ fits)
    rw [lastDigits, ofDigits_concat, ih front, digitValue_digitOf (Nat.mod_lt _ (by decide))]
    exact Nat.div_add_mod value 10

/-! ## Written numbers -/

theorem padded_of_lt {width value : Nat} (fits : value < 10 ^ width) :
    (padded width value).toList = lastDigits width value := by
  have fits' : value < Nat.pow 10 width := fits
  rw [padded, if_pos fits', String.toList_ofList]

theorem padded_of_le {width value : Nat} (large : 10 ^ width ≤ value) :
    (padded width value).toList = Nat.toDigits 10 value := by
  have large' : ¬value < Nat.pow 10 width := Nat.not_lt.2 large
  rw [padded, if_neg large', Nat.toString_eq_repr, Nat.toList_repr]

/-- A written number stands for itself. -/
@[simp]
theorem ofDigits_padded (width value : Nat) : ofDigits (padded width value).toList = value := by
  rcases Nat.lt_or_ge value (10 ^ width) with fits | large
  · rw [padded_of_lt fits, ofDigits_lastDigits fits]
  · rw [padded_of_le large]
    exact Nat.ofDigitChars_ten_toDigits

theorem isDigit_of_mem_padded {width value : Nat} {char : Char}
    (member : char ∈ (padded width value).toList) : isDigit char = true := by
  rcases Nat.lt_or_ge value (10 ^ width) with fits | large
  · rw [padded_of_lt fits] at member
    exact isDigit_of_mem_lastDigits member
  · rw [padded_of_le large] at member
    exact Nat.isDigit_of_mem_toDigits (by decide) (by decide) member

theorem length_padded {width value : Nat} (fits : value < 10 ^ width) :
    (padded width value).toList.length = width := by
  rw [padded_of_lt fits, length_lastDigits]

/-- A number of two digits, digit by digit. -/
theorem padded_two {value : Nat} (small : value < 100) :
    (padded 2 value).toList = [digitOf (value / 10), digitOf (value % 10)] := by
  have tens : value / 10 % 10 = value / 10 := Nat.mod_eq_of_lt (by omega)
  rw [padded_of_lt small]
  change [digitOf (value / 10 % 10), digitOf (value % 10)] = _
  rw [tens]

theorem padded_ne_nil {width : Nat} (wide : 0 < width) (value : Nat) :
    (padded width value).toList ≠ [] := by
  rcases Nat.lt_or_ge value (10 ^ width) with fits | large
  · intro empty
    have length := length_padded fits
    rw [empty, List.length_nil] at length
    exact Nat.ne_of_lt wide length
  · rw [padded_of_le large]
    exact Nat.toDigits_ne_nil

end ControlPlane.Text
