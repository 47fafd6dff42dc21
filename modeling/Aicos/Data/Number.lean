import Aicos.Data.RoundingSteps
import Mathlib.Order.WithBot

namespace Aicos.Data

/-! JavaScript numbers: the doubles below `2 ^ 1024`, the two infinities and NaN.  The
two zeros are one number here, as they are for every comparison. -/

inductive Number where
  | nan
  | infinite (negative : Bool)
  | finite (value : Double) (small : |value.value| < 2 ^ 1024)

namespace Number

/-- A result that is too large overflows. -/
def ofDouble (value : Double) : Number :=
  if small : |value.value| < 2 ^ 1024 then .finite value small else .infinite (value.value < 0)

def ofInt (value : ℤ) : Number := ofDouble (Double.ofInt value)

/-- Where a number stands in the order of the numbers; NaN stands nowhere. -/
def place : Number → Option (WithBot (WithTop ℚ))
  | .nan => none
  | .infinite true => some ⊥
  | .infinite false => some ((⊤ : WithTop ℚ) : WithBot (WithTop ℚ))
  | .finite value _ => some ((value.value : WithTop ℚ) : WithBot (WithTop ℚ))

def lt (left right : Number) : Bool :=
  match left.place, right.place with
  | some left, some right => left < right
  | _, _ => false

def le (left right : Number) : Bool :=
  match left.place, right.place with
  | some left, some right => left ≤ right
  | _, _ => false

def isInteger : Number → Bool
  | .finite value _ => value.value.isInt
  | _ => false

/-- `Math.round`. -/
def round : Number → Number
  | .finite value _ => ofInt value.round
  | number => number

/-- An amount of cents: an integer, and not below zero. -/
def IsCents (number : Number) : Prop :=
  number.isInteger = true ∧ le (ofInt 0) number = true

theorem ofDouble_of_small {value : Double} (small : |value.value| < 2 ^ 1024) :
    ofDouble value = .finite value small :=
  dif_pos small

theorem ofDouble_of_large {value : Double} (large : 2 ^ 1024 ≤ |value.value|) :
    ofDouble value = .infinite (value.value < 0) :=
  dif_neg large.not_gt

theorem zero_small : |(0 : Double).value| < 2 ^ 1024 := by
  rw [Double.zero_value, abs_zero]
  exact pow_pos two_pos 1024

theorem ofInt_zero : ofInt 0 = .finite 0 zero_small :=
  ofDouble_of_small zero_small

theorem isCents_finite {value : Double} (small : |value.value| < 2 ^ 1024) :
    (Number.finite value small).IsCents ↔ value.value.isInt = true ∧ 0 ≤ value.value := by
  simp [IsCents, isInteger, ofInt_zero, le, place]

theorem not_isCents_infinite (negative : Bool) : ¬ (Number.infinite negative).IsCents := by
  simp [IsCents, isInteger]

theorem isCents_zero : (ofInt 0).IsCents := by
  rw [ofInt_zero, isCents_finite, Double.zero_value]
  exact ⟨rfl, le_rfl⟩

theorem round_ofDouble_isCents {value : Double} :
    (ofDouble value).round.IsCents ↔ -1 / 2 ≤ value.value ∧ |value.value| < 2 ^ 1024 := by
  by_cases small : |value.value| < 2 ^ 1024
  · have rounded : |(Double.ofInt value.round).value| < 2 ^ 1024 := by
      rw [Double.ofInt_round]
      exact Double.abs_round_lt (by norm_num) small
    have whole : (value.round : ℚ).isInt = true := rfl
    rw [ofDouble_of_small small, round, ofInt, ofDouble_of_small rounded, isCents_finite, Double.ofInt_round]
    have least : 0 ≤ value.round ↔ -1 / 2 ≤ value.value := by
      rw [Double.round, Int.le_floor, Int.cast_zero]
      constructor <;> intro <;> linarith
    simp [whole, small, least]
  · have overflow : (ofDouble value).round = .infinite (value.value < 0) := by
      rw [ofDouble_of_large (not_lt.mp small)]
      rfl
    simp [overflow, small, not_isCents_infinite]

section Quotients

variable {whole factor : ℤ} (small : |whole| < 2 ^ 51) (positive : 0 < factor)

include small positive

theorem quotient_small : |(Double.ofRat (whole / factor)).value| < 2 ^ 1024 := by
  have divisor : (1 : ℚ) ≤ factor := by exact_mod_cast positive
  have size : |(whole : ℚ)| ≤ 2 ^ 51 := by exact_mod_cast small.le
  have less : |(whole : ℚ) / factor| ≤ ((2 ^ 51 : ℤ) : ℚ) := by
    rw [abs_div, abs_of_nonneg (zero_le_one.trans divisor)]
    push_cast
    exact (div_le_self (abs_nonneg _) divisor).trans size
  have rounded := nearest_mono less
  rw [nearest_of_representable (representable_int (by norm_num)), ← abs_nearest, Int.cast_pow] at rounded
  exact rounded.trans_lt (pow_lt_pow_right₀ one_lt_two (by norm_num))

/-- Cents are got back from the double that is nearest to their amount. -/
theorem round_quotient_mul (bounded : factor ≤ 2 ^ 53) :
    (ofDouble ((Double.ofRat (whole / factor)).mul (Double.ofInt factor))).round = ofInt whole := by
  have rounded := Double.round_quotient_mul small positive bounded
  have near := Int.floor_eq_iff.mp rounded
  have size : |(whole : ℚ)| < 2 ^ 51 := by exact_mod_cast small
  have sides := abs_lt.mp size
  have finite : |((Double.ofRat (whole / factor)).mul (Double.ofInt factor)).value| < 2 ^ 1024 := by
    have wide : (2 : ℚ) ^ 52 < 2 ^ 1024 := pow_lt_pow_right₀ (by norm_num) (by norm_num)
    refine lt_trans (abs_lt.mpr ⟨?_, ?_⟩) wide <;> linarith
  rw [ofDouble_of_small finite, round, rounded]

end Quotients

end Number

end Aicos.Data
