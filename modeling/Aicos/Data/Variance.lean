import Mathlib.Algebra.Order.BigOperators.Expect
import Mathlib.Tactic.Ring

namespace Aicos.Data

/-! The variance of finitely many numbers: the mean of the squared distances from their mean. -/

open Finset

section Variance

variable {ι K : Type*} [Field K] [LinearOrder K] [IsStrictOrderedRing K] (points : Finset ι) (value : ι → K)

def variance : K :=
  expect points fun point => (value point - expect points value) ^ 2

theorem variance_nonneg : 0 ≤ variance points value :=
  expect_nonneg fun _ _ => sq_nonneg _

/-- Summing squares along with the values saves the second pass. -/
theorem mean_sq_sub_sq_mean :
    (expect points fun point => value point ^ 2) - expect points value ^ 2 = variance points value := by
  unfold variance
  rcases points.eq_empty_or_nonempty with none | some
  · subst none
    simp
  · have spread : ∀ point, (value point - expect points value) ^ 2 =
        value point ^ 2 - value point * (2 * expect points value) + expect points value ^ 2 := by
      intro point
      ring
    simp only [spread]
    rw [expect_add_distrib, expect_sub_distrib, ← expect_mul, expect_const some]
    ring

variable {points value}

theorem variance_congr {other : ι → K} (same : ∀ point ∈ points, value point = other point) :
    variance points value = variance points other := by
  unfold variance
  rw [expect_congr rfl same]
  exact expect_congr rfl fun point member => by rw [same point member]

theorem variance_eq_zero_iff :
    variance points value = 0 ↔ ∀ point ∈ points, ∀ other ∈ points, value point = value other := by
  have flat : variance points value = 0 ↔ ∀ point ∈ points, value point = expect points value := by
    rw [variance, expect_eq_zero_iff_of_nonneg fun _ _ => sq_nonneg _]
    simp only [sq_eq_zero_iff, sub_eq_zero]
  rw [flat]
  constructor
  · intro mean point member other member'
    rw [mean point member, mean other member']
  · intro same point member
    have level : expect points value = expect points fun _ => value point :=
      expect_congr rfl fun other member' => same other member' point member
    rw [level, expect_const ⟨point, member⟩]

variable (points value)

theorem variance_const_mul (factor : K) :
    variance points (fun point => factor * value point) = factor * factor * variance points value := by
  have mean : (expect points fun point => factor * value point) = factor * expect points value :=
    (mul_expect points value factor).symm
  unfold variance
  rw [mean, mul_expect points _ (factor * factor)]
  refine expect_congr rfl fun point _ => ?_
  ring

end Variance

end Aicos.Data
