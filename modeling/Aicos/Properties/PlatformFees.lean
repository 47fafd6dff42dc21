import Aicos.Storefront.Checkout
import Mathlib.Algebra.Order.Round
import Mathlib.Data.Rat.Floor
import Mathlib.Tactic.Linarith
import Mathlib.Tactic.Positivity

namespace Aicos.Properties

open Aicos.Storefront

/-! The platform fee as the rounding of an exact share of the subtotal. -/

def exactFee (subtotal bps : ℤ) : ℚ :=
  (subtotal * bps : ℤ) / (10000 : ℤ)

section Fee

variable {subtotal other bps : ℤ}

theorem exactFee_add (subtotal other bps : ℤ) :
    exactFee (subtotal + other) bps = exactFee subtotal bps + exactFee other bps := by
  unfold exactFee
  push_cast
  ring

theorem exactFee_mono (nonneg : 0 ≤ subtotal) (rate : 0 ≤ bps) {more higher : ℤ} (le : subtotal ≤ more)
    (rises : bps ≤ higher) : exactFee subtotal bps ≤ exactFee more higher := by
  have product : subtotal * bps ≤ more * higher := mul_le_mul le rises rate (nonneg.trans le)
  have casted : ((subtotal * bps : ℤ) : ℚ) ≤ (more * higher : ℤ) := Int.cast_le.mpr product
  exact div_le_div_of_nonneg_right casted (by norm_num)

/-- `Math.round` of the exact share; where there is nothing to take, the share is 0. -/
theorem platformFeeCents_eq_round (nonneg : 0 ≤ subtotal) (rate : 0 ≤ bps) :
    platformFeeCents subtotal bps = round (exactFee subtotal bps) := by
  unfold platformFeeCents
  by_cases nothing : subtotal ≤ 0 ∨ bps ≤ 0
  · have product : subtotal * bps = 0 := by
      cases nothing with
      | inl empty => rw [le_antisymm empty nonneg, zero_mul]
      | inr free => rw [le_antisymm free rate, mul_zero]
    rw [if_pos nothing, exactFee, product, Int.cast_zero, zero_div, round_zero]
  · have half : exactFee subtotal bps + 1 / 2 = ((2 * subtotal * bps + 10000 : ℤ) : ℚ) / (20000 : ℕ) := by
      unfold exactFee
      push_cast
      ring
    rw [if_neg nothing, round_eq, half, Rat.floor_intCast_div_natCast]
    rfl

theorem abs_fee_sub_exactFee (nonneg : 0 ≤ subtotal) (rate : 0 ≤ bps) :
    |exactFee subtotal bps - platformFeeCents subtotal bps| ≤ 1 / 2 := by
  rw [platformFeeCents_eq_round nonneg rate]
  exact abs_sub_round _

theorem platformFeeCents_mono (nonneg : 0 ≤ subtotal) (rate : 0 ≤ bps) {more higher : ℤ} (le : subtotal ≤ more)
    (rises : bps ≤ higher) : platformFeeCents subtotal bps ≤ platformFeeCents more higher := by
  rw [platformFeeCents_eq_round nonneg rate, platformFeeCents_eq_round (nonneg.trans le) (rate.trans rises), round_eq,
    round_eq]
  exact Int.floor_mono (add_le_add_left (exactFee_mono nonneg rate le rises) _)

theorem platformFeeCents_error (nonneg : 0 ≤ subtotal) (rate : 0 ≤ bps) :
    |10000 * platformFeeCents subtotal bps - subtotal * bps| ≤ 5000 := by
  obtain ⟨below, above⟩ := abs_le.mp (abs_fee_sub_exactFee nonneg rate)
  have exactly : exactFee subtotal bps * 10000 = subtotal * bps := by
    unfold exactFee
    push_cast
    ring
  have bounds : -5000 ≤ (10000 * platformFeeCents subtotal bps - subtotal * bps : ℚ) ∧
      (10000 * platformFeeCents subtotal bps - subtotal * bps : ℚ) ≤ 5000 := by
    constructor <;> linarith
  exact abs_le.mpr ⟨by exact_mod_cast bounds.1, by exact_mod_cast bounds.2⟩

theorem platformFeeCents_nonneg (subtotal bps : Int) : 0 ≤ platformFeeCents subtotal bps := by
  unfold platformFeeCents
  split
  · exact le_rfl
  · rename_i positive
    obtain ⟨some, rate⟩ := not_or.mp positive
    have product : 0 ≤ 2 * subtotal * bps := mul_nonneg (by omega) (by omega)
    exact Int.ediv_nonneg (by omega) (by omega)

theorem platformFeeCents_le {subtotal bps : Int} (nonneg : 0 ≤ subtotal) (whole : bps ≤ 10000) :
    platformFeeCents subtotal bps ≤ subtotal := by
  unfold platformFeeCents
  split
  · exact nonneg
  · have product : 2 * subtotal * bps ≤ 2 * subtotal * 10000 := Int.mul_le_mul_of_nonneg_left whole (by omega)
    omega

/-- Three roundings are off by less than two cents. -/
theorem platformFeeCents_add (nonneg : 0 ≤ subtotal) (rest : 0 ≤ other) (rate : 0 ≤ bps) :
    |platformFeeCents (subtotal + other) bps - platformFeeCents subtotal bps - platformFeeCents other bps| ≤ 1 := by
  obtain ⟨low, high⟩ := abs_le.mp (abs_fee_sub_exactFee nonneg rate)
  obtain ⟨lowRest, highRest⟩ := abs_le.mp (abs_fee_sub_exactFee rest rate)
  obtain ⟨lowAll, highAll⟩ := abs_le.mp (abs_fee_sub_exactFee (add_nonneg nonneg rest) rate)
  rw [exactFee_add] at lowAll highAll
  have bounds : (-2 : ℚ) < platformFeeCents (subtotal + other) bps - platformFeeCents subtotal bps -
      platformFeeCents other bps ∧ (platformFeeCents (subtotal + other) bps - platformFeeCents subtotal bps -
        platformFeeCents other bps : ℚ) < 2 := by
    constructor <;> linarith
  have least : -2 < platformFeeCents (subtotal + other) bps - platformFeeCents subtotal bps -
      platformFeeCents other bps := by exact_mod_cast bounds.1
  have most : platformFeeCents (subtotal + other) bps - platformFeeCents subtotal bps -
      platformFeeCents other bps < 2 := by exact_mod_cast bounds.2
  exact abs_le.mpr ⟨by omega, by omega⟩

end Fee

/-- A fee lies between nothing and the subtotal, grows with the subtotal and with the rate, is
within half a cent of the exact share, and is within a cent of the fees of two parts. -/
theorem platform_fee_follows_exact_share {subtotal bps : ℤ} (nonneg : 0 ≤ subtotal) (rate : 0 ≤ bps)
    (whole : bps ≤ 10000) :
    (0 ≤ platformFeeCents subtotal bps ∧ platformFeeCents subtotal bps ≤ subtotal) ∧
    (∀ more, subtotal ≤ more → platformFeeCents subtotal bps ≤ platformFeeCents more bps) ∧
    (∀ higher, bps ≤ higher → higher ≤ 10000 → platformFeeCents subtotal bps ≤ platformFeeCents subtotal higher) ∧
    |10000 * platformFeeCents subtotal bps - subtotal * bps| ≤ 5000 ∧
    ∀ other, 0 ≤ other →
      |platformFeeCents (subtotal + other) bps - platformFeeCents subtotal bps - platformFeeCents other bps| ≤ 1 := by
  have bounds := And.intro (platformFeeCents_nonneg subtotal bps) (platformFeeCents_le nonneg whole)
  refine ⟨bounds, ?_, ?_, platformFeeCents_error nonneg rate, ?_⟩
  · intro more le
    exact platformFeeCents_mono nonneg rate le le_rfl
  · intro higher rises _
    exact platformFeeCents_mono nonneg rate le_rfl rises
  · intro other rest
    exact platformFeeCents_add nonneg rest rate

theorem platform_fee_of_199_cents :
    (0 ≤ platformFeeCents 199 250 ∧ platformFeeCents 199 250 ≤ 199) ∧
    (∀ more, 199 ≤ more → platformFeeCents 199 250 ≤ platformFeeCents more 250) ∧
    (∀ higher, 250 ≤ higher → higher ≤ 10000 → platformFeeCents 199 250 ≤ platformFeeCents 199 higher) ∧
    |10000 * platformFeeCents 199 250 - 199 * 250| ≤ 5000 ∧
    ∀ other, 0 ≤ other →
      |platformFeeCents (199 + other) 250 - platformFeeCents 199 250 - platformFeeCents other 250| ≤ 1 :=
  platform_fee_follows_exact_share (by decide) (by decide) (by decide)

end Aicos.Properties
