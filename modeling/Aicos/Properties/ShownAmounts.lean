import Aicos.Money.Rendering

namespace Aicos.Properties

open Aicos.Data Aicos.Money

/-! The major-unit amount of a price in the mails, in the storefront and in the shared package. -/

/-- Mails and storefront format the amount that `formatMoney` does. -/
structure SameAmount (runtime : Runtime) (amount : Int) (currency : String) : Prop where
  mail : fromCents runtime (.ofInt amount) (runtime.toUpperCase currency) =
    some (moneyCall (some (.ofInt amount)) (some currency)).amount
  storefront : fromCents runtime (.ofInt amount) (runtime.toUpperCase currency) =
    some (formatCentsCall (.ofInt amount) (some currency)).amount

section Amounts

theorem minorUnitFactor_cases (runtime : Runtime) (currency : String) :
    minorUnitFactor runtime currency = 1 ∨ minorUnitFactor runtime currency = 1000 ∨
      minorUnitFactor runtime currency = 100 := by
  unfold minorUnitFactor
  dsimp only
  split
  · exact .inl rfl
  · split
    · exact .inr (.inl rfl)
    · exact .inr (.inr rfl)

theorem div_factor_eq_iff (runtime : Runtime) (amount : Int) (currency : String) :
    (Double.ofInt amount).div (.ofInt (minorUnitFactor runtime currency)) = (Double.ofInt amount).div (.ofInt 100) ↔
      minorUnitFactor runtime currency = 100 ∨ amount = 0 := by
  constructor
  · intro same
    by_contra apart
    obtain ⟨other, nonzero⟩ := not_or.mp apart
    obtain whole | thousandths | hundredths := minorUnitFactor_cases runtime currency
    · rw [whole] at same
      have ne : (Double.ofInt amount).div (.ofInt 1) ≠ (Double.ofInt amount).div (.ofInt 100) :=
        Double.div_ofInt_ne nonzero (by norm_num) (pow_zero 2).ge (by norm_num) (by norm_num : (2 : ℤ) ^ 6 ≤ 100) (by norm_num)
      exact ne same
    · rw [thousandths] at same
      have ne : (Double.ofInt amount).div (.ofInt 100) ≠ (Double.ofInt amount).div (.ofInt 1000) :=
        Double.div_ofInt_ne nonzero (by norm_num) (by norm_num : (100 : ℤ) ≤ 2 ^ 7) (by norm_num)
          (by norm_num : (2 : ℤ) ^ 9 ≤ 1000) (by norm_num)
      exact ne same.symm
    · exact other hundredths
  · intro agree
    cases agree with
    | inl hundredths => rw [hundredths]
    | inr zero => rw [zero, Double.div, Double.div, Double.ofInt_value (by norm_num), Int.cast_zero, zero_div, zero_div]

theorem sameAmount_iff (runtime : Runtime) (amount : Int) (currency : String) :
    SameAmount runtime amount currency ↔
      (Double.ofInt amount).div (.ofInt (minorUnitFactor runtime (runtime.toUpperCase currency))) =
        (Double.ofInt amount).div (.ofInt 100) := by
  have rendered : fromCents runtime (.ofInt amount) (runtime.toUpperCase currency) =
      some ((Double.ofInt amount).div (.ofInt (minorUnitFactor runtime (runtime.toUpperCase currency)))) :=
    if_pos (by obtain ⟨whole, same⟩ := Double.exists_int_ofInt amount; rw [same]; rfl)
  constructor
  · intro same
    exact Option.some.inj (rendered.symm.trans same.mail)
  · intro same
    exact ⟨rendered.trans (congrArg some same), rendered.trans (congrArg some same)⟩

/-- Intl knows the code, in capitals or not. -/
structure Supports (runtime : Runtime) (currency : String) : Prop where
  known : ∀ locale amount, runtime.format ⟨locale, currency, amount⟩ ≠ none
  ignoresCase : ∀ locale amount, runtime.format ⟨locale, runtime.toUpperCase currency, amount⟩ =
    runtime.format ⟨locale, currency, amount⟩

/-- Renderers that format the same amount show the same text. -/
theorem SameAmount.texts {runtime : Runtime} {amount : Int} {currency : String} (same : SameAmount runtime amount currency)
    (supports : Supports runtime currency) :
    formatMoney runtime (.ofInt amount) (some currency) none = money runtime (some (.ofInt amount)) (some currency) ∧
      formatMoney runtime (.ofInt amount) (some currency) none =
        formatCents runtime (some (.ofInt amount)) (some currency) := by
  have shared : formatMoney runtime (.ofInt amount) (some currency) none =
      runtime.format (moneyCall (some (.ofInt amount)) (some currency)) := by
    unfold formatMoney
    dsimp only [Option.getD_some]
    rw [same.mail, Option.map_some, Option.getD_none, supports.ignoresCase]
    cases shown : runtime.format ⟨"en-US", currency, (moneyCall (some (.ofInt amount)) (some currency)).amount⟩ with
    | none => exact absurd shown (supports.known _ _)
    | some text => exact shown.symm
  exact ⟨shared, shared⟩

end Amounts

theorem same_amount_iff (runtime : Runtime) (amount : Int) (currency : String) :
    SameAmount runtime amount currency ↔
      minorUnitFactor runtime (runtime.toUpperCase currency) = 100 ∨ amount = 0 :=
  (sameAmount_iff runtime amount currency).trans (div_factor_eq_iff runtime amount _)

theorem minorUnitFactor_bounds (runtime : Runtime) (currency : String) :
    0 < minorUnitFactor runtime currency ∧ minorUnitFactor runtime currency ≤ 2 ^ 53 := by
  obtain whole | thousandths | hundredths := minorUnitFactor_cases runtime currency
  · rw [whole]; norm_num
  · rw [thousandths]; norm_num
  · rw [hundredths]; norm_num

theorem fromCents_ofInt (runtime : Runtime) (currency : String) {cents : ℤ} (small : |cents| ≤ 2 ^ 53) :
    fromCents runtime (.ofInt cents) currency = some (Double.ofRat (cents / minorUnitFactor runtime currency)) := by
  obtain ⟨positive, bounded⟩ := minorUnitFactor_bounds runtime currency
  rw [fromCents, Double.div, Double.ofInt_value small, Double.ofInt_value (by rwa [abs_of_pos positive])]
  exact if_pos rfl

/-- Whatever the currency, and below `2 ^ 51` on either side of zero: the cents of the
major-unit amount of some cents are these cents. -/
theorem cents_survive_major_units (runtime : Runtime) (currency : String) {cents : ℤ} (small : |cents| < 2 ^ 51) :
    ∃ major, fromCents runtime (.ofInt cents) currency = some major ∧
      toCents runtime (.ofDouble major) currency = some (.ofInt cents) := by
  have wide : (2 : ℤ) ^ 51 ≤ 2 ^ 53 := by norm_num
  refine ⟨_, fromCents_ofInt runtime currency (small.le.trans wide), ?_⟩
  obtain ⟨positive, bounded⟩ := minorUnitFactor_bounds runtime currency
  rw [Number.ofDouble_of_small (Number.quotient_small small positive), toCents]
  exact congrArg some (Number.round_quotient_mul small positive bounded)

def plainIntl : Runtime where
  toUpperCase := id
  toFixed := fun _ _ => ""
  format := fun call => some call.currency

theorem dollars_survive :
    ∃ major, fromCents plainIntl (.ofInt 1999) "USD" = some major ∧
      toCents plainIntl (.ofDouble major) "USD" = some (.ofInt 1999) :=
  cents_survive_major_units plainIntl "USD" (by norm_num)

/-- Of 1999 yen the formatter is handed 19.99, which it prints as 20 yen. -/
theorem yen_shown_as_hundredths : ¬ ∀ runtime amount currency, SameAmount runtime amount currency := by
  intro always
  have same := (sameAmount_iff plainIntl 1999 "JPY").mp (always plainIntl 1999 "JPY")
  cases (div_factor_eq_iff plainIntl 1999 "JPY").mp same with
  | inl hundredths => exact absurd hundredths (by decide)
  | inr zero => exact absurd zero (by decide)

end Aicos.Properties
