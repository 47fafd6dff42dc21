import Aicos.Data.Double

namespace Aicos.Data

/-! Where rounding steps from one number to the next: halfway, on the side of the even one. -/

section Binade

variable {value : ℚ} {significand exponent : ℤ}

theorem roundEven_intCast (number : ℤ) : roundEven number = number := by
  simp [roundEven]

theorem roundEven_neg (value : ℚ) : roundEven (-value) = -roundEven value := by
  by_cases whole : Int.fract value = 0
  · obtain ⟨number, rfl⟩ := Int.fract_eq_zero_iff.mp whole
    rw [← Int.cast_neg, roundEven_intCast, roundEven_intCast]
  · have fract := Int.fract_neg whole
    have floor : ⌊-value⌋ = -⌊value⌋ - 1 := by
      have same : ((⌊-value⌋ : ℤ) : ℚ) = ((-⌊value⌋ - 1 : ℤ) : ℚ) := by
        push_cast
        linarith [Int.floor_add_fract value, Int.floor_add_fract (-value)]
      exact_mod_cast same
    unfold roundEven
    rw [fract, floor]
    split_ifs <;> first | linarith | omega

theorem nearest_neg (value : ℚ) : nearest (-value) = -nearest value := by
  have size : lastBit (-value) = lastBit value := by rw [lastBit, lastBit, abs_neg]
  rw [nearest, nearest, size, neg_div, roundEven_neg, Int.cast_neg, neg_mul]

theorem abs_nearest (value : ℚ) : |nearest value| = nearest |value| := by
  have zero : nearest 0 = 0 := nearest_of_representable ⟨0, 0, by norm_num, by norm_num, by simp⟩
  rcases abs_cases value with ⟨same, sign⟩ | ⟨same, sign⟩
  · rw [same, abs_of_nonneg]
    exact zero ▸ nearest_mono sign
  · rw [same, nearest_neg, abs_of_nonpos]
    exact zero ▸ nearest_mono sign.le

theorem roundEven_of_lt_half (low : (significand : ℚ) ≤ value) (high : value < significand + 1 / 2) :
    roundEven value = significand := by
  have floor : ⌊value⌋ = significand := Int.floor_eq_iff.mpr ⟨low, by linarith⟩
  have fract : Int.fract value < 1 / 2 := by
    rw [Int.fract, floor]
    linarith
  rw [roundEven, if_pos fract, floor]

theorem roundEven_of_half_lt (low : (significand : ℚ) + 1 / 2 < value) (high : value < significand + 1) :
    roundEven value = significand + 1 := by
  have floor : ⌊value⌋ = significand := Int.floor_eq_iff.mpr ⟨by linarith, high⟩
  have fract : 1 / 2 < Int.fract value := by
    rw [Int.fract, floor]
    linarith
  rw [roundEven, if_neg fract.not_gt, if_pos fract, floor]

theorem roundEven_half (significand : ℤ) :
    roundEven (significand + 1 / 2) = if 2 ∣ significand then significand else significand + 1 := by
  have floor : ⌊(significand : ℚ) + 1 / 2⌋ = significand := Int.floor_eq_iff.mpr ⟨by linarith, by linarith⟩
  have fract : Int.fract ((significand : ℚ) + 1 / 2) = 1 / 2 := by
    rw [Int.fract, floor]
    ring
  rw [roundEven, fract, if_neg (lt_irrefl _), if_neg (lt_irrefl _), floor]

/-- A significand of 53 bits is rounded to an integer. -/
theorem nearest_scaled (least : -1074 ≤ exponent) (low : 2 ^ 52 ≤ value) (high : value < 2 ^ 53) :
    nearest (value * 2 ^ exponent) = roundEven value * 2 ^ exponent := by
  have unit := two_zpow_pos exponent
  have positive : 0 < value * 2 ^ exponent := mul_pos (by linarith) unit
  have size : Int.log 2 (value * 2 ^ exponent) = 52 + exponent := by
    have lower : 52 + exponent ≤ Int.log 2 (value * 2 ^ exponent) := by
      rw [← Int.zpow_le_iff_le_log (by norm_num) positive, Nat.cast_ofNat, zpow_add₀ (by norm_num)]
      exact mul_le_mul_of_nonneg_right (by exact_mod_cast low) unit.le
    have upper : Int.log 2 (value * 2 ^ exponent) < 53 + exponent := by
      rw [← Int.lt_zpow_iff_log_lt (by norm_num) positive, Nat.cast_ofNat, zpow_add₀ (by norm_num)]
      exact mul_lt_mul_of_pos_right (by exact_mod_cast high) unit
    omega
  have bit : lastBit (value * 2 ^ exponent) = exponent := by
    rw [lastBit, abs_of_pos positive, size]
    omega
  rw [nearest, bit, mul_div_cancel_right₀ _ unit.ne']

end Binade

section Halfway

variable {value : ℚ} {significand exponent : ℤ} (least : -1074 ≤ exponent) (low : 2 ^ 52 ≤ significand)
  (high : significand < 2 ^ 53)

include least low high

theorem nearest_halfway : nearest ((significand + 1 / 2) * 2 ^ exponent) =
    (if 2 ∣ significand then significand else significand + 1 : ℤ) * 2 ^ exponent := by
  have lower : (2 : ℚ) ^ 52 ≤ significand := by exact_mod_cast low
  have upper : (significand : ℚ) + 1 ≤ 2 ^ 53 := by exact_mod_cast high
  rw [nearest_scaled least (by linarith) (by linarith), roundEven_half]

theorem nearest_le_of_lt_halfway (below : value < (significand + 1 / 2) * 2 ^ exponent) :
    nearest value ≤ significand * 2 ^ exponent := by
  have lower : (2 : ℚ) ^ 52 ≤ significand := by exact_mod_cast low
  have upper : (significand : ℚ) + 1 ≤ 2 ^ 53 := by exact_mod_cast high
  have unit := two_zpow_pos exponent
  let scaled := max (value / 2 ^ exponent) significand
  have under : scaled < significand + 1 / 2 := max_lt ((div_lt_iff₀ unit).mpr below) (by linarith)
  have most : (significand : ℚ) ≤ scaled := le_max_right _ _
  have rounded : nearest (scaled * 2 ^ exponent) = significand * 2 ^ exponent := by
    rw [nearest_scaled least (by linarith) (by linarith), roundEven_of_lt_half most under]
  rw [← rounded]
  exact nearest_mono ((div_le_iff₀ unit).mp (le_max_left _ _))

theorem le_nearest_of_halfway_lt (above : (significand + 1 / 2) * 2 ^ exponent < value) :
    ((significand + 1 : ℤ) : ℚ) * 2 ^ exponent ≤ nearest value := by
  have lower : (2 : ℚ) ^ 52 ≤ significand := by exact_mod_cast low
  have upper : (significand : ℚ) + 1 ≤ 2 ^ 53 := by exact_mod_cast high
  have unit := two_zpow_pos exponent
  have most : significand + 1 / 2 < value / 2 ^ exponent := (lt_div_iff₀ unit).mpr above
  have scaled : value / 2 ^ exponent * 2 ^ exponent = value := div_mul_cancel₀ _ unit.ne'
  rcases lt_or_ge (value / 2 ^ exponent) (significand + 1) with near | far
  · have rounded : nearest (value / 2 ^ exponent * 2 ^ exponent) = (significand + 1 : ℤ) * 2 ^ exponent := by
      rw [nearest_scaled least (by linarith) (by linarith), roundEven_of_half_lt most near]
    rw [← rounded, scaled]
  · have next : Representable ((significand + 1 : ℤ) * 2 ^ exponent) :=
      ⟨significand + 1, exponent, by rw [abs_of_nonneg (by omega)]; omega, least, rfl⟩
    rw [← nearest_of_representable next]
    refine nearest_mono ?_
    push_cast
    exact (le_div_iff₀ unit).mp far

/-- An odd number keeps what is below the half. -/
theorem le_nearest_iff_halfway_le (odd : ¬ 2 ∣ significand) :
    ((significand + 1 : ℤ) : ℚ) * 2 ^ exponent ≤ nearest value ↔ (significand + 1 / 2) * 2 ^ exponent ≤ value := by
  have unit := two_zpow_pos exponent
  constructor
  · intro reached
    by_contra! below
    have kept := nearest_le_of_lt_halfway least low high below
    have step : (significand : ℚ) * 2 ^ exponent < ((significand + 1 : ℤ) : ℚ) * 2 ^ exponent :=
      mul_lt_mul_of_pos_right (by push_cast; linarith) unit
    linarith
  · intro above
    have up := nearest_mono above
    rwa [nearest_halfway least low high, if_neg odd] at up

/-- An even one keeps the half as well. -/
theorem nearest_le_iff_le_halfway (even : 2 ∣ significand) :
    nearest value ≤ significand * 2 ^ exponent ↔ value ≤ (significand + 1 / 2) * 2 ^ exponent := by
  have unit := two_zpow_pos exponent
  constructor
  · intro kept
    by_contra! above
    have reached := le_nearest_of_halfway_lt least low high above
    have step : (significand : ℚ) * 2 ^ exponent < ((significand + 1 : ℤ) : ℚ) * 2 ^ exponent :=
      mul_lt_mul_of_pos_right (by push_cast; linarith) unit
    linarith
  · intro below
    have down := nearest_mono below
    rwa [nearest_halfway least low high, if_pos even] at down

end Halfway

section Quotients

theorem Representable.neg {value : ℚ} (exact : Representable value) : Representable (-value) := by
  obtain ⟨significand, exponent, bounded, least, rfl⟩ := exact
  exact ⟨-significand, exponent, by rwa [abs_neg], least, by push_cast; ring⟩

/-- A number of at least one has bits to spare below it. -/
theorem Representable.div_two_pow {value : ℚ} (exact : Representable value) (large : 1 ≤ value) {bits : ℕ}
    (spare : bits ≤ 1000) : Representable (value / 2 ^ bits) := by
  obtain ⟨significand, exponent, bounded, _, rfl⟩ := exact
  have least : -53 ≤ exponent := by
    by_contra! small
    have power : (2 : ℚ) ^ exponent ≤ 2 ^ (-54 : ℤ) := two_zpow_le (by omega)
    have bits : (significand : ℚ) ≤ 2 ^ 53 := by exact_mod_cast (le_abs_self significand).trans bounded
    have product := mul_le_mul bits power (two_zpow_pos exponent).le (by norm_num)
    have half : (2 : ℚ) ^ 53 * 2 ^ (-54 : ℤ) < 1 := by norm_num
    linarith
  refine ⟨significand, exponent - bits, bounded, by omega, ?_⟩
  rw [zpow_sub₀ (by norm_num), zpow_natCast, mul_div_assoc]

/-- Two powers of two between the divisors keep the rounded quotients apart. -/
theorem nearest_div_lt {value left right : ℚ} (exact : Representable value) (large : 1 ≤ value) {low high : ℕ}
    (positive : 0 < left) (below : left ≤ 2 ^ low) (apart : low < high) (above : 2 ^ high ≤ right)
    (spare : high ≤ 1000) : nearest (value / right) < nearest (value / left) := by
  have powers : (2 : ℚ) ^ low < 2 ^ high := pow_lt_pow_right₀ (by norm_num) apart
  calc nearest (value / right) ≤ nearest (value / 2 ^ high) :=
        nearest_mono (div_le_div_of_nonneg_left (by linarith) (by positivity) above)
    _ = value / 2 ^ high := nearest_of_representable (exact.div_two_pow large spare)
    _ < value / 2 ^ low := div_lt_div_of_pos_left (by linarith) (by positivity) powers
    _ = nearest (value / 2 ^ low) := (nearest_of_representable (exact.div_two_pow large (apart.le.trans spare))).symm
    _ ≤ nearest (value / left) := nearest_mono (div_le_div_of_nonneg_left (by linarith) positive below)

theorem nearest_div_ne {value left right : ℚ} (exact : Representable value) (large : 1 ≤ |value|) {low high : ℕ}
    (positive : 0 < left) (below : left ≤ 2 ^ low) (apart : low < high) (above : 2 ^ high ≤ right)
    (spare : high ≤ 1000) : nearest (value / left) ≠ nearest (value / right) := by
  cases le_total 0 value with
  | inl nonneg =>
      rw [abs_of_nonneg nonneg] at large
      exact (nearest_div_lt exact large positive below apart above spare).ne'
  | inr nonpos =>
      rw [abs_of_nonpos nonpos] at large
      have mirrored := nearest_div_lt exact.neg large positive below apart above spare
      rw [neg_div, neg_div, nearest_neg, nearest_neg, neg_lt_neg_iff] at mirrored
      exact mirrored.ne

end Quotients

section Error

variable {value : ℚ}

/-- Rounding is off by half of the last bit at most. -/
theorem abs_sub_nearest_le_half (value : ℚ) : |value - nearest value| ≤ 2 ^ lastBit value / 2 := by
  have unit := two_zpow_pos (lastBit value)
  have split : value - nearest value =
      (value / 2 ^ lastBit value - roundEven (value / 2 ^ lastBit value)) * 2 ^ lastBit value := by
    rw [nearest, sub_mul, div_mul_cancel₀ _ unit.ne']
  have half : |value / 2 ^ lastBit value - roundEven (value / 2 ^ lastBit value)| ≤ 1 / 2 := by
    rw [abs_sub_roundEven, min_le_iff]
    rcases le_total (Int.fract (value / 2 ^ lastBit value)) (1 / 2) with low | high
    · exact .inl low
    · exact .inr (by linarith)
  rw [split, abs_mul, abs_of_pos unit]
  calc _ ≤ 1 / 2 * (2 : ℚ) ^ lastBit value := mul_le_mul_of_nonneg_right half unit.le
    _ = 2 ^ lastBit value / 2 := by ring

/-- Above the subnormal numbers the error is relative. -/
theorem abs_sub_nearest_le_relative (normal : 2 ^ (-1022 : ℤ) ≤ |value|) :
    |value - nearest value| ≤ |value| / 2 ^ 53 := by
  have positive : 0 < |value| := (two_zpow_pos _).trans_le normal
  have least : -1022 ≤ Int.log 2 |value| := by
    rw [← Int.zpow_le_iff_le_log (by norm_num) positive]
    exact_mod_cast normal
  have below : (2 : ℚ) ^ Int.log 2 |value| ≤ |value| := by
    exact_mod_cast Int.zpow_log_le_self (b := 2) (by norm_num) positive
  have bit : (2 : ℚ) ^ lastBit value = 2 ^ Int.log 2 |value| / 2 ^ 52 := by
    rw [lastBit, max_eq_left (by omega), zpow_sub₀ (by norm_num)]
    norm_num
  calc |value - nearest value| ≤ 2 ^ lastBit value / 2 := abs_sub_nearest_le_half value
    _ = 2 ^ Int.log 2 |value| / 2 ^ 53 := by rw [bit]; ring
    _ ≤ |value| / 2 ^ 53 := by gcongr

theorem abs_sub_nearest_le_of_lt {exponent : ℤ} (least : -1021 ≤ exponent) (small : |value| < 2 ^ exponent) :
    |value - nearest value| ≤ 2 ^ exponent / 2 ^ 54 := by
  rcases eq_or_ne value 0 with rfl | nonzero
  · have zero : nearest 0 = 0 := by simp [nearest, roundEven]
    rw [zero, sub_self, abs_zero]
    exact div_nonneg (two_zpow_pos exponent).le (by norm_num)
  · have few : Int.log 2 |value| < exponent := by
      rw [← Int.lt_zpow_iff_log_lt (by norm_num) (abs_pos.mpr nonzero)]
      exact_mod_cast small
    have size : lastBit value ≤ exponent - 53 := by
      rw [lastBit]
      omega
    calc |value - nearest value| ≤ 2 ^ lastBit value / 2 := abs_sub_nearest_le_half value
      _ ≤ 2 ^ (exponent - 53) / 2 := div_le_div_of_nonneg_right (two_zpow_le size) (by norm_num)
      _ = 2 ^ exponent / 2 ^ 54 := by
          rw [zpow_sub₀ (by norm_num)]
          norm_num
          ring

end Error

namespace Double

/-- A number above `2 ^ 53` has no fraction. -/
theorem exists_int (number : Double) (large : 2 ^ 53 < |number.value|) : ∃ whole : ℤ, number.value = whole := by
  obtain ⟨significand, exponent, bounded, -, split⟩ := number.exact
  have nonneg : 0 ≤ exponent := by
    by_contra! negative
    have small : (2 : ℚ) ^ exponent ≤ 2 ^ (0 : ℤ) := two_zpow_le negative.le
    have size : |(significand : ℚ)| ≤ 2 ^ 53 := by exact_mod_cast bounded
    rw [split, abs_mul, abs_of_pos (two_zpow_pos exponent)] at large
    have product := mul_le_mul size small (two_zpow_pos exponent).le (by norm_num)
    rw [zpow_zero, mul_one] at product
    linarith
  obtain ⟨power, rfl⟩ := Int.eq_ofNat_of_zero_le nonneg
  exact ⟨significand * 2 ^ power, by rw [split]; push_cast; rfl⟩

theorem round_cases (number : Double) : (number.round : ℚ) = number.value ∨ |number.round| ≤ 2 ^ 53 := by
  by_cases large : 2 ^ 53 < |number.value|
  · obtain ⟨whole, same⟩ := number.exists_int large
    have rounded : number.round = whole := by
      rw [round, same, Int.floor_eq_iff]
      constructor <;> linarith
    exact .inl (by rw [rounded, same])
  · obtain ⟨low, high⟩ := abs_le.mp (not_lt.mp large)
    have least : -2 ^ 53 ≤ number.round := Int.le_floor.mpr (by push_cast; linarith)
    have most : number.round ≤ 2 ^ 53 := Int.floor_le_iff.mpr (by push_cast; linarith)
    exact .inr (abs_le.mpr ⟨least, most⟩)

/-- Rounding to an integer is exact. -/
theorem ofInt_round (number : Double) : (ofInt number.round).value = number.round := by
  rcases number.round_cases with whole | bounded
  · have exact := nearest_of_representable number.exact
    rwa [← whole] at exact
  · exact ofInt_value bounded

theorem abs_round_lt {number : Double} {power : ℕ} (wide : 53 < power) (small : |number.value| < 2 ^ power) :
    |(number.round : ℚ)| < 2 ^ power := by
  rcases number.round_cases with whole | bounded
  · rwa [whole]
  · have bounded : |(number.round : ℚ)| ≤ 2 ^ 53 := by exact_mod_cast bounded
    exact bounded.trans_lt (pow_lt_pow_right₀ (by norm_num) wide)

section Integers

variable {amount : ℤ}

/-- Rounding keeps an integer above the integers below it. -/
theorem le_abs_ofInt {least : ℤ} (bounded : |least| ≤ 2 ^ 53) (le : least ≤ |amount|) :
    (least : ℚ) ≤ |(ofInt amount).value| := by
  have cast : (least : ℚ) ≤ |(amount : ℚ)| := by exact_mod_cast le
  have rounded := nearest_mono cast
  rwa [nearest_of_representable (representable_int bounded), ← abs_nearest] at rounded

theorem exists_int_ofInt (amount : ℤ) : ∃ whole : ℤ, (ofInt amount).value = whole := by
  by_cases bounded : |amount| ≤ 2 ^ 53
  · exact ⟨amount, ofInt_value bounded⟩
  · have least := le_abs_ofInt (by norm_num) (not_le.mp bounded).le
    cases lt_or_eq_of_le least with
    | inl large =>
        exact (ofInt amount).exists_int (by exact_mod_cast large)
    | inr edge =>
        cases abs_choice (ofInt amount).value with
        | inl same => exact ⟨2 ^ 53, by rw [← same, ← edge]⟩
        | inr same =>
            refine ⟨-2 ^ 53, ?_⟩
            push_cast at edge ⊢
            linarith

theorem one_le_abs_ofInt (nonzero : amount ≠ 0) : 1 ≤ |(ofInt amount).value| := by
  exact_mod_cast le_abs_ofInt (by norm_num) (Int.one_le_abs nonzero)

theorem div_ofInt_ne (nonzero : amount ≠ 0) {left right : ℤ} {low high : ℕ} (positive : 0 < left)
    (below : left ≤ 2 ^ low) (apart : low < high) (above : 2 ^ high ≤ right) (bounded : right ≤ 2 ^ 53) :
    (ofInt amount).div (.ofInt left) ≠ (ofInt amount).div (.ofInt right) := by
  have spare : high ≤ 1000 := by
    have power : (2 : ℤ) ^ high ≤ 2 ^ 53 := above.trans bounded
    have := (pow_le_pow_iff_right₀ (by norm_num : (1 : ℤ) < 2)).mp power
    omega
  have order : left < right := by
    have powers : (2 : ℤ) ^ low < 2 ^ high := pow_lt_pow_right₀ (by norm_num) apart
    omega
  have leftExact : (ofInt left).value = left := ofInt_value (by rw [abs_of_pos positive]; omega)
  have rightExact : (ofInt right).value = right :=
    ofInt_value (by rw [abs_of_pos (positive.trans order)]; exact bounded)
  intro same
  have values := congrArg Double.value same
  rw [div, div, ofRat_value, ofRat_value, leftExact, rightExact] at values
  exact nearest_div_ne (ofInt amount).exact (one_le_abs_ofInt nonzero) (by exact_mod_cast positive)
    (by exact_mod_cast below) apart (by exact_mod_cast above) spare values

end Integers

/-- A quotient that is multiplied by its divisor again and rounded is the dividend. -/
theorem round_quotient_mul {whole factor : ℤ} (small : |whole| < 2 ^ 51) (positive : 0 < factor)
    (bounded : factor ≤ 2 ^ 53) : ((ofRat (whole / factor)).mul (ofInt factor)).round = whole := by
  have exact : (ofInt factor).value = factor := ofInt_value (by rwa [abs_of_pos positive])
  have divisor : (0 : ℚ) < factor := by exact_mod_cast positive
  have size : |(whole : ℚ)| < 2 ^ 51 := by exact_mod_cast small
  have near : |(whole : ℚ) - nearest (whole / factor) * factor| < 1 / 4 := by
    rcases eq_or_ne whole 0 with rfl | nonzero
    · have zero : nearest 0 = 0 := by simp [nearest, roundEven]
      simp [zero]
    · have one : (1 : ℚ) ≤ |(whole : ℚ)| := by exact_mod_cast Int.one_le_abs nonzero
      have normal : (2 : ℚ) ^ (-1022 : ℤ) ≤ |(whole : ℚ) / factor| := by
        rw [abs_div, abs_of_pos divisor, le_div_iff₀ divisor]
        calc (2 : ℚ) ^ (-1022 : ℤ) * factor ≤ 2 ^ (-1022 : ℤ) * 2 ^ (53 : ℤ) := by
              gcongr
              exact_mod_cast bounded
          _ ≤ 2 ^ (0 : ℤ) := by
              rw [← zpow_add₀ (by norm_num)]
              exact two_zpow_le (by norm_num)
          _ ≤ |(whole : ℚ)| := one
      have error := abs_sub_nearest_le_relative normal
      have scaled : (whole : ℚ) - nearest (whole / factor) * factor =
          (whole / factor - nearest (whole / factor)) * factor := by
        rw [sub_mul, div_mul_cancel₀ _ divisor.ne']
      calc _ = |(whole : ℚ) / factor - nearest (whole / factor)| * factor := by
            rw [scaled, abs_mul, abs_of_pos divisor]
        _ ≤ |(whole : ℚ) / factor| / 2 ^ 53 * factor := mul_le_mul_of_nonneg_right error divisor.le
        _ = |(whole : ℚ)| / 2 ^ 53 := by
            rw [abs_div, abs_of_pos divisor]
            field_simp
        _ < 1 / 4 := by linarith
  have product : |nearest (whole / factor) * (factor : ℚ)| < 2 ^ (52 : ℤ) := by
    have sides := abs_lt.mp near
    have limits := abs_lt.mp size
    rw [abs_lt]
    norm_num at limits ⊢
    constructor <;> linarith
  have again := abs_sub_nearest_le_of_lt (by norm_num) product
  have sides := abs_lt.mp near
  have turns := abs_le.mp again
  norm_num at turns
  rw [round, mul, ofRat_value, ofRat_value, exact, Int.floor_eq_iff]
  constructor <;> linarith

end Double

end Aicos.Data
