import Mathlib.Algebra.Order.Field.Power
import Mathlib.Algebra.Order.Round
import Mathlib.Data.Int.Log
import Mathlib.Data.Rat.Floor
import Mathlib.Tactic.Linarith

namespace Aicos.Data

/-! Binary64 numbers as the rationals they are: 53 bits of significand over an exponent of
at least -1074.  Operations round to the nearest, ties to even.  There is no largest
exponent, so what is said here is of results that do not overflow. -/

def Representable (value : ℚ) : Prop :=
  ∃ significand exponent : ℤ, |significand| ≤ 2 ^ 53 ∧ -1074 ≤ exponent ∧ value = significand * 2 ^ exponent

theorem two_zpow_pos (exponent : ℤ) : (0 : ℚ) < 2 ^ exponent := zpow_pos (by norm_num) exponent

theorem two_zpow_le {low high : ℤ} (le : low ≤ high) : (2 : ℚ) ^ low ≤ 2 ^ high :=
  zpow_le_zpow_right₀ (by norm_num) le

section Rounding

/-- The exponent of the last bit of a number of this size. -/
def lastBit (value : ℚ) : ℤ :=
  max (Int.log 2 |value| - 52) (-1074)

def roundEven (value : ℚ) : ℤ :=
  if Int.fract value < 1 / 2 then ⌊value⌋
  else if 1 / 2 < Int.fract value then ⌊value⌋ + 1
  else if 2 ∣ ⌊value⌋ then ⌊value⌋
  else ⌊value⌋ + 1

def nearest (value : ℚ) : ℚ :=
  roundEven (value / 2 ^ lastBit value) * 2 ^ lastBit value

theorem abs_sub_roundEven (value : ℚ) : |value - roundEven value| = min (Int.fract value) (1 - Int.fract value) := by
  have split := Int.floor_add_fract value
  have low := Int.fract_nonneg value
  have high := Int.fract_lt_one value
  have down : |value - (⌊value⌋ : ℚ)| = Int.fract value := by
    rw [show value - (⌊value⌋ : ℚ) = Int.fract value by linarith, abs_of_nonneg low]
  have up : |value - ((⌊value⌋ + 1 : ℤ) : ℚ)| = 1 - Int.fract value := by
    push_cast
    rw [show value - ((⌊value⌋ : ℚ) + 1) = -(1 - Int.fract value) by linarith, abs_neg, abs_of_nonneg (by linarith)]
  unfold roundEven
  split
  · rw [down, min_eq_left (by linarith)]
  · split
    · rw [up, min_eq_right (by linarith)]
    · have half : Int.fract value = 1 - Int.fract value := by linarith
      split
      · rw [down, ← half, min_self]
      · rw [up, ← half, min_self]

theorem abs_sub_roundEven_le (value : ℚ) (other : ℤ) : |value - roundEven value| ≤ |value - other| := by
  rw [abs_sub_roundEven, ← abs_sub_round_eq_min]
  exact round_le value other

/-- Among the multiples of its last bit, a number is rounded to the nearest. -/
theorem abs_sub_nearest_le_multiple (value : ℚ) (other : ℤ) :
    |value - nearest value| ≤ |value - other * 2 ^ lastBit value| := by
  have positive : (0 : ℚ) < 2 ^ lastBit value := two_zpow_pos _
  have scaled (integer : ℤ) : |value - integer * 2 ^ lastBit value| =
      |value / 2 ^ lastBit value - integer| * 2 ^ lastBit value := by
    rw [← abs_of_pos positive, ← abs_mul, sub_mul, abs_of_pos positive, div_mul_cancel₀ _ positive.ne']
  rw [nearest, scaled, scaled]
  exact mul_le_mul_of_nonneg_right (abs_sub_roundEven_le _ other) positive.le

/-- The power of two at or below a number is a multiple of its last bit. -/
theorem abs_sub_nearest_le_power {value : ℚ} (nonzero : value ≠ 0) (normal : lastBit value = Int.log 2 |value| - 52) :
    |value - nearest value| ≤ |value| - 2 ^ Int.log 2 |value| := by
  have below : (2 : ℚ) ^ Int.log 2 |value| ≤ |value| := by
    exact_mod_cast Int.zpow_log_le_self (b := 2) (by norm_num) (abs_pos.mpr nonzero)
  have power : ((2 ^ 52 : ℤ) : ℚ) * 2 ^ lastBit value = 2 ^ Int.log 2 |value| := by
    rw [normal, show ((2 ^ 52 : ℤ) : ℚ) = 2 ^ (52 : ℤ) by norm_num, ← zpow_add₀ (by norm_num)]
    congr 1
    omega
  rcases le_total 0 value with nonneg | nonpos
  · have multiple := abs_sub_nearest_le_multiple value (2 ^ 52)
    rw [abs_of_nonneg nonneg] at below power ⊢
    rwa [power, abs_of_nonneg (sub_nonneg.mpr below)] at multiple
  · have multiple := abs_sub_nearest_le_multiple value (-2 ^ 52)
    rw [abs_of_nonpos nonpos] at below power ⊢
    have reach : value + 2 ^ Int.log 2 (-value) ≤ 0 := by linarith
    rw [Int.cast_neg, neg_mul, power, sub_neg_eq_add, abs_of_nonpos reach] at multiple
    linarith

/-- A representable number is a multiple of the last bit, or too small to be near. -/
theorem abs_sub_nearest_le (value : ℚ) {other : ℚ} (representable : Representable other) :
    |value - nearest value| ≤ |value - other| := by
  obtain ⟨significand, exponent, bounded, least, rfl⟩ := representable
  by_cases coarse : lastBit value ≤ exponent
  · -- the bits below the last one are zero
    have shift : (2 : ℚ) ^ exponent = 2 ^ (exponent - lastBit value).toNat * 2 ^ lastBit value := by
      rw [← zpow_natCast, ← zpow_add₀ (by norm_num)]
      congr 1
      omega
    have multiple := abs_sub_nearest_le_multiple value (significand * 2 ^ (exponent - lastBit value).toNat)
    rw [shift]
    push_cast at multiple
    rwa [mul_assoc] at multiple
  · have normal : lastBit value = Int.log 2 |value| - 52 := by
      unfold lastBit at coarse ⊢
      omega
    have small : |(significand : ℚ) * 2 ^ exponent| ≤ 2 ^ Int.log 2 |value| := by
      have bits : |(significand : ℚ)| ≤ 2 ^ (53 : ℤ) := by
        rw [← Int.cast_abs]
        exact_mod_cast bounded
      have step : (2 : ℚ) ^ (53 : ℤ) * 2 ^ exponent ≤ 2 ^ Int.log 2 |value| := by
        rw [← zpow_add₀ (by norm_num)]
        exact two_zpow_le (by omega)
      rw [abs_mul, abs_of_pos (two_zpow_pos exponent)]
      exact (mul_le_mul_of_nonneg_right bits (two_zpow_pos exponent).le).trans step
    rcases eq_or_ne value 0 with rfl | nonzero
    · have exactly : nearest 0 = 0 := by simp [nearest, roundEven]
      rw [exactly, sub_self, abs_zero]
      exact abs_nonneg _
    · -- the power of two below the number stands between the two
      have closer := abs_sub_nearest_le_power nonzero normal
      have apart : |value| - |(significand : ℚ) * 2 ^ exponent| ≤ |value - significand * 2 ^ exponent| :=
        abs_sub_abs_le_abs_sub _ _
      linarith

theorem roundEven_mem (value : ℚ) : roundEven value = ⌊value⌋ ∨ roundEven value = ⌊value⌋ + 1 := by
  unfold roundEven
  split_ifs <;> simp

/-- What rounding yields fits in the significand. -/
theorem nearest_representable (value : ℚ) : Representable (nearest value) := by
  refine ⟨roundEven (value / 2 ^ lastBit value), lastBit value, ?_, le_max_right _ _, rfl⟩
  have positive : (0 : ℚ) < 2 ^ lastBit value := two_zpow_pos _
  have above : |value| < 2 ^ (53 : ℤ) * 2 ^ lastBit value := by
    have power : |value| < (2 : ℚ) ^ (Int.log 2 |value| + 1) := by
      exact_mod_cast Int.lt_zpow_succ_log_self (b := 2) (by norm_num) |value|
    rw [← zpow_add₀ (by norm_num)]
    refine power.trans_le (two_zpow_le ?_)
    unfold lastBit
    omega
  have bounds : |value / 2 ^ lastBit value| < ((2 ^ 53 : ℤ) : ℚ) := by
    rw [abs_div, abs_of_pos positive, div_lt_iff₀ positive]
    exact_mod_cast above
  have ⟨low, high⟩ := abs_lt.mp bounds
  have least : -2 ^ 53 ≤ ⌊value / 2 ^ lastBit value⌋ := Int.le_floor.mpr (by push_cast at low ⊢; exact low.le)
  have most : ⌊value / 2 ^ lastBit value⌋ < 2 ^ 53 := Int.floor_lt.mpr high
  rw [abs_le]
  rcases roundEven_mem (value / 2 ^ lastBit value) with down | up
  · rw [down]
    exact ⟨least, most.le⟩
  · rw [up]
    exact ⟨by omega, by omega⟩

@[simp] theorem nearest_of_representable {value : ℚ} (representable : Representable value) :
    nearest value = value := by
  have none := abs_sub_nearest_le value representable
  rw [sub_self, abs_zero] at none
  exact (sub_eq_zero.mp (abs_nonpos_iff.mp none)).symm

theorem midpoint_le {value near far : ℚ} (closer : |value - near| ≤ |value - far|) (lt : far < near) :
    far + near ≤ 2 * value := by
  rcases abs_cases (value - near) with ⟨left, _⟩ | ⟨left, _⟩ <;>
    rcases abs_cases (value - far) with ⟨right, _⟩ | ⟨right, _⟩ <;>
    linarith

theorem le_midpoint {value near far : ℚ} (closer : |value - near| ≤ |value - far|) (lt : near < far) :
    2 * value ≤ near + far := by
  rcases abs_cases (value - near) with ⟨left, _⟩ | ⟨left, _⟩ <;>
    rcases abs_cases (value - far) with ⟨right, _⟩ | ⟨right, _⟩ <;>
    linarith

theorem nearest_mono : Monotone nearest := by
  intro low high le
  by_contra! crossed
  -- each is nearer to its own result, so the midpoint of the two separates them the wrong way
  have down := midpoint_le (abs_sub_nearest_le low (nearest_representable high)) crossed
  have up := le_midpoint (abs_sub_nearest_le high (nearest_representable low)) crossed
  have same : low = high := by linarith
  rw [same] at crossed
  exact lt_irrefl _ crossed

end Rounding

section Grid

theorem representable_int {value : ℤ} (bounded : |value| ≤ 2 ^ 53) : Representable value :=
  ⟨value, 0, bounded, by norm_num, by simp⟩

theorem representable_zpow {exponent : ℤ} (least : -1074 ≤ exponent) : Representable (2 ^ exponent) :=
  ⟨1, exponent, by norm_num, least, by simp⟩

/-- Representable numbers are multiples of the least positive one. -/
theorem Representable.multiple {value : ℚ} (representable : Representable value) :
    ∃ count : ℤ, value = count * 2 ^ (-1074 : ℤ) := by
  obtain ⟨significand, exponent, -, least, rfl⟩ := representable
  refine ⟨significand * 2 ^ (exponent + 1074).toNat, ?_⟩
  have shift : (2 : ℚ) ^ exponent = 2 ^ (exponent + 1074).toNat * 2 ^ (-1074 : ℤ) := by
    rw [← zpow_natCast, ← zpow_add₀ (by norm_num)]
    congr 1
    omega
  rw [shift, ← mul_assoc, Int.cast_mul, Int.cast_pow, Int.cast_ofNat]

/-- A difference does not round to zero: it is at least the least positive number. -/
theorem nearest_sub_pos {low high : ℚ} (lowExact : Representable low) (highExact : Representable high)
    (lt : low < high) : 0 < nearest (high - low) := by
  obtain ⟨lowCount, rfl⟩ := lowExact.multiple
  obtain ⟨highCount, rfl⟩ := highExact.multiple
  have unit : (0 : ℚ) < 2 ^ (-1074 : ℤ) := two_zpow_pos _
  have counts : lowCount + 1 ≤ highCount := by
    have := lt_of_mul_lt_mul_right lt unit.le
    exact_mod_cast this
  have apart : (2 : ℚ) ^ (-1074 : ℤ) ≤ highCount * 2 ^ (-1074 : ℤ) - lowCount * 2 ^ (-1074 : ℤ) := by
    rw [← sub_mul]
    refine le_mul_of_one_le_left unit.le ?_
    have : ((lowCount + 1 : ℤ) : ℚ) ≤ highCount := by exact_mod_cast counts
    push_cast at this
    linarith
  have least := nearest_mono apart
  rw [nearest_of_representable (representable_zpow le_rfl)] at least
  exact unit.trans_le least

end Grid

@[ext] structure Double where
  value : ℚ
  exact : Representable value

namespace Double

instance : LinearOrder Double := LinearOrder.lift' Double.value fun _ _ => Double.ext

theorem le_iff {left right : Double} : left ≤ right ↔ left.value ≤ right.value := Iff.rfl

def ofRat (value : ℚ) : Double := ⟨nearest value, nearest_representable value⟩

def ofInt (value : ℤ) : Double := ofRat value

instance : Zero Double := ⟨ofInt 0⟩

instance : One Double := ⟨ofInt 1⟩

def add (left right : Double) : Double := ofRat (left.value + right.value)

def sub (left right : Double) : Double := ofRat (left.value - right.value)

def mul (left right : Double) : Double := ofRat (left.value * right.value)

def div (left right : Double) : Double := ofRat (left.value / right.value)

/-- `Math.round`: halves go up. -/
def round (number : Double) : ℤ := ⌊number.value + 1 / 2⌋

@[simp] theorem ofRat_value (value : ℚ) : (ofRat value).value = nearest value := rfl

theorem ofRat_mono : Monotone ofRat := nearest_mono

theorem ofRat_of_exact (number : Double) : ofRat number.value = number :=
  Double.ext (nearest_of_representable number.exact)

theorem ofInt_mono {low high : ℤ} (le : low ≤ high) : ofInt low ≤ ofInt high :=
  ofRat_mono (Int.cast_le.mpr le)

theorem ofInt_value {value : ℤ} (bounded : |value| ≤ 2 ^ 53) : (ofInt value).value = value :=
  nearest_of_representable (representable_int bounded)

@[simp] theorem zero_value : (0 : Double).value = 0 := (ofInt_value (by norm_num)).trans Int.cast_zero

@[simp] theorem one_value : (1 : Double).value = 1 := (ofInt_value (by norm_num)).trans Int.cast_one

theorem round_mono {low high : Double} (le : low ≤ high) : low.round ≤ high.round :=
  Int.floor_le_floor (by linarith [le_iff.mp le])

theorem round_ofInt {value : ℤ} (bounded : |value| ≤ 2 ^ 53) : (ofInt value).round = value := by
  rw [round, ofInt_value bounded, Int.floor_eq_iff]
  constructor <;> linarith

/-- An integer between two numbers keeps them apart through both roundings. -/
theorem round_ofRat_lt {low high : ℚ} (nonneg : 0 ≤ low) (bounded : low ≤ 2 ^ 52) (apart : low + 2 ≤ high) :
    (ofRat low).round < (ofRat high).round := by
  have least : (0 : ℤ) ≤ ⌈low⌉ := Int.ceil_nonneg nonneg
  have most : ⌈low⌉ ≤ 2 ^ 52 := Int.ceil_le.mpr (by push_cast; exact bounded)
  have above : ((⌈low⌉ + 1 : ℤ) : ℚ) ≤ high := by
    have near := Int.ceil_lt_add_one low
    push_cast
    linarith
  calc (ofRat low).round ≤ (ofInt ⌈low⌉).round := round_mono (ofRat_mono (Int.le_ceil low))
    _ = ⌈low⌉ := round_ofInt (by rw [abs_of_nonneg least]; omega)
    _ < ⌈low⌉ + 1 := lt_add_one _
    _ = (ofInt (⌈low⌉ + 1)).round := (round_ofInt (by rw [abs_of_nonneg (by omega)]; omega)).symm
    _ ≤ (ofRat high).round := round_mono (ofRat_mono above)

/-- The sign of a difference orders its two numbers. -/
theorem sub_nonpos_iff {left right : Double} : left.sub right ≤ 0 ↔ left ≤ right := by
  rw [le_iff, le_iff, zero_value, sub, ofRat_value]
  constructor
  · intro nonpos
    by_contra! lt
    exact absurd (nearest_sub_pos right.exact left.exact lt) nonpos.not_gt
  · intro le
    have rounded := nearest_mono (sub_nonpos.mpr le)
    rwa [← Int.cast_zero, nearest_of_representable (representable_int (by norm_num)), Int.cast_zero] at rounded

/-- A product with a factor of at most one is no greater. -/
theorem mul_le_left {number factor : Double} (nonneg : 0 ≤ number) (le : factor ≤ 1) :
    number.mul factor ≤ number := by
  rw [le_iff, zero_value] at nonneg
  rw [le_iff, one_value] at le
  have product : number.value * factor.value ≤ number.value := mul_le_of_le_one_right nonneg le
  calc number.mul factor ≤ ofRat number.value := ofRat_mono product
    _ = number := ofRat_of_exact number

/-- Sums of integers are exact as long as none can leave the 53 bits. -/
theorem foldl_add_ofInt_value {values : List ℤ} {start : Double} {first bound : ℤ} (exactly : start.value = first)
    (each : ∀ value ∈ values, |value| ≤ bound) (small : |first| + values.length * bound ≤ 2 ^ 53) :
    (values.foldl (fun sum value => sum.add (ofInt value)) start).value = (first + values.sum : ℤ) := by
  induction values generalizing start first with
  | nil => rw [List.foldl_nil, List.sum_nil, add_zero, exactly]
  | cons value rest ih =>
      have size : |value| ≤ bound := each value List.mem_cons_self
      have length : ((value :: rest).length : ℤ) * bound = bound + rest.length * bound := by
        rw [List.length_cons]
        push_cast
        ring
      have nonneg : 0 ≤ (rest.length : ℤ) * bound :=
        mul_nonneg (Int.natCast_nonneg _) ((abs_nonneg value).trans size)
      have grown : |first + value| ≤ |first| + |value| := abs_add_le first value
      have next : (start.add (ofInt value)).value = (first + value : ℤ) := by
        rw [add, exactly, ofInt_value (by linarith [abs_nonneg first]), ← Int.cast_add]
        exact ofInt_value (by linarith)
      rw [List.foldl_cons, ih next (fun other member => each other (List.mem_cons_of_mem _ member)) (by linarith),
        List.sum_cons, add_assoc]

end Double

end Aicos.Data
