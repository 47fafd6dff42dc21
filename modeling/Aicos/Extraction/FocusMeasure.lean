import Aicos.Data.Variance
import Aicos.Extraction.FrameSampler
import Mathlib.Algebra.Ring.Nat
import Mathlib.Order.Interval.Finset.Nat

namespace Aicos.Extraction.FrameSampler

open Aicos.Data

/-! `laplacianVariance` in exact numbers, of gray levels that may be any rationals. -/

/-- `gray[index] ?? 0`. -/
def level (levels : List ℚ) (index : Nat) : ℚ :=
  levels[index]?.getD 0

def exactLaplacian (levels : List ℚ) (w x y : Nat) : ℚ :=
  let i := y * w + x
  4 * level levels i - level levels (i - 1) - level levels (i + 1) - level levels (i - w) - level levels (i + w)

structure Sums where
  sum : ℚ
  sumSq : ℚ
  n : Nat

def Sums.count (sums : Sums) (lap : ℚ) : Sums :=
  { sum := sums.sum + lap, sumSq := sums.sumSq + lap * lap, n := sums.n + 1 }

/-- From 1 to `size - 2`. -/
def inner (size : Nat) : List Nat :=
  (List.range (size - 2)).map (· + 1)

def laplacianSums (levels : List ℚ) (w h : Nat) : Sums :=
  (inner h).foldl
    (fun sums y => (inner w).foldl (fun sums x => sums.count (exactLaplacian levels w x y)) sums)
    { sum := 0, sumSq := 0, n := 0 }

/-- `laplacianVariance` before any rounding. -/
def exactVariance (levels : List ℚ) (w h : Nat) : ℚ :=
  let sums := laplacianSums levels w h
  if sums.n = 0 then 0
  else
    let mean := sums.sum / sums.n
    sums.sumSq / sums.n - mean * mean

/-- The level at a row and a column. -/
def image (levels : List ℚ) (w y x : Nat) : ℚ :=
  level levels (y * w + x)

/-- The five-point Laplacian of an image, by row and column. -/
def fivePoint (image : Nat → Nat → ℚ) (pixel : Nat × Nat) : ℚ :=
  4 * image pixel.1 pixel.2 - image pixel.1 (pixel.2 - 1) - image pixel.1 (pixel.2 + 1) -
    image (pixel.1 - 1) pixel.2 - image (pixel.1 + 1) pixel.2

section Pixels

variable {w h : Nat}

/-- Row and column of every pixel that is not on the border. -/
def interior (w h : Nat) : Finset (Nat × Nat) :=
  Finset.Ico 1 (h - 1) ×ˢ Finset.Ico 1 (w - 1)

theorem mem_interior {pixel : Nat × Nat} :
    pixel ∈ interior w h ↔ (1 ≤ pixel.1 ∧ pixel.1 < h - 1) ∧ 1 ≤ pixel.2 ∧ pixel.2 < w - 1 := by
  rw [interior, Finset.mem_product, Finset.mem_Ico, Finset.mem_Ico]

theorem card_interior (w h : Nat) : (interior w h).card = (w - 2) * (h - 2) := by
  rw [interior, Finset.card_product, Nat.card_Ico, Nat.card_Ico, mul_comm]
  rfl

/-- The pixels in the order in which the loops meet them. -/
def visited (w h : Nat) : List (Nat × Nat) :=
  (inner h).flatMap fun y => (inner w).map fun x => (y, x)

theorem mem_inner {size index : Nat} : index ∈ inner size ↔ index ∈ Finset.Ico 1 (size - 1) := by
  rw [inner, List.mem_map, Finset.mem_Ico]
  constructor
  · intro listed
    obtain ⟨before, range, rfl⟩ := listed
    have bound := List.mem_range.mp range
    omega
  · intro bounds
    exact ⟨index - 1, List.mem_range.mpr (by omega), by omega⟩

theorem nodup_inner (size : Nat) : (inner size).Nodup :=
  List.nodup_range.map (add_left_injective 1)

theorem visited_nodup (w h : Nat) : (visited w h).Nodup :=
  (nodup_inner h).product (nodup_inner w)

theorem visited_toFinset (w h : Nat) : (visited w h).toFinset = interior w h := by
  ext pixel
  rw [List.mem_toFinset, visited, interior, Finset.mem_product, ← mem_inner, ← mem_inner]
  exact List.mem_product

theorem index_lt {x y : Nat} (row : y < h) (col : x < w) : y * w + x < w * h := by
  calc
    y * w + x < y * w + w := Nat.add_lt_add_left col _
    _ = w * (y + 1) := by ring
    _ ≤ w * h := Nat.mul_le_mul_left w row

end Pixels

section Sums

theorem foldl_count {α : Type} (points : List α) (lap : α → ℚ) (start : Sums) :
    points.foldl (fun sums point => sums.count (lap point)) start =
      { sum := start.sum + (points.map lap).sum,
        sumSq := start.sumSq + (points.map fun point => lap point ^ 2).sum,
        n := start.n + points.length } := by
  induction points generalizing start with
  | nil => simp
  | cons point rest ih =>
      rw [List.foldl_cons, ih]
      simp only [Sums.count, List.map_cons, List.sum_cons, List.length_cons, Sums.mk.injEq]
      exact ⟨by ring, by ring, by ring⟩

theorem laplacianSums_eq_foldl (levels : List ℚ) (w h : Nat) :
    laplacianSums levels w h = (visited w h).foldl
      (fun sums pixel => sums.count (exactLaplacian levels w pixel.2 pixel.1)) { sum := 0, sumSq := 0, n := 0 } := by
  simp only [laplacianSums, visited, List.foldl_flatMap, List.foldl_map]

theorem laplacianSums_eq (levels : List ℚ) (w h : Nat) :
    laplacianSums levels w h =
      { sum := ∑ pixel ∈ interior w h, exactLaplacian levels w pixel.2 pixel.1,
        sumSq := ∑ pixel ∈ interior w h, exactLaplacian levels w pixel.2 pixel.1 ^ 2,
        n := (interior w h).card } := by
  rw [laplacianSums_eq_foldl, foldl_count, ← List.sum_toFinset _ (visited_nodup w h),
    ← List.sum_toFinset _ (visited_nodup w h), ← List.toFinset_card_of_nodup (visited_nodup w h), visited_toFinset, zero_add, zero_add, Nat.zero_add]

theorem exactLaplacian_eq_fivePoint (levels : List ℚ) {w h : Nat} {pixel : Nat × Nat}
    (member : pixel ∈ interior w h) :
    exactLaplacian levels w pixel.2 pixel.1 = fivePoint (image levels w) pixel := by
  obtain ⟨row, col⟩ := mem_interior.mp member
  have left : pixel.1 * w + pixel.2 - 1 = pixel.1 * w + (pixel.2 - 1) := Nat.add_sub_assoc col.1 _
  have above : pixel.1 * w + pixel.2 - w = (pixel.1 - 1) * w + pixel.2 := by
    rw [Nat.sub_mul, Nat.one_mul, Nat.sub_add_comm (Nat.le_mul_of_pos_left w row.1)]
  have below : pixel.1 * w + pixel.2 + w = (pixel.1 + 1) * w + pixel.2 := by ring
  simp only [exactLaplacian, fivePoint, image, left, above, below]
  rfl

theorem exactVariance_eq_variance (levels : List ℚ) (w h : Nat) :
    exactVariance levels w h = variance (interior w h) (fivePoint (image levels w)) := by
  have loops : exactVariance levels w h =
      variance (interior w h) fun pixel => exactLaplacian levels w pixel.2 pixel.1 := by
    rw [← mean_sq_sub_sq_mean, Finset.expect_eq_sum_div_card, Finset.expect_eq_sum_div_card]
    simp only [exactVariance, laplacianSums_eq]
    split
    · rename_i empty
      simp [empty]
    · rw [← sq]
  rw [loops]
  exact variance_congr fun pixel member => exactLaplacian_eq_fivePoint levels member

end Sums

section Contrast

variable {w h : Nat} {levels : List ℚ}

theorem image_map (whole : levels.length = w * h) (change : ℚ → ℚ) {y x : Nat} (row : y < h) (col : x < w) :
    image (levels.map change) w y x = change (image levels w y x) := by
  have inside : y * w + x < levels.length := whole ▸ index_lt row col
  simp only [image, level, List.getElem?_map, List.getElem?_eq_getElem inside, Option.map_some, Option.getD_some]

theorem fivePoint_map (whole : levels.length = w * h) (change : ℚ → ℚ) {pixel : Nat × Nat}
    (member : pixel ∈ interior w h) :
    fivePoint (image (levels.map change) w) pixel = fivePoint (fun y x => change (image levels w y x)) pixel := by
  obtain ⟨row, col⟩ := mem_interior.mp member
  unfold fivePoint
  rw [image_map whole change (by omega) (by omega), image_map whole change (by omega) (by omega),
    image_map whole change (by omega) (by omega), image_map whole change (by omega) (by omega),
    image_map whole change (by omega) (by omega)]

theorem exactVariance_map_add (whole : levels.length = w * h) (shift : ℚ) :
    exactVariance (levels.map (· + shift)) w h = exactVariance levels w h := by
  rw [exactVariance_eq_variance, exactVariance_eq_variance]
  refine variance_congr fun pixel member => ?_
  rw [fivePoint_map whole _ member, fivePoint, fivePoint]
  ring

theorem exactVariance_map_mul (whole : levels.length = w * h) (factor : ℚ) :
    exactVariance (levels.map (factor * ·)) w h = factor * factor * exactVariance levels w h := by
  rw [exactVariance_eq_variance, exactVariance_eq_variance, ← variance_const_mul]
  refine variance_congr fun pixel member => ?_
  rw [fivePoint_map whole _ member, fivePoint, fivePoint]
  ring

end Contrast

section Doubles

def grayLevels (gray : Buffer) : List ℚ :=
  gray.map fun byte => (byte.toNat : ℚ)

theorem level_grayLevels (gray : Buffer) (index : Nat) : level (grayLevels gray) index = pixel gray index := by
  rw [level, pixel, grayLevels, List.getElem?_map]
  cases gray[index]? with
  | none => exact Nat.cast_zero.symm
  | some byte => rfl

theorem exactLaplacian_grayLevels (gray : Buffer) (w x y : Nat) :
    exactLaplacian (grayLevels gray) w x y = laplacian gray w x y := by
  simp only [exactLaplacian, laplacian, level_grayLevels]
  push_cast
  rfl

theorem pixel_le (gray : Buffer) (index : Nat) : pixel gray index ≤ 255 := by
  rw [pixel]
  cases gray[index]? with
  | none => exact Nat.zero_le 255
  | some byte => exact Nat.le_of_lt_succ byte.toNat_lt

theorem abs_laplacian_le (gray : Buffer) (w x y : Nat) : |laplacian gray w x y| ≤ 1020 := by
  have each := pixel_le gray
  have here := each (y * w + x)
  have left := each (y * w + x - 1)
  have right := each (y * w + x + 1)
  have above := each (y * w + x - w)
  have below := each (y * w + x + w)
  rw [laplacian, abs_le]
  constructor <;> omega

def laplacians (gray : Buffer) (w h : Nat) : List Int :=
  (inner h).flatMap fun y => (inner w).map fun x => laplacian gray w x y

variable {gray : Buffer} {w h : Nat}

theorem laplacians_eq_map (gray : Buffer) (w h : Nat) :
    laplacians gray w h = (visited w h).map fun pixel => laplacian gray w pixel.2 pixel.1 := by
  simp only [laplacians, visited, List.map_flatMap, List.map_map, Function.comp_def]

theorem length_laplacians (gray : Buffer) (w h : Nat) : (laplacians gray w h).length = (w - 2) * (h - 2) := by
  rw [laplacians_eq_map, List.length_map, ← List.toFinset_card_of_nodup (visited_nodup w h), visited_toFinset,
    card_interior]

theorem abs_le_of_mem_laplacians {lap : Int} (member : lap ∈ laplacians gray w h) : |lap| ≤ 1020 := by
  rw [laplacians_eq_map] at member
  obtain ⟨pixel, _, rfl⟩ := List.mem_map.mp member
  exact abs_laplacian_le gray w pixel.2 pixel.1

theorem abs_le_of_mem_squares {square : Int} (member : square ∈ (laplacians gray w h).map fun lap => lap * lap) :
    |square| ≤ 1040400 := by
  obtain ⟨lap, listed, rfl⟩ := List.mem_map.mp member
  have size := abs_le_of_mem_laplacians listed
  have product := mul_le_mul size size (abs_nonneg lap) (by norm_num)
  rw [abs_mul]
  linarith

theorem laplacianSums_grayLevels (gray : Buffer) (w h : Nat) :
    laplacianSums (grayLevels gray) w h =
      { sum := ((laplacians gray w h).sum : Int),
        sumSq := (((laplacians gray w h).map fun lap => lap * lap).sum : Int),
        n := (laplacians gray w h).length } := by
  rw [laplacianSums_eq_foldl, foldl_count, Int.cast_list_sum, Int.cast_list_sum]
  simp only [laplacians_eq_map, List.map_map, List.length_map, Function.comp_def, exactLaplacian_grayLevels, zero_add,
    Int.cast_mul, sq]

/-- Up to eight thousand million pixels, only the two quotients, the square and the difference
are rounded. -/
theorem laplacianVariance_eq_rounded (some : 0 < (w - 2) * (h - 2)) (small : (w - 2) * (h - 2) * 1040400 ≤ 2 ^ 53) :
    laplacianVariance gray w h =
      let sums := laplacianSums (grayLevels gray) w h
      let mean := Double.ofRat (sums.sum / sums.n)
      (Double.ofRat (sums.sumSq / sums.n)).sub (mean.mul mean) := by
  have zero : (0 : Double).value = (0 : Int) := Double.zero_value.trans Int.cast_zero.symm
  have counted : ((laplacians gray w h).length : Int) * 1040400 ≤ 2 ^ 53 := by
    rw [length_laplacians]
    exact_mod_cast small
  have nonneg := Int.natCast_nonneg (laplacians gray w h).length
  have sum : ((laplacians gray w h).foldl (fun (sum : Double) lap => sum.add (Double.ofInt lap)) 0).value =
      ((laplacians gray w h).sum : Int) := by
    rw [Double.foldl_add_ofInt_value zero (fun _ => abs_le_of_mem_laplacians) (by rw [abs_zero]; linarith), zero_add]
  have sumSq : ((laplacians gray w h).foldl
      (fun (sumSq : Double) lap => sumSq.add (Double.ofInt (lap * lap))) 0).value =
      (((laplacians gray w h).map fun lap => lap * lap).sum : Int) := by
    have each : ∀ square ∈ (laplacians gray w h).map fun lap => lap * lap, |square| ≤ 1040400 :=
      fun _ => abs_le_of_mem_squares
    have squares := Double.foldl_add_ofInt_value zero each (by rw [abs_zero, List.length_map]; linarith)
    rwa [zero_add, List.foldl_map] at squares
  have n : (Double.ofInt (laplacians gray w h).length).value = (laplacians gray w h).length :=
    Double.ofInt_value (by rw [abs_of_nonneg nonneg]; linarith)
  have nonempty : (laplacians gray w h).length ≠ 0 := by
    rw [length_laplacians]
    exact some.ne'
  have unfolded : laplacianVariance gray w h =
      let laps := laplacians gray w h
      let sum := laps.foldl (fun sum lap => sum.add (Double.ofInt lap)) (0 : Double)
      let sumSq := laps.foldl (fun sumSq lap => sumSq.add (Double.ofInt (lap * lap))) (0 : Double)
      let n := Double.ofInt laps.length
      if laps.length = 0 then 0
      else
        let mean := sum.div n
        (sumSq.div n).sub (mean.mul mean) := rfl
  rw [unfolded]
  simp only [if_neg nonempty, laplacianSums_grayLevels, Double.div, sum, sumSq, n]
end Doubles

end Aicos.Extraction.FrameSampler
