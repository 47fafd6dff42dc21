import Aicos.Extraction.FocusMeasure

namespace Aicos.Properties

open Aicos.Extraction.FrameSampler

/-! What the focus measure of a frame is, before any rounding. -/

/-- The loops read inside the buffer, at every pixel that is not on the border, and their sums give
the variance of the Laplacian there, which sees contrast only. -/
theorem exact_variance_measures_contrast {levels : List ℚ} {w h : Nat} (whole : levels.length = w * h) :
    (interior w h).card = (w - 2) * (h - 2) ∧
    (∀ pixel ∈ interior w h,
      let i := pixel.1 * w + pixel.2
      w ≤ i ∧ ∀ index ∈ [i, i - 1, i + 1, i - w, i + w], index < levels.length) ∧
    exactVariance levels w h = Data.variance (interior w h) (fivePoint (image levels w)) ∧
    0 ≤ exactVariance levels w h ∧
    (exactVariance levels w h = 0 ↔
      ∀ pixel ∈ interior w h, ∀ other ∈ interior w h,
        fivePoint (image levels w) pixel = fivePoint (image levels w) other) ∧
    (∀ shift, exactVariance (levels.map (· + shift)) w h = exactVariance levels w h) ∧
    ∀ k, exactVariance (levels.map (k * ·)) w h = k * k * exactVariance levels w h := by
  refine ⟨card_interior w h, ?_, exactVariance_eq_variance levels w h, ?_, ?_, exactVariance_map_add whole,
    exactVariance_map_mul whole⟩
  · intro pixel member i
    obtain ⟨row, col⟩ := mem_interior.mp member
    have below : (pixel.1 + 1) * w + pixel.2 < levels.length := whole ▸ index_lt (by omega) (by omega)
    have next : (pixel.1 + 1) * w = pixel.1 * w + w := Nat.succ_mul _ _
    refine ⟨Nat.le_add_right_of_le (Nat.le_mul_of_pos_left w row.1), fun index listed => ?_⟩
    have most : index ≤ i + w := by
      simp only [List.mem_cons, List.not_mem_nil, or_false] at listed
      omega
    omega
  · rw [exactVariance_eq_variance]
    exact Data.variance_nonneg _ _
  · rw [exactVariance_eq_variance]
    exact Data.variance_eq_zero_iff

/-- Black to the left, white to the right. -/
theorem edge_has_contrast : exactVariance [0, 0, 255, 255, 0, 0, 255, 255, 0, 0, 255, 255] 4 3 ≠ 0 := by
  have whole : [0, 0, 255, 255, 0, 0, 255, 255, 0, 0, 255, (255 : ℚ)].length = 4 * 3 := rfl
  obtain ⟨_, _, _, _, flat, _⟩ := exact_variance_measures_contrast whole
  intro none
  have same := flat.mp none (1, 1) (by decide) (1, 2) (by decide)
  norm_num [fivePoint, image, level] at same

end Aicos.Properties
