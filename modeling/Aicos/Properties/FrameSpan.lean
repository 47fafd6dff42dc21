import Aicos.Extraction.FrameRate

namespace Aicos.Properties

open Aicos.Extraction.FrameSampler

/-! How much of a clip its frames span. -/

/-- The frames span what of the clip a frame every twenty seconds can reach, and so all of it exactly when
that is enough. -/
theorem span_covers_iff (duration : ℚ) (maxFrames : Int) (positive : 0 < duration) (asked : 1 ≤ maxFrames) :
    min duration (20 * maxFrames) ≤ span (some duration) maxFrames ∧
      (duration ≤ span (some duration) maxFrames ↔ duration ≤ 20 * maxFrames) := by
  rcases le_or_gt duration (20 * maxFrames) with short | long
  · have covered := le_span positive asked short
    exact ⟨(min_le_left _ _).trans covered, fun _ => short, fun _ => covered⟩
  · rw [span_of_long positive asked long]
    exact ⟨min_le_right _ _, Iff.rfl⟩

theorem span_covers_of_short :
    min (60 : ℚ) (20 * (6 : Int)) ≤ span (some 60) 6 ∧
      (60 ≤ span (some 60) 6 ↔ (60 : ℚ) ≤ 20 * (6 : Int)) :=
  span_covers_iff 60 6 (by norm_num) (by norm_num)

/-- Six frames of a clip of ten thousand seconds span its first two minutes. -/
theorem span_misses_end :
    ¬ ∀ (duration : ℚ) (maxFrames : Int), 0 < duration → 1 ≤ maxFrames → duration ≤ span (some duration) maxFrames := by
  intro covers
  have covered := covers 10000 6 (by norm_num) (by norm_num)
  rw [span_of_long (by norm_num) (by norm_num) (by norm_num)] at covered
  norm_num at covered

end Aicos.Properties
