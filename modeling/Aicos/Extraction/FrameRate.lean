import Aicos.Extraction.FrameSampler

namespace Aicos.Extraction.FrameSampler

open Aicos.Data

/-! The rate at which frames are asked of ffmpeg, in exact numbers. -/

/-- The most frames that each output may have. -/
def frameLimit (maxFrames : Int) : Int :=
  max 1 maxFrames

/-- `computeFps` before any rounding. -/
def exactFps (durationSec : Option ℚ) (maxFrames : Int) : ℚ :=
  match durationSec with
  | none => 1
  | some durationSec =>
      if durationSec ≤ 0 ∨ maxFrames ≤ 0 then 1
      else min 30 (max (1 / 20) (maxFrames / durationSec))

/-- The stretch of the clip that the frames sample, a frame every `1 / fps` seconds. -/
def span (durationSec : Option ℚ) (maxFrames : Int) : ℚ :=
  frameLimit maxFrames / exactFps durationSec maxFrames

theorem ofRat_max (left right : ℚ) : Double.ofRat (max left right) = max (Double.ofRat left) (Double.ofRat right) :=
  Double.ofRat_mono.map_max

theorem ofRat_min (left right : ℚ) : Double.ofRat (min left right) = min (Double.ofRat left) (Double.ofRat right) :=
  Double.ofRat_mono.map_min

/-- The rate is the exact one, rounded once. -/
theorem computeFps_eq_exactFps (durationSec : Option Double) {maxFrames : Int} (bounded : |maxFrames| ≤ 2 ^ 53) :
    computeFps durationSec maxFrames = Double.ofRat (exactFps (durationSec.map (·.value)) maxFrames) := by
  have default : defaultFps = Double.ofRat 1 := congrArg Double.ofRat Int.cast_one
  cases durationSec with
  | none => exact default
  | some durationSec =>
      have zero : durationSec ≤ 0 ↔ durationSec.value ≤ 0 := by rw [Double.le_iff, Double.zero_value]
      simp only [computeFps, Option.map_some, exactFps, zero]
      split
      · exact default
      · have thirty : maxFps = Double.ofRat 30 := congrArg Double.ofRat (by norm_num)
        rw [ofRat_min, ofRat_max, Double.div, Double.ofInt_value bounded, thirty, minFps]

section Span

variable {duration : ℚ} {maxFrames : Int}

theorem exactFps_of_pos (positive : 0 < duration) (asked : 1 ≤ maxFrames) :
    exactFps (some duration) maxFrames = min 30 (max (1 / 20) (maxFrames / duration)) :=
  if_neg fun least => least.elim positive.not_ge (by omega)

theorem exactFps_pos (positive : 0 < duration) (asked : 1 ≤ maxFrames) : 0 < exactFps (some duration) maxFrames := by
  rw [exactFps_of_pos positive asked]
  exact lt_min (by norm_num) (lt_max_of_lt_left (by norm_num))

theorem frameLimit_of_pos (asked : 1 ≤ maxFrames) : frameLimit maxFrames = maxFrames := max_eq_right asked

/-- Where a frame every twenty seconds is enough, the rate is at most the even one. -/
theorem exactFps_le (positive : 0 < duration) (asked : 1 ≤ maxFrames) (short : duration ≤ 20 * maxFrames) :
    exactFps (some duration) maxFrames ≤ maxFrames / duration := by
  have even : (1 / 20 : ℚ) ≤ maxFrames / duration := by
    rw [le_div_iff₀ positive]
    linarith
  rw [exactFps_of_pos positive asked, max_eq_right even]
  exact min_le_right _ _

theorem exactFps_of_long (positive : 0 < duration) (asked : 1 ≤ maxFrames) (long : 20 * maxFrames < duration) :
    exactFps (some duration) maxFrames = 1 / 20 := by
  have slow : (maxFrames : ℚ) / duration ≤ 1 / 20 := by
    rw [div_le_iff₀ positive]
    linarith
  rw [exactFps_of_pos positive asked, max_eq_left slow]
  exact min_eq_right (by norm_num)

theorem le_span (positive : 0 < duration) (asked : 1 ≤ maxFrames) (short : duration ≤ 20 * maxFrames) :
    duration ≤ span (some duration) maxFrames := by
  have rate := exactFps_le positive asked short
  rw [le_div_iff₀ positive] at rate
  rw [span, frameLimit_of_pos asked, le_div_iff₀ (exactFps_pos positive asked)]
  linarith

theorem span_of_long (positive : 0 < duration) (asked : 1 ≤ maxFrames) (long : 20 * maxFrames < duration) :
    span (some duration) maxFrames = 20 * maxFrames := by
  rw [span, frameLimit_of_pos asked, exactFps_of_long positive asked long]
  ring

end Span

end Aicos.Extraction.FrameSampler
