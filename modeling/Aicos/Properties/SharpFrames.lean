import Aicos.Extraction.FrameSampler

namespace Aicos.Properties

open Aicos.Data Aicos.Extraction.FrameSampler

/-! What blur pruning keeps of a clip, on each of its three ways out. -/

variable {blurScores : List Double} {relThreshold : Double} {minKeep : Int}

/-- Kept frames in temporal order, as many as are owed, and no sharper one dropped. -/
structure KeepsSharpest (blurScores : List Double) (minKeep : Int) (kept : List Nat) : Prop where
  ascending : kept.Pairwise (· < ·)
  valid : ∀ i ∈ kept, i < blurScores.length
  enough : max (min minKeep blurScores.length) (((blurScores.length + 1) / 2 : Nat) : Int) ≤ kept.length
  sharper : ∀ i ∈ kept, ∀ j < blurScores.length, scoreAt blurScores i < scoreAt blurScores j → j ∈ kept

theorem keepsSharpest_all (few : blurScores.length ≤ minKeep) :
    KeepsSharpest blurScores minKeep (List.range blurScores.length) where
  ascending := List.pairwise_lt_range
  valid := fun _ member => List.mem_range.mp member
  enough := by
    rw [List.length_range]
    omega
  sharper := fun _ _ _ inside _ => List.mem_range.mpr inside

/-- The floor is no higher than the upper median, which half of the frames reach. -/
theorem half_le_length_sharp (nonneg : ∀ score ∈ blurScores, 0 ≤ score) (threshold : relThreshold ≤ 1) :
    (blurScores.length + 1) / 2 ≤ ((List.range blurScores.length).filter fun i =>
      (median blurScores).mul relThreshold ≤ scoreAt blurScores i).length := by
  have lower : (median blurScores).mul relThreshold ≤ median blurScores :=
    Double.mul_le_left (median_nonneg nonneg) threshold
  have counted := length_filter_scoreAt (fun score => (median blurScores).mul relThreshold ≤ score) blurScores
  rw [counted]
  refine (half_le_countP_median blurScores).trans (List.countP_mono_left fun score _ reached => ?_)
  exact decide_eq_true (lower.trans (of_decide_eq_true reached))

theorem keepsSharpest_filter {floor : Double}
    (enough : minKeep ≤ ((List.range blurScores.length).filter fun i => floor ≤ scoreAt blurScores i).length)
    (half : (blurScores.length + 1) / 2 ≤
      ((List.range blurScores.length).filter fun i => floor ≤ scoreAt blurScores i).length) :
    KeepsSharpest blurScores minKeep
      ((List.range blurScores.length).filter fun i => floor ≤ scoreAt blurScores i) where
  ascending := List.pairwise_lt_range.filter _
  valid := fun _ member => List.mem_range.mp (List.mem_filter.mp member).1
  enough := by omega
  sharper := by
    intro i member j inside sharper
    have passes := of_decide_eq_true (List.mem_filter.mp member).2
    exact List.mem_filter.mpr ⟨List.mem_range.mpr inside, decide_eq_true (passes.trans sharper.le)⟩

/-- The fallback is reached only when fewer than `minKeep` frames pass. -/
theorem keepsSharpest_fallback (many : ¬ blurScores.length ≤ minKeep)
    (half : (((blurScores.length + 1) / 2 : Nat) : Int) < minKeep) :
    KeepsSharpest blurScores minKeep (temporalOrder (sliceTo minKeep (sharpestFirst blurScores))) := by
  have ranked := sharpestFirst_perm blurScores
  have sliced := temporalOrder_perm (sliceTo minKeep (sharpestFirst blurScores))
  have distinct := sliced.nodup_iff.mpr ((ranked.nodup_iff.mpr List.nodup_range).sublist (sliceTo_sublist _ _))
  have sorted := temporalOrder_sorted (sliceTo minKeep (sharpestFirst blurScores))
  constructor
  · exact (sorted.and distinct).imp fun both => lt_of_le_of_ne both.1 both.2
  · exact fun _ => lt_of_mem_sharpest
  · have size := ranked.length_eq
    rw [List.length_range] at size
    rw [sliced.length_eq, sliceTo_length (by omega) (by omega)]
    omega
  · intro i kept j inside sharper
    rw [sliced.mem_iff] at kept ⊢
    by_contra dropped
    have listed : j ∈ sharpestFirst blurScores := ranked.mem_iff.mpr (List.mem_range.mpr inside)
    exact absurd sharper (rel_of_mem_sliceTo (sharpestFirst_sorted blurScores) kept listed dropped).not_gt

/-- Pruning by sharpness keeps enough of a clip, in order, and never a blurrier frame over a sharper one. -/
theorem sharpFrameIndices_keepsSharpest (blurScores : List Double) (relThreshold : Double) (minKeep : Int)
    (nonneg : ∀ score ∈ blurScores, 0 ≤ score) (threshold : 0 ≤ relThreshold ∧ relThreshold ≤ 1) :
    KeepsSharpest blurScores minKeep (sharpFrameIndices blurScores relThreshold minKeep) := by
  have half := half_le_length_sharp nonneg threshold.2
  dsimp only [sharpFrameIndices]
  split
  · exact keepsSharpest_all ‹_›
  · split
    · exact keepsSharpest_filter ‹_› half
    · exact keepsSharpest_fallback ‹_› (by omega)

/-- A clip with one blurry frame. -/
def clipScores : List Double := [100, 1, 110, 105, 98].map Double.ofInt

theorem keepsSharpest_of_clip : KeepsSharpest clipScores 2 (sharpFrameIndices clipScores blurRel 2) := by
  refine sharpFrameIndices_keepsSharpest clipScores blurRel 2 ?_ blurRel_mem
  have nonneg : ∀ value ∈ [100, 1, 110, 105, 98], (0 : Int) ≤ value := by decide
  intro score member
  obtain ⟨value, listed, rfl⟩ := List.mem_map.mp member
  exact Double.ofInt_mono (nonneg value listed)

end Aicos.Properties
