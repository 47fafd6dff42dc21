import Aicos.Data.Greedy
import Aicos.Data.Number
import Aicos.Extraction.FrameSampler

namespace Aicos.Extraction.SemanticDeduper

open Aicos.Data

/-! `semanticDedupeIndices` and `SemanticDeduperService`.  The similarity of two vectors is
any number, NaN included. -/

abbrev Vector := List Number

/-- `vectors[i] ?? []`. -/
def vectorAt (vectors : List (Option Vector)) (i : Nat) : Vector :=
  (vectors[i]?.join).getD []

section Indices

variable (cosineSimilarity : Vector → Vector → Number)

def semanticDedupeIndices (vectors : List (Option Vector)) (threshold : Number) : List Nat :=
  (List.range vectors.length).foldl
    (fun kept i =>
      let v := vectorAt vectors i
      if kept.all fun k => (cosineSimilarity (vectorAt vectors k) v).lt threshold then kept ++ [i] else kept)
    []

/-- No similarity that reaches the threshold, and none that is NaN. -/
def unlike (threshold : Number) (left right : Option Vector) : Bool :=
  (cosineSimilarity (left.getD []) (right.getD [])).lt threshold

theorem vectorAt_eq (vectors : List (Option Vector)) (i : Fin vectors.length) :
    vectorAt vectors i = (vectors.get i).getD [] := by
  rw [vectorAt, List.getElem?_eq_getElem i.isLt]
  rfl

/-- The indices that are kept are those that a greedy pass keeps. -/
theorem semanticDedupeIndices_eq_greedy (vectors : List (Option Vector)) (threshold : Number) :
    semanticDedupeIndices cosineSimilarity vectors threshold =
      (greedy (fun k i => unlike cosineSimilarity threshold (vectors.get k) (vectors.get i))
        (List.finRange vectors.length)).map Fin.val := by
  have same : (fun k i : Fin vectors.length => unlike cosineSimilarity threshold (vectors.get k) (vectors.get i)) =
      fun k i : Fin vectors.length => (cosineSimilarity (vectorAt vectors k) (vectorAt vectors i)).lt threshold := by
    funext k i
    rw [unlike, vectorAt_eq, vectorAt_eq]
  have mapped := greedy_map (fun k i => (cosineSimilarity (vectorAt vectors k) (vectorAt vectors i)).lt threshold)
    Fin.val (List.finRange vectors.length)
  rw [List.map_coe_finRange_eq_range] at mapped
  rw [same, ← mapped]
  rfl

/-- Vectors that are unlike one another are all kept. -/
theorem semanticDedupeIndices_of_pairwise {vectors : List (Option Vector)} {threshold : Number}
    (distinct : vectors.Pairwise fun left right => unlike cosineSimilarity threshold left right = true) :
    semanticDedupeIndices cosineSimilarity vectors threshold = List.range vectors.length := by
  have positions : (List.finRange vectors.length).Pairwise fun k i =>
      unlike cosineSimilarity threshold (vectors.get k) (vectors.get i) = true := by
    rw [← List.pairwise_map (R := fun left right => unlike cosineSimilarity threshold left right = true),
      List.map_get_finRange]
    exact distinct
  rw [semanticDedupeIndices_eq_greedy, greedy_of_pairwise _ positions, List.map_coe_finRange_eq_range]

end Indices

/-- An endpoint that embeds images, or fails with a message.  A vector it sends may be null. -/
structure ImageEmbedder where
  enabled : Bool
  embed : List FrameSampler.AiImage → Except String (List (Option Vector))

section Service

variable {α : Type} (cosineSimilarity : Vector → Vector → Number) (embedder : ImageEmbedder) (threshold : Number)
  (image : α → FrameSampler.AiImage)

/-- `frames.filter((_, i) => keep.has(i))`. -/
def framesAt (keep : List Nat) (frames : List α) : List α :=
  (frames.zipIdx.filter fun pair => pair.2 ∈ keep).map (·.1)

/-- `SemanticDeduperService.dedupe` of frames with their images. -/
def dedupe (frames : List α) : List α :=
  if ¬ embedder.enabled ∨ frames.length < 2 then frames
  else
    match embedder.embed (frames.map image) with
    | .error _ => frames
    | .ok vectors =>
        if vectors.length ≠ frames.length then frames
        else
          let keep := semanticDedupeIndices cosineSimilarity vectors threshold
          let out := framesAt keep frames
          if 0 < out.length ∧ out.length < frames.length then out else frames

/-- The indices that `dedupe` filters by, where it comes that far. -/
def keptIndices (frames : List α) : Option (List Nat) :=
  if ¬ embedder.enabled ∨ frames.length < 2 then none
  else
    match embedder.embed (frames.map image) with
    | .error _ => none
    | .ok vectors =>
        if vectors.length ≠ frames.length then none
        else some (semanticDedupeIndices cosineSimilarity vectors threshold)

theorem framesAt_sublist (keep : List Nat) (frames : List α) : (framesAt keep frames).Sublist frames := by
  have kept := (List.filter_sublist (p := fun pair : α × Nat => decide (pair.2 ∈ keep)) (l := frames.zipIdx)).map (·.1)
  rwa [List.zipIdx_map_fst] at kept

/-- However far it comes, it filters by some indices or not at all. -/
theorem dedupe_cases (frames : List α) :
    dedupe cosineSimilarity embedder threshold image frames = frames ∨
      ∃ keep, dedupe cosineSimilarity embedder threshold image frames = framesAt keep frames ∧
        0 < (framesAt keep frames).length := by
  unfold dedupe
  split
  · exact .inl rfl
  · split
    · exact .inl rfl
    · rename_i vectors _
      split
      · exact .inl rfl
      · dsimp only
        split
        · rename_i shrunk
          exact .inr ⟨semanticDedupeIndices cosineSimilarity vectors threshold, rfl, shrunk.1⟩
        · exact .inl rfl

theorem dedupe_sublist (frames : List α) :
    (dedupe cosineSimilarity embedder threshold image frames).Sublist frames := by
  rcases dedupe_cases cosineSimilarity embedder threshold image frames with same | ⟨keep, filtered, -⟩
  · rw [same]
  · rw [filtered]
    exact framesAt_sublist keep frames

theorem dedupe_ne_nil {frames : List α} (some : frames ≠ []) :
    dedupe cosineSimilarity embedder threshold image frames ≠ [] := by
  rcases dedupe_cases cosineSimilarity embedder threshold image frames with same | ⟨keep, filtered, positive⟩
  · rwa [same]
  · rw [filtered]
    exact List.ne_nil_of_length_pos positive

/-- The run of a job takes this service for its deduper. -/
theorem dedupe_eq (image : SampledFrame → FrameSampler.AiImage) (frames : List SampledFrame) :
    dedupe cosineSimilarity embedder threshold image frames =
      Extraction.dedupe (keptIndices cosineSimilarity embedder threshold image frames) frames := by
  unfold dedupe keptIndices
  split
  · rfl
  · split
    · rfl
    · split
      · rfl
      · rfl

end Service

end Aicos.Extraction.SemanticDeduper
