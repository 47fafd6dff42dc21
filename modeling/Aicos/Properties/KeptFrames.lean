import Aicos.Extraction.SemanticDeduper

namespace Aicos.Properties

open Aicos.Data Aicos.Extraction

/-! Both passes over the frames keep a greedy selection, and the deduper never loses all of
them. -/

section Hashes

open FrameSampler

variable {α : Type} (hash : α → Nat) (threshold : Number) (frames : List α)

/-- The frames at the positions of a selection are kept, and keeping them again changes nothing. -/
def SelectsByHash : Prop :=
  (∃ kept : List (Fin frames.length),
    Selection (fun i j => differ hash threshold (frames.get i) (frames.get j)) kept ∧
      dedupeByHash hash threshold frames = kept.map frames.get) ∧
  dedupeByHash hash threshold (dedupeByHash hash threshold frames) = dedupeByHash hash threshold frames

theorem selectsByHash : SelectsByHash hash threshold frames := by
  constructor
  · exact ⟨_, selection_greedy _, greedy_eq_map_get (differ hash threshold) frames⟩
  · rw [dedupeByHash_eq_greedy, dedupeByHash_eq_greedy]
    exact greedy_greedy _ frames

end Hashes

section Vectors

open SemanticDeduper

variable (cosineSimilarity : Vector → Vector → Number) (vectors : List (Option Vector)) (threshold : Number)

/-- The indices are those of a selection, and all of the vectors at them are kept again. -/
def SelectsByVector : Prop :=
  ∃ kept : List (Fin vectors.length),
    Selection (fun i j => unlike cosineSimilarity threshold (vectors.get i) (vectors.get j)) kept ∧
    semanticDedupeIndices cosineSimilarity vectors threshold = kept.map Fin.val ∧
    semanticDedupeIndices cosineSimilarity (kept.map vectors.get) threshold = List.range kept.length

theorem selectsByVector : SelectsByVector cosineSimilarity vectors threshold := by
  have selection := selection_greedy fun i j : Fin vectors.length =>
    unlike cosineSimilarity threshold (vectors.get i) (vectors.get j)
  refine ⟨_, selection, semanticDedupeIndices_eq_greedy cosineSimilarity vectors threshold, ?_⟩
  rw [semanticDedupeIndices_of_pairwise cosineSimilarity (List.pairwise_map.mpr selection.pairwise), List.length_map]

end Vectors

/-- Of equal or like frames the first is kept, by hash as by vector, and some frame always is. -/
theorem dedupe_keeps_selection :
    (∀ (α : Type) (hash : α → Nat) (threshold : Number) (frames : List α), SelectsByHash hash threshold frames) ∧
    (∀ cosineSimilarity vectors threshold, SelectsByVector cosineSimilarity vectors threshold) ∧
    (∀ (α : Type) cosineSimilarity embedder threshold (image : α → FrameSampler.AiImage) (frames : List α),
      (SemanticDeduper.dedupe cosineSimilarity embedder threshold image frames).Sublist frames ∧
      (frames ≠ [] → SemanticDeduper.dedupe cosineSimilarity embedder threshold image frames ≠ [])) :=
  ⟨fun _ hash threshold frames => selectsByHash hash threshold frames, selectsByVector,
    fun _ cosineSimilarity embedder threshold image frames =>
      ⟨SemanticDeduper.dedupe_sublist cosineSimilarity embedder threshold image frames,
        SemanticDeduper.dedupe_ne_nil cosineSimilarity embedder threshold image⟩⟩

/-- Two shots of one shelf, and an embedder whose vectors are not numbers. -/
def twinShots : List FrameSampler.AiImage := [⟨"c2hlbGY=", "image/jpeg"⟩, ⟨"c2hlbGY=", "image/jpeg"⟩]

theorem dedupe_keeps_of_twinShots :
    SemanticDeduper.dedupe (fun _ _ => .nan) ⟨true, fun images => .ok (images.map fun _ => none)⟩ (Number.ofInt 1) id
      twinShots ≠ [] :=
  (dedupe_keeps_selection.2.2 _ _ _ _ _ _).2 (List.cons_ne_nil _ _)

end Aicos.Properties
