import Aicos.Extraction.FrameHashes

namespace Aicos.Properties

open Aicos.Extraction.FrameSampler

/-! What the hash of a frame says, and what the distance of two hashes counts. -/

theorem hashes_compare_neighbours_and_distance_counts_bits :
    (∀ gray : Buffer, gray.length = hashW * hashH →
      (∀ row < hashH, ∀ col < hashH,
        ((dHash gray).testBit (8 * row + col) ↔
          pixel gray (row * hashW + (col + 1)) < pixel gray (row * hashW + col))) ∧
      dHash gray < 2 ^ 64 ∧
      ∀ levels : UInt8 → UInt8, (∀ low ∈ gray, ∀ high ∈ gray, low < high → levels low < levels high) →
        dHash (gray.map levels) = dHash gray) ∧
    ∀ left right : Nat,
      (0, hamming left right) ∈ StateTransition.eval hammingTurn (left ^^^ right, 0) ∧
      {bit | left.testBit bit ≠ right.testBit bit}.encard = hamming left right ∧
      (hamming left right = 0 ↔ left = right) ∧
      hamming left right = hamming right left ∧
      ∀ middle, hamming left right ≤ hamming left middle + hamming middle right := by
  constructor
  · intro gray whole
    refine ⟨?_, dHash_lt gray, fun levels rising => dHash_map whole rising⟩
    intro row rows col cols
    rw [testBit_dHash, getElem?_hashCells rows cols, Option.any_some, falls, decide_eq_true_eq]
    rfl
  · intro left right
    have ends := hammingTurn_ends (left ^^^ right) 0
    rw [Nat.zero_add] at ends
    exact ⟨ends, encard_differing left right, hamming_eq_zero_iff, hamming_comm left right,
      fun middle => hamming_triangle left middle right⟩

/-- A chunk whose levels fall along each row: the 72 pixels of eight rows of nine. -/
def fallingChunk : List UInt8 :=
  (List.range 72).map fun pixel => UInt8.ofNat (200 - pixel % 9)

/-- The falling chunk sets each bit and a chunk of one level none: they are 64 bits apart. -/
theorem hash_of_falling_chunk :
    (dHash fallingChunk).testBit 63 ∧ ¬ (dHash (List.replicate 72 5)).testBit 63 ∧
      hamming (dHash fallingChunk) (dHash (List.replicate 72 5)) = 64 ∧
      {bit | (dHash fallingChunk).testBit bit ≠ (dHash (List.replicate 72 5)).testBit bit}.encard = (64 : Nat) := by
  have falling := (hashes_compare_neighbours_and_distance_counts_bits.1 fallingChunk rfl).1
  have flat := (hashes_compare_neighbours_and_distance_counts_bits.1 (List.replicate 72 5) rfl).1
  have differing := (hashes_compare_neighbours_and_distance_counts_bits.2 (dHash fallingChunk)
    (dHash (List.replicate 72 5))).2.1
  have apart : hamming (dHash fallingChunk) (dHash (List.replicate 72 5)) = 64 := by decide +kernel
  refine ⟨(falling 7 (by decide) 7 (by decide)).mpr (by decide), fun set => ?_, apart, ?_⟩
  · exact absurd ((flat 7 (by decide) 7 (by decide)).mp set) (by decide)
  · rw [differing, apart]

end Aicos.Properties
