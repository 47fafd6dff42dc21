import Aicos.Data.Bits
import Aicos.Data.Loops
import Aicos.Extraction.FrameSampler
import Mathlib.Data.Set.Card

namespace Aicos.Extraction.FrameSampler

open Aicos.Data

/-! The hash of a frame, bit by bit, and the distance of two hashes as a distance. -/

section Hash

def hashCells : List (Nat × Nat) :=
  (List.range hashH).flatMap fun row => (List.range hashH).map fun col => (row, col)

/-- `left > right`, of a cell and the one after it. -/
def falls (gray : Buffer) (cell : Nat × Nat) : Bool :=
  pixel gray (cell.1 * hashW + cell.2 + 1) < pixel gray (cell.1 * hashW + cell.2)

theorem dHash_eq_foldl (gray : Buffer) : dHash gray = (hashCells.foldl (packBit (falls gray)) (0, 0)).1 := by
  have turn : packBit (falls gray) = fun state cell =>
      (if pixel gray (cell.1 * hashW + cell.2 + 1) < pixel gray (cell.1 * hashW + cell.2) then
        state.1 ||| 1 <<< state.2 else state.1, state.2 + 1) := by
    funext state cell
    simp only [packBit, falls, decide_eq_true_eq]
  rw [turn]
  rfl

/-- Rows are eight cells, though nine pixels, long. -/
theorem getElem?_hashCells {row col : Nat} (rows : row < hashH) (cols : col < hashH) :
    hashCells[8 * row + col]? = some (row, col) := by
  have all : ∀ row < 8, ∀ col < 8, hashCells[8 * row + col]? = some (row, col) := by decide
  exact all row rows col cols

theorem testBit_dHash (gray : Buffer) (bit : Nat) :
    (dHash gray).testBit bit = (hashCells[bit]?).any (falls gray) := by
  rw [dHash_eq_foldl, testBit_foldl_packBit (falls gray) (by decide), if_neg (Nat.not_lt_zero bit), Nat.sub_zero]

theorem dHash_lt (gray : Buffer) : dHash gray < 2 ^ 64 := by
  refine Nat.lt_pow_two_of_testBit _ fun bit above => ?_
  have beyond : hashCells.length ≤ bit := above
  rw [testBit_dHash, List.getElem?_eq_none beyond, Option.any_none]

variable {gray : Buffer} {levels : UInt8 → UInt8}

theorem pixel_eq {index : Nat} (inside : index < gray.length) : pixel gray index = gray[index].toNat := by
  rw [pixel, List.getElem?_eq_getElem inside, Option.map_some, Option.getD_some]

theorem levels_lt_iff (rising : ∀ low ∈ gray, ∀ high ∈ gray, low < high → levels low < levels high) {low high : UInt8}
    (first : low ∈ gray) (second : high ∈ gray) : levels low < levels high ↔ low < high := by
  constructor
  · intro higher
    by_contra notLess
    rcases UInt8.lt_or_eq_of_le (UInt8.not_lt.mp notLess) with less | same
    · exact UInt8.lt_asymm higher (rising high second low first less)
    · exact UInt8.lt_irrefl _ (same ▸ higher)
  · exact rising low first high second

theorem pixel_map_lt_iff (rising : ∀ low ∈ gray, ∀ high ∈ gray, low < high → levels low < levels high)
    {low high : Nat} (first : low < gray.length) (second : high < gray.length) :
    pixel (gray.map levels) low < pixel (gray.map levels) high ↔ pixel gray low < pixel gray high := by
  rw [pixel_eq (by rwa [List.length_map]), pixel_eq (by rwa [List.length_map]), List.getElem_map, List.getElem_map,
    pixel_eq first, pixel_eq second]
  exact levels_lt_iff rising (List.getElem_mem first) (List.getElem_mem second)

/-- Only which of two neighbours is the brighter counts. -/
theorem dHash_map (whole : gray.length = hashW * hashH)
    (rising : ∀ low ∈ gray, ∀ high ∈ gray, low < high → levels low < levels high) :
    dHash (gray.map levels) = dHash gray := by
  refine Nat.eq_of_testBit_eq fun bit => ?_
  rw [testBit_dHash, testBit_dHash]
  cases found : hashCells[bit]? with
  | none => rfl
  | some cell =>
      have bounds : ∀ cell ∈ hashCells, cell.1 * 9 + cell.2 + 1 < 72 := by decide
      have inside : cell.1 * hashW + cell.2 + 1 < gray.length :=
        whole ▸ bounds cell (List.mem_of_getElem? found)
      rw [Option.any_some, Option.any_some, falls, falls, decide_eq_decide]
      exact pixel_map_lt_iff rising inside (Nat.lt_of_succ_lt inside)

end Hash

section Distance

/-- A turn of the loop of `hamming`, on `x` and `count`. -/
def hammingTurn (state : Nat × Nat) : Option (Nat × Nat) :=
  if 0 < state.1 then some (state.1 >>> 1, state.2 + (state.1 &&& 1)) else none

theorem hammingTurn_ends (bits count : Nat) :
    (0, count + countBits bits) ∈ StateTransition.eval hammingTurn (bits, count) := by
  induction bits using Nat.strong_induction_on generalizing count with
  | _ bits ih =>
      rw [countBits]
      by_cases more : 0 < bits
      · have turn : hammingTurn (bits, count) = some (bits / 2, count + bits % 2) := by
          rw [hammingTurn, if_pos more, Nat.shiftRight_one, Nat.and_one_is_mod]
        have rest := ih (bits / 2) (Nat.div_lt_self more Nat.one_lt_two) (count + bits % 2)
        rw [if_pos more, ← add_assoc]
        exact mem_eval_of_some turn rest
      · have empty : bits = 0 := Nat.eq_zero_of_not_pos more
        subst empty
        exact mem_eval_of_none rfl

theorem countBits_eq_length (bits : Nat) : countBits bits = bits.bitIndices.length := by
  induction bits using Nat.strong_induction_on with
  | _ bits ih =>
      rw [countBits]
      by_cases more : 0 < bits
      · have rest := ih (bits / 2) (Nat.div_lt_self more Nat.one_lt_two)
        rw [if_pos more, rest]
        rcases Nat.mod_two_eq_zero_or_one bits with even | odd
        · have halves : bits = 2 * (bits / 2) := by omega
          conv_rhs => rw [halves, Nat.bitIndices_two_mul, List.length_map]
          rw [even, zero_add]
        · have halves : bits = 2 * (bits / 2) + 1 := by omega
          conv_rhs => rw [halves, Nat.bitIndices_two_mul_add_one, List.length_cons, List.length_map]
          rw [odd, add_comm]
      · have empty : bits = 0 := Nat.eq_zero_of_not_pos more
        subst empty
        rfl

theorem hamming_eq_card (left right : Nat) : hamming left right = (differingBits left right).card := by
  rw [hamming, countBits_eq_length, card_differingBits]

theorem encard_differing (left right : Nat) :
    {bit | left.testBit bit ≠ right.testBit bit}.encard = hamming left right := by
  have same : {bit | left.testBit bit ≠ right.testBit bit} = (differingBits left right : Set Nat) := by
    ext bit
    exact mem_differingBits.symm
  rw [same, Set.encard_coe_eq_coe_finsetCard, hamming_eq_card]

theorem hamming_eq_zero_iff {left right : Nat} : hamming left right = 0 ↔ left = right := by
  rw [hamming_eq_card, Finset.card_eq_zero, differingBits_eq_empty]

theorem hamming_comm (left right : Nat) : hamming left right = hamming right left := by
  rw [hamming_eq_card, hamming_eq_card, differingBits_comm]

theorem hamming_triangle (left middle right : Nat) :
    hamming left right ≤ hamming left middle + hamming middle right := by
  simp only [hamming_eq_card]
  calc
    (differingBits left right).card ≤ (differingBits left middle ∪ differingBits middle right).card :=
      Finset.card_le_card (differingBits_subset left middle right)
    _ ≤ (differingBits left middle).card + (differingBits middle right).card := Finset.card_union_le _ _

end Distance

end Aicos.Extraction.FrameSampler
