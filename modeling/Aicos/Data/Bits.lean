import Mathlib.Data.Finset.Card
import Mathlib.Data.Nat.BitIndices

namespace Aicos.Data

/-! Bits of natural numbers: where two numbers differ, and numbers put together bit by bit. -/

def differingBits (left right : ℕ) : Finset ℕ :=
  (left ^^^ right).bitIndices.toFinset

section Distance

variable {left right : ℕ}

@[simp] theorem mem_differingBits {bit : ℕ} :
    bit ∈ differingBits left right ↔ left.testBit bit ≠ right.testBit bit := by
  simp [differingBits, Nat.testBit_xor]

theorem card_differingBits (left right : ℕ) : (differingBits left right).card = (left ^^^ right).bitIndices.length :=
  List.toFinset_card_of_nodup Nat.bitIndices_nodup

theorem differingBits_eq_empty : differingBits left right = ∅ ↔ left = right := by
  constructor
  · intro none
    refine Nat.eq_of_testBit_eq fun bit => ?_
    have absent : bit ∉ differingBits left right := none ▸ Finset.notMem_empty bit
    simpa using absent
  · intro same
    subst same
    ext bit
    simp

theorem differingBits_comm (left right : ℕ) : differingBits left right = differingBits right left := by
  ext bit
  simp only [mem_differingBits, ne_comm]

/-- Where two numbers differ, one of them differs from a third. -/
theorem differingBits_subset (left middle right : ℕ) :
    differingBits left right ⊆ differingBits left middle ∪ differingBits middle right := by
  intro bit differs
  rw [mem_differingBits] at differs
  rw [Finset.mem_union, mem_differingBits, mem_differingBits]
  by_cases same : left.testBit bit = middle.testBit bit
  · exact .inr (same ▸ differs)
  · exact .inl same

end Distance

section Packing

variable {α : Type*} (test : α → Bool)

/-- The next bit is set where the test holds. -/
def packBit (state : ℕ × ℕ) (cell : α) : ℕ × ℕ :=
  (if test cell then state.1 ||| 1 <<< state.2 else state.1, state.2 + 1)

theorem testBit_packBit {state : ℕ × ℕ} (small : state.1 < 2 ^ state.2) (cell : α) (bit : ℕ) :
    (packBit test state cell).1.testBit bit = if bit = state.2 then test cell else state.1.testBit bit := by
  have above : state.1.testBit state.2 = false := Nat.testBit_lt_two_pow small
  unfold packBit
  by_cases here : bit = state.2
  · subst here
    by_cases set : test cell = true <;> simp [set, above, Nat.one_shiftLeft]
  · by_cases set : test cell = true <;> simp [set, here, Nat.one_shiftLeft, Ne.symm here]

theorem packBit_lt {state : ℕ × ℕ} (small : state.1 < 2 ^ state.2) (cell : α) :
    (packBit test state cell).1 < 2 ^ (packBit test state cell).2 := by
  refine Nat.lt_pow_two_of_testBit _ fun bit above => ?_
  have beyond : state.2 < bit := above
  rw [testBit_packBit test small, if_neg beyond.ne']
  exact Nat.testBit_lt_two_pow (small.trans_le (Nat.pow_le_pow_right Nat.two_pos beyond.le))

/-- The bits of a fold of `packBit`, below those that are there already. -/
theorem testBit_foldl_packBit {state : ℕ × ℕ} (small : state.1 < 2 ^ state.2) (cells : List α) (bit : ℕ) :
    (cells.foldl (packBit test) state).1.testBit bit =
      if bit < state.2 then state.1.testBit bit else (cells[bit - state.2]?).any test := by
  induction cells generalizing state with
  | nil =>
      rw [List.foldl_nil]
      split
      · rfl
      · rename_i above
        exact Nat.testBit_lt_two_pow (small.trans_le (Nat.pow_le_pow_right Nat.two_pos (not_lt.mp above)))
  | cons cell rest ih =>
      rw [List.foldl_cons, ih (packBit_lt test small cell), testBit_packBit test small]
      have next : (packBit test state cell).2 = state.2 + 1 := rfl
      rw [next]
      rcases lt_trichotomy bit state.2 with below | here | above
      · rw [if_pos (by omega), if_pos below, if_neg below.ne]
      · subst here
        simp
      · obtain ⟨rest', later⟩ : ∃ index, bit - state.2 = index + 1 := ⟨bit - state.2 - 1, by omega⟩
        rw [if_neg (by omega), if_neg (by omega), later, List.getElem?_cons_succ]
        congr 2
        omega

end Packing

end Aicos.Data
