import Mathlib.Data.List.FinRange
import Mathlib.Data.List.Induction

namespace Aicos.Data

/-! A greedy pass over a list: a value is kept if it is apart from every value that is
already kept. -/

section Greedy

variable {α β : Type*} (apart : α → α → Bool)

def keepIfApart (kept : List α) (value : α) : List α :=
  if kept.all fun other => apart other value then kept ++ [value] else kept

theorem subset_keepIfApart (kept : List α) (value : α) : kept ⊆ keepIfApart apart kept value := by
  intro other member
  rw [keepIfApart]
  split
  · exact List.mem_append_left _ member
  · exact member

def greedy (values : List α) : List α :=
  values.foldl (keepIfApart apart) []

@[simp] theorem greedy_nil : greedy apart [] = [] := rfl

theorem greedy_append_singleton (values : List α) (value : α) :
    greedy apart (values ++ [value]) = keepIfApart apart (greedy apart values) value := by
  rw [greedy, List.foldl_append, List.foldl_cons, List.foldl_nil, greedy]

theorem greedy_sublist (values : List α) : (greedy apart values).Sublist values := by
  induction values using List.reverseRecOn with
  | nil => exact List.Sublist.refl _
  | append_singleton values value ih =>
      rw [greedy_append_singleton, keepIfApart]
      split
      · exact ih.append (List.Sublist.refl _)
      · exact ih.trans (List.sublist_append_left _ _)

theorem greedy_pairwise (values : List α) :
    (greedy apart values).Pairwise fun earlier later => apart earlier later = true := by
  induction values using List.reverseRecOn with
  | nil => exact List.Pairwise.nil
  | append_singleton values value ih =>
      rw [greedy_append_singleton, keepIfApart]
      split
      · rename_i far
        rw [List.pairwise_append]
        refine ⟨ih, List.pairwise_singleton _ _, fun other member last same => ?_⟩
        rw [List.mem_singleton.mp same]
        exact List.all_eq_true.mp far other member
      · exact ih

theorem greedy_ne_nil {values : List α} (some : values ≠ []) : greedy apart values ≠ [] := by
  cases values using List.reverseRecOn with
  | nil => exact absurd rfl some
  | append_singleton values value =>
      rw [greedy_append_singleton, keepIfApart]
      split
      · simp
      · rename_i close
        intro none
        rw [none] at close
        exact close rfl

/-- What is apart already is kept whole. -/
theorem greedy_of_pairwise {values : List α}
    (far : values.Pairwise fun earlier later => apart earlier later = true) : greedy apart values = values := by
  induction values using List.reverseRecOn with
  | nil => rfl
  | append_singleton values value ih =>
      obtain ⟨before, -, last⟩ := List.pairwise_append.mp far
      rw [greedy_append_singleton, ih before, keepIfApart, if_pos]
      exact List.all_eq_true.mpr fun other member => last other member value (List.mem_singleton_self _)

theorem greedy_greedy (values : List α) : greedy apart (greedy apart values) = greedy apart values :=
  greedy_of_pairwise apart (greedy_pairwise apart values)

/-- Keeping the images of values is keeping the values. -/
theorem greedy_map (image : β → α) (values : List β) :
    greedy apart (values.map image) =
      (greedy (fun left right => apart (image left) (image right)) values).map image := by
  induction values using List.reverseRecOn with
  | nil => rfl
  | append_singleton values value ih =>
      rw [List.map_append, List.map_singleton, greedy_append_singleton, greedy_append_singleton, ih, keepIfApart,
        keepIfApart, List.all_map]
      simp only [Function.comp_def]
      split <;> simp

/-- A value that is passed over is near to one that is kept and stands before it. -/
theorem exists_near_of_not_mem_greedy [Preorder α] {values : List α} (ordered : values.Pairwise (· < ·)) {value : α}
    (member : value ∈ values) (dropped : value ∉ greedy apart values) :
    ∃ other ∈ greedy apart values, other < value ∧ apart other value = false := by
  induction values using List.reverseRecOn with
  | nil => exact absurd member List.not_mem_nil
  | append_singleton values last ih =>
      obtain ⟨before, -, above⟩ := List.pairwise_append.mp ordered
      rw [greedy_append_singleton] at dropped ⊢
      have grows := subset_keepIfApart apart (greedy apart values) last
      rcases List.mem_append.mp member with earlier | same
      · obtain ⟨other, kept, below, near⟩ := ih before earlier fun kept => dropped (grows kept)
        exact ⟨other, grows kept, below, near⟩
      · rw [List.mem_singleton.mp same, keepIfApart] at dropped ⊢
        split at dropped
        · exact absurd (List.mem_append_right _ (List.mem_singleton_self _)) dropped
        · rename_i close
          rw [if_neg close]
          have some : ∃ other ∈ greedy apart values, apart other last = false := by
            simpa using close
          obtain ⟨other, kept, near⟩ := some
          exact ⟨other, kept, above other ((greedy_sublist apart values).subset kept) last (List.mem_singleton_self _),
            near⟩

end Greedy

/-- The positions that a greedy pass over `n` values keeps. -/
structure Selection {n : ℕ} (apart : Fin n → Fin n → Bool) (kept : List (Fin n)) : Prop where
  ordered : kept.Pairwise (· < ·)
  first : ∀ i : Fin n, i.val = 0 → i ∈ kept
  pairwise : kept.Pairwise fun earlier later => apart earlier later = true
  covered : ∀ i, i ∉ kept → ∃ k ∈ kept, k < i ∧ apart k i = false

theorem selection_greedy {n : ℕ} (apart : Fin n → Fin n → Bool) : Selection apart (greedy apart (List.finRange n)) := by
  have ordered : (List.finRange n).Pairwise (· < ·) := List.pairwise_lt_finRange n
  have covered (i : Fin n) (dropped : i ∉ greedy apart (List.finRange n)) :=
    exists_near_of_not_mem_greedy apart ordered (List.mem_finRange i) dropped
  refine ⟨ordered.sublist (greedy_sublist _ _), ?_, greedy_pairwise _ _, covered⟩
  intro i zero
  by_contra dropped
  obtain ⟨k, -, below, -⟩ := covered i dropped
  exact absurd (Fin.lt_def.mp below) (by omega)

/-- The values that are kept are those at the positions that are kept. -/
theorem greedy_eq_map_get {α : Type*} (apart : α → α → Bool) (values : List α) :
    greedy apart values =
      (greedy (fun i j => apart (values.get i) (values.get j)) (List.finRange values.length)).map values.get := by
  conv_lhs => rw [← List.map_get_finRange values]
  exact greedy_map apart values.get _

end Aicos.Data
