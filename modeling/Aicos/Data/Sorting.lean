import Mathlib.Data.List.Basic
import Mathlib.Order.Lattice

namespace Aicos.Data

/-! `Array.prototype.sort` with a comparator, and what stands where in its result. -/

section Comparators

variable {α β κ : Type*} [Zero β] [LinearOrder β] [LinearOrder κ]

def sortWith (compare : α → α → β) (items : List α) : List α :=
  items.mergeSort fun left right => compare left right ≤ 0

/-- Merge sort by a decidable order, without the Booleans. -/
theorem pairwise_mergeSort_of_le (le : α → α → Prop) [DecidableRel le] (trans : ∀ low middle high, le low middle →
    le middle high → le low high) (total : ∀ left right, le left right ∨ le right left) (items : List α) :
    (items.mergeSort fun left right => decide (le left right)).Pairwise le := by
  have sorted : (items.mergeSort fun left right => decide (le left right)).Pairwise
      fun left right => decide (le left right) := by
    refine List.pairwise_mergeSort ?_ ?_ items
    · exact fun low middle high first second =>
        decide_eq_true (trans low middle high (of_decide_eq_true first) (of_decide_eq_true second))
    · intro left right
      rw [Bool.or_eq_true, decide_eq_true_eq, decide_eq_true_eq]
      exact total left right
  exact sorted.imp of_decide_eq_true

theorem sortWith_perm (compare : α → α → β) (items : List α) : (sortWith compare items).Perm items :=
  List.mergeSort_perm _ _

/-- A comparator whose sign orders the keys sorts by the keys. -/
theorem sortWith_sorted {compare : α → α → β} (key : α → κ)
    (orders : ∀ left right, compare left right ≤ 0 ↔ key left ≤ key right) (items : List α) :
    (sortWith compare items).Pairwise fun left right => key left ≤ key right := by
  have sorted : (sortWith compare items).Pairwise fun left right => compare left right ≤ 0 := by
    refine pairwise_mergeSort_of_le (fun left right => compare left right ≤ 0)
      (fun low middle high first second => ?_) (fun left right => ?_) items
    · rw [orders] at first second ⊢
      exact first.trans second
    · rw [orders, orders]
      exact le_total _ _
  exact sorted.imp fun {left right} le => (orders left right).mp le

end Comparators

section Ranks

variable {κ : Type*} [LinearOrder κ]

/-- From a position of a sorted list on, every element is at least the one there. -/
theorem length_sub_le_countP_of_sorted {items : List κ} (sorted : items.Pairwise (· ≤ ·)) {position : Nat}
    (inside : position < items.length) :
    items.length - position ≤ items.countP (items[position] ≤ ·) := by
  have above : ∀ item ∈ items.drop position, items[position] ≤ item := by
    intro item member
    obtain ⟨further, bound, rfl⟩ := List.mem_drop_iff_getElem.mp member
    rcases Nat.eq_zero_or_pos further with rfl | positive
    · exact le_refl _
    · exact List.pairwise_iff_getElem.mp sorted position (position + further) inside (by omega) (by omega)
  have all : (items.drop position).countP (items[position] ≤ ·) = items.length - position := by
    rw [← List.length_drop, List.countP_eq_length]
    exact fun item member => decide_eq_true (above item member)
  rw [← all]
  exact (List.drop_sublist position items).countP_le

end Ranks

section Slices

variable {α : Type*}

/-- `slice(0, stop)`: a negative end counts from the back. -/
def sliceTo (stop : Int) (items : List α) : List α :=
  items.take (if 0 ≤ stop then stop else items.length + stop).toNat

theorem sliceTo_sublist (stop : Int) (items : List α) : (sliceTo stop items).Sublist items :=
  List.take_sublist _ _

theorem sliceTo_length {stop : Int} {items : List α} (nonneg : 0 ≤ stop) (within : stop ≤ items.length) :
    ((sliceTo stop items).length : Int) = stop := by
  rw [sliceTo, if_pos nonneg, List.length_take]
  omega

/-- What a slice of a sorted list leaves out comes after what it keeps. -/
theorem rel_of_mem_sliceTo {rel : α → α → Prop} {stop : Int} {items : List α} (sorted : items.Pairwise rel)
    {kept left : α} (keptMember : kept ∈ sliceTo stop items) (member : left ∈ items)
    (dropped : left ∉ sliceTo stop items) : rel kept left := by
  unfold sliceTo at keptMember dropped
  generalize (if 0 ≤ stop then stop else items.length + stop).toNat = count at keptMember dropped
  have parts : left ∈ items.take count ∨ left ∈ items.drop count := by
    rwa [← List.mem_append, List.take_append_drop]
  rw [← List.take_append_drop count items] at sorted
  exact (List.pairwise_append.mp sorted).2.2 kept keptMember left (parts.resolve_left dropped)

end Slices

section Least

variable {α : Type*} [Min α] [LE α] [Std.IsLinearOrder α] [Std.LawfulOrderMin α]

theorem min?_of_perm {first second : List α} (perm : first.Perm second) : first.min? = second.min? := by
  refine Option.ext fun least => ?_
  rw [List.min?_eq_some_iff, List.min?_eq_some_iff]
  simp only [perm.mem_iff]

end Least

end Aicos.Data
