import Mathlib.Data.List.Nodup
import Mathlib.Data.List.Sort
import Mathlib.Data.Nat.Find

namespace Aicos.Data

/-! Lists read page by page, by offset and limit, all at once or while they change. -/

variable {α : Type*} {size : Nat} {rows : List α} {row : α}

/-- Page `number`, counted from 1. -/
def page (size number : Nat) (rows : List α) : List α :=
  (rows.drop ((number - 1) * size)).take size

/-- The first pages one after the other. -/
def firstPages (size count : Nat) (rows : List α) : List α :=
  (List.range count).flatMap fun index => page size (index + 1) rows

theorem firstPages_eq_take (size count : Nat) (rows : List α) :
    firstPages size count rows = rows.take (count * size) := by
  induction count with
  | zero => simp [firstPages]
  | succ count ih =>
      have next : firstPages size (count + 1) rows = firstPages size count rows ++ page size (count + 1) rows := by
        simp [firstPages, List.range_succ]
      rw [next, ih, page, Nat.add_sub_cancel, Nat.succ_mul, List.take_add]

/-- Enough pages are the whole list, every row once and in order. -/
theorem firstPages_eq {count : Nat} (enough : rows.length ≤ count * size) : firstPages size count rows = rows := by
  rw [firstPages_eq_take, List.take_of_length_le enough]

theorem mem_of_mem_page {number : Nat} (member : row ∈ page size number rows) : row ∈ rows :=
  List.mem_of_mem_drop (List.mem_of_mem_take member)

theorem page_eq_nil_iff {number : Nat} (positive : 0 < size) :
    page size number rows = [] ↔ rows.length ≤ (number - 1) * size := by
  rw [page, List.take_eq_nil_iff, List.drop_eq_nil_iff]
  omega

variable [DecidableEq α]

/-- The number of the page that a row is on. -/
def pageOf (size : Nat) (row : α) (rows : List α) : Nat :=
  rows.idxOf row / size + 1

theorem mem_page_pageOf (positive : 0 < size) (member : row ∈ rows) : row ∈ page size (pageOf size row rows) rows := by
  have bound := List.idxOf_lt_length_of_mem member
  have split := Nat.div_add_mod' (rows.idxOf row) size
  have small := Nat.mod_lt (rows.idxOf row) positive
  have there : (page size (pageOf size row rows) rows)[rows.idxOf row % size]? = some row := by
    rw [page, pageOf, Nat.add_sub_cancel, List.getElem?_take_of_lt small, List.getElem?_drop, split,
      List.getElem?_eq_getElem bound, List.getElem_idxOf]
  exact List.mem_of_getElem? there

/-- A row is on no other page. -/
theorem pageOf_eq_of_mem (positive : 0 < size) (distinct : rows.Nodup) {number : Nat} (counted : 1 ≤ number)
    (member : row ∈ page size number rows) : pageOf size row rows = number := by
  obtain ⟨index, found⟩ := List.mem_iff_getElem?.mp member
  have small : index < size := by
    have bound := (List.getElem?_eq_some_iff.mp found).1
    rw [page, List.length_take] at bound
    omega
  rw [page, List.getElem?_take_of_lt small, List.getElem?_drop] at found
  obtain ⟨bound, same⟩ := List.getElem?_eq_some_iff.mp found
  have position : rows.idxOf row = (number - 1) * size + index := by
    rw [← same, distinct.idxOf_getElem]
  rw [pageOf, position, Nat.mul_comm, Nat.mul_add_div positive, Nat.div_eq_of_lt small]
  omega

/-- Insertions move a row back, never forward. -/
theorem idxOf_le_of_sublist {before after : List α} (inserted : before.Sublist after) (distinct : after.Nodup)
    (member : row ∈ before) : before.idxOf row ≤ after.idxOf row := by
  induction inserted with
  | slnil => cases member
  | cons other inserted ih =>
      obtain ⟨absent, distinct⟩ := List.nodup_cons.mp distinct
      have apart : other ≠ row := by
        intro same
        subst same
        exact absent (inserted.subset member)
      rw [List.idxOf_cons_ne _ apart]
      exact Nat.le_succ_of_le (ih distinct member)
  | cons_cons first inserted ih =>
      obtain ⟨_, distinct⟩ := List.nodup_cons.mp distinct
      by_cases same : first = row
      · rw [List.idxOf_cons_eq _ same]
        exact Nat.zero_le _
      · have later := (List.mem_cons.mp member).resolve_left (Ne.symm same)
        rw [List.idxOf_cons_ne _ same, List.idxOf_cons_ne _ same]
        exact Nat.succ_le_succ (ih distinct later)

section Walks

variable {snapshot : Nat → List α} (positive : 0 < size) (distinct : ∀ index, (snapshot index).Nodup)
  (inserted : ∀ index, (snapshot index).Sublist (snapshot (index + 1)))

include inserted

omit [DecidableEq α] in
theorem mem_snapshot (member : row ∈ snapshot 0) (index : Nat) : row ∈ snapshot index := by
  induction index with
  | zero => exact member
  | succ index ih => exact (inserted index).subset ih

include positive distinct

/-- A reader who asks for one page after the other until one is empty, with rows inserted
anywhere in between, misses no row that was there when it began: the row falls back by
pages while the reader gains one with each step, so they meet. -/
theorem walk_misses_none (member : row ∈ snapshot 0) {last : Nat} (done : page size (last + 1) (snapshot last) = []) :
    ∃ index < last, row ∈ page size (index + 1) (snapshot index) := by
  have present := mem_snapshot inserted member
  have overtaken : (snapshot last).idxOf row / size < last := by
    have bound := List.idxOf_lt_length_of_mem (present last)
    have short := (page_eq_nil_iff positive).mp done
    rw [Nat.add_sub_cancel] at short
    exact (Nat.div_lt_iff_lt_mul positive).mpr (Nat.lt_of_lt_of_le bound short)
  -- the first step at which the row is not ahead of the reader
  have reached : ∃ index, (snapshot index).idxOf row / size ≤ index := ⟨last, Nat.le_of_lt overtaken⟩
  have behind := Nat.find_spec reached
  have ahead (earlier : Nat) : earlier < Nat.find reached → earlier < (snapshot earlier).idxOf row / size :=
    fun less => Nat.not_le.mp (Nat.find_min reached less)
  have early : Nat.find reached ≤ last := Nat.find_min' reached (Nat.le_of_lt overtaken)
  generalize Nat.find reached = index at behind ahead early
  have here : (snapshot index).idxOf row / size = index := by
    cases index with
    | zero => exact Nat.le_zero.mp behind
    | succ index =>
        have before := ahead index (Nat.lt_succ_self index)
        have back := idxOf_le_of_sublist (inserted index) (distinct (index + 1)) (present index)
        have pages := Nat.div_le_div_right (c := size) back
        omega
  refine ⟨index, ?_, ?_⟩
  · obtain rfl | less := Nat.eq_or_lt_of_le early
    · omega
    · exact less
  · have found := mem_page_pageOf positive (present index)
    rwa [pageOf, here] at found

end Walks

end Aicos.Data
