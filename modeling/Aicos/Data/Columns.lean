import Mathlib.Data.List.FinRange
import Mathlib.Data.List.Nodup

namespace Aicos.Data

/-! A table with a header as its columns: every record has a cell for each of them. -/

structure Column (records : ℕ) where
  header : String
  cells : Fin records → String

variable {records : ℕ}

def headerRow (columns : List (Column records)) : List String :=
  columns.map Column.header

def record (columns : List (Column records)) (index : Fin records) : List String :=
  columns.map fun column => column.cells index

def tableOf (columns : List (Column records)) : List (List String) :=
  headerRow columns :: (List.finRange records).map (record columns)

/-- Every rectangular table has its columns. -/
theorem exists_columns {header : List String} {rows : List (List String)}
    (rectangular : ∀ row ∈ rows, row.length = header.length) :
    ∃ columns : List (Column rows.length), tableOf columns = header :: rows := by
  have width (index : Fin rows.length) : header.length = (rows.get index).length :=
    (rectangular _ (List.get_mem rows index)).symm
  let column (position : Fin header.length) : Column rows.length :=
    ⟨header.get position, fun index => (rows.get index).get (position.cast (width index))⟩
  have cells (index : Fin rows.length) : record (List.ofFn column) index = rows.get index := by
    refine List.ext_getElem (by simpa [record] using width index) fun position inside bound => ?_
    simp [record, column]
  refine ⟨List.ofFn column, ?_⟩
  rw [tableOf, List.map_congr_left fun index _ => cells index, List.map_get_finRange, headerRow, List.map_ofFn]
  congr 1
  exact List.ofFn_get header

section Lookup

variable {α β γ : Type} [DecidableEq β] {key : α → β} {name : β} {items : List α}

/-- The entry at the index of a key is that of the first item with the key. -/
theorem getElem?_idxOf? (cell : α → γ) (key : α → β) (name : β) (items : List α) :
    ((items.map key).idxOf? name).bind (fun index => (items.map cell)[index]?) =
      (items.find? fun item => key item = name).map cell := by
  induction items with
  | nil => rfl
  | cons item items ih =>
      by_cases same : key item = name
      · simp [List.idxOf?_cons, same]
      · simp [List.idxOf?_cons, same, ← ih, Option.bind_map]

theorem length_filter_key_le (distinct : (items.map key).Nodup) (name : β) :
    (items.filter fun item => key item = name).length ≤ 1 := by
  have count := List.nodup_iff_count_le_one.mp distinct name
  rw [List.count, List.countP_map, List.countP_eq_length_filter] at count
  exact count

theorem perm_eq_of_length_le_one {left right : List α} (perm : left.Perm right) (short : right.length ≤ 1) :
    left = right := by
  match right with
  | [] => exact List.perm_nil.mp perm
  | [item] => exact List.perm_singleton.mp perm

end Lookup

end Aicos.Data
