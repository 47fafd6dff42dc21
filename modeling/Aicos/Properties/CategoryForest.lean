import Aicos.Catalog.CategoryForest

namespace Aicos.Properties

open Aicos.Commerce Aicos.Data Aicos.Catalog

/-! What the tree of any list of categories holds, whatever their parents are. -/

/-- Every row whose parents end is in the forest once, every row whose parents run into a cycle is
not, and rows stand below the rows that they name. -/
structure ForestOf (rows : List Category) (forest : List CategoryNode) : Prop where
  ending : ∀ row ∈ rows, Ends (parentRow rows) row → (forestRows forest).count row = 1
  cyclic : ∀ row ∈ rows, RunsIntoCycle (parentRow rows) row → (forestRows forest).count row = 0
  decided : ∀ row ∈ rows, Ends (parentRow rows) row ↔ ¬ RunsIntoCycle (parentRow rows) row
  children : ∀ tree ∈ forest, ∀ node : CategoryNode, node.Within tree → node.row ∈ rows ∧
    node.children.map CategoryNode.row = rows.filter fun row => row.parentId = some node.row.id
  roots : forest.map CategoryNode.row = rows.filter fun row => ∀ parent ∈ row.parentId, ∀ other ∈ rows, other.id ≠ parent

theorem isRoot_eq (rows : List Category) (row : Category) :
    isRoot rows row = decide (∀ parent ∈ row.parentId, ∀ other ∈ rows, other.id ≠ parent) := by
  unfold isRoot
  cases row.parentId with
  | none => simp
  | some parent => simp

/-- The forest that the pass over the map of nodes makes, and so the one that `tree` returns. -/
theorem assemble_forestOf (rows : List Category) (distinct : (rows.map (·.id)).Nodup) :
    ForestOf rows (assemble rows) ∧
      ∀ collate tenant platform, listCategories collate tenant platform = rows →
        tree collate tenant platform = assemble rows := by
  constructor
  · rw [assemble_eq_treeOf]
    constructor
    · exact fun row member => count_of_ends distinct member
    · exact fun row member => count_of_runsIntoCycle distinct member
    · exact fun row member => ends_iff_not_runsIntoCycle mem_of_up member
    · exact fun root member node within => children_treeOf distinct member within
    · rw [roots_treeOf]
      exact List.filter_congr fun row _ => isRoot_eq rows row
  · intro collate tenant platform listed
    rw [tree, listed, assemble_eq_treeOf]

/-- A child ahead of its parent, a parent that is gone, and a category that is its own parent. -/
def shuffledRows : List Category :=
  [(2, some 1), (1, none), (3, some 9), (4, some 4)].map fun row =>
    { id := row.1, tenantId := 1, parentId := row.2, name := "", slug := "", description := none, imageUrl := none
      position := 0, deletedAt := none }

theorem assemble_forestOf_shuffledRows : ForestOf shuffledRows (assemble shuffledRows) :=
  (assemble_forestOf shuffledRows (by decide)).1

end Aicos.Properties
