import Aicos.Catalog.Categories
import Aicos.Data.Parents

namespace Aicos.Catalog

open Aicos.Commerce Aicos.Data

/-! `CategoriesService.list` and `CategoriesService.tree`. -/

inductive CategoryNode where
  | node (row : Category) (children : List CategoryNode)

/-- A category is somewhere in a tree. -/
inductive CategoryNode.Occurs (row : Category) : CategoryNode → Prop where
  | here {children : List CategoryNode} : Occurs row (.node row children)
  | inside {parent : Category} {children : List CategoryNode} {child : CategoryNode} (member : child ∈ children)
      (occurs : Occurs row child) : Occurs row (.node parent children)

/-- By position, then by name as the database collates names. -/
def listCategories (collate : String → String → Bool) (tenant : TenantId) (platform : Platform) : List Category :=
  (platform.categories.rows.filter fun row => row.tenantId = tenant ∧ row.deletedAt = none).mergeSort fun first second =>
    first.position < second.position ∨ (first.position = second.position ∧ collate first.name second.name)

section Tree

variable (rows : List Category)

def childrenOf (parent : Category) : List Category :=
  rows.filter fun row => row.parentId = some parent.id

def isRoot (row : Category) : Bool :=
  match row.parentId with
  | some parent => ¬ rows.any fun other => other.id = parent
  | none => true

/-- The node of a row with what has been pushed below it, down to `depth` levels. -/
def buildNode : Nat → Category → CategoryNode
  | 0, row => .node row []
  | depth + 1, row => .node row ((childrenOf rows row).map (buildNode depth))

/-- No path of children is longer than the list of rows. -/
def treeOf : List CategoryNode :=
  (rows.filter (isRoot rows)).map (buildNode rows rows.length)

end Tree

def tree (collate : String → String → Bool) (tenant : TenantId) (platform : Platform) : List CategoryNode :=
  treeOf (listCategories collate tenant platform)

/-- What the categories name as their parents. -/
def parentOf (platform : Platform) (id : CategoryId) : Option CategoryId :=
  (platform.categories.find? id).bind (·.parentId)

section Occurrence

variable {rows : List Category} {row : Category}

/-- A row so many levels below another. -/
inductive BelowBy (rows : List Category) : Nat → Category → Category → Prop where
  | refl (row : Category) : BelowBy rows 0 row row
  | step {depth : Nat} {top child row : Category} (member : child ∈ childrenOf rows top)
      (below : BelowBy rows depth child row) : BelowBy rows (depth + 1) top row

theorem BelowBy.concat {depth : Nat} {top middle : Category} (below : BelowBy rows depth top middle)
    (member : row ∈ childrenOf rows middle) : BelowBy rows (depth + 1) top row := by
  induction below with
  | refl top => exact .step member (.refl row)
  | step first _ ih => exact .step first (ih member)

theorem BelowBy.occurs {depth fuel : Nat} {top : Category} (below : BelowBy rows depth top row)
    (enough : depth ≤ fuel) : (buildNode rows fuel top).Occurs row := by
  induction below generalizing fuel with
  | refl row => cases fuel <;> exact .here
  | step member below ih =>
      cases fuel with
      | zero => omega
      | succ fuel => exact .inside (List.mem_map_of_mem member) (ih (by omega))

variable {parent : CategoryId → Option CategoryId}

/-- Where parents have no cycle, a root stands above every row, with distinct rows between them. -/
theorem root_above (acyclic : Acyclic parent) (named : ∀ row ∈ rows, parent row.id = row.parentId) :
    ∀ id ∈ rows.map (·.id), ∀ row ∈ rows, row.id = id →
      ∃ root ∈ rows, isRoot rows root = true ∧ ∃ above : List CategoryId, above.Nodup ∧
        (∀ upper ∈ above, upper ∈ rows.map (·.id) ∧ Relation.TransGen (Up parent) id upper) ∧
        BelowBy rows above.length root row := by
  refine acyclic.induction fun id _ ih row member same => ?_
  subst same
  by_cases top : isRoot rows row = true
  · exact ⟨row, member, top, [], List.nodup_nil, by simp, .refl row⟩
  · obtain ⟨upper, there, up⟩ : ∃ upper ∈ rows, row.parentId = some upper.id := by
      unfold isRoot at top
      split at top
      · rename_i next name
        obtain ⟨upper, there, same⟩ : ∃ upper ∈ rows, upper.id = next := by simpa using top
        exact ⟨upper, there, same ▸ name⟩
      · exact absurd rfl top
    have step : Up parent row.id upper.id := (named row member).trans up
    obtain ⟨root, inside, isTop, above, distinct, paths, below⟩ :=
      ih upper.id (List.mem_map_of_mem there) step upper there rfl
    refine ⟨root, inside, isTop, upper.id :: above, ?_, ?_, ?_⟩
    · exact List.nodup_cons.mpr ⟨fun back => acyclic upper.id (paths upper.id back).2, distinct⟩
    · intro next between
      rcases List.mem_cons.mp between with rfl | between
      · exact ⟨List.mem_map_of_mem there, .single step⟩
      · exact ⟨(paths next between).1, (paths next between).2.head step⟩
    · exact below.concat (List.mem_filter.mpr ⟨member, decide_eq_true up⟩)

theorem occurs_treeOf (acyclic : Acyclic parent) (named : ∀ row ∈ rows, parent row.id = row.parentId)
    (member : row ∈ rows) : ∃ node ∈ treeOf rows, node.Occurs row := by
  obtain ⟨root, inside, top, above, distinct, paths, below⟩ :=
    root_above acyclic named row.id (List.mem_map_of_mem member) row member rfl
  have short : above.length ≤ rows.length := by
    have subset : above ⊆ rows.map (·.id) := fun upper between => (paths upper between).1
    simpa using (List.subperm_of_subset distinct subset).length_le
  exact ⟨_, List.mem_map_of_mem (List.mem_filter.mpr ⟨inside, top⟩), below.occurs short⟩

end Occurrence

/-- A category that is not deleted occurs in the tree of its tenant, unless parents run in a circle. -/
theorem occurs_tree {platform : Platform} {row : Category} (collate : String → String → Bool)
    (acyclic : Acyclic (parentOf platform)) (member : row ∈ platform.categories.rows) (live : row.deletedAt = none) :
    ∃ node ∈ tree collate row.tenantId platform, node.Occurs row := by
  refine occurs_treeOf acyclic (fun other there => ?_) ?_
  · have present : other ∈ platform.categories.rows := List.mem_of_mem_filter (List.mem_mergeSort.mp there)
    have found : platform.categories.find? other.id = some other := Table.find?_of_mem present
    rw [parentOf, found, Option.bind_some]
  · rw [listCategories, List.mem_mergeSort]
    exact List.mem_filter.mpr ⟨member, by simp [live]⟩

end Aicos.Catalog
