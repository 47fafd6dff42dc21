import Aicos.Catalog.CategoryTree

namespace Aicos.Catalog

open Aicos.Commerce Aicos.Data

/-! The pass of `CategoriesService.tree` over its map of nodes: every node is pushed to the
children of its parent, or to the roots.  What is read back from the roots is `treeOf`. -/

section Linking

/-- The `children` arrays of the nodes in the map, and the roots. -/
structure Linking where
  children : CategoryId → List Category
  roots : List Category

def link (rows : List Category) (links : Linking) (row : Category) : Linking :=
  match row.parentId with
  | some parent =>
      if rows.any fun other => other.id = parent then
        { links with children := Function.update links.children parent (links.children parent ++ [row]) }
      else { links with roots := links.roots ++ [row] }
  | none => { links with roots := links.roots ++ [row] }

def linkAll (rows : List Category) : Linking :=
  rows.foldl (link rows) { children := fun _ => [], roots := [] }

/-- A node with what its array holds, down to `depth` levels. -/
def Linking.read (links : Linking) : Nat → Category → CategoryNode
  | 0, row => .node row []
  | depth + 1, row => .node row ((links.children row.id).map (links.read depth))

/-- The roots that `tree` returns. -/
def assemble (rows : List Category) : List CategoryNode :=
  (linkAll rows).roots.map ((linkAll rows).read rows.length)

variable {rows seen : List Category} {row : Category}

theorem link_roots (links : Linking) (row : Category) :
    (link rows links row).roots = links.roots ++ [row].filter (isRoot rows) := by
  unfold link
  cases above : row.parentId with
  | none => simp [isRoot, above]
  | some parent =>
      by_cases named : rows.any (fun other => other.id = parent) = true
      · have inner : isRoot rows row = false := by simp only [isRoot, above, named, not_true, decide_false]
        simp only [named, if_true]
        simp [inner]
      · have root : isRoot rows row = true := by simpa [isRoot, above] using named
        simp only [named, Bool.false_eq_true, if_false]
        simp [root]

theorem link_children (links : Linking) {row : Category} {id : CategoryId}
    (there : rows.any (fun other => other.id = id) = true) :
    (link rows links row).children id = links.children id ++ [row].filter fun row => row.parentId = some id := by
  unfold link
  cases above : row.parentId with
  | none => simp [above]
  | some parent =>
      by_cases same : parent = id
      · subst same
        simp only [there, if_true]
        simp [above]
      · by_cases named : rows.any (fun other => other.id = parent) = true
        · simp only [named, if_true]
          rw [Function.update_of_ne (Ne.symm same)]
          simp [above, same]
        · simp [named, above, same]

/-- The roots so far are those of the rows that have been seen, and so are the children. -/
theorem foldl_link (links : Linking) :
    (seen.foldl (link rows) links).roots = links.roots ++ seen.filter (isRoot rows) ∧
    ∀ id, rows.any (fun other => other.id = id) = true →
      (seen.foldl (link rows) links).children id =
        links.children id ++ seen.filter fun row => row.parentId = some id := by
  induction seen generalizing links with
  | nil => simp
  | cons row seen ih =>
      obtain ⟨roots, children⟩ := ih (link rows links row)
      have split (keeps : Category → Bool) : (row :: seen).filter keeps = [row].filter keeps ++ seen.filter keeps := by
        rw [← List.filter_append]
        rfl
      constructor
      · rw [List.foldl_cons, roots, link_roots, List.append_assoc, ← split]
      · intro id there
        rw [List.foldl_cons, children id there, link_children links there, List.append_assoc, ← split]

theorem linkAll_roots (rows : List Category) : (linkAll rows).roots = rows.filter (isRoot rows) := by
  rw [linkAll, (foldl_link _).1, List.nil_append]

theorem linkAll_children (member : row ∈ rows) : (linkAll rows).children row.id = childrenOf rows row := by
  have there : rows.any (fun other => other.id = row.id) = true :=
    List.any_eq_true.mpr ⟨row, member, decide_eq_true rfl⟩
  rw [linkAll, (foldl_link _).2 row.id there, List.nil_append, childrenOf]

theorem read_eq_buildNode (member : row ∈ rows) (depth : Nat) :
    (linkAll rows).read depth row = buildNode rows depth row := by
  induction depth generalizing row with
  | zero => rfl
  | succ depth ih =>
      rw [Linking.read, buildNode, linkAll_children member]
      congr 1
      exact List.map_congr_left fun child below => ih (List.mem_of_mem_filter below)

/-- Pushing nodes to their parents in one pass makes the tree of the rows. -/
theorem assemble_eq_treeOf (rows : List Category) : assemble rows = treeOf rows := by
  rw [assemble, treeOf, linkAll_roots]
  exact List.map_congr_left fun row root => read_eq_buildNode (List.mem_of_mem_filter root) rows.length

end Linking

section Nodes

def CategoryNode.row : CategoryNode → Category
  | .node row _ => row

def CategoryNode.children : CategoryNode → List CategoryNode
  | .node _ children => children

/-- A node of a tree: its root or a node below. -/
inductive CategoryNode.Within (inner : CategoryNode) : CategoryNode → Prop where
  | here : Within inner inner
  | inside {row : Category} {children : List CategoryNode} {child : CategoryNode} (member : child ∈ children)
      (within : Within inner child) : Within inner (.node row children)

mutual

def CategoryNode.rows : CategoryNode → List Category
  | .node row children => row :: forestRows children

def forestRows : List CategoryNode → List Category
  | [] => []
  | node :: forest => node.rows ++ forestRows forest

end

theorem forestRows_eq_flatMap (forest : List CategoryNode) : forestRows forest = forest.flatMap CategoryNode.rows := by
  induction forest with
  | nil => rfl
  | cons node forest ih => rw [forestRows, ih, List.flatMap_cons]

end Nodes

section Parents

variable (rows : List Category)

/-- The row of the list that a row names as its parent. -/
def parentRow (row : Category) : Option Category :=
  row.parentId.bind fun parent => rows.find? fun other => other.id = parent

variable {rows} {row upper top : Category}

theorem mem_of_up : ∀ row ∈ rows, ∀ upper, Up (parentRow rows) row upper → upper ∈ rows := by
  intro row _ upper up
  obtain ⟨parent, -, found⟩ := Option.bind_eq_some_iff.mp up
  exact List.mem_of_find?_eq_some found

theorem isRoot_iff : isRoot rows row = true ↔ parentRow rows row = none := by
  unfold isRoot parentRow
  cases row.parentId with
  | none => simp
  | some parent => simp

/-- Where ids are distinct, the row of the parent's id is the parent. -/
theorem up_iff (distinct : (rows.map (·.id)).Nodup) (there : upper ∈ rows) :
    Up (parentRow rows) row upper ↔ row.parentId = some upper.id := by
  rw [Up, parentRow, Option.bind_eq_some_iff]
  constructor
  · intro given
    obtain ⟨parent, named, found⟩ := given
    have same : upper.id = parent := by simpa using List.find?_some found
    rw [named, same]
  · intro named
    refine ⟨upper.id, named, ?_⟩
    cases found : rows.find? fun other => decide (other.id = upper.id) with
    | none => exact absurd (decide_eq_true rfl) (List.find?_eq_none.mp found upper there)
    | some other =>
        have same : other.id = upper.id := by simpa using List.find?_some found
        rw [List.inj_on_of_nodup_map distinct (List.mem_of_find?_eq_some found) there same]

theorem mem_childrenOf (distinct : (rows.map (·.id)).Nodup) (there : upper ∈ rows) :
    row ∈ childrenOf rows upper ↔ row ∈ rows ∧ Up (parentRow rows) row upper := by
  rw [childrenOf, List.mem_filter, up_iff distinct there, decide_eq_true_iff]

end Parents

section Counts

variable {rows : List Category} {row upper top : Category}

/-- Of different things, a value is at most one. -/
theorem sum_ite_eq {α : Type*} [DecidableEq α] {tops : List α} (distinct : tops.Nodup) (value : Option α) :
    (tops.map fun top => if value = some top then 1 else 0).sum = if ∃ top ∈ tops, value = some top then 1 else 0 := by
  induction tops with
  | nil => simp
  | cons first tops ih =>
      obtain ⟨absent, distinct⟩ := List.nodup_cons.mp distinct
      rw [List.map_cons, List.sum_cons, ih distinct]
      by_cases same : value = some first
      · have others : ¬ ∃ top ∈ tops, value = some top := by
          intro given
          obtain ⟨top, member, also⟩ := given
          exact absent (Option.some.inj (same.symm.trans also) ▸ member)
        rw [if_pos same, if_neg others, if_pos ⟨first, List.mem_cons_self, same⟩]
      · have cons : (∃ top ∈ first :: tops, value = some top) ↔ ∃ top ∈ tops, value = some top := by
          simp [same]
        simp only [same, if_false, Nat.zero_add, cons]

/-- How often a value is one of different things is how often it is each of them. -/
theorem sum_countP_eq {α β : Type*} [DecidableEq α] {tops : List α} (distinct : tops.Nodup) (heights : List β)
    (reach : β → Option α) :
    (tops.map fun top => heights.countP fun height => reach height = some top).sum =
      heights.countP fun height => ∃ top ∈ tops, reach height = some top := by
  induction heights with
  | nil => simp
  | cons height heights ih =>
      simp only [List.countP_cons, decide_eq_true_eq, List.sum_map_add, ih, sum_ite_eq distinct]

/-- In trees of different rows, a row occurs as often as some number of parents leads to one of them. -/
theorem count_forest {tops : List Category} {depth : Nat} (different : tops.Nodup)
    (each : ∀ top ∈ tops, (buildNode rows depth top).rows.count row =
      (List.range (depth + 1)).countP fun height => ancestor (parentRow rows) height row = some top) :
    (forestRows (tops.map (buildNode rows depth))).count row =
      (List.range (depth + 1)).countP fun height => ∃ top ∈ tops, ancestor (parentRow rows) height row = some top := by
  rw [forestRows_eq_flatMap, List.flatMap_map, List.count_flatMap, ← sum_countP_eq different]
  exact congrArg List.sum (List.map_congr_left each)

/-- The parent of a row's ancestor is its ancestor one level up. -/
theorem exists_child_iff (distinct : (rows.map (·.id)).Nodup) (member : row ∈ rows) (there : top ∈ rows) (height : Nat) :
    (∃ child ∈ childrenOf rows top, ancestor (parentRow rows) height row = some child) ↔
      ancestor (parentRow rows) (height + 1) row = some top := by
  rw [ancestor_succ, Option.bind_eq_some_iff]
  constructor
  · intro given
    obtain ⟨child, below, found⟩ := given
    exact ⟨child, found, ((mem_childrenOf distinct there).mp below).2⟩
  · intro given
    obtain ⟨child, found, up⟩ := given
    exact ⟨child, (mem_childrenOf distinct there).mpr ⟨mem_of_ancestor mem_of_up member found, up⟩, found⟩

theorem count_buildNode (distinct : (rows.map (·.id)).Nodup) (member : row ∈ rows) (there : top ∈ rows) (depth : Nat) :
    (buildNode rows depth top).rows.count row =
      (List.range (depth + 1)).countP fun height => ancestor (parentRow rows) height row = some top := by
  induction depth generalizing top with
  | zero =>
      by_cases same : row = top
      · simp [buildNode, CategoryNode.rows, forestRows, ancestor, same]
      · simp [buildNode, CategoryNode.rows, forestRows, ancestor, same, Ne.symm same]
  | succ depth ih =>
      have different : (childrenOf rows top).Nodup := distinct.of_map.filter _
      have below := count_forest different fun child inside => ih (List.mem_of_mem_filter inside)
      simp only [exists_child_iff distinct member there] at below
      have levels : List.range (depth + 1 + 1) = 0 :: (List.range (depth + 1)).map Nat.succ := List.range_succ_eq_map
      rw [buildNode, CategoryNode.rows, List.count_cons, below, levels, List.countP_cons, List.countP_map]
      congr 1
      by_cases same : row = top
      · simp [ancestor, same]
      · simp [ancestor, same, Ne.symm same]

/-- Through the roots a row occurs once for every height at which its parents end. -/
theorem count_treeOf (distinct : (rows.map (·.id)).Nodup) (member : row ∈ rows) :
    (forestRows (treeOf rows)).count row = (List.range (rows.length + 1)).countP fun height =>
      ∃ top ∈ rows.filter (isRoot rows), ancestor (parentRow rows) height row = some top :=
  count_forest (distinct.of_map.filter _) fun _ root =>
    count_buildNode distinct member (List.mem_of_mem_filter root) rows.length

theorem exists_root_iff (member : row ∈ rows) (height : Nat) :
    (∃ top ∈ rows.filter (isRoot rows), ancestor (parentRow rows) height row = some top) ↔
      ∃ top, ancestor (parentRow rows) height row = some top ∧ parentRow rows top = none := by
  constructor
  · intro given
    obtain ⟨top, root, found⟩ := given
    exact ⟨top, found, isRoot_iff.mp (List.mem_filter.mp root).2⟩
  · intro given
    obtain ⟨top, found, last⟩ := given
    exact ⟨top, List.mem_filter.mpr ⟨mem_of_ancestor mem_of_up member found, isRoot_iff.mpr last⟩, found⟩

/-- The parents end at one height at most, and below the number of rows. -/
theorem count_of_ends (distinct : (rows.map (·.id)).Nodup) (member : row ∈ rows)
    (ends : Ends (parentRow rows) row) : (forestRows (treeOf rows)).count row = 1 := by
  obtain ⟨height, top, found, last⟩ := ends_iff.mp ends
  have low := height_lt_length mem_of_up member found last
  have only (other : Nat) : (∃ top ∈ rows.filter (isRoot rows), ancestor (parentRow rows) other row = some top) ↔
      other = height := by
    rw [exists_root_iff member]
    constructor
    · intro given
      obtain ⟨top, there, root⟩ := given
      exact top_height_unique there root found last
    · rintro rfl
      exact ⟨top, found, last⟩
  rw [count_treeOf distinct member]
  simp only [only]
  have once := List.count_eq_one_of_mem List.nodup_range (List.mem_range.mpr (show height < rows.length + 1 by omega))
  rw [List.count_eq_countP] at once
  exact (List.countP_congr fun other _ => by simp).trans once

theorem count_of_runsIntoCycle (distinct : (rows.map (·.id)).Nodup) (member : row ∈ rows)
    (cycle : RunsIntoCycle (parentRow rows) row) : (forestRows (treeOf rows)).count row = 0 := by
  rw [count_treeOf distinct member, List.countP_eq_zero]
  intro height _ reached
  obtain ⟨top, found, last⟩ := (exists_root_iff member height).mp (of_decide_eq_true reached)
  exact not_runsIntoCycle (ends_iff.mpr ⟨height, top, found, last⟩) cycle

end Counts

section Children

variable {rows : List Category} {row top : Category}

@[simp] theorem buildNode_row (depth : Nat) (row : Category) : (buildNode rows depth row).row = row := by
  cases depth <;> rfl

/-- At every depth that a root leads to, the node still has all of its children. -/
theorem children_of_within (distinct : (rows.map (·.id)).Nodup) {node : CategoryNode} {depth height : Nat}
    (member : row ∈ rows) (found : ancestor (parentRow rows) height row = some top) (last : parentRow rows top = none)
    (enough : rows.length ≤ depth + height) (within : node.Within (buildNode rows depth row)) :
    node.row ∈ rows ∧ node.children.map CategoryNode.row = childrenOf rows node.row := by
  induction depth generalizing row height with
  | zero =>
      have low := height_lt_length mem_of_up member found last
      omega
  | succ depth ih =>
      rw [buildNode] at within
      cases within with
      | here =>
          refine ⟨member, ?_⟩
          rw [CategoryNode.children, CategoryNode.row, List.map_map]
          exact (List.map_congr_left fun child _ => buildNode_row depth child).trans (List.map_id _)
      | inside below within =>
          obtain ⟨child, inside, rfl⟩ := List.mem_map.mp below
          obtain ⟨there, up⟩ := (mem_childrenOf distinct member).mp inside
          have higher : ancestor (parentRow rows) (height + 1) child = some top := by
            rw [ancestor, up, Option.bind_some, found]
          exact ih there higher (by omega) within

theorem children_treeOf (distinct : (rows.map (·.id)).Nodup) {tree node : CategoryNode} (root : tree ∈ treeOf rows)
    (within : node.Within tree) : node.row ∈ rows ∧ node.children.map CategoryNode.row = childrenOf rows node.row := by
  obtain ⟨top, inside, rfl⟩ := List.mem_map.mp root
  obtain ⟨member, isTop⟩ := List.mem_filter.mp inside
  have level : ancestor (parentRow rows) 0 top = some top := rfl
  exact children_of_within distinct member level (isRoot_iff.mp isTop) (Nat.le_refl _) within

theorem roots_treeOf (rows : List Category) : (treeOf rows).map CategoryNode.row = rows.filter (isRoot rows) := by
  rw [treeOf, List.map_map]
  exact (List.map_congr_left fun top _ => buildNode_row rows.length top).trans (List.map_id _)

end Children

end Aicos.Catalog
