import Aicos.Catalog.CategoryTree
import Aicos.Catalog.Requests
import Aicos.Commerce.Tables
import Aicos.Transition.Run

namespace Aicos.Properties

open Aicos.Catalog Aicos.Commerce Aicos.Data Aicos.Transition

/-! Parents of categories.  An update compares the new parent with the category
alone, so a category can be moved below one that is below it. -/

/-- Parents have no cycle, and every category that is not deleted is in the tree. -/
structure Forest (platform : Platform) : Prop where
  acyclic : Acyclic (parentOf platform)
  shown : ∀ collate, ∀ row ∈ platform.categories.rows, row.deletedAt = none →
    ∃ node ∈ tree collate row.tenantId platform, node.Occurs row

/-- The foreign key of the parents. -/
def ParentsKnown (platform : Platform) : Prop :=
  ∀ row ∈ platform.categories.rows, ∀ parent ∈ row.parentId, platform.categories.has parent = true

/-- No update that the checks let pass moves a category to one that it is above. -/
def MovesAside (platform : Platform) (action : CatalogAction) : Prop :=
  match action.request with
  | .updateCategory id dto => ∀ parent, dto.parentId = .id parent → parent ≠ id →
      (findCategory action.tenant platform id).isSome = true →
      (findCategory action.tenant platform parent).isSome = true →
      (platform.updateCategory action.tenant id (categoryChange dto)).isOk = true →
      ¬ Reaches (parentOf platform) parent id
  | _ => True

/-- The requests of `CategoriesService`. -/
def onCategories (action : CatalogAction) : Prop :=
  match action.request with
  | .createCategory _ _ | .updateCategory _ _ | .removeCategory _ _ => True
  | _ => False

variable {nfkd : String → String} {tenant : TenantId} {platform after : Platform} {id : CategoryId}

theorem forest_iff_acyclic : Forest platform ↔ Acyclic (parentOf platform) :=
  ⟨Forest.acyclic, fun acyclic => ⟨acyclic, fun collate _ member live => occurs_tree collate acyclic member live⟩⟩

section Parents

theorem parentOf_insert {row : Category} (fresh : platform.categories.find? row.id = none) :
    parentOf { platform with categories := platform.categories.insert row } =
      Function.update (parentOf platform) row.id row.parentId := by
  funext other
  have found : (platform.categories.insert row).find? other =
      if TenantRow.id row = other then some row else platform.categories.find? other :=
    Table.find?_insert fresh other
  by_cases same : other = row.id
  · subst same
    simp only [parentOf, found, Function.update_self]
    simp [TenantRow.id]
  · have apart : ¬ TenantRow.id row = other := fun equal => same equal.symm
    rw [Function.update_of_ne same]
    simp only [parentOf, found, if_neg apart]

theorem parentOf_update {row : Category} {change : Change Category} (found : platform.categories.find? id = some row) :
    parentOf { platform with categories := platform.categories.update id change } =
      Function.update (parentOf platform) id (change.apply row).parentId := by
  funext other
  simp only [parentOf, Table.update, Table.find?_modify]
  by_cases same : other = id
  · subst same
    have key : TenantRow.id row = other := (Table.find?_some found).2
    simp [found, key]
  · rw [Function.update_of_ne same]
    cases there : platform.categories.find? other with
    | none => simp [parentOf, there]
    | some old =>
        have key : ¬ TenantRow.id old = id := fun equal => same ((Table.find?_some there).2.symm.trans equal)
        simp [key, parentOf, there]

end Parents

theorem findCategory_some {row : Category} (found : findCategory tenant platform id = some row) :
    platform.categories.visible tenant id = some row :=
  (Option.filter_eq_some_iff.mp found).1

theorem assertParentExists_iff {parent : CategoryId} {result : Unit} :
    assertParentExists tenant platform (.id parent) = .ok result ↔
      (findCategory tenant platform parent).isSome = true := by
  rw [assertParentExists, bind_eq_ok, Option.isSome_iff_exists]
  exact ⟨fun ⟨row, found, _⟩ => ⟨row, orThrow_ok.mp found⟩, fun ⟨row, found⟩ => ⟨row, orThrow_ok.mpr found, rfl⟩⟩

/-- An update that names a parent goes through where both rows are found and the constraints are met. -/
theorem updateCategory_iff {dto : UpdateCategoryDto} {parent : CategoryId} (named : dto.parentId = .id parent) :
    Catalog.updateCategory tenant platform id dto = .ok after ↔
      (findCategory tenant platform id).isSome = true ∧ parent ≠ id ∧
        (findCategory tenant platform parent).isSome = true ∧
        platform.updateCategory tenant id (categoryChange dto) = .ok after := by
  simp only [Catalog.updateCategory, named]
  constructor
  · intro ran
    obtain ⟨row, found, ran⟩ := bind_eq_ok.mp ran
    obtain ⟨_, checked, ran⟩ := bind_eq_ok.mp ran
    obtain ⟨_, _, updated⟩ := bind_eq_ok.mp (mapUnique_ok.mp ran)
    rw [checkParent] at checked
    split at checked
    · cases checked
    · rename_i apart
      exact ⟨Option.isSome_iff_exists.mpr ⟨row, orThrow_ok.mp found⟩, apart, assertParentExists_iff.mp checked, updated⟩
  · intro given
    obtain ⟨found, apart, parentFound, updated⟩ := given
    obtain ⟨row, found⟩ := Option.isSome_iff_exists.mp found
    obtain ⟨upper, parentFound'⟩ := Option.isSome_iff_exists.mp parentFound
    refine bind_eq_ok.mpr ⟨row, orThrow_ok.mpr found, bind_eq_ok.mpr ⟨(), ?_, mapUnique_ok.mpr ?_⟩⟩
    · rw [checkParent, if_neg apart]
      exact assertParentExists_iff.mpr parentFound
    · refine bind_eq_ok.mpr ⟨(), ?_, updated⟩
      rw [connect, findCategory_some parentFound']
      rfl

section Steps

theorem ParentsKnown.insertCategory {row : Category} {dangling : Bool} (known : ParentsKnown platform)
    (inserted : platform.insertCategory dangling row = .ok after) :
    ParentsKnown after ∧ platform.categories.find? row.id = none ∧
      parentOf after = Function.update (parentOf platform) row.id row.parentId ∧
      ∀ parent ∈ row.parentId, platform.categories.has parent = true := by
  obtain ⟨categories, ran, rfl⟩ := map_eq_ok.mp inserted
  obtain ⟨fresh, foreign, rfl⟩ := Table.tryInsert_ok ran
  have parents : ∀ parent ∈ row.parentId, platform.categories.has parent = true := by
    intro parent named
    obtain ⟨_, admitted⟩ := of_decide_eq_true foreign
    rw [Platform.categoryForeign, Table.admits, named] at admitted
    exact admitted
  have keeps {other : CategoryId} (present : platform.categories.has other = true) :
      (platform.categories.insert row).has other = true := by
    rw [Table.has, Table.find?_insert fresh]
    split
    · rfl
    · exact present
  refine ⟨fun other member parent named => ?_, fresh, parentOf_insert fresh, parents⟩
  have all : ∀ other ∈ (platform.categories.insert row).rows, ∀ parent ∈ other.parentId,
      platform.categories.has parent = true := (Table.forall_insert fresh).mpr ⟨known, parents⟩
  exact keeps (all other member parent named)

theorem ParentsKnown.updateCategory {change : Change Category} (known : ParentsKnown platform)
    (updated : platform.updateCategory tenant id change = .ok after) :
    ParentsKnown after ∧ ∃ row, platform.categories.find? id = some row ∧
      parentOf after = Function.update (parentOf platform) id (change.apply row).parentId := by
  obtain ⟨categories, ran, rfl⟩ := map_eq_ok.mp updated
  obtain ⟨row, shown, foreign, rfl⟩ := Table.tryUpdate_ok ran
  have found := (Table.visible_eq_some.mp shown).1
  have parents : ∀ parent ∈ (change.apply row).parentId, platform.categories.has parent = true := by
    intro parent named
    rw [Platform.categoryForeign, Table.admits, named] at foreign
    exact foreign
  have keeps {other : CategoryId} (present : platform.categories.has other = true) :
      (platform.categories.update id change).has other = true := by
    rw [Table.has, Table.update, Table.find?_modify, Option.isSome_map]
    exact present
  refine ⟨fun other member parent named => ?_, row, found, parentOf_update found⟩
  have all : ∀ other ∈ (platform.categories.update id change).rows, ∀ parent ∈ other.parentId,
      platform.categories.has parent = true := (Table.forall_update found known).mpr parents
  exact keeps (all other member parent named)

theorem createCategory_inserted {dto : CreateCategoryDto}
    (ran : Catalog.createCategory nfkd tenant platform id dto = .ok after) :
    platform.insertCategory (dto.parentId = .empty)
      (categoryOf id tenant (dto.slug.getD (slugify nfkd dto.name)) dto) = .ok after := by
  simp only [Catalog.createCategory] at ran
  split at ran
  · obtain ⟨_, _, ran⟩ := bind_eq_ok.mp ran
    exact mapUnique_ok.mp ran
  · exact mapUnique_ok.mp ran

theorem updateCategory_updated {dto : UpdateCategoryDto}
    (ran : Catalog.updateCategory tenant platform id dto = .ok after) :
    dto.parentId ≠ .empty ∧ platform.updateCategory tenant id (categoryChange dto) = .ok after := by
  obtain ⟨_, _, ran⟩ := bind_eq_ok.mp ran
  obtain ⟨_, checked, ran⟩ := bind_eq_ok.mp ran
  obtain ⟨_, _, updated⟩ := bind_eq_ok.mp (mapUnique_ok.mp ran)
  refine ⟨fun empty => ?_, updated⟩
  rw [empty] at checked
  cases checked

theorem removeCategory_updated {now : Instant} (ran : Catalog.removeCategory tenant platform id now = .ok after) :
    platform.updateCategory tenant id (removeCategoryChange now) = .ok after := by
  obtain ⟨_, _, ran⟩ := bind_eq_ok.mp ran
  exact fromDb_ok.mp ran

end Steps

theorem ParentsKnown.step (known : ParentsKnown platform) (action : CatalogAction) (allowed : onCategories action) :
    ParentsKnown (Catalog.step nfkd platform action) := by
  obtain ⟨tenant, request⟩ := action
  refine step_keeps nfkd known fun after ran => ?_
  cases request with
  | createCategory id dto => exact (known.insertCategory (createCategory_inserted ran)).1
  | updateCategory id dto => exact (known.updateCategory (updateCategory_updated ran).2).1
  | removeCategory id now => exact (known.updateCategory (removeCategory_updated ran)).1
  | _ => exact allowed.elim

/-- A category is created at the end of a path: nothing names it yet. -/
theorem acyclic_createCategory {dto : CreateCategoryDto} (known : ParentsKnown platform)
    (acyclic : Acyclic (parentOf platform)) (ran : Catalog.createCategory nfkd tenant platform id dto = .ok after) :
    Acyclic (parentOf after) := by
  obtain ⟨_, fresh, parents, named⟩ := known.insertCategory (createCategory_inserted ran)
  rw [parents]
  refine (acyclic_update_iff acyclic).mpr fun parent present path => ?_
  have absent : platform.categories.find? id = none := fresh
  rcases Relation.ReflTransGen.cases_tail path with same | ⟨lower, _, up⟩
  · have there := named parent present
    rw [Table.has, ← same] at there
    change (platform.categories.find? id).isSome = true at there
    rw [absent] at there
    cases there
  · obtain ⟨row, found, up⟩ := Option.bind_eq_some_iff.mp (up : parentOf platform lower = some _)
    have there := known row (Table.find?_some found).1 _ up
    change (platform.categories.find? id).isSome = true at there
    rw [absent] at there
    cases there

theorem acyclic_updateCategory_iff {dto : UpdateCategoryDto} (known : ParentsKnown platform)
    (acyclic : Acyclic (parentOf platform)) (ran : Catalog.updateCategory tenant platform id dto = .ok after) :
    Acyclic (parentOf after) ↔ ∀ parent, dto.parentId = .id parent → ¬ Reaches (parentOf platform) parent id := by
  obtain ⟨filled, updated⟩ := updateCategory_updated ran
  obtain ⟨_, row, found, parents⟩ := known.updateCategory updated
  rw [parents]
  cases field : dto.parentId with
  | undefined =>
      have same : Function.update (parentOf platform) id ((categoryChange dto).apply row).parentId = parentOf platform := by
        simp [categoryChange, field, IdField.relation, parentOf, found]
      rw [same]
      simp [acyclic]
  | null =>
      rw [acyclic_update_iff acyclic]
      simp [categoryChange, field, IdField.relation, IdField.column]
  | empty => exact absurd field filled
  | id parent =>
      rw [acyclic_update_iff acyclic]
      simp [categoryChange, field, IdField.relation, IdField.column]

theorem forest_step_iff (action : CatalogAction) (allowed : onCategories action) (known : ParentsKnown platform)
    (forest : Forest platform) : Forest (Catalog.step nfkd platform action) ↔ MovesAside platform action := by
  obtain ⟨tenant, request⟩ := action
  cases request with
  | createCategory id dto =>
      refine iff_of_true (step_keeps nfkd forest fun after ran => ?_) trivial
      exact forest_iff_acyclic.mpr (acyclic_createCategory known forest.acyclic ran)
  | updateCategory id dto =>
      simp only [Catalog.step, CatalogRequest.run, MovesAside]
      cases ran : Catalog.updateCategory tenant platform id dto with
      | ok after =>
          rw [forest_iff_acyclic, acyclic_updateCategory_iff known forest.acyclic ran]
          refine forall_congr' fun parent => forall_congr' fun named => ?_
          obtain ⟨found, apart, parentFound, updated⟩ := (updateCategory_iff named).mp ran
          exact ⟨fun beside _ _ _ _ => beside, fun guarded => guarded apart found parentFound (by rw [updated]; rfl)⟩
      | error error =>
          refine iff_of_true forest fun parent named apart found parentFound passes => ?_
          cases updated : platform.updateCategory tenant id (categoryChange dto) with
          | ok after =>
              rw [(updateCategory_iff named).mpr ⟨found, apart, parentFound, updated⟩] at ran
              cases ran
          | error _ =>
              rw [updated] at passes
              cases passes
  | removeCategory id now =>
      refine iff_of_true (step_keeps nfkd forest fun after ran => ?_) trivial
      obtain ⟨_, row, found, parents⟩ := known.updateCategory (removeCategory_updated ran)
      have same : Function.update (parentOf platform) id ((removeCategoryChange now).apply row).parentId =
          parentOf platform := by
        simp [removeCategoryChange, parentOf, found]
      rw [forest_iff_acyclic, parents, same]
      exact forest.acyclic
  | _ => exact allowed.elim

/-- Categories stay a forest, and with it in the tree, exactly as long as no update
moves one below itself. -/
theorem forest_iff_moves_aside {nfkd : String → String} {platform : Platform} (known : ParentsKnown platform)
    (forest : Forest platform) {actions : List CatalogAction} (requests : ∀ action ∈ actions, onCategories action) :
    Visits (Catalog.step nfkd) Forest platform actions ↔ Along (Catalog.step nfkd) MovesAside platform actions := by
  have framed : ∀ platform action, onCategories action → ParentsKnown platform →
      ParentsKnown (Catalog.step nfkd platform action) := fun _ action allowed known => known.step action allowed
  exact visits_iff_along framed (fun _ action allowed known forest => forest_step_iff action allowed known forest)
    requests known forest

def category (id : CategoryId) (parentId : IdField) : CatalogAction :=
  ⟨1, .createCategory id ⟨"Tea", some s!"tea-{id}", parentId, none, none, none⟩⟩

def movedBelow (id parent : CategoryId) : CatalogAction :=
  ⟨1, .updateCategory id ⟨none, none, .id parent, none, none, none⟩⟩

theorem emptyShop_known : ParentsKnown emptyShop := by
  intro row member
  cases member

theorem emptyShop_forest : Forest emptyShop := by
  refine forest_iff_acyclic.mpr fun start cycle => ?_
  obtain ⟨next, up, _⟩ := Relation.TransGen.head'_iff.mp cycle
  cases up

def circle : List CatalogAction :=
  [category 1 .undefined, category 2 (.id 1), movedBelow 1 2]

/-- Tea is moved below Green Tea, which is below Tea, and both leave the tree. -/
theorem two_categories_in_a_circle :
    ¬ ∀ nfkd platform actions, ParentsKnown platform → Forest platform → (∀ action ∈ actions, onCategories action) →
      Visits (Catalog.step nfkd) Forest platform actions := by
  intro always
  have visits := always (fun text => text) emptyShop circle emptyShop_known emptyShop_forest
    (by simp [circle, onCategories, category, movedBelow])
  have below : Up (parentOf (run (Catalog.step fun text => text) emptyShop circle)) 1 2 := by
    rw [Up]
    decide
  have above : Up (parentOf (run (Catalog.step fun text => text) emptyShop circle)) 2 1 := by
    rw [Up]
    decide
  exact visits.last.acyclic 1 ((Relation.TransGen.single below).tail above)

def teaChain : List CatalogAction :=
  [category 1 .undefined, category 2 (.id 1), movedBelow 2 1]

theorem forest_iff_moves_aside_of_chain :
    (Visits (Catalog.step fun text => text) Forest emptyShop teaChain ↔
      Along (Catalog.step fun text => text) MovesAside emptyShop teaChain) ∧
    Visits (Catalog.step fun text => text) Forest emptyShop teaChain := by
  have exactly : Visits (Catalog.step fun text => text) Forest emptyShop teaChain ↔
      Along (Catalog.step fun text => text) MovesAside emptyShop teaChain :=
    forest_iff_moves_aside emptyShop_known emptyShop_forest (by simp [teaChain, onCategories, category, movedBelow])
  refine ⟨exactly, exactly.mpr ⟨trivial, trivial, fun parent named _ _ _ _ reaches => ?_, trivial⟩⟩
  -- the first category has no parent to go up to
  cases named
  obtain same | ⟨next, up, _⟩ := Relation.ReflTransGen.cases_head reaches
  · cases same
  · cases up

end Aicos.Properties
