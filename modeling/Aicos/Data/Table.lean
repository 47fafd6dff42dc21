import Aicos.Data.Rows

namespace Aicos.Data

/-! Tables with a primary key, whose rows belong to tenants.

A foreign key looks a row up by its key alone; row-level security shows a tenant
only rows of its own.  A statement that violates a constraint fails. -/

class TenantRow (α : Type) where
  id : α → Nat
  tenantId : α → Nat

structure Table (α : Type) [TenantRow α] where
  rows : List α
  distinct : (rows.map TenantRow.id).Nodup

/-- An update keeps the key and the tenant of a row. -/
structure Change (α : Type) [TenantRow α] where
  apply : α → α
  id : ∀ row, TenantRow.id (apply row) = TenantRow.id row
  tenantId : ∀ row, TenantRow.tenantId (apply row) = TenantRow.tenantId row

/-- `cuid()`: a key that no row has. -/
structure KeySource where
  next : List Nat → Nat
  fresh : ∀ used, next used ∉ used

theorem le_foldr_max {used : List Nat} {key : Nat} (member : key ∈ used) : key ≤ used.foldr max 0 := by
  induction used with
  | nil => cases member
  | cons first rest ih =>
      rcases List.mem_cons.mp member with rfl | later
      · exact Nat.le_max_left _ _
      · exact (ih later).trans (Nat.le_max_right _ _)

/-- Keys counted up. -/
def KeySource.counting : KeySource where
  next := fun used => used.foldr max 0 + 1
  fresh := fun _ present => Nat.not_succ_le_self _ (le_foldr_max present)

/-- Prisma's P2002, P2003 and P2025, and a value that its column does not hold. -/
inductive DbError where
  | unique | foreignKey | recordNotFound | value
deriving DecidableEq

namespace Table

variable {α : Type} [TenantRow α]

def empty : Table α where
  rows := []
  distinct := List.nodup_nil

def find? (table : Table α) (id : Nat) : Option α :=
  table.rows.find? fun row => TenantRow.id row = id

def has (table : Table α) (id : Nat) : Bool :=
  (table.find? id).isSome

def ownerOf (table : Table α) (id : Nat) : Option Nat :=
  (table.find? id).map TenantRow.tenantId

/-- What row-level security shows of the row a key names. -/
def visible (table : Table α) (tenant id : Nat) : Option α :=
  (table.find? id).filter fun row => TenantRow.tenantId row = tenant

theorem find?_eq_none {table : Table α} {id : Nat} :
    table.find? id = none ↔ id ∉ table.rows.map TenantRow.id := by
  rw [find?, List.find?_eq_none]
  simp

def insert (row : α) (table : Table α) : Table α :=
  if fresh : table.find? (TenantRow.id row) = none then
    { rows := table.rows ++ [row]
      distinct := by
        rw [List.map_append]
        refine List.nodup_append.mpr ⟨table.distinct, List.nodup_singleton _, ?_⟩
        intro key present other new same
        rw [List.map_singleton, List.mem_singleton] at new
        exact find?_eq_none.mp fresh (new ▸ same ▸ present) }
  else table

def modify (selected : α → Bool) (change : Change α) (table : Table α) : Table α where
  rows := updateWhere selected change.apply table.rows
  distinct := by
    rw [map_updateWhere change.id]
    exact table.distinct

def update (id : Nat) (change : Change α) (table : Table α) : Table α :=
  table.modify (fun row => TenantRow.id row = id) change

def delete (id : Nat) (table : Table α) : Table α where
  rows := table.rows.filter fun row => TenantRow.id row ≠ id
  distinct := table.distinct.sublist (List.filter_sublist.map _)

section Lookup

variable {table : Table α} {row : α} {id tenant : Nat}

theorem find?_some (found : table.find? id = some row) : row ∈ table.rows ∧ TenantRow.id row = id :=
  ⟨List.mem_of_find?_eq_some found, by simpa using List.find?_some found⟩

theorem find?_of_mem (member : row ∈ table.rows) : table.find? (TenantRow.id row) = some row :=
  find?_of_key table.distinct member

theorem ownerOf_eq_some : table.ownerOf id = some tenant ↔
    ∃ row, table.find? id = some row ∧ TenantRow.tenantId row = tenant := by
  simp [ownerOf]

theorem visible_eq_some : table.visible tenant id = some row ↔
    table.find? id = some row ∧ TenantRow.tenantId row = tenant := by
  simp [visible, Option.filter_eq_some_iff]

theorem has_of_visible (shown : table.visible tenant id = some row) : table.has id = true := by
  rw [has, (visible_eq_some.mp shown).1]
  rfl

theorem rows_insert (fresh : table.find? (TenantRow.id row) = none) :
    (table.insert row).rows = table.rows ++ [row] := by
  rw [insert, dif_pos fresh]

theorem find?_insert (fresh : table.find? (TenantRow.id row) = none) (id : Nat) :
    (table.insert row).find? id = if TenantRow.id row = id then some row else table.find? id := by
  rw [find?, rows_insert fresh, List.find?_append]
  by_cases same : TenantRow.id row = id
  · subst same
    have absent : table.rows.find? (fun other => TenantRow.id other = TenantRow.id row) = none := fresh
    simp [absent]
  · simp [same, find?]

theorem mem_modify {selected : α → Bool} {change : Change α} :
    row ∈ (table.modify selected change).rows ↔
      ∃ old ∈ table.rows, (if selected old then change.apply old else old) = row :=
  mem_updateWhere

@[simp] theorem find?_modify (selected : α → Bool) (change : Change α) (id : Nat) :
    (table.modify selected change).find? id =
      (table.find? id).map fun row => if selected row then change.apply row else row :=
  find?_updateWhere_key change.id

@[simp] theorem ownerOf_modify (selected : α → Bool) (change : Change α) (id : Nat) :
    (table.modify selected change).ownerOf id = table.ownerOf id := by
  rw [ownerOf, find?_modify, Option.map_map, ownerOf]
  congr 1
  funext row
  by_cases hit : selected row = true <;> simp [hit, change.tenantId]

theorem find?_delete {other : Nat} (apart : other ≠ id) : (table.delete id).find? other = table.find? other := by
  rw [find?, delete, List.find?_filter, find?]
  congr 1
  funext row
  by_cases same : TenantRow.id row = other <;> simp [same, apart]

variable {Good : α → Prop} {change : Change α}

theorem forall_insert (fresh : table.find? (TenantRow.id row) = none) :
    (∀ other ∈ (table.insert row).rows, Good other) ↔ (∀ other ∈ table.rows, Good other) ∧ Good row := by
  simp [rows_insert fresh, or_imp, forall_and]

theorem forall_modify {selected : α → Bool} (all : ∀ other ∈ table.rows, Good other)
    (kept : ∀ other, Good other → Good (change.apply other)) :
    ∀ other ∈ (table.modify selected change).rows, Good other := by
  intro other member
  obtain ⟨old, present, rfl⟩ := mem_modify.mp member
  split
  · exact kept old (all old present)
  · exact all old present

theorem forall_update (found : table.find? id = some row) (all : ∀ other ∈ table.rows, Good other) :
    (∀ other ∈ (table.update id change).rows, Good other) ↔ Good (change.apply row) := by
  constructor
  · intro updated
    obtain ⟨member, same⟩ := find?_some found
    exact updated _ (mem_modify.mpr ⟨row, member, by simp [same]⟩)
  · intro good other member
    obtain ⟨old, present, rfl⟩ := mem_modify.mp member
    split
    · rename_i same
      have mine : table.find? id = some old := of_decide_eq_true same ▸ find?_of_mem present
      obtain rfl : row = old := Option.some.inj (found.symm.trans mine)
      exact good
    · exact all old present

end Lookup

/-- A reference that is set names a row of the tenant. -/
def Owns (table : Table α) (tenant : Nat) (reference : Option Nat) : Prop :=
  ∀ id ∈ reference, table.ownerOf id = some tenant

instance (table : Table α) (tenant : Nat) (reference : Option Nat) : Decidable (table.Owns tenant reference) := by
  unfold Owns
  infer_instance

/-- What a foreign key checks. -/
def admits (table : Table α) (reference : Option Nat) : Bool :=
  reference.all table.has

/-- Rows stay, with their tenants. -/
def Keeps (before after : Table α) : Prop :=
  ∀ id tenant, before.ownerOf id = some tenant → after.ownerOf id = some tenant

theorem Keeps.refl (table : Table α) : table.Keeps table :=
  fun _ _ same => same

theorem Keeps.modify (table : Table α) (selected : α → Bool) (change : Change α) :
    table.Keeps (table.modify selected change) :=
  fun id _ same => (table.ownerOf_modify selected change id).trans same

theorem Keeps.insert (table : Table α) (row : α) : table.Keeps (table.insert row) := by
  intro id tenant same
  by_cases fresh : table.find? (TenantRow.id row) = none
  · rw [ownerOf, find?_insert fresh]
    split
    · rename_i mine
      subst mine
      simp [ownerOf, fresh] at same
    · exact same
  · rw [Table.insert, dif_neg fresh]
    exact same

theorem Owns.mono {before after : Table α} {tenant : Nat} {reference : Option Nat}
    (owns : before.Owns tenant reference) (keeps : before.Keeps after) : after.Owns tenant reference :=
  fun id set => keeps id tenant (owns id set)

section Constrained

/-! Statements under the constraints of a table: `clash` says which rows a unique
index keeps apart, `foreign` whether the foreign keys of a row are met. -/

variable (clash : α → α → Bool) (foreign : α → Bool)

def tryInsert (row : α) (table : Table α) : Except DbError (Table α) :=
  if table.has (TenantRow.id row) ∨ table.rows.any (clash row) then .error .unique
  else if ¬ foreign row then .error .foreignKey
  else .ok (table.insert row)

/-- `update({ where: { id } })` inside the tenant's transaction. -/
def tryUpdate (tenant id : Nat) (change : Change α) (table : Table α) : Except DbError (Table α) :=
  match table.visible tenant id with
  | none => .error .recordNotFound
  | some row =>
      if table.rows.any fun other => TenantRow.id other ≠ id ∧ clash (change.apply row) other then .error .unique
      else if ¬ foreign (change.apply row) then .error .foreignKey
      else .ok (table.update id change)

variable {clash foreign} {table after : Table α} {row : α} {tenant id : Nat} {change : Change α}

theorem tryInsert_ok_iff : table.tryInsert clash foreign row = .ok after ↔
    table.find? (TenantRow.id row) = none ∧ (∀ other ∈ table.rows, clash row other = false) ∧
      foreign row = true ∧ after = table.insert row := by
  unfold tryInsert
  split
  · rename_i taken
    refine iff_of_false (by simp) fun ⟨fresh, free, _⟩ => ?_
    rcases taken with present | clashing
    · simp [has, fresh] at present
    · obtain ⟨other, member, clashes⟩ := List.any_eq_true.mp clashing
      simp [free other member] at clashes
  · rename_i free
    obtain ⟨fresh, apart⟩ := not_or.mp free
    have fresh' : table.find? (TenantRow.id row) = none := by simpa [has] using fresh
    have apart' : ∀ other ∈ table.rows, clash row other = false := by simpa using apart
    by_cases met : foreign row = true
    · simp only [met, not_true_eq_false, if_false, Except.ok.injEq, true_and]
      exact ⟨fun same => ⟨fresh', apart', same.symm⟩, fun ⟨_, _, same⟩ => same.symm⟩
    · simp [met]

theorem tryInsert_ok (inserted : table.tryInsert clash foreign row = .ok after) :
    table.find? (TenantRow.id row) = none ∧ foreign row = true ∧ after = table.insert row := by
  obtain ⟨fresh, _, met, rfl⟩ := tryInsert_ok_iff.mp inserted
  exact ⟨fresh, met, rfl⟩

/-- A fresh row meets a unique index only in a row that is there already. -/
theorem tryInsert_unique_iff (fresh : table.find? (TenantRow.id row) = none) :
    table.tryInsert clash foreign row = .error .unique ↔ ∃ other ∈ table.rows, clash row other = true := by
  have absent : table.has (TenantRow.id row) = false := by rw [has, fresh]; rfl
  unfold tryInsert
  split
  · rename_i taken
    exact iff_of_true rfl (List.any_eq_true.mp (taken.resolve_left (by simp [absent])))
  · rename_i free
    refine iff_of_false ?_ fun clashing => free (.inr (List.any_eq_true.mpr clashing))
    split <;> simp

theorem tryUpdate_ok_iff : table.tryUpdate clash foreign tenant id change = .ok after ↔
    ∃ row, table.visible tenant id = some row ∧
      (∀ other ∈ table.rows, TenantRow.id other ≠ id → clash (change.apply row) other = false) ∧
      foreign (change.apply row) = true ∧ after = table.update id change := by
  unfold tryUpdate
  cases table.visible tenant id with
  | none => simp
  | some row =>
      simp only [Option.some.injEq, exists_eq_left']
      split
      · rename_i clashing
        obtain ⟨other, member, apart⟩ := List.any_eq_true.mp clashing
        obtain ⟨beside, clashes⟩ := of_decide_eq_true apart
        refine iff_of_false (by simp) fun updated => ?_
        rw [updated.1 other member beside] at clashes
        cases clashes
      · rename_i free
        have apart : ∀ other ∈ table.rows, TenantRow.id other ≠ id → clash (change.apply row) other = false := by
          simpa using free
        by_cases met : foreign (change.apply row) = true
        · rw [if_neg (not_not.mpr met), Except.ok.injEq, eq_comm]
          exact ⟨fun same => ⟨apart, met, same⟩, fun updated => updated.2.2⟩
        · simp [met]

theorem tryUpdate_ok (updated : table.tryUpdate clash foreign tenant id change = .ok after) :
    ∃ row, table.visible tenant id = some row ∧ foreign (change.apply row) = true ∧ after = table.update id change := by
  obtain ⟨row, shown, _, met, rfl⟩ := tryUpdate_ok_iff.mp updated
  exact ⟨row, shown, met, rfl⟩

end Constrained

/-! A unique index keeps rows apart, as long as every statement is checked against it. -/

section UniqueIndex

variable {clash : α → α → Bool} {foreign : α → Bool} {table after : Table α} {tenant id : Nat} {row : α}
  {change : Change α}

def Apart (clash : α → α → Bool) (table : Table α) : Prop :=
  ∀ first ∈ table.rows, ∀ second ∈ table.rows, TenantRow.id first ≠ TenantRow.id second → clash first second = false

theorem apart_empty : (empty : Table α).Apart clash :=
  nofun

/-- The index finds one row at most. -/
theorem Apart.eq_of_clash (apart : table.Apart clash) {first second : α} (here : first ∈ table.rows)
    (there : second ∈ table.rows) (clashes : clash first second = true) : first = second := by
  by_contra different
  have keys : TenantRow.id first ≠ TenantRow.id second := fun same =>
    different (List.inj_on_of_nodup_map table.distinct here there same)
  rw [apart first here second there keys] at clashes
  cases clashes

section Statements

variable (symmetric : ∀ first second, clash first second = clash second first)

include symmetric

theorem Apart.tryInsert (apart : table.Apart clash) (inserted : table.tryInsert clash foreign row = .ok after) :
    after.Apart clash := by
  obtain ⟨fresh, free, _, rfl⟩ := tryInsert_ok_iff.mp inserted
  refine (forall_insert fresh).mpr ⟨fun first here => ?_, ?_⟩
  · refine (forall_insert fresh).mpr ⟨apart first here, fun _ => ?_⟩
    rw [symmetric]
    exact free first here
  · exact (forall_insert fresh).mpr ⟨fun second there _ => free second there, fun keys => absurd rfl keys⟩

theorem Apart.tryUpdate (apart : table.Apart clash)
    (updated : table.tryUpdate clash foreign tenant id change = .ok after) : after.Apart clash := by
  obtain ⟨row, shown, free, _, rfl⟩ := tryUpdate_ok_iff.mp updated
  obtain ⟨found, _⟩ := visible_eq_some.mp shown
  have only {old : α} (member : old ∈ table.rows) (named : TenantRow.id old = id) : old = row :=
    Option.some.inj ((find?_of_mem member).symm.trans (named ▸ found))
  intro first here second there keys
  obtain ⟨old, member, rfl⟩ := mem_modify.mp here
  obtain ⟨other, beside, rfl⟩ := mem_modify.mp there
  by_cases hit : TenantRow.id old = id
  · by_cases both : TenantRow.id other = id
    · -- both are the one row of the update
      simp only [hit, both, decide_true, if_true, change.id, ne_eq, not_true_eq_false] at keys
    · simp only [hit, both, decide_true, decide_false, if_true, Bool.false_eq_true, if_false]
      rw [only member hit]
      exact free other beside both
  · by_cases both : TenantRow.id other = id
    · simp only [hit, both, decide_true, decide_false, if_true, Bool.false_eq_true, if_false]
      rw [only beside both, symmetric]
      exact free old member hit
    · simp only [hit, both, decide_false, Bool.false_eq_true, if_false] at keys ⊢
      exact apart old member other beside keys

/-- A change beside the columns of the index. -/
theorem Apart.modify (apart : table.Apart clash) (selected : α → Bool)
    (kept : ∀ first second, clash (change.apply first) second = clash first second) :
    (table.modify selected change).Apart clash := by
  have both (first second : α) : clash (if selected first then change.apply first else first)
      (if selected second then change.apply second else second) = clash first second := by
    by_cases one : selected first = true <;> by_cases two : selected second = true <;> simp only [one, two, if_true,
      Bool.false_eq_true, if_false, kept, symmetric _ (change.apply second), symmetric second]
  have key (row : α) : TenantRow.id (if selected row then change.apply row else row) = TenantRow.id row := by
    split
    · exact change.id row
    · rfl
  intro first here second there keys
  obtain ⟨old, member, rfl⟩ := mem_modify.mp here
  obtain ⟨other, beside, rfl⟩ := mem_modify.mp there
  rw [key, key] at keys
  rw [both]
  exact apart old member other beside keys

end Statements

end UniqueIndex

end Table

end Aicos.Data
