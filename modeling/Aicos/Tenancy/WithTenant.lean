import Aicos.Transaction.RowSecurity

namespace Aicos.Tenancy

open Aicos.Transaction.RowSecurity

/-! `withTenant` and `withSystem`, on the tables that carry the `tenant_isolation`
policy.  The application role is subject to it: it neither owns BYPASSRLS nor is
it a superuser. -/

universe u v w

variable {T : Type u} {Row : T → Type v} {V : Type w}

def tenantGuc : String := "app.current_tenant"

def bypassGuc : String := "app.bypass_rls"

/-- SQL `=`, which is NULL where one side is. -/
def sqlEq (left right : Option String) : Option Bool :=
  match left, right with
  | some left, some right => some (left = right)
  | _, _ => none

def sqlOr : Option Bool → Option Bool → Option Bool
  | some true, _ => some true
  | _, some true => some true
  | some false, some false => some false
  | _, _ => none

theorem sqlEq_true {left right : Option String} :
    sqlEq left right = some true ↔ ∃ value, left = some value ∧ right = some value := by
  cases left <;> cases right <;> simp [sqlEq, eq_comm]

theorem sqlOr_true {left right : Option Bool} :
    sqlOr left right = some true ↔ left = some true ∨ right = some true := by
  rcases left with _ | _ | _ <;> rcases right with _ | _ | _ <;> decide

/-- The condition of the policy, on the tenant column of a row. -/
def tenantCondition (connection : Connection) (column : Option String) : Bool :=
  sqlOr (sqlEq column (connection.currentSetting tenantGuc))
    (sqlEq (connection.currentSetting bypassGuc) (some "on")) = some true

/-- `CREATE POLICY tenant_isolation`; `column` is the tenant column of each table. -/
def tenantIsolation (column : ∀ table, Row table → Option String) (connection : Connection) : Policy Row where
  visible := fun table row => tenantCondition connection (column table row)
  admits := fun table row => tenantCondition connection (column table row)

theorem tenantIsolation_confined (column : ∀ table, Row table → Option String) (connection : Connection) :
    (tenantIsolation column connection).Confined :=
  fun _ _ admitted => admitted

/-- What is left after a call: its answers, the connection it gives back, the rows. -/
structure Outcome (Row : T → Type v) (V : Type w) where
  answers : Except String (List (Except SqlError V))
  connection : Connection
  tables : Tables Row

variable [DecidableEq T]

def withTenant (column : ∀ table, Row table → Option String) (tenantId : String)
    (statements : List (Statement Row V)) (thrown : Bool) (connection : Connection) (tables : Tables Row) :
    Outcome Row V :=
  if tenantId = "" then
    { answers := .error "withTenant() requires a non-empty tenantId", connection, tables }
  else
    let opened := connection.setLocal tenantGuc tenantId
    let done := (tenantIsolation column opened).transaction statements thrown tables
    { answers := .ok done.1, connection := opened.finish, tables := done.2 }

def withSystem (column : ∀ table, Row table → Option String) (statements : List (Statement Row V))
    (thrown : Bool) (connection : Connection) (tables : Tables Row) : Outcome Row V :=
  let opened := connection.setLocal bypassGuc "on"
  let done := (tenantIsolation column opened).transaction statements thrown tables
  { answers := .ok done.1, connection := opened.finish, tables := done.2 }

/-- An earlier use of a pooled connection. -/
inductive Use (Row : T → Type v) (V : Type w) where
  | tenant (tenantId : String) (statements : List (Statement Row V)) (thrown : Bool)
  | system (statements : List (Statement Row V)) (thrown : Bool)

def Use.run (column : ∀ table, Row table → Option String) (connection : Connection) (tables : Tables Row) :
    Use Row V → Outcome Row V
  | .tenant tenantId statements thrown => withTenant column tenantId statements thrown connection tables
  | .system statements thrown => withSystem column statements thrown connection tables

/-- The connection as its uses leave it; other connections change the rows in between. -/
def pooled (column : ∀ table, Row table → Option String) :
    List (Use Row V × Tables Row) → Connection → Connection
  | [], connection => connection
  | (use, tables) :: rest, connection => pooled column rest (use.run column connection tables).connection

variable (column : ∀ table, Row table → Option String)

theorem Use.run_settled {connection : Connection} (settled : connection.Settled) (use : Use Row V)
    (tables : Tables Row) : (use.run column connection tables).connection.Settled := by
  cases use with
  | tenant tenantId statements thrown =>
      rw [Use.run, withTenant]
      split
      · exact settled
      · exact settled.finish_setLocal tenantGuc tenantId
  | system statements thrown => exact settled.finish_setLocal bypassGuc "on"

theorem pooled_settled (history : List (Use Row V × Tables Row)) {connection : Connection}
    (settled : connection.Settled) : (pooled column history connection).Settled := by
  induction history generalizing connection with
  | nil => exact settled
  | cons first rest ih => exact ih (first.1.run_settled column settled first.2)

/-- On a settled connection the policy inside `withTenant` is that the row is the tenant's. -/
theorem tenantCondition_opened {connection : Connection} (settled : connection.Settled) (tenantId : String)
    (owner : Option String) :
    tenantCondition (connection.setLocal tenantGuc tenantId) owner = decide (owner = some tenantId) := by
  have bypass : sqlEq ((connection.setLocal tenantGuc tenantId).currentSetting bypassGuc) (some "on") ≠
      some true := by
    rw [ne_eq, sqlEq_true]
    intro given
    obtain ⟨value, found, on⟩ := given
    have empty := settled.currentSetting_other (by decide : bypassGuc ≠ tenantGuc) found
    cases on
    exact absurd empty (by decide)
  simp only [tenantCondition, sqlOr_true, bypass, or_false, Connection.currentSetting_setLocal, sqlEq_true,
    Option.some.injEq, exists_eq_right']

end Aicos.Tenancy
