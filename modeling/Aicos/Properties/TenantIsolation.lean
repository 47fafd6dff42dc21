import Aicos.Tenancy.WithTenant

namespace Aicos.Properties

open Aicos.Tenancy Aicos.Transaction.RowSecurity

/-! Tenant isolation: a tenant's transactions leave everyone else's rows alone
and answer as if nobody else's rows were there. -/

section Isolation

variable {T : Type*} {Row : T → Type*} {V : Type*}

def rowsOf (column : ∀ table, Row table → Option String) (tenantId : String) (tables : Tables Row) : Tables Row :=
  fun table => (tables table).filter fun row => column table row = some tenantId

def rowsOfOthers (column : ∀ table, Row table → Option String) (tenantId : String) (tables : Tables Row) :
    Tables Row :=
  fun table => (tables table).filter fun row => column table row ≠ some tenantId

variable (column : ∀ table, Row table → Option String) {connection : Connection}

theorem view_opened (settled : connection.Settled) (tenantId : String) (tables : Tables Row) :
    (tenantIsolation column (connection.setLocal tenantGuc tenantId)).view tables = rowsOf column tenantId tables := by
  funext table
  simp only [Policy.view, tenantIsolation, tenantCondition_opened settled, rowsOf]

theorem hidden_opened (settled : connection.Settled) (tenantId : String) (tables : Tables Row) :
    (tenantIsolation column (connection.setLocal tenantGuc tenantId)).hidden tables =
      rowsOfOthers column tenantId tables := by
  funext table
  simp only [Policy.hidden, tenantIsolation, tenantCondition_opened settled, rowsOfOthers, decide_eq_true_eq,
    ne_eq]

variable [DecidableEq T]

theorem withTenant_rowsOfOthers (settled : connection.Settled) (tenantId : String)
    (statements : List (Statement Row V)) (thrown : Bool) (tables : Tables Row) :
    rowsOfOthers column tenantId (withTenant column tenantId statements thrown connection tables).tables =
      rowsOfOthers column tenantId tables := by
  rw [withTenant]
  split
  · rfl
  · rw [← hidden_opened column settled, ← hidden_opened column settled]
    exact Policy.transaction_hidden (tenantIsolation_confined _ _) statements thrown tables

theorem withTenant_rowsOf (settled : connection.Settled) (tenantId : String)
    (statements : List (Statement Row V)) (thrown : Bool) (tables : Tables Row) :
    let whole := withTenant column tenantId statements thrown connection tables
    let alone := withTenant column tenantId statements thrown connection (rowsOf column tenantId tables)
    whole.answers = alone.answers ∧ rowsOf column tenantId whole.tables = alone.tables := by
  dsimp only
  rw [withTenant, withTenant]
  split
  · exact ⟨rfl, rfl⟩
  · have ran := Policy.transaction_view
      (tenantIsolation_confined column (connection.setLocal tenantGuc tenantId)) statements thrown tables
    rw [← view_opened column settled, ← view_opened column settled]
    dsimp only
    rw [← ran]
    exact ⟨rfl, rfl⟩

end Isolation

/-- Whatever a pooled connection was used for before, the statements run inside
`withTenant` change no row that is not the tenant's, and for databases that agree
on the tenant's rows they answer alike and leave the tenant's rows alike. -/
theorem tenant_isolation {T : Type*} {Row : T → Type*} {V : Type*} [DecidableEq T]
    (column : ∀ table, Row table → Option String) (history : List (Use Row V × Tables Row)) (tenantId : String)
    (statements : List (Statement Row V)) (thrown : Bool) :
    let run := withTenant column tenantId statements thrown (pooled column history .fresh)
    (∀ tables, rowsOfOthers column tenantId (run tables).tables = rowsOfOthers column tenantId tables) ∧
      ∀ first second, rowsOf column tenantId first = rowsOf column tenantId second →
        (run first).answers = (run second).answers ∧
          rowsOf column tenantId (run first).tables = rowsOf column tenantId (run second).tables := by
  have settled := pooled_settled column history Connection.fresh_settled
  refine ⟨withTenant_rowsOfOthers column settled tenantId statements thrown, fun first second agree => ?_⟩
  obtain ⟨answers, rows⟩ := withTenant_rowsOf column settled tenantId statements thrown first
  obtain ⟨others, later⟩ := withTenant_rowsOf column settled tenantId statements thrown second
  rw [agree] at answers rows
  exact ⟨answers.trans others.symm, rows.trans later.symm⟩

/-! Two tenants with a brand each, as the integration test sets them up. -/

structure BrandRow where
  tenantId : String
  name : String
deriving DecidableEq

def brandRows (brands : List BrandRow) : Tables fun _ : Unit => BrandRow :=
  fun _ => brands

def smuggle : Statement (fun _ : Unit => BrandRow) (List BrandRow) :=
  .update () (fun _ row => row.name = "Brand A") (fun _ row => { row with tenantId := "b" }) id

def listBrands : Statement (fun _ : Unit => BrandRow) (List BrandRow) :=
  .select fun tables => tables ()

/-- Moving a row to another tenant is refused, and the list before it shows the
caller's brand alone. -/
example : (withTenant (fun _ row => some row.tenantId) "a" [listBrands, smuggle] false .fresh
      (brandRows [⟨"a", "Brand A"⟩, ⟨"b", "Brand B"⟩])).answers =
    .ok [.ok [⟨"a", "Brand A"⟩], .error .rowSecurityViolation] := by decide

theorem tenant_isolation_two_brands :
    (withTenant (fun _ row => some row.tenantId) "a" [listBrands, smuggle] false
        (pooled (fun _ row => some row.tenantId)
          [(.system [listBrands] false, brandRows []), (.tenant "b" [smuggle] true, brandRows [])] .fresh)
        (brandRows [⟨"a", "Brand A"⟩, ⟨"b", "Brand B"⟩])).answers =
      (withTenant (fun _ row => some row.tenantId) "a" [listBrands, smuggle] false
        (pooled (fun _ row => some row.tenantId)
          [(.system [listBrands] false, brandRows []), (.tenant "b" [smuggle] true, brandRows [])] .fresh)
        (brandRows [⟨"b", "Brand C"⟩, ⟨"a", "Brand A"⟩])).answers :=
  ((tenant_isolation _ _ "a" [listBrands, smuggle] false).2 _ _ (by funext table; rfl)).1

end Aicos.Properties
