import Aicos.Gdpr.Erasure

namespace Aicos.Gdpr

open Aicos.Commerce Aicos.Data

/-! The two erasure routines over the rows of all tenants: the worker's, which leaves the
tenant to row security, and the API's, which names it in every query as well.  Both run in a
transaction of their tenant, and each is written as its source has it. -/

/-- A row with its tenant. -/
structure Owned (α : Type) where
  tenantId : TenantId
  row : α
deriving DecidableEq

structure PlatformRows where
  customers : List (Owned Customer)
  addresses : List (Owned Address)
  orders : List (Owned Order)
  auditLogs : List (Owned AuditLog)
deriving DecidableEq

/-- The row that the database returns first of those that match; a query without an order says no more. -/
structure FirstRow (α : Type) where
  pick : List α → Option α
  mem : ∀ rows row, pick rows = some row → row ∈ rows
  found : ∀ rows, pick rows = none → rows = []

section Queries

variable {α : Type} (tenant : TenantId)

/-- The rows that row security shows in a transaction of the tenant, where a condition holds. -/
def within (condition : Owned α → Bool) (owned : Owned α) : Bool :=
  owned.tenantId = tenant ∧ condition owned

def Owned.change (change : α → α) (owned : Owned α) : Owned α :=
  { owned with row := change owned.row }

def findMany (condition : Owned α → Bool) (rows : List (Owned α)) : List (Owned α) :=
  rows.filter (within tenant condition)

/-- The rows after the update, and how many it changed. -/
def updateMany (condition : Owned α → Bool) (change : α → α) (rows : List (Owned α)) : Nat × List (Owned α) :=
  ((rows.filter (within tenant condition)).length, updateWhere (within tenant condition) (Owned.change change) rows)

/-- `customer.update` by its id; the emails of a tenant's customers are distinct. -/
def updateCustomer (id : CustomerId) (email : String) (change : Customer → Customer) (rows : List (Owned Customer)) :
    Except GdprError (List (Owned Customer)) :=
  if ¬ rows.any (within tenant fun owned => owned.row.id = id) then .error (.db .recordNotFound)
  else if rows.any fun owned => owned.tenantId = tenant ∧ owned.row.id ≠ id ∧ owned.row.email = email then
    .error (.db .unique)
  else .ok (updateWhere (within tenant fun owned => owned.row.id = id) (Owned.change change) rows)

end Queries

section Routines

variable (context : SubjectContext) (first : FirstRow (Owned Customer)) (tenant : TenantId)

/-- `where: { email: { equals: email, mode: 'insensitive' } }` of an order. -/
def orderedBy (email : String) (owned : Owned Order) : Bool :=
  context.ordered email owned.row

/-- `DsarProcessor.erase`: whether a customer was erased, how many orders were scrubbed, and the rows. -/
def dsarErase (email : String) (now : Instant) (rows : PlatformRows) :
    Except GdprError (Bool × Nat × PlatformRows) := do
  let customer := first.pick (findMany tenant (fun owned => context.sameEmail owned.row.email email) rows.customers)
  let anon := context.anonEmail (customer.map (·.row.id))
  let orders := updateMany tenant (orderedBy context email) (fun order => { order with email := some anon }) rows.orders
  let rows := { rows with orders := orders.2 }
  match customer with
  | none => return (false, orders.1, rows)
  | some customer =>
      let addresses := updateMany tenant (fun owned => owned.row.customerId = some customer.row.id) Address.erased
        rows.addresses
      let customers ← updateCustomer tenant customer.row.id anon (Customer.anonymized anon now) rows.customers
      return (true, orders.1, { rows with addresses := addresses.2, customers := customers })

/-- `GdprService.eraseCustomer`, with the tenant in its conditions: how many orders were scrubbed, and the rows. -/
def eraseCustomer (customerId : CustomerId) (now : Instant) (rows : PlatformRows) :
    Except GdprError (Nat × PlatformRows) := do
  match first.pick (findMany tenant (fun owned => owned.row.id = customerId ∧ owned.tenantId = tenant) rows.customers) with
  | none => throw (.notFound "Customer not found")
  | some customer =>
      let anonEmail := context.anonEmail (some customer.row.id)
      let original := customer.row.email
      let orders := updateMany tenant (fun owned => owned.tenantId = tenant ∧ orderedBy context original owned)
        (fun order => { order with email := some anonEmail }) rows.orders
      let addresses := updateMany tenant (fun owned => owned.tenantId = tenant ∧ owned.row.customerId = some customerId)
        Address.erased rows.addresses
      let customers ← updateCustomer tenant customerId anonEmail (Customer.anonymized anonEmail now) rows.customers
      let entry : AuditLog := ⟨.erasure, "customer", customerId, .customerErased orders.1⟩
      return (orders.1, {
        customers := customers, addresses := addresses.2, orders := orders.2
        auditLogs := rows.auditLogs ++ [⟨tenant, entry⟩] })

/-- The rows that the transaction of a routine leaves: a failure rolls it back. -/
def committed {ρ : Type} (result : Except GdprError ρ) (rowsOf : ρ → PlatformRows) (before : PlatformRows) : PlatformRows :=
  match result with
  | .ok done => rowsOf done
  | .error _ => before

end Routines

section Subject

variable {context : SubjectContext} {first : FirstRow (Owned Customer)} {tenant : TenantId} {email : String}
  {now : Instant} {rows : PlatformRows} {customer : Owned Customer}

/-- The customer whom the worker erases for an email. -/
def Picks (context : SubjectContext) (first : FirstRow (Owned Customer)) (tenant : TenantId) (email : String)
    (rows : PlatformRows) (customer : Owned Customer) : Prop :=
  first.pick (findMany tenant (fun owned => context.sameEmail owned.row.email email) rows.customers) = some customer

theorem Picks.mem (picks : Picks context first tenant email rows customer) :
    customer ∈ rows.customers ∧ customer.tenantId = tenant ∧ context.sameEmail customer.row.email email = true := by
  obtain ⟨member, shown⟩ := List.mem_filter.mp (first.mem _ _ picks)
  exact ⟨member, of_decide_eq_true shown⟩

theorem within_within (tenant : TenantId) {α : Type} (condition : Owned α → Bool) :
    within tenant (fun owned => owned.tenantId = tenant ∧ condition owned) = within tenant condition := by
  funext owned
  by_cases same : owned.tenantId = tenant <;> simp [within, same]

/-- The email of the customer selects the orders that the email of the request selects. -/
theorem orderedBy_eq (picks : Picks context first tenant email rows customer) :
    orderedBy context customer.row.email = orderedBy context email := by
  have same : context.foldCase customer.row.email = context.foldCase email := of_decide_eq_true picks.mem.2.2
  funext owned
  simp only [orderedBy, SubjectContext.ordered, SubjectContext.sameEmail, same]

/-- By its id and tenant the picked customer is found again. -/
theorem pick_id (distinct : (rows.customers.map (·.row.id)).Nodup)
    (picks : Picks context first tenant email rows customer) :
    first.pick (findMany tenant (fun owned => owned.row.id = customer.row.id ∧ owned.tenantId = tenant)
      rows.customers) = some customer := by
  obtain ⟨member, own, -⟩ := picks.mem
  have listed : customer ∈ findMany tenant (fun owned => owned.row.id = customer.row.id ∧ owned.tenantId = tenant)
      rows.customers := List.mem_filter.mpr ⟨member, by simp [within, own]⟩
  cases picked : first.pick (findMany tenant
      (fun owned => owned.row.id = customer.row.id ∧ owned.tenantId = tenant) rows.customers) with
  | none =>
      rw [first.found _ picked] at listed
      cases listed
  | some other =>
      obtain ⟨there, shown⟩ := List.mem_filter.mp (first.mem _ _ picked)
      have same : other.row.id = customer.row.id := by
        simp only [within, decide_eq_true_eq] at shown
        exact shown.2.1
      rw [List.inj_on_of_nodup_map distinct there member same]

/-- The updates that both routines come to, once the customers have been updated. -/
def scrubbedRows (context : SubjectContext) (tenant : TenantId) (email : String) (id : CustomerId)
    (rows : PlatformRows) (customers : List (Owned Customer)) : PlatformRows :=
  { rows with
    customers := customers
    orders := updateWhere (within tenant (orderedBy context email))
      (Owned.change fun order => { order with email := some (context.anonEmail (some id)) }) rows.orders
    addresses := updateWhere (within tenant fun owned => owned.row.customerId = some id) (Owned.change Address.erased)
      rows.addresses }

/-- The worker's update of the customer whom it erases, at a time. -/
def erasedCustomers (context : SubjectContext) (tenant : TenantId) (id : CustomerId) (now : Instant)
    (rows : PlatformRows) : Except GdprError (List (Owned Customer)) :=
  updateCustomer tenant id (context.anonEmail (some id)) (Customer.anonymized (context.anonEmail (some id)) now)
    rows.customers

theorem dsarErase_of_picks (picks : Picks context first tenant email rows customer) :
    dsarErase context first tenant email now rows =
      (erasedCustomers context tenant customer.row.id now rows).map fun customers =>
        (true, (rows.orders.filter (within tenant (orderedBy context email))).length,
          scrubbedRows context tenant email customer.row.id rows customers) := by
  have found := picks
  unfold Picks at found
  rw [dsarErase, found]
  dsimp only [Option.map_some, updateMany]
  rw [← erasedCustomers]
  cases erasedCustomers context tenant customer.row.id now rows <;> rfl

theorem eraseCustomer_of_picks (distinct : (rows.customers.map (·.row.id)).Nodup)
    (picks : Picks context first tenant email rows customer) :
    eraseCustomer context first tenant customer.row.id now rows =
      (erasedCustomers context tenant customer.row.id now rows).map fun customers =>
        let count := (rows.orders.filter (within tenant (orderedBy context email))).length
        (count, { scrubbedRows context tenant email customer.row.id rows customers with
          auditLogs := rows.auditLogs ++ [⟨tenant, .erasure, "customer", customer.row.id, .customerErased count⟩] }) := by
  have own := within_within tenant fun owned : Owned Address => decide (owned.row.customerId = some customer.row.id)
  simp only [decide_eq_true_eq] at own
  rw [eraseCustomer, pick_id distinct picks]
  dsimp only [updateMany]
  rw [within_within, own, orderedBy_eq picks, ← erasedCustomers]
  cases erasedCustomers context tenant customer.row.id now rows <;> rfl

end Subject

section View

variable {α : Type} (tenant : TenantId)

/-- The rows of one tenant. -/
def ownRows (rows : List (Owned α)) : List α :=
  (rows.filter fun owned => owned.tenantId = tenant).map (·.row)

def tenantRows (requests : List DsarRequest) (rows : PlatformRows) : SubjectRows where
  customers := ownRows tenant rows.customers
  addresses := ownRows tenant rows.addresses
  orders := ownRows tenant rows.orders
  requests := requests
  auditLogs := ownRows tenant rows.auditLogs

theorem ownRows_cons (owned : Owned α) (rows : List (Owned α)) :
    ownRows tenant (owned :: rows) =
      if owned.tenantId = tenant then owned.row :: ownRows tenant rows else ownRows tenant rows := by
  by_cases own : owned.tenantId = tenant <;> simp [ownRows, own]

theorem ownRows_updateWhere (condition : α → Bool) (change : α → α) (rows : List (Owned α)) :
    ownRows tenant (updateWhere (within tenant fun owned => condition owned.row) (Owned.change change) rows) =
      updateWhere condition change (ownRows tenant rows) := by
  induction rows with
  | nil => rfl
  | cons owned rows ih =>
      rw [updateWhere_cons, ownRows_cons, ownRows_cons, ih]
      by_cases own : owned.tenantId = tenant
      · by_cases hit : condition owned.row = true <;> simp [within, Owned.change, own, hit]
      · simp [within, own]

theorem length_filter_within (condition : α → Bool) (rows : List (Owned α)) :
    (rows.filter (within tenant fun owned => condition owned.row)).length =
      ((ownRows tenant rows).filter condition).length := by
  induction rows with
  | nil => rfl
  | cons owned rows ih =>
      rw [ownRows_cons]
      by_cases own : owned.tenantId = tenant
      · by_cases hit : condition owned.row = true <;> simp [within, own, hit] at ih ⊢ <;> exact ih
      · simp [within, own] at ih ⊢
        exact ih

theorem any_ownRows (condition : α → Bool) (rows : List (Owned α)) :
    (ownRows tenant rows).any condition = rows.any fun owned => owned.tenantId = tenant ∧ condition owned.row := by
  rw [ownRows, List.any_map, List.any_filter]
  congr 1
  funext owned
  simp

/-- What the worker's routine does to the rows of its tenant. -/
theorem dsarErase_tenantRows {context : SubjectContext} {first : FirstRow (Owned Customer)} {email : String}
    {now : Instant} {rows : PlatformRows} {customer : Owned Customer} (requests : List DsarRequest)
    (picks : Picks context first tenant email rows customer) :
    (dsarErase context first tenant email now rows).map (fun done => (done.2.1, tenantRows tenant requests done.2.2)) =
      context.scrub email (some customer.row) now (tenantRows tenant requests rows) := by
  have present : rows.customers.any (within tenant fun owned => owned.row.id = customer.row.id) = true :=
    List.any_eq_true.mpr ⟨customer, picks.mem.1, by simp [within, picks.mem.2.1]⟩
  rw [dsarErase_of_picks picks, erasedCustomers, updateCustomer, if_neg (not_not.mpr present), SubjectContext.scrub]
  dsimp only [tenantRows, Option.map_some]
  have taken := any_ownRows tenant (fun other : Customer => decide (other.id ≠ customer.row.id ∧
    other.email = context.anonEmail (some customer.row.id))) rows.customers
  simp only [decide_eq_true_eq] at taken
  simp only [taken]
  split
  · rfl
  · have orders := ownRows_updateWhere tenant (context.ordered email)
      (fun order => { order with email := some (context.anonEmail (some customer.row.id)) }) rows.orders
    have addresses := ownRows_updateWhere tenant
      (fun address : Address => decide (address.customerId = some customer.row.id)) Address.erased rows.addresses
    have customers := ownRows_updateWhere tenant (fun other => decide (other.id = customer.row.id))
      (Customer.anonymized (context.anonEmail (some customer.row.id)) now) rows.customers
    have count := length_filter_within tenant (context.ordered email) rows.orders
    have ordered : orderedBy context email = fun owned => context.ordered email owned.row := rfl
    simp only [Except.map, scrubbedRows, ordered, orders, addresses, customers, count]

end View

end Aicos.Gdpr
