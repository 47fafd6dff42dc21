import Aicos.Gdpr.Routines

namespace Aicos.Properties

open Aicos.Commerce Aicos.Data Aicos.Gdpr

/-! The worker's erasure and the API's leave the same rows, and both keep to the subject. -/

/-- A customer row that knows whether it was deleted, but not when. -/
def undated (customer : Customer) : Customer :=
  { customer with deletedAt := customer.deletedAt.map fun _ => 0 }

/-- The same customers, orders and addresses, but for the times of deletion. -/
structure SameSubjects (left right : PlatformRows) : Prop where
  customers : left.customers.map (Owned.change undated) = right.customers.map (Owned.change undated)
  orders : left.orders = right.orders
  addresses : left.addresses = right.addresses

/-- Orders of another email or tenant, other customers and the addresses of others are as they were. -/
structure KeepsOthers (context : SubjectContext) (tenant : TenantId) (email : String) (id : CustomerId)
    (before after : PlatformRows) : Prop where
  orders : List.Forall₂ (fun old new => context.ordered email old.row = false ∨ old.tenantId ≠ tenant → new = old)
    before.orders after.orders
  customers : List.Forall₂ (fun old new => old.row.id ≠ id → new = old) before.customers after.customers
  addresses : List.Forall₂ (fun old new => old.row.customerId ≠ some id → new = old) before.addresses after.addresses

variable {context : SubjectContext} {first : FirstRow (Owned Customer)} {tenant : TenantId} {email : String}
  {id : CustomerId} {now later : Instant} {rows : PlatformRows} {customers : List (Owned Customer)}
  {customer : Owned Customer}

theorem KeepsOthers.refl (rows : PlatformRows) : KeepsOthers context tenant email id rows rows where
  orders := List.forall₂_same.mpr fun _ _ _ => rfl
  customers := List.forall₂_same.mpr fun _ _ _ => rfl
  addresses := List.forall₂_same.mpr fun _ _ _ => rfl

theorem erasedCustomers_ok (erased : erasedCustomers context tenant id now rows = .ok customers) :
    customers = updateWhere (within tenant fun owned => owned.row.id = id)
      (Owned.change (Customer.anonymized (context.anonEmail (some id)) now)) rows.customers := by
  unfold erasedCustomers updateCustomer at erased
  split at erased
  · cases erased
  · split at erased
    · cases erased
    · exact (Except.ok.inj erased).symm

/-- Whether the update goes through does not depend on the time, and its time is all that does. -/
theorem erasedCustomers_undated (context : SubjectContext) (tenant : TenantId) (id : CustomerId) (now later : Instant)
    (rows : PlatformRows) :
    (erasedCustomers context tenant id now rows).map (List.map (Owned.change undated)) =
      (erasedCustomers context tenant id later rows).map (List.map (Owned.change undated)) := by
  unfold erasedCustomers updateCustomer
  split
  · rfl
  · split
    · rfl
    · refine congrArg Except.ok ?_
      rw [updateWhere, updateWhere, List.map_map, List.map_map]
      refine List.map_congr_left fun owned _ => ?_
      by_cases hit : within tenant (fun owned => decide (owned.row.id = id)) owned = true
      · simp [hit, Owned.change, Customer.anonymized, undated]
      · simp [hit]

theorem keepsOthers_scrubbedRows (erased : erasedCustomers context tenant id now rows = .ok customers) :
    KeepsOthers context tenant email id rows (scrubbedRows context tenant email id rows customers) where
  orders := by
    refine (forall₂_updateWhere _ _ rows.orders).imp fun old new kept beside => kept ?_
    rcases beside with unordered | foreign
    · simp [within, orderedBy, unordered]
    · simp [within, foreign]
  customers := by
    rw [scrubbedRows, erasedCustomers_ok erased]
    exact (forall₂_updateWhere _ _ rows.customers).imp fun old new kept other => kept (by simp [within, other])
  addresses :=
    (forall₂_updateWhere _ _ rows.addresses).imp fun old new kept other => kept (by simp [within, other])

/-- Once the worker has picked a customer for an email, it leaves the rows that the API leaves for that customer, and
neither of them touches what belongs to another subject. -/
theorem erasures_agree (context : SubjectContext) (first : FirstRow (Owned Customer)) (tenant : TenantId)
    (email : String) (rows : PlatformRows) (customer : Owned Customer) (now later : Instant)
    (distinct : (rows.customers.map (·.row.id)).Nodup) (picks : Picks context first tenant email rows customer) :
    SameSubjects (committed (dsarErase context first tenant email now rows) (·.2.2) rows)
        (committed (eraseCustomer context first tenant customer.row.id later rows) (·.2) rows) ∧
      KeepsOthers context tenant email customer.row.id rows
        (committed (dsarErase context first tenant email now rows) (·.2.2) rows) ∧
      KeepsOthers context tenant email customer.row.id rows
        (committed (eraseCustomer context first tenant customer.row.id later rows) (·.2) rows) := by
  have same := erasedCustomers_undated context tenant customer.row.id now later rows
  rw [dsarErase_of_picks picks, eraseCustomer_of_picks distinct picks]
  cases worker : erasedCustomers context tenant customer.row.id now rows with
  | error error =>
      cases api : erasedCustomers context tenant customer.row.id later rows with
      | error other => exact ⟨⟨rfl, rfl, rfl⟩, .refl rows, .refl rows⟩
      | ok customers =>
          rw [worker, api] at same
          cases same
  | ok customers =>
      cases api : erasedCustomers context tenant customer.row.id later rows with
      | error other =>
          rw [worker, api] at same
          cases same
      | ok others =>
          rw [worker, api] at same
          refine ⟨⟨Except.ok.inj same, rfl, rfl⟩, keepsOthers_scrubbedRows worker, ?_⟩
          have kept : KeepsOthers context tenant email customer.row.id rows _ := keepsOthers_scrubbedRows api
          exact ⟨kept.orders, kept.customers, kept.addresses⟩

/-- Equality up to letter case, on ASCII. -/
def asciiContext : SubjectContext where
  foldCase text := String.ofList (text.toList.map Char.toLower)
  cuid _ := "cm1"

def firstListed (α : Type) : FirstRow α where
  pick := List.head?
  mem _ _ found := List.mem_of_head? found
  found _ none := List.head?_eq_none_iff.mp none

def mixedCaseOrder (number : Nat) (email : String) : Order where
  id := number
  storeId := 1
  number := number
  status := .paid
  financialStatus := .paid
  currency := "USD"
  subtotalCents := 500
  taxCents := 0
  totalCents := 500
  applicationFeeCents := 0
  shippingAddress := none
  billingAddress := none
  email := some email
  stripeCheckoutSessionId := none
  stripePaymentIntentId := none
  placedAt := some 1
  createdAt := 0
  items := []

/-- Two customers of one tenant with an order each, an address of the second, and an order
of another tenant under the first one's email. -/
def mixedCaseRows : PlatformRows where
  customers := [(1, "Ada@x.io"), (2, "bo@x.io")].map fun entry =>
    ⟨1, { id := entry.1, email := entry.2, firstName := some "A", lastName := none, phone := none, note := none
          deletedAt := none }⟩
  addresses := [⟨1, { id := 1, customerId := some 2, firstName := none, lastName := none, company := none
                      line1 := "1 Main St", line2 := none, phone := none }⟩]
  orders := [⟨1, mixedCaseOrder 1 "aDA@x.io"⟩, ⟨1, mixedCaseOrder 2 "bo@x.io"⟩, ⟨2, mixedCaseOrder 3 "ada@x.io"⟩]
  auditLogs := []

/-- Either routine takes the email from the subject's order alone. -/
theorem erasures_agree_of_mixedCase :
    ∃ customer : Owned Customer, Picks asciiContext (firstListed _) 1 "ADA@x.io" mixedCaseRows customer ∧
      (SameSubjects (committed (dsarErase asciiContext (firstListed _) 1 "ADA@x.io" 5 mixedCaseRows) (·.2.2)
            mixedCaseRows)
          (committed (eraseCustomer asciiContext (firstListed _) 1 customer.row.id 6 mixedCaseRows) (·.2)
            mixedCaseRows) ∧
        KeepsOthers asciiContext 1 "ADA@x.io" customer.row.id mixedCaseRows
          (committed (dsarErase asciiContext (firstListed _) 1 "ADA@x.io" 5 mixedCaseRows) (·.2.2) mixedCaseRows) ∧
        KeepsOthers asciiContext 1 "ADA@x.io" customer.row.id mixedCaseRows
          (committed (eraseCustomer asciiContext (firstListed _) 1 customer.row.id 6 mixedCaseRows) (·.2)
            mixedCaseRows)) ∧
      (committed (dsarErase asciiContext (firstListed _) 1 "ADA@x.io" 5 mixedCaseRows) (·.2.2)
          mixedCaseRows).orders.map (·.row.email) =
        [some (asciiContext.anonEmail (some customer.row.id)), some "bo@x.io", some "ada@x.io"] :=
  have picks : Picks asciiContext (firstListed _) 1 "ADA@x.io" mixedCaseRows
      ⟨1, { id := 1, email := "Ada@x.io", firstName := some "A", lastName := none, phone := none, note := none
            deletedAt := none }⟩ := by
    unfold Picks
    decide
  ⟨_, picks, erasures_agree asciiContext (firstListed _) 1 "ADA@x.io" mixedCaseRows _ 5 6 (by decide) picks, by decide⟩

end Aicos.Properties
