import Aicos.Gdpr.Erasure

namespace Aicos.Properties

open Aicos.Commerce Aicos.Data Aicos.Gdpr

/-! What is left of a subject after an erasure.  Addresses live in rows of their own
and in the snapshots of orders, and only the rows are scrubbed. -/

/-- The name, phone and street of a snapshot. -/
def personal (snapshot : Option AddressSnapshot) : List String :=
  match snapshot with
  | none => []
  | some snapshot =>
      [snapshot.name, snapshot.phone, snapshot.line1, snapshot.line2].reduceOption.filter (· ≠ "")

/-- An order still says where or to whom it went. -/
def Remembers (before after : Order) : Prop :=
  (∃ text ∈ personal before.shippingAddress, text ∈ personal after.shippingAddress) ∨
    ∃ text ∈ personal before.billingAddress, text ∈ personal after.billingAddress

structure Forgotten (context : SubjectContext) (email : String) (before after : SubjectRows) : Prop where
  customers : ∀ customer ∈ after.customers, context.sameEmail customer.email email = false
  orders : ∀ order ∈ after.orders, context.ordered email order = false
  snapshots : ∀ order ∈ before.orders, context.ordered email order = true → ∀ now ∈ after.orders, now.id = order.id →
    ¬ Remembers order now

/-- No customer but the erased one has the email, what takes its place is another
email, and no order under it has an address. -/
structure Forgettable (context : SubjectContext) (email : String) (target : Option CustomerId) (rows : SubjectRows) :
    Prop where
  customers : ∀ customer ∈ rows.customers, context.sameEmail customer.email email = true → target = some customer.id
  replacement : (target.isSome ∨ ∃ order ∈ rows.orders, context.ordered email order = true) →
    context.sameEmail (context.anonEmail target) email = false
  snapshots : ∀ order ∈ rows.orders, context.ordered email order = true →
    personal order.shippingAddress = [] ∧ personal order.billingAddress = []

variable {context : SubjectContext} {email : String} {target : Option Customer} {now : Instant}
  {rows after : SubjectRows} {scrubbed : Nat}

theorem not_remembers_self {order : Order} (forgotten : ¬ Remembers order order) :
    personal order.shippingAddress = [] ∧ personal order.billingAddress = [] := by
  constructor <;> refine List.eq_nil_iff_forall_not_mem.mpr fun text member => forgotten ?_
  · exact .inl ⟨text, member, member⟩
  · exact .inr ⟨text, member, member⟩

/-- The rows an erasure leaves: each order under the email and each row of the erased
customer has the new email, and the others are as they were. -/
theorem scrub_ok (scrubs : context.scrub email target now rows = .ok (scrubbed, after)) :
    after.orders = updateWhere (context.ordered email)
        (fun order => { order with email := some (context.anonEmail (target.map (·.id))) }) rows.orders ∧
      after.customers = updateWhere (fun customer => target.any fun erased => customer.id = erased.id)
        (Customer.anonymized (context.anonEmail (target.map (·.id))) now) rows.customers := by
  unfold SubjectContext.scrub at scrubs
  cases target with
  | none =>
      cases scrubs
      exact ⟨rfl, (updateWhere_of_forall_not fun _ _ => rfl).symm⟩
  | some customer =>
      dsimp only at scrubs
      split at scrubs
      · cases scrubs
      · cases scrubs
        exact ⟨rfl, rfl⟩

section Scrub

variable (scrubs : context.scrub email target now rows = .ok (scrubbed, after))
include scrubs

theorem scrubbed_order_mem {order : Order} (member : order ∈ rows.orders) (ordered : context.ordered email order = true) :
    { order with email := some (context.anonEmail (target.map (·.id))) } ∈ after.orders := by
  rw [(scrub_ok scrubs).1]
  exact mem_updateWhere.mpr ⟨order, member, by simp [ordered]⟩

theorem forgettable_of_forgotten (present : ∀ erased ∈ target, erased ∈ rows.customers)
    (forgotten : Forgotten context email rows after) : Forgettable context email (target.map (·.id)) rows := by
  obtain ⟨_, customers⟩ := scrub_ok scrubs
  refine ⟨fun customer member same => ?_, ?_, fun order member ordered => ?_⟩
  · by_contra other
    have kept : target.any (fun erased => customer.id = erased.id) = false := by
      cases target with
      | none => rfl
      | some erased => simpa [eq_comm] using other
    have left : customer ∈ after.customers := by
      rw [customers]
      exact mem_updateWhere.mpr ⟨customer, member, by rw [kept]; rfl⟩
    rw [forgotten.customers customer left] at same
    cases same
  · rintro (erases | ⟨order, member, ordered⟩)
    · cases target with
      | none => cases erases
      | some erased =>
          refine forgotten.customers (erased.anonymized (context.anonEmail (some erased.id)) now) ?_
          rw [customers]
          exact mem_updateWhere.mpr ⟨erased, present erased rfl, by simp⟩
    · exact forgotten.orders _ (scrubbed_order_mem scrubs member ordered)
  · refine not_remembers_self fun remembers => ?_
    exact forgotten.snapshots order member ordered _ (scrubbed_order_mem scrubs member ordered) rfl remembers

theorem forgotten_of_forgettable (forgettable : Forgettable context email (target.map (·.id)) rows) :
    Forgotten context email rows after := by
  obtain ⟨orders, customers⟩ := scrub_ok scrubs
  refine ⟨fun customer member => ?_, fun order member => ?_, fun order member ordered now _ _ => ?_⟩
  · rw [customers] at member
    obtain ⟨old, there, rfl⟩ := mem_updateWhere.mp member
    split
    · rename_i erases
      refine forgettable.replacement (.inl ?_)
      cases target with
      | none => cases erases
      | some erased => rfl
    · rename_i kept
      by_contra same
      have mine := forgettable.customers old there (by simpa using same)
      cases target with
      | none => cases mine
      | some erased => exact kept (by simp [Option.some.inj mine])
  · rw [orders] at member
    obtain ⟨old, there, rfl⟩ := mem_updateWhere.mp member
    split
    · rename_i ordered
      exact forgettable.replacement (.inr ⟨old, there, ordered⟩)
    · rename_i other
      simpa using other
  · obtain ⟨shipping, billing⟩ := forgettable.snapshots order member ordered
    rintro (⟨text, kept, _⟩ | ⟨text, kept, _⟩)
    · rw [shipping] at kept
      cases kept
    · rw [billing] at kept
      cases kept

theorem scrub_forgotten_iff (present : ∀ erased ∈ target, erased ∈ rows.customers) :
    Forgotten context email rows after ↔ Forgettable context email (target.map (·.id)) rows :=
  ⟨forgettable_of_forgotten scrubs present, forgotten_of_forgettable scrubs⟩

end Scrub

/-- The state of the request and the audit log are beside the question. -/
theorem Forgotten.congr {before first second third : SubjectRows} (sources : before.orders = first.orders)
    (orders : second.orders = third.orders) (customers : second.customers = third.customers) :
    Forgotten context email before second ↔ Forgotten context email first third := by
  constructor <;> rintro ⟨known, ordered, snapshots⟩
  · rw [orders, sources] at snapshots
    exact ⟨customers ▸ known, orders ▸ ordered, snapshots⟩
  · rw [← orders, ← sources] at snapshots
    exact ⟨customers ▸ known, orders ▸ ordered, snapshots⟩

theorem forgettable_setStatus (id : DsarRequestId) (status : DsarStatus) (completedAt : Option Instant)
    (erased : Option CustomerId) :
    Forgettable context email erased (SubjectContext.setStatus id status completedAt rows) ↔
      Forgettable context email erased rows :=
  ⟨fun ⟨customers, replacement, snapshots⟩ => ⟨customers, replacement, snapshots⟩,
    fun ⟨customers, replacement, snapshots⟩ => ⟨customers, replacement, snapshots⟩⟩

theorem findByEmail_mem {erased : Customer} (found : erased ∈ context.findByEmail email rows) :
    erased ∈ rows.customers :=
  List.mem_of_find?_eq_some found

/-- A request that is completed has run the erasure on the rows it found. -/
theorem process_erasure {id : DsarRequestId} {request : DsarRequest}
    (found : rows.requests.find? (fun request => request.id = id) = some request)
    (processed : context.process id now rows = .ok (some .erasure, after)) :
    ∃ scrubbed erased, context.erase request.subjectEmail now (SubjectContext.setStatus id .processing none rows) =
      .ok (scrubbed, erased) ∧ after.orders = erased.orders ∧ after.customers = erased.customers := by
  simp only [SubjectContext.process, found] at processed
  split at processed
  · cases processed
  · cases type : request.type with
    | «export» => simp [type] at processed
    | erasure =>
        simp only [type] at processed
        cases erases : context.erase request.subjectEmail now (SubjectContext.setStatus id .processing none rows) with
        | error error =>
            rw [erases] at processed
            cases processed
        | ok result =>
            rw [erases] at processed
            cases processed
            exact ⟨result.1, result.2, rfl, rfl, rfl⟩

theorem process_forgotten_iff {id : DsarRequestId} {request : DsarRequest}
    (found : rows.requests.find? (fun request => request.id = id) = some request)
    (processed : context.process id now rows = .ok (some .erasure, after)) :
    Forgotten context request.subjectEmail rows after ↔
      Forgettable context request.subjectEmail ((context.findByEmail request.subjectEmail rows).map (·.id)) rows := by
  obtain ⟨scrubbed, erased, erases, orders, customers⟩ := process_erasure found processed
  have same := scrub_forgotten_iff erases fun _ => findByEmail_mem
  rw [forgettable_setStatus] at same
  have sources : rows.orders = (SubjectContext.setStatus id .processing none rows).orders := rfl
  exact (Forgotten.congr sources orders customers).trans same

theorem eraseCustomer_forgotten_iff {id : CustomerId} {customer : Customer}
    (found : rows.customers.find? (fun customer => customer.id = id) = some customer)
    (erased : context.eraseCustomer id now rows = .ok (scrubbed, after)) :
    Forgotten context customer.email rows after ↔ Forgettable context customer.email (some id) rows := by
  have key : customer.id = id := by simpa using List.find?_some found
  simp only [SubjectContext.eraseCustomer, found] at erased
  cases scrubs : context.scrub customer.email (some customer) now rows with
  | error error =>
      rw [scrubs] at erased
      cases erased
  | ok result =>
      rw [scrubs] at erased
      cases erased
      have same := scrub_forgotten_iff scrubs (by simpa using List.mem_of_find?_eq_some found)
      rw [Option.map_some, key] at same
      have orders : (SubjectContext.audit ⟨.erasure, "customer", id, .customerErased result.1⟩ result.2).orders =
        result.2.orders := rfl
      exact (Forgotten.congr rfl orders rfl).trans same

/-- Neither erasure leaves anything of the subject exactly where the subject has one
customer row and no order with an address. -/
theorem forgotten_iff_forgettable (context : SubjectContext) (now : Instant) (rows after : SubjectRows) :
    (∀ id request, rows.requests.find? (fun request => request.id = id) = some request →
      context.process id now rows = .ok (some .erasure, after) →
      (Forgotten context request.subjectEmail rows after ↔
        Forgettable context request.subjectEmail ((context.findByEmail request.subjectEmail rows).map (·.id)) rows)) ∧
    ∀ id customer scrubbed, rows.customers.find? (fun customer => customer.id = id) = some customer →
      context.eraseCustomer id now rows = .ok (scrubbed, after) →
      (Forgotten context customer.email rows after ↔ Forgettable context customer.email (some id) rows) :=
  ⟨fun _ _ found processed => process_forgotten_iff found processed,
    fun _ _ _ found erased => eraseCustomer_forgotten_iff found erased⟩

def plainContext : SubjectContext where
  foldCase := id
  cuid := fun _ => "cm1customer"

def ada : Customer where
  id := 1
  email := "ada@example.com"
  firstName := some "Ada"
  lastName := some "Byron"
  phone := none
  note := none
  deletedAt := none

/-- An order as the payment webhook leaves it. -/
def shippedOrder (address : Option AddressSnapshot) : Order where
  id := 1
  storeId := 1
  number := 1001
  status := .paid
  financialStatus := .paid
  currency := "USD"
  subtotalCents := 500
  taxCents := 0
  totalCents := 500
  applicationFeeCents := 0
  shippingAddress := address
  billingAddress := none
  email := some "ada@example.com"
  stripeCheckoutSessionId := none
  stripePaymentIntentId := none
  placedAt := some 1
  createdAt := 0
  items := []

def erasureRequest : DsarRequest where
  id := 1
  type := .erasure
  status := .received
  subjectEmail := "ada@example.com"
  dueAt := 30
  completedAt := none

def subjectRows (address : Option AddressSnapshot) : SubjectRows where
  customers := [ada]
  addresses := []
  orders := [shippedOrder address]
  requests := [erasureRequest]
  auditLogs := []

def home : AddressSnapshot where
  name := some "Ada Byron"
  phone := none
  line1 := some "1 St James Square"
  line2 := none
  city := some "London"
  state := none
  postalCode := none
  country := some "GB"

/-- The order keeps the name and the street that the payment has left in it. -/
theorem snapshot_outlives_erasure :
    ¬ ∀ context now rows after id request, rows.requests.find? (fun request => request.id = id) = some request →
      context.process id now rows = .ok (some .erasure, after) → Forgotten context request.subjectEmail rows after := by
  intro always
  obtain ⟨after, processed⟩ : ∃ after, plainContext.process 1 5 (subjectRows (some home)) = .ok (some .erasure, after) :=
    ⟨_, rfl⟩
  have forgotten := always plainContext 5 (subjectRows (some home)) after 1 erasureRequest rfl processed
  have forgettable := (process_forgotten_iff rfl processed).mp forgotten
  have nothing := forgettable.snapshots (shippedOrder (some home)) (by simp [subjectRows]) (by decide)
  exact absurd nothing.1 (by decide)

theorem forgotten_iff_forgettable_without_address :
    (∃ after, plainContext.process 1 5 (subjectRows none) = .ok (some .erasure, after) ∧
      (Forgotten plainContext "ada@example.com" (subjectRows none) after ↔
        Forgettable plainContext "ada@example.com" (some 1) (subjectRows none))) ∧
    ∃ after, plainContext.eraseCustomer 1 5 (subjectRows none) = .ok (1, after) ∧
      (Forgotten plainContext "ada@example.com" (subjectRows none) after ↔
        Forgettable plainContext "ada@example.com" (some 1) (subjectRows none)) :=
  ⟨⟨_, rfl, (forgotten_iff_forgettable plainContext 5 (subjectRows none) _).1 1 erasureRequest rfl rfl⟩,
    ⟨_, rfl, (forgotten_iff_forgettable plainContext 5 (subjectRows none) _).2 1 ada 1 rfl rfl⟩⟩

end Aicos.Properties
