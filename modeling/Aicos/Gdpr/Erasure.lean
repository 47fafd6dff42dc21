import Aicos.Commerce.Schema
import Aicos.Data.Table

namespace Aicos.Gdpr

open Aicos.Commerce Aicos.Data

/-! Data-subject requests: the `dsar` worker and `GdprService.eraseCustomer`. -/

abbrev CustomerId := Nat
abbrev AddressId := Nat
abbrev DsarRequestId := Nat

structure Customer where
  id : CustomerId
  email : String
  firstName : Option String
  lastName : Option String
  phone : Option String
  note : Option String
  deletedAt : Option Instant
deriving DecidableEq

structure Address where
  id : AddressId
  customerId : Option CustomerId
  firstName : Option String
  lastName : Option String
  company : Option String
  line1 : String
  line2 : Option String
  phone : Option String
deriving DecidableEq

inductive DsarType where
  | export | erasure
deriving DecidableEq

inductive DsarStatus where
  | received | processing | completed | rejected
deriving DecidableEq

structure DsarRequest where
  id : DsarRequestId
  type : DsarType
  status : DsarStatus
  subjectEmail : String
  dueAt : Instant
  completedAt : Option Instant
deriving DecidableEq

inductive AuditMetadata where
  | erased (subjectEmail : String) (customerErased : Bool) (ordersScrubbed : Nat)
  | exported (subjectEmail : String) (hasCustomer : Bool) (orders : Nat)
  | customerErased (ordersScrubbed : Nat)
deriving DecidableEq

structure AuditLog where
  action : DsarType
  entityType : String
  entityId : Nat
  metadata : AuditMetadata
deriving DecidableEq

/-- The rows of one tenant. -/
structure SubjectRows where
  customers : List Customer
  addresses : List Address
  orders : List Order
  requests : List DsarRequest
  auditLogs : List AuditLog
deriving DecidableEq

/-- `foldCase` identifies the texts that are equal up to letter case, and `cuid` is the
text of a customer's id. -/
structure SubjectContext where
  foldCase : String → String
  cuid : CustomerId → String

inductive GdprError where
  | notFound (message : String)
  | db (error : DbError)
deriving DecidableEq

def Customer.anonymized (email : String) (now : Instant) (customer : Customer) : Customer :=
  { customer with
    email := email, firstName := none, lastName := none, phone := none, note := none, deletedAt := some now }

def Address.erased (address : Address) : Address :=
  { address with
    firstName := none, lastName := none, phone := none, line1 := "[erased]", line2 := none, company := none }

namespace SubjectContext

variable (context : SubjectContext)

/-- `{ equals: email, mode: 'insensitive' }`. -/
def sameEmail (first second : String) : Bool :=
  context.foldCase first = context.foldCase second

def ordered (email : String) (order : Order) : Bool :=
  order.email.any fun used => context.sameEmail used email

def anonEmail : Option CustomerId → String
  | some id => s!"erased-{context.cuid id}@anonymized.invalid"
  | none => "erased@anonymized.invalid"

/-- The updates of an erasure, and how many orders they scrub. -/
def scrub (email : String) (customer : Option Customer) (now : Instant) (rows : SubjectRows) :
    Except GdprError (Nat × SubjectRows) :=
  let anon := context.anonEmail (customer.map (·.id))
  let scrubbed := (rows.orders.filter (context.ordered email)).length
  let orders := updateWhere (context.ordered email) (fun order => { order with email := some anon }) rows.orders
  match customer with
  | none => .ok (scrubbed, { rows with orders })
  | some customer =>
      if rows.customers.any fun other => other.id ≠ customer.id ∧ other.email = anon then .error (.db .unique)
      else .ok (scrubbed, { rows with
        orders
        addresses := updateWhere (fun address => address.customerId = some customer.id) Address.erased rows.addresses
        customers := updateWhere (fun other => other.id = customer.id) (Customer.anonymized anon now) rows.customers })

def findByEmail (email : String) (rows : SubjectRows) : Option Customer :=
  rows.customers.find? fun customer => context.sameEmail customer.email email

/-- `DsarProcessor.erase`. -/
def erase (email : String) (now : Instant) (rows : SubjectRows) : Except GdprError (Nat × SubjectRows) :=
  context.scrub email (context.findByEmail email rows) now rows

def audit (entry : AuditLog) (rows : SubjectRows) : SubjectRows :=
  { rows with auditLogs := rows.auditLogs ++ [entry] }

/-- `GdprService.eraseCustomer`. -/
def eraseCustomer (id : CustomerId) (now : Instant) (rows : SubjectRows) : Except GdprError (Nat × SubjectRows) :=
  match rows.customers.find? fun customer => customer.id = id with
  | none => .error (.notFound "Customer not found")
  | some customer =>
      (context.scrub customer.email (some customer) now rows).map fun (scrubbed, after) =>
        (scrubbed, audit ⟨.erasure, "customer", id, .customerErased scrubbed⟩ after)

def setStatus (id : DsarRequestId) (status : DsarStatus) (completedAt : Option Instant) (rows : SubjectRows) :
    SubjectRows :=
  { rows with
    requests := updateWhere (fun request => request.id = id)
      (fun request => { request with status := status, completedAt := completedAt.or request.completedAt }) rows.requests }

/-- The transaction of `DsarProcessor.process`, with the type it has processed. -/
def process (id : DsarRequestId) (now : Instant) (rows : SubjectRows) :
    Except GdprError (Option DsarType × SubjectRows) :=
  match rows.requests.find? fun request => request.id = id with
  | none => .ok (none, rows)
  | some request =>
      if request.status = .completed ∨ request.status = .rejected then .ok (none, rows)
      else
        let email := request.subjectEmail
        let processing := setStatus id .processing none rows
        match request.type with
        | .erasure =>
            (context.erase email now processing).map fun (scrubbed, after) =>
              let entry := ⟨.erasure, "dsar", id, .erased email (context.findByEmail email rows).isSome scrubbed⟩
              (some .erasure, setStatus id .completed (some now) (audit entry after))
        | .export =>
            let orders := (rows.orders.filter (context.ordered email)).length
            let entry := ⟨.export, "dsar", id, .exported email (context.findByEmail email rows).isSome orders⟩
            .ok (some .export, setStatus id .completed (some now) (audit entry processing))

end SubjectContext

end Aicos.Gdpr
