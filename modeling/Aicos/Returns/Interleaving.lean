import Aicos.Returns.Service
import Aicos.Inventory.Sequential
import Mathlib.Logic.Function.Basic

namespace Aicos.Returns

open Aicos.Commerce Aicos.Billing Aicos.Data Aicos.Inventory Aicos.Orders

/-! Approve, reject and refund requests next to each other and next to Stripe's
events.  A request is its read, the Stripe call of a refund, and its write; it
may fail or be given up between any two of them, and be issued again. -/

abbrev RequestId := Nat

inductive RequestPhase where
  | approving (id : ReturnId)
  | rejecting (id : ReturnId)
  | refunding (plan : ReturnRefundPlan)
  | recording (plan : ReturnRefundPlan) (stripeRefundId : Option StripeRefundId)

def RequestPhase.target : RequestPhase → Option ReturnId
  | .approving id => some id
  | .rejecting id => some id
  | .refunding _ => none
  | .recording plan _ => some plan.ret.id

def RequestPhase.plan : RequestPhase → Option ReturnRefundPlan
  | .refunding plan => some plan
  | .recording plan _ => some plan
  | _ => none

/-- A request whose last read found a return is about to write it, or calls Stripe first. -/
theorem RequestPhase.target_cases (phase : RequestPhase) :
    (∃ plan, phase = .refunding plan) ∨ ∃ target, phase.target = some target := by
  cases phase with
  | approving id => exact .inr ⟨id, rfl⟩
  | rejecting id => exact .inr ⟨id, rfl⟩
  | refunding plan => exact .inl ⟨plan, rfl⟩
  | recording plan stripeRefundId => exact .inr ⟨plan.ret.id, rfl⟩

/-- What came back from `refunds.create`. -/
inductive StripeReply where
  | created (id : StripeRefundId)
  /-- The refund was created and the reply was lost. -/
  | lost (id : StripeRefundId)
  | refused
  | unconfigured

def StripeReply.refunds : StripeReply → Bool
  | .created _ | .lost _ => true
  | .refused | .unconfigured => false

def StripeReply.api (reply : StripeReply) : StripeApi where
  configured := match reply with
    | .unconfigured => false
    | _ => true
  refund := fun _ => match reply with
    | .created id => some id
    | _ => none

/-- The rows, the requests under way, the returns of the Stripe refunds created
so far, and those whose request ended between its Stripe refund and its commit. -/
structure Counter where
  db : Db
  requests : RequestId → Option RequestPhase
  created : List ReturnId
  abandoned : List ReturnId

inductive CounterAction where
  | approve (request : RequestId) (id : ReturnId)
  | reject (request : RequestId) (id : ReturnId)
  | refund (request : RequestId) (id : ReturnId)
  | callStripe (request : RequestId) (reply : StripeReply)
  | write (request : RequestId) (now : Instant)
  | giveUp (request : RequestId)
  | chargeRefunded (charge : ChargeObj)

def Counter.enter (counter : Counter) (request : RequestId) (phase : Option RequestPhase) : Counter :=
  { counter with requests := Function.update counter.requests request phase }

def Counter.begin (counter : Counter) (request : RequestId) (read : Tx (Option RequestPhase)) : Counter :=
  match counter.requests request, read with
  | none, .ok phase => counter.enter request phase
  | _, _ => counter

/-- A request ends without its write; a Stripe refund it made stays. -/
def Counter.abandon (counter : Counter) (request : RequestId) : Counter :=
  match counter.requests request with
  | some (.recording plan (some _)) =>
      { counter.enter request none with abandoned := plan.ret.id :: counter.abandoned }
  | _ => counter.enter request none

def readApprove (id : ReturnId) (db : Db) : Tx (Option RequestPhase) := do
  let read ← requireReturn id db
  checkApprove read
  pure (some (.approving id))

def readReject (id : ReturnId) (db : Db) : Tx (Option RequestPhase) := do
  let read ← requireReturn id db
  checkReject read
  pure (some (.rejecting id))

def readRefund (id : ReturnId) (db : Db) : Tx (Option RequestPhase) := do
  let read ← requireReturn id db
  let plan ← planRefund read
  pure (plan.map .refunding)

def RequestPhase.write (now : Instant) : RequestPhase → Db → Tx Db
  | .approving id, db => recordStatus id .approved db
  | .rejecting id, db => recordStatus id .rejected db
  | .refunding _, db => pure db
  | .recording plan stripeRefundId, db => recordRefund plan stripeRefundId now db

def Counter.callStripe (counter : Counter) (request : RequestId) (plan : ReturnRefundPlan)
    (reply : StripeReply) : Counter :=
  match Returns.callStripe reply.api plan with
  | .ok none => counter.enter request (some (.recording plan none))
  | .ok (some id) =>
      { counter.enter request (some (.recording plan (some id))) with
        created := plan.ret.id :: counter.created }
  | .error _ =>
      -- the request ends here, with or without a refund at Stripe
      match reply with
      | .lost _ =>
          { counter.enter request none with
            created := plan.ret.id :: counter.created
            abandoned := plan.ret.id :: counter.abandoned }
      | _ => counter.enter request none

def Counter.write (counter : Counter) (request : RequestId) (phase : RequestPhase) (now : Instant) : Counter :=
  match phase.write now counter.db with
  | .ok db => { counter.enter request none with db }
  | .error _ => counter.abandon request

def Counter.step (counter : Counter) : CounterAction → Counter
  | .approve request id => counter.begin request (readApprove id counter.db)
  | .reject request id => counter.begin request (readReject id counter.db)
  | .refund request id => counter.begin request (readRefund id counter.db)
  | .callStripe request reply =>
      match counter.requests request with
      | some (.refunding plan) => counter.callStripe request plan reply
      | _ => counter
  | .write request now =>
      match counter.requests request with
      | none => counter
      | some (.refunding _) => counter
      | some phase => counter.write request phase now
  | .giveUp request => counter.abandon request
  | .chargeRefunded charge => { counter with db := commit (onChargeRefunded charge) counter.db }

def Counter.start (db : Db) : Counter :=
  { db, requests := fun _ => none, created := [], abandoned := [] }

end Aicos.Returns
