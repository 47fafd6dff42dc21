import Aicos.Settlement.Bank

namespace Aicos.Settlement

open Aicos.Commerce Aicos.Billing Aicos.Orders

/-! One `OrdersService.refund` request and its repetitions, step by step, with the
`charge.refunded` events that arrive in between. -/

inductive RefundPhase where
  | idle
  /-- Between the checks and the Stripe call. -/
  | planned (plan : RefundPlan)
  /-- Between the Stripe call and the recording transaction. -/
  | granted (plan : RefundPlan) (stripeRefundId : StripeRefundId)
  /-- Between the recording transaction and the reading back of the order. -/
  | recorded
  | returned

/-- `made` counts the Stripe refunds of the request; an attempt that throws after
its grant has `abandoned` one. -/
structure RefundAttempts where
  db : Db
  bank : Bank
  phase : RefundPhase
  made : Nat
  abandoned : Bool

inductive RefundAction where
  | read
  /-- With `lost` the refund is made and the reply does not arrive. -/
  | callStripe (configured : Bool) (reply : Option StripeRefundId) (lost : Bool)
  | record
  | findOne
  /-- The attempt throws where it stands; inside a transaction that takes back its statements. -/
  | fail
  | chargeRefunded (charge : ChargeObj)

def RefundAttempts.callStripe (attempts : RefundAttempts) (plan : RefundPlan) (configured : Bool)
    (reply : Option StripeRefundId) (lost : Bool) : RefundAttempts :=
  let stripe := attempts.bank.api configured reply
  if ¬ stripe.configured then { attempts with phase := .idle }
  else
    match stripe.refund plan.request with
    | none => { attempts with phase := .idle }
    | some id =>
        { attempts with
          bank := { attempts.bank with refunds := attempts.bank.refunds ++ Bank.serve stripe (some plan.request) }
          phase := if lost then .idle else .granted plan id
          made := attempts.made + 1
          abandoned := attempts.abandoned || lost }

def RefundAttempts.step (id : OrderId) (dto : RefundOrderDto) (attempts : RefundAttempts) :
    RefundAction → RefundAttempts
  | .read =>
      match attempts.phase with
      | .idle =>
          match planRefund id dto attempts.db with
          | .ok plan => { attempts with phase := .planned plan }
          | .error _ => attempts
      | _ => attempts
  | .callStripe configured reply lost =>
      match attempts.phase with
      | .planned plan => attempts.callStripe plan configured reply lost
      | _ => attempts
  | .record =>
      match attempts.phase with
      | .granted plan stripeRefundId =>
          match recordRefund plan dto.reason stripeRefundId attempts.db with
          | .ok db => { attempts with db, phase := .recorded }
          | .error _ => { attempts with phase := .idle, abandoned := true }
      | _ => attempts
  | .findOne =>
      match attempts.phase with
      | .recorded =>
          match attempts.db.findOrder id with
          | some _ => { attempts with phase := .returned }
          | none => { attempts with phase := .idle, abandoned := true }
      | _ => attempts
  | .fail =>
      match attempts.phase with
      | .planned _ => { attempts with phase := .idle }
      | .granted _ _ | .recorded => { attempts with phase := .idle, abandoned := true }
      | _ => attempts
  | .chargeRefunded charge =>
      if attempts.bank.lists charge then { attempts with db := commit (onChargeRefunded charge) attempts.db }
      else attempts

def RefundAttempts.start (db : Db) (bank : Bank) : RefundAttempts :=
  { db, bank, phase := .idle, made := 0, abandoned := false }

theorem findOne_db (id : OrderId) (dto : RefundOrderDto) (attempts : RefundAttempts) :
    (attempts.step id dto .findOne).db = attempts.db := by
  simp only [RefundAttempts.step]
  split
  · split <;> rfl
  · rfl

/-- Undisturbed, the steps of one attempt leave the rows that `Orders.refund` leaves. -/
theorem refundAttempt_alone (id : OrderId) (dto : RefundOrderDto) (configured : Bool)
    (reply : Option StripeRefundId) {attempts : RefundAttempts} (idle : attempts.phase = .idle) :
    ([.read, .callStripe configured reply false, .record, .findOne].foldl (RefundAttempts.step id dto) attempts).db =
      commit (Orders.refund (attempts.bank.api configured reply) id dto) attempts.db := by
  simp only [List.foldl_cons, List.foldl_nil, findOne_db]
  cases planned : planRefund id dto attempts.db with
  | error failure => simp [RefundAttempts.step, idle, planned, commit, Orders.refund, bind, Except.bind]
  | ok plan =>
  cases open_ : (attempts.bank.api configured reply).configured with
  | false =>
      simp [RefundAttempts.step, RefundAttempts.callStripe, idle, planned, open_, commit, Orders.refund]
      rfl
  | true =>
  cases granted : (attempts.bank.api configured reply).refund plan.request with
  | none =>
      simp [RefundAttempts.step, RefundAttempts.callStripe, idle, planned, open_, granted, commit, Orders.refund]
      rfl
  | some stripeRefundId =>
      simp [RefundAttempts.step, RefundAttempts.callStripe, idle, planned, open_, granted, commit, Orders.refund]
      cases recordRefund plan dto.reason stripeRefundId attempts.db <;> rfl

end Aicos.Settlement
