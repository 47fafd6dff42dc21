import Aicos.Settlement.Recording

namespace Aicos.Settlement

open Aicos.Commerce Aicos.Billing Aicos.Orders Aicos.Returns Aicos.Data

/-! The refund paths next to Stripe's own books.  Stripe grants a refund only up
to what is left on the payment intent; refunds can also be made on its dashboard,
and a `charge.refunded` event lists some of the refunds made on its intent. -/

structure StripeRefund where
  id : StripeRefundId
  intent : PaymentIntentId
  amount : Int
deriving DecidableEq

structure Bank where
  captured : PaymentIntentId → Int
  refunds : List StripeRefund

def Bank.refunded (bank : Bank) (intent : PaymentIntentId) : Int :=
  totalWhere (fun refund => refund.intent = intent) (·.amount) bank.refunds

/-- Stripe accepts the refund, under an id it has not used yet. -/
def Bank.grants (bank : Bank) (request : StripeRefundRequest) (id : StripeRefundId) : Bool :=
  0 < request.amount ∧ bank.refunded request.paymentIntent + request.amount ≤ bank.captured request.paymentIntent ∧
    bank.refunds.all fun refund => refund.id ≠ id

/-- The client a request is served with; `reply` is the id of the next refund,
or `none` where the call fails for another reason. -/
def Bank.api (bank : Bank) (configured : Bool) (reply : Option StripeRefundId) : StripeApi where
  configured := configured
  refund := fun request => reply.filter (bank.grants request)

def Bank.serve (stripe : StripeApi) (asked : Option StripeRefundRequest) : List StripeRefund :=
  match asked with
  | none => []
  | some request =>
      if stripe.configured then
        match stripe.refund request with
        | none => []
        | some id => [{ id, intent := request.paymentIntent, amount := request.amount }]
      else []

theorem callStripe_granted {stripe : StripeApi} {plan : ReturnRefundPlan} {payment : Payment}
    {intent : PaymentIntentId} {id : StripeRefundId} (held : plan.payment = some (payment, intent))
    (called : callStripe stripe plan = .ok (some id)) :
    Bank.serve stripe plan.request = [{ id, intent, amount := plan.amount }] := by
  unfold callStripe at called
  cases asked : plan.request with
  | none => simp [asked, pure, Except.pure] at called
  | some request =>
      have same : request.paymentIntent = intent ∧ request.amount = plan.amount := by
        simp only [ReturnRefundPlan.request, held] at asked
        split at asked
        · cases asked
          exact ⟨rfl, rfl⟩
        · cases asked
      simp only [asked] at called
      split at called
      · cases called
      · rename_i configured
        cases granted : stripe.refund request with
        | none => simp only [granted] at called; cases called
        | some other =>
            simp only [granted] at called
            cases called
            have open_ : stripe.configured = true := by simpa using configured
            simp only [Bank.serve, open_, if_true, granted, same.1, same.2]

structure Desk where
  db : Db
  bank : Bank

inductive DeskAction where
  | requestReturn (insensitive : String → String → Bool) (slug : String) (dto : RequestReturnDto)
      (id : ReturnId)
  | approve (id : ReturnId)
  | reject (id : ReturnId)
  | refundOrder (configured : Bool) (reply : Option StripeRefundId) (id : OrderId) (dto : RefundOrderDto)
  | refundReturn (configured : Bool) (reply : Option StripeRefundId) (id : ReturnId) (now : Instant)
  | dashboardRefund (request : StripeRefundRequest) (id : StripeRefundId)
  | chargeRefunded (charge : ChargeObj)

def orderRequest (id : OrderId) (dto : RefundOrderDto) (db : Db) : Option StripeRefundRequest :=
  match Orders.planRefund id dto db with
  | .ok plan => some plan.request
  | .error _ => none

def returnRequest (id : ReturnId) (db : Db) : Option StripeRefundRequest :=
  match requireReturn id db with
  | .error _ => none
  | .ok read =>
      match Returns.planRefund read with
      | .ok (some plan) => plan.request
      | _ => none

def Bank.lists (bank : Bank) (charge : ChargeObj) : Bool :=
  (charge.refunds.getD []).all fun listed =>
    bank.refunds.any fun refund =>
      refund.id = listed.id ∧ refund.amount = listed.amount ∧ charge.paymentIntent = some refund.intent

def Desk.granted (desk : Desk) : DeskAction → List StripeRefund
  | .refundOrder configured reply id dto =>
      Bank.serve (desk.bank.api configured reply) (orderRequest id dto desk.db)
  | .refundReturn configured reply id _ =>
      Bank.serve (desk.bank.api configured reply) (returnRequest id desk.db)
  | .dashboardRefund request id =>
      if desk.bank.grants request id then
        [{ id, intent := request.paymentIntent, amount := request.amount }]
      else []
  | _ => []

def Desk.body (desk : Desk) : DeskAction → Db → Tx Db
  | .requestReturn insensitive slug dto id => Returns.requestReturn insensitive slug dto id
  | .approve id => Returns.approve id
  | .reject id => Returns.reject id
  | .refundOrder configured reply id dto => Orders.refund (desk.bank.api configured reply) id dto
  | .refundReturn configured reply id now => Returns.refund (desk.bank.api configured reply) id now
  | .dashboardRefund .. => pure
  | .chargeRefunded charge => if desk.bank.lists charge then onChargeRefunded charge else pure

def Desk.step (desk : Desk) (action : DeskAction) : Desk where
  db := commit (desk.body action) desk.db
  bank := { desk.bank with refunds := desk.bank.refunds ++ desk.granted action }

@[simp] theorem Desk.step_captured (desk : Desk) (action : DeskAction) :
    (desk.step action).bank.captured = desk.bank.captured := rfl

def Desk.recording (desk : Desk) : DeskAction → Option Recording
  | .refundOrder configured reply id dto => orderRecording (desk.bank.api configured reply) id dto desk.db
  | .refundReturn configured reply id _ => returnRecording (desk.bank.api configured reply) id desk.db
  | .chargeRefunded charge => if desk.bank.lists charge then chargeRecording charge desk.db else none
  | _ => none

theorem Desk.step_recorded (desk : Desk) (action : DeskAction) :
    Recorded (desk.recording action) desk.db (desk.step action).db := by
  have untouched {body : Db → Tx Db}
      (quiet : ∀ after, body desk.db = .ok after → after.orders = desk.db.orders ∧
        after.payments = desk.db.payments ∧ after.refunds = desk.db.refunds) :
      Recorded none desk.db (commit body desk.db) := by
    cases ran : body desk.db with
    | error failure => simp only [commit, ran]; exact recorded_none
    | ok after =>
        obtain ⟨orders, payments, refunds⟩ := quiet after ran
        simp only [commit, ran]
        exact ⟨orders, payments, by simpa using refunds⟩
  cases action with
  | requestReturn insensitive slug dto id =>
      refine untouched fun after ran => ?_
      obtain ⟨_, _, _, _, _, rfl⟩ := requestReturn_ok ran
      exact ⟨rfl, rfl, rfl⟩
  | approve id =>
      refine untouched fun after ran => ?_
      obtain ⟨_, _, _, rfl⟩ := approve_ok ran
      exact ⟨rfl, rfl, rfl⟩
  | reject id =>
      refine untouched fun after ran => ?_
      obtain ⟨_, _, _, rfl⟩ := reject_ok ran
      exact ⟨rfl, rfl, rfl⟩
  | refundOrder configured reply id dto => exact refundOrder_recorded _ id dto desk.db
  | refundReturn configured reply id now => exact refundReturn_recorded _ id now desk.db
  | dashboardRefund request id => exact recorded_none
  | chargeRefunded charge =>
      by_cases listed : desk.bank.lists charge = true
      · have outcome := onChargeRefunded_recorded charge desk.db
        simpa only [Desk.recording, Desk.step, Desk.body, if_pos listed] using outcome
      · simp only [Desk.recording, Desk.step, Desk.body, if_neg listed]
        exact recorded_none

end Aicos.Settlement
