import Aicos.Settlement.Requests
import Aicos.Inventory.Sequential

namespace Aicos.Settlement

open Aicos.Commerce Aicos.Billing Aicos.Orders Aicos.Returns Aicos.Data

/-! What the three refund paths record: the rows they add, and what they take
"fully refunded" to mean. -/

/-- `closes` says that a full refund also closes the order and its payment,
which the return path leaves alone. -/
structure Recording where
  payment : Payment
  rows : List Refund
  fully : Bool
  closes : Bool
deriving DecidableEq

def orderAfter (closes fully : Bool) : Order → Order :=
  if closes then refundedOrder fully else returnedOrder fully

def paymentAfter (closes fully mine : Bool) (payment : Payment) : Payment :=
  if closes ∧ fully ∧ mine then refundedPayment payment else payment

def Recording.order (recording : Recording) : Order → Order :=
  orderAfter recording.closes recording.fully

def Recording.payments (recording : Recording) (payments : List Payment) : List Payment :=
  if recording.closes ∧ recording.fully then
    updateWhere (fun row => row.id = recording.payment.id) refundedPayment payments
  else payments

def Recording.amount (recording : Recording) : Int :=
  (recording.rows.map (·.amountCents)).sum

/-- The refund an admin request records, unless it is refused or Stripe's id is
known already. -/
def orderRecording (stripe : StripeApi) (id : OrderId) (dto : RefundOrderDto) (db : Db) : Option Recording :=
  match planRefund id dto db with
  | .error _ => none
  | .ok plan =>
      if stripe.configured then
        (stripe.refund plan.request).bind fun stripeRefundId =>
          if (db.findRefund stripeRefundId).isNone then
            some {
              payment := plan.payment
              rows := [plan.row dto.reason stripeRefundId]
              fully := plan.fully
              closes := true }
          else none
      else none

def planRecording (stripe : StripeApi) (plan : ReturnRefundPlan) (db : Db) : Option Recording :=
  match plan.payment, callStripe stripe plan with
  | some (payment, _), .ok stripeRefundId =>
      if stripeRefundId.all fun id => (db.findRefund id).isNone then
        some {
          payment
          rows := [plan.row payment stripeRefundId]
          fully := plan.amount ≥ payment.amountCents
          closes := false }
      else none
  | _, _ => none

def returnRecording (stripe : StripeApi) (id : ReturnId) (db : Db) : Option Recording :=
  match requireReturn id db with
  | .error _ => none
  | .ok read =>
      match Returns.planRefund read with
      | .ok (some plan) => planRecording stripe plan db
      | _ => none

def chargeRecording (charge : ChargeObj) (db : Db) : Option Recording :=
  (charge.paymentIntent.bind fun intent => db.findPaymentByIntent intent).bind fun payment =>
    (db.findOrder payment.orderId).map fun _ => {
      payment
      rows := unrecorded payment (charge.refunds.getD []) db.refunds
      fully := totalRefunded (charge.refunds.getD []) ≥ payment.amountCents
      closes := true }

def recording (worker : Worker) : Request → Option Recording
  | .refundOrder stripe id dto => orderRecording stripe id dto worker.db
  | .refundReturn stripe id _ => returnRecording stripe id worker.db
  | .deliver job _ =>
      match job.event.object with
      | .chargeRefunded charge => if job.event.id ∈ worker.done then none else chargeRecording charge worker.db
      | _ => none
  | _ => none

def Refunds : Request → Prop
  | .refundOrder .. => True
  | .refundReturn .. => True
  | .deliver job _ => ∃ charge, job.event.object = .chargeRefunded charge
  | _ => False

def ordersAfter (recording : Option Recording) (orders : List Order) : List Order :=
  match recording with
  | none => orders
  | some recording => updateWhere (fun row => row.id = recording.payment.orderId) recording.order orders

def paymentsAfter (recording : Option Recording) (payments : List Payment) : List Payment :=
  match recording with
  | none => payments
  | some recording => recording.payments payments

def newRefunds (recording : Option Recording) : List Refund :=
  match recording with
  | none => []
  | some recording => recording.rows

@[simp] theorem ordersAfter_none (orders : List Order) : ordersAfter none orders = orders := rfl

@[simp] theorem paymentsAfter_none (payments : List Payment) : paymentsAfter none payments = payments := rfl

@[simp] theorem newRefunds_none : newRefunds none = [] := rfl

@[simp] theorem newRefunds_some (recording : Recording) : newRefunds (some recording) = recording.rows := rfl

structure Recorded (recording : Option Recording) (before after : Db) : Prop where
  orders : after.orders = ordersAfter recording before.orders
  payments : after.payments = paymentsAfter recording before.payments
  refunds : after.refunds = before.refunds ++ newRefunds recording

theorem recorded_none {db : Db} : Recorded none db db :=
  ⟨rfl, rfl, by simp⟩

theorem findRefund_none {id : StripeRefundId} {db : Db} (fresh : (db.findRefund id).isNone = true) :
    ∀ other ∈ db.refunds, other.stripeRefundId ≠ some id := by
  have absent := Option.isNone_iff_eq_none.mp fresh
  simpa [Db.findRefund] using absent

theorem findRefund_some {id : StripeRefundId} {db : Db} (known : ¬ (db.findRefund id).isNone = true) :
    db.refunds.any (fun other => other.stripeRefundId = some id) = true := by
  cases found : db.findRefund id with
  | none => simp [found] at known
  | some row =>
      have same := List.find?_some found
      exact List.any_eq_true.mpr ⟨row, List.mem_of_find?_eq_some found, same⟩

theorem createRefund_known {id : StripeRefundId} {db : Db} (refund : Refund)
    (named : refund.stripeRefundId = some id) (known : ¬ (db.findRefund id).isNone = true) :
    db.createRefund refund = .error (.constraint .stripeRefundUnique) := by
  have clash := findRefund_some known
  rw [Db.createRefund, named, if_pos ⟨by simp, clash⟩]
  rfl

theorem recordRefund_eq {plan : RefundPlan} {stripeRefundId : StripeRefundId} {db : Db} {id : OrderId}
    {dto : RefundOrderDto} (reason : Option String) (planned : planRefund id dto db = .ok plan)
    (fresh : (db.findRefund stripeRefundId).isNone = true) :
    ∃ after, Orders.recordRefund plan reason stripeRefundId db = .ok after := by
  obtain ⟨found, same, held, _, _, _⟩ := planRefund_ok planned
  obtain ⟨member, _, _⟩ := captured_some held
  have created := Db.createRefund_eq (plan.row reason stripeRefundId) (findRefund_none fresh)
  have there : ({ db with refunds := db.refunds ++ [plan.row reason stripeRefundId] } : Db).findOrder plan.order.id =
      some plan.order := by rw [same]; exact found
  have updated := Db.updateOrder_eq (refundedOrder plan.fully) there rfl rfl
  simp only [Orders.recordRefund, created, ok_bind, updated]
  split
  · obtain ⟨row, present⟩ := Db.findPayment_of_mem (latestPayments_mem.mp member).1
    simp only [Db.updatePayment, Db.findPayment] at present ⊢
    rw [present]
    exact ⟨_, rfl⟩
  · exact ⟨_, rfl⟩

theorem refundOrder_recorded (stripe : StripeApi) (id : OrderId) (dto : RefundOrderDto) (db : Db) :
    Recorded (orderRecording stripe id dto db) db (commit (Orders.refund stripe id dto) db) := by
  cases planned : planRefund id dto db with
  | error failure =>
      simp only [orderRecording, commit, Orders.refund, planned, bind, Except.bind]
      exact recorded_none
  | ok plan =>
      simp only [orderRecording, commit, Orders.refund, planned, ok_bind]
      cases configured : stripe.configured with
      | false => simp only [Bool.false_eq_true, not_false_eq_true, if_true, if_false]; exact recorded_none
      | true =>
          simp only [not_true_eq_false, if_true, if_false]
          cases granted : stripe.refund plan.request with
          | none => exact recorded_none
          | some stripeRefundId =>
              simp only [Option.bind_some]
              by_cases fresh : (db.findRefund stripeRefundId).isNone = true
              · obtain ⟨after, ran⟩ := recordRefund_eq dto.reason planned fresh
                simp only [if_pos fresh, ran]
                obtain ⟨_, same, held, _, _, _⟩ := planRefund_ok planned
                have owner := (latestPayments_mem.mp (captured_some held).1).2
                rw [recordRefund_ok ran]
                refine ⟨?_, ?_, rfl⟩
                · simp only [ordersAfter, Recording.order, owner, same]
                  rfl
                · simp only [paymentsAfter, Recording.payments, true_and]
              · have refused : Orders.recordRefund plan dto.reason stripeRefundId db =
                    .error (.constraint .stripeRefundUnique) := by
                  rw [Orders.recordRefund, createRefund_known (plan.row dto.reason stripeRefundId) rfl fresh]
                  rfl
                simp only [if_neg fresh, refused]
                exact recorded_none

theorem recordMoney_eq {plan : ReturnRefundPlan} {stripeRefundId : Option StripeRefundId} {db : Db} {order : Order}
    (found : db.findOrder plan.order.id = some order)
    (fresh : stripeRefundId.all fun id => (db.findRefund id).isNone) :
    ∃ after, recordMoney plan stripeRefundId db = .ok after ∧ after.returns = db.returns := by
  cases held : plan.payment with
  | none => exact ⟨db, by simp only [recordMoney, held]; rfl, rfl⟩
  | some pair =>
      have created : db.createRefund (plan.row pair.1 stripeRefundId) =
          .ok { db with refunds := db.refunds ++ [plan.row pair.1 stripeRefundId] } := by
        cases stripeRefundId with
        | none => rw [Db.createRefund, if_neg fun clash => clash.1 rfl]; rfl
        | some id => exact Db.createRefund_eq _ (findRefund_none fresh)
      have there : ({ db with refunds := db.refunds ++ [plan.row pair.1 stripeRefundId] } : Db).findOrder
          plan.order.id = some order := found
      have updated := Db.updateOrder_eq (returnedOrder (plan.amount ≥ pair.1.amountCents)) there rfl rfl
      simp only [recordMoney, held, created, ok_bind, updated]
      exact ⟨_, rfl, rfl⟩

theorem recordReturn_eq {read : ReturnRead} {plan : ReturnRefundPlan} {id : ReturnId}
    {stripeRefundId : Option StripeRefundId} {db : Db} (now : Instant) (required : requireReturn id db = .ok read)
    (planned : Returns.planRefund read = .ok (some plan))
    (fresh : stripeRefundId.all fun id => (db.findRefund id).isNone) :
    ∃ after, Returns.recordRefund plan stripeRefundId now db = .ok after := by
  obtain ⟨found, there, _⟩ := requireReturn_ok required
  obtain ⟨_, _, ret, order, _, _⟩ := Returns.planRefund_ok planned
  obtain ⟨stock, restocked⟩ : ∃ stock, (restockItems plan.ret.id now plan.ret.items).alone
      Inventory.stockStore db.stock = .ok ((), stock) := ⟨_, Inventory.restockItems_alone _ _ _ _⟩
  simp only [Returns.recordRefund, Db.onStock, restocked, ok_bind]
  have same : plan.order.id = read.ret.orderId := by rw [order, Db.findOrder_id there]
  have paidFor : ({ db with stock } : Db).findOrder plan.order.id = some read.order := by
    rw [same]
    exact there
  obtain ⟨last, paid, returns⟩ := recordMoney_eq paidFor fresh
  have present : last.findReturn plan.ret.id = some read.ret := by
    rw [Db.findReturn, returns, ret, Db.findReturn_id found]
    exact found
  rw [paid, ok_bind, Db.updateReturn, present]
  exact ⟨_, rfl⟩

theorem recordReturn_recorded {read : ReturnRead} {plan : ReturnRefundPlan} {id : ReturnId}
    {stripe : StripeApi} {stripeRefundId : Option StripeRefundId} {db : Db} (now : Instant)
    (required : requireReturn id db = .ok read) (planned : Returns.planRefund read = .ok (some plan))
    (called : callStripe stripe plan = .ok stripeRefundId) :
    Recorded (planRecording stripe plan db) db (commit (Returns.recordRefund plan stripeRefundId now) db) := by
  by_cases fresh : (stripeRefundId.all fun id => (db.findRefund id).isNone) = true
  · obtain ⟨after, ran⟩ := recordReturn_eq now required planned fresh
    obtain ⟨stock, _, rfl⟩ := Returns.recordRefund_ok ran
    simp only [commit, ran, planRecording, called]
    cases held : plan.payment with
    | none => exact ⟨rfl, rfl, rfl⟩
    | some pair =>
        obtain ⟨_, _, _, order, payment, _⟩ := Returns.planRefund_ok planned
        obtain ⟨_, _, payments⟩ := requireReturn_ok required
        have member := (captured_some (payment ▸ held)).1
        rw [payments] at member
        have owner : pair.1.orderId = plan.order.id := by
          rw [order]
          simpa using (List.mem_filter.mp member).2
        simp only [if_pos fresh]
        refine ⟨?_, rfl, rfl⟩
        simp only [ordersAfter, Recording.order, owner]
        rfl
  · cases stripeRefundId with
    | none => simp at fresh
    | some stripeRefund =>
        cases held : plan.payment with
        | none => simp [callStripe, ReturnRefundPlan.request, held, pure, Except.pure] at called
        | some pair =>
            obtain ⟨stock, restocked⟩ : ∃ stock, (restockItems plan.ret.id now plan.ret.items).alone
                Inventory.stockStore db.stock = .ok ((), stock) := ⟨_, Inventory.restockItems_alone _ _ _ _⟩
            have known : ¬ (({ db with stock } : Db).findRefund stripeRefund).isNone = true := by
              simpa [Db.findRefund] using fresh
            have refused := createRefund_known (plan.row pair.1 (some stripeRefund)) rfl known
            have rolled : Returns.recordRefund plan (some stripeRefund) now db =
                .error (.constraint .stripeRefundUnique) := by
              simp only [Returns.recordRefund, Db.onStock, restocked, ok_bind, recordMoney, held, refused]
              rfl
            simp only [commit, rolled, planRecording, held, called, if_neg fresh]
            exact recorded_none

theorem refundReturn_recorded (stripe : StripeApi) (id : ReturnId) (now : Instant) (db : Db) :
    Recorded (returnRecording stripe id db) db (commit (Returns.refund stripe id now) db) := by
  cases required : requireReturn id db with
  | error failure =>
      simp only [returnRecording, commit, Returns.refund, required, bind, Except.bind]
      exact recorded_none
  | ok read =>
      cases planned : Returns.planRefund read with
      | error failure =>
          simp only [returnRecording, commit, Returns.refund, required, planned, bind, Except.bind]
          exact recorded_none
      | ok found =>
          cases found with
          | none =>
              simp only [returnRecording, commit, Returns.refund, required, planned, ok_bind]
              exact recorded_none
          | some plan =>
              cases called : callStripe stripe plan with
              | error failure =>
                  simp only [returnRecording, planRecording, commit, Returns.refund, required, planned, called,
                    bind, Except.bind]
                  cases plan.payment <;> exact recorded_none
              | ok stripeRefundId =>
                  have outcome := recordReturn_recorded now required planned called
                  simpa only [returnRecording, commit, Returns.refund, required, planned, called, ok_bind] using outcome

theorem onChargeRefunded_recorded (charge : ChargeObj) (db : Db) :
    Recorded (chargeRecording charge db) db (commit (onChargeRefunded charge) db) := by
  cases ran : onChargeRefunded charge db with
  | ok after =>
      simp only [commit, ran]
      rcases onChargeRefunded_ok ran with ⟨rfl, missing⟩ |
        ⟨intent, payment, order, fully, carried, found, there, rfl, rfl⟩
      · have nothing : chargeRecording charge after = none := by
          cases carried : charge.paymentIntent with
          | none => simp only [chargeRecording, carried, Option.bind_none]
          | some intent =>
              simp only [chargeRecording, carried, Option.bind_some, missing intent carried, Option.bind_none]
        rw [nothing]
        exact recorded_none
      · simp only [chargeRecording, carried, Option.bind_some, found, there, Option.map_some]
        refine ⟨rfl, ?_, rfl⟩
        simp only [paymentsAfter, Recording.payments, true_and]
  | error failure =>
      have nothing : chargeRecording charge db = none := by
        cases carried : charge.paymentIntent with
        | none => simp only [chargeRecording, carried, Option.bind_none]
        | some intent =>
            cases found : db.findPaymentByIntent intent with
            | none => simp only [chargeRecording, carried, Option.bind_some, found, Option.bind_none]
            | some payment =>
                cases there : db.findOrder payment.orderId with
                | none => simp only [chargeRecording, carried, Option.bind_some, found, there, Option.map_none]
                | some order =>
                    cases ran.symm.trans (onChargeRefunded_eq carried found there)
      simp only [commit, ran, nothing]
      exact recorded_none

/-- A recording is about a payment that is there, and its rows refund that payment. -/
structure Recording.WellFormed (recorded : Recording) (db : Db) : Prop where
  present : recorded.payment ∈ db.payments
  rows : ∀ row ∈ recorded.rows, row.paymentId = recorded.payment.id

theorem orderRecording_some {stripe : StripeApi} {id : OrderId} {dto : RefundOrderDto} {db : Db}
    {recorded : Recording} (made : orderRecording stripe id dto db = some recorded) :
    ∃ plan stripeRefundId, Orders.planRefund id dto db = .ok plan ∧ stripe.configured = true ∧
      stripe.refund plan.request = some stripeRefundId ∧ (db.findRefund stripeRefundId).isNone = true ∧
      recorded = {
        payment := plan.payment
        rows := [plan.row dto.reason stripeRefundId]
        fully := plan.fully
        closes := true } := by
  unfold orderRecording at made
  cases planned : Orders.planRefund id dto db with
  | error failure => simp [planned] at made
  | ok plan =>
      simp only [planned] at made
      split at made
      · rename_i configured
        obtain ⟨stripeRefundId, granted, made⟩ := Option.bind_eq_some_iff.mp made
        split at made
        · rename_i fresh
          cases made
          exact ⟨plan, stripeRefundId, rfl, configured, granted, fresh, rfl⟩
        · cases made
      · cases made

theorem returnRecording_some {stripe : StripeApi} {id : ReturnId} {db : Db} {recorded : Recording}
    (made : returnRecording stripe id db = some recorded) :
    ∃ read plan payment intent stripeRefundId, requireReturn id db = .ok read ∧
      Returns.planRefund read = .ok (some plan) ∧ plan.payment = some (payment, intent) ∧
      callStripe stripe plan = .ok stripeRefundId ∧
      (stripeRefundId.all fun id => (db.findRefund id).isNone) = true ∧
      recorded = {
        payment
        rows := [plan.row payment stripeRefundId]
        fully := plan.amount ≥ payment.amountCents
        closes := false } := by
  unfold returnRecording at made
  cases required : requireReturn id db with
  | error failure => simp [required] at made
  | ok read =>
      simp only [required] at made
      split at made
      · rename_i plan planned
        unfold planRecording at made
        split at made
        · rename_i payment intent stripeRefundId held called
          split at made
          · rename_i fresh
            cases made
            exact ⟨read, plan, payment, intent, stripeRefundId, rfl, planned, held, called, fresh, rfl⟩
          · cases made
        · cases made
      · cases made

theorem chargeRecording_some {charge : ChargeObj} {db : Db} {recorded : Recording}
    (made : chargeRecording charge db = some recorded) :
    ∃ intent payment, charge.paymentIntent = some intent ∧ db.findPaymentByIntent intent = some payment ∧
      recorded = {
        payment
        rows := unrecorded payment (charge.refunds.getD []) db.refunds
        fully := totalRefunded (charge.refunds.getD []) ≥ payment.amountCents
        closes := true } := by
  obtain ⟨payment, found, made⟩ := Option.bind_eq_some_iff.mp made
  obtain ⟨intent, carried, found⟩ := Option.bind_eq_some_iff.mp found
  obtain ⟨order, _, rfl⟩ := Option.map_eq_some_iff.mp made
  exact ⟨intent, payment, carried, found, rfl⟩

theorem planned_payment {id : ReturnId} {db : Db} {read : ReturnRead} {plan : ReturnRefundPlan}
    {payment : Payment} {intent : PaymentIntentId} (required : requireReturn id db = .ok read)
    (planned : Returns.planRefund read = .ok (some plan)) (held : plan.payment = some (payment, intent)) :
    payment ∈ db.payments ∧ payment.stripePaymentIntentId = some intent := by
  obtain ⟨_, _, _, _, same, _⟩ := Returns.planRefund_ok planned
  obtain ⟨member, _, carried⟩ := captured_some (same ▸ held : captured read.payments = some (payment, intent))
  rw [(requireReturn_ok required).2.2] at member
  exact ⟨List.mem_of_mem_filter member, carried⟩

theorem orderRecording_wellFormed {stripe : StripeApi} {id : OrderId} {dto : RefundOrderDto} {db : Db}
    {recorded : Recording} (made : orderRecording stripe id dto db = some recorded) : recorded.WellFormed db := by
  obtain ⟨plan, _, planned, _, _, _, rfl⟩ := orderRecording_some made
  obtain ⟨_, _, held, _, _, _⟩ := Orders.planRefund_ok planned
  exact ⟨(latestPayments_mem.mp (captured_some held).1).1, by simp [RefundPlan.row]⟩

theorem returnRecording_wellFormed {stripe : StripeApi} {id : ReturnId} {db : Db} {recorded : Recording}
    (made : returnRecording stripe id db = some recorded) : recorded.WellFormed db := by
  obtain ⟨read, plan, payment, intent, _, required, planned, held, _, _, rfl⟩ := returnRecording_some made
  exact ⟨(planned_payment required planned held).1, by simp [ReturnRefundPlan.row]⟩

theorem chargeRecording_wellFormed {charge : ChargeObj} {db : Db} {recorded : Recording}
    (made : chargeRecording charge db = some recorded) : recorded.WellFormed db := by
  obtain ⟨intent, payment, _, found, rfl⟩ := chargeRecording_some made
  refine ⟨List.mem_of_find?_eq_some found, fun row member => ?_⟩
  obtain ⟨_, _, rfl⟩ := unrecorded_mem member
  rfl

theorem recording_wellFormed {worker : Worker} {request : Request} {recorded : Recording}
    (made : recording worker request = some recorded) : recorded.WellFormed worker.db := by
  unfold recording at made
  split at made
  · exact orderRecording_wellFormed made
  · exact returnRecording_wellFormed made
  · split at made
    · split at made
      · cases made
      · exact chargeRecording_wellFormed made
    · cases made
  · cases made

theorem Recorded.findOrder {recorded : Recording} {before after : Db} (made : Recorded (some recorded) before after)
    (id : OrderId) :
    after.findOrder id = (before.findOrder id).map fun order =>
      if order.id = recorded.payment.orderId then recorded.order order else order := by
  have keyed : ∀ order, (recorded.order order).id = order.id := by
    intro order
    unfold Recording.order orderAfter
    split <;> rfl
  have moved := Db.findOrder_update before recorded.payment.orderId id recorded.order keyed
  rw [← moved, Db.findOrder, made.orders]
  rfl

theorem Recorded.findPayment {recorded : Recording} {before after : Db}
    (made : Recorded (some recorded) before after) (id : PaymentId) :
    after.findPayment id = (before.findPayment id).map
      (paymentAfter recorded.closes recorded.fully (recorded.payment.id = id)) := by
  have same := made.payments
  simp only [paymentsAfter, Recording.payments] at same
  split at same
  · rename_i closing
    have moved := Db.findPayment_update before recorded.payment.id id refundedPayment fun _ => rfl
    have there : after.findPayment id = Db.findPayment id { before with
        payments := updateWhere (fun row => row.id = recorded.payment.id) refundedPayment before.payments } := by
      simp only [Db.findPayment, same]
    rw [there, moved]
    cases found : before.findPayment id with
    | none => rfl
    | some payment =>
        have named := Db.findPayment_id found
        simp only [Option.map_some, paymentAfter, closing.1, closing.2, named, decide_eq_true_eq, true_and]
        by_cases mine : recorded.payment.id = id
        · simp [mine]
        · simp [mine, Ne.symm mine]
  · rename_i open_
    have there : after.findPayment id = before.findPayment id := by simp only [Db.findPayment, same]
    rw [there]
    cases before.findPayment id with
    | none => rfl
    | some payment =>
        have still : ¬ (recorded.closes = true ∧ recorded.fully = true ∧ decide (recorded.payment.id = id) = true) :=
          fun all => open_ ⟨all.1, all.2.1⟩
        simp only [Option.map_some, paymentAfter, if_neg still]

/-- What a refunding request does to the tables of money. -/
theorem step_recorded (worker : Worker) {request : Request} (refunds : Refunds request) :
    Recorded (recording worker request) worker.db (step worker request).db := by
  cases request with
  | deliver job crash =>
      obtain ⟨charge, object⟩ := refunds
      simp only [recording, object, step, process]
      split
      · exact recorded_none
      · have outcome := onChargeRefunded_recorded charge worker.db
        simp only [commit] at outcome
        simp only [handle, object]
        cases ran : onChargeRefunded charge worker.db with
        | ok after => simpa only [ran] using outcome
        | error failure => simpa only [ran] using outcome
  | refundOrder stripe id dto => exact refundOrder_recorded stripe id dto worker.db
  | refundReturn stripe id now => exact refundReturn_recorded stripe id now worker.db
  | expire event => exact refunds.elim
  | requestReturn insensitive slug dto id => exact refunds.elim
  | approve id => exact refunds.elim
  | reject id => exact refunds.elim

end Aicos.Settlement
