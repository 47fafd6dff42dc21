import Aicos.Billing.Settling
import Aicos.Settlement.Orderings

namespace Aicos.Settlement

open Aicos.Commerce Aicos.Billing Aicos.Data Aicos.Inventory Aicos.Transition

/-! The rows that the jobs of the billing queue leave, followed by the standing
of the order. -/

def factsOf (payment : Payment) : PaymentFacts where
  status := payment.status
  amountCents := payment.amountCents
  currency := payment.currency
  applicationFeeCents := payment.applicationFeeCents

/-- A Refund row up to the cuid of its Payment. -/
def withoutPayment (row : Refund) : Refund :=
  { row with paymentId := 0 }

def termsOf (session : CheckoutSessionObj) (order : Order) : Terms where
  orderId := order.id
  totalCents := order.totalCents
  currency := order.currency
  applicationFeeCents := order.applicationFeeCents
  paidCents := session.amountTotal.getD order.totalCents
  paidCurrency := toUpperCase (session.currency.getD order.currency)

def noticeOf : StripeObject → Option Notice
  | .checkoutSessionCompleted _ => some .completed
  | .paymentFailed _ => some .failed
  | .chargeRefunded charge => some (.refunded (charge.refunds.getD []))
  | _ => none

/-- The event is about the payment intent of an order: a failed attempt, the
completion of its session, or refunds of its charge. -/
def About (session : CheckoutSessionObj) (intent : PaymentIntentId) : StripeObject → Prop
  | .checkoutSessionCompleted other => other = session
  | .paymentFailed attempt => attempt.id = intent ∧ attempt.metadata = session.metadata
  | .chargeRefunded charge => charge.paymentIntent = some intent
  | _ => False

/-- The rows after a job; a handler that throws leaves them as they were. -/
def deliver (db : Db) (job : StripeJob) : Db :=
  commit (handle job) db

def notices (jobs : List StripeJob) : List Notice :=
  jobs.filterMap fun job => noticeOf job.event.object

structure Tracks (session : CheckoutSessionObj) (terms : Terms) (intent : PaymentIntentId) (db : Db)
    (standing : Standing) : Prop where
  named : ∃ metadata, session.metadata = some metadata ∧ metadata.tenantId = some db.tenantId ∧
    metadata.orderId = some terms.orderId
  order : ∃ order, db.findOrder terms.orderId = some order ∧ order.status = standing.status ∧
    order.financialStatus = standing.financialStatus
  payment : (db.findPaymentByIntent intent).map factsOf = standing.payment
  owner : ∀ payment, db.findPaymentByIntent intent = some payment → payment.orderId = terms.orderId
  refunds : db.refunds.map withoutPayment = standing.refunds

/-- The order is as checkout left it, and no unique column keeps its session from settling it. -/
structure Ready (session : CheckoutSessionObj) (terms : Terms) (intent : PaymentIntentId) (db : Db) : Prop where
  keyed : ItemsKeyed db.stock
  charged : session.paymentIntent = some intent
  order : ∃ order, db.findOrder terms.orderId = some order ∧ termsOf session order = terms ∧
    intentTaken session order db = false
  convertible : conversionTaken (session.metadata.bind (·.cartToken)) terms.orderId db = false

variable {session : CheckoutSessionObj} {terms : Terms} {intent : PaymentIntentId} {db : Db} {standing : Standing}

theorem findPaymentByIntent_update (change : Payment → Payment) (selected : Payment → Bool)
    (keeps : ∀ payment, (change payment).stripePaymentIntentId = payment.stripePaymentIntentId) (db : Db)
    (intent : PaymentIntentId) :
    ({ db with payments := updateWhere selected change db.payments } : Db).findPaymentByIntent intent =
      (db.findPaymentByIntent intent).map fun payment => if selected payment then change payment else payment :=
  find?_updateWhere_key keeps

theorem findPaymentByIntent_upsert (db : Db) {create : Payment} (change : Payment → Payment)
    (created : create.stripePaymentIntentId = some intent)
    (keeps : ∀ payment, (change payment).stripePaymentIntentId = payment.stripePaymentIntentId) :
    (db.upsertPayment intent create change).findPaymentByIntent intent =
      some (match db.findPaymentByIntent intent with
        | none => create
        | some payment => change payment) := by
  unfold Db.upsertPayment
  cases found : db.findPaymentByIntent intent with
  | none =>
      have absent : db.payments.find? (fun payment => payment.stripePaymentIntentId = some intent) = none := found
      simp [Db.findPaymentByIntent, List.find?_append, absent, created]
  | some payment =>
      have there : payment.stripePaymentIntentId = some intent := by simpa using List.find?_some found
      simp only
      rw [findPaymentByIntent_update change _ keeps db, found]
      simp [there]

theorem onPaymentFailed_upsert {attempt : PaymentIntentObj} {id : PaymentId} {order : Order}
    (tracks : Tracks session terms intent db standing) (about : About session intent (.paymentFailed attempt))
    (found : db.findOrder terms.orderId = some order) :
    onPaymentFailed attempt id db = db.upsertPayment intent (failedPayment attempt id order) fun payment =>
      { payment with
        status := .failed
        failureReason := some (attempt.lastPaymentErrorMessage.getD "Payment failed") } := by
  obtain ⟨metadata, carried, tenant, named⟩ := tracks.named
  obtain ⟨same, carries⟩ := about
  unfold onPaymentFailed
  simp [carries, carried, tenant, named, found, same]

theorem Tracks.fail {attempt : PaymentIntentObj} (id : PaymentId) (tracks : Tracks session terms intent db standing)
    (about : About session intent (.paymentFailed attempt))
    (draft : standing.payment = none → Ready session terms intent db) :
    Tracks session terms intent (onPaymentFailed attempt id db) (standing.fail terms) := by
  obtain ⟨order, found, status, financialStatus⟩ := tracks.order
  have created : (failedPayment attempt id order).stripePaymentIntentId = some intent := congrArg some about.1
  rw [onPaymentFailed_upsert tracks about found]
  have there := findPaymentByIntent_upsert db (fun payment => { payment with
    status := .failed
    failureReason := some (attempt.lastPaymentErrorMessage.getD "Payment failed") }) created fun _ => rfl
  constructor
  · exact tracks.named
  · exact ⟨order, found, status, financialStatus⟩
  · rw [there]
    have before := tracks.payment
    cases payment : db.findPaymentByIntent intent with
    | none =>
        rw [payment] at before
        obtain ⟨_, _, ⟨other, same, draft, _⟩, _⟩ := draft before.symm
        rw [found] at same
        cases same
        rw [Standing.fail, ← before, ← draft]
        rfl
    | some payment' =>
        rw [payment] at before
        rw [Standing.fail, ← before]
        rfl
  · intro payment present
    rw [there] at present
    cases before : db.findPaymentByIntent intent with
    | none =>
        rw [before] at present
        cases present
        exact Db.findOrder_id found
    | some payment' =>
        rw [before] at present
        cases present
        exact tracks.owner payment' before
  · exact tracks.refunds

theorem Ready.update {after : Db} (ready : Ready session terms intent db) (stock : after.stock = db.stock)
    (carts : after.carts = db.carts) (id : OrderId) (change : Order → Order)
    (keyed : ∀ order, (change order).id = order.id)
    (column : ∀ order, (change order).stripePaymentIntentId = order.stripePaymentIntentId)
    (same : ∀ order, termsOf session (change order) = termsOf session order)
    (orders : after.orders = updateWhere (fun row => row.id = id) change db.orders) :
    Ready session terms intent after := by
  obtain ⟨order, found, agreed, free⟩ := ready.order
  have moved : after.findOrder terms.orderId = some (if order.id = id then change order else order) := by
    have updated := Db.findOrder_update db id terms.orderId change keyed
    rw [found, Option.map_some] at updated
    unfold Db.findOrder at updated ⊢
    rw [orders]
    exact updated
  have others (wanted : Option PaymentIntentId) :
      (after.orders.any fun other => other.id ≠ order.id ∧ other.stripePaymentIntentId = wanted) =
        db.orders.any fun other => other.id ≠ order.id ∧ other.stripePaymentIntentId = wanted := by
    rw [orders, updateWhere, List.any_map]
    congr 1
    funext other
    by_cases hit : other.id = id <;> simp [hit, keyed, column]
  constructor
  · rw [stock]
    exact ready.keyed
  · exact ready.charged
  · refine ⟨_, moved, ?_, ?_⟩
    · split
      · rw [same, agreed]
      · exact agreed
    · have clash : intentTaken session (if order.id = id then change order else order) after =
          intentTaken session order db := by
        by_cases hit : order.id = id
        · rw [if_pos hit]
          simp only [intentTaken, Db.orderClash, paidOrder, keyed, column, others]
          congr
        · rw [if_neg hit]
          simp only [intentTaken, Db.orderClash, others]
      rw [clash]
      exact free
  · have converted := ready.convertible
    unfold conversionTaken at converted ⊢
    rw [carts]
    exact converted

theorem Ready.fail {attempt : PaymentIntentObj} (id : PaymentId) (ready : Ready session terms intent db) :
    Ready session terms intent (onPaymentFailed attempt id db) := by
  rw [onPaymentFailed_eq]
  exact ⟨ready.keyed, ready.charged, ready.order, ready.convertible⟩

/-- Which refunds are unrecorded, and what their rows say, does not hang on the cuid of the Payment. -/
theorem unrecorded_withoutPayment {payment : Payment} (owner : payment.orderId = terms.orderId)
    (listed : List StripeRefundObj) (recorded : List Refund) :
    (unrecorded payment listed recorded).map withoutPayment =
      unrecorded (refundSource terms payment.currency) listed (recorded.map withoutPayment) := by
  induction listed generalizing recorded with
  | nil => rfl
  | cons refund listed ih =>
      have row : withoutPayment (reconciledRefund payment refund) =
          reconciledRefund (refundSource terms payment.currency) refund := by
        simp [withoutPayment, reconciledRefund, refundSource, owner]
      have known : ((recorded.map withoutPayment).any fun row => row.stripeRefundId = some refund.id) =
          recorded.any fun row => row.stripeRefundId = some refund.id := List.any_map
      simp only [unrecorded, known]
      split
      · exact ih recorded
      · rw [List.map_cons, ih, List.map_append, List.map_singleton, row]

theorem Tracks.refund {charge : ChargeObj} (tracks : Tracks session terms intent db standing)
    (about : charge.paymentIntent = some intent) :
    Tracks session terms intent (commit (onChargeRefunded charge) db)
      (standing.refund terms (charge.refunds.getD [])) := by
  have before := tracks.payment
  cases found : db.findPaymentByIntent intent with
  | none =>
      have nothing : commit (onChargeRefunded charge) db = db := by
        unfold commit onChargeRefunded
        simp only [about, found]
        rfl
      rw [found] at before
      rw [nothing, Standing.refund, ← before]
      exact tracks
  | some payment =>
      obtain ⟨order, there, status, financialStatus⟩ := tracks.order
      have owner := tracks.owner payment found
      rw [found, Option.map_some] at before
      rw [commit, onChargeRefunded_eq about found (owner ▸ there), Standing.refund, ← before]
      have named := Db.findOrder_id there
      have left {rows : Db} (payments : rows.payments =
          if totalRefunded (charge.refunds.getD []) ≥ payment.amountCents then
            updateWhere (fun row => row.id = payment.id) refundedPayment db.payments else db.payments) :
          rows.findPaymentByIntent intent = some
            (if totalRefunded (charge.refunds.getD []) ≥ payment.amountCents then refundedPayment payment
            else payment) := by
        unfold Db.findPaymentByIntent at found ⊢
        rw [payments]
        split
        · have updated := findPaymentByIntent_update refundedPayment (fun row => row.id = payment.id) (fun _ => rfl) db
            intent
          unfold Db.findPaymentByIntent at updated
          rw [found] at updated
          simpa using updated
        · exact found
      constructor
      · exact tracks.named
      · have moved := Db.findOrder_update db payment.orderId terms.orderId
          (refundedOrder (totalRefunded (charge.refunds.getD []) ≥ payment.amountCents)) fun _ => rfl
        rw [there] at moved
        refine ⟨_, moved, ?_, ?_⟩
        · simp [named, owner, refundedOrder, factsOf, status]
        · simp [named, owner, refundedOrder, factsOf]
      · rw [left rfl]
        by_cases full : totalRefunded (charge.refunds.getD []) ≥ payment.amountCents
        · simp [full, factsOf, refundedPayment]
        · simp [full, factsOf]
      · intro other present
        rw [left rfl] at present
        cases present
        split
        · exact owner
        · exact owner
      · rw [List.map_append, unrecorded_withoutPayment owner, tracks.refunds]
        rfl

theorem Ready.refund {charge : ChargeObj} (ready : Ready session terms intent db) :
    Ready session terms intent (commit (onChargeRefunded charge) db) := by
  unfold commit
  cases handled : onChargeRefunded charge db with
  | error failure => exact ready
  | ok after =>
      rcases onChargeRefunded_ok handled with ⟨rfl, _⟩ | ⟨_, payment, _, fully, _, _, _, _, rfl⟩
      · exact ready
      · exact ready.update rfl rfl payment.orderId (refundedOrder fully) (fun _ => rfl) (fun _ => rfl)
          (fun _ => rfl) rfl

theorem Tracks.complete (id : PaymentId) (now : Instant) (tracks : Tracks session terms intent db standing)
    (ready : Ready session terms intent db) (status : standing.status ≠ .paid)
    (financialStatus : standing.financialStatus ≠ .paid) :
    ∃ confirmation after, onCheckoutCompleted session id now db = .ok (confirmation, after) ∧
      Tracks session terms intent after (standing.complete terms) := by
  obtain ⟨metadata, carried, tenant, named⟩ := tracks.named
  obtain ⟨order, found, agreed, free⟩ := ready.order
  obtain ⟨tracked, there, unpaid, unsettled⟩ := tracks.order
  rw [found] at there
  cases there
  subst agreed
  have payable : payable session db = some order := by
    have named : metadata.orderId = some order.id := named
    have found : db.findOrder order.id = some order := found
    simp [Billing.payable, carried, tenant, named, found, unpaid, unsettled, status, financialStatus]
  have settled : settles session db = some order := by
    have converted : conversionTaken (session.metadata.bind (·.cartToken)) order.id db = false := ready.convertible
    simp [settles, payable, free, converted]
  obtain ⟨oversold, stock, _, ran⟩ := onCheckoutCompleted_settles id now ready.keyed settled
  refine ⟨_, _, ran, ?_⟩
  have before := tracks.payment
  have captured : (capturedPayment session intent id now order).stripePaymentIntentId = some intent := rfl
  have left : (settledRows session (session.metadata.bind (·.cartToken)) id now order stock db).findPaymentByIntent
      intent = some (match db.findPaymentByIntent intent with
        | none => capturedPayment session intent id now order
        | some payment => { payment with
            status := .succeeded
            amountCents := session.amountTotal.getD order.totalCents
            paidAt := some now }) := by
    have upserted := findPaymentByIntent_upsert db (fun payment => { payment with
      status := .succeeded
      amountCents := session.amountTotal.getD order.totalCents
      paidAt := some now }) captured fun _ => rfl
    unfold settledRows settlePayment
    rw [ready.charged]
    exact upserted
  constructor
  · exact tracks.named
  · have moved := Db.findOrder_update db order.id order.id (paidOrder session now) fun _ => rfl
    have found : db.findOrder order.id = some order := found
    rw [found, Option.map_some, if_pos rfl] at moved
    exact ⟨paidOrder session now order, moved, rfl, rfl⟩
  · rw [left, Standing.complete, ← before]
    cases db.findPaymentByIntent intent <;> rfl
  · intro payment present
    rw [left] at present
    cases old : db.findPaymentByIntent intent with
    | none =>
        rw [old] at present
        cases present
        rfl
    | some row =>
        rw [old] at present
        cases present
        exact tracks.owner row old
  · exact tracks.refunds

/-- What keeps the rows and the standing together: the order still waits for the
one completion to come, or there is a Payment and no completion to come. -/
def Pending (session : CheckoutSessionObj) (terms : Terms) (intent : PaymentIntentId) (db : Db) (standing : Standing)
    (ahead : Nat) : Prop :=
  (Ready session terms intent db ∧ standing.status ≠ .paid ∧ standing.financialStatus ≠ .paid ∧ ahead ≤ 1) ∨
    (standing.payment ≠ none ∧ ahead = 0)

theorem refund_unpaid {standing : Standing} (listed : List StripeRefundObj) (status : standing.status ≠ .paid)
    (financialStatus : standing.financialStatus ≠ .paid) :
    (standing.refund terms listed).status ≠ .paid ∧ (standing.refund terms listed).financialStatus ≠ .paid := by
  unfold Standing.refund
  split
  · exact ⟨status, financialStatus⟩
  · constructor
    · simp only
      split
      · decide
      · exact status
    · simp only
      split <;> decide

/-- One job, on the rows and on the standing. -/
theorem Tracks.deliver {job : StripeJob} {ahead : Nat} (tracks : Tracks session terms intent db standing)
    (about : About session intent job.event.object)
    (pending : Pending session terms intent db standing (ahead + (notices [job]).countP Notice.isCompletion)) :
    Tracks session terms intent (deliver db job) (run (Standing.step terms) standing (notices [job])) ∧
      Pending session terms intent (Settlement.deliver db job) (run (Standing.step terms) standing (notices [job]))
        ahead := by
  unfold Settlement.deliver handle
  cases object : job.event.object with
  | checkoutSessionCompleted other =>
      rw [object] at about
      cases about
      have heard : notices [job] = [.completed] := by simp [notices, object, noticeOf]
      rw [heard] at pending ⊢
      rcases pending with ⟨ready, status, financialStatus, last⟩ | ⟨_, none⟩
      · obtain ⟨confirmation, after, ran, next⟩ := tracks.complete job.paymentId job.now ready status financialStatus
        have completed : run (Standing.step terms) standing [.completed] = standing.complete terms := by
          simp [Standing.step, status, financialStatus]
        simp only [commit, ran, ok_bind, pure, Except.pure, completed]
        refine ⟨next, .inr ⟨by simp [Standing.complete], ?_⟩⟩
        have one : [Notice.completed].countP Notice.isCompletion = 1 := rfl
        omega
      · have one : [Notice.completed].countP Notice.isCompletion = 1 := rfl
        omega
  | paymentFailed attempt =>
      rw [object] at about
      have heard : notices [job] = [.failed] := by simp [notices, object, noticeOf]
      rw [heard] at pending ⊢
      have none : [Notice.failed].countP Notice.isCompletion = 0 := rfl
      rw [none, Nat.add_zero] at pending
      simp only [commit, pure, Except.pure, run_cons, run_nil, Standing.step]
      constructor
      · apply tracks.fail job.paymentId about
        intro empty
        rcases pending with ⟨ready, _⟩ | ⟨there, _⟩
        · exact ready
        · exact absurd empty there
      · rcases pending with ⟨ready, status, financialStatus, last⟩ | ⟨_, none⟩
        · exact .inl ⟨ready.fail job.paymentId, status, financialStatus, last⟩
        · exact .inr ⟨by simp [Standing.fail], none⟩
  | chargeRefunded charge =>
      rw [object] at about
      have heard : notices [job] = [.refunded (charge.refunds.getD [])] := by simp [notices, object, noticeOf]
      rw [heard] at pending ⊢
      have none : [Notice.refunded (charge.refunds.getD [])].countP Notice.isCompletion = 0 := rfl
      rw [none, Nat.add_zero] at pending
      simp only [run_cons, run_nil, Standing.step]
      refine ⟨tracks.refund about, ?_⟩
      rcases pending with ⟨ready, status, financialStatus, last⟩ | ⟨there, none⟩
      · obtain ⟨unpaid, unsettled⟩ := refund_unpaid (charge.refunds.getD []) status financialStatus
        exact .inl ⟨ready.refund, unpaid, unsettled, last⟩
      · refine .inr ⟨?_, none⟩
        cases payment : standing.payment with
        | none => exact absurd payment there
        | some facts => simp [Standing.refund, payment]
  | accountUpdated account =>
      rw [object] at about
      cases about
  | unhandled =>
      rw [object] at about
      cases about

theorem Tracks.run (jobs : List StripeJob) (tracks : Tracks session terms intent db standing)
    (about : ∀ job ∈ jobs, About session intent job.event.object)
    (pending : Pending session terms intent db standing ((notices jobs).countP Notice.isCompletion)) :
    Tracks session terms intent (Transition.run Settlement.deliver db jobs)
      (Transition.run (Standing.step terms) standing (notices jobs)) := by
  induction jobs generalizing db standing with
  | nil => exact tracks
  | cons job jobs ih =>
      have split : notices (job :: jobs) = notices [job] ++ notices jobs := by
        rw [notices, List.filterMap_cons]
        simp only [notices, List.filterMap_cons, List.filterMap_nil]
        split <;> rfl
      rw [split, List.countP_append, Nat.add_comm] at pending
      obtain ⟨next, later⟩ := tracks.deliver (about job (by simp)) pending
      rw [split, run_append]
      exact ih next (fun other member => about other (by simp [member])) later

end Aicos.Settlement
