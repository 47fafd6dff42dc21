import Aicos.Settlement.Tracking

namespace Aicos.Settlement

open Aicos.Commerce Aicos.Billing Aicos.Data Aicos.Inventory Aicos.Transition

/-! The rows of one order among others: what the events about its payment do to them, and what
is left of them by the events about other orders. -/

/-- The rows without the refunds of other orders. -/
def ownRows (orderId : OrderId) (db : Db) : Db :=
  { db with refunds := db.refunds.filter fun row => row.orderId = orderId }

/-- What an event says about a payment intent. -/
def heard (intent : PaymentIntentId) : StripeObject → Option Notice
  | .checkoutSessionCompleted session => if session.paymentIntent = some intent then some .completed else none
  | .paymentFailed attempt => if attempt.id = intent then some .failed else none
  | .chargeRefunded charge =>
      if charge.paymentIntent = some intent then some (.refunded (charge.refunds.getD [])) else none
  | _ => none

/-- The event is about another payment intent and another order, and lists no refund of `mine`. -/
def Beside (orderId : OrderId) (intent : PaymentIntentId) (mine : StripeRefundId → Prop) : StripeObject → Prop
  | .checkoutSessionCompleted session =>
      session.paymentIntent ≠ some intent ∧ session.metadata.bind (·.orderId) ≠ some orderId
  | .paymentFailed attempt => attempt.id ≠ intent ∧ attempt.metadata.bind (·.orderId) ≠ some orderId
  | .chargeRefunded charge => charge.paymentIntent ≠ some intent ∧ ∀ refund ∈ charge.refunds.getD [], ¬ mine refund.id
  | _ => True

/-- The event is about the payment intent, and the refunds it lists are in `mine`. -/
structure Own (session : CheckoutSessionObj) (intent : PaymentIntentId) (mine : StripeRefundId → Prop)
    (object : StripeObject) : Prop where
  about : About session intent object
  listed : ∀ notice, noticeOf object = some notice → ∀ refund ∈ notice.listed, mine refund.id

/-- The Payments of the order are those of its intent, no two Payments have one cuid, and the
refunds of other orders are not in `mine`. -/
structure Apart (orderId : OrderId) (intent : PaymentIntentId) (mine : StripeRefundId → Prop) (db : Db) : Prop where
  payments : ∀ payment ∈ db.payments, payment.orderId = orderId → payment.stripePaymentIntentId = some intent
  distinct : (db.payments.map (·.id)).Nodup
  refunds : ∀ row ∈ db.refunds, row.orderId ≠ orderId → ∀ id, row.stripeRefundId = some id → ¬ mine id

/-- A change that leaves the order, its Payment and its refunds alone, and takes nothing that
its session needs. -/
structure Aside (session : CheckoutSessionObj) (terms : Terms) (intent : PaymentIntentId) (before after : Db) :
    Prop where
  tenant : after.tenantId = before.tenantId
  order : after.findOrder terms.orderId = before.findOrder terms.orderId
  payment : after.findPaymentByIntent intent = before.findPaymentByIntent intent
  refunds : (ownRows terms.orderId after).refunds = (ownRows terms.orderId before).refunds
  ready : Ready session terms intent before → Ready session terms intent after

variable {session : CheckoutSessionObj} {terms : Terms} {intent : PaymentIntentId} {mine : StripeRefundId → Prop}
  {orderId : OrderId} {db after : Db} {standing : Standing} {object : StripeObject}

theorem Aside.refl (db : Db) : Aside session terms intent db db :=
  ⟨rfl, rfl, rfl, rfl, fun ready => ready⟩

theorem heard_of_about (charged : session.paymentIntent = some intent) (about : About session intent object) :
    heard intent object = noticeOf object := by
  cases object with
  | checkoutSessionCompleted other =>
      cases about
      simp [heard, noticeOf, charged]
  | paymentFailed attempt => simp [heard, noticeOf, about.1]
  | chargeRefunded charge =>
      have same : charge.paymentIntent = some intent := about
      simp [heard, noticeOf, same]
  | accountUpdated account => rfl
  | unhandled => rfl

theorem heard_of_beside (beside : Beside orderId intent mine object) : heard intent object = none := by
  cases object with
  | checkoutSessionCompleted other => exact if_neg beside.1
  | paymentFailed attempt => exact if_neg beside.1
  | chargeRefunded charge => exact if_neg beside.1
  | accountUpdated account => rfl
  | unhandled => rfl

theorem ready_ownRows : Ready session terms intent (ownRows orderId db) ↔ Ready session terms intent db :=
  ⟨fun ready => ⟨ready.keyed, ready.charged, ready.order, ready.convertible⟩,
    fun ready => ⟨ready.keyed, ready.charged, ready.order, ready.convertible⟩⟩

section Aside

variable (aside : Aside session terms intent db after)

include aside

theorem Aside.tracks (tracks : Tracks session terms intent (ownRows terms.orderId db) standing) :
    Tracks session terms intent (ownRows terms.orderId after) standing := by
  obtain ⟨metadata, carried, tenant, named⟩ := tracks.named
  refine ⟨⟨metadata, carried, ?_, named⟩, ?_, ?_, ?_, ?_⟩
  · exact tenant.trans (congrArg some aside.tenant.symm)
  · obtain ⟨order, found, statuses⟩ := tracks.order
    exact ⟨order, aside.order.trans found, statuses⟩
  · exact (congrArg (Option.map factsOf) aside.payment).trans tracks.payment
  · exact fun payment found => tracks.owner payment (aside.payment.symm.trans found)
  · rw [aside.refunds]
    exact tracks.refunds

theorem Aside.pending {ahead : Nat}
    (pending : Pending session terms intent (ownRows terms.orderId db) standing ahead) :
    Pending session terms intent (ownRows terms.orderId after) standing ahead :=
  pending.imp_left fun waits => ⟨ready_ownRows.mpr (aside.ready (ready_ownRows.mp waits.1)), waits.2⟩

end Aside

theorem findOrder_update_other {id wanted : OrderId} (change : Order → Order) (apart : id ≠ wanted)
    (keyed : ∀ order, (change order).id = order.id) (db : Db) :
    ({ db with orders := updateWhere (fun row => row.id = id) change db.orders } : Db).findOrder wanted =
      db.findOrder wanted := by
  rw [Db.findOrder_update db id wanted change keyed]
  cases found : db.findOrder wanted with
  | none => rfl
  | some order =>
      have elsewhere : order.id ≠ id := fun same => apart (same.symm.trans (Db.findOrder_id found))
      rw [Option.map_some, if_neg elsewhere]

section Payments

theorem findPaymentByIntent_upsert_other {create : Payment} {other : PaymentIntentId} (change : Payment → Payment)
    (apart : other ≠ intent) (created : create.stripePaymentIntentId = some other)
    (keeps : ∀ payment, (change payment).stripePaymentIntentId = payment.stripePaymentIntentId) (db : Db) :
    (db.upsertPayment other create change).findPaymentByIntent intent = db.findPaymentByIntent intent := by
  unfold Db.upsertPayment
  cases db.findPaymentByIntent other with
  | none => simp [Db.findPaymentByIntent, List.find?_append, created, apart]
  | some _ =>
      simp only
      rw [findPaymentByIntent_update change _ keeps db]
      cases found : db.findPaymentByIntent intent with
      | none => rfl
      | some payment =>
          have named : payment.stripePaymentIntentId = some intent := by simpa using List.find?_some found
          simp [named, Ne.symm apart]

theorem Apart.update {change : Payment → Payment} (selected : Payment → Bool) (apart : Apart orderId intent mine db)
    (keyed : ∀ payment, (change payment).id = payment.id)
    (kept : ∀ payment, (change payment).orderId = payment.orderId ∧
      (change payment).stripePaymentIntentId = payment.stripePaymentIntentId) :
    Apart orderId intent mine { db with payments := updateWhere selected change db.payments } := by
  refine ⟨fun payment member ours => ?_, ?_, apart.refunds⟩
  · obtain ⟨old, present, changed⟩ := mem_updateWhere.mp member
    have same : payment.orderId = old.orderId ∧ payment.stripePaymentIntentId = old.stripePaymentIntentId := by
      rw [← changed]
      split
      · exact kept old
      · exact ⟨rfl, rfl⟩
    exact same.2.trans (apart.payments old present (same.1.symm.trans ours))
  · simp only [map_updateWhere keyed]
    exact apart.distinct

theorem Apart.upsert {create : Payment} {other : PaymentIntentId} {change : Payment → Payment}
    (apart : Apart orderId intent mine db) (drawn : create.id ∉ db.payments.map (·.id))
    (own : create.orderId = orderId → create.stripePaymentIntentId = some intent)
    (keyed : ∀ payment, (change payment).id = payment.id)
    (kept : ∀ payment, (change payment).orderId = payment.orderId ∧
      (change payment).stripePaymentIntentId = payment.stripePaymentIntentId) :
    Apart orderId intent mine (db.upsertPayment other create change) := by
  unfold Db.upsertPayment
  cases db.findPaymentByIntent other with
  | none =>
      refine ⟨fun payment member ours => ?_, ?_, apart.refunds⟩
      · cases List.mem_append.mp member with
        | inl old => exact apart.payments payment old ours
        | inr new =>
            cases List.mem_singleton.mp new
            exact own ours
      · simp only [List.map_append, List.map_cons, List.map_nil]
        exact apart.distinct.append (List.nodup_singleton _) (List.disjoint_singleton.mpr drawn)
  | some _ => exact apart.update _ keyed kept

end Payments

section Failure

variable {attempt : PaymentIntentObj} (id : PaymentId)

/-- A failed attempt writes the Payment of the order it names, or nothing. -/
theorem onPaymentFailed_cases (attempt : PaymentIntentObj) (db : Db) :
    onPaymentFailed attempt id db = db ∨ ∃ order, attempt.metadata.bind (·.orderId) = some order.id ∧
      onPaymentFailed attempt id db = db.upsertPayment attempt.id (failedPayment attempt id order) fun payment =>
        { payment with
          status := .failed
          failureReason := some (attempt.lastPaymentErrorMessage.getD "Payment failed") } := by
  unfold onPaymentFailed
  split
  · exact .inl rfl
  · rename_i metadata carried
    split
    · rename_i tenantId orderId _ named
      split
      · exact .inl rfl
      · split
        · exact .inl rfl
        · rename_i order found
          refine .inr ⟨order, ?_, rfl⟩
          rw [carried, Option.bind_some, named, Db.findOrder_id found]
    · exact .inl rfl

theorem Beside.failed (beside : Beside terms.orderId intent mine (.paymentFailed attempt)) (db : Db) :
    Aside session terms intent db (onPaymentFailed attempt id db) := by
  have ready : Ready session terms intent db → Ready session terms intent (onPaymentFailed attempt id db) :=
    fun ready => ready.fail id
  obtain same | ⟨order, _, written⟩ := onPaymentFailed_cases id attempt db
  · rw [same]
    exact .refl db
  · rw [written] at ready ⊢
    refine ⟨rfl, rfl, ?_, rfl, ready⟩
    have created : (failedPayment attempt id order).stripePaymentIntentId = some attempt.id := rfl
    refine findPaymentByIntent_upsert_other _ beside.1 created ?_ db
    exact fun _ => rfl

theorem Apart.fail (apart : Apart orderId intent mine db) (drawn : id ∉ db.payments.map (·.id))
    (own : attempt.metadata.bind (·.orderId) = some orderId → attempt.id = intent) :
    Apart orderId intent mine (onPaymentFailed attempt id db) := by
  obtain same | ⟨order, named, written⟩ := onPaymentFailed_cases id attempt db
  · rw [same]
    exact apart
  · rw [written]
    refine apart.upsert drawn (fun ours => ?_) (fun _ => rfl) fun _ => ⟨rfl, rfl⟩
    exact congrArg some (own (named.trans (congrArg some ours)))

theorem onPaymentFailed_ownRows (attempt : PaymentIntentObj) (db : Db) :
    onPaymentFailed attempt id (ownRows orderId db) = ownRows orderId (onPaymentFailed attempt id db) := by
  have tenant : (ownRows orderId db).tenantId = db.tenantId := rfl
  have orders (wanted : OrderId) : (ownRows orderId db).findOrder wanted = db.findOrder wanted := rfl
  unfold onPaymentFailed
  simp only [tenant, orders]
  split
  · rfl
  · split
    · split
      · rfl
      · split <;> rfl
    · rfl

end Failure

section Completion

variable {other : CheckoutSessionObj} {id : PaymentId} {now : Instant} {order : Order} {cartToken : Option CartToken}
  {confirmation : Option Confirmation}

theorem intentTaken_mono {mine : Order} (charged : session.paymentIntent = some intent)
    (fewer : ∀ row ∈ after.orders, row.id ≠ mine.id → row.stripePaymentIntentId = some intent →
      ∃ old ∈ db.orders, old.id ≠ mine.id ∧ old.stripePaymentIntentId = some intent)
    (free : intentTaken session mine db = false) : intentTaken session mine after = false := by
  have wanted : (paidOrder session 0 mine).stripePaymentIntentId = some intent := by
    simp [paidOrder, charged]
  simp only [intentTaken, Db.orderClash, wanted, decide_eq_false_iff_not, not_and, List.any_eq_true,
    decide_eq_true_eq, not_exists] at free ⊢
  intro new named row member apart taken
  obtain ⟨old, present, beside, same⟩ := fewer row member apart taken
  exact free new named old present beside same

theorem conversionTaken_settledCarts {wanted : OrderId} (apart : order.id ≠ wanted) (mine : Option CartToken)
    (free : conversionTaken mine wanted db = false) :
    conversionTaken mine wanted { db with carts := settledCarts cartToken order.id db.carts } = false := by
  cases mine with
  | none => rfl
  | some token =>
      cases cartToken with
      | none => exact free
      | some converted =>
          simp only [conversionTaken, decide_eq_false_iff_not, not_and, List.any_eq_true, decide_eq_true_eq,
            not_exists, Db.openCartOf] at free ⊢
          -- a cart that was converted is open for nobody, and the new conversions are to another order
          have kept : ∀ cart ∈ settledCarts (some converted) order.id db.carts, ∃ old ∈ db.carts,
              cart.token = old.token ∧ (cart = old ∨ cart.convertedOrderId = some order.id) := by
            intro cart member
            obtain ⟨old, present, rfl⟩ := mem_updateWhere.mp member
            refine ⟨old, present, ?_⟩
            split
            · exact ⟨rfl, .inr rfl⟩
            · exact ⟨rfl, .inl rfl⟩
          rintro ⟨cart, member, named, opened⟩ taken there converts
          obtain ⟨old, present, _, rfl | closed⟩ := kept cart member
          · obtain ⟨before, here, _, rfl | moved⟩ := kept taken there
            · exact free ⟨cart, present, named, opened⟩ taken here converts
            · rw [converts] at moved
              exact apart (Option.some.inj moved).symm
          · rw [opened] at closed
            cases closed

/-- Settling another order takes nothing that `Ready` asks for. -/
theorem Ready.beside {oversold : List Shortfall} {stock : Inventory} (ready : Ready session terms intent db)
    (apart : order.id ≠ terms.orderId) (free : other.paymentIntent ≠ some intent)
    (ran : (decrementStock order.id now order.items).alone stockStore db.stock = .ok (oversold, stock)) :
    Ready session terms intent (settledRows other cartToken id now order stock db) := by
  obtain ⟨mine, found, agreed, untaken⟩ := ready.order
  have there : (settledRows other cartToken id now order stock db).findOrder terms.orderId = some mine :=
    (findOrder_update_other (paidOrder other now) apart (fun _ => rfl) db).trans found
  constructor
  · obtain ⟨_, _, again, served⟩ := decrementStock_alone order.id now order.items db.stock ready.keyed
    rw [ran] at again
    cases again
    have ids : stock.items.map (·.id) = db.stock.items.map (·.id) := served.ids
    have keyed : (db.stock.items.map (·.id)).Nodup := ready.keyed
    rw [← ids] at keyed
    exact keyed
  · exact ready.charged
  · refine ⟨mine, there, agreed, intentTaken_mono ready.charged (fun row member beside taken => ?_) untaken⟩
    obtain ⟨old, present, rfl⟩ := mem_updateWhere.mp member
    by_cases hit : old.id = order.id
    · simp only [hit, decide_true, if_true] at beside taken
      refine ⟨old, present, beside, ?_⟩
      cases carried : other.paymentIntent with
      | none => simpa [paidOrder, carried] using taken
      | some charged =>
          have same : charged = intent := by simpa [paidOrder, carried] using taken
          exact absurd (carried.trans (congrArg some same)) free
    · simp only [hit, decide_false] at beside taken
      exact ⟨old, present, beside, taken⟩
  · exact conversionTaken_settledCarts apart _ ready.convertible

/-- A completed session settles the order it names, or changes nothing. -/
theorem onCheckoutCompleted_cases (handled : onCheckoutCompleted other id now db = .ok (confirmation, after)) :
    after = db ∨ ∃ order oversold stock, other.metadata.bind (·.orderId) = some order.id ∧
      (decrementStock order.id now order.items).alone stockStore db.stock = .ok (oversold, stock) ∧
      after = settledRows other (other.metadata.bind (·.cartToken)) id now order stock db := by
  obtain ⟨_, same⟩ | ⟨metadata, order, carried, _, named, _, _, _, settled⟩ := onCheckoutCompleted_ok handled
  · exact .inl same
  · obtain ⟨oversold, stock, ran, _, written⟩ := settle_ok settled
    refine .inr ⟨order, oversold, stock, ?_, ran, ?_⟩
    · rw [carried]
      exact named
    · rw [carried]
      exact written

theorem settlePayment_cases (other : CheckoutSessionObj) (id : PaymentId) (now : Instant) (order : Order) (db : Db) :
    settlePayment other id now order db = db ∨ ∃ charged, other.paymentIntent = some charged ∧
      settlePayment other id now order db =
        db.upsertPayment charged (capturedPayment other charged id now order) fun payment => { payment with
          status := .succeeded
          amountCents := other.amountTotal.getD order.totalCents
          paidAt := some now } := by
  unfold settlePayment
  cases other.paymentIntent with
  | none => exact .inl rfl
  | some charged => exact .inr ⟨charged, rfl, rfl⟩

theorem Beside.completed (beside : Beside terms.orderId intent mine (.checkoutSessionCompleted other))
    (handled : onCheckoutCompleted other id now db = .ok (confirmation, after)) :
    Aside session terms intent db after := by
  obtain rfl | ⟨order, oversold, stock, named, ran, rfl⟩ := onCheckoutCompleted_cases handled
  · exact .refl after
  · have apart : order.id ≠ terms.orderId := fun same => beside.2 (named.trans (congrArg some same))
    refine ⟨rfl, ?_, ?_, rfl, fun ready => ready.beside apart beside.1 ran⟩
    · exact findOrder_update_other (paidOrder other now) apart (fun _ => rfl) db
    · have same : (settlePayment other id now order db).findPaymentByIntent intent = db.findPaymentByIntent intent := by
        obtain same | ⟨charged, carried, written⟩ := settlePayment_cases other id now order db
        · rw [same]
        · rw [written]
          have elsewhere : charged ≠ intent := fun same => beside.1 (carried.trans (congrArg some same))
          have created : (capturedPayment other charged id now order).stripePaymentIntentId = some charged := rfl
          refine findPaymentByIntent_upsert_other _ elsewhere created ?_ db
          exact fun _ => rfl
      exact same

theorem Apart.complete (apart : Apart orderId intent mine db) (drawn : id ∉ db.payments.map (·.id))
    (own : other.metadata.bind (·.orderId) = some orderId → other.paymentIntent = some intent)
    (handled : onCheckoutCompleted other id now db = .ok (confirmation, after)) : Apart orderId intent mine after := by
  obtain rfl | ⟨order, oversold, stock, named, ran, rfl⟩ := onCheckoutCompleted_cases handled
  · exact apart
  · have paid : Apart orderId intent mine (settlePayment other id now order db) := by
      obtain same | ⟨charged, carried, written⟩ := settlePayment_cases other id now order db
      · rw [same]
        exact apart
      · rw [written]
        refine apart.upsert drawn (fun ours => ?_) (fun _ => rfl) fun _ => ⟨rfl, rfl⟩
        exact carried.symm.trans (own (named.trans (congrArg some ours)))
    exact ⟨paid.payments, paid.distinct, apart.refunds⟩

theorem onCheckoutCompleted_ownRows (keyed : ItemsKeyed db.stock)
    (handled : onCheckoutCompleted other id now db = .ok (confirmation, after)) :
    onCheckoutCompleted other id now (ownRows orderId db) = .ok (confirmation, ownRows orderId after) := by
  have same : payable other (ownRows orderId db) = payable other db := rfl
  cases named : payable other db with
  | none =>
      rw [onCheckoutCompleted_of_not_payable named] at handled
      cases handled
      exact onCheckoutCompleted_of_not_payable (same.trans named)
  | some order =>
      rw [onCheckoutCompleted_of_payable named] at handled
      rw [onCheckoutCompleted_of_payable (same.trans named)]
      have found := (payable_some named).2.1
      have there : (ownRows orderId db).findOrder order.id = some order := found
      obtain ⟨oversold, stock, ran, _⟩ := decrementStock_alone order.id now order.items db.stock keyed
      have again : (decrementStock order.id now order.items).alone stockStore (ownRows orderId db).stock =
          .ok (oversold, stock) := ran
      have taken : intentTaken other order (ownRows orderId db) = intentTaken other order db := rfl
      have converted : conversionTaken (other.metadata.bind (·.cartToken)) order.id (ownRows orderId db) =
          conversionTaken (other.metadata.bind (·.cartToken)) order.id db := by
        cases other.metadata.bind (·.cartToken) <;> rfl
      rw [settle_eq found ran] at handled
      rw [settle_eq there again, taken, converted]
      split at handled
      · cases handled
      · rename_i free
        split at handled
        · cases handled
        · rename_i unconverted
          cases handled
          rw [if_neg free, if_neg unconverted]
          have payments : (settlePayment other id now order (ownRows orderId db)).payments =
              (settlePayment other id now order db).payments := by
            unfold settlePayment
            cases other.paymentIntent <;> rfl
          simp only [settledRows, payments]
          rfl

end Completion

section Refunds

variable {charge : ChargeObj} {payment : Payment}

/-- The refunds of other orders do not matter for which refunds of the order are new. -/
theorem unrecorded_own (owner : payment.orderId = orderId) (listed : List StripeRefundObj) (recorded : List Refund)
    (apart : ∀ row ∈ recorded, row.orderId ≠ orderId → ∀ refund ∈ listed, row.stripeRefundId ≠ some refund.id) :
    (recorded ++ unrecorded payment listed recorded).filter (fun row => row.orderId = orderId) =
      recorded.filter (fun row => row.orderId = orderId) ++
        unrecorded payment listed (recorded.filter fun row => row.orderId = orderId) := by
  induction listed generalizing recorded with
  | nil => simp [unrecorded]
  | cons refund listed ih =>
      have known : ((recorded.filter fun row => row.orderId = orderId).any fun row =>
          row.stripeRefundId = some refund.id) = recorded.any fun row => row.stripeRefundId = some refund.id := by
        rw [Bool.eq_iff_iff]
        simp only [List.any_eq_true, List.mem_filter, decide_eq_true_eq]
        constructor
        · rintro ⟨row, ⟨member, _⟩, same⟩
          exact ⟨row, member, same⟩
        · rintro ⟨row, member, same⟩
          refine ⟨row, ⟨member, ?_⟩, same⟩
          by_contra ours
          exact apart row member ours refund List.mem_cons_self same
      rw [unrecorded, unrecorded, known]
      split
      · exact ih recorded fun row member ours other later => apart row member ours other (List.mem_cons_of_mem _ later)
      · have later := ih (recorded ++ [reconciledRefund payment refund]) fun row member ours other later => by
          cases List.mem_append.mp member with
          | inl old => exact apart row old ours other (List.mem_cons_of_mem _ later)
          | inr new =>
              cases List.mem_singleton.mp new
              exact absurd owner ours
        have ours : decide ((reconciledRefund payment refund).orderId = orderId) = true := decide_eq_true owner
        rw [List.filter_append (p := fun row : Refund => row.orderId = orderId) recorded] at later
        rw [← List.singleton_append, ← List.append_assoc, later]
        simp [ours]

theorem Beside.refunded (beside : Beside terms.orderId intent mine (.chargeRefunded charge))
    (apart : Apart terms.orderId intent mine db) (handled : onChargeRefunded charge db = .ok after) :
    Aside session terms intent db after := by
  obtain ⟨rfl, _⟩ | ⟨other, payment, order, fully, carried, found, there, _, rfl⟩ := onChargeRefunded_ok handled
  · exact .refl after
  · have named : payment.stripePaymentIntentId = some other := by simpa using List.find?_some found
    have member := List.mem_of_find?_eq_some found
    have elsewhere : payment.orderId ≠ terms.orderId := by
      intro ours
      rw [apart.payments payment member ours] at named
      exact beside.1 (carried.trans named.symm)
    refine ⟨rfl, ?_, ?_, ?_, fun ready => ?_⟩
    · exact findOrder_update_other (refundedOrder fully) elsewhere (fun _ => rfl) db
    · cases fully with
      | false => rfl
      | true =>
          refine Eq.trans (findPaymentByIntent_update refundedPayment (fun row => row.id = payment.id) (fun _ => rfl) db
            intent) ?_
          cases own : db.findPaymentByIntent intent with
          | none => rfl
          | some mine =>
              have ours : mine.stripePaymentIntentId = some intent := by simpa using List.find?_some own
              have apart : mine.id ≠ payment.id := by
                intro same
                rw [List.inj_on_of_nodup_map apart.distinct (List.mem_of_find?_eq_some own) member same, named] at ours
                exact beside.1 (carried.trans ours)
              simp [apart]
    · have none : (unrecorded payment (charge.refunds.getD []) db.refunds).filter
          (fun row => row.orderId = terms.orderId) = [] := by
        refine List.filter_eq_nil_iff.mpr fun row new => ?_
        obtain ⟨refund, _, rfl⟩ := unrecorded_mem new
        exact fun ours => elsewhere (of_decide_eq_true ours)
      simp only [ownRows, List.filter_append, none, List.append_nil]
    · exact ready.update rfl rfl payment.orderId (refundedOrder fully) (fun _ => rfl) (fun _ => rfl) (fun _ => rfl) rfl

theorem Apart.refund (apart : Apart orderId intent mine db)
    (listed : ∀ payment, db.findPaymentByIntent intent = some payment → payment.orderId = orderId)
    (own : charge.paymentIntent ≠ some intent → ∀ refund ∈ charge.refunds.getD [], ¬ mine refund.id)
    (handled : onChargeRefunded charge db = .ok after) : Apart orderId intent mine after := by
  obtain ⟨rfl, _⟩ | ⟨other, payment, order, fully, carried, found, there, _, rfl⟩ := onChargeRefunded_ok handled
  · exact apart
  · have paid : Apart orderId intent mine { db with
        payments := if fully then updateWhere (fun row => row.id = payment.id) refundedPayment db.payments
          else db.payments } := by
      cases fully with
      | false => exact apart
      | true => exact apart.update _ (fun _ => rfl) fun _ => ⟨rfl, rfl⟩
    refine ⟨paid.payments, paid.distinct, fun row member ours id named => ?_⟩
    cases List.mem_append.mp member with
    | inl old => exact apart.refunds row old ours id named
    | inr new =>
        obtain ⟨refund, present, rfl⟩ := unrecorded_mem new
        cases named
        refine own (fun same => ours ?_) refund present
        rw [carried] at same
        cases same
        exact listed payment found

theorem onChargeRefunded_ownRows
    (owner : ∀ payment, db.findPaymentByIntent intent = some payment → payment.orderId = orderId)
    (about : charge.paymentIntent = some intent) (apart : Apart orderId intent mine db)
    (listed : ∀ refund ∈ charge.refunds.getD [], mine refund.id)
    (handled : onChargeRefunded charge db = .ok after) :
    onChargeRefunded charge (ownRows orderId db) = .ok (ownRows orderId after) := by
  have payments (wanted : PaymentIntentId) :
      (ownRows orderId db).findPaymentByIntent wanted = db.findPaymentByIntent wanted := rfl
  obtain ⟨rfl, absent⟩ | ⟨other, payment, order, fully, carried, found, there, rfl, rfl⟩ := onChargeRefunded_ok handled
  · unfold onChargeRefunded
    simp only [about, payments, absent intent about]
    rfl
  · rw [about] at carried
    cases carried
    have here : (ownRows orderId db).findOrder payment.orderId = some order := there
    rw [onChargeRefunded_eq about ((payments intent).trans found) here]
    have refunds := unrecorded_own (owner payment found) (charge.refunds.getD []) db.refunds
      fun row member ours refund present same => apart.refunds row member ours refund.id same (listed refund present)
    simp only [ownRows, refunds, decide_eq_true_eq]

end Refunds

section Handling

variable {job : StripeJob}

theorem completed_of_handle {other : CheckoutSessionObj} (object : job.event.object = .checkoutSessionCompleted other)
    (handled : handle job db = .ok after) :
    ∃ confirmation, onCheckoutCompleted other job.paymentId job.now db = .ok (confirmation, after) := by
  simp only [handle, object] at handled
  obtain ⟨⟨confirmation, rows⟩, ran, same⟩ := bind_eq_ok.mp handled
  cases same
  exact ⟨confirmation, ran⟩

/-- An event about other orders leaves this one alone. -/
theorem Beside.handle (beside : Beside terms.orderId intent mine job.event.object)
    (apart : Apart terms.orderId intent mine db) (handled : handle job db = .ok after) :
    Aside session terms intent db after := by
  cases object : job.event.object with
  | checkoutSessionCompleted other =>
      obtain ⟨confirmation, ran⟩ := completed_of_handle object handled
      rw [object] at beside
      exact beside.completed ran
  | paymentFailed attempt =>
      rw [object] at beside
      simp only [Billing.handle, object] at handled
      cases handled
      exact beside.failed job.paymentId db
  | chargeRefunded charge =>
      rw [object] at beside
      simp only [Billing.handle, object] at handled
      exact beside.refunded apart handled
  | accountUpdated account =>
      simp only [Billing.handle, object] at handled
      cases handled
      rw [onAccountUpdated_eq]
      exact ⟨rfl, rfl, rfl, rfl, fun ready => ⟨ready.keyed, ready.charged, ready.order, ready.convertible⟩⟩
  | unhandled =>
      simp only [Billing.handle, object] at handled
      cases handled
      exact .refl db

/-- Whomever the event concerns, the rows stay apart. -/
theorem Apart.handle (apart : Apart orderId intent mine db) (charged : session.paymentIntent = some intent)
    (owner : ∀ payment, db.findPaymentByIntent intent = some payment → payment.orderId = orderId)
    (drawn : job.paymentId ∉ db.payments.map (·.id))
    (concerned : Own session intent mine job.event.object ∨ Beside orderId intent mine job.event.object)
    (handled : handle job db = .ok after) : Apart orderId intent mine after := by
  cases object : job.event.object with
  | checkoutSessionCompleted other =>
      obtain ⟨confirmation, ran⟩ := completed_of_handle object handled
      rw [object] at concerned
      refine apart.complete drawn (fun named => ?_) ran
      obtain own | beside := concerned
      · cases own.about
        exact charged
      · exact absurd named beside.2
  | paymentFailed attempt =>
      rw [object] at concerned
      simp only [Billing.handle, object] at handled
      cases handled
      refine apart.fail job.paymentId drawn fun named => ?_
      obtain own | beside := concerned
      · exact own.about.1
      · exact absurd named beside.2
  | chargeRefunded charge =>
      rw [object] at concerned
      simp only [Billing.handle, object] at handled
      refine apart.refund owner (fun elsewhere => ?_) handled
      obtain own | beside := concerned
      · exact absurd own.about elsewhere
      · exact beside.2
  | accountUpdated account =>
      simp only [Billing.handle, object] at handled
      cases handled
      rw [onAccountUpdated_eq]
      exact ⟨apart.payments, apart.distinct, apart.refunds⟩
  | unhandled =>
      simp only [Billing.handle, object] at handled
      cases handled
      exact apart

/-- An event about the order reads no refund of another. -/
theorem Own.handle_ownRows (own : Own session intent mine job.event.object) (apart : Apart orderId intent mine db)
    (owner : ∀ payment, db.findPaymentByIntent intent = some payment → payment.orderId = orderId)
    (keyed : noticeOf job.event.object = some .completed → ItemsKeyed db.stock) (handled : handle job db = .ok after) :
    handle job (ownRows orderId db) = .ok (ownRows orderId after) := by
  have about := own.about
  cases object : job.event.object with
  | checkoutSessionCompleted other =>
      obtain ⟨confirmation, ran⟩ := completed_of_handle object handled
      rw [object] at keyed
      simp only [handle, object, onCheckoutCompleted_ownRows (keyed rfl) ran]
      rfl
  | paymentFailed attempt =>
      simp only [handle, object] at handled ⊢
      cases handled
      rw [onPaymentFailed_ownRows]
      rfl
  | chargeRefunded charge =>
      rw [object] at about
      have listed := own.listed
      rw [object] at listed
      simp only [handle, object] at handled ⊢
      exact onChargeRefunded_ownRows owner about apart (listed _ rfl) handled
  | accountUpdated account =>
      rw [object] at about
      cases about
  | unhandled =>
      rw [object] at about
      cases about

end Handling

/-- The rows of the order are where the notices about its intent lead; one of them at most is a
completion, and if none is, it may be to come. -/
structure Follows (session : CheckoutSessionObj) (terms : Terms) (intent : PaymentIntentId)
    (mine : StripeRefundId → Prop) (first : Standing) (told : List Notice) (db : Db) : Prop where
  tracks : Tracks session terms intent (ownRows terms.orderId db) (run (Standing.step terms) first told)
  pending : Pending session terms intent (ownRows terms.orderId db) (run (Standing.step terms) first told)
    (1 - told.countP Notice.isCompletion)
  once : told.countP Notice.isCompletion ≤ 1
  apart : Apart terms.orderId intent mine db

theorem completions_ahead {told : List Notice} {notice : Option Notice} (most : told.countP Notice.isCompletion ≤ 1)
    (once : notice = some .completed → told.countP Notice.isCompletion = 0) :
    (told ++ notice.toList).countP Notice.isCompletion ≤ 1 ∧ 1 - told.countP Notice.isCompletion =
      1 - (told ++ notice.toList).countP Notice.isCompletion + notice.toList.countP Notice.isCompletion := by
  rw [List.countP_append]
  cases notice with
  | none => simpa using most
  | some notice =>
      cases notice with
      | completed =>
          have none := once rfl
          have one : (some Notice.completed).toList.countP Notice.isCompletion = 1 := rfl
          omega
      | failed => simpa [Notice.isCompletion] using most
      | refunded listed => simpa [Notice.isCompletion] using most

section Following

variable {first : Standing} {told : List Notice} (follows : Follows session terms intent mine first told db)

include follows

theorem Follows.aside (aside : Aside session terms intent db after) (apart : Apart terms.orderId intent mine after) :
    Follows session terms intent mine first told after :=
  ⟨aside.tracks follows.tracks, aside.pending follows.pending, follows.once, apart⟩

/-- One event, on the rows and on the standing. -/
theorem Follows.handle {job : StripeJob} (charged : session.paymentIntent = some intent)
    (drawn : job.paymentId ∉ db.payments.map (·.id))
    (concerned : Own session intent mine job.event.object ∨ Beside terms.orderId intent mine job.event.object)
    (once : heard intent job.event.object = some .completed → told.countP Notice.isCompletion = 0)
    (handled : handle job db = .ok after) :
    Follows session terms intent mine first (told ++ (heard intent job.event.object).toList) after := by
  have apart := follows.apart.handle charged follows.tracks.owner drawn concerned handled
  obtain own | beside := concerned
  · have now : notices [job] = (heard intent job.event.object).toList := by
      rw [heard_of_about charged own.about, notices, List.filterMap_cons, List.filterMap_nil]
      cases noticeOf job.event.object <;> rfl
    obtain ⟨most, ahead⟩ := completions_ahead follows.once once
    rw [← now] at most ahead
    have pending := follows.pending
    rw [ahead] at pending
    have keyed : noticeOf job.event.object = some .completed → ItemsKeyed db.stock := by
      intro completed
      have one : (notices [job]).countP Notice.isCompletion = 1 := by
        simp [notices, completed, Notice.isCompletion]
      obtain waits | ⟨_, none⟩ := pending
      · exact waits.1.keyed
      · omega
    have delivered : deliver (ownRows terms.orderId db) job = ownRows terms.orderId after := by
      rw [deliver, commit, own.handle_ownRows follows.apart follows.tracks.owner keyed handled]
    obtain ⟨tracks, later⟩ := follows.tracks.deliver own.about pending
    rw [delivered, ← run_append] at tracks later
    rw [← now]
    exact ⟨tracks, later, most, apart⟩
  · rw [heard_of_beside beside, Option.toList_none, List.append_nil]
    exact follows.aside (beside.handle follows.apart handled) apart

end Following

end Aicos.Settlement
