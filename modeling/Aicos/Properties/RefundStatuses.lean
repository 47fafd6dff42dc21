import Aicos.Settlement.Recording

namespace Aicos.Properties

open Aicos.Commerce Aicos.Billing Aicos.Data Aicos.Settlement Aicos.Transition

/-! The statuses of an order against the refunds recorded for its payment.  Each
refund path derives them from its own amount, so they agree with the total only
while that amount and the total fall on the same side of the capture. -/

def refundedTotal (id : PaymentId) (db : Db) : Int :=
  totalWhere (fun refund => refund.paymentId = id) (·.amountCents) db.refunds

structure StatusesAgree (total captured : Int) (order : Order) (payment : Payment) : Prop where
  untouched : total = 0 → order.financialStatus = .paid
  partly : 0 < total → total < captured → order.financialStatus = .partiallyRefunded
  fully : captured ≤ total → order.financialStatus = .refunded
  order : order.status = .refunded ↔ captured ≤ total
  payment : payment.status = .refunded ↔ captured ≤ total

def Agrees (orderId : OrderId) (paymentId : PaymentId) (db : Db) : Prop :=
  ∃ order payment, db.findOrder orderId = some order ∧ db.findPayment paymentId = some payment ∧
    StatusesAgree (refundedTotal paymentId db) payment.amountCents order payment

structure Tracked (orderId : OrderId) (paymentId : PaymentId) (captured : Int) (db : Db) : Prop where
  keyed : (db.payments.map (·.id)).Nodup
  order : ∃ order, db.findOrder orderId = some order
  payment : ∃ payment, db.findPayment paymentId = some payment ∧ payment.orderId = orderId ∧
    payment.amountCents = captured

structure FreshlyPaid (orderId : OrderId) (paymentId : PaymentId) (captured : Int) (db : Db) : Prop where
  tracked : Tracked orderId paymentId captured db
  order : ∀ order, db.findOrder orderId = some order → order.status = .paid ∧ order.financialStatus = .paid
  payment : ∀ payment, db.findPayment paymentId = some payment → payment.status = .succeeded
  unrefunded : ∀ refund ∈ db.refunds, refund.paymentId ≠ paymentId

def nextTotal (paymentId : PaymentId) (recording : Recording) (db : Db) : Int :=
  refundedTotal paymentId db + if recording.payment.id = paymentId then recording.amount else 0

/-- What a recording calls a full refund is one, by the total it leads to. -/
structure Faithful (total next captured : Int) (closes fully : Bool) : Prop where
  nonzero : next ≠ 0
  kept : captured ≤ total → captured ≤ next
  fully : closes = true ∨ 0 < next → (fully = true ↔ captured ≤ next)
  closing : closes = false → captured ≤ next → captured ≤ total

/-- Whatever the request records for the order is faithful to the payment's total. -/
def FaithfulStep (orderId : OrderId) (paymentId : PaymentId) (captured : Int) (worker : Worker)
    (request : Request) : Prop :=
  ∀ recorded, recording worker request = some recorded → recorded.payment.orderId = orderId →
    Faithful (refundedTotal paymentId worker.db) (nextTotal paymentId recorded worker.db) captured
      recorded.closes recorded.fully

section Recording

variable {total next : Int} {closes fully mine : Bool} {order : Order} {payment : Payment}

theorem orderAfter_financialStatus :
    (orderAfter closes fully order).financialStatus = if fully then .refunded else .partiallyRefunded := by
  cases closes <;> rfl

theorem orderAfter_refunded :
    (orderAfter closes fully order).status = .refunded ↔
      (closes = true ∧ fully = true) ∨ order.status = .refunded := by
  cases closes <;> cases fully <;> simp [orderAfter, refundedOrder, Returns.returnedOrder]

theorem paymentAfter_amountCents : (paymentAfter closes fully mine payment).amountCents = payment.amountCents := by
  unfold paymentAfter
  split <;> rfl

theorem paymentAfter_refunded :
    (paymentAfter closes fully mine payment).status = .refunded ↔
      (closes = true ∧ fully = true ∧ mine = true) ∨ payment.status = .refunded := by
  unfold paymentAfter
  split
  · rename_i all
    simp [refundedPayment, all]
  · rename_i some_
    simp [some_]

theorem Faithful.of_agree (agree : StatusesAgree total payment.amountCents order payment)
    (after : StatusesAgree next payment.amountCents (orderAfter closes fully order)
      (paymentAfter closes fully mine payment)) :
    Faithful total next payment.amountCents closes fully := by
  have closed := after.order.symm.trans orderAfter_refunded
  rw [agree.order] at closed
  refine ⟨?_, fun was => closed.mpr (.inr was), ?_, ?_⟩
  · intro zero
    have paid := after.untouched zero
    rw [orderAfter_financialStatus] at paid
    cases fully <;> cases paid
  · intro reason
    constructor
    · intro full
      by_contra less
      rcases reason with closing | above
      · exact less (closed.mpr (.inl ⟨closing, full⟩))
      · have part := after.partly above (by omega)
        rw [orderAfter_financialStatus, if_pos full] at part
        cases part
    · intro reaches
      have refunded := after.fully reaches
      rw [orderAfter_financialStatus] at refunded
      cases fully with
      | true => rfl
      | false => cases refunded
  · intro stays reaches
    rcases closed.mp reaches with ⟨closing, _⟩ | was
    · rw [stays] at closing
      cases closing
    · exact was

theorem Faithful.agree (faithful : Faithful total next payment.amountCents closes fully)
    (positive : 0 < payment.amountCents) (agree : StatusesAgree total payment.amountCents order payment)
    (other : mine = false → next = total) :
    StatusesAgree next payment.amountCents (orderAfter closes fully order)
      (paymentAfter closes fully mine payment) := by
  have reachedBefore : payment.amountCents ≤ next → closes = false → payment.amountCents ≤ total :=
    fun reaches stays => faithful.closing stays reaches
  refine ⟨fun zero => absurd zero faithful.nonzero, ?_, ?_, ?_, ?_⟩
  · intro above less
    have part : ¬ fully = true := by
      intro full
      have reaches := (faithful.fully (.inr above)).mp full
      omega
    rw [orderAfter_financialStatus, if_neg part]
  · intro reaches
    have full := (faithful.fully (.inr (by omega))).mpr reaches
    rw [orderAfter_financialStatus, if_pos full]
  · rw [orderAfter_refunded, agree.order]
    constructor
    · rintro (⟨closing, full⟩ | was)
      · exact (faithful.fully (.inl closing)).mp full
      · exact faithful.kept was
    · intro reaches
      cases closes with
      | true => exact .inl ⟨rfl, (faithful.fully (.inl rfl)).mpr reaches⟩
      | false => exact .inr (reachedBefore reaches rfl)
  · rw [paymentAfter_refunded, agree.payment]
    constructor
    · rintro (⟨closing, full, _⟩ | was)
      · exact (faithful.fully (.inl closing)).mp full
      · exact faithful.kept was
    · intro reaches
      cases closes with
      | false => exact .inr (reachedBefore reaches rfl)
      | true =>
          cases mine with
          | true => exact .inl ⟨rfl, (faithful.fully (.inl rfl)).mpr reaches, rfl⟩
          | false =>
              rw [other rfl] at reaches
              exact .inr reaches

end Recording

section Step

variable {orderId : OrderId} {paymentId : PaymentId} {captured : Int}

theorem recorded_refundedTotal {recorded : Recording} {before after : Db} (paymentId : PaymentId)
    (made : Recorded (some recorded) before after) (wellFormed : recorded.WellFormed before) :
    refundedTotal paymentId after = nextTotal paymentId recorded before := by
  simp only [Properties.refundedTotal, nextTotal, made.refunds, newRefunds_some, totalWhere_append]
  congr 1
  by_cases mine : recorded.payment.id = paymentId
  · rw [if_pos mine, totalWhere, Recording.amount, List.filter_eq_self.mpr]
    intro row member
    simpa [← mine] using wellFormed.rows row member
  · rw [if_neg mine]
    refine totalWhere_of_forall_not fun row member => ?_
    simpa [wellFormed.rows row member] using mine

theorem Tracked.recorded {recording : Option Recording} {before after : Db}
    (tracked : Tracked orderId paymentId captured before) (made : Recorded recording before after) :
    Tracked orderId paymentId captured after := by
  obtain ⟨keyed, ⟨order, ordered⟩, payment, paid, owner, amount⟩ := tracked
  cases recording with
  | none =>
      refine ⟨by rw [made.payments]; exact keyed, ⟨order, ?_⟩, payment, ?_, owner, amount⟩
      · simpa only [Db.findOrder, made.orders, ordersAfter_none] using ordered
      · simpa only [Db.findPayment, made.payments, paymentsAfter_none] using paid
  | some recorded =>
      refine ⟨?_, ⟨_, by rw [made.findOrder, ordered]; rfl⟩, _, by rw [made.findPayment, paid]; rfl, ?_, ?_⟩
      · rw [made.payments]
        simp only [paymentsAfter, Recording.payments]
        split
        · have ids : (updateWhere (fun row => row.id = recorded.payment.id) refundedPayment before.payments).map
              (·.id) = before.payments.map (·.id) := map_updateWhere fun _ => rfl
          rw [ids]
          exact keyed
        · exact keyed
      · unfold paymentAfter
        split <;> exact owner
      · rw [paymentAfter_amountCents]
        exact amount

theorem agrees_step_iff {worker : Worker} {request : Request} (refunds : Refunds request)
    (positive : 0 < captured) (tracked : Tracked orderId paymentId captured worker.db)
    (agrees : Agrees orderId paymentId worker.db) :
    Agrees orderId paymentId (step worker request).db ↔
      FaithfulStep orderId paymentId captured worker request := by
  obtain ⟨keyed, _, found, there, owner, amount⟩ := tracked
  obtain ⟨order, payment, ordered, paid, agree⟩ := agrees
  obtain rfl := Option.some.inj (there.symm.trans paid)
  have made := step_recorded worker refunds
  unfold FaithfulStep
  cases outcome : recording worker request with
  | none =>
      rw [outcome] at made
      refine ⟨fun _ recorded impossible => (by cases impossible), fun _ => ⟨order, found, ?_, ?_, ?_⟩⟩
      · simpa only [Db.findOrder, made.orders, ordersAfter_none] using ordered
      · simpa only [Db.findPayment, made.payments, paymentsAfter_none] using paid
      · simpa only [refundedTotal, made.refunds, newRefunds_none, List.append_nil] using agree
  | some recorded =>
      rw [outcome] at made
      have wellFormed := recording_wellFormed outcome
      have total := recorded_refundedTotal paymentId made wellFormed
      have same : recorded.payment.id = paymentId → recorded.payment.orderId = orderId := by
        intro mine
        have row := Db.findPayment_mem keyed wellFormed.present
        rw [mine, there] at row
        cases row
        exact owner
      have newOrder := made.findOrder orderId
      have newPayment := made.findPayment paymentId
      rw [ordered, Option.map_some, Db.findOrder_id ordered] at newOrder
      rw [there, Option.map_some] at newPayment
      by_cases ours : recorded.payment.orderId = orderId
      · have other : decide (recorded.payment.id = paymentId) = false →
            nextTotal paymentId recorded worker.db = refundedTotal paymentId worker.db := by
          intro apart
          rw [nextTotal, if_neg (by simpa using apart), Int.add_zero]
        rw [if_pos ours.symm] at newOrder
        rw [← amount] at positive ⊢
        constructor
        · rintro ⟨order', payment', ordered', paid', agree'⟩ _ ⟨⟩ _
          obtain rfl := Option.some.inj (newOrder.symm.trans ordered')
          obtain rfl := Option.some.inj (newPayment.symm.trans paid')
          rw [total, paymentAfter_amountCents] at agree'
          exact Faithful.of_agree agree agree'
        · intro faithful
          refine ⟨_, _, newOrder, newPayment, ?_⟩
          rw [total, paymentAfter_amountCents]
          exact (faithful recorded rfl ours).agree positive agree other
      · -- a recording for another order leaves both rows and the total alone
        have apart : recorded.payment.id ≠ paymentId := fun mine => ours (same mine)
        rw [if_neg fun mine => ours mine.symm] at newOrder
        have still : paymentAfter recorded.closes recorded.fully (recorded.payment.id = paymentId) found = found := by
          simp [paymentAfter, apart]
        have steady : nextTotal paymentId recorded worker.db = refundedTotal paymentId worker.db := by
          rw [nextTotal, if_neg apart, Int.add_zero]
        refine ⟨?_, fun _ => ⟨order, found, newOrder, newPayment.trans (congrArg some still), ?_⟩⟩
        · rintro _ _ ⟨⟩ mine
          exact absurd mine ours
        · rw [total, steady]
          exact agree

end Step

section Fresh

variable {orderId : OrderId} {paymentId : PaymentId} {captured : Int} {db : Db}

theorem FreshlyPaid.refundedTotal (fresh : FreshlyPaid orderId paymentId captured db) :
    Properties.refundedTotal paymentId db = 0 :=
  totalWhere_of_forall_not fun refund member => by simpa using fresh.unrefunded refund member

/-- A capture of nothing would be refunded in full from the start. -/
theorem FreshlyPaid.agrees_iff (fresh : FreshlyPaid orderId paymentId captured db) :
    Agrees orderId paymentId db ↔ 0 < captured := by
  obtain ⟨order, ordered⟩ := fresh.tracked.order
  obtain ⟨payment, paid, _, amount⟩ := fresh.tracked.payment
  obtain ⟨status, financial⟩ := fresh.order order ordered
  have succeeded := fresh.payment payment paid
  constructor
  · intro given
    obtain ⟨order', payment', ordered', paid', agree⟩ := given
    obtain rfl := Option.some.inj (ordered.symm.trans ordered')
    obtain rfl := Option.some.inj (paid.symm.trans paid')
    rw [fresh.refundedTotal, amount] at agree
    by_contra nothing
    have closed := agree.order.mpr (Int.not_lt.mp nothing)
    rw [status] at closed
    cases closed
  · intro positive
    refine ⟨order, payment, ordered, paid, ?_⟩
    rw [fresh.refundedTotal, amount]
    refine ⟨fun _ => financial, fun above => absurd above (by omega), fun reaches => absurd reaches (by omega), ?_, ?_⟩
    · simp [status, positive]
    · simp [succeeded, positive]

end Fresh

/-- From a freshly PAID order on, the statuses agree with the recorded refunds in
every state of a run exactly when something was captured and each of the run's
recordings is faithful. -/
theorem statuses_agree_iff_faithful {orderId : OrderId} {paymentId : PaymentId} {captured : Int} {worker : Worker}
    (fresh : FreshlyPaid orderId paymentId captured worker.db) {requests : List Request}
    (refunds : ∀ request ∈ requests, Refunds request) :
    Visits step (fun worker => Agrees orderId paymentId worker.db) worker requests ↔
      0 < captured ∧ Along step (FaithfulStep orderId paymentId captured) worker requests := by
  have framed : ∀ (worker : Worker) request, Refunds request → Tracked orderId paymentId captured worker.db →
      Tracked orderId paymentId captured (step worker request).db :=
    fun worker request refunds tracked => tracked.recorded (step_recorded worker refunds)
  have exact_run (positive : 0 < captured) :
      Visits step (fun worker => Agrees orderId paymentId worker.db) worker requests ↔
        Along step (FaithfulStep orderId paymentId captured) worker requests :=
    visits_iff_along framed
      (fun worker request refunds tracked agrees => agrees_step_iff refunds positive tracked agrees)
      refunds fresh.tracked (fresh.agrees_iff.mpr positive)
  constructor
  · intro visits
    have positive := fresh.agrees_iff.mp visits.first
    exact ⟨positive, (exact_run positive).mp visits⟩
  · intro given
    obtain ⟨positive, along⟩ := given
    exact (exact_run positive).mpr along

def halfRefund : Orders.RefundOrderDto := ⟨some 500, none, by simp⟩

def paidWorker : Worker where
  db := lampRows (lampOrder .paid .paid) [lampPayment]
  done := []

theorem lamps_freshlyPaid : FreshlyPaid 1 1 1000 paidWorker.db := by
  refine ⟨⟨by decide, ⟨_, rfl⟩, _, rfl, rfl, rfl⟩, ?_, ?_, by decide⟩
  · rintro order ⟨⟩
    exact ⟨rfl, rfl⟩
  · rintro payment ⟨⟩
    rfl

/-- After both halves the order is still PARTIALLY_REFUNDED. -/
theorem halves_disagree :
    ¬ ∀ orderId paymentId captured worker requests, FreshlyPaid orderId paymentId captured worker.db → 0 < captured →
      (∀ request ∈ requests, Refunds request) →
      Visits step (fun worker => Agrees orderId paymentId worker.db) worker requests := by
  intro always
  have visits := always 1 1 1000 paidWorker
    [.refundOrder (granting 1) 1 halfRefund, .refundOrder (granting 2) 1 halfRefund]
    lamps_freshlyPaid (by decide) (by simp [Refunds])
  obtain ⟨order, payment, ordered, paid, agree⟩ := visits.last
  cases ordered
  cases paid
  exact absurd (agree.fully (by decide)) (by decide)

theorem statuses_agree_after_full_refund :
    Visits step (fun worker => Agrees 1 1 worker.db) paidWorker
        [.refundOrder (granting 1) 1 ⟨none, none, by simp⟩] ↔
      0 < (1000 : Int) ∧
        Along step (FaithfulStep 1 1 1000) paidWorker [.refundOrder (granting 1) 1 ⟨none, none, by simp⟩] :=
  statuses_agree_iff_faithful lamps_freshlyPaid (by simp [Refunds])

end Aicos.Properties
