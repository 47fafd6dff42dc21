import Aicos.Billing.Processor
import Aicos.Transition.Run
import Mathlib.Data.List.Induction

namespace Aicos.Settlement

open Aicos.Commerce Aicos.Billing Aicos.Transition

/-! Where an order stands after events about its one payment intent, without
the rest of the rows: its two statuses, its Payment and its Refund rows. -/

inductive Notice where
  | failed
  | completed
  | refunded (refunds : List StripeRefundObj)

/-- What the events leave alone: the order as checkout wrote it, and its session. -/
structure Terms where
  orderId : OrderId
  totalCents : Int
  currency : String
  applicationFeeCents : Int
  paidCents : Int
  paidCurrency : String

structure PaymentFacts where
  status : PaymentStatus
  amountCents : Int
  currency : String
  applicationFeeCents : Int
deriving DecidableEq

/-- The rows in `refunds` are without their `paymentId`. -/
structure Standing where
  status : OrderStatus
  financialStatus : FinancialStatus
  payment : Option PaymentFacts
  refunds : List Refund

/-- The columns of a Payment that its Refund rows are made from. -/
def refundSource (terms : Terms) (currency : String) : Payment where
  id := 0
  orderId := terms.orderId
  status := .succeeded
  amountCents := 0
  currency := currency
  stripePaymentIntentId := none
  applicationFeeCents := 0
  failureReason := none
  paidAt := none

def refundRow (terms : Terms) (currency : String) (refund : StripeRefundObj) : Refund :=
  reconciledRefund (refundSource terms currency) refund

def draftFacts (terms : Terms) (status : PaymentStatus) : PaymentFacts where
  status := status
  amountCents := terms.totalCents
  currency := terms.currency
  applicationFeeCents := 0

def capturedFacts (terms : Terms) : PaymentFacts where
  status := .succeeded
  amountCents := terms.paidCents
  currency := terms.paidCurrency
  applicationFeeCents := terms.applicationFeeCents

def Standing.fail (terms : Terms) (standing : Standing) : Standing :=
  { standing with payment := some (match standing.payment with
      | none => draftFacts terms .failed
      | some facts => { facts with status := .failed }) }

def Standing.complete (terms : Terms) (standing : Standing) : Standing :=
  { standing with
    status := .paid
    financialStatus := .paid
    payment := some (match standing.payment with
      | none => capturedFacts terms
      | some facts => { facts with status := .succeeded, amountCents := terms.paidCents }) }

def Standing.refund (terms : Terms) (refunds : List StripeRefundObj) (standing : Standing) : Standing :=
  match standing.payment with
  | none => standing
  | some facts =>
      let fully := decide (totalRefunded refunds ≥ facts.amountCents)
      { status := if fully then .refunded else standing.status
        financialStatus := if fully then .refunded else .partiallyRefunded
        payment := some (if fully then { facts with status := .refunded } else facts)
        refunds := standing.refunds ++
          unrecorded (refundSource terms facts.currency) refunds standing.refunds }

def Standing.step (terms : Terms) (standing : Standing) : Notice → Standing
  | .failed => standing.fail terms
  | .completed =>
      if standing.status = .paid ∨ standing.financialStatus = .paid then standing
      else standing.complete terms
  | .refunded refunds => standing.refund terms refunds

def Notice.listed : Notice → List StripeRefundObj
  | .refunded refunds => refunds
  | _ => []

def Notice.isRefund : Notice → Bool
  | .refunded _ => true
  | _ => false

def Notice.isCompletion : Notice → Bool
  | .completed => true
  | _ => false

def Notice.isFailure : Notice → Bool
  | .failed => true
  | _ => false

def Notice.fully (paidCents : Int) : Notice → Option Bool
  | .refunded refunds => some (decide (totalRefunded refunds ≥ paidCents))
  | _ => none

/-- The status an event sets a captured Payment to. -/
def Notice.verdict (paidCents : Int) : Notice → Option PaymentStatus
  | .failed => some .failed
  | .completed => none
  | .refunded refunds => if totalRefunded refunds ≥ paidCents then some .refunded else none

/-- The refund events are about a Payment row that is there: an event before
them has created it. -/
def recordable (notices : List Notice) : List StripeRefundObj :=
  (notices.dropWhile Notice.isRefund).flatMap Notice.listed

def beforeCompletion (notices : List Notice) : List Notice :=
  notices.takeWhile fun notice => ! notice.isCompletion

def afterCompletion (notices : List Notice) : List Notice :=
  (notices.dropWhile fun notice => ! notice.isCompletion).tail

def settledStatus (paidCents : Int) (notices : List Notice) : OrderStatus :=
  if some true ∈ notices.map (Notice.fully paidCents) then .refunded else .paid

def settledFinancialStatus (paidCents : Int) (notices : List Notice) : FinancialStatus :=
  match (notices.filterMap (Notice.fully paidCents)).getLast? with
  | none => .paid
  | some true => .refunded
  | some false => .partiallyRefunded

def settledPaymentStatus (paidCents : Int) (notices : List Notice) : PaymentStatus :=
  ((notices.filterMap (Notice.verdict paidCents)).getLast?).getD .succeeded

variable {terms : Terms}

/-- After the completion the statuses follow the events one by one, and the
amount, the currency and the fee stay. -/
theorem run_settled {standing : Standing} {facts : PaymentFacts} (status : standing.status = .paid)
    (financialStatus : standing.financialStatus = .paid) (payment : standing.payment = some facts)
    (succeeded : facts.status = .succeeded) (amount : facts.amountCents = terms.paidCents) (notices : List Notice)
    (settled : ∀ notice ∈ notices, notice.isCompletion = false) :
    (run (Standing.step terms) standing notices).status = settledStatus terms.paidCents notices ∧
      (run (Standing.step terms) standing notices).financialStatus =
        settledFinancialStatus terms.paidCents notices ∧
      (run (Standing.step terms) standing notices).payment =
        some { facts with status := settledPaymentStatus terms.paidCents notices } := by
  induction notices using List.reverseRecOn with
  | nil =>
      refine ⟨status, financialStatus, ?_⟩
      have same : settledPaymentStatus terms.paidCents [] = facts.status := succeeded.symm
      rw [run_nil, payment, same]
  | append_singleton notices notice ih =>
      obtain ⟨first, second, third⟩ := ih fun other member => settled other (by simp [member])
      have last := settled notice (by simp)
      rw [run_append, run_cons, run_nil]
      generalize run (Standing.step terms) standing notices = before at first second third
      -- every event meets the Payment with the paid amount, which none of them changes
      cases notice with
      | failed =>
          simp only [Standing.step, Standing.fail, third]
          refine ⟨?_, ?_, ?_⟩
          · rw [first]
            simp [settledStatus, Notice.fully]
          · rw [second]
            simp [settledFinancialStatus, Notice.fully]
          · simp [settledPaymentStatus, Notice.verdict]
      | completed => cases last
      | refunded refunds =>
          simp only [Standing.step, Standing.refund, third, amount]
          by_cases full : totalRefunded refunds ≥ terms.paidCents
          · refine ⟨?_, ?_, ?_⟩
            · simp [settledStatus, Notice.fully, full]
            · simp [settledFinancialStatus, Notice.fully, full]
            · simp [settledPaymentStatus, Notice.verdict, full]
          · refine ⟨?_, ?_, ?_⟩
            · rw [first]
              simp [settledStatus, Notice.fully, full]
            · simp [settledFinancialStatus, Notice.fully, full]
            · simp [settledPaymentStatus, Notice.verdict, full]

/-- Before the completion the order stays unpaid, and a failed attempt leaves
the Payment of its draft. -/
theorem run_waiting (terms : Terms) {standing : Standing} (status : standing.status ≠ .paid)
    (financialStatus : standing.financialStatus ≠ .paid) (payment : standing.payment = none) (notices : List Notice)
    (waiting : ∀ notice ∈ notices, notice.isCompletion = false) :
    (run (Standing.step terms) standing notices).status ≠ .paid ∧
      (run (Standing.step terms) standing notices).financialStatus ≠ .paid ∧
      if notices.any Notice.isFailure then
        ∃ status, (run (Standing.step terms) standing notices).payment = some (draftFacts terms status)
      else (run (Standing.step terms) standing notices).payment = none := by
  induction notices using List.reverseRecOn with
  | nil => exact ⟨status, financialStatus, payment⟩
  | append_singleton notices notice ih =>
      obtain ⟨first, second, third⟩ := ih fun other member => waiting other (by simp [member])
      have last := waiting notice (by simp)
      rw [run_append, run_cons, run_nil, List.any_append]
      generalize run (Standing.step terms) standing notices = before at first second third
      cases notice with
      | failed =>
          refine ⟨first, second, ?_⟩
          simp only [List.any_cons, Notice.isFailure, Bool.true_or, Bool.or_true, if_true]
          split at third
          · obtain ⟨old, there⟩ := third
            exact ⟨.failed, by simp only [Standing.step, Standing.fail, there, draftFacts]⟩
          · exact ⟨.failed, by simp only [Standing.step, Standing.fail, third]⟩
      | completed => cases last
      | refunded refunds =>
          simp only [List.any_cons, List.any_nil, Notice.isFailure, Bool.or_false]
          split at third
          · rename_i failed
            obtain ⟨old, there⟩ := third
            rw [if_pos failed]
            by_cases full : totalRefunded refunds ≥ terms.totalCents
            · simp [Standing.step, Standing.refund, there, draftFacts, full]
            · simp [Standing.step, Standing.refund, there, draftFacts, full, first]
          · rename_i clean
            rw [if_neg clean]
            simp only [Standing.step, Standing.refund, third]
            exact ⟨first, second, trivial⟩

def paidFacts (terms : Terms) (before : List Notice) : PaymentFacts :=
  if before.any Notice.isFailure then { draftFacts terms .succeeded with amountCents := terms.paidCents }
  else capturedFacts terms

/-- Where the events lead: what is processed before the completion shows in the
currency and the fee of the Payment alone. -/
theorem run_completed (terms : Terms) {standing : Standing} (status : standing.status ≠ .paid)
    (financialStatus : standing.financialStatus ≠ .paid) (payment : standing.payment = none)
    {before after : List Notice} (waiting : ∀ notice ∈ before, notice.isCompletion = false)
    (settled : ∀ notice ∈ after, notice.isCompletion = false) :
    (run (Standing.step terms) standing (before ++ .completed :: after)).status =
        settledStatus terms.paidCents after ∧
      (run (Standing.step terms) standing (before ++ .completed :: after)).financialStatus =
        settledFinancialStatus terms.paidCents after ∧
      (run (Standing.step terms) standing (before ++ .completed :: after)).payment =
        some { paidFacts terms before with status := settledPaymentStatus terms.paidCents after } := by
  obtain ⟨unpaid, unsettled, draft⟩ := run_waiting terms status financialStatus payment before waiting
  rw [run_append, run_cons]
  generalize run (Standing.step terms) standing before = middle at unpaid unsettled draft
  have completed : middle.step terms .completed = middle.complete terms := by
    simp [Standing.step, unpaid, unsettled]
  rw [completed]
  have facts : (middle.complete terms).payment = some (paidFacts terms before) := by
    unfold paidFacts
    split at draft
    · rename_i failed
      obtain ⟨old, there⟩ := draft
      rw [if_pos failed]
      simp only [Standing.complete, there, draftFacts]
    · rename_i clean
      rw [if_neg clean]
      simp only [Standing.complete, draft]
  have succeeded : (paidFacts terms before).status = .succeeded := by
    unfold paidFacts
    split <;> rfl
  have amount : (paidFacts terms before).amountCents = terms.paidCents := by
    unfold paidFacts
    split <;> rfl
  exact run_settled rfl rfl facts succeeded amount after settled

end Aicos.Settlement
