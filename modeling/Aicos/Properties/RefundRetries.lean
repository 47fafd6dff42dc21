import Aicos.Settlement.Retries

namespace Aicos.Properties

open Aicos.Commerce Aicos.Billing Aicos.Orders Aicos.Settlement Aicos.Transition

/-! A refund request and its repetitions.  The money moves before the rows are
written and the check looks at no earlier refund, so an attempt that throws in
between can be granted again. -/

def RefundedOnce (attempts : RefundAttempts) : Prop :=
  attempts.made ≤ 1

/-- Stripe grants no further attempt once one has thrown after its grant: it is not
configured, does not answer, or has too little left on the intent. -/
def NotGrantedAgain (attempts : RefundAttempts) : RefundAction → Prop
  | .callStripe configured reply _ => ∀ plan, attempts.phase = .planned plan → attempts.abandoned = true →
      configured = true → ∀ stripeRefundId, reply = some stripeRefundId →
        attempts.bank.grants plan.request stripeRefundId = false
  | _ => True

/-- The attempt has a grant and has not thrown. -/
def hasGrant : RefundPhase → Bool
  | .granted _ _ | .recorded | .returned => true
  | _ => false

/-- A refund has been made exactly where the attempt has its grant or one has been abandoned. -/
def Counted (attempts : RefundAttempts) : Prop :=
  attempts.made = 0 ↔ hasGrant attempts.phase = false ∧ attempts.abandoned = false

variable {attempts : RefundAttempts} {id : OrderId} {dto : RefundOrderDto}

/-- Stripe makes a refund, or nothing changes but that the attempt has thrown. -/
theorem callStripe_cases (attempts : RefundAttempts) (plan : RefundPlan) (configured : Bool)
    (reply : Option StripeRefundId) (lost : Bool) :
    (∃ stripeRefundId, configured = true ∧ reply = some stripeRefundId ∧
        attempts.bank.grants plan.request stripeRefundId = true ∧
        (attempts.callStripe plan configured reply lost).made = attempts.made + 1 ∧
        (attempts.callStripe plan configured reply lost).phase =
          (if lost then .idle else .granted plan stripeRefundId) ∧
        (attempts.callStripe plan configured reply lost).abandoned = (attempts.abandoned || lost)) ∨
      ((configured = true → ∀ stripeRefundId, reply = some stripeRefundId →
          attempts.bank.grants plan.request stripeRefundId = false) ∧
        attempts.callStripe plan configured reply lost = { attempts with phase := .idle }) := by
  unfold RefundAttempts.callStripe
  cases configured with
  | false => exact .inr ⟨by simp, by simp [Bank.api]⟩
  | true =>
  cases reply with
  | none => exact .inr ⟨by simp, by simp [Bank.api]⟩
  | some stripeRefundId =>
  cases grants : attempts.bank.grants plan.request stripeRefundId with
  | false => exact .inr ⟨by simp [grants], by simp [Bank.api, grants, Option.filter]⟩
  | true => exact .inl ⟨stripeRefundId, rfl, rfl, grants, by simp [Bank.api, grants, Option.filter]⟩

theorem Counted.step (counted : Counted attempts) (action : RefundAction) :
    Counted (attempts.step id dto action) := by
  unfold Counted at counted
  cases action with
  | read =>
      simp only [RefundAttempts.step]
      split
      · rename_i idle
        split
        · simpa [Counted, hasGrant, idle] using counted
        · exact counted
      · exact counted
  | callStripe configured reply lost =>
      simp only [RefundAttempts.step]
      split
      · rename_i plan planned
        rcases callStripe_cases attempts plan configured reply lost with
          ⟨stripeRefundId, _, _, _, made, phase, abandoned⟩ | ⟨_, same⟩
        · rw [Counted, made, phase, abandoned]
          cases lost <;> simp [hasGrant]
        · rw [same]
          simpa [Counted, hasGrant, planned] using counted
      · exact counted
  | record =>
      simp only [RefundAttempts.step]
      split
      · rename_i plan stripeRefundId granted
        split <;> simpa [Counted, hasGrant, granted] using counted
      · exact counted
  | findOne =>
      simp only [RefundAttempts.step]
      split
      · rename_i recorded
        split <;> simpa [Counted, hasGrant, recorded] using counted
      · exact counted
  | fail =>
      simp only [RefundAttempts.step]
      split
      · rename_i plan planned
        simpa [Counted, hasGrant, planned] using counted
      · rename_i plan stripeRefundId granted
        simpa [Counted, hasGrant, granted] using counted
      · rename_i recorded
        simpa [Counted, hasGrant, recorded] using counted
      · exact counted
  | chargeRefunded charge =>
      simp only [RefundAttempts.step]
      split <;> exact counted

/-- Only the call makes a refund. -/
theorem step_made {action : RefundAction}
    (other : ∀ configured reply lost, action ≠ .callStripe configured reply lost) :
    (attempts.step id dto action).made = attempts.made := by
  cases action with
  | callStripe configured reply lost => exact absurd rfl (other configured reply lost)
  | read =>
      simp only [RefundAttempts.step]
      split
      · split <;> rfl
      · rfl
  | record =>
      simp only [RefundAttempts.step]
      split
      · split <;> rfl
      · rfl
  | findOne =>
      simp only [RefundAttempts.step]
      split
      · split <;> rfl
      · rfl
  | fail =>
      simp only [RefundAttempts.step]
      split <;> rfl
  | chargeRefunded charge =>
      simp only [RefundAttempts.step]
      split <;> rfl

/-- A granted call is the first one exactly where no attempt has been abandoned. -/
theorem Counted.callStripe (counted : Counted attempts) {plan : RefundPlan} (planned : attempts.phase = .planned plan)
    (once : RefundedOnce attempts) (configured : Bool) (reply : Option StripeRefundId) (lost : Bool) :
    RefundedOnce (attempts.callStripe plan configured reply lost) ↔
      NotGrantedAgain attempts (.callStripe configured reply lost) := by
  unfold RefundedOnce NotGrantedAgain
  rcases callStripe_cases attempts plan configured reply lost with
    ⟨stripeRefundId, open_, replied, grants, made, _, _⟩ | ⟨refused, same⟩
  · rw [made]
    constructor
    · intro one other _ abandoned
      have none : attempts.made = 0 := by omega
      have unabandoned := (counted.mp none).2
      rw [abandoned] at unabandoned
      cases unabandoned
    · intro again
      have unabandoned : attempts.abandoned = false := by
        by_contra abandoned
        have refused := again plan planned (by simpa using abandoned) open_ stripeRefundId replied
        rw [grants] at refused
        cases refused
      have none := counted.mpr ⟨by simp [hasGrant, planned], unabandoned⟩
      omega
  · rw [same]
    refine iff_of_true once ?_
    intro other phase _
    obtain rfl := RefundPhase.planned.inj (planned.symm.trans phase)
    exact refused

theorem refundedOnce_step_iff (action : RefundAction) (counted : Counted attempts) (once : RefundedOnce attempts) :
    RefundedOnce (attempts.step id dto action) ↔ NotGrantedAgain attempts action := by
  cases action with
  | callStripe configured reply lost =>
      simp only [RefundAttempts.step]
      split
      · rename_i plan planned
        exact counted.callStripe planned once configured reply lost
      · rename_i unplanned
        exact iff_of_true once fun plan planned => absurd planned (unplanned plan)
  | _ =>
      refine iff_of_true ?_ trivial
      rw [RefundedOnce, step_made (by simp)]
      exact once

/-- A request and its repetitions make one Stripe refund at most, in every state of
a run, exactly when none of them is granted after one has thrown past its grant. -/
theorem refunded_once_iff_not_granted_again {id : OrderId} {dto : RefundOrderDto} {db : Db} {bank : Bank}
    {actions : List RefundAction} :
    Visits (RefundAttempts.step id dto) RefundedOnce (RefundAttempts.start db bank) actions ↔
      Along (RefundAttempts.step id dto) NotGrantedAgain (RefundAttempts.start db bank) actions := by
  have framed : ∀ attempts action, True → Counted attempts → Counted (attempts.step id dto action) :=
    fun _ action _ counted => counted.step action
  have nothing : Counted (RefundAttempts.start db bank) := by simp [Counted, RefundAttempts.start, hasGrant]
  exact visits_iff_along framed (fun _ action _ counted once => refundedOnce_step_iff action counted once)
    (fun _ _ => trivial) nothing (Nat.zero_le 1)

def refundThree : RefundOrderDto where
  amountCents := some 300
  reason := none
  positive := by simp

/-- The event of the refund is processed before its own attempt records it. -/
def eventFirst : List RefundAction :=
  [.read, .callStripe true (some 5) false,
    .chargeRefunded { paymentIntent := some 1, refunds := some [{ id := 5, amount := 300, reason := none }] },
    .record, .read, .callStripe true (some 6) false]

theorem refunded_twice_after_event :
    ¬ ∀ id dto db bank actions,
      Visits (RefundAttempts.step id dto) RefundedOnce (RefundAttempts.start db bank) actions := by
  intro always
  have once := (always 1 refundThree (lampRows (lampOrder .paid .paid) [lampPayment])
    { captured := fun _ => 1000, refunds := [] } eventFirst).last
  unfold RefundedOnce at once
  exact absurd once (by decide)

end Aicos.Properties
