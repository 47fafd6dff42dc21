import Aicos.Settlement.Bank

namespace Aicos.Properties

open Aicos.Commerce Aicos.Billing Aicos.Data Aicos.Orders Aicos.Returns Aicos.Settlement Aicos.Transition

/-! Refunds against captures.  What Stripe grants stays within the capture; a
refund recorded without Stripe is checked by nobody. -/

structure Account where
  id : PaymentId
  intent : Option PaymentIntentId
  amount : Int
deriving DecidableEq

def accounts (payments : List Payment) : List Account :=
  payments.map fun payment =>
    { id := payment.id, intent := payment.stripePaymentIntentId, amount := payment.amountCents }

def refundsTotal (id : PaymentId) (refunds : List Refund) : Int :=
  totalWhere (fun refund => refund.paymentId = id) (·.amountCents) refunds

def manualTotal (id : PaymentId) (refunds : List Refund) : Int :=
  totalWhere (fun refund => refund.paymentId = id ∧ refund.stripeRefundId = none) (·.amountCents) refunds

def stripeRows (account : PaymentId) (intent : PaymentIntentId) (refunds : List Refund) : List StripeRefund :=
  refunds.filterMap fun refund =>
    if refund.paymentId = account then
      refund.stripeRefundId.map fun id => { id, intent, amount := refund.amountCents }
    else none

theorem refundsTotal_eq (account : PaymentId) (intent : PaymentIntentId) (refunds : List Refund) :
    refundsTotal account refunds =
      manualTotal account refunds + ((stripeRows account intent refunds).map (·.amount)).sum := by
  induction refunds with
  | nil => rfl
  | cons refund rest ih =>
      simp only [refundsTotal, manualTotal, totalWhere_cons, stripeRows, List.filterMap_cons] at ih ⊢
      by_cases mine : refund.paymentId = account
      · cases granted : refund.stripeRefundId with
        | none => simp [mine, ih]; omega
        | some id => simp [mine, ih]; omega
      · simp [mine, ih]

theorem stripeRows_ids (account : PaymentId) (intent : PaymentIntentId) (refunds : List Refund) :
    ((stripeRows account intent refunds).map (·.id)).Sublist (refunds.filterMap (·.stripeRefundId)) := by
  induction refunds with
  | nil => exact List.Sublist.slnil
  | cons refund rest ih =>
      simp only [stripeRows, List.filterMap_cons] at ih ⊢
      by_cases mine : refund.paymentId = account
      · cases granted : refund.stripeRefundId with
        | none => simpa [mine] using ih
        | some id => simpa [mine] using ih.cons_cons id
      · cases granted : refund.stripeRefundId with
        | none => simpa [mine] using ih
        | some id => simpa [mine] using ih.cons id

def Backed (desk : Desk) (row : Refund) : Prop :=
  ∀ id, row.stripeRefundId = some id → ∃ refund ∈ desk.bank.refunds, refund.id = id ∧
    refund.amount = row.amountCents ∧
    ∃ account ∈ accounts desk.db.payments, account.id = row.paymentId ∧ account.intent = some refund.intent

/-- The rows against Stripe's books, leaving open what manual refunds do. -/
structure Books (desk : Desk) : Prop where
  keyed : ((accounts desk.db.payments).map (·.id)).Nodup
  captured : ∀ account ∈ accounts desk.db.payments, ∀ intent, account.intent = some intent →
    desk.bank.captured intent ≤ account.amount
  positive : ∀ refund ∈ desk.bank.refunds, 0 < refund.amount
  limit : ∀ intent, desk.bank.refunded intent ≤ desk.bank.captured intent
  backed : ∀ row ∈ desk.db.refunds, Backed desk row
  distinct : (desk.db.refunds.filterMap (·.stripeRefundId)).Nodup
  unbacked : ∀ account ∈ accounts desk.db.payments, account.intent = none →
    refundsTotal account.id desk.db.refunds ≤ account.amount

/-- What Stripe and manual refunds have given back of a payment is within it. -/
def Covered (desk : Desk) : Prop :=
  ∀ account ∈ accounts desk.db.payments, ∀ intent, account.intent = some intent →
    desk.bank.refunded intent + manualTotal account.id desk.db.refunds ≤ account.amount

def WithinCapture (db : Db) : Prop :=
  ∀ payment ∈ db.payments, refundsTotal payment.id db.refunds ≤ payment.amountCents

theorem accounts_mem {payments : List Payment} {payment : Payment} (member : payment ∈ payments) :
    { id := payment.id, intent := payment.stripePaymentIntentId, amount := payment.amountCents } ∈
      accounts payments :=
  List.mem_map_of_mem member

theorem Books.account_eq {desk : Desk} (books : Books desk) {first second : Account}
    (one : first ∈ accounts desk.db.payments) (two : second ∈ accounts desk.db.payments)
    (same : first.id = second.id) : first = second :=
  List.inj_on_of_nodup_map books.keyed one two same

/-- The rows Stripe backs add up to no more than Stripe has refunded. -/
theorem Books.stripeRows_le {desk : Desk} (books : Books desk) {account : Account} {intent : PaymentIntentId}
    (member : account ∈ accounts desk.db.payments) (carried : account.intent = some intent) :
    ((stripeRows account.id intent desk.db.refunds).map (·.amount)).sum ≤ desk.bank.refunded intent := by
  have ids := (stripeRows_ids account.id intent desk.db.refunds).nodup books.distinct
  apply sum_le_of_nodup_subset (List.Nodup.of_map _ ids)
  · intro refund found
    obtain ⟨row, present, picked⟩ := List.mem_filterMap.mp found
    split at picked
    · rename_i mine
      obtain ⟨id, granted, rfl⟩ := Option.map_eq_some_iff.mp picked
      obtain ⟨known, there, sameId, sameAmount, other, listed, owner, same⟩ := books.backed row present id granted
      have equal := books.account_eq listed member (owner.trans mine)
      rw [equal, carried] at same
      have sameIntent := Option.some.inj same
      refine List.mem_filter.mpr ⟨?_, by simp⟩
      have whole : known = { id, intent, amount := row.amountCents } := by
        rw [← sameId, ← sameAmount, sameIntent]
      exact whole ▸ there
    · cases picked
  · intro refund found
    exact Int.le_of_lt (books.positive refund (List.mem_of_mem_filter found))

theorem Books.within {desk : Desk} (books : Books desk) (covered : Covered desk) : WithinCapture desk.db := by
  intro payment member
  have account := accounts_mem member
  cases carried : payment.stripePaymentIntentId with
  | none =>
      rw [carried] at account
      exact books.unbacked _ account rfl
  | some intent =>
      rw [carried] at account
      have stripe := books.stripeRows_le account rfl
      have room := covered _ account intent rfl
      rw [refundsTotal_eq payment.id intent]
      dsimp only at stripe room
      omega

section Step

variable {desk : Desk} {action : DeskAction}

theorem step_refunds (desk : Desk) (action : DeskAction) :
    (desk.step action).db.refunds = desk.db.refunds ++ newRefunds (desk.recording action) :=
  (desk.step_recorded action).refunds

theorem step_accounts (desk : Desk) (action : DeskAction) :
    accounts (desk.step action).db.payments = accounts desk.db.payments := by
  rw [(desk.step_recorded action).payments]
  cases desk.recording action with
  | none => rfl
  | some recorded =>
      simp only [paymentsAfter, Recording.payments]
      split
      · exact map_updateWhere fun _ => rfl
      · rfl

theorem serve_granted {bank : Bank} {configured : Bool} {reply : Option StripeRefundId}
    {asked : Option StripeRefundRequest} :
    Bank.serve (bank.api configured reply) asked = [] ∨
      ∃ request id, bank.grants request id = true ∧ Bank.serve (bank.api configured reply) asked =
        [{ id, intent := request.paymentIntent, amount := request.amount }] := by
  cases asked with
  | none => exact .inl rfl
  | some request =>
      cases configured with
      | false => exact .inl rfl
      | true =>
          cases served : reply.filter (bank.grants request) with
          | none => exact .inl (by simp [Bank.serve, Bank.api, served])
          | some id =>
              refine .inr ⟨request, id, (Option.filter_eq_some_iff.mp served).2, ?_⟩
              simp [Bank.serve, Bank.api, served]

theorem granted_spec (desk : Desk) (action : DeskAction) :
    desk.granted action = [] ∨ ∃ request id, desk.bank.grants request id = true ∧
      desk.granted action = [{ id, intent := request.paymentIntent, amount := request.amount }] := by
  cases action with
  | refundOrder configured reply id dto => exact serve_granted
  | refundReturn configured reply id now => exact serve_granted
  | dashboardRefund request id =>
      by_cases accepted : desk.bank.grants request id = true
      · exact .inr ⟨request, id, accepted, if_pos accepted⟩
      · exact .inl (if_neg accepted)
  | requestReturn insensitive slug dto id => exact .inl rfl
  | approve id => exact .inl rfl
  | reject id => exact .inl rfl
  | chargeRefunded charge => exact .inl rfl

theorem step_bank_mem {refund : StripeRefund} (member : refund ∈ desk.bank.refunds) :
    refund ∈ (desk.step action).bank.refunds :=
  List.mem_append_left _ member

theorem Backed.step {row : Refund} (backed : Backed desk row) : Backed (desk.step action) row := by
  intro id named
  obtain ⟨refund, member, sameId, sameAmount, rest⟩ := backed id named
  rw [← step_accounts desk action] at rest
  exact ⟨refund, step_bank_mem member, sameId, sameAmount, rest⟩

structure Recordable (desk : Desk) (action : DeskAction) (row : Refund) : Prop where
  account : ∃ account ∈ accounts desk.db.payments, account.id = row.paymentId ∧ account.intent ≠ none
  backed : Backed (desk.step action) row

theorem Recordable.intro {row : Refund} {payment : Payment} {intent : PaymentIntentId}
    (member : payment ∈ desk.db.payments) (carried : payment.stripePaymentIntentId = some intent)
    (owner : row.paymentId = payment.id)
    (paid : ∀ id, row.stripeRefundId = some id →
      { id, intent, amount := row.amountCents } ∈ (desk.step action).bank.refunds) :
    Recordable desk action row := by
  have account := accounts_mem member
  rw [carried] at account
  refine ⟨⟨_, account, owner.symm, by simp⟩, fun id named => ⟨_, paid id named, rfl, rfl, ?_⟩⟩
  rw [step_accounts]
  exact ⟨_, account, owner.symm, rfl⟩

theorem refundOrder_recordable {configured : Bool} {reply : Option StripeRefundId} {id : OrderId}
    {dto : RefundOrderDto} {row : Refund}
    (member : row ∈ newRefunds (desk.recording (.refundOrder configured reply id dto))) :
    Recordable desk (.refundOrder configured reply id dto) row := by
  cases made : orderRecording (desk.bank.api configured reply) id dto desk.db with
  | none => simp [Desk.recording, made] at member
  | some recorded =>
      obtain ⟨plan, stripeRefundId, planned, open_, granted, _, rfl⟩ := orderRecording_some made
      obtain ⟨_, _, held, _, _, _⟩ := Orders.planRefund_ok planned
      obtain ⟨present, _, carried⟩ := captured_some held
      obtain rfl : row = plan.row dto.reason stripeRefundId := by simpa [Desk.recording, made] using member
      refine .intro (latestPayments_mem.mp present).1 carried rfl fun other named => ?_
      cases named
      have served : desk.granted (.refundOrder configured reply id dto) =
          [{ id := stripeRefundId, intent := plan.intent, amount := plan.amount }] := by
        simp only [Desk.granted, orderRequest, planned, Bank.serve, open_, if_true, granted]
        rfl
      exact List.mem_append_right _ (by rw [served]; exact List.mem_singleton_self _)

theorem refundReturn_recordable {configured : Bool} {reply : Option StripeRefundId} {id : ReturnId}
    {now : Instant} {row : Refund}
    (member : row ∈ newRefunds (desk.recording (.refundReturn configured reply id now))) :
    Recordable desk (.refundReturn configured reply id now) row := by
  cases made : returnRecording (desk.bank.api configured reply) id desk.db with
  | none => simp [Desk.recording, made] at member
  | some recorded =>
      obtain ⟨read, plan, payment, intent, stripeRefundId, required, planned, held, called, _, rfl⟩ :=
        returnRecording_some made
      obtain ⟨present, carried⟩ := planned_payment required planned held
      obtain rfl : row = plan.row payment stripeRefundId := by simpa [Desk.recording, made] using member
      refine .intro present carried rfl fun other named => ?_
      obtain rfl : stripeRefundId = some other := named
      have served : desk.granted (.refundReturn configured reply id now) =
          [{ id := other, intent, amount := plan.amount }] := by
        simp only [Desk.granted, returnRequest, required, planned, Bank.serve]
        exact callStripe_granted held called
      exact List.mem_append_right _ (by rw [served]; exact List.mem_singleton_self _)

theorem chargeRefunded_recordable {charge : ChargeObj} {row : Refund}
    (member : row ∈ newRefunds (desk.recording (.chargeRefunded charge))) :
    Recordable desk (.chargeRefunded charge) row := by
  by_cases listed : desk.bank.lists charge = true
  · cases made : chargeRecording charge desk.db with
    | none => simp [Desk.recording, listed, made] at member
    | some recorded =>
        obtain ⟨intent, payment, carried, found, rfl⟩ := chargeRecording_some made
        have added : row ∈ unrecorded payment (charge.refunds.getD []) desk.db.refunds := by
          simpa [Desk.recording, listed, made] using member
        obtain ⟨entry, present, rfl⟩ := unrecorded_mem added
        have named : payment.stripePaymentIntentId = some intent := by simpa using List.find?_some found
        refine .intro (List.mem_of_find?_eq_some found) named rfl fun other same => ?_
        cases same
        have known := List.all_eq_true.mp listed entry present
        obtain ⟨refund, there, matched⟩ := List.any_eq_true.mp known
        obtain ⟨sameId, sameAmount, sameIntent⟩ := of_decide_eq_true matched
        rw [carried] at sameIntent
        cases sameIntent
        have whole : refund = { id := entry.id, intent := refund.intent, amount := entry.amount } := by
          rw [← sameId, ← sameAmount]
        exact step_bank_mem (whole ▸ there)
  · simp [Desk.recording, listed] at member

theorem step_recordable {row : Refund} (member : row ∈ newRefunds (desk.recording action)) :
    Recordable desk action row := by
  cases action with
  | refundOrder configured reply id dto => exact refundOrder_recordable member
  | refundReturn configured reply id now => exact refundReturn_recordable member
  | chargeRefunded charge => exact chargeRefunded_recordable member
  | requestReturn insensitive slug dto id => simp [Desk.recording] at member
  | approve id => simp [Desk.recording] at member
  | reject id => simp [Desk.recording] at member
  | dashboardRefund request id => simp [Desk.recording] at member

theorem step_distinct (distinct : (desk.db.refunds.filterMap (·.stripeRefundId)).Nodup) :
    ((desk.step action).db.refunds.filterMap (·.stripeRefundId)).Nodup := by
  have one {row : Refund} (fresh : ∀ id, row.stripeRefundId = some id → (desk.db.findRefund id).isNone = true) :
      ((desk.db.refunds ++ [row]).filterMap (·.stripeRefundId)).Nodup := by
    rw [List.filterMap_append]
    cases named : row.stripeRefundId with
    | none => simpa [named] using distinct
    | some id =>
        have absent : id ∉ desk.db.refunds.filterMap (·.stripeRefundId) := by
          simpa using findRefund_none (fresh id named)
        simpa [named] using distinct.append (List.nodup_singleton id) (List.disjoint_singleton.mpr absent)
  rw [step_refunds]
  cases made : desk.recording action with
  | none => simpa using distinct
  | some recorded =>
      rw [newRefunds_some]
      cases action with
      | refundOrder configured reply id dto =>
          obtain ⟨plan, stripeRefundId, _, _, _, fresh, rfl⟩ := orderRecording_some made
          exact one fun other named => by cases named; exact fresh
      | refundReturn configured reply id now =>
          obtain ⟨_, plan, payment, _, stripeRefundId, _, _, _, _, fresh, rfl⟩ := returnRecording_some made
          refine one fun other named => ?_
          obtain rfl : stripeRefundId = some other := named
          exact fresh
      | chargeRefunded charge =>
          by_cases listed : desk.bank.lists charge = true
          · simp only [Desk.recording, if_pos listed] at made
            obtain ⟨_, _, _, _, rfl⟩ := chargeRecording_some made
            exact unrecorded_distinct distinct
          · simp [Desk.recording, listed] at made
      | requestReturn insensitive slug dto id => cases made
      | approve id => cases made
      | reject id => cases made
      | dashboardRefund request id => cases made

def grantedOn (intent : PaymentIntentId) (desk : Desk) (action : DeskAction) : Int :=
  totalWhere (fun refund => refund.intent = intent) (·.amount) (desk.granted action)

theorem step_refunded (desk : Desk) (action : DeskAction) (intent : PaymentIntentId) :
    (desk.step action).bank.refunded intent = desk.bank.refunded intent + grantedOn intent desk action :=
  totalWhere_append _ _

theorem step_limit (action : DeskAction)
    (limit : ∀ intent, desk.bank.refunded intent ≤ desk.bank.captured intent) (intent : PaymentIntentId) :
    (desk.step action).bank.refunded intent ≤ (desk.step action).bank.captured intent := by
  rw [step_refunded, Desk.step_captured]
  have before := limit intent
  rcases granted_spec desk action with none | ⟨request, id, accepted, paid⟩
  · simpa [grantedOn, none] using before
  · obtain ⟨_, fits, _⟩ := of_decide_eq_true accepted
    by_cases same : request.paymentIntent = intent
    · subst same
      simpa [grantedOn, paid] using fits
    · simpa [grantedOn, paid, same] using before

theorem step_positive (positive : ∀ refund ∈ desk.bank.refunds, 0 < refund.amount) :
    ∀ refund ∈ (desk.step action).bank.refunds, 0 < refund.amount := by
  intro refund member
  rcases List.mem_append.mp member with old | new
  · exact positive refund old
  · rcases granted_spec desk action with none | ⟨request, id, accepted, paid⟩
    · simp [none] at new
    · obtain ⟨above, _, _⟩ := of_decide_eq_true accepted
      rw [paid] at new
      obtain rfl := List.mem_singleton.mp new
      exact above

theorem step_unbacked (books : Books desk) {account : Account} (member : account ∈ accounts desk.db.payments)
    (cash : account.intent = none) :
    refundsTotal account.id (desk.step action).db.refunds = refundsTotal account.id desk.db.refunds := by
  rw [step_refunds, refundsTotal, totalWhere_append]
  have none : totalWhere (fun refund => refund.paymentId = account.id) (·.amountCents)
      (newRefunds (desk.recording action)) = 0 := by
    refine totalWhere_of_forall_not fun row added => ?_
    obtain ⟨other, listed, owner, carried⟩ := (step_recordable added).account
    simp only [decide_eq_false_iff_not]
    intro mine
    have equal := books.account_eq listed member (owner.trans mine)
    rw [equal, cash] at carried
    exact carried rfl
  rw [none, Int.add_zero]
  rfl

theorem Books.step (books : Books desk) : Books (desk.step action) := by
  refine ⟨?_, ?_, step_positive books.positive, step_limit action books.limit, ?_, step_distinct books.distinct, ?_⟩
  · rw [step_accounts]
    exact books.keyed
  · rw [step_accounts]
    exact books.captured
  · intro row member
    rw [step_refunds] at member
    rcases List.mem_append.mp member with old | new
    · exact (books.backed row old).step
    · exact (step_recordable new).backed
  · rw [step_accounts]
    intro account member cash
    rw [step_unbacked books member cash]
    exact books.unbacked account member cash

/-- A refund recorded without Stripe leaves room for what Stripe has refunded,
and Stripe refunds no money that has been given back without it. -/
def RoomForManual (desk : Desk) (action : DeskAction) : Prop :=
  ∀ account ∈ accounts desk.db.payments, ∀ intent, account.intent = some intent →
    manualTotal account.id (desk.db.refunds ++ newRefunds (desk.recording action)) ≠ 0 →
    desk.bank.refunded intent + grantedOn intent desk action +
      manualTotal account.id (desk.db.refunds ++ newRefunds (desk.recording action)) ≤ account.amount

theorem Covered.step (books : Books desk) (room : RoomForManual desk action) : Covered (desk.step action) := by
  intro account member intent carried
  rw [step_refunds, step_refunded]
  rw [step_accounts] at member
  by_cases manual : manualTotal account.id (desk.db.refunds ++ newRefunds (desk.recording action)) = 0
  · -- without manual refunds Stripe's own limit is enough
    have limit := step_limit action books.limit intent
    have capture := books.captured account member intent carried
    rw [step_refunded] at limit
    rw [manual, Int.add_zero]
    exact Int.le_trans limit capture
  · exact room account member intent carried manual

end Step

/-- As long as manual refunds leave room, the recorded refunds of every payment
stay within it, in every state of every run. -/
theorem refunds_within_capture {desk : Desk} (books : Books desk) (covered : Covered desk)
    {actions : List DeskAction} (room : Along Desk.step RoomForManual desk actions) :
    Visits Desk.step (fun desk => WithinCapture desk.db) desk actions := by
  have preserved : ∀ (desk : Desk) action, Books desk ∧ Covered desk → RoomForManual desk action →
      Books (desk.step action) ∧ Covered (desk.step action) :=
    fun desk action sound room => ⟨sound.1.step, Covered.step sound.1 room⟩
  exact (visits_of_along preserved ⟨books, covered⟩ room).mono fun _ sound => sound.1.within sound.2

def lampDesk : Desk where
  db := lampRows (lampOrder .paid .paid) [lampPayment]
  bank := { captured := fun _ => 1000, refunds := [] }

theorem lampDesk_books : Books lampDesk := by
  have empty : ∀ row ∈ lampDesk.db.refunds, Backed lampDesk row := fun row member => by cases member
  refine ⟨by decide, ?_, by decide, ?_, empty, by decide, by decide⟩
  · intro account member intent _
    obtain rfl := List.mem_singleton.mp member
    exact Int.le_refl _
  · intro intent
    show (0 : Int) ≤ 1000
    decide

theorem lampDesk_covered : Covered lampDesk := by
  intro account member intent _
  obtain rfl := List.mem_singleton.mp member
  show (0 : Int) + 0 ≤ 1000
  decide

def returnLamps (id : ReturnId) : DeskAction :=
  .requestReturn (· == ·) "lamps" ⟨"ada@example.com", 1001, none, [bothLamps], List.cons_ne_nil _ _⟩ id

/-- Two returns of all lamps, both refunded while the API key is missing. -/
theorem manual_refunds_exceed_capture :
    ¬ ∀ desk actions, Books desk → Covered desk →
      Visits Desk.step (fun desk => WithinCapture desk.db) desk actions := by
  intro always
  have visits := always lampDesk
    [returnLamps 1, returnLamps 2, .refundReturn false none 1 0, .refundReturn false none 2 0]
    lampDesk_books lampDesk_covered
  have within := visits.last lampPayment (by decide)
  exact absurd within (by decide)

theorem refunds_within_capture_manual_once :
    Visits Desk.step (fun desk => WithinCapture desk.db) lampDesk
      [returnLamps 1, .refundReturn false none 1 0] := by
  refine refunds_within_capture lampDesk_books lampDesk_covered ⟨?_, ?_, trivial⟩
  · intro account member intent _ manual
    obtain rfl := List.mem_singleton.mp member
    exact absurd rfl manual
  · intro account member intent _ _
    obtain rfl := List.mem_singleton.mp member
    show (0 : Int) + 0 + 1000 ≤ 1000
    decide

end Aicos.Properties
