import Aicos.Settlement.Standing
import Mathlib.Data.List.TakeWhile

namespace Aicos.Settlement

open Aicos.Commerce Aicos.Billing Aicos.Transition

/-! Two orders of processing the same events, and when they come to the same. -/

variable {terms : Terms}

structure Recordable (row : StripeRefundObj → Refund) (listed : List StripeRefundObj) (recorded : List Refund) :
    Prop where
  keyed : ∀ first ∈ listed, ∀ second ∈ listed, first.id = second.id → first = second
  known : ∀ refund ∈ listed, ∀ entry ∈ recorded, entry.stripeRefundId = some refund.id → entry = row refund

theorem mem_unrecorded {payment : Payment} {listed : List StripeRefundObj} {recorded : List Refund}
    (sound : Recordable (reconciledRefund payment) listed recorded) (entry : Refund) :
    entry ∈ recorded ++ unrecorded payment listed recorded ↔
      entry ∈ recorded ∨ ∃ refund ∈ listed, entry = reconciledRefund payment refund := by
  induction listed generalizing recorded with
  | nil => simp [unrecorded]
  | cons refund listed ih =>
      have keyed : ∀ first ∈ listed, ∀ second ∈ listed, first.id = second.id → first = second :=
        fun first here second there => sound.keyed first (by simp [here]) second (by simp [there])
      rw [unrecorded]
      split
      · rename_i known
        obtain ⟨row, present, same⟩ := List.any_eq_true.mp known
        have same : row.stripeRefundId = some refund.id := by simpa using same
        have itself := sound.known refund (by simp) row present same
        have later : Recordable (reconciledRefund payment) listed recorded :=
          ⟨keyed, fun other member => sound.known other (by simp [member])⟩
        rw [ih later]
        constructor
        · rintro (old | ⟨other, member, rfl⟩)
          · exact .inl old
          · exact .inr ⟨other, by simp [member], rfl⟩
        · rintro (old | ⟨other, member, rfl⟩)
          · exact .inl old
          · rcases List.mem_cons.mp member with rfl | member
            · exact .inl (itself ▸ present)
            · exact .inr ⟨other, member, rfl⟩
      · have later : Recordable (reconciledRefund payment) listed (recorded ++ [reconciledRefund payment refund]) := by
          refine ⟨keyed, fun other member entry present same => ?_⟩
          rcases List.mem_append.mp present with old | new
          · exact sound.known other (by simp [member]) entry old same
          · cases List.mem_singleton.mp new
            have equal : refund.id = other.id := by simpa [reconciledRefund] using same
            rw [sound.keyed refund (by simp) other (by simp [member]) equal]
        have rest := ih later
        rw [List.append_assoc, List.singleton_append] at rest
        rw [rest]
        constructor
        · rintro (old | ⟨other, member, rfl⟩)
          · rcases List.mem_append.mp old with old | new
            · exact .inl old
            · exact .inr ⟨refund, by simp, List.mem_singleton.mp new⟩
          · exact .inr ⟨other, by simp [member], rfl⟩
        · rintro (old | ⟨other, member, rfl⟩)
          · exact .inl (by simp [old])
          · rcases List.mem_cons.mp member with rfl | member
            · exact .inl (by simp)
            · exact .inr ⟨other, member, rfl⟩

theorem step_refunds {standing : Standing} {facts : PaymentFacts} (payment : standing.payment = some facts)
    {notice : Notice} (sound : Recordable (refundRow terms facts.currency) notice.listed standing.refunds) :
    (∃ next, (standing.step terms notice).payment = some next ∧ next.currency = facts.currency) ∧
      ∀ entry, entry ∈ (standing.step terms notice).refunds ↔
        entry ∈ standing.refunds ∨ ∃ refund ∈ notice.listed, entry = refundRow terms facts.currency refund := by
  cases notice with
  | failed => simp [Standing.step, Standing.fail, payment, Notice.listed]
  | completed =>
      simp only [Standing.step]
      split
      · exact ⟨⟨facts, payment, rfl⟩, by simp [Notice.listed]⟩
      · simp [Standing.complete, payment, Notice.listed]
  | refunded refunds =>
      simp only [Standing.step, Standing.refund, payment]
      refine ⟨?_, fun entry => mem_unrecorded sound entry⟩
      split
      · exact ⟨_, rfl, rfl⟩
      · exact ⟨_, rfl, rfl⟩

theorem run_recorded {standing : Standing} {facts : PaymentFacts} (payment : standing.payment = some facts)
    (notices : List Notice)
    (sound : Recordable (refundRow terms facts.currency) (notices.flatMap Notice.listed) standing.refunds) :
    (∃ last, (run (Standing.step terms) standing notices).payment = some last ∧ last.currency = facts.currency) ∧
      ∀ entry, entry ∈ (run (Standing.step terms) standing notices).refunds ↔
        entry ∈ standing.refunds ∨
          ∃ refund ∈ notices.flatMap Notice.listed, entry = refundRow terms facts.currency refund := by
  induction notices generalizing standing facts with
  | nil => exact ⟨⟨facts, payment, rfl⟩, by simp⟩
  | cons notice notices ih =>
      have here : Recordable (refundRow terms facts.currency) notice.listed standing.refunds :=
        ⟨fun first one second two => sound.keyed first (by simp [one]) second (by simp [two]),
          fun refund member => sound.known refund (by simp [member])⟩
      obtain ⟨⟨next, there, same⟩, recorded⟩ := step_refunds payment here
      have later : Recordable (refundRow terms next.currency) (notices.flatMap Notice.listed)
          (standing.step terms notice).refunds := by
        rw [same]
        refine ⟨fun first one second two => sound.keyed first (by simp [one]) second (by simp [two]), ?_⟩
        intro refund member entry present equal
        rcases (recorded entry).mp present with old | ⟨other, listed, rfl⟩
        · exact sound.known refund (by simp [member]) entry old equal
        · have equal : other.id = refund.id := by simpa [refundRow, reconciledRefund] using equal
          rw [sound.keyed other (by simp [listed]) refund (by simp [member]) equal]
      obtain ⟨⟨last, final, kept⟩, rest⟩ := ih there later
      refine ⟨⟨last, final, kept.trans same⟩, fun entry => ?_⟩
      rw [run_cons, rest, recorded, same]
      simp only [List.flatMap_cons, List.mem_append, or_assoc, or_and_right, exists_or]

theorem run_ignored {standing : Standing} (payment : standing.payment = none) (notices : List Notice)
    (refunds : ∀ notice ∈ notices, notice.isRefund = true) :
    run (Standing.step terms) standing notices = standing := by
  induction notices with
  | nil => rfl
  | cons notice notices ih =>
      have ignored : standing.step terms notice = standing := by
        cases notice with
        | refunded listed => simp only [Standing.step, Standing.refund, payment]
        | failed => exact absurd (refunds .failed (by simp)) (by decide)
        | completed => exact absurd (refunds .completed (by simp)) (by decide)
      rw [run_cons, ignored]
      exact ih fun other member => refunds other (by simp [member])

/-- A run records what its events list from the first one on that is not a refund. -/
theorem run_refunds {standing : Standing} {facts : PaymentFacts} (status : standing.status ≠ .paid)
    (financialStatus : standing.financialStatus ≠ .paid) (payment : standing.payment = none) (notices : List Notice)
    (keyed : ∀ first ∈ notices.flatMap Notice.listed, ∀ second ∈ notices.flatMap Notice.listed,
      first.id = second.id → first = second)
    (fresh : ∀ refund ∈ notices.flatMap Notice.listed, ∀ entry ∈ standing.refunds,
      entry.stripeRefundId ≠ some refund.id)
    (final : (run (Standing.step terms) standing notices).payment = some facts) (entry : Refund) :
    entry ∈ (run (Standing.step terms) standing notices).refunds ↔
      entry ∈ standing.refunds ∨ ∃ refund ∈ recordable notices, entry = refundRow terms facts.currency refund := by
  have split := List.takeWhile_append_dropWhile (p := Notice.isRefund) (l := notices)
  -- the refund events before any other find no Payment row
  have ignored : run (Standing.step terms) standing (notices.takeWhile Notice.isRefund) = standing :=
    run_ignored payment _ fun notice member => List.mem_takeWhile_imp member
  have rest : run (Standing.step terms) standing notices =
      run (Standing.step terms) standing (notices.dropWhile Notice.isRefund) := by
    nth_rewrite 1 [← split]
    rw [run_append, ignored]
  have within : ∀ refund ∈ recordable notices, refund ∈ notices.flatMap Notice.listed := by
    intro refund member
    obtain ⟨notice, present, listed⟩ := List.mem_flatMap.mp member
    exact List.mem_flatMap.mpr ⟨notice, (List.dropWhile_sublist _).subset present, listed⟩
  rw [rest] at final ⊢
  unfold recordable at within ⊢
  cases counted : notices.dropWhile Notice.isRefund with
  | nil =>
      rw [counted, run_nil, payment] at final
      cases final
  | cons notice later =>
      rw [counted] at final within
      have other : notice.isRefund = false := by
        have head := List.head_dropWhile_not Notice.isRefund (l := notices) (by simp [counted])
        simpa [counted] using head
      have created : ∃ first, (standing.step terms notice).payment = some first ∧
          (standing.step terms notice).refunds = standing.refunds ∧ notice.listed = [] := by
        cases notice with
        | failed => exact ⟨_, rfl, rfl, rfl⟩
        | completed =>
            simp only [Standing.step, status, financialStatus, or_self, if_false]
            exact ⟨_, rfl, rfl, rfl⟩
        | refunded listed => cases other
      obtain ⟨first, there, kept, silent⟩ := created
      have sound : Recordable (refundRow terms first.currency) (later.flatMap Notice.listed)
          (standing.step terms notice).refunds := by
        constructor
        · intro one here two there
          exact keyed one (within one (by simp [here])) two (within two (by simp [there]))
        · intro refund member entry present same
          rw [kept] at present
          exact absurd same (fresh refund (within refund (by simp [member])) entry present)
      obtain ⟨⟨last, ends, same⟩, recorded⟩ := run_recorded there later sound
      rw [run_cons] at final ⊢
      rw [ends] at final
      cases final
      rw [recorded, kept, same, List.flatMap_cons, silent, List.nil_append]

theorem split_completion {notices : List Notice} (once : notices.countP Notice.isCompletion = 1) :
    notices = beforeCompletion notices ++ .completed :: afterCompletion notices ∧
      (∀ notice ∈ beforeCompletion notices, notice.isCompletion = false) ∧
      ∀ notice ∈ afterCompletion notices, notice.isCompletion = false := by
  have waiting : ∀ notice ∈ beforeCompletion notices, notice.isCompletion = false := by
    intro notice member
    simpa using List.mem_takeWhile_imp member
  have split : beforeCompletion notices ++ notices.dropWhile (fun notice => ! notice.isCompletion) = notices :=
    List.takeWhile_append_dropWhile
  have none : (beforeCompletion notices).countP Notice.isCompletion = 0 := by
    rw [List.countP_eq_zero]
    intro notice member
    simp [waiting notice member]
  rw [← split, List.countP_append, none, Nat.zero_add] at once
  cases found : notices.dropWhile fun notice => ! notice.isCompletion with
  | nil =>
      rw [found] at once
      cases once
  | cons notice later =>
      have completion : notice.isCompletion = true := by
        have head := List.head_dropWhile_not (fun notice => ! Notice.isCompletion notice) (l := notices)
          (by simp [found])
        simpa [found] using head
      have same : notice = .completed := by
        cases notice <;> first | rfl | cases completion
      have after : afterCompletion notices = later := by rw [afterCompletion, found, List.tail_cons]
      rw [found, List.countP_cons, if_pos completion] at once
      refine ⟨?_, waiting, ?_⟩
      · rw [after, ← same, ← found, split]
      · rw [after]
        intro other member
        have nothing := List.countP_eq_zero.mp (Nat.succ.inj once) other member
        simpa using nothing

theorem settledStatus_eq_iff {paidCents : Int} {first second : List Notice} :
    settledStatus paidCents first = settledStatus paidCents second ↔
      (some true ∈ first.map (Notice.fully paidCents) ↔ some true ∈ second.map (Notice.fully paidCents)) := by
  unfold settledStatus
  by_cases one : some true ∈ first.map (Notice.fully paidCents) <;>
    by_cases two : some true ∈ second.map (Notice.fully paidCents) <;>
      simp only [one, two, if_true, if_false] <;> decide

theorem settledFinancialStatus_eq_iff {paidCents : Int} {first second : List Notice} :
    settledFinancialStatus paidCents first = settledFinancialStatus paidCents second ↔
      (first.filterMap (Notice.fully paidCents)).getLast? = (second.filterMap (Notice.fully paidCents)).getLast? := by
  unfold settledFinancialStatus
  cases (first.filterMap (Notice.fully paidCents)).getLast? with
  | none =>
      cases (second.filterMap (Notice.fully paidCents)).getLast? with
      | none => simp
      | some full => cases full <;> simp
  | some whole =>
      cases (second.filterMap (Notice.fully paidCents)).getLast? with
      | none => cases whole <;> simp
      | some full => cases whole <;> cases full <;> simp

theorem settledPaymentStatus_eq_iff {paidCents : Int} {first second : List Notice} :
    settledPaymentStatus paidCents first = settledPaymentStatus paidCents second ↔
      (first.filterMap (Notice.verdict paidCents)).getLast? =
        (second.filterMap (Notice.verdict paidCents)).getLast? := by
  -- no event sets a captured Payment to SUCCEEDED
  have open_ (notices : List Notice) : (notices.filterMap (Notice.verdict paidCents)).getLast? ≠ some .succeeded := by
    intro last
    obtain ⟨notice, _, verdict⟩ := List.mem_filterMap.mp (List.mem_of_getLast? last)
    cases notice with
    | failed => cases verdict
    | completed => cases verdict
    | refunded refunds =>
        simp only [Notice.verdict] at verdict
        split at verdict <;> cases verdict
  have one := open_ first
  have two := open_ second
  unfold settledPaymentStatus
  generalize (first.filterMap (Notice.verdict paidCents)).getLast? = mine at one
  generalize (second.filterMap (Notice.verdict paidCents)).getLast? = other at two
  cases mine with
  | none =>
      cases other with
      | none => simp
      | some status => simpa using fun same => two (congrArg some same.symm)
  | some status =>
      cases other with
      | none => simpa using one
      | some status => simp

theorem paidFacts_eq_iff {first second : List Notice} {one two : PaymentStatus} :
    ({ paidFacts terms first with status := one } : PaymentFacts) = { paidFacts terms second with status := two } ↔
      (first.any Notice.isFailure = second.any Notice.isFailure ∨
        (terms.paidCurrency = terms.currency ∧ terms.applicationFeeCents = 0)) ∧ one = two := by
  unfold paidFacts
  cases first.any Notice.isFailure with
  | true =>
      cases second.any Notice.isFailure with
      | true => simp
      | false =>
          simp [draftFacts, capturedFacts]
          tauto
  | false =>
      cases second.any Notice.isFailure with
      | true =>
          simp [draftFacts, capturedFacts]
          tauto
      | false => simp

structure SameOutcome (first second : Standing) : Prop where
  status : first.status = second.status
  financialStatus : first.financialStatus = second.financialStatus
  payment : first.payment = second.payment
  refunds : ∀ entry, entry ∈ first.refunds ↔ entry ∈ second.refunds

/-- What the order of processing may not change: after the completion, whether
there is a full refund, how the last refund and the last failure or full refund
come out; whether a failure comes before it, unless the draft has the currency
and the fee of the captured Payment; and the refunds that find a Payment row. -/
structure Compatible (terms : Terms) (processed happened : List Notice) : Prop where
  full : some true ∈ (afterCompletion processed).map (Notice.fully terms.paidCents) ↔
    some true ∈ (afterCompletion happened).map (Notice.fully terms.paidCents)
  refund : ((afterCompletion processed).filterMap (Notice.fully terms.paidCents)).getLast? =
    ((afterCompletion happened).filterMap (Notice.fully terms.paidCents)).getLast?
  verdict : ((afterCompletion processed).filterMap (Notice.verdict terms.paidCents)).getLast? =
    ((afterCompletion happened).filterMap (Notice.verdict terms.paidCents)).getLast?
  draft : (beforeCompletion processed).any Notice.isFailure = (beforeCompletion happened).any Notice.isFailure ∨
    (terms.paidCurrency = terms.currency ∧ terms.applicationFeeCents = 0)
  recorded : ∀ refund, refund ∈ recordable processed ↔ refund ∈ recordable happened

structure Waits (standing : Standing) (notices : List Notice) : Prop where
  status : standing.status ≠ .paid
  financialStatus : standing.financialStatus ≠ .paid
  payment : standing.payment = none
  once : notices.countP Notice.isCompletion = 1
  keyed : ∀ first ∈ notices.flatMap Notice.listed, ∀ second ∈ notices.flatMap Notice.listed,
    first.id = second.id → first = second
  fresh : ∀ refund ∈ notices.flatMap Notice.listed, ∀ entry ∈ standing.refunds,
    entry.stripeRefundId ≠ some refund.id

theorem Waits.perm {standing : Standing} {processed happened : List Notice} (waits : Waits standing happened)
    (perm : processed.Perm happened) : Waits standing processed := by
  have listed (refund : StripeRefundObj) :
      refund ∈ processed.flatMap Notice.listed ↔ refund ∈ happened.flatMap Notice.listed :=
    (perm.flatMap_right Notice.listed).mem_iff
  refine ⟨waits.status, waits.financialStatus, waits.payment, ?_, ?_, ?_⟩
  · rw [perm.countP_eq]
    exact waits.once
  · intro first one second two
    exact waits.keyed first ((listed first).mp one) second ((listed second).mp two)
  · intro refund member
    exact waits.fresh refund ((listed refund).mp member)

theorem recordable_listed {notices : List Notice} {refund : StripeRefundObj} (member : refund ∈ recordable notices) :
    refund ∈ notices.flatMap Notice.listed := by
  obtain ⟨notice, present, listed⟩ := List.mem_flatMap.mp member
  exact List.mem_flatMap.mpr ⟨notice, (List.dropWhile_sublist _).subset present, listed⟩

theorem Waits.row_iff {standing : Standing} {notices : List Notice} {refunds : List StripeRefundObj}
    (waits : Waits standing notices) (within : ∀ refund ∈ refunds, refund ∈ notices.flatMap Notice.listed)
    (currency : String) {refund : StripeRefundObj} (listed : refund ∈ notices.flatMap Notice.listed) :
    (refundRow terms currency refund ∈ standing.refunds ∨
        ∃ other ∈ refunds, refundRow terms currency refund = refundRow terms currency other) ↔ refund ∈ refunds := by
  constructor
  · rintro (old | ⟨other, member, same⟩)
    · exact absurd rfl (waits.fresh refund listed _ old)
    · have equal : refund.id = other.id := by
        simpa [refundRow, reconciledRefund] using congrArg Refund.stripeRefundId same
      rw [waits.keyed refund listed other (within other member) equal]
      exact member
  · intro member
    exact .inr ⟨refund, member, rfl⟩

/-- Where the events lead an order that waits for them. -/
theorem Waits.outcome (terms : Terms) {standing : Standing} {notices : List Notice} (waits : Waits standing notices) :
    (run (Standing.step terms) standing notices).status = settledStatus terms.paidCents (afterCompletion notices) ∧
      (run (Standing.step terms) standing notices).financialStatus =
        settledFinancialStatus terms.paidCents (afterCompletion notices) ∧
      (run (Standing.step terms) standing notices).payment =
        some { paidFacts terms (beforeCompletion notices) with
          status := settledPaymentStatus terms.paidCents (afterCompletion notices) } ∧
      ∀ entry, entry ∈ (run (Standing.step terms) standing notices).refunds ↔
        entry ∈ standing.refunds ∨ ∃ refund ∈ recordable notices,
          entry = refundRow terms (paidFacts terms (beforeCompletion notices)).currency refund := by
  obtain ⟨split, waiting, settled⟩ := split_completion waits.once
  obtain ⟨status, financialStatus, payment⟩ :=
    run_completed terms waits.status waits.financialStatus waits.payment waiting settled
  rw [← split] at status financialStatus payment
  exact ⟨status, financialStatus, payment, fun entry =>
    run_refunds waits.status waits.financialStatus waits.payment notices waits.keyed waits.fresh payment entry⟩

/-- Two orders of processing lead to the same outcome exactly when they are compatible. -/
theorem sameOutcome_iff_compatible {standing : Standing} {processed happened : List Notice}
    (waits : Waits standing happened) (perm : processed.Perm happened) :
    SameOutcome (run (Standing.step terms) standing processed) (run (Standing.step terms) standing happened) ↔
      Compatible terms processed happened := by
  have waited := waits.perm perm
  have listed : ∀ refund ∈ recordable processed, refund ∈ happened.flatMap Notice.listed := by
    intro refund member
    exact (perm.flatMap_right Notice.listed).mem_iff.mp (recordable_listed member)
  obtain ⟨status, financialStatus, payment, refunds⟩ := waited.outcome terms
  obtain ⟨status', financialStatus', payment', refunds'⟩ := waits.outcome terms
  constructor
  · intro same
    have facts := same.payment
    rw [payment, payment'] at facts
    have facts := Option.some.inj facts
    have currency : (paidFacts terms (beforeCompletion processed)).currency =
        (paidFacts terms (beforeCompletion happened)).currency := by
      have same := congrArg PaymentFacts.currency facts
      exact same
    have facts := paidFacts_eq_iff.mp facts
    have recorded (refund : StripeRefundObj) (within : refund ∈ happened.flatMap Notice.listed) :
        refund ∈ recordable processed ↔ refund ∈ recordable happened := by
      have row := same.refunds (refundRow terms (paidFacts terms (beforeCompletion happened)).currency refund)
      rw [refunds, refunds', currency, waits.row_iff listed _ within,
        waits.row_iff (fun _ => recordable_listed) _ within] at row
      exact row
    constructor
    · rw [← settledStatus_eq_iff, ← status, ← status', same.status]
    · rw [← settledFinancialStatus_eq_iff, ← financialStatus, ← financialStatus', same.financialStatus]
    · exact settledPaymentStatus_eq_iff.mp facts.2
    · exact facts.1
    · intro refund
      constructor
      · exact fun member => (recorded refund (listed refund member)).mp member
      · exact fun member => (recorded refund (recordable_listed member)).mpr member
  · intro compatible
    have facts : ({ paidFacts terms (beforeCompletion processed) with
          status := settledPaymentStatus terms.paidCents (afterCompletion processed) } : PaymentFacts) =
        { paidFacts terms (beforeCompletion happened) with
          status := settledPaymentStatus terms.paidCents (afterCompletion happened) } :=
      paidFacts_eq_iff.mpr ⟨compatible.draft, settledPaymentStatus_eq_iff.mpr compatible.verdict⟩
    have currency : (paidFacts terms (beforeCompletion processed)).currency =
        (paidFacts terms (beforeCompletion happened)).currency := by
      have same := congrArg PaymentFacts.currency facts
      exact same
    constructor
    · rw [status, status', settledStatus_eq_iff]
      exact compatible.full
    · rw [financialStatus, financialStatus', settledFinancialStatus_eq_iff]
      exact compatible.refund
    · rw [payment, payment', facts]
    · intro entry
      rw [refunds, refunds', currency]
      simp only [compatible.recorded]

end Aicos.Settlement
