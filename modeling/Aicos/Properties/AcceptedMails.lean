import Aicos.Queue.Notifications
import Aicos.Transition.Run

namespace Aicos.Properties

open Aicos.Commerce Aicos.Data Aicos.Queue Aicos.Transition

/-! What SMTP has accepted against what the row says.  A run that fails after its mail
was accepted marks the row FAILED, and the next one sends the mail again. -/

structure AcceptedOnce (delivery : Delivery) : Prop where
  once : delivery.accepted.length ≤ 1
  failed : ∀ row ∈ delivery.row, row.status = .failed → delivery.accepted = []

/-- The step in which SMTP takes the mail, whether or not the run hears of it. -/
def Accepts (mailer : Mailer) (delivery : Delivery) : DeliveryAction → Prop
  | .send run answer _ _ =>
      (∃ mail, delivery.runs run = some (.rendered mail)) ∧ mailer.enabled = true ∧ answer ≠ .fails
  | _ => False

/-- The step in which the row becomes FAILED. -/
def MarksFailed (delivery : Delivery) : DeliveryAction → Prop
  | .reject run answer => delivery.runs run = some .unaddressed ∧ answer ≠ .fails ∧ delivery.row.isSome
  | .recordFailed run answer =>
      (∃ reason, delivery.runs run = some (.caught reason)) ∧ answer ≠ .fails ∧ delivery.row.isSome
  | _ => False

/-- SMTP takes a mail only as the first one and for a row that is not FAILED, and a row
becomes FAILED only before a mail was taken. -/
structure InOrder (mailer : Mailer) (delivery : Delivery) (action : DeliveryAction) : Prop where
  accepts : Accepts mailer delivery action →
    delivery.accepted = [] ∧ ∀ row ∈ delivery.row, row.status ≠ .failed
  fails : MarksFailed delivery action → delivery.accepted = []

variable {mailer : Mailer} {delivery : Delivery} {action : DeliveryAction}

theorem write_accepted (delivery : Delivery) (answer : Answer) (change : NotificationRow → NotificationRow) :
    (delivery.write answer change).accepted = delivery.accepted := by
  unfold Delivery.write
  split <;> rfl

theorem write_row (delivery : Delivery) (answer : Answer) (change : NotificationRow → NotificationRow) :
    (answer ≠ .fails ∧ (delivery.write answer change).row = delivery.row.map change) ∨
      (answer = .fails ∧ (delivery.write answer change).row = delivery.row) := by
  by_cases failed : answer = .fails
  · exact .inr ⟨failed, by rw [Delivery.write, if_pos failed]⟩
  · exact .inl ⟨failed, by rw [Delivery.write, if_neg failed]⟩

/-- What a step does to the row and to the mails. -/
inductive DeliveryEffect (mailer : Mailer) (delivery : Delivery) (action : DeliveryAction) (after : Delivery) : Prop where
  | accepted (mail : Mail) (accepts : Accepts mailer delivery action) (quiet : ¬ MarksFailed delivery action)
      (mails : after.accepted = delivery.accepted ++ [mail]) (row : after.row = delivery.row)
  | failed (reason : String) (quiet : ¬ Accepts mailer delivery action) (fails : MarksFailed delivery action)
      (mails : after.accepted = delivery.accepted) (row : after.row = delivery.row.map (.markFailed reason))
  | sent (messageId : Option String) (now : Instant) (quiet : ¬ Accepts mailer delivery action)
      (calm : ¬ MarksFailed delivery action)
      (mails : after.accepted = delivery.accepted) (row : after.row = delivery.row.map (.markSent messageId now))
  | quiet (quiet : ¬ Accepts mailer delivery action) (calm : ¬ MarksFailed delivery action)
      (mails : after.accepted = delivery.accepted) (row : after.row = delivery.row)

/-- A FAILED write, by a run that comes from either of the two phases before it. -/
theorem deliveryEffect_failed {answer : Answer} (run : Nat) (reason : String) (calm : ¬ Accepts mailer delivery action)
    (marks : MarksFailed delivery action ↔ answer ≠ .fails ∧ delivery.row.isSome) :
    DeliveryEffect mailer delivery action ((delivery.enter run none).write answer (.markFailed reason)) := by
  have mails := write_accepted (delivery.enter run none) answer (.markFailed reason)
  rcases write_row (delivery.enter run none) answer (.markFailed reason) with ⟨took, row⟩ | ⟨failed, row⟩
  · cases there : delivery.row with
    | some old => exact .failed reason calm (marks.mpr ⟨took, by simp [there]⟩) mails row
    | none =>
        have same : (delivery.enter run none).row.map (.markFailed reason) = delivery.row := by
          simp [Delivery.enter, there]
        exact .quiet calm (fun marked => by simp [there] at marks; exact marks marked) mails (row.trans same)
  · exact .quiet calm (fun marked => (marks.mp marked).1 failed) mails row

theorem delivery_step_effect (mailer : Mailer) (delivery : Delivery) (action : DeliveryAction) :
    DeliveryEffect mailer delivery action (delivery.step mailer action) := by
  cases action with
  | findNotification run jobName =>
      simp only [Delivery.step]
      split
      · split <;> exact .quiet id id rfl rfl
      · exact .quiet id id rfl rfl
  | reject run answer =>
      simp only [Delivery.step]
      split
      · rename_i here
        exact deliveryEffect_failed run _ id (by simp [MarksFailed, here])
      · rename_i other
        exact .quiet id (fun marks => other marks.1) rfl rfl
  | send run answer messageId error =>
      simp only [Delivery.step]
      split
      · rename_i mail here
        by_cases enabled : mailer.enabled = true
        · rw [if_pos enabled]
          cases answer with
          | works => exact .accepted mail ⟨⟨mail, here⟩, enabled, by decide⟩ id rfl rfl
          | fails => exact .quiet (fun accepts => accepts.2.2 rfl) id rfl rfl
          | lost => exact .accepted mail ⟨⟨mail, here⟩, enabled, by decide⟩ id rfl rfl
        · rw [if_neg enabled]
          exact .quiet (fun accepts => enabled accepts.2.1) id rfl rfl
      · rename_i other
        exact .quiet (fun accepts => accepts.1.elim other) id rfl rfl
  | recordSent run now answer error =>
      simp only [Delivery.step]
      split
      · rename_i messageId here
        generalize (if answer = .works then none else some (SendPhase.caught (Delivery.failure error))) = phase
        have mails := write_accepted (delivery.enter run phase) answer (.markSent messageId now)
        rcases write_row (delivery.enter run phase) answer (.markSent messageId now) with ⟨_, row⟩ | ⟨_, row⟩
        · exact .sent messageId now id id mails row
        · exact .quiet id id mails row
      · exact .quiet id id rfl rfl
  | recordFailed run answer =>
      simp only [Delivery.step]
      split
      · rename_i reason here
        exact deliveryEffect_failed run reason id (by simp [MarksFailed, here])
      · rename_i other
        exact .quiet id (fun marks => marks.1.elim other) rfl rfl
  | stop run => exact .quiet id id rfl rfl

theorem acceptedOnce_step_iff (mailer : Mailer) (action : DeliveryAction) (once : AcceptedOnce delivery) :
    AcceptedOnce (delivery.step mailer action) ↔ InOrder mailer delivery action := by
  cases delivery_step_effect mailer delivery action with
  | accepted mail accepts calm mails row =>
      constructor
      · intro after
        have short := after.once
        rw [mails, List.length_append, List.length_singleton] at short
        have none : delivery.accepted = [] := List.length_eq_zero_iff.mp (by omega)
        refine ⟨fun _ => ⟨none, fun old there failed => ?_⟩, fun marks => absurd marks calm⟩
        have empty := after.failed old (row ▸ there) failed
        simp [mails] at empty
      · intro given
        obtain ⟨guard, _⟩ := given
        obtain ⟨none, unfailed⟩ := guard accepts
        refine ⟨by simp [mails, none], fun old there failed => ?_⟩
        exact absurd failed (unfailed old (row ▸ there))
  | failed reason calm fails mails row =>
      have marked : ∀ old ∈ delivery.row, old.markFailed reason ∈ (delivery.step mailer action).row := by
        intro old there
        rw [row, Option.mem_def.mp there]
        rfl
      obtain ⟨old, there⟩ : ∃ old, old ∈ delivery.row := by
        refine Option.isSome_iff_exists.mp ?_
        cases action with
        | reject run answer => exact fails.2.2
        | recordFailed run answer => exact fails.2.2
        | findNotification | send | recordSent | stop => exact fails.elim
      constructor
      · intro after
        have empty := after.failed _ (marked old there) rfl
        exact ⟨fun accepts => absurd accepts calm, fun _ => mails ▸ empty⟩
      · intro given
        obtain ⟨_, guard⟩ := given
        have none := mails.trans (guard fails)
        exact ⟨by simp [none], fun _ _ _ => none⟩
  | sent messageId now quiet calm mails row =>
      refine iff_of_true ⟨mails ▸ once.once, fun new there failed => ?_⟩
        ⟨fun accepts => absurd accepts quiet, fun fails => absurd fails calm⟩
      rw [row] at there
      obtain ⟨old, _, rfl⟩ := Option.map_eq_some_iff.mp there
      cases failed
  | quiet quiet calm mails row =>
      refine iff_of_true ⟨mails ▸ once.once, fun old there failed => ?_⟩
        ⟨fun accepts => absurd accepts quiet, fun fails => absurd fails calm⟩
      rw [mails]
      exact once.failed old (row ▸ there) failed

section FirstAttempt

/-- One run at a time and none after a failure, every acceptance answered, and SENT recorded after it. -/
def FirstAttempt (delivery : Delivery) : DeliveryAction → Prop
  | .findNotification _ _ => (∀ run, delivery.runs run = none) ∧ ∀ row ∈ delivery.row, row.status ≠ .failed
  | .send _ answer _ _ => answer ≠ .lost
  | .recordSent _ _ answer _ => answer = .works
  | .stop run => ∀ messageId, delivery.runs run ≠ some (.sent messageId)
  | .reject _ _ | .recordFailed _ _ => True

/-- A mail that was accepted is on record, or in the hands of the run about to record it. -/
structure Orderly (delivery : Delivery) : Prop where
  alone : ∀ run other, delivery.runs run ≠ none → delivery.runs other ≠ none → run = other
  rendered : ∀ run mail, delivery.runs run = some (.rendered mail) →
    delivery.accepted = [] ∧ ∀ row ∈ delivery.row, row.status ≠ .failed
  unaddressed : ∀ run, delivery.runs run = some .unaddressed → delivery.accepted = []
  caught : ∀ run reason, delivery.runs run = some (.caught reason) → delivery.accepted = []
  onRecord : delivery.accepted ≠ [] →
    (∃ run messageId, delivery.runs run = some (.sent messageId)) ∨ ∀ row ∈ delivery.row, row.status = .sent

theorem Orderly.inOrder (orderly : Orderly delivery) (action : DeliveryAction) : InOrder mailer delivery action := by
  constructor
  · intro accepts
    cases action with
    | send run answer messageId error =>
        obtain ⟨⟨mail, here⟩, _, _⟩ := accepts
        exact orderly.rendered run mail here
    | findNotification | reject | recordSent | recordFailed | stop => exact accepts.elim
  · intro fails
    cases action with
    | reject run answer => exact orderly.unaddressed run fails.1
    | recordFailed run answer =>
        obtain ⟨⟨reason, here⟩, _, _⟩ := fails
        exact orderly.caught run reason here
    | findNotification | send | recordSent | stop => exact fails.elim

/-- The only run under way goes on to a phase that is in order. -/
theorem orderly_of_only {after : Delivery} (run : Nat) (phase : Option SendPhase)
    (runs : ∀ other, after.runs other = if other = run then phase else none)
    (rendered : ∀ mail, phase = some (.rendered mail) →
      after.accepted = [] ∧ ∀ row ∈ after.row, row.status ≠ .failed)
    (unaddressed : phase = some .unaddressed → after.accepted = [])
    (caught : ∀ reason, phase = some (.caught reason) → after.accepted = [])
    (onRecord : after.accepted ≠ [] →
      (∃ messageId, phase = some (.sent messageId)) ∨ ∀ row ∈ after.row, row.status = .sent) :
    Orderly after := by
  have only {other : Nat} {there : SendPhase} (here : after.runs other = some there) : phase = some there := by
    rw [runs] at here
    split at here
    · exact here
    · cases here
  have mine {other : Nat} (busy : after.runs other ≠ none) : other = run := by
    by_contra apart
    exact busy (by rw [runs, if_neg apart])
  refine ⟨fun first second busy occupied => (mine busy).trans (mine occupied).symm,
    fun _ mail here => rendered mail (only here), fun _ here => unaddressed (only here),
    fun _ reason here => caught reason (only here), fun accepted => ?_⟩
  refine (onRecord accepted).imp_left ?_
  intro given
  obtain ⟨messageId, sent⟩ := given
  exact ⟨run, messageId, by rw [runs, if_pos rfl, sent]⟩

theorem Orderly.enter_runs (orderly : Orderly delivery) {run : Nat} (busy : delivery.runs run ≠ none)
    (phase : Option SendPhase) (other : Nat) :
    (delivery.enter run phase).runs other = if other = run then phase else none := by
  by_cases same : other = run
  · subst same
    rw [if_pos rfl]
    exact Function.update_self ..
  · rw [if_neg same]
    refine (Function.update_of_ne same ..).trans ?_
    by_contra occupied
    exact same (orderly.alone other run occupied busy)

theorem write_runs (delivery : Delivery) (answer : Answer) (change : NotificationRow → NotificationRow) :
    (delivery.write answer change).runs = delivery.runs := by
  unfold Delivery.write
  split <;> rfl

/-- A run that ends with nothing accepted leaves nothing to account for. -/
theorem orderly_of_ended (orderly : Orderly delivery) {run : Nat} (busy : delivery.runs run ≠ none) (answer : Answer)
    (change : NotificationRow → NotificationRow) (none : delivery.accepted = []) :
    Orderly ((delivery.enter run Option.none).write answer change) := by
  refine orderly_of_only run Option.none (fun other => ?_) nofun nofun nofun fun accepted => ?_
  · rw [write_runs]
    exact orderly.enter_runs busy Option.none other
  · exact absurd ((write_accepted (delivery.enter run Option.none) answer change).trans none) accepted

theorem Orderly.find (orderly : Orderly delivery) {row : NotificationRow} (there : delivery.row = some row)
    (quiet : ∀ run, delivery.runs run = none) (unfailed : row.status ≠ .failed) (run : Nat) :
    Orderly (delivery.enter run (Delivery.firstPhase mailer row)) := by
  have runs (other : Nat) : (delivery.enter run (Delivery.firstPhase mailer row)).runs other =
      if other = run then Delivery.firstPhase mailer row else none := by
    rw [← quiet other]
    exact Function.update_apply ..
  have recorded (accepted : delivery.accepted ≠ []) : row.status = .sent := by
    rcases orderly.onRecord accepted with ⟨other, messageId, here⟩ | sent
    · cases (quiet other).symm.trans here
    · exact sent row there
  have nothing {phase : SendPhase} (first : Delivery.firstPhase mailer row = some phase) : delivery.accepted = [] := by
    by_contra accepted
    rw [Delivery.firstPhase, if_pos (.inl (recorded accepted))] at first
    cases first
  refine orderly_of_only run _ runs (fun mail here => ⟨nothing here, fun old found => ?_⟩) nothing
    (fun reason here => nothing here) fun accepted => .inr fun old found => ?_
  · obtain rfl := Option.some.inj (there.symm.trans found)
    exact unfailed
  · obtain rfl := Option.some.inj (there.symm.trans found)
    exact recorded accepted

theorem orderly_step (orderly : Orderly delivery) (firstAttempt : FirstAttempt delivery action) :
    Orderly (delivery.step mailer action) := by
  cases action with
  | findNotification run jobName =>
      obtain ⟨quiet, unfailed⟩ := firstAttempt
      simp only [Delivery.step]
      split
      · rename_i row idle there
        split
        · exact orderly.find there quiet (unfailed row there) run
        · exact orderly
      · exact orderly
  | reject run answer =>
      simp only [Delivery.step]
      split
      · rename_i here
        exact orderly_of_ended orderly (by simp [here]) _ _ (orderly.unaddressed run here)
      · exact orderly
  | send run answer messageId error =>
      simp only [Delivery.step]
      split
      · rename_i mail here
        obtain ⟨none, _⟩ := orderly.rendered run mail here
        have busy : delivery.runs run ≠ Option.none := by simp [here]
        split
        · cases answer with
          | works =>
              exact orderly_of_only run _ (orderly.enter_runs busy _) nofun nofun nofun fun _ => .inl ⟨messageId, rfl⟩
          | fails =>
              exact orderly_of_only run _ (orderly.enter_runs busy _) nofun nofun (fun _ _ => none)
                fun accepted => absurd none accepted
          | lost => exact absurd rfl firstAttempt
        · exact orderly_of_only run _ (orderly.enter_runs busy _) nofun nofun nofun fun accepted => absurd none accepted
      · exact orderly
  | recordSent run now answer error =>
      obtain rfl : answer = .works := firstAttempt
      simp only [Delivery.step]
      split
      · rename_i messageId here
        refine orderly_of_only run none (orderly.enter_runs (by simp [here]) none) nofun nofun nofun fun _ => .inr ?_
        intro row there
        obtain ⟨old, _, rfl⟩ := Option.map_eq_some_iff.mp there
        rfl
      · exact orderly
  | recordFailed run answer =>
      simp only [Delivery.step]
      split
      · rename_i reason here
        exact orderly_of_ended orderly (by simp [here]) _ _ (orderly.caught run reason here)
      · exact orderly
  | stop run =>
      by_cases idle : delivery.runs run = none
      · have same : delivery.step mailer (.stop run) = delivery := by
          simp only [Delivery.step, Delivery.enter, ← idle, Function.update_eq_self]
        rw [same]
        exact orderly
      · refine orderly_of_only run none (orderly.enter_runs idle none) nofun nofun nofun fun accepted => ?_
        refine .inr ((orderly.onRecord accepted).resolve_left ?_)
        intro given
        obtain ⟨other, messageId, sent⟩ := given
        obtain rfl := orderly.alone other run (by simp [sent]) idle
        exact firstAttempt messageId sent

/-- What it takes for the order to hold: no overlap, no retry after FAILED, no lost answer
and no end between the mail and its record. -/
theorem accepted_once_of_first_attempt (mailer : Mailer) (row : Option NotificationRow) {actions : List DeliveryAction}
    (firstAttempt : Along (Delivery.step mailer) FirstAttempt (.start row) actions) :
    Visits (Delivery.step mailer) AcceptedOnce (.start row) actions := by
  have orderly : Orderly (.start row) := ⟨nofun, nofun, nofun, nofun, nofun⟩
  have once : AcceptedOnce (.start row) := ⟨Nat.zero_le _, fun _ _ _ => rfl⟩
  have preserved (delivery : Delivery) (action : DeliveryAction) (both : Orderly delivery ∧ AcceptedOnce delivery)
      (guarded : FirstAttempt delivery action) :
      Orderly (delivery.step mailer action) ∧ AcceptedOnce (delivery.step mailer action) :=
    ⟨orderly_step both.1 guarded, (acceptedOnce_step_iff mailer action both.2).mpr (both.1.inOrder action)⟩
  have both := visits_of_along preserved ⟨orderly, once⟩ firstAttempt
  exact both.mono fun _ both => both.2

end FirstAttempt

/-- Over every schedule of runs on a row: its mail is accepted once at most and never for a
row that says FAILED, exactly as long as every acceptance and every FAILED come in order;
and they do where there is but a first attempt. -/
theorem accepted_once_iff_in_order (mailer : Mailer) (row : Option NotificationRow) (actions : List DeliveryAction) :
    (Visits (Delivery.step mailer) AcceptedOnce (.start row) actions ↔
        Along (Delivery.step mailer) (InOrder mailer) (.start row) actions) ∧
      (Along (Delivery.step mailer) FirstAttempt (.start row) actions →
        Visits (Delivery.step mailer) AcceptedOnce (.start row) actions) := by
  have framed (delivery : Delivery) (action : DeliveryAction) (_ : True) (_ : True) : True := trivial
  refine ⟨?_, accepted_once_of_first_attempt mailer row⟩
  exact visits_iff_along framed (fun _ action _ _ once => acceptedOnce_step_iff mailer action once)
    (fun _ _ => trivial) trivial ⟨Nat.zero_le _, fun _ _ _ => rfl⟩

section Resent

def smtp : Mailer where
  enabled := true
  renderTemplate _ _ _ := some ⟨"Return for order #1001 approved", "<p>Approved</p>"⟩

def pendingRow : NotificationRow where
  id := 1
  channel := .email
  status := .pending
  template := "return_approved"
  toAddress := some "buyer@example.com"
  subject := none
  payload := .object []
  refType := none
  refId := none
  providerMessageId := none
  sentAt := none
  failureReason := none

/-- The mail goes out, its record is not committed, and the next attempt sends it again. -/
def resent : List DeliveryAction :=
  [.findNotification 1 "notification.send", .send 1 .works (some "m1") none, .recordSent 1 10 .fails none,
    .recordFailed 1 .works, .findNotification 2 "notification.send", .send 2 .works (some "m2") none]

theorem accepted_again_after_failed_record :
    ¬ Visits (Delivery.step smtp) AcceptedOnce (.start (some pendingRow)) resent := by
  intro visits
  have twice : (run (Delivery.step smtp) (.start (some pendingRow)) resent).accepted.length = 2 := by decide
  have once := visits.last.once
  omega

end Resent

end Aicos.Properties
