import Aicos.Queue.Producers
import Mathlib.Logic.Function.Basic

namespace Aicos.Queue

open Aicos.Commerce Aicos.Data Aicos.Transition

/-! `NotificationsProcessor`: any number of runs on one Notification row, each stopping
wherever it likes.  The mail is sent between two transactions, and what became of it is
known to the sending run alone until the second one is committed. -/

structure NotificationRow extends Notification where
  providerMessageId : Option String
  sentAt : Option Instant
  failureReason : Option String

structure RenderedEmail where
  subject : String
  html : String
deriving DecidableEq

structure Mail where
  toAddress : String
  subject : String
  html : String
deriving DecidableEq

/-- `MailService` and the templates.  Without a transporter a mail is only logged; a
template that throws renders nothing. -/
structure Mailer where
  enabled : Bool
  renderTemplate : String → Json → Option String → Option RenderedEmail

def NotificationRow.markSent (messageId : Option String) (now : Instant) (row : NotificationRow) : NotificationRow :=
  { row with status := .sent, sentAt := some now, providerMessageId := messageId }

def NotificationRow.markFailed (reason : String) (row : NotificationRow) : NotificationRow :=
  { row with status := .failed, failureReason := some reason }

/-- What a run has done last. -/
inductive SendPhase where
  /-- Read a row without a destination, and not marked it yet. -/
  | unaddressed
  | rendered (mail : Mail)
  | sent (messageId : Option String)
  /-- In the `catch` block, which a failure of the mail and one of the row both reach. -/
  | caught (reason : String)
deriving DecidableEq

/-- `accepted` are the mails that SMTP has taken for the row. -/
structure Delivery where
  row : Option NotificationRow
  runs : Nat → Option SendPhase
  accepted : List Mail

inductive DeliveryAction where
  | findNotification (run : Nat) (jobName : String)
  | reject (run : Nat) (answer : Answer)
  | send (run : Nat) (answer : Answer) (messageId : Option String) (error : Option String)
  | recordSent (run : Nat) (now : Instant) (answer : Answer) (error : Option String)
  | recordFailed (run : Nat) (answer : Answer)
  | stop (run : Nat)

namespace Delivery

def enter (delivery : Delivery) (run : Nat) (phase : Option SendPhase) : Delivery :=
  { delivery with runs := Function.update delivery.runs run phase }

/-- The transaction that updates the row. -/
def write (delivery : Delivery) (answer : Answer) (change : NotificationRow → NotificationRow) : Delivery :=
  if answer = .fails then delivery else { delivery with row := delivery.row.map change }

def accept (delivery : Delivery) (mail : Mail) : Delivery :=
  { delivery with accepted := delivery.accepted ++ [mail] }

/-- `err instanceof Error ? err.message : 'send failed'`. -/
def failure (error : Option String) : String :=
  error.getD "send failed"

variable (mailer : Mailer)

/-- Where a run goes that has read the row; a template that throws ends it outside the `try`. -/
def firstPhase (n : NotificationRow) : Option SendPhase :=
  if n.status = .sent ∨ n.status = .delivered then none
  else
    match n.toAddress with
    | none | some "" => some .unaddressed
    | some toAddress =>
        (mailer.renderTemplate n.template n.payload n.subject).map fun rendered =>
          .rendered { toAddress, subject := n.subject.getD rendered.subject, html := rendered.html }

def step (delivery : Delivery) : DeliveryAction → Delivery
  | .findNotification run jobName =>
      match delivery.runs run, delivery.row with
      | none, some n => if jobName = "notification.send" then delivery.enter run (firstPhase mailer n) else delivery
      | _, _ => delivery
  | .reject run answer =>
      match delivery.runs run with
      | some .unaddressed => (delivery.enter run none).write answer (.markFailed "no destination address")
      | _ => delivery
  | .send run answer messageId error =>
      match delivery.runs run with
      | some (.rendered mail) =>
          if mailer.enabled then
            match answer with
            | .works => (delivery.enter run (some (.sent messageId))).accept mail
            | .fails => delivery.enter run (some (.caught (failure error)))
            | .lost => (delivery.enter run (some (.caught (failure error)))).accept mail
          else delivery.enter run (some (.sent none))
      | _ => delivery
  | .recordSent run now answer error =>
      match delivery.runs run with
      | some (.sent messageId) =>
          (delivery.enter run (if answer = .works then none else some (.caught (failure error)))).write answer
            (.markSent messageId now)
      | _ => delivery
  | .recordFailed run answer =>
      match delivery.runs run with
      | some (.caught reason) => (delivery.enter run none).write answer (.markFailed reason)
      | _ => delivery
  | .stop run => delivery.enter run none

def start (row : Option NotificationRow) : Delivery :=
  { row, runs := fun _ => none, accepted := [] }

end Delivery

end Aicos.Queue
