import Aicos.Billing.Processor
import Mathlib.Logic.Function.Basic

namespace Aicos.Connect

open Aicos.Commerce Aicos.Billing

/-! `ConnectService` and the worker around the `ConnectAccount` of one tenant, with the
account at Stripe: every change there emits an event, the worker processes each event
at least once and in any order, and a refresh reads Stripe in one step and writes the
mirror in a later one. -/

abbrev RefreshId := Nat

/-- What the mirror keeps of an account. -/
def mirrored (account : AccountObj) : ConnectAccount where
  stripeAccountId := account.id
  chargesEnabled := account.chargesEnabled
  payoutsEnabled := account.payoutsEnabled
  detailsSubmitted := account.detailsSubmitted
  currentlyDue := account.currentlyDue.getD []
  pastDue := account.pastDue.getD []
  disabledReason := account.disabledReason

/-- `syncFromStripe`: the row of the tenant, whichever account it names. -/
def syncFromStripe (account : AccountObj) (db : Db) : Tx Db :=
  match db.connectAccount with
  | none => .error (.constraint .recordNotFound)
  | some row => .ok { db with
      connectAccount := some { mirrored account with stripeAccountId := row.stripeAccountId } }

structure AccountEvent where
  id : EventId
  account : AccountObj
deriving DecidableEq

/-- The `stripe.event` job of an event; no row gets a key or a time from it. -/
def AccountEvent.job (event : AccountEvent) : StripeJob where
  event := ⟨event.id, .accountUpdated event.account⟩
  paymentId := 0
  now := 0

/-- `stripe` is the account as Stripe has it, `emitted` its events, the latest first,
and `unprocessed` those the worker has not processed once. -/
structure Desk where
  stripe : AccountObj
  emitted : List AccountEvent
  unprocessed : List EventId
  worker : Worker
  refreshes : RefreshId → Option AccountObj

inductive ConnectAction where
  | emit (id : EventId) (account : AccountObj)
  | deliver (id : EventId) (crash : Bool)
  | expire (id : EventId)
  | retrieve (refresh : RefreshId)
  | store (refresh : RefreshId)
  | giveUp (refresh : RefreshId)

namespace Desk

def findEvent (desk : Desk) (id : EventId) : Option AccountEvent :=
  desk.emitted.find? fun event => event.id = id

/-- The account changes, under the same id and metadata, and an event tells of it. -/
def emit (desk : Desk) (id : EventId) (account : AccountObj) : Desk :=
  let changed := { account with id := desk.stripe.id, metadata := desk.stripe.metadata }
  { desk with
    stripe := changed
    emitted := ⟨id, changed⟩ :: desk.emitted
    unprocessed := id :: desk.unprocessed }

def enter (desk : Desk) (refresh : RefreshId) (account : Option AccountObj) : Desk :=
  { desk with refreshes := Function.update desk.refreshes refresh account }

def step (desk : Desk) : ConnectAction → Desk
  | .emit id account =>
      -- Stripe gives every event an id of its own
      if (desk.findEvent id).isSome ∨ id ∈ desk.worker.done then desk else desk.emit id account
  | .deliver id crash =>
      match desk.findEvent id with
      | none => desk
      | some event => { desk with
          worker := process event.job crash desk.worker
          unprocessed := desk.unprocessed.filter fun other => other ≠ id }
  | .expire id => { desk with worker := { desk.worker with done := desk.worker.done.filter fun other => other ≠ id } }
  | .retrieve refresh =>
      -- `getStatus` asks Stripe only where the tenant has an account
      match desk.refreshes refresh, desk.worker.db.connectAccount with
      | none, some _ => desk.enter refresh (some desk.stripe)
      | _, _ => desk
  | .store refresh =>
      match desk.refreshes refresh with
      | none => desk
      | some account =>
          match syncFromStripe account desk.worker.db with
          | .ok db => { desk with worker := { desk.worker with db } }.enter refresh none
          | .error _ => desk.enter refresh none
  | .giveUp refresh => desk.enter refresh none

end Desk

end Aicos.Connect
