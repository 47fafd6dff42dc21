import Aicos.Connect.Service
import Aicos.Transition.Backlog

namespace Aicos.Connect

open Aicos.Commerce Aicos.Billing Aicos.Transition

/-! `ConnectService.createAccount`: the look-up, the account at Stripe and the insert are
three steps, and any number of requests of one tenant may be between them. -/

structure StripeAccount extends AccountObj where
  country : Option String
  defaultCurrency : Option String
deriving DecidableEq

/-- What Stripe is asked for. -/
structure AccountParams where
  type : String
  country : Option String
  requested : List String
  tenantId : TenantId
deriving DecidableEq

structure ConnectAccountRow extends ConnectAccount where
  country : Option String
  defaultCurrency : String
deriving DecidableEq

structure ConnectStatus where
  connected : Bool
  stripeAccountId : Option StripeAccountId
  chargesEnabled : Bool
  payoutsEnabled : Bool
  detailsSubmitted : Bool
  requirementsDue : List String
deriving DecidableEq

structure CreateConnectAccountDto where
  country : Option String
deriving DecidableEq

/-- The tenant, whether there is an API key, and the upper-casing of the Node runtime. -/
structure ConnectContext where
  tenantId : TenantId
  isApiConfigured : Bool
  toUpperCase : String → String

def toStatus (account : ConnectAccount) : ConnectStatus where
  connected := true
  stripeAccountId := some account.stripeAccountId
  chargesEnabled := account.chargesEnabled
  payoutsEnabled := account.payoutsEnabled
  detailsSubmitted := account.detailsSubmitted
  requirementsDue := account.currentlyDue

namespace ConnectContext

variable (context : ConnectContext)

/-- An empty country is left out. -/
def accountParams (dto : CreateConnectAccountDto) : AccountParams where
  type := "express"
  country := dto.country.filter fun country => country ≠ ""
  requested := ["card_payments", "transfers"]
  tenantId := context.tenantId

def newRow (account : StripeAccount) : ConnectAccountRow where
  toConnectAccount := mirrored account.toAccountObj
  country := account.country
  defaultCurrency := context.toUpperCase (account.defaultCurrency.getD "usd")

end ConnectContext

/-- What a request has done last. -/
inductive AccountPhase where
  /-- Found the tenant without an account. -/
  | unconnected (dto : CreateConnectAccountDto)
  | created (account : StripeAccount)
deriving DecidableEq

/-- The row of the tenant, its accounts at Stripe with what each was created from, the
requests, and what they have returned. -/
structure Onboarding where
  row : Option ConnectAccountRow
  accounts : List (AccountParams × StripeAccount)
  requests : Nat → Option AccountPhase
  replies : List ConnectStatus

inductive AccountAction where
  | find (request : Nat) (dto : CreateConnectAccountDto)
  | create (request : Nat) (answer : Answer) (account : StripeAccount)
  | insert (request : Nat) (answer : Answer)
  | stop (request : Nat)

namespace Onboarding

def createdIds (state : Onboarding) : List StripeAccountId :=
  state.accounts.map fun entry => entry.2.id

def enter (state : Onboarding) (request : Nat) (phase : Option AccountPhase) : Onboarding :=
  { state with requests := Function.update state.requests request phase }

def reply (state : Onboarding) (status : ConnectStatus) : Onboarding :=
  { state with replies := state.replies ++ [status] }

/-- `accounts.create`. -/
def create (context : ConnectContext) (state : Onboarding) (request : Nat) (dto : CreateConnectAccountDto)
    (account : StripeAccount) : Answer → Onboarding
  | .works => { state.enter request (some (.created account)) with
      accounts := state.accounts ++ [(context.accountParams dto, account)] }
  | .fails => state.enter request none
  | .lost => { state.enter request none with accounts := state.accounts ++ [(context.accountParams dto, account)] }

/-- `connectAccount.create`, of a tenant that has one row at most. -/
def insert (context : ConnectContext) (state : Onboarding) (request : Nat) (account : StripeAccount)
    (answer : Answer) : Onboarding :=
  if answer = .fails ∨ state.row.isSome then state.enter request none
  else
    let row := context.newRow account
    let after := { state.enter request none with row := some row }
    if answer = .works then after.reply (toStatus row.toConnectAccount) else after

/-- A read that fails ends the request before it has changed anything. -/
def step (context : ConnectContext) (state : Onboarding) : AccountAction → Onboarding
  | .find request dto =>
      match state.requests request with
      | some _ => state
      | none =>
          if context.isApiConfigured then
            match state.row with
            | some existing => state.reply (toStatus existing.toConnectAccount)
            | none => state.enter request (some (.unconnected dto))
          else state
  | .create request answer account =>
      match state.requests request with
      | some (.unconnected dto) =>
          -- Stripe gives every account an id of its own
          if account.id ∈ state.createdIds then state else state.create context request dto account answer
      | _ => state
  | .insert request answer =>
      match state.requests request with
      | some (.created account) => state.insert context request account answer
      | _ => state
  | .stop request => state.enter request none

/-- A tenant without an account. -/
def start : Onboarding where
  row := none
  accounts := []
  requests _ := none
  replies := []

end Onboarding

end Aicos.Connect
