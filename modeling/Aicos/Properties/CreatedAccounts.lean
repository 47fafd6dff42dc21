import Aicos.Connect.Accounts
import Aicos.Transition.Run

namespace Aicos.Properties

open Aicos.Billing Aicos.Commerce Aicos.Connect Aicos.Transition

/-! The accounts that a tenant gets at Stripe.  Nothing stands between the look-up and the
creation, and an account that is not recorded is not known of again. -/

def InRow (state : Onboarding) (id : StripeAccountId) : Prop :=
  ∃ row ∈ state.row, row.stripeAccountId = id

/-- A request has it and is about to record it. -/
def InHand (state : Onboarding) (id : StripeAccountId) : Prop :=
  ∃ request account, state.requests request = some (.created account) ∧ account.id = id

structure SingleAccount (state : Onboarding) : Prop where
  once : state.createdIds.length ≤ 1
  kept : ∀ id ∈ state.createdIds, InRow state id ∨ InHand state id

/-- No request is under way. -/
def AtRest (state : Onboarding) : Prop :=
  ∀ request, state.requests request = none

/-- An account is created only as the first one and with its answer coming, and the
request that has it goes on to insert it. -/
def KeepsAccount (state : Onboarding) : AccountAction → Prop
  | .find _ _ => True
  | .create request answer account => ∀ dto, state.requests request = some (.unconnected dto) →
      account.id ∉ state.createdIds → answer ≠ .fails → state.createdIds = [] ∧ answer = .works
  | .insert request answer => ∀ account, state.requests request = some (.created account) →
      answer ≠ .fails ∧ state.row = none
  | .stop request => ∀ account, state.requests request ≠ some (.created account)

/-- Every account is recorded or in hand at most once. -/
structure AccountsApart (state : Onboarding) : Prop where
  row : ∀ row ∈ state.row, row.stripeAccountId ∈ state.createdIds
  held : ∀ request account, state.requests request = some (.created account) →
    account.id ∈ state.createdIds ∧ ¬ InRow state account.id
  apart : ∀ request other account copy, state.requests request = some (.created account) →
    state.requests other = some (.created copy) → account.id = copy.id → request = other

variable {context : ConnectContext} {state : Onboarding} {request : Nat} {account : StripeAccount}

theorem enter_requests (state : Onboarding) (request : Nat) (phase : Option AccountPhase) (other : Nat) :
    (state.enter request phase).requests other = if other = request then phase else state.requests other :=
  Function.update_apply ..

section Steps

/-- A request that leaves its phase for one without an account. -/
theorem AccountsApart.leave (apart : AccountsApart state) (request : Nat) (phase : Option AccountPhase)
    (empty : ∀ account, phase ≠ some (.created account)) : AccountsApart (state.enter request phase) := by
  have before {other : Nat} {account : StripeAccount}
      (here : (state.enter request phase).requests other = some (.created account)) :
      state.requests other = some (.created account) := by
    rw [enter_requests] at here
    split at here
    · exact absurd here (empty account)
    · exact here
  exact ⟨apart.row, fun other account here => apart.held other account (before here),
    fun first second account copy here there => apart.apart first second account copy (before here) (before there)⟩

/-- An account under a new id that no request has. -/
theorem AccountsApart.append (apart : AccountsApart state) (entry : AccountParams × StripeAccount) :
    AccountsApart { state with accounts := state.accounts ++ [entry] } := by
  have more {id : StripeAccountId} (member : id ∈ state.createdIds) :
      id ∈ Onboarding.createdIds { state with accounts := state.accounts ++ [entry] } := by
    simp only [Onboarding.createdIds, List.map_append, List.mem_append]
    exact .inl member
  exact ⟨fun row there => more (apart.row row there),
    fun other account here => ⟨more (apart.held other account here).1, (apart.held other account here).2⟩, apart.apart⟩

theorem AccountsApart.take (apart : AccountsApart state) (params : AccountParams) (fresh : account.id ∉ state.createdIds)
    (request : Nat) :
    AccountsApart { state.enter request (some (.created account)) with
      accounts := state.accounts ++ [(params, account)] } := by
  have grown := apart.append (params, account)
  have own : account.id ∈ Onboarding.createdIds { state with accounts := state.accounts ++ [(params, account)] } := by
    simp [Onboarding.createdIds]
  have unrecorded : ¬ InRow state account.id := by
    intro given
    obtain ⟨row, there, same⟩ := given
    exact fresh (same ▸ apart.row row there)
  have unheld {other : Nat} {copy : StripeAccount} (here : state.requests other = some (.created copy)) :
      account.id ≠ copy.id := by
    intro same
    exact fresh (same ▸ (apart.held other copy here).1)
  refine ⟨grown.row, fun other copy here => ?_, fun first second one two here there same => ?_⟩
  · change (state.enter request (some (.created account))).requests other = _ at here
    rw [enter_requests] at here
    split at here
    · cases here
      exact ⟨own, unrecorded⟩
    · exact grown.held other copy here
  · change (state.enter request (some (.created account))).requests first = _ at here
    change (state.enter request (some (.created account))).requests second = _ at there
    rw [enter_requests] at here there
    split at here
    · rename_i mine
      split at there
      · rename_i own
        exact mine.trans own.symm
      · cases here
        exact absurd same (unheld there)
    · split at there
      · cases there
        exact absurd same.symm (unheld here)
      · exact apart.apart first second one two here there same

theorem AccountsApart.record (apart : AccountsApart state) (here : state.requests request = some (.created account)) :
    AccountsApart { state.enter request none with row := some (context.newRow account) } := by
  have left := apart.leave request none (by simp)
  refine ⟨?_, fun other copy there => ⟨(left.held other copy there).1, ?_⟩, left.apart⟩
  · rintro row ⟨⟩
    exact (apart.held request account here).1
  · rintro ⟨row, ⟨⟩, same⟩
    change (state.enter request none).requests other = _ at there
    rw [enter_requests] at there
    split at there
    · cases there
    · rename_i other'
      exact other' (apart.apart other request copy account there here same.symm)

theorem accountsApart_create (apart : AccountsApart state) (fresh : account.id ∉ state.createdIds)
    (dto : CreateConnectAccountDto) (answer : Answer) :
    AccountsApart (state.create context request dto account answer) := by
  cases answer with
  | works => exact apart.take (context.accountParams dto) fresh request
  | fails => exact apart.leave request none (by simp)
  | lost => exact (apart.leave request none (by simp)).append (context.accountParams dto, account)

theorem accountsApart_insert (apart : AccountsApart state) (here : state.requests request = some (.created account))
    (answer : Answer) : AccountsApart (state.insert context request account answer) := by
  unfold Onboarding.insert
  split
  · exact apart.leave request none (by simp)
  · have recorded : AccountsApart { state.enter request none with row := some (context.newRow account) } :=
      apart.record here
    dsimp only
    split
    · exact ⟨recorded.row, recorded.held, recorded.apart⟩
    · exact recorded

theorem accountsApart_step (context : ConnectContext) (action : AccountAction) (apart : AccountsApart state) :
    AccountsApart (state.step context action) := by
  cases action with
  | find request dto =>
      simp only [Onboarding.step]
      split
      · exact apart
      · split
        · split
          · exact ⟨apart.row, apart.held, apart.apart⟩
          · exact apart.leave request _ (by simp)
        · exact apart
  | create request answer account =>
      simp only [Onboarding.step]
      split
      · split
        · exact apart
        · exact accountsApart_create apart ‹_› _ answer
      · exact apart
  | insert request answer =>
      simp only [Onboarding.step]
      split
      · exact accountsApart_insert apart ‹_› answer
      · exact apart
  | stop request => exact apart.leave request none (by simp)

/-- What the requests have in hand, but for one that has nothing, stays there. -/
theorem InHand.enter {id : StripeAccountId} (held : InHand state id) (request : Nat) (phase : Option AccountPhase)
    (empty : ∀ account, state.requests request ≠ some (.created account)) : InHand (state.enter request phase) id := by
  obtain ⟨other, copy, here, same⟩ := held
  refine ⟨other, copy, ?_, same⟩
  rw [enter_requests, if_neg]
  · exact here
  · rintro rfl
    exact empty copy here

/-- A request that ends takes the account with it that it had in hand. -/
theorem singleAccount_leave_iff (apart : AccountsApart state) (single : SingleAccount state) (request : Nat) :
    SingleAccount (state.enter request none) ↔ ∀ account, state.requests request ≠ some (.created account) := by
  constructor
  · intro after account here
    obtain ⟨there, unrecorded⟩ := apart.held request account here
    rcases after.kept account.id there with recorded | ⟨other, copy, held, same⟩
    · exact unrecorded recorded
    · rw [enter_requests] at held
      split at held
      · cases held
      · rename_i mine
        exact mine (apart.apart other request copy account held here same)
  · intro empty
    exact ⟨single.once, fun id there => (single.kept id there).imp_right fun held => held.enter request none empty⟩

/-- An account that Stripe creates has to be the first, and its answer has to come. -/
theorem singleAccount_create_iff (apart : AccountsApart state) (single : SingleAccount state)
    {old : CreateConnectAccountDto} (here : state.requests request = some (.unconnected old))
    (fresh : account.id ∉ state.createdIds) (dto : CreateConnectAccountDto) (answer : Answer) :
    SingleAccount (state.create context request dto account answer) ↔
      (answer ≠ .fails → state.createdIds = [] ∧ answer = .works) := by
  have empty (account : StripeAccount) : state.requests request ≠ some (.created account) := by simp [here]
  have ids (state : Onboarding) : Onboarding.createdIds { state with
      accounts := state.accounts ++ [(context.accountParams dto, account)] } = state.createdIds ++ [account.id] := by
    simp [Onboarding.createdIds]
  cases answer with
  | works =>
      have created : (state.create context request dto account .works).createdIds = state.createdIds ++ [account.id] :=
        ids _
      constructor
      · intro after _
        have short := after.once
        rw [created, List.length_append, List.length_singleton] at short
        exact ⟨List.length_eq_zero_iff.mp (by omega), rfl⟩
      · intro guard
        obtain ⟨first, _⟩ := guard nofun
        refine ⟨by simp [created, first], fun id there => .inr ⟨request, account, ?_, ?_⟩⟩
        · exact (enter_requests state request (some (.created account)) request).trans (if_pos rfl)
        · rw [created, first] at there
          exact (List.mem_singleton.mp there).symm
  | fails => exact iff_of_true ((singleAccount_leave_iff apart single request).mpr empty) fun failed => absurd rfl failed
  | lost =>
      refine iff_of_false (fun after => ?_) fun guard => by cases (guard nofun).2
      have created : (state.create context request dto account .lost).createdIds = state.createdIds ++ [account.id] :=
        ids _
      rcases after.kept account.id (by simp [created]) with ⟨row, there, same⟩ | ⟨other, copy, held, same⟩
      · exact fresh (same ▸ apart.row row there)
      · change (state.enter request none).requests other = _ at held
        rw [enter_requests] at held
        split at held
        · cases held
        · exact fresh (same ▸ (apart.held other copy held).1)

/-- The request with an account in hand has to record it. -/
theorem singleAccount_insert_iff (apart : AccountsApart state) (single : SingleAccount state)
    (here : state.requests request = some (.created account)) (answer : Answer) :
    SingleAccount (state.insert context request account answer) ↔ answer ≠ .fails ∧ state.row = none := by
  unfold Onboarding.insert
  by_cases ends : answer = .fails ∨ state.row.isSome
  · rw [if_pos ends]
    refine iff_of_false (fun after => ?_) ?_
    · exact (singleAccount_leave_iff apart single request).mp after account here
    · intro given
      obtain ⟨took, free⟩ := given
      exact ends.elim took fun row => by simp [free] at row
  · rw [if_neg ends]
    rw [not_or, Option.not_isSome_iff_eq_none] at ends
    refine iff_of_true ?_ ends
    obtain ⟨first, own⟩ : ∃ first, state.createdIds = [first] :=
      List.length_eq_one_iff.mp (single.once.antisymm (List.length_pos_of_mem (apart.held request account here).1))
    have mine : account.id = first := List.mem_singleton.mp (own ▸ (apart.held request account here).1)
    have recorded : SingleAccount { state.enter request none with row := some (context.newRow account) } := by
      refine ⟨single.once, fun id there => .inl ⟨_, rfl, ?_⟩⟩
      exact mine.trans (List.mem_singleton.mp (own ▸ there)).symm
    dsimp only
    split
    · exact ⟨recorded.once, recorded.kept⟩
    · exact recorded

end Steps

theorem singleAccount_step_iff (context : ConnectContext) (action : AccountAction) (apart : AccountsApart state)
    (single : SingleAccount state) :
    SingleAccount (state.step context action) ↔ KeepsAccount state action := by
  cases action with
  | find request dto =>
      refine iff_of_true ?_ trivial
      simp only [Onboarding.step]
      split
      · exact single
      · rename_i idle
        split
        · split
          · exact ⟨single.once, single.kept⟩
          · refine ⟨single.once, fun id there => (single.kept id there).imp_right fun held => ?_⟩
            exact held.enter request _ (by simp [idle])
        · exact single
  | create request answer account =>
      simp only [Onboarding.step, KeepsAccount]
      split
      · rename_i dto here
        split
        · rename_i known
          exact iff_of_true single fun _ _ fresh => absurd known fresh
        · rename_i fresh
          rw [singleAccount_create_iff apart single here fresh dto answer]
          exact ⟨fun guard _ _ _ => guard, fun guard => guard dto here fresh⟩
      · rename_i other
        exact iff_of_true single fun dto here => absurd here (other dto)
  | insert request answer =>
      simp only [Onboarding.step, KeepsAccount]
      split
      · rename_i account here
        rw [singleAccount_insert_iff apart single here answer]
        exact ⟨fun guard _ _ => guard, fun guard => guard account here⟩
      · rename_i other
        exact iff_of_true single fun account here => absurd here (other account)
  | stop request => exact singleAccount_leave_iff apart single request

section Undisturbed

/-- A request that runs with no other beside it: it looks, and what it finds missing it
creates and records, unless it stops or Stripe fails before there is an account. -/
inductive LoneRequest where
  | finished (request : Nat) (dto : CreateConnectAccountDto) (account : StripeAccount)
  | refused (request : Nat) (dto : CreateConnectAccountDto) (account : StripeAccount)
  | stopped (request : Nat) (dto : CreateConnectAccountDto)

def LoneRequest.actions : LoneRequest → List AccountAction
  | .finished request dto account => [.find request dto, .create request .works account, .insert request .works]
  | .refused request dto account => [.find request dto, .create request .fails account]
  | .stopped request dto => [.find request dto, .stop request]

/-- Between two such requests. -/
structure Settled (state : Onboarding) : Prop where
  rest : AtRest state
  recorded : state.row = none → state.createdIds = []

theorem AtRest.left (rest : AtRest state) (request : Nat) (phase : Option AccountPhase) :
    AtRest ((state.enter request phase).enter request none) := by
  intro other
  rw [enter_requests, enter_requests]
  split
  · rfl
  · exact rest other

theorem Settled.idle (settled : Settled state) (request : Nat) (phase : AccountPhase) :
    state.requests request ≠ some phase := by
  rw [settled.rest request]
  exact nofun

/-- A request that is not under way creates nothing. -/
theorem Settled.create (settled : Settled state) (context : ConnectContext) (request : Nat) (answer : Answer)
    (account : StripeAccount) :
    KeepsAccount state (.create request answer account) ∧
      state.step context (.create request answer account) = state :=
  ⟨fun _ here => absurd here (settled.idle request _), by simp only [Onboarding.step, settled.rest request]⟩

/-- Nor does it record anything. -/
theorem Settled.insert (settled : Settled state) (context : ConnectContext) (request : Nat) (answer : Answer) :
    KeepsAccount state (.insert request answer) ∧ state.step context (.insert request answer) = state :=
  ⟨fun _ here => absurd here (settled.idle request _), by simp only [Onboarding.step, settled.rest request]⟩

/-- Nor does it lose anything by its stop. -/
theorem Settled.stop (settled : Settled state) (context : ConnectContext) (request : Nat) :
    KeepsAccount state (.stop request) ∧ Settled (state.step context (.stop request)) := by
  refine ⟨fun _ here => absurd here (settled.idle request _), fun other => ?_, settled.recorded⟩
  change (state.enter request none).requests other = none
  rw [enter_requests]
  split
  · rfl
  · exact settled.rest other

/-- What a look-up between two requests comes to. -/
theorem Settled.find (settled : Settled state) (context : ConnectContext) (request : Nat)
    (dto : CreateConnectAccountDto) :
    Settled (state.step context (.find request dto)) ∨
      state.step context (.find request dto) = state.enter request (some (.unconnected dto)) ∧ state.row = none := by
  have absent := settled.rest request
  simp only [Onboarding.step, absent]
  split
  · split
    · exact .inl ⟨settled.rest, settled.recorded⟩
    · rename_i missing
      exact .inr ⟨rfl, missing⟩
  · exact .inl settled

section Unconnected

variable {request : Nat} {dto : CreateConnectAccountDto}

theorem enter_self (state : Onboarding) (request : Nat) (phase : Option AccountPhase) :
    (state.enter request phase).requests request = phase := by
  rw [enter_requests, if_pos rfl]

theorem Settled.uncreated (settled : Settled state) (missing : state.row = none) (id : StripeAccountId) :
    id ∉ state.createdIds := by
  rw [settled.recorded missing]
  exact List.not_mem_nil

theorem Settled.stopped (settled : Settled state) (context : ConnectContext) (missing : state.row = none) :
    Along (Onboarding.step context) KeepsAccount (state.enter request (some (.unconnected dto))) [.stop request] ∧
      Settled (run (Onboarding.step context) (state.enter request (some (.unconnected dto))) [.stop request]) := by
  refine ⟨⟨fun account here => ?_, trivial⟩, settled.rest.left request _, fun _ => settled.recorded missing⟩
  rw [enter_self] at here
  cases here

theorem Settled.refused (settled : Settled state) (context : ConnectContext) (missing : state.row = none)
    (account : StripeAccount) :
    Along (Onboarding.step context) KeepsAccount (state.enter request (some (.unconnected dto)))
        [.create request .fails account] ∧
      Settled (run (Onboarding.step context) (state.enter request (some (.unconnected dto)))
        [.create request .fails account]) := by
  have stepped : (state.enter request (some (.unconnected dto))).step context (.create request .fails account) =
      (state.enter request (some (.unconnected dto))).enter request none := by
    simp only [Onboarding.step, enter_self]
    exact if_neg (settled.uncreated missing account.id)
  rw [run_cons, run_nil, stepped]
  exact ⟨⟨fun _ _ _ answered => absurd rfl answered, trivial⟩, settled.rest.left request _,
    fun _ => settled.recorded missing⟩

theorem Settled.finished (settled : Settled state) (context : ConnectContext) (missing : state.row = none)
    (account : StripeAccount) :
    Along (Onboarding.step context) KeepsAccount (state.enter request (some (.unconnected dto)))
        [.create request .works account, .insert request .works] ∧
      Settled (run (Onboarding.step context) (state.enter request (some (.unconnected dto)))
        [.create request .works account, .insert request .works]) := by
  let opened := (state.enter request (some (.unconnected dto))).create context request dto account .works
  have created : (state.enter request (some (.unconnected dto))).step context (.create request .works account) =
      opened := by
    simp only [Onboarding.step, enter_self]
    exact if_neg (settled.uncreated missing account.id)
  have held : opened.requests request = some (.created account) :=
    enter_self (state.enter request (some (.unconnected dto))) request _
  have free : opened.row = none := missing
  have recorded : opened.step context (.insert request .works) =
      Onboarding.reply { opened.enter request none with row := some (context.newRow account) }
        (toStatus (context.newRow account).toConnectAccount) := by
    simp only [Onboarding.step, held]
    rw [Onboarding.insert, if_neg (by simp [free])]
    exact if_pos rfl
  simp only [Along, run_cons, run_nil, created, recorded]
  refine ⟨⟨fun _ _ _ _ => ⟨settled.recorded missing, rfl⟩, fun own _ => ⟨nofun, free⟩, trivial⟩, fun other => ?_, nofun⟩
  show (((state.enter request _).enter request (some (.created account))).enter request none).requests other = _
  rw [enter_requests]
  split
  · rfl
  · rename_i apart
    rw [enter_requests, if_neg apart, enter_requests, if_neg apart]
    exact settled.rest other

end Unconnected

theorem Settled.lone (settled : Settled state) (context : ConnectContext) (lone : LoneRequest) :
    Along (Onboarding.step context) KeepsAccount state lone.actions ∧
      Settled (run (Onboarding.step context) state lone.actions) := by
  cases lone with
  | stopped request dto =>
      simp only [LoneRequest.actions, Along, run_cons]
      obtain found | ⟨entered, missing⟩ := settled.find context request dto
      · obtain ⟨keeps, after⟩ := found.stop context request
        exact ⟨⟨trivial, keeps, trivial⟩, after⟩
      · rw [entered]
        obtain ⟨keeps, after⟩ := settled.stopped context missing
        exact ⟨⟨trivial, keeps⟩, after⟩
  | refused request dto account =>
      simp only [LoneRequest.actions, Along, run_cons]
      obtain found | ⟨entered, missing⟩ := settled.find context request dto
      · obtain ⟨keeps, same⟩ := found.create context request .fails account
        rw [same]
        exact ⟨⟨trivial, keeps, trivial⟩, found⟩
      · rw [entered]
        obtain ⟨keeps, after⟩ := settled.refused context missing account
        exact ⟨⟨trivial, keeps⟩, after⟩
  | finished request dto account =>
      simp only [LoneRequest.actions, Along, run_cons]
      obtain found | ⟨entered, missing⟩ := settled.find context request dto
      · obtain ⟨keeps, same⟩ := found.create context request .works account
        obtain ⟨records, still⟩ := found.insert context request .works
        rw [same, still]
        exact ⟨⟨trivial, keeps, records, trivial⟩, found⟩
      · rw [entered]
        obtain ⟨keeps, after⟩ := settled.finished context missing account
        exact ⟨⟨trivial, keeps⟩, after⟩

theorem lone_requests_keep (context : ConnectContext) (settled : Settled state) (requests : List LoneRequest) :
    Along (Onboarding.step context) KeepsAccount state (requests.flatMap LoneRequest.actions) := by
  induction requests generalizing state with
  | nil => trivial
  | cons lone rest ih =>
      obtain ⟨keeps, after⟩ := settled.lone context lone
      exact keeps.append (ih after)

end Undisturbed

/-- Over every interleaving: there is one account at most, and it is recorded or about to
be, exactly as long as every step keeps it; and it is recorded once no request is under way.
Requests one after the other, each of which records the account that it creates, keep it. -/
theorem single_account_iff_keeps_account (context : ConnectContext) (actions : List AccountAction) :
    (Visits (Onboarding.step context) SingleAccount .start actions ↔
        Along (Onboarding.step context) KeepsAccount .start actions) ∧
      (Along (Onboarding.step context) KeepsAccount .start actions →
        Visits (Onboarding.step context) (fun state => AtRest state → ∀ id ∈ state.createdIds, InRow state id)
          .start actions) ∧
      ∀ requests : List LoneRequest, actions = requests.flatMap LoneRequest.actions →
        Along (Onboarding.step context) KeepsAccount .start actions := by
  have exactly : Visits (Onboarding.step context) SingleAccount .start actions ↔
      Along (Onboarding.step context) KeepsAccount .start actions := by
    refine visits_iff_along (fun _ action _ apart => accountsApart_step context action apart)
      (fun _ action _ apart single => singleAccount_step_iff context action apart single) (fun _ _ => trivial) ?_ ?_
    · exact ⟨by simp [Onboarding.start], by simp [Onboarding.start], by simp [Onboarding.start]⟩
    · exact ⟨Nat.zero_le _, by simp [Onboarding.start, Onboarding.createdIds]⟩
  refine ⟨exactly, fun along => (exactly.mpr along).mono fun state single rest id there => ?_, fun requests same => ?_⟩
  · refine (single.kept id there).resolve_right ?_
    intro given
    obtain ⟨request, account, held, _⟩ := given
    cases (rest request).symm.trans held
  · rw [same]
    exact lone_requests_keep context ⟨fun _ => rfl, fun _ => rfl⟩ requests

section TwoRequests

def serbianTenant : ConnectContext where
  tenantId := 1
  isApiConfigured := true
  toUpperCase := id

def newAccount (id : StripeAccountId) : StripeAccount where
  id := id
  chargesEnabled := false
  payoutsEnabled := false
  detailsSubmitted := false
  currentlyDue := none
  pastDue := none
  disabledReason := none
  metadata := none
  country := some "RS"
  defaultCurrency := some "rsd"

/-- Two requests look before either has created an account. -/
def sideBySide : List AccountAction :=
  [.find 1 ⟨none⟩, .find 2 ⟨none⟩, .create 1 .works (newAccount 1), .create 2 .works (newAccount 2),
    .insert 1 .works, .insert 2 .works]

theorem two_accounts_of_two_requests :
    ¬ Visits (Onboarding.step serbianTenant) SingleAccount .start sideBySide := by
  intro visits
  have two : (run (Onboarding.step serbianTenant) .start sideBySide).createdIds.length = 2 := by decide
  have once := visits.last.once
  omega

end TwoRequests

end Aicos.Properties
