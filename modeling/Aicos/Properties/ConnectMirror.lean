import Aicos.Connect.Service
import Aicos.Transition.Mirror
import Aicos.Transition.Run

namespace Aicos.Properties

open Aicos.Billing Aicos.Commerce Aicos.Connect Aicos.Transition

/-! The mirror of a connected account.  Whatever an event or a refresh carries is
written over what is there, so the last write decides; it is right where no write
carries older values, unless the newest are still to be written. -/

/-- The account carries what the last event told. -/
def CarriesLatest (desk : Desk) (account : AccountObj) : Prop :=
  ∀ latest ∈ desk.emitted.head?, mirrored account = mirrored latest.account

/-- An event other than `id` that carries it is still to be processed. -/
def Awaits (desk : Desk) (id : Option EventId) : Prop :=
  ∃ other event, other ∈ desk.unprocessed ∧ id ≠ some other ∧ desk.findEvent other = some event ∧
    CarriesLatest desk event.account

/-- No write puts older values into the mirror for good. -/
def WritesLatest (desk : Desk) : ConnectAction → Prop
  | .deliver id _ => ∀ event, desk.findEvent id = some event → id ∉ desk.worker.done →
      CarriesLatest desk event.account ∨ Awaits desk (some id)
  | .store refresh => ∀ account, desk.refreshes refresh = some account → CarriesLatest desk account ∨ Awaits desk none
  | _ => True

/-- The row, the events and the refreshes are of one account of the tenant. -/
structure OneAccount (desk : Desk) : Prop where
  row : ∃ row, desk.worker.db.connectAccount = some row ∧ row.stripeAccountId = desk.stripe.id
  tenant : ∀ tenant ∈ desk.stripe.metadata.bind Metadata.tenantId, tenant = desk.worker.db.tenantId
  events : ∀ event ∈ desk.emitted, event.account.id = desk.stripe.id ∧ event.account.metadata = desk.stripe.metadata
  latest : ∀ event ∈ desk.emitted.head?, event.account = desk.stripe
  refreshes : ∀ refresh account, desk.refreshes refresh = some account → account.id = desk.stripe.id
  known : ∀ id ∈ desk.unprocessed, (desk.findEvent id).isSome
  marked : ∀ id ∈ desk.worker.done, id ∉ desk.unprocessed

/-- The mirror is what the last event told. -/
def MirrorLatest (desk : Desk) : Prop :=
  ∀ event ∈ desk.emitted.head?, desk.worker.db.connectAccount = some (mirrored event.account)

/-- Stripe's last event as the source, the row as its copy, and the events to come. -/
def accountMirror (desk : Desk) : Mirror Unit ConnectAccount EventId where
  truth := fun _ => desk.emitted.head?.map fun event => mirrored event.account
  copy := fun _ => desk.worker.db.connectAccount
  calls := fun id => if id ∈ desk.unprocessed then
    (desk.findEvent id).map fun event => .writing () (some (mirrored event.account)) else none

variable {desk : Desk} {id : EventId} {account : AccountObj}

theorem onAccountUpdated_mirrored (one : OneAccount desk) (same : account.id = desk.stripe.id)
    (metadata : account.metadata = desk.stripe.metadata) :
    onAccountUpdated account desk.worker.db =
      { desk.worker.db with connectAccount := some (mirrored account) } := by
  obtain ⟨row, found, key⟩ := one.row
  rw [onAccountUpdated, found]
  cases named : account.metadata.bind (·.tenantId) with
  | none => simp [key, same, mirrored]
  | some tenant =>
      have mine : tenant = desk.worker.db.tenantId := one.tenant tenant (metadata ▸ named)
      simp [mine, key, same, mirrored]

theorem syncFromStripe_mirrored (one : OneAccount desk) (same : account.id = desk.stripe.id) :
    syncFromStripe account desk.worker.db =
      .ok { desk.worker.db with connectAccount := some (mirrored account) } := by
  obtain ⟨row, found, key⟩ := one.row
  rw [syncFromStripe, found]
  simp [mirrored, key, same]

theorem findEvent_mem {event : AccountEvent} (found : desk.findEvent id = some event) :
    event ∈ desk.emitted ∧ event.id = id :=
  ⟨List.mem_of_find?_eq_some found, by simpa using List.find?_some found⟩

theorem process_fresh (one : OneAccount desk) {event : AccountEvent} (found : desk.findEvent id = some event)
    (fresh : id ∉ desk.worker.done) (crash : Bool) :
    process event.job crash desk.worker =
      { db := { desk.worker.db with connectAccount := some (mirrored event.account) }
        done := if crash then desk.worker.done else id :: desk.worker.done } := by
  obtain ⟨member, rfl⟩ := findEvent_mem found
  obtain ⟨same, metadata⟩ := one.events event member
  have handled : handle event.job desk.worker.db = .ok (onAccountUpdated event.account desk.worker.db) := rfl
  have unmarked : event.job.event.id ∉ desk.worker.done := fresh
  rw [process, if_neg unmarked, handled, onAccountUpdated_mirrored one same metadata]
  rfl

theorem process_marked {event : AccountEvent} (found : desk.findEvent id = some event)
    (marked : id ∈ desk.worker.done) (crash : Bool) : process event.job crash desk.worker = desk.worker := by
  obtain ⟨_, rfl⟩ := findEvent_mem found
  have there : event.job.event.id ∈ desk.worker.done := marked
  rw [process, if_pos there]

namespace OneAccount

theorem emit (one : OneAccount desk) (fresh : id ∉ desk.worker.done) : OneAccount (desk.emit id account) where
  row := one.row
  tenant := one.tenant
  events event member := by
    rcases List.mem_cons.mp member with rfl | old
    · exact ⟨rfl, rfl⟩
    · exact one.events event old
  latest event head := by
    obtain rfl := Option.some.inj head
    rfl
  refreshes := one.refreshes
  known other member := by
    by_cases same : id = other
    · simp [Desk.findEvent, Desk.emit, same]
    · have old := one.known other (by simpa [Desk.emit, Ne.symm same] using member)
      simpa [Desk.findEvent, Desk.emit, same] using old
  marked other done member := by
    rcases List.mem_cons.mp member with rfl | old
    · exact fresh done
    · exact one.marked other done old

theorem written (one : OneAccount desk) {done : List EventId} {unprocessed : List EventId}
    (same : account.id = desk.stripe.id) (subset : unprocessed ⊆ desk.unprocessed) (marked : ∀ id ∈ done, id ∉ unprocessed) :
    OneAccount { desk with
      worker := { db := { desk.worker.db with connectAccount := some (mirrored account) }, done := done }
      unprocessed := unprocessed } where
  row := ⟨_, rfl, same⟩
  tenant := one.tenant
  events := one.events
  latest := one.latest
  refreshes := one.refreshes
  known id member := one.known id (subset member)
  marked := marked

theorem enter (one : OneAccount desk) {refresh : RefreshId} {call : Option AccountObj}
    (same : ∀ account ∈ call, account.id = desk.stripe.id) : OneAccount (desk.enter refresh call) where
  row := one.row
  tenant := one.tenant
  events := one.events
  latest := one.latest
  refreshes other account held := by
    by_cases here : other = refresh
    · subst here
      exact same account (by simpa [Desk.enter] using held)
    · exact one.refreshes other account (by simpa [Desk.enter, here] using held)
  known := one.known
  marked := one.marked

theorem step (one : OneAccount desk) (action : ConnectAction) : OneAccount (desk.step action) := by
  cases action with
  | emit id account =>
      simp only [Desk.step]
      split
      · exact one
      · rename_i fresh
        exact one.emit (not_or.mp fresh).2
  | deliver id crash =>
      simp only [Desk.step]
      cases found : desk.findEvent id with
      | none => exact one
      | some event =>
          have subset : (desk.unprocessed.filter fun other => other ≠ id) ⊆ desk.unprocessed :=
            List.filter_sublist.subset
          have gone : id ∉ desk.unprocessed.filter fun other => other ≠ id := by simp
          have old : ∀ other ∈ desk.worker.done, other ∉ desk.unprocessed.filter fun other => other ≠ id :=
            fun other done member => one.marked other done (subset member)
          by_cases marked : id ∈ desk.worker.done
          · simp only [process_marked found marked]
            exact { one with known := fun other member => one.known other (subset member), marked := old }
          · simp only [process_fresh one found marked]
            refine one.written (one.events event (findEvent_mem found).1).1 subset ?_
            cases crash with
            | true => exact old
            | false => exact List.forall_mem_cons.mpr ⟨gone, old⟩
  | expire id =>
      exact { one with marked := fun other done => one.marked other (List.mem_filter.mp done).1 }
  | retrieve refresh =>
      simp only [Desk.step]
      split
      · refine one.enter ?_
        rintro _ ⟨⟩
        rfl
      · exact one
  | store refresh =>
      simp only [Desk.step]
      split
      · exact one
      · rename_i account held
        have same := one.refreshes refresh account held
        rw [syncFromStripe_mirrored one same]
        exact (one.written same (List.Subset.refl _) one.marked).enter (by simp)
  | giveUp refresh => exact one.enter (by simp)

end OneAccount

section Course

variable {latest : AccountEvent}

theorem truth_carried (last : desk.emitted.head? = some latest) (carries : CarriesLatest desk account) :
    some (mirrored account) = (accountMirror desk).truth () := by
  simp [accountMirror, last, carries latest last]

theorem fresh_awaited {skipped : Option EventId} (last : desk.emitted.head? = some latest)
    (awaits : Awaits desk skipped) :
    ∃ other sync, skipped ≠ some other ∧ (accountMirror desk).calls other = some sync ∧
      sync.Fresh (accountMirror desk).truth () := by
  obtain ⟨other, event, pending, apart, found, carries⟩ := awaits
  refine ⟨other, .writing () (some (mirrored event.account)), apart, ?_, rfl, truth_carried last carries⟩
  simp [accountMirror, pending, found]

/-- A write that may stand, as the mirror sees it. -/
theorem right_or_awaited {skipped : Option EventId} (last : desk.emitted.head? = some latest)
    (writes : CarriesLatest desk account ∨ Awaits desk skipped) :
    some (mirrored account) = (accountMirror desk).truth () ∨ ∃ other sync,
      (accountMirror desk).calls other = some sync ∧ sync.Fresh (accountMirror desk).truth () := by
  refine writes.imp (truth_carried last) fun awaits => ?_
  obtain ⟨other, sync, _, calls, fresh⟩ := fresh_awaited last awaits
  exact ⟨other, sync, calls, fresh⟩

theorem onCourse_emit : (accountMirror (desk.emit id account)).OnCourse () := by
  let changed := { account with id := desk.stripe.id, metadata := desk.stripe.metadata }
  refine .inr ⟨id, .writing () (some (mirrored changed)), ?_, rfl, rfl⟩
  simp [accountMirror, Desk.emit, Desk.findEvent, changed]

theorem accountMirror_written (desk : Desk) (id : EventId) (done : List EventId) (account : AccountObj) :
    accountMirror { desk with
      worker := { db := { desk.worker.db with connectAccount := some (mirrored account) }, done := done }
      unprocessed := desk.unprocessed.filter fun other => other ≠ id } =
    { accountMirror desk with
      copy := Function.update (accountMirror desk).copy () (some (mirrored account))
      calls := Function.update (accountMirror desk).calls id none } := by
  simp only [accountMirror, Mirror.mk.injEq, true_and]
  refine ⟨rfl, funext fun other => ?_⟩
  by_cases same : other = id
  · simp [same]
  · simp [same, Desk.findEvent]

theorem onCourse_deliver (one : OneAccount desk) {crash : Bool} (last : desk.emitted.head? = some latest)
    (course : (accountMirror desk).OnCourse ()) (writes : WritesLatest desk (.deliver id crash)) :
    (accountMirror (desk.step (.deliver id crash))).OnCourse () := by
  simp only [Desk.step]
  cases found : desk.findEvent id with
  | none => exact course
  | some event =>
      by_cases marked : id ∈ desk.worker.done
      · have unchanged : (desk.unprocessed.filter fun other => other ≠ id) = desk.unprocessed :=
          List.filter_eq_self.mpr fun other pending =>
            decide_eq_true fun same => one.marked id marked (same ▸ pending)
        simpa only [process_marked found marked, unchanged] using course
      · simp only [process_fresh one found marked, accountMirror_written]
        by_cases pending : id ∈ desk.unprocessed
        · have sent : (accountMirror desk).calls id = some (.writing () (some (mirrored event.account))) := by
            simp [accountMirror, pending, found]
          refine course.write sent ?_
          refine (writes event found marked).imp (truth_carried last) fun awaits => ?_
          obtain ⟨other, sync, apart, calls, fresh⟩ := fresh_awaited last awaits
          exact ⟨other, sync, fun same => apart (congrArg some same.symm), calls, fresh⟩
        · have idle : (accountMirror desk).calls id = none := by simp [accountMirror, pending]
          have unchanged : Function.update (accountMirror desk).calls id none = (accountMirror desk).calls := by
            rw [← idle, Function.update_eq_self]
          rw [unchanged]
          exact course.overwrite (right_or_awaited last (writes event found marked))

theorem onCourse_store (one : OneAccount desk) {refresh : RefreshId} (last : desk.emitted.head? = some latest)
    (course : (accountMirror desk).OnCourse ()) (writes : WritesLatest desk (.store refresh)) :
    (accountMirror (desk.step (.store refresh))).OnCourse () := by
  simp only [Desk.step]
  split
  · exact course
  · rename_i account held
    rw [syncFromStripe_mirrored one (one.refreshes refresh account held)]
    have right := right_or_awaited last (writes account held)
    exact course.overwrite right

theorem course_step (one : OneAccount desk) {action : ConnectAction}
    (course : desk.emitted ≠ [] → (accountMirror desk).OnCourse ()) (writes : WritesLatest desk action) :
    (desk.step action).emitted ≠ [] → (accountMirror (desk.step action)).OnCourse () := by
  intro told
  have settled (same : (desk.step action).emitted = desk.emitted) :
      ∃ latest, desk.emitted.head? = some latest ∧ (accountMirror desk).OnCourse () := by
    rw [same] at told
    exact ⟨desk.emitted.head told, List.head?_eq_some_head told, course told⟩
  cases action with
  | emit id account =>
      simp only [Desk.step] at told ⊢
      split
      · rename_i known
        rw [if_pos known] at told
        exact course told
      · exact onCourse_emit
  | deliver id crash =>
      obtain ⟨latest, last, course⟩ := settled (by simp only [Desk.step]; split <;> rfl)
      exact onCourse_deliver one last course writes
  | expire id =>
      obtain ⟨_, _, course⟩ := settled rfl
      exact course
  | retrieve refresh =>
      obtain ⟨_, _, course⟩ := settled (by simp only [Desk.step]; split <;> rfl)
      simp only [Desk.step]
      split <;> exact course
  | store refresh =>
      obtain ⟨latest, last, course⟩ := settled (by simp only [Desk.step]; split; rfl; split <;> rfl)
      exact onCourse_store one last course writes
  | giveUp refresh =>
      obtain ⟨_, _, course⟩ := settled rfl
      exact course

end Course

/-- Whenever every event has been processed, the mirror is what the last one told, as
long as no write puts older values there for good. -/
theorem mirror_latest_of_writes_latest (one : OneAccount desk) (silent : desk.emitted = [])
    {actions : List ConnectAction} (along : Along Desk.step WritesLatest desk actions) :
    Visits Desk.step (fun desk => desk.unprocessed = [] → MirrorLatest desk) desk actions := by
  have kept (desk : Desk) (action : ConnectAction)
      (good : OneAccount desk ∧ (desk.emitted ≠ [] → (accountMirror desk).OnCourse ()))
      (writes : WritesLatest desk action) :
      OneAccount (desk.step action) ∧
        ((desk.step action).emitted ≠ [] → (accountMirror (desk.step action)).OnCourse ()) :=
    ⟨good.1.step action, course_step good.1 good.2 writes⟩
  have visits := visits_of_along kept ⟨one, fun told => absurd silent told⟩ along
  refine visits.mono fun desk good processed latest last => ?_
  have course := good.2 (by rintro none; simp [none] at last)
  have right : (accountMirror desk).copy () = (accountMirror desk).truth () :=
    course.settled fun id => by simp [accountMirror, processed]
  simpa [accountMirror, Option.mem_def.mp last] using right

def expressAccount (chargesEnabled : Bool) : AccountObj where
  id := 9
  chargesEnabled := chargesEnabled
  payoutsEnabled := false
  detailsSubmitted := true
  currentlyDue := none
  pastDue := none
  disabledReason := none
  metadata := none

def newlyConnected : Desk where
  stripe := expressAccount false
  emitted := []
  unprocessed := []
  worker := {
    db := {
      tenantId := 1
      stores := []
      variants := []
      stock := { items := [], movements := [] }
      carts := []
      orders := []
      payments := []
      refunds := []
      returns := []
      connectAccount := some (mirrored (expressAccount false)) }
    done := [] }
  refreshes := fun _ => none

theorem newlyConnected_oneAccount : OneAccount newlyConnected where
  row := ⟨_, rfl, rfl⟩
  tenant := by simp [newlyConnected, expressAccount]
  events := by simp [newlyConnected]
  latest := by simp [newlyConnected]
  refreshes := by simp [newlyConnected]
  known := by simp [newlyConnected]
  marked := by simp [newlyConnected]

/-- The event of the enabled account is retried and processed after that of the disabled one. -/
def retriedEvent : List ConnectAction :=
  [.emit 1 (expressAccount true), .emit 2 (expressAccount false), .deliver 2 false, .deliver 1 false]

theorem older_event_overwrites :
    ¬ ∀ desk actions, OneAccount desk → desk.emitted = [] →
      Visits Desk.step (fun desk => desk.unprocessed = [] → MirrorLatest desk) desk actions := by
  intro always
  have visits := always newlyConnected retriedEvent newlyConnected_oneAccount rfl
  have processed : (run Desk.step newlyConnected retriedEvent).unprocessed = [] := by decide
  have right := visits.last processed ⟨2, expressAccount false⟩ rfl
  have stale : (run Desk.step newlyConnected retriedEvent).worker.db.connectAccount =
      some (mirrored (expressAccount true)) := by decide
  rw [stale] at right
  exact absurd right (by decide)

theorem mirror_latest_of_single_event :
    Visits Desk.step (fun desk => desk.unprocessed = [] → MirrorLatest desk) newlyConnected
      [.emit 1 (expressAccount true), .deliver 1 false] := by
  refine mirror_latest_of_writes_latest newlyConnected_oneAccount rfl ⟨trivial, ?_, trivial⟩
  intro event found _
  refine .inl fun latest last => ?_
  obtain rfl := Option.some.inj found
  obtain rfl := Option.some.inj last
  rfl

end Aicos.Properties
