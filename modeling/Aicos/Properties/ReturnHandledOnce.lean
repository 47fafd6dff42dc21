import Aicos.Returns.Interleaving
import Aicos.Settlement.Requests
import Aicos.Transition.Run

namespace Aicos.Properties

open Aicos.Commerce Aicos.Billing Aicos.Data Aicos.Inventory Aicos.Orders Aicos.Returns Aicos.Settlement
  Aicos.Transition

/-! A return is refunded and restocked once, over every interleaving of the
requests about it.

The status is checked in a request's read and written in a later transaction,
with the Stripe call between them. -/

def restockedUnits (items : List InventoryItem) (movement : StockMovement) : Option VariantId × Int :=
  ((items.find? fun item => item.id = movement.inventoryItemId).map (·.variantId), movement.quantity)

def restocks (id : ReturnId) (rows : Inventory) : List (Option VariantId × Int) :=
  (rows.movements.filter fun movement => movement.ref = .return id).map (restockedUnits rows.items)

def lineUnits (line : ReturnItem) : Option VariantId × Int :=
  (line.orderItem.variantId, line.quantity)

theorem restockedUnits_addOnHand (id : InventoryItemId) (delta : Int) (now : Instant) (items : List InventoryItem) :
    restockedUnits (updateWhere (fun item => item.id = id) (addOnHand delta now) items) = restockedUnits items := by
  funext movement
  have found : (updateWhere (fun item => item.id = id) (addOnHand delta now) items).find?
        (fun item => item.id = movement.inventoryItemId) =
      (items.find? fun item => item.id = movement.inventoryItemId).map fun item =>
        if decide (item.id = id) then addOnHand delta now item else item :=
    find?_updateWhere_key fun _ => rfl
  rw [restockedUnits, found, Option.map_map]
  have kept : (fun item : InventoryItem => item.variantId) ∘
      (fun item => if decide (item.id = id) then addOnHand delta now item else item) =
        fun item => item.variantId := by
    funext item
    by_cases hit : item.id = id <;> simp [hit, addOnHand]
  rw [kept]
  rfl

theorem restocks_restocked (returnId : ReturnId) (now : Instant) (line : ReturnItem) {rows : Inventory}
    (id : ReturnId) (keyed : ItemsKeyed rows) :
    ItemsKeyed (restocked returnId now line rows) ∧
      ∃ entered, entered.Sublist [lineUnits line] ∧
        restocks id (restocked returnId now line rows) =
          restocks id rows ++ if returnId = id then entered else [] := by
  unfold restocked
  cases found : line.orderItem.variantId.bind fun variantId => latestStock variantId rows with
  | none => exact ⟨keyed, [], List.nil_sublist _, by simp⟩
  | some stock =>
      obtain ⟨variantId, named, latest⟩ := Option.bind_eq_some_iff.mp found
      obtain ⟨member, variant⟩ := latestStock_present latest
      have itself : rows.items.find? (fun item => item.id = stock.id) = some stock := find?_of_key keyed member
      refine ⟨?_, [lineUnits line], List.Sublist.refl _, ?_⟩
      · have ids : (updateWhere (fun item => item.id = stock.id) (addOnHand line.quantity now) rows.items).map (·.id) =
            rows.items.map (·.id) := map_updateWhere fun _ => rfl
        rw [ItemsKeyed, ids]
        exact keyed
      · simp only [restocks, restockedUnits_addOnHand, List.filter_append, List.map_append]
        by_cases mine : returnId = id
        · simp [mine, returnMovement, restockedUnits, itself, lineUnits, named, variant]
        · simp [mine, returnMovement]

/-- Restocking a return enters some of its lines, each once. -/
theorem restocks_lines (returnId : ReturnId) (now : Instant) (id : ReturnId) (lines : List ReturnItem)
    (rows : Inventory) (keyed : ItemsKeyed rows) :
    ItemsKeyed (lines.foldl (fun rows line => restocked returnId now line rows) rows) ∧
      ∃ entered, entered.Sublist (lines.map lineUnits) ∧
        restocks id (lines.foldl (fun rows line => restocked returnId now line rows) rows) =
          restocks id rows ++ if returnId = id then entered else [] := by
  induction lines generalizing rows with
  | nil => exact ⟨keyed, [], List.nil_sublist _, by simp⟩
  | cons line lines ih =>
      obtain ⟨still, first, here, entered⟩ := restocks_restocked returnId now line id keyed
      obtain ⟨last, later, rest, total⟩ := ih (restocked returnId now line rows) still
      refine ⟨last, first ++ later, here.append rest, ?_⟩
      rw [List.foldl_cons, total, entered]
      by_cases mine : returnId = id <;> simp [mine]

def returnStatus (id : ReturnId) (db : Db) : Option ReturnStatus :=
  (db.findReturn id).map (·.status)

/-- At most one Stripe refund was created for the return, and the ledger has
each of its lines at most once. -/
def HandledOnce (id : ReturnId) (counter : Counter) : Prop :=
  counter.created.count id ≤ 1 ∧
    ∃ ret, counter.db.findReturn id = some ret ∧
      (restocks id counter.db.stock).Sublist (ret.items.map lineUnits)

def StaysRefunded (id : ReturnId) (counter : Counter) (action : CounterAction) : Prop :=
  returnStatus id counter.db = some .refunded → returnStatus id (counter.step action).db = some .refunded

def RefundUnderWay (id : ReturnId) (requests : RequestId → Option RequestPhase) : Prop :=
  ∃ request plan stripeRefundId,
    requests request = some (.recording plan (some stripeRefundId)) ∧ plan.ret.id = id

/-- A Stripe refund for the return is created, and a write about it is made,
only where the return is not REFUNDED; and a Stripe refund only where no other
request is between its Stripe refund and its write or ended there. -/
def Undisturbed (id : ReturnId) (counter : Counter) : CounterAction → Prop
  | .callStripe request reply =>
      ∀ plan, counter.requests request = some (.refunding plan) → plan.ret.id = id → reply.refunds = true →
        returnStatus id counter.db ≠ some .refunded ∧ ¬ RefundUnderWay id counter.requests ∧ id ∉ counter.abandoned
  | .write request _ =>
      ∀ phase, counter.requests request = some phase → phase.target = some id →
        returnStatus id counter.db ≠ some .refunded
  | _ => True

structure ReturnBooks (id : ReturnId) (lines : List ReturnItem) (counter : Counter) : Prop where
  keyed : ItemsKeyed counter.db.stock
  row : ∃ ret, counter.db.findReturn id = some ret ∧ ret.items = lines
  plans : ∀ request phase plan, counter.requests request = some phase → phase.plan = some plan →
    plan.ret.id = id → plan.ret.items = lines
  once : counter.created.count id ≤ 1
  accounted : id ∈ counter.created →
    id ∈ counter.abandoned ∨ returnStatus id counter.db = some .refunded ∨ RefundUnderWay id counter.requests
  untouched : returnStatus id counter.db ≠ some .refunded → restocks id counter.db.stock = []
  restocked : (restocks id counter.db.stock).Sublist (lines.map lineUnits)

variable {id : ReturnId} {lines : List ReturnItem} {counter : Counter}

theorem ReturnBooks.handledOnce (books : ReturnBooks id lines counter) : HandledOnce id counter := by
  obtain ⟨ret, found, same⟩ := books.row
  exact ⟨books.once, ret, found, same ▸ books.restocked⟩

def Planned (id : ReturnId) (lines : List ReturnItem) (phase : Option RequestPhase) : Prop :=
  ∀ plan, phase.bind RequestPhase.plan = some plan → plan.ret.id = id → plan.ret.items = lines

theorem ReturnBooks.planned (books : ReturnBooks id lines counter) (request : RequestId) :
    Planned id lines (counter.requests request) := by
  intro plan named mine
  obtain ⟨phase, held, named⟩ := Option.bind_eq_some_iff.mp named
  exact books.plans request phase plan held named mine

theorem refundUnderWay_update {requests : RequestId → Option RequestPhase} {request : RequestId}
    {next : Option RequestPhase} (recording : RefundUnderWay id requests)
    (free : ∀ plan sid, requests request = some (.recording plan (some sid)) → plan.ret.id ≠ id) :
    RefundUnderWay id (Function.update requests request next) := by
  obtain ⟨other, plan, sid, recording, mine⟩ := recording
  have apart : other ≠ request := by
    intro same
    exact free plan sid (same ▸ recording) mine
  exact ⟨other, plan, sid, by simpa [apart] using recording, mine⟩

/-- A Stripe refund stays accounted for when a request that holds none of the
return's moves on. -/
theorem accounted_update {requests : RequestId → Option RequestPhase} {request : RequestId}
    {next : Option RequestPhase} {abandoned after : List ReturnId} {refunded : Prop}
    (accounted : id ∈ abandoned ∨ refunded ∨ RefundUnderWay id requests) (longer : abandoned ⊆ after)
    (free : ∀ plan sid, requests request = some (.recording plan (some sid)) → plan.ret.id ≠ id) :
    id ∈ after ∨ refunded ∨ RefundUnderWay id (Function.update requests request next) := by
  rcases accounted with ended | refunded | recording
  · exact .inl (longer ended)
  · exact .inr (.inl refunded)
  · exact .inr (.inr (refundUnderWay_update recording free))

theorem ReturnBooks.advance {request : RequestId} {next : Option RequestPhase} {created abandoned : List ReturnId}
    (books : ReturnBooks id lines counter) (planned : Planned id lines next) (once : created.count id ≤ 1)
    (accounted : id ∈ created → id ∈ abandoned ∨ returnStatus id counter.db = some .refunded ∨
      RefundUnderWay id (Function.update counter.requests request next)) :
    ReturnBooks id lines { counter.enter request next with created, abandoned } := by
  constructor
  · exact books.keyed
  · exact books.row
  · intro other phase plan entered named mine
    by_cases same : other = request
    · subst same
      have entered : next = some phase := by simpa [Counter.enter] using entered
      exact planned plan (by rw [entered]; exact named) mine
    · have entered : counter.requests other = some phase := by simpa [Counter.enter, same] using entered
      exact books.plans other phase plan entered named mine
  · exact once
  · exact accounted
  · exact books.untouched
  · exact books.restocked

theorem ReturnBooks.enter {request : RequestId} {next : Option RequestPhase} (books : ReturnBooks id lines counter)
    (planned : Planned id lines next)
    (free : ∀ plan sid, counter.requests request = some (.recording plan (some sid)) → plan.ret.id ≠ id) :
    ReturnBooks id lines (counter.enter request next) := by
  apply books.advance planned books.once
  intro created
  exact accounted_update (books.accounted created) (List.Subset.refl _) free

theorem ReturnBooks.begin {request : RequestId} {read : Tx (Option RequestPhase)} (books : ReturnBooks id lines counter)
    (planned : ∀ phase, read = .ok phase → Planned id lines phase) :
    ReturnBooks id lines (counter.begin request read) := by
  unfold Counter.begin
  split
  · rename_i phase free
    exact books.enter (planned phase rfl) (by simp [free])
  · exact books

/-- What `approve` and `reject` read carries no plan to the write. -/
theorem plainRead_planned {target : ReturnId} {db : Db} {check : ReturnRead → Tx Unit} {next : RequestPhase}
    {phase : Option RequestPhase} (plain : next.plan = none)
    (returned : (do
      let read ← requireReturn target db
      check read
      pure (some next)) = Except.ok phase) : Planned id lines phase := by
  obtain ⟨read, _, returned⟩ := bind_eq_ok.mp returned
  obtain ⟨_, _, returned⟩ := bind_eq_ok.mp returned
  cases returned
  intro plan named
  rw [Option.bind_some, plain] at named
  cases named

theorem readRefund_planned (books : ReturnBooks id lines counter) {target : ReturnId} {phase : Option RequestPhase}
    (returned : readRefund target counter.db = .ok phase) : Planned id lines phase := by
  obtain ⟨read, required, returned⟩ := bind_eq_ok.mp returned
  obtain ⟨plan, checked, returned⟩ := bind_eq_ok.mp returned
  cases returned
  intro entered named mine
  cases plan with
  | none => cases named
  | some plan =>
      cases named
      obtain ⟨_, _, same, _⟩ := planRefund_ok checked
      obtain ⟨ret, found, items⟩ := books.row
      have there := (requireReturn_ok required).1
      have target : target = id := by
        rw [← Db.findReturn_id there, ← same]
        exact mine
      rw [target, found] at there
      cases there
      rw [same, items]

/-- The request ends; what it holds of Stripe is written off. -/
theorem ReturnBooks.abandon (books : ReturnBooks id lines counter) (request : RequestId) :
    ReturnBooks id lines (counter.abandon request) := by
  have ended : Planned id lines none := by simp [Planned]
  unfold Counter.abandon
  split
  · rename_i plan sid holds
    apply books.advance ended books.once
    intro created
    by_cases mine : plan.ret.id = id
    · exact .inl (by simp [mine])
    · apply accounted_update (books.accounted created) (List.subset_cons_self _ _)
      intro other sid held
      rw [holds] at held
      cases held
      exact mine
  · rename_i other
    exact books.enter ended fun plan sid holds => absurd holds (other plan sid)

theorem callStripe_refunds {plan : ReturnRefundPlan} {reply : StripeReply} {sid : StripeRefundId}
    (called : Returns.callStripe reply.api plan = .ok (some sid)) : reply.refunds = true := by
  unfold Returns.callStripe at called
  cases asked : plan.request with
  | none => simp only [asked] at called; cases called
  | some request =>
      simp only [asked] at called
      cases reply with
      | created _ => rfl
      | lost _ => rfl
      | refused => cases called
      | unconfigured => cases called

theorem ReturnBooks.callStripe {request : RequestId} {plan : ReturnRefundPlan} {reply : StripeReply}
    (books : ReturnBooks id lines counter) (phase : counter.requests request = some (.refunding plan))
    (undisturbed : plan.ret.id = id → reply.refunds = true →
      returnStatus id counter.db ≠ some .refunded ∧ ¬ RefundUnderWay id counter.requests ∧ id ∉ counter.abandoned) :
    ReturnBooks id lines (counter.callStripe request plan reply) := by
  have mine (answer : Option StripeRefundId) : Planned id lines (some (.recording plan answer)) := by
    intro other named
    cases named
    exact books.plans request (.refunding plan) plan phase rfl
  have ended : Planned id lines none := by simp [Planned]
  have free : ∀ plan sid, counter.requests request = some (.recording plan (some sid)) → plan.ret.id ≠ id := by
    simp [phase]
  -- a refund Stripe makes now is the first one of its return
  have first (makes : reply.refunds = true) : (plan.ret.id :: counter.created).count id ≤ 1 := by
    by_cases same : plan.ret.id = id
    · obtain ⟨unrefunded, silent, present⟩ := undisturbed same makes
      have none : id ∉ counter.created := by
        intro created
        rcases books.accounted created with abandoned | refunded | recording
        · exact present abandoned
        · exact unrefunded refunded
        · exact silent recording
      rw [same, List.count_cons_self, List.count_eq_zero_of_not_mem none]
    · rw [List.count_cons_of_ne same]
      exact books.once
  unfold Counter.callStripe
  cases called : Returns.callStripe reply.api plan with
  | ok answer =>
      cases answer with
      | none => exact books.enter (mine none) free
      | some sid =>
          apply books.advance (mine (some sid)) (first (callStripe_refunds called))
          intro created
          by_cases same : plan.ret.id = id
          · exact .inr (.inr ⟨request, plan, sid, by simp, same⟩)
          · have before : id ∈ counter.created := by simpa [Ne.symm same] using created
            exact accounted_update (books.accounted before) (List.Subset.refl _) free
  | error failure =>
      cases reply with
      | lost sid =>
          apply books.advance ended (first rfl)
          intro created
          by_cases same : plan.ret.id = id
          · exact .inl (by simp [same])
          · have before : id ∈ counter.created := by simpa [Ne.symm same] using created
            exact accounted_update (books.accounted before) (List.subset_cons_self _ _) free
      | _ => exact books.enter ended free

theorem write_ok {phase : RequestPhase} {now : Instant} {target : ReturnId} {db after : Db}
    (wrote : phase.write now db = .ok after) (aimed : phase.target = some target) :
    ∃ change : Return → Return, after.returns = updateWhere (fun row => row.id = target) change db.returns ∧
      (∀ ret, (change ret).id = ret.id ∧ (change ret).items = ret.items) ∧
      ((after.stock = db.stock ∧ ∀ plan answer, phase ≠ .recording plan answer) ∨
        ∃ plan answer, phase = .recording plan answer ∧ (∀ ret, (change ret).status = .refunded) ∧
          after.stock = plan.ret.items.foldl (fun rows line => restocked target now line rows) db.stock) := by
  cases phase with
  | approving id =>
      cases aimed
      obtain ⟨_, rfl⟩ := Db.updateReturn_ok wrote
      exact ⟨_, rfl, fun _ => ⟨rfl, rfl⟩, .inl ⟨rfl, by simp⟩⟩
  | rejecting id =>
      cases aimed
      obtain ⟨_, rfl⟩ := Db.updateReturn_ok wrote
      exact ⟨_, rfl, fun _ => ⟨rfl, rfl⟩, .inl ⟨rfl, by simp⟩⟩
  | refunding plan => cases aimed
  | recording plan answer =>
      cases aimed
      obtain ⟨stock, ran, rfl⟩ := recordRefund_ok wrote
      rw [restockItems_alone] at ran
      cases ran
      exact ⟨_, rfl, fun _ => ⟨rfl, rfl⟩, .inr ⟨plan, answer, rfl, fun _ => rfl, rfl⟩⟩

theorem findReturn_write {target : ReturnId} {change : Return → Return} {db after : Db}
    (keeps : ∀ ret, (change ret).id = ret.id ∧ (change ret).items = ret.items)
    (returns : after.returns = updateWhere (fun row => row.id = target) change db.returns) (id : ReturnId) :
    after.findReturn id = (db.findReturn id).map fun ret => if target = id then change ret else ret := by
  have moved : after.findReturn id = (db.findReturn id).map fun ret => if ret.id = target then change ret else ret := by
    unfold Db.findReturn
    rw [returns]
    exact Db.findReturn_update db target id change fun ret => (keeps ret).1
  rw [moved]
  cases found : db.findReturn id with
  | none => rfl
  | some ret =>
      have same := Db.findReturn_id found
      by_cases mine : target = id
      · simp [mine, same]
      · simp [mine, same, Ne.symm mine]

theorem ReturnBooks.commit {request : RequestId} {db : Db} (books : ReturnBooks id lines counter)
    (keyed : ItemsKeyed db.stock) (row : ∃ ret, db.findReturn id = some ret ∧ ret.items = lines)
    (accounted : id ∈ counter.created → id ∈ counter.abandoned ∨ returnStatus id db = some .refunded ∨
      RefundUnderWay id (Function.update counter.requests request none))
    (untouched : returnStatus id db ≠ some .refunded → restocks id db.stock = [])
    (restocked : (restocks id db.stock).Sublist (lines.map lineUnits)) :
    ReturnBooks id lines { counter.enter request none with db } := by
  refine ⟨keyed, row, ?_, books.once, accounted, untouched, restocked⟩
  intro other phase plan entered
  by_cases same : other = request
  · simp [Counter.enter, same] at entered
  · exact books.plans other phase plan (by simpa [Counter.enter, same] using entered)

theorem ReturnBooks.write_other {request : RequestId} {phase : RequestPhase} {target : ReturnId} {now : Instant}
    {db : Db} (books : ReturnBooks id lines counter) (holds : counter.requests request = some phase)
    (aimed : phase.target = some target) (apart : target ≠ id) (wrote : phase.write now counter.db = .ok db) :
    ReturnBooks id lines { counter.enter request none with db } := by
  obtain ⟨change, returns, keeps, effect⟩ := write_ok wrote aimed
  have row : db.findReturn id = counter.db.findReturn id := by
    rw [findReturn_write keeps returns id]
    simp [apart]
  have status : returnStatus id db = returnStatus id counter.db := by rw [returnStatus, row, returnStatus]
  have stock : ItemsKeyed db.stock ∧ restocks id db.stock = restocks id counter.db.stock := by
    rcases effect with ⟨same, _⟩ | ⟨plan, answer, _, _, restocked⟩
    · rw [same]
      exact ⟨books.keyed, rfl⟩
    · obtain ⟨keyed, entered, _, total⟩ := restocks_lines target now id plan.ret.items counter.db.stock books.keyed
      rw [restocked]
      exact ⟨keyed, by simpa [apart] using total⟩
  apply books.commit stock.1
  · rw [row]
    exact books.row
  · intro created
    rw [status]
    apply accounted_update (books.accounted created) (List.Subset.refl _)
    intro plan sid held
    rw [holds] at held
    cases held
    cases aimed
    exact apart
  · rw [status, stock.2]
    exact books.untouched
  · rw [stock.2]
    exact books.restocked

/-- A write about the return while it is not REFUNDED: nothing has been put back
for it yet, and a refund puts back its lines. -/
theorem ReturnBooks.write_mine {request : RequestId} {phase : RequestPhase} {now : Instant} {db : Db}
    (books : ReturnBooks id lines counter) (holds : counter.requests request = some phase)
    (aimed : phase.target = some id) (unrefunded : returnStatus id counter.db ≠ some .refunded)
    (wrote : phase.write now counter.db = .ok db) : ReturnBooks id lines { counter.enter request none with db } := by
  obtain ⟨change, returns, keeps, effect⟩ := write_ok wrote aimed
  obtain ⟨ret, found, items⟩ := books.row
  have nothing := books.untouched unrefunded
  have row : db.findReturn id = some (change ret) := by
    rw [findReturn_write keeps returns id, found]
    simp
  have still : ∃ ret, db.findReturn id = some ret ∧ ret.items = lines := ⟨_, row, (keeps ret).2.trans items⟩
  rcases effect with ⟨same, other⟩ | ⟨plan, answer, rfl, refunded, restocked⟩
  · apply books.commit _ still
    · intro created
      rcases books.accounted created with abandoned | refunded | recording
      · exact .inl abandoned
      · exact absurd refunded unrefunded
      · refine .inr (.inr (refundUnderWay_update recording fun plan sid held => ?_))
        rw [holds] at held
        cases held
        exact absurd rfl (other plan (some sid))
    · intro _
      rw [same]
      exact nothing
    · rw [same]
      exact books.restocked
    · rw [same]
      exact books.keyed
  · cases aimed
    have status : returnStatus plan.ret.id db = some .refunded := by simp [returnStatus, row, refunded]
    obtain ⟨keyed, entered, some, total⟩ :=
      restocks_lines plan.ret.id now plan.ret.id plan.ret.items counter.db.stock books.keyed
    rw [← restocked] at keyed total
    apply books.commit keyed still
    · exact fun _ => .inr (.inl status)
    · exact fun other => absurd status other
    · rw [total, nothing, List.nil_append, if_pos rfl]
      rw [books.plans request _ plan holds rfl rfl] at some
      exact some

theorem ReturnBooks.write {request : RequestId} {phase : RequestPhase} {target : ReturnId} {now : Instant}
    (books : ReturnBooks id lines counter) (holds : counter.requests request = some phase)
    (aimed : phase.target = some target)
    (undisturbed : target = id → returnStatus id counter.db ≠ some .refunded) :
    ReturnBooks id lines (counter.write request phase now) := by
  unfold Counter.write
  cases wrote : phase.write now counter.db with
  | error failure => exact books.abandon request
  | ok db =>
      by_cases mine : target = id
      · subst mine
        exact books.write_mine holds aimed (undisturbed rfl) wrote
      · exact books.write_other holds aimed mine wrote

theorem chargeRefunded_returns (charge : ChargeObj) (db : Db) :
    (commit (onChargeRefunded charge) db).returns = db.returns ∧
      (commit (onChargeRefunded charge) db).stock = db.stock := by
  unfold commit
  cases handled : onChargeRefunded charge db with
  | error failure => exact ⟨rfl, rfl⟩
  | ok after =>
      rcases onChargeRefunded_ok handled with ⟨rfl, _⟩ | ⟨_, _, _, _, _, _, _, _, rfl⟩
      · exact ⟨rfl, rfl⟩
      · exact ⟨rfl, rfl⟩

theorem ReturnBooks.chargeRefunded (charge : ChargeObj) (books : ReturnBooks id lines counter) :
    ReturnBooks id lines { counter with db := Commerce.commit (onChargeRefunded charge) counter.db } := by
  obtain ⟨returns, stock⟩ := chargeRefunded_returns charge counter.db
  have row : (Commerce.commit (onChargeRefunded charge) counter.db).findReturn id = counter.db.findReturn id := by
    unfold Db.findReturn
    rw [returns]
  have status : returnStatus id (Commerce.commit (onChargeRefunded charge) counter.db) =
      returnStatus id counter.db := by rw [returnStatus, row, returnStatus]
  constructor
  · rw [stock]
    exact books.keyed
  · rw [row]
    exact books.row
  · exact books.plans
  · exact books.once
  · rw [status]
    exact books.accounted
  · rw [status, stock]
    exact books.untouched
  · rw [stock]
    exact books.restocked

theorem ReturnBooks.step (action : CounterAction) (books : ReturnBooks id lines counter)
    (undisturbed : Undisturbed id counter action) : ReturnBooks id lines (counter.step action) := by
  cases action with
  | approve request target => exact books.begin fun phase returned => plainRead_planned rfl returned
  | reject request target => exact books.begin fun phase returned => plainRead_planned rfl returned
  | refund request target => exact books.begin fun phase returned => readRefund_planned books returned
  | callStripe request reply =>
      simp only [Counter.step]
      split
      · rename_i plan phase
        exact books.callStripe phase (undisturbed plan phase)
      · exact books
  | write request now =>
      simp only [Counter.step]
      split
      · exact books
      · exact books
      · rename_i phase waiting holds
        rcases phase.target_cases with ⟨plan, rfl⟩ | ⟨target, aimed⟩
        · exact (waiting plan rfl).elim
        · exact books.write holds aimed fun mine => undisturbed phase holds (mine ▸ aimed)
  | giveUp request => exact books.abandon request
  | chargeRefunded charge => exact books.chargeRefunded charge

theorem abandon_db (request : RequestId) : (counter.abandon request).db = counter.db := by
  unfold Counter.abandon
  split <;> rfl

theorem begin_db (request : RequestId) (read : Tx (Option RequestPhase)) :
    (counter.begin request read).db = counter.db := by
  unfold Counter.begin
  split <;> rfl

/-- Stripe is called between the transactions. -/
theorem step_callStripe_db (request : RequestId) (reply : StripeReply) :
    (counter.step (.callStripe request reply)).db = counter.db := by
  simp only [Counter.step]
  split
  · unfold Counter.callStripe
    split
    · rfl
    · rfl
    · split <;> rfl
  · rfl

theorem staysRefunded_of_undisturbed {action : CounterAction} (undisturbed : Undisturbed id counter action) :
    StaysRefunded id counter action := by
  intro refunded
  cases action with
  | approve request target => simpa [Counter.step, begin_db] using refunded
  | reject request target => simpa [Counter.step, begin_db] using refunded
  | refund request target => simpa [Counter.step, begin_db] using refunded
  | callStripe request reply =>
      rw [step_callStripe_db]
      exact refunded
  | write request now =>
      simp only [Counter.step]
      split
      · exact refunded
      · exact refunded
      · rename_i phase waiting holds
        unfold Counter.write
        cases wrote : phase.write now counter.db with
        | error failure =>
            simp only [abandon_db]
            exact refunded
        | ok db =>
            rcases phase.target_cases with ⟨plan, rfl⟩ | ⟨target, aimed⟩
            · exact (waiting plan rfl).elim
            · have apart : target ≠ id := by
                intro mine
                exact undisturbed phase holds (mine ▸ aimed) refunded
              obtain ⟨change, returns, keeps, _⟩ := write_ok wrote aimed
              have same : db.findReturn id = counter.db.findReturn id := by
                rw [findReturn_write keeps returns id]
                simp [apart]
              show returnStatus id db = _
              rw [returnStatus, same]
              exact refunded
  | giveUp request => simpa [Counter.step, abandon_db] using refunded
  | chargeRefunded charge =>
      show returnStatus id (commit (onChargeRefunded charge) counter.db) = _
      unfold returnStatus Db.findReturn
      rw [(chargeRefunded_returns charge counter.db).1]
      exact refunded

theorem returnBooks_start {db : Db} {ret : Return} (keyed : ItemsKeyed db.stock) (found : db.findReturn id = some ret)
    (untouched : restocks id db.stock = []) : ReturnBooks id ret.items (Counter.start db) := by
  constructor
  · exact keyed
  · exact ⟨ret, found, rfl⟩
  · simp [Counter.start]
  · simp [Counter.start]
  · simp [Counter.start]
  · exact fun _ => untouched
  · show (restocks id db.stock).Sublist _
    rw [untouched]
    exact List.nil_sublist _

/-- Where no request about a return is disturbed between its check and its
write, the return is refunded and restocked once and stays REFUNDED. -/
theorem handled_once_of_undisturbed {db : Db} {ret : Return} {actions : List CounterAction}
    (keyed : ItemsKeyed db.stock) (found : db.findReturn id = some ret) (untouched : restocks id db.stock = [])
    (undisturbed : Along Counter.step (Undisturbed id) (Counter.start db) actions) :
    Visits Counter.step (HandledOnce id) (Counter.start db) actions ∧
      Along Counter.step (StaysRefunded id) (Counter.start db) actions := by
  have preserved : ∀ counter action, ReturnBooks id ret.items counter → Undisturbed id counter action →
      ReturnBooks id ret.items (counter.step action) := fun _ action books guarded => books.step action guarded
  have books := visits_of_along preserved (returnBooks_start keyed found untouched) undisturbed
  exact ⟨books.mono fun _ here => here.handledOnce,
    undisturbed.mono fun _ _ guarded => staysRefunded_of_undisturbed guarded⟩

def lampReturn : Return where
  id := 1
  orderId := 1
  status := .approved
  reason := none
  receivedAt := none
  refundedAt := none
  items := [⟨twoLamps, 2⟩]

def lampReturns : Db :=
  { lampRows (lampOrder .paid .paid) [lampPayment] with returns := [lampReturn] }

theorem lampReturns_keyed : ItemsKeyed lampReturns.stock := List.nodup_singleton _

/-- Two refund requests that both read the return before either writes. -/
theorem return_refunded_twice :
    ¬ ∀ id db ret actions, ItemsKeyed db.stock → db.findReturn id = some ret → restocks id db.stock = [] →
      Visits Counter.step (HandledOnce id) (Counter.start db) actions ∧
        Along Counter.step (StaysRefunded id) (Counter.start db) actions := by
  intro always
  have handled := always 1 lampReturns lampReturn
    [.refund 1 1, .refund 2 1, .callStripe 1 (.created 1), .callStripe 2 (.created 2)]
    lampReturns_keyed rfl rfl
  exact absurd handled.1.last.1 (by decide)

theorem handled_once_one_refund :
    Visits Counter.step (HandledOnce 1) (Counter.start lampReturns)
        [.refund 1 1, .callStripe 1 (.created 1), .write 1 5] ∧
      Along Counter.step (StaysRefunded 1) (Counter.start lampReturns)
        [.refund 1 1, .callStripe 1 (.created 1), .write 1 5] := by
  have found : lampReturns.findReturn 1 = some lampReturn := rfl
  refine handled_once_of_undisturbed lampReturns_keyed found rfl ⟨trivial, ?_, ?_, trivial⟩
  · intro plan _ _ _
    refine ⟨by decide, ?_, by decide⟩
    intro given
    obtain ⟨request, other, sid, recording, _⟩ := given
    have phases : ((Counter.start lampReturns).step (.refund 1 1)).requests =
        Function.update (fun _ => none) 1 (some (.refunding {
          ret := lampReturn, order := lampOrder .paid .paid, payment := some (lampPayment, 1), amount := 1000 })) := rfl
    rw [phases] at recording
    by_cases first : request = 1 <;> simp [first] at recording
  · intro phase _ _
    decide

end Aicos.Properties
