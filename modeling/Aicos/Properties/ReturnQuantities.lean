import Aicos.Settlement.Requests
import Mathlib.Algebra.Order.BigOperators.Group.List

namespace Aicos.Properties

open Aicos.Commerce Aicos.Billing Aicos.Data Aicos.Returns Aicos.Settlement Aicos.Transition

/-! How much of an order item its returns hold.  A request is checked line by
line against the ordered quantity, so the bound over all returns rests on what
each accepted request asks in total. -/

def unitsOf (id : OrderItemId) (items : List ReturnItem) : Nat :=
  (items.map fun line => if line.orderItem.id = id then line.quantity else 0).sum

def heldBy (id : OrderItemId) (ret : Return) : Nat :=
  if ret.status = .rejected then 0 else unitsOf id ret.items

def held (id : OrderItemId) (db : Db) : Nat :=
  (db.returns.map (heldBy id)).sum

def orderedItems (db : Db) : List OrderItem :=
  (db.orders.map (·.items)).flatten

/-- No order item is returned more often than it was ordered. -/
def WithinOrdered (db : Db) : Prop :=
  ∀ item ∈ orderedItems db, held item.id db ≤ item.quantity

def asked (id : OrderItemId) (dto : RequestReturnDto) : Nat :=
  (dto.items.map fun line => if line.orderItemId = id then line.quantity else 0).sum

/-- An accepted return request asks no more of an order item than the returns
that are not rejected leave. -/
def AsksWithin (worker : Worker) : Request → Prop
  | .requestReturn insensitive slug dto id =>
      (∃ after, requestReturn insensitive slug dto id worker.db = .ok after) →
        ∀ item ∈ orderedItems worker.db, held item.id worker.db + asked item.id dto ≤ item.quantity
  | _ => True

def ReturnsKeyed (db : Db) : Prop :=
  (db.returns.map (·.id)).Nodup

theorem itemById_some {items : List OrderItem} {id : OrderItemId} {item : OrderItem}
    (found : itemById items id = some item) : item ∈ items ∧ item.id = id := by
  have member := List.mem_reverse.mp (List.mem_of_find?_eq_some found)
  exact ⟨member, by simpa using List.find?_some found⟩

theorem checkLine_ok {items : List OrderItem} {line : ReturnLineInput} {checked : ReturnItem}
    (accepted : checkLine items line = .ok checked) :
    checked.orderItem.id = line.orderItemId ∧ checked.quantity = line.quantity := by
  unfold checkLine at accepted
  cases found : itemById items line.orderItemId with
  | none => simp only [found] at accepted; cases accepted
  | some item =>
      simp only [found] at accepted
      split at accepted
      · cases accepted
      · cases accepted
        exact ⟨(itemById_some found).2, rfl⟩

theorem unitsOf_checkLines {items : List OrderItem} {lines : List ReturnLineInput} {checked : List ReturnItem}
    (accepted : checkLines items lines = .ok checked) (id : OrderItemId) :
    unitsOf id checked = (lines.map fun line => if line.orderItemId = id then line.quantity else 0).sum := by
  induction lines generalizing checked with
  | nil => cases accepted; rfl
  | cons line lines ih =>
      obtain ⟨first, one, accepted⟩ := bind_eq_ok.mp accepted
      obtain ⟨rest, others, accepted⟩ := bind_eq_ok.mp accepted
      cases accepted
      obtain ⟨named, units⟩ := checkLine_ok one
      have tail := ih others
      simp only [unitsOf, List.map_cons, List.sum_cons, named, units] at tail ⊢
      rw [tail]

theorem orderedItems_update {id : OrderId} {db : Db} (change : Order → Order)
    (kept : ∀ order, (change order).items = order.items) :
    ((updateWhere (fun row => row.id = id) change db.orders).map (·.items)).flatten = orderedItems db := by
  rw [map_updateWhere kept]
  rfl

/-- What a request other than a return request leaves of orders and returns. -/
structure Quiet (before after : Db) : Prop where
  items : orderedItems after = orderedItems before
  ids : after.returns.map (·.id) = before.returns.map (·.id)
  lessHeld : ∀ id, held id after ≤ held id before

theorem Quiet.of_returns {before after : Db} (items : orderedItems after = orderedItems before)
    (returns : after.returns = before.returns) : Quiet before after :=
  ⟨items, by rw [returns], fun id => by rw [held, held, returns]⟩

theorem Quiet.of_update {before after : Db} {id : ReturnId} {ret : Return} {change : Return → Return}
    (keyed : ReturnsKeyed before) (found : before.findReturn id = some ret)
    (returns : after.returns = updateWhere (fun row => row.id = id) change before.returns)
    (items : orderedItems after = orderedItems before) (same : ∀ ret, (change ret).id = ret.id)
    (less : ∀ id, heldBy id (change ret) ≤ heldBy id ret) :
    Quiet before after := by
  refine ⟨items, by rw [returns, map_updateWhere same], fun item => ?_⟩
  rw [held, held, returns, updateWhere, List.map_map]
  apply List.sum_le_sum
  intro row member
  by_cases hit : row.id = id
  · have present : ret ∈ before.returns := List.mem_of_find?_eq_some found
    have equal : row = ret := List.inj_on_of_nodup_map keyed member present (hit.trans (Db.findReturn_id found).symm)
    simpa [equal, Db.findReturn_id found] using less item
  · simp [hit]

theorem handle_quiet {job : StripeJob} {db after : Db} (handled : handle job db = .ok after) :
    Quiet db after := by
  rcases handle_ok handled with ⟨session, confirmation, _, completed⟩ | ⟨intent, _, rfl⟩ |
    ⟨charge, _, refunded⟩ | ⟨account, _, rfl⟩ | ⟨_, rfl⟩
  · rcases onCheckoutCompleted_ok completed with ⟨_, rfl⟩ | ⟨_, order, _, _, _, _, _, _, settled⟩
    · exact .of_returns rfl rfl
    · obtain ⟨oversold, stock, _, _, rfl⟩ := settle_ok settled
      exact .of_returns (orderedItems_update (paidOrder session job.now) fun _ => rfl) rfl
  · exact .of_returns (by rw [onPaymentFailed_eq]; rfl) (by rw [onPaymentFailed_eq])
  · rcases onChargeRefunded_ok refunded with ⟨rfl, _⟩ | ⟨_, payment, _, fully, _, _, _, _, rfl⟩
    · exact .of_returns rfl rfl
    · exact .of_returns (orderedItems_update (refundedOrder fully) fun _ => rfl) rfl
  · exact .of_returns (by rw [onAccountUpdated_eq]; rfl) (by rw [onAccountUpdated_eq])
  · exact .of_returns rfl rfl

theorem refundOrder_quiet {stripe : Orders.StripeApi} {id : OrderId} {dto : Orders.RefundOrderDto} {db after : Db}
    (refunded : Orders.refund stripe id dto db = .ok after) : Quiet db after := by
  obtain ⟨plan, _, _, _, _, recorded⟩ := Orders.refund_ok refunded
  rw [Orders.recordRefund_ok recorded]
  exact .of_returns (orderedItems_update (refundedOrder plan.fully) fun _ => rfl) rfl

theorem refundReturn_quiet {stripe : Orders.StripeApi} {id : ReturnId} {now : Instant} {db after : Db}
    (keyed : ReturnsKeyed db) (refunded : Returns.refund stripe id now db = .ok after) : Quiet db after := by
  rcases Returns.refund_ok refunded with rfl | ⟨read, plan, _, required, planned, _, recorded⟩
  · exact .of_returns rfl rfl
  · obtain ⟨_, open_, ret, _, _, _⟩ := Returns.planRefund_ok planned
    obtain ⟨found, _, _⟩ := requireReturn_ok required
    obtain ⟨stock, _, rfl⟩ := Returns.recordRefund_ok recorded
    have present : db.findReturn plan.ret.id = some plan.ret := by rw [ret, Db.findReturn_id found, found]
    refine .of_update keyed present rfl ?_ (fun _ => rfl) ?_
    · cases plan.payment with
      | none => rfl
      | some pair => exact orderedItems_update (returnedOrder (plan.amount ≥ pair.1.amountCents)) fun _ => rfl
    · -- it was not rejected before, so it holds what it held
      intro id
      rw [ret]
      simp [heldBy, refundedReturn, open_]

theorem body_quiet {request : Request} {db after : Db} (keyed : ReturnsKeyed db)
    (other : ∀ insensitive slug dto id, request ≠ .requestReturn insensitive slug dto id)
    (ran : request.body db = .ok after) : Quiet db after := by
  cases request with
  | deliver job crash => exact handle_quiet ran
  | expire event => cases ran; exact .of_returns rfl rfl
  | refundOrder stripe id dto => exact refundOrder_quiet ran
  | requestReturn insensitive slug dto id => exact absurd rfl (other insensitive slug dto id)
  | approve id =>
      obtain ⟨ret, found, requested, rfl⟩ := approve_ok ran
      refine .of_update keyed found rfl rfl (fun _ => rfl) fun id => ?_
      simp [heldBy, requested, unitsOf]
  | reject id =>
      obtain ⟨ret, found, _, rfl⟩ := reject_ok ran
      refine .of_update keyed found rfl rfl (fun _ => rfl) fun id => ?_
      simp [heldBy]
  | refundReturn stripe id now => exact refundReturn_quiet keyed ran

theorem Quiet.within {before after : Db} (quiet : Quiet before after) (within : WithinOrdered before) :
    WithinOrdered after := by
  intro item member
  rw [quiet.items] at member
  exact Nat.le_trans (quiet.lessHeld item.id) (within item member)

/-- Accepting a return request adds what it asks to what is held. -/
theorem requestReturn_held {insensitive : String → String → Bool} {slug : String} {dto : RequestReturnDto}
    {id : ReturnId} {db after : Db} (requested : requestReturn insensitive slug dto id db = .ok after) :
    orderedItems after = orderedItems db ∧ (∀ item, held item after = held item db + asked item dto) ∧
      (ReturnsKeyed db → ReturnsKeyed after) := by
  obtain ⟨order, items, _, checked, fresh, rfl⟩ := requestReturn_ok requested
  refine ⟨rfl, fun item => ?_, fun keyed => ?_⟩
  · have units := unitsOf_checkLines checked item
    simp [held, heldBy, newReturn, units, asked]
  · simpa [ReturnsKeyed, newReturn, List.nodup_append] using And.intro keyed fresh

theorem step_keyed {worker : Worker} (request : Request) (keyed : ReturnsKeyed worker.db) :
    ReturnsKeyed (step worker request).db := by
  refine step_preserves keyed fun _ after ran => ?_
  cases request with
  | requestReturn insensitive slug dto id => exact (requestReturn_held ran).2.2 keyed
  | _ =>
      have quiet := body_quiet keyed (by simp) ran
      rw [ReturnsKeyed, quiet.ids]
      exact keyed

/-- One request keeps the bound exactly when, if it is an accepted return
request, it asks within it. -/
theorem within_step_iff {worker : Worker} {request : Request} (keyed : ReturnsKeyed worker.db)
    (within : WithinOrdered worker.db) :
    WithinOrdered (step worker request).db ↔ AsksWithin worker request := by
  cases request with
  | requestReturn insensitive slug dto id =>
      simp only [step, Request.body, AsksWithin, commit]
      cases ran : requestReturn insensitive slug dto id worker.db with
      | error failure => simp [within]
      | ok after =>
          obtain ⟨items, sum, _⟩ := requestReturn_held ran
          simp [WithinOrdered, items, sum]
  | _ =>
      refine ⟨fun _ => trivial, fun _ => step_preserves within fun _ after ran => ?_⟩
      exact (body_quiet keyed (by simp) ran).within within

/-- The returns that are not rejected stay within what was ordered, in every
state of a run, exactly when each accepted request asks within what is left. -/
theorem within_ordered_iff_asks_within {worker : Worker} (keyed : ReturnsKeyed worker.db)
    (within : WithinOrdered worker.db) {requests : List Request} :
    Visits step (fun worker => WithinOrdered worker.db) worker requests ↔
      Along step AsksWithin worker requests := by
  have framed : ∀ (worker : Worker) request, True → ReturnsKeyed worker.db → ReturnsKeyed (step worker request).db :=
    fun _ request _ keyed => step_keyed request keyed
  exact visits_iff_along framed (fun _ _ _ keyed within => within_step_iff keyed within)
    (fun _ _ => trivial) keyed within

instance (db : Db) : Decidable (WithinOrdered db) :=
  inferInstanceAs (Decidable (∀ item ∈ orderedItems db, held item.id db ≤ item.quantity))

def lampRequest (lines : List ReturnLineInput) (nonempty : lines ≠ []) : Request :=
  .requestReturn (· == ·) "lamps" ⟨"ada@example.com", 1001, none, lines, nonempty⟩ 1

def paidLamps : Worker where
  db := lampRows (lampOrder .paid .paid) [lampPayment]
  done := []

theorem paidLamps_keyed : ReturnsKeyed paidLamps.db := List.nodup_nil

/-- Two lines about one order item are checked one by one and accepted together. -/
theorem duplicate_lines_exceed_ordered :
    ¬ ∀ worker requests, ReturnsKeyed worker.db → WithinOrdered worker.db →
      Visits step (fun worker => WithinOrdered worker.db) worker requests := by
  intro always
  have visits := always paidLamps [lampRequest [bothLamps, bothLamps] (by simp)] paidLamps_keyed (by decide)
  exact absurd visits.last (by decide)

theorem within_ordered_one_request :
    Visits step (fun worker => WithinOrdered worker.db) paidLamps [lampRequest [bothLamps] (by simp)] ↔
      Along step AsksWithin paidLamps [lampRequest [bothLamps] (by simp)] :=
  within_ordered_iff_asks_within paidLamps_keyed (by decide)

end Aicos.Properties
