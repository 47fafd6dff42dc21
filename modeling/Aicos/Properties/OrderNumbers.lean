import Aicos.Storefront.Numbering
import Aicos.Transition.Run

namespace Aicos.Properties

open Aicos.Commerce Aicos.Data Aicos.Storefront Aicos.Transition

/-! The next order number.  It follows the number of the latest order, so it is
free as long as the orders stand in one order by `createdAt` and by number. -/

/-- A checkout that runs alone gets a number that no order has, whichever of the latest orders it reads. -/
def NextFree (db : Db) : Prop :=
  ∀ last, isLatest db last = true → ∀ order ∈ db.orders, order.number ≠ nextNumber last

def InStep (db : Db) : Prop :=
  ∀ first ∈ db.orders, ∀ second ∈ db.orders, first.createdAt ≤ second.createdAt → first.number ≤ second.number

/-- An order that is created stands to every other one by its stamp as it does by its number;
nothing is asked of an order that the unique number refuses. -/
def TakesItsPlace (numbering : Numbering) : NumberAction → Prop
  | .createOrder request id firstItemId now => ∀ plan number after,
      numbering.requests request = some (.read plan number) →
      numbering.db.createOrder (draftOrder plan id firstItemId number now) = .ok after →
      ∀ other ∈ numbering.db.orders,
        (other.createdAt < now ∧ other.number < number) ∨ (now < other.createdAt ∧ number < other.number)
  | _ => True

variable {db after : Db}

theorem InStep.nextFree (inStep : InStep db) : NextFree db := by
  intro last latest order member
  cases last with
  | none =>
      have empty : db.orders = [] := of_decide_eq_true latest
      rw [empty] at member
      cases member
  | some last =>
      obtain ⟨present, all⟩ := of_decide_eq_true latest
      have before : order.createdAt ≤ last.createdAt := of_decide_eq_true (List.all_eq_true.mp all order member)
      have smaller := inStep order member last present before
      simp only [nextNumber]
      split <;> omega

/-- Orders may go, and change in other columns. -/
theorem InStep.mono (inStep : InStep db)
    (kept : ∀ order ∈ after.orders, ∃ old ∈ db.orders, old.createdAt = order.createdAt ∧ old.number = order.number) :
    InStep after := by
  intro first one second two before
  obtain ⟨firstOld, firstMember, firstStamp, firstNumber⟩ := kept first one
  obtain ⟨secondOld, secondMember, secondStamp, secondNumber⟩ := kept second two
  rw [← firstNumber, ← secondNumber]
  apply inStep firstOld firstMember secondOld secondMember
  rw [firstStamp, secondStamp]
  exact before

theorem InStep.succeed {id : OrderId} {session : CheckoutSessionId} {intent : Option PaymentIntentId}
    (inStep : InStep db) (recorded : recordSession id session intent db = .ok after) : InStep after := by
  obtain ⟨_, rfl⟩ := Db.updateOrder_ok recorded
  refine inStep.mono fun order member => ?_
  obtain ⟨old, present, rfl⟩ := mem_updateWhere.mp member
  refine ⟨old, present, ?_⟩
  by_cases hit : old.id = id <;> simp [hit, openedOrder]

theorem InStep.rollBack {id : OrderId} (inStep : InStep db) : InStep (commit (Db.deleteOrder id) db) := by
  unfold commit
  cases ran : db.deleteOrder id with
  | error failure => exact inStep
  | ok after =>
      obtain ⟨_, rfl⟩ := Db.deleteOrder_ok ran
      exact inStep.mono fun order member => ⟨order, List.mem_of_mem_filter member, rfl, rfl⟩

theorem InStep.createOrder {order : Order} (inStep : InStep db)
    (place : ∀ other ∈ db.orders, (other.createdAt < order.createdAt ∧ other.number < order.number) ∨
      (order.createdAt < other.createdAt ∧ order.number < other.number))
    (created : db.createOrder order = .ok after) : InStep after := by
  obtain ⟨_, _, rfl⟩ := Db.createOrder_ok_iff.mp created
  intro first one second two before
  rcases List.mem_append.mp one with old | new <;> rcases List.mem_append.mp two with old' | new'
  · exact inStep first old second old' before
  · obtain rfl := List.mem_singleton.mp new'
    rcases place first old with ⟨_, smaller⟩ | ⟨later, _⟩
    · exact Nat.le_of_lt smaller
    · exact absurd before (Nat.not_le.mpr later)
  · obtain rfl := List.mem_singleton.mp new
    rcases place second old' with ⟨earlier, _⟩ | ⟨_, larger⟩
    · exact absurd before (Nat.not_le.mpr earlier)
    · exact Nat.le_of_lt larger
  · obtain rfl := List.mem_singleton.mp new
    obtain rfl := List.mem_singleton.mp new'
    exact Nat.le_refl _

theorem inStep_step {numbering : Numbering} {action : NumberAction} (inStep : InStep numbering.db)
    (place : TakesItsPlace numbering action) : InStep (numbering.step action).db := by
  cases action with
  | readLast request plan last =>
      simp only [Numbering.step]
      split
      · split <;> exact inStep
      · exact inStep
  | createOrder request id firstItemId now =>
      simp only [Numbering.step]
      split
      · rename_i plan number read
        split
        · rename_i created
          exact inStep.createOrder (place plan number _ read created) created
        · exact inStep
      · exact inStep
  | succeed request session intent =>
      simp only [Numbering.step]
      split
      · split
        · rename_i recorded
          exact inStep.succeed recorded
        · exact inStep
      · exact inStep
  | rollBack request =>
      simp only [Numbering.step]
      split
      · exact inStep.rollBack
      · exact inStep
  | stop request => exact inStep

/-- From orders that stand in one order by stamp and number, as none at all do: as long as every
order that is created takes its place, a checkout that runs alone gets a free number in every
state of every run. -/
theorem next_free_of_takes_its_place {db : Db} (inStep : InStep db) {actions : List NumberAction}
    (places : Along Numbering.step TakesItsPlace (Numbering.start db) actions) :
    Visits Numbering.step (fun numbering => NextFree numbering.db) (Numbering.start db) actions := by
  have preserved : ∀ numbering action, InStep numbering.db → TakesItsPlace numbering action →
      InStep (numbering.step action).db := fun _ _ => inStep_step
  have visits : Visits Numbering.step (fun numbering => InStep numbering.db) (Numbering.start db) actions :=
    visits_of_along preserved inStep places
  exact visits.mono fun _ inStep => inStep.nextFree

def lampPlan : CheckoutPlan where
  priced := {
    store := { id := 1, slug := "lamps", name := "Lamps", status := .published, currency := "USD" }
    dto := { token := 1, email := none }
    lines := [{
      variantId := 7, productTitle := "Lamp", variantTitle := "Default", sku := none
      quantity := 1, unitPriceCents := 500, totalCents := 500 }] }
  useConnect := false
  applicationFeeCents := 0
  destination := none

def noOrders : Db where
  tenantId := 1
  stores := [lampPlan.priced.store]
  variants := []
  stock := { items := [], movements := [] }
  carts := []
  orders := []
  payments := []
  refunds := []
  returns := []
  connectAccount := none

/-- Two checkouts one after the other, the second on a server whose clock says `now`. -/
def secondAt (now : Instant) : List NumberAction :=
  [.readLast 1 lampPlan none, .createOrder 1 1 1 10, .succeed 1 1 none,
    .readLast 2 lampPlan (some (openedOrder 1 none (draftOrder lampPlan 1 1 1001 10))), .createOrder 2 2 2 now]

/-- The second order is stamped before the first, which stays the latest. -/
theorem number_taken_by_earlier_stamp :
    ¬ ∀ db actions, db.orders = [] →
      Visits Numbering.step (fun numbering => NextFree numbering.db) (Numbering.start db) actions := by
  intro always
  have free := (always noOrders (secondAt 5) rfl).last
  exact absurd (free (some (openedOrder 1 none (draftOrder lampPlan 1 1 1001 10))) (by decide)) (by decide)

/-- Two checkouts read 1001 and would make 1002; the second is refused, after a third has made 1003. -/
def refusedBetween : List NumberAction :=
  [.readLast 1 lampPlan none, .createOrder 1 1 1 10, .readLast 2 lampPlan (some (draftOrder lampPlan 1 1 1001 10)),
    .readLast 3 lampPlan (some (draftOrder lampPlan 1 1 1001 10)), .createOrder 2 2 2 11,
    .readLast 4 lampPlan (some (draftOrder lampPlan 2 2 1002 11)), .createOrder 4 4 4 12, .createOrder 3 3 3 13]

theorem next_free_clocks_agree :
    Visits Numbering.step (fun numbering => NextFree numbering.db) (Numbering.start noOrders) refusedBetween := by
  apply next_free_of_takes_its_place (by simp [InStep, noOrders])
  refine ⟨trivial, ?_, trivial, trivial, ?_, trivial, ?_, ?_, trivial⟩
  · intro plan number after read created other member
    cases member
  · intro plan number after read created other member
    cases read
    obtain rfl := List.mem_singleton.mp member
    exact .inl ⟨by decide, by decide⟩
  · intro plan number after read created other member
    cases read
    rcases List.mem_cons.mp member with rfl | member
    · exact .inl ⟨by decide, by decide⟩
    · obtain rfl := List.mem_singleton.mp member
      exact .inl ⟨by decide, by decide⟩
  · intro plan number after read created
    cases read
    cases created

end Aicos.Properties
