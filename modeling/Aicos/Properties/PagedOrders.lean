import Aicos.Orders.Listing
import Aicos.Storefront.Numbering
import Aicos.Storefront.Steps
import Aicos.Transition.Run

namespace Aicos.Properties

open Aicos.Billing Aicos.Commerce Aicos.Data Aicos.Orders Aicos.Storefront Aicos.Transition

/-! The order list of the admin, read page by page while checkouts and payments go on. -/

/-- What stays of an order as long as it is there, and what orders it. -/
structure OrderKey where
  createdAt : Instant
  id : OrderId
  number : Nat
deriving DecidableEq

def orderKey (order : Order) : OrderKey :=
  ⟨order.createdAt, order.id, order.number⟩

/-- No order is deleted, and a new one gets a time that no other has. -/
def KeepsOrders (shop : Shop) : ShopAction → Prop
  | .finish request => ∀ id, shop.requests request ≠ some (.failing id)
  | .createOrder _ _ _ now => ∀ order ∈ shop.db.orders, order.createdAt ≠ now
  | _ => True

def Timed (db : Db) : Prop :=
  (db.orders.map (·.createdAt)).Nodup

/-- What a step may do to the orders. -/
structure Grown (before after : Db) : Prop where
  timed : Timed after
  kept : before.orders.map orderKey ⊆ after.orders.map orderKey

section Steps

variable {db after : Db} {shop : Shop}

theorem map_orderKey_update (id : OrderId) (change : Order → Order)
    (keeps : ∀ order, orderKey (change order) = orderKey order) (orders : List Order) :
    (updateWhere (fun row => row.id = id) change orders).map orderKey = orders.map orderKey :=
  map_updateWhere keeps

theorem Grown.of_keys (timed : Timed db) (same : after.orders.map orderKey = db.orders.map orderKey) :
    Grown db after := by
  have times : after.orders.map (·.createdAt) = db.orders.map (·.createdAt) := by
    have both := congrArg (List.map OrderKey.createdAt) same
    simpa [List.map_map, Function.comp_def, orderKey] using both
  refine ⟨?_, by rw [same]; exact List.Subset.refl _⟩
  unfold Timed
  rw [times]
  exact timed

theorem Grown.refl (timed : Timed db) : Grown db db :=
  .of_keys timed rfl

theorem Grown.trans {last : Db} (first : Grown db after) (second : Grown after last) : Grown db last :=
  ⟨second.timed, fun _ member => second.kept (first.kept member)⟩

theorem grown_createOrder {plan : CheckoutPlan} {id : OrderId} {firstItemId : OrderItemId} {now : Instant}
    (timed : Timed db) (fresh : ∀ order ∈ db.orders, order.createdAt ≠ now)
    (created : Storefront.createOrder plan id firstItemId now db = .ok after) : Grown db after := by
  obtain ⟨_, _, rfl⟩ := Db.createOrder_ok_iff.mp created
  refine ⟨?_, ?_⟩
  · unfold Timed
    rw [List.map_append, List.map_singleton]
    refine List.nodup_append.mpr ⟨timed, List.nodup_singleton _, ?_⟩
    intro time old other new
    obtain ⟨order, member, rfl⟩ := List.mem_map.mp old
    rw [List.mem_singleton.mp new]
    exact fresh order member
  · rw [List.map_append]
    exact List.subset_append_left _ _

theorem grown_deliver (timed : Timed shop.db) (session : CheckoutSessionObj) (id : PaymentId) (now : Instant) :
    Grown shop.db (shop.deliver session id now).db := by
  have settles {result : Option Confirmation} {after : Db}
      (handled : onCheckoutCompleted session id now shop.db = .ok (result, after)) : Grown shop.db after := by
    obtain ⟨_, rfl⟩ | ⟨metadata, order, _, _, _, _, _, _, settled⟩ := onCheckoutCompleted_ok handled
    · exact .refl timed
    · obtain ⟨_, _, _, _, rfl⟩ := settle_ok settled
      exact .of_keys timed (map_orderKey_update order.id (paidOrder session now) (fun _ => rfl) shop.db.orders)
  unfold Shop.deliver
  split
  · exact .refl timed
  · split
    · exact .refl timed
    · rename_i handled
      exact settles handled
    · rename_i handled
      exact settles handled

theorem grown_commit {body : Db → Tx Db} (timed : Timed shop.db)
    (orders : ∀ after, body shop.db = .ok after → after.orders = shop.db.orders) :
    Grown shop.db (shop.commit body).db := by
  show Grown shop.db (Commerce.commit body shop.db)
  unfold Commerce.commit
  cases returned : body shop.db with
  | ok after => exact .of_keys timed (by rw [orders after returned])
  | error _ => exact .refl timed

theorem grown_step (timed : Timed shop.db) {action : ShopAction} (keeps : KeepsOrders shop action) :
    Grown shop.db (shop.step action).db := by
  cases action with
  | createCart slug token =>
      refine grown_commit timed fun after created => ?_
      obtain ⟨cart, rfl⟩ := createCart_ok created
      rfl
  | addItem slug token variantId quantity =>
      refine grown_commit timed fun after added => ?_
      obtain ⟨change, rfl, _⟩ := addItem_ok added
      rfl
  | setQuantity slug token variantId quantity =>
      refine grown_commit timed fun after set => ?_
      obtain ⟨change, rfl, _⟩ := setQuantity_ok set
      rfl
  | priceCart request configured slug dto =>
      simp only [Shop.step]
      split <;> exact .refl timed
  | readConnect request feeBps =>
      simp only [Shop.step]
      split <;> exact .refl timed
  | createOrder request id firstItemId now =>
      simp only [Shop.step]
      split
      · split
        · exact .refl timed
        · split
          · rename_i created
            exact grown_createOrder timed keeps created
          · exact .refl timed
      · exact .refl timed
  | createSession request reply =>
      simp only [Shop.step]
      split
      · cases reply <;> exact .refl timed
      · exact .refl timed
  | finish request =>
      simp only [Shop.step]
      split
      · split
        · rename_i recorded
          obtain ⟨_, rfl⟩ := Db.updateOrder_ok recorded
          exact .of_keys timed (map_orderKey_update _ (openedOrder _ _) (fun _ => rfl) shop.db.orders)
        · exact .refl timed
      · rename_i id failing
        exact absurd failing (keeps id)
      · exact .refl timed
  | deliver session id now => exact grown_deliver timed session id now

theorem grown_run (timed : Timed shop.db) {trace : List ShopAction} (keeps : Along Shop.step KeepsOrders shop trace) :
    Grown shop.db (run Shop.step shop trace).db := by
  induction trace generalizing shop with
  | nil => exact .refl timed
  | cons action rest ih =>
      have step := grown_step timed keeps.1
      exact step.trans (ih step.timed keeps.2)

end Steps

section Listings

variable {rows listed other more : List Order}

/-- Orders with different times are listed in one way. -/
theorem strictly_descending (distinct : (rows.map (·.createdAt)).Nodup)
    (descending : Descending Order.createdAt rows listed) :
    (listed.map orderKey).Pairwise fun first second => second.createdAt < first.createdAt := by
  have apart : (listed.map (·.createdAt)).Nodup := (descending.perm.map _).nodup_iff.mpr distinct
  rw [List.pairwise_map]
  rw [List.Nodup, List.pairwise_map] at apart
  refine (descending.sorted.and apart).imp fun both => ?_
  exact Nat.lt_of_le_of_ne both.1 (Ne.symm both.2)

/-- A list of more orders has the others in the same order. -/
theorem sublist_of_grown (distinct : (other.map (·.createdAt)).Nodup) (kept : rows.map orderKey ⊆ other.map orderKey)
    (few : Descending Order.createdAt rows listed) (many : Descending Order.createdAt other more)
    (first : (rows.map (·.createdAt)).Nodup) :
    (listed.map orderKey).Sublist (more.map orderKey) := by
  have sorted := strictly_descending first few
  have unique : (listed.map orderKey).Nodup := sorted.imp fun less same => by simp [same] at less
  have inside : listed.map orderKey ⊆ more.map orderKey := by
    intro key member
    have here : key ∈ rows.map orderKey := (few.perm.map orderKey).mem_iff.mp member
    exact (many.perm.map orderKey).mem_iff.mpr (kept here)
  have antisymm : Std.Antisymm fun first second : OrderKey => second.createdAt < first.createdAt :=
    ⟨fun _ _ less more => absurd less (Nat.lt_asymm more)⟩
  exact List.sublist_of_subperm_of_pairwise (unique.subperm inside) sorted (strictly_descending distinct many)

end Listings

/-- An admin who pages through the orders until a page is empty, while checkouts and
payments go on between two pages, sees every order that was there at the beginning, as long
as no failed checkout deletes one and no two orders have one time. -/
theorem paging_misses_no_order (shops : Nat → Shop) (orderBy : Nat → List Order → List Order)
    (ordered : ∀ index rows, Descending Order.createdAt rows (orderBy index rows)) (timed : Timed (shops 0).db)
    (goes_on : ∀ index, ∃ trace, Along Shop.step KeepsOrders (shops index) trace ∧
      shops (index + 1) = run Shop.step (shops index) trace)
    (size : Nat) (sized : 1 ≤ size ∧ size ≤ 100) (last : Nat)
    (done : (listOrders (orderBy last) ⟨pageAfter size sized last, none⟩ (shops last).db).items = []) :
    ∀ order ∈ (shops 0).db.orders, ∃ index < last,
      ∃ summary ∈ (listOrders (orderBy index) ⟨pageAfter size sized index, none⟩ (shops index).db).items,
        summary.id = order.id ∧ summary.number = order.number := by
  intro order member
  have times : ∀ index, Timed (shops index).db := by
    intro index
    induction index with
    | zero => exact timed
    | succ index ih =>
        obtain ⟨trace, keeps, moved⟩ := goes_on index
        rw [moved]
        exact (grown_run ih keeps).timed
  let snapshot := fun index => (orderBy index (shops index).db.orders).map orderKey
  have inserted : ∀ index, (snapshot index).Sublist (snapshot (index + 1)) := by
    intro index
    obtain ⟨trace, keeps, moved⟩ := goes_on index
    have grown := grown_run (times index) keeps
    rw [← moved] at grown
    exact sublist_of_grown grown.timed grown.kept (ordered _ _) (ordered _ _) (times index)
  have distinct : ∀ index, (snapshot index).Nodup := fun index =>
    (strictly_descending (times index) (ordered index _)).imp fun less same => by simp [same] at less
  have unfiltered (rows : List Order) : rows.filter (fun order => (none : Option OrderStatus).all fun status =>
      order.status = status) = rows := List.filter_true rows
  have shown (index : Nat) : (listOrders (orderBy index) ⟨pageAfter size sized index, none⟩ (shops index).db).items =
      (page size (index + 1) (orderBy index (shops index).db.orders)).map orderSummary := by
    rw [listOrders, paginate_items]
    simp only [pageAfter, unfiltered]
  have keys (index : Nat) : page size (index + 1) (snapshot index) =
      (page size (index + 1) (orderBy index (shops index).db.orders)).map orderKey := by
    simp only [snapshot, page, List.map_take, List.map_drop]
  have empty : page size (last + 1) (snapshot last) = [] := by
    rw [shown, List.map_eq_nil_iff] at done
    rw [keys, done, List.map_nil]
  have started : orderKey order ∈ snapshot 0 :=
    List.mem_map_of_mem ((ordered 0 _).perm.mem_iff.mpr member)
  obtain ⟨index, early, found⟩ := walk_misses_none sized.1 distinct inserted started empty
  rw [keys] at found
  obtain ⟨other, there, same⟩ := List.mem_map.mp found
  refine ⟨index, early, orderSummary other, ?_, congrArg OrderKey.id same, congrArg OrderKey.number same⟩
  rw [shown]
  exact List.mem_map_of_mem there

def firstOrder : Order where
  id := 1
  storeId := 1
  number := 1001
  status := .paid
  financialStatus := .paid
  currency := "USD"
  subtotalCents := 500
  taxCents := 0
  totalCents := 500
  applicationFeeCents := 0
  shippingAddress := none
  billingAddress := none
  email := none
  stripeCheckoutSessionId := none
  stripePaymentIntentId := none
  placedAt := some 10
  createdAt := 10
  items := []

def oneOrder : Db where
  tenantId := 1
  stores := [{ id := 1, slug := "lamps", name := "Lamps", status := .published, currency := "USD" }]
  variants := [{
    id := 7, product := { status := .active, title := "Lamp", slug := "lamp" }, title := "Default", sku := none
    priceCents := 500, inventoryPolicy := .continue, deletedAt := none }]
  stock := { items := [], movements := [] }
  carts := [{
    token := 1, storeId := 1, currency := "USD", convertedOrderId := none
    items := [{ variantId := 7, quantity := 2, unitPriceCents := 500 }] }]
  orders := [firstOrder]
  payments := []
  refunds := []
  returns := []
  connectAccount := none

def checkoutBetween : List ShopAction :=
  [.priceCart 1 true "lamps" ⟨1, none⟩, .readConnect 1 0, .createOrder 1 2 5 20]

/-- The shop at each page: an order is placed after the first. -/
def betweenPages : Nat → Shop
  | 0 => Shop.start oneOrder
  | _ + 1 => run Shop.step (Shop.start oneOrder) checkoutBetween

theorem descending_laterFirst (rows : List Order) : Descending Order.createdAt rows (rows.insertionSort laterFirst) :=
  ⟨List.perm_insertionSort laterFirst rows, List.pairwise_insertionSort laterFirst rows⟩

theorem paging_misses_not_the_first_order :
    ∃ index < 2, ∃ summary ∈ (listOrders (List.insertionSort laterFirst)
      ⟨pageAfter 1 ⟨by decide, by decide⟩ index, none⟩ (betweenPages index).db).items,
        summary.id = firstOrder.id ∧ summary.number = firstOrder.number := by
  have here : firstOrder ∈ (betweenPages 0).db.orders := List.mem_singleton_self _
  refine paging_misses_no_order betweenPages (fun _ => List.insertionSort laterFirst)
    (fun _ rows => descending_laterFirst rows) (List.nodup_singleton 10) (fun index => ?_) 1 ⟨by decide, by decide⟩ 2
    (by decide) firstOrder here
  cases index with
  | zero =>
      have fresh : ∀ order ∈ oneOrder.orders, order.createdAt ≠ 20 := by decide
      exact ⟨checkoutBetween, ⟨trivial, trivial, fresh, trivial⟩, rfl⟩
  | succ index => exact ⟨[], trivial, rfl⟩

end Aicos.Properties
