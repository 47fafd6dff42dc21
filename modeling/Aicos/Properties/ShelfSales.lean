import Aicos.Settlement.Requests
import Aicos.Storefront.Steps
import Aicos.Transition.Run

namespace Aicos.Properties

open Aicos.Commerce Aicos.Billing Aicos.Data Aicos.Inventory Aicos.Settlement Aicos.Storefront
  Aicos.Transition

/-! Units sold against units on hand, over every interleaving of carts,
checkouts and payments.

`assertStock` compares a cart line with the stock of its moment; nothing is
reserved, and neither checkout nor payment looks again. -/

def paidUnits (id : VariantId) (paid : List PaidOrder) : Int :=
  (paid.map fun order => demand id order.items).sum

def unmetUnits (id : VariantId) (paid : List PaidOrder) : Int :=
  (paid.map fun order => unmet id order.oversold).sum

/-- No variant with policy DENY is sold beyond what was on the shelves at the
start, and no payment left a line of it unfilled. -/
def SoldFromStock (start : Inventory) (shop : Shop) : Prop :=
  ∀ variant ∈ shop.db.variants, variant.inventoryPolicy = .deny →
    paidUnits variant.id shop.paid ≤ onShelf variant.id start.items ∧
      ∀ order ∈ shop.paid, ∀ short ∈ order.oversold, short.item.variantId ≠ some variant.id

/-- The payment settles an order whose DENY units are still on the shelves. -/
def PaidFromShelf (shop : Shop) : ShopAction → Prop
  | .deliver session _ _ =>
      ∀ order, settledBy session shop = some order → ∀ variant ∈ shop.db.variants,
        variant.inventoryPolicy = .deny → demand variant.id order.items ≤ onShelf variant.id shop.db.stock.items
  | _ => True

/-- The books of a run: what was paid for has left the shelves or was never there. -/
structure ShelfBooks (start : Inventory) (shop : Shop) : Prop where
  keyed : ItemsKeyed shop.db.stock
  positive : ∀ order ∈ shop.paid, ∀ short ∈ order.oversold, 0 < short.remaining
  balance : ∀ id, paidUnits id shop.paid + onShelf id shop.db.stock.items =
    onShelf id start.items + unmetUnits id shop.paid

theorem ShelfBooks.of_idle {start : Inventory} {before after : Shop} (idle : Idle before after)
    (books : ShelfBooks start before) : ShelfBooks start after := by
  obtain ⟨quiet, paid⟩ := idle
  constructor
  · rw [quiet.stock]
    exact books.keyed
  · rw [paid]
    exact books.positive
  · intro id
    rw [paid, quiet.stock]
    exact books.balance id

theorem ShelfBooks.deliver {start : Inventory} {shop : Shop} {session : CheckoutSessionObj} (id : PaymentId)
    (now : Instant) (books : ShelfBooks start shop) : ShelfBooks start (shop.deliver session id now) := by
  cases settled : settledBy session shop with
  | none =>
      rw [deliver_idle id now books.keyed settled]
      exact books
  | some order =>
      obtain ⟨oversold, stock, token, served, _, _, delivered⟩ := deliver_settles id now books.keyed settled
      rw [delivered]
      constructor
      · show (stock.items.map (·.id)).Nodup
        rw [served.ids]
        exact books.keyed
      · intro entry member
        rcases List.mem_append.mp member with old | new
        · exact books.positive entry old
        · cases List.mem_singleton.mp new
          exact served.positive
      · intro variant
        have before := books.balance variant
        have short := served.unmet variant
        have left : onShelf variant stock.items = _ := served.shelf variant
        simp only [paidUnits, unmetUnits, List.map_append, List.sum_append, List.map_cons, List.map_nil,
          List.sum_cons, List.sum_nil] at before ⊢
        show _ + onShelf variant stock.items = _
        omega

theorem ShelfBooks.step {start : Inventory} {shop : Shop} (action : ShopAction) (books : ShelfBooks start shop) :
    ShelfBooks start (shop.step action) := by
  cases action with
  | deliver session id now => exact books.deliver id now
  | _ => exact books.of_idle (step_idle shop (by simp))

theorem unmet_eq_zero {id : VariantId} {shortfalls : List Shortfall}
    (positive : ∀ short ∈ shortfalls, 0 < short.remaining) :
    unmet id shortfalls = 0 ↔ ∀ short ∈ shortfalls, short.item.variantId ≠ some id := by
  induction shortfalls with
  | nil => simp [unmet]
  | cons short shortfalls ih =>
      have later : ∀ short ∈ shortfalls, 0 < short.remaining := fun other member => positive other (by simp [member])
      have here := positive short (by simp)
      have rest : 0 ≤ unmet id shortfalls := totalWhere_nonneg fun other member => Int.le_of_lt (later other member)
      have total : unmet id (short :: shortfalls) =
          (if short.item.variantId = some id then short.remaining else 0) + unmet id shortfalls := by
        simp [unmet]
      rw [List.forall_mem_cons, ← ih later, total]
      by_cases mine : short.item.variantId = some id
      · simp only [mine, if_true, ne_eq, not_true, false_and, iff_false]
        omega
      · simp [mine]

theorem unmetUnits_eq_zero {id : VariantId} {paid : List PaidOrder}
    (filled : ∀ order ∈ paid, ∀ short ∈ order.oversold, short.item.variantId ≠ some id) : unmetUnits id paid = 0 := by
  apply List.sum_eq_zero
  intro units member
  obtain ⟨order, present, rfl⟩ := List.mem_map.mp member
  exact totalWhere_of_forall_not fun short short_member => by simpa using filled order present short short_member

theorem SoldFromStock.of_idle {start : Inventory} {before after : Shop} (sold : SoldFromStock start before)
    (idle : Idle before after) : SoldFromStock start after := by
  unfold SoldFromStock
  rw [idle.paid, idle.db.variants]
  exact sold

/-- One action keeps the promise exactly when, if it settles an order, its
units are still there. -/
theorem soldFromStock_step_iff {start : Inventory} {shop : Shop} (action : ShopAction)
    (books : ShelfBooks start shop) (sold : SoldFromStock start shop) :
    SoldFromStock start (shop.step action) ↔ PaidFromShelf shop action := by
  cases action with
  | deliver session id now =>
      show SoldFromStock start (shop.deliver session id now) ↔ _
      cases settled : settledBy session shop with
      | none =>
          rw [deliver_idle id now books.keyed settled]
          simp [PaidFromShelf, settled, sold]
      | some order =>
          obtain ⟨oversold, stock, token, served, _, _, delivered⟩ :=
            deliver_settles id now books.keyed settled
          simp only [PaidFromShelf, settled, Option.some.injEq, forall_eq']
          rw [delivered]
          constructor
          · intro after variant listed deny
            have filled := (after variant listed deny).2 _ (List.mem_append_right _ (List.mem_singleton.mpr rfl))
            have none := (unmet_eq_zero served.positive).mpr filled
            have short := served.unmet variant.id
            omega
          · intro there variant listed deny
            obtain ⟨within, filled⟩ := sold variant listed deny
            have enough := there variant listed deny
            have short := served.unmet variant.id
            -- the shelves cover the order, so they paid for all units so far
            have none : unmet variant.id oversold = 0 := by omega
            have balance := books.balance variant.id
            rw [unmetUnits_eq_zero filled] at balance
            constructor
            · simp only [paidUnits, List.map_append, List.sum_append, List.map_cons, List.map_nil,
                List.sum_cons, List.sum_nil] at balance ⊢
              omega
            · intro entry member
              rcases List.mem_append.mp member with old | new
              · exact filled entry old
              · cases List.mem_singleton.mp new
                exact (unmet_eq_zero served.positive).mp none
  | _ =>
      simp only [PaidFromShelf, iff_true]
      exact sold.of_idle (step_idle shop (by simp))

theorem shelfBooks_start {db : Db} (keyed : ItemsKeyed db.stock) : ShelfBooks db.stock (Shop.start db) := by
  constructor
  · exact keyed
  · simp [Shop.start]
  · simp [Shop.start, paidUnits, unmetUnits]

/-- The DENY variants of a shop are sold within their stock, in every state of
a run, exactly when every payment still finds its units. -/
theorem sold_from_stock_iff_paid_from_shelf {db : Db} (keyed : ItemsKeyed db.stock) {actions : List ShopAction} :
    Visits Shop.step (SoldFromStock db.stock) (Shop.start db) actions ↔
      Along Shop.step PaidFromShelf (Shop.start db) actions := by
  have framed : ∀ shop action, True → ShelfBooks db.stock shop → ShelfBooks db.stock (shop.step action) :=
    fun _ action _ books => books.step action
  have nothing : SoldFromStock db.stock (Shop.start db) := by
    intro variant _ _
    exact ⟨onShelf_nonneg _ _, by simp [Shop.start]⟩
  exact visits_iff_along framed (fun _ action _ books sold => soldFromStock_step_iff action books sold)
    (fun _ _ => trivial) (shelfBooks_start keyed) nothing

instance (start : Inventory) (shop : Shop) : Decidable (SoldFromStock start shop) :=
  inferInstanceAs (Decidable (∀ variant ∈ shop.db.variants, variant.inventoryPolicy = .deny → _ ∧ _))

def fillCart (token : CartToken) : List ShopAction :=
  [.createCart "lamps" token, .addItem "lamps" token 7 none]

/-- The checkout of a cart up to its open session; the request, the order, the
session and the intent have one number. -/
def checkOut (number : Nat) (token : CartToken) : List ShopAction :=
  [.priceCart number true "lamps" ⟨token, none⟩,
    .readConnect number 0,
    .createOrder number number number number,
    .createSession number (.created number (some number)),
    .finish number]

def payFor (number : Nat) (token : CartToken) : ShopAction :=
  .deliver { lampSession with
    id := number
    paymentIntent := some number
    metadata := some (sessionMetadata 1 number token) } number number

def lastLamp : Db :=
  { lampRows (lampOrder .paid .paid) [] with
    variants := [{
      id := 7, product := { status := .active, title := "Lamp", slug := "lamp" }, title := "Default", sku := none
      priceCents := 500, inventoryPolicy := .deny, deletedAt := none }]
    stock := {
      items := [{
        id := 1, variantId := 7, locationId := 3, onHand := 1, reserved := 0
        reorderPoint := 0, reorderQty := 0, updatedAt := 0 }]
      movements := [] }
    orders := [] }

theorem lastLamp_keyed : ItemsKeyed lastLamp.stock := List.nodup_singleton _

/-- Two carts get the last lamp and both are paid. -/
theorem last_lamp_sold_twice :
    ¬ ∀ db actions, ItemsKeyed db.stock → Visits Shop.step (SoldFromStock db.stock) (Shop.start db) actions := by
  intro always
  have visits := always lastLamp
    (fillCart 1 ++ fillCart 2 ++ checkOut 1 1 ++ checkOut 2 2 ++ [payFor 1 1, payFor 2 2]) lastLamp_keyed
  exact absurd visits.last (by decide)

theorem sold_from_stock_last_lamp :
    Visits Shop.step (SoldFromStock lastLamp.stock) (Shop.start lastLamp)
        (fillCart 1 ++ checkOut 1 1 ++ [payFor 1 1]) ↔
      Along Shop.step PaidFromShelf (Shop.start lastLamp)
        (fillCart 1 ++ checkOut 1 1 ++ [payFor 1 1]) :=
  sold_from_stock_iff_paid_from_shelf lastLamp_keyed

end Aicos.Properties
