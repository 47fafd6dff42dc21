import Aicos.Inventory.Sequential
import Mathlib.Data.List.Forall2

namespace Aicos.Properties

open Aicos.Billing Aicos.Commerce Aicos.Data Aicos.Inventory Aicos.Transaction

/-! What `decrementStock` takes, item by item.  Every take leaves the other items alone
and keeps its own at zero or above, so the totals are those of the shelves. -/

/-- What the movements say was added to an item. -/
def movedBy (written : List StockMovement) (id : InventoryItemId) : Int :=
  totalWhere (fun movement => movement.inventoryItemId = id ∧ movement.type = .sale) (·.quantity) written

/-- An item before and after, with the movements written in between. -/
structure TakenFrom (ordered : VariantId → Prop) (written : List StockMovement) (old new : InventoryItem) : Prop where
  row : new = { old with onHand := new.onHand, updatedAt := new.updatedAt }
  falls : new.onHand ≤ old.onHand
  nonneg : 0 ≤ old.onHand → 0 ≤ new.onHand
  empty : old.onHand ≤ 0 → new = old
  unordered : ¬ ordered old.variantId → new = old
  moved : movedBy written old.id = -(old.onHand - new.onHand)

structure Drawn (ordered : VariantId → Prop) (written : List StockMovement) (before after : Inventory) : Prop where
  movements : after.movements = before.movements ++ written
  sales : ∀ movement ∈ written, movement.type = .sale
  items : List.Forall₂ (TakenFrom ordered written) before.items after.items

/-- The units of a variant that are gone. -/
def unitsTaken (id : VariantId) (before after : Inventory) : Int :=
  totalWhere (fun item => item.variantId = id) (·.onHand) before.items -
    totalWhere (fun item => item.variantId = id) (·.onHand) after.items

variable {ordered : VariantId → Prop} {first second written : List StockMovement} {old middle new : InventoryItem}
  {before after : Inventory} {orderId : OrderId} {now : Instant}

theorem TakenFrom.refl (ordered : VariantId → Prop) (item : InventoryItem) : TakenFrom ordered [] item item :=
  ⟨rfl, le_rfl, id, fun _ => rfl, fun _ => rfl, (Int.sub_self _).symm ▸ rfl⟩

theorem TakenFrom.trans (left : TakenFrom ordered first old middle) (right : TakenFrom ordered second middle new) :
    TakenFrom ordered (first ++ second) old new := by
  have sameId : middle.id = old.id := by rw [left.row]
  have sameVariant : middle.variantId = old.variantId := by rw [left.row]
  constructor
  · rw [right.row, left.row]
  · exact right.falls.trans left.falls
  · exact fun nonneg => right.nonneg (left.nonneg nonneg)
  · intro empty
    have same := left.empty empty
    rw [right.empty (same ▸ empty), same]
  · intro unordered
    rw [right.unordered (sameVariant ▸ unordered), left.unordered unordered]
  · have earlier := left.moved
    have later := right.moved
    rw [sameId] at later
    rw [movedBy, totalWhere_append]
    simp only [movedBy] at earlier later
    omega

theorem forall₂_takenFrom_trans {olds middles news : List InventoryItem}
    (left : List.Forall₂ (TakenFrom ordered first) olds middles)
    (right : List.Forall₂ (TakenFrom ordered second) middles news) :
    List.Forall₂ (TakenFrom ordered (first ++ second)) olds news := by
  induction left generalizing news with
  | nil =>
      cases right
      exact .nil
  | cons here _ ih =>
      cases right with
      | cons there rest => exact .cons (here.trans there) (ih rest)

theorem drawn_of_take (keyed : ItemsKeyed before) (step : Take orderId now ordered before after) :
    ∃ written, Drawn ordered written before after := by
  cases step with
  | @take stock units member variant positive enough =>
      refine ⟨[saleMovement orderId stock units], rfl, ?_, ?_⟩
      · intro movement there
        rw [List.mem_singleton.mp there]
        rfl
      · refine List.forall₂_map_right_iff.mpr (List.forall₂_same.mpr fun item there => ?_)
        have about : movedBy [saleMovement orderId stock units] item.id = if stock.id = item.id then -units else 0 := by
          by_cases same : stock.id = item.id <;> simp [movedBy, saleMovement, same]
        by_cases same : item.id = stock.id
        · obtain rfl : item = stock := List.inj_on_of_nodup_map keyed there member same
          have changed : (addOnHand (-units) now item).onHand = item.onHand + -units := rfl
          simp only [decide_true, if_true]
          refine ⟨rfl, ?_, fun _ => ?_, fun empty => ?_, fun unordered => absurd variant unordered, ?_⟩
          · omega
          · omega
          · omega
          · rw [about, if_pos rfl]
            omega
        · simp only [same, decide_false, Bool.false_eq_true, if_false]
          refine ⟨rfl, le_rfl, id, fun _ => rfl, fun _ => rfl, ?_⟩
          rw [about, if_neg (Ne.symm same)]
          omega

theorem Drawn.keyed (drawn : Drawn ordered written before after) (keyed : ItemsKeyed before) : ItemsKeyed after := by
  have ids : after.items.map (·.id) = before.items.map (·.id) := by
    have pairs := drawn.items
    generalize before.items = olds at pairs
    generalize after.items = news at pairs
    induction pairs with
    | nil => rfl
    | cons here _ ih => rw [List.map_cons, List.map_cons, ih, here.row]
  rw [ItemsKeyed, ids]
  exact keyed

theorem drawn_of_takes (keyed : ItemsKeyed before) (takes : Takes orderId now ordered before after) :
    ∃ written, Drawn ordered written before after := by
  induction takes with
  | refl =>
      refine ⟨[], (List.append_nil _).symm, by simp, ?_⟩
      exact List.forall₂_same.mpr fun item _ => TakenFrom.refl ordered item
  | tail _ step ih =>
      obtain ⟨earlier, drawn⟩ := ih
      obtain ⟨later, took⟩ := drawn_of_take (drawn.keyed keyed) step
      refine ⟨earlier ++ later, ?_, ?_, forall₂_takenFrom_trans drawn.items took.items⟩
      · rw [took.movements, drawn.movements, List.append_assoc]
      · exact List.forall_mem_append.mpr ⟨drawn.sales, took.sales⟩

/-- Where no item falls below zero, what a variant loses is what its shelves lose. -/
theorem unitsTaken_eq (drawn : Drawn ordered written before after) (id : VariantId) :
    unitsTaken id before after = onShelf id before.items - onShelf id after.items := by
  have pairs := drawn.items
  rw [unitsTaken, onShelf, onShelf]
  generalize before.items = olds at pairs
  generalize after.items = news at pairs
  induction pairs with
  | nil => rfl
  | @cons old new olds news here _ ih =>
      have variant : new.variantId = old.variantId := by rw [here.row]
      have level : old.onHand - new.onHand = max old.onHand 0 - max new.onHand 0 := by
        by_cases empty : old.onHand ≤ 0
        · rw [here.empty empty]
          omega
        · have kept := here.nonneg (by omega)
          omega
      simp only [totalWhere_cons, variant]
      split <;> omega

/-- `decrementStock` alone finishes and takes, of each variant, what is ordered of it and on its
shelves; it writes what it takes from an item, and takes from no item what is not there. -/
theorem decrementStock_takes_exactly (orderId : OrderId) (now : Instant) (lines : List OrderItem) {rows : Inventory}
    (keyed : ItemsKeyed rows) :
    ∃ shortfalls after written,
      (decrementStock orderId now lines).alone stockStore rows = .ok (shortfalls, after) ∧
        Drawn (Ordered lines) written rows after ∧
        ∀ id, unitsTaken id rows after = min (demand id lines) (onShelf id rows.items) := by
  obtain ⟨shortfalls, after, ran, served, takes⟩ := decrementStock_takes orderId now lines rows keyed
  obtain ⟨written, drawn⟩ := drawn_of_takes keyed takes
  refine ⟨shortfalls, after, written, ran, drawn, fun id => ?_⟩
  have left := served.shelf id
  rw [unitsTaken_eq drawn id]
  omega

section TwoShelves

def shelfOf (id : InventoryItemId) (onHand : Int) : InventoryItem where
  id := id
  variantId := 1
  locationId := id
  onHand := onHand
  reserved := 0
  reorderPoint := 0
  reorderQty := 0
  updatedAt := 0

def lampLine (id : OrderItemId) (variantId : Option VariantId) (quantity : Nat) : OrderItem where
  id := id
  variantId := variantId
  productTitle := "Lamp"
  variantTitle := none
  sku := none
  quantity := quantity
  unitPriceCents := 500
  totalCents := 500 * quantity

def twoShelves : Inventory where
  items := [shelfOf 1 3, shelfOf 2 (-2), shelfOf 3 1]
  movements := []

/-- Two lines of one variant, of which the second finds what the first has left. -/
def linesOfLamps : List OrderItem := [lampLine 1 (some 1) 2, lampLine 2 none 1, lampLine 3 (some 1) 4]

theorem lamps_take_exactly :
    ∃ shortfalls after written,
      (decrementStock 1 10 linesOfLamps).alone stockStore twoShelves = .ok (shortfalls, after) ∧
        Drawn (Ordered linesOfLamps) written twoShelves after ∧
        ∀ id, unitsTaken id twoShelves after = min (demand id linesOfLamps) (onShelf id twoShelves.items) :=
  decrementStock_takes_exactly 1 10 linesOfLamps (by unfold ItemsKeyed; decide)

end TwoShelves

end Aicos.Properties
