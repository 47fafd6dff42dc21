import Aicos.Inventory.Interleaving
import Aicos.Billing.DecrementStock
import Aicos.Returns.Restock
import Mathlib.Logic.Relation

namespace Aicos.Inventory

open Aicos.Commerce Aicos.Data Aicos.Transaction

/-! The stock loops with no other transaction between their statements: they
always finish, since an item that has been read is still there. -/

variable {rows : Inventory} {stock : InventoryItem}

theorem incrementOnHand_admitted {id : InventoryItemId} {delta : Int} {now : Instant}
    (there : ∃ row ∈ rows.items, row.id = id) :
    stockStore.admits (.incrementOnHand id delta now) rows = true := by
  obtain ⟨row, member, same⟩ := there
  exact List.any_eq_true.mpr ⟨row, member, by simpa using same⟩

theorem alone_increment {α : Type} {id : InventoryItemId} {delta : Int} {now : Instant}
    {movement : StockMovement} {rest : StockProgram α} (there : ∃ row ∈ rows.items, row.id = id) :
    Program.alone stockStore (.write (.incrementOnHand id delta now) (.write (.createMovement movement) rest)) rows =
      rest.alone stockStore {
        items := updateWhere (fun item => item.id = id) (addOnHand delta now) rows.items
        movements := rows.movements ++ [movement] } := by
  simp only [Program.alone, incrementOnHand_admitted there, if_true]
  rfl

theorem latestStock_present {variantId : VariantId}
    (found : Returns.latestStock variantId rows = some stock) :
    stock ∈ rows.items ∧ stock.variantId = variantId := by
  have member := (List.mem_insertionSort _).mp (List.mem_of_mem_head? (Option.mem_def.mpr found))
  simpa using List.mem_filter.mp member

def restocked (returnId : ReturnId) (now : Instant) (line : ReturnItem) (rows : Inventory) : Inventory :=
  match line.orderItem.variantId.bind fun variantId => Returns.latestStock variantId rows with
  | none => rows
  | some stock => {
      items := updateWhere (fun item => item.id = stock.id) (addOnHand line.quantity now) rows.items
      movements := rows.movements ++ [Returns.returnMovement returnId stock line.quantity] }

theorem restockItems_alone (returnId : ReturnId) (now : Instant) (lines : List ReturnItem) (rows : Inventory) :
    (Returns.restockItems returnId now lines).alone stockStore rows =
      .ok ((), lines.foldl (fun rows line => restocked returnId now line rows) rows) := by
  induction lines generalizing rows with
  | nil => rfl
  | cons line lines ih =>
      rw [List.foldl_cons]
      cases variant : line.orderItem.variantId with
      | none =>
          simp only [Returns.restockItems, restocked, variant, Option.bind_none]
          exact ih rows
      | some variantId =>
          simp only [Returns.restockItems, restocked, variant, Option.bind_some, Returns.restock,
            Program.query_bind, Program.read_bind, Program.alone]
          cases found : Returns.latestStock variantId rows with
          | none => exact ih rows
          | some stock =>
              have there : ∃ row ∈ rows.items, row.id = stock.id := ⟨stock, (latestStock_present found).1, rfl⟩
              exact (alone_increment there).trans (ih _)

/-! The greedy loop: what is on a variant's shelves bounds what it can take. -/

/-- The units of a variant that can be taken; a level below zero has none. -/
def onShelf (id : VariantId) (items : List InventoryItem) : Int :=
  totalWhere (fun item => item.variantId = id) (fun item => max item.onHand 0) items

theorem onShelf_nonneg (id : VariantId) (items : List InventoryItem) : 0 ≤ onShelf id items :=
  totalWhere_nonneg fun _ _ => Int.le_max_right _ _

def ItemsKeyed (rows : Inventory) : Prop :=
  (rows.items.map (·.id)).Nodup

structure Took (id : VariantId) (units : Int) (before after : Inventory) : Prop where
  ids : after.items.map (·.id) = before.items.map (·.id)
  shelf : ∀ other, onShelf other after.items = onShelf other before.items - if other = id then units else 0

theorem Took.none (id : VariantId) (rows : Inventory) : Took id 0 rows rows :=
  ⟨rfl, fun other => by split <;> omega⟩

theorem Took.trans {id : VariantId} {first second : Int} {before middle after : Inventory}
    (left : Took id first before middle) (right : Took id second middle after) :
    Took id (first + second) before after := by
  refine ⟨right.ids.trans left.ids, fun other => ?_⟩
  rw [right.shelf, left.shelf]
  split <;> omega

theorem took_increment (take : Int) (now : Instant) (movement : StockMovement) (keyed : ItemsKeyed rows)
    (member : stock ∈ rows.items) (positive : 0 < take) (enough : take ≤ stock.onHand) :
    Took stock.variantId take rows {
      items := updateWhere (fun item => item.id = stock.id) (addOnHand (-take) now) rows.items
      movements := rows.movements ++ [movement] } := by
  constructor
  · exact map_updateWhere fun _ => rfl
  · intro other
    have moved : onShelf other (updateWhere (fun item => item.id = stock.id) (addOnHand (-take) now) rows.items) =
        onShelf other rows.items - (if decide (stock.variantId = other) then max stock.onHand 0 else 0) +
          if decide (stock.variantId = other) then max (stock.onHand + -take) 0 else 0 :=
      totalWhere_updateWhere_key keyed member rfl
    by_cases mine : stock.variantId = other
    · simp only [mine, decide_true, if_true] at moved
      rw [if_pos mine.symm]
      show onShelf other (updateWhere _ _ rows.items) = _
      omega
    · simp only [mine, decide_false, Bool.false_eq_true, if_false] at moved
      rw [if_neg (Ne.symm mine)]
      show onShelf other (updateWhere _ _ rows.items) = _
      omega

/-- A take leaves the items still to be visited as they were read. -/
theorem listed_after_take {id : VariantId} {stocks : List InventoryItem} (take : Int) (now : Instant)
    (fresh : stock.id ∉ stocks.map (·.id)) (there : ∀ other ∈ stocks, other ∈ rows.items ∧ other.variantId = id) :
    ∀ other ∈ stocks, other ∈ updateWhere (fun item => item.id = stock.id) (addOnHand (-take) now) rows.items ∧
      other.variantId = id := by
  intro other member
  have apart : other.id ≠ stock.id := fun equal => fresh (List.mem_map.mpr ⟨other, member, equal⟩)
  obtain ⟨old, same⟩ := there other member
  exact ⟨mem_updateWhere.mpr ⟨other, old, by simp [apart]⟩, same⟩

/-- Units leave an item of one of the ordered variants, and a movement tells of it. -/
inductive Take (orderId : OrderId) (now : Instant) (ordered : VariantId → Prop) : Inventory → Inventory → Prop where
  | take {rows : Inventory} {stock : InventoryItem} {units : Int} (member : stock ∈ rows.items)
      (variant : ordered stock.variantId) (positive : 0 < units) (enough : units ≤ stock.onHand) :
      Take orderId now ordered rows {
        items := updateWhere (fun item => item.id = stock.id) (addOnHand (-units) now) rows.items
        movements := rows.movements ++ [Billing.saleMovement orderId stock units] }

/-- What a loop that runs alone does is one take after the other. -/
def Takes (orderId : OrderId) (now : Instant) (ordered : VariantId → Prop) : Inventory → Inventory → Prop :=
  Relation.ReflTransGen (Take orderId now ordered)

theorem Takes.mono {orderId : OrderId} {now : Instant} {few many : VariantId → Prop} {before after : Inventory}
    (more : ∀ id, few id → many id) (takes : Takes orderId now few before after) :
    Takes orderId now many before after := by
  refine Relation.ReflTransGen.mono (fun _ _ step => ?_) _ _ takes
  cases step with
  | take member variant positive enough => exact .take member (more _ variant) positive enough

theorem takeFrom_alone (orderId : OrderId) (now : Instant) (id : VariantId) (stocks : List InventoryItem)
    (remaining : Int) (rows : Inventory) (keyed : ItemsKeyed rows) (wanted : 0 ≤ remaining)
    (there : ∀ stock ∈ stocks, stock ∈ rows.items ∧ stock.variantId = id)
    (distinct : (stocks.map (·.id)).Nodup) :
    ∃ after, (Billing.takeFrom orderId now stocks remaining).alone stockStore rows =
        .ok (max (remaining - onShelf id stocks) 0, after) ∧
      Took id (min remaining (onShelf id stocks)) rows after ∧ Takes orderId now (· = id) rows after := by
  induction stocks generalizing remaining rows with
  | nil =>
      have empty : onShelf id [] = 0 := rfl
      have left : max (remaining - onShelf id []) 0 = remaining := by omega
      have taken : min remaining (onShelf id []) = 0 := by omega
      rw [left, taken]
      exact ⟨rows, rfl, Took.none id rows, .refl⟩
  | cons stock stocks ih =>
      obtain ⟨present, variant⟩ := there stock (by simp)
      obtain ⟨fresh, distinct⟩ := List.nodup_cons.mp distinct
      have shelf : onShelf id (stock :: stocks) = max stock.onHand 0 + onShelf id stocks := by
        simp [onShelf, variant]
      have others := onShelf_nonneg id stocks
      by_cases finished : remaining ≤ 0
      · have left : max (remaining - onShelf id (stock :: stocks)) 0 = remaining := by omega
        have taken : min remaining (onShelf id (stock :: stocks)) = 0 := by omega
        rw [left, taken, Billing.takeFrom, if_pos finished]
        exact ⟨rows, rfl, Took.none id rows, .refl⟩
      · by_cases empty : min stock.onHand remaining ≤ 0
        · have same : onShelf id (stock :: stocks) = onShelf id stocks := by omega
          simp only [Billing.takeFrom, if_neg finished, if_pos empty, same]
          exact ih remaining rows keyed wanted (fun other member => there other (by simp [member])) distinct
        · simp only [Billing.takeFrom, if_neg finished, if_neg empty, Program.exec_bind]
          generalize taking : min stock.onHand remaining = take at empty
          have positive : 0 < take := by omega
          have enough : take ≤ stock.onHand := by omega
          have took := took_increment take now (Billing.saleMovement orderId stock take) keyed present positive enough
          have still := listed_after_take take now fresh fun other member => there other (by simp [member])
          have kept : ItemsKeyed {
              items := updateWhere (fun item => item.id = stock.id) (addOnHand (-take) now) rows.items
              movements := rows.movements ++ [Billing.saleMovement orderId stock take] } := by
            rw [ItemsKeyed, took.ids]
            exact keyed
          obtain ⟨after, ran, rest, takes⟩ := ih (remaining - take) _ kept (by omega) still distinct
          have left : max (remaining - onShelf id (stock :: stocks)) 0 =
              max (remaining - take - onShelf id stocks) 0 := by omega
          have units : min remaining (onShelf id (stock :: stocks)) =
              take + min (remaining - take) (onShelf id stocks) := by omega
          rw [alone_increment ⟨stock, present, rfl⟩, left, units]
          exact ⟨after, ran, (variant ▸ took).trans rest, .head (.take present variant positive enough) takes⟩

def demand (id : VariantId) (lines : List OrderItem) : Int :=
  totalWhere (fun line => line.variantId = some id) (fun line => (line.quantity : Int)) lines

def unmet (id : VariantId) (shortfalls : List Billing.Shortfall) : Int :=
  totalWhere (fun short => short.item.variantId = some id) (·.remaining) shortfalls

theorem demand_nonneg (id : VariantId) (lines : List OrderItem) : 0 ≤ demand id lines :=
  totalWhere_nonneg fun _ _ => Int.natCast_nonneg _

theorem onShelf_stocksByOnHand (id : VariantId) (rows : Inventory) :
    onShelf id (Billing.stocksByOnHand id rows) = onShelf id rows.items := by
  have sorted : (Billing.stocksByOnHand id rows).Perm (rows.items.filter fun item => item.variantId = id) :=
    List.perm_insertionSort _ _
  rw [onShelf, totalWhere_perm sorted]
  simp [onShelf, totalWhere]

structure Served (lines : List OrderItem) (shortfalls : List Billing.Shortfall) (before after : Inventory) :
    Prop where
  ids : after.items.map (·.id) = before.items.map (·.id)
  positive : ∀ short ∈ shortfalls, 0 < short.remaining
  unmet : ∀ id, Inventory.unmet id shortfalls = max (demand id lines - onShelf id before.items) 0
  shelf : ∀ id, onShelf id after.items = onShelf id before.items - min (demand id lines) (onShelf id before.items)

theorem Served.nil (rows : Inventory) : Served [] [] rows rows := by
  constructor
  · rfl
  · simp
  · intro id
    have some := onShelf_nonneg id rows.items
    simp only [Inventory.unmet, demand, totalWhere_nil]
    omega
  · intro id
    have some := onShelf_nonneg id rows.items
    simp only [demand, totalWhere_nil]
    omega

theorem Served.untracked {line : OrderItem} {lines : List OrderItem} {shortfalls : List Billing.Shortfall}
    {before after : Inventory} (untracked : line.variantId = none) (rest : Served lines shortfalls before after) :
    Served (line :: lines) shortfalls before after := by
  have same (id : VariantId) : demand id (line :: lines) = demand id lines := by
    simp [demand, untracked]
  constructor
  · exact rest.ids
  · exact rest.positive
  · intro id
    rw [same, rest.unmet]
  · intro id
    rw [same, rest.shelf]

theorem Served.tracked {id : VariantId} {line : OrderItem} {lines : List OrderItem}
    {shortfalls : List Billing.Shortfall} {before middle after : Inventory} {remaining : Int}
    (tracked : line.variantId = some id) (left : remaining = max (line.quantity - onShelf id before.items) 0)
    (took : Took id (min line.quantity (onShelf id before.items)) before middle)
    (rest : Served lines shortfalls middle after) :
    Served (line :: lines)
      (if remaining > 0 then { item := line, remaining } :: shortfalls else shortfalls) before after := by
  have asked (other : VariantId) :
      demand other (line :: lines) = (if id = other then (line.quantity : Int) else 0) + demand other lines := by
    simp [demand, tracked]
  have lacked (other : VariantId) :
      Inventory.unmet other (if remaining > 0 then { item := line, remaining } :: shortfalls else shortfalls) =
        (if id = other then remaining else 0) + Inventory.unmet other shortfalls := by
    split
    · simp [Inventory.unmet, tracked]
    · split <;> omega
  constructor
  · exact rest.ids.trans took.ids
  · intro short member
    split at member
    · rename_i some
      rcases List.mem_cons.mp member with rfl | later
      · exact some
      · exact rest.positive short later
    · exact rest.positive short member
  · intro other
    have taken := took.shelf other
    have some := onShelf_nonneg other before.items
    have wanted := demand_nonneg other lines
    rw [lacked, asked, rest.unmet]
    by_cases mine : id = other
    · subst mine
      simp only [if_true] at taken ⊢
      omega
    · simp only [if_neg mine, if_neg (Ne.symm mine)] at taken ⊢
      omega
  · intro other
    have taken := took.shelf other
    have some := onShelf_nonneg other before.items
    have wanted := demand_nonneg other lines
    rw [asked, rest.shelf]
    by_cases mine : id = other
    · subst mine
      simp only [if_true] at taken ⊢
      omega
    · simp only [if_neg mine, if_neg (Ne.symm mine)] at taken ⊢
      omega

def Ordered (lines : List OrderItem) (id : VariantId) : Prop :=
  ∃ line ∈ lines, line.variantId = some id

theorem Ordered.cons {lines : List OrderItem} {id : VariantId} (ordered : Ordered lines id) (line : OrderItem) :
    Ordered (line :: lines) id := by
  obtain ⟨other, member, same⟩ := ordered
  exact ⟨other, List.mem_cons_of_mem line member, same⟩

theorem decrementStock_takes (orderId : OrderId) (now : Instant) (lines : List OrderItem) (rows : Inventory)
    (keyed : ItemsKeyed rows) :
    ∃ shortfalls after, (Billing.decrementStock orderId now lines).alone stockStore rows =
        .ok (shortfalls, after) ∧ Served lines shortfalls rows after ∧
      Takes orderId now (Ordered lines) rows after := by
  induction lines generalizing rows with
  | nil => exact ⟨[], rows, rfl, Served.nil rows, .refl⟩
  | cons line lines ih =>
      have later (id : VariantId) (ordered : Ordered lines id) : Ordered (line :: lines) id := ordered.cons line
      cases variant : line.variantId with
      | none =>
          obtain ⟨shortfalls, after, ran, served, takes⟩ := ih rows keyed
          refine ⟨shortfalls, after, ?_, served.untracked variant, takes.mono later⟩
          simp only [Billing.decrementStock, variant]
          exact ran
      | some id =>
          have there : ∀ stock ∈ Billing.stocksByOnHand id rows, stock ∈ rows.items ∧ stock.variantId = id := by
            intro stock member
            simpa using List.mem_filter.mp ((List.mem_insertionSort _).mp member)
          have distinct : ((Billing.stocksByOnHand id rows).map (·.id)).Nodup := by
            have sorted := (List.perm_insertionSort (fun first second : InventoryItem => first.onHand ≥ second.onHand)
              (rows.items.filter fun item => item.variantId = id)).map (·.id)
            exact sorted.nodup_iff.mpr (keyed.sublist ((List.filter_sublist).map _))
          obtain ⟨middle, ran, took, taken⟩ := takeFrom_alone orderId now id (Billing.stocksByOnHand id rows)
            line.quantity rows keyed (Int.natCast_nonneg _) there distinct
          rw [onShelf_stocksByOnHand] at ran took
          have still : ItemsKeyed middle := by
            rw [ItemsKeyed, took.ids]
            exact keyed
          obtain ⟨shortfalls, after, rest, served, takes⟩ := ih middle still
          have own (other : VariantId) (same : other = id) : Ordered (line :: lines) other :=
            ⟨line, List.mem_cons_self, same ▸ variant⟩
          refine ⟨_, after, ?_, Served.tracked variant rfl took served, (taken.mono own).trans (takes.mono later)⟩
          simp only [Billing.decrementStock, variant, Program.query_bind, Program.alone, Program.alone_bind, ran, rest]
          rfl

/-- `decrementStock` finishes, and the shelves bound what it takes. -/
theorem decrementStock_alone (orderId : OrderId) (now : Instant) (lines : List OrderItem) (rows : Inventory)
    (keyed : ItemsKeyed rows) :
    ∃ shortfalls after, (Billing.decrementStock orderId now lines).alone stockStore rows =
        .ok (shortfalls, after) ∧ Served lines shortfalls rows after := by
  obtain ⟨shortfalls, after, ran, served, _⟩ := decrementStock_takes orderId now lines rows keyed
  exact ⟨shortfalls, after, ran, served⟩

end Aicos.Inventory
