import Aicos.Properties.StockLedger

namespace Aicos.Properties

open Aicos.Commerce Aicos.Inventory Aicos.Data Aicos.Transition
open Aicos.Transaction Aicos.Transaction.ReadCommitted

/-! On-hand levels below zero.  The guard of `adjust` and the take of
`decrementStock` are computed from a value read earlier, while the write is
relative, so they hold only as long as nobody lowers the row in between. -/

def Unadjusted (movements : List StockMovement) (id : InventoryItemId) : Prop :=
  ∀ movement ∈ movements, movement.inventoryItemId = id → movement.type ≠ .adjustment

/-- An item without an `ADJUSTMENT` movement is not below zero. -/
def NonNegative (rows : Inventory) : Prop :=
  ∀ item ∈ rows.items, Unadjusted rows.movements item.id → 0 ≤ item.onHand

/-- A lowering update does not meet a row that has fallen, since the transaction
read it as `seen`, to less than it takes. -/
def Undercut (seen rows : Inventory) : StockWrite → Prop
  | .incrementOnHand id delta _ => delta < 0 ∧ ∃ row ∈ rows.items, row.id = id ∧
      Unadjusted rows.movements id ∧ (∃ old ∈ seen.items, old.id = id ∧ row.onHand < old.onHand) ∧
      row.onHand + delta < 0
  | _ => False

def NotUndercut (seen rows : Inventory) (statement : StockWrite) : Prop :=
  ¬ Undercut seen rows statement

abbrev LevelOutline :=
  Outline stockStore NonNegative StockRely NotUndercut
    (fun pending rows => NonNegative (stockStore.view pending rows)) (ε := HttpError)

theorem Unadjusted.mono {fewer more : List StockMovement} {id : InventoryItemId}
    (unadjusted : Unadjusted more id) (subset : fewer ⊆ more) : Unadjusted fewer id :=
  fun movement posted => unadjusted movement (subset posted)

section Levels

variable {pending : List StockWrite} {seen rows now : Inventory}

/-- What a transaction sees stays non-negative while others commit: its own rows
are locked, and the rows it has not written are the committed ones. -/
theorem NonNegative.stable (levels : NonNegative (stockStore.view pending rows))
    (committed : NonNegative now) (rely : StockRely (stockStore.Holds pending) rows now) :
    NonNegative (stockStore.view pending now) := by
  intro item present unadjusted
  by_cases mine : stockStore.Holds pending (.item item.id)
  · have views := rely.view fun _ holds => holds
    exact levels item (views.locked item present mine) (unadjusted.mono views.ledger)
  · have foreign : StockRely (· = .item item.id) now (stockStore.view pending now) :=
      .of_view fun key same holds => mine (same ▸ holds)
    exact committed item (foreign.locked item present rfl) (unadjusted.mono foreign.ledger)

theorem NonNegative.movement {movement : StockMovement} (levels : NonNegative rows) :
    NonNegative ((StockWrite.createMovement movement).apply rows) :=
  fun item present unadjusted =>
    levels item present (unadjusted.mono (List.subset_append_left _ _))

theorem NonNegative.created {item : InventoryItem} (levels : NonNegative rows) (stocked : 0 ≤ item.onHand) :
    NonNegative ((StockWrite.createItem item).apply rows) := by
  intro other present unadjusted
  rcases List.mem_append.mp present with old | new
  · exact levels other old unadjusted
  · exact (List.mem_singleton.mp new) ▸ stocked

theorem NonNegative.increment {id : InventoryItemId} {delta : Int} {at_ : Instant}
    (levels : NonNegative rows)
    (enough : ∀ row ∈ rows.items, row.id = id → Unadjusted rows.movements id →
      0 ≤ row.onHand → 0 ≤ row.onHand + delta) :
    NonNegative ((StockWrite.incrementOnHand id delta at_).apply rows) := by
  intro item present unadjusted
  rcases mem_updateRow.mp present with ⟨_, old⟩ | ⟨old, member, hit, rfl⟩
  · exact levels item old unadjusted
  · have quiet : Unadjusted rows.movements old.id := unadjusted
    exact enough old member hit (hit ▸ quiet) (levels old member quiet)

theorem NonNegative.reorder {id : InventoryItemId} {point qty : Option Int} {at_ : Instant}
    (levels : NonNegative rows) : NonNegative ((StockWrite.setReorder id point qty at_).apply rows) := by
  intro item present unadjusted
  rcases mem_updateRow.mp present with ⟨_, old⟩ | ⟨old, member, hit, rfl⟩
  · exact levels item old unadjusted
  · exact levels old member unadjusted

theorem level_done (levels : NonNegative (stockStore.view pending rows)) :
    LevelOutline (.done ()) pending seen rows :=
  fun _ committed rely => levels.stable committed rely

theorem level_read {next : Inventory → StockProgram Unit}
    (levels : NonNegative (stockStore.view pending rows))
    (rest : ∀ now, NonNegative (stockStore.view pending now) →
      LevelOutline (next (stockStore.view pending now)) pending (stockStore.view pending now) now) :
    LevelOutline (.read next) pending seen rows :=
  fun now committed rely => rest now (levels.stable committed rely)

theorem level_write {statement : StockWrite} {next : StockProgram Unit}
    (levels : NonNegative (stockStore.view pending rows))
    (kept : ∀ now, NonNegative (stockStore.view pending now) →
      NotUndercut seen (stockStore.view pending now) statement →
      NonNegative (statement.apply (stockStore.view pending now)))
    (rest : ∀ now, NonNegative (stockStore.view (pending ++ [statement]) now) →
      LevelOutline next (pending ++ [statement]) seen now) :
    LevelOutline (.write statement next) pending seen rows := by
  intro now committed rely _ guarded
  have written := kept now (levels.stable committed rely) guarded
  exact rest now (by rw [Store.view_concat]; exact written)

theorem NonNegative.checked {old : InventoryItem} {delta : Int} {at_ : Instant}
    (levels : NonNegative rows) (read : old ∈ seen.items) (enough : 0 ≤ old.onHand + delta)
    (guarded : NotUndercut seen rows (.incrementOnHand old.id delta at_)) :
    NonNegative ((StockWrite.incrementOnHand old.id delta at_).apply rows) := by
  refine levels.increment fun row present same unadjusted level => ?_
  -- what was enough for the row as read can only fail on a row that has fallen
  by_contra short
  have lowered : row.onHand < old.onHand := by omega
  exact guarded ⟨by omega, row, present, same, unadjusted, ⟨old, read, rfl, lowered⟩, by omega⟩

theorem seed_levels {created : InventoryItem} (stocked : 0 ≤ created.onHand)
    (levels : NonNegative (stockStore.view pending rows)) :
    LevelOutline (seed created).discard pending seen rows := by
  refine level_write levels (fun _ here _ => here.created stocked) fun now inserted => ?_
  by_cases positive : created.onHand > 0
  · simp only [Program.bind, if_pos positive]
    exact level_write inserted (fun _ here _ => here.movement) fun later posted => level_done posted
  · simp only [Program.bind, if_neg positive]
    exact level_done inserted

theorem create_levels (id : InventoryItemId) (dto : CreateInventoryItemDto) (now : Instant)
    (levels : NonNegative rows) : LevelOutline (StockRequest.program (.create id dto now)) [] rows rows := by
  refine level_read levels fun here levels => ?_
  cases found : findSlot dto.variantId dto.locationId (stockStore.view [] here) with
  | some existing => simp only [Program.bind, found]; trivial
  | none =>
      simp only [Program.bind, found]
      exact seed_levels (Int.natCast_nonneg _) levels

theorem findOne_levels (id : InventoryItemId) (levels : NonNegative rows) :
    LevelOutline (StockRequest.program (.findOne id)) [] rows rows := by
  refine level_read levels fun here levels => ?_
  cases found : findItem id (stockStore.view [] here) with
  | none => simp only [Program.bind, found]; trivial
  | some item => simp only [Program.bind, found]; exact level_done levels

theorem update_levels (id : InventoryItemId) (dto : UpdateInventoryItemDto) (now : Instant)
    (levels : NonNegative rows) : LevelOutline (StockRequest.program (.update id dto now)) [] rows rows :=
  level_write levels (fun _ here _ => here.reorder) fun _ written =>
    level_read written fun _ last => level_done last

/-- The check of `adjust` speaks of the row as it was read, or of one just created. -/
theorem applyDelta_levels {item : InventoryItem} {dto : CreateAdjustmentDto} {now : Instant}
    (known : item ∈ seen.items ∨ item.onHand = 0)
    (levels : NonNegative (stockStore.view pending rows)) :
    LevelOutline (applyDelta item dto now).discard pending seen rows := by
  by_cases refused : item.onHand + dto.delta < 0 ∧ dto.type ∉ negativeAllowedTypes
  · rw [applyDelta, if_pos refused]
    trivial
  · rw [applyDelta, if_neg refused]
    refine level_write levels (fun _ here _ => here.movement) fun later posted => ?_
    refine level_write posted (fun last here guarded => ?_) fun last added => ?_
    · by_cases short : item.onHand + dto.delta < 0
      · -- only an ADJUSTMENT gets here, and its movement is already in the ledger
        have type : dto.type = .adjustment := by
          simpa [short, negativeAllowedTypes] using refused
        refine here.increment fun row _ _ unadjusted _ => ?_
        rw [Store.view_concat] at unadjusted
        exact absurd type (unadjusted (adjustmentMovement item dto) (List.mem_append_right _ (by simp)) rfl)
      · rcases known with read | empty
        · exact here.checked read (by omega) guarded
        · exact here.increment fun row _ _ _ level => by omega
    · exact level_read added fun _ final => level_done final

theorem adjust_levels (id : InventoryItemId) (dto : CreateAdjustmentDto) (now : Instant)
    (levels : NonNegative rows) : LevelOutline (StockRequest.program (.adjust id dto now)) [] rows rows := by
  refine level_read levels fun here levels => ?_
  cases found : findSlot dto.variantId dto.locationId (stockStore.view [] here) with
  | some existing =>
      simp only [Program.bind, found]
      exact applyDelta_levels (.inl (findSlot_mem found)) levels
  | none =>
      simp only [Program.bind, found]
      refine level_write levels (fun _ here _ => here.created (by simp [newItem])) fun later inserted => ?_
      exact applyDelta_levels (.inr rfl) inserted

theorem takeFrom_levels {orderId : OrderId} {now : Instant} {rest : Int → StockProgram Unit}
    (after : ∀ left pending here, NonNegative (stockStore.view pending here) →
      LevelOutline (rest left) pending seen here)
    (stocks : List InventoryItem) (remaining : Int) (read : stocks ⊆ seen.items)
    (levels : NonNegative (stockStore.view pending rows)) :
    LevelOutline (Billing.takeFrom orderId now stocks remaining >>= rest) pending seen rows := by
  induction stocks generalizing remaining pending rows with
  | nil => exact after remaining pending rows levels
  | cons stock stocks ih =>
      obtain ⟨first, others⟩ := List.cons_subset.mp read
      by_cases finished : remaining ≤ 0
      · rw [Billing.takeFrom, if_pos finished]
        exact after remaining pending rows levels
      · by_cases empty : min stock.onHand remaining ≤ 0
        · simp only [Billing.takeFrom, if_neg finished, if_pos empty]
          exact ih remaining others levels
        · simp only [Billing.takeFrom, if_neg finished, if_neg empty]
          have enough : 0 ≤ stock.onHand + -min stock.onHand remaining := by omega
          refine level_write levels (fun _ here guarded => here.checked first enough guarded)
            fun later taken => ?_
          refine level_write taken (fun _ here _ => here.movement) fun last posted => ?_
          exact ih _ others posted

theorem decrementStock_levels {orderId : OrderId} {now : Instant} {items : List OrderItem}
    {rest : List Billing.Shortfall → StockProgram Unit}
    (after : ∀ shortfalls pending seen here, NonNegative (stockStore.view pending here) →
      LevelOutline (rest shortfalls) pending seen here)
    (levels : NonNegative (stockStore.view pending rows)) :
    LevelOutline (Billing.decrementStock orderId now items >>= rest) pending seen rows := by
  induction items generalizing rest pending seen rows with
  | nil => exact after [] pending seen rows levels
  | cons item items ih =>
      cases variant : item.variantId with
      | none =>
          simp only [Billing.decrementStock, variant]
          exact ih after levels
      | some variantId =>
          simp only [Billing.decrementStock, variant, Program.query_bind, Program.read_bind,
            Program.bind_assoc]
          refine level_read levels fun here levels => ?_
          refine takeFrom_levels (fun left pending here levels => ?_) _ _ ?_ levels
          · exact ih (fun shortfalls pending seen here levels => after _ pending seen here levels) levels
          · exact fun stock member => (stocksByOnHand_mem member).1

theorem restockItems_levels {returnId : ReturnId} {now : Instant} {lines : List ReturnItem}
    (levels : NonNegative (stockStore.view pending rows)) :
    LevelOutline (Returns.restockItems returnId now lines) pending seen rows := by
  induction lines generalizing pending seen rows with
  | nil => exact level_done levels
  | cons line lines ih =>
      cases variant : line.orderItem.variantId with
      | none =>
          simp only [Returns.restockItems, variant]
          exact ih levels
      | some variantId =>
          simp only [Returns.restockItems, variant, Returns.restock, Program.query_bind,
            Program.read_bind]
          refine level_read levels fun here levels => ?_
          cases found : Returns.latestStock variantId (stockStore.view pending here) with
          | none => exact ih levels
          | some stock =>
              refine level_write levels (fun _ here _ => here.increment fun row _ _ _ level => ?_)
                fun later added => ?_
              · have units := Int.natCast_nonneg line.quantity
                omega
              · exact level_write added (fun _ here _ => here.movement) fun last posted => ih posted

theorem request_levels (request : StockRequest) (levels : NonNegative rows) :
    LevelOutline request.program [] rows rows := by
  cases request with
  | create id dto now => exact create_levels id dto now levels
  | findOne id => exact findOne_levels id levels
  | update id dto now => exact update_levels id dto now levels
  | adjust id dto now => exact adjust_levels id dto now levels
  | decrementStock orderId items now => exact decrementStock_levels (fun _ _ _ _ levels => level_done levels) levels
  | restock returnId lines now => exact restockItems_levels levels

end Levels

/-- While no lowering update meets a row that has fallen under it, an item
without an `ADJUSTMENT` movement stays at zero or above. -/
theorem onHand_nonneg_of_not_undercut {rows : Inventory} (base : NonNegative rows)
    {schedule : List StockAction} (requests : StockSchedule schedule)
    (guarded : Along (step stockStore) (WriteGuard stockStore NotUndercut)
      (State.idle rows : StockState) schedule) :
    Visits (step stockStore) (fun state => NonNegative state.committed)
      (State.idle rows : StockState) schedule := by
  have outlined : ∀ program, (∃ request : StockRequest, program = request.program) →
      ∀ now, NonNegative now → LevelOutline program [] now now := by
    rintro program ⟨request, rfl⟩ now levels
    exact request_levels request levels
  exact invariant_of_outlines StockRely.refl (fun _ _ _ _ => StockRely.trans)
    (fun _ _ _ owed => ⟨owed, fun _ apart => .of_view apart⟩) outlined base requests guarded

instance (rows : Inventory) : Decidable (NonNegative rows) :=
  inferInstanceAs (Decidable (∀ item ∈ rows.items,
    (∀ movement ∈ rows.movements, movement.inventoryItemId = item.id → movement.type ≠ .adjustment) →
      0 ≤ item.onHand))

def lastUnit : Inventory where
  items := [newItem 1 7 3 1 0 0 0]
  movements := [initialMovement (newItem 1 7 3 1 0 0 0)]

def oneUnit : OrderItem where
  id := 1
  variantId := some 7
  productTitle := "Lamp"
  variantTitle := none
  sku := none
  quantity := 1
  unitPriceCents := 1000
  totalCents := 1000

def saleOf (orderId : OrderId) : StockRequest := .decrementStock orderId [oneUnit] 0

def crossingSales : List StockAction :=
  [.begin 1 (saleOf 1).program, .begin 2 (saleOf 2).program, .advance 1, .advance 2,
    .advance 1, .advance 1, .commit 1, .advance 2, .advance 2, .commit 2]

theorem crossingSales_requests : StockSchedule crossingSales := by
  simp [StockSchedule, crossingSales, Starts]

theorem crossingSales_below_zero :
    ¬ ∀ rows schedule, NonNegative rows → StockSchedule schedule →
      Visits (step stockStore) (fun state => NonNegative state.committed)
        (State.idle rows : StockState) schedule := by
  intro always
  have visits := always lastUnit crossingSales (by decide) crossingSales_requests
  exact absurd visits.last (by decide)

theorem onHand_nonneg_in_turn :
    Visits (step stockStore) (fun state => NonNegative state.committed) (State.idle lastUnit : StockState)
      [.begin 1 (saleOf 1).program, .advance 1, .advance 1, .advance 1, .commit 1] := by
  refine onHand_nonneg_of_not_undercut (by decide) (by simp [StockSchedule, Starts]) ?_
  have fresh : NotUndercut lastUnit lastUnit (.incrementOnHand 1 (-1) 0) := by
    intro given
    obtain ⟨_, row, present, _, _, ⟨old, read, _, lowered⟩, _⟩ := given
    obtain rfl := List.mem_singleton.mp present
    obtain rfl := List.mem_singleton.mp read
    exact absurd lowered (by decide)
  exact ⟨trivial, trivial, fresh, id, trivial, trivial⟩

end Aicos.Properties
