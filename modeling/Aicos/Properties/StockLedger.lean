import Aicos.Inventory.Requests

namespace Aicos.Properties

open Aicos.Commerce Aicos.Inventory Aicos.Data Aicos.Transition
open Aicos.Transaction Aicos.Transaction.ReadCommitted

/-! Every change of stock writes its movement: the proof outlines of the stock
transactions against the ledger. -/

def pendingGap (pending : List StockWrite) (id : InventoryItemId) : Int :=
  (pending.map fun statement => statement.contribution id).sum

def Sane : List StockWrite → Inventory → Prop
  | [], _ => True
  | statement :: rest, rows => statement.WellPlaced rows ∧ Sane rest (statement.apply rows)

theorem LedgeredUpTo.view {pending : List StockWrite} {gap : InventoryItemId → Int} {rows : Inventory}
    (ledgered : LedgeredUpTo gap rows) (sane : Sane pending rows) :
    LedgeredUpTo (fun id => gap id + pendingGap pending id) (stockStore.view pending rows) := by
  induction pending generalizing gap rows with
  | nil => exact ledgered.congr fun id => by simp [pendingGap]
  | cons statement rest ih =>
      exact (ih (ledgered.apply sane.1) sane.2).congr fun id => by simp [pendingGap, Int.add_assoc]

theorem WellPlaced.stable {statement : StockWrite} {held : StockKey → Prop} {rows now : Inventory}
    (placed : statement.WellPlaced rows) (rely : StockRely held rows now)
    (own : ∀ key ∈ statement.locks, held key) : statement.WellPlaced now := by
  cases statement with
  | createItem item =>
      intro other member same
      have lock : held (.item other.id) := same ▸ own _ (by simp [StockWrite.locks])
      exact placed other (rely.locked other member lock) same
  | incrementOnHand id delta at_ =>
      obtain ⟨item, member, sameId⟩ := placed
      obtain ⟨row, found, same⟩ := rely.kept item member
      exact ⟨row, found, same.1.trans sameId⟩
  | setReorder id point qty at_ => trivial
  | createMovement movement =>
      obtain ⟨item, member, sameId, sameLocation⟩ := placed
      obtain ⟨row, found, same⟩ := rely.kept item member
      exact ⟨row, found, same.1.trans sameId, same.2.2.trans sameLocation⟩

theorem Sane.stable {pending : List StockWrite} {held : StockKey → Prop} {rows now : Inventory}
    (sane : Sane pending rows) (rely : StockRely held rows now)
    (own : ∀ key, stockStore.Holds pending key → held key) : Sane pending now := by
  induction pending generalizing rows now with
  | nil => trivial
  | cons statement rest ih =>
      have mine : ∀ key ∈ statement.locks, held key :=
        fun key lock => own key (stockStore.holds_cons.mpr (.inl lock))
      exact ⟨WellPlaced.stable sane.1 rely mine, ih sane.2 (rely.apply mine)
        fun key holds => own key (stockStore.holds_cons.mpr (.inr holds))⟩

theorem sane_concat {pending : List StockWrite} {statement : StockWrite} {rows : Inventory} :
    Sane (pending ++ [statement]) rows ↔
      Sane pending rows ∧ statement.WellPlaced (stockStore.view pending rows) := by
  induction pending generalizing rows with
  | nil => simp [Sane]
  | cons first rest ih => simp only [List.cons_append, Sane, ih, and_assoc]; rfl

/-- What a transaction body knows between two statements: its writes were well
placed and leave the gap `gap`, and the rows `known` are there in what it sees. -/
structure Carries (gap : InventoryItemId → Int) (known : List InventoryItem)
    (pending : List StockWrite) (rows : Inventory) : Prop where
  sane : Sane pending rows
  gap_eq : ∀ id, pendingGap pending id = gap id
  knows : ∀ item ∈ known, ∃ row ∈ (stockStore.view pending rows).items, SameSlot item row

def noGap : InventoryItemId → Int := fun _ => 0

section Carries

variable {gap : InventoryItemId → Int} {known : List InventoryItem} {pending : List StockWrite}
variable {rows now : Inventory}

theorem Carries.start (rows : Inventory) : Carries noGap [] [] rows :=
  ⟨trivial, fun _ => rfl, by simp⟩

theorem Carries.congr {other : InventoryItemId → Int} (carries : Carries gap known pending rows)
    (same : ∀ id, gap id = other id) : Carries other known pending rows :=
  ⟨carries.sane, fun id => (carries.gap_eq id).trans (same id), carries.knows⟩

theorem Carries.learn {more : List InventoryItem} (carries : Carries gap known pending rows)
    (there : ∀ item ∈ more, ∃ row ∈ (stockStore.view pending rows).items, SameSlot item row) :
    Carries gap more pending rows :=
  ⟨carries.sane, carries.gap_eq, there⟩

theorem Carries.forget {fewer : List InventoryItem} (carries : Carries gap known pending rows)
    (subset : ∀ item ∈ fewer, item ∈ known) : Carries gap fewer pending rows :=
  carries.learn fun item member => carries.knows item (subset item member)

theorem Carries.stable (carries : Carries gap known pending rows)
    (rely : StockRely (stockStore.Holds pending) rows now) : Carries gap known pending now := by
  refine ⟨carries.sane.stable rely fun _ holds => holds, carries.gap_eq, ?_⟩
  intro item member
  obtain ⟨row, found, same⟩ := carries.knows item member
  obtain ⟨last, present, also⟩ := (rely.view fun _ holds => holds).kept row found
  exact ⟨last, present, same.trans also⟩

theorem Carries.write {statement : StockWrite} (carries : Carries gap known pending rows)
    (placed : statement.WellPlaced (stockStore.view pending rows)) :
    Carries (fun id => gap id + statement.contribution id) known (pending ++ [statement]) rows := by
  refine ⟨sane_concat.mpr ⟨carries.sane, placed⟩, ?_, ?_⟩
  · intro id
    rw [← carries.gap_eq id]
    simp [pendingGap]
  · intro item member
    obtain ⟨row, found, same⟩ := carries.knows item member
    have rely : StockRely (fun _ => False) (stockStore.view pending rows)
        (statement.apply (stockStore.view pending rows)) := .of_apply fun _ impossible => impossible.elim
    obtain ⟨last, present, also⟩ := rely.kept row found
    rw [Store.view_concat]
    exact ⟨last, present, same.trans also⟩

end Carries

/-- The outlines of stock transactions against the ledger; their writes need no
guard, and a finished body leaves no gap. -/
abbrev LedgerOutline :=
  Outline stockStore Ledgered StockRely (fun _ _ _ => True)
    (fun pending rows => Carries noGap [] pending rows) (ε := HttpError)

section Outlines

variable {gap : InventoryItemId → Int} {known : List InventoryItem} {pending : List StockWrite}
variable {seen rows : Inventory}

theorem ledger_done (carries : Carries noGap known pending rows) :
    LedgerOutline (.done ()) pending seen rows :=
  fun _ _ rely => (carries.stable rely).forget (by simp)

theorem ledger_read {next : Inventory → StockProgram Unit} (carries : Carries gap known pending rows)
    (rest : ∀ now, Carries gap known pending now →
      LedgerOutline (next (stockStore.view pending now)) pending (stockStore.view pending now) now) :
    LedgerOutline (.read next) pending seen rows :=
  fun now _ rely => rest now (carries.stable rely)

theorem ledger_write {statement : StockWrite} {next : StockProgram Unit}
    (carries : Carries gap known pending rows)
    (placed : ∀ now, Carries gap known pending now →
      stockStore.admits statement (stockStore.view pending now) = true →
      statement.WellPlaced (stockStore.view pending now))
    (rest : ∀ now, Carries (fun id => gap id + statement.contribution id) known (pending ++ [statement]) now →
      LedgerOutline next (pending ++ [statement]) seen now) :
    LedgerOutline (.write statement next) pending seen rows := by
  intro now _ rely admitted _
  have here := carries.stable rely
  exact rest now (here.write (placed now here admitted))

theorem findSlot_mem {variantId : VariantId} {locationId : LocationId} {item : InventoryItem}
    {rows : Inventory} (found : findSlot variantId locationId rows = some item) : item ∈ rows.items :=
  List.mem_of_find?_eq_some found

theorem createItem_placed {item : InventoryItem}
    (admitted : stockStore.admits (.createItem item) rows = true) :
    (StockWrite.createItem item).WellPlaced rows := by
  intro other member
  have checked := List.all_eq_true.mp admitted other member
  simp only [decide_eq_true_eq] at checked
  exact checked.1

theorem Carries.created {item : InventoryItem}
    (carries : Carries gap known (pending ++ [.createItem item]) rows) :
    Carries gap [item] (pending ++ [.createItem item]) rows := by
  refine carries.learn ?_
  intro other member
  obtain rfl := List.mem_singleton.mp member
  rw [Store.view_concat]
  exact ⟨other, List.mem_append_right _ (by simp), rfl, rfl, rfl⟩

theorem Carries.movement_placed {item : InventoryItem} {movement : StockMovement}
    (carries : Carries gap known pending rows) (member : item ∈ known)
    (refers : movement.inventoryItemId = item.id) (location : movement.locationId = item.locationId) :
    (StockWrite.createMovement movement).WellPlaced (stockStore.view pending rows) := by
  obtain ⟨row, found, same⟩ := carries.knows item member
  exact ⟨row, found, same.1.trans refers.symm, same.2.2.trans location.symm⟩

theorem Carries.increment_placed {item : InventoryItem} {delta : Int} {now : Instant}
    (carries : Carries gap known pending rows) (member : item ∈ known) :
    (StockWrite.incrementOnHand item.id delta now).WellPlaced (stockStore.view pending rows) := by
  obtain ⟨row, found, same⟩ := carries.knows item member
  exact ⟨row, found, same.1⟩

theorem seed_outline {created : InventoryItem} (stocked : 0 ≤ created.onHand)
    (carries : Carries noGap known pending rows) :
    LedgerOutline (seed created).discard pending seen rows := by
  refine ledger_write carries (fun _ _ admitted => createItem_placed admitted) fun now inserted => ?_
  by_cases positive : created.onHand > 0
  · simp only [Program.bind, if_pos positive]
    refine ledger_write inserted.created
      (fun _ here _ => here.movement_placed (by simp) rfl rfl) fun later posted => ?_
    refine ledger_done (posted.congr fun id => ?_)
    by_cases mine : created.id = id <;>
      simp [noGap, StockWrite.contribution, initialMovement, mine]
  · simp only [Program.bind, if_neg positive]
    refine ledger_done (inserted.congr fun id => ?_)
    have empty : created.onHand = 0 := by omega
    simp [noGap, StockWrite.contribution, empty]

theorem create_outline (id : InventoryItemId) (dto : CreateInventoryItemDto) (now : Instant)
    (rows : Inventory) : LedgerOutline (StockRequest.program (.create id dto now)) [] rows rows := by
  refine ledger_read (.start rows) fun here carries => ?_
  cases found : findSlot dto.variantId dto.locationId (stockStore.view [] here) with
  | some existing => simp only [Program.bind, found]; trivial
  | none =>
      simp only [Program.bind, found]
      exact seed_outline (Int.natCast_nonneg _) carries

theorem findOne_outline (id : InventoryItemId) (rows : Inventory) :
    LedgerOutline (StockRequest.program (.findOne id)) [] rows rows := by
  refine ledger_read (.start rows) fun here carries => ?_
  cases found : findItem id (stockStore.view [] here) with
  | none => simp only [Program.bind, found]; trivial
  | some item => simp only [Program.bind, found]; exact ledger_done carries

theorem update_outline (id : InventoryItemId) (dto : UpdateInventoryItemDto) (now : Instant)
    (rows : Inventory) : LedgerOutline (StockRequest.program (.update id dto now)) [] rows rows := by
  refine ledger_write (.start rows) (fun _ _ _ => trivial) fun here written => ?_
  refine ledger_read written fun later carries => ?_
  exact ledger_done (carries.congr fun id => by simp [noGap, StockWrite.contribution])

theorem applyDelta_outline {item : InventoryItem} {dto : CreateAdjustmentDto} {now : Instant}
    (carries : Carries noGap [item] pending rows) :
    LedgerOutline (applyDelta item dto now).discard pending seen rows := by
  by_cases refused : item.onHand + dto.delta < 0 ∧ dto.type ∉ negativeAllowedTypes
  · rw [applyDelta, if_pos refused]
    trivial
  · rw [applyDelta, if_neg refused]
    refine ledger_write carries (fun _ here _ => here.movement_placed (by simp) rfl rfl)
      fun later posted => ?_
    refine ledger_write posted (fun _ here _ => here.increment_placed (by simp)) fun last added => ?_
    refine ledger_read added fun final carries => ?_
    refine ledger_done (carries.congr fun id => ?_)
    by_cases mine : item.id = id <;>
      simp [noGap, StockWrite.contribution, adjustmentMovement, mine]

theorem adjust_outline (id : InventoryItemId) (dto : CreateAdjustmentDto) (now : Instant)
    (rows : Inventory) : LedgerOutline (StockRequest.program (.adjust id dto now)) [] rows rows := by
  refine ledger_read (.start rows) fun here carries => ?_
  cases found : findSlot dto.variantId dto.locationId (stockStore.view [] here) with
  | some existing =>
      simp only [Program.bind, found]
      refine applyDelta_outline (carries.learn ?_)
      intro item member
      obtain rfl := List.mem_singleton.mp member
      exact ⟨item, findSlot_mem found, rfl, rfl, rfl⟩
  | none =>
      simp only [Program.bind, found]
      refine ledger_write carries (fun _ _ admitted => createItem_placed admitted) fun later inserted => ?_
      refine applyDelta_outline (inserted.created.congr fun other => ?_)
      by_cases mine : id = other <;> simp [noGap, StockWrite.contribution, newItem, mine]

theorem stocksByOnHand_mem {variantId : VariantId} {stock : InventoryItem}
    (member : stock ∈ Billing.stocksByOnHand variantId rows) :
    stock ∈ rows.items ∧ stock.variantId = variantId := by
  have filtered := (List.mem_insertionSort _).mp member
  simpa using List.mem_filter.mp filtered

theorem latestStock_mem {variantId : VariantId} {stock : InventoryItem}
    (found : Returns.latestStock variantId rows = some stock) : stock ∈ rows.items := by
  have member := List.mem_of_mem_head? (Option.mem_def.mpr found)
  exact List.mem_of_mem_filter ((List.mem_insertionSort _).mp member)

theorem takeFrom_outline {orderId : OrderId} {now : Instant} {rest : Int → StockProgram Unit}
    (after : ∀ left pending here, Carries noGap [] pending here →
      LedgerOutline (rest left) pending seen here)
    (stocks : List InventoryItem) (remaining : Int) (carries : Carries noGap stocks pending rows) :
    LedgerOutline (Billing.takeFrom orderId now stocks remaining >>= rest) pending seen rows := by
  induction stocks generalizing remaining pending rows with
  | nil => exact after remaining pending rows carries
  | cons stock stocks ih =>
      have fewer {gap pending here} (carries : Carries gap (stock :: stocks) pending here) :
          Carries gap stocks pending here := carries.forget fun item member => by simp [member]
      by_cases finished : remaining ≤ 0
      · rw [Billing.takeFrom, if_pos finished]
        exact after remaining pending rows (carries.forget (by simp))
      · by_cases empty : min stock.onHand remaining ≤ 0
        · simp only [Billing.takeFrom, if_neg finished, if_pos empty]
          exact ih remaining (fewer carries)
        · simp only [Billing.takeFrom, if_neg finished, if_neg empty]
          refine ledger_write carries (fun _ here _ => here.increment_placed (by simp))
            fun later taken => ?_
          refine ledger_write taken (fun _ here _ => here.movement_placed (by simp) rfl rfl)
            fun last posted => ?_
          -- the increment and its movement cancel in the gap
          refine ih _ (fewer (posted.congr fun id => ?_))
          by_cases mine : stock.id = id <;>
            simp [noGap, StockWrite.contribution, Billing.saleMovement, mine]

theorem decrementStock_outline {orderId : OrderId} {now : Instant} {items : List OrderItem}
    {rest : List Billing.Shortfall → StockProgram Unit}
    (after : ∀ shortfalls pending seen here, Carries noGap [] pending here →
      LedgerOutline (rest shortfalls) pending seen here)
    (carries : Carries noGap [] pending rows) :
    LedgerOutline (Billing.decrementStock orderId now items >>= rest) pending seen rows := by
  induction items generalizing rest pending seen rows with
  | nil => exact after [] pending seen rows carries
  | cons item items ih =>
      cases variant : item.variantId with
      | none =>
          simp only [Billing.decrementStock, variant]
          exact ih after carries
      | some variantId =>
          simp only [Billing.decrementStock, variant, Program.query_bind, Program.read_bind,
            Program.bind_assoc]
          refine ledger_read carries fun here carries => ?_
          refine takeFrom_outline (fun left pending here carries => ?_) _ _ (carries.learn ?_)
          · exact ih (fun shortfalls pending seen here carries => after _ pending seen here carries) carries
          · exact fun stock member => ⟨stock, (stocksByOnHand_mem member).1, rfl, rfl, rfl⟩

theorem restockItems_outline {returnId : ReturnId} {now : Instant} {lines : List ReturnItem}
    (carries : Carries noGap [] pending rows) :
    LedgerOutline (Returns.restockItems returnId now lines) pending seen rows := by
  induction lines generalizing pending seen rows with
  | nil => exact ledger_done carries
  | cons line lines ih =>
      cases variant : line.orderItem.variantId with
      | none =>
          simp only [Returns.restockItems, variant]
          exact ih carries
      | some variantId =>
          simp only [Returns.restockItems, variant, Returns.restock, Program.query_bind,
            Program.read_bind]
          refine ledger_read carries fun here carries => ?_
          cases found : Returns.latestStock variantId (stockStore.view pending here) with
          | none => exact ih carries
          | some stock =>
              have known : Carries noGap [stock] pending here := carries.learn fun item member =>
                ⟨item, latestStock_mem (List.mem_singleton.mp member ▸ found), rfl, rfl, rfl⟩
              refine ledger_write known (fun _ here _ => here.increment_placed (by simp))
                fun later added => ?_
              refine ledger_write added (fun _ here _ => here.movement_placed (by simp) rfl rfl)
                fun last posted => ?_
              refine ih ((posted.congr fun id => ?_).forget (by simp))
              by_cases mine : stock.id = id <;>
                simp [noGap, StockWrite.contribution, Returns.returnMovement, mine]

theorem request_outline (request : StockRequest) (rows : Inventory) :
    LedgerOutline request.program [] rows rows := by
  cases request with
  | create id dto now => exact create_outline id dto now rows
  | findOne id => exact findOne_outline id rows
  | update id dto now => exact update_outline id dto now rows
  | adjust id dto now => exact adjust_outline id dto now rows
  | decrementStock orderId items now =>
      exact decrementStock_outline (fun _ _ _ _ carries => ledger_done carries) (.start rows)
  | restock returnId lines now => exact restockItems_outline (.start rows)

end Outlines

theorem ledger_discharge {pending : List StockWrite} {rows : Inventory} (ledgered : Ledgered rows)
    (owed : Carries noGap [] pending rows) : Ledgered (stockStore.view pending rows) :=
  (LedgeredUpTo.view ledgered owed.sane).congr fun id => by simp [owed.gap_eq id, noGap]

theorem ledgered_visits {rows : Inventory} (base : Ledgered rows) {schedule : List StockAction}
    (requests : StockSchedule schedule) :
    Visits (step stockStore) (fun state => Ledgered state.committed)
      (State.idle rows : StockState) schedule := by
  have outlined : ∀ program, (∃ request : StockRequest, program = request.program) →
      ∀ now, Ledgered now → LedgerOutline program [] now now := by
    rintro program ⟨request, rfl⟩ now _
    exact request_outline request now
  exact invariant_of_outlines StockRely.refl (fun _ _ _ _ => StockRely.trans)
    (fun _ _ ledgered owed => ⟨ledger_discharge ledgered owed, fun _ apart => .of_view apart⟩)
    outlined base requests (along_of_all (writeGuard_trivial stockStore) _ schedule)

theorem ledgered_empty : Ledgered { items := [], movements := [] } :=
  ⟨List.nodup_nil, by simp, by simp, fun _ _ => rfl⟩

/-- In every state of every interleaving of stock transactions, an item's
on-hand level is the sum of its movements, which all stand at its location. -/
theorem onHand_eq_sum_of_movements {rows : Inventory} (base : Ledgered rows)
    {schedule : List StockAction} (requests : StockSchedule schedule) :
    Visits (step stockStore)
      (fun state => ∀ item ∈ state.committed.items,
        item.onHand = moved state.committed.movements item.id ∧
          ∀ movement ∈ state.committed.movements, movement.inventoryItemId = item.id →
            movement.locationId = item.locationId)
      (State.idle rows : StockState) schedule := by
  apply (ledgered_visits base requests).mono
  intro state ledgered item present
  refine ⟨?_, fun movement posted refers => ledgered.location present posted refers⟩
  simpa using ledgered.balance item present

theorem onHand_eq_sum_of_movements_seeded :
    Visits (step stockStore)
      (fun state => ∀ item ∈ state.committed.items,
        item.onHand = moved state.committed.movements item.id ∧
          ∀ movement ∈ state.committed.movements, movement.inventoryItemId = item.id →
            movement.locationId = item.locationId)
      (State.idle { items := [], movements := [] } : StockState)
      [.begin 1 (StockRequest.create 1 ⟨7, 3, some 5, none, none⟩ 0).program,
        .advance 1, .advance 1, .advance 1, .commit 1] :=
  onHand_eq_sum_of_movements ledgered_empty (by simp [StockSchedule, Starts])

end Aicos.Properties
