import Aicos.Inventory.Requests
import Aicos.Inventory.Sequential
import Aicos.Transition.Run

namespace Aicos.Properties

open Aicos.Commerce Aicos.Data Aicos.Inventory Aicos.Transaction Aicos.Transition

/-! What `adjust` refuses.  Its check looks at the level a movement leads to and not at
where it comes from, so it also refuses goods that do not fill a backorder. -/

/-- Stock requests one after another; what throws, or is more than a column holds, leaves nothing behind. -/
def serveStock (rows : Inventory) (request : StockRequest) : Inventory :=
  match request.program.alone columnStore rows with
  | .ok (_, after) => after
  | .error _ => rows

/-- The service refuses the request.  A number that is too large for its column is not refused by
the service: the database fails the statement. -/
def Refused (id : InventoryItemId) (dto : CreateAdjustmentDto) (now : Instant) (rows : Inventory) : Prop :=
  ∃ error, (adjust id dto now).alone columnStore rows = .error (.thrown error)

/-- A movement on an existing item is refused where it lowers the level to below zero. -/
def RefusesLowering (rows : Inventory) : Prop :=
  ∀ id dto now item, findSlot dto.variantId dto.locationId rows = some item →
    (Refused id dto now rows ↔ dto.delta < 0 ∧ item.onHand + dto.delta < 0 ∧ dto.type ≠ .adjustment)

/-- The level that an adjustment starts from. -/
def levelAt (dto : CreateAdjustmentDto) (rows : Inventory) : Int :=
  ((findSlot dto.variantId dto.locationId rows).map (·.onHand)).getD 0

/-- The columns hold the movement and the level that it leads to. -/
def InRange (level : Int) (dto : CreateAdjustmentDto) : Prop :=
  fitsColumn dto.delta = true ∧ fitsColumn (level + dto.delta) = true

/-- A correction that is carried out does not take an item below -1. -/
def CorrectsToMinusOne (rows : Inventory) : StockRequest → Prop
  | .adjust id dto _ =>
      dto.type = .adjustment → (findSlot dto.variantId dto.locationId rows = none → ∀ item ∈ rows.items, item.id ≠ id) →
        InRange (levelAt dto rows) dto → -1 ≤ levelAt dto rows + dto.delta
  | _ => True

def FromMinusOne (rows : Inventory) : Prop :=
  ∀ item ∈ rows.items, -1 ≤ item.onHand

/-- The primary key and the unique index on variant and location. -/
structure Keyed (rows : Inventory) : Prop where
  ids : ItemsKeyed rows
  slots : ∀ item ∈ rows.items, ∀ other ∈ rows.items, item.variantId = other.variantId →
    item.locationId = other.locationId → item = other

variable {rows : Inventory} {id : InventoryItemId} {dto : CreateAdjustmentDto} {now : Instant} {item : InventoryItem}

theorem findSlot_some {variantId : VariantId} {locationId : LocationId}
    (found : findSlot variantId locationId rows = some item) :
    item ∈ rows.items ∧ item.variantId = variantId ∧ item.locationId = locationId := by
  unfold findSlot at found
  have slot := List.find?_some found
  exact ⟨List.mem_of_find?_eq_some found, of_decide_eq_true slot⟩

theorem findSlot_of_mem (keyed : Keyed rows) (member : item ∈ rows.items) :
    findSlot item.variantId item.locationId rows = some item := by
  cases found : findSlot item.variantId item.locationId rows with
  | none =>
      unfold findSlot at found
      have apart := List.find?_eq_none.mp found item member
      simp at apart
  | some other =>
      obtain ⟨there, variant, location⟩ := findSlot_some found
      rw [keyed.slots other there item member variant location]

theorem Keyed.update {target : InventoryItemId} {change : InventoryItem → InventoryItem}
    (slot : ∀ item, SameSlot item (change item)) (keyed : Keyed rows) :
    Keyed { rows with items := updateWhere (fun item => item.id = target) change rows.items } := by
  constructor
  · rw [ItemsKeyed, map_updateWhere fun row => (slot row).1]
    exact keyed.ids
  · have same (old : InventoryItem) : SameSlot old (if decide (old.id = target) then change old else old) := by
      split
      · exact slot old
      · exact ⟨rfl, rfl, rfl⟩
    intro item member other present variant location
    obtain ⟨first, there, rfl⟩ := mem_updateWhere.mp member
    obtain ⟨second, here, rfl⟩ := mem_updateWhere.mp present
    rw [(same first).2.1, (same second).2.1] at variant
    rw [(same first).2.2, (same second).2.2] at location
    rw [keyed.slots first there second here variant location]

theorem Keyed.apply {statement : StockWrite} (keyed : Keyed rows) (admitted : stockStore.admits statement rows = true) :
    Keyed (stockStore.apply statement rows) := by
  cases statement with
  | createItem created =>
      have apart : ∀ other ∈ rows.items, other.id ≠ created.id ∧
          ¬ (other.variantId = created.variantId ∧ other.locationId = created.locationId) :=
        fun other member => of_decide_eq_true (List.all_eq_true.mp admitted other member)
      constructor
      · have fresh : created.id ∉ rows.items.map (·.id) := by
          intro taken
          obtain ⟨other, member, same⟩ := List.mem_map.mp taken
          exact (apart other member).1 same
        rw [ItemsKeyed]
        change ((rows.items ++ [created]).map (·.id)).Nodup
        rw [List.map_append, List.map_singleton, ← List.concat_eq_append]
        exact keyed.ids.concat fresh
      · intro item member other present variant location
        rcases List.mem_append.mp member with old | new
        · rcases List.mem_append.mp present with there | last
          · exact keyed.slots item old other there variant location
          · obtain rfl := List.mem_singleton.mp last
            exact absurd ⟨variant, location⟩ (apart item old).2
        · obtain rfl := List.mem_singleton.mp new
          rcases List.mem_append.mp present with there | last
          · exact absurd ⟨variant.symm, location.symm⟩ (apart other there).2
          · exact (List.mem_singleton.mp last).symm
  | incrementOnHand target delta now => exact keyed.update (addOnHand_sameSlot delta now)
  | setReorder target point qty now => exact keyed.update (changeReorder_sameSlot point qty now)
  | createMovement movement => exact ⟨keyed.ids, keyed.slots⟩

section Adjusting

/-- The item that an adjustment starts where there is none yet. -/
def emptyItem (id : InventoryItemId) (dto : CreateAdjustmentDto) (now : Instant) : InventoryItem :=
  newItem id dto.variantId dto.locationId 0 0 0 now

/-- The rows as an adjustment of an item leaves them. -/
def adjusted (item : InventoryItem) (dto : CreateAdjustmentDto) (now : Instant) (rows : Inventory) : Inventory where
  items := updateWhere (fun row => row.id = item.id) (addOnHand dto.delta now) rows.items
  movements := rows.movements ++ [adjustmentMovement item dto]

/-- An adjustment of an item is refused, or carried out, or more than a column holds. -/
theorem applyDelta_alone (dto : CreateAdjustmentDto) (now : Instant) (ids : ItemsKeyed rows) (member : item ∈ rows.items) :
    (item.onHand + dto.delta < 0 ∧ dto.type ≠ .adjustment ∧
      (applyDelta item dto now).alone columnStore rows = .error (.thrown (adjustmentRefusal item dto))) ∨
    ((item.onHand + dto.delta < 0 → dto.type = .adjustment) ∧ InRange item.onHand dto ∧
      ∃ result, (applyDelta item dto now).alone columnStore rows = .ok (result, adjusted item dto now rows)) ∨
    ((item.onHand + dto.delta < 0 → dto.type = .adjustment) ∧ ¬ InRange item.onHand dto ∧
      ∃ statement, (applyDelta item dto now).alone columnStore rows = .error (.rejected statement)) := by
  by_cases refused : item.onHand + dto.delta < 0 ∧ dto.type ∉ negativeAllowedTypes
  · refine .inl ⟨refused.1, by simpa [negativeAllowedTypes] using refused.2, ?_⟩
    rw [applyDelta, if_pos refused]
    rfl
  · have allowed : item.onHand + dto.delta < 0 → dto.type = .adjustment := by
      simpa [negativeAllowedTypes] using refused
    have posted : columnStore.admits (.createMovement (adjustmentMovement item dto)) rows = fitsColumn dto.delta :=
      Bool.true_and _
    have there : columnStore.admits (.incrementOnHand item.id dto.delta now)
        (columnStore.apply (.createMovement (adjustmentMovement item dto)) rows) =
          fitsColumn (item.onHand + dto.delta) := by
      have found : stockStore.admits (.incrementOnHand item.id dto.delta now) rows = true :=
        incrementOnHand_admitted ⟨item, member, rfl⟩
      have held : (rows.items.all fun row => row.id ≠ item.id ∨ fitsColumn (row.onHand + dto.delta)) =
          fitsColumn (item.onHand + dto.delta) := by
        refine Bool.eq_iff_iff.mpr (List.all_eq_true.trans ⟨fun all => ?_, fun fits row present => ?_⟩)
        · simpa using all item member
        · by_cases same : row.id = item.id
          · rw [List.inj_on_of_nodup_map ids present member same]
            simpa using fits
          · simp [same]
      exact (congrArg₂ and found held).trans (Bool.true_and _)
    refine .inr ?_
    rw [applyDelta, if_neg refused]
    simp only [Program.exec_bind, Program.query_bind, Program.alone, posted, there]
    by_cases moves : fitsColumn dto.delta = true
    · by_cases holds : fitsColumn (item.onHand + dto.delta) = true
      · rw [if_pos moves, if_pos holds]
        exact .inl ⟨allowed, ⟨moves, holds⟩, _, rfl⟩
      · rw [if_pos moves, if_neg holds]
        exact .inr ⟨allowed, fun range => holds range.2, _, rfl⟩
    · rw [if_neg moves]
      exact .inr ⟨allowed, fun range => moves range.1, _, rfl⟩

theorem adjust_existing (found : findSlot dto.variantId dto.locationId rows = some item) :
    (adjust id dto now).alone columnStore rows = (applyDelta item dto now).alone columnStore rows := by
  simp only [adjust, findOrCreate, Program.query_bind, Program.read_bind, Program.alone, found, Program.pure_eq,
    Program.done_bind]

theorem emptyItem_admits : columnStore.admits (.createItem (emptyItem id dto now)) rows =
    stockStore.admits (.createItem (emptyItem id dto now)) rows :=
  Bool.and_true _

/-- An item that is not there yet starts empty, unless its id is taken. -/
theorem adjust_missing (missing : findSlot dto.variantId dto.locationId rows = none) :
    (adjust id dto now).alone columnStore rows =
      if stockStore.admits (.createItem (emptyItem id dto now)) rows then
        (applyDelta (emptyItem id dto now) dto now).alone columnStore
          (stockStore.apply (.createItem (emptyItem id dto now)) rows)
      else .error (.rejected (.createItem (emptyItem id dto now))) := by
  rw [← emptyItem_admits]
  simp only [adjust, findOrCreate, Program.query_bind, Program.read_bind, Program.alone, missing, Program.exec_bind,
    Program.write_bind, Program.pure_eq, Program.done_bind]
  rfl

theorem adjust_refused_iff (ids : ItemsKeyed rows) (found : findSlot dto.variantId dto.locationId rows = some item) :
    Refused id dto now rows ↔ item.onHand + dto.delta < 0 ∧ dto.type ≠ .adjustment := by
  unfold Refused
  rw [adjust_existing found]
  rcases applyDelta_alone dto now ids (findSlot_some found).1 with
    ⟨below, type, ran⟩ | ⟨allowed, _, _, ran⟩ | ⟨allowed, _, _, ran⟩
  · exact iff_of_true ⟨_, ran⟩ ⟨below, type⟩
  all_goals
    refine iff_of_false ?_ fun refused => refused.2 (allowed refused.1)
    intro refused
    obtain ⟨error, failed⟩ := refused
    rw [ran] at failed
    cases failed

/-- One unit received shows an item that stands below -1. -/
theorem refusesLowering_iff (keyed : Keyed rows) : RefusesLowering rows ↔ FromMinusOne rows := by
  constructor
  · intro refuses item member
    by_contra below
    have found := findSlot_of_mem keyed member
    have exactly := refuses 0 ⟨item.variantId, item.locationId, 1, .receive, none, by decide⟩ 0 item found
    rw [adjust_refused_iff keyed.ids found] at exactly
    have lowers := (exactly.mp ⟨by dsimp only; omega, by simp⟩).1
    simp at lowers
  · intro levels id dto now item found
    have level := levels item (findSlot_some found).1
    have moves := dto.delta_ne_zero
    rw [adjust_refused_iff keyed.ids found]
    constructor
    · intro refused
      exact ⟨by omega, refused⟩
    · intro refused
      exact refused.2

theorem serveStock_adjust : serveStock rows (.adjust id dto now) =
    match (adjust id dto now).alone columnStore rows with
    | .ok (_, after) => after
    | .error _ => rows := by
  unfold serveStock StockRequest.program Program.discard
  rw [Program.alone_bind]
  cases (adjust id dto now).alone columnStore rows <;> rfl

theorem fromMinusOne_adjusted (ids : ItemsKeyed rows) (member : item ∈ rows.items) (levels : FromMinusOne rows) :
    FromMinusOne (adjusted item dto now rows) ↔ -1 ≤ item.onHand + dto.delta := by
  constructor
  · intro after
    exact after (addOnHand dto.delta now item) (mem_updateRow.mpr (.inr ⟨item, member, rfl, rfl⟩))
  · intro enough row present
    rcases mem_updateRow.mp present with ⟨_, old⟩ | ⟨old, there, same, rfl⟩
    · exact levels row old
    · obtain rfl : old = item := List.inj_on_of_nodup_map ids there member same
      exact enough

theorem fromMinusOne_applyDelta {base : Inventory} (ids : ItemsKeyed base) (member : item ∈ base.items)
    (before : FromMinusOne rows) (levels : FromMinusOne base) :
    FromMinusOne (match (applyDelta item dto now).alone columnStore base with
      | .ok (_, after) => after
      | .error _ => rows) ↔ (dto.type = .adjustment → InRange item.onHand dto → -1 ≤ item.onHand + dto.delta) := by
  rcases applyDelta_alone dto now ids member with
    ⟨_, type, ran⟩ | ⟨allowed, range, _, ran⟩ | ⟨_, beyond, _, ran⟩
  · rw [ran]
    exact iff_of_true before fun same => absurd same type
  · rw [ran]
    refine (fromMinusOne_adjusted ids member levels).trans ⟨fun enough _ _ => enough, fun corrects => ?_⟩
    by_cases below : item.onHand + dto.delta < 0
    · exact corrects (allowed below) range
    · omega
  · rw [ran]
    exact iff_of_true before fun _ range => absurd range beyond

theorem fromMinusOne_adjust_iff (keyed : Keyed rows) (levels : FromMinusOne rows) :
    FromMinusOne (serveStock rows (.adjust id dto now)) ↔ CorrectsToMinusOne rows (.adjust id dto now) := by
  rw [serveStock_adjust, CorrectsToMinusOne]
  cases found : findSlot dto.variantId dto.locationId rows with
  | some item =>
      have level : levelAt dto rows = item.onHand := by rw [levelAt, found]; rfl
      rw [adjust_existing found, fromMinusOne_applyDelta keyed.ids (findSlot_some found).1 levels levels, level]
      simp
  | none =>
      have level : levelAt dto rows = 0 := by rw [levelAt, found]; rfl
      rw [adjust_missing found, level]
      by_cases admitted : stockStore.admits (.createItem (emptyItem id dto now)) rows = true
      · rw [if_pos admitted]
        have fresh : ∀ item ∈ rows.items, item.id ≠ id := fun item member =>
          (of_decide_eq_true (List.all_eq_true.mp admitted item member)).1
        have created : FromMinusOne (stockStore.apply (.createItem (emptyItem id dto now)) rows) := by
          intro item member
          rcases List.mem_append.mp member with old | new
          · exact levels item old
          · rw [List.mem_singleton.mp new]
            exact (by decide : (-1 : Int) ≤ 0)
        have there : emptyItem id dto now ∈ (stockStore.apply (.createItem (emptyItem id dto now)) rows).items :=
          List.mem_append_right _ (List.mem_singleton.mpr rfl)
        rw [fromMinusOne_applyDelta (keyed.apply admitted).ids there levels created]
        exact ⟨fun corrects type _ => corrects type, fun corrects type => corrects type fun _ => fresh⟩
      · rw [if_neg admitted]
        refine iff_of_true levels fun _ fresh => absurd ?_ admitted
        refine List.all_eq_true.mpr fun item member => decide_eq_true ⟨fresh rfl item member, fun same => ?_⟩
        unfold findSlot at found
        exact List.find?_eq_none.mp found item member (decide_eq_true same)

end Adjusting

section Lifting

/-- Statements that lower no level. -/
def Lifts : StockWrite → Prop
  | .createItem item => 0 ≤ item.onHand
  | .incrementOnHand _ delta _ => 0 ≤ delta
  | _ => True

theorem FromMinusOne.lifted {statement : StockWrite} (levels : FromMinusOne rows) (lifts : Lifts statement) :
    FromMinusOne (stockStore.apply statement rows) := by
  cases statement with
  | createItem created =>
      intro item member
      rcases List.mem_append.mp member with old | new
      · exact levels item old
      · have stocked : 0 ≤ created.onHand := lifts
        rw [List.mem_singleton.mp new]
        omega
  | incrementOnHand target delta now =>
      intro item member
      rcases mem_updateRow.mp member with ⟨_, old⟩ | ⟨old, there, _, rfl⟩
      · exact levels item old
      · have level := levels old there
        have lifted : 0 ≤ delta := lifts
        change -1 ≤ old.onHand + delta
        omega
  | setReorder target point qty now =>
      intro item member
      rcases mem_updateRow.mp member with ⟨_, old⟩ | ⟨old, there, _, rfl⟩
      · exact levels item old
      · exact levels old there
  | createMovement movement => exact levels

/-- What every admitted statement preserves, a request preserves. -/
theorem serveStock_of_writes {good : Inventory → Prop} {allowed : StockWrite → Prop} {request : StockRequest}
    (preserved : ∀ statement rows, allowed statement → stockStore.admits statement rows = true → good rows →
      good (stockStore.apply statement rows))
    (writes : request.program.Writes allowed) (holds : good rows) : good (serveStock rows request) := by
  unfold serveStock
  split
  · rename_i ran
    exact writes.alone stockStore preserved holds (alone_of_columns ran)
  · exact holds

theorem writes_all {α : Type} (program : StockProgram α) : program.Writes fun _ => True := by
  induction program with
  | done value => trivial
  | fail error => trivial
  | read next ih => exact ih
  | write statement next ih => exact ⟨trivial, ih⟩

theorem Keyed.served (keyed : Keyed rows) (request : StockRequest) : Keyed (serveStock rows request) :=
  serveStock_of_writes (fun _ _ _ admitted here => here.apply admitted) (writes_all request.program) keyed

theorem create_lifts (id : InventoryItemId) (dto : CreateInventoryItemDto) (now : Instant) :
    (StockRequest.create id dto now).program.Writes Lifts := by
  refine Program.Writes.bind ?_ fun _ => trivial
  unfold create
  rw [Program.writes_query_bind]
  intro rows
  cases findSlot dto.variantId dto.locationId rows with
  | some existing => exact Program.writes_throw _
  | none =>
      refine ⟨Int.natCast_nonneg _, ?_⟩
      split
      · exact ⟨trivial, trivial⟩
      · trivial

theorem restock_lifts (returnId : ReturnId) (lines : List ReturnItem) (now : Instant) :
    (Returns.restockItems returnId now lines).Writes Lifts := by
  induction lines with
  | nil => trivial
  | cons line lines ih =>
      rw [Returns.restockItems]
      cases line.orderItem.variantId with
      | none => exact ih
      | some variantId =>
          refine Program.Writes.bind ?_ fun _ => ih
          unfold Returns.restock
          rw [Program.writes_query_bind]
          intro rows
          cases Returns.latestStock variantId rows with
          | none => trivial
          | some stock => exact ⟨Int.natCast_nonneg _, trivial, trivial⟩

theorem fromMinusOne_take {orderId : OrderId} {ordered : VariantId → Prop} {after : Inventory}
    (take : Take orderId now ordered rows after) (ids : ItemsKeyed rows) (levels : FromMinusOne rows) :
    ItemsKeyed after ∧ FromMinusOne after := by
  cases take with
  | take member _ _ enough =>
      refine ⟨?_, ?_⟩
      · rw [ItemsKeyed, map_updateWhere fun row => (addOnHand_sameSlot _ now row).1]
        exact ids
      · intro row present
        rcases mem_updateRow.mp present with ⟨_, old⟩ | ⟨old, there, same, rfl⟩
        · exact levels row old
        · obtain rfl := List.inj_on_of_nodup_map ids there member same
          change -1 ≤ old.onHand + -_
          omega

theorem decrementStock_fromMinusOne (orderId : OrderId) (items : List OrderItem) (now : Instant) (keyed : Keyed rows)
    (levels : FromMinusOne rows) : FromMinusOne (serveStock rows (.decrementStock orderId items now)) := by
  obtain ⟨shortfalls, after, ran, _, takes⟩ := decrementStock_takes orderId now items rows keyed.ids
  have kept : ∀ final, Takes orderId now (Ordered items) rows final → ItemsKeyed final ∧ FromMinusOne final := by
    intro final taken
    induction taken with
    | refl => exact ⟨keyed.ids, levels⟩
    | tail _ take ih => exact fromMinusOne_take take ih.1 ih.2
  unfold serveStock
  split
  · rename_i served
    have served := alone_of_columns served
    unfold StockRequest.program Program.discard at served
    rw [Program.alone_bind, ran] at served
    cases served
    exact (kept after takes).2
  · exact levels

end Lifting

theorem fromMinusOne_serveStock_iff (keyed : Keyed rows) (levels : FromMinusOne rows) (request : StockRequest) :
    FromMinusOne (serveStock rows request) ↔ CorrectsToMinusOne rows request := by
  have lifting (lifts : request.program.Writes Lifts) : FromMinusOne (serveStock rows request) :=
    serveStock_of_writes (fun _ _ lifts _ here => here.lifted lifts) lifts levels
  cases request with
  | create id dto now => exact iff_of_true (lifting (create_lifts id dto now)) trivial
  | findOne id =>
      have reads : (findOne id).Writes Lifts := by
        rw [findOne, Program.writes_query_bind]
        intro rows
        cases findItem id rows <;> trivial
      exact iff_of_true (lifting (reads.bind fun _ => trivial)) trivial
  | update id dto now =>
      have tunes : (update id dto now).Writes Lifts := ⟨trivial, fun _ => trivial⟩
      exact iff_of_true (lifting (tunes.bind fun _ => trivial)) trivial
  | adjust id dto now => exact fromMinusOne_adjust_iff keyed levels
  | decrementStock orderId items now =>
      exact iff_of_true (decrementStock_fromMinusOne orderId items now keyed levels) trivial
  | restock returnId lines now => exact iff_of_true (lifting (restock_lifts returnId lines now)) trivial

def noStock : Inventory where
  items := []
  movements := []

/-- What is refused is exactly what lowers an item to below zero, for as long as no
correction takes one to less than -1. -/
theorem refuses_lowering_iff (trace : List StockRequest) :
    Visits serveStock RefusesLowering noStock trace ↔ Along serveStock CorrectsToMinusOne noStock trace := by
  have keyed : Keyed noStock := ⟨List.nodup_nil, by simp [noStock]⟩
  have refuses : RefusesLowering noStock := (refusesLowering_iff keyed).mpr (by simp [FromMinusOne, noStock])
  have kept : ∀ rows request, True → Keyed rows → Keyed (serveStock rows request) :=
    fun _ request _ here => here.served request
  have exactly : ∀ rows request, True → Keyed rows → RefusesLowering rows →
      (RefusesLowering (serveStock rows request) ↔ CorrectsToMinusOne rows request) := by
    intro rows request _ here good
    rw [refusesLowering_iff (here.served request)]
    exact fromMinusOne_serveStock_iff here ((refusesLowering_iff here).mp good) request
  exact visits_iff_along kept exactly (fun _ _ => trivial) keyed refuses

def countedShort : CreateAdjustmentDto := ⟨7, 3, -5, .adjustment, none, by decide⟩

def delivery : CreateAdjustmentDto := ⟨7, 3, 3, .receive, none, by decide⟩

/-- Three units received do not fill a gap of five, and are refused. -/
theorem delivery_refused : ¬ RefusesLowering (run serveStock noStock [.adjust 1 countedShort 0]) := by
  intro refuses
  have found : findSlot delivery.variantId delivery.locationId (run serveStock noStock [.adjust 1 countedShort 0]) =
      some (newItem 1 7 3 (-5) 0 0 0) := by decide
  have ids : ((run serveStock noStock [.adjust 1 countedShort 0]).items.map (·.id)).Nodup := by decide
  have refused : Refused 2 delivery 1 (run serveStock noStock [.adjust 1 countedShort 0]) :=
    (adjust_refused_iff ids found).mpr (by decide)
  have lowers := ((refuses 2 delivery 1 _ found).mp refused).1
  exact absurd lowers (by decide)

end Aicos.Properties
