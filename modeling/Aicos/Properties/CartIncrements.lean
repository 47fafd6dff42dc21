import Aicos.Storefront.AddItem
import Mathlib.Data.List.Induction

namespace Aicos.Properties

open Aicos.Commerce Aicos.Data Aicos.Storefront Aicos.Transition
open Aicos.Transaction Aicos.Transaction.ReadCommitted

/-! Quantities put into a cart by several requests.  `addItem` writes the total it
computed from the line it read, so a line has to stay as it was read. -/

abbrev CartRows := Db × List (Committed CartWrite AddItemRequest)

abbrev CartAction := ReadCommitted.Action CartRows (CartWrite ⊕ Committed CartWrite AddItemRequest) Failure

abbrev CartState := ReadCommitted.State CartRows (CartWrite ⊕ Committed CartWrite AddItemRequest) CartKey Failure

abbrev lineStore : Transaction.Store CartRows (CartWrite ⊕ Committed CartWrite AddItemRequest) CartKey :=
  cartStore.recorded

/-- Any number of `addItem` requests, with their statements in any order. -/
def CartSchedule (schedule : List CartAction) : Prop :=
  ∀ action ∈ schedule, Starts (fun program =>
    ∃ body, (∃ request : AddItemRequest, body = request.program) ∧ program = body.record []) action

def quantityOf (token : CartToken) (variantId : VariantId) (db : Db) : Nat :=
  ((lineOf token variantId db).map (·.quantity)).getD 0

def addedBy (token : CartToken) (variantId : VariantId) (entry : Committed CartWrite AddItemRequest) : Nat :=
  if entry.value.token = token ∧ entry.value.variantId = variantId then entry.value.qty else 0

/-- Every line holds what it held at first and what the committed requests added. -/
def AddsUp (start : Db) (rows : CartRows) : Prop :=
  ∀ token variantId, quantityOf token variantId rows.1 =
    quantityOf token variantId start + (rows.2.map (addedBy token variantId)).sum

/-- The statement does not violate a constraint. -/
def Admitted (_ rows : CartRows) (statement : CartWrite ⊕ Committed CartWrite AddItemRequest) : Prop :=
  lineStore.admits statement rows = true

/-- A write meets its line with the quantity its request has read, or still none. -/
def LineAsRead (_ rows : Db) : CartWrite → Prop
  | .updateLine token existing _ _ =>
      ∃ line, lineOf token existing.variantId rows = some line ∧ line.quantity = existing.quantity
  | .createLine token item => lineOf token item.variantId rows = none

structure CartRely (held : CartKey → Prop) (before after : Db) : Prop where
  carts : ∀ token, (after.findCart token).isSome = (before.findCart token).isSome
  lines : ∀ token variantId, held (token, variantId) → lineOf token variantId after = lineOf token variantId before

def Increments (rows : Db) (entry : Committed CartWrite AddItemRequest) : Prop :=
  ∀ token variantId, quantityOf token variantId (cartStore.view entry.statements rows) =
    quantityOf token variantId rows + addedBy token variantId entry

abbrev LineOutline := RecordedOutline cartStore (fun _ => True) CartRely LineAsRead Increments (ε := Failure)

section Statements

variable {token : CartToken} {variantId : VariantId} {db : Db}

theorem change_token (statement : CartWrite) (cart : Cart) : (statement.change cart).token = cart.token := by
  cases statement <;> rfl

theorem findCart_apply (statement : CartWrite) (db : Db) :
    (statement.apply db).findCart token =
      (db.findCart token).map fun cart => if cart.token = statement.token then statement.change cart else cart := by
  rw [CartWrite.apply, Db.updateCart, Db.findCart_update db _ _ token (change_token statement)]
  simp only [decide_eq_true_eq]

theorem lineOf_apply (statement : CartWrite) (db : Db) :
    lineOf token variantId (statement.apply db) =
      (db.findCart token).bind fun cart =>
        findLine (if token = statement.token then statement.change cart else cart) variantId := by
  rw [lineOf, findCart_apply]
  cases found : db.findCart token with
  | none => rfl
  | some cart =>
      have same : cart.token = token := by simpa using List.find?_some found
      simp [same]

/-- A statement is felt only in the line it locks. -/
theorem lineOf_apart {statement : CartWrite} (apart : (token, variantId) ∉ statement.locks) (db : Db) :
    lineOf token variantId (statement.apply db) = lineOf token variantId db := by
  rw [lineOf_apply, lineOf]
  congr 1
  funext cart
  split
  · rename_i same
    cases statement with
    | updateLine wanted existing quantity unitPriceCents =>
        have foreign : variantId ≠ existing.variantId := by
          rintro rfl
          exact apart (List.mem_singleton.mpr (congrArg (·, _) same))
        have keyed : ∀ item : CartItem,
            ({ item with quantity, unitPriceCents } : CartItem).variantId = item.variantId := fun _ => rfl
        rw [CartWrite.change, findLine, find?_updateWhere_key keyed, findLine]
        cases line : cart.items.find? fun item => item.variantId = variantId with
        | none => rfl
        | some item =>
            have mine : item.variantId = variantId := by simpa using List.find?_some line
            simp [mine, foreign]
    | createLine wanted item =>
        have foreign : item.variantId ≠ variantId := by
          rintro rfl
          exact apart (List.mem_singleton.mpr (congrArg (·, _) same))
        simp [findLine, CartWrite.change, List.find?_append, foreign]
  · rfl

theorem lineOf_variantId {line : CartItem} (found : lineOf token variantId db = some line) :
    line.variantId = variantId := by
  obtain ⟨_, _, there⟩ := Option.bind_eq_some_iff.mp found
  simpa using List.find?_some there

theorem lineOf_updateLine {existing line : CartItem} {quantity : Nat} {unitPriceCents : Int}
    (found : lineOf token existing.variantId db = some line) :
    lineOf token existing.variantId ((CartWrite.updateLine token existing quantity unitPriceCents).apply db) =
      some { line with quantity, unitPriceCents } := by
  obtain ⟨cart, opened, there⟩ := Option.bind_eq_some_iff.mp found
  have mine := lineOf_variantId found
  have keyed : ∀ item : CartItem, ({ item with quantity, unitPriceCents } : CartItem).variantId = item.variantId :=
    fun _ => rfl
  have there : cart.items.find? (fun item => item.variantId = existing.variantId) = some line := there
  rw [lineOf_apply, opened, Option.bind_some, CartWrite.token, if_pos rfl, CartWrite.change, findLine,
    find?_updateWhere_key keyed, there]
  simp [mine]

theorem lineOf_createLine {item : CartItem} (mine : item.variantId = variantId)
    (absent : lineOf token variantId db = none) (there : (db.findCart token).isSome = true) :
    lineOf token variantId ((CartWrite.createLine token item).apply db) = some item := by
  obtain ⟨cart, opened⟩ := Option.isSome_iff_exists.mp there
  rw [lineOf, opened] at absent
  have absent : cart.items.find? (fun item => item.variantId = variantId) = none := absent
  rw [lineOf_apply, opened]
  simp [findLine, CartWrite.token, CartWrite.change, List.find?_append, absent, mine]

/-- A request of one statement adds what it was asked to if its own line says so. -/
theorem increments_statement {statement : CartWrite} {request : AddItemRequest}
    (locks : statement.locks = [(request.token, request.variantId)])
    (line : quantityOf request.token request.variantId (statement.apply db) =
      quantityOf request.token request.variantId db + request.qty) :
    Increments db { statements := [statement], value := request } := by
  intro token variantId
  show quantityOf token variantId (statement.apply db) = _
  unfold addedBy
  split
  · rename_i mine
    obtain ⟨rfl, rfl⟩ := mine
    exact line
  · rename_i foreign
    have apart : (token, variantId) ∉ statement.locks := by
      rw [locks, List.mem_singleton, Prod.mk.injEq]
      rintro ⟨rfl, rfl⟩
      exact foreign ⟨rfl, rfl⟩
    rw [quantityOf, lineOf_apart apart, Nat.add_zero, quantityOf]

end Statements

theorem addItem_lineOutline (request : AddItemRequest) (rows : Db) : LineOutline request.program [] rows rows := by
  refine RecordedOutline.require_bind fun stores _ _ _ _ => ?_
  refine RecordedOutline.require_bind fun carts cart _ _ opened => ?_
  obtain ⟨found, token⟩ := openCart_ok opened
  have there : (carts.findCart request.token).isSome = true := Option.isSome_iff_exists.mpr ⟨cart, found⟩
  rw [token]
  refine RecordedOutline.require_bind fun variants variant _ variants_moved _ => ?_
  rw [Program.query_bind]
  intro lines _ lines_moved
  refine RecordedOutline.require_bind fun stock _ _ stock_moved _ => ?_
  have there : (stock.findCart request.token).isSome = true := by
    rw [stock_moved.carts, lines_moved.carts, variants_moved.carts, there]
  dsimp only [Store.view_nil]
  cases read : lineOf request.token request.variantId lines with
  | some existing =>
      have mine := lineOf_variantId read
      dsimp only
      rw [Program.exec_bind]
      intro write _ _ _ guarded last _ moved
      obtain ⟨line, met, same⟩ := guarded
      have held : cartStore.Holds [.updateLine request.token existing (existing.quantity + request.qty)
          variant.priceCents] (request.token, existing.variantId) :=
        ⟨_, List.mem_singleton.mpr rfl, List.mem_singleton.mpr rfl⟩
      have met : lineOf request.token existing.variantId last = some line := (moved.lines _ _ held).trans met
      refine increments_statement (congrArg (fun id => [(request.token, id)]) mine) ?_
      rw [← mine, quantityOf, lineOf_updateLine met, quantityOf, met]
      simp [same]
  | none =>
      dsimp only
      rw [Program.exec_bind]
      intro write _ write_moved _ absent last _ moved
      -- the index entry is taken, so nobody has created the line in between
      have held : cartStore.Holds [.createLine request.token
          { variantId := request.variantId, quantity := request.qty, unitPriceCents := variant.priceCents }]
          (request.token, request.variantId) := ⟨_, List.mem_singleton.mpr rfl, List.mem_singleton.mpr rfl⟩
      have there : (last.findCart request.token).isSome = true := by rw [moved.carts, write_moved.carts, there]
      have absent : lineOf request.token request.variantId last = none := (moved.lines _ _ held).trans absent
      have added (item : CartItem) (mine : item.variantId = request.variantId) :
          lineOf request.token request.variantId ((CartWrite.createLine request.token item).apply last) = some item :=
        lineOf_createLine mine absent there
      refine increments_statement rfl ?_
      rw [quantityOf, added _ rfl, quantityOf, absent]
      simp

theorem Replayed.addsUp {start : Db} {rows : CartRows} (replayed : Replayed cartStore Increments start rows) :
    AddsUp start rows := by
  obtain ⟨db, log⟩ := rows
  obtain ⟨same, all⟩ := replayed
  dsimp only at same all
  intro token variantId
  rw [same]
  clear same
  induction log using List.reverseRecOn with
  | nil => simp
  | append_singleton before entry ih =>
      have earlier := ih fun front other back split => all front other (back ++ [entry]) (by simp [split])
      have mine := all before entry [] (by simp) token variantId
      rw [cartStore.replay_concat, mine, earlier]
      simp [Nat.add_assoc]

theorem LineAsRead.admitted {seen rows : Db} {statement : CartWrite} (same : LineAsRead seen rows statement) :
    statement.admits rows = true := by
  cases statement with
  | updateLine token existing quantity unitPriceCents =>
      obtain ⟨line, met, _⟩ := same
      simp [CartWrite.admits, met]
  | createLine token item =>
      have absent : lineOf token item.variantId rows = none := same
      simp [CartWrite.admits, absent]

/-- As long as every write meets its line as its request has read it, no request
violates a constraint, and every line holds what the committed requests added,
in every state of every schedule. -/
theorem adds_up_of_line_as_read {start : Db} {schedule : List CartAction} (requests : CartSchedule schedule)
    (guarded : Along (step lineStore) (WriteGuard lineStore (recordedGuard LineAsRead))
      (State.idle (start, []) : CartState) schedule) :
    Along (step lineStore) (WriteGuard lineStore Admitted) (State.idle (start, []) : CartState) schedule ∧
      Visits (step lineStore) (fun state => AddsUp start state.committed)
        (State.idle (start, []) : CartState) schedule := by
  have frame : ∀ statements rows held, (∀ key, held key → ¬ cartStore.Holds statements key) →
      CartRely held rows (cartStore.view statements rows) := by
    intro statements
    induction statements with
    | nil => exact fun rows held _ => ⟨fun _ => rfl, fun _ _ _ => rfl⟩
    | cons statement rest ih =>
        intro rows held apart
        have later := ih (statement.apply rows) held fun key lock holds =>
          apart key lock (cartStore.holds_cons.mpr (.inr holds))
        refine ⟨fun token => ?_, fun token variantId lock => ?_⟩
        · exact (later.carts token).trans (by rw [findCart_apply, Option.isSome_map])
        · refine (later.lines token variantId lock).trans (lineOf_apart (fun locked => ?_) rows)
          exact apart _ lock (cartStore.holds_cons.mpr (.inl locked))
  have outlined : ∀ program, (∃ request : AddItemRequest, program = request.program) →
      ∀ rows, True → LineOutline program [] rows rows := by
    rintro program ⟨request, rfl⟩ rows _
    exact addItem_lineOutline request rows
  have rely_trans : ∀ held first second third, CartRely held first second → CartRely held second third →
      CartRely held first third := fun _ _ _ _ one two =>
    ⟨fun token => (two.carts token).trans (one.carts token),
      fun token variantId lock => (two.lines token variantId lock).trans (one.lines token variantId lock)⟩
  have visits := replayed_of_outlines (fun _ _ => ⟨fun _ => rfl, fun _ _ _ => rfl⟩) rely_trans frame
    (fun _ _ _ _ => trivial) outlined trivial requests guarded
  refine ⟨guarded.mono fun state action => WriteGuard.mono ?_, visits.mono fun _ sound => Replayed.addsUp sound.2⟩
  rintro seen rows (statement | entry) same
  · have same : LineAsRead seen.1 rows.1 statement := same
    exact same.admitted
  · rfl

/-- A cart with one lamp in it; lamps are sold on back order too. -/
def oneLampInCart : Db where
  tenantId := 1
  stores := [{ id := 1, slug := "lamps", name := "Lamps", status := .published, currency := "USD" }]
  variants := [{
    id := 7, product := { status := .active, title := "Lamp", slug := "lamp" }, title := "Default", sku := none
    priceCents := 500, inventoryPolicy := .continue, deletedAt := none }]
  stock := { items := [], movements := [] }
  carts := [{
    token := 1, storeId := 1, currency := "USD", convertedOrderId := none
    items := [{ variantId := 7, quantity := 1, unitPriceCents := 500 }] }]
  orders := []
  payments := []
  refunds := []
  returns := []
  connectAccount := none

def addLamps (quantity : Nat) : Program CartRows (CartWrite ⊕ Committed CartWrite AddItemRequest) Failure Unit :=
  (AddItemRequest.program ⟨"lamps", 1, 7, some quantity⟩).record []

theorem addLamps_spawned (quantity : Nat) :
    ∃ request : AddItemRequest, addLamps quantity = request.program.record [] :=
  ⟨_, rfl⟩

/-- The five reads of a request, its write and its record. -/
def runsThrough (id : TransactionId) : List CartAction :=
  List.replicate 7 (.advance id) ++ [.commit id]

/-- Both requests read the line before either writes it. -/
def bothReadFirst : List CartAction :=
  [.begin 1 (addLamps 2), .begin 2 (addLamps 3)] ++ List.replicate 5 (.advance 1) ++ runsThrough 2 ++
    List.replicate 2 (.advance 1) ++ [.commit 1]

theorem increment_lost :
    ¬ ∀ start schedule, CartSchedule schedule →
      Along (step lineStore) (WriteGuard lineStore Admitted) (State.idle (start, []) : CartState) schedule ∧
        Visits (step lineStore) (fun state => AddsUp start state.committed)
          (State.idle (start, []) : CartState) schedule := by
  intro always
  have requests : CartSchedule bothReadFirst := by
    simp [CartSchedule, bothReadFirst, runsThrough, Starts, addLamps_spawned]
  have adds := (always oneLampInCart bothReadFirst requests).2.last 1 7
  exact absurd adds (by decide)

theorem adds_up_one_after_another :
    Along (step lineStore) (WriteGuard lineStore Admitted) (State.idle (oneLampInCart, []) : CartState)
        ([.begin 1 (addLamps 2)] ++ runsThrough 1 ++ [.begin 2 (addLamps 3)] ++ runsThrough 2) ∧
      Visits (step lineStore) (fun state => AddsUp oneLampInCart state.committed)
        (State.idle (oneLampInCart, []) : CartState)
        ([.begin 1 (addLamps 2)] ++ runsThrough 1 ++ [.begin 2 (addLamps 3)] ++ runsThrough 2) := by
  apply adds_up_of_line_as_read
  · simp [CartSchedule, runsThrough, Starts, addLamps_spawned]
  · refine ⟨trivial, trivial, trivial, trivial, trivial, trivial, ⟨_, rfl, rfl⟩, trivial, trivial,
      trivial, trivial, trivial, trivial, trivial, trivial, ⟨_, rfl, rfl⟩, trivial, trivial, trivial⟩

end Aicos.Properties
