import Aicos.Properties.ReturnQuantities
import Aicos.Returns.Portal
import Aicos.Transition.Run

namespace Aicos.Properties

open Aicos.Commerce Aicos.Data Aicos.Returns Aicos.Shipping Aicos.Transition

/-! What a guest of the portal learns: nothing that depends on the orders of others, on
their returns, or on what other guests ask. -/

variable {insensitive : String → String → Bool} {spellings : List String}

/-- An order whose email the guest can name. -/
def Theirs (insensitive : String → String → Bool) (spellings : List String) (order : Order) : Bool :=
  order.email.any fun stored => spellings.any fun email => insensitive stored email

def ownOrders (insensitive : String → String → Bool) (spellings : List String) (db : Db) : List Order :=
  db.orders.filter (Theirs insensitive spellings)

def ownId (insensitive : String → String → Bool) (spellings : List String) (db : Db) (id : OrderId) : Bool :=
  (ownOrders insensitive spellings db).any fun order => order.id = id

def ownReturns (insensitive : String → String → Bool) (spellings : List String) (db : Db) : List Return :=
  db.returns.filter fun ret => ownId insensitive spellings db ret.orderId

/-- The guest's own requests, and what the staff does. -/
def seenBy (spellings : List String) : PortalAction → Bool
  | .guest _ request => request.email ∈ spellings
  | _ => true

/-- A new row gets a key that no other has. -/
def FreshKey (portal : Portal) : PortalAction → Prop
  | .guest _ (.request _ id _) => ∀ ret ∈ portal.db.returns, ret.id ≠ id
  | _ => True

/-- A guest's request names an email of this guest, or one that matches that of no order of
this guest.  PostgreSQL matches with `ILIKE`, to which `%` and `_` in the request are wildcards,
and `@IsEmail` lets them pass. -/
def NamesOwn (insensitive : String → String → Bool) (spellings : List String) (portal : Portal) : PortalAction → Prop
  | .guest _ request => request.email ∈ spellings ∨ ∀ order ∈ ownOrders insensitive spellings portal.db,
      order.email.any (insensitive · request.email) = false
  | _ => True

def Separate (insensitive : String → String → Bool) (spellings : List String) (portal : Portal)
    (action : PortalAction) : Prop :=
  NamesOwn insensitive spellings portal action ∧ FreshKey portal action

structure IdsApart (db : Db) : Prop where
  orders : (db.orders.map Order.id).Nodup
  returns : (db.returns.map Return.id).Nodup

/-- Two portals that hold the same of what is the guest's. -/
structure Alike (insensitive : String → String → Bool) (spellings : List String) (left right : Portal) : Prop where
  keyed : IdsApart left.db
  keyedRight : IdsApart right.db
  stores : left.db.stores = right.db.stores
  orders : ownOrders insensitive spellings left.db = ownOrders insensitive spellings right.db
  returns : ownReturns insensitive spellings left.db = ownReturns insensitive spellings right.db
  shipments : left.shipments.filter (fun shipment => ownId insensitive spellings left.db shipment.orderId) =
    right.shipments.filter fun shipment => ownId insensitive spellings right.db shipment.orderId
  fulfillment : ∀ order ∈ ownOrders insensitive spellings left.db,
    left.fulfillment order.id = right.fulfillment order.id
  requestedAt : ∀ ret ∈ ownReturns insensitive spellings left.db, left.requestedAt ret.id = right.requestedAt ret.id
  keys : ∀ id, (∀ ret ∈ left.db.returns, ret.id ≠ id) → ∀ ret ∈ right.db.returns, ret.id ≠ id

section Rows

variable {db : Db} {order : Order} {ret : Return}

theorem owned_of_match {email : String} (mine : email ∈ spellings)
    (named : order.email.any (insensitive · email) = true) : Theirs insensitive spellings order = true := by
  obtain ⟨stored, set, same⟩ := (Option.any_eq_true _ _).mp named
  exact (Option.any_eq_true _ _).mpr ⟨stored, set, List.any_eq_true.mpr ⟨email, mine, same⟩⟩

theorem ownId_iff {id : OrderId} : ownId insensitive spellings db id = true ↔
    ∃ order ∈ db.orders, Theirs insensitive spellings order = true ∧ order.id = id := by
  simp [ownId, ownOrders]

theorem findOrder_of_mem (keyed : IdsApart db) (member : order ∈ db.orders) : db.findOrder order.id = some order :=
  find?_of_key keyed.orders member

theorem findReturn_of_mem (keyed : IdsApart db) (member : ret ∈ db.returns) : db.findReturn ret.id = some ret :=
  find?_of_key keyed.returns member

theorem not_ownId (keyed : IdsApart db) (member : order ∈ db.orders)
    (others : Theirs insensitive spellings order = false) :
    ownId insensitive spellings db order.id = false := by
  rw [Bool.eq_false_iff]
  intro own
  obtain ⟨other, present, owned, same⟩ := ownId_iff.mp own
  obtain rfl : other = order := List.inj_on_of_nodup_map keyed.orders present member same
  rw [others] at owned
  cases owned

theorem ownId_of_match {email : String} {id : OrderId} (mine : email ∈ spellings)
    (named : ((db.findOrder id).any fun order => order.email.any (insensitive · email)) = true) :
    ownId insensitive spellings db id = true := by
  obtain ⟨order, there, named⟩ := (Option.any_eq_true _ _).mp named
  have same : order.id = id := by simpa using List.find?_some there
  exact ownId_iff.mpr ⟨order, List.mem_of_find?_eq_some there, owned_of_match mine named, same⟩

theorem findReturn_own {portal : Portal} {email : String} {id : ReturnId} (mine : email ∈ spellings)
    (found : portal.findReturn insensitive id email = some ret) : ret ∈ ownReturns insensitive spellings portal.db := by
  unfold Portal.findReturn at found
  have named := List.find?_some found
  exact List.mem_filter.mpr ⟨List.mem_of_find?_eq_some found, ownId_of_match mine (of_decide_eq_true named).2⟩

end Rows

section Answers

variable {left right : Portal} (alike : Alike insensitive spellings left right)

include alike

theorem ownId_alike (id : OrderId) :
    ownId insensitive spellings left.db id = ownId insensitive spellings right.db id := by
  rw [ownId, ownId, alike.orders]

theorem lookup_alike (number : Nat) {email : String} (mine : email ∈ spellings) :
    left.db.orders.find? (fun order => order.number = number ∧ order.email.any (insensitive · email)) =
      right.db.orders.find? fun order => order.number = number ∧ order.email.any (insensitive · email) := by
  have own (db : Db) : ∀ order ∈ db.orders, decide (order.number = number ∧
      order.email.any (insensitive · email) = true) = true → Theirs insensitive spellings order = true :=
    fun order _ found => owned_of_match mine (of_decide_eq_true found).2
  rw [find?_within _ (own left.db), find?_within _ (own right.db)]
  exact congrArg _ alike.orders

theorem findOrder_alike {id : OrderId} (own : ownId insensitive spellings left.db id = true) :
    left.db.findOrder id = right.db.findOrder id := by
  obtain ⟨order, member, owned, rfl⟩ := ownId_iff.mp own
  have there : order ∈ ownOrders insensitive spellings right.db :=
    alike.orders ▸ List.mem_filter.mpr ⟨member, owned⟩
  rw [findOrder_of_mem alike.keyed member, findOrder_of_mem alike.keyedRight (List.mem_of_mem_filter there)]

theorem toOrderView_alike {order : Order} (member : order ∈ ownOrders insensitive spellings left.db) :
    left.toOrderView order = right.toOrderView order := by
  have own : ownId insensitive spellings left.db order.id = true := by
    obtain ⟨present, owned⟩ := List.mem_filter.mp member
    exact ownId_iff.mpr ⟨order, present, owned, rfl⟩
  have ownRight : ownId insensitive spellings right.db order.id = true := (ownId_alike alike _).symm.trans own
  have shipments : left.shipments.filter (fun shipment => shipment.orderId = order.id) =
      right.shipments.filter fun shipment => shipment.orderId = order.id := by
    have here := filter_within (fun shipment : Shipment => ownId insensitive spellings left.db shipment.orderId)
      (fun shipment (_ : shipment ∈ left.shipments) same => (congrArg _ (of_decide_eq_true same)).trans own)
    have there := filter_within (fun shipment : Shipment => ownId insensitive spellings right.db shipment.orderId)
      (fun shipment (_ : shipment ∈ right.shipments) same => (congrArg _ (of_decide_eq_true same)).trans ownRight)
    exact here.trans ((congrArg _ alike.shipments).trans there.symm)
  have returns : left.db.returns.filter (fun ret => ret.orderId = order.id) =
      right.db.returns.filter fun ret => ret.orderId = order.id := by
    have here := filter_within (fun ret : Return => ownId insensitive spellings left.db ret.orderId)
      (fun ret (_ : ret ∈ left.db.returns) same => (congrArg _ (of_decide_eq_true same)).trans own)
    have there := filter_within (fun ret : Return => ownId insensitive spellings right.db ret.orderId)
      (fun ret (_ : ret ∈ right.db.returns) same => (congrArg _ (of_decide_eq_true same)).trans ownRight)
    exact here.trans ((congrArg _ alike.returns).trans there.symm)
  have receipts : (left.db.returns.filter fun ret => ret.orderId = order.id).map left.receipt =
      (left.db.returns.filter fun ret => ret.orderId = order.id).map right.receipt := by
    refine List.map_congr_left fun ret found => ?_
    obtain ⟨present, same⟩ := List.mem_filter.mp found
    have mine : ret ∈ ownReturns insensitive spellings left.db :=
      List.mem_filter.mpr ⟨present, by rw [of_decide_eq_true same, own]⟩
    rw [Portal.receipt, Portal.receipt, alike.requestedAt ret mine]
  rw [Portal.toOrderView, Portal.toOrderView, receipts, returns, shipments, alike.fulfillment order member]

theorem findReturn_alike {email : String} {id : ReturnId} (mine : email ∈ spellings) :
    left.findReturn insensitive id email = right.findReturn insensitive id email := by
  have own (portal : Portal) : ∀ ret ∈ portal.db.returns, decide (ret.id = id ∧
      ((portal.db.findOrder ret.orderId).any fun order => order.email.any (insensitive · email)) = true) = true →
      ownId insensitive spellings portal.db ret.orderId = true := by
    intro ret _ found
    exact ownId_of_match mine (of_decide_eq_true found).2
  have here := find?_within _ (own left)
  have there := find?_within _ (own right)
  refine here.trans (Eq.trans ?_ there.symm)
  refine Eq.trans (find?_congr_of_mem fun ret member => ?_) (congrArg _ alike.returns)
  obtain ⟨_, owns⟩ := List.mem_filter.mp member
  rw [findOrder_alike alike owns]

theorem getReturn_alike {slug email : String} {id : ReturnId} (mine : email ∈ spellings) :
    left.getReturn insensitive slug id email = right.getReturn insensitive slug id email := by
  have tenant : left.resolveTenant slug = right.resolveTenant slug := by
    rw [Portal.resolveTenant, Portal.resolveTenant, Db.publishedStore, Db.publishedStore, alike.stores]
  have views : left.returnView insensitive id email = right.returnView insensitive id email := by
    rw [Portal.returnView, Portal.returnView, ← findReturn_alike alike mine]
    refine Option.bind_congr fun ret found => ?_
    have member := findReturn_own mine found
    rw [findOrder_alike alike (List.mem_filter.mp member).2]
    congr 1
    funext order
    rw [Portal.toReturnView, Portal.toReturnView, alike.requestedAt ret member]
  rw [Portal.getReturn, Portal.getReturn, tenant, views]

theorem lookupOrder_alike {slug : String} {dto : OrderLookupDto} (mine : dto.email ∈ spellings) :
    left.lookupOrder insensitive slug dto = right.lookupOrder insensitive slug dto := by
  have tenant : left.resolveTenant slug = right.resolveTenant slug := by
    rw [Portal.resolveTenant, Portal.resolveTenant, Db.publishedStore, Db.publishedStore, alike.stores]
  have same := lookup_alike alike dto.orderNumber mine
  rw [Portal.lookupOrder, Portal.lookupOrder, tenant, ← same]
  congr 1
  funext
  cases found : left.db.orders.find? (fun order => order.number = dto.orderNumber ∧
      order.email.any (insensitive · dto.email)) with
  | none => rfl
  | some order =>
      have named := List.find?_some found
      have owned := owned_of_match mine (of_decide_eq_true named).2
      have member : order ∈ ownOrders insensitive spellings left.db :=
        List.mem_filter.mpr ⟨List.mem_of_find?_eq_some found, owned⟩
      simp only [toOrderView_alike alike member]

end Answers

section Requests

variable {slug : String} {dto : RequestReturnDto} {id : ReturnId} {db : Db}

/-- What `requestReturn` finds and checks before it writes. -/
def requestPlan (insensitive : String → String → Bool) (slug : String) (dto : RequestReturnDto) (db : Db) :
    Tx (Order × List ReturnItem) :=
  match db.publishedStore slug with
  | none => throw (.http (.notFound "Store not found"))
  | some _ =>
      match lookupOrder insensitive dto db with
      | none => throw (.http (.notFound "Order not found"))
      | some order => (checkLines order.items dto.items).map fun items => (order, items)

def withReturn (id : ReturnId) (dto : RequestReturnDto) (db : Db) (plan : Order × List ReturnItem) : Db :=
  { db with returns := db.returns ++ [newReturn id plan.1 dto.reason plan.2] }

theorem requestReturn_fresh (fresh : ∀ ret ∈ db.returns, ret.id ≠ id) :
    requestReturn insensitive slug dto id db = (requestPlan insensitive slug dto db).map (withReturn id dto db) := by
  unfold requestReturn requestPlan
  cases db.publishedStore slug with
  | none => rfl
  | some store =>
      cases lookupOrder insensitive dto db with
      | none => rfl
      | some order =>
          cases checked : checkLines order.items dto.items with
          | error reason => simp only [checked]; rfl
          | ok items =>
              have created : db.createReturn (newReturn id order dto.reason items) =
                  .ok (withReturn id dto db (order, items)) := by
                refine if_neg fun taken => ?_
                obtain ⟨other, member, same⟩ := List.any_eq_true.mp taken
                exact fresh other member (of_decide_eq_true same)
              simp only [checked, ok_bind, created]
              rfl

theorem requestPlan_ok {plan : Order × List ReturnItem} (planned : requestPlan insensitive slug dto db = .ok plan) :
    lookupOrder insensitive dto db = some plan.1 := by
  unfold requestPlan at planned
  split at planned
  · cases planned
  · split at planned
    · cases planned
    · rename_i found
      cases checked : checkLines _ dto.items with
      | error reason => rw [checked] at planned; cases planned
      | ok items =>
          rw [checked] at planned
          cases planned
          exact found

theorem requested_eq {portal : Portal} {now : Instant} (fresh : ∀ ret ∈ portal.db.returns, ret.id ≠ id) :
    portal.requested insensitive slug dto id now =
      match requestPlan insensitive slug dto portal.db with
      | .ok plan => { portal with
          db := withReturn id dto portal.db plan, requestedAt := Function.update portal.requestedAt id now }
      | .error _ => portal := by
  rw [Portal.requested, requestReturn_fresh fresh]
  cases requestPlan insensitive slug dto portal.db <;> rfl

theorem ownReturns_withReturn {plan : Order × List ReturnItem} :
    ownReturns insensitive spellings (withReturn id dto db plan) = ownReturns insensitive spellings db ++
      [newReturn id plan.1 dto.reason plan.2].filter fun ret => ownId insensitive spellings db ret.orderId :=
  List.filter_append _ _

theorem IdsApart.withReturn {plan : Order × List ReturnItem} (keyed : IdsApart db)
    (fresh : ∀ ret ∈ db.returns, ret.id ≠ id) :
    IdsApart (withReturn id dto db plan) := by
  refine ⟨keyed.orders, ?_⟩
  show ((db.returns ++ [newReturn id plan.1 dto.reason plan.2]).map Return.id).Nodup
  rw [List.map_append]
  refine List.nodup_append.mpr ⟨keyed.returns, List.nodup_singleton _, ?_⟩
  intro key old other new same
  obtain ⟨ret, member, rfl⟩ := List.mem_map.mp old
  rw [List.map_singleton, List.mem_singleton] at new
  exact fresh ret member (same.trans new)

variable {left right : Portal} (alike : Alike insensitive spellings left right)

include alike

theorem requestPlan_alike (mine : dto.email ∈ spellings) :
    requestPlan insensitive slug dto left.db = requestPlan insensitive slug dto right.db := by
  have found : lookupOrder insensitive dto left.db = lookupOrder insensitive dto right.db :=
    lookup_alike alike dto.orderNumber mine
  rw [requestPlan, requestPlan, Db.publishedStore, Db.publishedStore, alike.stores, found]

theorem alike_request {now : Instant} (mine : dto.email ∈ spellings) (fresh : ∀ ret ∈ left.db.returns, ret.id ≠ id) :
    Alike insensitive spellings (left.requested insensitive slug dto id now)
      (right.requested insensitive slug dto id now) := by
  have freshRight := alike.keys id fresh
  rw [requested_eq fresh, requested_eq freshRight, ← requestPlan_alike alike mine]
  cases requestPlan insensitive slug dto left.db with
  | error reason => exact alike
  | ok plan =>
      have same : ownReturns insensitive spellings (withReturn id dto left.db plan) =
          ownReturns insensitive spellings (withReturn id dto right.db plan) := by
        rw [ownReturns_withReturn, ownReturns_withReturn, alike.returns]
        simp only [ownId_alike alike]
      refine ⟨alike.keyed.withReturn fresh, alike.keyedRight.withReturn freshRight, alike.stores, alike.orders, same,
        alike.shipments, alike.fulfillment, fun ret member => ?_, fun key free ret member => ?_⟩
      · by_cases new : ret.id = id
        · simp only [new, Function.update_self]
        · simp only [Function.update_of_ne new]
          rw [ownReturns_withReturn] at member
          obtain old | added := List.mem_append.mp member
          · exact alike.requestedAt ret old
          · have here := List.mem_singleton.mp (List.mem_of_mem_filter added)
            rw [here] at new
            exact absurd rfl new
      · obtain old | added := List.mem_append.mp member
        · exact alike.keys key (fun other here => free other (List.mem_append_left _ here)) ret old
        · rw [List.mem_singleton.mp added]
          exact free _ (List.mem_append_right _ (List.mem_singleton_self _))

/-- Another guest's request writes what is not this guest's. -/
theorem alike_ignored {now : Instant} (others : ∀ order ∈ ownOrders insensitive spellings left.db,
      order.email.any (insensitive · dto.email) = false) (fresh : ∀ ret ∈ left.db.returns, ret.id ≠ id) :
    Alike insensitive spellings (left.requested insensitive slug dto id now) right := by
  rw [requested_eq fresh]
  cases planned : requestPlan insensitive slug dto left.db with
  | error reason => exact alike
  | ok plan =>
      have found := requestPlan_ok planned
      unfold lookupOrder at found
      have member := List.mem_of_find?_eq_some found
      have named := List.find?_some found
      have beside : Theirs insensitive spellings plan.1 = false := by
        rw [Bool.eq_false_iff]
        intro owned
        have silent := others plan.1 (List.mem_filter.mpr ⟨member, owned⟩)
        rw [(of_decide_eq_true named).2] at silent
        cases silent
      have hidden := not_ownId alike.keyed member beside
      have kept : ownReturns insensitive spellings (withReturn id dto left.db plan) =
          ownReturns insensitive spellings left.db := by
        have skipped : ([newReturn id plan.1 dto.reason plan.2].filter fun ret =>
            ownId insensitive spellings left.db ret.orderId) = [] := by
          refine List.filter_eq_nil_iff.mpr fun ret here => ?_
          rw [List.mem_singleton.mp here]
          simpa [newReturn] using hidden
        rw [ownReturns_withReturn, skipped, List.append_nil]
      refine ⟨alike.keyed.withReturn fresh, alike.keyedRight, alike.stores, alike.orders, kept.trans alike.returns,
        alike.shipments, alike.fulfillment, fun ret member => ?_, fun key free => ?_⟩
      · rw [kept] at member
        have old : ret.id ≠ id := fresh ret (List.mem_of_mem_filter member)
        simp only [Function.update_of_ne old]
        exact alike.requestedAt ret member
      · exact alike.keys key fun other here => free other (List.mem_append_left _ here)

end Requests

section Staff

variable {db : Db} {id : ReturnId} {status : ReturnStatus} {may : ReturnStatus → Bool}

/-- What approving and rejecting a return come to. -/
def decideReturn (may : ReturnStatus → Bool) (status : ReturnStatus) (id : ReturnId) (db : Db) : Db :=
  if (db.findReturn id).any fun ret => (db.findOrder ret.orderId).isSome ∧ may ret.status then
    { db with returns := updateWhere (fun row => row.id = id) (fun ret => { ret with status }) db.returns }
  else db

theorem commit_decides {check : ReturnRead → Tx Unit}
    (checks : ∀ read, check read = .ok () ↔ may read.ret.status = true) :
    Commerce.commit (fun db => do
      let read ← requireReturn id db
      check read
      recordStatus id status db) db = decideReturn may status id db := by
  unfold Commerce.commit decideReturn
  dsimp only
  cases required : requireReturn id db with
  | error reason =>
      rw [if_neg]
      · rfl
      · intro decides
        obtain ⟨ret, found, here⟩ := (Option.any_eq_true _ _).mp decides
        obtain ⟨order, there⟩ := Option.isSome_iff_exists.mp (of_decide_eq_true here).1
        simp only [requireReturn, found, there] at required
        cases required
  | ok read =>
      obtain ⟨found, there, _⟩ := requireReturn_ok required
      rw [ok_bind, found, Option.any_some, there]
      cases checked : check read with
      | error reason =>
          have refused : ¬ may read.ret.status = true := by
            intro allowed
            rw [(checks read).mpr allowed] at checked
            cases checked
          rw [if_neg (by simpa using refused)]
          rfl
      | ok _ =>
          have allowed := (checks read).mp checked
          rw [if_pos (by simpa using allowed), ok_bind, recordStatus, Db.updateReturn, found]
          rfl

theorem commit_approve :
    Commerce.commit (approve id) db = decideReturn (fun status => status = .requested) .approved id db := by
  refine commit_decides fun read => ?_
  by_cases open_ : read.ret.status = .requested <;>
    simp [checkApprove, open_, throw, throwThe, MonadExceptOf.throw, pure, Except.pure]

theorem commit_reject :
    Commerce.commit (reject id) db = decideReturn (fun status => status ≠ .refunded) .rejected id db := by
  refine commit_decides fun read => ?_
  by_cases done : read.ret.status = .refunded <;>
    simp [checkReject, done, throw, throwThe, MonadExceptOf.throw, pure, Except.pure]

theorem ownReturns_decideReturn : ownReturns insensitive spellings (decideReturn may status id db) =
    if (db.findReturn id).any fun ret => (db.findOrder ret.orderId).isSome ∧ may ret.status then
      updateWhere (fun row => row.id = id) (fun ret => { ret with status }) (ownReturns insensitive spellings db)
    else ownReturns insensitive spellings db := by
  unfold decideReturn
  split
  · exact filter_updateWhere fun _ _ _ => rfl
  · rfl

theorem ids_decideReturn : (decideReturn may status id db).returns.map Return.id = db.returns.map Return.id := by
  unfold decideReturn
  split
  · exact map_updateWhere fun _ => rfl
  · rfl

theorem orders_decideReturn : (decideReturn may status id db).orders = db.orders ∧
    (decideReturn may status id db).stores = db.stores := by
  unfold decideReturn
  split <;> exact ⟨rfl, rfl⟩

theorem ownOrders_decideReturn : ownOrders insensitive spellings (decideReturn may status id db) =
    ownOrders insensitive spellings db := by
  rw [ownOrders, orders_decideReturn.1, ownOrders]

theorem ownId_decideReturn (order : OrderId) : ownId insensitive spellings (decideReturn may status id db) order =
    ownId insensitive spellings db order := by
  rw [ownId, ownOrders_decideReturn, ownId]

theorem mem_ownReturns_decideReturn {ret : Return}
    (member : ret ∈ ownReturns insensitive spellings (decideReturn may status id db)) :
    ∃ old ∈ ownReturns insensitive spellings db, old.id = ret.id := by
  rw [ownReturns_decideReturn] at member
  split at member
  · obtain ⟨old, present, rfl⟩ := mem_updateWhere.mp member
    refine ⟨old, present, ?_⟩
    split <;> rfl
  · exact ⟨ret, member, rfl⟩

theorem keyed_decideReturn (keyed : IdsApart db) : IdsApart (decideReturn may status id db) := by
  refine ⟨?_, ?_⟩
  · rw [orders_decideReturn.1]
    exact keyed.orders
  · rw [ids_decideReturn]
    exact keyed.returns

theorem forall_ids_decideReturn (wanted : ReturnId → Prop) :
    (∀ ret ∈ (decideReturn may status id db).returns, wanted ret.id) ↔ ∀ ret ∈ db.returns, wanted ret.id := by
  have ids : (decideReturn may status id db).returns.map Return.id = db.returns.map Return.id := ids_decideReturn
  rw [← List.forall_mem_map (f := Return.id) (P := wanted), ids, List.forall_mem_map]

variable {left right : Portal} (alike : Alike insensitive spellings left right)

include alike

theorem ownReturns_decided : ownReturns insensitive spellings (decideReturn may status id left.db) =
    ownReturns insensitive spellings (decideReturn may status id right.db) := by
  rw [ownReturns_decideReturn, ownReturns_decideReturn, ← alike.returns]
  by_cases owned : ∃ ret ∈ ownReturns insensitive spellings left.db, ret.id = id
  · obtain ⟨ret, member, rfl⟩ := owned
    obtain ⟨present, own⟩ := List.mem_filter.mp member
    have there : ret ∈ ownReturns insensitive spellings right.db := alike.returns ▸ member
    rw [findReturn_of_mem alike.keyed present, findReturn_of_mem alike.keyedRight (List.mem_of_mem_filter there),
      Option.any_some, Option.any_some, findOrder_alike alike own]
  · have beside : ∀ ret ∈ ownReturns insensitive spellings left.db, decide (ret.id = id) = false :=
      fun ret member => decide_eq_false fun same => owned ⟨ret, member, same⟩
    rw [updateWhere_of_forall_not beside, ite_self, ite_self]

theorem alike_decided : Alike insensitive spellings { left with db := decideReturn may status id left.db }
    { right with db := decideReturn may status id right.db } where
  keyed := keyed_decideReturn alike.keyed
  keyedRight := keyed_decideReturn alike.keyedRight
  stores := orders_decideReturn.2.trans (alike.stores.trans orders_decideReturn.2.symm)
  orders := ownOrders_decideReturn.trans (alike.orders.trans ownOrders_decideReturn.symm)
  returns := ownReturns_decided alike
  shipments := by
    simp only [ownId_decideReturn]
    exact alike.shipments
  fulfillment := fun order member => alike.fulfillment order (ownOrders_decideReturn ▸ member)
  requestedAt := by
    intro ret member
    obtain ⟨old, present, same⟩ := mem_ownReturns_decideReturn member
    rw [← same]
    exact alike.requestedAt old present
  keys := by
    intro key free
    have before := (forall_ids_decideReturn fun id => id ≠ key).mp free
    exact (forall_ids_decideReturn fun id => id ≠ key).mpr (alike.keys key before)

end Staff

theorem portal_unwinding : Unwinding (Portal.step insensitive) (Portal.reply insensitive) (seenBy spellings)
    (Separate insensitive spellings) (Alike insensitive spellings) where
  agrees := by
    intro left right action alike separate sees
    cases action with
    | guest slug request =>
        have mine : request.email ∈ spellings := of_decide_eq_true sees
        cases request with
        | lookup dto => simp only [Portal.reply, lookupOrder_alike alike mine]
        | request dto id now =>
            have fresh := separate.2
            simp only [Portal.reply, requestReturn_fresh fresh, requestReturn_fresh (alike.keys id fresh),
              requestPlan_alike alike mine]
            cases requestPlan insensitive slug dto right.db <;> rfl
        | track id email =>
            exact congrArg (fun view => some (GuestAnswer.tracked view)) (getReturn_alike alike mine)
    | approve id => rfl
    | reject id => rfl
  steps := by
    intro left right action alike separate sees
    cases action with
    | guest slug request =>
        have mine : request.email ∈ spellings := of_decide_eq_true sees
        cases request with
        | lookup dto => exact alike
        | request dto id now => exact alike_request alike mine separate.2
        | track id email => exact alike
    | approve id =>
        simp only [Portal.step, Portal.commit, commit_approve]
        exact alike_decided alike
    | reject id =>
        simp only [Portal.step, Portal.commit, commit_reject]
        exact alike_decided alike
  ignores := by
    intro left right action alike separate sees
    cases action with
    | guest slug request =>
        have other : request.email ∉ spellings := of_decide_eq_false sees
        cases request with
        | lookup dto => exact alike
        | request dto id now => exact alike_ignored alike (separate.1.resolve_left other) separate.2
        | track id email => exact alike
    | approve id => cases sees
    | reject id => cases sees

/-- A portal that holds the stores and what is the guest's, and nothing else. -/
def ownPart (insensitive : String → String → Bool) (spellings : List String) (portal : Portal) : Portal where
  db := { portal.db with
    variants := []
    stock := { items := [], movements := [] }
    carts := []
    orders := ownOrders insensitive spellings portal.db
    payments := []
    refunds := []
    returns := ownReturns insensitive spellings portal.db
    connectAccount := none }
  shipments := portal.shipments.filter fun shipment => ownId insensitive spellings portal.db shipment.orderId
  fulfillment := fun id => if ownId insensitive spellings portal.db id then portal.fulfillment id else .unfulfilled
  requestedAt := fun id =>
    if (ownReturns insensitive spellings portal.db).any fun ret => ret.id = id then portal.requestedAt id else 0

theorem alike_ownPart {portal : Portal} (keyed : IdsApart portal.db) :
    Alike insensitive spellings portal (ownPart insensitive spellings portal) := by
  have orders : ownOrders insensitive spellings (ownPart insensitive spellings portal).db =
      ownOrders insensitive spellings portal.db := by
    show (portal.db.orders.filter _).filter _ = portal.db.orders.filter _
    rw [List.filter_filter]
    simp only [Bool.and_self]
  have ids : ownId insensitive spellings (ownPart insensitive spellings portal).db =
      ownId insensitive spellings portal.db := by
    funext id
    rw [ownId, orders, ownId]
  have returns : ownReturns insensitive spellings (ownPart insensitive spellings portal).db =
      ownReturns insensitive spellings portal.db := by
    rw [ownReturns, ids]
    show (portal.db.returns.filter _).filter _ = portal.db.returns.filter _
    rw [List.filter_filter]
    simp only [Bool.and_self]
  refine ⟨keyed, ⟨keyed.orders.sublist (List.filter_sublist.map _), keyed.returns.sublist (List.filter_sublist.map _)⟩,
    rfl, orders.symm, returns.symm, ?_, fun order member => ?_, fun ret member => ?_, fun key free ret member => ?_⟩
  · rw [ids]
    show _ = (portal.shipments.filter _).filter _
    rw [List.filter_filter]
    simp only [Bool.and_self]
  · obtain ⟨present, owned⟩ := List.mem_filter.mp member
    have own : ownId insensitive spellings portal.db order.id = true := ownId_iff.mpr ⟨order, present, owned, rfl⟩
    exact (if_pos own).symm
  · have own : ((ownReturns insensitive spellings portal.db).any fun other => other.id = ret.id) = true :=
      List.any_eq_true.mpr ⟨ret, member, decide_eq_true rfl⟩
    exact (if_pos own).symm
  · exact free ret (List.mem_of_mem_filter member)

def lampSold (id : OrderItemId) : OrderItem where
  id := id
  variantId := some 7
  productTitle := "Lamp"
  variantTitle := some "Default"
  sku := none
  quantity := 2
  unitPriceCents := 500
  totalCents := 1000

def guestOrder (id : OrderId) (number : Nat) (email : String) : Order where
  id := id
  storeId := 1
  number := number
  status := .paid
  financialStatus := .paid
  currency := "USD"
  subtotalCents := 1000
  taxCents := 0
  totalCents := 1000
  applicationFeeCents := 0
  shippingAddress := none
  billingAddress := none
  email := some email
  stripeCheckoutSessionId := none
  stripePaymentIntentId := none
  placedAt := some 10
  createdAt := 10
  items := [lampSold id]

/-- Two guests with an order each. -/
def lampPortal : Portal where
  db := {
    tenantId := 1
    stores := [{ id := 1, slug := "lamps", name := "Lamps", status := .published, currency := "USD" }]
    variants := []
    stock := { items := [], movements := [] }
    carts := []
    orders := [guestOrder 1 1001 "ada@lamps.test", guestOrder 2 1002 "bob@lamps.test"]
    payments := []
    refunds := []
    returns := []
    connectAccount := none }
  shipments := []
  fulfillment := fun _ => .unfulfilled
  requestedAt := fun _ => 0

def oneLamp (email : String) (number : Nat) (item : OrderItemId) : RequestReturnDto where
  email := email
  orderNumber := number
  reason := none
  items := [⟨item, 1, by decide⟩]
  nonempty := List.cons_ne_nil _ _

/-- Bob asks for a return and tries Ada's order, Ada looks hers up and Bob's return. -/
def twoGuests : List PortalAction :=
  [.guest "lamps" (.request (oneLamp "bob@lamps.test" 1002 2) 5 20), .approve 5,
    .guest "lamps" (.lookup ⟨"bob@lamps.test", 1001⟩), .guest "lamps" (.lookup ⟨"ada@lamps.test", 1001⟩),
    .guest "lamps" (.track 5 "ada@lamps.test")]

section Tracking

/-! A return that a guest asked for stays what it was, whatever other guests ask and
whatever the staff decides of it. -/

variable {slug : String} {dto : RequestReturnDto} {id : ReturnId} {now : Instant}

/-- Rows among which the return stands, in some status. -/
structure Stands (insensitive : String → String → Bool) (slug : String) (dto : RequestReturnDto) (order : Order)
    (ret : Return) (now : Instant) (portal : Portal) : Prop where
  keyed : IdsApart portal.db
  store : (portal.db.publishedStore slug).isSome
  named : lookupOrder insensitive dto portal.db = some order
  present : ∃ status, { ret with status } ∈ portal.db.returns
  timed : portal.requestedAt ret.id = now

theorem checkLines_views {items : List OrderItem} {lines : List ReturnLineInput} {checked : List ReturnItem}
    (accepted : checkLines items lines = .ok checked) :
    (checked.map fun item => (item.orderItem.id, item.quantity)) =
      lines.map fun line => (line.orderItemId, line.quantity) := by
  induction lines generalizing checked with
  | nil => cases accepted; rfl
  | cons line lines ih =>
      obtain ⟨first, one, accepted⟩ := bind_eq_ok.mp accepted
      obtain ⟨rest, others, accepted⟩ := bind_eq_ok.mp accepted
      cases accepted
      obtain ⟨named, units⟩ := checkLine_ok one
      rw [List.map_cons, List.map_cons, ih others, named, units]

section Steps

variable {portal : Portal} {order : Order} {ret : Return}

theorem Stands.decideReturn (stands : Stands insensitive slug dto order ret now portal) (may : ReturnStatus → Bool)
    (status : ReturnStatus) (other : ReturnId) :
    Stands insensitive slug dto order ret now { portal with db := Properties.decideReturn may status other portal.db } := by
  have kept : (Properties.decideReturn may status other portal.db).orders = portal.db.orders ∧
      (Properties.decideReturn may status other portal.db).stores = portal.db.stores := orders_decideReturn
  obtain ⟨orders, stores⟩ := kept
  refine ⟨keyed_decideReturn stands.keyed, ?_, ?_, ?_, stands.timed⟩
  · rw [Db.publishedStore, stores]
    exact stands.store
  · rw [lookupOrder, orders]
    exact stands.named
  · obtain ⟨before, member⟩ := stands.present
    show ∃ status, _ ∈ (Properties.decideReturn _ _ _ _).returns
    unfold Properties.decideReturn
    split
    · by_cases hit : ret.id = other
      · exact ⟨_, mem_updateWhere.mpr ⟨_, member, if_pos (decide_eq_true hit)⟩⟩
      · exact ⟨_, mem_updateWhere.mpr ⟨_, member, if_neg (by simpa using hit)⟩⟩
    · exact ⟨before, member⟩

theorem Stands.request (stands : Stands insensitive slug dto order ret now portal) {others : RequestReturnDto}
    {other : ReturnId} {shop : String} {later : Instant} (fresh : ∀ row ∈ portal.db.returns, row.id ≠ other) :
    Stands insensitive slug dto order ret now (portal.requested insensitive shop others other later) := by
  rw [requested_eq fresh]
  cases requestPlan insensitive shop others portal.db with
  | error reason => exact stands
  | ok plan =>
      obtain ⟨before, member⟩ := stands.present
      have old : ret.id ≠ other := fresh { ret with status := before } member
      exact ⟨stands.keyed.withReturn fresh, stands.store, stands.named, ⟨before, List.mem_append_left _ member⟩,
        (Function.update_of_ne old _ _).trans stands.timed⟩

theorem stands_step (portal : Portal) (action : PortalAction)
    (stands : Stands insensitive slug dto order ret now portal) (fresh : FreshKey portal action) : Stands insensitive slug dto order ret now (portal.step insensitive action) := by
  cases action with
  | guest shop request =>
      cases request with
      | lookup _ => exact stands
      | request others other later => exact stands.request fresh
      | track _ _ => exact stands
  | approve other =>
      simp only [Portal.step, Portal.commit, commit_approve]
      exact stands.decideReturn _ _ other
  | reject other =>
      simp only [Portal.step, Portal.commit, commit_reject]
      exact stands.decideReturn _ _ other

end Steps

/-- What the guest sees of the return: its status, and for the rest what was asked for. -/
structure ShowsReturn (insensitive : String → String → Bool) (slug : String) (dto : RequestReturnDto) (id : ReturnId)
    (now : Instant) (status : ReturnStatus) (portal : Portal) : Prop where
  tracked : ∃ view, portal.getReturn insensitive slug id dto.email = .ok view ∧ view.id = id ∧ view.status = status ∧
    view.orderNumber = dto.orderNumber ∧ view.reason = dto.reason ∧ view.createdAt = now ∧ view.refundedAt = none ∧
      view.items = dto.items.map fun line => (line.orderItemId, line.quantity)
  listed : ∃ order, portal.lookupOrder insensitive slug ⟨dto.email, dto.orderNumber⟩ = .ok order ∧
    (order.returns.filter fun receipt => receipt.id = id) = [⟨id, status, now⟩]

theorem requestPlan_parts {db : Db} {plan : Order × List ReturnItem}
    (planned : requestPlan insensitive slug dto db = .ok plan) :
    (db.publishedStore slug).isSome ∧ lookupOrder insensitive dto db = some plan.1 ∧
      checkLines plan.1.items dto.items = .ok plan.2 := by
  obtain ⟨order, items⟩ := plan
  refine ⟨?_, requestPlan_ok planned, ?_⟩
  · cases published : db.publishedStore slug with
    | none => simp only [requestPlan, published] at planned; cases planned
    | some store => rfl
  · have found := requestPlan_ok planned
    unfold requestPlan at planned
    split at planned
    · cases planned
    · simp only [found] at planned
      cases checked : checkLines order.items dto.items with
      | error reason => rw [checked] at planned; cases planned
      | ok items =>
          rw [checked] at planned
          cases planned
          rfl

theorem stands_shows {portal : Portal} {order : Order} {items : List ReturnItem}
    (checked : checkLines order.items dto.items = .ok items)
    (stands : Stands insensitive slug dto order (newReturn id order dto.reason items) now portal) :
    ∃ status, ShowsReturn insensitive slug dto id now status portal := by
  obtain ⟨status, member⟩ := stands.present
  let row : Return := { newReturn id order dto.reason items with status }
  have named := stands.named
  unfold lookupOrder at named
  have placed := List.mem_of_find?_eq_some named
  have wants := List.find?_some named
  obtain ⟨number, matched⟩ := of_decide_eq_true wants
  have holder : portal.db.findOrder row.orderId = some order := findOrder_of_mem stands.keyed placed
  obtain ⟨store, published⟩ := Option.isSome_iff_exists.mp stands.store
  refine ⟨status, ⟨portal.toReturnView row order, ?_, rfl, rfl, number, rfl, stands.timed, rfl, checkLines_views checked⟩,
    portal.toOrderView order, ?_, ?_⟩
  · have found : portal.findReturn insensitive id dto.email = some row := by
      refine find?_of_only member (decide_eq_true ⟨rfl, ?_⟩) fun other present wanted => ?_
      · rw [holder, Option.any_some]
        exact matched
      · exact List.inj_on_of_nodup_map stands.keyed.returns present member (of_decide_eq_true wanted).1
    simp only [Portal.getReturn, Portal.resolveTenant, published, Portal.returnView, found, Option.bind_some, holder,
      Option.map_some]
    rfl
  · simp only [Portal.lookupOrder, Portal.resolveTenant, published, named]
    rfl
  · have only : portal.db.returns.filter (fun ret => ret.id = row.id) = [row] := filter_of_key stands.keyed.returns member
    have shown : (portal.db.returns.filter fun ret => ret.orderId = order.id).filter (fun ret => ret.id = row.id) =
        [row] := by
      rw [List.filter_comm, only]
      exact List.filter_cons_of_pos (decide_eq_true rfl)
    show (((portal.db.returns.filter fun ret => ret.orderId = order.id).map portal.receipt).reverse.filter
      fun receipt => receipt.id = row.id) = _
    rw [List.filter_reverse, List.filter_map]
    have same : (fun receipt : ReturnReceipt => decide (receipt.id = row.id)) ∘ portal.receipt =
        fun ret => decide (ret.id = row.id) := rfl
    rw [same, shown, List.map_singleton, List.reverse_singleton, Portal.receipt, stands.timed]
    rfl

/-- A guest whose request was accepted finds the return from then on, by its id and in the
order, with what was asked for: only the staff's decision on it shows. -/
theorem accepted_return_stays_as_asked (insensitive : String → String → Bool) (slug : String) (dto : RequestReturnDto)
    (id : ReturnId) (now : Instant) (portal : Portal) (keyed : IdsApart portal.db)
    (fresh : ∀ ret ∈ portal.db.returns, ret.id ≠ id)
    (accepted : (requestReturn insensitive slug dto id portal.db).isOk = true) (later : List PortalAction)
    (along : Along (Portal.step insensitive) FreshKey (portal.requested insensitive slug dto id now) later) :
    Visits (Portal.step insensitive) (fun portal => ∃ status, ShowsReturn insensitive slug dto id now status portal)
      (portal.requested insensitive slug dto id now) later := by
  rw [requestReturn_fresh fresh] at accepted
  cases planned : requestPlan insensitive slug dto portal.db with
  | error reason => rw [planned] at accepted; cases accepted
  | ok plan =>
      obtain ⟨store, named, checked⟩ := requestPlan_parts planned
      have stands : Stands insensitive slug dto plan.1 (newReturn id plan.1 dto.reason plan.2) now
          (portal.requested insensitive slug dto id now) := by
        rw [requested_eq fresh, planned]
        exact ⟨keyed.withReturn fresh, store, named, ⟨.requested, List.mem_append_right _ (List.mem_singleton_self _)⟩,
          Function.update_self _ _ _⟩
      exact (visits_of_along stands_step stands along).mono fun _ here => stands_shows checked here

/-- After Ada's request, one of Bob's and two decisions of the staff. -/
def afterAda : List PortalAction :=
  [.guest "lamps" (.request (oneLamp "bob@lamps.test" 1002 2) 6 30), .approve 5, .reject 6]

theorem adas_return_stays_as_asked :
    Visits (Portal.step fun stored email => stored = email)
      (fun portal => ∃ status, ShowsReturn (fun stored email => stored = email) "lamps"
        (oneLamp "ada@lamps.test" 1001 1) 5 20 status portal)
      (lampPortal.requested (fun stored email => stored = email) "lamps" (oneLamp "ada@lamps.test" 1001 1) 5 20)
      afterAda := by
  refine accepted_return_stays_as_asked _ "lamps" _ 5 20 lampPortal ⟨by decide, by decide⟩ (by decide) rfl afterAda ?_
  have fresh : ∀ ret ∈ (lampPortal.requested (fun stored email => stored = email) "lamps"
      (oneLamp "ada@lamps.test" 1001 1) 5 20).db.returns, ret.id ≠ 6 := by decide
  exact ⟨fresh, trivial, trivial, trivial⟩

end Tracking

end Aicos.Properties
