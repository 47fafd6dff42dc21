import Aicos.Storefront.Cart
import Aicos.Transaction.Recorded

namespace Aicos.Storefront

open Aicos.Commerce Aicos.Data Aicos.Transaction Aicos.Transaction.Program

/-! `CartService.addItem` statement by statement. -/

/-- Nothing deletes a cart, so the foreign key of a line always holds. -/
inductive CartWrite where
  | updateLine (token : CartToken) (existing : CartItem) (quantity : Nat) (unitPriceCents : Int)
  | createLine (token : CartToken) (item : CartItem)
deriving DecidableEq

/-- The unique `(cartId, variantId)`: an index entry, and the row under it. -/
abbrev CartKey := CartToken × VariantId

def lineOf (token : CartToken) (variantId : VariantId) (db : Db) : Option CartItem :=
  (db.findCart token).bind fun cart => findLine cart variantId

def CartWrite.token : CartWrite → CartToken
  | .updateLine token _ _ _ => token
  | .createLine token _ => token

def CartWrite.change : CartWrite → Cart → Cart
  | .updateLine _ existing quantity unitPriceCents => fun cart => { cart with
      items := updateWhere (fun item => item.variantId = existing.variantId)
        (fun item => { item with quantity, unitPriceCents }) cart.items }
  | .createLine _ item => fun cart => { cart with items := cart.items ++ [item] }

def CartWrite.apply (statement : CartWrite) (db : Db) : Db :=
  db.updateCart statement.token statement.change

def CartWrite.admits : CartWrite → Db → Bool
  | .updateLine token existing _ _, db => (lineOf token existing.variantId db).isSome
  | .createLine token item, db => (lineOf token item.variantId db).isNone

def CartWrite.locks : CartWrite → List CartKey
  | .updateLine token existing _ _ => [(token, existing.variantId)]
  | .createLine token item => [(token, item.variantId)]

def cartStore : Transaction.Store Db CartWrite CartKey where
  apply := CartWrite.apply
  admits := CartWrite.admits
  locks := CartWrite.locks

structure AddItemRequest where
  slug : String
  token : CartToken
  variantId : VariantId
  quantity : Option Nat
deriving DecidableEq

def AddItemRequest.qty (request : AddItemRequest) : Nat :=
  request.quantity.getD 1

def AddItemRequest.program (request : AddItemRequest) : Program Db CartWrite Failure AddItemRequest := do
  let _ ← require (requireStore request.slug)
  let cart ← require (openCart request.token)
  let variant ← require (purchasable request.variantId)
  let existing ← query (lineOf cart.token request.variantId)
  let nextQty := (existing.map (·.quantity)).getD 0 + request.qty
  require (assertStock variant nextQty)
  match existing with
  | some existing => exec (.updateLine cart.token existing nextQty variant.priceCents)
  | none =>
      exec (.createLine cart.token
        { variantId := request.variantId, quantity := request.qty, unitPriceCents := variant.priceCents })
  pure request

theorem openCart_ok {token : CartToken} {db : Db} {cart : Cart} (opened : openCart token db = .ok cart) :
    db.findCart token = some cart ∧ cart.token = token := by
  unfold openCart at opened
  cases found : db.findCart token with
  | none => rw [found] at opened; cases opened
  | some row =>
      rw [found] at opened
      dsimp only at opened
      split at opened
      · cases opened
      · cases opened
        exact ⟨rfl, by simpa using List.find?_some found⟩

/-- Run alone, the statements are `Storefront.addItem`. -/
theorem addItem_alone (request : AddItemRequest) (db : Db) :
    request.program.alone cartStore db =
      match addItem request.slug request.token request.variantId request.quantity db with
      | .ok after => .ok (request, after)
      | .error failure => .error (.thrown failure) := by
  simp only [AddItemRequest.program, addItem, putItem, require_bind, query_bind, alone]
  cases requireStore request.slug db with
  | error failure => rfl
  | ok store =>
  simp only [alone, ok_bind]
  cases opened : openCart request.token db with
  | error failure => rfl
  | ok cart =>
  obtain ⟨found, token⟩ := openCart_ok opened
  have line : lineOf request.token request.variantId db = findLine cart request.variantId := by simp [lineOf, found]
  simp only [alone, ok_bind, token]
  cases purchasable request.variantId db with
  | error failure => rfl
  | ok variant =>
  simp only [alone, ok_bind, line]
  cases existing : findLine cart request.variantId with
  | none =>
      have admitted (item : CartItem) (same : item.variantId = request.variantId) :
          (CartWrite.createLine request.token item).admits db = true := by
        simp [CartWrite.admits, same, line, existing]
      simp only [Option.map_none, Option.getD_none, Nat.zero_add, AddItemRequest.qty]
      cases assertStock variant (request.quantity.getD 1) db with
      | error failure => rfl
      | ok _ => simp [alone, cartStore, admitted, CartWrite.apply, CartWrite.token, CartWrite.change]
  | some item =>
      have same : item.variantId = request.variantId := by simpa using List.find?_some existing
      have admitted (quantity : Nat) (unitPriceCents : Int) :
          (CartWrite.updateLine request.token item quantity unitPriceCents).admits db = true := by
        simp [CartWrite.admits, same, line, existing]
      simp only [Option.map_some, Option.getD_some, AddItemRequest.qty]
      cases assertStock variant (item.quantity + request.quantity.getD 1) db with
      | error failure => rfl
      | ok _ => simp [alone, cartStore, admitted, CartWrite.apply, CartWrite.token, CartWrite.change, same]

end Aicos.Storefront
