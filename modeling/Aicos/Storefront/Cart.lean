import Aicos.Commerce.Tables

namespace Aicos.Storefront

open Aicos.Commerce Aicos.Data

/-! `CartService`: anonymous carts addressed by their token. -/

def requireStore (slug : String) (db : Db) : Tx Store :=
  match db.publishedStore slug with
  | none => throw (.http (.notFound "Store not found"))
  | some store => pure store

def freshCart (store : Store) (token : CartToken) : Cart where
  token := token
  storeId := store.id
  currency := store.currency
  convertedOrderId := none
  items := []

/-- `createCart`; `token` is the random UUID. -/
def createCart (slug : String) (token : CartToken) (db : Db) : Tx Db := do
  let store ← requireStore slug db
  db.createCart (freshCart store token)

/-- Availability over all of a variant's inventory items. -/
def available (id : VariantId) (stock : Inventory) : Int :=
  totalWhere (fun item => item.variantId = id) (·.onHand) stock.items -
    totalWhere (fun item => item.variantId = id) (·.reserved) stock.items

/-- Reject more than is in stock when the variant's policy is DENY. -/
def assertStock (variant : ProductVariant) (wantedQty : Nat) (db : Db) : Tx Unit :=
  if variant.inventoryPolicy ≠ .deny then pure ()
  else if wantedQty > available variant.id db.stock then
    throw (.http (.badRequest
      s!"Insufficient stock: only {max (available variant.id db.stock) 0} available"))
  else pure ()

def openCart (token : CartToken) (db : Db) : Tx Cart :=
  match db.findCart token with
  | none => throw (.http (.notFound "Cart not found"))
  | some cart =>
      if cart.convertedOrderId ≠ none then throw (.http (.badRequest "Cart already checked out"))
      else pure cart

def purchasable (id : VariantId) (db : Db) : Tx ProductVariant :=
  match db.variants.find? fun variant => variant.id = id ∧ variant.deletedAt = none with
  | none => throw (.http (.badRequest "Variant is not available for purchase"))
  | some variant =>
      if variant.product.status ≠ .active then
        throw (.http (.badRequest "Variant is not available for purchase"))
      else pure variant

def findLine (cart : Cart) (id : VariantId) : Option CartItem :=
  cart.items.find? fun item => item.variantId = id

/-- The transaction of `addItem`. -/
def putItem (token : CartToken) (variantId : VariantId) (qty : Nat) (db : Db) : Tx Db := do
  let cart ← openCart token db
  let variant ← purchasable variantId db
  match findLine cart variantId with
  | some existing => do
      let nextQty := existing.quantity + qty
      assertStock variant nextQty db
      pure (db.updateCart token fun cart => { cart with
        items := updateWhere (fun item => item.variantId = variantId)
          (fun item => { item with quantity := nextQty, unitPriceCents := variant.priceCents }) cart.items })
  | none => do
      assertStock variant qty db
      pure (db.updateCart token fun cart => { cart with
        items := cart.items ++ [{ variantId, quantity := qty, unitPriceCents := variant.priceCents }] })

/-- `addItem`; the quantity defaults to 1. -/
def addItem (slug : String) (token : CartToken) (variantId : VariantId) (quantity : Option Nat)
    (db : Db) : Tx Db := do
  let _ ← requireStore slug db
  putItem token variantId (quantity.getD 1) db

/-- `setQuantity`; zero removes the line. -/
def setQuantity (slug : String) (token : CartToken) (variantId : VariantId) (quantity : Nat)
    (db : Db) : Tx Db := do
  let _ ← requireStore slug db
  let cart ← openCart token db
  match findLine cart variantId with
  | none => throw (.http (.notFound "Item not in cart"))
  | some _ =>
      if quantity = 0 then
        pure (db.updateCart token fun cart => { cart with
          items := cart.items.filter fun item => item.variantId ≠ variantId })
      else do
        let variant ← purchasable variantId db
        assertStock variant quantity db
        pure (db.updateCart token fun cart => { cart with
          items := updateWhere (fun item => item.variantId = variantId)
            (fun item => { item with quantity }) cart.items })

end Aicos.Storefront
