import Aicos.Storefront.Steps
import Aicos.Transition.Backlog
import Mathlib.Data.List.Infix

namespace Aicos.Storefront

open Aicos.Commerce Aicos.Data Aicos.Inventory Aicos.Transaction Aicos.Transition

/-! The cart of a storefront page: `addToCart` of the web client, the routes it calls, and
the text of an error on its way between them.  Other requests run between any two
transactions of a call, and other tabs share its token. -/

structure CartLine where
  variantId : VariantId
  productSlug : String
  productTitle : String
  variantTitle : String
  sku : Option String
  unitPriceCents : Int
  quantity : Nat
  lineTotalCents : Int
deriving DecidableEq

structure CartView where
  token : CartToken
  currency : String
  items : List CartLine
  subtotalCents : Int
  itemCount : Nat
deriving DecidableEq

def cartLine (db : Db) (item : CartItem) : Tx CartLine :=
  match db.findVariant item.variantId with
  | none => throw (.constraint .recordNotFound)
  | some variant => pure {
      variantId := item.variantId
      productSlug := variant.product.slug
      productTitle := variant.product.title
      variantTitle := variant.title
      sku := variant.sku
      unitPriceCents := item.unitPriceCents
      quantity := item.quantity
      lineTotalCents := item.unitPriceCents * (item.quantity : Int) }

def cartLines (db : Db) : List CartItem → Tx (List CartLine)
  | [] => pure []
  | item :: items => do
      let line ← cartLine db item
      let lines ← cartLines db items
      pure (line :: lines)

def viewCart (token : CartToken) (db : Db) : Tx CartView :=
  match db.findCart token with
  | none => throw (.http (.notFound "Cart not found"))
  | some cart => do
      let items ← cartLines db cart.items
      pure {
        token := cart.token
        currency := cart.currency
        items
        subtotalCents := (items.map (·.lineTotalCents)).sum
        itemCount := (items.map (·.quantity)).sum }

/-! An error becomes a body in `HttpExceptionFilter`, and a text in the client. -/

structure ErrorBody where
  statusCode : Nat
  error : String
  message : String ⊕ List String
deriving DecidableEq

def httpBody : HttpError → ErrorBody
  | .notFound message => { statusCode := 404, error := "Not Found", message := .inl message }
  | .badRequest message => { statusCode := 400, error := "Bad Request", message := .inl message }
  | .serviceUnavailable message => { statusCode := 503, error := "Service Unavailable", message := .inl message }

def internalBody : ErrorBody where
  statusCode := 500
  error := "InternalServerError"
  message := .inl "Internal server error"

/-- `HttpExceptionFilter.catch`. -/
def catchFailure : Failure → ErrorBody
  | .http error => httpBody error
  | .stock (.thrown error) => httpBody error
  | .stock (.rejected _) | .constraint _ | .stripe => internalBody

/-- What `ValidationPipe` finds wrong with the quantity of an `AddCartItemDto`. -/
def quantityErrors (quantity : Nat) : List String :=
  (if 999 < quantity then ["quantity must not be greater than 999"] else []) ++
    if quantity < 1 then ["quantity must not be less than 1"] else []

def errorMessage (body : ErrorBody) : String :=
  match body.message with
  | .inl message => if message = "" then s!"Request failed ({body.statusCode})" else message
  | .inr messages => String.intercalate ", " messages

/-- A pattern without metacharacters under the flag `i`. -/
def matchesText (pattern text : String) : Bool :=
  (text.toList.map Char.toLower).tails.any pattern.toList.isPrefixOf

/-- `/not found|checked out/i`. -/
def isStaleCart (message : String) : Bool :=
  matchesText "not found" message || matchesText "checked out" message

/-- What a call has left in the cart tables. -/
inductive CartCommit where
  | created (token : CartToken)
  | added (token : CartToken) (variantId : VariantId) (quantity : Nat)
deriving DecidableEq

/-- The page with the `localStorage` of its origin, and the rows behind the API. -/
structure Page where
  db : Db
  cartToken : Option CartToken
  turns : Nat
  sent : Nat
  commits : List CartCommit

/-- The store of the page, the UUIDs that its carts get, and what goes on around a call: what
other requests do to the rows and other calls and tabs to the stored token while it waits,
what comes of each request, and what the page is told where the handler's answer does not
reach it. -/
structure Surroundings where
  slug : String
  uuid : Nat → CartToken
  others : Nat → Db → Db
  storage : Nat → Option CartToken → Option CartToken
  answers : Nat → Answer
  told : Nat → String

namespace Page

variable (around : Surroundings)

def yield (page : Page) : Page :=
  { page with
    db := around.others page.turns page.db
    cartToken := around.storage page.turns page.cartToken
    turns := page.turns + 1 }

def commit (db : Db) (entry : CartCommit) (page : Page) : Page :=
  { page with db, commits := page.commits ++ [entry] }

/-- `send`.  A request that fails has had no effect: it did not arrive, or something stopped
it.  One that is lost has had its own, but the response goes missing. -/
def send (handler : Page → Except ErrorBody CartView × Page) (page : Page) : Except String CartView × Page :=
  let request := page.sent
  let page := { page with sent := request + 1 }
  match around.answers request with
  | .fails => (.error (around.told request), page.yield around)
  | .lost => (.error (around.told request), (handler page).2.yield around)
  | .works =>
      match handler page with
      | (.ok view, page) => (.ok view, page.yield around)
      | (.error body, page) => (.error (errorMessage body), page.yield around)

/-- `POST /cart`: the store, and then the cart in a transaction of its own. -/
def createCart (page : Page) : Except ErrorBody CartView × Page :=
  let page := page.yield around
  match requireStore around.slug page.db with
  | .error failure => (.error (catchFailure failure), page)
  | .ok store =>
      let page := page.yield around
      let token := around.uuid page.turns
      match page.db.createCart (freshCart store token) with
      | .error failure => (.error (catchFailure failure), page)
      | .ok db =>
          (.ok { token, currency := store.currency, items := [], subtotalCents := 0, itemCount := 0 },
            page.commit db (.created token))

/-- `POST /cart/:token/items`: the store, the item and the view, each in a transaction. -/
def addItem (token : CartToken) (variantId : VariantId) (quantity : Nat) (page : Page) :
    Except ErrorBody CartView × Page :=
  if quantityErrors quantity ≠ [] then
    (.error { statusCode := 400, error := "Bad Request", message := .inr (quantityErrors quantity) }, page)
  else
    let page := page.yield around
    match requireStore around.slug page.db with
    | .error failure => (.error (catchFailure failure), page)
    | .ok _ =>
        let page := page.yield around
        match putItem token variantId quantity page.db with
        | .error failure => (.error (catchFailure failure), page)
        | .ok db =>
            let page := (page.commit db (.added token variantId quantity)).yield around
            match viewCart token page.db with
            | .error failure => (.error (catchFailure failure), page)
            | .ok view => (.ok view, page)

def postCart (page : Page) : Except String CartView × Page :=
  page.send around (createCart around)

def postItem (token : CartToken) (variantId : VariantId) (quantity : Nat) (page : Page) :
    Except String CartView × Page :=
  page.send around (addItem around token variantId quantity)

/-- A fresh cart, whose token the page keeps. -/
def newCart (page : Page) : Except String CartToken × Page :=
  match page.postCart around with
  | (.error message, page) => (.error message, page)
  | (.ok created, page) => (.ok created.token, { page with cartToken := some created.token })

def takeToken (page : Page) : Except String CartToken × Page :=
  match page.cartToken with
  | some token => (.ok token, page)
  | none => page.newCart around

/-- The last attempt of `addToCart`. -/
def retryItem (variantId : VariantId) (quantity : Nat) (page : Page) : Except String CartView × Page :=
  match page.newCart around with
  | (.error message, page) => (.error message, page)
  | (.ok token, page) => page.postItem around token variantId quantity

def addToCart (variantId : VariantId) (quantity : Nat) (page : Page) : Except String CartView × Page :=
  match page.takeToken around with
  | (.error message, page) => (.error message, page)
  | (.ok token, page) =>
      match page.postItem around token variantId quantity with
      | (.ok view, page) => (.ok view, page)
      | (.error message, page) =>
          if ¬ isStaleCart message then (.error message, page) else page.retryItem around variantId quantity

end Page

end Aicos.Storefront
