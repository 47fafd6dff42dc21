import Aicos.Data.Decimal
import Aicos.Import.Csv
import Aicos.Import.Service

namespace Aicos.Import

open Aicos.Data

/-! The rows an import is made of: those of the request, as the validators let them
through, and those `csvToImportRows` of `csv.util` reads from a text, as they are. -/

/-- An `ImportRow` before the database sees it: its price is whatever number was read. -/
structure ParsedRow where
  title : String
  sku : Option String
  priceCents : Number
  description : Option String
  brand : Option String

def isPriceChar (c : Char) : Bool :=
  c.isDigit ∨ c = '.' ∨ c = '-'

/-- `.replace(/[^0-9.-]/g, '')`. -/
def priceText (raw : String) : List Char :=
  raw.toList.filter isPriceChar

/-- `Number.isFinite(n) ? Math.round(n * 100) : 0`. -/
def centsOf : Number → Number
  | .finite dollars _ => (Number.ofDouble (dollars.mul (.ofInt 100))).round
  | _ => .ofInt 0

def dollarsToCents : Option String → Number
  | some raw => if raw = "" then .ofInt 0 else centsOf (parseFloat (priceText raw))
  | none => .ofInt 0

/-- `idx`: the column of the first of the names that there is. -/
def idx (header : List String) (names : List String) : Option Nat :=
  names.findSome? fun name => header.idxOf? name

/-- `iTitle`, `iSku`, `iPrice`, `iDesc` and `iBrand`. -/
structure Columns where
  title : Option Nat
  sku : Option Nat
  price : Option Nat
  desc : Option Nat
  brand : Option Nat
deriving DecidableEq

def titleNames : List String := ["name", "title", "product name"]

def skuNames : List String := ["sku"]

def priceNames : List String := ["regular price", "price", "sale price"]

def descNames : List String := ["description", "short description"]

def brandNames : List String := ["brand", "brands"]

def columnsOf (toLowerCase : String → String) (headerRow : List String) : Columns :=
  let header := headerRow.map fun name => toLowerCase (trim name)
  { title := idx header titleNames
    sku := idx header skuNames
    price := idx header priceNames
    desc := idx header descNames
    brand := idx header brandNames }

def cellAt (cells : List String) (column : Option Nat) : Option String :=
  column.bind fun index => cells[index]?

/-- `?.trim() || undefined`. -/
def filled (cell : Option String) : Option String :=
  (cell.map trim).filter fun text => text ≠ ""

/-- One turn of the loop over the records; a record without a title is passed over. -/
def readRecord (columns : Columns) (cells : List String) : Option ParsedRow :=
  (filled (cellAt cells columns.title)).map fun title =>
    { title := title
      sku := filled (cellAt cells columns.sku)
      priceCents := dollarsToCents (cellAt cells columns.price)
      description := filled (cellAt cells columns.desc)
      brand := filled (cellAt cells columns.brand) }

def csvToImportRows (toLowerCase : String → String) (csv : String) : List ParsedRow :=
  match parseDelimited csv with
  | headerRow :: records => records.filterMap (readRecord (columnsOf toLowerCase headerRow))
  | [] => []

/-- A row the importer takes, as it was read. -/
def ParsedRow.ofImportRow (row : ImportRow) : ParsedRow where
  title := row.title
  sku := row.sku
  priceCents := .ofInt row.priceCents
  description := row.description
  brand := row.brand

section Requests

variable (characters : String → ℕ)

/-- `@MaxLength`, in the characters its library counts. -/
def maxLength (limit : ℕ) (text : String) : Bool :=
  characters text ≤ limit

/-- A product of the request, as it comes out of the validators. -/
structure ImportProductInput where
  title : String
  sku : Option String
  priceCents : Option Number
  description : Option String
  brand : Option String
  titleFits : maxLength characters 300 title = true
  skuFits : ∀ text ∈ sku, maxLength characters 120 text = true
  priceIsCents : ∀ price ∈ priceCents, price.IsCents
  brandFits : ∀ text ∈ brand, maxLength characters 120 text = true

structure ImportProductsDto where
  products : Option (List (ImportProductInput characters))
  csv : Option String

/-- What the validators ask of a product, asked of a row. -/
structure ParsedRow.Valid (row : ParsedRow) : Prop where
  title : maxLength characters 300 row.title = true
  sku : ∀ text ∈ row.sku, maxLength characters 120 text = true
  price : row.priceCents.IsCents
  brand : ∀ text ∈ row.brand, maxLength characters 120 text = true

variable {characters}

def ImportProductInput.row (input : ImportProductInput characters) : ParsedRow where
  title := trim input.title
  sku := filled input.sku
  priceCents := input.priceCents.getD (.ofInt 0)
  description := filled input.description
  brand := filled input.brand

def toRows (toLowerCase : String → String) (dto : ImportProductsDto characters) : List ParsedRow :=
  let products := dto.products.getD []
  if products ≠ [] then (products.filter fun input => trim input.title ≠ "").map ImportProductInput.row
  else
    match dto.csv with
    | some csv => if trim csv ≠ "" then csvToImportRows toLowerCase csv else []
    | none => []

end Requests

end Aicos.Import
