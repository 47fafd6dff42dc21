import Aicos.Extraction.Barcodes

namespace Aicos.Extraction.BarcodeHosts

open Aicos.Data

/-! The lookup of a barcode as it asks the databases, in both of its copies: the worker's
`BarcodeLookupService` and the API's `lookupBarcodeProduct`.  A result comes with the URLs
that were asked; `none` around a result is an exception inside of a `try`. -/

/-- What becomes of a request: a network error or a timeout, or a response, whose body may not be JSON. -/
inductive HostReply where
  | failed
  | answered (ok : Bool) (body : Option Json)

def defaultHosts : List String := ["https://world.openfoodfacts.org", "https://world.openproductsfacts.org"]

def requestUrl (host code : String) : String :=
  host ++ "/api/v2/product/" ++ code ++ ".json?fields=product_name,brands,categories,image_front_url,image_url"

/-- `json.product`. -/
def readProduct : Json → Option Json
  | .null => none
  | json => some (json.field "product")

/-- `json.product?.product_name?.trim()`. -/
def readTitle (json : Json) : Option (Option String) := do
  let product ← readProduct json
  let name ← (product.field "product_name").optionalText
  return name.map trim

def isOne : Json → Bool
  | .number value _ => value = 1
  | _ => false

section Worker

/-- The worker's service with what it is configured to. -/
structure HostLookup where
  enabled : Bool
  hosts : List String
  fetch : String → HostReply

variable (service : HostLookup) (code : String)

/-- The `try` block of `queryHost`. -/
def HostLookup.tryHost (host : String) : Option (Option ExtractedProduct) :=
  match service.fetch (requestUrl host code) with
  | .failed => none
  | .answered ok body =>
      if ¬ ok then some none
      else do
        let json ← body
        let title ← readTitle json
        if ¬ isOne (json.field "status") ∨ title.getD "" = "" then return none
        let product ← resolvedProduct code (title.getD "") (json.field "product")
        return some product

def HostLookup.queryHost (host : String) : Option ExtractedProduct :=
  (service.tryHost code host).getD none

def HostLookup.askHosts : List String → Option ExtractedProduct × List String
  | [] => (none, [])
  | host :: rest =>
      match service.queryHost code host with
      | some product => (some product, [requestUrl host code])
      | none =>
          let later := askHosts rest
          (later.1, requestUrl host code :: later.2)

def HostLookup.lookup (barcode : String) : Option ExtractedProduct × List String :=
  if ¬ (service.enabled ∧ 0 < service.hosts.length) then (none, [])
  else
    let code := trim barcode
    if ¬ isGtin code then (none, []) else service.askHosts code service.hosts

end Worker

section Api

structure BarcodeProduct where
  title : String
  brand : Option String
  category : Option String
  imageUrl : Option String
deriving DecidableEq

/-- The API's copy of `firstToken`. -/
def apiFirstToken (list : Option String) : Option String :=
  (list.map fun text => trim (String.ofList ((text.toList.splitOn ',').headD []))).bind nonEmpty

/-- The API's copy of `lastCategory`. -/
def apiLastCategory (list : Option String) : Option String :=
  let parts := (((list.map fun text => text.toList.splitOn ',').getD []).map (stripBoth isSpace)).filter (· ≠ [])
  match parts.getLast? with
  | some last => some (String.ofList (withoutLanguage last))
  | none => none

/-- The object that is returned; an image that is not text throws. -/
def barcodeProduct (title : String) (product : Json) : Option BarcodeProduct := do
  let brand ← (product.field "brands").optionalText
  let category ← (product.field "categories").optionalText
  let image ← imageUrl product
  return {
    title := title
    brand := apiFirstToken brand
    category := apiLastCategory category
    imageUrl := image.filter fun url => url.startsWith "http" }

def isProductCode (barcode : String) : Bool :=
  isGtin (trim barcode)

variable (fetch : String → HostReply) (code : String)

/-- The `try` block of the loop, which a `continue` leaves as its end does. -/
def tryHost (host : String) : Option (Option BarcodeProduct) :=
  match fetch (requestUrl host code) with
  | .failed => none
  | .answered false _ => some none
  | .answered true body => do
      let json ← body
      let title ← readTitle json
      if isOne (json.field "status") ∧ title.getD "" ≠ "" then
        return some (← barcodeProduct (title.getD "") (json.field "product"))
      else return none

def askHosts : List String → Option BarcodeProduct × List String
  | [] => (none, [])
  | host :: rest =>
      match tryHost fetch code host with
      | some (some product) => (some product, [requestUrl host code])
      | some none | none =>
          let later := askHosts rest
          (later.1, requestUrl host code :: later.2)

def lookupBarcodeProduct (barcode : String) : Option BarcodeProduct × List String :=
  let code := trim barcode
  if ¬ isProductCode code then (none, []) else askHosts fetch code defaultHosts

end Api

section Copies

variable {service : HostLookup} {code host title : String} {product : ExtractedProduct}

/-- What the API shows of a product that the worker has found. -/
def shown (product : ExtractedProduct) : BarcodeProduct where
  title := product.title
  brand := product.brandGuess
  category := product.categoryGuess
  imageUrl := product.imageUrl

theorem apiFirstToken_eq (list : Option String) : apiFirstToken list = firstToken list := by
  rw [apiFirstToken, firstToken, Option.bind_map]
  simp only [Function.comp_def]

theorem apiLastCategory_eq (list : Option String) : apiLastCategory list = lastCategory list := by
  cases list with
  | none => simp [apiLastCategory, lastCategory, stripBoth]
  | some text =>
      simp only [apiLastCategory, lastCategory, Option.map_some, Option.getD_some]
      cases (((text.toList.splitOn ',').map (stripBoth isSpace)).filter (· ≠ [])).getLast? <;> rfl

theorem barcodeProduct_eq (code title : String) (product : Json) :
    barcodeProduct title product = (resolvedProduct code title product).map shown := by
  simp only [barcodeProduct, resolvedProduct, apiFirstToken_eq, apiLastCategory_eq]
  cases imageUrl product <;> cases (product.field "brands").optionalText <;>
    cases (product.field "categories").optionalText <;> rfl

/-- Whatever the host replies, both copies throw, both find nothing, or both find one product. -/
theorem tryHost_eq (service : HostLookup) (code host : String) :
    tryHost service.fetch code host = (service.tryHost code host).map (Option.map shown) := by
  unfold tryHost HostLookup.tryHost
  cases service.fetch (requestUrl host code) with
  | failed => rfl
  | answered ok body =>
      cases ok with
      | false => rfl
      | true =>
          cases body with
          | none => rfl
          | some json =>
              dsimp only
              simp only [Option.bind_eq_bind, Option.bind_some, Option.pure_def]
              cases readTitle json with
              | none => simp
              | some title =>
                  simp only [Option.bind_some, barcodeProduct_eq code]
                  by_cases accepted : isOne (json.field "status") = true ∧ title.getD "" ≠ ""
                  · have kept : ¬ (¬ isOne (json.field "status") = true ∨ title.getD "" = "") := by
                      rintro (status | blank)
                      · exact status accepted.1
                      · exact accepted.2 blank
                    rw [if_pos accepted, if_neg kept]
                    cases resolvedProduct code (title.getD "") (json.field "product") <;> rfl
                  · have refused : ¬ isOne (json.field "status") = true ∨ title.getD "" = "" := by
                      by_contra kept
                      rw [not_or, not_not] at kept
                      exact accepted kept
                    rw [if_neg accepted, if_pos refused]
                    rfl

/-- Host by host, the two copies ask the same and find the same. -/
theorem askHosts_eq (service : HostLookup) (code : String) (hosts : List String) :
    askHosts service.fetch code hosts =
      ((service.askHosts code hosts).1.map shown, (service.askHosts code hosts).2) := by
  induction hosts with
  | nil => rfl
  | cons host rest ih =>
      rw [askHosts, HostLookup.askHosts, tryHost_eq service, HostLookup.queryHost]
      cases service.tryHost code host with
      | none =>
          dsimp only [Option.map_none, Option.getD_none]
          rw [ih]
      | some found =>
          cases found with
          | none =>
              dsimp only [Option.map_some, Option.map_none, Option.getD_some]
              rw [ih]
          | some product => rfl

/-- The lookup that the extraction of a job runs on, which is told the JSON of the hosts alone. -/
def HostLookup.outcome (service : HostLookup) : BarcodeLookupService where
  enabled := service.enabled
  hosts := service.hosts
  fetch host code :=
    match service.fetch (requestUrl host code) with
    | .answered true body => body
    | .answered false _ | .failed => none

theorem eq_null_of_readProduct {json : Json} (read : readProduct json = none) : json = .null := by
  cases json with
  | null => rfl
  | _ => cases read

theorem field_of_readProduct {json product : Json} (read : readProduct json = some product) :
    json.field "product" = product := by
  cases json with
  | null => cases read
  | _ => exact Option.some.inj read

/-- What the `try` block makes of a reply, in terms of its status and its name alone. -/
theorem queryHost_answered (json : Json) (there : service.fetch (requestUrl host code) = .answered true (some json)) :
    service.queryHost code host =
      match json.field "status", (json.field "product").field "product_name" with
      | .number status _, .string name =>
          if status ≠ 1 ∨ trim name = "" then none else resolvedProduct code (trim name) (json.field "product")
      | _, _ => none := by
  simp only [HostLookup.queryHost, HostLookup.tryHost, there, Option.bind_eq_bind, Option.bind_some, readTitle]
  cases read : readProduct json with
  | none =>
      obtain rfl := eq_null_of_readProduct read
      rfl
  | some product =>
      simp only [field_of_readProduct read, Option.bind_some]
      cases product.field "product_name" with
      | string name =>
          cases json.field "status" with
          | number status text =>
              by_cases refused : status ≠ 1 ∨ trim name = ""
              · simp [Json.optionalText, isOne, refused]
              · simp [Json.optionalText, isOne, refused]
                cases resolvedProduct code (trim name) product <;> rfl
          | _ => simp [Json.optionalText, isOne]
      | null => cases json.field "status" <;> simp [Json.optionalText]
      | _ => cases json.field "status" <;> simp [Json.optionalText]

theorem queryHost_eq (service : HostLookup) (code host : String) :
    service.queryHost code host = service.outcome.queryHost host code := by
  rw [BarcodeLookupService.queryHost]
  cases there : service.fetch (requestUrl host code) with
  | failed => simp [HostLookup.queryHost, HostLookup.tryHost, HostLookup.outcome, there]
  | answered ok body =>
      cases ok with
      | false => simp [HostLookup.queryHost, HostLookup.tryHost, HostLookup.outcome, there]
      | true =>
          cases body with
          | none => simp [HostLookup.queryHost, HostLookup.tryHost, HostLookup.outcome, there]
          | some json =>
              have fetched : service.outcome.fetch host code = some json := by simp [HostLookup.outcome, there]
              rw [queryHost_answered json there, fetched]
              rfl

theorem askHosts_found (service : HostLookup) (code : String) (hosts : List String) :
    (service.askHosts code hosts).1 = hosts.findSome? fun host => service.outcome.queryHost host code := by
  induction hosts with
  | nil => rfl
  | cons host rest ih =>
      rw [HostLookup.askHosts, List.findSome?_cons, queryHost_eq]
      cases service.outcome.queryHost host code with
      | none => exact ih
      | some product => rfl

theorem lookup_eq (service : HostLookup) (barcode : String) :
    (service.lookup barcode).1 = service.outcome.lookup barcode := by
  have same : service.outcome.enabled = service.enabled ∧ service.outcome.hosts = service.hosts := ⟨rfl, rfl⟩
  rw [HostLookup.lookup, BarcodeLookupService.lookup, same.1, same.2]
  dsimp only
  by_cases enabled : service.enabled = true
  · by_cases some : 0 < service.hosts.length
    · rw [if_neg (not_not.mpr ⟨enabled, some⟩), if_neg (not_not.mpr enabled)]
      split
      · rfl
      · exact askHosts_found service (trim barcode) service.hosts
    · have none : service.hosts = [] := by simpa using some
      rw [if_pos (fun on => some on.2), none, List.findSome?_nil, ite_self, ite_self]
  · rw [if_pos (fun on => enabled on.1), if_pos enabled]

end Copies

end Aicos.Extraction.BarcodeHosts
