import Aicos.Commerce.Pagination
import Aicos.Search.Indexer
import Aicos.Storefront.Market

namespace Aicos.Storefront

open Aicos.Catalog Aicos.Commerce Aicos.Data Aicos.Search

/-! `StorefrontService`: a store by its slug, the cards of its products from Meilisearch or
from the database, and the page of one product.  Meilisearch and the orders in which the
database lists rows are parameters. -/

/-- Meilisearch: an empty query matches every document, a ranking loses none, and no search
goes beyond `maxTotalHits`. -/
structure Engine where
  maxTotalHits : Nat
  matching : String → ProductDoc → Bool
  rank : String → List ProductDoc → List ProductDoc
  estimate : List ProductDoc → Nat
  placeholder : ∀ doc, matching "" doc = true
  ranked : ∀ query docs, (rank query docs).Perm docs

structure SearchOptions where
  limit : Nat
  offset : Nat
  statuses : List ProductStatus

structure SearchResult where
  hits : List ProductDoc
  total : Nat

/-- `MeiliService.search`. -/
def Engine.search (engine : Engine) (docs : List ProductDoc) (tenant : TenantId) (query : String)
    (opts : SearchOptions) : SearchResult :=
  let found := engine.rank query (docs.filter fun doc =>
    doc.tenantId = tenant ∧ (opts.statuses = [] ∨ doc.status ∈ opts.statuses) ∧ engine.matching query doc)
  { hits := ((found.take engine.maxTotalHits).drop opts.offset).take opts.limit
    total := engine.estimate found }

/-- The rows that the storefront reads, and the documents of the index. -/
structure Site where
  stores : List (Tenanted Store)
  platform : Platform
  docs : List ProductDoc

structure SearchQueryDto extends PaginationDto where
  q : Option String

/-- What PostgreSQL and S3 add: `contains` without case, the rows by `publishedAt` as each
query orders them anew, and the signed URL of an image. -/
structure Backends where
  contains : String → String → Bool
  byPublishedAt : SearchQueryDto → List (Catalog.Product × List Variant) → List (Catalog.Product × List Variant)
  presign : MediaId → Option String

/-- What `ORDER BY "publishedAt" DESC` looks at, to which a null is the greatest. -/
def publishedKey (listed : Catalog.Product × List Variant) : WithTop Instant :=
  match listed.1.publishedAt with
  | some time => time
  | none => ⊤

structure ProductCard where
  id : ProductId
  title : String
  slug : String
  priceMinCents : Option Int
  brandName : Option String
deriving DecidableEq

structure ImageView where
  id : ImageId
  altText : Option String
  isPrimary : Bool
  url : Option String

structure ProductPage where
  product : Catalog.Product
  brand : Option Brand
  variants : List Variant
  images : List ImageView

def docCard (doc : ProductDoc) : ProductCard where
  id := doc.id
  title := doc.title
  slug := doc.slug
  priceMinCents := doc.priceMinCents
  brandName := doc.brandName

def brandOfProduct (platform : Platform) (tenant : TenantId) (product : Catalog.Product) : Option Brand :=
  product.brandId.bind (platform.brands.visible tenant)

def rowCard (platform : Platform) (tenant : TenantId) (listed : Catalog.Product × List Variant) : ProductCard where
  id := listed.1.id
  title := listed.1.title
  slug := listed.1.slug
  priceMinCents := (listed.2.map Variant.priceCents).min?
  brandName := (brandOfProduct platform tenant listed.1).map Brand.name

/-- `isPrimary` falling, then `position` rising. -/
def imageFirst (first second : ProductImage) : Bool :=
  if first.isPrimary = second.isPrimary then first.position ≤ second.position else first.isPrimary

def imagesOf (backends : Backends) (platform : Platform) (tenant : TenantId) (id : ProductId) : List ImageView :=
  ((platform.images.rows.filter fun image => image.tenantId = tenant ∧ image.productId = id).insertionSort
    fun first second => imageFirst first second).map fun image =>
      ⟨image.id, image.altText, image.isPrimary, backends.presign image.mediaId⟩

namespace Site

variable (backends : Backends) (site : Site)

def resolveStore (slug : String) : Except HttpError (Tenanted Store) :=
  match site.stores.find? fun store => store.row.slug = slug ∧ store.row.status = .published with
  | some store => .ok store
  | none => .error (.notFound "Store not found")

def searchProducts (engine : Engine) (slug : String) (query : SearchQueryDto) :
    Except HttpError (PaginatedResult ProductCard) := do
  let store ← site.resolveStore slug
  let found := engine.search site.docs store.tenantId (query.q.getD "") ⟨query.take, query.skip, [.active]⟩
  pure { items := found.hits.map docCard, page := query.page, pageSize := query.pageSize, total := found.total }

/-- An empty `q` is no `q`. -/
def browseProducts (slug : String) (query : SearchQueryDto) : Except HttpError (PaginatedResult ProductCard) := do
  let store ← site.resolveStore slug
  let rows := (Storefront.listProducts site.platform store.tenantId).filter fun listed =>
    query.q.all fun q => q = "" ∨ backends.contains q listed.1.title
  pure (paginate query.toPaginationDto (backends.byPublishedAt query rows) (rowCard site.platform store.tenantId))

/-- `listProducts`: Meilisearch where it is configured, the database otherwise. -/
def listProducts (engine : Option Engine) (slug : String) (query : SearchQueryDto) :
    Except HttpError (PaginatedResult ProductCard) :=
  match engine with
  | some engine => site.searchProducts engine slug query
  | none => site.browseProducts backends slug query

def getProduct (slug productSlug : String) : Except HttpError ProductPage := do
  let store ← site.resolveStore slug
  match Storefront.getProduct site.platform store.tenantId productSlug with
  | none => .error (.notFound "Product not found")
  | some listed =>
      pure {
        product := listed.1
        brand := brandOfProduct site.platform store.tenantId listed.1
        variants := listed.2.insertionSort fun first second => first.position ≤ second.position
        images := imagesOf backends site.platform store.tenantId listed.1.id }

end Site

end Aicos.Storefront
