import Aicos.Data.Sorting
import Aicos.Properties.RebuiltIndex
import Aicos.Storefront.Browse
import Aicos.Transition.Run

namespace Aicos.Properties

open Aicos.Catalog Aicos.Commerce Aicos.Data Aicos.Inventory Aicos.Storefront Aicos.Transition

/-! The storefront's lists against its product pages: what is listed opens, and what opens
is listed once. -/

/-- `@@unique([tenantId, slug])` of the products. -/
def SlugsApart (platform : Platform) : Prop :=
  platform.products.Apart productClash

section Slugs

variable {nfkd : String → String} {tenant : TenantId} {platform after : Platform}

theorem productClash_symmetric (first second : Catalog.Product) :
    productClash first second = productClash second first := by
  simp only [productClash, eq_comm]

theorem SlugsApart.of_products (apart : SlugsApart platform) (same : after.products = platform.products) :
    SlugsApart after := by
  rw [SlugsApart, same]
  exact apart

theorem SlugsApart.insertProduct (apart : SlugsApart platform) {dangling : Bool} {row : Catalog.Product}
    (inserted : platform.insertProduct dangling row = .ok after) : SlugsApart after := by
  obtain ⟨products, ran, rfl⟩ := map_eq_ok.mp inserted
  exact Table.Apart.tryInsert productClash_symmetric apart ran

theorem SlugsApart.updateProduct (apart : SlugsApart platform) {id : ProductId} {change : Change Catalog.Product}
    (updated : platform.updateProduct tenant id change = .ok after) : SlugsApart after := by
  obtain ⟨products, ran, rfl⟩ := map_eq_ok.mp updated
  exact Table.Apart.tryUpdate productClash_symmetric apart ran

theorem SlugsApart.deleteBrand (apart : SlugsApart platform) {id : BrandId}
    (deleted : platform.deleteBrand tenant id = .ok after) : SlugsApart after := by
  unfold Platform.deleteBrand at deleted
  split at deleted
  · cases deleted
  · cases deleted
    exact Table.Apart.modify productClash_symmetric apart _ fun _ _ => rfl

theorem products_of_deleteLocation {id : LocationId} (deleted : platform.deleteLocation tenant id = .ok after) :
    after.products = platform.products := by
  unfold Platform.deleteLocation at deleted
  split at deleted
  · cases deleted
  · split at deleted
    · cases deleted
    · cases deleted
      rfl

theorem products_of_commitStock {α : Type} {program : StockProgram α}
    (committed : commitStock tenant program platform = .ok after) : after.products = platform.products := by
  have kept (statement : StockWrite) (now : Platform) (_ : True) (same : now.products = platform.products) :
      (applyStock tenant now statement).products = platform.products := by
    cases statement <;> exact same
  exact commitStock_keeps program.writes_any kept rfl committed

theorem slugsApart_run (apart : SlugsApart platform) {request : CatalogRequest}
    (ran : request.run nfkd tenant platform = .ok after) : SlugsApart after := by
  cases request with
  | createProduct id dto => exact apart.insertProduct (mapUnique_ok.mp ran)
  | updateProduct id dto =>
      obtain ⟨_, _, ran⟩ := bind_eq_ok.mp ran
      obtain ⟨_, _, ran⟩ := bind_eq_ok.mp (mapUnique_ok.mp ran)
      obtain ⟨_, _, ran⟩ := bind_eq_ok.mp ran
      exact apart.updateProduct ran
  | removeProduct id now =>
      obtain ⟨_, _, ran⟩ := bind_eq_ok.mp ran
      exact apart.updateProduct (fromDb_ok.mp ran)
  | publishProduct id now =>
      obtain ⟨_, _, ran⟩ := bind_eq_ok.mp ran
      exact apart.updateProduct (fromDb_ok.mp ran)
  | createVariant id productId dto =>
      obtain ⟨_, _, ran⟩ := bind_eq_ok.mp ran
      obtain ⟨_, rfl⟩ := Platform.insertVariant_ok (mapUnique_ok.mp ran)
      exact apart
  | updateVariant id dto =>
      obtain ⟨_, _, ran⟩ := bind_eq_ok.mp ran
      obtain rfl := Platform.updateVariant_ok (mapUnique_ok.mp ran)
      exact apart
  | removeVariant id now =>
      obtain ⟨_, _, ran⟩ := bind_eq_ok.mp ran
      obtain rfl := Platform.updateVariant_ok (fromDb_ok.mp ran)
      exact apart
  | addImage id productId dto =>
      obtain ⟨_, _, ran⟩ := bind_eq_ok.mp ran
      obtain ⟨_, _, ran⟩ := bind_eq_ok.mp ran
      obtain ⟨added, inserted, ran⟩ := bind_eq_ok.mp ran
      obtain rfl := Platform.insertImage_ok (fromDb_ok.mp inserted)
      have here : SlugsApart { platform with images := platform.images.insert (imageOf id tenant productId dto) } :=
        apart.of_products rfl
      split at ran
      · exact here.updateProduct (fromDb_ok.mp ran)
      · cases ran
        exact here
  | createCategory id dto =>
      have inserted : ∃ dangling row, platform.insertCategory dangling row = .ok after := by
        simp only [CatalogRequest.run, Catalog.createCategory] at ran
        split at ran
        · obtain ⟨_, _, ran⟩ := bind_eq_ok.mp ran
          exact ⟨_, _, mapUnique_ok.mp ran⟩
        · exact ⟨_, _, mapUnique_ok.mp ran⟩
      obtain ⟨dangling, row, inserted⟩ := inserted
      obtain ⟨_, rfl⟩ := Platform.insertCategory_ok inserted
      exact apart
  | updateCategory id dto =>
      obtain ⟨_, _, ran⟩ := bind_eq_ok.mp ran
      obtain ⟨_, _, ran⟩ := bind_eq_ok.mp ran
      obtain ⟨_, _, ran⟩ := bind_eq_ok.mp (mapUnique_ok.mp ran)
      obtain ⟨_, _, rfl⟩ := Platform.updateCategory_ok ran
      exact apart
  | removeCategory id now =>
      obtain ⟨_, _, ran⟩ := bind_eq_ok.mp ran
      obtain ⟨_, _, rfl⟩ := Platform.updateCategory_ok (fromDb_ok.mp ran)
      exact apart
  | createBrand id dto =>
      obtain rfl := Platform.insertBrand_ok (mapUnique_ok.mp ran)
      exact apart
  | updateBrand id dto =>
      obtain ⟨_, _, ran⟩ := bind_eq_ok.mp ran
      obtain rfl := Platform.updateBrand_ok (mapUnique_ok.mp ran)
      exact apart
  | removeBrand id =>
      obtain ⟨_, _, ran⟩ := bind_eq_ok.mp ran
      exact apart.deleteBrand (fromDb_ok.mp ran)
  | createLocation id dto =>
      obtain ⟨_, rfl⟩ := Platform.insertLocation_ok (fromDb_ok.mp ran)
      exact apart
  | updateLocation id dto =>
      obtain ⟨_, _, ran⟩ := bind_eq_ok.mp ran
      obtain ⟨_, _, rfl⟩ := Platform.updateLocation_ok (fromDb_ok.mp ran)
      exact apart
  | removeLocation id =>
      obtain ⟨_, _, ran⟩ := bind_eq_ok.mp ran
      exact apart.of_products (products_of_deleteLocation (fromDb_ok.mp ran))
  | createItem id dto now => exact apart.of_products (products_of_commitStock ran)
  | updateItem id dto now =>
      obtain ⟨_, found, ran⟩ := bind_eq_ok.mp ran
      exact apart.of_products ((products_of_commitStock ran).trans (products_of_commitStock found))
  | adjust id dto now => exact apart.of_products (products_of_commitStock ran)

end Slugs

section Listings

variable {platform : Platform} {tenant : TenantId} {listed other : Catalog.Product × List Variant}

theorem mem_listProducts : listed ∈ Storefront.listProducts platform tenant ↔
    (listed.1 ∈ platform.products.rows ∧ listed.1.tenantId = tenant ∧ listed.1.status = .active ∧
      listed.1.deletedAt = none) ∧ listed.2 = Search.liveVariants tenant platform listed.1.id := by
  obtain ⟨product, variants⟩ := listed
  simp only [Storefront.listProducts, Search.liveVariants, List.mem_map, List.mem_filter, decide_eq_true_eq,
    Prod.mk.injEq]
  constructor
  · intro given
    obtain ⟨row, shown, rfl, rfl⟩ := given
    exact ⟨shown, rfl⟩
  · intro given
    exact ⟨product, given.1, rfl, given.2.symm⟩

theorem listProducts_distinct :
    ((Storefront.listProducts platform tenant).map fun listed => listed.1.id).Nodup := by
  rw [Storefront.listProducts, List.map_map]
  exact platform.products.distinct.sublist (List.filter_sublist.map _)

theorem eq_of_listed (here : listed ∈ Storefront.listProducts platform tenant)
    (there : other ∈ Storefront.listProducts platform tenant) (same : listed.1.id = other.1.id) : listed = other :=
  List.inj_on_of_nodup_map listProducts_distinct here there same

theorem getProduct_of_listed (apart : SlugsApart platform) (member : listed ∈ Storefront.listProducts platform tenant) :
    Storefront.getProduct platform tenant listed.1.slug = some listed := by
  have finds : (Storefront.getProduct platform tenant listed.1.slug).isSome = true :=
    List.find?_isSome.mpr ⟨listed, member, decide_eq_true rfl⟩
  obtain ⟨found, looked⟩ := Option.isSome_iff_exists.mp finds
  have there := List.mem_of_find?_eq_some looked
  have slug : found.1.slug = listed.1.slug := by simpa using List.find?_some looked
  obtain ⟨⟨row, owner, _⟩, _⟩ := mem_listProducts.mp member
  obtain ⟨⟨foundRow, foundOwner, _⟩, _⟩ := mem_listProducts.mp there
  have same : found.1 = listed.1 :=
    apart.eq_of_clash foundRow row (decide_eq_true ⟨foundOwner.trans owner.symm, slug⟩)
  rw [looked, eq_of_listed there member (congrArg Catalog.Product.id same)]

end Listings

/-- The card tells what the page shows. -/
structure CardOf (card : ProductCard) (page : ProductPage) : Prop where
  id : card.id = page.product.id
  title : card.title = page.product.title
  slug : card.slug = page.product.slug
  price : card.priceMinCents = (page.variants.map Variant.priceCents).min?
  brand : card.brandName = page.brand.map Brand.name

section Pages

variable {backends : Backends} {site : Site} {storeSlug productSlug : String} {query : SearchQueryDto}
  {result : PaginatedResult ProductCard} {shown : ProductPage}

theorem browseProducts_ok (browsed : site.browseProducts backends storeSlug query = .ok result) :
    ∃ store, site.resolveStore storeSlug = .ok store ∧
      result = paginate query.toPaginationDto
        (backends.byPublishedAt query ((Storefront.listProducts site.platform store.tenantId).filter fun listed =>
          query.q.all fun q => q = "" ∨ backends.contains q listed.1.title)) (rowCard site.platform store.tenantId) := by
  obtain ⟨store, resolved, browsed⟩ := bind_eq_ok.mp browsed
  cases browsed
  exact ⟨store, resolved, rfl⟩

/-- The page of a product that is found. -/
def pageOfListed (backends : Backends) (platform : Platform) (tenant : TenantId)
    (listed : Catalog.Product × List Variant) : ProductPage where
  product := listed.1
  brand := brandOfProduct platform tenant listed.1
  variants := listed.2.insertionSort fun first second => first.position ≤ second.position
  images := imagesOf backends platform tenant listed.1.id

theorem getProduct_ok : site.getProduct backends storeSlug productSlug = .ok shown ↔
    ∃ store, site.resolveStore storeSlug = .ok store ∧
      ∃ listed, Storefront.getProduct site.platform store.tenantId productSlug = some listed ∧
        pageOfListed backends site.platform store.tenantId listed = shown := by
  simp only [Site.getProduct, bind_eq_ok]
  refine exists_congr fun store => and_congr_right fun _ => ?_
  cases Storefront.getProduct site.platform store.tenantId productSlug with
  | none => simp
  | some listed => simp [pageOfListed, pure, Except.pure]

theorem cardOf_page (platform : Platform) (tenant : TenantId) (listed : Catalog.Product × List Variant) :
    CardOf (rowCard platform tenant listed) (pageOfListed backends platform tenant listed) := by
  refine ⟨rfl, rfl, rfl, ?_, rfl⟩
  have arranged := (List.perm_insertionSort (fun first second : Variant => first.position ≤ second.position) listed.2).map
    Variant.priceCents
  exact min?_of_perm arranged.symm

end Pages

/-- No two products that a tenant shows have one `publishedAt`, nor are two without. -/
def PublishedApart (platform : Platform) (tenant : TenantId) : Prop :=
  ((Storefront.listProducts platform tenant).map publishedKey).Nodup

/-- Each query lists the rows by `publishedAt`, and rows that have the same in any order. -/
def OrdersPages (backends : Backends) : Prop :=
  ∀ query rows, Descending publishedKey rows (backends.byPublishedAt query rows)

section Browsing

variable (nfkd : String → String) {start : Platform} (apart : SlugsApart start) (trace : List CatalogAction)
  (backends : Backends) (ordered : OrdersPages backends)

include apart

theorem slugsApart_after : SlugsApart (run (step nfkd) start trace) := by
  have kept (platform : Platform) (action : CatalogAction) (here : SlugsApart platform) :
      SlugsApart (step nfkd platform action) := step_keeps nfkd here fun _ ran => slugsApart_run here ran
  exact (visits_of_step kept apart trace).last

include ordered

/-- In every state of a run of catalog requests each card on a page of the storefront's list
opens a product page that shows what the card tells, and each product that opens has its
card on exactly one page of the whole list, as long as no two share their `publishedAt`. -/
theorem cards_open_and_open_products_are_listed_once (stores : List (Tenanted Store))
    (docs : List Search.ProductDoc) (storeSlug : String) :
    let site : Site := ⟨stores, run (step nfkd) start trace, docs⟩
    (∀ query result, site.listProducts backends none storeSlug query = .ok result → ∀ card ∈ result.items,
      ∃ shown, site.getProduct backends storeSlug card.slug = .ok shown ∧ CardOf card shown) ∧
    ∀ store, site.resolveStore storeSlug = .ok store → PublishedApart site.platform store.tenantId →
      ∀ productSlug shown, site.getProduct backends storeSlug productSlug = .ok shown →
        ∀ size, ∀ sized : 1 ≤ size ∧ size ≤ 100, ∃! index, ∃ result,
          site.listProducts backends none storeSlug ⟨pageAfter size sized index, none⟩ = .ok result ∧
            ∃ card ∈ result.items, CardOf card shown := by
  intro site
  have unique : SlugsApart site.platform := slugsApart_after nfkd apart trace
  constructor
  · intro query result browsed card member
    obtain ⟨store, resolved, rfl⟩ := browseProducts_ok browsed
    rw [paginate_items] at member
    obtain ⟨listed, there, rfl⟩ := List.mem_map.mp member
    have row := (ordered _ _).perm.mem_iff.mp (mem_of_mem_page there)
    have found := getProduct_of_listed unique (List.mem_of_mem_filter row)
    exact ⟨_, getProduct_ok.mpr ⟨store, resolved, listed, found, rfl⟩, cardOf_page _ _ _⟩
  · intro store resolved published productSlug shown opened size sized
    obtain ⟨other, same, listed, found, rfl⟩ := getProduct_ok.mp opened
    cases resolved.symm.trans same
    have row : listed ∈ Storefront.listProducts site.platform store.tenantId := List.mem_of_find?_eq_some found
    -- one order for all pages
    let rows := backends.byPublishedAt ⟨pageAfter size sized 0, none⟩
      (Storefront.listProducts site.platform store.tenantId)
    have sorted : Descending publishedKey (Storefront.listProducts site.platform store.tenantId) rows := ordered _ _
    have member : listed ∈ rows := sorted.perm.mem_iff.mpr row
    have distinct : rows.Nodup := sorted.perm.nodup_iff.mpr (List.Nodup.of_map _ listProducts_distinct)
    have answers (index : Nat) : site.listProducts backends none storeSlug ⟨pageAfter size sized index, none⟩ =
        .ok (paginate (pageAfter size sized index) rows (rowCard site.platform store.tenantId)) := by
      rw [sorted.unique published (ordered ⟨pageAfter size sized index, none⟩ _)]
      simp only [Site.listProducts, Site.browseProducts, resolved, ok_bind, Option.all_none, List.filter_true]
      rfl
    refine ⟨pageOf size listed rows - 1, ⟨_, answers _, rowCard site.platform store.tenantId listed, ?_,
      cardOf_page _ _ _⟩, ?_⟩
    · rw [paginate_items]
      exact List.mem_map_of_mem (mem_page_pageOf sized.1 member)
    · intro index given
      obtain ⟨result, browsed, card, there, same⟩ := given
      cases (answers index).symm.trans browsed
      rw [paginate_items] at there
      obtain ⟨other, onPage, rfl⟩ := List.mem_map.mp there
      have listedOther := sorted.perm.mem_iff.mp (mem_of_mem_page onPage)
      obtain rfl : other = listed := eq_of_listed listedOther row same.id
      have number := pageOf_eq_of_mem sized.1 distinct (Nat.succ_pos index) onPage
      rw [number]
      rfl

end Browsing

/-- The cards of the first pages, one page after the other. -/
def firstCards (list : SearchQueryDto → Except HttpError (PaginatedResult ProductCard)) (size : Nat)
    (sized : 1 ≤ size ∧ size ≤ 100) (count : Nat) : List ProductCard :=
  (List.range count).flatMap fun index =>
    match list ⟨pageAfter size sized index, none⟩ with
    | .ok result => result.items
    | .error _ => []

theorem firstCards_eq {α : Type} {list : SearchQueryDto → Except HttpError (PaginatedResult ProductCard)} {size : Nat}
    {sized : 1 ≤ size ∧ size ≤ 100} {card : α → ProductCard} {rows : List α}
    (answers : ∀ index, ∃ result, list ⟨pageAfter size sized index, none⟩ = .ok result ∧
      result.items = (page size (index + 1) rows).map card) (count : Nat) :
    firstCards list size sized count = (firstPages size count rows).map card := by
  rw [firstCards, firstPages, List.map_flatMap]
  congr 1
  funext index
  obtain ⟨result, answered, items⟩ := answers index
  simp only [answered, items]

/-- The documents that the index holds. -/
structure Holds (docs : List Search.ProductDoc) (index : ProductId → Option Search.ProductDoc) : Prop where
  distinct : docs.Nodup
  mem : ∀ doc, doc ∈ docs ↔ index doc.id = some doc

section Searching

variable {site : Site} {tenant : TenantId} {fixed : Search.Fixed} {index : ProductId → Option Search.ProductDoc}

/-- The document of a listed product. -/
def docOfListed (fixed : Search.Fixed) (tenant : TenantId) (platform : Platform)
    (listed : Catalog.Product × List Variant) : Search.ProductDoc :=
  Search.toDoc (Search.included fixed tenant platform listed.1)

theorem docCard_docOfListed {platform : Platform} {listed : Catalog.Product × List Variant}
    (member : listed ∈ Storefront.listProducts platform tenant) :
    docCard (docOfListed fixed tenant platform listed) = rowCard platform tenant listed := by
  rw [rowCard, (mem_listProducts.mp member).2]
  rfl

theorem active_docs_perm (indexed : TenantIndexed fixed tenant site.platform index) (holds : Holds site.docs index) :
    (site.docs.filter fun doc => doc.tenantId = tenant ∧ doc.status = .active).Perm
      ((Storefront.listProducts site.platform tenant).map (docOfListed fixed tenant site.platform)) := by
  have distinct : ((Storefront.listProducts site.platform tenant).map (docOfListed fixed tenant site.platform)).Nodup := by
    refine List.Nodup.of_map Search.ProductDoc.id ?_
    rw [List.map_map]
    exact listProducts_distinct
  refine (List.perm_ext_iff_of_nodup (holds.distinct.filter _) distinct).mpr fun doc => ?_
  simp only [List.mem_filter, decide_eq_true_eq, List.mem_map]
  constructor
  · intro given
    obtain ⟨held, mine, active⟩ := given
    obtain ⟨product, live, _, rfl⟩ := (indexed doc.id doc).mp ⟨(holds.mem doc).mp held, mine⟩
    obtain ⟨row, owner, kept⟩ : product ∈ site.platform.products.rows ∧ product.tenantId = tenant ∧
        product.deletedAt = none := by simpa [Search.liveProducts] using live
    exact ⟨⟨product, Search.liveVariants tenant site.platform product.id⟩,
      mem_listProducts.mpr ⟨⟨row, owner, active, kept⟩, rfl⟩, rfl⟩
  · intro given
    obtain ⟨listed, member, rfl⟩ := given
    obtain ⟨⟨row, owner, active, kept⟩, _⟩ := mem_listProducts.mp member
    have live : listed.1 ∈ Search.liveProducts tenant site.platform :=
      List.mem_filter.mpr ⟨row, decide_eq_true ⟨owner, kept⟩⟩
    have here := (indexed listed.1.id _).mpr ⟨listed.1, live, rfl, rfl⟩
    exact ⟨(holds.mem _).mpr here.1, here.2, active⟩

/-- What the first rebuild of a tenant puts into the index. -/
def builtDocs (fixed : Search.Fixed) (tenant : TenantId) (platform : Platform) : List Search.ProductDoc :=
  (Search.liveProducts tenant platform).map fun product => Search.toDoc (Search.included fixed tenant platform product)

theorem indexed_after_first_build (platform : Platform) :
    TenantIndexed fixed tenant platform (Search.reindexTenant fixed tenant platform fun _ => none) := by
  intro id doc
  rw [reindexTenant_apply, Option.or_none, ← readDoc_some]
  exact and_iff_left_of_imp readDoc_tenantId

theorem holds_builtDocs (platform : Platform) :
    Holds (builtDocs fixed tenant platform) (Search.reindexTenant fixed tenant platform fun _ => none) := by
  refine ⟨?_, fun doc => ?_⟩
  · refine List.Nodup.of_map Search.ProductDoc.id ?_
    rw [builtDocs, List.map_map]
    exact liveProducts_distinct
  · rw [reindexTenant_apply, Option.or_none, readDoc_some, builtDocs, List.mem_map]
    constructor
    · intro given
      obtain ⟨product, member, rfl⟩ := given
      exact ⟨product, member, rfl, rfl⟩
    · intro given
      obtain ⟨product, member, _, same⟩ := given
      exact ⟨product, member, same⟩

end Searching

/-- With the tenant's documents in step and no two products of one `publishedAt`, Meilisearch
and the database list the same cards without a query, exactly as long as the store shows no
more products than a search reaches. -/
theorem search_and_database_list_the_same_iff (engine : Engine) (backends : Backends)
    (ordered : OrdersPages backends) (site : Site) (fixed : Search.Fixed)
    (index : ProductId → Option Search.ProductDoc) (holds : Holds site.docs index) (storeSlug : String)
    (store : Tenanted Store) (resolved : site.resolveStore storeSlug = .ok store)
    (published : PublishedApart site.platform store.tenantId)
    (indexed : TenantIndexed fixed store.tenantId site.platform index) (size : Nat) (sized : 1 ≤ size ∧ size ≤ 100)
    (count : Nat) (enough : (Storefront.listProducts site.platform store.tenantId).length ≤ count * size) :
    (firstCards (site.listProducts backends (some engine) storeSlug) size sized count).Perm
        (firstCards (site.listProducts backends none storeSlug) size sized count) ↔
      (Storefront.listProducts site.platform store.tenantId).length ≤ engine.maxTotalHits := by
  let rows := Storefront.listProducts site.platform store.tenantId
  let found := engine.rank "" (site.docs.filter fun doc => doc.tenantId = store.tenantId ∧ doc.status = .active)
  have reached : found.Perm (rows.map (docOfListed fixed store.tenantId site.platform)) :=
    (engine.ranked _ _).trans (active_docs_perm indexed holds)
  have cards : (found.map docCard).Perm (rows.map (rowCard site.platform store.tenantId)) := by
    refine (reached.map docCard).trans (List.Perm.of_eq ?_)
    rw [List.map_map]
    exact List.map_congr_left fun listed member => docCard_docOfListed member
  have searched : firstCards (site.listProducts backends (some engine) storeSlug) size sized count =
      (firstPages size count (found.take engine.maxTotalHits)).map docCard := by
    refine firstCards_eq (fun index => ⟨{
      items := (page size (index + 1) (found.take engine.maxTotalHits)).map docCard
      page := index + 1, pageSize := size, total := engine.estimate found }, ?_, rfl⟩) count
    have filtered : (fun doc : Search.ProductDoc => decide (doc.tenantId = store.tenantId ∧
        ([ProductStatus.active] = [] ∨ doc.status ∈ [ProductStatus.active]) ∧ engine.matching "" doc = true)) =
        fun doc => decide (doc.tenantId = store.tenantId ∧ doc.status = .active) := by
      funext doc
      simp only [engine.placeholder, List.cons_ne_nil, List.mem_singleton, false_or, and_true]
    simp only [Site.listProducts, Site.searchProducts, resolved, ok_bind, Engine.search, Option.getD_none, filtered]
    rfl
  let listed := backends.byPublishedAt ⟨pageAfter size sized 0, none⟩ rows
  have sorted : Descending publishedKey rows listed := ordered _ _
  have browsed : firstCards (site.listProducts backends none storeSlug) size sized count =
      (firstPages size count listed).map (rowCard site.platform store.tenantId) := by
    refine firstCards_eq (fun index => ⟨paginate (pageAfter size sized index) listed
      (rowCard site.platform store.tenantId), ?_, rfl⟩) count
    rw [sorted.unique published (ordered ⟨pageAfter size sized index, none⟩ rows)]
    simp only [Site.listProducts, Site.browseProducts, resolved, ok_bind, Option.all_none, List.filter_true]
    rfl
  have all : rows.length = found.length := by simpa using reached.length_eq.symm
  have whole : firstPages size count listed = listed :=
    firstPages_eq (by rw [sorted.perm.length_eq]; exact enough)
  have within : (found.take engine.maxTotalHits).length ≤ count * size :=
    (List.length_take_le' _ _).trans (all ▸ enough)
  rw [searched, browsed, whole, firstPages_eq within]
  constructor
  · intro same
    have lengths := same.length_eq
    rw [List.length_map, List.length_map, List.length_take, sorted.perm.length_eq, all] at lengths
    rw [show (Storefront.listProducts site.platform store.tenantId).length = found.length from all]
    omega
  · intro few
    rw [List.take_of_length_le (all ▸ few)]
    exact cards.trans (sorted.perm.map _).symm

def createAndPublish (id : ProductId) (title slug : String) (now : Instant) : List CatalogAction :=
  [⟨1, .createProduct id {
      title, slug := some slug, description := none, type := none, status := none, seoTitle := none
      seoDescription := none, searchKeywords := none, brandId := .undefined, storeId := .undefined }⟩,
    ⟨1, .publishProduct id now⟩]

def teaAndCups : List CatalogAction :=
  createAndPublish 1 "Tea" "tea" 10 ++ createAndPublish 2 "Cups" "cups" 20

def teaStore : Tenanted Store where
  tenantId := 1
  row := { id := 1, slug := "house", name := "House", status := .published, currency := "EUR" }

def teaSite : Site where
  stores := [teaStore]
  platform := run (step id) emptyShop teaAndCups
  docs := []

theorem teaSite_publishedApart : PublishedApart teaSite.platform 1 := by
  have keys : (Storefront.listProducts teaSite.platform 1).map publishedKey = [((10 : Nat) : WithTop Nat), (20 : Nat)] :=
    rfl
  rw [PublishedApart, keys]
  decide

/-- The latest first, and no pictures. -/
def plainBackends : Backends where
  contains := fun _ _ => true
  byPublishedAt := fun _ rows => rows.mergeSort fun first second => decide (publishedKey second ≤ publishedKey first)
  presign := fun _ => none

theorem plainBackends_ordered : OrdersPages plainBackends := by
  intro query rows
  have sorted := pairwise_mergeSort_of_le
    (fun first second : Catalog.Product × List Variant => publishedKey second ≤ publishedKey first)
    (fun _ _ _ before after => after.trans before) (fun _ _ => le_total _ _) rows
  exact ⟨List.mergeSort_perm _ _, sorted⟩

theorem tea_opens_and_is_listed_once : ∃ shown, teaSite.getProduct plainBackends "house" "tea" = .ok shown ∧
    ∃! index, ∃ result, teaSite.listProducts plainBackends none "house"
      ⟨pageAfter 1 ⟨by decide, by decide⟩ index, none⟩ = .ok result ∧ ∃ card ∈ result.items, CardOf card shown :=
  have apart : SlugsApart emptyShop := Table.apart_empty
  have both := cards_open_and_open_products_are_listed_once id apart teaAndCups plainBackends
    plainBackends_ordered [teaStore] [] "house"
  ⟨_, rfl, both.2 teaStore rfl teaSite_publishedApart "tea" _ rfl 1 ⟨by decide, by decide⟩⟩

def plainEngine : Engine where
  maxTotalHits := 1000
  matching := fun query doc => query = "" ∨ query = doc.title
  rank := fun _ docs => docs
  estimate := List.length
  placeholder := fun _ => rfl
  ranked := fun _ docs => List.Perm.refl docs

def uncategorised : Search.Fixed where
  createdAt := fun _ => 0
  categories := fun _ => []

def searchedTeaSite : Site :=
  { teaSite with docs := builtDocs uncategorised 1 teaSite.platform }

theorem search_and_database_list_tea_and_cups :
    (firstCards (searchedTeaSite.listProducts plainBackends (some plainEngine) "house") 1 ⟨by decide, by decide⟩ 2).Perm
      (firstCards (searchedTeaSite.listProducts plainBackends none "house") 1 ⟨by decide, by decide⟩ 2) := by
  have rows : (Storefront.listProducts searchedTeaSite.platform 1).length = 2 := rfl
  have agree := search_and_database_list_the_same_iff plainEngine plainBackends plainBackends_ordered
    searchedTeaSite uncategorised _ (holds_builtDocs teaSite.platform) "house" teaStore rfl teaSite_publishedApart
    (indexed_after_first_build teaSite.platform) 1 ⟨by decide, by decide⟩ 2 (Nat.le_of_eq rows)
  have reached : (Storefront.listProducts searchedTeaSite.platform teaStore.tenantId).length ≤ 1000 :=
    (Nat.le_of_eq rows).trans (by decide)
  exact agree.mpr reached

end Aicos.Properties
