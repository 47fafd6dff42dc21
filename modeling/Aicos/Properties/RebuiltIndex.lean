import Aicos.Search.Indexer

namespace Aicos.Properties

open Aicos.Catalog Aicos.Data Aicos.Search
open Aicos.Commerce (TenantId)

/-! A rebuild of a tenant's index.  It puts in what is missing and never takes out what
is stale, and it is what repairs the index after a sync that failed. -/

section Documents

variable {docs : List ProductDoc} {doc : ProductDoc} {index : ProductId → Option ProductDoc} {id : ProductId}

theorem addDocuments_of_not_mem (absent : id ∉ docs.map ProductDoc.id) : addDocuments docs index id = index id := by
  unfold addDocuments
  induction docs generalizing index with
  | nil => rfl
  | cons first rest ih =>
      rw [List.map_cons, List.mem_cons, not_or] at absent
      rw [List.foldl_cons, ih absent.2, Function.update_of_ne absent.1]

theorem addDocuments_of_mem (distinct : (docs.map ProductDoc.id).Nodup) (member : doc ∈ docs) :
    addDocuments docs index doc.id = some doc := by
  induction docs generalizing index with
  | nil => cases member
  | cons first rest ih =>
      rw [List.map_cons, List.nodup_cons] at distinct
      rcases List.mem_cons.mp member with rfl | later
      · change addDocuments rest (Function.update index doc.id (some doc)) doc.id = some doc
        rw [addDocuments_of_not_mem distinct.1, Function.update_self]
      · exact ih distinct.2 later

end Documents

variable {fixed : Fixed} {tenant : TenantId} {platform : Platform} {index : ProductId → Option ProductDoc}
  {id : ProductId} {doc : ProductDoc}

theorem readDoc_some : readDoc fixed tenant platform id = some doc ↔
    ∃ product ∈ liveProducts tenant platform, product.id = id ∧ toDoc (included fixed tenant platform product) = doc := by
  simp only [readDoc, Option.map_eq_some_iff, Option.filter_eq_some_iff, Table.visible_eq_some, liveProducts,
    List.mem_filter, decide_eq_true_eq]
  constructor
  · rintro ⟨product, ⟨⟨found, mine⟩, live⟩, same⟩
    obtain ⟨member, key⟩ := Table.find?_some found
    exact ⟨product, ⟨member, mine, live⟩, key, same⟩
  · rintro ⟨product, ⟨member, mine, live⟩, rfl, same⟩
    exact ⟨product, ⟨⟨Table.find?_of_mem member, mine⟩, live⟩, same⟩

theorem ne_of_readDoc_none (absent : readDoc fixed tenant platform id = none) {product : Product}
    (member : product ∈ liveProducts tenant platform) : product.id ≠ id := by
  intro same
  have there : readDoc fixed tenant platform id = some (toDoc (included fixed tenant platform product)) :=
    readDoc_some.mpr ⟨product, member, same, rfl⟩
  cases absent.symm.trans there

theorem liveProducts_distinct : ((liveProducts tenant platform).map Product.id).Nodup :=
  platform.products.distinct.sublist (List.filter_sublist.map _)

/-- The rebuild keeps what is there only where the tenant has no product. -/
theorem reindexTenant_apply : reindexTenant fixed tenant platform index id =
    (readDoc fixed tenant platform id).or (index id) := by
  have keys : ((liveProducts tenant platform).map fun product => toDoc (included fixed tenant platform product)).map
      ProductDoc.id = (liveProducts tenant platform).map Product.id := by
    rw [List.map_map]
    rfl
  cases read : readDoc fixed tenant platform id with
  | none =>
      refine addDocuments_of_not_mem ?_
      rw [keys, List.mem_map]
      intro given
      obtain ⟨product, member, same⟩ := given
      exact ne_of_readDoc_none read member same
  | some doc =>
      obtain ⟨product, member, rfl, rfl⟩ := readDoc_some.mp read
      exact addDocuments_of_mem (keys ▸ liveProducts_distinct) (List.mem_map_of_mem member)

/-- The documents of the tenant are those of its products that are not removed. -/
def TenantIndexed (fixed : Fixed) (tenant : TenantId) (platform : Platform)
    (index : ProductId → Option ProductDoc) : Prop :=
  ∀ id doc, (index id = some doc ∧ doc.tenantId = tenant) ↔
    ∃ product ∈ liveProducts tenant platform, product.id = id ∧ toDoc (included fixed tenant platform product) = doc

theorem readDoc_tenantId (read : readDoc fixed tenant platform id = some doc) : doc.tenantId = tenant := by
  obtain ⟨product, member, _, rfl⟩ := readDoc_some.mp read
  obtain ⟨_, mine, _⟩ := by simpa [liveProducts] using member
  exact mine

/-- A rebuild is complete exactly where the index held no document of the tenant but
those of products that it has and that are not removed. -/
theorem rebuilt_iff_nothing_stale (fixed : Fixed) (tenant : TenantId) (platform : Platform)
    (index : ProductId → Option ProductDoc) :
    TenantIndexed fixed tenant platform (reindexTenant fixed tenant platform index) ↔
      ∀ id doc, index id = some doc → doc.tenantId = tenant → ∃ product ∈ liveProducts tenant platform, product.id = id := by
  constructor
  · intro indexed id doc held mine
    cases read : readDoc fixed tenant platform id with
    | none =>
        have kept : reindexTenant fixed tenant platform index id = some doc := by
          rw [reindexTenant_apply, read, Option.none_or, held]
        obtain ⟨product, member, key, _⟩ := (indexed id doc).mp ⟨kept, mine⟩
        exact ⟨product, member, key⟩
    | some other =>
        obtain ⟨product, member, key, _⟩ := readDoc_some.mp read
        exact ⟨product, member, key⟩
  · intro fresh id doc
    rw [reindexTenant_apply, ← readDoc_some]
    cases read : readDoc fixed tenant platform id with
    | none =>
        rw [Option.none_or]
        refine iff_of_false (fun ⟨held, mine⟩ => ?_) (by simp)
        obtain ⟨product, member, key⟩ := fresh id doc held mine
        exact ne_of_readDoc_none read member key
    | some other =>
        rw [Option.some_or]
        refine ⟨And.left, fun same => ⟨same, ?_⟩⟩
        obtain rfl := Option.some.inj same
        exact readDoc_tenantId read

def removedTea : Product where
  id := 1
  tenantId := 1
  storeId := none
  brandId := none
  title := "Tea"
  slug := "tea"
  description := none
  type := .physical
  status := .active
  seoTitle := none
  seoDescription := none
  primaryImageId := none
  searchKeywords := none
  publishedAt := some 5
  deletedAt := some 9

/-- The document that a failed `removeProduct` left stays in the public listing. -/
theorem removed_product_survives_rebuild :
    ¬ ∀ fixed tenant platform index, TenantIndexed fixed tenant platform (reindexTenant fixed tenant platform index) := by
  intro always
  let platform : Platform := { emptyShop with products := Table.empty.insert removedTea }
  let fixed : Fixed := ⟨fun _ => 0, fun _ => []⟩
  let left : ProductDoc := toDoc (included fixed 1 platform { removedTea with deletedAt := none })
  have indexed := always fixed 1 platform (Function.update (fun _ => none) 1 (some left))
  have held : reindexTenant fixed 1 platform (Function.update (fun _ => none) 1 (some left)) 1 = some left := by decide
  obtain ⟨product, member, _⟩ := (indexed 1 left).mp ⟨held, rfl⟩
  have none_live : liveProducts 1 platform = [] := by decide
  rw [none_live] at member
  cases member

end Aicos.Properties
