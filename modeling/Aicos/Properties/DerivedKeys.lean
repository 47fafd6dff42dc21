import Aicos.Catalog.Products
import Aicos.Commerce.Tables
import Aicos.Data.Words

namespace Aicos.Properties

open Aicos.Catalog Aicos.Commerce Aicos.Data

/-! The slugs and SKUs that the catalog derives where a request names none, against the
unique indexes they have to pass. -/

theorem mapUnique_conflict {α : Type} {message other : String} {result : Except DbError α} :
    mapUnique message result = .error (.conflict other) ↔ result = .error .unique ∧ message = other := by
  rcases result with (_ | _ | _ | _) | _ <;> simp [mapUnique]

theorem map_eq_error {ε α β : Type} {result : Except ε α} {next : α → β} {error : ε} :
    result.map next = .error error ↔ result = .error error := by
  cases result <;> simp [Except.map]

section Slugs

variable (nfkd : String → String) (tenant : TenantId) (platform : Platform) (keys : KeySource)

/-- A product under a fresh id conflicts with those that hold its slug, deleted ones among them. -/
theorem createProduct_conflict_iff {id : ProductId} (fresh : platform.products.find? id = none) (dto : CreateProductDto)
    (message : String) :
    createProduct nfkd tenant platform id dto = .error (.conflict message) ↔
      (∃ product ∈ platform.products.rows, product.tenantId = tenant ∧
        product.slug = dto.slug.getD (slugify nfkd dto.title)) ∧
      productConflict (dto.slug.getD (slugify nfkd dto.title)) = message := by
  have refused (dangling : Bool) : platform.insertProduct dangling
        (productOf id tenant (dto.slug.getD (slugify nfkd dto.title)) dto) = .error .unique ↔
      ∃ product ∈ platform.products.rows, product.tenantId = tenant ∧
        product.slug = dto.slug.getD (slugify nfkd dto.title) := by
    unfold Platform.insertProduct
    rw [map_eq_error, Table.tryInsert_unique_iff fresh]
    refine exists_congr fun product => and_congr_right fun _ => ?_
    rw [productClash, decide_eq_true_iff]
    exact and_congr eq_comm eq_comm
  unfold createProduct
  rw [mapUnique_conflict, refused]

theorem derived_slug_conflicts_iff (dto : CreateProductDto) :
    (∀ message, createProduct nfkd tenant platform (keys.next (platform.products.rows.map Product.id))
      { dto with slug := none } ≠ .error (.conflict message)) ↔
    ∀ product ∈ platform.products.rows, product.tenantId = tenant → product.slug ≠ slugify nfkd dto.title := by
  have fresh : platform.products.find? (keys.next (platform.products.rows.map Product.id)) = none :=
    Table.find?_eq_none.mpr (keys.fresh _)
  constructor
  · intro accepted product member mine same
    exact accepted _ ((createProduct_conflict_iff nfkd tenant platform fresh _ _).mpr ⟨⟨product, member, mine, same⟩, rfl⟩)
  · intro free message refused
    obtain ⟨⟨product, member, mine, same⟩, _⟩ := (createProduct_conflict_iff nfkd tenant platform fresh _ _).mp refused
    exact free product member mine same

end Slugs

def productTitled (title slug : String) (deletedAt : Option Instant) : Catalog.Product where
  id := 1
  tenantId := 1
  storeId := none
  brandId := none
  title := title
  slug := slug
  description := none
  type := .physical
  status := .draft
  seoTitle := none
  seoDescription := none
  primaryImageId := none
  searchKeywords := none
  publishedAt := none
  deletedAt := deletedAt

def catalogueOf (product : Catalog.Product) : Platform :=
  { emptyShop with products := Table.empty.insert product }

def productNamed (title : String) : CreateProductDto where
  title := title
  slug := none
  description := none
  type := none
  status := none
  storeId := .undefined
  brandId := .undefined
  seoTitle := none
  seoDescription := none
  searchKeywords := none

/-- A deleted product keeps its slug, and two titles may come to one. -/
theorem desk_lamp_slug_conflicts :
    createProduct id 1 (catalogueOf (productTitled "Desk Lamp" "desk-lamp" (some 5))) 2 (productNamed "Desk lamp!") =
      .error (.conflict "Product with slug \"desk-lamp\" already exists") :=
  (createProduct_conflict_iff id 1 _ rfl _ _).mpr
    ⟨⟨productTitled "Desk Lamp" "desk-lamp" (some 5), List.mem_singleton.mpr rfl, rfl, by decide⟩, by decide⟩

section Segments

variable {product part other : List Char}

/-- The room that a product's segment leaves for its variant's. -/
def skuRoom (product : List Char) : Nat :=
  if product = [] then 48 else 48 - (product.length + 1)

/-- A product's segment and a variant's, joined, cut and stripped of the hyphens at the end. -/
def joinedSku (product variant : List Char) : List Char :=
  ((List.intersperse ['-'] ([product, variant].filter fun segment => segment ≠ [])).flatten.take 48).rdropWhile (· = '-')

theorem rdropWhile_append_of_ne_nil {dropped : Char → Bool} {back : List Char} (front : List Char)
    (left : back.rdropWhile dropped ≠ []) :
    (front ++ back).rdropWhile dropped = front ++ back.rdropWhile dropped := by
  have kept : back.reverse.dropWhile dropped ≠ [] := by simpa [List.rdropWhile] using left
  rw [List.rdropWhile, List.reverse_append, List.dropWhile_append, if_neg (by simpa using kept), List.reverse_append,
    List.reverse_reverse, List.rdropWhile]

/-- What the room leaves of a variant's segment. -/
def shownPart (product variant : List Char) : List Char :=
  (variant.take (skuRoom product)).rdropWhile (· = '-')

/-- A SKU is its product's segment alone, or it shows what the room leaves of the variant's. -/
theorem joinedSku_eq (variant : List Char) (ends : product.getLast? ≠ some '-') :
    joinedSku product variant =
      if shownPart product variant = [] then (product.take 48).rdropWhile (· = '-')
      else if product = [] then shownPart product variant
      else product ++ '-' :: shownPart product variant := by
  unfold joinedSku
  by_cases bare : variant = []
  · have nothing : shownPart product variant = [] := by simp [shownPart, bare]
    rw [if_pos nothing, bare]
    by_cases blank : product = [] <;> simp [blank]
  · by_cases blank : product = []
    · have whole : (variant.take 48).rdropWhile (· = '-') = shownPart product variant := by
        rw [shownPart, skuRoom, if_pos blank]
      rw [if_pos blank]
      by_cases nothing : shownPart product variant = [] <;> simp [blank, bare, whole]
    · have joined : (List.intersperse ['-'] ([product, variant].filter fun segment => segment ≠ [])).flatten =
          product ++ '-' :: variant := by simp [blank, bare]
      have stripped : product.rdropWhile (· = '-') = product := by
        rw [List.rdropWhile_eq_self_iff]
        intro some hyphen
        exact ends ((List.getLast?_eq_some_getLast some).trans (congrArg Option.some (of_decide_eq_true hyphen)))
      rw [if_neg blank, joined, List.take_append]
      by_cases long : 48 ≤ product.length
      · have none : skuRoom product = 0 := by
          rw [skuRoom, if_neg blank]
          omega
        have spent : 48 - product.length = 0 := by omega
        rw [spent, List.take_zero, List.append_nil, if_pos (by simp [shownPart, none])]
      · have room : 48 - product.length = skuRoom product + 1 := by
          rw [skuRoom, if_neg blank]
          omega
        rw [List.take_of_length_le (by omega), room, List.take_succ_cons]
        by_cases nothing : shownPart product variant = []
        · have hyphens := List.rdropWhile_eq_nil_iff.mp nothing
          rw [if_pos nothing]
          refine rdropWhile_append _ fun char member => ?_
          rcases List.mem_cons.mp member with rfl | later
          · rfl
          · exact hyphens char later
        · have tail : ('-' :: variant.take (skuRoom product)).rdropWhile (· = '-') =
              '-' :: shownPart product variant := rdropWhile_append_of_ne_nil ['-'] nothing
          rw [if_neg nothing, rdropWhile_append_of_ne_nil _ (by rw [tail]; exact List.cons_ne_nil _ _), tail]

theorem joinedSku_inj {variant : List Char} (ends : product.getLast? ≠ some '-') :
    joinedSku product variant = joinedSku product other ↔ shownPart product variant = shownPart product other := by
  -- a part that shows makes the SKU longer than the product's segment alone
  have apart {part : List Char} (shows : part ≠ []) : (product.take 48).rdropWhile (· = '-') ≠
      if product = [] then part else product ++ '-' :: part := by
    intro same
    have shorter : ((product.take 48).rdropWhile (· = '-')).length ≤ product.length :=
      ((List.rdropWhile_prefix _ _).length_le).trans ((List.take_sublist _ _).length_le)
    have some := List.length_pos_iff.mpr shows
    rw [same] at shorter
    split at shorter
    · rename_i blank
      rw [blank, List.length_nil] at shorter
      omega
    · rw [List.length_append, List.length_cons] at shorter
      omega
  refine ⟨fun same => ?_, fun same => by rw [joinedSku_eq variant ends, joinedSku_eq other ends, same]⟩
  rw [joinedSku_eq variant ends, joinedSku_eq other ends] at same
  by_cases left : shownPart product variant = []
  · by_cases right : shownPart product other = []
    · rw [left, right]
    · rw [if_pos left, if_neg right] at same
      exact absurd same (apart right)
  · by_cases right : shownPart product other = []
    · rw [if_neg left, if_pos right] at same
      exact absurd same.symm (apart left)
    · rw [if_neg left, if_neg right] at same
      split at same
      · exact same
      · exact (List.cons.inj (List.append_cancel_left same)).2

end Segments

section Skus

variable (nfkd : String → String) (tenant : TenantId) (keys : KeySource) {platform : Platform} {productId : ProductId}

/-- What of a variant's title its SKU shows, under a product of this title. -/
def shownTitle (title variant : String) : List Char :=
  shownPart (skuSegment nfkd title) (skuSegment nfkd variant)

def derivedSku (title : String) (dto : CreateVariantDto) : String :=
  skuFromTitle nfkd title [dto.title]

theorem derivedSku_inj (title : String) (dto other : CreateVariantDto) :
    derivedSku nfkd title dto = derivedSku nfkd title other ↔
      shownTitle nfkd title dto.title = shownTitle nfkd title other.title := by
  have ends : (skuSegment nfkd title).getLast? ≠ some '-' := by
    intro last
    have kept := getLast?_stripBoth last
    simp at kept
  have joined (dto : CreateVariantDto) : derivedSku nfkd title dto =
      String.ofList (joinedSku (skuSegment nfkd title) (skuSegment nfkd dto.title)) := rfl
  rw [joined, joined, String.ofList_inj]
  exact joinedSku_inj ends

/-- The `INTEGER` columns hold the numbers of a DTO, which has no maximum for them. -/
def storableVariant (dto : CreateVariantDto) : Bool :=
  [dto.priceCents, dto.compareAtCents, dto.costCents, dto.position].all fun number =>
    number.all fun value => value ≤ 2147483647

/-- `createVariant` for one title after the other; each variant has a cuid of its own. -/
def createVariants (productId : ProductId) (platform : Platform) (dtos : List CreateVariantDto) : CatalogTx Platform :=
  dtos.foldlM (fun platform dto =>
    if storableVariant dto then
      createVariant nfkd tenant platform (keys.next (platform.variants.rows.map Variant.id)) productId dto
    else throw (.db .value)) platform

/-- No variant of the tenant has the SKU, deleted ones included. -/
def SkuFree (platform : Platform) (sku : String) : Prop :=
  ∀ variant ∈ platform.variants.rows, variant.tenantId = tenant → variant.sku ≠ some sku

def withVariant (row : Variant) (platform : Platform) : Platform :=
  { platform with variants := platform.variants.insert row }

theorem skuFree_withVariant {row : Variant} {own sku : String} (fresh : platform.variants.find? row.id = none)
    (mine : row.tenantId = tenant) (named : row.sku = some own) :
    SkuFree tenant (withVariant row platform) sku ↔ SkuFree tenant platform sku ∧ own ≠ sku := by
  unfold SkuFree withVariant
  rw [Table.forall_insert fresh]
  refine and_congr_right fun _ => ?_
  simp [mine, named]

theorem skusFree_withVariant {row : Variant} {own : String} (fresh : platform.variants.find? row.id = none)
    (mine : row.tenantId = tenant) (named : row.sku = some own) (title : String) (dtos : List CreateVariantDto) :
    (∀ dto ∈ dtos, SkuFree tenant (withVariant row platform) (derivedSku nfkd title dto)) ↔
      (∀ dto ∈ dtos, SkuFree tenant platform (derivedSku nfkd title dto)) ∧ own ∉ dtos.map (derivedSku nfkd title) := by
  have apart : own ∉ dtos.map (derivedSku nfkd title) ↔ ∀ dto ∈ dtos, own ≠ derivedSku nfkd title dto := by
    simp [eq_comm]
  rw [apart, ← forall₂_and]
  exact forall₂_congr fun dto _ => skuFree_withVariant tenant fresh mine named

variable {product : Catalog.Product} (shown : assertProductExists tenant platform productId = .ok product)
include shown

theorem createVariant_ok_iff {id : VariantId} (fresh : platform.variants.find? id = none) {dto : CreateVariantDto}
    (unnamed : dto.sku = none) {after : Platform} :
    createVariant nfkd tenant platform id productId dto = .ok after ↔
      SkuFree tenant platform (derivedSku nfkd product.title dto) ∧
        after = withVariant (variantOf id tenant productId (derivedSku nfkd product.title dto) dto) platform := by
  have there : platform.products.has productId = true := Table.has_of_visible (assertProductExists_ok.mp shown).1
  have free : (∀ other ∈ platform.variants.rows,
      variantClash (variantOf id tenant productId (derivedSku nfkd product.title dto) dto) other = false) ↔
        SkuFree tenant platform (derivedSku nfkd product.title dto) := by
    refine forall_congr' fun other => forall_congr' fun _ => ?_
    rw [variantClash, decide_eq_false_iff_not]
    exact ⟨fun apart mine same => apart ⟨mine.symm, rfl, same.symm⟩,
      fun apart clash => apart clash.1.symm clash.2.2.symm⟩
  have named : dto.sku.getD (skuFromTitle nfkd product.title [dto.title]) = derivedSku nfkd product.title dto := by
    rw [unnamed]
    rfl
  have start : createVariant nfkd tenant platform id productId dto =
      mapUnique (variantConflict (derivedSku nfkd product.title dto))
        (platform.insertVariant (variantOf id tenant productId (derivedSku nfkd product.title dto) dto)) := by
    rw [createVariant, shown, ← named]
    rfl
  rw [start, mapUnique_ok, Platform.insertVariant, map_eq_ok]
  constructor
  · intro inserted
    obtain ⟨variants, ran, rfl⟩ := inserted
    obtain ⟨_, apart, _, rfl⟩ := Table.tryInsert_ok_iff.mp ran
    exact ⟨free.mp apart, rfl⟩
  · intro both
    obtain ⟨unused, rfl⟩ := both
    exact ⟨_, Table.tryInsert_ok_iff.mpr ⟨fresh, free.mpr unused, there, rfl⟩, rfl⟩

/-- One variant, and then the others beside it. -/
theorem createVariants_cons_ok_iff {id : VariantId} (drawn : keys.next (platform.variants.rows.map Variant.id) = id)
    {dto : CreateVariantDto} (unnamed : dto.sku = none) (rest : List CreateVariantDto) :
    (∃ after, createVariants nfkd tenant keys productId platform (dto :: rest) = .ok after) ↔
      storableVariant dto = true ∧ SkuFree tenant platform (derivedSku nfkd product.title dto) ∧
        ∃ after, createVariants nfkd tenant keys productId
          (withVariant (variantOf id tenant productId (derivedSku nfkd product.title dto) dto) platform) rest =
            .ok after := by
  have fresh : platform.variants.find? id = none := Table.find?_eq_none.mpr (drawn ▸ keys.fresh _)
  have first : ∀ after, createVariant nfkd tenant platform id productId dto = .ok after ↔ _ ∧ _ :=
    fun _ => createVariant_ok_iff nfkd tenant shown fresh unnamed
  have step : createVariants nfkd tenant keys productId platform (dto :: rest) =
      (if storableVariant dto then createVariant nfkd tenant platform id productId dto else throw (.db .value)) >>=
        fun after => createVariants nfkd tenant keys productId after rest := by
    rw [← drawn]
    rfl
  by_cases fits : storableVariant dto = true
  · rw [step, if_pos fits]
    simp only [bind_eq_ok, first, fits, true_and]
    constructor
    · intro created
      obtain ⟨after, made, ⟨unused, same⟩, later⟩ := created
      subst same
      exact ⟨unused, after, later⟩
    · intro both
      obtain ⟨unused, after, later⟩ := both
      exact ⟨after, _, ⟨unused, rfl⟩, later⟩
  · rw [step, if_neg fits]
    refine ⟨fun created => ?_, fun both => absurd both.1 fits⟩
    obtain ⟨after, made⟩ := created
    cases made

theorem createVariants_ok_iff {dtos : List CreateVariantDto} (unnamed : ∀ dto ∈ dtos, dto.sku = none) :
    (∃ after, createVariants nfkd tenant keys productId platform dtos = .ok after) ↔
      (∀ dto ∈ dtos, storableVariant dto = true) ∧ (dtos.map (derivedSku nfkd product.title)).Nodup ∧
        ∀ dto ∈ dtos, SkuFree tenant platform (derivedSku nfkd product.title dto) := by
  induction dtos generalizing platform with
  | nil =>
      have done : createVariants nfkd tenant keys productId platform [] = .ok platform := rfl
      simp [done]
  | cons dto rest ih =>
      obtain ⟨id, drawn⟩ : ∃ id, keys.next (platform.variants.rows.map Variant.id) = id := ⟨_, rfl⟩
      have fresh : platform.variants.find? id = none := Table.find?_eq_none.mpr (drawn ▸ keys.fresh _)
      have others : ∀ other ∈ rest, other.sku = none := fun other member => unnamed other (List.mem_cons_of_mem _ member)
      have still : assertProductExists tenant
          (withVariant (variantOf id tenant productId (derivedSku nfkd product.title dto) dto) platform) productId =
            .ok product := shown
      rw [createVariants_cons_ok_iff nfkd tenant keys shown drawn (unnamed dto List.mem_cons_self), ih still others,
        skusFree_withVariant nfkd tenant fresh rfl rfl, List.map_cons, List.nodup_cons, List.forall_mem_cons,
        List.forall_mem_cons]
      constructor
      · intro given
        obtain ⟨fits, unused, others, distinct, free, apart⟩ := given
        exact ⟨⟨fits, others⟩, ⟨apart, distinct⟩, unused, free⟩
      · intro given
        obtain ⟨⟨fits, others⟩, ⟨apart, distinct⟩, unused, free⟩ := given
        exact ⟨fits, unused, others, distinct, free, apart⟩

end Skus

theorem nodup_map_congr {α β γ : Type} {items : List α} {first : α → β} {second : α → γ}
    (same : ∀ item other, first item = first other ↔ second item = second other) :
    (items.map first).Nodup ↔ (items.map second).Nodup := by
  rw [List.Nodup, List.Nodup, List.pairwise_map, List.pairwise_map]
  exact List.Pairwise.iff fun item other => not_congr (same item other)

/-- Variants of one product, with numbers that their columns hold, are kept apart by what
their SKUs show of their titles. -/
theorem derived_skus_distinct_iff (nfkd : String → String) (tenant : TenantId) (keys : KeySource) (platform : Platform)
    (productId : ProductId) (product : Catalog.Product) (dtos : List CreateVariantDto)
    (shown : assertProductExists tenant platform productId = .ok product) (unnamed : ∀ dto ∈ dtos, dto.sku = none)
    (unused : ∀ dto ∈ dtos, SkuFree tenant platform (derivedSku nfkd product.title dto)) :
    ((dtos.map (derivedSku nfkd product.title)).Nodup ↔
      (dtos.map fun dto => shownTitle nfkd product.title dto.title).Nodup) ∧
    ((∃ after, createVariants nfkd tenant keys productId platform dtos = .ok after) ↔
      (∀ dto ∈ dtos, storableVariant dto = true) ∧
        (dtos.map fun dto => shownTitle nfkd product.title dto.title).Nodup) := by
  have same : (dtos.map (derivedSku nfkd product.title)).Nodup ↔
      (dtos.map fun dto => shownTitle nfkd product.title dto.title).Nodup :=
    nodup_map_congr (derivedSku_inj nfkd product.title)
  refine ⟨same, ?_⟩
  rw [createVariants_ok_iff nfkd tenant keys shown unnamed, ← same]
  exact and_congr_right fun _ => and_iff_left unused

def variantTitled (title : String) : CreateVariantDto where
  title := title
  sku := none
  barcode := none
  priceCents := some 500
  compareAtCents := none
  costCents := none
  currency := none
  weightUnit := none
  inventoryPolicy := none
  taxable := none
  position := none

theorem cold_brew_skus_distinct_iff :
    (([variantTitled "500ml", variantTitled "1l"].map (derivedSku id "Cold Brew")).Nodup ↔
      ([variantTitled "500ml", variantTitled "1l"].map fun dto => shownTitle id "Cold Brew" dto.title).Nodup) ∧
    ((∃ after, createVariants id 1 .counting 1 (catalogueOf (productTitled "Cold Brew" "cold-brew" none))
        [variantTitled "500ml", variantTitled "1l"] = .ok after) ↔
      (∀ dto ∈ [variantTitled "500ml", variantTitled "1l"], storableVariant dto = true) ∧
        ([variantTitled "500ml", variantTitled "1l"].map fun dto => shownTitle id "Cold Brew" dto.title).Nodup) :=
  derived_skus_distinct_iff id 1 .counting (catalogueOf (productTitled "Cold Brew" "cold-brew" none)) 1
    (productTitled "Cold Brew" "cold-brew" none) [variantTitled "500ml", variantTitled "1l"] rfl (by simp [variantTitled])
    (by simp [SkuFree, catalogueOf, emptyShop, Table.empty])

/-- A product title of 48 letters leaves no room for its variants' titles. -/
theorem long_title_skus_collide :
    skuSegment id "Red" ≠ skuSegment id "Blue" ∧
    derivedSku id (String.ofList (List.replicate 48 'A')) (variantTitled "Red") =
      derivedSku id (String.ofList (List.replicate 48 'A')) (variantTitled "Blue") ∧
    ¬ ∃ after, createVariants id 1 .counting 1
      (catalogueOf (productTitled (String.ofList (List.replicate 48 'A')) "long" none))
      [variantTitled "Red", variantTitled "Blue"] = .ok after := by
  have same : derivedSku id (String.ofList (List.replicate 48 'A')) (variantTitled "Red") =
      derivedSku id (String.ofList (List.replicate 48 'A')) (variantTitled "Blue") := by decide +kernel
  refine ⟨by decide +kernel, same, ?_⟩
  have shown : assertProductExists 1 (catalogueOf (productTitled (String.ofList (List.replicate 48 'A')) "long" none)) 1 =
      .ok (productTitled (String.ofList (List.replicate 48 'A')) "long" none) := rfl
  rw [createVariants_ok_iff id 1 .counting shown (by simp [variantTitled])]
  intro created
  have apart := (List.nodup_cons.mp created.2.1).1
  exact apart (List.mem_singleton.mpr same)

end Aicos.Properties
