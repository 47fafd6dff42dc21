import Aicos.Extraction.Review
import Aicos.Transaction.Certified

namespace Aicos.Properties

open Aicos.Catalog (ProductId ImageId ProductImage)
open Aicos.Commerce Aicos.Data Aicos.Extraction Aicos.Identity Aicos.Transaction Aicos.Transaction.Certified
open Aicos.Transition

/-! What the human gate makes of a result.  Whether a result has a product already
is asked before the product is written, so it is the unique key on its link that
lets one acceptance through. -/

/-- A product as `acceptResult` leaves it, for as long as its job is not deleted, and then
without its link. -/
structure DraftOf (rows : ReviewRows) (result : ReviewedResult) (created : CreatedProduct) : Prop where
  product : ∃ product ∈ rows.products, product.id = created.id ∧ product.slug = created.slug ∧ product.status = .draft ∧
    product.primaryImageId = (rows.images.find? fun image => image.productId = created.id).map (·.id) ∧
    (product.extractionResultId = some result.id ∨
      product.extractionResultId = none ∧ ∀ row ∈ rows.results, row.id ≠ result.id)
  variant : ∃ variant, rows.variants.filter (fun row => row.productId = created.id) = [variant] ∧
    variant.title = "Default" ∧ variant.priceCents = result.priceCents.getD 0 ∧
    variant.currency = result.currency.getD "USD" ∧ variant.barcode = result.barcode.bind nonEmpty
  images : (rows.images.filter fun image => image.productId = created.id).map
      (fun image => (image.mediaId, image.position, image.isPrimary)) =
    result.imageMediaIds.mapIdx fun index media => (media, index, decide (index = 0))
  reviewed : ∀ item ∈ rows.reviewItems, item.resultId = result.id → item.decision = .accepted

def acceptedResult (entry : Committed ReviewWrite ReviewReply) : Option ResultId :=
  match entry.value with
  | .accepted result _ => some result
  | _ => none

theorem acceptedResult_some {entry : Committed ReviewWrite ReviewReply} {id : ResultId}
    (accepts : acceptedResult entry = some id) : ∃ created, entry.value = .accepted id created := by
  unfold acceptedResult at accepts
  split at accepts
  · rename_i result created value
    cases accepts
    exact ⟨created, value⟩
  · cases accepts

/-- What holds after the requests in the log, each of which has returned. -/
structure Reviewed (start rows : ReviewRows) (log : List (Committed ReviewWrite ReviewReply)) : Prop where
  once : (log.filterMap acceptedResult).Nodup
  linked : (rows.products.filterMap (·.extractionResultId)).Nodup
  drafts : ∀ entry ∈ log, ∀ id created, entry.value = .accepted id created →
    ∃ result ∈ start.results, result.id = id ∧ DraftOf rows result created
  kept : ∀ product ∈ start.products, ∃ now ∈ rows.products,
    { now with extractionResultId := product.extractionResultId } = product

/-- What the keys of the schema say of the rows that acceptances and deletions touch. -/
structure Consistent (rows : ReviewRows) : Prop where
  results : (rows.results.map (·.id)).Nodup
  reviewItems : (rows.reviewItems.map (·.resultId)).Nodup
  linked : (rows.products.filterMap (·.extractionResultId)).Nodup
  variants : ∀ variant ∈ rows.variants, ∃ product ∈ rows.products, product.id = variant.productId
  images : ∀ image ∈ rows.images, ∃ product ∈ rows.products, product.id = image.productId

/-- Results and review items are never added and never change their keys. -/
structure OnlyRemoves (before after : ReviewRows) : Prop where
  results : ∀ result ∈ after.results, result ∈ before.results
  reviewItems : ∀ item ∈ after.reviewItems, ∃ old ∈ before.reviewItems, old.id = item.id ∧ old.resultId = item.resultId

theorem OnlyRemoves.refl (rows : ReviewRows) : OnlyRemoves rows rows :=
  ⟨fun _ member => member, fun item member => ⟨item, member, rfl, rfl⟩⟩

theorem OnlyRemoves.trans {first second third : ReviewRows} (early : OnlyRemoves first second)
    (late : OnlyRemoves second third) : OnlyRemoves first third := by
  refine ⟨fun result member => early.results result (late.results result member), fun item member => ?_⟩
  obtain ⟨middle, between, id, resultId⟩ := late.reviewItems item member
  obtain ⟨old, before, sameId, sameResult⟩ := early.reviewItems middle between
  exact ⟨old, before, sameId.trans id, sameResult.trans resultId⟩

variable {context : ReviewContext} {rows : ReviewRows} {ids : AcceptIds} {now : Instant} {userId : Option UserId}
  {result : ReviewedResult} {item : Option ReviewItem}

section Effect

/-- The product as the last statement leaves it. -/
def acceptedProduct (context : ReviewContext) (ids : AcceptIds) (result : ReviewedResult) : DraftProduct :=
  { context.draft ids result with primaryImageId := result.imageMediaIds.head?.map fun _ => ids.image }

theorem view_attachImages (media : List MediaId) (index : Nat) (rows : ReviewRows) :
    ReviewRows.store.view (context.attachImages ids (index + 1) media) rows =
      { rows with images := rows.images ++ media.mapIdx fun offset => context.productImage ids (offset + (index + 1)) } := by
  induction media generalizing index rows with
  | nil => simp [ReviewContext.attachImages]
  | cons first rest ih =>
      have later : ∀ offset, offset + (index + 1 + 1) = offset + 1 + (index + 1) := fun offset => by omega
      simp only [ReviewContext.attachImages, Nat.succ_ne_zero, if_false, List.nil_append, Store.view_cons, ih]
      simp [ReviewRows.store, ReviewRows.apply, List.mapIdx_cons, later]

/-- The last statement of an acceptance, where there is a review item. -/
theorem view_acceptItem (rows : ReviewRows) :
    ReviewRows.store.view (item.map fun item => ReviewWrite.acceptItem item.id now userId).toList rows =
      { rows with
        reviewItems := updateWhere (fun row => item.any fun read => row.id = read.id)
          (ReviewItem.accept now userId) rows.reviewItems } := by
  cases item with
  | none => simp [updateWhere_of_forall_not]
  | some read => simp [ReviewRows.store, ReviewRows.apply]

theorem setPrimary_append {products : List DraftProduct} {product : DraftProduct} {id : ProductId} (image : ImageId)
    (same : product.id = id) (fresh : ∀ row ∈ products, row.id ≠ id) :
    updateWhere (fun row => row.id = id) (fun row => { row with primaryImageId := some image }) (products ++ [product]) =
      products ++ [{ product with primaryImageId := some image }] := by
  have others : updateWhere (fun row => row.id = id) (fun row => { row with primaryImageId := some image }) products =
      products := updateWhere_of_forall_not fun row member => decide_eq_false (fresh row member)
  rw [updateWhere, List.map_append]
  exact congrArg₂ _ others (by simp [same])

theorem view_acceptStatements (fresh : ∀ row ∈ rows.products, row.id ≠ ids.product) :
    ReviewRows.store.view (context.acceptStatements ids now userId result item) rows =
      { rows with
        products := rows.products ++ [acceptedProduct context ids result]
        variants := rows.variants ++ [context.defaultVariant ids result]
        images := rows.images ++ result.imageMediaIds.mapIdx (context.productImage ids)
        reviewItems := updateWhere (fun row => item.any fun read => row.id = read.id)
          (ReviewItem.accept now userId) rows.reviewItems } := by
  rw [ReviewContext.acceptStatements, Store.view_append, view_acceptItem, Store.view_append]
  cases images : result.imageMediaIds with
  | nil =>
      simp [ReviewContext.attachImages, ReviewRows.store, ReviewRows.apply, acceptedProduct, ReviewContext.draft, images]
  | cons first rest =>
      simp only [ReviewContext.attachImages, if_true, Store.view_cons, Store.view_nil,
        List.cons_append, List.nil_append, view_attachImages]
      have drafted : (context.draft ids result).id = ids.product := rfl
      have primary := setPrimary_append ids.image drafted fresh
      simp [ReviewRows.store, ReviewRows.apply, primary, acceptedProduct, images]

end Effect

section Accept

/-- A product that is not there yet owns no rows. -/
theorem filter_owner_eq_nil {Owned : Type} {owned : List Owned} {owner : Owned → ProductId} {id : ProductId}
    (foreign : ∀ row ∈ owned, ∃ product ∈ rows.products, product.id = owner row)
    (fresh : ∀ product ∈ rows.products, product.id ≠ id) : owned.filter (fun row => owner row = id) = [] := by
  refine List.filter_eq_nil_iff.mpr fun row member same => ?_
  obtain ⟨product, there, owns⟩ := foreign row member
  exact fresh product there (owns.trans (of_decide_eq_true same))

/-- What the unique keys and the foreign key of the product say when it is inserted. -/
theorem admitsAll_acceptStatements
    (admitted : ReviewRows.store.admitsAll (context.acceptStatements ids now userId result item) rows = true) :
    (∀ row ∈ rows.products, row.id ≠ ids.product ∧ row.extractionResultId ≠ some result.id) ∧
      ∃ row ∈ rows.results, row.id = result.id := by
  have first : ReviewRows.admits (.insertProduct (context.draft ids result)) rows = true :=
    (Bool.and_eq_true_iff.mp admitted).1
  obtain ⟨keys, link⟩ := of_decide_eq_true first
  constructor
  · intro row member
    obtain ⟨id, _, apart⟩ := of_decide_eq_true (List.all_eq_true.mp keys row member)
    exact ⟨id, apart.resolve_left (by simp [ReviewContext.draft])⟩
  · simpa [ReviewContext.draft] using link

variable (fresh : ∀ row ∈ rows.products, row.id ≠ ids.product)
include fresh

theorem draftOf_acceptStatements (consistent : Consistent rows)
    (covered : ∀ row ∈ rows.reviewItems, row.resultId = result.id → ∃ read, item = some read ∧ read.id = row.id) :
    DraftOf (ReviewRows.store.view (context.acceptStatements ids now userId result item) rows) result
      (context.created ids result) := by
  rw [view_acceptStatements fresh]
  have noVariants : rows.variants.filter (fun row => row.productId = ids.product) = [] :=
    filter_owner_eq_nil consistent.variants fresh
  have noImages : rows.images.filter (fun row => row.productId = ids.product) = [] :=
    filter_owner_eq_nil consistent.images fresh
  have mine : (result.imageMediaIds.mapIdx (context.productImage ids)).filter
      (fun row => row.productId = ids.product) = result.imageMediaIds.mapIdx (context.productImage ids) := by
    refine List.filter_eq_self.mpr fun image member => ?_
    obtain ⟨index, bound, rfl⟩ := List.mem_mapIdx.mp member
    simp [ReviewContext.productImage]
  constructor
  · refine ⟨acceptedProduct context ids result, by simp, rfl, rfl, rfl, ?_, .inl rfl⟩
    have first : (rows.images ++ result.imageMediaIds.mapIdx (context.productImage ids)).find?
        (fun image => image.productId = ids.product) = (result.imageMediaIds.mapIdx (context.productImage ids)).head? := by
      rw [← List.head?_filter, List.filter_append, noImages, mine, List.nil_append]
    change _ = Option.map _ ((rows.images ++ result.imageMediaIds.mapIdx (context.productImage ids)).find?
      fun image => image.productId = ids.product)
    rw [first]
    cases images : result.imageMediaIds <;> simp [acceptedProduct, images, ReviewContext.productImage]
  · refine ⟨context.defaultVariant ids result, ?_, rfl, rfl, rfl, rfl⟩
    change (rows.variants ++ [context.defaultVariant ids result]).filter (fun row => row.productId = ids.product) = _
    rw [List.filter_append, noVariants]
    simp [ReviewContext.defaultVariant]
  · change ((rows.images ++ result.imageMediaIds.mapIdx (context.productImage ids)).filter
      fun image => image.productId = ids.product).map _ = _
    rw [List.filter_append, noImages, mine, List.nil_append]
    apply List.ext_getElem <;> simp [ReviewContext.productImage]
  · intro row member same
    obtain ⟨old, there, rfl⟩ := mem_updateWhere.mp member
    have sameOld : old.resultId = result.id := by
      split at same <;> exact same
    obtain ⟨read, rfl, id⟩ := covered old there sameOld
    simp [id, ReviewItem.accept]

theorem DraftOf.acceptStatements {other : ReviewedResult} {created : CreatedProduct}
    (draft : DraftOf rows other created) :
    DraftOf (ReviewRows.store.view (context.acceptStatements ids now userId result item) rows) other created := by
  obtain ⟨product, member, id, slug, status, primary, link⟩ := draft.product
  have apart : ids.product ≠ created.id := fun same => fresh product member (id.trans same.symm)
  have images : (result.imageMediaIds.mapIdx (context.productImage ids)).filter
      (fun row => row.productId = created.id) = [] := by
    refine List.filter_eq_nil_iff.mpr fun image there same => ?_
    obtain ⟨index, bound, rfl⟩ := List.mem_mapIdx.mp there
    exact apart (of_decide_eq_true same)
  rw [view_acceptStatements fresh]
  constructor
  · refine ⟨product, List.mem_append_left _ member, id, slug, status, ?_, link⟩
    dsimp only
    rw [primary, ← List.head?_filter, ← List.head?_filter, List.filter_append, images, List.append_nil]
  · obtain ⟨variant, single, rest⟩ := draft.variant
    refine ⟨variant, ?_, rest⟩
    dsimp only
    rw [List.filter_append, single]
    simp [ReviewContext.defaultVariant, apart]
  · dsimp only
    rw [List.filter_append, images, List.append_nil]
    exact draft.images
  · intro row there same
    obtain ⟨old, before, rfl⟩ := mem_updateWhere.mp there
    split
    · rfl
    · rename_i kept
      rw [if_neg kept] at same
      exact draft.reviewed old before same

theorem Consistent.acceptStatements (consistent : Consistent rows)
    (unlinked : ∀ row ∈ rows.products, row.extractionResultId ≠ some result.id) :
    Consistent (ReviewRows.store.view (context.acceptStatements ids now userId result item) rows) := by
  rw [view_acceptStatements fresh]
  refine ⟨consistent.results, ?_, ?_, ?_, ?_⟩
  · have same : (updateWhere (fun row => item.any fun read => row.id = read.id) (ReviewItem.accept now userId)
        rows.reviewItems).map (·.resultId) = rows.reviewItems.map (·.resultId) := map_updateWhere fun _ => rfl
    exact same ▸ consistent.reviewItems
  · dsimp only
    rw [List.filterMap_append]
    refine List.nodup_append.mpr ⟨consistent.linked, List.nodup_singleton result.id, ?_⟩
    intro id member other last same
    obtain ⟨product, there, link⟩ := List.mem_filterMap.mp member
    obtain rfl : other = result.id := List.mem_singleton.mp last
    exact unlinked product there (same ▸ link)
  · intro variant member
    rcases List.mem_append.mp member with old | new
    · obtain ⟨product, there, owner⟩ := consistent.variants variant old
      exact ⟨product, List.mem_append_left _ there, owner⟩
    · rw [List.mem_singleton.mp new]
      exact ⟨acceptedProduct context ids result, by simp, rfl⟩
  · intro image member
    rcases List.mem_append.mp member with old | new
    · obtain ⟨product, there, owner⟩ := consistent.images image old
      exact ⟨product, List.mem_append_left _ there, owner⟩
    · obtain ⟨index, bound, rfl⟩ := List.mem_mapIdx.mp new
      exact ⟨acceptedProduct context ids result, by simp, rfl⟩

end Accept

section DeleteJob

variable {job : JobId}

theorem ofJob_of_mem (consistent : Consistent rows) {row : ReviewedResult} (member : row ∈ rows.results)
    (kept : row.jobId ≠ job) : rows.ofJob job row.id = false := by
  refine List.any_eq_false.mpr fun other there same => ?_
  obtain ⟨id, mine⟩ := of_decide_eq_true same
  obtain rfl := List.inj_on_of_nodup_map consistent.results there member id
  exact kept mine

theorem DraftOf.deleteJob {other : ReviewedResult} {created : CreatedProduct} (consistent : Consistent rows)
    (draft : DraftOf rows other created) : DraftOf (rows.deleteJob job) other created := by
  obtain ⟨product, member, id, slug, status, primary, link⟩ := draft.product
  refine ⟨?_, draft.variant, draft.images, fun item there => draft.reviewed item (List.mem_of_mem_filter there)⟩
  refine ⟨_, List.mem_map_of_mem member, id, slug, status, primary, ?_⟩
  dsimp only
  rcases link with link | ⟨link, gone⟩
  · by_cases deleted : rows.ofJob job other.id = true
    · refine .inr ⟨by simp [link, deleted], fun row there same => ?_⟩
      obtain ⟨there, kept⟩ := List.mem_filter.mp there
      have lost := ofJob_of_mem consistent there (of_decide_eq_true kept)
      rw [same, deleted] at lost
      cases lost
    · exact .inl (by simp [link, deleted])
  · exact .inr ⟨by simp [link], fun row there => gone row (List.mem_of_mem_filter there)⟩

theorem Consistent.deleteJob (consistent : Consistent rows) (job : JobId) : Consistent (rows.deleteJob job) := by
  have owned {id : ProductId} (owner : ∃ product ∈ rows.products, product.id = id) :
      ∃ product ∈ (rows.deleteJob job).products, product.id = id := by
    obtain ⟨product, there, same⟩ := owner
    exact ⟨_, List.mem_map_of_mem there, same⟩
  refine ⟨consistent.results.sublist (List.filter_sublist.map _), consistent.reviewItems.sublist (List.filter_sublist.map _),
    ?_, fun variant member => owned (consistent.variants variant member),
    fun image member => owned (consistent.images image member)⟩
  have links : (rows.deleteJob job).products.filterMap (·.extractionResultId) =
      (rows.products.filterMap (·.extractionResultId)).filter fun result => ¬ rows.ofJob job result := by
    rw [List.filter_filterMap, ReviewRows.deleteJob, List.filterMap_map]
    rfl
  rw [links]
  exact consistent.linked.filter _

theorem OnlyRemoves.deleteJob (rows : ReviewRows) (job : JobId) : OnlyRemoves rows (rows.deleteJob job) :=
  ⟨fun _ member => List.mem_of_mem_filter member, fun item member => ⟨item, List.mem_of_mem_filter member, rfl, rfl⟩⟩

end DeleteJob

/-- The requests: acceptances, deletions of jobs, and deletions of media by the media service. -/
def Requested (context : ReviewContext) (program : ReviewTx ReviewReply) : Prop :=
  (∃ ids now userId id, program = context.acceptResult ids now userId id) ∨ (∃ id, program = remove id) ∨
    ∃ media, program = deleteAsset media

/-- What a request owes of the rows it is committed on. -/
inductive Owed (context : ReviewContext) (rows : ReviewRows) : Committed ReviewWrite ReviewReply → Prop where
  | accepted (ids : AcceptIds) (now : Instant) (userId : Option UserId) (result : ReviewedResult)
      (item : Option ReviewItem) (member : ∀ row ∈ rows.results, row.id = result.id → row = result)
      (covered : ∀ row ∈ rows.reviewItems, row.resultId = result.id → ∃ read, item = some read ∧ read.id = row.id) :
      Owed context rows
        ⟨context.acceptStatements ids now userId result item, .accepted result.id (context.created ids result)⟩
  | removed (id job : JobId) : Owed context rows ⟨[.deleteJob job], .removed id⟩
  | mediaDeleted (media : MediaId) : Owed context rows ⟨[.deleteMedia media], .mediaDeleted media⟩

theorem outline_acceptResult (ids : AcceptIds) (now : Instant) (userId : Option UserId) (id : ResultId)
    (rows : ReviewRows) :
    Outline ReviewRows.store Consistent OnlyRemoves (Owed context) (context.acceptResult ids now userId id) [] rows := by
  refine outline_require_bind fun first result consistent _ found => ?_
  refine outline_query_bind fun second consistentItems removed => outline_query_bind fun third _ later => ?_
  rw [Store.view_nil] at found ⊢
  split
  · trivial
  · obtain ⟨member, same⟩ : result ∈ first.results ∧ result.id = id := by
      cases shown : first.results.find? fun row => row.id = id with
      | none => rw [shown] at found; cases found
      | some row =>
          rw [shown] at found
          cases found
          exact ⟨List.mem_of_find?_eq_some shown, by simpa using List.find?_some shown⟩
    subst same
    refine outline_writeAll fun now _ last _ => ?_
    have since := removed.trans (later.trans last)
    refine Owed.accepted ids _ userId result _ (fun row there same => ?_) (fun row there same => ?_)
    · exact List.inj_on_of_nodup_map consistent.results (since.results row there) member same
    · obtain ⟨old, before, oldId, oldResult⟩ := (later.trans last).reviewItems row there
      have read := find?_of_key consistentItems.reviewItems before
      rw [oldResult, same] at read
      exact ⟨old, read, oldId⟩

theorem outline_requested {program : ReviewTx ReviewReply} (requested : Requested context program) (rows : ReviewRows) :
    Outline ReviewRows.store Consistent OnlyRemoves (Owed context) program [] rows := by
  rcases requested with ⟨ids, now, userId, id, rfl⟩ | ⟨id, rfl⟩ | ⟨media, rfl⟩
  · exact outline_acceptResult ids now userId id rows
  · refine outline_require_bind fun first job _ _ _ => outline_writeAll fun _ _ _ _ => ?_
    exact Owed.removed id job.id
  · exact outline_writeAll fun _ _ _ _ => Owed.mediaDeleted media

/-- The invariant of the committed rows and the log. -/
structure GateTracked (start rows : ReviewRows) (log : List (Committed ReviewWrite ReviewReply)) : Prop where
  consistent : Consistent rows
  known : ∀ result ∈ rows.results, result ∈ start.results
  reviewed : Reviewed start rows log

variable {start : ReviewRows} {log : List (Committed ReviewWrite ReviewReply)}

/-- A request more: the drafts of the earlier ones last, and no product goes. -/
theorem Reviewed.append {after : ReviewRows} {entry : Committed ReviewWrite ReviewReply}
    (reviewed : Reviewed start rows log)
    (once : ∀ id ∈ acceptedResult entry, id ∉ log.filterMap acceptedResult)
    (linked : (after.products.filterMap (·.extractionResultId)).Nodup)
    (lasts : ∀ result created, DraftOf rows result created → DraftOf after result created)
    (drafted : ∀ id created, entry.value = .accepted id created →
      ∃ result ∈ start.results, result.id = id ∧ DraftOf after result created)
    (kept : ∀ product ∈ rows.products, ∃ now ∈ after.products,
      { now with extractionResultId := product.extractionResultId } = product) :
    Reviewed start after (log ++ [entry]) where
  once := by
    rw [List.filterMap_append]
    refine List.nodup_append.mpr ⟨reviewed.once, ?_, ?_⟩
    · cases accepts : acceptedResult entry <;> simp [accepts]
    · intro old earlier other last equal
      obtain ⟨_, single, accepts⟩ := List.mem_filterMap.mp last
      rw [List.mem_singleton.mp single] at accepts
      exact once other accepts (equal ▸ earlier)
  linked := linked
  drafts later logged id created value := by
    rcases List.mem_append.mp logged with earlier | last
    · obtain ⟨result, known, same, draft⟩ := reviewed.drafts later earlier id created value
      exact ⟨result, known, same, lasts result created draft⟩
    · rw [List.mem_singleton.mp last] at value
      exact drafted id created value
  kept product there := by
    obtain ⟨middle, present, unchanged⟩ := reviewed.kept product there
    obtain ⟨now, still, same⟩ := kept middle present
    exact ⟨now, still, by rw [← unchanged, ← same]⟩

theorem GateTracked.accepted (tracked : GateTracked start rows log) (admitted : ReviewRows.store.admitsAll
      (context.acceptStatements ids now userId result item) rows = true)
    (same : ∀ row ∈ rows.results, row.id = result.id → row = result)
    (covered : ∀ row ∈ rows.reviewItems, row.resultId = result.id → ∃ read, item = some read ∧ read.id = row.id) :
    GateTracked start (ReviewRows.store.view (context.acceptStatements ids now userId result item) rows)
      (log ++ [⟨context.acceptStatements ids now userId result item,
        .accepted result.id (context.created ids result)⟩]) := by
  obtain ⟨keys, row, member, id⟩ := admitsAll_acceptStatements admitted
  obtain rfl := same row member id
  have fresh : ∀ product ∈ rows.products, product.id ≠ ids.product := fun product there => (keys product there).1
  have consistent : Consistent (ReviewRows.store.view (context.acceptStatements ids now userId row item) rows) :=
    tracked.consistent.acceptStatements fresh fun product there => (keys product there).2
  refine ⟨consistent, ?_, tracked.reviewed.append ?_ consistent.linked
    (fun _ _ draft => draft.acceptStatements fresh) ?_ ?_⟩
  · rw [view_acceptStatements fresh]
    exact tracked.known
  · rintro _ ⟨⟩ earlier
    obtain ⟨entry, logged, accepts⟩ := List.mem_filterMap.mp earlier
    obtain ⟨created, value⟩ := acceptedResult_some accepts
    -- a result that was accepted before is linked, or gone
    obtain ⟨result, _, same, draft⟩ := tracked.reviewed.drafts entry logged _ created value
    obtain ⟨product, there, _, _, _, _, link | ⟨_, gone⟩⟩ := draft.product
    · exact (keys product there).2 (same ▸ link)
    · exact gone row member same.symm
  · rintro _ _ ⟨⟩
    exact ⟨row, tracked.known row member, rfl, draftOf_acceptStatements fresh tracked.consistent covered⟩
  · intro product there
    rw [view_acceptStatements fresh]
    exact ⟨product, List.mem_append_left _ there, rfl⟩

theorem GateTracked.removed (tracked : GateTracked start rows log) (id job : JobId) :
    GateTracked start (rows.deleteJob job) (log ++ [⟨[.deleteJob job], .removed id⟩]) := by
  have consistent := tracked.consistent.deleteJob job
  refine ⟨consistent, fun result member => tracked.known result (List.mem_of_mem_filter member), ?_⟩
  refine tracked.reviewed.append ?_ consistent.linked (fun _ _ draft => draft.deleteJob tracked.consistent) ?_ ?_
  · rintro _ ⟨⟩
  · rintro _ _ ⟨⟩
  · exact fun product there => ⟨_, List.mem_map_of_mem there, rfl⟩

theorem GateTracked.mediaDeleted (tracked : GateTracked start rows log) (media : MediaId) :
    GateTracked start (rows.deleteMedia media) (log ++ [⟨[.deleteMedia media], .mediaDeleted media⟩]) := by
  obtain ⟨consistent, known, reviewed⟩ := tracked
  refine ⟨⟨consistent.results, consistent.reviewItems, consistent.linked, consistent.variants, consistent.images⟩, known,
    reviewed.append ?_ reviewed.linked ?_ ?_ ?_⟩
  · rintro _ ⟨⟩
  · exact fun _ _ draft => ⟨draft.product, draft.variant, draft.images, draft.reviewed⟩
  · rintro _ _ ⟨⟩
  · exact fun product there => ⟨product, there, rfl⟩

theorem GateTracked.commit {entry : Committed ReviewWrite ReviewReply} (tracked : GateTracked start rows log)
    (admitted : ReviewRows.store.admitsAll entry.statements rows = true) (owed : Owed context rows entry) :
    GateTracked start (ReviewRows.store.view entry.statements rows) (log ++ [entry]) ∧
      OnlyRemoves rows (ReviewRows.store.view entry.statements rows) := by
  cases owed with
  | accepted ids now userId result item same covered =>
      refine ⟨tracked.accepted admitted same covered, ?_⟩
      have fresh := fun product there => ((admitsAll_acceptStatements admitted).1 product there).1
      rw [view_acceptStatements fresh]
      refine ⟨fun _ there => there, fun item there => ?_⟩
      obtain ⟨old, before, rfl⟩ := mem_updateWhere.mp there
      exact ⟨old, before, by split <;> rfl, by split <;> rfl⟩
  | removed id job => exact ⟨tracked.removed id job, OnlyRemoves.deleteJob rows job⟩
  | mediaDeleted media =>
      exact ⟨tracked.mediaDeleted media, fun _ there => there, fun item there => ⟨item, there, rfl, rfl⟩⟩

/-- In every state of every interleaving of acceptances and deletions: no result has
been accepted twice, each product made of a result is as `acceptResult` describes it,
no product is gone, and the requests that did not return have changed nothing. -/
theorem results_accepted_once {context : ReviewContext} {start : ReviewRows} (consistent : Consistent start)
    {schedule : List (Action ReviewRows ReviewWrite ReviewError ReviewReply)}
    (requests : ∀ action ∈ schedule, Starts (Requested context) action) :
    Visits (step ReviewRows.store) (fun state => state.committed = ReviewRows.store.replay start state.log ∧
      Reviewed start state.committed state.log) (State.idle start) schedule := by
  have base : GateTracked start start [] :=
    ⟨consistent, fun _ member => member, List.nodup_nil, consistent.linked, by simp, fun product member =>
      ⟨product, member, rfl⟩⟩
  have visits := invariant_of_outlines OnlyRemoves.refl (fun _ _ _ => OnlyRemoves.trans)
    (fun _ _ tracked => tracked.consistent) (fun rows log entry tracked admitted owed => tracked.commit admitted owed)
    (fun program requested rows _ => outline_requested requested rows) base requests
  exact visits.mono fun state all => ⟨all.1, all.2.reviewed⟩

def shop : ReviewContext where
  tenantId := 1
  toLowerCase := id
  cuid := fun _ => "cm1extraction"

def cola : ReviewedResult where
  id := 1
  jobId := 1
  title := some " Cola Classic "
  priceCents := some 149
  currency := some "USD"
  barcode := some "5449000000996"
  brandGuess := none
  categoryGuess := none
  overallConfidence := 1
  fieldConfidence := .object []
  sourceFrameIds := []
  imageMediaIds := [7]
  description := none

def colaItem : ReviewItem where
  jobId := 1
  resultId := 1
  decision := .pending
  id := 1
  reviewedAt := none
  reviewedByUserId := none

def colaJob : ExtractionJob where
  id := 1
  sourceMediaId := none
  status := .awaitingReview
  framesExtracted := 0
  framesAnalyzed := 0
  productsFound := 1
  errorMessage := none
  startedAt := none
  completedAt := none

def colaImage : MediaAsset where
  id := 7
  type := .image
  status := .ready
  bucket := "media"
  objectKey := "extractions/1/product_0.jpg"
  mimeType := some "image/jpeg"
  isTemporary := true

def shelf : ReviewRows where
  jobs := [colaJob]
  frames := []
  results := [cola]
  reviewItems := [colaItem]
  mediaAssets := [colaImage]
  products := []
  variants := []
  images := []

theorem shelf_consistent : Consistent shelf :=
  ⟨by decide, by decide, by decide, by simp [shelf], by simp [shelf]⟩

/-- Two acceptances of one result that read before either writes, and a deletion of the job. -/
def doubleClick : List (Action ReviewRows ReviewWrite ReviewError ReviewReply) :=
  [.begin 1 (shop.acceptResult ⟨1, 1, 1⟩ 5 (some 3) 1), .begin 2 (shop.acceptResult ⟨2, 2, 2⟩ 5 (some 3) 1),
    .begin 3 (remove 1), .advance 1, .advance 2, .advance 1, .advance 2, .advance 1, .advance 2] ++
    List.replicate 6 (.advance 1) ++ List.replicate 6 (.advance 2) ++ [.commit 1, .commit 2] ++
    List.replicate 2 (.advance 3) ++ [.commit 3]

theorem doubleClick_requests : ∀ action ∈ doubleClick, Starts (Requested shop) action := by
  intro action member
  simp only [doubleClick, List.mem_append, List.mem_cons, List.not_mem_nil, or_false, List.mem_replicate] at member
  cases action with
  | begin id program =>
      obtain ⟨_, rfl⟩ | ⟨_, rfl⟩ | ⟨_, rfl⟩ : (id = 1 ∧ program = shop.acceptResult ⟨1, 1, 1⟩ 5 (some 3) 1) ∨
          (id = 2 ∧ program = shop.acceptResult ⟨2, 2, 2⟩ 5 (some 3) 1) ∨ (id = 3 ∧ program = remove 1) := by
        simpa using member
      · exact .inl ⟨_, _, _, _, rfl⟩
      · exact .inl ⟨_, _, _, _, rfl⟩
      · exact .inr (.inl ⟨1, rfl⟩)
  | advance id => trivial
  | commit id => trivial
  | abort id => trivial

theorem results_accepted_once_double_click :
    Visits (step ReviewRows.store) (fun state => state.committed = ReviewRows.store.replay shelf state.log ∧
      Reviewed shelf state.committed state.log) (State.idle shelf) doubleClick :=
  results_accepted_once shelf_consistent doubleClick_requests

end Aicos.Properties
