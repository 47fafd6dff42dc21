import Aicos.Search.Writes
import Aicos.Transition.Run

namespace Aicos.Properties

open Aicos.Catalog Aicos.Data Aicos.Search Aicos.Transition
open Aicos.Commerce (TenantId Instant bind_eq_ok)

/-! The index against the catalogue, over any interleaving.  A sync that read early and
writes late undoes what a later one wrote, and no sync follows the name of a brand;
as long as neither happens to a document that nothing else will write, the index is
right whenever no request is under way. -/

/-- The catalogue as the source, the index as its copy, and the indexer's calls. -/
def indexMirror (fixed : Fixed) (state : Search.State) : Mirror ProductId ProductDoc RequestId where
  truth := docOf fixed state.platform
  copy := state.index
  calls := fun request => (state.calls request).bind fun call => call.phase.sync?

/-- The index holds the document of every product, and none for a removed one. -/
def IndexInStep (fixed : Fixed) (state : Search.State) : Prop :=
  ∀ id, state.index id = docOf fixed state.platform id

/-- A document written is that of the rows at this moment, or another call is still to
write that; a brand that gets another name has a call still to read each of its products. -/
def KeepsCourse (fixed : Fixed) (state : Search.State) : SearchAction → Prop
  | .begin _ _ _ => True
  | .advance request =>
      match state.calls request with
      | some ⟨tenant, .checked write⟩ => ∀ after, write.run tenant state.platform = .ok after →
          ∀ id, write.Renames tenant state.platform id → (indexMirror fixed state).Awaited id
      | some ⟨_, .syncing (.writing id doc)⟩ =>
          doc = docOf fixed state.platform id ∨ (indexMirror fixed state).Covered request id
      | _ => True

/-- The requests know their rows. -/
structure RowsKnown (state : Search.State) : Prop where
  owned : VariantsOwned state.platform
  calls : ∀ request call, state.calls request = some call → call.phase.Placed call.tenant state.platform

variable {fixed : Fixed} {nfkd : String → String} {tenant : TenantId} {state : Search.State} {request : RequestId}

theorem mirror_enter (call : Option Call) : indexMirror fixed (state.enter request call) =
    { indexMirror fixed state with
      calls := Function.update (indexMirror fixed state).calls request (call.bind fun call => call.phase.sync?) } := by
  simp only [indexMirror, State.enter, Mirror.mk.injEq, true_and]
  funext other
  by_cases same : other = request
  · subst same
    simp
  · simp [same]

theorem mirror_enter_same {call : Option Call}
    (same : (call.bind fun call => call.phase.sync?) = (indexMirror fixed state).calls request) :
    indexMirror fixed (state.enter request call) = indexMirror fixed state := by
  rw [mirror_enter, same, Function.update_eq_self]

theorem check_placed {platform : Platform} {body : IndexedRequest} {write : CatalogWrite}
    (checked : check nfkd tenant platform body = .ok write) : (Phase.checked write).Placed tenant platform := by
  have product {id : ProductId} {row : Product} (found : assertProductExists tenant platform id = .ok row) :
      platform.products.ownerOf id = some tenant := by
    obtain ⟨shown, _⟩ := assertProductExists_ok.mp found
    exact Table.ownerOf_eq_some.mpr ⟨row, Table.visible_eq_some.mp shown⟩
  have variant {id : ProductId} {row : Variant} (found : assertVariantExists tenant platform id = .ok row) :
      placeOf platform id = some (row.productId, tenant) := by
    obtain ⟨shown, _⟩ := Option.filter_eq_some_iff.mp (orThrow_ok.mp found)
    obtain ⟨held, mine⟩ := Table.visible_eq_some.mp shown
    exact placeOf_some.mpr ⟨row, held, rfl, mine⟩
  cases body with
  | createProduct id dto =>
      cases checked
      trivial
  | createVariant id productId dto =>
      obtain ⟨row, found, returned⟩ := bind_eq_ok.mp checked
      cases returned
      exact product found
  | updateVariant id dto =>
      obtain ⟨row, found, returned⟩ := bind_eq_ok.mp checked
      cases returned
      exact variant found
  | removeVariant id now =>
      obtain ⟨row, found, returned⟩ := bind_eq_ok.mp checked
      cases returned
      exact variant found
  | _ =>
      obtain ⟨row, found, returned⟩ := bind_eq_ok.mp checked
      cases returned
      trivial

theorem RowsKnown.enter {platform : Platform} {index : ProductId → Option ProductDoc} {call : Option Call}
    (known : RowsKnown state) (owned : VariantsOwned platform) (persists : Persists state.platform platform)
    (placed : ∀ entered ∈ call, entered.phase.Placed entered.tenant platform) :
    RowsKnown (State.enter { state with platform := platform, index := index } request call) := by
  refine ⟨owned, fun other held there => ?_⟩
  by_cases same : other = request
  · subst same
    exact placed held (by simpa [State.enter] using there)
  · exact persists.placed (known.calls other held (by simpa [State.enter, same] using there))

theorem RowsKnown.step (known : RowsKnown state) (action : SearchAction) :
    RowsKnown (state.step fixed nfkd action) := by
  cases action with
  | begin request tenant body =>
      simp only [State.step]
      split
      · rename_i write free checked
        refine known.enter known.owned (.refl _) ?_
        rintro _ ⟨⟩
        exact check_placed checked
      · exact known
  | advance request =>
      simp only [State.step]
      split
      · exact known
      · rename_i tenant write there
        rw [State.commit]
        split
        · rename_i after ran
          have effect : Effect fixed tenant write state.platform after :=
            CatalogWrite.effect (known.calls request _ there) known.owned ran
          refine known.enter (effect.owned known.owned) effect.persists fun entered follows => ?_
          obtain ⟨sync, named, rfl⟩ := Option.mem_map.mp follows
          exact effect.follow sync named
        · exact known.enter known.owned (.refl _) (by simp)
      · rename_i tenant sync there
        cases sync with
        | reading id =>
            refine known.enter known.owned (.refl _) ?_
            rintro _ ⟨⟩
            trivial
        | writing id doc => exact known.enter known.owned (.refl _) (by simp)

/-- Every guarded step is one that keeps the mirror on course, or one it does not see. -/
theorem step_moves (known : RowsKnown state) {action : SearchAction} (keeps : KeepsCourse fixed state action) :
    indexMirror fixed (state.step fixed nfkd action) = indexMirror fixed state ∨
      (indexMirror fixed state).Moves (indexMirror fixed (state.step fixed nfkd action)) := by
  cases action with
  | begin request tenant body =>
      simp only [State.step]
      split
      · rename_i write free checked
        refine .inl (mirror_enter_same ?_)
        simp [indexMirror, free, Phase.sync?]
      · exact .inl rfl
  | advance request =>
      simp only [State.step]
      simp only [KeepsCourse] at keeps
      split
      · exact .inl rfl
      · rename_i tenant write there
        rw [there] at keeps
        have idle : (indexMirror fixed state).calls request = none := by simp [indexMirror, there, Phase.sync?]
        rw [State.commit]
        split
        · rename_i after ran
          have effect : Effect fixed tenant write state.platform after :=
            CatalogWrite.effect (known.calls request _ there) known.owned ran
          have next : (write.follow.map fun sync => (⟨tenant, .syncing sync⟩ : Call)).bind
              (fun call => call.phase.sync?) = write.follow := by
            cases write.follow <;> rfl
          rw [mirror_enter, next]
          refine .inr (.change idle fun id => (effect.docs id).imp_right fun changed => ?_)
          exact changed.imp_right fun renames => keeps after ran id renames
        · exact .inl (mirror_enter_same idle.symm)
      · rename_i tenant sync there
        rw [there] at keeps
        cases sync with
        | reading id =>
            have reads : (indexMirror fixed state).calls request = some (.reading id) := by
              simp [indexMirror, there, Phase.sync?]
            have owner : state.platform.products.ownerOf id = some tenant := known.calls request _ there
            rw [State.sync, mirror_enter, readDoc_of_owner owner]
            exact .inr (.read reads)
        | writing id doc =>
            have writes : (indexMirror fixed state).calls request = some (.writing id doc) := by
              simp [indexMirror, there, Phase.sync?]
            rw [State.sync, mirror_enter]
            exact .inr (.write writes keeps)

theorem onCourse_of_inStep (inStep : IndexInStep fixed state) (id : ProductId) : (indexMirror fixed state).OnCourse id :=
  .inl (inStep id)

theorem inStep_of_onCourse (quiet : state.Quiet) (course : ∀ id, (indexMirror fixed state).OnCourse id) :
    IndexInStep fixed state := by
  intro id
  refine (course id).settled fun request => ?_
  simp [indexMirror, quiet request]

/-- Whenever no request is under way, the index holds exactly the documents of the
products, as long as every step keeps them on course. -/
theorem index_in_step_of_keeps_course (owned : VariantsOwned state.platform) (quiet : state.Quiet)
    (inStep : IndexInStep fixed state) {actions : List SearchAction}
    (along : Along (State.step fixed nfkd) (KeepsCourse fixed) state actions) :
    Visits (State.step fixed nfkd) (fun state => state.Quiet → IndexInStep fixed state) state actions := by
  have known : RowsKnown state := ⟨owned, fun request call there => absurd there (by simp [quiet request])⟩
  have kept (state : Search.State) (action : SearchAction)
      (good : RowsKnown state ∧ ∀ id, (indexMirror fixed state).OnCourse id) (keeps : KeepsCourse fixed state action) :
      RowsKnown (state.step fixed nfkd action) ∧
        ∀ id, (indexMirror fixed (state.step fixed nfkd action)).OnCourse id := by
    refine ⟨good.1.step action, ?_⟩
    have moved : indexMirror fixed (state.step fixed nfkd action) = indexMirror fixed state ∨
        (indexMirror fixed state).Moves (indexMirror fixed (state.step fixed nfkd action)) := step_moves good.1 keeps
    rcases moved with same | moves
    · rw [same]
      exact good.2
    · exact moves.onCourse good.2
  have visits := visits_of_along kept ⟨known, onCourse_of_inStep inStep⟩ along
  exact visits.mono fun _ good quiet => inStep_of_onCourse quiet good.2

def acmeTea : Product where
  id := 1
  tenantId := 1
  storeId := none
  brandId := some 1
  title := "Tea"
  slug := "tea"
  description := none
  type := .physical
  status := .draft
  seoTitle := none
  seoDescription := none
  primaryImageId := none
  searchKeywords := none
  publishedAt := none
  deletedAt := none

def noCategories : Fixed where
  createdAt := fun _ => 0
  categories := fun _ => []

/-- One product of one brand, and the index in step with it. -/
def acmeShop : Search.State where
  platform := { emptyShop with
    brands := Table.empty.insert ⟨1, 1, "Acme", "acme", none⟩
    products := Table.empty.insert acmeTea }
  index := fun id => docOf noCategories { emptyShop with
    brands := Table.empty.insert ⟨1, 1, "Acme", "acme", none⟩
    products := Table.empty.insert acmeTea } id
  calls := fun _ => none

def renameAcme : List SearchAction :=
  [.begin 1 1 (.updateBrand 1 ⟨some "Zenith", none, none⟩), .advance 1]

/-- The brand has another name, and the index keeps the old one. -/
theorem brand_name_outlives_rename :
    ¬ ∀ fixed nfkd (state : Search.State) actions, VariantsOwned state.platform → state.Quiet → IndexInStep fixed state →
      Visits (State.step fixed nfkd) (fun state => state.Quiet → IndexInStep fixed state) state actions := by
  intro always
  have visits := always noCategories id acmeShop renameAcme (by simp [VariantsOwned, acmeShop, emptyShop, Table.empty])
    (fun _ => rfl) fun _ => rfl
  have quiet : (run (State.step noCategories id) acmeShop renameAcme).Quiet := by
    intro request
    by_cases first : request = 1
    · subst first
      rfl
    · exact (Function.update_of_ne first _ _).trans (Function.update_of_ne first _ _)
  have stale : (run (State.step noCategories id) acmeShop renameAcme).index 1 ≠
      docOf noCategories (run (State.step noCategories id) acmeShop renameAcme).platform 1 := by decide
  exact stale (visits.last quiet 1)

/-- A sync that read the product before its removal writes it back. -/
example : (run (State.step noCategories id) acmeShop
    [.begin 1 1 (.publishProduct 1 7), .advance 1, .advance 1, .begin 2 1 (.removeProduct 1 8), .advance 2, .advance 2,
      .advance 1]).index 1 ≠ none := by decide

theorem index_in_step_after_publish :
    Visits (State.step noCategories id) (fun state => state.Quiet → IndexInStep noCategories state) acmeShop
      [.begin 1 1 (.publishProduct 1 7), .advance 1, .advance 1, .advance 1] :=
  index_in_step_of_keeps_course (by simp [VariantsOwned, acmeShop, emptyShop, Table.empty]) (fun _ => rfl) (fun _ => rfl)
    ⟨trivial, fun _ _ _ renames => renames.elim, trivial, .inl rfl, trivial⟩

end Aicos.Properties
