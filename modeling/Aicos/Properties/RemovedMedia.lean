import Aicos.Media.Service

namespace Aicos.Properties

open Aicos.Data Aicos.Extraction Aicos.Media Aicos.Transition

/-! The row of a media asset and its object.  The object goes first, from the bucket of the
client and not from that of the row, and whatever keeps the row then comes too late. -/

def RowThere (state : MediaState) (id : MediaId) : Prop :=
  ∃ row ∈ state.rows.mediaAssets, row.id = id

def ObjectThere (state : MediaState) (asset : MediaAsset) : Prop :=
  (asset.bucket, asset.objectKey) ∈ state.objects

/-- The request finds the asset, and there is a client to delete its object with. -/
def Proceeds (s3 : S3) (answers : RemoveAnswers) : Prop :=
  answers.found = .works ∧ s3.isConfigured = true

instance (s3 : S3) (answers : RemoveAnswers) : Decidable (Proceeds s3 answers) :=
  inferInstanceAs (Decidable (_ ∧ _))

/-- The store answers, no product image refers to the asset, and the row is deleted. -/
def RowGoes (s3 : S3) (state : MediaState) (asset : MediaAsset) (answers : RemoveAnswers) : Prop :=
  Proceeds s3 answers ∧ answers.object = .works ∧ answers.row ≠ .fails ∧
    ∀ image ∈ state.rows.images, image.mediaId ≠ asset.id

/-- What keeps the two together, by where the object is: what is deleted from its own bucket
takes the row with it, one elsewhere keeps its row, and a row without an object goes. -/
structure KeptTogether (s3 : S3) (state : MediaState) (asset : MediaAsset) (answers : RemoveAnswers) : Prop where
  stored : ObjectThere state asset → s3.bucket = asset.bucket → Proceeds s3 answers → answers.object ≠ .fails →
    answers.object = .works ∧ answers.row ≠ .fails ∧ ∀ image ∈ state.rows.images, image.mediaId ≠ asset.id
  elsewhere : ObjectThere state asset → s3.bucket ≠ asset.bucket → Proceeds s3 answers → answers.object = .works →
    answers.row = .fails ∨ ∃ image ∈ state.rows.images, image.mediaId = asset.id
  absent : ¬ ObjectThere state asset → RowGoes s3 state asset answers

/-- The object was never stored, or the store deletes it where it is. -/
def ObjectGone (s3 : S3) (state : MediaState) (asset : MediaAsset) (answers : RemoveAnswers) : Prop :=
  ¬ ObjectThere state asset ∨ (Proceeds s3 answers ∧ answers.object ≠ .fails ∧ s3.bucket = asset.bucket)

variable {s3 : S3} {state : MediaState} {id : MediaId} {asset : MediaAsset} {answers : RemoveAnswers}

theorem dropObject_of_notMem {object : StoredObject} {objects : List StoredObject} (missing : object ∉ objects) :
    dropObject object objects = objects := by
  refine List.filter_eq_self.mpr fun other member => decide_eq_true ?_
  rintro rfl
  exact missing member

/-- A client that is answered has deleted the object, also where it was missing. -/
theorem deleteObject_works (configured : s3.isConfigured = true) (key : String) (objects : List StoredObject) :
    s3.deleteObject .works key objects = (.ok (), dropObject (s3.bucket, key) objects) := by
  rw [S3.deleteObject, if_neg (not_not.mpr configured)]
  by_cases missing : s3.reportsMissing = true ∧ (s3.bucket, key) ∉ objects
  · rw [S3.send, if_pos missing, dropObject_of_notMem missing.2]
  · rw [S3.send, if_neg missing]

theorem deleteObject_fails (configured : s3.isConfigured = true) (key : String) (objects : List StoredObject) :
    s3.deleteObject .fails key objects = (.error .storage, objects) := by
  rw [S3.deleteObject, if_neg (not_not.mpr configured), S3.send]

theorem deleteObject_lost (configured : s3.isConfigured = true) (key : String) (objects : List StoredObject) :
    s3.deleteObject .lost key objects = (.error .storage, dropObject (s3.bucket, key) objects) := by
  rw [S3.deleteObject, if_neg (not_not.mpr configured), S3.send]

theorem deleteObject_unconfigured (configured : s3.isConfigured ≠ true) (answer : Answer) (key : String)
    (objects : List StoredObject) :
    ∃ error, s3.deleteObject answer key objects = (.error error, objects) :=
  ⟨_, by rw [S3.deleteObject, if_pos configured]⟩

theorem findAsset_spec (found : state.findAsset id = some asset) :
    asset ∈ state.rows.mediaAssets ∧ asset.id = id :=
  ⟨List.mem_of_find?_eq_some found, by simpa using List.find?_some found⟩

theorem deleteRow_rows (answer : Answer) (rows : ReviewRows) (present : ∃ row ∈ rows.mediaAssets, row.id = id) :
    (deleteRow answer id rows).2 =
      if answer ≠ .fails ∧ ∀ image ∈ rows.images, image.mediaId ≠ id then rows.deleteMedia id else rows := by
  have admitted : rows.admits (.deleteMedia id) = true ↔ ∀ image ∈ rows.images, image.mediaId ≠ id := by
    simpa [ReviewRows.admits] using fun _ => present
  unfold deleteRow
  by_cases stays : answer = .fails ∨ ¬ rows.admits (.deleteMedia id) = true
  · rw [if_pos stays, if_neg]
    intro given
    obtain ⟨took, unused⟩ := given
    exact stays.elim took fun refused => refused (admitted.mpr unused)
  · rw [if_neg stays]
    dsimp only
    rw [if_pos]
    exact ⟨fun failed => stays (.inl failed), admitted.mp (not_not.mp fun refused => stays (.inr refused))⟩

/-- What a request leaves of the rows and of the objects. -/
theorem remove_effect (s3 : S3) (answers : RemoveAnswers) (found : state.findAsset id = some asset) :
    (Media.remove s3 state id answers).2.rows =
        (if Proceeds s3 answers ∧ answers.object = .works then (deleteRow answers.row id state.rows).2 else state.rows) ∧
      (Media.remove s3 state id answers).2.objects =
        if Proceeds s3 answers ∧ answers.object ≠ .fails then dropObject (s3.bucket, asset.objectKey) state.objects
        else state.objects := by
  unfold Media.remove Proceeds
  by_cases reads : answers.found = .works
  · rw [if_neg (not_not.mpr reads), found]
    dsimp only
    by_cases configured : s3.isConfigured = true
    · cases ends : answers.object with
      | works =>
          rw [deleteObject_works configured]
          dsimp only
          rcases deleteRow answers.row id state.rows with ⟨_ | _, rows⟩ <;> simp [reads, configured]
      | fails =>
          rw [deleteObject_fails configured]
          simp
      | lost =>
          rw [deleteObject_lost configured]
          simp [reads, configured]
    · obtain ⟨error, refused⟩ := deleteObject_unconfigured configured answers.object asset.objectKey state.objects
      rw [refused]
      simp [configured]
  · rw [if_pos reads]
    simp [reads]

theorem rowThere_iff (found : state.findAsset id = some asset) :
    RowThere (Media.remove s3 state id answers).2 id ↔ ¬ RowGoes s3 state asset answers := by
  obtain ⟨member, rfl⟩ := findAsset_spec found
  rw [RowThere, (remove_effect s3 answers found).1, deleteRow_rows _ _ ⟨asset, member, rfl⟩, RowGoes]
  by_cases goes : Proceeds s3 answers ∧ answers.object = .works
  · by_cases took : answers.row ≠ .fails ∧ ∀ image ∈ state.rows.images, image.mediaId ≠ asset.id
    · rw [if_pos goes, if_pos took]
      refine iff_of_false ?_ (not_not.mpr ⟨goes.1, goes.2, took⟩)
      intro given
      obtain ⟨row, kept, same⟩ := given
      have apart := (List.mem_filter.mp kept).2
      simp [same] at apart
    · rw [if_pos goes, if_neg took]
      exact iff_of_true ⟨asset, member, rfl⟩ fun all => took all.2.2
  · rw [if_neg goes]
    exact iff_of_true ⟨asset, member, rfl⟩ fun all => goes ⟨all.1, all.2.1⟩

theorem objectThere_iff (found : state.findAsset id = some asset) :
    ObjectThere (Media.remove s3 state id answers).2 asset ↔ ¬ ObjectGone s3 state asset answers := by
  rw [ObjectThere, (remove_effect s3 answers found).2, ObjectGone, ObjectThere]
  by_cases takes : Proceeds s3 answers ∧ answers.object ≠ .fails
  · rw [if_pos takes, dropObject, List.mem_filter]
    have own : (Proceeds s3 answers ∧ answers.object ≠ .fails ∧ s3.bucket = asset.bucket) ↔ asset.bucket = s3.bucket :=
      ⟨fun all => all.2.2.symm, fun same => ⟨takes.1, takes.2, same.symm⟩⟩
    rw [own, decide_eq_true_eq, ne_eq, Prod.mk.injEq, and_iff_left rfl, not_or, not_not]
  · rw [if_neg takes]
    have never : ¬ (Proceeds s3 answers ∧ answers.object ≠ .fails ∧ s3.bucket = asset.bucket) :=
      fun all => takes ⟨all.1, all.2.1⟩
    rw [or_iff_left never, not_not]

theorem keptTogether_iff : KeptTogether s3 state asset answers ↔
    (RowGoes s3 state asset answers ↔ ObjectGone s3 state asset answers) := by
  constructor
  · intro kept
    by_cases there : ObjectThere state asset
    · constructor
      · intro given
        obtain ⟨proceeds, deleted, took, unused⟩ := given
        refine .inr ⟨proceeds, by simp [deleted], ?_⟩
        by_contra apart
        rcases kept.elsewhere there apart proceeds deleted with failed | ⟨image, shown, same⟩
        · exact took failed
        · exact unused image shown same
      · rintro (gone | ⟨proceeds, took, own⟩)
        · exact absurd there gone
        · exact ⟨proceeds, kept.stored there own proceeds took⟩
    · exact iff_of_true (kept.absent there) (.inl there)
  · intro together
    constructor
    · exact fun _ own proceeds took => (together.mpr (.inr ⟨proceeds, took, own⟩)).2
    · intro there apart proceeds deleted
      by_contra! stays
      rcases together.mp ⟨proceeds, deleted, stays⟩ with gone | ⟨_, _, own⟩
      · exact gone there
      · exact apart own
    · exact fun gone => together.mpr (.inl gone)

/-- After `remove` the row is there exactly where its object is, if and only if the request
keeps the two together. -/
theorem row_iff_object_of_remove (s3 : S3) (answers : RemoveAnswers) (found : state.findAsset id = some asset) :
    (RowThere (Media.remove s3 state id answers).2 id ↔ ObjectThere (Media.remove s3 state id answers).2 asset) ↔
      KeptTogether s3 state asset answers := by
  rw [rowThere_iff found, objectThere_iff found, not_iff_not, keptTogether_iff]

section UsedImage

def minio : S3 where
  isConfigured := true
  bucket := "aicos-media"
  reportsMissing := false

def picture : MediaAsset where
  id := 1
  type := .image
  status := .ready
  bucket := "aicos-media"
  objectKey := "acme/1.jpg"
  mimeType := none
  isTemporary := false

def showing (images : List Catalog.ProductImage) : MediaState where
  rows := { jobs := [], frames := [], results := [], reviewItems := [], mediaAssets := [picture], products := [],
            variants := [], images }
  objects := [("aicos-media", "acme/1.jpg")]

def shopWindow : MediaState :=
  showing [⟨1, 1, 1, 1, 0, none, true⟩]

def answeredThroughout : RemoveAnswers := ⟨.works, .works, .works⟩

/-- Nothing fails but the foreign key of the product image, when the object is already gone. -/
theorem row_without_object_of_used_image :
    ¬ (RowThere (Media.remove minio shopWindow 1 answeredThroughout).2 1 ↔
      ObjectThere (Media.remove minio shopWindow 1 answeredThroughout).2 picture) := by
  intro together
  have row : picture ∈ (Media.remove minio shopWindow 1 answeredThroughout).2.rows.mediaAssets := by decide
  have object : (picture.bucket, picture.objectKey) ∉ (Media.remove minio shopWindow 1 answeredThroughout).2.objects := by
    decide
  exact object (together.mp ⟨picture, row, rfl⟩)

theorem row_and_object_of_unused_image :
    (RowThere (Media.remove minio (showing []) 1 answeredThroughout).2 1 ↔
        ObjectThere (Media.remove minio (showing []) 1 answeredThroughout).2 picture) ↔
      KeptTogether minio (showing []) picture answeredThroughout :=
  row_iff_object_of_remove minio answeredThroughout rfl

end UsedImage

end Aicos.Properties
