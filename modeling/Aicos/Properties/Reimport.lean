import Aicos.Import.Rows

namespace Aicos.Properties

open Aicos.Catalog Aicos.Data Aicos.Import Aicos.Transition
open Aicos.Commerce (TenantId)

/-! A second import of the same rows.  A row that the first one created is in the way
of itself afterwards; for one that was refused, what was in its way still is: slugs
and SKUs stay taken, and a brand name whose slug is taken by another brand gets no
brand of its own. -/

attribute [local irreducible] Import.slugify

variable {runtime : Runtime} {tenant : TenantId} {platform after : Platform} {row other : ImportRow}
  {rows : List ImportRow} {current : ImportRun}

namespace Created

theorem slugTaken (created : Created runtime tenant platform row after) :
    SlugTaken tenant after (Import.slugify runtime.toLowerCase row.title) := by
  obtain ⟨brandId, products⟩ := created.product
  exact ⟨importedProduct runtime tenant row brandId platform, by simp [products], rfl, rfl⟩

/-- What stands in a row's way before another row is created stands there afterwards. -/
theorem free_before (created : Created runtime tenant platform other after) (free : Free runtime tenant after row) :
    Free runtime tenant platform row := by
  obtain ⟨brandId, products⟩ := created.product
  refine ⟨?_, free.storable, ?_, ?_⟩
  · intro given
    obtain ⟨product, member, mine, same⟩ := given
    exact free.slug ⟨product, by simp [products, member], mine, same⟩
  · intro name named
    rcases created.brand with brands | ⟨new, _, unused, brands⟩
    · simpa [BrandNamed, BrandSlugTaken, brands] using free.brand name named
    · rcases free.brand name named with ⟨brand, member, mine, same⟩ | untaken
      · rw [brands, List.mem_append, List.mem_singleton] at member
        rcases member with old | rfl
        · exact .inl ⟨brand, old, mine, same⟩
        · obtain rfl : new = name := same
          exact .inr unused
      · refine .inr ?_
        intro given
        obtain ⟨brand, member, mine, same⟩ := given
        exact untaken ⟨brand, by simp [brands, member], mine, same⟩
  · intro given
    obtain ⟨variant, member, mine, given, same⟩ := given
    exact free.sku ⟨variant, by simp [created.variant, member], mine, given, same⟩

end Created

/-- The counts of a summary taken together. -/
def handled (summary : ImportSummary) : Nat :=
  summary.created + summary.skipped + summary.errors.length

theorem handled_step : handled (importStep runtime tenant current row).summary = handled current.summary + 1 := by
  unfold importStep
  split <;> simp only [handled, List.length_append, List.length_singleton] <;> omega

theorem handled_import : handled (importProducts runtime tenant rows platform).summary = rows.length := by
  suffices counted : ∀ current : ImportRun,
      handled (run (importStep runtime tenant) current rows).summary = handled current.summary + rows.length by
    exact (counted (.start platform)).trans (Nat.zero_add _)
  induction rows with
  | nil => simp
  | cons row rest ih =>
      intro current
      rw [run_cons, ih, handled_step, List.length_cons]
      omega

theorem rows_usedUp (runtime : Runtime) (tenant : TenantId) : UsedUp (importStep runtime tenant)
    (fun current => (current.platform, current.summary.created))
    (fun seen row => ¬ Free runtime tenant seen.1 row) where
  taken current row free := by
    by_cases before : Free runtime tenant current.platform row
    · obtain ⟨after, created, stepped⟩ := importStep_created before
      rw [stepped] at free
      exact free.slug (Created.slugTaken created)
    · rw [(importStep_refused before).1] at free
      exact before free
  kept current row other refused free := by
    by_cases before : Free runtime tenant current.platform other
    · obtain ⟨after, created, stepped⟩ := importStep_created before
      rw [stepped] at free
      exact refused (Created.free_before created free)
    · rw [(importStep_refused before).1] at free
      exact refused free
  idle current row refused := by
    rw [(importStep_refused refused).1, (importStep_refused refused).2]

/-- Importing the same rows again creates nothing and changes nothing, each row is
counted once, and a row that errors leaves nothing behind. -/
theorem reimport_changes_nothing (runtime : Runtime) (tenant : TenantId) (platform : Platform)
    (rows : List ImportRow) :
    (importProducts runtime tenant rows (importProducts runtime tenant rows platform).platform).platform =
        (importProducts runtime tenant rows platform).platform ∧
      (importProducts runtime tenant rows (importProducts runtime tenant rows platform).platform).summary.created = 0 ∧
      (∀ start, handled (importProducts runtime tenant rows start).summary = rows.length) ∧
      ∀ start earlier row error,
        (importRow runtime tenant row (importProducts runtime tenant earlier start).platform).1 = .error error →
          (importProducts runtime tenant (earlier ++ [row]) start).platform =
            (importProducts runtime tenant earlier start).platform := by
  have usedUp := rows_usedUp runtime tenant
  have refused := usedUp.run_refused (.start platform) rows
  have idle := usedUp.run_idle (.start (importProducts runtime tenant rows platform).platform) rows refused
  refine ⟨congrArg Prod.fst idle, congrArg Prod.snd idle, fun _ => handled_import, ?_⟩
  intro start earlier row error failed
  have stepped := congrArg ImportRun.platform (importStep_error failed)
  rwa [importProducts, run_append]

end Aicos.Properties
