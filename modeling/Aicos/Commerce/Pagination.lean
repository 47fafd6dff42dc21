import Aicos.Data.Paging

namespace Aicos.Commerce

open Aicos.Data

/-! `PaginationDto`, and the `findMany` with `skip` and `take` beside a `count` that every
list endpoint is. -/

/-- The query of a list endpoint as it passes validation. -/
structure PaginationDto where
  page : Nat
  pageSize : Nat
  counted : 1 ≤ page
  sized : 1 ≤ pageSize ∧ pageSize ≤ 100

def PaginationDto.skip (query : PaginationDto) : Nat :=
  (query.page - 1) * query.pageSize

def PaginationDto.take (query : PaginationDto) : Nat :=
  query.pageSize

structure PaginatedResult (α : Type) where
  items : List α
  page : Nat
  pageSize : Nat
  total : Nat
deriving DecidableEq

/-- `rows` are those of the `where`, as the database orders them for this query. -/
def paginate {α β : Type} (query : PaginationDto) (rows : List α) (render : α → β) : PaginatedResult β where
  items := ((rows.drop query.skip).take query.take).map render
  page := query.page
  pageSize := query.pageSize
  total := rows.length

/-- An answer of `ORDER BY key DESC`: the rows in an order in which no key rises, and rows
of equal keys in any. -/
structure Descending {α β : Type} [LE β] (key : α → β) (rows listed : List α) : Prop where
  perm : listed.Perm rows
  sorted : listed.Pairwise fun first second => key second ≤ key first

/-- Rows of different keys are listed in one way. -/
theorem Descending.unique {α β : Type} [PartialOrder β] {key : α → β} {rows listed other : List α}
    (apart : (rows.map key).Nodup) (here : Descending key rows listed) (there : Descending key rows other) :
    listed = other := by
  refine List.Perm.eq_of_pairwise ?_ here.sorted there.sorted (here.perm.trans there.perm.symm)
  intro first second inListed inOther below above
  exact List.inj_on_of_nodup_map apart (here.perm.mem_iff.mp inListed) (there.perm.mem_iff.mp inOther)
    (le_antisymm above below)

/-- The request for the page after `index` others. -/
def pageAfter (size : Nat) (sized : 1 ≤ size ∧ size ≤ 100) (index : Nat) : PaginationDto where
  page := index + 1
  pageSize := size
  counted := Nat.succ_pos index
  sized := sized

theorem paginate_items {α β : Type} (query : PaginationDto) (rows : List α) (render : α → β) :
    (paginate query rows render).items = (page query.pageSize query.page rows).map render := rfl

end Aicos.Commerce
