import Mathlib.Data.Fintype.Pigeonhole
import Mathlib.Data.Set.Finite.Basic
import Mathlib.Logic.Function.Basic
import Mathlib.Logic.Relation
import Mathlib.Order.WellFounded

namespace Aicos.Data

open Relation

/-! Rows that name their parent.  A node moves to another parent by one update, and
the only thing that can close a cycle is a parent from below the node itself. -/

variable {α : Type*} (parent : α → Option α)

def Up (lower upper : α) : Prop :=
  parent lower = some upper

/-- The node itself or one that its parents lead to. -/
def Reaches : α → α → Prop :=
  ReflTransGen (Up parent)

def Acyclic : Prop :=
  ∀ node, ¬ TransGen (Up parent) node node

variable {parent} [DecidableEq α] {node : α} {above : Option α}

theorem up_update {lower upper : α} :
    Up (Function.update parent node above) lower upper ↔
      (lower = node ∧ above = some upper) ∨ (lower ≠ node ∧ Up parent lower upper) := by
  by_cases same : lower = node
  · subst same
    simp [Up]
  · simp [Up, same]

/-- Paths that start beside the node keep off it, so the update does not matter to them. -/
theorem reaches_of_update {lower upper : α} (beside : ¬ Reaches parent lower node)
    (path : Reaches (Function.update parent node above) lower upper) : Reaches parent lower upper := by
  induction path with
  | refl => exact ReflTransGen.refl
  | tail _ step ih =>
      rcases up_update.mp step with ⟨rfl, _⟩ | ⟨_, up⟩
      · exact absurd ih beside
      · exact ih.tail up

theorem reaches_update_node {lower : α} (path : Reaches parent lower node) :
    Reaches (Function.update parent node above) lower node := by
  induction path using ReflTransGen.head_induction_on with
  | refl => exact ReflTransGen.refl
  | @head first second step _ ih =>
      by_cases same : first = node
      · rw [same]
        exact ReflTransGen.refl
      · exact ih.head (up_update.mpr (.inr ⟨same, step⟩))

/-- A path after the update is one before it, or goes through the node and its new parent. -/
theorem transGen_update {lower upper : α} (path : TransGen (Up (Function.update parent node above)) lower upper) :
    TransGen (Up parent) lower upper ∨
      ∃ next ∈ above, Reaches (Function.update parent node above) lower node ∧
        Reaches (Function.update parent node above) next upper := by
  induction path with
  | single step =>
      rcases up_update.mp step with ⟨rfl, moved⟩ | ⟨_, up⟩
      · exact .inr ⟨_, moved, ReflTransGen.refl, ReflTransGen.refl⟩
      · exact .inl (TransGen.single up)
  | tail path step ih =>
      rcases ih with path' | ⟨next, moved, before, after⟩
      · rcases up_update.mp step with ⟨rfl, moved⟩ | ⟨_, up⟩
        · exact .inr ⟨_, moved, path.to_reflTransGen, ReflTransGen.refl⟩
        · exact .inl (path'.tail up)
      · exact .inr ⟨next, moved, before, after.tail step⟩

theorem acyclic_update_iff (acyclic : Acyclic parent) :
    Acyclic (Function.update parent node above) ↔ ∀ next ∈ above, ¬ Reaches parent next node := by
  constructor
  · intro moved next named path
    have back := up_update.mpr
      (.inl ⟨rfl, named⟩ : (node = node ∧ above = some next) ∨ (node ≠ node ∧ Up parent node next))
    exact moved node (TransGen.head' back (reaches_update_node path))
  · intro beside start cycle
    rcases transGen_update cycle with path | ⟨next, moved, before, after⟩
    · exact acyclic start path
    · exact beside next moved (reaches_of_update (beside next moved) (after.trans before))

omit [DecidableEq α]

/-- Among finitely many nodes, the parents of each are visited before it. -/
theorem Acyclic.induction {nodes : List α} {motive : α → Prop} (acyclic : Acyclic parent)
    (step : ∀ node ∈ nodes, (∀ upper ∈ nodes, Up parent node upper → motive upper) → motive node) :
    ∀ node ∈ nodes, motive node := by
  let Below (upper lower : { node // node ∈ nodes }) : Prop := TransGen (Up parent) lower.1 upper.1
  have finite : Finite { node // node ∈ nodes } := (List.finite_toSet nodes).to_subtype
  have irreflexive : Std.Irrefl Below := ⟨fun node => acyclic node.1⟩
  have transitive : IsTrans { node // node ∈ nodes } Below := ⟨fun _ _ _ first second => second.trans first⟩
  have founded : WellFounded Below := Finite.wellFounded_of_trans_of_irrefl Below
  intro node member
  induction hnode : (⟨node, member⟩ : { node // node ∈ nodes }) using founded.induction generalizing node with
  | _ current ih =>
      subst hnode
      exact step node member fun upper there up => ih ⟨upper, there⟩ (TransGen.single up) upper there rfl

section Ancestors

variable (parent) in
/-- The node that so many parents lead to. -/
def ancestor : Nat → α → Option α
  | 0, node => some node
  | steps + 1, node => (parent node).bind (ancestor steps)

variable (parent) in
/-- Following the parents comes to a node without one. -/
inductive Ends : α → Prop where
  | top {node : α} (last : parent node = none) : Ends node
  | up {node upper : α} (up : Up parent node upper) (ends : Ends upper) : Ends node

variable (parent) in
def RunsIntoCycle (node : α) : Prop :=
  ∃ upper, Reaches parent node upper ∧ TransGen (Up parent) upper upper

variable {node upper top : α} {steps more : Nat}

variable (parent) in
theorem ancestor_add (steps more : Nat) (node : α) :
    ancestor parent (steps + more) node = (ancestor parent steps node).bind (ancestor parent more) := by
  induction steps generalizing node with
  | zero =>
      rw [Nat.zero_add, ancestor]
      rfl
  | succ steps ih =>
      rw [Nat.succ_add, ancestor, ancestor, Option.bind_assoc]
      exact congrArg _ (funext ih)

theorem ancestor_succ (steps : Nat) (node : α) :
    ancestor parent (steps + 1) node = (ancestor parent steps node).bind parent := by
  have one : ancestor parent 1 = parent := by
    funext node
    rw [ancestor]
    exact Option.bind_fun_some _
  rw [ancestor_add, one]

theorem ancestor_succ_of_top (found : ancestor parent steps node = some top) (last : parent top = none) :
    ancestor parent (steps + 1 + more) node = none := by
  rw [Nat.add_assoc, ancestor_add, found, Option.bind_some, Nat.add_comm, ancestor, last]
  rfl

/-- The way up ends at one height. -/
theorem top_height_unique {other : α} (first : ancestor parent steps node = some top) (firstTop : parent top = none)
    (second : ancestor parent more node = some other) (secondTop : parent other = none) : steps = more := by
  rcases Nat.lt_trichotomy steps more with lower | same | higher
  · obtain ⟨rest, rfl⟩ := Nat.exists_eq_add_of_lt lower
    rw [show steps + rest + 1 = steps + 1 + rest by omega, ancestor_succ_of_top first firstTop] at second
    cases second
  · exact same
  · obtain ⟨rest, rfl⟩ := Nat.exists_eq_add_of_lt higher
    rw [show more + rest + 1 = more + 1 + rest by omega, ancestor_succ_of_top second secondTop] at first
    cases first

theorem ends_iff : Ends parent node ↔ ∃ steps top, ancestor parent steps node = some top ∧ parent top = none := by
  constructor
  · intro ends
    induction ends with
    | @top node none => exact ⟨0, node, rfl, none⟩
    | up up _ ih =>
        obtain ⟨steps, top, found, none⟩ := ih
        exact ⟨steps + 1, top, by rw [ancestor, up, Option.bind_some, found], none⟩
  · rintro ⟨steps, top, found, none⟩
    induction steps generalizing node with
    | zero =>
        obtain rfl := Option.some.inj found
        exact .top none
    | succ steps ih =>
        obtain ⟨upper, up, rest⟩ := Option.bind_eq_some_iff.mp found
        exact .up up (ih rest)

theorem reaches_of_ancestor (found : ancestor parent steps node = some upper) : Reaches parent node upper := by
  induction steps generalizing node with
  | zero =>
      obtain rfl := Option.some.inj found
      exact ReflTransGen.refl
  | succ steps ih =>
      obtain ⟨next, up, rest⟩ := Option.bind_eq_some_iff.mp found
      exact (ih rest).head up

theorem not_runsIntoCycle (ends : Ends parent node) : ¬ RunsIntoCycle parent node := by
  induction ends with
  | @top node none =>
      -- nothing is above a top, so the cycle would start at the top itself
      intro given
      obtain ⟨upper, path, cycle⟩ := given
      have no (next : α) : ¬ Up parent node next := fun up => by
        rw [Up, none] at up
        cases up
      rcases ReflTransGen.cases_head path with rfl | ⟨next, up, -⟩
      · obtain ⟨next, up, -⟩ := TransGen.head'_iff.mp cycle
        exact no next up
      · exact no next up
  | @up node above up _ ih =>
      intro given
      obtain ⟨upper, path, cycle⟩ := given
      have only {next : α} (other : Up parent node next) : next = above := Option.some.inj (other.symm.trans up)
      rcases ReflTransGen.cases_head path with rfl | ⟨next, other, rest⟩
      · obtain ⟨next, other, rest⟩ := TransGen.head'_iff.mp cycle
        obtain rfl := only other
        exact ih ⟨node, rest, cycle⟩
      · obtain rfl := only other
        exact ih ⟨upper, rest, cycle⟩

variable {nodes : List α} (closed : ∀ node ∈ nodes, ∀ upper, Up parent node upper → upper ∈ nodes)
include closed

theorem mem_of_ancestor (member : node ∈ nodes) (found : ancestor parent steps node = some upper) : upper ∈ nodes := by
  induction steps generalizing node with
  | zero =>
      obtain rfl := Option.some.inj found
      exact member
  | succ steps ih =>
      obtain ⟨next, up, rest⟩ := Option.bind_eq_some_iff.mp found
      exact ih (closed node member next up) rest

/-- Among finitely many nodes a way up that does not end comes back to a node. -/
theorem ends_or_runsIntoCycle (member : node ∈ nodes) : Ends parent node ∨ RunsIntoCycle parent node := by
  by_cases ended : ∃ steps, ancestor parent steps node = none
  · classical
    have least := Nat.find_spec ended
    cases first : Nat.find ended with
    | zero =>
        rw [first] at least
        cases least
    | succ steps =>
        have before : ancestor parent steps node ≠ none := Nat.find_min ended (by omega)
        obtain ⟨top, found⟩ := Option.ne_none_iff_exists'.mp before
        rw [first, ancestor_succ, found, Option.bind_some] at least
        exact .inl (ends_iff.mpr ⟨steps, top, found, least⟩)
  · have always (steps : Nat) : ∃ upper, ancestor parent steps node = some upper :=
      Option.ne_none_iff_exists'.mp fun none => ended ⟨steps, none⟩
    choose way found using always
    have finite : Finite { node // node ∈ nodes } := (List.finite_toSet nodes).to_subtype
    obtain ⟨low, high, apart, mapped⟩ := Finite.exists_ne_map_eq_of_infinite
      fun steps => (⟨way steps, mem_of_ancestor closed member (found steps)⟩ : { node // node ∈ nodes })
    have same : way low = way high := congrArg Subtype.val mapped
    clear mapped
    wlog lt : low < high generalizing low high
    · exact this high low apart.symm same.symm (by omega)
    · obtain ⟨rest, rfl⟩ := Nat.exists_eq_add_of_lt lt
      have again := found (low + rest + 1)
      rw [show low + rest + 1 = low + (1 + rest) by omega, ancestor_add, found low, Option.bind_some, Nat.add_comm,
        ancestor] at again
      obtain ⟨next, up, path⟩ := Option.bind_eq_some_iff.mp again
      refine .inr ⟨way low, reaches_of_ancestor (found low), ?_⟩
      have back := reaches_of_ancestor path
      rw [show low + (rest + 1) = low + rest + 1 by omega, ← same] at back
      exact TransGen.head' up back

theorem ends_iff_not_runsIntoCycle (member : node ∈ nodes) : Ends parent node ↔ ¬ RunsIntoCycle parent node :=
  ⟨not_runsIntoCycle, fun free => (ends_or_runsIntoCycle closed member).resolve_right free⟩

/-- The nodes on the way up to a top are different, so there are no more of them than nodes. -/
theorem height_lt_length (member : node ∈ nodes) (found : ancestor parent steps node = some top)
    (none : parent top = none) : steps < nodes.length := by
  have reached (height : Fin (steps + 1)) : ∃ upper, ancestor parent height node = some upper := by
    have split := ancestor_add parent height (steps - height) node
    rw [show (height : Nat) + (steps - height) = steps by omega, found] at split
    obtain ⟨upper, there, -⟩ := Option.bind_eq_some_iff.mp split.symm
    exact ⟨upper, there⟩
  choose way there using reached
  have distinct : (List.ofFn way).Nodup := by
    rw [List.nodup_ofFn]
    intro low high same
    have rest (height : Fin (steps + 1)) : ancestor parent (steps - height) (way height) = some top := by
      have split := ancestor_add parent height (steps - height) node
      rw [show (height : Nat) + (steps - height) = steps by omega, found, there height] at split
      exact split.symm
    have lowRest := rest low
    rw [same] at lowRest
    have level := top_height_unique lowRest none (rest high) none
    exact Fin.ext (by omega)
  have subset : List.ofFn way ⊆ nodes := by
    intro upper listed
    obtain ⟨height, rfl⟩ := (List.mem_ofFn' way upper).mp listed
    exact mem_of_ancestor closed member (there height)
  have size := (List.subperm_of_subset distinct subset).length_le
  rw [List.length_ofFn] at size
  omega

end Ancestors

end Aicos.Data
