import Aicos.Storefront.Checkout
import Mathlib.Logic.Function.Basic

namespace Aicos.Storefront

open Aicos.Commerce Aicos.Data

/-! Checkouts of one tenant next to each other, from the reading of the last
number on.  `createOrder` is the commit of the insert; until then nobody sees it,
and who waited for it on the unique number is refused. -/

inductive NumberPhase where
  | read (plan : CheckoutPlan) (number : Nat)
  | ordered (id : OrderId)

structure Numbering where
  db : Db
  requests : Nat → Option NumberPhase

inductive NumberAction where
  /-- `ORDER BY createdAt DESC LIMIT 1`; which of several latest orders comes first is open. -/
  | readLast (request : Nat) (plan : CheckoutPlan) (last : Option Order)
  /-- `now` is the clock of the server that serves the request. -/
  | createOrder (request : Nat) (id : OrderId) (firstItemId : OrderItemId) (now : Instant)
  | succeed (request : Nat) (session : CheckoutSessionId) (intent : Option PaymentIntentId)
  | rollBack (request : Nat)
  | stop (request : Nat)

def isLatest (db : Db) : Option Order → Bool
  | none => db.orders = []
  | some order => order ∈ db.orders ∧ db.orders.all fun other => other.createdAt ≤ order.createdAt

def Numbering.enter (numbering : Numbering) (request : Nat) (phase : Option NumberPhase) : Numbering :=
  { numbering with requests := Function.update numbering.requests request phase }

def Numbering.step (numbering : Numbering) : NumberAction → Numbering
  | .readLast request plan last =>
      match numbering.requests request with
      | none =>
          if isLatest numbering.db last then numbering.enter request (some (.read plan (nextNumber last))) else numbering
      | some _ => numbering
  | .createOrder request id firstItemId now =>
      match numbering.requests request with
      | some (.read plan number) =>
          match numbering.db.createOrder (draftOrder plan id firstItemId number now) with
          | .ok db => { numbering.enter request (some (.ordered id)) with db }
          | .error _ => numbering.enter request none
      | _ => numbering
  | .succeed request session intent =>
      match numbering.requests request with
      | some (.ordered id) =>
          match recordSession id session intent numbering.db with
          | .ok db => { numbering.enter request none with db }
          | .error _ => numbering
      | _ => numbering
  | .rollBack request =>
      match numbering.requests request with
      | some (.ordered id) => { numbering.enter request none with db := commit (Db.deleteOrder id) numbering.db }
      | _ => numbering
  | .stop request => numbering.enter request none

def Numbering.start (db : Db) : Numbering :=
  { db, requests := fun _ => none }

abbrev laterFirst (first second : Order) : Prop :=
  first.createdAt ≥ second.createdAt

instance : Std.Total laterFirst where
  total first second := Nat.le_total second.createdAt first.createdAt

instance : IsTrans Order laterFirst where
  trans _ _ _ one two := Nat.le_trans two one

theorem isLatest_lastOrder (db : Db) : isLatest db (lastOrder db) = true := by
  have perm := List.perm_insertionSort laterFirst db.orders
  have sorted := List.pairwise_insertionSort laterFirst db.orders
  have same : lastOrder db = (db.orders.insertionSort laterFirst).head? := rfl
  rw [same]
  cases order : db.orders.insertionSort laterFirst with
  | nil =>
      rw [order] at perm
      simpa [isLatest] using perm.symm.eq_nil
  | cons last rest =>
      rw [order] at perm sorted
      simp only [isLatest, List.head?_cons, decide_eq_true_eq, List.all_eq_true]
      refine ⟨perm.mem_iff.mp (by simp), fun other member => ?_⟩
      rcases List.mem_cons.mp (perm.mem_iff.mpr member) with rfl | later
      · exact Nat.le_refl _
      · exact (List.pairwise_cons.mp sorted).1 other later

/-- Run alone, reading and creating are the transaction of `Storefront.createOrder`. -/
theorem createOrder_alone {numbering : Numbering} {request : Nat} (idle : numbering.requests request = none)
    (plan : CheckoutPlan) (id : OrderId) (firstItemId : OrderItemId) (now : Instant) :
    ((numbering.step (.readLast request plan (lastOrder numbering.db))).step
        (.createOrder request id firstItemId now)).db =
      commit (createOrder plan id firstItemId now) numbering.db := by
  have latest := isLatest_lastOrder numbering.db
  have read : numbering.step (.readLast request plan (lastOrder numbering.db)) =
      numbering.enter request (some (.read plan (nextNumber (lastOrder numbering.db)))) := by
    simp [Numbering.step, idle, latest]
  rw [read, Numbering.step]
  simp only [Numbering.enter, Function.update_self, commit, createOrder]
  cases numbering.db.createOrder (draftOrder plan id firstItemId (nextNumber (lastOrder numbering.db)) now) <;> rfl

end Aicos.Storefront
