import Aicos.Properties.ShelfSales

namespace Aicos.Properties

open Aicos.Commerce Aicos.Billing Aicos.Data Aicos.Inventory Aicos.Storefront Aicos.Transition

/-! One cart, one paid order.

"Cart already checked out" reads `convertedOrderId`, which a payment writes; so
a cart may have several open sessions, each with an order of its own. -/

def paidWith (token : CartToken) (paid : List PaidOrder) : List PaidOrder :=
  paid.filter fun order => order.cartToken = some token

def PaidOnce (token : CartToken) (shop : Shop) : Prop :=
  (paidWith token shop.paid).length ≤ 1

/-- A payment that settles an order of the cart finds the cart unconverted. -/
def FindsOpenCart (token : CartToken) (shop : Shop) : ShopAction → Prop
  | .deliver session _ _ =>
      ∀ order, settledBy session shop = some order → session.metadata.bind (·.cartToken) = some token →
        cartStatus token shop.db = some none
  | _ => True

/-- A cart with a checkout is open until the first of its orders is paid, and
converted from then on. -/
structure CartBooks (token : CartToken) (shop : Shop) : Prop where
  keyed : ItemsKeyed shop.db.stock
  unpaid : InCheckout token shop → paidWith token shop.paid = [] → cartStatus token shop.db = some none
  paid : paidWith token shop.paid ≠ [] → ∃ order, cartStatus token shop.db = some (some order)

theorem CartBooks.of_idle {token : CartToken} {shop : Shop} {action : ShopAction} (books : CartBooks token shop)
    (idle : Idle shop (shop.step action)) : CartBooks token (shop.step action) := by
  constructor
  · rw [idle.db.stock]
    exact books.keyed
  · intro carries none
    rw [idle.paid] at none
    apply idle.db.status
    rcases step_inCheckout carries with before | there
    · exact books.unpaid before none
    · exact there
  · intro some
    rw [idle.paid] at some
    obtain ⟨order, converted⟩ := books.paid some
    exact ⟨order, idle.db.status _ _ converted⟩

theorem paidWith_concat {token other : CartToken} {paid : List PaidOrder} {orderId : OrderId}
    {items : List OrderItem} {oversold : List Shortfall} :
    paidWith token (paid ++ [{ orderId, cartToken := some other, items, oversold }]) =
      paidWith token paid ++
        if other = token then [{ orderId, cartToken := some other, items, oversold }] else [] := by
  by_cases mine : other = token <;> simp [paidWith, mine]

theorem CartBooks.known {token : CartToken} {shop : Shop} (books : CartBooks token shop)
    (carries : InCheckout token shop) : ∃ converted, cartStatus token shop.db = some converted := by
  by_cases none : paidWith token shop.paid = []
  · exact ⟨_, books.unpaid carries none⟩
  · obtain ⟨order, converted⟩ := books.paid none
    exact ⟨_, converted⟩

theorem CartBooks.deliver {token : CartToken} {shop : Shop} {session : CheckoutSessionObj} (id : PaymentId)
    (now : Instant) (books : CartBooks token shop) : CartBooks token (shop.deliver session id now) := by
  cases settled : settledBy session shop with
  | none =>
      rw [deliver_idle id now books.keyed settled]
      exact books
  | some order =>
      obtain ⟨oversold, stock, other, served, carries, _, delivered⟩ := deliver_settles id now books.keyed settled
      rw [delivered]
      have keyed : ItemsKeyed stock := by
        rw [ItemsKeyed, served.ids]
        exact books.keyed
      by_cases mine : other = token
      · -- the first payment converts the cart, a later one leaves it converted
        subst mine
        obtain ⟨converted, before⟩ := books.known carries
        constructor
        · exact keyed
        · intro _ none
          simp [paidWith_concat] at none
        · intro _
          cases converted with
          | none => exact ⟨order.id, by simp [cartStatus_settledRows before]⟩
          | some first => exact ⟨first, by simp [cartStatus_settledRows before]⟩
      · constructor
        · exact keyed
        · intro carries none
          rw [paidWith_concat, if_neg mine, List.append_nil] at none
          have before := books.unpaid carries none
          simp [cartStatus_settledRows before, Ne.symm mine]
        · intro some
          rw [paidWith_concat, if_neg mine, List.append_nil] at some
          obtain ⟨first, before⟩ := books.paid some
          exact ⟨first, by simp [cartStatus_settledRows before, Ne.symm mine]⟩

theorem CartBooks.step {token : CartToken} {shop : Shop} (action : ShopAction) (books : CartBooks token shop) :
    CartBooks token (shop.step action) := by
  cases action with
  | deliver session id now => exact books.deliver id now
  | _ => exact books.of_idle (step_idle shop (by simp))

/-- One action leaves a cart with one paid order at most exactly when, if it
settles an order of the cart, it finds the cart open. -/
theorem paidOnce_step_iff {token : CartToken} {shop : Shop} (action : ShopAction) (books : CartBooks token shop)
    (once : PaidOnce token shop) : PaidOnce token (shop.step action) ↔ FindsOpenCart token shop action := by
  cases action with
  | deliver session id now =>
      show PaidOnce token (shop.deliver session id now) ↔ _
      cases settled : settledBy session shop with
      | none =>
          rw [deliver_idle id now books.keyed settled]
          simp [FindsOpenCart, settled, once]
      | some order =>
          obtain ⟨oversold, stock, other, served, carries, carried, delivered⟩ :=
            deliver_settles id now books.keyed settled
          simp only [FindsOpenCart, settled, carried, Option.some.injEq, forall_eq']
          rw [delivered, PaidOnce, paidWith_concat, List.length_append]
          by_cases mine : other = token
          · subst mine
            simp only [if_true, List.length_singleton, forall_const]
            constructor
            · intro one
              exact books.unpaid carries (List.eq_nil_of_length_eq_zero (by omega))
            · intro unconverted
              have none : paidWith other shop.paid = [] := by
                by_contra some
                obtain ⟨order, converted⟩ := books.paid some
                rw [unconverted] at converted
                cases converted
              rw [none]
              exact Nat.le_refl 1
          · rw [if_neg mine]
            simp only [List.length_nil, Nat.add_zero, mine, false_implies, iff_true]
            exact once
  | _ =>
      simp only [FindsOpenCart, iff_true, PaidOnce]
      rw [(step_idle shop (by simp)).paid]
      exact once

theorem cartBooks_start {token : CartToken} {db : Db} (keyed : ItemsKeyed db.stock) :
    CartBooks token (Shop.start db) := by
  constructor
  · exact keyed
  · intro carries
    simp [InCheckout, Shop.start] at carries
  · simp [Shop.start, paidWith]

/-- A cart has one paid order at most, in every state of a run, exactly when
every payment for it finds the cart open. -/
theorem paid_once_iff_finds_open_cart {token : CartToken} {db : Db} (keyed : ItemsKeyed db.stock)
    {actions : List ShopAction} :
    Visits Shop.step (PaidOnce token) (Shop.start db) actions ↔
      Along Shop.step (FindsOpenCart token) (Shop.start db) actions := by
  have framed : ∀ shop action, True → CartBooks token shop → CartBooks token (shop.step action) :=
    fun _ action _ books => books.step action
  have nothing : PaidOnce token (Shop.start db) := by simp [PaidOnce, Shop.start, paidWith]
  exact visits_iff_along framed (fun _ action _ books once => paidOnce_step_iff action books once)
    (fun _ _ => trivial) (cartBooks_start keyed) nothing

instance (token : CartToken) (shop : Shop) : Decidable (PaidOnce token shop) :=
  inferInstanceAs (Decidable ((paidWith token shop.paid).length ≤ 1))

/-- Two sessions of one cart, both opened before either is paid. -/
theorem cart_paid_twice :
    ¬ ∀ token db actions, ItemsKeyed db.stock → Visits Shop.step (PaidOnce token) (Shop.start db) actions := by
  intro always
  have visits := always 1 lastLamp
    (fillCart 1 ++ checkOut 1 1 ++ checkOut 2 1 ++ [payFor 1 1, payFor 2 1]) lastLamp_keyed
  exact absurd visits.last (by decide)

theorem paid_once_one_session :
    Visits Shop.step (PaidOnce 1) (Shop.start lastLamp) (fillCart 1 ++ checkOut 1 1 ++ [payFor 1 1]) ↔
      Along Shop.step (FindsOpenCart 1) (Shop.start lastLamp) (fillCart 1 ++ checkOut 1 1 ++ [payFor 1 1]) :=
  paid_once_iff_finds_open_cart lastLamp_keyed

end Aicos.Properties
