import Aicos.Storefront.Shop
import Aicos.Billing.Settling

namespace Aicos.Storefront

open Aicos.Commerce Aicos.Billing Aicos.Data Aicos.Inventory

/-! What each action of a shop can do to its rows. -/

/-- `none` where there is no such cart, then the cart's `convertedOrderId`. -/
def cartStatus (token : CartToken) (db : Db) : Option (Option OrderId) :=
  (db.findCart token).map (·.convertedOrderId)

variable {db after : Db} {token : CartToken}

theorem createCart_ok {slug : String} (created : createCart slug token db = .ok after) :
    ∃ cart, after = { db with carts := db.carts ++ [cart] } := by
  obtain ⟨store, _, created⟩ := bind_eq_ok.mp created
  obtain ⟨_, rfl⟩ := Db.createCart_ok created
  exact ⟨_, rfl⟩

def KeepsCart (change : Cart → Cart) : Prop :=
  ∀ cart, (change cart).token = cart.token ∧ (change cart).convertedOrderId = cart.convertedOrderId

theorem addItem_ok {slug : String} {variantId : VariantId} {quantity : Option Nat}
    (added : addItem slug token variantId quantity db = .ok after) :
    ∃ change, after = db.updateCart token change ∧ KeepsCart change := by
  obtain ⟨store, _, added⟩ := bind_eq_ok.mp added
  obtain ⟨cart, _, added⟩ := bind_eq_ok.mp added
  obtain ⟨variant, _, added⟩ := bind_eq_ok.mp added
  split at added
  · obtain ⟨_, _, added⟩ := bind_eq_ok.mp added
    cases added
    exact ⟨_, rfl, fun _ => ⟨rfl, rfl⟩⟩
  · obtain ⟨_, _, added⟩ := bind_eq_ok.mp added
    cases added
    exact ⟨_, rfl, fun _ => ⟨rfl, rfl⟩⟩

theorem setQuantity_ok {slug : String} {variantId : VariantId} {quantity : Nat}
    (set : setQuantity slug token variantId quantity db = .ok after) :
    ∃ change, after = db.updateCart token change ∧ KeepsCart change := by
  obtain ⟨store, _, set⟩ := bind_eq_ok.mp set
  obtain ⟨cart, _, set⟩ := bind_eq_ok.mp set
  split at set
  · cases set
  · split at set
    · cases set
      exact ⟨_, rfl, fun _ => ⟨rfl, rfl⟩⟩
    · obtain ⟨variant, _, set⟩ := bind_eq_ok.mp set
      obtain ⟨_, _, set⟩ := bind_eq_ok.mp set
      cases set
      exact ⟨_, rfl, fun _ => ⟨rfl, rfl⟩⟩

theorem priceCart_ok {configured : Bool} {slug : String} {dto : CreateCheckoutDto} {priced : PricedCart}
    (returned : priceCart configured slug dto db = .ok priced) :
    priced.dto = dto ∧ cartStatus dto.token db = some none := by
  unfold priceCart at returned
  split at returned
  · cases returned
  · split at returned
    · cases returned
    · split at returned
      · cases returned
      · rename_i cart found
        split at returned
        · cases returned
        · rename_i unconverted
          split at returned
          · cases returned
          · obtain ⟨lines, _, returned⟩ := bind_eq_ok.mp returned
            cases returned
            exact ⟨rfl, by simpa [cartStatus, found] using unconverted⟩

/-- The rows agree but for the carts and for what hangs on an order. -/
structure IdleRows (before after : Db) : Prop where
  tenantId : after.tenantId = before.tenantId
  variants : after.variants = before.variants
  stock : after.stock = before.stock
  status : ∀ token converted, cartStatus token before = some converted → cartStatus token after = some converted

theorem IdleRows.refl (db : Db) : IdleRows db db :=
  ⟨rfl, rfl, rfl, fun _ _ same => same⟩

theorem IdleRows.carts {other : Db} (tenantId : other.tenantId = db.tenantId) (variants : other.variants = db.variants)
    (stock : other.stock = db.stock) (carts : other.carts = db.carts) : IdleRows db other := by
  refine ⟨tenantId, variants, stock, fun token converted same => ?_⟩
  rw [← same]
  unfold cartStatus Db.findCart
  rw [carts]

theorem idleRows_append (cart : Cart) : IdleRows db { db with carts := db.carts ++ [cart] } := by
  refine ⟨rfl, rfl, rfl, fun token converted same => ?_⟩
  obtain ⟨found, there, converted⟩ := Option.map_eq_some_iff.mp same
  have still : ({ db with carts := db.carts ++ [cart] } : Db).findCart token = some found := by
    have there : db.carts.find? (fun cart => cart.token = token) = some found := there
    simp [Db.findCart, List.find?_append, there]
  rw [cartStatus, still, ← converted]
  rfl

theorem idleRows_updateCart {change : Cart → Cart} (keeps : KeepsCart change) :
    IdleRows db (db.updateCart token change) := by
  refine ⟨rfl, rfl, rfl, fun wanted converted same => ?_⟩
  obtain ⟨cart, there, converted⟩ := Option.map_eq_some_iff.mp same
  have found := Db.findCart_update db (fun cart => cart.token = token) change wanted fun cart => (keeps cart).1
  rw [cartStatus, Db.updateCart, found, there, ← converted]
  by_cases mine : cart.token = token <;> simp [mine, (keeps cart).2]

/-- An action that is not a delivery sells nothing. -/
structure Idle (before after : Shop) : Prop where
  db : IdleRows before.db after.db
  paid : after.paid = before.paid

theorem commit_idle {shop : Shop} {body : Db → Tx Db}
    (quiet : ∀ after, body shop.db = .ok after → IdleRows shop.db after) :
    Idle shop (shop.commit body) := by
  refine ⟨?_, rfl⟩
  show IdleRows shop.db (Commerce.commit body shop.db)
  unfold Commerce.commit
  cases returned : body shop.db with
  | ok after => exact quiet after returned
  | error _ => exact IdleRows.refl _

theorem step_idle (shop : Shop) {action : ShopAction} (idle : ∀ session id now, action ≠ .deliver session id now) :
    Idle shop (shop.step action) := by
  cases action with
  | createCart slug token =>
      apply commit_idle
      intro after created
      obtain ⟨cart, rfl⟩ := createCart_ok created
      exact idleRows_append cart
  | addItem slug token variantId quantity =>
      apply commit_idle
      intro after added
      obtain ⟨change, rfl, keeps⟩ := addItem_ok added
      exact idleRows_updateCart keeps
  | setQuantity slug token variantId quantity =>
      apply commit_idle
      intro after set
      obtain ⟨change, rfl, keeps⟩ := setQuantity_ok set
      exact idleRows_updateCart keeps
  | priceCart request configured slug dto =>
      simp only [Shop.step]
      split <;> exact ⟨IdleRows.refl _, rfl⟩
  | readConnect request feeBps =>
      simp only [Shop.step]
      split <;> exact ⟨IdleRows.refl _, rfl⟩
  | createOrder request id firstItemId now =>
      simp only [Shop.step]
      split
      · split
        · exact ⟨IdleRows.refl _, rfl⟩
        · split
          · rename_i db created
            obtain ⟨_, _, rfl⟩ := Db.createOrder_ok_iff.mp created
            exact ⟨IdleRows.carts rfl rfl rfl rfl, rfl⟩
          · exact ⟨IdleRows.refl _, rfl⟩
      · exact ⟨IdleRows.refl _, rfl⟩
  | createSession request reply =>
      simp only [Shop.step]
      split
      · cases reply <;> exact ⟨IdleRows.refl _, rfl⟩
      · exact ⟨IdleRows.refl _, rfl⟩
  | finish request =>
      simp only [Shop.step]
      split
      · split
        · rename_i db recorded
          obtain ⟨_, rfl⟩ := Db.updateOrder_ok recorded
          exact ⟨IdleRows.carts rfl rfl rfl rfl, rfl⟩
        · exact ⟨IdleRows.refl _, rfl⟩
      · refine ⟨?_, rfl⟩
        apply (commit_idle _).db
        intro after deleted
        obtain ⟨_, rfl⟩ := Db.deleteOrder_ok deleted
        exact IdleRows.carts rfl rfl rfl rfl
      · exact ⟨IdleRows.refl _, rfl⟩
  | deliver session id now => exact absurd rfl (idle session id now)

def settledBy (session : CheckoutSessionObj) (shop : Shop) : Option Order :=
  if shop.opened session then settles session shop.db else none

theorem deliver_idle {shop : Shop} {session : CheckoutSessionObj} (id : PaymentId) (now : Instant)
    (keyed : ItemsKeyed shop.db.stock) (nothing : settledBy session shop = none) :
    shop.deliver session id now = shop := by
  unfold Shop.deliver
  split
  · rfl
  · rename_i opened
    have opened : shop.opened session = true := by simpa using opened
    rw [settledBy, if_pos opened] at nothing
    rcases onCheckoutCompleted_of_not_settles id now keyed nothing with skipped | ⟨failure, rejected⟩
    · rw [skipped]
    · rw [rejected]

/-- The cart a checkout under way is about, until its session is created. -/
def CheckoutPhase.cartToken : CheckoutPhase → Option CartToken
  | .priced cart => some cart.dto.token
  | .planned plan => some plan.priced.dto.token
  | .ordered plan _ => some plan.priced.dto.token
  | .opened _ _ _ => none
  | .failing _ => none

def InCheckout (token : CartToken) (shop : Shop) : Prop :=
  (∃ request phase, shop.requests request = some phase ∧ phase.cartToken = some token) ∨
    ∃ session ∈ shop.sessions, session.cartToken = token

theorem inCheckout_enter {shop : Shop} {request : RequestId} {next : Option CheckoutPhase}
    (carries : InCheckout token (shop.enter request next)) :
    InCheckout token shop ∨ next.bind CheckoutPhase.cartToken = some token := by
  rcases carries with ⟨other, phase, entered, named⟩ | held
  · by_cases same : other = request
    · subst same
      have entered : next = some phase := by simpa [Shop.enter] using entered
      exact .inr (by rw [entered]; exact named)
    · have entered : shop.requests other = some phase := by simpa [Shop.enter, same] using entered
      exact .inl (.inl ⟨other, phase, entered, named⟩)
  · exact .inl (.inr held)

theorem deliver_settles {shop : Shop} {session : CheckoutSessionObj} {order : Order} (id : PaymentId) (now : Instant)
    (keyed : ItemsKeyed shop.db.stock) (settled : settledBy session shop = some order) :
    ∃ oversold stock token, Served order.items oversold shop.db.stock stock ∧ InCheckout token shop ∧
      session.metadata.bind (·.cartToken) = some token ∧
      shop.deliver session id now = { shop with
        db := settledRows session (some token) id now order stock shop.db
        paid := shop.paid ++ [{ orderId := order.id, cartToken := some token, items := order.items, oversold }] } := by
  rw [settledBy] at settled
  split at settled
  · rename_i opened
    obtain ⟨oversold, stock, served, ran⟩ := onCheckoutCompleted_settles id now keyed settled
    obtain ⟨known, present, same⟩ := List.any_eq_true.mp opened
    have same : session.metadata = some (sessionMetadata shop.db.tenantId known.orderId known.cartToken) := by
      simp only [decide_eq_true_eq] at same
      exact same.2
    obtain ⟨payable, _⟩ := Option.filter_eq_some_iff.mp settled
    obtain ⟨⟨metadata, carried, _, named⟩, found, _⟩ := payable_some payable
    have token : session.metadata.bind (·.cartToken) = some known.cartToken := by rw [same]; rfl
    have orderId : session.metadata.bind (·.orderId) = some order.id := by rw [carried]; exact named
    refine ⟨oversold, stock, known.cartToken, served, .inr ⟨known, present, rfl⟩, token, ?_⟩
    rw [token] at ran
    unfold Shop.deliver
    simp only [opened, not_true, if_false, ran, token, orderId, Option.getD_some, found, Option.map_some]
    rfl
  · cases settled

/-- A request that moves on about the same cart brings no other cart into checkout. -/
theorem inCheckout_passed {shop : Shop} {request : RequestId} {phase : CheckoutPhase} {next : Option CheckoutPhase}
    (at_phase : shop.requests request = some phase)
    (kept : next.bind CheckoutPhase.cartToken = some token → phase.cartToken = some token)
    (carries : InCheckout token (shop.enter request next)) : InCheckout token shop := by
  rcases inCheckout_enter carries with held | named
  · exact held
  · exact .inl ⟨request, phase, at_phase, kept named⟩

/-- The session is about the cart of the order that its request has created. -/
theorem inCheckout_opened {shop : Shop} {request : RequestId} {plan : CheckoutPlan} {orderId : OrderId}
    {next : CheckoutPhase} {id : CheckoutSessionId} (at_phase : shop.requests request = some (.ordered plan orderId))
    (silent : next.cartToken = none)
    (carries : InCheckout token { shop.enter request (some next) with
      sessions := { id, orderId, cartToken := plan.priced.dto.token } :: shop.sessions }) :
    InCheckout token shop := by
  rcases carries with ⟨other, phase, entered, named⟩ | ⟨session, member, named⟩
  · exact inCheckout_passed at_phase (by simp [silent]) (.inl ⟨other, phase, entered, named⟩)
  · rcases List.mem_cons.mp member with rfl | old
    · exact .inl ⟨request, _, at_phase, congrArg some named⟩
    · exact .inr ⟨session, old, named⟩

theorem deliver_inCheckout {shop : Shop} {session : CheckoutSessionObj} {id : PaymentId} {now : Instant}
    (carries : InCheckout token (shop.deliver session id now)) : InCheckout token shop := by
  have kept : (shop.deliver session id now).requests = shop.requests ∧
      (shop.deliver session id now).sessions = shop.sessions := by
    unfold Shop.deliver
    split
    · exact ⟨rfl, rfl⟩
    · split <;> exact ⟨rfl, rfl⟩
  unfold InCheckout at carries
  rw [kept.1, kept.2] at carries
  exact carries

/-- A cart enters a checkout open; from there its token is passed on. -/
theorem step_inCheckout {shop : Shop} {action : ShopAction} (carries : InCheckout token (shop.step action)) :
    InCheckout token shop ∨ cartStatus token shop.db = some none := by
  cases action with
  | createCart slug other => exact .inl carries
  | addItem slug other variantId quantity => exact .inl carries
  | setQuantity slug other variantId quantity => exact .inl carries
  | priceCart request configured slug dto =>
      simp only [Shop.step] at carries
      split at carries
      · rename_i cart _ priced
        obtain ⟨same, opened⟩ := priceCart_ok priced
        rcases inCheckout_enter carries with held | named
        · exact .inl held
        · have named : cart.dto.token = token := by simpa [CheckoutPhase.cartToken] using named
          rw [same] at named
          exact .inr (named ▸ opened)
      · exact .inl carries
  | readConnect request feeBps =>
      simp only [Shop.step] at carries
      split at carries
      · rename_i cart at_phase
        exact .inl (inCheckout_passed at_phase id carries)
      · exact .inl carries
  | createOrder request id firstItemId now =>
      simp only [Shop.step] at carries
      split at carries
      · rename_i plan at_phase
        split at carries
        · exact .inl carries
        · split at carries
          · have carries : InCheckout token (shop.enter request (some (.ordered plan id))) := carries
            exact .inl (inCheckout_passed at_phase (by exact fun named => named) carries)
          · exact .inl (inCheckout_passed at_phase (by simp) carries)
      · exact .inl carries
  | createSession request reply =>
      simp only [Shop.step] at carries
      split at carries
      · rename_i plan orderId at_phase
        cases reply with
        | created id intent => exact .inl (inCheckout_opened at_phase rfl carries)
        | lost id => exact .inl (inCheckout_opened at_phase rfl carries)
        | refused => exact .inl (inCheckout_passed at_phase (by simp [CheckoutPhase.cartToken]) carries)
      · exact .inl carries
  | finish request =>
      simp only [Shop.step] at carries
      split at carries
      · rename_i orderId session intent at_phase
        split at carries
        · exact .inl (inCheckout_passed at_phase (by simp) carries)
        · exact .inl (inCheckout_passed at_phase (by simp [CheckoutPhase.cartToken]) carries)
      · rename_i orderId at_phase
        have carries : InCheckout token (shop.enter request none) := carries
        exact .inl (inCheckout_passed at_phase (by simp) carries)
      · exact .inl carries
  | deliver session id now => exact .inl (deliver_inCheckout carries)

theorem cartStatus_settledRows {session : CheckoutSessionObj} {paid : CartToken} {id : PaymentId} {now : Instant}
    {order : Order} {stock : Inventory} {converted : Option OrderId} (before : cartStatus token db = some converted) :
    cartStatus token (settledRows session (some paid) id now order stock db) =
      some (if token = paid then converted <|> some order.id else converted) := by
  obtain ⟨cart, found, same⟩ := Option.map_eq_some_iff.mp before
  have named : cart.token = token := by simpa using List.find?_some found
  have after : (settledRows session (some paid) id now order stock db).findCart token = some
      (if Db.openCartOf paid cart then { cart with convertedOrderId := some order.id } else cart) := by
    have moved := Db.findCart_update db (Db.openCartOf paid)
      (fun cart => { cart with convertedOrderId := some order.id }) token fun _ => rfl
    rw [found] at moved
    exact moved
  rw [cartStatus, after, ← same]
  by_cases mine : token = paid
  · cases unconverted : cart.convertedOrderId <;> simp [Db.openCartOf, named, mine, unconverted]
  · simp [Db.openCartOf, named, mine]

end Aicos.Storefront
