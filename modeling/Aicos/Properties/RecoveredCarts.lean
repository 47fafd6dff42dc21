import Aicos.Storefront.WebCart

namespace Aicos.Properties

open Aicos.Commerce Aicos.Data Aicos.Storefront

/-! `addToCart` of the web client against the cart service: which errors it takes for a
stale cart, and what its retry leaves behind. -/

section Texts

theorem mem_of_matchesText {pattern text : String} (found : matchesText pattern text = true) {char : Char}
    (member : char ∈ pattern.toList) : ∃ other ∈ text.toList, other.toLower = char := by
  obtain ⟨rest, tail, starts⟩ := List.any_eq_true.mp found
  have here := (List.isPrefixOf_iff_prefix.mp starts).subset member
  exact List.mem_map.mp (((List.mem_tails _ _).mp tail).subset here)

theorem toLower_of_isDigit {char : Char} (digit : char.isDigit = true) : char.toLower = char := by
  have bounds : 48 ≤ char.val.toNat ∧ char.val.toNat ≤ 57 := by
    simpa [Char.isDigit, UInt32.le_iff_toNat_le] using digit
  unfold Char.toLower
  refine dif_neg fun upper => ?_
  have above : 65 ≤ char.val.toNat := UInt32.le_iff_toNat_le.mp upper.1
  omega

/-- Both patterns have a letter that this text lacks, whatever the number in it. -/
theorem isStaleCart_insufficient (count : Int) :
    isStaleCart s!"Insufficient stock: only {max count 0} available" = false := by
  obtain ⟨units, nonneg⟩ := Int.eq_ofNat_of_zero_le (Int.le_max_right count 0)
  rw [nonneg]
  have lacks (text : String) (all : (text.toList.all fun char => decide (char.toLower ≠ 'd')) = true) (char : Char)
      (member : char ∈ text.toList) : char.toLower ≠ 'd' :=
    of_decide_eq_true (List.all_eq_true.mp all char member)
  have absent : ∀ char ∈ s!"Insufficient stock: only {(units : Int)} available".toList, char.toLower ≠ 'd' := by
    intro char member
    have digits : (toString (units : Int)).toList = Nat.toDigits 10 units := Nat.toList_repr
    simp only [String.toList_append, List.mem_append, digits] at member
    obtain (front | number) | back := member
    · exact lacks _ (by decide) char front
    · have digit := Nat.isDigit_of_mem_toDigits (by decide) (by decide) number
      rw [toLower_of_isDigit digit]
      intro same
      subst same
      cases digit
    · exact lacks _ (by decide) char back
  have missing (pattern : String) (needs : 'd' ∈ pattern.toList) :
      matchesText pattern s!"Insufficient stock: only {(units : Int)} available" = false := by
    refine Bool.eq_false_iff.mpr fun found => ?_
    obtain ⟨char, member, lower⟩ := mem_of_matchesText found needs
    exact absent char member lower
  rw [isStaleCart, missing _ (by decide), missing _ (by decide)]
  rfl

end Texts

/-- The cart that a token still stands for. -/
def liveCart (token : Option CartToken) (db : Db) : Option Cart :=
  (token.bind fun token => db.findCart token).filter fun cart => cart.convertedOrderId = none

/-- The units of a variant that a cart has. -/
def heldUnits (cart : Option Cart) (variantId : VariantId) : Nat :=
  ((cart.bind fun cart => findLine cart variantId).map (·.quantity)).getD 0

/-- The lines with a variant at a quantity and a price. -/
def putLine (items : List CartItem) (line : CartItem) : List CartItem :=
  if items.any fun item => item.variantId = line.variantId then
    updateWhere (fun item => item.variantId = line.variantId) (fun _ => line) items
  else items ++ [line]

section Service

variable {db after : Db} {slug : String} {token : CartToken} {variantId : VariantId} {quantity : Nat}

theorem openCart_ok_iff {cart : Cart} : openCart token db = .ok cart ↔ liveCart (some token) db = some cart := by
  unfold openCart liveCart
  rw [Option.bind_some, Option.filter_eq_some_iff]
  cases db.findCart token with
  | none => simp [throw, throwThe, MonadExceptOf.throw]
  | some found =>
      dsimp only
      split
      · rename_i converted
        refine ⟨fun opened => (by cases opened), fun live => ?_⟩
        obtain ⟨same, unconverted⟩ := live
        cases same
        exact absurd (of_decide_eq_true unconverted) converted
      · rename_i unconverted
        constructor
        · intro opened
          cases opened
          exact ⟨rfl, by simpa using unconverted⟩
        · intro live
          obtain ⟨same, _⟩ := live
          cases same
          rfl

/-- An update of the line of a variant puts the line there. -/
theorem putLine_of_found {items : List CartItem} {existing : CartItem} (line : CartItem)
    (found : items.find? (fun item => item.variantId = line.variantId) = some existing) :
    updateWhere (fun item => item.variantId = line.variantId)
        (fun item => { item with quantity := line.quantity, unitPriceCents := line.unitPriceCents }) items =
      putLine items line := by
  have present : items.any (fun item => item.variantId = line.variantId) = true := by
    have mine := List.find?_some found
    exact List.any_eq_true.mpr ⟨existing, List.mem_of_find?_eq_some found, mine⟩
  rw [putLine, if_pos present]
  refine List.map_congr_left fun item _ => ?_
  by_cases mine : item.variantId = line.variantId
  · simp [mine]
  · simp [mine]

theorem putLine_of_absent {items : List CartItem} {line : CartItem}
    (absent : items.find? (fun item => item.variantId = line.variantId) = none) :
    items ++ [line] = putLine items line := by
  rw [putLine, if_neg]
  simpa using absent

/-- The variant can be bought in that quantity on top of what the cart has. -/
def Supplied (cart : Option Cart) (variantId : VariantId) (quantity : Nat) (db : Db) : Prop :=
  ∃ variant, purchasable variantId db = .ok variant ∧
    assertStock variant (heldUnits cart variantId + quantity) db = .ok ()

/-- What `addItem` asks of the rows. -/
def Addable (slug : String) (cart : Option Cart) (variantId : VariantId) (quantity : Nat) (db : Db) : Prop :=
  (∃ store, db.publishedStore slug = some store) ∧ Supplied cart variantId quantity db

/-- The change of a cart brings lines of one variant only. -/
def NamesOnly (variantId : VariantId) (change : Cart → Cart) : Prop :=
  ∀ cart, ∀ item ∈ (change cart).items,
    item.variantId = variantId ∨ ∃ old ∈ cart.items, old.variantId = item.variantId

/-- What an item does to the carts. -/
theorem putItem_cases (added : putItem token variantId quantity db = .ok after) :
    ∃ cart variant change, liveCart (some token) db = some cart ∧
      Supplied (some cart) variantId quantity db ∧ purchasable variantId db = .ok variant ∧
      after = db.updateCart token change ∧ KeepsCart change ∧ NamesOnly variantId change ∧
      change cart = { cart with
        items := putLine cart.items
          ⟨variantId, heldUnits (some cart) variantId + quantity, variant.priceCents⟩ } := by
  obtain ⟨cart, opened, added⟩ := bind_eq_ok.mp added
  obtain ⟨variant, sold, added⟩ := bind_eq_ok.mp added
  have live := openCart_ok_iff.mp opened
  split at added
  · rename_i existing found
    obtain ⟨_, stocked, added⟩ := bind_eq_ok.mp added
    cases added
    have held : heldUnits (some cart) variantId = existing.quantity := by simp [heldUnits, found]
    rw [← held] at stocked ⊢
    refine ⟨cart, variant, _, live, ⟨variant, sold, stocked⟩, sold, rfl,
      fun _ => ⟨rfl, rfl⟩, ?_,
      congrArg (fun items => { cart with items }) (putLine_of_found ⟨variantId, _, variant.priceCents⟩ found)⟩
    intro other item member
    obtain ⟨old, there, same⟩ := mem_updateWhere.mp member
    refine .inr ⟨old, there, ?_⟩
    rw [← same]
    split <;> rfl
  · rename_i found
    obtain ⟨_, stocked, added⟩ := bind_eq_ok.mp added
    cases added
    have held : heldUnits (some cart) variantId = 0 := by simp [heldUnits, found]
    have units : heldUnits (some cart) variantId + quantity = quantity := by omega
    rw [← units] at stocked
    refine ⟨cart, variant, _, live, ⟨variant, sold, stocked⟩, sold, rfl,
      fun _ => ⟨rfl, rfl⟩, ?_, ?_⟩
    · intro other item member
      cases List.mem_append.mp member with
      | inl old => exact .inr ⟨item, old, rfl⟩
      | inr new =>
          obtain rfl := List.mem_singleton.mp new
          exact .inl rfl
    rw [units]
    have put : cart.items ++ [⟨variantId, quantity, variant.priceCents⟩] = putLine cart.items _ :=
      putLine_of_absent found
    exact congrArg (fun items => { cart with items }) put

theorem findCart_of_live {cart : Cart} (live : liveCart (some token) db = some cart) :
    db.findCart token = some cart ∧ cart.convertedOrderId = none := by
  obtain ⟨found, unconverted⟩ := Option.filter_eq_some_iff.mp live
  exact ⟨found, by simpa using unconverted⟩

/-- The cart that an item went to, and the others. -/
theorem putItem_findCart (added : putItem token variantId quantity db = .ok after) :
    (after.findCart token).isSome = true ∧
      ∀ other, other ≠ token → after.findCart other = db.findCart other := by
  obtain ⟨cart, _, change, live, _, _, rfl, keeps, _⟩ := putItem_cases added
  have moved (wanted : CartToken) := Db.findCart_update db (fun cart => cart.token = token) change wanted
    fun cart => (keeps cart).1
  refine ⟨?_, fun other apart => ?_⟩
  · rw [Db.updateCart, moved, (findCart_of_live live).1]
    rfl
  · rw [Db.updateCart, moved]
    cases found : db.findCart other with
    | none => rfl
    | some cart =>
        have named : cart.token = other := by simpa using List.find?_some found
        simp [named, apart]

theorem putItem_returns {cart : Cart} (live : liveCart (some token) db = some cart)
    (supplied : Supplied (some cart) variantId quantity db) :
    ∃ after, putItem token variantId quantity db = .ok after := by
  obtain ⟨variant, sold, stocked⟩ := supplied
  unfold putItem
  rw [openCart_ok_iff.mpr live]
  simp only [ok_bind, sold]
  split
  · rename_i existing found
    have held : heldUnits (some cart) variantId = existing.quantity := by simp [heldUnits, found]
    rw [held] at stocked
    simp [stocked, pure, Except.pure]
  · rename_i found
    have held : heldUnits (some cart) variantId = 0 := by simp [heldUnits, found]
    rw [held, Nat.zero_add] at stocked
    simp [stocked, pure, Except.pure]

/-- Every line of a cart has its variant. -/
def Resolved (db : Db) : Prop :=
  ∀ cart ∈ db.carts, ∀ item ∈ cart.items, ∃ variant, db.findVariant item.variantId = some variant

theorem cartLines_ok {items : List CartItem}
    (resolved : ∀ item ∈ items, ∃ variant, db.findVariant item.variantId = some variant) :
    ∃ lines, cartLines db items = .ok lines := by
  induction items with
  | nil => exact ⟨[], rfl⟩
  | cons item rest ih =>
      obtain ⟨variant, found⟩ := resolved item List.mem_cons_self
      obtain ⟨lines, later⟩ := ih fun other member => resolved other (List.mem_cons_of_mem _ member)
      simp only [cartLines, cartLine, found, later, pure, Except.pure, ok_bind]
      exact ⟨_, rfl⟩

theorem viewCart_ok (resolved : Resolved db) {cart : Cart} (found : db.findCart token = some cart) :
    ∃ view, viewCart token db = .ok view ∧ view.token = token := by
  obtain ⟨lines, viewed⟩ := cartLines_ok (resolved cart (List.mem_of_find?_eq_some found))
  have named : cart.token = token := by simpa using List.find?_some found
  simp only [viewCart, found, viewed, ok_bind]
  exact ⟨_, rfl, named⟩

theorem findVariant_of_purchasable {variant : ProductVariant} (sold : purchasable variantId db = .ok variant) :
    ∃ row, db.findVariant variantId = some row := by
  unfold purchasable at sold
  split at sold
  · cases sold
  · rename_i found
    refine Option.isSome_iff_exists.mp (List.find?_isSome.mpr ⟨_, List.mem_of_find?_eq_some found, ?_⟩)
    have chosen := List.find?_some found
    simp only [decide_eq_true_eq] at chosen ⊢
    exact chosen.1

theorem putItem_resolved (resolved : Resolved db) (added : putItem token variantId quantity db = .ok after) :
    Resolved after := by
  obtain ⟨_, variant, change, _, _, sold, rfl, _, names, _⟩ := putItem_cases added
  intro cart member item line
  obtain ⟨old, there, same⟩ := mem_updateWhere.mp member
  subst same
  split at line
  · cases names old item line with
    | inl new =>
        rw [new]
        exact findVariant_of_purchasable sold
    | inr kept =>
        obtain ⟨before, held, same⟩ := kept
        rw [← same]
        exact resolved old there before held
  · exact resolved old there item line

theorem createCart_resolved (resolved : Resolved db) {store : Store}
    (created : db.createCart (freshCart store token) = .ok after) : Resolved after := by
  obtain ⟨_, rfl⟩ := Db.createCart_ok created
  intro cart member item line
  cases List.mem_append.mp member with
  | inl old => exact resolved cart old item line
  | inr new =>
      obtain rfl := List.mem_singleton.mp new
      cases line

end Service

/-- Nobody deletes a cart, nor a variant that a cart has. -/
def Considerate (around : Surroundings) : Prop :=
  ∀ turn db, Resolved db → Resolved (around.others turn db) ∧
    ∀ token, (db.findCart token).isSome = true → ((around.others turn db).findCart token).isSome = true

/-- The items that a call has added. -/
def additions (commits : List CartCommit) : List CartCommit :=
  commits.filter fun entry => match entry with
    | .added _ _ _ => true
    | .created _ => false

/-- Nobody else writes the token that the page keeps. -/
def KeepsToken (around : Surroundings) : Prop :=
  ∀ turn stored, around.storage turn stored = stored

section Calls

variable {around : Surroundings} {page after : Page} {token : CartToken} {variantId : VariantId} {quantity : Nat}

theorem createCart_left (page : Page) (considerate : Considerate around) (resolved : Resolved page.db) :
    Resolved (page.createCart around).2.db ∧ (page.createCart around).2.sent = page.sent ∧
      additions (page.createCart around).2.commits = additions page.commits := by
  have calm := (considerate page.turns page.db resolved).1
  unfold Page.createCart
  dsimp only [Page.yield, Page.commit]
  split
  · exact ⟨calm, rfl, rfl⟩
  · have calmer := (considerate (page.turns + 1) _ calm).1
    split
    · exact ⟨calmer, rfl, rfl⟩
    · rename_i created
      exact ⟨createCart_resolved calmer created, rfl, by simp [additions]⟩

/-- A handler that adds its item answers with the cart it went to; one that fails has added
nothing. -/
theorem addItem_left (page : Page) (considerate : Considerate around) (resolved : Resolved page.db)
    (token : CartToken) (variantId : VariantId) (quantity : Nat) :
    Resolved (page.addItem around token variantId quantity).2.db ∧
      (page.addItem around token variantId quantity).2.sent = page.sent ∧
      (KeepsToken around → (page.addItem around token variantId quantity).2.cartToken = page.cartToken) ∧
      ((∃ view, (page.addItem around token variantId quantity).1 = .ok view ∧ view.token = token ∧
          additions (page.addItem around token variantId quantity).2.commits =
            additions page.commits ++ [.added token variantId quantity]) ∨
        (∃ body, (page.addItem around token variantId quantity).1 = .error body) ∧
          additions (page.addItem around token variantId quantity).2.commits = additions page.commits) := by
  have calm := (considerate page.turns page.db resolved).1
  unfold Page.addItem
  dsimp only [Page.yield, Page.commit]
  split
  · exact ⟨resolved, rfl, fun _ => rfl, .inr ⟨⟨_, rfl⟩, rfl⟩⟩
  · split
    · exact ⟨calm, rfl, fun keeps => keeps _ _, .inr ⟨⟨_, rfl⟩, rfl⟩⟩
    · have calmer := (considerate (page.turns + 1) _ calm).1
      split
      · exact ⟨calmer, rfl, fun keeps => (keeps _ _).trans (keeps _ _), .inr ⟨⟨_, rfl⟩, rfl⟩⟩
      · rename_i db added
        obtain ⟨last, kept⟩ := considerate (page.turns + 1 + 1) db (putItem_resolved calmer added)
        obtain ⟨there, found⟩ := Option.isSome_iff_exists.mp (kept token (putItem_findCart added).1)
        obtain ⟨view, viewed, named⟩ := viewCart_ok last found
        rw [viewed]
        refine ⟨last, rfl, fun keeps => ?_, .inl ⟨view, rfl, named, by simp [additions]⟩⟩
        exact (keeps _ _).trans ((keeps _ _).trans (keeps _ _))

theorem newCart_cases (considerate : Considerate around) (resolved : Resolved page.db) :
    Resolved (page.newCart around).2.db ∧ (page.newCart around).2.sent = page.sent + 1 ∧
      additions (page.newCart around).2.commits = additions page.commits ∧
      ∀ token, (page.newCart around).1 = .ok token → (page.newCart around).2.cartToken = some token := by
  have left := createCart_left { page with sent := page.sent + 1 } considerate resolved
  unfold Page.newCart Page.postCart Page.send
  dsimp only
  cases around.answers page.sent with
  | fails => exact ⟨(considerate _ _ resolved).1, rfl, rfl, fun _ refused => by cases refused⟩
  | lost =>
      obtain ⟨calm, sent, same⟩ := left
      exact ⟨(considerate _ _ calm).1, sent, same, fun _ refused => by cases refused⟩
  | works =>
      cases ran : Page.createCart around { page with sent := page.sent + 1 } with
      | mk result middle =>
          rw [ran] at left
          obtain ⟨calm, sent, same⟩ := left
          have later := (considerate middle.turns middle.db calm).1
          cases result with
          | error body => exact ⟨later, sent, same, fun _ refused => by cases refused⟩
          | ok created =>
              refine ⟨later, sent, same, fun token returned => ?_⟩
              cases returned
              rfl

/-- A stored token takes no request, and a new one takes one. -/
theorem takeToken_cases (considerate : Considerate around) (resolved : Resolved page.db) :
    Resolved (page.takeToken around).2.db ∧ page.sent ≤ (page.takeToken around).2.sent ∧
      (page.takeToken around).2.sent ≤ page.sent + 1 ∧
      additions (page.takeToken around).2.commits = additions page.commits ∧
      ∀ token, (page.takeToken around).1 = .ok token → (page.takeToken around).2.cartToken = some token := by
  unfold Page.takeToken
  split
  · rename_i token stored
    refine ⟨resolved, Nat.le_refl _, Nat.le_succ _, rfl, fun other returned => ?_⟩
    cases returned
    exact stored
  · obtain ⟨calm, sent, same, kept⟩ := newCart_cases considerate resolved
    exact ⟨calm, by omega, Nat.le_of_eq sent, same, kept⟩

/-- What the page learns of an item: the cart it went to, that there is none, or, where the
answer was lost, nothing. -/
theorem postItem_cases (considerate : Considerate around) (resolved : Resolved page.db) (token : CartToken)
    (variantId : VariantId) (quantity : Nat) :
    Resolved (page.postItem around token variantId quantity).2.db ∧
      (page.postItem around token variantId quantity).2.sent = page.sent + 1 ∧
      (KeepsToken around → (page.postItem around token variantId quantity).2.cartToken = page.cartToken) ∧
      ((∃ view, (page.postItem around token variantId quantity).1 = .ok view ∧ view.token = token ∧
          additions (page.postItem around token variantId quantity).2.commits =
            additions page.commits ++ [.added token variantId quantity]) ∨
        (∃ message, (page.postItem around token variantId quantity).1 = .error message) ∧
          additions (page.postItem around token variantId quantity).2.commits = additions page.commits ∨
        (page.postItem around token variantId quantity).1 = .error (around.told page.sent) ∧
          around.answers page.sent = .lost ∧
          additions (page.postItem around token variantId quantity).2.commits =
            additions page.commits ++ [.added token variantId quantity]) := by
  have left := addItem_left { page with sent := page.sent + 1 } considerate resolved token variantId quantity
  unfold Page.postItem Page.send
  dsimp only
  cases answer : around.answers page.sent with
  | fails =>
      exact ⟨(considerate _ _ resolved).1, rfl, fun keeps => keeps _ _, .inr (.inl ⟨⟨_, rfl⟩, rfl⟩)⟩
  | lost =>
      obtain ⟨calm, sent, keeps, outcome⟩ := left
      refine ⟨(considerate _ _ calm).1, sent, fun kept => (kept _ _).trans (keeps kept), ?_⟩
      obtain ⟨_, _, _, added⟩ | ⟨_, same⟩ := outcome
      · exact .inr (.inr ⟨rfl, rfl, added⟩)
      · exact .inr (.inl ⟨⟨_, rfl⟩, same⟩)
  | works =>
      cases ran : Page.addItem around token variantId quantity { page with sent := page.sent + 1 } with
      | mk result middle =>
          rw [ran] at left
          obtain ⟨calm, sent, keeps, outcome⟩ := left
          have later := (considerate middle.turns middle.db calm).1
          have stored (kept : KeepsToken around) : (middle.yield around).cartToken = page.cartToken :=
            (kept _ _).trans (keeps kept)
          obtain ⟨view, rfl, named, added⟩ | ⟨⟨body, rfl⟩, same⟩ := outcome
          · exact ⟨later, sent, stored, .inl ⟨view, rfl, named, added⟩⟩
          · exact ⟨later, sent, stored, .inr (.inl ⟨⟨_, rfl⟩, same⟩)⟩

end Calls

/-- What a call has left when it is over: the item in the cart that it returns, or no item,
or one whose answer, the last of the call, was lost. -/
def AddsOnce (around : Surroundings) (variantId : VariantId) (quantity : Nat) (page : Page) :
    Except String CartView × Page → Prop
  | (.ok view, after) =>
      additions after.commits = additions page.commits ++ [.added view.token variantId quantity] ∧
        (KeepsToken around → after.cartToken = some view.token)
  | (.error _, after) =>
      additions after.commits = additions page.commits ∨
        (∃ token, additions after.commits = additions page.commits ++ [.added token variantId quantity]) ∧
          ∃ request, page.sent ≤ request ∧ after.sent = request + 1 ∧ around.answers request = .lost

section Once

variable {around : Surroundings} {page middle : Page} {variantId : VariantId} {quantity : Nat}

/-- An item after requests that have added none. -/
theorem AddsOnce.of_later {result : Except String CartView × Page} (same : additions middle.commits =
    additions page.commits) (sent : page.sent ≤ middle.sent) (once : AddsOnce around variantId quantity middle result) :
    AddsOnce around variantId quantity page result := by
  obtain ⟨outcome, after⟩ := result
  unfold AddsOnce at once ⊢
  rw [same] at once
  cases outcome with
  | ok view => exact once
  | error message =>
      refine once.imp_right fun lost => ⟨lost.1, ?_⟩
      obtain ⟨request, later, last, answer⟩ := lost.2
      exact ⟨request, Nat.le_trans sent later, last, answer⟩

theorem postItem_adds_once (considerate : Considerate around) (resolved : Resolved page.db) {token : CartToken}
    (stored : KeepsToken around → page.cartToken = some token) :
    AddsOnce around variantId quantity page (page.postItem around token variantId quantity) := by
  obtain ⟨_, sent, keeps, outcome⟩ := postItem_cases considerate resolved token variantId quantity
  cases posted : page.postItem around token variantId quantity with
  | mk result after =>
      rw [posted] at sent keeps outcome
      dsimp only at sent keeps outcome
      obtain ⟨view, rfl, rfl, added⟩ | ⟨⟨message, rfl⟩, same⟩ | ⟨rfl, lost, added⟩ := outcome
      · exact ⟨added, fun kept => (keeps kept).trans (stored kept)⟩
      · exact .inl same
      · exact .inr ⟨⟨token, added⟩, page.sent, Nat.le_refl _, sent, lost⟩

theorem retryItem_adds_once (variantId : VariantId) (quantity : Nat) (considerate : Considerate around)
    (resolved : Resolved page.db) :
    (page.retryItem around variantId quantity).2.sent ≤ page.sent + 2 ∧
      AddsOnce around variantId quantity page (page.retryItem around variantId quantity) := by
  obtain ⟨calm, sent, same, kept⟩ := newCart_cases considerate resolved
  unfold Page.retryItem
  cases created : page.newCart around with
  | mk result middle =>
      rw [created] at calm sent same kept
      dsimp only at calm sent same kept
      cases result with
      | error message => exact ⟨by simp [sent], .inl same⟩
      | ok token =>
          have more := (postItem_cases considerate calm token variantId quantity).2.1
          have once : AddsOnce around variantId quantity middle (middle.postItem around token variantId quantity) :=
            postItem_adds_once considerate calm fun _ => kept token rfl
          exact ⟨by dsimp only; omega, once.of_later same (by omega)⟩

end Once

/-- Whatever other requests and other tabs do meanwhile, a call that returns a cart has added
its item once, to that cart, whose token the page keeps where nobody else writes it; a call
that fails has added nothing unless its last answer was lost, and then once.  Either way it
took four requests at most. -/
theorem add_to_cart_adds_once (around : Surroundings) (considerate : Considerate around)
    (plain : ∀ request, isStaleCart (around.told request) = false) (variantId : VariantId) (quantity : Nat)
    (page : Page) (resolved : Resolved page.db) :
    (page.addToCart around variantId quantity).2.sent ≤ page.sent + 4 ∧
      AddsOnce around variantId quantity page (page.addToCart around variantId quantity) := by
  obtain ⟨calm, least, most, same, kept⟩ := takeToken_cases considerate resolved
  unfold Page.addToCart
  cases held : page.takeToken around with
  | mk result middle =>
      rw [held] at calm least most same kept
      dsimp only at calm least most same kept
      cases result with
      | error message => exact ⟨by dsimp only; omega, .inl same⟩
      | ok token =>
          obtain ⟨resolved, more, _, outcome⟩ := postItem_cases considerate calm token variantId quantity
          have once : AddsOnce around variantId quantity middle (middle.postItem around token variantId quantity) :=
            postItem_adds_once considerate calm fun _ => kept token rfl
          dsimp only
          cases posted : middle.postItem around token variantId quantity with
          | mk result last =>
              rw [posted] at resolved more outcome once
              dsimp only at resolved more outcome
              have once := once.of_later same least
              cases result with
              | ok view => exact ⟨by dsimp only; omega, once⟩
              | error message =>
                  dsimp only
                  split
                  · exact ⟨by dsimp only; omega, once⟩
                  · rename_i retried
                    -- the client was told of a stale cart, so no answer was lost and nothing was added
                    obtain ⟨_, returned, _⟩ | ⟨_, unadded⟩ | ⟨silent, _⟩ := outcome
                    · cases returned
                    · obtain ⟨bound, again⟩ := retryItem_adds_once variantId quantity considerate resolved
                      exact ⟨by omega, again.of_later (unadded.trans same) (by omega)⟩
                    · cases silent
                      exact absurd (by simp [plain]) retried

/-- A page whose cart was checked out. -/
def checkedOutPage : Page where
  db := {
    tenantId := 1
    stores := [{ id := 1, slug := "lamps", name := "Lamps", status := .published, currency := "USD" }]
    variants := [{
      id := 7, product := { status := .active, title := "Lamp", slug := "lamp" }, title := "Default", sku := none
      priceCents := 500, inventoryPolicy := .deny, deletedAt := none }]
    stock := {
      items := [{
        id := 1, variantId := 7, locationId := 3, onHand := 5, reserved := 1
        reorderPoint := 0, reorderQty := 0, updatedAt := 0 }]
      movements := [] }
    carts := [{
      token := 1, storeId := 1, currency := "USD", convertedOrderId := some 3
      items := [{ variantId := 7, quantity := 2, unitPriceCents := 450 }] }]
    orders := []
    payments := []
    refunds := []
    returns := []
    connectAccount := none }
  cartToken := some 1
  turns := 0
  sent := 0
  commits := []

def lampSurroundings : Surroundings where
  slug := "lamps"
  uuid := fun turn => turn + 100
  others := fun _ db => db
  storage := fun _ stored => stored
  answers := fun _ => .works
  told := fun _ => "Failed to fetch"

theorem checkedOutPage_resolved : Resolved checkedOutPage.db := by
  intro cart member item line
  obtain rfl := List.mem_singleton.mp member
  obtain rfl := List.mem_singleton.mp line
  exact ⟨_, rfl⟩

/-- The response to the third request, which brings the item, is lost. -/
def lostSurroundings : Surroundings :=
  { lampSurroundings with answers := fun request => if request = 2 then .lost else .works }

theorem lostSurroundings_plain (request : Nat) : isStaleCart (lostSurroundings.told request) = false := by
  show isStaleCart "Failed to fetch" = false
  decide

theorem checked_out_page_adds_once :
    (checkedOutPage.addToCart lostSurroundings 7 4).2.sent ≤ 0 + 4 ∧
      AddsOnce lostSurroundings 7 4 checkedOutPage (checkedOutPage.addToCart lostSurroundings 7 4) ∧
      (checkedOutPage.addToCart lostSurroundings 7 4).2.commits = [.created 105, .added 105 7 4] := by
  have once := add_to_cart_adds_once lostSurroundings (fun _ _ resolved => ⟨resolved, fun _ found => found⟩)
    lostSurroundings_plain 7 4 checkedOutPage checkedOutPage_resolved
  exact ⟨once.1, once.2, by decide⟩

/-! With nothing else under way. -/

section Failures

variable {db : Db} {slug : String} {token : CartToken} {variantId : VariantId} {quantity : Nat} {store : Store}

theorem requireStore_ok (published : db.publishedStore slug = some store) : requireStore slug db = .ok store := by
  unfold requireStore
  rw [published]
  rfl

theorem errorMessage_badRequest {message : String} (filled : message ≠ "") :
    errorMessage (catchFailure (.http (.badRequest message))) = message :=
  if_neg filled

theorem purchasable_error {failure : Failure} (refused : purchasable variantId db = .error failure) :
    isStaleCart (errorMessage (catchFailure failure)) = false := by
  unfold purchasable at refused
  split at refused
  · cases refused
    decide
  · split at refused
    · cases refused
      decide
    · cases refused

theorem assertStock_error {variant : ProductVariant} {failure : Failure}
    (refused : assertStock variant quantity db = .error failure) :
    isStaleCart (errorMessage (catchFailure failure)) = false := by
  unfold assertStock at refused
  split at refused
  · cases refused
  · split at refused
    · cases refused
      have filled : s!"Insufficient stock: only {max (available variant.id db.stock) 0} available" ≠ "" := by
        intro empty
        have chars := congrArg String.toList empty
        simp only [String.toList_append, String.toList_empty, List.append_eq_nil_iff] at chars
        exact absurd chars.1.1 (by decide)
      rw [errorMessage_badRequest filled]
      exact isStaleCart_insufficient _
    · cases refused

/-- With its cart live, what fails fails for the variant, which no fresh cart would help. -/
theorem putItem_refused {cart : Cart} (live : liveCart (some token) db = some cart)
    (refused : ¬ Supplied (some cart) variantId quantity db) :
    ∃ failure, putItem token variantId quantity db = .error failure ∧
      isStaleCart (errorMessage (catchFailure failure)) = false := by
  cases returned : putItem token variantId quantity db with
  | ok after =>
      obtain ⟨other, _, _, same, supplied, _⟩ := putItem_cases returned
      rw [live] at same
      cases same
      exact absurd supplied refused
  | error failure =>
      refine ⟨failure, rfl, ?_⟩
      unfold putItem at returned
      rw [openCart_ok_iff.mpr live] at returned
      simp only [ok_bind] at returned
      cases sold : purchasable variantId db with
      | error reason =>
          rw [sold] at returned
          cases returned
          exact purchasable_error sold
      | ok variant =>
          simp only [sold, ok_bind] at returned
          have reason (wanted : Nat) (rest : Tx Db) (fine : ∃ after, rest = .ok after)
              (given : (assertStock variant wanted db >>= fun _ => rest) = .error failure) :
              isStaleCart (errorMessage (catchFailure failure)) = false := by
            obtain ⟨after, rfl⟩ := fine
            cases stocked : assertStock variant wanted db with
            | ok _ =>
                rw [stocked] at given
                cases given
            | error short =>
                rw [stocked] at given
                cases given
                exact assertStock_error stocked
          split at returned
          · exact reason _ _ ⟨_, rfl⟩ returned
          · exact reason _ _ ⟨_, rfl⟩ returned

/-- Without it, what fails is what the client retries. -/
theorem putItem_stale (variantId : VariantId) (quantity : Nat) (stale : liveCart (some token) db = none) :
    ∃ failure, putItem token variantId quantity db = .error failure ∧
      isStaleCart (errorMessage (catchFailure failure)) = true := by
  unfold putItem
  cases found : db.findCart token with
  | none =>
      refine ⟨.http (.notFound "Cart not found"), ?_, by decide⟩
      simp [openCart, found, throw, throwThe, MonadExceptOf.throw, bind, Except.bind]
  | some cart =>
      have converted : cart.convertedOrderId ≠ none := by
        intro unconverted
        simp [liveCart, found, unconverted] at stale
      refine ⟨.http (.badRequest "Cart already checked out"), ?_, by decide⟩
      simp [openCart, found, converted, throw, throwThe, MonadExceptOf.throw, bind, Except.bind]

theorem requireStore_error (unpublished : db.publishedStore slug = none) :
    requireStore slug db = .error (.http (.notFound "Store not found")) := by
  unfold requireStore
  rw [unpublished]
  rfl

theorem createCart_fresh (store : Store) (fresh : db.findCart token = none) :
    db.createCart (freshCart store token) = .ok { db with carts := db.carts ++ [freshCart store token] } := by
  have absent : ∀ cart ∈ db.carts, cart.token ≠ token := by simpa [Db.findCart] using fresh
  have unique : ¬ (db.carts.any fun other => decide (other.token = (freshCart store token).token)) = true := by
    rw [Bool.not_eq_true, List.any_eq_false]
    intro other member named
    exact absent other member (of_decide_eq_true named)
  rw [Db.createCart, if_neg unique]
  rfl

end Failures

/-- No other request, no other tab, and every answer arrives. -/
structure Alone (around : Surroundings) : Prop where
  quiet : ∀ turn db, around.others turn db = db
  keeps : KeepsToken around
  answered : ∀ request, around.answers request = .works

section Alone

variable {around : Surroundings} {page after : Page} {token : CartToken} {variantId : VariantId} {quantity : Nat}
  (alone : Alone around)

include alone

theorem Alone.yield (page : Page) : page.yield around = { page with turns := page.turns + 1 } := by
  rw [Page.yield, alone.quiet, alone.keeps]

theorem Alone.send_ok {handler : Page → Except ErrorBody CartView × Page} {view : CartView}
    (ran : handler { page with sent := page.sent + 1 } = (.ok view, after)) :
    page.send around handler = (.ok view, { after with turns := after.turns + 1 }) := by
  unfold Page.send
  simp only [alone.answered, ran, alone.yield]

theorem Alone.send_error {handler : Page → Except ErrorBody CartView × Page} {body : ErrorBody}
    (ran : handler { page with sent := page.sent + 1 } = (.error body, after)) :
    page.send around handler = (.error (errorMessage body), { after with turns := after.turns + 1 }) := by
  unfold Page.send
  simp only [alone.answered, ran, alone.yield]

theorem newCart_alone {store : Store} (published : page.db.publishedStore around.slug = some store)
    (fresh : ∀ turn, page.db.findCart (around.uuid turn) = none) :
    ∃ cart after, page.newCart around = (.ok cart.token, after) ∧ page.db.findCart cart.token = none ∧
      cart.convertedOrderId = none ∧ cart.items = [] ∧
      after.cartToken = some cart.token ∧ after.db = { page.db with carts := page.db.carts ++ [cart] } := by
  have created : ∃ token view after, Page.createCart around { page with sent := page.sent + 1 } = (.ok view, after) ∧
      view.token = token ∧ page.db.findCart token = none ∧
      after.db = { page.db with carts := page.db.carts ++ [freshCart store token] } := by
    unfold Page.createCart
    simp only [alone.yield, requireStore_ok published, createCart_fresh store (fresh _)]
    exact ⟨_, _, _, rfl, rfl, fresh _, rfl⟩
  obtain ⟨token, view, after, ran, rfl, absent, rows⟩ := created
  unfold Page.newCart Page.postCart
  rw [alone.send_ok ran]
  exact ⟨freshCart store view.token, _, rfl, absent, rfl, rfl, rfl, rows⟩

theorem newCart_unpublished (unpublished : page.db.publishedStore around.slug = none) :
    ∃ message after, page.newCart around = (.error message, after) := by
  have refused : ∃ body after, Page.createCart around { page with sent := page.sent + 1 } = (.error body, after) := by
    unfold Page.createCart
    simp only [alone.yield, requireStore_error unpublished]
    exact ⟨_, _, rfl⟩
  obtain ⟨body, after, ran⟩ := refused
  unfold Page.newCart Page.postCart
  rw [alone.send_error ran]
  exact ⟨_, _, rfl⟩

/-- The answer to a request for an item that its live cart takes. -/
theorem postItem_alone (resolved : Resolved page.db) (valid : quantityErrors quantity = []) {cart : Cart}
    (live : liveCart (some token) page.db = some cart)
    (addable : Addable around.slug (some cart) variantId quantity page.db) :
    ∃ view after, page.postItem around token variantId quantity = (.ok view, after) ∧ view.token = token ∧
      after.cartToken = page.cartToken ∧ viewCart token after.db = .ok view ∧
      putItem token variantId quantity page.db = .ok after.db := by
  obtain ⟨⟨store, published⟩, supplied⟩ := addable
  obtain ⟨db, added⟩ := putItem_returns live supplied
  obtain ⟨found, there⟩ := Option.isSome_iff_exists.mp (putItem_findCart added).1
  obtain ⟨view, viewed, named⟩ := viewCart_ok (putItem_resolved resolved added) there
  have answered : ∃ after, Page.addItem around token variantId quantity { page with sent := page.sent + 1 } =
      (.ok view, after) ∧ after.cartToken = page.cartToken ∧ after.db = db := by
    unfold Page.addItem
    rw [if_neg (by simp [valid])]
    simp only [alone.yield, requireStore_ok published, added, Page.commit, viewed]
    exact ⟨_, rfl, rfl, rfl⟩
  obtain ⟨after, ran, stored, rfl⟩ := answered
  exact ⟨view, _, alone.send_ok ran, named, stored, viewed, added⟩

theorem postItem_invalid (token : CartToken) (variantId : VariantId) (invalid : quantityErrors quantity ≠ []) :
    ∃ message, page.postItem around token variantId quantity =
        (.error message, { page with sent := page.sent + 1, turns := page.turns + 1 }) ∧
      isStaleCart message = false := by
  have ran : Page.addItem around token variantId quantity { page with sent := page.sent + 1 } =
      (.error { statusCode := 400, error := "Bad Request", message := .inr (quantityErrors quantity) },
        { page with sent := page.sent + 1 }) := if_pos invalid
  refine ⟨_, alone.send_error ran, ?_⟩
  unfold quantityErrors
  split <;> split <;> decide

/-- What the item's transaction fails with is what the page is told. -/
theorem postItem_failed {store : Store} (published : page.db.publishedStore around.slug = some store)
    (valid : quantityErrors quantity = []) {failure : Failure}
    (failed : putItem token variantId quantity page.db = .error failure) :
    ∃ after, page.postItem around token variantId quantity = (.error (errorMessage (catchFailure failure)), after) ∧
      after.db = page.db := by
  have ran : ∃ after, Page.addItem around token variantId quantity { page with sent := page.sent + 1 } =
      (.error (catchFailure failure), after) ∧ after.db = page.db := by
    unfold Page.addItem
    rw [if_neg (by simp [valid])]
    simp only [alone.yield, requireStore_ok published, failed]
    exact ⟨_, rfl, rfl⟩
  obtain ⟨after, ran, rows⟩ := ran
  exact ⟨_, alone.send_error ran, rows⟩

theorem postItem_refused {store : Store} (published : page.db.publishedStore around.slug = some store) {cart : Cart}
    (live : liveCart (some token) page.db = some cart)
    (refused : ¬ (quantityErrors quantity = [] ∧ Addable around.slug (some cart) variantId quantity page.db)) :
    ∃ message after, page.postItem around token variantId quantity = (.error message, after) ∧
      isStaleCart message = false := by
  by_cases valid : quantityErrors quantity = []
  · have unsupplied : ¬ Supplied (some cart) variantId quantity page.db :=
      fun supplied => refused ⟨valid, ⟨store, published⟩, supplied⟩
    obtain ⟨failure, failed, plain⟩ := putItem_refused live unsupplied
    obtain ⟨after, posted, _⟩ := postItem_failed alone published valid failed
    exact ⟨_, after, posted, plain⟩
  · obtain ⟨message, posted, plain⟩ := postItem_invalid alone token variantId valid
    exact ⟨message, _, posted, plain⟩

end Alone

/-- What a call that returned has left: the line in the cart that the page names, on top of
what the cart held, and the other carts as they were. -/
structure Delivered (db : Db) (cart : Option Cart) (variantId : VariantId) (quantity : Nat) (view : CartView)
    (after : Page) : Prop where
  keeps : after.cartToken = some view.token
  viewed : viewCart view.token after.db = .ok view
  line : ∃ variant filled, purchasable variantId db = .ok variant ∧
    liveCart (some view.token) after.db = some filled ∧
    filled.items = putLine ((cart.map (·.items)).getD [])
      ⟨variantId, heldUnits cart variantId + quantity, variant.priceCents⟩
  others : ∀ other, other ≠ view.token → after.db.findCart other = db.findCart other

section Deliveries

variable {db : Db} {slug : String} {variantId : VariantId} {quantity : Nat}

theorem delivered_of_added {token : CartToken} {cart : Cart} {view : CartView} {after : Page}
    (live : liveCart (some token) db = some cart) (named : view.token = token)
    (keeps : after.cartToken = some token) (viewed : viewCart token after.db = .ok view)
    (added : putItem token variantId quantity db = .ok after.db) :
    Delivered db (some cart) variantId quantity view after := by
  subst named
  refine ⟨keeps, viewed, ?_, (putItem_findCart added).2⟩
  obtain ⟨other, variant, change, same, _, sold, moved, kept, _, filled⟩ := putItem_cases added
  rw [live] at same
  cases same
  refine ⟨variant, change cart, sold, ?_, by rw [filled]; rfl⟩
  obtain ⟨found, unconverted⟩ := findCart_of_live live
  have named : cart.token = view.token := by simpa using List.find?_some found
  have there : after.db.findCart view.token = some (change cart) := by
    rw [moved, Db.updateCart, Db.findCart_update db _ change view.token fun cart => (kept cart).1, found]
    simp [named]
  simp [liveCart, there, (kept cart).2, unconverted]

variable {cart : Cart}

theorem heldUnits_empty (empty : cart.items = []) : heldUnits (some cart) variantId = heldUnits none variantId := by
  simp [heldUnits, findLine, empty]

theorem addable_fresh (empty : cart.items = []) (carts : List Cart) :
    Addable slug (some cart) variantId quantity { db with carts } ↔ Addable slug none variantId quantity db := by
  unfold Addable Supplied
  rw [heldUnits_empty empty]
  rfl

theorem findCart_append (db : Db) (cart : Cart) (token : CartToken) :
    ({ db with carts := db.carts ++ [cart] } : Db).findCart token =
      (db.findCart token).or (if cart.token = token then some cart else none) := by
  simp only [Db.findCart, List.find?_append]
  by_cases named : cart.token = token <;> simp [named]

/-- A cart that has just been made is live, and its delivery is one to an empty basket. -/
theorem Delivered.of_fresh {view : CartView} {after : Page} (empty : cart.items = [])
    (named : view.token = cart.token)
    (delivered : Delivered { db with carts := db.carts ++ [cart] } (some cart) variantId quantity view after) :
    Delivered db none variantId quantity view after := by
  obtain ⟨keeps, viewed, ⟨variant, filled, sold, live, items⟩, others⟩ := delivered
  refine ⟨keeps, viewed, ⟨variant, filled, sold, live, ?_⟩, fun other apart => ?_⟩
  · rw [items, heldUnits_empty empty, Option.map_some, Option.getD_some, empty]
    rfl
  · rw [others other apart, findCart_append, if_neg (named ▸ Ne.symm apart), Option.or_none]

end Deliveries

/-- What `addToCart` asks of the rows and of its arguments. -/
def Deliverable (slug : String) (cart : Option Cart) (variantId : VariantId) (quantity : Nat) (db : Db) : Prop :=
  quantityErrors quantity = [] ∧ Addable slug cart variantId quantity db

section Recovery

variable {around : Surroundings} {page : Page} {store : Store} (variantId : VariantId) (quantity : Nat)
  (alone : Alone around)

include alone

/-- An attempt with a live cart is the last one. -/
theorem attempt_live (resolved : Resolved page.db) (published : page.db.publishedStore around.slug = some store)
    {cart : Cart} (live : liveCart (some cart.token) page.db = some cart)
    (stored : page.cartToken = some cart.token) :
    (Deliverable around.slug (some cart) variantId quantity page.db →
        ∃ view after, page.postItem around cart.token variantId quantity = (.ok view, after) ∧
          view.token = cart.token ∧ Delivered page.db (some cart) variantId quantity view after) ∧
      (¬ Deliverable around.slug (some cart) variantId quantity page.db →
        ∃ message after, page.postItem around cart.token variantId quantity = (.error message, after) ∧
          isStaleCart message = false) := by
  refine ⟨fun deliverable => ?_, fun refused => postItem_refused alone published live refused⟩
  obtain ⟨valid, addable⟩ := deliverable
  obtain ⟨view, after, posted, named, keeps, viewed, added⟩ := postItem_alone alone resolved valid live addable
  exact ⟨view, after, posted, named, delivered_of_added live named (keeps.trans stored) viewed added⟩

/-- So is one with a cart that was just made. -/
theorem attempt_fresh (resolved : Resolved page.db) (fresh : ∀ turn, page.db.findCart (around.uuid turn) = none)
    (published : page.db.publishedStore around.slug = some store) :
    ∃ token middle, page.newCart around = (.ok token, middle) ∧
      (Deliverable around.slug none variantId quantity page.db →
        ∃ view after, middle.postItem around token variantId quantity = (.ok view, after) ∧
          Delivered page.db none variantId quantity view after) ∧
      (¬ Deliverable around.slug none variantId quantity page.db →
        ∃ message after, middle.postItem around token variantId quantity = (.error message, after) ∧
          isStaleCart message = false) := by
  obtain ⟨cart, middle, created, absent, unconverted, empty, stored, rows⟩ := newCart_alone alone published fresh
  have live : liveCart (some cart.token) middle.db = some cart := by
    simp [liveCart, rows, findCart_append, absent, unconverted]
  have calm : Resolved middle.db := by
    intro other member item line
    rw [rows] at member ⊢
    cases List.mem_append.mp member with
    | inl old => exact resolved other old item line
    | inr new =>
        rw [List.mem_singleton.mp new, empty] at line
        cases line
  have store_kept : middle.db.publishedStore around.slug = some store := by
    rw [rows]
    exact published
  have same : Deliverable around.slug (some cart) variantId quantity middle.db ↔
      Deliverable around.slug none variantId quantity page.db := by
    rw [rows]
    exact and_congr_right fun _ => addable_fresh empty _
  obtain ⟨delivers, refuses⟩ := attempt_live variantId quantity alone calm store_kept live stored
  refine ⟨cart.token, middle, created, fun deliverable => ?_, fun refused => refuses (same.not.mpr refused)⟩
  obtain ⟨view, after, posted, named, delivered⟩ := delivers (same.mpr deliverable)
  rw [rows] at delivered
  exact ⟨view, after, posted, delivered.of_fresh empty named⟩

theorem retryItem_unpublished (unpublished : page.db.publishedStore around.slug = none) :
    ∃ message after, page.retryItem around variantId quantity = (.error message, after) := by
  obtain ⟨message, after, failed⟩ := newCart_unpublished alone unpublished
  unfold Page.retryItem
  rw [failed]
  exact ⟨message, after, rfl⟩

theorem retryItem_published (resolved : Resolved page.db)
    (fresh : ∀ turn, page.db.findCart (around.uuid turn) = none)
    (published : page.db.publishedStore around.slug = some store) :
    (Deliverable around.slug none variantId quantity page.db →
        ∃ view after, page.retryItem around variantId quantity = (.ok view, after) ∧
          Delivered page.db none variantId quantity view after) ∧
      (¬ Deliverable around.slug none variantId quantity page.db →
        ∃ message after, page.retryItem around variantId quantity = (.error message, after)) := by
  obtain ⟨token, middle, created, delivers, refuses⟩ :=
    attempt_fresh variantId quantity alone resolved fresh published
  unfold Page.retryItem
  rw [created]
  dsimp only
  refine ⟨fun deliverable => ?_, fun refused => ?_⟩
  · obtain ⟨view, after, posted, delivered⟩ := delivers deliverable
    rw [posted]
    exact ⟨view, after, rfl, delivered⟩
  · obtain ⟨body, after, posted, _⟩ := refuses refused
    rw [posted]
    exact ⟨_, after, rfl⟩

theorem postItem_unpublished (token : CartToken) (unpublished : page.db.publishedStore around.slug = none) :
    ∃ message after, page.postItem around token variantId quantity = (.error message, after) ∧ after.db = page.db := by
  by_cases valid : quantityErrors quantity = []
  · have ran : ∃ body after, Page.addItem around token variantId quantity { page with sent := page.sent + 1 } =
        (.error body, after) ∧ after.db = page.db := by
      unfold Page.addItem
      rw [if_neg (by simp [valid])]
      simp only [alone.yield, requireStore_error unpublished]
      exact ⟨_, _, rfl, rfl⟩
    obtain ⟨body, after, ran, rows⟩ := ran
    exact ⟨_, _, alone.send_error ran, rows⟩
  · obtain ⟨message, posted, _⟩ := postItem_invalid alone token variantId valid
    exact ⟨message, _, posted, rfl⟩

/-- A cart that is gone or checked out leaves the rows as they were. -/
theorem postItem_stale {token : CartToken} (published : page.db.publishedStore around.slug = some store)
    (stale : liveCart (some token) page.db = none) :
    ∃ message after, page.postItem around token variantId quantity = (.error message, after) ∧ after.db = page.db ∧
      (quantityErrors quantity = [] → isStaleCart message = true) := by
  by_cases valid : quantityErrors quantity = []
  · obtain ⟨failure, failed, told⟩ := putItem_stale variantId quantity stale
    obtain ⟨after, posted, rows⟩ := postItem_failed alone published valid failed
    exact ⟨_, after, posted, rows, fun _ => told⟩
  · obtain ⟨message, posted, _⟩ := postItem_invalid alone token variantId valid
    exact ⟨message, _, posted, rfl, fun fine => absurd fine valid⟩

theorem addToCart_unpublished (unpublished : page.db.publishedStore around.slug = none) :
    ∃ message after, page.addToCart around variantId quantity = (.error message, after) := by
  unfold Page.addToCart Page.takeToken
  cases stored : page.cartToken with
  | none =>
      obtain ⟨message, after, failed⟩ := newCart_unpublished alone unpublished
      dsimp only
      rw [failed]
      exact ⟨message, after, rfl⟩
  | some token =>
      obtain ⟨message, after, posted, rows⟩ := postItem_unpublished variantId quantity alone token unpublished
      dsimp only
      rw [posted]
      dsimp only
      split
      · exact ⟨_, after, rfl⟩
      · exact retryItem_unpublished variantId quantity alone (by rw [rows]; exact unpublished)

/-- How a call ends, by the cart that the page's token stands for. -/
def Recovers (around : Surroundings) (cart : Option Cart) (variantId : VariantId) (quantity : Nat) (page : Page) : Prop :=
  (Deliverable around.slug cart variantId quantity page.db →
      ∃ view after, page.addToCart around variantId quantity = (.ok view, after) ∧
        Delivered page.db cart variantId quantity view after ∧ ∀ live, cart = some live → view.token = live.token) ∧
    (¬ Deliverable around.slug cart variantId quantity page.db →
      ∃ message after, page.addToCart around variantId quantity = (.error message, after))

theorem recovers_unstored (resolved : Resolved page.db) (fresh : ∀ turn, page.db.findCart (around.uuid turn) = none)
    (published : page.db.publishedStore around.slug = some store) (missing : page.cartToken = none) :
    Recovers around none variantId quantity page := by
  obtain ⟨token, middle, created, delivers, refuses⟩ := attempt_fresh variantId quantity alone resolved fresh published
  unfold Recovers Page.addToCart Page.takeToken
  rw [missing]
  dsimp only
  rw [created]
  dsimp only
  refine ⟨fun deliverable => ?_, fun refused => ?_⟩
  · obtain ⟨view, after, posted, delivered⟩ := delivers deliverable
    rw [posted]
    exact ⟨view, after, rfl, delivered, fun _ same => by cases same⟩
  · obtain ⟨body, after, posted, plain⟩ := refuses refused
    rw [posted]
    exact ⟨_, after, if_pos (by simp [plain])⟩

theorem recovers_live (resolved : Resolved page.db) (published : page.db.publishedStore around.slug = some store)
    {cart : Cart} (live : liveCart (some cart.token) page.db = some cart) (stored : page.cartToken = some cart.token) :
    Recovers around (some cart) variantId quantity page := by
  obtain ⟨delivers, refuses⟩ := attempt_live variantId quantity alone resolved published live stored
  unfold Recovers Page.addToCart Page.takeToken
  rw [stored]
  dsimp only
  refine ⟨fun deliverable => ?_, fun refused => ?_⟩
  · obtain ⟨view, after, posted, named, delivered⟩ := delivers deliverable
    rw [posted]
    refine ⟨view, after, rfl, delivered, fun other same => ?_⟩
    cases same
    exact named
  · obtain ⟨body, after, posted, plain⟩ := refuses refused
    rw [posted]
    exact ⟨_, after, if_pos (by simp [plain])⟩

theorem recovers_stale (resolved : Resolved page.db) (fresh : ∀ turn, page.db.findCart (around.uuid turn) = none)
    (published : page.db.publishedStore around.slug = some store) {token : CartToken}
    (stale : liveCart (some token) page.db = none) (stored : page.cartToken = some token) :
    Recovers around none variantId quantity page := by
  obtain ⟨message, middle, posted, rows, told⟩ := postItem_stale variantId quantity alone published stale
  obtain ⟨delivers, refuses⟩ := retryItem_published variantId quantity alone
    (show Resolved middle.db by rw [rows]; exact resolved) (by rw [rows]; exact fresh) (by rw [rows]; exact published)
  rw [rows] at delivers refuses
  unfold Recovers Page.addToCart Page.takeToken
  rw [stored]
  dsimp only
  rw [posted]
  dsimp only
  refine ⟨fun deliverable => ?_, fun refused => ?_⟩
  · rw [if_neg (by simp [told deliverable.1])]
    obtain ⟨view, after, returned, delivered⟩ := delivers deliverable
    exact ⟨view, after, returned, delivered, fun _ same => by cases same⟩
  · split
    · exact ⟨_, middle, rfl⟩
    · exact refuses refused

end Recovery

/-- With nothing else under way a call returns exactly when its variant can be bought: a
token that is missing, unknown or of a cart that was checked out is no reason to fail.  What
it returns is the cart that the page names from then on, with the item on top of what the
page's live cart held, and no other cart has changed. -/
theorem add_to_cart_recovers (around : Surroundings) (alone : Alone around)
    (variantId : VariantId) (quantity : Nat) (page : Page) (resolved : Resolved page.db)
    (fresh : ∀ turn, page.db.findCart (around.uuid turn) = none) :
    (Deliverable around.slug (liveCart page.cartToken page.db) variantId quantity page.db →
        ∃ view after, page.addToCart around variantId quantity = (.ok view, after) ∧
          Delivered page.db (liveCart page.cartToken page.db) variantId quantity view after ∧
          ∀ cart, liveCart page.cartToken page.db = some cart → view.token = cart.token) ∧
      (¬ Deliverable around.slug (liveCart page.cartToken page.db) variantId quantity page.db →
        ∃ message after, page.addToCart around variantId quantity = (.error message, after)) := by
  cases published : page.db.publishedStore around.slug with
  | none =>
      refine ⟨fun deliverable => ?_, fun _ => addToCart_unpublished variantId quantity alone published⟩
      obtain ⟨store, same⟩ := deliverable.2.1
      rw [published] at same
      cases same
  | some store =>
      cases stored : page.cartToken with
      | none => exact recovers_unstored variantId quantity alone resolved fresh published stored
      | some token =>
          cases live : liveCart (some token) page.db with
          | none => exact recovers_stale variantId quantity alone resolved fresh published live stored
          | some cart =>
              have named : cart.token = token := by simpa using List.find?_some (findCart_of_live live).1
              subst named
              exact recovers_live variantId quantity alone resolved published live stored

theorem lampSurroundings_alone : Alone lampSurroundings :=
  ⟨fun _ _ => rfl, fun _ _ => rfl, fun _ => rfl⟩

theorem checked_out_page_recovers :
    ∃ view after, checkedOutPage.addToCart lampSurroundings 7 4 = (.ok view, after) ∧
      Delivered checkedOutPage.db (liveCart (some 1) checkedOutPage.db) 7 4 view after ∧
      ∀ cart, liveCart (some 1) checkedOutPage.db = some cart → view.token = cart.token :=
  (add_to_cart_recovers lampSurroundings lampSurroundings_alone 7 4 checkedOutPage checkedOutPage_resolved
    fun turn => by simp [Db.findCart, checkedOutPage, lampSurroundings]).1
      ⟨by decide, ⟨_, rfl⟩, _, rfl, by decide⟩

end Aicos.Properties
