/- Module: ProductSite/Storefront/CartPage
   source: react-router-bootstrap-app/src/pages/CartPage.jsx, components/BillingModal.jsx
   digest: The checkout loop of the cart page, its modal, and which items it has reserved. -/

import Mathlib.Data.List.Perm.Basic
import ProductSite.Backend.PurchaseRoutes

set_option autoImplicit false
set_option relaxedAutoImplicit false

namespace ProductSite.Storefront.CartPage

open ProductSite.Foundation.Wire (Reply)
open ProductSite.Backend.Models (Engine Session State lower)
open ProductSite.Backend.InventoryRoutes
  (DecrementBody QuantityMessage RestoreItem decrementQuantity restoreReservedInventory)
open ProductSite.Backend.PurchaseRoutes (PurchaseBody PurchaseDump PurchaseItem)

structure CartKit where
  id : Nat
  name : String
  price : ℚ

structure CartInventory where
  id : Nat
  location : String
  locationName : String

/-- An item of the cart as the API dumps it: the nested objects are those that its keys
refer to. -/
structure CartItem where
  id : Nat
  kitId : Nat
  inventoryId : Option Nat
  quantity : Int
  kit : Option CartKit
  inventory : Option CartInventory
  kit_refers : ∀ k, kit = some k → k.id = kitId
  inventory_refers : inventory.map CartInventory.id = inventoryId

structure Details where
  id : Nat
  kitId : Nat
  quantity : Int
  location : Option String
  inventoryId : Option Nat

/-- `item.quantity || 1`. -/
def orOne (quantity : Int) : Int := if quantity = 0 then 1 else quantity

theorem orOne_ne_zero (quantity : Int) : orOne quantity ≠ 0 := by
  unfold orOne
  split
  · omega
  · assumption

theorem orOne_eq_self {quantity : Int} : orOne quantity = quantity ↔ quantity ≠ 0 := by
  constructor
  · intro same zero
    exact orOne_ne_zero quantity (same.trans zero)
  · intro nonzero
    exact if_neg nonzero

/-- Without a kit the item itself is taken for one, and its id for that of a kit. -/
def getDetails (item : CartItem) : Details where
  id := item.id
  kitId := (item.kit.map CartKit.id).getD item.id
  quantity := orOne item.quantity
  location := (item.inventory.map CartInventory.location).filter (fun text => text ≠ "")
  inventoryId := (item.inventory.map CartInventory.id).filter (fun id => id ≠ 0)

def locationName (item : CartItem) : String :=
  (item.inventory.map CartInventory.locationName).getD ""

def isWarehouse (item : CartItem) : Bool := lower (locationName item) == "warehouse"

/-- The body of the decrement request, without the `inventory_id` that no handler reads. -/
def decrementBody (item : CartItem) : DecrementBody :=
  let details := getDetails item
  ⟨.value (locationName item), .value details.quantity, .value details.kitId,
    .ofOption details.location⟩

structure Entry where
  kitId : Nat
  quantity : Int
  inventoryId : Option Nat
  cartId : Nat
  deriving DecidableEq

def entry (item : CartItem) : Entry :=
  let details := getDetails item
  ⟨details.kitId, details.quantity, details.inventoryId, details.id⟩

structure Basket where
  warehouse : List Entry
  pickups : List Entry
  alerts : List String
  deriving DecidableEq

def orElse (text : Option String) (fallback : String) : String :=
  (text.filter (fun t => t ≠ "")).getD fallback

def issueText (item : CartItem) (reply : Reply QuantityMessage) : String :=
  let name := orElse (item.kit.map CartKit.name) "item"
  let error := orElse reply.errorText "Unavailable"
  s!"Inventory issue for {name}: {error}"

def Basket.record (basket : Basket) (item : CartItem) (reply : Reply QuantityMessage) : Basket :=
  if reply.fetchOk then
    if isWarehouse item then { basket with warehouse := basket.warehouse ++ [entry item] }
    else { basket with pickups := basket.pickups ++ [entry item] }
  else { basket with alerts := basket.alerts ++ [issueText item reply] }

section Checkout

/-- The decrement request as the client sees it: it changes the world, and is answered or
rejected with a message. -/
abbrev Decrement (σ : Type) := σ → DecrementBody → Except String (Reply QuantityMessage) × σ

variable {σ : Type} (send : Decrement σ)

def decrementAt (engine : Engine) (session : Session) : Decrement State :=
  fun s body =>
    let answer := decrementQuantity engine session s body
    (.ok answer.1, answer.2)

def checkoutLoop (s : σ) (basket : Basket) : List CartItem → (Basket × Option String) × σ
  | [] => ((basket, none), s)
  | item :: rest =>
      match send s (decrementBody item) with
      -- a rejected request ends the loop; what was reserved so far stays reserved
      | (.error message, after) => ((basket, some message), after)
      | (.ok reply, after) => checkoutLoop after (basket.record item reply) rest

structure Page where
  cart : List CartItem
  showBillingModal : Bool
  warehouseItems : List Entry
  selectedKitName : String
  alerts : List String

def Page.opened (cart : List CartItem) : Page := ⟨cart, false, [], "", []⟩

def Page.alert (page : Page) (text : String) : Page :=
  { page with alerts := page.alerts ++ [text] }

def kitName (cart : List CartItem) (cartId : Nat) : String :=
  orElse (((cart.find? (fun item => item.id == cartId)).bind CartItem.kit).map CartKit.name) "Kit"

/-- What the page does with the two lists: only the warehouse list is kept. -/
def Page.afterLoop (page : Page) (basket : Basket) : Page :=
  let page := { page with alerts := page.alerts ++ basket.alerts }
  match basket.warehouse, basket.pickups with
  | first :: rest, _ =>
      { page with
        selectedKitName := kitName page.cart first.cartId
        warehouseItems := first :: rest
        showBillingModal := true }
  -- the entries for pick-up are dropped here
  | [], first :: _ =>
      { page with
        selectedKitName := kitName page.cart first.cartId
        warehouseItems := []
        showBillingModal := true }
  | [], [] => page.alert "No items available to checkout after inventory checks."

def handleCheckout (loggedIn : Bool) (page : Page) (s : σ) : Page × σ :=
  if !loggedIn then (page.alert "You must be logged in to checkout.", s)
  else if page.cart.isEmpty then (page.alert "Your cart is empty.", s)
  else
    match checkoutLoop send s ⟨[], [], []⟩ page.cart with
    | ((basket, some message), after) =>
        (({ page with alerts := page.alerts ++ basket.alerts }).alert
          ("Checkout failed: " ++ message), after)
    | ((basket, none), after) => (page.afterLoop basket, after)

/-- The items whose decrement request is answered with success. -/
def acceptedItems (s : σ) : List CartItem → List CartItem
  | [] => []
  | item :: rest =>
      match send s (decrementBody item) with
      | (.error _, _) => []
      | (.ok reply, after) =>
          if reply.fetchOk then item :: acceptedItems after rest else acceptedItems after rest

def reservedEntries (s : σ) (cart : List CartItem) : List Entry :=
  let basket := (checkoutLoop send s ⟨[], [], []⟩ cart).1.1
  basket.warehouse ++ basket.pickups

end Checkout

def restoreItem (entry : Entry) : RestoreItem :=
  ⟨.ofOption entry.inventoryId, .value entry.quantity⟩

def handleModalClose {σ : Type} (restore : σ → List RestoreItem → σ) (page : Page) (s : σ) :
    Page × σ :=
  ({ page with showBillingModal := false }, restore s (page.warehouseItems.map restoreItem))

def purchaseItem (item : CartItem) : PurchaseItem :=
  ⟨.value item.kitId, .ofOption item.inventoryId, .value item.quantity,
    item.kit.map (fun kit => ⟨some kit.price⟩)⟩

/-- The payload of the modal, without the `shipping_address` that no handler reads. -/
def payload (cart : List CartItem) (email paymentMethod : String) : PurchaseBody :=
  ⟨.value (cart.map purchaseItem), some ⟨some paymentMethod, some email⟩, none, .absent⟩

inductive SubmitOutcome where
  | notReady
  | alerted (text : String)
  | succeeded
  deriving DecidableEq

/-- `handleSubmit` of the billing modal; the payment method is created by the Stripe client. -/
def handleSubmit {σ : Type} (post : σ → PurchaseBody → Reply (List PurchaseDump) × σ) (ready : Bool)
    (paymentMethod : Except String String) (email : String) (cart : List CartItem) (s : σ) :
    SubmitOutcome × σ :=
  if !ready then (.notReady, s)
  else
    match paymentMethod with
    | .error message => (.alerted message, s)
    | .ok id =>
        let answer := post s (payload cart email id)
        if answer.1.fetchOk then (.succeeded, answer.2)
        else (.alerted (orElse answer.1.errorText "Payment failed"), answer.2)

theorem handleSubmit_sent {σ : Type} (post : σ → PurchaseBody → Reply (List PurchaseDump) × σ)
    (id email : String) (cart : List CartItem) (s : σ) :
    handleSubmit post true (.ok id) email cart s =
      if (post s (payload cart email id)).1.fetchOk then
        (.succeeded, (post s (payload cart email id)).2)
      else
        (.alerted (orElse (post s (payload cart email id)).1.errorText "Payment failed"),
          (post s (payload cart email id)).2) := rfl

theorem handleCheckout_cart {σ : Type} (send : Decrement σ) (loggedIn : Bool) (page : Page)
    (s : σ) : (handleCheckout send loggedIn page s).1.cart = page.cart := by
  unfold handleCheckout
  split
  · rfl
  · split
    · rfl
    · split
      · rfl
      · unfold Page.afterLoop
        simp only
        split <;> rfl

section Loop

variable {σ : Type} (send : Decrement σ)

theorem checkoutLoop_basket (s : σ) (basket : Basket) (cart : List CartItem) :
    (checkoutLoop send s basket cart).1.1.warehouse =
        basket.warehouse ++ ((acceptedItems send s cart).filter isWarehouse).map entry ∧
      (checkoutLoop send s basket cart).1.1.pickups =
        basket.pickups ++
          ((acceptedItems send s cart).filter (fun item => !isWarehouse item)).map entry := by
  induction cart generalizing s basket with
  | nil => simp [checkoutLoop, acceptedItems]
  | cons item rest ih =>
      cases answer : send s (decrementBody item) with
      | mk result after =>
          cases result with
          | error message => simp [checkoutLoop, acceptedItems, answer]
          | ok reply =>
              obtain ⟨warehouse, pickups⟩ := ih after (basket.record item reply)
              simp only [checkoutLoop, acceptedItems, answer, warehouse, pickups]
              cases success : reply.fetchOk with
              | false => simp [Basket.record, success]
              | true =>
                  cases kind : isWarehouse item with
                  | false => simp [Basket.record, success, kind]
                  | true => simp [Basket.record, success, kind]

theorem reservedEntries_perm (s : σ) (cart : List CartItem) :
    (reservedEntries send s cart).Perm ((acceptedItems send s cart).map entry) := by
  obtain ⟨warehouse, pickups⟩ := checkoutLoop_basket send s ⟨[], [], []⟩ cart
  unfold reservedEntries
  simp only [warehouse, pickups, List.nil_append]
  rw [← List.map_append]
  exact (List.filter_append_perm isWarehouse _).map entry

theorem acceptedItems_sublist (s : σ) (cart : List CartItem) :
    (acceptedItems send s cart).Sublist cart := by
  induction cart generalizing s with
  | nil => exact List.Sublist.slnil
  | cons item rest ih =>
      unfold acceptedItems
      split
      · exact List.nil_sublist _
      · split
        · exact (ih _).cons_cons item
        · exact (ih _).cons item

end Loop

section Samples

/-- Units of one kit for ten dollars, from a row at a location. -/
def sandTray (id row : Nat) (location name : String) (quantity : Int) : CartItem :=
  ⟨id, 1, some row, quantity, some ⟨1, "Sand tray", 10⟩, some ⟨row, location, name⟩,
    by rintro k ⟨rfl⟩; rfl, rfl⟩

end Samples

end ProductSite.Storefront.CartPage
