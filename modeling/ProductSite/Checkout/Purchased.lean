/- Module: ProductSite/Checkout/Purchased
   source: react-router-bootstrap-app/src/pages/CartPage.jsx, components/BillingModal.jsx
   digest: A checkout buys what it has reserved iff no decrement failed and no quantity is 0. -/

import ProductSite.Checkout.Submission

set_option autoImplicit false
set_option relaxedAutoImplicit false

namespace ProductSite.Checkout.Purchased

open ProductSite.Foundation.KeyedTable (Table)
open ProductSite.Foundation.Wire (JsonField)
open ProductSite.Backend.Models hiding CartItem
open ProductSite.Backend.PurchaseRoutes
open ProductSite.Backend.PurchaseSaving
open ProductSite.Backend.Requests (customer sampleServer sampleShop shelf)
open ProductSite.Checkout.Submission (Buys buys_of_creates submit_cases)
open ProductSite.Storefront.CartPage

structure Units where
  kitId : Nat
  inventoryId : Option Nat
  quantity : Int
  deriving DecidableEq

def bought (purchase : Purchase) : Units :=
  ⟨purchase.kitId, purchase.inventoryId, purchase.quantity⟩

def reserved (entry : Entry) : Units := ⟨entry.kitId, entry.inventoryId, entry.quantity⟩

def inCart (item : CartItem) : Units := ⟨item.kitId, item.inventoryId, item.quantity⟩

/-- The units of a cart item, with the quantity that the loop asks for. -/
def asked (item : CartItem) : Units := ⟨item.kitId, item.inventoryId, orOne item.quantity⟩

section Submitting

variable {server : Server} {session : Session} {stripe : PaymentRequest → StripeOutcome}
  {now : Nat} {s : State}

theorem bought_of_buys {user : Nat} {cart : List CartItem} {created : List Purchase}
    (buys : List.Forall₂ (Buys user) cart created) : created.map bought = cart.map inCart := by
  induction buys with
  | nil => rfl
  | @cons item purchase rest later first others ih =>
      obtain ⟨-, kit, row, units⟩ := first
      rw [List.map_cons, List.map_cons, ih, bought, inCart, kit, row, units]

/-- An item whose purchase is stored has a kit and a row, so the client read both. -/
private theorem reserved_entry {item : CartItem} (storable : Storable server.engine s.db
      (purchaseItem item))
    (priced : ((purchaseItem item).kit.bind ItemKit.price).isSome) :
    reserved (entry item) = asked item := by
  obtain ⟨inventory, -, -, row, -⟩ := storable
  have named : (purchaseItem item).inventoryId.get = item.inventoryId := JsonField.get_ofOption _
  rw [named] at row
  obtain ⟨id, given, found⟩ := Option.bind_eq_some_iff.mp row
  have positive := Table.positive_of_get? found
  have inventoryId : (getDetails item).inventoryId = item.inventoryId := by
    change (item.inventory.map CartInventory.id).filter _ = _
    rw [item.inventory_refers, given]
    simp
    omega
  have kitId : (getDetails item).kitId = item.kitId := by
    cases kit : item.kit with
    | none => simp [purchaseItem, kit] at priced
    | some k => simp [getDetails, kit, item.kit_refers k kit]
  change Units.mk (getDetails item).kitId (getDetails item).inventoryId _ = _
  rw [inventoryId, kitId]
  rfl

private theorem submitted_rows {ready : Bool} {method : Except String String} {email : String}
    {cart : List CartItem}
    (submitted : (handleSubmit (createPurchase server session stripe now) ready method email
      cart s).1 = .succeeded) :
    ∃ created, (handleSubmit (createPurchase server session stripe now) ready method email
        cart s).2.db.purchases.rows = s.db.purchases.rows ++ created ∧
      created.map bought = cart.map inCart ∧
      ∀ item ∈ cart, reserved (entry item) = asked item := by
  rcases submit_cases with
    ⟨-, id, user, taken, table, created, paying, storable, rows, creates, -, stored⟩ |
    ⟨-, failed, -⟩
  · refine ⟨created, ?_, bought_of_buys (creates.imp fun _ _ => buys_of_creates), ?_⟩
    · have after := congrArg (fun state => state.db.purchases.rows) stored
      exact after.trans rows
    · intro item member
      have listed : purchaseItem item ∈ (payload cart email id).itemList :=
        List.mem_map_of_mem member
      have priced := payOrder_priced (paid_eq_some.mp paying).2 _ listed
      exact reserved_entry (storable.1 _ listed) priced
  · exact absurd submitted failed

end Submitting

private theorem inCart_perm_iff {cart accepted : List CartItem} (sub : accepted.Sublist cart) :
    (cart.map inCart).Perm (accepted.map asked) ↔
      accepted = cart ∧ ∀ item ∈ cart, item.quantity ≠ 0 := by
  constructor
  · intro same
    have lengths : accepted.length = cart.length := by simpa using same.length_eq.symm
    have whole : accepted = cart := sub.eq_of_length lengths
    refine ⟨whole, ?_⟩
    intro item member zero
    have listed := same.subset (List.mem_map_of_mem member)
    obtain ⟨other, -, equal⟩ := List.mem_map.mp listed
    have units : orOne other.quantity = item.quantity := congrArg Units.quantity equal
    exact orOne_ne_zero other.quantity (units.trans zero)
  · rintro ⟨rfl, nonzero⟩
    apply List.Perm.of_eq
    apply List.map_congr_left
    intro item member
    rw [inCart, asked, orOne_eq_self.mpr (nonzero item member)]

/-- For every cart and every pattern of answers to the decrement requests, a successful
submission of the modal buys what the loop has reserved precisely when all requests were
answered with success and no item of the cart has quantity zero. -/
theorem bought_iff_reserved {σ : Type} (send : Decrement σ) (loggedIn : Bool) (page : Page) (w : σ)
    (server : Server) (session : Session) (stripe : PaymentRequest → StripeOutcome) (now : Nat)
    (s : State) (ready : Bool) (method : Except String String) (email : String)
    (submitted : (handleSubmit (createPurchase server session stripe now) ready method email
      (handleCheckout send loggedIn page w).1.cart s).1 = .succeeded) :
    (∃ created, (handleSubmit (createPurchase server session stripe now) ready method email
          (handleCheckout send loggedIn page w).1.cart s).2.db.purchases.rows =
        s.db.purchases.rows ++ created ∧
      (created.map bought).Perm ((reservedEntries send w page.cart).map reserved)) ↔
    acceptedItems send w page.cart = page.cart ∧ ∀ item ∈ page.cart, item.quantity ≠ 0 := by
  obtain ⟨created, rows, cartUnits, entryUnits⟩ := submitted_rows submitted
  rw [handleCheckout_cart] at cartUnits entryUnits
  have entries : ((reservedEntries send w page.cart).map reserved).Perm
      ((acceptedItems send w page.cart).map asked) := by
    have same : ((acceptedItems send w page.cart).map entry).map reserved =
        (acceptedItems send w page.cart).map asked := by
      rw [List.map_map]
      apply List.map_congr_left
      intro item member
      exact entryUnits item ((acceptedItems_sublist send w page.cart).subset member)
    rw [← same]
    exact (reservedEntries_perm send w page.cart).map reserved
  rw [← inCart_perm_iff (acceptedItems_sublist send w page.cart), ← cartUnits]
  constructor
  · rintro ⟨other, otherRows, same⟩
    have equal : other = created := List.append_cancel_left (otherRows.symm.trans rows)
    rw [← equal]
    exact same.trans entries
  · intro same
    exact ⟨created, rows, same.trans entries.symm⟩

section Samples

def twoShelves (second : Int) : State :=
  sampleShop ⟨[shelf 3, ⟨2, "2 Oak Ave", "0,0", "School", second, 1⟩], by simp [shelf],
    by simp [shelf]⟩ .empty

def twoPickUps : Page :=
  .opened [sandTray 1 1 "1 Main St" "Library" 2, sandTray 2 2 "2 Oak Ave" "School" 1]

def checkedOut (second : Int) : Page × State :=
  handleCheckout (decrementAt .sqlite customer) true twoPickUps (twoShelves second)

def submittedAt (second : Int) : SubmitOutcome × State :=
  handleSubmit (createPurchase sampleServer customer (fun _ => .intent "succeeded") 0) true
    (.ok "pm_card") "a@b.c" (checkedOut second).1.cart (checkedOut second).2

end Samples

/-- The second row is empty, so only the first item is reserved; the modal is shown all the
same, and its submission buys both. -/
theorem unreserved_item_is_bought :
    (checkedOut 0).1.showBillingModal = true ∧
      reservedEntries (decrementAt .sqlite customer) (twoShelves 0) twoPickUps.cart =
        [⟨1, 2, some 1, 1⟩] ∧
      (submittedAt 0).1 = .succeeded ∧
      (submittedAt 0).2.db.purchases.rows.map bought = [⟨1, some 1, 2⟩, ⟨1, some 2, 1⟩] := by
  decide +kernel

theorem reserved_items_are_bought :
    ∃ created, (submittedAt 4).2.db.purchases.rows = [] ++ created ∧
      (created.map bought).Perm ((reservedEntries (decrementAt .sqlite customer) (twoShelves 4)
        twoPickUps.cart).map reserved) := by
  refine (bought_iff_reserved (decrementAt .sqlite customer) true twoPickUps (twoShelves 4)
    sampleServer customer (fun _ => .intent "succeeded") 0 (checkedOut 4).2 true (.ok "pm_card")
    "a@b.c" (by decide +kernel)).mpr ⟨rfl, ?_⟩
  intro item member
  simp only [twoPickUps, Page.opened, List.mem_cons, List.not_mem_nil, or_false] at member
  rcases member with rfl | rfl
  · decide
  · decide

end ProductSite.Checkout.Purchased
