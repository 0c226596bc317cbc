/- Module: ProductSite/Checkout/DeliveryAddress
   source: react-router-bootstrap-app/src/components/BillingModal.jsx,
     backend/app/routes/purchase_routes.py
   digest: The address entered in the modal reaches no order that is placed. -/

import ProductSite.Checkout.Submission
import ProductSite.Storefront.BillingModal

set_option autoImplicit false
set_option relaxedAutoImplicit false

namespace ProductSite.Checkout.DeliveryAddress

open ProductSite.Foundation.Wire (JsonField Reply)
open ProductSite.Backend.Models hiding CartItem
open ProductSite.Backend.PurchaseRoutes
open ProductSite.Backend.PurchaseSaving
open ProductSite.Backend.Requests (customer sampleServer sampleShop)
open ProductSite.Checkout.Submission (Placeable submit submit_cases)
open ProductSite.Storefront.CartPage (CartItem SubmitOutcome payload purchaseItem sandTray)
open ProductSite.Storefront.BillingModal

/-- The endpoint as the modal calls it: of the payload it reads everything but the address. -/
def postPurchases (server : Server) (session : Session)
    (stripe : PaymentRequest → StripeOutcome) (now : Nat) (s : State) (payload : Payload) :
    Reply (List PurchaseDump) × State :=
  createPurchase server session stripe now s payload.body

def sameAddress (entered : Address) (stored : ShippingAddress) : Prop :=
  stored.line1 = entered.line1 ∧ stored.city = entered.city ∧ stored.state = entered.state ∧
    stored.postalCode = entered.postalCode ∧ stored.country = entered.country

/-- Each purchase for delivery that was created refers to a stored address that is the one
entered. -/
def Reaches (entered : Address) (before after : State) : Prop :=
  ∃ created, after.db.purchases.rows = before.db.purchases.rows ++ created ∧
    ∀ purchase ∈ created, purchase.shippingType = "delivery" →
      ∃ stored, purchase.shippingAddressId.bind after.db.shippingAddresses.get? = some stored ∧
        sameAddress entered stored

def FromWarehouse (db : Database) (item : CartItem) : Prop :=
  ∃ row, item.inventoryId.bind db.inventory.get? = some row ∧ row.locationName = "warehouse"

variable {s : State} {cart : List CartItem} {created : List Purchase} {context : OrderContext}

/-- The order of a cart with an item of the warehouse has a purchase for delivery, and it
carries the address id of the request. -/
private theorem delivery_created (warehouse : ∃ item ∈ cart, FromWarehouse s.db item)
    (creates : List.Forall₂ (fun item => Creates s.db context (purchaseItem item)) cart created) :
    ∃ purchase ∈ created, purchase.shippingType = "delivery" ∧
      purchase.shippingAddressId = context.address := by
  obtain ⟨item, member, row, found, name⟩ := warehouse
  obtain ⟨_, listed, line, id, same, rfl⟩ := paired_of_mem_left creates member
  refine ⟨purchaseRow context line id, listed, ?_, rfl⟩
  have named : (purchaseItem item).inventoryId.get = item.inventoryId := JsonField.get_ofOption _
  obtain ⟨inventory, read, -, -, -, kind⟩ := lineOf_eq_some.mp same
  rw [named, found] at read
  cases read
  show line.shippingType = "delivery"
  rw [kind, shippingType, if_pos name]

/-- For every cart with an item of the warehouse and every address entered apart from the
billing one, the address reaches the deliveries of the order precisely when no order is
placed. -/
theorem reaches_iff_not_placed (server : Server) (session : Session)
    (stripe : PaymentRequest → StripeOutcome) (now : Nat) (ready : Bool)
    (method : Except String String) (form : Form) (cart : List CartItem) (s : State)
    (separate : form.sameAsBilling = false)
    (warehouse : ∃ item ∈ cart, FromWarehouse s.db item) :
    (∀ id, (formPayload form cart id).shippingAddress = .value form.shippingInfo) ∧
    (Reaches form.shippingInfo s
        (handleSubmit (postPurchases server session stripe now) ready method form cart s).2 ↔
      ¬ Placeable server session stripe now ready method form.billingInfo.email cart s) := by
  refine ⟨fun id => by simp [formPayload, enteredAddress, includeShipping, separate], ?_⟩
  have bodyOnly : handleSubmit (postPurchases server session stripe now) ready method form cart s =
      submit server session stripe now ready method form.billingInfo.email cart s := rfl
  rw [bodyOnly]
  rcases submit_cases with
    ⟨placeable, id, user, taken, table, created, -, -, rows, creates, -, stored⟩ |
    ⟨unplaceable, -, kept⟩
  · refine iff_of_false ?_ (not_not_intro placeable)
    rw [stored]
    rintro ⟨others, same, reached⟩
    have equal : others = created := List.append_cancel_left (same.symm.trans rows)
    obtain ⟨purchase, member, delivery, address⟩ := delivery_created warehouse creates
    obtain ⟨found, refers, -⟩ := reached purchase (equal ▸ member) delivery
    have absent : purchase.shippingAddressId = none := address
    rw [absent] at refers
    cases refers
  · refine iff_of_true ⟨[], ?_, ?_⟩ unplaceable
    · rw [kept, List.append_nil]
    · intro purchase member
      cases member

section Samples

def home : Address := ⟨"Ann", "5 Elm St", "Springfield", "IL", "62701", "US"⟩

def separateForm : Form :=
  ⟨⟨⟨"Ann", "1 Bank St", "Chicago", "IL", "60601", "US"⟩, "ann@mail.com"⟩, home, false⟩

def warehouseCart : List CartItem := [sandTray 1 1 "" "warehouse" 1]

def warehouseShop : State :=
  sampleShop ⟨[⟨1, "", "", "warehouse", 3, 1⟩], by simp, by simp⟩ .empty

def submitForm (status : String) : SubmitOutcome × State :=
  handleSubmit (postPurchases sampleServer customer (fun _ => .intent status) 0) true
    (.ok "pm_card") separateForm warehouseCart warehouseShop

end Samples

/-- The order is placed for delivery, without an address, and no address is stored. -/
theorem delivery_without_the_address :
    (submitForm "succeeded").1 = .succeeded ∧
      (submitForm "succeeded").2.db.purchases.rows.map
        (fun purchase => (purchase.shippingType, purchase.shippingAddressId)) =
          [("delivery", none)] ∧
      (submitForm "succeeded").2.db.shippingAddresses.rows = [] := by
  decide +kernel

theorem declined_order_has_no_delivery :
    Reaches home warehouseShop (submitForm "requires_action").2 := by
  refine ((reaches_iff_not_placed sampleServer customer (fun _ => .intent "requires_action") 0 true
    (.ok "pm_card") separateForm warehouseCart warehouseShop rfl
    ⟨_, List.mem_singleton_self _, _, rfl, rfl⟩).2).mpr ?_
  rintro ⟨-, id, user, taken, ⟨⟩, payment, -⟩
  have declined : paid sampleServer customer (fun _ => .intent "requires_action")
      (payload warehouseCart separateForm.billingInfo.email "pm_card") = none := by decide +kernel
  rw [declined] at payment
  cases payment

end ProductSite.Checkout.DeliveryAddress
