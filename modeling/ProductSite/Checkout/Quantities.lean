/- Module: ProductSite/Checkout/Quantities
   source: react-router-bootstrap-app/src/pages/CartPage.jsx, components/BillingModal.jsx,
     backend/app/routes/purchase_routes.py
   digest: Reserved, stored, shown and charged quantities agree iff no quantity is zero. -/

import Mathlib.Tactic.Ring
import ProductSite.Checkout.Submission

set_option autoImplicit false
set_option relaxedAutoImplicit false

namespace ProductSite.Checkout.Quantities

open ProductSite.Foundation.Wire (JsonField)
open ProductSite.Backend.Models hiding CartItem
open ProductSite.Backend.PurchaseRoutes
open ProductSite.Backend.PurchaseSaving
open ProductSite.Backend.Requests (customer sampleServer shelfOnly)
open ProductSite.Checkout.Submission (buys_of_creates submit_cases)
open ProductSite.Storefront.CartPage

/-- `kit.price || 0`; an item without a kit has no price either. -/
def price (item : CartItem) : ℚ := (item.kit.map CartKit.price).getD 0

/-- The total that the page shows. -/
def total (cart : List CartItem) : ℚ :=
  (cart.map fun item => price item * (getDetails item).quantity).sum

def WholeCents (cart : List CartItem) : Prop := ∀ item ∈ cart, ∃ n : ℤ, price item * 100 = n

/-- What is stored for each item is what was asked of the inventory for it, and what is charged
is the total shown. -/
def Agree (cart : List CartItem) (before after : State) : Prop :=
  ∃ created taken, after.db.purchases.rows = before.db.purchases.rows ++ created ∧
    after.charges = taken ++ before.charges ∧
    List.Forall₂ (fun item purchase => (decrementBody item).quantity = .value purchase.quantity)
      cart created ∧
    ∀ charge ∈ taken, (charge.amount : ℚ) = 100 * total cart

section Amounts

private theorem cents_of_whole {price : ℚ} {n : ℤ} (whole : price * 100 = n) :
    cents .exact price = some n := by
  have truncated : (price * 100).num.tdiv (price * 100).den = n := by
    rw [whole, Rat.num_intCast, Rat.den_intCast]
    exact Int.tdiv_one n
  exact congrArg some truncated

private theorem itemAmount_whole {item : CartItem} {amount : ℤ} {n : ℤ}
    (whole : price item * 100 = n)
    (priced : itemAmount .exact (purchaseItem item) = some amount) :
    (amount : ℚ) = 100 * (price item * item.quantity) := by
  cases kit : item.kit with
  | none => simp [itemAmount, purchaseItem, kit] at priced
  | some k =>
      have listed : price item = k.price := by rw [price, kit]; rfl
      have exact_cents : cents .exact k.price = some n := cents_of_whole (listed ▸ whole)
      have computed : amount = n * item.quantity := by
        have read : itemAmount .exact (purchaseItem item) = some (n * item.quantity) := by
          simp [itemAmount, purchaseItem, kit, JsonField.getD, exact_cents]
        rw [read] at priced
        exact (Option.some.inj priced).symm
      rw [computed, Int.cast_mul, ← whole]
      ring

private theorem totalAmount_whole {cart : List CartItem} {amount : ℤ} (whole : WholeCents cart)
    (sum : totalAmount .exact 0 (cart.map purchaseItem) = some amount) :
    (amount : ℚ) = 100 * (cart.map fun item => price item * item.quantity).sum := by
  induction cart generalizing amount with
  | nil =>
      cases sum
      simp
  | cons item rest ih =>
      obtain ⟨⟨n, first⟩, others⟩ := List.forall_mem_cons.mp whole
      cases priced : itemAmount .exact (purchaseItem item) with
      | none =>
          rw [List.map_cons, totalAmount, priced] at sum
          cases sum
      | some units =>
          rw [List.map_cons, totalAmount_cons priced] at sum
          obtain ⟨later, restSum, rfl⟩ := Option.map_eq_some_iff.mp sum
          rw [List.map_cons, List.sum_cons, Int.cast_add, itemAmount_whole first priced,
            ih others restSum]
          ring

private theorem total_of_nonzero {cart : List CartItem}
    (nonzero : ∀ item ∈ cart, item.quantity ≠ 0) :
    total cart = (cart.map fun item => price item * item.quantity).sum := by
  have shown : ∀ item ∈ cart,
      price item * (getDetails item).quantity = price item * item.quantity := by
    intro item member
    have kept : (getDetails item).quantity = item.quantity :=
      orOne_eq_self.mpr (nonzero item member)
    rw [kept]
  rw [total, List.map_congr_left shown]

end Amounts

section Stored

variable {cart : List CartItem} {created : List Purchase}

private theorem asked_iff_nonzero
    (stored : List.Forall₂ (fun item purchase => purchase.quantity = item.quantity) cart created) :
    List.Forall₂ (fun item purchase => (decrementBody item).quantity = .value purchase.quantity)
      cart created ↔ ∀ item ∈ cart, item.quantity ≠ 0 := by
  induction stored with
  | nil => simp
  | @cons item purchase rest later same others ih =>
      have asked : (decrementBody item).quantity = .value purchase.quantity ↔
          item.quantity ≠ 0 := by
        rw [same, ← orOne_eq_self]
        show JsonField.value (orOne item.quantity) = .value item.quantity ↔ _
        rw [JsonField.value.injEq]
      rw [List.forall₂_cons, ih, asked, List.forall_mem_cons]

end Stored

/-- In exact arithmetic, for every cart with prices in whole cents, a successful submission stores
what was asked of the inventory and charges the total shown precisely when no item has quantity
zero. -/
theorem agree_iff_nonzero (server : Server) (session : Session)
    (stripe : PaymentRequest → StripeOutcome) (now : Nat) (ready : Bool)
    (method : Except String String) (email : String) (cart : List CartItem) (s : State)
    (exactly : server.floats = .exact) (whole : WholeCents cart)
    (submitted : (handleSubmit (createPurchase server session stripe now) ready method email
      cart s).1 = .succeeded) :
    Agree cart s (handleSubmit (createPurchase server session stripe now) ready method email
      cart s).2 ↔
    ∀ item ∈ cart, item.quantity ≠ 0 := by
  rcases submit_cases with
    ⟨-, id, user, taken, table, created, payment, -, rows, creates, -, stored⟩ | ⟨-, failed, -⟩
  · have after : (handleSubmit (createPurchase server session stripe now) ready method email
        cart s).2 = _ := stored
    have quantities : List.Forall₂ (fun item purchase => purchase.quantity = item.quantity)
        cart created := creates.imp fun _ _ filled => (buys_of_creates filled).2.2.2
    rw [after, ← asked_iff_nonzero quantities]
    constructor
    · rintro ⟨others, charges, same, -, asked, -⟩
      have equal : others = created := List.append_cancel_left (same.symm.trans rows)
      exact equal ▸ asked
    · intro asked
      refine ⟨created, taken, rows, rfl, asked, ?_⟩
      intro charge member
      have shown := total_of_nonzero ((asked_iff_nonzero quantities).mp asked)
      have paying := payOrder_taken (paid_eq_some.mp payment).2
      split at paying
      · rw [paying] at member
        cases member
      · obtain ⟨only, rfl, sum⟩ := paying
        rw [exactly] at sum
        rw [List.mem_singleton.mp member, shown]
        exact totalAmount_whole whole sum
  · exact absurd submitted failed

section Samples

def twoTrays (first second : Int) : List CartItem :=
  [sandTray 1 1 "1 Main St" "Library" first, sandTray 2 1 "1 Main St" "Library" second]

def submitTrays (first second : Int) : SubmitOutcome × State :=
  handleSubmit (createPurchase sampleServer customer (fun _ => .intent "succeeded") 0) true
    (.ok "pm_card") "a@b.c" (twoTrays first second) (shelfOnly 3)

end Samples

/-- The emptied field of the first item counts as one unit on the page and in the reservation,
and as none in the purchase and in the charge. -/
theorem emptied_field_is_reserved_but_not_charged :
    (submitTrays 0 1).1 = .succeeded ∧ total (twoTrays 0 1) = 20 ∧
      (submitTrays 0 1).2.charges.map PaymentRequest.amount = [1000] ∧
      (twoTrays 0 1).map (fun item => (decrementBody item).quantity) = [.value 1, .value 1] ∧
      (submitTrays 0 1).2.db.purchases.rows.map Purchase.quantity = [0, 1] := by
  have shown : total (twoTrays 0 1) = 10 * 1 + (10 * 1 + 0) := rfl
  exact ⟨by decide +kernel, by rw [shown]; norm_num, by decide +kernel⟩

theorem chosen_quantities_agree : Agree (twoTrays 2 1) (shelfOnly 3) (submitTrays 2 1).2 := by
  refine (agree_iff_nonzero sampleServer customer (fun _ => .intent "succeeded") 0 true
    (.ok "pm_card") "a@b.c" (twoTrays 2 1) (shelfOnly 3) rfl ?_ (by decide +kernel)).mpr ?_
  · intro item member
    refine ⟨1000, ?_⟩
    have tray : price item = 10 := by
      simp only [twoTrays, List.mem_cons, List.not_mem_nil, or_false] at member
      rcases member with rfl | rfl <;> rfl
    rw [tray]
    norm_num
  · intro item member
    simp only [twoTrays, List.mem_cons, List.not_mem_nil, or_false] at member
    rcases member with rfl | rfl
    · decide
    · decide

end ProductSite.Checkout.Quantities
