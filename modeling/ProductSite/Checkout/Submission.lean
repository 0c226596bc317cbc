/- Module: ProductSite/Checkout/Submission
   source: react-router-bootstrap-app/src/components/BillingModal.jsx,
     backend/app/routes/purchase_routes.py
   digest: A submission of the billing modal places its order, or leaves the database alone. -/

import ProductSite.Backend.Requests
import ProductSite.Storefront.CartPage

set_option autoImplicit false
set_option relaxedAutoImplicit false

namespace ProductSite.Checkout.Submission

open ProductSite.Foundation.Wire (JsonField)
open ProductSite.Backend.Models hiding CartItem
open ProductSite.Backend.PurchaseRoutes
open ProductSite.Backend.PurchaseSaving
open ProductSite.Storefront.CartPage

/-- The purchase takes its user, kit, row and quantity from the item. -/
def Buys (user : Nat) (item : CartItem) (purchase : Purchase) : Prop :=
  purchase.userId = user ∧ purchase.kitId = item.kitId ∧
    purchase.inventoryId = item.inventoryId ∧ purchase.quantity = item.quantity

variable (server : Server) (session : Session) (stripe : PaymentRequest → StripeOutcome)
  (now : Nat) (ready : Bool) (method : Except String String) (email : String)
  (cart : List CartItem) (s : State)

def submit : SubmitOutcome × State :=
  handleSubmit (createPurchase server session stripe now) ready method email cart s

/-- The modal is ready, the card is accepted, the payment goes through and every item of the
cart can be stored, so that the order is placed. -/
def Placeable : Prop :=
  ready = true ∧ ∃ id user taken, method = .ok id ∧
    paid server session stripe (payload cart email id) = some (user, taken) ∧
    BodyStorable server session now s (payload cart email id) user

variable {server session stripe now ready method email cart s}

theorem buys_of_creates {db : Database} {context : OrderContext} {item : CartItem}
    {purchase : Purchase} (creates : Creates db context (purchaseItem item) purchase) :
    Buys context.user item purchase := by
  obtain ⟨user, kit, row, units⟩ := creates.records
  have named : item.inventoryId = purchase.inventoryId := by
    rw [← row]
    exact (JsonField.get_ofOption _).symm
  exact ⟨user, (Option.some.inj kit).symm, named.symm, (Option.some.inj units).symm⟩

/-- Everything that a submission can do: it places the order and stores one purchase for each
item of the cart, which succeeds if the buyer is loaded again, or it fails and leaves the
database as it was. -/
theorem submit_cases :
    (Placeable server session stripe now ready method email cart s ∧
      ∃ id user taken table created,
        paid server session stripe (payload cart email id) = some (user, taken) ∧
        BodyStorable server session now s (payload cart email id) user ∧
        table.rows = s.db.purchases.rows ++ created ∧
        List.Forall₂ (fun item => Creates s.db
          (orderContext server session now user (payload cart email id)) (purchaseItem item))
          cart created ∧
        ((submit server session stripe now ready method email cart s).1 = .succeeded ↔
          userLoads s.db user = true) ∧
        (submit server session stripe now ready method email cart s).2 =
          { bodyCleared server session now s (payload cart email id) user with
            db := { s.db with purchases := table }
            charges := taken ++ s.charges }) ∨
    (¬ Placeable server session stripe now ready method email cart s ∧
      (submit server session stripe now ready method email cart s).1 ≠ .succeeded ∧
      (submit server session stripe now ready method email cart s).2.db = s.db) := by
  cases ready with
  | false =>
      refine Or.inr ⟨?_, nofun, rfl⟩
      rintro ⟨isReady, -⟩
      cases isReady
  | true =>
      cases method with
      | error message =>
          refine Or.inr ⟨?_, nofun, rfl⟩
          rintro ⟨-, id, user, taken, accepted, -⟩
          cases accepted
      | ok id =>
          rw [submit, handleSubmit_sent]
          rcases createPurchase_cases server session stripe now s (payload cart email id) with
            ⟨unpaid, refused, after⟩ |
            ⟨user, taken, payment, storable, table, created, rows, creates, stored⟩ |
            ⟨user, taken, payment, fails, refused, after⟩
          · rw [refused, after]
            refine Or.inr ⟨?_, nofun, rfl⟩
            rintro ⟨-, id', user, taken, ⟨⟩, payment, -⟩
            rw [unpaid] at payment
            cases payment
          · refine Or.inl ⟨⟨rfl, id, user, taken, rfl, payment, storable⟩,
              id, user, taken, table, created, payment, storable, rows, ?_, ?_⟩
            · exact List.forall₂_map_left_iff.mp creates
            · rw [stored, confirmation_fetchOk]
              cases userLoads s.db user with
              | true => exact ⟨iff_of_true rfl rfl, rfl⟩
              | false => exact ⟨iff_of_false nofun nofun, rfl⟩
          · rw [refused, after]
            refine Or.inr ⟨?_, nofun, rfl⟩
            rintro ⟨-, id', user', taken', ⟨⟩, payment', storable⟩
            rw [payment] at payment'
            cases payment'
            exact fails storable

end ProductSite.Checkout.Submission
