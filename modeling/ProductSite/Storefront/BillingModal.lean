/- Module: ProductSite/Storefront/BillingModal
   source: react-router-bootstrap-app/src/components/BillingModal.jsx, pages/CartPage.jsx
   digest: The modal's form and payload, and its clicks, messages and answers in any order. -/

import ProductSite.Foundation.Runs
import ProductSite.Storefront.CartPage

set_option autoImplicit false
set_option relaxedAutoImplicit false

namespace ProductSite.Storefront.BillingModal

open ProductSite.Foundation.Runs (run)
open ProductSite.Foundation.Wire (JsonField Reply)
open ProductSite.Backend.Models (PaymentRequest Server Session State)
open ProductSite.Backend.PurchaseRoutes
open ProductSite.Storefront.CartPage (CartItem SubmitOutcome orElse payload)

structure Address where
  name : String
  line1 : String
  city : String
  state : String
  postalCode : String
  country : String
  deriving DecidableEq

structure BillingInfo extends Address where
  email : String
  deriving DecidableEq

structure Form where
  billingInfo : BillingInfo
  shippingInfo : Address
  sameAsBilling : Bool

/-- The payload of a submission: the keys that `create_purchase` reads, and the address. -/
structure Payload where
  body : PurchaseBody
  shippingAddress : JsonField Address

/-- The page passes its list of warehouse entries as `includeShipping`, and any list is true. -/
def includeShipping : Bool := true

/-- The address that the payload names. -/
def enteredAddress (form : Form) : JsonField Address :=
  if includeShipping && !form.sameAsBilling then .value form.shippingInfo else .absent

def formPayload (form : Form) (cart : List CartItem) (paymentMethod : String) : Payload :=
  ⟨payload cart form.billingInfo.email paymentMethod, enteredAddress form⟩

/-- `handleSubmit` with the whole payload: the body with the address. -/
def handleSubmit {σ : Type} (post : σ → Payload → Reply (List PurchaseDump) × σ) (ready : Bool)
    (paymentMethod : Except String String) (form : Form) (cart : List CartItem) (s : σ) :
    SubmitOutcome × σ :=
  CartPage.handleSubmit (fun s body => post s ⟨body, enteredAddress form⟩) ready paymentMethod
    form.billingInfo.email cart s

section Clicks

/-- The modal with its submissions under way: those that wait for the payment method, the
messages that are not handled yet, and the answers that are not received yet. -/
structure Modal where
  shown : Bool
  creating : Nat
  sent : List PurchaseBody
  answers : List (Reply (List PurchaseDump))
  alerts : List String
  state : State

def Modal.opened (s : State) : Modal := ⟨true, 0, [], [], [], s⟩

inductive Event where
  | click (ready : Bool)
  | methodCreated (result : Except String String)
  | handled (message : Nat) (stripe : PaymentRequest → StripeOutcome) (now : Nat)
  | answered (answer : Nat)
  | closed

variable (server : Server) (session : Session) (email : String) (cart : List CartItem)

def Modal.receive (modal : Modal) (reply : Reply (List PurchaseDump)) : Modal :=
  if reply.fetchOk then { modal with shown := false }
  else { modal with alerts := modal.alerts ++ [orElse reply.errorText "Payment failed"] }

def Modal.step (modal : Modal) : Event → Modal
  -- the button is never disabled
  | .click ready =>
      if modal.shown && ready then { modal with creating := modal.creating + 1 } else modal
  | .methodCreated result =>
      match modal.creating, result with
      | 0, _ => modal
      | creating + 1, .error message =>
          { modal with creating := creating, alerts := modal.alerts ++ [message] }
      | creating + 1, .ok id =>
          { modal with creating := creating, sent := modal.sent ++ [payload cart email id] }
  | .handled message stripe now =>
      match modal.sent[message]? with
      | none => modal
      | some body =>
          let answer := createPurchase server session stripe now modal.state body
          { modal with
            sent := modal.sent.eraseIdx message
            answers := modal.answers ++ [answer.1]
            state := answer.2 }
  | .answered answer =>
      match modal.answers[answer]? with
      | none => modal
      | some reply => { modal with answers := modal.answers.eraseIdx answer }.receive reply
  | .closed => { modal with shown := false }

/-- One click, carried through before anything else happens, is `handleSubmit`. -/
theorem run_one_click (stripe : PaymentRequest → StripeOutcome) (now : Nat) (ready : Bool)
    (method : Except String String) (s : State) :
    (run (Modal.step server session email cart) (.opened s)
      [.click ready, .methodCreated method, .handled 0 stripe now, .answered 0]).state =
    (CartPage.handleSubmit (createPurchase server session stripe now) ready method email cart
      s).2 := by
  cases ready with
  | false => rfl
  | true =>
      cases method with
      | error message => rfl
      | ok id =>
          have answered : ∀ modal : Modal, ∀ reply, (modal.receive reply).state = modal.state := by
            intro modal reply
            unfold Modal.receive
            split <;> rfl
          rw [CartPage.handleSubmit_sent]
          split
          · exact answered _ _
          · exact answered _ _

end Clicks

end ProductSite.Storefront.BillingModal
