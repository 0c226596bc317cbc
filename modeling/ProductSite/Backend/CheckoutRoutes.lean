/- Module: ProductSite/Backend/CheckoutRoutes
   source: backend/app/routes/checkout_routes.py
   digest: The checkout session with its line items. -/

import ProductSite.Backend.PurchaseRoutes

set_option autoImplicit false
set_option relaxedAutoImplicit false

namespace ProductSite.Backend.CheckoutRoutes

open ProductSite.Foundation.Floats (Arithmetic)
open ProductSite.Foundation.Wire (JsonField Reply)
open ProductSite.Backend.Models (lower)
open ProductSite.Backend.PurchaseRoutes (cents)

/-- An entry of the cart; no price means a missing one, or one that `float` does not take. -/
structure CheckoutItem where
  title : JsonField String
  price : Option ℚ
  quantity : JsonField Int

structure LineItem where
  currency : String
  name : Option String
  unitAmount : Int
  quantity : Option Int
  deriving DecidableEq

/-- A missing key raises. -/
def lineItem (floats : Arithmetic) (item : CheckoutItem) : Option LineItem :=
  match item.price.bind (cents floats) with
  | some amount =>
      if item.title.present && item.quantity.present then
        some ⟨"usd", item.title.get, amount, item.quantity.get⟩
      else none
  | none => none

structure SessionData where
  paymentMethodTypes : List String
  lineItems : List LineItem
  mode : String
  cancelUrl : String
  allowedCountries : Option (List String)
  deriving DecidableEq

def sessionData (lineItems : List LineItem) (locationName : String) : SessionData where
  paymentMethodTypes := ["card"]
  lineItems := lineItems
  mode := "payment"
  cancelUrl := "http://myplaytray.com/cart"
  allowedCountries := if lower locationName = "warehouse" then some ["US"] else none

/-- Stripe answers with the id of a session or raises with a message. -/
def createCheckoutSession (floats : Arithmetic) (stripe : SessionData → Except String String)
    (cart : JsonField (List CheckoutItem)) (locationName : JsonField String) : Reply String :=
  match cart.getD [], locationName.getD "" with
  | some items, some name =>
      match items.mapM (lineItem floats) with
      | none => .raised
      | some lines =>
          match stripe (sessionData lines name) with
          | .ok id => .ok 200 id
          | .error message => .error 500 message []
  | _, _ => .raised

end ProductSite.Backend.CheckoutRoutes
