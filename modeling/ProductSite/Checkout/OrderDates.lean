/- Module: ProductSite/Checkout/OrderDates
   source: backend/app/models/purchase.py, backend/app/routes/purchase_routes.py
   digest: The date of an order is the time at which the server started: the default of the column
     is a value, not a function. -/

import ProductSite.Checkout.AllOrNothing
import ProductSite.Foundation.Runs

set_option autoImplicit false
set_option relaxedAutoImplicit false

namespace ProductSite.Checkout.OrderDates

open ProductSite.Foundation.Runs
open ProductSite.Foundation.Wire (Reply)
open ProductSite.Backend.Models
open ProductSite.Backend.PurchaseRoutes
open ProductSite.Backend.PurchaseSaving
open ProductSite.Backend.Requests (customer sampleServer shelfOnly)
open ProductSite.Checkout.AllOrNothing (orderFrom)

/-- A purchase request with what Stripe answers and the time of the clock. -/
structure PlacedOrder where
  session : Session
  stripe : PaymentRequest → StripeOutcome
  now : Nat
  body : PurchaseBody

def place (server : Server) (s : State) (order : PlacedOrder) :
    Reply (List PurchaseDump) × State :=
  createPurchase server order.session order.stripe order.now s order.body

def placeStep (server : Server) (s : State) (order : PlacedOrder) : State :=
  (place server s order).2

def Accepted (server : Server) (s : State) (order : PlacedOrder) : Prop :=
  (place server s order).1.fetchOk = true

instance (server : Server) (s : State) (order : PlacedOrder) :
    Decidable (Accepted server s order) :=
  inferInstanceAs (Decidable (_ = true))

/-- The rows that an accepted request stored have the time of the request. -/
def DatedWhenPlaced (server : Server) (s : State) (order : PlacedOrder) : Prop :=
  Accepted server s order → ∃ created,
    (placeStep server s order).db.purchases.rows = s.db.purchases.rows ++ created ∧
      ∀ purchase ∈ created, purchase.timeBought = order.now

/-- An accepted request stores rows, all of them with the time of the import. -/
private theorem accepted_stores {server : Server} {s : State} {order : PlacedOrder}
    (accepted : Accepted server s order) :
    ∃ created, created ≠ [] ∧
      (placeStep server s order).db.purchases.rows = s.db.purchases.rows ++ created ∧
      ∀ purchase ∈ created, purchase.timeBought = server.importTime := by
  obtain ⟨user, taken, payment, -, table, created, rows, creates, stored⟩ :=
    createPurchase_stored server order.session order.stripe order.now s order.body accepted
  refine ⟨created, ?_, ?_, ?_⟩
  · intro empty
    rw [empty, List.forall₂_nil_right_iff] at creates
    exact payOrder_nonempty (paid_eq_some.mp payment).2 creates
  · rw [placeStep, place, stored]
    exact rows
  · intro purchase member
    obtain ⟨item, -, line, id, -, rfl⟩ := paired_of_mem_right creates member
    rfl

/-- The rows of a request have its time exactly if it is made at the time of the import. -/
private theorem datedWhenPlaced_iff (server : Server) (s : State) (order : PlacedOrder) :
    DatedWhenPlaced server s order ↔ (Accepted server s order → order.now = server.importTime) := by
  refine imp_congr_right fun accepted => ?_
  obtain ⟨created, some_row, rows, dated⟩ := accepted_stores accepted
  constructor
  · rintro ⟨others, same, timed⟩
    have equal : others = created := List.append_cancel_left (same.symm.trans rows)
    obtain ⟨purchase, member⟩ := List.exists_mem_of_ne_nil created some_row
    rw [← timed purchase (equal ▸ member)]
    exact dated purchase member
  · intro now
    refine ⟨created, rows, ?_⟩
    intro purchase member
    rw [now]
    exact dated purchase member

/-- In a run of one server process, whatever the clock shows, every order is dated when it is
placed if and only if every accepted order is placed at the time of the import. -/
theorem dated_when_placed_iff (server : Server) (s : State) (orders : List PlacedOrder) :
    EachStep (placeStep server) (DatedWhenPlaced server) s orders ↔
      EachStep (placeStep server)
        (fun t order => Accepted server t order → order.now = server.importTime) s orders := by
  refine eachStep_congr ?_ s orders
  intro t order
  exact datedWhenPlaced_iff server t order

/-- The customer buys a unit from the shelf at a time. -/
def buyAt (now : Nat) : PlacedOrder :=
  ⟨customer, fun _ => .intent "succeeded", now, orderFrom [1]⟩

/-- The server was started at the time zero; orders at one and at two both have that date. -/
theorem two_orders_have_one_date :
    EachStep (placeStep sampleServer) (Accepted sampleServer) (shelfOnly 3) [buyAt 1, buyAt 2] ∧
      (run (placeStep sampleServer) (shelfOnly 3) [buyAt 1, buyAt 2]).db.purchases.rows.map
        Purchase.timeBought = [0, 0] ∧
      ¬ EachStep (placeStep sampleServer) (DatedWhenPlaced sampleServer) (shelfOnly 3)
        [buyAt 1, buyAt 2] := by
  have accepted : Accepted sampleServer (shelfOnly 3) (buyAt 1) := by
    decide +kernel
  refine ⟨?_, by decide +kernel, ?_⟩
  · exact eachStep_cons.mpr ⟨accepted, eachStep_cons.mpr ⟨by decide +kernel, eachStep_nil _ _⟩⟩
  · intro dated
    have first := (datedWhenPlaced_iff sampleServer _ _).mp (eachStep_cons.mp dated).1 accepted
    exact absurd first (by decide)

end ProductSite.Checkout.OrderDates
