/- Module: ProductSite/Stock/LostUpdates
   source: backend/app/routes/inventory_routes.py
   digest: Concurrent decrements and increments of one row, as read and write messages. -/

import Mathlib.Data.Fintype.Basic
import ProductSite.Backend.InventoryRoutes
import ProductSite.Foundation.SharedCell

set_option autoImplicit false
set_option relaxedAutoImplicit false

namespace ProductSite.Stock.LostUpdates

open ProductSite.Foundation.Runs (Along EachStep run)
open ProductSite.Foundation.SharedCell
open ProductSite.Backend.Models
open ProductSite.Backend.InventoryRoutes

/-- A request on the row, by the quantity that it asks for. -/
inductive StockRequest where
  | decrement (quantity : Int)
  | increment (quantity : Int)
  deriving DecidableEq

/-- The absolute quantity that a handler writes after it has read the row; none when it
answers that the inventory is insufficient. -/
def newQuantity : StockRequest → Int → Option Int
  | .decrement quantity, seen => if seen ≤ 0 then none else some (seen - quantity)
  | .increment quantity, seen => some (seen + quantity)

def StockRequest.decremented : StockRequest → Int
  | .decrement quantity => quantity
  | .increment _ => 0

def StockRequest.incremented : StockRequest → Int
  | .decrement _ => 0
  | .increment quantity => quantity

section Handlers

variable {engine : Engine} {session : Session} {s : State} {user : Nat} {inv : Inventory}

private theorem written_alone (request : StockRequest) (seen : Int) :
    (run (serve (fun _ : Unit => newQuantity request)) (System.fresh seen)
      [.read (), .write ()]).cell = (newQuantity request seen).getD seen := by
  cases result : newQuantity request seen with
  | none => simp [run, serve, System.fresh, System.enter, result]
  | some next => simp [run, serve, System.fresh, System.enter, result]

/-- The messages are those of the handler: served one after the other, they leave in the
row what `decrement_quantity` leaves there. -/
theorem decrementQuantity_messages {body : DecrementBody} {quantity : Int}
    (login : session.user = some user) (found : decrementRow engine s.db body = .ok (some inv))
    (asked : body.quantity.getD 1 = some quantity) :
    (decrementQuantity engine session s body).2.stock inv.id =
      some (run (serve (fun _ : Unit => newQuantity (.decrement quantity)))
        (System.fresh inv.quantity) [.read (), .write ()]).cell := by
  have row := decrementRow_found found
  rw [written_alone, decrementQuantity_state]
  by_cases empty : inv.quantity ≤ 0
  · have refused : reservation engine session s.db body = none := by
      simp [reservation, login, decrementPlan, found, empty]
    simp only [refused, newQuantity, if_pos empty, Option.getD_none]
    exact stockOf_of_get? row
  · have accepted : reservation engine session s.db body = some (user, inv, quantity) :=
      reservation_eq_some.mpr
        ⟨login, decrementPlan_eq_ok.mpr ⟨found, not_le.mp empty, asked⟩⟩
    simp only [accepted, newQuantity, if_neg empty, Option.getD_some]
    rw [stock_reserve row, Foundation.Balances.post_add, State.stock, stockOf_of_get? row]
    simp [Int.sub_eq_add_neg]

theorem incrementQuantity_messages {body : IncrementBody} {quantity : Int}
    (login : session.user = some user)
    (plan : incrementPlan engine s.db body = .ok (inv, quantity)) :
    (incrementQuantity engine session s body).2.stock inv.id =
      some (run (serve (fun _ : Unit => newQuantity (.increment quantity)))
        (System.fresh inv.quantity) [.read (), .write ()]).cell := by
  have row := (incrementPlan_found plan).1
  rw [written_alone]
  simp only [incrementQuantity, loginRequired, login, plan, newQuantity, Option.getD_some]
  change stockOf (s.db.inventory.save _) inv.id = _
  rw [stockOf_save_add row, Foundation.Balances.post_add, stockOf_of_get? row]
  simp

end Handlers

section Schedules

variable {n : Nat} (requests : Fin n → StockRequest)

/-- The row is the first quantity without what the accepted decrements took and with what the
accepted increments added. A request is accepted when its write was served. -/
def Accounted (first : Int) (s : System (Fin n) Int) : Prop :=
  s.cell = first - contributed (fun worker => (requests worker).decremented) s +
    contributed (fun worker => (requests worker).incremented) s

private theorem accounted_iff (first : Int) (s : System (Fin n) Int) :
    Accounted requests first s ↔
      NothingLost (fun worker => (requests worker).incremented - (requests worker).decremented)
        first s := by
  unfold Accounted NothingLost contributed
  rw [Finset.sum_sub_distrib]
  constructor
  · intro account
    linarith
  · intro account
    linarith

private theorem newQuantity_adds (worker : Fin n) (seen next : Int)
    (result : newQuantity (requests worker) seen = some next) :
    next = seen + ((requests worker).incremented - (requests worker).decremented) := by
  cases kind : requests worker with
  | decrement quantity =>
      rw [kind, newQuantity] at result
      split at result
      · cases result
      · cases result
        simp [StockRequest.incremented, StockRequest.decremented, Int.sub_eq_add_neg]
  | increment quantity =>
      rw [kind, newQuantity] at result
      cases result
      simp [StockRequest.incremented, StockRequest.decremented]

/-- For any number of requests on a row and any interleaving of their messages, the row is
accounted for at every point precisely when each write finds the quantity that its worker
has read. -/
theorem accounted_along_iff (first : Int) (messages : List (Message (Fin n))) :
    Along (serve (fun worker => newQuantity (requests worker))) (Accounted requests first)
        (System.fresh first) messages ↔
      EachStep (serve (fun worker => newQuantity (requests worker))) NotStale
        (System.fresh first) messages := by
  have law : Accounted requests first = NothingLost
      (fun worker => (requests worker).incremented - (requests worker).decremented) first := by
    funext s
    exact propext (accounted_iff requests first s)
  rw [law]
  exact nothingLost_along_iff (newQuantity_adds requests) first messages

end Schedules

def twoDecrements : Fin 2 → StockRequest := fun _ => .decrement 1

def bothReadFirst : List (Message (Fin 2)) := [.read 0, .read 1, .write 0, .write 1]

/-- Both requests of one unit are accepted, and one unit leaves the row. -/
theorem both_read_first_loses_one :
    (run (serve (fun worker => newQuantity (twoDecrements worker))) (System.fresh 5)
        bothReadFirst).cell = 4 ∧
      ¬ Accounted twoDecrements 5
        (run (serve (fun worker => newQuantity (twoDecrements worker))) (System.fresh 5)
          bothReadFirst) := by
  unfold Accounted
  decide

end ProductSite.Stock.LostUpdates
