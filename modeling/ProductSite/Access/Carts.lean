/- Module: ProductSite/Access/Carts
   source: backend/app/routes/cart_routes.py
   digest: The carts of other users stay as they are iff no foreign row is named by its id. -/

import ProductSite.Backend.CartRoutes
import ProductSite.Backend.Requests
import ProductSite.Foundation.Ownership

set_option autoImplicit false
set_option relaxedAutoImplicit false

namespace ProductSite.Access.Carts

open ProductSite.Foundation.KeyedTable (Table)
open ProductSite.Foundation.Ownership
open ProductSite.Foundation.Runs
open ProductSite.Backend.Models
open ProductSite.Backend.CartRoutes
open ProductSite.Backend.Requests (customer shelfOnly)

def ownedBy (a : Nat) (item : CartItem) : Prop := item.userId = a

/-- The rows in the carts of all users but one. -/
def otherCarts (a : Nat) (s : State) : Set CartItem := others s.db.cartItems (ownedBy a)

/-- An update or deletion that names a row of another user is refused, or writes back what the
row holds. -/
def NamesNoForeignRow (engine : Engine) (a : Nat) (s : State) (call : CartCall) : Prop :=
  match call.request with
  | .updateCart itemId body =>
      ∀ item changed, s.db.cartItems.get? itemId = some item →
        updatedItem engine s.db item body = some changed → item.userId = a ∨ changed = item
  | .deleteCart itemId => ∀ item, s.db.cartItems.get? itemId = some item → item.userId = a
  | _ => True

variable {engine : Engine} {a : Nat} {s : State} {session : Session}

private theorem otherCarts_addToCart (login : session.user = some a) (body : AddToCartBody) :
    otherCarts a (addToCart engine session s body).2 = otherCarts a s := by
  rcases addToCart_cases engine s login body with
    kept | ⟨item, changed, found, own, stays, saved⟩ | ⟨kitId, inventoryId, quantity, inserted⟩
  · rw [kept]
  · rw [saved]
    exact others_save found own stays
  · rw [inserted]
    exact others_insertNew (fun _ => rfl) rfl

private theorem otherCarts_updateCart_iff (login : session.user = some a) (itemId : Nat)
    (body : UpdateCartBody) :
    otherCarts a (updateCart engine session s itemId body).2 = otherCarts a s ↔
      ∀ item changed, s.db.cartItems.get? itemId = some item →
        updatedItem engine s.db item body = some changed → item.userId = a ∨ changed = item := by
  rw [updateCart_state login]
  cases found : s.db.cartItems.get? itemId with
  | none => simp
  | some item =>
      rw [Option.bind_some]
      cases updated : updatedItem engine s.db item body with
      | none =>
          refine iff_of_true rfl ?_
          rintro _ changed ⟨⟩ written
          rw [updated] at written
          cases written
      | some changed =>
          obtain ⟨sameId, sameUser⟩ := updatedItem_keeps updated
          have stored : s.db.cartItems.get? changed.id = some item := by
            rw [sameId, Table.key_of_get? found, found]
          have kept : ownedBy a changed ↔ ownedBy a item := by rw [ownedBy, sameUser, ownedBy]
          refine (others_save_iff stored kept).trans ?_
          constructor
          · rintro harmless _ _ ⟨⟩ written
            rw [updated] at written
            cases written
            exact harmless
          · intro harmless
            exact harmless item changed rfl updated

private theorem otherCarts_deleteCart_iff (login : session.user = some a) (itemId : Nat) :
    otherCarts a (deleteCart session s itemId).2 = otherCarts a s ↔
      ∀ item, s.db.cartItems.get? itemId = some item → item.userId = a := by
  rcases deleteCart_state s login itemId with ⟨kept, missing⟩ | removed
  · rw [kept, missing]
    simp
  · rw [removed]
    exact others_removeKey_iff

private theorem otherCarts_deleteAllCart (login : session.user = some a) :
    otherCarts a (deleteAllCart session s).2 = otherCarts a s := by
  rw [deleteAllCart, loginRequired_some login]
  refine others_remove_iff.mpr ?_
  intro item _ removed
  have own : item.userId = a := of_decide_eq_true removed
  exact own

private theorem otherCarts_cartStep_iff (call : CartCall) (login : call.session.user = some a) :
    otherCarts a (cartStep engine s call) = otherCarts a s ↔
      NamesNoForeignRow engine a s call := by
  unfold cartStep NamesNoForeignRow
  cases call.request with
  | getCart => exact iff_of_true (by rw [getCart, loginRequired_some login]) trivial
  | addToCart body => exact iff_of_true (otherCarts_addToCart login body) trivial
  | updateCart itemId body => exact otherCarts_updateCart_iff login itemId body
  | deleteCart itemId => exact otherCarts_deleteCart_iff login itemId
  | deleteAllCart => exact iff_of_true (otherCarts_deleteAllCart login) trivial

/-- For every database and every run of cart requests in sessions of one user, the rows in the
carts of all other users are unchanged throughout the run precisely when no update or deletion
names one of them by its id. -/
theorem otherCarts_along_iff (engine : Engine) (a : Nat) (s : State) (calls : List CartCall)
    (sessions : ∀ call ∈ calls, call.session.user = some a) :
    Along (cartStep engine) (fun t => otherCarts a t = otherCarts a s) s calls ↔
      EachStep (cartStep engine) (NamesNoForeignRow engine a) s calls := by
  have exact_step : ∀ t call, otherCarts a t = otherCarts a s → call.session.user = some a →
      (otherCarts a (cartStep engine t call) = otherCarts a s ↔
        NamesNoForeignRow engine a t call) := by
    intro t call same login
    rw [← same]
    exact otherCarts_cartStep_iff call login
  exact along_iff_eachStep exact_step rfl (eachStep_of_forall sessions s)

section Samples

def foreignItem : CartItem := ⟨2, 2, 1, none, 4⟩

def twoCarts : State :=
  withCart (shelfOnly 3) ⟨[⟨1, 1, 1, none, 1⟩, foreignItem], by decide, by decide⟩

end Samples

/-- User 1 deletes the item of user 2 by naming its id. -/
theorem foreign_item_is_deleted :
    (deleteCart customer twoCarts 2).1 = .ok 200 "Deleted" ∧
      foreignItem ∈ otherCarts 1 twoCarts ∧
      foreignItem ∉ otherCarts 1 (run (cartStep .sqlite) twoCarts [⟨customer, .deleteCart 2⟩]) := by
  have stored : foreignItem ∈ twoCarts.db.cartItems.rows := by decide
  have removed : foreignItem ∉
      (run (cartStep .sqlite) twoCarts [⟨customer, .deleteCart 2⟩]).db.cartItems.rows := by decide
  exact ⟨rfl, ⟨stored, by unfold ownedBy; decide⟩, fun after => removed after.1⟩

theorem own_item_is_updated :
    Along (cartStep .sqlite) (fun t => otherCarts 1 t = otherCarts 1 twoCarts) twoCarts
      [⟨customer, .updateCart 1 ⟨.value 3, .absent⟩⟩, ⟨customer, .deleteCart 1⟩] := by
  refine (otherCarts_along_iff .sqlite 1 twoCarts _ (by decide)).mpr ?_
  simp only [eachStep_cons, eachStep_nil, and_true]
  constructor
  · rintro item changed ⟨⟩ -
    exact Or.inl rfl
  · rintro item ⟨⟩
    rfl

end ProductSite.Access.Carts
