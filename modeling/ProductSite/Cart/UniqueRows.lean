/- Module: ProductSite/Cart/UniqueRows
   source: backend/app/routes/cart_routes.py, backend/app/models/cart_item.py
   digest: One cart row for each user, kit and location, iff no update moves a row onto another. -/

import ProductSite.Backend.CartRoutes
import ProductSite.Backend.Requests
import ProductSite.Foundation.Runs
import ProductSite.Foundation.TableMap

set_option autoImplicit false
set_option relaxedAutoImplicit false

namespace ProductSite.Cart.UniqueRows

open ProductSite.Foundation.Clashes (Apart adds_insertNew apart_save_iff)
open ProductSite.Foundation.KeyedTable (Table)
open ProductSite.Foundation.Runs
open ProductSite.Foundation.TableMap (SamePlace)
open ProductSite.Backend.Models
open ProductSite.Backend.CartRoutes
open ProductSite.Backend.Requests (customer shelfOnly)

/-- An update that is accepted leaves its row on a place that no other row holds. -/
def LandsAlone (engine : Engine) (s : State) (call : CartCall) : Prop :=
  match call.request with
  | .updateCart itemId body =>
      ∀ item, call.session.user.isSome = true → s.db.cartItems.get? itemId = some item →
        (updatedItem engine s.db item body).isSome = true →
        ∀ other ∈ s.db.cartItems.rows, other.id ≠ itemId →
          purpose other ≠ (item.userId, item.kitId, body.inventoryId.assign item.inventoryId)
  | _ => True

section Tables

variable {table : Table CartItem.id}

/-- The rows are unique if no two clash by their purpose. -/
private theorem unique_iff : OneRowEach table.rows ↔ Apart (SamePlace purpose) table := Iff.rfl

private theorem unique_remove (unique : OneRowEach table.rows) (gone : CartItem → Bool) :
    OneRowEach (table.remove gone).rows :=
  (unique_iff.mp unique).remove gone

private theorem unique_insertNew {mk : Nat → CartItem} (keyed : ∀ id, (mk id).id = id)
    (unique : OneRowEach table.rows)
    (free : ∀ item ∈ table.rows, purpose item ≠ purpose (mk table.nextKey)) :
    OneRowEach (table.insertNew mk keyed).rows :=
  unique_iff.mpr (((adds_insertNew keyed).apart_iff Eq.symm (unique_iff.mp unique)).mpr free)

/-- Writing back a row keeps the rows unique exactly if no other row has its new place. -/
private theorem unique_save_iff {item changed : CartItem} (unique : OneRowEach table.rows)
    (found : table.get? changed.id = some item) :
    OneRowEach (table.save changed).rows ↔
      ∀ other ∈ table.rows, other.id ≠ changed.id → purpose other ≠ purpose changed :=
  apart_save_iff Eq.symm found (unique_iff.mp unique)

end Tables

section Steps

variable {engine : Engine} {session : Session} {s : State} {user : Nat}

theorem findItem_eq_none {kitId inventoryId : Option Nat}
    (absent : findItem s.db user kitId inventoryId = none) {item : CartItem}
    (member : item ∈ s.db.cartItems.rows) :
    ¬ (item.userId = user ∧ some item.kitId = kitId ∧ item.inventoryId = inventoryId) := by
  have other := List.find?_eq_none.mp absent item member
  simpa using other

private theorem unique_insertItem (unique : OneRowEach s.db.cartItems.rows)
    {kitId inventoryId : Option Nat} (absent : findItem s.db user kitId inventoryId = none)
    (quantity : Int) :
    OneRowEach (insertItem engine s user kitId inventoryId quantity).2.db.cartItems.rows := by
  unfold insertItem
  cases kitId with
  | none => exact unique
  | some kit =>
      simp only
      split
      · refine unique_insertNew (fun _ => rfl) unique ?_
        intro item member same
        simp only [purpose, newItem, Prod.mk.injEq] at same
        exact findItem_eq_none absent member ⟨same.1, congrArg some same.2.1, same.2.2⟩
      · exact unique

/-- The POST looks for a row with the same purpose before it inserts one. -/
private theorem unique_addToCart (unique : OneRowEach s.db.cartItems.rows)
    (login : session.user = some user) (body : AddToCartBody) :
    OneRowEach (addToCart engine session s body).2.db.cartItems.rows := by
  rw [addToCart, loginRequired_some login]
  split
  · exact unique
  · cases found : findItem s.db user body.kitId.get body.inventoryId.get with
    | none => exact unique_insertItem unique found _
    | some item =>
        simp only
        split
        · exact unique
        · rename_i quantity _
          have stored := (findItem_eq_some found).1
          have member := (Table.get?_eq_some_iff.mp stored).1
          let changed : CartItem :=
            { item with quantity := engine.integerColumn (item.quantity + quantity) }
          have here : s.db.cartItems.get? changed.id = some item := stored
          refine (unique_save_iff unique here).mpr ?_
          intro other present elsewhere same
          have sameId : other.id = item.id :=
            congrArg CartItem.id (unique other present item member same)
          exact elsewhere sameId

private theorem updatedItem_shape {item changed : CartItem} {body : UpdateCartBody}
    (updated : updatedItem engine s.db item body = some changed) :
    changed.id = item.id ∧
      purpose changed = (item.userId, item.kitId, body.inventoryId.assign item.inventoryId) := by
  unfold updatedItem at updated
  split at updated
  · cases updated
  · simp only at updated
    split at updated
    · cases updated
    · cases updated
      exact ⟨rfl, rfl⟩

private theorem unique_updateCart_iff (unique : OneRowEach s.db.cartItems.rows)
    (login : session.user = some user) (itemId : Nat) (body : UpdateCartBody) :
    OneRowEach (updateCart engine session s itemId body).2.db.cartItems.rows ↔
      LandsAlone engine s ⟨session, .updateCart itemId body⟩ := by
  have loggedIn : session.user.isSome = true := by rw [login]; rfl
  rw [updateCart_state login]
  simp only [LandsAlone]
  cases found : s.db.cartItems.get? itemId with
  | none => simpa using unique
  | some item =>
      have here : item.id = itemId := Table.key_of_get? found
      rw [Option.bind_some]
      cases updated : updatedItem engine s.db item body with
      | none =>
          refine iff_of_true unique ?_
          rintro _ - ⟨⟩ accepted
          rw [updated] at accepted
          cases accepted
      | some changed =>
          have shape := updatedItem_shape updated
          have stored : s.db.cartItems.get? changed.id = some item := by
            rw [shape.1, here, found]
          refine (unique_save_iff unique stored).trans ?_
          rw [shape.1, here, shape.2]
          constructor
          · rintro alone _ - ⟨⟩ -
            exact alone
          · intro alone
            exact alone item loggedIn rfl (by rw [updated]; rfl)

end Steps

private theorem unique_cartStep_iff (engine : Engine) (s : State) (call : CartCall)
    (unique : OneRowEach s.db.cartItems.rows) :
    OneRowEach (cartStep engine s call).db.cartItems.rows ↔ LandsAlone engine s call := by
  obtain ⟨session, request⟩ := call
  cases login : session.user with
  | none =>
      have refused : cartStep engine s ⟨session, request⟩ = s := by
        cases request <;> exact loginRequired_none login
      rw [refused]
      refine iff_of_true unique ?_
      cases request with
      | updateCart itemId body =>
          intro item loggedIn
          rw [login] at loggedIn
          cases loggedIn
      | _ => trivial
  | some user =>
      cases request with
      | getCart =>
          refine iff_of_true ?_ trivial
          change OneRowEach (getCart session s).2.db.cartItems.rows
          rw [getCart, loginRequired_some login]
          exact unique
      | addToCart body => exact iff_of_true (unique_addToCart unique login body) trivial
      | updateCart itemId body => exact unique_updateCart_iff unique login itemId body
      | deleteCart itemId =>
          refine iff_of_true ?_ trivial
          rcases deleteCart_state s login itemId with ⟨kept, -⟩ | removed
          · change OneRowEach (deleteCart session s itemId).2.db.cartItems.rows
            rw [kept]
            exact unique
          · change OneRowEach (deleteCart session s itemId).2.db.cartItems.rows
            rw [removed]
            exact unique_remove unique _
      | deleteAllCart =>
          refine iff_of_true ?_ trivial
          change OneRowEach (deleteAllCart session s).2.db.cartItems.rows
          rw [deleteAllCart, loginRequired_some login]
          exact unique_remove unique _

/-- The customer's requests: two locations of a kit, and the first row moved to the second. -/
def addAt (inventoryId : Nat) : CartCall :=
  ⟨customer, .addToCart ⟨.value 1, .value inventoryId, .value 1⟩⟩

def moveFirstTo (inventoryId : Nat) : CartCall :=
  ⟨customer, .updateCart 1 ⟨.value 1, .value inventoryId⟩⟩

/-- From a table with one row for each purpose, such as the empty one, the rows stay unique
throughout a run exactly if every accepted update lands on a free place. -/
theorem one_row_each_along_iff (engine : Engine) (s : State) (calls : List CartCall)
    (start : OneRowEach s.db.cartItems.rows) :
    Along (cartStep engine) (fun t => OneRowEach t.db.cartItems.rows) s calls ↔
      EachStep (cartStep engine) (LandsAlone engine) s calls := by
  have law : ∀ t call, OneRowEach t.db.cartItems.rows →
      (OneRowEach (cartStep engine t call).db.cartItems.rows ↔ LandsAlone engine t call) :=
    fun t call unique => unique_cartStep_iff engine t call unique
  exact along_iff_eachStep_of_law law start calls

theorem adding_twice_keeps_one_row :
    Along (cartStep .sqlite) (fun t => OneRowEach t.db.cartItems.rows) (shelfOnly 3)
      [addAt 1, addAt 1] := by
  have start : OneRowEach (shelfOnly 3).db.cartItems.rows := by
    intro item member
    cases member
  refine (one_row_each_along_iff .sqlite (shelfOnly 3) _ start).mpr ?_
  exact eachStep_cons.mpr ⟨trivial, eachStep_cons.mpr ⟨trivial, eachStep_nil _ _⟩⟩

/-- From an empty cart: a kit is added at two locations, then the first row is moved to the
second location and both rows are for the same. -/
theorem moved_row_is_a_duplicate :
    (shelfOnly 3).db.cartItems.rows = [] ∧
      (run (cartStep .sqlite) (shelfOnly 3) [addAt 1, addAt 2, moveFirstTo 2]).db.cartItems.rows =
        [⟨1, 1, 1, some 2, 1⟩, ⟨2, 1, 1, some 2, 1⟩] ∧
      ¬ OneRowEach (run (cartStep .sqlite) (shelfOnly 3)
        [addAt 1, addAt 2, moveFirstTo 2]).db.cartItems.rows := by
  have rows : (run (cartStep .sqlite) (shelfOnly 3)
      [addAt 1, addAt 2, moveFirstTo 2]).db.cartItems.rows =
      [⟨1, 1, 1, some 2, 1⟩, ⟨2, 1, 1, some 2, 1⟩] := by decide
  refine ⟨rfl, rows, ?_⟩
  intro unique
  have equal := unique ⟨1, 1, 1, some 2, 1⟩ (by rw [rows]; simp) ⟨2, 1, 1, some 2, 1⟩
    (by rw [rows]; simp) rfl
  exact absurd equal (by decide)

end ProductSite.Cart.UniqueRows
