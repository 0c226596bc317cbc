/- Module: ProductSite/Storefront/CartContext
   source: react-router-bootstrap-app/src/context/CartContext.jsx
   digest: The cart that a client keeps, and the request that each of its operations sends. -/

import ProductSite.Backend.CartRoutes

set_option autoImplicit false
set_option relaxedAutoImplicit false

namespace ProductSite.Storefront.CartContext

open ProductSite.Foundation.KeyedTable (Table)
open ProductSite.Backend.Models
open ProductSite.Backend.CartRoutes

section Client

/-- `item.kit_id === kit.id && item.inventory_id === inventory_id`. -/
def isFor (kitId inventoryId : Nat) (item : CartItem) : Bool :=
  item.kitId = kitId && item.inventoryId = some inventoryId

/-- An entry of the cart with some of its own fields replaced. -/
def CartDump.onItem (change : CartItem → CartItem) (entry : CartDump) : CartDump :=
  { entry with item := change entry.item }

def addOne (kitId inventoryId : Nat) (item : CartItem) : CartItem :=
  if isFor kitId inventoryId item then { item with quantity := item.quantity + 1 } else item

def withQuantity (id : Nat) (quantity : ℚ) (item : CartItem) : CartItem :=
  if item.id = id then { item with quantity := quantity } else item

/-- The location of a kit that is added: the one given, else the only one with stock, else the
one that the user selects. -/
def chooseInventory (given : Option Nat) (inventories : List Inventory) (selected : Option Nat) :
    Option Nat :=
  match given.filter (fun id => id ≠ 0) with
  | some id => some id
  | none =>
      match inventories.filter (fun inv => 0 < inv.quantity) with
      | [] => none
      | [inv] => some inv.id
      | _ => selected

/-- An item that the cart holds gets an absolute quantity; for any other the server is asked to
add one. -/
def addChosen (cart : List CartDump) (kitId inventoryId : Nat) : List CartDump × CartRequest :=
  match cart.find? (fun entry => isFor kitId inventoryId entry.item) with
  | some existing =>
      (cart.map (CartDump.onItem (addOne kitId inventoryId)),
        .updateCart existing.item.id ⟨.value (existing.item.quantity + 1), .absent⟩)
  | none => (cart, .addToCart ⟨.value kitId, .value inventoryId, .value 1⟩)

inductive CartAction where
  | addToCart (kitId : Nat) (inventoryId : Option Nat) (inventories : List Inventory)
      (selected : Option Nat)
  | updateQuantity (id : Nat) (quantity : ℚ)
  | removeFromCart (id : Nat)
  | clearCart

/-- What a call does to the cart at once, and the request that it sends. -/
def act (cart : List CartDump) : CartAction → List CartDump × Option CartRequest
  | .addToCart kitId inventoryId inventories selected =>
      match chooseInventory inventoryId inventories selected with
      | none => (cart, none)
      | some chosen =>
          let added := addChosen cart kitId chosen
          (added.1, some added.2)
  | .updateQuantity id quantity =>
      (cart.map (CartDump.onItem (withQuantity id quantity)),
        some (.updateCart id ⟨.value quantity, .absent⟩))
  | .removeFromCart id => (cart.filter (fun entry => entry.item.id ≠ id), some (.deleteCart id))
  | .clearCart => ([], some .deleteAllCart)

/-- The cart that a client sets from the answer to a GET. -/
def fetched (session : Session) (s : State) : List CartDump :=
  match (getCart session s).1 with
  | .ok _ data => data
  | _ => []

/-- After a POST the cart is fetched again. -/
def refetches : CartRequest → Bool
  | .addToCart _ => true
  | _ => false

end Client

section Server

def serve (engine : Engine) (session : Session) (s : State) : CartRequest → Bool × State
  | .getCart => ((getCart session s).1.fetchOk, (getCart session s).2)
  | .addToCart body =>
      ((addToCart engine session s body).1.fetchOk, (addToCart engine session s body).2)
  | .updateCart itemId body =>
      ((updateCart engine session s itemId body).1.fetchOk,
        (updateCart engine session s itemId body).2)
  | .deleteCart itemId => ((deleteCart session s itemId).1.fetchOk, (deleteCart session s itemId).2)
  | .deleteAllCart => ((deleteAllCart session s).1.fetchOk, (deleteAllCart session s).2)

/-- A provider and the server that it talks to. -/
structure Provider where
  server : State
  cart : List CartDump

/-- A call that is fully processed: its request is handled and the answers are taken in. -/
def perform (engine : Engine) (session : Session) (p : Provider) (action : CartAction) : Provider :=
  match act p.cart action with
  | (cart, none) => ⟨p.server, cart⟩
  | (cart, some request) =>
      let server := (serve engine session p.server request).2
      ⟨server, if refetches request then fetched session server else cart⟩

/-- The request of the call, if it sends one, is answered with success. -/
def isProcessed (engine : Engine) (session : Session) (p : Provider) (action : CartAction) : Bool :=
  match (act p.cart action).2 with
  | none => true
  | some request => (serve engine session p.server request).1

end Server

section Rows

variable {engine : Engine} {session : Session} {s : State} {user : Nat}

/-- The rows of one user's cart. -/
def ownRows (user : Nat) (s : State) : List CartItem :=
  s.db.cartItems.rows.filter (fun item => item.userId = user)

theorem mem_ownRows {item : CartItem} :
    item ∈ ownRows user s ↔ item ∈ s.db.cartItems.rows ∧ item.userId = user := by
  simp [ownRows]

private theorem fetched_eq (login : session.user = some user) :
    fetched session s = (ownRows user s).map (dumpItem s.db) := by
  unfold fetched getCart
  rw [loginRequired_some login]
  rfl

theorem items_fetched (login : session.user = some user) :
    (fetched session s).map CartDump.item = (ownRows user s).map dumped := by
  rw [fetched_eq login, List.map_map]
  rfl

theorem items_onItem (change : CartItem → CartItem) (cart : List CartDump) :
    (cart.map (CartDump.onItem change)).map CartDump.item =
      (cart.map CartDump.item).map change := by
  rw [List.map_map, List.map_map]
  rfl

/-- Setting the quantity of a row shows in the cart of its owner, and in no other. -/
theorem ownRows_setQuantity {id : Nat} {item : CartItem} (quantity : ℚ)
    (found : s.db.cartItems.get? id = some item) :
    ownRows user (withCart s (s.db.cartItems.save { item with quantity := quantity })) =
      (ownRows user s).map (withQuantity id quantity) := by
  obtain ⟨member, rfl⟩ := Table.get?_eq_some_iff.mp found
  have written : (s.db.cartItems.save { item with quantity := quantity }).rows =
      s.db.cartItems.rows.map (withQuantity item.id quantity) := by
    apply List.map_congr_left
    intro row stored
    unfold withQuantity
    split
    · rename_i same
      have equal : row = item := List.inj_on_of_nodup_map s.db.cartItems.distinct stored member same
      rw [equal]
    · rfl
  have owner : ∀ row, (withQuantity item.id quantity row).userId = row.userId := by
    intro row
    unfold withQuantity
    split <;> rfl
  change ((s.db.cartItems.save { item with quantity := quantity }).rows).filter _ = _
  rw [written, List.filter_map]
  simp only [Function.comp_def, owner]
  rfl

theorem ownRows_removed (id : Nat) :
    ownRows user (withCart s (s.db.cartItems.remove (fun item => item.id = id))) =
      (ownRows user s).filter (fun item => item.id ≠ id) := by
  unfold ownRows withCart Table.remove
  simp only [List.filter_filter]
  apply List.filter_congr
  intro item _
  rw [Bool.and_comm]
  simp

theorem ownRows_cleared :
    ownRows user (withCart s (s.db.cartItems.remove (fun item => item.userId = user))) = [] := by
  apply List.filter_eq_nil_iff.mpr
  intro item member
  have other := (Table.mem_remove.mp member).2
  simpa using other

theorem ownRows_inserted (kitId : Nat) (inventoryId : Option Nat) (quantity : Int) :
    ownRows user (withCart s (s.db.cartItems.insertNew (newItem user kitId inventoryId quantity)
        (fun _ => rfl))) =
      ownRows user s ++ [newItem user kitId inventoryId quantity s.db.cartItems.nextKey] := by
  simp [ownRows, withCart, Table.insertNew, newItem]

/-- A PUT of a quantity alone leaves the location as it is, so no reference is checked. -/
theorem updatedItem_value (db : Database) (item : CartItem) (quantity : ℚ) :
    updatedItem engine db item ⟨.value quantity, .absent⟩ =
      some { item with quantity := engine.integerColumn quantity } :=
  if_neg fun changed => changed.1 rfl

/-- A PUT of a quantity that is answered with success. -/
theorem updateCart_accepted (login : session.user = some user) {id : Nat} {quantity : ℚ}
    (accepted : (updateCart engine session s id ⟨.value quantity, .absent⟩).1.fetchOk = true) :
    ∃ item, s.db.cartItems.get? id = some item ∧
      (updateCart engine session s id ⟨.value quantity, .absent⟩).2 =
        withCart s (s.db.cartItems.save
          { item with quantity := engine.integerColumn quantity }) := by
  rw [updateCart, loginRequired_some login] at accepted ⊢
  cases found : s.db.cartItems.get? id with
  | none =>
      rw [found] at accepted
      cases accepted
  | some item =>
      refine ⟨item, rfl, ?_⟩
      simp only [updatedItem_value]

theorem updateCart_refused (login : session.user = some user) {id : Nat} {body : UpdateCartBody}
    (refused : (updateCart engine session s id body).1.fetchOk = false) :
    (updateCart engine session s id body).2 = s := by
  rw [updateCart, loginRequired_some login] at refused ⊢
  cases found : s.db.cartItems.get? id with
  | none => rfl
  | some item =>
      rw [found] at refused
      simp only at refused ⊢
      cases updated : updatedItem engine s.db item body with
      | none => rfl
      | some changed =>
          rw [updated] at refused
          cases refused

theorem deleteCart_accepted (login : session.user = some user) {id : Nat}
    (accepted : (deleteCart session s id).1.fetchOk = true) :
    (deleteCart session s id).2 =
      withCart s (s.db.cartItems.remove (fun item => item.id = id)) := by
  rw [deleteCart, loginRequired_some login] at accepted ⊢
  cases found : s.db.cartItems.get? id with
  | none =>
      rw [found] at accepted
      cases accepted
  | some item => rfl

theorem deleteAllCart_state (login : session.user = some user) :
    (deleteAllCart session s).2 =
      withCart s (s.db.cartItems.remove (fun item => item.userId = user)) := by
  rw [deleteAllCart, loginRequired_some login]

/-- The POST of a chosen kit and location: a row that holds them gets one more, else one is
inserted. -/
theorem addToCart_chosen (login : session.user = some user) (kitId inventoryId : Nat) :
    addToCart engine session s ⟨.value kitId, .value inventoryId, .value 1⟩ =
      match findItem s.db user (some kitId) (some inventoryId) with
      | some item =>
          (.ok 201 "Cart updated",
            withCart s (s.db.cartItems.save
              { item with quantity := engine.integerColumn (item.quantity + (1 : Int)) }))
      | none => insertItem engine s user (some kitId) (some inventoryId) 1 := by
  rw [addToCart, loginRequired_some login]
  rfl

theorem insertItem_accepted {kitId inventoryId : Nat}
    (accepted : (insertItem engine s user (some kitId) (some inventoryId) 1).1.fetchOk = true) :
    (insertItem engine s user (some kitId) (some inventoryId) 1).2 =
      withCart s (s.db.cartItems.insertNew (newItem user kitId (some inventoryId) 1)
        (fun _ => rfl)) := by
  unfold insertItem at accepted ⊢
  simp only at accepted ⊢
  split
  · rfl
  · rename_i refused
    rw [if_neg refused] at accepted
    cases accepted

/-- The row that the POST finds is the first of the user's rows for the kit and location. -/
theorem findItem_chosen (kitId inventoryId : Nat) :
    findItem s.db user (some kitId) (some inventoryId) =
      (ownRows user s).find? (isFor kitId inventoryId) := by
  unfold findItem Table.first ownRows
  rw [List.find?_filter]
  apply List.find?_congr
  intro item _
  simp [isFor]

end Rows

end ProductSite.Storefront.CartContext
