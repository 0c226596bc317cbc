/- Module: ProductSite/Backend/CartRoutes
   source: backend/app/routes/cart_routes.py, backend/app/models/cart_item.py
   digest: The cart endpoints, two of which select rows by the id that the client names. -/

import ProductSite.Backend.PurchaseRoutes

set_option autoImplicit false
set_option relaxedAutoImplicit false

namespace ProductSite.Backend.CartRoutes

open ProductSite.Foundation.Floats (truncate truncate_intCast)
open ProductSite.Foundation.KeyedTable (Table)
open ProductSite.Foundation.Wire (JsonField Reply)
open ProductSite.Backend.Models
open ProductSite.Backend.InventoryRoutes (kitAllowed)
open ProductSite.Backend.PurchaseRoutes (inventoryAllowed)

def userAllowed (engine : Engine) (db : Database) (user : Nat) : Bool :=
  !engine.foreignKeys || (db.users.get? user).isSome

/-- What a row is for: `user_id`, `kit_id` and `inventory_id`, null counting as a value. -/
def purpose (item : CartItem) : Nat × Nat × Option Nat :=
  (item.userId, item.kitId, item.inventoryId)

/-- No two of the rows have the same user, kit and location. -/
def OneRowEach (rows : List CartItem) : Prop :=
  ∀ item ∈ rows, ∀ other ∈ rows, purpose item = purpose other → item = other

def withCart (s : State) (table : Table CartItem.id) : State :=
  { s with db := { s.db with cartItems := table } }

/-- An item with the objects that the schema nests into it. -/
structure CartDump where
  item : CartItem
  kit : Option Kit
  inventory : Option Inventory

/-- `fields.Int` cuts off a fraction that is stored. -/
def dumped (item : CartItem) : CartItem := { item with quantity := truncate item.quantity }

def dumpItem (db : Database) (item : CartItem) : CartDump :=
  ⟨dumped item, db.kits.get? item.kitId, item.inventoryId.bind db.inventory.get?⟩

def getCart (session : Session) (s : State) : Reply (List CartDump) × State :=
  loginRequired session s fun user =>
    (.ok 200 ((s.db.cartItems.rows.filter (fun item => item.userId = user)).map (dumpItem s.db)), s)

structure AddToCartBody where
  kitId : JsonField Nat
  inventoryId : JsonField Nat
  quantity : JsonField Int

def findItem (db : Database) (user : Nat) (kitId inventoryId : Option Nat) : Option CartItem :=
  db.cartItems.first (fun item =>
    item.userId = user && (some item.kitId = kitId && item.inventoryId = inventoryId))

def newItem (user kitId : Nat) (inventoryId : Option Nat) (quantity : Int) (id : Nat) : CartItem :=
  ⟨id, user, kitId, inventoryId, quantity⟩

def insertItem (engine : Engine) (s : State) (user : Nat) (kitId inventoryId : Option Nat)
    (quantity : Int) : Reply String × State :=
  match kitId with
  | none => (.raised, s)
  | some kitId =>
      if userAllowed engine s.db user && kitAllowed engine s.db kitId &&
          inventoryAllowed engine s.db inventoryId then
        (.ok 201 "Cart updated",
          withCart s (s.db.cartItems.insertNew (newItem user kitId inventoryId quantity)
            (fun _ => rfl)))
      else (.raised, s)

def addToCart (engine : Engine) (session : Session) (s : State) (body : AddToCartBody) :
    Reply String × State :=
  loginRequired session s fun user =>
    if !body.kitId.present then (.raised, s)
    else
      match findItem s.db user body.kitId.get body.inventoryId.get with
      | some item =>
          match body.quantity.getD 1 with
          | none => (.raised, s)
          | some quantity =>
              (.ok 201 "Cart updated",
                withCart s (s.db.cartItems.save
                  { item with quantity := engine.integerColumn (item.quantity + quantity) }))
      | none =>
          -- a null quantity is left out of the insert, and the column default takes its place
          insertItem engine s user body.kitId.get body.inventoryId.get
            ((body.quantity.getD 1).getD 1)

structure UpdateCartBody where
  quantity : JsonField ℚ
  inventoryId : JsonField Nat

/-- The row that an update writes; none when the quantity is missing or a reference fails. -/
def updatedItem (engine : Engine) (db : Database) (item : CartItem) (body : UpdateCartBody) :
    Option CartItem :=
  match body.quantity.get with
  | none => none
  | some quantity =>
      let inventoryId := body.inventoryId.assign item.inventoryId
      -- only a column that changes is written, and the engine checks no other
      if inventoryId ≠ item.inventoryId ∧ inventoryAllowed engine db inventoryId = false then none
      else
        some
          { item with quantity := engine.integerColumn quantity, inventoryId := inventoryId }

/-- The row is looked up by its id alone. -/
def updateCart (engine : Engine) (session : Session) (s : State) (itemId : Nat)
    (body : UpdateCartBody) : Reply String × State :=
  loginRequired session s fun _ =>
    match s.db.cartItems.get? itemId with
    | none => (.error 404 "Not found" [], s)
    | some item =>
        match updatedItem engine s.db item body with
        | none => (.raised, s)
        | some changed => (.ok 200 "Updated", withCart s (s.db.cartItems.save changed))

/-- The row is looked up by its id alone. -/
def deleteCart (session : Session) (s : State) (itemId : Nat) : Reply String × State :=
  loginRequired session s fun _ =>
    match s.db.cartItems.get? itemId with
    | none => (.error 404 "Not found" [], s)
    | some _ =>
        (.ok 200 "Deleted", withCart s (s.db.cartItems.remove (fun item => item.id = itemId)))

def deleteAllCart (session : Session) (s : State) : Reply String × State :=
  loginRequired session s fun user =>
    (.ok 200 "All cart items deleted",
      withCart s (s.db.cartItems.remove (fun item => item.userId = user)))

inductive CartRequest where
  | getCart
  | addToCart (body : AddToCartBody)
  | updateCart (itemId : Nat) (body : UpdateCartBody)
  | deleteCart (itemId : Nat)
  | deleteAllCart

structure CartCall where
  session : Session
  request : CartRequest

def cartStep (engine : Engine) (s : State) (call : CartCall) : State :=
  match call.request with
  | .getCart => (getCart call.session s).2
  | .addToCart body => (addToCart engine call.session s body).2
  | .updateCart itemId body => (updateCart engine call.session s itemId body).2
  | .deleteCart itemId => (deleteCart call.session s itemId).2
  | .deleteAllCart => (deleteAllCart call.session s).2

section Quantities

/-- The number is an integer, which every engine stores and the schema dumps as it is. -/
def Whole (quantity : ℚ) : Prop := ∃ n : ℤ, quantity = n

/-- The rows have integer quantities. -/
def Integers (rows : List CartItem) : Prop := ∀ row ∈ rows, Whole row.quantity

variable {quantity : ℚ}

theorem whole_dumped (item : CartItem) : Whole (dumped item).quantity := ⟨_, rfl⟩

theorem Whole.add (whole : Whole quantity) (more : Int) : Whole (quantity + more) := by
  obtain ⟨n, rfl⟩ := whole
  exact ⟨n + more, by push_cast; rfl⟩

theorem Whole.stored (whole : Whole quantity) (engine : Engine) :
    engine.integerColumn quantity = quantity := by
  obtain ⟨n, rfl⟩ := whole
  exact engine.integerColumn_whole n

theorem Whole.dumped_eq {item : CartItem} (whole : Whole item.quantity) : dumped item = item := by
  obtain ⟨id, userId, kitId, inventoryId, quantity⟩ := item
  obtain ⟨n, rfl⟩ := whole
  rw [dumped, truncate_intCast]

end Quantities

section Steps

variable {engine : Engine} {session : Session} {s : State} {user : Nat}

theorem findItem_eq_some {kitId inventoryId : Option Nat} {item : CartItem}
    (found : findItem s.db user kitId inventoryId = some item) :
    s.db.cartItems.get? item.id = some item ∧ item.userId = user := by
  have matched := Table.of_first found
  simp only [Bool.and_eq_true, decide_eq_true_eq] at matched
  exact ⟨Table.get?_of_first found, matched.1⟩

/-- Adding leaves the cart alone, or writes a row of the session's user, or inserts one. -/
theorem addToCart_cases (engine : Engine) (s : State) (login : session.user = some user)
    (body : AddToCartBody) :
    (addToCart engine session s body).2 = s ∨
    (∃ item changed, s.db.cartItems.get? changed.id = some item ∧ item.userId = user ∧
      changed.userId = user ∧
      (addToCart engine session s body).2 = withCart s (s.db.cartItems.save changed)) ∨
    ∃ kitId inventoryId quantity,
      (addToCart engine session s body).2 = withCart s (s.db.cartItems.insertNew
        (newItem user kitId inventoryId quantity) (fun _ => rfl)) := by
  rw [addToCart, loginRequired_some login]
  split
  · exact Or.inl rfl
  · split
    · rename_i item found
      obtain ⟨stored, own⟩ := findItem_eq_some found
      split
      · exact Or.inl rfl
      · rename_i quantity _
        exact Or.inr (Or.inl
          ⟨item, { item with quantity := engine.integerColumn (item.quantity + quantity) },
            stored, own, own, rfl⟩)
    · unfold insertItem
      split
      · exact Or.inl rfl
      · split
        · exact Or.inr (Or.inr ⟨_, _, _, rfl⟩)
        · exact Or.inl rfl

theorem updateCart_state (login : session.user = some user) (itemId : Nat)
    (body : UpdateCartBody) :
    (updateCart engine session s itemId body).2 =
      match (s.db.cartItems.get? itemId).bind (fun item => updatedItem engine s.db item body) with
      | none => s
      | some changed => withCart s (s.db.cartItems.save changed) := by
  rw [updateCart, loginRequired_some login]
  cases s.db.cartItems.get? itemId with
  | none => rfl
  | some item =>
      simp only [Option.bind_some]
      cases updatedItem engine s.db item body with
      | none => rfl
      | some changed => rfl

theorem updatedItem_keeps {item changed : CartItem} {body : UpdateCartBody}
    (updated : updatedItem engine s.db item body = some changed) :
    changed.id = item.id ∧ changed.userId = item.userId := by
  unfold updatedItem at updated
  split at updated
  · cases updated
  · simp only at updated
    split at updated
    · cases updated
    · cases updated
      exact ⟨rfl, rfl⟩

theorem deleteCart_state (s : State) (login : session.user = some user) (itemId : Nat) :
    (deleteCart session s itemId).2 = s ∧ s.db.cartItems.get? itemId = none ∨
      (deleteCart session s itemId).2 =
        withCart s (s.db.cartItems.remove (fun item => item.id = itemId)) := by
  rw [deleteCart, loginRequired_some login]
  cases found : s.db.cartItems.get? itemId with
  | none => exact Or.inl ⟨rfl, rfl⟩
  | some item => exact Or.inr rfl

end Steps

/-- The cart requests write the cart table and nothing else. -/
theorem cartStep_frame (engine : Engine) (s : State) (call : CartCall) :
    ∃ table, cartStep engine s call = withCart s table := by
  unfold cartStep
  cases login : call.session.user with
  | none => cases call.request <;> exact ⟨s.db.cartItems, loginRequired_none login⟩
  | some user =>
      cases call.request with
      | getCart => exact ⟨s.db.cartItems, by rw [getCart, loginRequired_some login]; rfl⟩
      | addToCart body =>
          rcases addToCart_cases engine s login body with
            kept | ⟨_, changed, -, -, -, saved⟩ | ⟨_, _, _, inserted⟩
          · exact ⟨s.db.cartItems, kept⟩
          · exact ⟨_, saved⟩
          · exact ⟨_, inserted⟩
      | updateCart itemId body =>
          simp only [updateCart_state login]
          split
          · exact ⟨s.db.cartItems, rfl⟩
          · exact ⟨_, rfl⟩
      | deleteCart itemId =>
          rcases deleteCart_state s login itemId with ⟨kept, -⟩ | removed
          · exact ⟨s.db.cartItems, kept⟩
          · exact ⟨_, removed⟩
      | deleteAllCart => exact ⟨_, by rw [deleteAllCart, loginRequired_some login]⟩

end ProductSite.Backend.CartRoutes
