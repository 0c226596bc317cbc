/- Module: ProductSite/Backend/Requests
   source: backend/app/routes/inventory_routes.py, backend/app/routes/purchase_routes.py
   digest: The requests that reach the stock, their steps, and the posts that each step makes. -/

import ProductSite.Backend.PurchaseSaving
import ProductSite.Backend.RedisListener
import ProductSite.Foundation.Runs

set_option autoImplicit false
set_option relaxedAutoImplicit false

namespace ProductSite.Backend.Requests

open ProductSite.Foundation.Balances (Post credits postAll post_assign_self)
open ProductSite.Foundation.KeyedTable (Table)
open ProductSite.Foundation.Wire (JsonField Reply)
open ProductSite.Backend.Models
open ProductSite.Backend.InventoryRoutes
open ProductSite.Backend.PurchaseRoutes
open ProductSite.Backend.PurchaseSaving
  (createPurchase_frame createPurchase_inventory createPurchase_redis paid)
open ProductSite.Backend.RedisListener

/-- A request together with what the outside world contributes to it, or an expired key. -/
inductive Request where
  | createInventory (session : Session) (places : String → PlacesReply)
      (body : CreateInventoryBody)
  | editInventory (session : Session) (places : String → PlacesReply) (body : EditInventoryBody)
  | decrementQuantity (session : Session) (body : DecrementBody)
  | incrementQuantity (session : Session) (body : IncrementBody)
  | restoreReservedInventory (session : Session) (items : JsonField (List RestoreItem))
  | createPurchase (session : Session) (stripe : PaymentRequest → StripeOutcome) (now : Nat)
      (body : PurchaseBody)
  | updatePurchase (session : Session) (purchaseId : Nat) (body : PurchaseUpdate)
  | expire (name : String)

def step (server : Server) (s : State) : Request → State
  | .createInventory session places body =>
      (createInventory server.engine session places s body).2
  | .editInventory session places body => (editInventory server.engine session places s body).2
  | .decrementQuantity session body => (decrementQuantity server.engine session s body).2
  | .incrementQuantity session body => (incrementQuantity server.engine session s body).2
  | .restoreReservedInventory session items => (restoreReservedInventory session s items).2
  | .createPurchase session stripe now body => (createPurchase server session stripe now s body).2
  | .updatePurchase session purchaseId body =>
      (updatePurchase server.engine session s purchaseId body).2
  | .expire name => expire s name

def createdPosts (reply : Reply InventoryMessage) (body : CreateInventoryBody) :
    List (Post Nat) :=
  match reply with
  | .ok _ created => [.assign created.inventory (body.quantity.get.getD 0)]
  | _ => []

def editedPosts (reply : Reply Nat) (body : EditInventoryBody) : List (Post Nat) :=
  match reply, body.quantity with
  | .ok _ id, .value quantity => [.assign id quantity]
  | _, _ => []

def reservedPosts (accepted : Option (Nat × Inventory × Int)) : List (Post Nat) :=
  match accepted with
  | none => []
  | some (_, inv, quantity) => [.add inv.id (-quantity)]

def incrementedPosts (engine : Engine) (session : Session) (s : State) (body : IncrementBody) :
    List (Post Nat) :=
  match session.user, incrementPlan engine s.db body with
  | some _, .ok (inv, quantity) => [.add inv.id quantity]
  | _, _ => []

/-- The entries that a restore request credits; none when the session or an item fails. -/
def restoredBy (session : Session) (s : State) (items : JsonField (List RestoreItem)) :
    List (Nat × Int) :=
  match session.user, items.getD [] with
  | some _, some items =>
      if (restoreLoop s.db.inventory s.redis items).1.isSome then restoredEntries items else []
  | _, _ => []

theorem mem_restoredBy {session : Session} {s : State} {items : JsonField (List RestoreItem)}
    {entry : Nat × Int} (member : entry ∈ restoredBy session s items) :
    ∃ list, items.get = some list ∧ entry ∈ restoredEntries list := by
  unfold restoredBy at member
  split at member
  · rename_i list _ given
    split at member
    · rcases JsonField.getD_eq_some given with named | rfl
      · exact ⟨list, named, member⟩
      · cases member
    · cases member
  · cases member

def updatedBy (engine : Engine) (session : Session) (s : State) (purchaseId : Nat)
    (body : PurchaseUpdate) : List (Nat × Int) :=
  match acceptedUpdate engine session s.db purchaseId body with
  | none => []
  | some (purchase, updated, _) => updatedEntries purchase updated body

def rollbackPosts (record : Option RollbackData) : List (Post Nat) :=
  match record with
  | none => []
  | some data => [.add data.inventoryId data.quantity]

/-- The abstract view of a request: the posts that it makes to the stock. -/
def posts (server : Server) (s : State) : Request → List (Post Nat)
  | .createInventory session places body =>
      createdPosts (createInventory server.engine session places s body).1 body
  | .editInventory session places body =>
      editedPosts (editInventory server.engine session places s body).1 body
  | .decrementQuantity session body =>
      reservedPosts (reservation server.engine session s.db body)
  | .incrementQuantity session body => incrementedPosts server.engine session s body
  | .restoreReservedInventory session items => credits (restoredBy session s items)
  -- the units of a purchase were taken when they were reserved
  | .createPurchase _ _ _ _ => []
  | .updatePurchase session purchaseId body =>
      credits (updatedBy server.engine session s purchaseId body)
  | .expire name => rollbackPosts (rollbackRecord (forget s name) name)

/-- The state is the old one up to the inventory table, and the stock of that table is the
old stock after the posts. -/
def Restocked (s after : State) (posts : List (Post Nat)) : Prop :=
  ∃ table, after = s.saveInventoryTable table ∧ stockOf table = postAll s.stock posts

private theorem restocked_refl (s : State) : Restocked s s [] := ⟨s.db.inventory, rfl, rfl⟩

private theorem Restocked.stock {s after : State} {posts : List (Post Nat)}
    (restocked : Restocked s after posts) : after.stock = postAll s.stock posts := by
  obtain ⟨table, rfl, posted⟩ := restocked
  exact posted

private theorem Restocked.redis {s after : State} {posts : List (Post Nat)}
    (restocked : Restocked s after posts) : after.redis = s.redis := by
  obtain ⟨table, rfl, -⟩ := restocked
  rfl

private theorem Restocked.frame {s after : State} {posts : List (Post Nat)}
    (restocked : Restocked s after posts) :
    ∃ inventory purchases redis charges, after =
      ⟨{ s.db with inventory := inventory, purchases := purchases }, redis, charges⟩ := by
  obtain ⟨table, rfl, -⟩ := restocked
  exact ⟨_, _, _, _, rfl⟩

private theorem restocked_storeInventory (engine : Engine) (s : State) (body : CreateInventoryBody)
    (location : Option String) (coordinates : String) (lookupKey : Bool) :
    Restocked s (storeInventory engine s body location coordinates lookupKey).2
      (createdPosts (storeInventory engine s body location coordinates lookupKey).1 body) := by
  unfold storeInventory
  split
  · exact restocked_refl s
  · split
    · split
      · simp only
        split
        · exact ⟨_, rfl, stockOf_insertNew ..⟩
        · split
          · exact restocked_refl s
          · rename_i stored
            exact ⟨_, rfl, stockOf_insert? stored⟩
      · exact restocked_refl s
    · exact restocked_refl s

private theorem restocked_createInventory (engine : Engine) (session : Session)
    (places : String → PlacesReply) (s : State) (body : CreateInventoryBody) :
    Restocked s (createInventory engine session places s body).2
      (createdPosts (createInventory engine session places s body).1 body) := by
  unfold createInventory adminRequired
  split
  · exact restocked_refl s
  · split
    · simp only
      split
      · exact restocked_refl s
      · split
        · exact restocked_storeInventory ..
        · split
          · exact restocked_refl s
          · split
            · exact restocked_storeInventory ..
            · split
              · exact restocked_refl s
              · exact restocked_storeInventory ..
    · unfold adminRefusal
      split <;> exact restocked_refl s

private theorem restocked_commitEdit (engine : Engine) (s : State) (inv : Inventory)
    (found : s.db.inventory.get? inv.id = some inv) (body : EditInventoryBody)
    (location : Option String) (coordinates : String) :
    Restocked s (commitEdit engine s inv body location coordinates).2
      (editedPosts (commitEdit engine s inv body location coordinates).1 body) := by
  unfold commitEdit
  split
  · rename_i given
    split
    · refine ⟨_, rfl, ?_⟩
      rw [stockOf_save_assign (by exact found)]
      cases asked : body.quantity with
      | absent =>
          rw [asked] at given
          cases given
          simp only [editedPosts, asked]
          exact post_assign_self (stockOf_of_get? found)
      | null =>
          rw [asked] at given
          cases given
      | value quantity =>
          rw [asked] at given
          cases given
          simp only [editedPosts, asked]
          rfl
    · exact restocked_refl s
  · exact restocked_refl s

private theorem restocked_editInventory (engine : Engine) (session : Session)
    (places : String → PlacesReply) (s : State) (body : EditInventoryBody) :
    Restocked s (editInventory engine session places s body).2
      (editedPosts (editInventory engine session places s body).1 body) := by
  unfold editInventory adminRequired
  split
  · exact restocked_refl s
  · split
    · simp only
      split
      · exact restocked_refl s
      · split
        · exact restocked_refl s
        · rename_i inv found
          have row := Table.get?_of_first found
          split
          · exact restocked_commitEdit engine s inv row body _ _
          · split
            · exact restocked_commitEdit engine s inv row body _ _
            · split
              · exact restocked_refl s
              · exact restocked_commitEdit engine s inv row body _ _
    · unfold adminRefusal
      split <;> exact restocked_refl s

private theorem restocked_incrementQuantity (engine : Engine) (session : Session) (s : State)
    (body : IncrementBody) :
    Restocked s (incrementQuantity engine session s body).2
      (incrementedPosts engine session s body) := by
  unfold incrementQuantity loginRequired incrementedPosts
  cases session.user with
  | none => exact restocked_refl s
  | some user =>
      cases plan : incrementPlan engine s.db body with
      | error reply => exact restocked_refl s
      | ok taken =>
          obtain ⟨inv, quantity⟩ := taken
          exact ⟨_, rfl, stockOf_save_add (incrementPlan_found plan).1 quantity⟩

private theorem stock_decrementQuantity (engine : Engine) (session : Session) (s : State)
    (body : DecrementBody) :
    (decrementQuantity engine session s body).2.stock =
      postAll s.stock (reservedPosts (reservation engine session s.db body)) := by
  rw [decrementQuantity_state]
  cases accepted : reservation engine session s.db body with
  | none => rfl
  | some taken =>
      obtain ⟨user, inv, quantity⟩ := taken
      exact stock_reserve (reservation_found accepted).1

private theorem stock_restoreReservedInventory (session : Session) (s : State)
    (items : JsonField (List RestoreItem)) :
    (restoreReservedInventory session s items).2.stock =
      postAll s.stock (credits (restoredBy session s items)) := by
  unfold restoreReservedInventory loginRequired restoredBy
  cases session.user with
  | none => rfl
  | some user =>
      cases items.getD [] with
      | none => rfl
      | some items =>
          cases done : restoreLoop s.db.inventory s.redis items with
          | mk table redis =>
              cases table with
              | none => simp [done]; rfl
              | some table =>
                  simp only [done]
                  exact restoreLoop_stock done

private theorem stock_createPurchase (server : Server) (session : Session)
    (stripe : PaymentRequest → StripeOutcome) (now : Nat) (s : State) (body : PurchaseBody) :
    (createPurchase server session stripe now s body).2.stock = s.stock := by
  have inventory := createPurchase_inventory server session stripe now s body
  unfold State.stock
  rw [inventory]

private theorem stock_updatePurchase (engine : Engine) (session : Session) (s : State)
    (purchaseId : Nat) (body : PurchaseUpdate) :
    (updatePurchase engine session s purchaseId body).2.stock =
      postAll s.stock (credits (updatedBy engine session s purchaseId body)) := by
  rw [updatePurchase_state]
  unfold updatedBy
  cases accepted : acceptedUpdate engine session s.db purchaseId body with
  | none => rfl
  | some written =>
      obtain ⟨purchase, updated, row⟩ := written
      exact updatePlan_stock (acceptedUpdate_eq_some accepted).2

/-- The handlers refine the abstract stock: each step is exactly the posts of its request. -/
theorem stock_step (server : Server) (s : State) (request : Request) :
    (step server s request).stock = postAll s.stock (posts server s request) := by
  cases request with
  | createInventory session places body => exact (restocked_createInventory ..).stock
  | editInventory session places body => exact (restocked_editInventory ..).stock
  | decrementQuantity session body => exact stock_decrementQuantity ..
  | incrementQuantity session body => exact (restocked_incrementQuantity ..).stock
  | restoreReservedInventory session items => exact stock_restoreReservedInventory ..
  | createPurchase session stripe now body => exact stock_createPurchase ..
  | updatePurchase session purchaseId body => exact stock_updatePurchase ..
  | expire name =>
      change (handleExpired (forget s name) name).stock = _
      rw [stock_handleExpired]
      simp only [posts, rollbackPosts]
      cases rollbackRecord (forget s name) name with
      | none => rfl
      | some data => rfl

section Redis

private theorem updatePurchase_redis (engine : Engine) (session : Session) (s : State)
    (purchaseId : Nat) (body : PurchaseUpdate) :
    (updatePurchase engine session s purchaseId body).2.redis = s.redis := by
  rw [updatePurchase_state]
  split <;> rfl

private theorem expire_redis (s : State) (name : String) :
    ∃ names, (expire s name).redis = s.redis.deleteAll names := by
  unfold expire handleExpired
  split
  · exact ⟨[name], rfl⟩
  · simp only
    split
    · exact ⟨[name, metadataKey name], rfl⟩
    · exact ⟨[name, metadataKey name], rfl⟩

/-- Everything that a step can do to Redis: delete keys, or write the reservation key of an
accepted decrement. -/
theorem step_redis (server : Server) (s : State) (request : Request) :
    (∃ names, (step server s request).redis = s.redis.deleteAll names) ∨
      ∃ inventory user data, (step server s request).redis =
        s.redis.set (pendingKey inventory user) (.rollback data) := by
  cases request with
  | createInventory session places body => exact Or.inl ⟨[], (restocked_createInventory ..).redis⟩
  | editInventory session places body => exact Or.inl ⟨[], (restocked_editInventory ..).redis⟩
  | incrementQuantity session body => exact Or.inl ⟨[], (restocked_incrementQuantity ..).redis⟩
  | updatePurchase session purchaseId body => exact Or.inl ⟨[], updatePurchase_redis ..⟩
  | expire name => exact Or.inl (expire_redis s name)
  | restoreReservedInventory session items =>
      obtain ⟨names, deleted, -⟩ := restoreReservedInventory_redis session s items
      exact Or.inl ⟨names, deleted⟩
  | createPurchase session stripe now body =>
      have deleted := createPurchase_redis server session stripe now s body
      cases payment : paid server session stripe body with
      | none =>
          rw [payment] at deleted
          exact Or.inl ⟨[], deleted⟩
      | some order =>
          rw [payment] at deleted
          exact Or.inl ⟨_, deleted⟩
  | decrementQuantity session body =>
      change (∃ names, (decrementQuantity server.engine session s body).2.redis = _) ∨ _
      simp only [step, decrementQuantity_state]
      split
      · exact Or.inl ⟨[], rfl⟩
      · exact Or.inr ⟨_, _, _, rfl⟩

end Redis

/-- These requests write the inventory, the purchases, Redis and the payments. -/
theorem step_frame (server : Server) (s : State) (request : Request) :
    ∃ inventory purchases redis charges, step server s request =
      ⟨{ s.db with inventory := inventory, purchases := purchases }, redis, charges⟩ := by
  cases request with
  | createInventory session places body => exact (restocked_createInventory ..).frame
  | editInventory session places body => exact (restocked_editInventory ..).frame
  | incrementQuantity session body => exact (restocked_incrementQuantity ..).frame
  | createPurchase session stripe now body =>
      obtain ⟨purchases, redis, charges, after⟩ :=
        createPurchase_frame server session stripe now s body
      exact ⟨_, _, _, _, after⟩
  | decrementQuantity session body =>
      simp only [step, decrementQuantity_state]
      split <;> exact ⟨_, _, _, _, rfl⟩
  | updatePurchase session purchaseId body =>
      simp only [step, updatePurchase_state]
      split <;> exact ⟨_, _, _, _, rfl⟩
  | restoreReservedInventory session items =>
      simp only [step, restoreReservedInventory, loginRequired]
      split
      · exact ⟨_, _, _, _, rfl⟩
      · split
        · exact ⟨_, _, _, _, rfl⟩
        · split <;> exact ⟨_, _, _, _, rfl⟩
  | expire name =>
      simp only [step, expire, handleExpired]
      split
      · exact ⟨_, _, _, _, rfl⟩
      · split <;> exact ⟨_, _, _, _, rfl⟩

/-- None of these requests writes the user table. -/
theorem step_users (server : Server) (s : State) (request : Request) :
    (step server s request).db.users = s.db.users := by
  obtain ⟨inventory, purchases, redis, charges, after⟩ := step_frame server s request
  rw [after]

section Samples

def customer : Session := ⟨some 1, some "customer"⟩

def administrator : Session := ⟨some 2, some "admin"⟩

def nobody : Session := ⟨none, none⟩

def sampleShop (inventory : Table Inventory.id) (purchases : Table Purchase.id) : State where
  db := {
    users := ⟨[⟨1, "ann", "ann@mail.com", "hash-1", "customer", none, true⟩,
      ⟨2, "root", "root@mail.com", "hash-2", "admin", none, true⟩], by decide, by decide⟩
    kits := ⟨[⟨1, "Sand tray", "A tray of sand", "/tray.png", 10, [], [], [], []⟩], by decide,
      by decide⟩
    inventory := inventory
    purchases := purchases
    shippingAddresses := .empty
    cartItems := .empty
    favorites := .empty
    reviews := .empty
    ageOptions := .empty
    categoryOptions := .empty
    gradeOptions := .empty
    themeOptions := .empty
    kitInventory := [] }
  redis := .empty
  charges := []

def shelf (quantity : Int) : Inventory := ⟨1, "1 Main St", "0,0", "Library", quantity, 1⟩

def shelfOnly (quantity : Int) : State :=
  sampleShop ⟨[shelf quantity], by simp [shelf], by simp [shelf]⟩ .empty

def sampleServer : Server := ⟨.sqlite, 0, .exact⟩

def takeFromShelf (quantity : Int) : Request :=
  .decrementQuantity customer ⟨.value "Library", .value quantity, .value 1, .value "1 Main St"⟩

end Samples

end ProductSite.Backend.Requests
