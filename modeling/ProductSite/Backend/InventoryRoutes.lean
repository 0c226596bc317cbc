/- Module: ProductSite/Backend/InventoryRoutes
   source: backend/app/routes/inventory_routes.py
   digest: The handlers that write inventory rows, and what each of them leaves behind. -/

import ProductSite.Backend.Models

set_option autoImplicit false
set_option relaxedAutoImplicit false

namespace ProductSite.Backend.InventoryRoutes

open ProductSite.Foundation.Balances (credits post postAll)
open ProductSite.Foundation.KeyedTable (Table)
open ProductSite.Foundation.Wire (JsonField Keyspace Reply)
open ProductSite.Backend.Models

structure PlaceCandidate where
  formattedAddress : Option String
  lat : Option String
  lng : Option String

/-- What the places service answers, unless the request to it fails. -/
inductive PlacesReply where
  | failed (message : String)
  | answered (status : Option String) (candidates : List PlaceCandidate)

structure FoundAddress where
  address : String
  lat : String
  lng : String

/-- The address, or the status and the text of the error response. -/
def findAddress : PlacesReply → Except (Nat × String) FoundAddress
  | .failed message => .error (500, message)
  | .answered status candidates =>
      match status == some "OK", candidates with
      | true, place :: _ =>
          match place.formattedAddress, place.lat, place.lng with
          | some address, some lat, some lng => .ok ⟨address, lat, lng⟩
          | none, _, _ => .error (500, "'formatted_address'")
          | _, none, _ => .error (500, "'lat'")
          | _, _, none => .error (500, "'lng'")
      | _, _ => .error (404, "Place not found")

/-- How a value that may be None is printed into the query of the places service. -/
def printed (text : Option String) : String := text.getD "None"

def coordinatesOf (found : FoundAddress) : String := s!"{found.lat}, {found.lng}"

/-- `otherKeys` says that the body has a key that is no attribute of the model. -/
structure CreateInventoryBody where
  id : JsonField Nat
  location : JsonField String
  locationName : JsonField String
  quantity : JsonField Int
  kitId : JsonField Nat
  noAddressLookup : JsonField Bool
  otherKeys : Bool

structure InventoryMessage where
  message : String
  inventory : Nat
  deriving DecidableEq

def kitAllowed (engine : Engine) (db : Database) (kitId : Nat) : Bool :=
  !engine.foreignKeys || (db.kits.get? kitId).isSome

def storeInventory (engine : Engine) (s : State) (body : CreateInventoryBody)
    (location : Option String) (coordinates : String) (lookupKey : Bool) :
    Reply InventoryMessage × State :=
  -- Inventory(**data) rejects keys that are no attributes of the model
  if body.otherKeys || lookupKey then (.raised, s)
  else
    match location, body.locationName.get, body.kitId.get with
    | some location, some locationName, some kitId =>
        if kitAllowed engine s.db kitId then
          -- a missing or null quantity takes the column default
          let row := fun id =>
            Inventory.mk id location coordinates locationName (body.quantity.get.getD 0) kitId
          match body.id.get.filter (fun id => id ≠ 0) with
          | none =>
              (.ok 201 ⟨"Inventory created", s.db.inventory.nextKey⟩,
                s.saveInventoryTable (s.db.inventory.insertNew row (fun _ => rfl)))
          | some id =>
              match s.db.inventory.insert? (row id) with
              | none => (.raised, s)
              | some table => (.ok 201 ⟨"Inventory created", id⟩, s.saveInventoryTable table)
        else (.raised, s)
    | _, _, _ => (.raised, s)

def createInventory (engine : Engine) (session : Session) (places : String → PlacesReply)
    (s : State) (body : CreateInventoryBody) : Reply InventoryMessage × State :=
  adminRequired session s fun _ =>
    match body.locationName.getD "" with
    | none => (.raised, s)
    | some name =>
        if lower name = "warehouse" then
          storeInventory engine s body (some "") "" body.noAddressLookup.present
        else if !body.location.present then (.raised, s)
        else if body.noAddressLookup.get = some true then
          -- the only branch that deletes the lookup key from the data again
          storeInventory engine s body body.location.get "0,0" false
        else
          match findAddress (places (printed body.location.get)) with
          | .error (status, message) => (.error status message [], s)
          | .ok found =>
              storeInventory engine s body (some found.address) (coordinatesOf found)
                body.noAddressLookup.present

structure EditInventoryBody where
  originalKitId : JsonField Nat
  originalLocationName : JsonField String
  kitId : JsonField Nat
  locationName : JsonField String
  quantity : JsonField Int
  location : JsonField String
  noAddressLookup : JsonField Bool

def commitEdit (engine : Engine) (s : State) (inv : Inventory) (body : EditInventoryBody)
    (location : Option String) (coordinates : String) : Reply Nat × State :=
  match body.kitId.getD inv.kitId, body.locationName.getD inv.locationName,
      body.quantity.getD inv.quantity, location with
  | some kitId, some locationName, some quantity, some location =>
      -- only a column that changes is written, and the engine checks no other
      if kitId = inv.kitId ∨ kitAllowed engine s.db kitId = true then
        (.ok 200 inv.id,
          s.saveInventory ⟨inv.id, location, coordinates, locationName, quantity, kitId⟩)
      else (.raised, s)
  | _, _, _, _ => (.raised, s)

def editInventory (engine : Engine) (session : Session) (places : String → PlacesReply)
    (s : State) (body : EditInventoryBody) : Reply Nat × State :=
  adminRequired session s fun _ =>
    if !(body.originalKitId.present && body.originalLocationName.present) then (.raised, s)
    else
      match s.db.inventory.first (fun row =>
          body.originalKitId.get == some row.kitId &&
            body.originalLocationName.get.any (engine.sameText row.locationName)) with
      | none => (.error 404 "Inventory not found" [], s)
      | some inv =>
          let newLocation := body.location.getD inv.location
          if lower (body.locationName.get.getD "") = "warehouse" then
            commitEdit engine s inv body (some "") ""
          else if body.noAddressLookup.get = some true then
            commitEdit engine s inv body newLocation "0,0"
          else
            match findAddress (places (printed newLocation)) with
            | .error (status, message) => (.error status message [], s)
            | .ok found => commitEdit engine s inv body (some found.address) (coordinatesOf found)

def rowAt (engine : Engine) (db : Database) (kitId : Nat) (location : String) :
    Option Inventory :=
  db.inventory.first (fun row => row.kitId == kitId && engine.sameText row.location location)

/-- A row goes with the purchases and the cart items that refer to it. -/
def withoutInventory (db : Database) (id : Nat) : Database :=
  { db with
    inventory := db.inventory.remove (fun row => row.id = id)
    purchases := db.purchases.remove (fun purchase => purchase.inventoryId = some id)
    cartItems := db.cartItems.remove (fun item => item.inventoryId = some id) }

/-- The arguments of the query, with the kit as the number that the engine compares it as. A
missing argument is compared with IS NULL, which no row is. -/
def deleteInventory (engine : Engine) (session : Session) (s : State) (kitId : Option Nat)
    (location : Option String) : Reply String × State :=
  adminRequired session s fun _ =>
    match kitId.bind (fun kitId => location.bind (rowAt engine s.db kitId)) with
    | none => (.error 404 "Inventory not found" [], s)
    | some inv => (.ok 200 "Inventory deleted", { s with db := withoutInventory s.db inv.id })

structure DecrementBody where
  locationName : JsonField String
  quantity : JsonField Int
  kitId : JsonField Nat
  location : JsonField String

structure QuantityMessage where
  message : String
  newQuantity : Int
  deriving DecidableEq

/-- The row that serves every warehouse request, whatever its kit. -/
def warehouseRow (engine : Engine) (db : Database) : Option Inventory :=
  db.inventory.first (fun row => engine.sameText row.locationName "warehouse")

def decrementRow (engine : Engine) (db : Database) (body : DecrementBody) :
    Except (Reply QuantityMessage) (Option Inventory) :=
  match body.locationName.getD "" with
  | none => .error .raised
  | some name =>
      if lower name = "warehouse" then .ok (warehouseRow engine db)
      else
        match body.kitId.get.filter (fun id => id ≠ 0),
            body.location.get.filter (fun text => text ≠ "") with
        | some kitId, some location => .ok (rowAt engine db kitId location)
        | _, _ => .error (.error 400 "Missing kit_id or location" [])

def decrementPlan (engine : Engine) (db : Database) (body : DecrementBody) :
    Except (Reply QuantityMessage) (Inventory × Int) :=
  match decrementRow engine db body with
  | .error reply => .error reply
  | .ok none => .error (.error 400 "Insufficient inventory" [])
  | .ok (some inv) =>
      -- the stock is compared with zero, not with the requested quantity
      if inv.quantity ≤ 0 then .error (.error 400 "Insufficient inventory" [])
      else
        match body.quantity.getD 1 with
        | none => .error .raised
        | some quantity => .ok (inv, quantity)

def decrementQuantity (engine : Engine) (session : Session) (s : State) (body : DecrementBody) :
    Reply QuantityMessage × State :=
  loginRequired session s fun user =>
    match decrementPlan engine s.db body with
    | .error reply => (reply, s)
    | .ok (inv, quantity) =>
        let debited := s.saveInventory { inv with quantity := inv.quantity - quantity }
        (.ok 200 ⟨"Inventory decremented", inv.quantity - quantity⟩,
          { debited with
            redis := s.redis.set (pendingKey inv.id user)
              (.rollback ⟨inv.id, body.kitId.get, quantity⟩) })

structure IncrementBody where
  kitId : JsonField Nat
  location : JsonField String
  quantity : JsonField Int

def incrementPlan (engine : Engine) (db : Database) (body : IncrementBody) :
    Except (Reply QuantityMessage) (Inventory × Int) :=
  match body.kitId.get, body.location.get with
  | some kitId, some location =>
      match rowAt engine db kitId location with
      | none => .error (.error 404 "Inventory record not found" [])
      | some inv =>
          match body.quantity.getD 1 with
          | none => .error .raised
          | some quantity => .ok (inv, quantity)
  | _, _ => .error (.error 400 "Missing kit_id or location" [])

def incrementQuantity (engine : Engine) (session : Session) (s : State) (body : IncrementBody) :
    Reply QuantityMessage × State :=
  loginRequired session s fun _ =>
    match incrementPlan engine s.db body with
    | .error reply => (reply, s)
    | .ok (inv, quantity) =>
        (.ok 200 ⟨"Inventory incremented", inv.quantity + quantity⟩,
          s.saveInventory { inv with quantity := inv.quantity + quantity })

structure RestoreItem where
  inventoryId : JsonField Nat
  quantity : JsonField Int

/-- `reserved_inventory:{inventory_id}`, a name that no other code uses. -/
def reservedKey (inventoryId : Option Nat) : String :=
  "reserved_inventory:" ++ (inventoryId.map toString).getD "None"

def restoreLoop (table : Table Inventory.id) (redis : Keyspace RedisValue) :
    List RestoreItem → Option (Table Inventory.id) × Keyspace RedisValue
  | [] => (some table, redis)
  | item :: rest =>
      let cleared := redis.delete (reservedKey item.inventoryId.get)
      match item.inventoryId.get.bind table.get? with
      | none => restoreLoop table cleared rest
      | some inv =>
          match item.quantity.get with
          -- adding None raises before the key is deleted, and nothing is committed
          | none => (none, redis)
          | some quantity =>
              restoreLoop (table.save { inv with quantity := inv.quantity + quantity }) cleared rest

def restoreReservedInventory (session : Session) (s : State)
    (items : JsonField (List RestoreItem)) : Reply Bool × State :=
  loginRequired session s fun _ =>
    match items.getD [] with
    | none => (.raised, s)
    | some items =>
        match restoreLoop s.db.inventory s.redis items with
        | (none, redis) => (.raised, { s with redis := redis })
        | (some table, redis) =>
            (.ok 200 true, { s.saveInventoryTable table with redis := redis })

section Reservations

/-- The user, the row and the quantity of an accepted `decrement_quantity` request. -/
def reservation (engine : Engine) (session : Session) (db : Database) (body : DecrementBody) :
    Option (Nat × Inventory × Int) :=
  match session.user, decrementPlan engine db body with
  | some user, .ok (inv, quantity) => some (user, inv, quantity)
  | _, _ => none

def reserve (s : State) (user : Nat) (inv : Inventory) (kitId : Option Nat) (quantity : Int) :
    State :=
  { s.saveInventory { inv with quantity := inv.quantity - quantity } with
    redis := s.redis.set (pendingKey inv.id user) (.rollback ⟨inv.id, kitId, quantity⟩) }

variable {engine : Engine} {session : Session} {s : State} {body : DecrementBody}

theorem decrementQuantity_state :
    (decrementQuantity engine session s body).2 =
      match reservation engine session s.db body with
      | none => s
      | some (user, inv, quantity) => reserve s user inv body.kitId.get quantity := by
  unfold decrementQuantity loginRequired reservation
  cases session.user with
  | none => rfl
  | some user =>
      cases decrementPlan engine s.db body with
      | error reply => rfl
      | ok taken => rfl

theorem decrementRow_found {db : Database} {inv : Inventory}
    (found : decrementRow engine db body = .ok (some inv)) :
    db.inventory.get? inv.id = some inv := by
  unfold decrementRow at found
  split at found
  · cases found
  · split at found
    · exact Table.get?_of_first (Except.ok.inj found)
    · split at found
      · exact Table.get?_of_first (Except.ok.inj found)
      · cases found

theorem decrementPlan_eq_ok {db : Database} {inv : Inventory} {quantity : Int} :
    decrementPlan engine db body = .ok (inv, quantity) ↔
      decrementRow engine db body = .ok (some inv) ∧ 0 < inv.quantity ∧
        body.quantity.getD 1 = some quantity := by
  unfold decrementPlan
  constructor
  · intro plan
    split at plan
    · cases plan
    · cases plan
    · rename_i row found
      split at plan
      · cases plan
      · rename_i positive
        split at plan
        · cases plan
        · rename_i asked given
          obtain ⟨rfl, rfl⟩ := Prod.mk.inj (Except.ok.inj plan)
          exact ⟨found, not_le.mp positive, given⟩
  · rintro ⟨found, positive, given⟩
    simp [found, not_le.mpr positive, given]

theorem reservation_eq_some {user : Nat} {inv : Inventory} {quantity : Int} :
    reservation engine session s.db body = some (user, inv, quantity) ↔
      session.user = some user ∧ decrementPlan engine s.db body = .ok (inv, quantity) := by
  unfold reservation
  cases session.user with
  | none => simp
  | some id =>
      cases decrementPlan engine s.db body with
      | error reply => simp
      | ok taken => simp [Prod.ext_iff]

theorem reservation_found {user : Nat} {inv : Inventory} {quantity : Int}
    (accepted : reservation engine session s.db body = some (user, inv, quantity)) :
    s.db.inventory.get? inv.id = some inv ∧ body.quantity.getD 1 = some quantity := by
  obtain ⟨found, -, given⟩ := decrementPlan_eq_ok.mp (reservation_eq_some.mp accepted).2
  exact ⟨decrementRow_found found, given⟩

private theorem decrementPlan_refused {reply : Reply QuantityMessage}
    (plan : decrementPlan engine s.db body = .error reply) : reply.fetchOk = false := by
  unfold decrementPlan at plan
  split at plan
  · rename_i early found
    cases plan
    unfold decrementRow at found
    split at found
    · cases found; rfl
    · split at found
      · cases found
      · split at found
        · cases found
        · cases found; rfl
  · cases plan; rfl
  · split at plan
    · cases plan; rfl
    · split at plan
      · cases plan; rfl
      · cases plan

/-- The client sees success precisely for the accepted reservations. -/
theorem decrementQuantity_fetchOk :
    (decrementQuantity engine session s body).1.fetchOk =
      (reservation engine session s.db body).isSome := by
  unfold decrementQuantity loginRequired reservation
  cases session.user with
  | none => rfl
  | some user =>
      cases plan : decrementPlan engine s.db body with
      | error reply => exact decrementPlan_refused plan
      | ok taken => rfl

theorem stock_reserve {user : Nat} {inv : Inventory} {kitId : Option Nat} {quantity : Int}
    (found : s.db.inventory.get? inv.id = some inv) :
    (reserve s user inv kitId quantity).stock = post s.stock (.add inv.id (-quantity)) := by
  have units : inv.quantity - quantity = inv.quantity + -quantity := Int.sub_eq_add_neg
  unfold reserve
  rw [units]
  exact stockOf_save_add found (-quantity)

/-- The row that a decrement request is served from, whatever stock it has. -/
def servedId (engine : Engine) (db : Database) (body : DecrementBody) : Option Nat :=
  match decrementRow engine db body with
  | .ok row => row.map Inventory.id
  | .error _ => none

theorem servedId_of_reservation {user : Nat} {inv : Inventory} {quantity : Int}
    (accepted : reservation engine session s.db body = some (user, inv, quantity)) :
    servedId engine s.db body = some inv.id := by
  obtain ⟨found, -, -⟩ := decrementPlan_eq_ok.mp (reservation_eq_some.mp accepted).2
  rw [servedId, found]
  rfl

private theorem first_id_save {table : Table Inventory.id} {inv : Inventory}
    (found : table.get? inv.id = some inv) (quantity : Int) {filter : Inventory → Bool}
    (blind : ∀ row : Inventory, filter { row with quantity := quantity } = filter row) :
    ((table.save { inv with quantity := quantity }).first filter).map Inventory.id =
      (table.first filter).map Inventory.id := by
  rw [Table.first_save, Option.map_map]
  · congr 1
    funext row
    simp only [Function.comp_apply]
    split
    · rename_i same
      exact same.symm
    · rfl
  · intro old member same
    have equal : old = inv := by
      have present := Table.get?_of_mem member
      rw [same] at present
      exact Option.some.inj (present.symm.trans found)
    rw [equal]
    exact blind inv

theorem servedId_save {inv : Inventory} (found : s.db.inventory.get? inv.id = some inv)
    (quantity : Int) :
    servedId engine (s.saveInventory { inv with quantity := quantity }).db body =
      servedId engine s.db body := by
  unfold servedId decrementRow
  cases body.locationName.getD "" with
  | none => rfl
  | some name =>
      by_cases warehouse : lower name = "warehouse"
      · simp only [warehouse, if_true]
        exact first_id_save found quantity (fun _ => rfl)
      · simp only [warehouse, if_false]
        cases body.kitId.get.filter (fun id => id ≠ 0) with
        | none => rfl
        | some kitId =>
            cases body.location.get.filter (fun text => text ≠ "") with
            | none => rfl
            | some location => exact first_id_save found quantity (fun _ => rfl)

end Reservations

theorem incrementPlan_found {engine : Engine} {db : Database} {body : IncrementBody}
    {inv : Inventory} {quantity : Int}
    (plan : incrementPlan engine db body = .ok (inv, quantity)) :
    db.inventory.get? inv.id = some inv ∧ body.quantity.getD 1 = some quantity := by
  unfold incrementPlan at plan
  split at plan
  · split at plan
    · cases plan
    · rename_i row found
      split at plan
      · cases plan
      · rename_i asked given
        obtain ⟨rfl, rfl⟩ := Prod.mk.inj (Except.ok.inj plan)
        exact ⟨Table.get?_of_first found, given⟩
  · cases plan

section Restoring

def restoredEntries (items : List RestoreItem) : List (Nat × Int) :=
  items.filterMap (fun item =>
    match item.inventoryId.get, item.quantity.get with
    | some id, some quantity => some (id, quantity)
    | _, _ => none)

theorem mem_restoredEntries {items : List RestoreItem} {entry : Nat × Int} :
    entry ∈ restoredEntries items ↔
      ∃ item ∈ items, item.inventoryId.get = some entry.1 ∧ item.quantity.get = some entry.2 := by
  unfold restoredEntries
  rw [List.mem_filterMap]
  refine exists_congr fun item => and_congr_right fun _ => ?_
  split
  · rename_i id quantity named asked
    simp [named, asked, Prod.ext_iff]
  · rename_i incomplete
    constructor
    · intro none
      cases none
    · rintro ⟨named, asked⟩
      exact absurd asked (incomplete _ _ named)

-- Items of missing rows stay in the entries: a credit to a missing account has no effect.
theorem restoreLoop_stock {table table' : Table Inventory.id} {redis redis' : Keyspace RedisValue}
    {items : List RestoreItem} (done : restoreLoop table redis items = (some table', redis')) :
    stockOf table' = postAll (stockOf table) (credits (restoredEntries items)) := by
  induction items generalizing table redis with
  | nil =>
      cases done
      rfl
  | cons item rest ih =>
      unfold restoreLoop at done
      cases named : item.inventoryId.get with
      | none =>
          rw [named] at done
          have entries : restoredEntries (item :: rest) = restoredEntries rest := by
            simp [restoredEntries, named]
          rw [entries]
          exact ih done
      | some id =>
          rw [named] at done
          simp only [Option.bind_some] at done
          cases asked : item.quantity.get with
          | none =>
              have entries : restoredEntries (item :: rest) = restoredEntries rest := by
                simp [restoredEntries, named, asked]
              rw [entries]
              split at done
              · exact ih done
              · rw [asked] at done
                cases done
          | some quantity =>
              have entries : restoredEntries (item :: rest) =
                  (id, quantity) :: restoredEntries rest := by
                simp [restoredEntries, named, asked]
              rw [entries]
              split at done
              · rename_i missing
                change _ = postAll (post (stockOf table) (.add id quantity)) _
                rw [ih done, Foundation.Balances.post_add_missing (stockOf_of_missing missing)]
                rfl
              · rename_i inv found
                rw [asked] at done
                have here : inv.id = id := Table.key_of_get? found
                subst here
                rw [ih done, stockOf_save_add found]
                rfl

private theorem restoreLoop_redis (table : Table Inventory.id) (redis : Keyspace RedisValue)
    (items : List RestoreItem) :
    ∃ names, (restoreLoop table redis items).2 = redis.deleteAll names ∧
      ∀ name ∈ names, ∃ id, name = reservedKey id := by
  induction items generalizing table redis with
  | nil => exact ⟨[], rfl, by simp⟩
  | cons item rest ih =>
      have further (table : Table Inventory.id) :
          ∃ names, (restoreLoop table (redis.delete (reservedKey item.inventoryId.get)) rest).2 =
              redis.deleteAll names ∧ ∀ name ∈ names, ∃ id, name = reservedKey id := by
        obtain ⟨names, deleted, own⟩ := ih table (redis.delete (reservedKey item.inventoryId.get))
        refine ⟨reservedKey item.inventoryId.get :: names, deleted, ?_⟩
        exact List.forall_mem_cons.mpr ⟨⟨_, rfl⟩, own⟩
      unfold restoreLoop
      simp only
      split
      · exact further table
      · split
        · exact ⟨[], rfl, by simp⟩
        · exact further _

theorem restoreReservedInventory_redis (session : Session) (s : State)
    (items : JsonField (List RestoreItem)) :
    ∃ names, (restoreReservedInventory session s items).2.redis = s.redis.deleteAll names ∧
      ∀ name ∈ names, ∃ id, name = reservedKey id := by
  unfold restoreReservedInventory loginRequired
  split
  · exact ⟨[], rfl, by simp⟩
  · split
    · exact ⟨[], rfl, by simp⟩
    · rename_i list _
      have deleted := restoreLoop_redis s.db.inventory s.redis list
      split
      · rename_i outcome
        rw [outcome] at deleted
        exact deleted
      · rename_i outcome
        rw [outcome] at deleted
        exact deleted

theorem restoreLoop_isSome {items : List RestoreItem}
    (given : ∀ item ∈ items, item.quantity.get.isSome) (table : Table Inventory.id)
    (redis : Keyspace RedisValue) : (restoreLoop table redis items).1.isSome := by
  induction items generalizing table redis with
  | nil => rfl
  | cons item rest ih =>
      obtain ⟨first, others⟩ := List.forall_mem_cons.mp given
      obtain ⟨quantity, named⟩ := Option.isSome_iff_exists.mp first
      unfold restoreLoop
      simp only [named]
      split
      · exact ih others _ _
      · exact ih others _ _

end Restoring

end ProductSite.Backend.InventoryRoutes
