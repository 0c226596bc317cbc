/- Module: ProductSite/Backend/Models
   source: backend/app/models, backend/app/utils/decorators.py
   digest: Table rows, the state behind the API, the database engine and the session guards. -/

import Mathlib.Data.List.DropRight
import Mathlib.Data.Rat.Defs
import ProductSite.Foundation.Balances
import ProductSite.Foundation.KeyedTable
import ProductSite.Foundation.Numerals

set_option autoImplicit false
set_option relaxedAutoImplicit false

namespace ProductSite.Backend.Models

open ProductSite.Foundation.Balances (post)
open ProductSite.Foundation.Floats (Arithmetic roundHalfAway)
open ProductSite.Foundation.KeyedTable (Table)
open ProductSite.Foundation.Numerals (isSpace)
open ProductSite.Foundation.Wire (Keyspace Reply)

/-- The role column is an enumeration, but a row holds the text that the engine let through. -/
structure User where
  id : Nat
  username : String
  email : String
  password : String
  role : String
  oauthProvider : Option String
  active : Bool
  deriving DecidableEq

/-- Only rows with a role of the enumeration can be loaded; others raise a LookupError. -/
def User.loadable (user : User) : Bool := user.role == "admin" || user.role == "customer"

/-- A row of one of the four option tables. -/
structure KitOption where
  id : Nat
  name : String
  deriving DecidableEq

/-- A kit with its rows in the association tables, as the ids of its options. -/
structure Kit where
  id : Nat
  name : String
  description : String
  imageUrl : String
  price : ℚ
  age : List Nat
  category : List Nat
  grade : List Nat
  theme : List Nat
  deriving DecidableEq

structure Inventory where
  id : Nat
  location : String
  coordinates : String
  locationName : String
  quantity : Int
  kitId : Nat
  deriving DecidableEq

structure ShippingAddress where
  id : Nat
  userId : Nat
  line1 : String
  city : String
  state : String
  postalCode : String
  country : String
  deriving DecidableEq

/-- The quantity is what the engine stores of a number in an integer column. -/
structure CartItem where
  id : Nat
  userId : Nat
  kitId : Nat
  inventoryId : Option Nat
  quantity : ℚ
  deriving DecidableEq

structure Favorite where
  id : Nat
  userId : Nat
  kitId : Option Nat
  filterJson : Option String
  filterName : Option String
  deriving DecidableEq

/-- A review with its rows in `review_age`, as the ids of its age options. -/
structure Review where
  id : Nat
  kitId : Nat
  userId : Nat
  rating : Int
  comment : Option String
  lengthOfPlay : Option String
  age : List Nat
  deriving DecidableEq

/-- Times are seconds since the epoch, dates are days. -/
structure Purchase where
  id : Nat
  kitId : Nat
  userId : Nat
  inventoryId : Option Nat
  quantity : Int
  timeBought : Nat
  status : Option String
  shippingAddressId : Option Nat
  shippingType : String
  paymentMethod : Option String
  availableDate : Option Int
  pickUpDate : Option Nat
  deriving DecidableEq

/-- The pairs of `kitInventory` are the rows of `kit_inventory`, by kit and inventory row. No
relationship of the models goes through that table. -/
structure Database where
  users : Table User.id
  kits : Table Kit.id
  inventory : Table Inventory.id
  purchases : Table Purchase.id
  shippingAddresses : Table ShippingAddress.id
  cartItems : Table CartItem.id
  favorites : Table Favorite.id
  reviews : Table Review.id
  ageOptions : Table KitOption.id
  categoryOptions : Table KitOption.id
  gradeOptions : Table KitOption.id
  themeOptions : Table KitOption.id
  kitInventory : List (Nat × Nat)

/-- The row of the user can be loaded; a user who is gone is loaded as none. -/
def userLoads (db : Database) (user : Nat) : Bool := (db.users.get? user).all User.loadable

/-- The buyer of a purchase can be loaded with it. -/
def buyerLoads (db : Database) (purchase : Purchase) : Bool := userLoads db purchase.userId

/-- The rollback record that a reservation leaves in Redis. -/
structure RollbackData where
  inventoryId : Nat
  kitId : Option Nat
  quantity : Int
  deriving DecidableEq

/-- Redis also holds sessions and tokens; these are texts to the inventory code. -/
inductive RedisValue where
  | rollback (data : RollbackData)
  | text (value : String)
  deriving DecidableEq

structure PaymentRequest where
  amount : Int
  currency : String
  paymentMethod : Option String
  confirmationMethod : String
  confirm : Bool
  receiptEmail : Option String
  deriving DecidableEq

/-- All that outlives a request: the committed database, Redis, and the payments taken. -/
structure State where
  db : Database
  redis : Keyspace RedisValue
  charges : List PaymentRequest

/-- What the engine decides. MySQL, used in production, enforces foreign keys and enumerations,
compares texts by a case-insensitive collation and rounds what it stores in an integer column; the
SQLite of the tests does none of it. -/
structure Engine where
  foreignKeys : Bool
  enumerations : Bool
  sameText : String → String → Bool
  sameText_self : ∀ text, sameText text text = true
  integerColumn : ℚ → ℚ
  integerColumn_whole : ∀ n : ℤ, integerColumn n = n

def Engine.sqlite : Engine := ⟨false, false, fun a b => a == b, by simp, id, fun _ => rfl⟩

/-- Lower-casing of the ASCII letters. No other character lower-cases to one of the letters
of the words that the code compares with, so these comparisons come out as in Python. -/
def lower (text : String) : String := String.ofList (text.toList.map Char.toLower)

def strip (text : String) : String :=
  String.ofList ((text.toList.dropWhile isSpace).rdropWhile isSpace)

/-- The collation as far as the ASCII letters go. -/
def Engine.mysql : Engine :=
  ⟨true, true, fun a b => lower a == lower b, by simp, fun x => roundHalfAway x, by simp⟩

/-- A server process: its engine, the time at which the models were imported, and the arithmetic
of its floats. -/
structure Server where
  engine : Engine
  importTime : Nat
  floats : Arithmetic

structure Session where
  userId : Option Nat
  role : Option String

/-- The user id of the session, when Python takes it for true. -/
def Session.user (session : Session) : Option Nat := session.userId.filter (fun id => id ≠ 0)

def loginRequired {β : Type} (session : Session) (s : State)
    (handler : Nat → Reply β × State) : Reply β × State :=
  match session.user with
  | none => (.error 401 "Unauthorized" [], s)
  | some user => handler user

theorem loginRequired_none {β : Type} {session : Session} {s : State}
    {handler : Nat → Reply β × State} (login : session.user = none) :
    (loginRequired session s handler).2 = s := by
  rw [loginRequired, login]

theorem loginRequired_some {β : Type} {session : Session} {s : State}
    {handler : Nat → Reply β × State} {user : Nat} (login : session.user = some user) :
    loginRequired session s handler = handler user := by
  rw [loginRequired, login]

def isAdmin (db : Database) (user : Nat) : Bool :=
  match db.users.get? user with
  | none => false
  | some row => row.loadable && lower row.role == "admin"

def adminRefusal {β : Type} (db : Database) (user : Nat) : Reply β :=
  if (db.users.get? user).any (fun row => !row.loadable) then .raised
  else .error 403 "Admin access required" []

def adminRequired {β : Type} (session : Session) (s : State)
    (handler : Nat → Reply β × State) : Reply β × State :=
  match session.user with
  | none => (.error 401 "Unauthorized" [], s)
  | some user =>
      if isAdmin s.db user then handler user else (adminRefusal s.db user, s)

theorem adminRefusal_fetchOk {β : Type} (db : Database) (user : Nat) :
    (adminRefusal db user : Reply β).fetchOk = false := by
  unfold adminRefusal
  split <;> rfl

theorem isAdmin_iff {db : Database} {user : Nat} :
    isAdmin db user = true ↔ ∃ row, db.users.get? user = some row ∧ row.role = "admin" := by
  unfold isAdmin
  cases db.users.get? user with
  | none => simp
  | some row =>
      simp only [User.loadable, Bool.and_eq_true, Bool.or_eq_true, beq_iff_eq, Option.some.injEq,
        exists_eq_left']
      constructor
      · rintro ⟨admin | customer, spelled⟩
        · exact admin
        · rw [customer] at spelled
          exact absurd spelled (by decide)
      · intro admin
        rw [admin]
        exact ⟨Or.inl rfl, by decide⟩

theorem isAdmin_congr {db db' : Database} (same : db.users = db'.users) (user : Nat) :
    isAdmin db user = isAdmin db' user := by
  rw [isAdmin, isAdmin, same]

/-- A request that the guard does not admit leaves the state alone and is answered with an
error. -/
theorem adminRequired_refused {β : Type} {session : Session} {s : State}
    {handler : Nat → Reply β × State}
    (refused : ∀ user, session.user = some user → isAdmin s.db user = false) :
    (adminRequired session s handler).2 = s ∧
      (adminRequired session s handler).1.fetchOk = false := by
  unfold adminRequired
  cases login : session.user with
  | none => exact ⟨rfl, rfl⟩
  | some user =>
      simp only [refused user login, Bool.false_eq_true, if_false]
      exact ⟨trivial, adminRefusal_fetchOk s.db user⟩

/-- A session is that of an administrator, or `admin_required` turns it away. -/
theorem admin_or_outside (session : Session) (db : Database) :
    (∃ user, session.user = some user ∧ isAdmin db user = true) ∨
      ∀ user, session.user = some user → isAdmin db user = false := by
  cases login : session.user with
  | none => exact Or.inr nofun
  | some user =>
      cases role : isAdmin db user with
      | true => exact Or.inl ⟨user, rfl, role⟩
      | false =>
          refine Or.inr fun other same => ?_
          cases same
          exact role

/-- `pending_inventory:{inventory}:{user}`. -/
def pendingKey (inventory user : Nat) : String := s!"pending_inventory:{inventory}:{user}"

theorem pendingKey_injective {i u j v : Nat} (same : pendingKey i u = pendingKey j v) :
    i = j ∧ u = v :=
  Foundation.Wire.colon_separated_injective "pending_inventory:" same

@[simp] theorem pendingKey_inj {i u j v : Nat} : pendingKey i u = pendingKey j v ↔ i = j ∧ u = v :=
  ⟨pendingKey_injective, fun equal => by rw [equal.1, equal.2]⟩

def stockOf (table : Table Inventory.id) (id : Nat) : Option Int :=
  (table.get? id).map Inventory.quantity

private theorem stockOf_save (table : Table Inventory.id) (row : Inventory) (id : Nat) :
    stockOf (table.save row) id =
      if id = row.id then (stockOf table id).map (fun _ => row.quantity) else stockOf table id := by
  unfold stockOf
  rw [Table.get?_save]
  split
  · rw [Option.map_map, Option.map_map]
    rfl
  · rfl

theorem stockOf_of_get? {table : Table Inventory.id} {id : Nat} {inv : Inventory}
    (found : table.get? id = some inv) : stockOf table id = some inv.quantity := by
  rw [stockOf, found]
  rfl

theorem stockOf_of_missing {table : Table Inventory.id} {id : Nat}
    (missing : table.get? id = none) : stockOf table id = none := by
  rw [stockOf, missing]
  rfl

theorem stockOf_save_assign {table : Table Inventory.id} {row old : Inventory}
    (found : table.get? row.id = some old) :
    stockOf (table.save row) = post (stockOf table) (.assign row.id row.quantity) := by
  funext id
  rw [stockOf_save]
  by_cases here : id = row.id
  · subst here
    simp [post, stockOf_of_get? found]
  · simp [post, here]

theorem stockOf_insertNew (table : Table Inventory.id) (mk : Nat → Inventory)
    (keyed : ∀ id, (mk id).id = id) :
    stockOf (table.insertNew mk keyed) =
      post (stockOf table) (.assign table.nextKey (mk table.nextKey).quantity) := by
  funext id
  unfold stockOf
  rw [Table.get?_insertNew]
  by_cases here : id = table.nextKey
  · subst here
    simp [post]
  · simp [post, here]

theorem stockOf_insert? {table table' : Table Inventory.id} {row : Inventory}
    (stored : table.insert? row = some table') :
    stockOf table' = post (stockOf table) (.assign row.id row.quantity) := by
  funext id
  unfold stockOf
  rw [Table.get?_insert? stored]
  by_cases here : id = row.id
  · subst here
    simp [post]
  · simp [post, here]

/-- Writing back a row with some units more or less posts these units to its stock. -/
theorem stockOf_save_add {table : Table Inventory.id} {inv : Inventory}
    (found : table.get? inv.id = some inv) (units : Int) :
    stockOf (table.save { inv with quantity := inv.quantity + units }) =
      post (stockOf table) (.add inv.id units) := by
  funext id
  rw [stockOf_save, Foundation.Balances.post_add]
  by_cases here : id = inv.id
  · subst here
    simp [stockOf_of_get? found]
  · simp [here]

/-- At most the row with the given id differs, and it by the units in its quantity. -/
def Adjusts (before after : Table Inventory.id) (id : Option Nat) (units : Int) : Prop :=
  ∀ key, after.get? key = (before.get? key).map (fun row =>
    if id = some key then { row with quantity := row.quantity + units } else row)

theorem adjusts_save {before : Table Inventory.id} {row : Inventory}
    (stored : before.get? row.id = some row) (units : Int) :
    Adjusts before (before.save { row with quantity := row.quantity + units }) (some row.id)
      units := by
  intro key
  rw [Table.get?_save]
  split
  · rename_i here
    rw [show key = row.id from here, stored, Option.map_some, Option.map_some, if_pos rfl]
  · rename_i elsewhere
    have apart : ¬ some row.id = some key := fun same => elsewhere (Option.some.inj same).symm
    simp only [if_neg apart, Option.map_id']

namespace State

def saveInventory (s : State) (row : Inventory) : State :=
  { s with db := { s.db with inventory := s.db.inventory.save row } }

def saveInventoryTable (s : State) (table : Table Inventory.id) : State :=
  { s with db := { s.db with inventory := table } }

def stock (s : State) : Nat → Option Int := stockOf s.db.inventory

end State

end ProductSite.Backend.Models
