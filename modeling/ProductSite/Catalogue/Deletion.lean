/- Module: ProductSite/Catalogue/Deletion
   source: backend/app/models, backend/app/routes/kit_routes.py,
     backend/app/routes/user_settings_routes.py
   digest: When the administrators' deletions of kits and users succeed, and what they leave. -/

import ProductSite.Access.Authentication
import ProductSite.Backend.Site
import ProductSite.Foundation.CascadeDelete

set_option autoImplicit false
set_option relaxedAutoImplicit false

namespace ProductSite.Catalogue.Deletion

open ProductSite.Foundation.CascadeDelete
open ProductSite.Foundation.KeyedTable (Table)
open ProductSite.Foundation.Runs (run)
open ProductSite.Foundation.Wire (Reply)
open ProductSite.Access.Authentication (plainLibraries)
open ProductSite.Backend.Models
open ProductSite.Backend.Accounts
open ProductSite.Backend.KitRoutes
open ProductSite.Backend.Requests (administrator customer shelfOnly)
open ProductSite.Backend.Site (siteStep)

section Relationships

/-- A row of one of the tables that refer to kits or users, directly or not. -/
inductive Row where
  | user (row : User)
  | kit (row : Kit)
  | inventory (row : Inventory)
  | address (row : ShippingAddress)
  | cartItem (row : CartItem)
  | favorite (row : Favorite)
  | review (row : Review)
  | purchase (row : Purchase)

/-- A table and a primary key of it. -/
inductive Node where
  | user (id : Nat)
  | kit (id : Nat)
  | inventory (id : Nat)
  | address (id : Nat)
  | cartItem (id : Nat)
  | favorite (id : Nat)
  | review (id : Nat)
  | purchase (id : Nat)
  deriving DecidableEq

def Row.node : Row → Node
  | .user row => .user row.id
  | .kit row => .kit row.id
  | .inventory row => .inventory row.id
  | .address row => .address row.id
  | .cartItem row => .cartItem row.id
  | .favorite row => .favorite row.id
  | .review row => .review row.id
  | .purchase row => .purchase row.id

/-- The foreign keys by the cascade of their relationship. Without a delete cascade the key is
set to null, which the columns that are not nullable refuse; the owner of a favorite has no
relationship at all, and its foreign key refuses to dangle. -/
def Row.foreignKeys : Row → List (Node × OnDelete)
  | .user _ => []
  | .kit _ => []
  | .inventory row => [(.kit row.kitId, .cascade)]
  | .address row => [(.user row.userId, .cascade)]
  | .cartItem row =>
      [(.user row.userId, .refuse), (.kit row.kitId, .refuse)] ++
        row.inventoryId.toList.map (fun id => (.inventory id, .cascade))
  | .favorite row =>
      (.user row.userId, .refuse) :: row.kitId.toList.map (fun id => (.kit id, .setNull))
  | .review row => [(.user row.userId, .refuse), (.kit row.kitId, .refuse)]
  | .purchase row =>
      [(.user row.userId, .refuse), (.kit row.kitId, .cascade)] ++
        row.inventoryId.toList.map (fun id => (.inventory id, .cascade)) ++
        row.shippingAddressId.toList.map (fun id => (.address id, .cascade))

def schema : Schema Row Node := ⟨Row.node, Row.foreignKeys⟩

def rowsOf (db : Database) : Set Row := fun row =>
  match row with
  | .user row => row ∈ db.users.rows
  | .kit row => row ∈ db.kits.rows
  | .inventory row => row ∈ db.inventory.rows
  | .address row => row ∈ db.shippingAddresses.rows
  | .cartItem row => row ∈ db.cartItems.rows
  | .favorite row => row ∈ db.favorites.rows
  | .review row => row ∈ db.reviews.rows
  | .purchase row => row ∈ db.purchases.rows

end Relationships

section Rules

/-- The keys along which a row follows its target. -/
def Follows (parent : Node) : Row → Prop
  | .inventory row => parent = .kit row.kitId
  | .address row => parent = .user row.userId
  | .cartItem row => ∃ key, row.inventoryId = some key ∧ parent = .inventory key
  | .purchase row =>
      parent = .kit row.kitId ∨ (∃ key, row.inventoryId = some key ∧ parent = .inventory key) ∨
        ∃ key, row.shippingAddressId = some key ∧ parent = .address key
  | _ => False

/-- The keys that may neither be null nor dangle. -/
def Insists (parent : Node) : Row → Prop
  | .cartItem row => parent = .user row.userId ∨ parent = .kit row.kitId
  | .favorite row => parent = .user row.userId
  | .review row => parent = .user row.userId ∨ parent = .kit row.kitId
  | .purchase row => parent = .user row.userId
  | _ => False

variable {row : Row} {parent : Node}

private theorem cascade_iff :
    (parent, OnDelete.cascade) ∈ schema.refs row ↔ Follows parent row := by
  cases row <;> simp [schema, Row.foreignKeys, Follows, eq_comm]

private theorem refuse_iff : (parent, OnDelete.refuse) ∈ schema.refs row ↔ Insists parent row := by
  cases row <;> simp [schema, Row.foreignKeys, Insists]

/-- Only a favorite lets go of what it refers to. -/
private theorem setNull_iff :
    (parent, OnDelete.setNull) ∈ schema.refs row ↔
      ∃ favorite key, row = .favorite favorite ∧ favorite.kitId = some key ∧ parent = .kit key := by
  cases row <;> simp [schema, Row.foreignKeys, eq_comm]

private theorem doomed_of_follows {db : Database} {root : Node} (row : Row)
    (member : row ∈ rowsOf db)
    (follows : Follows parent row) (goes : Doomed schema (rowsOf db) root parent) :
    Doomed schema (rowsOf db) root row.node :=
  .child row member (cascade_iff.mpr follows) goes

end Rules

section Kits

variable {db : Database} {id : Nat}

/-- The rows that a deleted kit drags along: its inventories, its purchases, and the purchases
and cart items of its inventories. -/
def goesWithKit (db : Database) (id : Nat) : Node → Bool
  | .kit kit => kit = id
  | .inventory key => heldBy db id (some key)
  | .cartItem key => (db.cartItems.get? key).any (fun row => heldBy db id row.inventoryId)
  | .purchase key =>
      (db.purchases.get? key).any (fun row => row.kitId = id || heldBy db id row.inventoryId)
  | _ => false

private theorem heldBy_iff {inventoryId : Option Nat} :
    heldBy db id inventoryId = true ↔
      ∃ inv ∈ db.inventory.rows, inventoryId = some inv.id ∧ inv.kitId = id := by
  unfold heldBy
  rw [Table.any_any_get?_iff]
  simp only [decide_eq_true_eq]

/-- Whether a stored row goes with the kit, read off the row. -/
def kitTakes (db : Database) (id : Nat) : Row → Bool
  | .kit row => row.id = id
  | .inventory row => row.kitId = id
  | .cartItem row => heldBy db id row.inventoryId
  | .purchase row => row.kitId = id || heldBy db id row.inventoryId
  | _ => false

private theorem goesWithKit_row (row : Row) (member : row ∈ rowsOf db) :
    goesWithKit db id row.node = kitTakes db id row := by
  cases row with
  | inventory row => exact Table.any_get?_of_mem member _
  | cartItem row => exact Table.any_get?_of_mem member _
  | purchase row => exact Table.any_get?_of_mem member _
  | _ => rfl

private theorem goesWithKit_of_doomed {node : Node}
    (doomed : Doomed schema (rowsOf db) (.kit id) node) : goesWithKit db id node = true := by
  induction doomed with
  | root => exact decide_eq_true rfl
  | @child row parent member cascades _ goes =>
      change goesWithKit db id row.node = true
      rw [goesWithKit_row _ member]
      rw [cascade_iff] at cascades
      cases row with
      | inventory row =>
          subst cascades
          exact goes
      | address row =>
          subst cascades
          cases goes
      | cartItem row =>
          obtain ⟨key, inventory, rfl⟩ := cascades
          rw [kitTakes, inventory]
          exact goes
      | purchase row =>
          rw [kitTakes, Bool.or_eq_true]
          rcases cascades with rfl | ⟨key, inventory, rfl⟩ | ⟨key, -, rfl⟩
          · exact Or.inl goes
          · rw [inventory]
            exact Or.inr goes
          · cases goes
      | user row => cases cascades
      | kit row => cases cascades
      | favorite row => cases cascades
      | review row => cases cascades

private theorem doomed_of_goesWithKit {node : Node} (goes : goesWithKit db id node = true) :
    Doomed schema (rowsOf db) (.kit id) node := by
  have inventory : ∀ inv ∈ db.inventory.rows, inv.kitId = id →
      Doomed schema (rowsOf db) (.kit id) (.inventory inv.id) := by
    rintro inv member rfl
    exact doomed_of_follows (.inventory inv) member rfl .root
  cases node with
  | kit kit =>
      obtain rfl : kit = id := of_decide_eq_true goes
      exact .root
  | inventory key =>
      obtain ⟨inv, member, same, held⟩ := heldBy_iff.mp goes
      obtain rfl : key = inv.id := Option.some.inj same
      exact inventory inv member held
  | cartItem key =>
      obtain ⟨item, member, rfl, held⟩ := Table.any_get?_iff.mp goes
      obtain ⟨inv, stored, same, kit⟩ := heldBy_iff.mp held
      exact doomed_of_follows (.cartItem item) member ⟨inv.id, same, rfl⟩ (inventory inv stored kit)
  | purchase key =>
      obtain ⟨purchase, member, rfl, cause⟩ := Table.any_get?_iff.mp goes
      rcases (Bool.or_eq_true _ _).mp cause with kit | held
      · obtain rfl : purchase.kitId = id := of_decide_eq_true kit
        exact doomed_of_follows (.purchase purchase) member (Or.inl rfl) .root
      · obtain ⟨inv, stored, same, kit⟩ := heldBy_iff.mp held
        exact doomed_of_follows (.purchase purchase) member (Or.inr (Or.inl ⟨inv.id, same, rfl⟩))
          (inventory inv stored kit)
  | user key => cases goes
  | address key => cases goes
  | favorite key => cases goes
  | review key => cases goes

private theorem doomed_kit_iff {node : Node} :
    Doomed schema (rowsOf db) (.kit id) node ↔ goesWithKit db id node = true :=
  ⟨goesWithKit_of_doomed, doomed_of_goesWithKit⟩

/-- No review is of the kit, and its cart items all lie in inventories of it. -/
def KitFree (db : Database) (id : Nat) : Prop :=
  (∀ review ∈ db.reviews.rows, review.kitId ≠ id) ∧
    ∀ item ∈ db.cartItems.rows, item.kitId = id →
      ∃ inv ∈ db.inventory.rows, item.inventoryId = some inv.id ∧ inv.kitId = id

private theorem blocksKit_eq_false_iff : blocksKit db id = false ↔ KitFree db id := by
  simp only [blocksKit, KitFree, Bool.or_eq_false_iff, List.any_eq_false, decide_eq_true_eq,
    Bool.and_eq_true, Bool.not_eq_true', not_and, Bool.not_eq_false, heldBy_iff, ne_eq]

private theorem allowed_kit_iff : Allowed schema (rowsOf db) (.kit id) ↔ KitFree db id := by
  simp only [Allowed, refuse_iff, doomed_kit_iff]
  constructor
  · intro allowed
    constructor
    · rintro review member rfl
      have goes := allowed (.review review) member _ (Or.inr rfl) (decide_eq_true rfl)
      cases goes
    · rintro item member rfl
      have goes := allowed (.cartItem item) member _ (Or.inr rfl) (decide_eq_true rfl)
      exact heldBy_iff.mp ((goesWithKit_row (.cartItem item) member).symm.trans goes)
  · rintro ⟨reviews, items⟩ row member parent insists goes
    change goesWithKit db id row.node = true
    rw [goesWithKit_row _ member]
    cases row with
    | cartItem item =>
        rcases insists with rfl | rfl
        · cases goes
        · exact heldBy_iff.mpr (items item member (of_decide_eq_true goes))
    | review review =>
        rcases insists with rfl | rfl
        · cases goes
        · exact absurd (of_decide_eq_true goes) (reviews review member)
    | favorite favorite => subst insists; cases goes
    | purchase purchase => subst insists; cases goes
    | user row => cases insists
    | kit row => cases insists
    | inventory row => cases insists
    | address row => cases insists

/-- A row that stays; favorites of the kit let go of it. -/
def released (id : Nat) : Row → Row
  | .favorite favorite => .favorite (releaseFavorite id favorite)
  | row => row

variable {row : Row}

private theorem released_of_other (other : ∀ favorite, row ≠ .favorite favorite) :
    released id row = row := by
  cases row with
  | favorite favorite => exact absurd rfl (other favorite)
  | _ => rfl

private theorem mem_withoutKit_of_other (other : ∀ favorite, row ≠ .favorite favorite) :
    row ∈ rowsOf (withoutKit db id) ↔ row ∈ rowsOf db ∧ kitTakes db id row = false := by
  cases row with
  | favorite favorite => exact absurd rfl (other favorite)
  | kit row => exact Table.mem_remove
  | inventory row => exact Table.mem_remove
  | cartItem row => exact Table.mem_remove
  | purchase row => exact Table.mem_remove
  | user row => exact (and_iff_left rfl).symm
  | address row => exact (and_iff_left rfl).symm
  | review row => exact (and_iff_left rfl).symm

private theorem released_mem_withoutKit (member : row ∈ rowsOf db)
    (stays : kitTakes db id row = false) :
    released id row ∈ rowsOf (withoutKit db id) := by
  by_cases lets : ∃ favorite, row = .favorite favorite
  · obtain ⟨favorite, rfl⟩ := lets
    exact List.mem_map.mpr ⟨favorite, member, rfl⟩
  · rw [not_exists] at lets
    rw [released_of_other lets]
    exact (mem_withoutKit_of_other lets).mpr ⟨member, stays⟩

private theorem origin_of_mem_withoutKit (present : row ∈ rowsOf (withoutKit db id)) :
    ∃ before ∈ rowsOf db, kitTakes db id before = false ∧ released id before = row := by
  by_cases lets : ∃ favorite, row = .favorite favorite
  · obtain ⟨favorite, rfl⟩ := lets
    obtain ⟨before, stored, rfl⟩ := List.mem_map.mp present
    exact ⟨.favorite before, stored, rfl, rfl⟩
  · rw [not_exists] at lets
    obtain ⟨member, stays⟩ := (mem_withoutKit_of_other lets).mp present
    exact ⟨row, member, stays, released_of_other lets⟩

private theorem releaseFavorite_refs (favorite : Favorite) (ref : Node × OnDelete) :
    ref ∈ Row.foreignKeys (.favorite (releaseFavorite id favorite)) ↔
      ref ∈ Row.foreignKeys (.favorite favorite) ∧ ¬ goesWithKit db id ref.1 = true := by
  simp only [Row.foreignKeys, releaseFavorite, List.mem_cons, List.mem_map, Option.mem_toList,
    Option.filter_eq_some_iff]
  constructor
  · rintro (rfl | ⟨key, ⟨kit, other⟩, rfl⟩)
    · exact ⟨Or.inl rfl, Bool.false_ne_true⟩
    · refine ⟨Or.inr ⟨key, kit, rfl⟩, ?_⟩
      intro goes
      exact of_decide_eq_true other (of_decide_eq_true goes)
  · rintro ⟨rfl | ⟨key, kit, rfl⟩, stays⟩
    · exact Or.inl rfl
    · refine Or.inr ⟨key, ⟨kit, decide_eq_true ?_⟩, rfl⟩
      intro same
      exact stays (decide_eq_true same)

private theorem survives_released (free : KitFree db id) (member : row ∈ rowsOf db)
    (stays : kitTakes db id row = false) :
    Survives schema (rowsOf db) (.kit id) row (released id row) := by
  have here : ¬ Doomed schema (rowsOf db) (.kit id) (schema.key row) := by
    rw [doomed_kit_iff]
    exact ne_true_of_eq_false ((goesWithKit_row _ member).trans stays)
  by_cases lets : ∃ favorite, row = .favorite favorite
  · obtain ⟨favorite, rfl⟩ := lets
    refine ⟨here, rfl, ?_⟩
    intro ref
    rw [doomed_kit_iff]
    exact releaseFavorite_refs favorite ref
  · rw [not_exists] at lets
    rw [released_of_other lets]
    refine (allowed_kit_iff.mpr free).survives member here ?_
    intro parent nulled
    obtain ⟨favorite, _, same, -⟩ := setNull_iff.mp nulled
    exact absurd same (lets favorite)

private theorem deletes_withoutKit (free : KitFree db id) :
    Deletes schema (rowsOf db) (.kit id) (rowsOf (withoutKit db id)) := by
  constructor
  · intro row' member'
    obtain ⟨row, member, stays, rfl⟩ := origin_of_mem_withoutKit member'
    exact ⟨row, member, survives_released free member stays⟩
  · intro row member goes
    have stays : kitTakes db id row = false := by
      rw [doomed_kit_iff] at goes
      exact (goesWithKit_row _ member).symm.trans (Bool.eq_false_iff.mpr goes)
    exact ⟨released id row, released_mem_withoutKit member stays,
      survives_released free member stays⟩

end Kits

section Users

variable {db : Database} {id : Nat}

/-- The rows that a deleted user drags along: the addresses and the purchases sent to them. -/
def goesWithUser (db : Database) (id : Nat) : Node → Bool
  | .user user => user = id
  | .address key => ownAddress db id (some key)
  | .purchase key =>
      (db.purchases.get? key).any (fun row => ownAddress db id row.shippingAddressId)
  | _ => false

def userTakes (db : Database) (id : Nat) : Row → Bool
  | .user row => row.id = id
  | .address row => row.userId = id
  | .purchase row => ownAddress db id row.shippingAddressId
  | _ => false

private theorem ownAddress_iff {addressId : Option Nat} :
    ownAddress db id addressId = true ↔
      ∃ address ∈ db.shippingAddresses.rows,
        addressId = some address.id ∧ address.userId = id := by
  unfold ownAddress
  rw [Table.any_any_get?_iff]
  simp only [decide_eq_true_eq]

private theorem goesWithUser_row (row : Row) (member : row ∈ rowsOf db) :
    goesWithUser db id row.node = userTakes db id row := by
  cases row with
  | address row => exact Table.any_get?_of_mem member _
  | purchase row => exact Table.any_get?_of_mem member _
  | _ => rfl

private theorem goesWithUser_of_doomed {node : Node}
    (doomed : Doomed schema (rowsOf db) (.user id) node) : goesWithUser db id node = true := by
  induction doomed with
  | root => exact decide_eq_true rfl
  | @child row parent member cascades _ goes =>
      change goesWithUser db id row.node = true
      rw [goesWithUser_row _ member]
      rw [cascade_iff] at cascades
      cases row with
      | address row =>
          subst cascades
          exact goes
      | purchase row =>
          rcases cascades with rfl | ⟨key, -, rfl⟩ | ⟨key, address, rfl⟩
          · cases goes
          · cases goes
          · rw [userTakes, address]
            exact goes
      | inventory row => subst cascades; cases goes
      | cartItem row =>
          obtain ⟨key, -, rfl⟩ := cascades
          cases goes
      | user row => cases cascades
      | kit row => cases cascades
      | favorite row => cases cascades
      | review row => cases cascades

private theorem doomed_of_goesWithUser {node : Node} (goes : goesWithUser db id node = true) :
    Doomed schema (rowsOf db) (.user id) node := by
  have address : ∀ row ∈ db.shippingAddresses.rows, row.userId = id →
      Doomed schema (rowsOf db) (.user id) (.address row.id) := by
    rintro row member rfl
    exact doomed_of_follows (.address row) member rfl .root
  cases node with
  | user user =>
      obtain rfl : user = id := of_decide_eq_true goes
      exact .root
  | address key =>
      obtain ⟨row, member, same, own⟩ := ownAddress_iff.mp goes
      obtain rfl : key = row.id := Option.some.inj same
      exact address row member own
  | purchase key =>
      obtain ⟨purchase, member, rfl, sent⟩ := Table.any_get?_iff.mp goes
      obtain ⟨row, stored, same, own⟩ := ownAddress_iff.mp sent
      exact doomed_of_follows (.purchase purchase) member (Or.inr (Or.inr ⟨row.id, same, rfl⟩))
        (address row stored own)
  | kit key => cases goes
  | inventory key => cases goes
  | cartItem key => cases goes
  | favorite key => cases goes
  | review key => cases goes

private theorem doomed_user_iff {node : Node} :
    Doomed schema (rowsOf db) (.user id) node ↔ goesWithUser db id node = true :=
  ⟨goesWithUser_of_doomed, doomed_of_goesWithUser⟩

/-- The user has no cart item, review or favorite, and only purchases sent to own addresses. -/
def UserFree (db : Database) (id : Nat) : Prop :=
  (∀ item ∈ db.cartItems.rows, item.userId ≠ id) ∧
    (∀ review ∈ db.reviews.rows, review.userId ≠ id) ∧
    (∀ purchase ∈ db.purchases.rows, purchase.userId = id →
      ∃ address ∈ db.shippingAddresses.rows,
        purchase.shippingAddressId = some address.id ∧ address.userId = id) ∧
    ∀ favorite ∈ db.favorites.rows, favorite.userId ≠ id

private theorem blocksDeletion_eq_false_iff {engine : Engine}
    (enforced : engine.foreignKeys = true) :
    blocksDeletion engine db id = false ↔ UserFree db id := by
  simp only [blocksDeletion, UserFree, enforced, Bool.true_and, Bool.or_eq_false_iff,
    List.any_eq_false, decide_eq_true_eq, Bool.and_eq_true, Bool.not_eq_true', not_and,
    Bool.not_eq_false, ownAddress_iff, ne_eq, and_assoc]

private theorem allowed_user_iff : Allowed schema (rowsOf db) (.user id) ↔ UserFree db id := by
  simp only [Allowed, refuse_iff, doomed_user_iff]
  constructor
  · intro allowed
    refine ⟨?_, ?_, ?_, ?_⟩
    · rintro item member rfl
      have goes := allowed (.cartItem item) member _ (Or.inl rfl) (decide_eq_true rfl)
      cases goes
    · rintro review member rfl
      have goes := allowed (.review review) member _ (Or.inl rfl) (decide_eq_true rfl)
      cases goes
    · rintro purchase member rfl
      have goes := allowed (.purchase purchase) member _ rfl (decide_eq_true rfl)
      exact ownAddress_iff.mp ((goesWithUser_row (.purchase purchase) member).symm.trans goes)
    · rintro favorite member rfl
      have goes := allowed (.favorite favorite) member _ rfl (decide_eq_true rfl)
      cases goes
  · rintro ⟨items, reviews, purchases, favorites⟩ row member parent insists goes
    change goesWithUser db id row.node = true
    rw [goesWithUser_row _ member]
    cases row with
    | cartItem item =>
        rcases insists with rfl | rfl
        · exact absurd (of_decide_eq_true goes) (items item member)
        · cases goes
    | review review =>
        rcases insists with rfl | rfl
        · exact absurd (of_decide_eq_true goes) (reviews review member)
        · cases goes
    | favorite favorite =>
        subst insists
        exact absurd (of_decide_eq_true goes) (favorites favorite member)
    | purchase purchase =>
        subst insists
        exact ownAddress_iff.mpr (purchases purchase member (of_decide_eq_true goes))
    | user row => cases insists
    | kit row => cases insists
    | inventory row => cases insists
    | address row => cases insists

private theorem mem_withoutUser {row : Row} :
    row ∈ rowsOf (withoutUser db id) ↔ row ∈ rowsOf db ∧ userTakes db id row = false := by
  cases row with
  | user row => exact Table.mem_remove
  | address row => exact Table.mem_remove
  | purchase row => exact Table.mem_remove
  | kit row => exact (and_iff_left rfl).symm
  | inventory row => exact (and_iff_left rfl).symm
  | cartItem row => exact (and_iff_left rfl).symm
  | favorite row => exact (and_iff_left rfl).symm
  | review row => exact (and_iff_left rfl).symm

private theorem survives_userDeletion (free : UserFree db id) {row : Row} (member : row ∈ rowsOf db)
    (stays : userTakes db id row = false) :
    Survives schema (rowsOf db) (.user id) row row := by
  refine (allowed_user_iff.mpr free).survives member ?_ ?_
  · rw [doomed_user_iff]
    exact ne_true_of_eq_false ((goesWithUser_row _ member).trans stays)
  · intro parent nulled
    obtain ⟨_, key, -, -, rfl⟩ := setNull_iff.mp nulled
    rw [doomed_user_iff]
    exact Bool.false_ne_true

private theorem deletes_withoutUser (free : UserFree db id) :
    Deletes schema (rowsOf db) (.user id) (rowsOf (withoutUser db id)) := by
  constructor
  · intro row member'
    obtain ⟨member, stays⟩ := mem_withoutUser.mp member'
    exact ⟨row, member, survives_userDeletion free member stays⟩
  · intro row member goes
    have stays : userTakes db id row = false := by
      rw [doomed_user_iff] at goes
      exact (goesWithUser_row _ member).symm.trans (Bool.eq_false_iff.mpr goes)
    exact ⟨row, mem_withoutUser.mpr ⟨member, stays⟩, survives_userDeletion free member stays⟩

end Users

section Handlers

variable {engine : Engine} {session : Session} {s : State} {id : Nat}

/-- The row is gone, and no foreign key of any table leads to it. The columns that are not
nullable have types without null. -/
def Gone (db : Database) (node : Node) : Prop :=
  ∀ row ∈ rowsOf db, row.node ≠ node ∧ ∀ ref ∈ row.foreignKeys, ref.1 ≠ node

def Succeeds {β : Type} (outcome : Reply β × State) (node : Node) : Prop :=
  outcome.1.status = 200 ∧ Gone outcome.2.db node

private theorem gone_of_deletes {db db' : Database} {node : Node}
    (deletes : Deletes schema (rowsOf db) node (rowsOf db')) : Gone db' node :=
  fun _ member => ⟨deletes.gone .root member, deletes.unreferenced .root member⟩

private theorem not_succeeds {β : Type} {outcome : Reply β × State} {node : Node}
    (failed : outcome.1.fetchOk = false) : ¬ Succeeds outcome node := by
  rintro ⟨answered, -⟩
  rw [Reply.fetchOk, answered] at failed
  cases failed

/-- What an accepted deletion of a kit does is what its relationships say. -/
private theorem deleteKit_deletes (accepted : deletesKit session s.db id = true) :
    Deletes schema (rowsOf s.db) (.kit id) (rowsOf (deleteKit session s id).2.db) := by
  have free : KitFree s.db id := by
    rw [deletesKit, Bool.and_eq_true, Bool.not_eq_true'] at accepted
    exact blocksKit_eq_false_iff.mp accepted.2
  rcases deleteKit_cases session s id with ⟨refused, -, -⟩ | ⟨-, deleted⟩
  · rw [accepted] at refused
    cases refused
  · rw [deleted]
    exact deletes_withoutKit free

private theorem deleteUser_deletes (enforced : engine.foreignKeys = true)
    (accepted : deletes engine session s.db id = true) :
    Deletes schema (rowsOf s.db) (.user id) (rowsOf (deleteUser engine session s id).2.db) := by
  have free : UserFree s.db id := by
    rw [deletes, Bool.and_eq_true] at accepted
    obtain ⟨row, -, removable⟩ := (Option.any_eq_true _ _).mp accepted.2
    rw [Bool.and_eq_true, Bool.not_eq_true'] at removable
    exact (blocksDeletion_eq_false_iff enforced).mp removable.2
  rcases deleteUser_cases engine session s id with ⟨refused, -, -⟩ | ⟨-, _, deleted⟩
  · rw [accepted] at refused
    cases refused
  · rw [deleted]
    exact deletes_withoutUser free

/-- Where foreign keys are enforced, no deletion of a kit or a user leaves one dangling. -/
theorem deletions_keep_intact (enforced : engine.foreignKeys = true)
    (intact : Intact schema (rowsOf s.db)) :
    Intact schema (rowsOf (deleteKit session s id).2.db) ∧
      Intact schema (rowsOf (deleteUser engine session s id).2.db) := by
  constructor
  · rcases deleteKit_cases session s id with ⟨-, -, kept⟩ | ⟨accepted, -⟩
    · rw [kept]
      exact intact
    · exact (deleteKit_deletes accepted).intact intact
  · rcases deleteUser_cases engine session s id with ⟨-, -, kept⟩ | ⟨accepted, -⟩
    · rw [kept]
      exact intact
    · exact (deleteUser_deletes enforced accepted).intact intact

private theorem deleteKit_succeeds_iff :
    Succeeds (deleteKit session s id) (.kit id) ↔ deletesKit session s.db id = true := by
  rcases deleteKit_cases session s id with ⟨refused, failed, -⟩ | ⟨accepted, deleted⟩
  · rw [refused]
    exact iff_of_false (not_succeeds failed) Bool.false_ne_true
  · refine iff_of_true ⟨?_, gone_of_deletes (deleteKit_deletes accepted)⟩ accepted
    rw [deleted]
    rfl

private theorem deleteUser_succeeds_iff (enforced : engine.foreignKeys = true) :
    Succeeds (deleteUser engine session s id) (.user id) ↔
      deletes engine session s.db id = true := by
  rcases deleteUser_cases engine session s id with ⟨refused, failed, -⟩ | ⟨accepted, _, deleted⟩
  · rw [refused]
    exact iff_of_false (not_succeeds failed) Bool.false_ne_true
  · refine iff_of_true ⟨?_, gone_of_deletes (deleteUser_deletes enforced accepted)⟩ accepted
    rw [deleted]
    rfl

end Handlers

/-- For an administrator, the deletion of a stored kit succeeds exactly when no review is of it
and its cart items lie in its inventories; that of a stored user exactly when its row loads and
nothing of the user would stay behind. -/
theorem deletions_succeed_iff (engine : Engine) (enforced : engine.foreignKeys = true)
    (session : Session) (s : State) (user : Nat) (login : session.user = some user)
    (admin : isAdmin s.db user = true) :
    (∀ id kit, s.db.kits.get? id = some kit →
      (Succeeds (deleteKit session s id) (.kit id) ↔ KitFree s.db id)) ∧
    ∀ id row, s.db.users.get? id = some row →
      (Succeeds (deleteUser engine session s id) (.user id) ↔
        row.loadable = true ∧ UserFree s.db id) := by
  constructor
  · intro id kit found
    rw [deleteKit_succeeds_iff, ← blocksKit_eq_false_iff]
    simp [deletesKit, login, admin, found]
  · intro id row found
    rw [deleteUser_succeeds_iff enforced, ← blocksDeletion_eq_false_iff enforced]
    simp [deletes, login, admin, found]

section Samples

/-- Ann gives the only kit four stars. -/
def reviewed : State :=
  run (siteStep plainLibraries ⟨.mysql, 0, .binary⟩) (shelfOnly 3)
    [.personal ⟨customer, .createOrUpdateReview 1 ⟨.value 4, .absent, .absent, .absent⟩⟩]

end Samples

theorem unreviewed_kit_is_deleted :
    Succeeds (deleteKit administrator (shelfOnly 3) 1) (.kit 1) ∧
      Succeeds (deleteUser .mysql administrator (shelfOnly 3) 1) (.user 1) := by
  obtain ⟨kits, users⟩ :=
    deletions_succeed_iff .mysql rfl administrator (shelfOnly 3) 2 rfl (by decide)
  refine ⟨(kits 1 _ rfl).mpr ?_, (users 1 _ rfl).mpr ⟨rfl, ?_⟩⟩
  · exact ⟨by rintro _ ⟨⟩, by rintro _ ⟨⟩⟩
  · exact ⟨by rintro _ ⟨⟩, by rintro _ ⟨⟩, by rintro _ ⟨⟩, by rintro _ ⟨⟩⟩

/-- After one review neither the kit nor its reviewer can be deleted. -/
theorem reviewed_kit_is_not_deleted :
    (deleteKit administrator reviewed 1).1 = .raised ∧
      (reviewed.db.kits.get? 1).isSome = true ∧
      ¬ Succeeds (deleteKit administrator reviewed 1) (.kit 1) ∧
      (deleteUser .mysql administrator reviewed 1).1 = .raised ∧
      (reviewed.db.users.get? 1).isSome = true ∧
      ¬ Succeeds (deleteUser .mysql administrator reviewed 1) (.user 1) := by
  have kitRaises : (deleteKit administrator reviewed 1).1 = .raised := by decide
  have userRaises : (deleteUser .mysql administrator reviewed 1).1 = .raised := by decide
  refine ⟨kitRaises, by decide, ?_, userRaises, by decide, ?_⟩
  · rintro ⟨answered, -⟩
    rw [kitRaises] at answered
    cases answered
  · rintro ⟨answered, -⟩
    rw [userRaises] at answered
    cases answered

end ProductSite.Catalogue.Deletion
