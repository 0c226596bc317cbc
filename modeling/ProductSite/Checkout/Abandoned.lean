/- Module: ProductSite/Checkout/Abandoned
   source: react-router-bootstrap-app/src/pages/CartPage.jsx, backend/app/routes/inventory_routes.py
   digest: Closing the modal undoes a checkout iff all items come from the one warehouse row. -/

import Mathlib.Algebra.Order.BigOperators.Group.List
import ProductSite.Backend.Requests
import ProductSite.Storefront.CartPage

set_option autoImplicit false
set_option relaxedAutoImplicit false

namespace ProductSite.Checkout.Abandoned

open ProductSite.Foundation.Balances (creditTo creditTo_cons postAll_credits post_add)
open ProductSite.Foundation.KeyedTable (Table)
open ProductSite.Foundation.Wire (JsonField)
open ProductSite.Backend.Models hiding CartItem
open ProductSite.Backend.InventoryRoutes
open ProductSite.Backend.Requests
open ProductSite.Storefront.CartPage

def restoreAt (session : Session) (s : State) (items : List RestoreItem) : State :=
  (restoreReservedInventory session s (.value items)).2

/-- A checkout against the API whose modal is then closed. -/
def abandon (engine : Engine) (session : Session) (page : Page) (s : State) : Page × State :=
  let opened := handleCheckout (decrementAt engine session) true page s
  handleModalClose (restoreAt session) opened.1 opened.2

/-- The units that the decrement requests of a cart take from a row. -/
def unitsServed (engine : Engine) (db : Database) (cart : List CartItem) (id : Nat) : Int :=
  (cart.map (fun item =>
    if servedId engine db (decrementBody item) = some id then orOne item.quantity else 0)).sum

/-- The units that closing the modal gives back to a row. -/
def unitsReturned (cart : List CartItem) (id : Nat) : Int :=
  (cart.map (fun item =>
    if isWarehouse item = true ∧ (getDetails item).inventoryId = some id then orOne item.quantity
    else 0)).sum

def Balanced (engine : Engine) (db : Database) (cart : List CartItem) : Prop :=
  ∀ row ∈ db.inventory.rows, unitsServed engine db cart row.id = unitsReturned cart row.id

/-- All items are warehouse items, and of the very row that serves warehouse requests. -/
def FromWarehouseRow (engine : Engine) (db : Database) (cart : List CartItem) : Prop :=
  ∀ item ∈ cart, isWarehouse item = true ∧
    ∃ row, warehouseRow engine db = some row ∧ item.inventoryId = some row.id

section Loop

variable {engine : Engine} {session : Session}

private theorem accepted_cons {s : State} {item : CartItem} {rest : List CartItem}
    (all : acceptedItems (decrementAt engine session) s (item :: rest) = item :: rest) :
    ∃ user inv, reservation engine session s.db (decrementBody item) =
        some (user, inv, orOne item.quantity) ∧
      acceptedItems (decrementAt engine session)
        (decrementQuantity engine session s (decrementBody item)).2 rest = rest := by
  have unfolded : (if (decrementQuantity engine session s (decrementBody item)).1.fetchOk then
      item :: acceptedItems (decrementAt engine session)
        (decrementQuantity engine session s (decrementBody item)).2 rest
      else acceptedItems (decrementAt engine session)
        (decrementQuantity engine session s (decrementBody item)).2 rest) = item :: rest := all
  split at unfolded
  · rename_i success
    rw [decrementQuantity_fetchOk] at success
    obtain ⟨⟨user, inv, quantity⟩, accepted⟩ := Option.isSome_iff_exists.mp success
    have asked := (reservation_found accepted).2
    have units : orOne item.quantity = quantity := Option.some.inj asked
    rw [units]
    exact ⟨user, inv, accepted, List.tail_eq_of_cons_eq unfolded⟩
  · have shorter := (acceptedItems_sublist (decrementAt engine session)
      (decrementQuantity engine session s (decrementBody item)).2 rest).length_le
    rw [unfolded, List.length_cons] at shorter
    omega

private theorem unitsServed_reserve {s : State} {user : Nat} {inv : Inventory}
    {kitId : Option Nat} {quantity : Int} (found : s.db.inventory.get? inv.id = some inv)
    (cart : List CartItem) (id : Nat) :
    unitsServed engine (reserve s user inv kitId quantity).db cart id =
      unitsServed engine s.db cart id := by
  have same (body : DecrementBody) :
      servedId engine (reserve s user inv kitId quantity).db body = servedId engine s.db body :=
    servedId_save found _
  simp only [unitsServed, same]

/-- A loop in which every request is accepted takes the served units from every row. -/
private theorem checkoutLoop_accepted (s : State) (basket : Basket) {cart : List CartItem}
    (all : acceptedItems (decrementAt engine session) s cart = cart) :
    (checkoutLoop (decrementAt engine session) s basket cart).1.2 = none ∧
      ∀ id, (checkoutLoop (decrementAt engine session) s basket cart).2.stock id =
        (s.stock id).map (· - unitsServed engine s.db cart id) := by
  induction cart generalizing s basket with
  | nil =>
      refine ⟨rfl, ?_⟩
      intro id
      simp [checkoutLoop, unitsServed]
  | cons item rest ih =>
      obtain ⟨user, inv, accepted, later⟩ := accepted_cons all
      obtain ⟨finished, stock⟩ := ih (decrementQuantity engine session s (decrementBody item)).2
        (basket.record item (decrementQuantity engine session s (decrementBody item)).1) later
      refine ⟨finished, ?_⟩
      intro id
      refine (stock id).trans ?_
      have served := servedId_of_reservation accepted
      have found := (reservation_found accepted).1
      rw [decrementQuantity_state, accepted]
      simp only
      rw [unitsServed_reserve found, stock_reserve found, post_add, Option.map_map]
      refine Option.map_congr fun held _ => ?_
      simp only [Function.comp_apply, unitsServed, List.map_cons, List.sum_cons, served,
        Option.some.injEq, eq_comm]
      split
      · omega
      · omega

private theorem user_of_accepted {s : State} {cart : List CartItem} (nonempty : cart ≠ [])
    (all : acceptedItems (decrementAt engine session) s cart = cart) :
    ∃ user, session.user = some user := by
  cases cart with
  | nil => exact absurd rfl nonempty
  | cons item rest =>
      obtain ⟨user, inv, accepted, -⟩ := accepted_cons all
      exact ⟨user, (reservation_eq_some.mp accepted).1⟩

end Loop

section Closing

variable {engine : Engine} {session : Session}

/-- The page keeps exactly the entries of the warehouse items. -/
private theorem handleCheckout_accepted {page : Page} {s : State} (nonempty : page.cart ≠ [])
    (all : acceptedItems (decrementAt engine session) s page.cart = page.cart) :
    (handleCheckout (decrementAt engine session) true page s).1.warehouseItems =
        (page.cart.filter isWarehouse).map entry ∧
      (handleCheckout (decrementAt engine session) true page s).2 =
        (checkoutLoop (decrementAt engine session) s ⟨[], [], []⟩ page.cart).2 := by
  obtain ⟨warehouse, pickups⟩ :=
    checkoutLoop_basket (decrementAt engine session) s ⟨[], [], []⟩ page.cart
  obtain ⟨finished, -⟩ := checkoutLoop_accepted s ⟨[], [], []⟩ all
  rw [all, List.nil_append] at warehouse pickups
  have some_items : page.cart.isEmpty = false := by simpa using nonempty
  unfold handleCheckout
  simp only [Bool.not_true, Bool.false_eq_true, if_false, some_items]
  cases loop : checkoutLoop (decrementAt engine session) s ⟨[], [], []⟩ page.cart with
  | mk outcome after =>
      obtain ⟨basket, message⟩ := outcome
      rw [loop] at warehouse pickups finished
      simp only at warehouse pickups finished
      subst finished
      refine ⟨?_, rfl⟩
      simp only
      rw [← warehouse]
      unfold Page.afterLoop
      cases taken : basket.warehouse with
      | cons first rest => rfl
      | nil =>
          cases rest : basket.pickups with
          | cons first rest => rfl
          | nil =>
              rw [taken] at warehouse
              rw [rest] at pickups
              have empty : page.cart = [] := by
                have lengths := (List.filter_append_perm isWarehouse page.cart).length_eq
                have none := List.map_eq_nil_iff.mp warehouse.symm
                have others := List.map_eq_nil_iff.mp pickups.symm
                rw [none, others] at lengths
                exact List.length_eq_zero_iff.mp lengths.symm
              exact absurd empty nonempty

private theorem creditTo_restored (cart : List CartItem) (id : Nat) :
    creditTo id (restoredEntries (((cart.filter isWarehouse).map entry).map restoreItem)) =
      unitsReturned cart id := by
  induction cart with
  | nil => rfl
  | cons item rest ih =>
      simp only [unitsReturned, List.map_cons, List.sum_cons] at ih ⊢
      cases kind : isWarehouse item with
      | false => simpa [kind] using ih
      | true =>
          have named : (restoreItem (entry item)).inventoryId.get = (getDetails item).inventoryId :=
            JsonField.get_ofOption _
          have units : (restoreItem (entry item)).quantity.get = some (orOne item.quantity) := rfl
          rw [List.filter_cons_of_pos kind, List.map_cons, List.map_cons]
          cases row : (getDetails item).inventoryId with
          | none =>
              have skipped : restoredEntries (restoreItem (entry item) ::
                  ((rest.filter isWarehouse).map entry).map restoreItem) =
                  restoredEntries (((rest.filter isWarehouse).map entry).map restoreItem) := by
                simp [restoredEntries, named, row]
              rw [skipped, ih]
              simp
          | some number =>
              have added : restoredEntries (restoreItem (entry item) ::
                  ((rest.filter isWarehouse).map entry).map restoreItem) =
                  (number, orOne item.quantity) ::
                    restoredEntries (((rest.filter isWarehouse).map entry).map restoreItem) := by
                simp [restoredEntries, named, row, units]
              rw [added, creditTo_cons, ih]
              by_cases here : id = number
              · simp [here]
              · simp [here, Ne.symm here]

private theorem stock_restoreAt {user : Nat} (login : session.user = some user) (s : State)
    (cart : List CartItem) (id : Nat) :
    (restoreAt session s (((cart.filter isWarehouse).map entry).map restoreItem)).stock id =
      (s.stock id).map (· + unitsReturned cart id) := by
  have quantities : ∀ item ∈ ((cart.filter isWarehouse).map entry).map restoreItem,
      item.quantity.get.isSome := by
    intro item member
    obtain ⟨origin, -, rfl⟩ := List.mem_map.mp member
    rfl
  have done := restoreLoop_isSome quantities s.db.inventory s.redis
  have posted := stock_step ⟨.sqlite, 0, .binary⟩ s (.restoreReservedInventory session
    (.value (((cart.filter isWarehouse).map entry).map restoreItem)))
  have entries : restoredBy session s
      (.value (((cart.filter isWarehouse).map entry).map restoreItem)) =
      restoredEntries (((cart.filter isWarehouse).map entry).map restoreItem) := by
    simp only [restoredBy, login, JsonField.getD, done, if_true]
  have account := congrFun posted id
  simp only [posts, entries] at account
  rw [postAll_credits, creditTo_restored] at account
  exact account

private theorem abandon_stock {page : Page} {s : State} (nonempty : page.cart ≠ [])
    (all : acceptedItems (decrementAt engine session) s page.cart = page.cart) (id : Nat) :
    (abandon engine session page s).2.stock id =
      (s.stock id).map
        (· + (unitsReturned page.cart id - unitsServed engine s.db page.cart id)) := by
  obtain ⟨user, login⟩ := user_of_accepted nonempty all
  obtain ⟨items, after⟩ := handleCheckout_accepted nonempty all
  obtain ⟨-, taken⟩ := checkoutLoop_accepted s ⟨[], [], []⟩ all
  have closed : (abandon engine session page s).2 = restoreAt session
      (checkoutLoop (decrementAt engine session) s ⟨[], [], []⟩ page.cart).2
      (((page.cart.filter isWarehouse).map entry).map restoreItem) := by
    unfold abandon handleModalClose
    simp only
    rw [items, after]
  rw [closed, stock_restoreAt login, taken, Option.map_map]
  refine Option.map_congr fun held _ => ?_
  simp only [Function.comp_apply]
  omega

private theorem abandon_iff_balanced {page : Page} {s : State} (nonempty : page.cart ≠ [])
    (all : acceptedItems (decrementAt engine session) s page.cart = page.cart) :
    (abandon engine session page s).2.stock = s.stock ↔ Balanced engine s.db page.cart := by
  constructor
  · intro same row member
    have here := congrFun same row.id
    have held : s.stock row.id = some row.quantity := stockOf_of_get? (Table.get?_of_mem member)
    rw [abandon_stock nonempty all, held] at here
    have units : row.quantity + (unitsReturned page.cart row.id -
        unitsServed engine s.db page.cart row.id) = row.quantity := Option.some.inj here
    omega
  · intro balanced
    funext id
    rw [abandon_stock nonempty all]
    cases found : s.db.inventory.get? id with
    | none =>
        have missing : s.stock id = none := stockOf_of_missing found
        rw [missing]
        rfl
    | some row =>
        obtain ⟨member, rfl⟩ := Table.get?_eq_some_iff.mp found
        have units := balanced row member
        rw [units, sub_self]
        simp

end Closing

section Quantities

variable {engine : Engine} {session : Session}

private theorem eq_of_sum_eq {α : Type} {items : List α} {f g : α → Int}
    (le : ∀ item ∈ items, f item ≤ g item)
    (same : (items.map f).sum = (items.map g).sum) : ∀ item ∈ items, f item = g item := by
  intro item member
  by_contra different
  have less := lt_of_le_of_ne (le item member) different
  have sums := List.sum_lt_sum f g le ⟨item, member, less⟩
  omega

private theorem orOne_pos {quantity : Int} (nonneg : 0 ≤ quantity) : 0 < orOne quantity := by
  unfold orOne
  split
  · omega
  · omega

private theorem inventoryId_details (item : CartItem) (id : Nat) :
    (getDetails item).inventoryId = some id ↔ item.inventoryId = some id ∧ id ≠ 0 := by
  change (item.inventory.map CartInventory.id).filter _ = some id ↔ _
  rw [item.inventory_refers, Option.filter_eq_some_iff]
  simp

private theorem servedId_warehouse (engine : Engine) (db : Database) {item : CartItem}
    (kind : isWarehouse item = true) :
    servedId engine db (decrementBody item) = (warehouseRow engine db).map Inventory.id := by
  have name : lower (locationName item) = "warehouse" := by simpa [isWarehouse] using kind
  simp [servedId, decrementRow, decrementBody, JsonField.getD, name]

private theorem servedId_found {db : Database} {body : DecrementBody} {id : Nat}
    (served : servedId engine db body = some id) :
    ∃ row ∈ db.inventory.rows, row.id = id := by
  unfold servedId at served
  split at served
  · rename_i row found
    obtain ⟨inv, rfl, rfl⟩ := Option.map_eq_some_iff.mp served
    exact ⟨inv, (Table.get?_eq_some_iff.mp (decrementRow_found found)).1, rfl⟩
  · cases served

private theorem accepted_served {s : State} {cart : List CartItem}
    (all : acceptedItems (decrementAt engine session) s cart = cart) :
    ∀ item ∈ cart, ∃ id, servedId engine s.db (decrementBody item) = some id := by
  induction cart generalizing s with
  | nil => simp
  | cons item rest ih =>
      obtain ⟨user, inv, accepted, later⟩ := accepted_cons all
      refine List.forall_mem_cons.mpr ⟨⟨inv.id, servedId_of_reservation accepted⟩, ?_⟩
      have found := (reservation_found accepted).1
      intro other member
      obtain ⟨id, served⟩ := ih later other member
      refine ⟨id, ?_⟩
      rw [decrementQuantity_state, accepted] at served
      exact (servedId_save found _).symm.trans served

/-- Where a row gets back at most what each item took from it, and as much in total, the items
served from it are warehouse items that name it. -/
private theorem served_matches {db : Database} {cart : List CartItem} {row : Inventory}
    (nonneg : ∀ item ∈ cart, 0 ≤ item.quantity)
    (units : unitsServed engine db cart row.id = unitsReturned cart row.id)
    (returned_served : ∀ item ∈ cart, isWarehouse item = true →
      (getDetails item).inventoryId = some row.id →
      servedId engine db (decrementBody item) = some row.id) :
    ∀ item ∈ cart, servedId engine db (decrementBody item) = some row.id →
      isWarehouse item = true ∧ (getDetails item).inventoryId = some row.id := by
  intro item member served
  have pointwise := eq_of_sum_eq ?_ units.symm item member
  · by_contra kept
    have positive := orOne_pos (nonneg item member)
    rw [if_neg kept, if_pos served] at pointwise
    omega
  · intro other present
    have positive := orOne_pos (nonneg other present)
    by_cases given : isWarehouse other = true ∧ (getDetails other).inventoryId = some row.id
    · rw [if_pos given, if_pos (returned_served other present given.1 given.2)]
    · rw [if_neg given]
      split
      · omega
      · exact le_rfl

private theorem balanced_iff_fromWarehouseRow {s : State} {cart : List CartItem}
    (all : acceptedItems (decrementAt engine session) s cart = cart)
    (nonneg : ∀ item ∈ cart, 0 ≤ item.quantity) :
    Balanced engine s.db cart ↔ FromWarehouseRow engine s.db cart := by
  constructor
  · intro balanced
    -- The warehouse row serves all warehouse items and no row gives back more than them, so it
    -- balances only if each of them names it.
    have named : ∀ item ∈ cart, isWarehouse item = true →
        ∃ row, warehouseRow engine s.db = some row ∧
          (getDetails item).inventoryId = some row.id := by
      intro item member kind
      obtain ⟨id, served⟩ := accepted_served all item member
      have through := servedId_warehouse engine s.db kind
      rw [served] at through
      obtain ⟨row, first, -⟩ := Option.map_eq_some_iff.mp through.symm
      have present := (Table.get?_eq_some_iff.mp (Table.get?_of_first first)).1
      refine ⟨row, first, (served_matches nonneg (balanced row present) ?_ item member ?_).2⟩
      · intro other _ otherKind _
        rw [servedId_warehouse engine s.db otherKind, first]
        rfl
      · rw [servedId_warehouse engine s.db kind, first]
        rfl
    -- Hence only that row gets units back, and no other item can have been served.
    have kinds : ∀ item ∈ cart, isWarehouse item = true := by
      intro item member
      obtain ⟨id, served⟩ := accepted_served all item member
      obtain ⟨row, present, rfl⟩ := servedId_found served
      refine (served_matches nonneg (balanced row present) ?_ item member served).1
      intro other listed otherKind given
      obtain ⟨first, warehouse, same⟩ := named other listed otherKind
      rw [servedId_warehouse engine s.db otherKind, warehouse, ← given, same]
      rfl
    intro item member
    obtain ⟨row, first, given⟩ := named item member (kinds item member)
    exact ⟨kinds item member, row, first, ((inventoryId_details item row.id).mp given).1⟩
  · intro warehouse row present
    unfold unitsServed unitsReturned
    refine congrArg List.sum (List.map_congr_left ?_)
    intro item member
    obtain ⟨kind, first, found, given⟩ := warehouse item member
    have positive : first.id ≠ 0 :=
      (Table.positive_of_get? (Table.get?_of_first found)).ne'
    have details := (inventoryId_details item first.id).mpr ⟨given, positive⟩
    rw [servedId_warehouse engine s.db kind, found, details]
    simp [kind]

end Quantities

/-- After a checkout in which every request succeeded, closing the modal restores the table
precisely when each row gets back what was taken from it; with quantities that are not
negative, precisely when all items are of the row that serves warehouse requests. -/
theorem abandon_restores_iff (engine : Engine) (session : Session) (page : Page) (s : State)
    (nonempty : page.cart ≠ [])
    (succeed : acceptedItems (decrementAt engine session) s page.cart = page.cart) :
    ((abandon engine session page s).2.stock = s.stock ↔ Balanced engine s.db page.cart) ∧
      ((∀ item ∈ page.cart, 0 ≤ item.quantity) →
        ((abandon engine session page s).2.stock = s.stock ↔
          FromWarehouseRow engine s.db page.cart)) := by
  have balance := abandon_iff_balanced nonempty succeed
  refine ⟨balance, ?_⟩
  intro nonneg
  exact balance.trans (balanced_iff_fromWarehouseRow succeed nonneg)

section Samples

def pickUpPage : Page := .opened [sandTray 1 1 "1 Main St" "Library" 2]

def depot (quantity : Int) : State :=
  sampleShop ⟨[⟨1, "", "", "warehouse", quantity, 1⟩], by simp, by simp⟩ .empty

def warehousePage : Page := .opened [sandTray 1 1 "" "warehouse" 2]

end Samples

/-- Two units for pick-up are reserved and never given back. -/
theorem abandoned_pick_up_is_not_restored :
    acceptedItems (decrementAt .sqlite customer) (shelfOnly 3) pickUpPage.cart =
        pickUpPage.cart ∧
      (abandon .sqlite customer pickUpPage (shelfOnly 3)).2.stock 1 = some 1 ∧
      (shelfOnly 3).stock 1 = some 3 := by
  refine ⟨rfl, ?_, ?_⟩
  · decide
  · decide

theorem abandoned_warehouse_item_is_restored :
    (abandon .sqlite customer warehousePage (depot 3)).2.stock = (depot 3).stock := by
  refine ((abandon_restores_iff .sqlite customer warehousePage (depot 3) (by simp [warehousePage,
    Page.opened]) rfl).2 ?_).mpr ?_
  · intro item member
    rw [List.mem_singleton.mp member]
    decide
  · intro item member
    rw [List.mem_singleton.mp member]
    exact ⟨by decide, ⟨1, "", "", "warehouse", 3, 1⟩, rfl, rfl⟩

end ProductSite.Checkout.Abandoned
