/- Module: ProductSite/Checkout/WarehouseNames
   source: backend/app/routes/purchase_routes.py, backend/app/routes/inventory_routes.py,
     react-router-bootstrap-app/src/pages/CartPage.jsx
   digest: The code paths agree on whether a location name is the warehouse iff it is spelled in
     lower case, or is not the warehouse at all. -/

import ProductSite.Checkout.AllOrNothing
import ProductSite.Stock.WarehouseRows
import ProductSite.Storefront.CartPage

set_option autoImplicit false
set_option relaxedAutoImplicit false

namespace ProductSite.Checkout.WarehouseNames

open ProductSite.Foundation.Clashes (Adds)
open ProductSite.Foundation.Wire (JsonField Reply)
open ProductSite.Backend.InventoryRoutes
open ProductSite.Backend.Models (Inventory Purchase State lower)
open ProductSite.Backend.PurchaseRoutes
open ProductSite.Backend.PurchaseSaving
open ProductSite.Backend.Requests (administrator customer sampleServer sampleShop)
open ProductSite.Checkout.AllOrNothing (orderFrom)
open ProductSite.Stock.RowWrites (creates_of_accepted)
open ProductSite.Stock.WarehouseRows (coordinates_ne_empty placeOf_warehouse)
open ProductSite.Storefront.CartPage (Basket CartItem entry isWarehouse locationName sandTray)

section Paths

/-- The purchase was stored by an accepted request, from a row with the name. -/
def Bought (name : String) (purchase : Purchase) : Prop :=
  ∃ server session stripe now s body created row,
    (createPurchase server session stripe now s body).1.fetchOk = true ∧
    (createPurchase server session stripe now s body).2.db.purchases.rows =
      s.db.purchases.rows ++ created ∧ purchase ∈ created ∧
    purchase.inventoryId.bind s.db.inventory.get? = some row ∧ row.locationName = name

/-- The item of the cart is for a row with the name. -/
def InCart (name : String) (item : CartItem) : Prop :=
  ∃ row, item.inventory = some row ∧ row.locationName = name

/-- The checkout loop puts the item, once it is reserved, on the warehouse list. -/
def Listed (item : CartItem) : Prop :=
  ∀ (basket : Basket) reply, reply.fetchOk = true →
    (basket.record item reply).warehouse = basket.warehouse ++ [entry item]

/-- The row was stored by an accepted creation with the name. -/
def Stored (name : String) (row : Inventory) : Prop :=
  ∃ engine session places s body,
    (createInventory engine session places s body).1.fetchOk = true ∧
    Adds s.db.inventory (createInventory engine session places s body).2.db.inventory row ∧
    row.locationName = name

def Cleared (row : Inventory) : Prop := row.location = "" ∧ row.coordinates = ""

/-- A reservation under the name looks for the row of the warehouse, whatever else it gives. -/
def WarehouseBranch (name : String) : Prop :=
  ∀ engine db (body : DecrementBody), body.locationName = .value name →
    decrementRow engine db body = .ok (warehouseRow engine db)

/-- The four code paths take the name for the warehouse, or none of them does. -/
def PathsAgree (name : String) : Prop :=
  ∀ purchase item row, Bought name purchase → InCart name item → Stored name row →
    (purchase.shippingType = "delivery" ↔ Listed item) ∧ (Listed item ↔ Cleared row) ∧
      (Cleared row ↔ WarehouseBranch name)

end Paths

section Classification

variable {name : String}

/-- The purchase compares the name as it is stored. -/
private theorem bought_delivery_iff {purchase : Purchase} (bought : Bought name purchase) :
    purchase.shippingType = "delivery" ↔ name = "warehouse" := by
  obtain ⟨server, session, stripe, now, s, body, created, row, accepted, rows, member, taken,
    named⟩ := bought
  obtain ⟨user, payment, -, -, table, stored, whole, creates, answered⟩ :=
    createPurchase_stored server session stripe now s body accepted
  have same : created = stored := by
    rw [answered] at rows
    exact List.append_cancel_left (rows.symm.trans whole)
  rw [same] at member
  obtain ⟨item, -, creation⟩ := paired_of_mem_right creates member
  obtain ⟨-, -, refers, -⟩ := creation.records
  obtain ⟨line, id, made, rfl⟩ := creation
  obtain ⟨inventory, found, -, -, -, kind⟩ := lineOf_eq_some.mp made
  rw [refers, taken] at found
  cases found
  change line.shippingType = "delivery" ↔ name = "warehouse"
  rw [kind, shippingType, named]
  split
  · rename_i spelled
    exact iff_of_true rfl spelled
  · rename_i other
    exact iff_of_false (by decide) other

private theorem record_warehouse {item : CartItem} {basket : Basket} {reply : Reply QuantityMessage}
    (accepted : reply.fetchOk = true) : (basket.record item reply).warehouse =
      if isWarehouse item = true then basket.warehouse ++ [entry item] else basket.warehouse := by
  rw [Basket.record, if_pos accepted]
  split <;> rfl

private theorem listed_iff {item : CartItem} (inCart : InCart name item) :
    Listed item ↔ lower name = "warehouse" := by
  obtain ⟨row, nested, named⟩ := inCart
  have shown : locationName item = name := by
    rw [locationName, nested, Option.map_some, Option.getD_some, named]
  have kind : isWarehouse item = true ↔ lower name = "warehouse" := by
    rw [isWarehouse, shown, beq_iff_eq]
  rw [← kind]
  constructor
  · intro listed
    by_contra other
    have grown := listed ⟨[], [], []⟩ (.ok 200 ⟨"", 0⟩) rfl
    rw [record_warehouse rfl, if_neg other] at grown
    cases grown
  · intro warehouse basket reply accepted
    rw [record_warehouse accepted, if_pos warehouse]

private theorem cleared_iff {row : Inventory} (stored : Stored name row) :
    Cleared row ↔ lower name = "warehouse" := by
  obtain ⟨engine, session, places, s, body, accepted, adds, named⟩ := stored
  obtain ⟨made, table, after, makes, -, -, placed⟩ := creates_of_accepted body accepted
  have here : (createInventory engine session places s body).2.db.inventory = table :=
    congrArg (·.db.inventory) after
  have same : row = made := by
    rw [here] at adds
    have present := (makes.members row).mp ((adds.members row).mpr (Or.inr rfl))
    rcases present with old | new
    · exact absurd rfl (adds.fresh row old)
    · exact new
  subst same
  rw [named] at placed
  constructor
  · intro empty
    by_contra elsewhere
    exact coordinates_ne_empty elsewhere placed empty.2
  · intro warehouse
    exact Prod.mk.inj (placeOf_warehouse warehouse placed)

private theorem warehouseBranch_iff : WarehouseBranch name ↔ lower name = "warehouse" := by
  constructor
  · intro branch
    by_contra elsewhere
    have found := branch .sqlite (sampleShop .empty .empty).db
      ⟨.value name, .absent, .absent, .absent⟩ rfl
    rw [decrementRow] at found
    simp only [JsonField.getD] at found
    rw [if_neg elsewhere] at found
    cases found
  · intro warehouse engine db body given
    rw [decrementRow, given]
    simp only [JsonField.getD]
    rw [if_pos warehouse]

end Classification

section Occurrence

/-- A shop with one row, under the name. -/
def shopWith (name : String) : State :=
  sampleShop ⟨[⟨1, "", "", name, 3, 1⟩], by simp, by simp⟩ .empty

/-- The administrator adds a row under the name. -/
def creation (name : String) : CreateInventoryBody :=
  ⟨.absent, .value "1 Main St", .value name, .value 3, .value 1, .absent, false⟩

private theorem exists_bought (name : String) : ∃ purchase, Bought name purchase := by
  have accepted : (createPurchase sampleServer customer (fun _ => .intent "succeeded") 0
      (shopWith name) (orderFrom [1])).1.fetchOk = true := by with_unfolding_all rfl
  obtain ⟨user, taken, -, -, table, created, rows, creates, stored⟩ :=
    createPurchase_stored sampleServer customer _ 0 (shopWith name) (orderFrom [1]) accepted
  obtain ⟨purchase, member, made⟩ := paired_of_mem_left creates (List.mem_singleton_self _)
  have row : some 1 = purchase.inventoryId := made.records.2.2.1
  refine ⟨purchase, sampleServer, customer, _, 0, shopWith name, orderFrom [1], created,
    ⟨1, "", "", name, 3, 1⟩, accepted, ?_, member, ?_, rfl⟩
  · rw [stored]
    exact rows
  · rw [← row]
    rfl

private theorem exists_stored {name : String} (warehouse : lower name = "warehouse") :
    ∃ row, Stored name row := by
  have accepted : (createInventory .sqlite administrator (fun _ => .failed "offline")
      (sampleShop .empty .empty) (creation name)).1.fetchOk = true := by
    have answered : createInventory .sqlite administrator (fun _ => .failed "offline")
        (sampleShop .empty .empty) (creation name) =
        if lower name = "warehouse" then
          storeInventory .sqlite (sampleShop .empty .empty) (creation name) (some "") "" false
        else (.error 500 "offline" [], sampleShop .empty .empty) := rfl
    rw [answered, if_pos warehouse]
    rfl
  obtain ⟨row, table, after, adds, named, -, -⟩ := creates_of_accepted _ accepted
  refine ⟨row, .sqlite, administrator, _, _, _, accepted, ?_, (Option.some.inj named).symm⟩
  rw [after]
  exact adds

end Occurrence

/-- The four code paths agree on a location name if and only if it is the warehouse in lower
case, or is not the warehouse in any case. -/
theorem paths_agree_iff (name : String) :
    PathsAgree name ↔ name = "warehouse" ∨ lower name ≠ "warehouse" := by
  constructor
  · intro agree
    by_cases warehouse : lower name = "warehouse"
    · left
      obtain ⟨purchase, bought⟩ := exists_bought name
      obtain ⟨row, stored⟩ := exists_stored warehouse
      have inCart : InCart name (sandTray 1 1 "" name 1) := ⟨_, rfl, rfl⟩
      obtain ⟨first, -⟩ := agree purchase _ row bought inCart stored
      exact (bought_delivery_iff bought).mp (first.mpr ((listed_iff inCart).mpr warehouse))
    · exact Or.inr warehouse
  · intro spelled purchase item row bought inCart stored
    rw [bought_delivery_iff bought, listed_iff inCart, cleared_iff stored, warehouseBranch_iff]
    refine ⟨⟨?_, ?_⟩, Iff.rfl, Iff.rfl⟩
    · rintro rfl
      decide
    · intro warehouse
      exact spelled.resolve_right (not_not_intro warehouse)

/-- A row is stored as "Warehouse" without an address, its item goes on the warehouse list and a
reservation takes it for the warehouse, but the purchase is for pickup. -/
theorem capital_warehouse_is_a_pickup :
    (createInventory .sqlite administrator (fun _ => .failed "offline") (sampleShop .empty .empty)
        (creation "Warehouse")).2.db.inventory.rows = [⟨1, "", "", "Warehouse", 3, 1⟩] ∧
      isWarehouse (sandTray 1 1 "" "Warehouse" 1) = true ∧
      decrementRow .sqlite (shopWith "Warehouse").db
        ⟨.value "Warehouse", .value 1, .value 1, .absent⟩ =
          .ok (warehouseRow .sqlite (shopWith "Warehouse").db) ∧
      (createPurchase sampleServer customer (fun _ => .intent "succeeded") 0
        (shopWith "Warehouse") (orderFrom [1])).2.db.purchases.rows.map Purchase.shippingType =
          ["pickup"] ∧
      ¬ PathsAgree "Warehouse" := by
  refine ⟨by decide, by decide, rfl, by decide +kernel, ?_⟩
  intro agree
  obtain ⟨purchase, bought⟩ := exists_bought "Warehouse"
  obtain ⟨row, stored⟩ := exists_stored (by decide : lower "Warehouse" = "warehouse")
  have inCart : InCart "Warehouse" (sandTray 1 1 "" "Warehouse" 1) := ⟨_, rfl, rfl⟩
  obtain ⟨first, -⟩ := agree purchase _ row bought inCart stored
  have spelled := (bought_delivery_iff bought).mp (first.mpr ((listed_iff inCart).mpr (by decide)))
  exact absurd spelled (by decide)

end ProductSite.Checkout.WarehouseNames
