/- Module: ProductSite/Stock/WarehouseRows
   source: backend/app/routes/inventory_routes.py
   digest: The rows of the warehouse have no address iff no edit of one leaves out its name. -/

import ProductSite.Stock.RowKeys

set_option autoImplicit false
set_option relaxedAutoImplicit false

namespace ProductSite.Stock.WarehouseRows

open ProductSite.Foundation.KeyedTable (Table)
open ProductSite.Foundation.Runs
open ProductSite.Backend.InventoryRoutes
open ProductSite.Backend.KitRoutes (createKit)
open ProductSite.Backend.Models
open ProductSite.Backend.Requests (administrator sampleShop)
open ProductSite.Stock.RowKeys (addShelf)
open ProductSite.Stock.RowWrites

def isWarehouse (row : Inventory) : Prop := lower row.locationName = "warehouse"

/-- A row of the warehouse has an empty location and empty coordinates. -/
def Addressless (row : Inventory) : Prop :=
  isWarehouse row → row.location = "" ∧ row.coordinates = ""

def WarehouseAddressless (s : State) : Prop := ∀ row ∈ s.db.inventory.rows, Addressless row

/-- An edit without a location name is not about a row of the warehouse. -/
def NamesWarehouse (engine : Engine) (s : State) : RowRequest → Prop
  | .edit _ _ body => ∀ inv, editedInventory engine s.db body = some inv →
      body.locationName = .absent → ¬ isWarehouse inv
  | _ => True

section Places

variable {places : String → PlacesReply} {name : String} {location : Option String} {skips : Bool}
  {place : String × String}

theorem placeOf_warehouse (warehouse : lower name = "warehouse")
    (placed : placeOf places name location skips = some place) : place = ("", "") := by
  rw [placeOf, if_pos warehouse] at placed
  exact (Option.some.inj placed).symm

/-- Outside of the warehouse the coordinates are two numbers with a comma between them. -/
theorem coordinates_ne_empty (elsewhere : lower name ≠ "warehouse")
    (placed : placeOf places name location skips = some place) : place.2 ≠ "" := by
  rw [placeOf, if_neg elsewhere] at placed
  cases skips with
  | true =>
      obtain ⟨text, -, rfl⟩ := Option.map_eq_some_iff.mp placed
      exact (by decide : "0,0" ≠ "")
  | false =>
      simp only [Bool.false_eq_true, if_false] at placed
      split at placed
      · cases placed
      · rename_i found _
        cases placed
        intro empty
        have chars := congrArg String.toList empty
        simp [coordinatesOf] at chars
        exact absurd chars.2.1 (by decide)

end Places

section Steps

variable {engine : Engine} {s : State}

private theorem addressless_create (before : WarehouseAddressless s) {session : Session}
    {places : String → PlacesReply} {body : CreateInventoryBody}
    (accepted : Accepted engine s (.create session places body)) :
    WarehouseAddressless (rowStep engine s (.create session places body)) := by
  obtain ⟨row, table, after, adds, -, -, placed⟩ := creates_of_accepted body accepted
  intro other present
  have stored : other ∈ table.rows := by
    have rows : (rowStep engine s (.create session places body)).db.inventory = table :=
      congrArg (·.db.inventory) after
    rw [rows] at present
    exact present
  rcases (adds.members other).mp stored with old | rfl
  · exact before other old
  · intro warehouse
    have empty := placeOf_warehouse warehouse placed
    exact Prod.mk.inj empty

/-- The row that an edit writes has no address as a warehouse row exactly if the edit names the
warehouse where it is about one. -/
private theorem addressless_edited_iff {places : String → PlacesReply} {body : EditInventoryBody}
    {inv row : Inventory}
    (named : body.locationName.getD inv.locationName = some row.locationName)
    (placed : placeOf places (body.locationName.get.getD "") (body.location.getD inv.location)
      (skipsLookup body.noAddressLookup) = some (row.location, row.coordinates)) :
    Addressless row ↔ (body.locationName = .absent → ¬ isWarehouse inv) := by
  cases field : body.locationName with
  | absent =>
      rw [field] at named placed
      have kept : row.locationName = inv.locationName := (Option.some.inj named).symm
      have unnamed : lower "" ≠ "warehouse" := by decide
      have filled := coordinates_ne_empty unnamed placed
      simp only [Addressless, isWarehouse, kept, true_implies]
      constructor
      · intro empty warehouse
        exact filled (empty warehouse).2
      · intro other warehouse
        exact absurd warehouse other
  | null =>
      rw [field] at named
      cases named
  | value text =>
      rw [field] at named placed
      have given : row.locationName = text := (Option.some.inj named).symm
      refine iff_of_true ?_ nofun
      intro warehouse
      have spelled : lower text = "warehouse" := given ▸ warehouse
      exact Prod.mk.inj (placeOf_warehouse spelled placed)

private theorem addressless_edit_iff (before : WarehouseAddressless s) {session : Session}
    {places : String → PlacesReply} {body : EditInventoryBody}
    (accepted : Accepted engine s (.edit session places body)) :
    WarehouseAddressless (rowStep engine s (.edit session places body)) ↔
      NamesWarehouse engine s (.edit session places body) := by
  obtain ⟨inv, row, found, after, same, -, named, placed⟩ := edits_of_accepted body accepted
  have stored : (rowStep engine s (.edit session places body)).db.inventory =
      s.db.inventory.save row := congrArg (·.db.inventory) after
  have present := (Table.get?_eq_some_iff.mp (Table.get?_of_first found)).1
  have written : WarehouseAddressless (rowStep engine s (.edit session places body)) ↔
      Addressless row := by
    unfold WarehouseAddressless
    rw [stored]
    constructor
    · intro all
      exact all row (Table.mem_save.mpr (Or.inl ⟨rfl, inv, present, same.symm⟩))
    · intro new other member
      rcases Table.mem_save.mp member with ⟨rfl, -⟩ | ⟨old, -⟩
      · exact new
      · exact before other old
  rw [written, addressless_edited_iff named placed]
  constructor
  · intro names inv' found'
    rw [found] at found'
    cases found'
    exact names
  · intro names
    exact names inv found

private theorem addressless_step_iff (request : RowRequest) (before : WarehouseAddressless s)
    (accepted : Accepted engine s request) :
    WarehouseAddressless (rowStep engine s request) ↔ NamesWarehouse engine s request := by
  cases request with
  | create session places body =>
      exact iff_of_true (addressless_create before accepted) trivial
  | edit session places body => exact addressless_edit_iff before accepted
  | delete session kitId location =>
      refine iff_of_true ?_ trivial
      intro row member
      exact before row (mem_of_deleteInventory member)
  | createKit session body =>
      refine iff_of_true ?_ trivial
      change ∀ row ∈ (createKit session s body).2.db.inventory.rows, Addressless row
      rw [createKit_inventory]
      exact before

end Steps

/-- The administrator sets the quantity of the row of the kit with the name, and nothing else,
without a lookup of its address. -/
def setQuantity (name : String) (quantity : Int) : RowRequest :=
  .edit administrator (fun _ => .failed "offline")
    ⟨.value 1, .value name, .absent, .absent, .value quantity, .absent, .value true⟩

/-- From a state in which no row of the warehouse has an address, none has one in any state of a
run of accepted requests exactly if every edit of such a row gives its name. -/
theorem warehouse_addressless_along_iff (engine : Engine) (s : State) (requests : List RowRequest)
    (start : WarehouseAddressless s)
    (accepted : EachStep (rowStep engine) (Accepted engine) s requests) :
    Along (rowStep engine) WarehouseAddressless s requests ↔
      EachStep (rowStep engine) (NamesWarehouse engine) s requests := by
  refine along_iff_eachStep ?_ start accepted
  intro t request before admitted
  exact addressless_step_iff request before admitted

theorem library_is_restocked :
    Along (rowStep .sqlite) WarehouseAddressless (sampleShop .empty .empty)
      [addShelf "1 Main St" "Library", setQuantity "Library" 5] := by
  have start : WarehouseAddressless (sampleShop .empty .empty) := fun row member => nomatch member
  have accepted : EachStep (rowStep .sqlite) (Accepted .sqlite) (sampleShop .empty .empty)
      [addShelf "1 Main St" "Library", setQuantity "Library" 5] :=
    eachStep_cons.mpr ⟨by decide, eachStep_cons.mpr ⟨by decide, eachStep_nil _ _⟩⟩
  refine (warehouse_addressless_along_iff .sqlite _ _ start accepted).mpr ?_
  refine eachStep_cons.mpr ⟨trivial, eachStep_cons.mpr ⟨?_, eachStep_nil _ _⟩⟩
  intro inv found _
  have library : editedInventory .sqlite
      (rowStep .sqlite (sampleShop .empty .empty) (addShelf "1 Main St" "Library")).db
      ⟨.value 1, .value "Library", .absent, .absent, .value 5, .absent, .value true⟩ =
      some ⟨1, "1 Main St", "0,0", "Library", 3, 1⟩ := by decide
  rw [library] at found
  cases found
  show lower "Library" ≠ "warehouse"
  decide

/-- The administrator adds three units of the only kit to the warehouse. -/
def addWarehouse : RowRequest :=
  .create administrator (fun _ => .failed "offline")
    ⟨.absent, .value "", .value "Warehouse", .value 3, .value 1, .absent, false⟩

/-- From an empty table: a row of the warehouse is created without coordinates, and an edit of its
quantity gives it those of a place that was not looked up. -/
theorem restocked_warehouse_has_coordinates :
    (sampleShop .empty .empty).db.inventory.rows = [] ∧
      EachStep (rowStep .sqlite) (Accepted .sqlite) (sampleShop .empty .empty)
        [addWarehouse, setQuantity "Warehouse" 5] ∧
      (run (rowStep .sqlite) (sampleShop .empty .empty) [addWarehouse]).db.inventory.rows =
        [⟨1, "", "", "Warehouse", 3, 1⟩] ∧
      (run (rowStep .sqlite) (sampleShop .empty .empty)
        [addWarehouse, setQuantity "Warehouse" 5]).db.inventory.rows =
        [⟨1, "", "0,0", "Warehouse", 5, 1⟩] ∧
      ¬ WarehouseAddressless (run (rowStep .sqlite) (sampleShop .empty .empty)
        [addWarehouse, setQuantity "Warehouse" 5]) := by
  have rows : (run (rowStep .sqlite) (sampleShop .empty .empty)
      [addWarehouse, setQuantity "Warehouse" 5]).db.inventory.rows =
      [⟨1, "", "0,0", "Warehouse", 5, 1⟩] := by decide
  refine ⟨rfl, eachStep_cons.mpr ⟨by decide, eachStep_cons.mpr ⟨by decide, eachStep_nil _ _⟩⟩,
    by decide, rows, ?_⟩
  intro empty
  have address := empty ⟨1, "", "0,0", "Warehouse", 5, 1⟩ (by rw [rows]; simp)
    (show lower "Warehouse" = "warehouse" by decide)
  exact absurd address.2 (by decide)

end ProductSite.Stock.WarehouseRows
