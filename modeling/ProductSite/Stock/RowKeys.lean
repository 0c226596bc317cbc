/- Module: ProductSite/Stock/RowKeys
   source: backend/app/routes/inventory_routes.py, backend/app/models/inventory.py,
     backend/app/routes/kit_routes.py
   digest: The two keys by which the handlers look up inventory rows identify them iff every row
     that is created or edited lands on a free place. -/

import ProductSite.Backend.Requests
import ProductSite.Stock.RowWrites

set_option autoImplicit false
set_option relaxedAutoImplicit false

namespace ProductSite.Stock.RowKeys

open ProductSite.Foundation.Clashes
open ProductSite.Foundation.KeyedTable (Table)
open ProductSite.Foundation.Runs
open ProductSite.Backend.InventoryRoutes
open ProductSite.Backend.KitRoutes (createKit)
open ProductSite.Backend.Models
open ProductSite.Backend.Requests (administrator sampleShop)
open ProductSite.Stock.RowWrites

/-- No two rows have the same kit and location, or the same kit and location name. -/
structure KeysUnique (s : State) : Prop where
  location : ∀ row ∈ s.db.inventory.rows, ∀ other ∈ s.db.inventory.rows,
    row.kitId = other.kitId → row.location = other.location → row = other
  locationName : ∀ row ∈ s.db.inventory.rows, ∀ other ∈ s.db.inventory.rows,
    row.kitId = other.kitId → row.locationName = other.locationName → row = other

/-- The row has neither the address nor the name, or is for another kit. -/
def Off (kitId : Nat) (location name : String) (row : Inventory) : Prop :=
  row.kitId = kitId → row.location ≠ location ∧ row.locationName ≠ name

/-- A creation lands on a place that no row of its kit has, and an edit on one that no other row
of the kit has. -/
def LandsApart (engine : Engine) (s : State) : RowRequest → Prop
  | .create _ places body => ∀ name kitId place,
      body.locationName.get = some name → body.kitId.get = some kitId →
      placeOf places name body.location.get (skipsLookup body.noAddressLookup) = some place →
      ∀ row ∈ s.db.inventory.rows, Off kitId place.1 name row
  | .edit _ places body => ∀ inv name kitId place,
      editedInventory engine s.db body = some inv →
      body.locationName.getD inv.locationName = some name →
      body.kitId.getD inv.kitId = some kitId →
      placeOf places (body.locationName.get.getD "") (body.location.getD inv.location)
        (skipsLookup body.noAddressLookup) = some place →
      ∀ row ∈ s.db.inventory.rows, row.id ≠ inv.id → Off kitId place.1 name row
  | .delete _ _ _ => True
  | .createKit _ _ => True

/-- Two rows that a lookup by one of the keys could confuse. -/
def SharesKey (row other : Inventory) : Prop :=
  row.kitId = other.kitId ∧
    (row.location = other.location ∨ row.locationName = other.locationName)

private theorem sharesKey_symm {row other : Inventory} (shares : SharesKey row other) :
    SharesKey other row :=
  ⟨shares.1.symm, shares.2.imp Eq.symm Eq.symm⟩

private theorem not_sharesKey_iff {row other : Inventory} :
    ¬ SharesKey row other ↔ Off other.kitId other.location other.locationName row := by
  simp only [SharesKey, Off, not_and, not_or, ne_eq]

private theorem keysUnique_iff {s : State} : KeysUnique s ↔ Apart SharesKey s.db.inventory := by
  constructor
  · rintro unique row member other present ⟨kit, place | name⟩
    · exact unique.location row member other present kit place
    · exact unique.locationName row member other present kit name
  · intro apart
    refine ⟨?_, ?_⟩
    · intro row member other present kit place
      exact apart row member other present ⟨kit, Or.inl place⟩
    · intro row member other present kit name
      exact apart row member other present ⟨kit, Or.inr name⟩

section Steps

variable {engine : Engine} {s : State}

private theorem keysUnique_create_iff (unique : KeysUnique s) {session : Session}
    {places : String → PlacesReply} {body : CreateInventoryBody}
    (accepted : Accepted engine s (.create session places body)) :
    KeysUnique (rowStep engine s (.create session places body)) ↔
      LandsApart engine s (.create session places body) := by
  obtain ⟨row, table, after, adds, named, kit, placed⟩ := creates_of_accepted body accepted
  have stored : (rowStep engine s (.create session places body)).db.inventory = table :=
    congrArg (·.db.inventory) after
  rw [keysUnique_iff, stored, adds.apart_iff sharesKey_symm (keysUnique_iff.mp unique)]
  simp only [not_sharesKey_iff]
  constructor
  · intro free name kitId place named' kit' placed'
    rw [named] at named'
    rw [kit] at kit'
    cases named'
    cases kit'
    rw [placed] at placed'
    cases placed'
    exact free
  · intro lands
    exact lands row.locationName row.kitId _ named kit placed

private theorem keysUnique_edit_iff (unique : KeysUnique s) {session : Session}
    {places : String → PlacesReply} {body : EditInventoryBody}
    (accepted : Accepted engine s (.edit session places body)) :
    KeysUnique (rowStep engine s (.edit session places body)) ↔
      LandsApart engine s (.edit session places body) := by
  obtain ⟨inv, row, found, after, same, kit, named, placed⟩ := edits_of_accepted body accepted
  have stored : (rowStep engine s (.edit session places body)).db.inventory =
      s.db.inventory.save row := congrArg (·.db.inventory) after
  have present : s.db.inventory.get? row.id = some inv := by
    rw [same]
    exact Table.get?_of_first found
  rw [keysUnique_iff, stored, apart_save_iff sharesKey_symm present (keysUnique_iff.mp unique)]
  simp only [not_sharesKey_iff]
  constructor
  · intro free inv' name kitId place found' named' kit' placed'
    rw [found] at found'
    cases found'
    rw [named] at named'
    rw [kit] at kit'
    cases named'
    cases kit'
    rw [placed] at placed'
    cases placed'
    rw [← same]
    exact free
  · intro lands
    rw [same]
    exact lands inv row.locationName row.kitId _ found named kit placed

/-- One accepted request keeps the keys unique exactly if its row lands apart. -/
private theorem keysUnique_step_iff (request : RowRequest) (unique : KeysUnique s)
    (accepted : Accepted engine s request) :
    KeysUnique (rowStep engine s request) ↔ LandsApart engine s request := by
  cases request with
  | create session places body => exact keysUnique_create_iff unique accepted
  | edit session places body => exact keysUnique_edit_iff unique accepted
  | delete session kitId location =>
      refine iff_of_true (keysUnique_iff.mpr ?_) trivial
      intro row member other present
      exact keysUnique_iff.mp unique row (mem_of_deleteInventory member) other
        (mem_of_deleteInventory present)
  | createKit session body =>
      refine iff_of_true (keysUnique_iff.mpr ?_) trivial
      change Apart SharesKey (createKit session s body).2.db.inventory
      rw [createKit_inventory]
      exact keysUnique_iff.mp unique

end Steps

/-- The administrator adds three units of the only kit at an address that is not looked up. -/
def addShelf (location name : String) : RowRequest :=
  .create administrator (fun _ => .failed "offline")
    ⟨.absent, .value location, .value name, .value 3, .value 1, .value true, false⟩

/-- From a table whose keys identify its rows, such as an empty one, they do so in every state of
a run of accepted requests exactly if every row that is created or edited lands apart. -/
theorem keys_unique_along_iff (engine : Engine) (s : State) (requests : List RowRequest)
    (start : KeysUnique s) (accepted : EachStep (rowStep engine) (Accepted engine) s requests) :
    Along (rowStep engine) KeysUnique s requests ↔
      EachStep (rowStep engine) (LandsApart engine) s requests := by
  refine along_iff_eachStep ?_ start accepted
  intro t request unique admitted
  exact keysUnique_step_iff request unique admitted

theorem one_shelf_has_its_keys :
    Along (rowStep .sqlite) KeysUnique (sampleShop .empty .empty)
      [addShelf "1 Main St" "Library"] := by
  have start : KeysUnique (sampleShop .empty .empty) := keysUnique_iff.mpr apart_empty
  have accepted : EachStep (rowStep .sqlite) (Accepted .sqlite) (sampleShop .empty .empty)
      [addShelf "1 Main St" "Library"] :=
    eachStep_cons.mpr ⟨by decide, eachStep_nil _ _⟩
  refine (keys_unique_along_iff .sqlite _ _ start accepted).mpr ?_
  refine eachStep_cons.mpr ⟨?_, eachStep_nil _ _⟩
  intro name kitId place _ _ _ row member
  cases member

/-- From an empty table, the same creation is accepted twice and leaves two rows with the same
keys. -/
theorem same_shelf_twice :
    (sampleShop .empty .empty).db.inventory.rows = [] ∧
      EachStep (rowStep .sqlite) (Accepted .sqlite) (sampleShop .empty .empty)
        [addShelf "1 Main St" "Library", addShelf "1 Main St" "Library"] ∧
      (run (rowStep .sqlite) (sampleShop .empty .empty)
        [addShelf "1 Main St" "Library", addShelf "1 Main St" "Library"]).db.inventory.rows =
        [⟨1, "1 Main St", "0,0", "Library", 3, 1⟩, ⟨2, "1 Main St", "0,0", "Library", 3, 1⟩] ∧
      ¬ KeysUnique (run (rowStep .sqlite) (sampleShop .empty .empty)
        [addShelf "1 Main St" "Library", addShelf "1 Main St" "Library"]) := by
  have rows : (run (rowStep .sqlite) (sampleShop .empty .empty)
      [addShelf "1 Main St" "Library", addShelf "1 Main St" "Library"]).db.inventory.rows =
      [⟨1, "1 Main St", "0,0", "Library", 3, 1⟩, ⟨2, "1 Main St", "0,0", "Library", 3, 1⟩] := by
    decide
  refine ⟨rfl, eachStep_cons.mpr ⟨by decide, eachStep_cons.mpr ⟨by decide, eachStep_nil _ _⟩⟩,
    rows, ?_⟩
  intro unique
  have equal := unique.location ⟨1, "1 Main St", "0,0", "Library", 3, 1⟩ (by rw [rows]; simp)
    ⟨2, "1 Main St", "0,0", "Library", 3, 1⟩ (by rw [rows]; simp) rfl rfl
  exact absurd equal (by decide)

end ProductSite.Stock.RowKeys
