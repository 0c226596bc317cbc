/- Module: ProductSite/Storefront/InventoryEditing
   source: react-router-bootstrap-app/src/pages/InventoryPage.jsx,
     react-router-bootstrap-app/src/components/InventorySection.jsx,
     backend/app/schemas/inventory_schema.py
   digest: The two lists in which an administrator edits inventory rows, and the requests that
     save an entry of them. -/

import ProductSite.Backend.InventoryRoutes

set_option autoImplicit false
set_option relaxedAutoImplicit false

namespace ProductSite.Storefront.InventoryEditing

open ProductSite.Foundation.Wire (Reply)
open ProductSite.Backend.InventoryRoutes
open ProductSite.Backend.Models

/-- An entry of a list, with the id of the kit that is nested into it. Only InventoryPage adds
the name with which the row was loaded. -/
structure InventoryEntry where
  id : Nat
  kitId : Nat
  location : String
  locationName : String
  quantity : Int
  originalLocationName : Option String
  deriving DecidableEq

/-- The list of all rows, and the list of the rows of one kit. -/
inductive InventoryView where
  | inventoryPage
  | inventorySection (kitId : Nat)
  deriving DecidableEq

def loadedEntry (view : InventoryView) (row : Inventory) : InventoryEntry where
  id := row.id
  kitId := row.kitId
  location := row.location
  locationName := row.locationName
  quantity := row.quantity
  originalLocationName :=
    match view with
    | .inventoryPage => some row.locationName
    | .inventorySection _ => none

/-- The row may be in the list of the view. -/
def InventoryView.Shows (view : InventoryView) (row : Inventory) : Prop :=
  match view with
  | .inventoryPage => True
  | .inventorySection kitId => row.kitId = kitId

/-- What the form fields of an entry change. -/
inductive FieldChange where
  | locationName (value : String)
  | quantity (value : Int)
  deriving DecidableEq

/-- The original name stays what it was. -/
def FieldChange.apply (entry : InventoryEntry) : FieldChange → InventoryEntry
  | .locationName value => { entry with locationName := value }
  | .quantity value => { entry with quantity := value }

/-- InventoryPage looks for the id of the row, InventorySection for the index of the entry. -/
def handleChange (view : InventoryView) (entries : List InventoryEntry) (target : Nat)
    (change : FieldChange) : List InventoryEntry :=
  match view with
  | .inventoryPage =>
      entries.map (fun entry => if entry.id = target then change.apply entry else entry)
  | .inventorySection _ => entries.modify target change.apply

def entryAt (view : InventoryView) (entries : List InventoryEntry) (target : Nat) :
    Option InventoryEntry :=
  match view with
  | .inventoryPage => entries.find? (fun entry => entry.id = target)
  | .inventorySection _ => entries[target]?

/-- `inv.original_location_name || inv.location_name` in InventoryPage, and the name as it is
shown in InventorySection. -/
def sentName (entry : InventoryEntry) : String :=
  (entry.originalLocationName.filter (fun name => name ≠ "")).getD entry.locationName

/-- The schema does not dump `kit_id`, so InventoryPage sends none. -/
def payload (view : InventoryView) (entry : InventoryEntry) : EditInventoryBody where
  originalKitId := .value entry.kitId
  originalLocationName := .value (sentName entry)
  kitId :=
    match view with
    | .inventoryPage => .absent
    | .inventorySection kitId => .value kitId
  locationName := .value entry.locationName
  quantity := .value entry.quantity
  location := .value entry.location
  noAddressLookup := .absent

def handleUpdate (engine : Engine) (session : Session) (places : String → PlacesReply)
    (view : InventoryView) (server : State) (entry : InventoryEntry) : Reply Nat × State :=
  editInventory engine session places server (payload view entry)

/-- The list of the client and the state of the server. -/
structure Editing where
  entries : List InventoryEntry
  server : State

def Editing.opened (view : InventoryView) (server : State) (rows : List Inventory) : Editing :=
  ⟨rows.map (loadedEntry view), server⟩

inductive EditAction where
  | handleChange (target : Nat) (change : FieldChange)
  | handleUpdate (target : Nat)
  deriving DecidableEq

/-- The answer to an update is shown in an alert; the list stays as it is. -/
def editStep (engine : Engine) (session : Session) (places : String → PlacesReply)
    (view : InventoryView) (s : Editing) : EditAction → Editing
  | .handleChange target change =>
      { s with entries := handleChange view s.entries target change }
  | .handleUpdate target =>
      match entryAt view s.entries target with
      | none => s
      | some entry =>
          { s with server := (handleUpdate engine session places view s.server entry).2 }

/-- A change keeps which rows the entries are for. -/
theorem mem_handleChange {view : InventoryView} {entries : List InventoryEntry} {target : Nat}
    {change : FieldChange} {entry : InventoryEntry}
    (member : entry ∈ handleChange view entries target change) :
    ∃ old ∈ entries, old.id = entry.id ∧ old.kitId = entry.kitId := by
  have kept : ∀ old : InventoryEntry, (change.apply old).id = old.id ∧
      (change.apply old).kitId = old.kitId := by
    intro old
    cases change <;> exact ⟨rfl, rfl⟩
  cases view with
  | inventoryPage =>
      obtain ⟨old, present, rfl⟩ := List.mem_map.mp member
      refine ⟨old, present, ?_⟩
      split
      · exact ⟨(kept old).1.symm, (kept old).2.symm⟩
      · exact ⟨rfl, rfl⟩
  | inventorySection kitId =>
      obtain ⟨i, bound, same⟩ := List.mem_iff_getElem.mp member
      have inside : i < entries.length := by
        rw [handleChange, List.length_modify] at bound
        exact bound
      refine ⟨entries[i], List.getElem_mem inside, ?_⟩
      have read : (entries.modify target change.apply)[i]? = some entry :=
        List.getElem?_eq_some_iff.mpr ⟨bound, same⟩
      rw [List.getElem?_modify, List.getElem?_eq_getElem inside] at read
      cases read
      split
      · exact ⟨(kept _).1.symm, (kept _).2.symm⟩
      · exact ⟨rfl, rfl⟩

theorem mem_of_entryAt {view : InventoryView} {entries : List InventoryEntry} {target : Nat}
    {entry : InventoryEntry} (found : entryAt view entries target = some entry) :
    entry ∈ entries := by
  cases view with
  | inventoryPage => exact List.mem_of_find?_eq_some found
  | inventorySection kitId => exact List.mem_of_getElem? found

end ProductSite.Storefront.InventoryEditing
