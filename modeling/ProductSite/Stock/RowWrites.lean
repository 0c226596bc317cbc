/- Module: ProductSite/Stock/RowWrites
   source: backend/app/routes/inventory_routes.py, backend/app/routes/kit_routes.py
   digest: The requests that create, edit and delete inventory rows, and the row that each
     accepted one writes. -/

import ProductSite.Backend.KitRoutes
import ProductSite.Foundation.Clashes
import ProductSite.Foundation.Runs

set_option autoImplicit false
set_option relaxedAutoImplicit false

namespace ProductSite.Stock.RowWrites

open ProductSite.Foundation.Clashes
open ProductSite.Foundation.KeyedTable (Table)
open ProductSite.Foundation.Wire (JsonField Reply)
open ProductSite.Backend.InventoryRoutes
open ProductSite.Backend.KitRoutes
open ProductSite.Backend.Models

/-- The requests that write rows, other than their quantities. -/
inductive RowRequest where
  | create (session : Session) (places : String → PlacesReply) (body : CreateInventoryBody)
  | edit (session : Session) (places : String → PlacesReply) (body : EditInventoryBody)
  | delete (session : Session) (kitId : Option Nat) (location : Option String)
  | createKit (session : Session) (body : KitBody)

def rowStep (engine : Engine) (s : State) : RowRequest → State
  | .create session places body => (createInventory engine session places s body).2
  | .edit session places body => (editInventory engine session places s body).2
  | .delete session kitId location => (deleteInventory engine session s kitId location).2
  | .createKit session body => (createKit session s body).2

def Accepted (engine : Engine) (s : State) : RowRequest → Prop
  | .create session places body =>
      (createInventory engine session places s body).1.fetchOk = true
  | .edit session places body => (editInventory engine session places s body).1.fetchOk = true
  | .delete session kitId location =>
      (deleteInventory engine session s kitId location).1.fetchOk = true
  | .createKit session body => (createKit session s body).1.fetchOk = true

instance (engine : Engine) (s : State) (request : RowRequest) :
    Decidable (Accepted engine s request) := by
  cases request <;> exact instDecidableEqBool _ _

/-- The address and the coordinates for a location name and a location of the request: none for
the warehouse, as they are without a lookup, or those of the place that is found. -/
def placeOf (places : String → PlacesReply) (name : String) (location : Option String)
    (noLookup : Bool) : Option (String × String) :=
  if lower name = "warehouse" then some ("", "")
  else if noLookup then location.map (fun text => (text, "0,0"))
  else
    match findAddress (places (printed location)) with
    | .error _ => none
    | .ok found => some (found.address, coordinatesOf found)

/-- The row that an edit is about. -/
def editedInventory (engine : Engine) (db : Database) (body : EditInventoryBody) :
    Option Inventory :=
  db.inventory.first (fun row => body.originalKitId.get == some row.kitId &&
    body.originalLocationName.get.any (engine.sameText row.locationName))

/-- `no_address_lookup` is given and true. -/
def skipsLookup (field : JsonField Bool) : Bool := field.get = some true

private theorem findAddress_error {β : Type} {reply : PlacesReply} {status : Nat} {message : String}
    (failed : findAddress reply = .error (status, message)) :
    (Reply.error status message [] : Reply β).fetchOk = false := by
  unfold findAddress at failed
  split at failed
  · cases failed
    rfl
  · split at failed
    · split at failed <;> cases failed <;> rfl
    · cases failed
      rfl

section Creating

variable {engine : Engine} {session : Session} {places : String → PlacesReply} {s : State}

private theorem storeInventory_accepted (body : CreateInventoryBody) (location : Option String)
    (coordinates : String) (lookupKey : Bool) :
    (storeInventory engine s body location coordinates lookupKey).1.fetchOk = true →
    ∃ row table, (storeInventory engine s body location coordinates lookupKey).2 =
        s.saveInventoryTable table ∧ Adds s.db.inventory table row ∧
      body.locationName.get = some row.locationName ∧ body.kitId.get = some row.kitId ∧
      location = some row.location ∧ coordinates = row.coordinates := by
  unfold storeInventory
  split
  · nofun
  · split
    · rename_i place name kitId named kit
      split
      · simp only
        split
        · exact fun _ => ⟨_, _, rfl, adds_insertNew (fun _ => rfl), named, kit, rfl, rfl⟩
        · split
          · nofun
          · rename_i table stored
            exact fun _ => ⟨_, table, rfl, adds_insert? stored, named, kit, rfl, rfl⟩
      · nofun
    · nofun

/-- The creation left the state with the row that the body and the lookup describe. -/
def Creates (places : String → PlacesReply) (s after : State) (body : CreateInventoryBody) :
    Prop :=
  ∃ row table, after = s.saveInventoryTable table ∧ Adds s.db.inventory table row ∧
    body.locationName.get = some row.locationName ∧ body.kitId.get = some row.kitId ∧
    placeOf places row.locationName body.location.get (skipsLookup body.noAddressLookup) =
      some (row.location, row.coordinates)

/-- The name that the branches test is the stored one, for a missing name is not stored. -/
private theorem creates_storeInventory {body : CreateInventoryBody} {name : String}
    (read : body.locationName.getD "" = some name) {location : Option String}
    {coordinates : String} {lookupKey : Bool}
    (placed : ∀ text, location = some text → placeOf places name body.location.get
      (skipsLookup body.noAddressLookup) = some (text, coordinates))
    (accepted : (storeInventory engine s body location coordinates lookupKey).1.fetchOk = true) :
    Creates places s (storeInventory engine s body location coordinates lookupKey).2 body := by
  obtain ⟨row, table, after, adds, named, kit, rfl, rfl⟩ :=
    storeInventory_accepted body location coordinates lookupKey accepted
  have same : name = row.locationName := by
    cases field : body.locationName with
    | absent => rw [field] at named; cases named
    | null => rw [field] at named; cases named
    | value text =>
        rw [field] at named read
        exact (Option.some.inj read).symm.trans (Option.some.inj named)
  exact ⟨row, table, after, adds, named, kit, same ▸ placed row.location rfl⟩

theorem creates_of_accepted (body : CreateInventoryBody) :
    (createInventory engine session places s body).1.fetchOk = true →
      Creates places s (createInventory engine session places s body).2 body := by
  unfold createInventory adminRequired
  split
  · nofun
  · split
    · cases read : body.locationName.getD "" with
      | none => nofun
      | some name =>
          simp only
          split
          · rename_i warehouse
            refine creates_storeInventory read ?_
            rintro text ⟨⟩
            rw [placeOf, if_pos warehouse]
          · rename_i elsewhere
            split
            · nofun
            · split
              · rename_i skips
                refine creates_storeInventory read ?_
                intro text given
                have skipped : skipsLookup body.noAddressLookup = true := decide_eq_true skips
                rw [placeOf, if_neg elsewhere, skipped, given]
                rfl
              · rename_i looksUp
                have looked : skipsLookup body.noAddressLookup = false :=
                  decide_eq_false looksUp
                cases answered : findAddress (places (printed body.location.get)) with
                | error failure =>
                    intro accepted
                    rw [findAddress_error answered] at accepted
                    cases accepted
                | ok found =>
                    refine creates_storeInventory read ?_
                    rintro text ⟨⟩
                    rw [placeOf, if_neg elsewhere, looked, answered]
                    rfl
    · intro accepted
      rw [adminRefusal_fetchOk] at accepted
      cases accepted

end Creating

section Editing

variable {engine : Engine} {session : Session} {places : String → PlacesReply} {s : State}

/-- The edit wrote back the row that it is about, with what the body and the lookup change. -/
def Edits (engine : Engine) (places : String → PlacesReply) (s after : State)
    (body : EditInventoryBody) : Prop :=
  ∃ inv row, editedInventory engine s.db body = some inv ∧ after = s.saveInventory row ∧
    row.id = inv.id ∧ body.kitId.getD inv.kitId = some row.kitId ∧
    body.locationName.getD inv.locationName = some row.locationName ∧
    placeOf places (body.locationName.get.getD "") (body.location.getD inv.location)
      (skipsLookup body.noAddressLookup) = some (row.location, row.coordinates)

private theorem edits_commitEdit {inv : Inventory} {body : EditInventoryBody}
    (found : editedInventory engine s.db body = some inv) {location : Option String}
    {coordinates : String}
    (placed : ∀ text, location = some text → placeOf places (body.locationName.get.getD "")
      (body.location.getD inv.location) (skipsLookup body.noAddressLookup) =
        some (text, coordinates)) :
    (commitEdit engine s inv body location coordinates).1.fetchOk = true →
      Edits engine places s (commitEdit engine s inv body location coordinates).2 body := by
  unfold commitEdit
  split
  · rename_i kitId name quantity text kit named _
    split
    · exact fun _ => ⟨inv, _, found, rfl, rfl, kit, named, placed text rfl⟩
    · nofun
  · nofun

theorem edits_of_accepted (body : EditInventoryBody) :
    (editInventory engine session places s body).1.fetchOk = true →
      Edits engine places s (editInventory engine session places s body).2 body := by
  unfold editInventory adminRequired
  split
  · nofun
  · split
    · simp only
      split
      · nofun
      · split
        · nofun
        · rename_i inv located
          have found : editedInventory engine s.db body = some inv := located
          split
          · rename_i warehouse
            refine edits_commitEdit found ?_
            rintro text ⟨⟩
            rw [placeOf, if_pos warehouse]
          · rename_i elsewhere
            split
            · rename_i skips
              refine edits_commitEdit found ?_
              intro text given
              have skipped : skipsLookup body.noAddressLookup = true := decide_eq_true skips
              rw [placeOf, if_neg elsewhere, skipped, given]
              rfl
            · rename_i looksUp
              have looked : skipsLookup body.noAddressLookup = false := decide_eq_false looksUp
              cases answered : findAddress (places (printed (body.location.getD inv.location)))
              with
              | error failure =>
                  intro accepted
                  rw [findAddress_error answered] at accepted
                  cases accepted
              | ok address =>
                  refine edits_commitEdit found ?_
                  rintro text ⟨⟩
                  rw [placeOf, if_neg elsewhere, looked, answered]
                  rfl
    · intro accepted
      rw [adminRefusal_fetchOk] at accepted
      cases accepted

end Editing

/-- A deletion leaves only rows that were there. -/
theorem mem_of_deleteInventory {engine : Engine} {session : Session} {s : State}
    {kitId : Option Nat} {location : Option String} {row : Inventory}
    (member : row ∈ (deleteInventory engine session s kitId location).2.db.inventory.rows) :
    row ∈ s.db.inventory.rows := by
  unfold deleteInventory adminRequired at member
  split at member
  · exact member
  · split at member
    · split at member
      · exact member
      · exact (Table.mem_remove.mp member).1
    · exact member

/-- The inventories of a new kit are not stored. -/
theorem createKit_inventory (session : Session) (s : State) (body : KitBody) :
    (createKit session s body).2.db.inventory = s.db.inventory := by
  have other : ∀ id, KitRequest.createKit body ≠ .deleteKit id := nofun
  obtain ⟨_, _, _, _, _, _, after⟩ := kitStep_frame .sqlite s session (.createKit body) other
  exact congrArg (·.db.inventory) after

end ProductSite.Stock.RowWrites
