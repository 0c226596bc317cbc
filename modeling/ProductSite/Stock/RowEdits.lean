/- Module: ProductSite/Stock/RowEdits
   source: react-router-bootstrap-app/src/pages/InventoryPage.jsx,
     react-router-bootstrap-app/src/components/InventorySection.jsx,
     backend/app/routes/inventory_routes.py
   digest: An entry of a list that is edited and saved names its row by kit and location name.
     A save changes the row of the entry exactly if the name that is sent is still that of the
     row. -/

import ProductSite.Backend.Requests
import ProductSite.Stock.RowWrites
import ProductSite.Storefront.InventoryEditing

set_option autoImplicit false
set_option relaxedAutoImplicit false

namespace ProductSite.Stock.RowEdits

open ProductSite.Foundation.KeyedTable (Table)
open ProductSite.Foundation.Runs
open ProductSite.Backend.InventoryRoutes
open ProductSite.Backend.Models
open ProductSite.Backend.Requests (administrator shelf shelfOnly)
open ProductSite.Stock.RowWrites (editedInventory)
open ProductSite.Storefront.InventoryEditing

/-- No two rows of a kit have one name. -/
def NamesUnique (db : Database) : Prop :=
  ∀ row ∈ db.inventory.rows, ∀ other ∈ db.inventory.rows,
    row.kitId = other.kitId → row.locationName = other.locationName → row = other

instance (db : Database) : Decidable (NamesUnique db) := by
  unfold NamesUnique
  infer_instance

/-- The rows that a view has loaded: stored rows that it shows, with the kit nested into them. -/
def Loads (view : InventoryView) (db : Database) (rows : List Inventory) : Prop :=
  ∀ row ∈ rows, row ∈ db.inventory.rows ∧ view.Shows row ∧ (db.kits.get? row.kitId).isSome = true

def AdminSession (session : Session) (db : Database) : Prop :=
  ∃ user, session.user = some user ∧ isAdmin db user = true

def LookupsSucceed (places : String → PlacesReply) : Prop :=
  ∀ text, ∃ found, findAddress (places text) = .ok found

/-- The row of the entry has got the shown name and quantity, and the other rows are as they
were. -/
def WritesEntry (entry : InventoryEntry) (before after : Table Inventory.id) : Prop :=
  (∃ row, after.get? entry.id = some row ∧ row.locationName = entry.locationName ∧
    row.quantity = entry.quantity) ∧
  ∀ id, id ≠ entry.id → after.get? id = before.get? id

/-- An update is accepted, and writes the row of its entry alone. -/
def SavesItsRow (engine : Engine) (session : Session) (places : String → PlacesReply)
    (view : InventoryView) (s : Editing) : EditAction → Prop
  | .handleChange _ _ => True
  | .handleUpdate target =>
      ∀ entry, entryAt view s.entries target = some entry →
        let answer := handleUpdate engine session places view s.server entry
        answer.1.fetchOk = true ∧
          WritesEntry entry s.server.db.inventory answer.2.db.inventory

/-- The row has the name, and no row of its kit that the database reads before it does. -/
def FirstNamed (engine : Engine) (db : Database) (row : Inventory) (name : String) : Prop :=
  engine.sameText row.locationName name = true ∧
  ∃ before after, db.inventory.rows = before ++ row :: after ∧
    ∀ other ∈ before, other.kitId = row.kitId → engine.sameText other.locationName name = false

/-- The name that an update sends as the original one is that of the stored row. -/
def SendsItsName (engine : Engine) (view : InventoryView) (s : Editing) : EditAction → Prop
  | .handleChange _ _ => True
  | .handleUpdate target =>
      ∀ entry, entryAt view s.entries target = some entry →
        ∀ row, s.server.db.inventory.get? entry.id = some row →
          FirstNamed engine s.server.db row (sentName entry)

/-- What a run of edits keeps: the session is that of an administrator, and each entry has a
stored row with its kit. -/
structure Ready (session : Session) (view : InventoryView) (s : Editing) : Prop where
  admin : AdminSession session s.server.db
  stored : ∀ entry ∈ s.entries, ∃ row, s.server.db.inventory.get? entry.id = some row ∧
    row.kitId = entry.kitId ∧ view.Shows row ∧ (s.server.db.kits.get? row.kitId).isSome = true

section Updating

variable {engine : Engine} {session : Session} {places : String → PlacesReply}
  {view : InventoryView} {server : State} {entry : InventoryEntry}

/-- The row that the request is about is the first of its kit with the name that is sent. -/
private theorem editedInventory_payload_iff {db : Database} {row : Inventory}
    (kit : row.kitId = entry.kitId) :
    editedInventory engine db (payload view entry) = some row ↔
      FirstNamed engine db row (sentName entry) := by
  have test : ∀ other : Inventory,
      ((payload view entry).originalKitId.get == some other.kitId &&
        (payload view entry).originalLocationName.get.any
          (engine.sameText other.locationName)) = true ↔
      other.kitId = row.kitId ∧ engine.sameText other.locationName (sentName entry) = true := by
    intro other
    rw [Bool.and_eq_true, beq_iff_eq, kit]
    constructor
    · intro both
      exact ⟨(Option.some.inj both.1).symm, both.2⟩
    · intro both
      exact ⟨congrArg some both.1.symm, both.2⟩
  unfold editedInventory Table.first
  rw [List.find?_eq_some_iff_append, test row]
  constructor
  · intro found
    obtain ⟨⟨_, named⟩, before, after, split, earlier⟩ := found
    refine ⟨named, before, after, split, ?_⟩
    intro other member same
    have fails := earlier other member
    rw [Bool.not_eq_true', ← Bool.not_eq_true, test other] at fails
    exact Bool.eq_false_iff.mpr (fun named => fails ⟨same, named⟩)
  · intro first
    obtain ⟨named, before, after, split, earlier⟩ := first
    refine ⟨⟨rfl, named⟩, before, after, split, ?_⟩
    intro other member
    rw [Bool.not_eq_true', ← Bool.not_eq_true, test other]
    intro both
    rw [earlier other member both.1] at both
    cases both.2

private theorem kitId_of_editedInventory {db : Database} {inv : Inventory}
    (found : editedInventory engine db (payload view entry) = some inv) :
    inv.kitId = entry.kitId := by
  have matched := Table.of_first found
  rw [Bool.and_eq_true, beq_iff_eq] at matched
  exact (Option.some.inj matched.1).symm

private theorem handleUpdate_of_none (admin : AdminSession session server.db)
    (missing : editedInventory engine server.db (payload view entry) = none) :
    handleUpdate engine session places view server entry =
      (.error 404 "Inventory not found" [], server) := by
  obtain ⟨user, signed, allowed⟩ := admin
  unfold editedInventory at missing
  unfold handleUpdate editInventory adminRequired
  rw [signed]
  simp only [allowed, if_true]
  rw [missing]
  rfl

/-- The kit that is written is the one that the row has. -/
private theorem commitEdit_payload (engine : Engine) (server : State) {inv : Inventory}
    (kit : (payload view entry).kitId.getD inv.kitId = some inv.kitId)
    (location coordinates : String) :
    commitEdit engine server inv (payload view entry) (some location) coordinates =
      (.ok 200 inv.id, server.saveInventory
        ⟨inv.id, location, coordinates, entry.locationName, entry.quantity, inv.kitId⟩) := by
  unfold commitEdit
  rw [kit]
  exact if_pos (Or.inl rfl)

private theorem handleUpdate_of_found (admin : AdminSession session server.db)
    (lookups : LookupsSucceed places) {inv : Inventory}
    (found : editedInventory engine server.db (payload view entry) = some inv)
    (shows : view.Shows inv) :
    ∃ location coordinates, handleUpdate engine session places view server entry =
      (.ok 200 inv.id, server.saveInventory
        ⟨inv.id, location, coordinates, entry.locationName, entry.quantity, inv.kitId⟩) := by
  have kit : (payload view entry).kitId.getD inv.kitId = some inv.kitId := by
    cases view with
    | inventoryPage => rfl
    | inventorySection kitId => exact congrArg some shows.symm
  have committed := commitEdit_payload engine server kit
  obtain ⟨user, signed, admitted⟩ := admin
  unfold editedInventory at found
  unfold handleUpdate editInventory adminRequired
  rw [signed]
  simp only [admitted, if_true]
  rw [found]
  by_cases warehouse : lower entry.locationName = "warehouse"
  · refine ⟨"", "", ?_⟩
    rw [← committed]
    exact if_pos warehouse
  · obtain ⟨address, answered⟩ := lookups (printed (some entry.location))
    refine ⟨address.address, coordinatesOf address, ?_⟩
    rw [← committed]
    have looked : (payload view entry).location.getD inv.location = some entry.location := rfl
    refine (if_neg warehouse).trans ((if_neg nofun).trans ?_)
    rw [looked, answered]

end Updating

section Steps

variable {engine : Engine} {session : Session} {places : String → PlacesReply}
  {view : InventoryView} {s : Editing}

/-- The row that an update finds is of the kit of the entry, so the view shows it too. -/
private theorem Ready.shows_found (ready : Ready session view s) {entry : InventoryEntry}
    (member : entry ∈ s.entries) {inv : Inventory}
    (found : editedInventory engine s.server.db (payload view entry) = some inv) :
    view.Shows inv := by
  obtain ⟨row, _, kit, shows, _⟩ := ready.stored entry member
  have same : inv.kitId = row.kitId := (kitId_of_editedInventory found).trans kit.symm
  cases view with
  | inventoryPage => trivial
  | inventorySection kitId => exact same.trans shows

private theorem Ready.handleUpdate_found (ready : Ready session view s)
    (lookups : LookupsSucceed places)
    {entry : InventoryEntry} (member : entry ∈ s.entries) {inv : Inventory}
    (found : editedInventory engine s.server.db (payload view entry) = some inv) :
    ∃ location coordinates, handleUpdate engine session places view s.server entry =
      (.ok 200 inv.id, s.server.saveInventory
        ⟨inv.id, location, coordinates, entry.locationName, entry.quantity, inv.kitId⟩) := by
  exact handleUpdate_of_found ready.admin lookups found (ready.shows_found member found)

/-- A save of a row with its kit keeps the rows of all entries. -/
theorem Ready.saved (ready : Ready session view s) {inv : Inventory}
    (inside : s.server.db.inventory.get? inv.id = some inv) (location coordinates name : String)
    (quantity : Int) :
    Ready session view ⟨s.entries, s.server.saveInventory
      ⟨inv.id, location, coordinates, name, quantity, inv.kitId⟩⟩ := by
  refine ⟨ready.admin, ?_⟩
  intro entry listed
  obtain ⟨row, held, kit, shown, nested⟩ := ready.stored entry listed
  have read := Table.get?_save s.server.db.inventory
    ⟨inv.id, location, coordinates, name, quantity, inv.kitId⟩ entry.id
  by_cases same : entry.id = inv.id
  · have equal : row = inv := by
      rw [same, inside] at held
      exact (Option.some.inj held).symm
    subst equal
    rw [if_pos same, held] at read
    refine ⟨_, read, kit, ?_, nested⟩
    cases view with
    | inventoryPage => trivial
    | inventorySection kitId => exact shown
  · rw [if_neg same] at read
    exact ⟨row, read.trans held, kit, shown, nested⟩

theorem Ready.step (lookups : LookupsSucceed places) (ready : Ready session view s)
    (action : EditAction) : Ready session view (editStep engine session places view s action) := by
  cases action with
  | handleChange target change =>
      refine ⟨ready.admin, ?_⟩
      intro entry member
      obtain ⟨old, present, sameId, sameKit⟩ := mem_handleChange member
      rw [← sameId, ← sameKit]
      exact ready.stored old present
  | handleUpdate target =>
      simp only [editStep]
      split
      · exact ready
      · rename_i entry taken
        cases found : editedInventory engine s.server.db (payload view entry) with
        | none =>
            rw [handleUpdate_of_none ready.admin found]
            exact ready
        | some inv =>
            obtain ⟨location, coordinates, answer⟩ :=
              ready.handleUpdate_found lookups (mem_of_entryAt taken) found
            rw [answer]
            exact ready.saved (Table.get?_of_first found) _ _ _ _

/-- A save to another row than that of the entry would have to leave that row as it was, with the
name that the row of the entry has. -/
private theorem writesEntry_save_iff {db : Database} (unique : NamesUnique db)
    {entry : InventoryEntry} {row inv : Inventory} (held : db.inventory.get? entry.id = some row)
    (inside : db.inventory.get? inv.id = some inv) (kit : inv.kitId = row.kitId)
    (location coordinates : String) :
    WritesEntry entry db.inventory (db.inventory.save
      ⟨inv.id, location, coordinates, entry.locationName, entry.quantity, inv.kitId⟩) ↔
      inv = row := by
  have read := Table.get?_save db.inventory
    ⟨inv.id, location, coordinates, entry.locationName, entry.quantity, inv.kitId⟩
  constructor
  · intro writes
    obtain ⟨⟨now, after, named, _⟩, others⟩ := writes
    by_cases same : inv.id = entry.id
    · rw [same, held] at inside
      exact (Option.some.inj inside).symm
    · have unchanged := (read inv.id).symm.trans (others inv.id same)
      rw [if_pos rfl, inside] at unchanged
      have invName : entry.locationName = inv.locationName :=
        congrArg Inventory.locationName (Option.some.inj unchanged)
      have kept := (read entry.id).symm.trans after
      rw [if_neg (Ne.symm same), held] at kept
      have rowName : row.locationName = entry.locationName := by
        rw [Option.some.inj kept, named]
      exact unique inv (Table.get?_eq_some_iff.mp inside).1 row
        (Table.get?_eq_some_iff.mp held).1 kit (invName.symm.trans rowName.symm)
  · intro equal
    subst equal
    have same : entry.id = inv.id := (Table.key_of_get? held).symm
    refine ⟨⟨⟨inv.id, location, coordinates, entry.locationName, entry.quantity, inv.kitId⟩,
      (read entry.id).trans ?_, rfl, rfl⟩, ?_⟩
    · rw [if_pos same, held]
      rfl
    · intro id other
      exact (read id).trans (if_neg (fun equal => other (equal.trans same.symm)))

/-- The condition on the stored row of an entry says that the request finds that row. -/
private theorem forall_firstNamed_iff {db : Database} {entry : InventoryEntry} {row : Inventory}
    (held : db.inventory.get? entry.id = some row) (kit : row.kitId = entry.kitId) :
    (∀ other, db.inventory.get? entry.id = some other →
      FirstNamed engine db other (sentName entry)) ↔
      editedInventory engine db (payload view entry) = some row := by
  rw [editedInventory_payload_iff kit]
  constructor
  · intro each
    exact each row held
  · intro first other read
    rw [held] at read
    cases read
    exact first

private theorem savesItsRow_iff (lookups : LookupsSucceed places) (ready : Ready session view s)
    (unique : NamesUnique s.server.db) (action : EditAction) :
    SavesItsRow engine session places view s action ↔ SendsItsName engine view s action := by
  cases action with
  | handleChange target change => exact Iff.rfl
  | handleUpdate target =>
      refine forall_congr' (fun entry => forall_congr' (fun taken => ?_))
      have member := mem_of_entryAt taken
      obtain ⟨row, held, kit, _, _⟩ := ready.stored entry member
      rw [forall_firstNamed_iff held kit]
      cases found : editedInventory engine s.server.db (payload view entry) with
      | none =>
          rw [handleUpdate_of_none ready.admin found]
          constructor
          · intro saves
            cases saves.1
          · intro impossible
            cases impossible
      | some inv =>
          obtain ⟨location, coordinates, answer⟩ := ready.handleUpdate_found lookups member found
          have sameKit := (kitId_of_editedInventory found).trans kit.symm
          have written := writesEntry_save_iff unique held (Table.get?_of_first found) sameKit
            location coordinates
          rw [answer, Option.some.injEq]
          constructor
          · intro saves
            exact written.mp saves.2
          · intro equal
            exact ⟨rfl, written.mpr equal⟩

end Steps

private theorem ready_opened {session : Session} {view : InventoryView} {server : State}
    {rows : List Inventory} (admin : AdminSession session server.db)
    (loads : Loads view server.db rows) :
    Ready session view (Editing.opened view server rows) := by
  refine ⟨admin, ?_⟩
  intro entry member
  obtain ⟨row, present, rfl⟩ := List.mem_map.mp member
  obtain ⟨inTable, shows, nested⟩ := loads row present
  exact ⟨row, Table.get?_of_mem inTable, rfl, shows, nested⟩

section Samples

/-- The places service finds one address, whatever it is asked for. -/
def mainStreet (_ : String) : PlacesReply :=
  .answered (some "OK") [⟨some "Main St", some "0", some "0"⟩]

private theorem mainStreet_succeeds : LookupsSucceed mainStreet := fun _ => ⟨_, rfl⟩

/-- A view of the only row of a shop with three units of its only kit. -/
def openedShelf (view : InventoryView) : Editing := .opened view (shelfOnly 3) [shelf 3]

private theorem administrator_admitted : AdminSession administrator (shelfOnly 3).db :=
  ⟨2, rfl, by decide⟩

private theorem loads_shelf {view : InventoryView} (shows : view.Shows (shelf 3)) :
    Loads view (shelfOnly 3).db [shelf 3] := by
  intro row member
  cases List.mem_singleton.mp member
  exact ⟨List.mem_singleton.mpr rfl, shows, by decide⟩

end Samples

/-- In a run that keeps the names of each kit apart, the updates save the rows of their entries
exactly if each of them sends the name that the row has. -/
theorem updates_save_their_rows_iff (engine : Engine) (session : Session)
    (places : String → PlacesReply) (view : InventoryView) (server : State)
    (rows : List Inventory) (actions : List EditAction)
    (admin : AdminSession session server.db) (lookups : LookupsSucceed places)
    (loads : Loads view server.db rows)
    (unique : EachStep (editStep engine session places view)
      (fun s _ => NamesUnique s.server.db) (Editing.opened view server rows) actions) :
    EachStep (editStep engine session places view) (SavesItsRow engine session places view)
        (Editing.opened view server rows) actions ↔
      EachStep (editStep engine session places view) (SendsItsName engine view)
        (Editing.opened view server rows) actions := by
  have keeps : ∀ s action, Ready session view s →
      Ready session view (editStep engine session places view s action) := by
    intro s action ready
    exact ready.step lookups action
  have ready := along_of_kept keeps (ready_opened admin loads) actions
  refine eachStep_congr_of ?_ (ready.eachStep.and unique)
  intro s action here
  exact savesItsRow_iff lookups here.1 here.2 action

/-- The quantity of a row is saved under the name with which it was loaded. -/
theorem new_quantity_is_saved :
    EachStep (editStep .sqlite administrator mainStreet .inventoryPage)
      (SavesItsRow .sqlite administrator mainStreet .inventoryPage) (openedShelf .inventoryPage)
      [.handleChange 1 (.quantity 5), .handleUpdate 1] := by
  refine (updates_save_their_rows_iff .sqlite administrator mainStreet .inventoryPage (shelfOnly 3)
    [shelf 3] _ administrator_admitted mainStreet_succeeds (loads_shelf trivial) ?_).mpr ?_
  · exact eachStep_cons.mpr ⟨by decide, eachStep_cons.mpr ⟨by decide, eachStep_nil _ _⟩⟩
  · refine eachStep_cons.mpr ⟨trivial, eachStep_cons.mpr ⟨?_, eachStep_nil _ _⟩⟩
    intro entry taken row held
    cases taken
    cases held
    refine ⟨by decide, [], [], rfl, ?_⟩
    intro other member
    cases member

/-- Both lists lose a new name. InventoryPage saves the first one and goes on sending the name it
loaded, so that the second one is refused; InventorySection sends the new name as the original
one, so that already the first is refused. The names stay unique throughout. -/
theorem second_name_is_refused :
    (AdminSession administrator (shelfOnly 3).db ∧ LookupsSucceed mainStreet ∧
      Loads .inventoryPage (shelfOnly 3).db [shelf 3] ∧
      Loads (.inventorySection 1) (shelfOnly 3).db [shelf 3]) ∧
    (EachStep (editStep .sqlite administrator mainStreet .inventoryPage)
        (fun s _ => NamesUnique s.server.db) (openedShelf .inventoryPage)
        [.handleChange 1 (.locationName "Annex"), .handleUpdate 1,
          .handleChange 1 (.locationName "Hall"), .handleUpdate 1] ∧
      ¬ EachStep (editStep .sqlite administrator mainStreet .inventoryPage)
        (SavesItsRow .sqlite administrator mainStreet .inventoryPage) (openedShelf .inventoryPage)
        [.handleChange 1 (.locationName "Annex"), .handleUpdate 1,
          .handleChange 1 (.locationName "Hall"), .handleUpdate 1]) ∧
    (EachStep (editStep .sqlite administrator mainStreet (.inventorySection 1))
        (fun s _ => NamesUnique s.server.db) (openedShelf (.inventorySection 1))
        [.handleChange 0 (.locationName "Annex"), .handleUpdate 0] ∧
      ¬ EachStep (editStep .sqlite administrator mainStreet (.inventorySection 1))
        (SavesItsRow .sqlite administrator mainStreet (.inventorySection 1))
        (openedShelf (.inventorySection 1))
        [.handleChange 0 (.locationName "Annex"), .handleUpdate 0]) := by
  refine ⟨⟨administrator_admitted, mainStreet_succeeds, loads_shelf trivial, loads_shelf rfl⟩,
    ⟨?_, ?_⟩, ?_, ?_⟩
  · exact eachStep_cons.mpr ⟨by decide, eachStep_cons.mpr ⟨by decide,
      eachStep_cons.mpr ⟨by decide, eachStep_cons.mpr ⟨by decide, eachStep_nil _ _⟩⟩⟩⟩
  · intro each
    have last := (eachStep_cons.mp (eachStep_cons.mp (eachStep_cons.mp
      (eachStep_cons.mp each).2).2).2).1
    have refused := (last ⟨1, 1, "1 Main St", "Hall", 3, some "Library"⟩ (by decide)).1
    revert refused
    decide
  · exact eachStep_cons.mpr ⟨by decide, eachStep_cons.mpr ⟨by decide, eachStep_nil _ _⟩⟩
  · intro each
    have last := (eachStep_cons.mp (eachStep_cons.mp each).2).1
    have refused := (last ⟨1, 1, "1 Main St", "Annex", 3, none⟩ (by decide)).1
    revert refused
    decide

end ProductSite.Stock.RowEdits
