/- Module: ProductSite/Backend/KitRoutes
   source: backend/app/routes/kit_routes.py, backend/app/schemas/kit_schema.py,
     backend/app/models/kits.py
   digest: The endpoints of the kits and of their four option tables, with what a deletion drags. -/

import ProductSite.Backend.PersonalRoutes

set_option autoImplicit false
set_option relaxedAutoImplicit false

namespace ProductSite.Backend.KitRoutes

open ProductSite.Foundation.KeyedTable (Table)
open ProductSite.Foundation.Wire (JsonField Reply)
open ProductSite.Backend.Models
open ProductSite.Backend.PersonalRoutes (existingOptions)

section Kits

/-- An entry of `inventories`, by the keys that the handler looks for. -/
structure InventoryData where
  location : JsonField String
  locationName : JsonField String
  quantity : JsonField Int

def InventoryData.complete (entry : InventoryData) : Bool :=
  entry.location.present && entry.locationName.present && entry.quantity.present

structure KitBody where
  name : JsonField String
  imageUrl : JsonField String
  price : JsonField ℚ
  description : JsonField String
  ageIds : JsonField (List Nat)
  categoryIds : JsonField (List Nat)
  gradeIds : JsonField (List Nat)
  themeIds : JsonField (List Nat)
  inventories : JsonField (List InventoryData)

/-- A null under a key of the schema is refused. -/
def KitBody.hasNull (body : KitBody) : Bool :=
  body.name.isNull || body.imageUrl.isNull || body.price.isNull || body.description.isNull ||
    body.ageIds.isNull || body.categoryIds.isNull || body.gradeIds.isNull || body.themeIds.isNull

/-- The options of a kit after `load_relationships`; a missing key leaves them as they are. -/
def loadOptions (options : Table KitOption.id) (ids : JsonField (List Nat)) (old : List Nat) :
    List Nat :=
  match ids.get with
  | none => old
  | some ids => existingOptions options ids

/-- `setattr` for each key of the loaded body. -/
def KitBody.applyTo (body : KitBody) (db : Database) (kit : Kit) : Kit where
  id := kit.id
  name := body.name.get.getD kit.name
  description := body.description.get.getD kit.description
  imageUrl := body.imageUrl.get.getD kit.imageUrl
  price := body.price.get.getD kit.price
  age := loadOptions db.ageOptions body.ageIds kit.age
  category := loadOptions db.categoryOptions body.categoryIds kit.category
  grade := loadOptions db.gradeOptions body.gradeIds kit.grade
  theme := loadOptions db.themeOptions body.themeIds kit.theme

def KitBody.hasRequired (body : KitBody) : Bool :=
  body.name.present && body.imageUrl.present && body.price.present && body.description.present

def newKit (body : KitBody) (db : Database) (id : Nat) : Kit :=
  body.applyTo db ⟨id, "", "", "", 0, [], [], [], []⟩

def withKits (s : State) (table : Table Kit.id) : State :=
  { s with db := { s.db with kits := table } }

/-- An object of the model `Inventory` in the session, before it is flushed. -/
structure PendingInventory where
  kitId : Nat
  location : Option String
  coordinates : Option String
  locationName : Option String
  quantity : Option Int

/-- The constructor call of the handler, which does not set the coordinates. -/
def newInventory (kitId : Nat) (entry : InventoryData) : PendingInventory where
  kitId := kitId
  location := entry.location.get
  coordinates := none
  locationName := entry.locationName.get
  quantity := entry.quantity.get

/-- The insertion of a row: only the quantity has a default, and no column may be null. -/
def PendingInventory.flush (table : Table Inventory.id) (row : PendingInventory) :
    Option (Table Inventory.id) :=
  match row.location, row.coordinates, row.locationName with
  | some location, some coordinates, some locationName =>
      some (table.insertNew
        (fun id => ⟨id, location, coordinates, locationName, row.quantity.getD 0, row.kitId⟩)
        (fun _ => rfl))
  | _, _, _ => none

def newInventories (kitId : Nat) (entries : List InventoryData) : List PendingInventory :=
  (entries.filter InventoryData.complete).map (newInventory kitId)

/-- The kit is committed before its inventories are added. -/
def createKit (session : Session) (s : State) (body : KitBody) : Reply Kit × State :=
  adminRequired session s fun _ =>
    if body.hasNull || !body.hasRequired then (.error 400 "Error creating kit" [], s)
    else
      let newKitId := s.db.kits.nextKey
      let stored := withKits s (s.db.kits.insertNew (newKit body s.db) (fun _ => rfl))
      match body.inventories.getD [] with
      | none => (.error 400 "Error creating kit" [], stored)
      | some entries =>
          match (newInventories newKitId entries).foldlM PendingInventory.flush
              stored.db.inventory with
          -- the rollback goes back to the first commit
          | none => (.error 400 "Error creating kit" [], stored)
          | some table => (.ok 201 (newKit body s.db newKitId), stored.saveInventoryTable table)

private theorem flush_newInventory (table : Table Inventory.id) (kitId : Nat)
    (entry : InventoryData) :
    (newInventory kitId entry).flush table = none := by
  unfold PendingInventory.flush
  split
  · rename_i filled _
    cases filled
  · rfl

/-- The second commit succeeds precisely if there is nothing to write. -/
private theorem flush_newInventories (table : Table Inventory.id) (kitId : Nat)
    (entries : List InventoryData) :
    (newInventories kitId entries).foldlM PendingInventory.flush table =
      if entries.any InventoryData.complete then none else some table := by
  induction entries with
  | nil => rfl
  | cons entry rest ih =>
      cases complete : entry.complete with
      | true =>
          have first : newInventories kitId (entry :: rest) =
              newInventory kitId entry :: newInventories kitId rest := by
            simp [newInventories, complete]
          rw [first, List.foldlM_cons, flush_newInventory]
          simp [complete]
      | false =>
          have skipped : newInventories kitId (entry :: rest) = newInventories kitId rest := by
            simp [newInventories, complete]
          rw [skipped, ih, List.any_cons, complete, Bool.false_or]

/-- An entry with all its keys makes the second commit fail, for no entry fills the column of the
coordinates. -/
theorem createKit_eq (session : Session) (s : State) (body : KitBody) :
    createKit session s body = adminRequired session s fun _ =>
      if body.hasNull || !body.hasRequired then (.error 400 "Error creating kit" [], s)
      else
        let stored := withKits s (s.db.kits.insertNew (newKit body s.db) (fun _ => rfl))
        match body.inventories.getD [] with
        | none => (.error 400 "Error creating kit" [], stored)
        | some entries =>
            if entries.any InventoryData.complete then (.error 400 "Error creating kit" [], stored)
            else (.ok 201 (newKit body s.db s.db.kits.nextKey), stored) := by
  unfold createKit
  congr 1
  funext _
  split
  · rfl
  · cases body.inventories.getD [] with
    | none => rfl
    | some entries =>
        simp only [flush_newInventories]
        cases entries.any InventoryData.complete with
        | true => rfl
        | false => rfl

/-- The handler queries the options once more, by the ids of the body itself. -/
def assignOptions (body : KitBody) (db : Database) (kit : Kit) : Kit :=
  { kit with
    age := loadOptions db.ageOptions body.ageIds kit.age
    category := loadOptions db.categoryOptions body.categoryIds kit.category
    grade := loadOptions db.gradeOptions body.gradeIds kit.grade
    theme := loadOptions db.themeOptions body.themeIds kit.theme }

/-- The `inventories` of the body are loaded, but no column takes them. -/
def updateKit (session : Session) (s : State) (id : Nat) (body : KitBody) : Reply Kit × State :=
  adminRequired session s fun _ =>
    match s.db.kits.get? id with
    | none => (.error 404 "Kit not found" [], s)
    | some kit =>
        if body.hasNull || body.inventories.isNull then
          (.error 400 "Error updating kit" [], s)
        else
          let updated := assignOptions body s.db (body.applyTo s.db kit)
          (.ok 200 updated, withKits s (s.db.kits.save updated))

private theorem loadOptions_twice (options : Table KitOption.id) (ids : JsonField (List Nat))
    (old : List Nat) :
    loadOptions options ids (loadOptions options ids old) = loadOptions options ids old := by
  cases ids <;> rfl

/-- The second assignment of the relationships repeats what the schema has loaded. -/
theorem assignOptions_applyTo (body : KitBody) (db : Database) (kit : Kit) :
    assignOptions body db (body.applyTo db kit) = body.applyTo db kit := by
  simp only [assignOptions, KitBody.applyTo, loadOptions_twice]

theorem updateKit_saves {session : Session} {s : State} {id user : Nat} {body : KitBody} {kit : Kit}
    (login : session.user = some user) (admin : isAdmin s.db user = true)
    (found : s.db.kits.get? id = some kit)
    (loads : (body.hasNull || body.inventories.isNull) = false) :
    updateKit session s id body =
      (.ok 200 (body.applyTo s.db kit), withKits s (s.db.kits.save (body.applyTo s.db kit))) := by
  simp only [updateKit, adminRequired, login, admin, if_true, found, loads, Bool.false_eq_true,
    if_false, assignOptions_applyTo]

/-- The row that a cart item or a purchase refers to holds the kit. -/
def heldBy (db : Database) (kitId : Nat) (inventoryId : Option Nat) : Bool :=
  inventoryId.any (fun id => (db.inventory.get? id).any (fun row => row.kitId = kitId))

/-- Reviews and cart items are not deleted with their kit, and their kit may not be null; only
the items of its inventories are deleted with these. -/
def blocksKit (db : Database) (kitId : Nat) : Bool :=
  db.reviews.rows.any (fun review => review.kitId = kitId) ||
    db.cartItems.rows.any (fun item => item.kitId = kitId && !heldBy db kitId item.inventoryId)

def releaseFavorite (kitId : Nat) (favorite : Favorite) : Favorite :=
  { favorite with kitId := favorite.kitId.filter (fun id => id ≠ kitId) }

def withoutKit (db : Database) (kitId : Nat) : Database :=
  { db with
    kits := db.kits.remove (fun kit => kit.id = kitId)
    inventory := db.inventory.remove (fun row => row.kitId = kitId)
    purchases := db.purchases.remove
      (fun purchase => purchase.kitId = kitId || heldBy db kitId purchase.inventoryId)
    cartItems := db.cartItems.remove (fun item => heldBy db kitId item.inventoryId)
    favorites := db.favorites.modify (releaseFavorite kitId) (fun _ => rfl) }

def deleteKit (session : Session) (s : State) (id : Nat) : Reply String × State :=
  adminRequired session s fun _ =>
    match s.db.kits.get? id with
    | none => (.error 404 "Kit not found" [], s)
    | some _ =>
        if blocksKit s.db id then (.raised, s)
        else (.ok 200 "Kit deleted", { s with db := withoutKit s.db id })

end Kits

section Options

inductive OptionKind where
  | age
  | category
  | grade
  | theme
  deriving DecidableEq

def OptionKind.label : OptionKind → String
  | .age => "Age"
  | .category => "Category"
  | .grade => "Grade"
  | .theme => "Theme"

def optionsOf (db : Database) : OptionKind → Table KitOption.id
  | .age => db.ageOptions
  | .category => db.categoryOptions
  | .grade => db.gradeOptions
  | .theme => db.themeOptions

def withOptions (db : Database) (kind : OptionKind) (table : Table KitOption.id) : Database :=
  match kind with
  | .age => { db with ageOptions := table }
  | .category => { db with categoryOptions := table }
  | .grade => { db with gradeOptions := table }
  | .theme => { db with themeOptions := table }

def optionTaken (engine : Engine) (options : Table KitOption.id) (name : String) : Bool :=
  (options.first (fun option => engine.sameText option.name name)).isSome

/-- The four handlers that create an option: none of them asks for a session. -/
def createOption (kind : OptionKind) (engine : Engine) (s : State) (name : JsonField String) :
    Reply KitOption × State :=
  match name.getD "" with
  | none => (.raised, s)
  | some text =>
      let options := optionsOf s.db kind
      if strip text = "" then (.error 400 "Name is required" [], s)
      else if optionTaken engine options (strip text) then
        (.error 400 (kind.label ++ " option already exists") [], s)
      else
        (.ok 201 ⟨options.nextKey, strip text⟩,
          { s with
            db := withOptions s.db kind
              (options.insertNew (fun id => ⟨id, strip text⟩) (fun _ => rfl)) })

def createAgeOption := createOption .age
def createCategoryOption := createOption .category
def createGradeOption := createOption .grade
def createThemeOption := createOption .theme

def detachKit (kind : OptionKind) (id : Nat) (kit : Kit) : Kit :=
  match kind with
  | .age => { kit with age := kit.age.filter (fun other => other ≠ id) }
  | .category => { kit with category := kit.category.filter (fun other => other ≠ id) }
  | .grade => { kit with grade := kit.grade.filter (fun other => other ≠ id) }
  | .theme => { kit with theme := kit.theme.filter (fun other => other ≠ id) }

theorem detachKit_id (kind : OptionKind) (id : Nat) (kit : Kit) :
    (detachKit kind id kit).id = kit.id := by
  cases kind <;> rfl

/-- Reviews are associated with ages only. -/
def detachReview (kind : OptionKind) (id : Nat) (review : Review) : Review :=
  match kind with
  | .age => { review with age := review.age.filter (fun other => other ≠ id) }
  | .category | .grade | .theme => review

private theorem detachReview_id (kind : OptionKind) (id : Nat) (review : Review) :
    (detachReview kind id review).id = review.id := by
  cases kind <;> rfl

/-- An option goes with its rows in the association tables. -/
def withoutOption (db : Database) (kind : OptionKind) (id : Nat) : Database :=
  withOptions
    { db with
      kits := db.kits.modify (detachKit kind id) (detachKit_id kind id)
      reviews := db.reviews.modify (detachReview kind id) (detachReview_id kind id) }
    kind ((optionsOf db kind).remove (fun option => option.id = id))

/-- The four handlers that delete an option: none of them asks for a session. -/
def deleteOption (kind : OptionKind) (s : State) (id : Nat) : Reply String × State :=
  match (optionsOf s.db kind).get? id with
  | none => (.error 404 (kind.label ++ " option not found") [], s)
  | some _ =>
      (.ok 200 (kind.label ++ " option deleted"), { s with db := withoutOption s.db kind id })

def deleteAgeOption := deleteOption .age
def deleteCategoryOption := deleteOption .category
def deleteGradeOption := deleteOption .grade
def deleteThemeOption := deleteOption .theme

end Options

/-- The requests to the kit endpoints. The listings of kits and options only read. -/
inductive KitRequest where
  | list
  | createKit (body : KitBody)
  | updateKit (id : Nat) (body : KitBody)
  | deleteKit (id : Nat)
  | createOption (kind : OptionKind) (name : JsonField String)
  | deleteOption (kind : OptionKind) (id : Nat)

structure KitCall where
  session : Session
  request : KitRequest

def kitStep (engine : Engine) (s : State) (call : KitCall) : State :=
  match call.request with
  | .list => s
  | .createKit body => (createKit call.session s body).2
  | .updateKit id body => (updateKit call.session s id body).2
  | .deleteKit id => (deleteKit call.session s id).2
  | .createOption .age name => (createAgeOption engine s name).2
  | .createOption .category name => (createCategoryOption engine s name).2
  | .createOption .grade name => (createGradeOption engine s name).2
  | .createOption .theme name => (createThemeOption engine s name).2
  | .deleteOption .age id => (deleteAgeOption s id).2
  | .deleteOption .category id => (deleteCategoryOption s id).2
  | .deleteOption .grade id => (deleteGradeOption s id).2
  | .deleteOption .theme id => (deleteThemeOption s id).2

section Cases

variable (engine : Engine) (session : Session) (s : State) (kind : OptionKind)

theorem kitStep_createOption (name : JsonField String) :
    kitStep engine s ⟨session, .createOption kind name⟩ = (createOption kind engine s name).2 := by
  cases kind <;> rfl

theorem kitStep_deleteOption (id : Nat) :
    kitStep engine s ⟨session, .deleteOption kind id⟩ = (deleteOption kind s id).2 := by
  cases kind <;> rfl

@[simp] theorem optionsOf_withOptions (db : Database) (table : Table KitOption.id) :
    optionsOf (withOptions db kind table) kind = table := by
  cases kind <;> rfl

theorem optionTaken_iff {options : Table KitOption.id} {name : String} :
    optionTaken engine options name = true ↔
      ∃ option ∈ options.rows, engine.sameText option.name name = true := by
  rw [optionTaken, Table.first, List.find?_isSome]

/-- The name is null or blank, or an option has it already. -/
def NameRefused (name : JsonField String) : Prop :=
  ∀ text, name.getD "" = some text → strip text = "" ∨
    ∃ option ∈ (optionsOf s.db kind).rows, engine.sameText option.name (strip text) = true

theorem createOption_cases (name : JsonField String) :
    (NameRefused engine s kind name ∧ (createOption kind engine s name).2 = s) ∨
    (¬ NameRefused engine s kind name ∧ ∃ text, (createOption kind engine s name).2 =
      { s with
        db := withOptions s.db kind
          ((optionsOf s.db kind).insertNew (fun id => ⟨id, text⟩) (fun _ => rfl)) }) := by
  unfold createOption NameRefused
  cases read : name.getD "" with
  | none => exact Or.inl ⟨nofun, rfl⟩
  | some text =>
      simp only [Option.some.injEq, forall_eq']
      by_cases blank : strip text = ""
      · rw [if_pos blank]
        exact Or.inl ⟨Or.inl blank, rfl⟩
      · rw [if_neg blank]
        split
        · rename_i taken
          exact Or.inl ⟨Or.inr ((optionTaken_iff engine).mp taken), rfl⟩
        · rename_i free
          refine Or.inr ⟨?_, strip text, rfl⟩
          rintro (empty | taken)
          · exact blank empty
          · exact free ((optionTaken_iff engine).mpr taken)

theorem deleteOption_cases (id : Nat) :
    ((optionsOf s.db kind).get? id = none ∧ (deleteOption kind s id).2 = s) ∨
    ∃ option, (optionsOf s.db kind).get? id = some option ∧
      (deleteOption kind s id).2 = { s with db := withoutOption s.db kind id } := by
  unfold deleteOption
  cases found : (optionsOf s.db kind).get? id with
  | none => exact Or.inl ⟨rfl, rfl⟩
  | some option => exact Or.inr ⟨option, rfl, rfl⟩

end Cases

/-- A kit request other than a deletion leaves all tables but the kits, the reviews and the
options alone. -/
def OptionFrame (s after : State) : Prop :=
  ∃ kits reviews ageOptions categoryOptions gradeOptions themeOptions, after =
    { s with db := { s.db with
      kits := kits, reviews := reviews, ageOptions := ageOptions
      categoryOptions := categoryOptions, gradeOptions := gradeOptions
      themeOptions := themeOptions } }

private theorem optionFrame_adminRequired {β : Type} {session : Session} {s : State}
    {handler : Nat → Reply β × State} (framed : ∀ user, OptionFrame s (handler user).2) :
    OptionFrame s (adminRequired session s handler).2 := by
  unfold adminRequired
  split
  · exact ⟨_, _, _, _, _, _, rfl⟩
  · split
    · exact framed _
    · exact ⟨_, _, _, _, _, _, rfl⟩

theorem kitStep_frame (engine : Engine) (s : State) (session : Session) (request : KitRequest)
    (other : ∀ id, request ≠ .deleteKit id) :
    OptionFrame s (kitStep engine s ⟨session, request⟩) := by
  cases request with
  | list => exact ⟨_, _, _, _, _, _, rfl⟩
  | createKit body =>
      change OptionFrame s (createKit session s body).2
      rw [createKit_eq]
      refine optionFrame_adminRequired fun _ => ?_
      split
      · exact ⟨_, _, _, _, _, _, rfl⟩
      · simp only
        split
        · exact ⟨_, _, _, _, _, _, rfl⟩
        · split <;> exact ⟨_, _, _, _, _, _, rfl⟩
  | updateKit id body =>
      refine optionFrame_adminRequired fun _ => ?_
      split
      · exact ⟨_, _, _, _, _, _, rfl⟩
      · split <;> exact ⟨_, _, _, _, _, _, rfl⟩
  | deleteKit id => exact absurd rfl (other id)
  | createOption kind name =>
      rw [kitStep_createOption]
      rcases createOption_cases engine s kind name with ⟨-, kept⟩ | ⟨-, text, created⟩
      · rw [kept]
        exact ⟨_, _, _, _, _, _, rfl⟩
      · rw [created]
        cases kind <;> exact ⟨_, _, _, _, _, _, rfl⟩
  | deleteOption kind id =>
      rw [kitStep_deleteOption]
      rcases deleteOption_cases s kind id with ⟨-, kept⟩ | ⟨option, -, deleted⟩
      · rw [kept]
        exact ⟨_, _, _, _, _, _, rfl⟩
      · rw [deleted]
        cases kind <;> exact ⟨_, _, _, _, _, _, rfl⟩

/-- The request is an administrator's, the kit exists, and nothing refers to it that would
have to stay. -/
def deletesKit (session : Session) (db : Database) (id : Nat) : Bool :=
  session.user.any (isAdmin db) && (db.kits.get? id).isSome && !blocksKit db id

theorem deleteKit_cases (session : Session) (s : State) (id : Nat) :
    (deletesKit session s.db id = false ∧ (deleteKit session s id).1.fetchOk = false ∧
      (deleteKit session s id).2 = s) ∨
    (deletesKit session s.db id = true ∧
      deleteKit session s id = (.ok 200 "Kit deleted", { s with db := withoutKit s.db id })) := by
  unfold deleteKit adminRequired deletesKit
  cases session.user with
  | none => exact Or.inl ⟨rfl, rfl, rfl⟩
  | some user =>
      cases admin : isAdmin s.db user with
      | false => simp [admin, adminRefusal_fetchOk]
      | true =>
          cases s.db.kits.get? id with
          | none => simp [admin, Reply.fetchOk, Reply.status]
          | some kit =>
              cases blocked : blocksKit s.db id with
              | true => simp [admin, Reply.fetchOk, Reply.status]
              | false => simp [admin]

/-- None of the kit endpoints writes the user table. -/
theorem kitStep_users (engine : Engine) (s : State) (call : KitCall) :
    (kitStep engine s call).db.users = s.db.users := by
  obtain ⟨session, request⟩ := call
  by_cases deletes : ∃ id, request = .deleteKit id
  · obtain ⟨id, rfl⟩ := deletes
    change (deleteKit session s id).2.db.users = s.db.users
    rcases deleteKit_cases session s id with ⟨-, -, kept⟩ | ⟨-, deleted⟩
    · rw [kept]
    · rw [deleted]
      rfl
  · obtain ⟨_, _, _, _, _, _, after⟩ :=
      kitStep_frame engine s session request fun id same => deletes ⟨id, same⟩
    rw [after]

end ProductSite.Backend.KitRoutes
