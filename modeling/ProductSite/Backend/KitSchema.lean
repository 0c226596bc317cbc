/- Module: ProductSite/Backend/KitSchema
   source: backend/app/schemas/kit_schema.py, backend/app/routes/kit_routes.py
   digest: The JSON of a kit as the schema dumps and loads it, and the two endpoints of one kit. -/

import ProductSite.Backend.KitRoutes
import ProductSite.Backend.Listings

set_option autoImplicit false
set_option relaxedAutoImplicit false

namespace ProductSite.Backend.KitSchema

open ProductSite.Foundation.KeyedTable (Table)
open ProductSite.Foundation.Wire (JsonField Reply)
open ProductSite.Backend.Models
open ProductSite.Backend.PersonalRoutes (existingOptions mem_existingOptions)
open ProductSite.Backend.KitRoutes
open ProductSite.Backend.Listings (Platform averageRating inventoriesOf reviewCount)

section Dump

structure InventoryDump where
  id : Nat
  location : String
  locationName : String
  quantity : Int
  deriving DecidableEq

def dumpInventory (inv : Inventory) : InventoryDump :=
  ⟨inv.id, inv.location, inv.locationName, inv.quantity⟩

/-- The keys of a dumped kit; the keys that are only loaded are not among them. -/
structure KitDump where
  id : Nat
  name : String
  imageUrl : String
  price : ℚ
  description : String
  age : List KitOption
  category : List KitOption
  grade : List KitOption
  theme : List KitOption
  averageRating : Option ℚ
  reviewCount : Nat
  inventoryOutput : List InventoryDump

/-- The options that a relationship loads: those stored among the associated ids. -/
def optionsIn (options : Table KitOption.id) (ids : List Nat) : List KitOption :=
  ids.filterMap options.get?

/-- The rows of the association table of one kind. -/
def associated (kit : Kit) : OptionKind → List Nat
  | .age => kit.age
  | .category => kit.category
  | .grade => kit.grade
  | .theme => kit.theme

def kitOptions (db : Database) (kit : Kit) (kind : OptionKind) : List KitOption :=
  optionsIn (optionsOf db kind) (associated kit kind)

def dumpKit (platform : Platform) (db : Database) (kit : Kit) : KitDump where
  id := kit.id
  name := kit.name
  imageUrl := kit.imageUrl
  price := kit.price
  description := kit.description
  age := kitOptions db kit .age
  category := kitOptions db kit .category
  grade := kitOptions db kit .grade
  theme := kitOptions db kit .theme
  averageRating := averageRating platform db kit
  reviewCount := reviewCount db kit
  inventoryOutput := (inventoriesOf db kit).map dumpInventory

def getKit (platform : Platform) (db : Database) (id : Nat) : Reply KitDump :=
  match db.kits.get? id with
  | none => .error 404 "Kit not found" []
  | some kit => .ok 200 (dumpKit platform db kit)

private theorem mem_optionsIn {options : Table KitOption.id} {ids : List Nat} {option : KitOption} :
    option ∈ optionsIn options ids ↔ option ∈ options.rows ∧ option.id ∈ ids := by
  rw [optionsIn, List.mem_filterMap]
  constructor
  · rintro ⟨id, associated, found⟩
    obtain ⟨member, rfl⟩ := Table.get?_eq_some_iff.mp found
    exact ⟨member, associated⟩
  · rintro ⟨member, associated⟩
    exact ⟨option.id, associated, Table.get?_of_mem member⟩

/-- Storing the ids of the loaded options loads the same options again. -/
theorem mem_optionsIn_reloaded {options : Table KitOption.id} {ids : List Nat}
    {option : KitOption} :
    option ∈ optionsIn options
        (existingOptions options ((optionsIn options ids).map KitOption.id)) ↔
      option ∈ optionsIn options ids := by
  rw [mem_optionsIn, mem_existingOptions, List.mem_map]
  constructor
  · rintro ⟨member, ⟨other, loaded, same⟩, -⟩
    obtain ⟨-, associated⟩ := mem_optionsIn.mp loaded
    rw [same] at associated
    exact mem_optionsIn.mpr ⟨member, associated⟩
  · intro loaded
    obtain ⟨member, -⟩ := mem_optionsIn.mp loaded
    refine ⟨member, ⟨option, loaded, rfl⟩, ?_⟩
    rw [Table.get?_of_mem member]
    rfl

end Dump

section Load

/-- The keys of a body under which the schema only dumps. -/
structure DumpOnly where
  id : JsonField Nat
  age : JsonField (List KitOption)
  category : JsonField (List KitOption)
  grade : JsonField (List KitOption)
  theme : JsonField (List KitOption)
  averageRating : JsonField ℚ
  reviewCount : JsonField Nat
  inventoryOutput : JsonField (List InventoryDump)

def DumpOnly.absent : DumpOnly :=
  ⟨.absent, .absent, .absent, .absent, .absent, .absent, .absent, .absent⟩

/-- A body of `update_kit`, with the keys that are loaded and those that are not. -/
structure KitJson where
  body : KitBody
  dumpOnly : DumpOnly

/-- The id is not among the keys to strip. -/
def stripDumpOnlyFields (data : KitJson) : KitJson :=
  { data with dumpOnly := { DumpOnly.absent with id := data.dumpOnly.id } }

/-- `update_kit`, from the body as it arrives. The keys that are not loaded are unknown to the
schema and excluded. -/
def updateKitJson (session : Session) (s : State) (id : Nat) (data : KitJson) :
    Reply Kit × State :=
  updateKit session s id (stripDumpOnlyFields data).body

end Load

end ProductSite.Backend.KitSchema
