/- Module: ProductSite/Browse/InventoryPages
   source: backend/app/routes/inventory_routes.py,
     react-router-bootstrap-app/src/pages/InventoryPage.jsx
   digest: Walking the pages of the inventory visits every matching row once, in order. -/

import ProductSite.Browse.Kits

set_option autoImplicit false
set_option relaxedAutoImplicit false

namespace ProductSite.Browse.InventoryPages

open ProductSite.Foundation.Joins (Lists)
open ProductSite.Foundation.Listing
open ProductSite.Backend.Models
open ProductSite.Backend.Listings
open ProductSite.Backend.Requests (shelfOnly)
open ProductSite.Storefront.Filters
open ProductSite.Browse.Kits (plainPlatform)

/-- The columns of the table of the inventory. -/
inductive RowColumn where
  | id
  | location
  | coordinates
  | locationName
  | quantity
  | kitId
  deriving DecidableEq

def RowColumn.attribute : RowColumn → String
  | .id => "id"
  | .location => "location"
  | .coordinates => "coordinates"
  | .locationName => "location_name"
  | .quantity => "quantity"
  | .kitId => "kit_id"

def RowColumn.value : RowColumn → Inventory → SortValue
  | .id => fun row => .number (some row.id)
  | .location => fun row => .text row.location
  | .coordinates => fun row => .text row.coordinates
  | .locationName => fun row => .text row.locationName
  | .quantity => fun row => .number (some row.quantity)
  | .kitId => fun row => .number (some row.kitId)

private theorem inventoryColumn_attribute (column : RowColumn) :
    inventoryColumn column.attribute = some fun row => column.value row.1 := by
  cases column <;> simp [inventoryColumn, RowColumn.attribute, RowColumn.value]

/-- The row is for a stored kit, which is unrated or rated high enough, and is at one of the
places that are named. -/
structure Matching (platform : Platform) (engine : Engine) (db : Database) (args : Query)
    (row : Inventory) : Prop where
  stored : row ∈ db.inventory.rows
  kit : ∃ kit, db.kits.get? row.kitId = some kit ∧
    ∀ rating average, floatArg platform args "rating" = some rating →
      queriedAverage platform db kit = some average → rating.atMost average = true
  place : ∀ text, args.nonempty "locations" = some text →
    ∃ name ∈ locationList text, engine.sameText row.locationName name = true

section Rows

variable {platform : Platform} {engine : Engine} {db : Database} {args : Query}

/-- The page that is asked for does not matter to the filters. -/
private theorem queriedInventory_pageQuery (perPage number : Nat) :
    queriedInventory platform engine db (pageQuery "perPage" args perPage number) =
      queriedInventory platform engine db args := by
  unfold queriedInventory ratingFilter floatArg Query.nonempty
  rw [get_pageQuery (by decide) (by decide), get_pageQuery (by decide) (by decide)]

private theorem ratingBinds_pageQuery (perPage number : Nat) :
    ratingBinds platform (pageQuery "perPage" args perPage number) =
      ratingBinds platform args := by
  unfold ratingBinds floatArg
  rw [get_pageQuery (by decide) (by decide)]

/-- The kit with which a row is joined, if the filters let them pass. -/
def partner (platform : Platform) (engine : Engine) (db : Database) (args : Query)
    (row : Inventory) : Option Kit :=
  (db.kits.get? row.kitId).filter fun kit =>
    ratingFilter platform db args kit && (args.nonempty "locations").all
      (fun text => (locationList text).any (engine.sameText row.locationName))

private theorem ratingFilter_iff {kit : Kit} :
    ratingFilter platform db args kit = true ↔
      ∀ rating average, floatArg platform args "rating" = some rating →
        queriedAverage platform db kit = some average → rating.atMost average = true := by
  unfold ratingFilter
  cases floatArg platform args "rating" with
  | none => simp
  | some rating =>
      cases queriedAverage platform db kit with
      | none => simp
      | some average => simp

private theorem matching_iff {row : Inventory} :
    row ∈ db.inventory.rows ∧ (partner platform engine db args row).isSome = true ↔
      Matching platform engine db args row := by
  have places : ((args.nonempty "locations").all
      (fun text => (locationList text).any (engine.sameText row.locationName))) = true ↔
      ∀ text, args.nonempty "locations" = some text →
        ∃ name ∈ locationList text, engine.sameText row.locationName name = true := by
    cases args.nonempty "locations" with
    | none => simp
    | some text => simp
  rw [partner, Option.isSome_filter, Option.any_eq_true]
  simp only [Bool.and_eq_true, ratingFilter_iff, places]
  constructor
  · rintro ⟨stored, kit, found, rated, placed⟩
    exact ⟨stored, ⟨kit, found, rated⟩, placed⟩
  · rintro ⟨stored, ⟨kit, found, rated⟩, placed⟩
    exact ⟨stored, kit, found, rated, placed⟩

/-- All rows of a listing, in its order. -/
def sortedInventory (platform : Platform) (engine : Engine) (db : Database) (args : Query)
    (column : RowColumn) : List Inventory :=
  (sortRows platform (fun row : Inventory × Kit => column.value row.1)
    ((args.get "sortDir").getD "asc") (queriedInventory platform engine db args)).map Prod.fst

private theorem lists_sortedInventory (column : RowColumn) :
    Lists (fun a b => before platform column.value ((args.get "sortDir").getD "asc") a b = true)
      (Matching platform engine db args) (sortedInventory platform engine db args column) := by
  have same : (sortedInventory platform engine db args column).Perm
      (db.inventory.rows.filter fun row => (partner platform engine db args row).isSome) := by
    rw [← map_fst_join]
    exact (sortRows_perm _ _ _ _).map Prod.fst
  refine ⟨?_, ?_, ?_⟩
  · have distinct : db.inventory.rows.Nodup := db.inventory.distinct.of_map
    exact same.nodup_iff.mpr (distinct.filter _)
  · rw [sortedInventory, List.pairwise_map]
    exact sortRows_sorted platform (fun row : Inventory × Kit => column.value row.1) _ _
  · intro row
    rw [same.mem_iff, List.mem_filter, matching_iff]

private theorem getInventory_pageQuery (platform : Platform) (engine : Engine) (db : Database)
    {column : RowColumn}
    (sortBy : (args.get "sortBy").getD "location_name" = column.attribute)
    (taken : ratingBinds platform args = true) (perPage number : Nat) :
    getInventory platform engine db (pageQuery "perPage" args perPage number) =
      .ok 200 ⟨pageOf (sortedInventory platform engine db args column) perPage number,
        (sortedInventory platform engine db args column).length, number, perPage,
        number * perPage < (sortedInventory platform engine db args column).length⟩ := by
  have size : (sortedInventory platform engine db args column).length =
      (sortRows platform (fun row : Inventory × Kit => column.value row.1)
        ((args.get "sortDir").getD "asc") (queriedInventory platform engine db args)).length :=
    List.length_map _
  rw [getInventory, pageArgs_pageQuery (by decide), get_pageQuery (by decide) (by decide), sortBy,
    inventoryColumn_attribute, get_pageQuery (by decide) (by decide), queriedInventory_pageQuery,
    ratingBinds_pageQuery, taken, size, sortedInventory, ← map_pageOf]
  rfl

end Rows

/-- Whatever the filters, if the database takes the rating, the pages from the first on, as long as
`hasNext` is true, end; read one after the other they are the matching rows, each of them once and
in the order of the column, and as many as `total` says. A page has a next one exactly if that
holds rows. -/
theorem inventory_walk (platform : Platform) (engine : Engine) (db : Database) (args : Query)
    (column : RowColumn) (sortBy : (args.get "sortBy").getD "location_name" = column.attribute)
    (taken : ratingBinds platform args = true) (perPage : Nat) (positive : 1 ≤ perPage) :
    ∃ rows : List Inventory,
      Lists (fun a b => before platform column.value ((args.get "sortDir").getD "asc") a b = true)
        (Matching platform engine db args) rows ∧
      (∃ steps, ∀ fuel, steps ≤ fuel →
        walk (fun number => itemsIn (getInventory platform engine db
            (pageQuery "perPage" args perPage number)))
          (fun number => hasNextIn (getInventory platform engine db
            (pageQuery "perPage" args perPage number))) fuel 1 = some rows) ∧
      ∀ page, 1 ≤ page →
        (∃ listing, getInventory platform engine db (pageQuery "perPage" args perPage page) =
            .ok 200 listing ∧ listing.total = rows.length) ∧
        (hasNextIn (getInventory platform engine db
            (pageQuery "perPage" args perPage page)) = true ↔
          itemsIn (getInventory platform engine db
            (pageQuery "perPage" args perPage (page + 1))) ≠ []) := by
  have answers := getInventory_pageQuery platform engine db sortBy taken perPage
  have items : (fun number => itemsIn (getInventory platform engine db
      (pageQuery "perPage" args perPage number))) =
      pageOf (sortedInventory platform engine db args column) perPage := by
    funext number
    rw [answers]
    rfl
  refine ⟨sortedInventory platform engine db args column, lists_sortedInventory column, ?_, ?_⟩
  · refine ⟨(sortedInventory platform engine db args column).length + 1, ?_⟩
    intro fuel enough
    obtain ⟨rest, rfl⟩ : ∃ rest, fuel = rest + 1 := ⟨fuel - 1, by omega⟩
    have pages : (sortedInventory platform engine db args column).length ≤
        (0 + rest) * perPage + perPage := by
      have bound : rest ≤ rest * perPage := Nat.le_mul_of_pos_right rest positive
      rw [Nat.zero_add]
      omega
    rw [items]
    refine (walk_pageOf positive ?_ rest 0 pages).trans ?_
    · intro before
      rw [answers]
      exact decide_eq_true_iff
    · rw [Nat.zero_mul, List.drop_zero]
  · intro page first
    refine ⟨⟨_, answers page, rfl⟩, ?_⟩
    rw [answers page, answers (page + 1)]
    exact decide_eq_true_iff.trans (pageOf_ne_nil_iff positive page).symm

/-- The one row of the sample shop, on pages of one row. -/
theorem inventory_walk_of_one_row :
    ∃ rows : List Inventory,
      Lists (fun a b => before plainPlatform RowColumn.quantity.value "asc" a b = true)
        (Matching plainPlatform .sqlite (shelfOnly 3).db
          [("sortBy", "quantity"), ("locations", "Library")]) rows ∧
      (∃ steps, ∀ fuel, steps ≤ fuel →
        walk (fun number => itemsIn (getInventory plainPlatform .sqlite (shelfOnly 3).db
            (pageQuery "perPage" [("sortBy", "quantity"), ("locations", "Library")] 1 number)))
          (fun number => hasNextIn (getInventory plainPlatform .sqlite (shelfOnly 3).db
            (pageQuery "perPage" [("sortBy", "quantity"), ("locations", "Library")] 1 number)))
          fuel 1 = some rows) := by
  obtain ⟨rows, lists, walked, -⟩ := inventory_walk plainPlatform .sqlite (shelfOnly 3).db
    [("sortBy", "quantity"), ("locations", "Library")] .quantity (by decide) (by decide) 1
    (by decide)
  exact ⟨rows, lists, walked⟩

end ProductSite.Browse.InventoryPages
