/- Module: ProductSite/Browse/InventoryRows
   source: react-router-bootstrap-app/src/pages/InventoryPage.jsx,
     backend/app/routes/inventory_routes.py
   digest: The inventory rows that the administrator is shown for the chosen filters. -/

import ProductSite.Browse.Kits

set_option autoImplicit false
set_option relaxedAutoImplicit false

namespace ProductSite.Browse.InventoryRows

open ProductSite.Foundation.Listing
open ProductSite.Backend.Models
open ProductSite.Backend.Listings
open ProductSite.Backend.Requests (shelf shelfOnly)
open ProductSite.Storefront.Filters
open ProductSite.Browse.Kits (plainPlatform)

variable {platform : Platform} {engine : Engine} {db : Database} {filters : InventoryFilters}

section Query

private theorem get_rating {number : Nat} :
    (inventoryQuery filters number).get "rating" = some "" := by
  simp [inventoryQuery]

private theorem pageArgs_inventoryQuery (number : Nat) :
    pageArgs (inventoryQuery filters number) "perPage" 10 =
      some (number, filters.itemsPerPage) :=
  pageArgs_pageQuery (by decide) _ filters.itemsPerPage number 10

/-- Every offered column can be sorted by. -/
private theorem inventoryColumn_offered (column : InventoryColumn) :
    ∃ values, inventoryColumn column.value = some values := by
  cases column with
  | quantity => exact ⟨_, rfl⟩
  | locationName => exact ⟨_, rfl⟩
  | name => exact ⟨_, rfl⟩
  | averageRating => exact ⟨_, rfl⟩
  | price => exact ⟨_, rfl⟩

end Query

section Shown

/-- The kit of a row, which passes the filters of the handler whatever was selected. -/
private theorem queriedInventory_eq (number : Nat) :
    queriedInventory platform engine db (inventoryQuery filters number) =
      db.inventory.rows.filterMap fun inv =>
        (db.kits.get? inv.kitId).map fun kit => (inv, kit) := by
  have everything : ∀ inv : Inventory,
      (db.kits.get? inv.kitId).filter (fun kit =>
        ratingFilter platform db (inventoryQuery filters number) kit &&
          ((inventoryQuery filters number).nonempty "locations").all
            (fun text => (locationList text).any (engine.sameText inv.locationName))) =
        db.kits.get? inv.kitId := by
    intro inv
    -- the page sends the names of the locations under a name that the handler does not read
    have anywhere : (inventoryQuery filters number).nonempty "locations" = none := by
      simp [Query.nonempty, inventoryQuery]
    simp only [ratingFilter_unrated get_rating, anywhere]
    cases db.kits.get? inv.kitId <;> rfl
  unfold queriedInventory
  simp only [everything]

/-- The pages cut one list, whatever their number, and it holds the rows with a stored kit. -/
private theorem inventoryShown_eq (platform : Platform) (engine : Engine) (db : Database)
    (filters : InventoryFilters) :
    ∃ rows : List Inventory,
      rows.Perm (db.inventory.rows.filter fun inv => (db.kits.get? inv.kitId).isSome) ∧
      ∀ number, inventoryShown platform engine db filters number =
        pageOf rows filters.itemsPerPage number := by
  obtain ⟨column, offered⟩ := inventoryColumn_offered filters.sortBy
  refine ⟨(sortRows platform column (directionValue filters.descending)
    (queriedInventory platform engine db (inventoryQuery filters 0))).map Prod.fst, ?_, ?_⟩
  · rw [← map_fst_join, ← queriedInventory_eq 0]
    exact (sortRows_perm _ _ _ _).map Prod.fst
  · intro number
    have sortBy : (inventoryQuery filters number).get "sortBy" = some filters.sortBy.value := by
      simp [inventoryQuery]
    have sortDir : (inventoryQuery filters number).get "sortDir" =
        some (directionValue filters.descending) := by
      simp [inventoryQuery]
    unfold inventoryShown getInventory
    rw [pageArgs_inventoryQuery, sortBy, Option.getD_some, offered, sortDir, Option.getD_some,
      ratingBinds_unrated get_rating, queriedInventory_eq, queriedInventory_eq, ← map_pageOf]
    rfl

/-- The row is on one of the pages that are shown. -/
def Shown (platform : Platform) (engine : Engine) (db : Database) (filters : InventoryFilters)
    (row : Inventory) : Prop :=
  ∃ number, row ∈ inventoryShown platform engine db filters number

theorem shown_iff (positive : 0 < filters.itemsPerPage) (row : Inventory) :
    Shown platform engine db filters row ↔
      row ∈ db.inventory.rows ∧ (db.kits.get? row.kitId).isSome = true := by
  obtain ⟨rows, same, pages⟩ := inventoryShown_eq platform engine db filters
  unfold Shown
  simp only [pages]
  rw [mem_pageOf_iff positive, same.mem_iff, List.mem_filter]

end Shown

/-- The row is at a selected location, of a selected kit and within the selected range, as far
as any are selected. -/
structure Chosen (filters : InventoryFilters) (row : Inventory) : Prop where
  location : filters.locationNames = [] ∨ row.locationName ∈ filters.locationNames
  kit : filters.kitIds = [] ∨ row.kitId ∈ filters.kitIds
  quantity : ∀ low high : Nat, filters.quantityRange = some (low, high) →
    low ≤ row.quantity ∧ row.quantity ≤ high

/-- The page shows exactly the chosen rows if and only if the rows with a stored kit are the
chosen ones. -/
theorem shows_chosen_rows_iff (platform : Platform) (engine : Engine) (db : Database)
    (filters : InventoryFilters) (positive : 0 < filters.itemsPerPage) :
    (∀ row, Shown platform engine db filters row ↔
        row ∈ db.inventory.rows ∧ Chosen filters row) ↔
      ∀ row ∈ db.inventory.rows,
        (db.kits.get? row.kitId).isSome = true ↔ Chosen filters row := by
  simp only [shown_iff positive]
  constructor
  · intro exact_rows row stored
    constructor
    · intro kept
      exact ((exact_rows row).mp ⟨stored, kept⟩).2
    · intro chosen
      exact ((exact_rows row).mpr ⟨stored, chosen⟩).2
  · intro same row
    constructor
    · rintro ⟨stored, kept⟩
      exact ⟨stored, (same row stored).mp kept⟩
    · rintro ⟨stored, chosen⟩
      exact ⟨stored, (same row stored).mpr chosen⟩

/-- Without a selection the row of the tray is shown. -/
theorem library_row_is_shown :
    Shown plainPlatform .sqlite (shelfOnly 3).db ⟨[], [], none, .name, false, 10⟩ (shelf 3) := by
  have chosen : Chosen ⟨[], [], none, .name, false, 10⟩ (shelf 3) :=
    ⟨Or.inl rfl, Or.inl rfl, nofun⟩
  refine ((shows_chosen_rows_iff plainPlatform .sqlite (shelfOnly 3).db
    ⟨[], [], none, .name, false, 10⟩ (by decide)).mpr ?_ (shelf 3)).mpr
      ⟨List.mem_singleton_self _, chosen⟩
  intro row stored
  rw [List.mem_singleton.mp stored]
  exact iff_of_true rfl chosen

/-- The row of kit one with three units in the library is shown to an administrator who selects
the harbour, kit two, or a range from five to nine. -/
theorem every_selection_is_dropped :
    (Shown plainPlatform .sqlite (shelfOnly 3).db ⟨["Harbour"], [], none, .name, false, 10⟩
        (shelf 3) ∧
      ¬ Chosen ⟨["Harbour"], [], none, .name, false, 10⟩ (shelf 3)) ∧
    (Shown plainPlatform .sqlite (shelfOnly 3).db ⟨[], [2], none, .name, false, 10⟩ (shelf 3) ∧
      ¬ Chosen ⟨[], [2], none, .name, false, 10⟩ (shelf 3)) ∧
    Shown plainPlatform .sqlite (shelfOnly 3).db ⟨[], [], some (5, 9), .name, false, 10⟩
        (shelf 3) ∧
      ¬ Chosen ⟨[], [], some (5, 9), .name, false, 10⟩ (shelf 3) := by
  have shown : ∀ filters : InventoryFilters, 0 < filters.itemsPerPage →
      Shown plainPlatform .sqlite (shelfOnly 3).db filters (shelf 3) := fun _ positive =>
    (shown_iff positive (shelf 3)).mpr ⟨List.mem_singleton_self _, rfl⟩
  refine ⟨⟨shown _ (by decide), ?_⟩, ⟨shown _ (by decide), ?_⟩, shown _ (by decide), ?_⟩
  · intro chosen
    exact absurd chosen.location (by decide)
  · intro chosen
    exact absurd chosen.kit (by decide)
  · intro chosen
    exact absurd (chosen.quantity 5 9 rfl) (by decide)

end ProductSite.Browse.InventoryRows
