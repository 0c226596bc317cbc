/- Module: ProductSite/Storefront/Filters
   source: react-router-bootstrap-app/src/components/FilterBy.jsx,
     react-router-bootstrap-app/src/pages/Cards.jsx,
     react-router-bootstrap-app/src/components/CharacterList.jsx,
     react-router-bootstrap-app/src/pages/Orders.jsx,
     react-router-bootstrap-app/src/pages/InventoryPage.jsx,
     react-router-bootstrap-app/src/components/ViewingOptions.jsx
   digest: The filter states of the three list pages and the query that each page sends. -/

import ProductSite.Backend.Listings

set_option autoImplicit false
set_option relaxedAutoImplicit false

namespace ProductSite.Storefront.Filters

open ProductSite.Foundation.Listing
open ProductSite.Foundation.Wire (Reply)
open ProductSite.Backend.Models
open ProductSite.Backend.Listings

/-- The list that an answer holds; an error holds none. -/
def listIn {α : Type} : Reply (List α) → List α
  | .ok _ rows => rows
  | _ => []

section Cards

/-- The dimensions with a list of options. -/
inductive Dimension where
  | age
  | category
  | theme
  | grade
  deriving DecidableEq

/-- `price_range` starts as an empty array; the slider makes it a text. -/
inductive PriceRange where
  | array (bounds : List Nat)
  | text (value : String)
  deriving DecidableEq

/-- The filters of the Cards page. An update under the name `location_names` adds a key of its
own beside `locations`. -/
structure CardsFilters where
  ageIds : List String
  categoryIds : List String
  themeIds : List String
  gradeIds : List String
  rating : String
  locations : List String
  locationNames : List String
  priceRange : PriceRange
  itemsPerPage : Nat
  page : Nat
  sortBy : String
  sortDir : String
  search : String

def CardsFilters.ids (filters : CardsFilters) : Dimension → List String
  | .age => filters.ageIds
  | .category => filters.categoryIds
  | .theme => filters.themeIds
  | .grade => filters.gradeIds

/-- The page with the locations that `FilterBy` shows as selected. -/
structure CardsPage where
  filters : CardsFilters
  selectedLocations : List String

/-- `defaultFilters` for a search, with the viewing options of the user. -/
def defaultFilters (itemsPerPage : Nat) (sortBy sortDir search : String) : CardsFilters :=
  ⟨[], [], [], [], "", [], [], .array [], itemsPerPage, 1, sortBy, sortDir, search⟩

def CardsPage.opened (itemsPerPage : Nat) (sortBy sortDir search : String) : CardsPage :=
  ⟨defaultFilters itemsPerPage sortBy sortDir search, []⟩

/-- What `FilterBy` reports to the page. -/
inductive FilterUpdate where
  | ids (dimension : Dimension) (next : List String)
  | locationNames (next : List String)
  | rating (value : String)
  | priceRange (value : String)

/-- All of these updates but the one of the locations go back to the first page. -/
def handleFilterChange (filters : CardsFilters) : FilterUpdate → CardsFilters
  | .ids .age next => { filters with ageIds := next, page := 1 }
  | .ids .category next => { filters with categoryIds := next, page := 1 }
  | .ids .theme next => { filters with themeIds := next, page := 1 }
  | .ids .grade next => { filters with gradeIds := next, page := 1 }
  | .locationNames next => { filters with locationNames := next }
  | .rating value => { filters with rating := value, page := 1 }
  | .priceRange value => { filters with priceRange := .text value, page := 1 }

/-- What a user does to the filters: an option or a location is toggled, a minimum rating is
chosen or none, the slider is moved. -/
inductive FilterAction where
  | toggleOption (dimension : Dimension) (id : Nat)
  | toggleLocation (name : String)
  | chooseRating (rating : Option (Fin 5))
  | movePrice (low high : Nat)

/-- The number of stars of an entry of the rating list, which goes from one to five. -/
def stars (rating : Fin 5) : Nat := rating.val + 1

theorem stars_le (rating : Fin 5) : stars rating ≤ 5 := rating.isLt

def ratingValue : Option (Fin 5) → String
  | none => ""
  | some rating => toString (stars rating)

def filterStep (page : CardsPage) : FilterAction → CardsPage
  | .toggleOption dimension id =>
      { page with
        filters := handleFilterChange page.filters
          (.ids dimension (toggle (page.filters.ids dimension) (toString id))) }
  | .toggleLocation name =>
      let next := toggle page.selectedLocations name
      ⟨handleFilterChange page.filters (.locationNames next), next⟩
  | .chooseRating rating =>
      { page with filters := handleFilterChange page.filters (.rating (ratingValue rating)) }
  | .movePrice low high =>
      { page with
        filters := handleFilterChange page.filters
          (.priceRange (toString low ++ "_" ++ toString high)) }

/-- The bounds are sent for an array of two only. -/
def priceArgs : PriceRange → Query
  | .array [low, high] => [("min_price", toString low), ("max_price", toString high)]
  | _ => []

/-- The URL that `CharacterList` fetches for a page. -/
def charactersQuery (filters : CardsFilters) (page : Nat) : Query :=
  [("sortBy", filters.sortBy), ("sortDir", filters.sortDir), ("page", toString page),
    ("perPage", toString filters.itemsPerPage), ("search", filters.search)] ++
  Query.sentIf (filters.rating ≠ "") "min_rating" filters.rating ++
  Query.sentIf (filters.locations ≠ []) "locations" (joinComma filters.locations) ++
  Query.sentIf (filters.ageIds ≠ []) "age_ids" (joinComma filters.ageIds) ++
  Query.sentIf (filters.categoryIds ≠ []) "category_ids" (joinComma filters.categoryIds) ++
  Query.sentIf (filters.themeIds ≠ []) "theme_ids" (joinComma filters.themeIds) ++
  Query.sentIf (filters.gradeIds ≠ []) "grade_ids" (joinComma filters.gradeIds) ++
  priceArgs filters.priceRange

/-- `setCharacters` with the answer. -/
def characters (platform : Platform) (db : Database) (filters : CardsFilters) (page : Nat) :
    List Kit :=
  listIn (getKits platform db (charactersQuery filters page))

/-- `setHasNext` with the answer: a list has no `has_next`, and an error has neither that nor a
length. The page of an exception is no JSON, and then nothing is set. -/
def hasNext (itemsPerPage : Nat) : Reply (List Kit) → Option Bool
  | .ok _ rows => some (rows.length == itemsPerPage)
  | .error _ _ _ => some false
  | .raised => none

end Cards

section Orders

/-- The columns that the orders can be sorted by. -/
inductive OrderColumn where
  | timeBought
  | quantity
  | locationName
  | name
  | averageRating
  | price
  deriving DecidableEq

def OrderColumn.value : OrderColumn → String
  | .timeBought => "time_bought"
  | .quantity => "quantity"
  | .locationName => "location_name"
  | .name => "name"
  | .averageRating => "average_rating"
  | .price => "price"

/-- The filter and sort state of the Orders page. It offers no choice of ages, themes, grades or
ratings, and these are sent empty. -/
structure OrdersPage where
  categoryIds : List Nat
  locationNames : List String
  status : List String
  paymentMethod : List String
  shippingType : List String
  userIds : List Nat
  viewAll : Bool
  isAdmin : Bool
  sortBy : OrderColumn
  descending : Bool
  itemsPerPage : Nat

def directionValue (descending : Bool) : String := if descending then "desc" else "asc"

/-- Status, payment method and shipping type are not sent. -/
def ordersQuery (page : OrdersPage) (currentPage : Nat) : Query :=
  [("age_ids", joinComma []), ("category_ids", joinComma (page.categoryIds.map toString)),
    ("theme_ids", joinComma []), ("grade_ids", joinComma []),
    ("location_names", joinComma page.locationNames),
    ("user_ids", joinComma (page.userIds.map toString)), ("rating", ""),
    ("sort_by", page.sortBy.value), ("sort_dir", directionValue page.descending),
    ("page", toString currentPage), ("per_page", toString page.itemsPerPage)]

def OrdersPage.showsAll (page : OrdersPage) : Bool := page.viewAll && page.isAdmin

def fetchPurchases (platform : Platform) (engine : Engine) (session : Session) (s : State)
    (page : OrdersPage) (currentPage : Nat) : Reply (List Purchase) :=
  if page.showsAll then
    (getAllPurchases platform engine session s (ordersQuery page currentPage)).1
  else (getMyPurchases platform engine session s (ordersQuery page currentPage)).1

/-- The rows of a page are there if all of them have a buyer who can be loaded. -/
theorem mem_dumpPage {db : Database} {rows : List Purchase} {purchase : Purchase} :
    purchase ∈ listIn (dumpPage db rows) ↔
      purchase ∈ rows ∧ ∀ other ∈ rows, buyerLoads db other = true := by
  unfold dumpPage
  split
  · rename_i loads
    exact (and_iff_left (List.all_eq_true.mp loads)).symm
  · rename_i missing
    refine iff_of_false List.not_mem_nil ?_
    rintro ⟨-, loads⟩
    exact missing (List.all_eq_true.mpr loads)

theorem dumpPage_sublist (db : Database) (rows : List Purchase) :
    (listIn (dumpPage db rows)).Sublist rows := by
  unfold dumpPage
  split
  · exact List.Sublist.refl rows
  · exact List.nil_sublist rows

/-- `setPurchases` with the answer. -/
def purchasesShown (platform : Platform) (engine : Engine) (session : Session) (s : State)
    (page : OrdersPage) (currentPage : Nat) : List Purchase :=
  listIn (fetchPurchases platform engine session s page currentPage)

end Orders

section InventoryRows

/-- The columns that the inventory can be sorted by. -/
inductive InventoryColumn where
  | quantity
  | locationName
  | name
  | averageRating
  | price
  deriving DecidableEq

def InventoryColumn.value : InventoryColumn → String
  | .quantity => "quantity"
  | .locationName => "location_name"
  | .name => "name"
  | .averageRating => "average_rating"
  | .price => "price"

/-- The filter and sort state of the InventoryPage. It offers no choice of ratings, and these
are sent empty. -/
structure InventoryFilters where
  locationNames : List String
  kitIds : List Nat
  quantityRange : Option (Nat × Nat)
  sortBy : InventoryColumn
  descending : Bool
  itemsPerPage : Nat

/-- Kits and the range of quantities are not sent. -/
def inventoryQuery (filters : InventoryFilters) (page : Nat) : Query :=
  [("page", toString page), ("perPage", toString filters.itemsPerPage),
    ("sortBy", filters.sortBy.value), ("sortDir", directionValue filters.descending),
    ("rating", ""), ("location_names", joinComma filters.locationNames)]

/-- `data.items || []`. -/
def itemsIn : Reply InventoryListing → List Inventory
  | .ok _ listing => listing.items
  | _ => []

/-- `setInventory` with the answer. -/
def inventoryShown (platform : Platform) (engine : Engine) (db : Database)
    (filters : InventoryFilters) (page : Nat) : List Inventory :=
  itemsIn (getInventory platform engine db (inventoryQuery filters page))

/-- `!!data.hasNext`. -/
def hasNextIn : Reply InventoryListing → Bool
  | .ok _ listing => listing.hasNext
  | _ => false

end InventoryRows

end ProductSite.Storefront.Filters
