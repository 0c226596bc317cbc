/- Module: ProductSite/Backend/Listings
   source: backend/app/routes/kit_routes.py, backend/app/routes/purchase_routes.py,
     backend/app/routes/inventory_routes.py, backend/app/models/kits.py
   digest: The filtered, sorted and paginated lists of kits, purchases and inventory rows. -/

import Mathlib.Data.Rat.Defs
import Mathlib.Algebra.Order.Ring.Rat
import ProductSite.Backend.Models
import ProductSite.Foundation.Joins
import ProductSite.Foundation.Listing

set_option autoImplicit false
set_option relaxedAutoImplicit false

namespace ProductSite.Backend.Listings

open ProductSite.Foundation.Floats (Arithmetic FloatValue)
open ProductSite.Foundation.Joins
open ProductSite.Foundation.KeyedTable (Table)
open ProductSite.Foundation.Listing
open ProductSite.Foundation.Numerals (isdigit readFloat readFloat_empty readInt readInt_toString)
open ProductSite.Foundation.Wire (Reply readNat)
open ProductSite.Backend.Models

/-- What the platform decides: the arithmetic of floats and how `round(x, 1)` rounds one, what the
database makes of an average, whether it takes an infinity or a nan as a parameter, and how it
orders texts. An order of texts compares any two of them, but texts that differ may be equal in
it. -/
structure Platform where
  floats : Arithmetic
  roundTenth : ℚ → ℚ
  databaseAverage : ℚ → ℚ
  bindsSpecials : Bool
  textLe : String → String → Bool
  textLe_trans : ∀ a b c, textLe a b = true → textLe b c = true → textLe a c = true
  textLe_total : ∀ a b, (textLe a b || textLe b a) = true

section Ratings

def reviewsOf (db : Database) (kit : Kit) : List Review :=
  db.reviews.rows.filter (fun review => review.kitId = kit.id)

/-- The property `review_count` of a loaded kit. -/
def reviewCount (db : Database) (kit : Kit) : Nat := (reviewsOf db kit).length

/-- The average of the ratings, none without reviews. -/
def exactAverage (db : Database) (kit : Kit) : Option ℚ :=
  if reviewsOf db kit = [] then none
  else some (((reviewsOf db kit).map Review.rating).sum / (reviewsOf db kit).length)

/-- The property `average_rating` of a loaded kit. -/
def averageRating (platform : Platform) (db : Database) (kit : Kit) : Option ℚ :=
  (exactAverage db kit).map platform.roundTenth

/-- `func.avg(Review.rating)`. -/
def queriedAverage (platform : Platform) (db : Database) (kit : Kit) : Option ℚ :=
  (exactAverage db kit).map platform.databaseAverage

end Ratings

section Sorting

inductive SortValue where
  | text (value : String)
  | number (value : Option ℚ)

/-- Nulls come first. The values of one column are of one kind. -/
def SortValue.le (platform : Platform) : SortValue → SortValue → Bool
  | .text a, .text b => platform.textLe a b
  | .number none, .number _ => true
  | .number (some _), .number none => false
  | .number (some a), .number (some b) => a ≤ b
  | .text _, .number _ => true
  | .number _, .text _ => false

theorem SortValue.le_trans (platform : Platform) (a b c : SortValue)
    (first : a.le platform b = true) (second : b.le platform c = true) :
    a.le platform c = true := by
  -- the values of two kinds are ordered by their kind
  rcases a with a | _ | a <;> rcases b with b | _ | b <;> rcases c with c | _ | c <;>
    simp [SortValue.le] at first second ⊢
  · exact platform.textLe_trans a b c first second
  · exact first.trans second

theorem SortValue.le_total (platform : Platform) (a b : SortValue) :
    (a.le platform b || b.le platform a) = true := by
  rcases a with a | _ | a <;> rcases b with b | _ | b <;> simp [SortValue.le]
  · have compared := platform.textLe_total a b
    rwa [Bool.or_eq_true] at compared
  · exact Rat.le_total

/-- The comparison of `order_by` with a column and a direction. -/
def before {α : Type} (platform : Platform) (column : α → SortValue) (sortDir : String)
    (a b : α) : Bool :=
  if sortDir = "desc" then (column b).le platform (column a)
  else (column a).le platform (column b)

def sortRows {α : Type} (platform : Platform) (column : α → SortValue) (sortDir : String)
    (rows : List α) : List α :=
  rows.mergeSort (before platform column sortDir)

theorem sortRows_perm {α : Type} (platform : Platform) (column : α → SortValue) (sortDir : String)
    (rows : List α) : (sortRows platform column sortDir rows).Perm rows :=
  List.mergeSort_perm _ _

theorem before_trans {α : Type} {platform : Platform} {column : α → SortValue} {sortDir : String}
    (a b c : α) (first : before platform column sortDir a b = true)
    (second : before platform column sortDir b c = true) :
    before platform column sortDir a c = true := by
  unfold before at first second ⊢
  split
  · rename_i down
    rw [if_pos down] at first second
    exact SortValue.le_trans platform _ _ _ second first
  · rename_i up
    rw [if_neg up] at first second
    exact SortValue.le_trans platform _ _ _ first second

theorem before_total {α : Type} {platform : Platform} {column : α → SortValue} {sortDir : String}
    (a b : α) :
    (before platform column sortDir a b || before platform column sortDir b a) = true := by
  unfold before
  split
  · exact SortValue.le_total platform _ _
  · exact SortValue.le_total platform _ _

theorem sortRows_sorted {α : Type} (platform : Platform) (column : α → SortValue)
    (sortDir : String) (rows : List α) :
    (sortRows platform column sortDir rows).Pairwise
      (fun a b => before platform column sortDir a b = true) := by
  apply List.pairwise_mergeSort
  · exact before_trans
  · exact before_total

/-- Sorted downwards by a column of natural numbers, the numbers descend. -/
theorem sortRows_desc {α : Type} {platform : Platform} {column : α → SortValue} {key : α → Nat}
    (numbers : ∀ row, column row = .number (some (key row))) (rows : List α) :
    (sortRows platform column "desc" rows).Pairwise (fun a b => key b ≤ key a) := by
  refine (sortRows_sorted platform column "desc" rows).imp ?_
  intro a b first
  rw [before, if_pos rfl, numbers, numbers] at first
  simpa [SortValue.le] using first

end Sorting

/-- `int(request.args.get('page', 1))` and the same for the size of a page. Negative numbers are
not modelled, nor is the negative offset of a page zero. -/
def pageArgs (args : Query) (sizeName : String) (size : Nat) : Option (Nat × Nat) :=
  match readInt ((args.get "page").getD "1"),
    readInt ((args.get sizeName).getD (toString size)) with
  | some (.ofNat page), some (.ofNat perPage) => some (page, perPage)
  | _, _ => none

theorem pageArgs_sent {args : Query} {sizeName : String} {number perPage : Nat}
    (page : args.get "page" = some (toString number))
    (size : args.get sizeName = some (toString perPage)) (standard : Nat) :
    pageArgs args sizeName standard = some (number, perPage) := by
  rw [pageArgs, page, size, Option.getD_some, Option.getD_some, readInt_toString,
    readInt_toString]

/-- The arguments of a listing with those that ask for one of its pages. -/
def pageQuery (sizeName : String) (args : Query) (perPage number : Nat) : Query :=
  ("page", toString number) :: (sizeName, toString perPage) :: args

theorem get_pageQuery {sizeName name : String} (page : name ≠ "page") (size : name ≠ sizeName)
    (args : Query) (perPage number : Nat) :
    (pageQuery sizeName args perPage number).get name = args.get name := by
  rw [pageQuery, Query.get_cons, if_neg page.symm, Query.get_cons, if_neg size.symm]

theorem pageArgs_pageQuery {sizeName : String} (size : sizeName ≠ "page") (args : Query)
    (perPage number standard : Nat) :
    pageArgs (pageQuery sizeName args perPage number) sizeName standard =
      some (number, perPage) := by
  refine pageArgs_sent ?_ ?_ standard
  · simp [pageQuery]
  · simp [pageQuery, size.symm]

/-- `request.args.get(name, type=float)`: what `float` does not read counts as missing. -/
def floatArg (platform : Platform) (args : Query) (name : String) : Option FloatValue :=
  (args.get name).bind (readFloat platform.floats)

/-- The float can be a parameter of a statement. -/
def Platform.binds (platform : Platform) (value : FloatValue) : Bool :=
  platform.bindsSpecials || value.isFinite

section Kits

/-- `[int(i) for i in text.split(",") if i.isdigit()]`, unless `int` raises. -/
def intIds (text : String) : Option (List Nat) :=
  ((splitAt ',' text).filter isdigit).mapM fun token => (readInt token).map Int.toNat

/-- The ids of a dimension, if the argument is given at all; none when they raise. -/
def idsArg (args : Query) (name : String) : Option (Option (List Nat)) :=
  match args.nonempty name with
  | none => some none
  | some text => (intIds text).map some

/-- The lists of ids that a request gives. -/
structure OptionIds where
  age : Option (List Nat)
  category : Option (List Nat)
  grade : Option (List Nat)
  theme : Option (List Nat)
  deriving DecidableEq

def optionIds (args : Query) : Option OptionIds := do
  let age ← idsArg args "age_ids"
  let category ← idsArg args "category_ids"
  let grade ← idsArg args "grade_ids"
  let theme ← idsArg args "theme_ids"
  return ⟨age, category, grade, theme⟩

/-- The range of prices; a bound that the database does not take raises. -/
def priceBounds (platform : Platform) (args : Query) :
    Except (Reply (List Kit)) (Option (FloatValue × FloatValue)) :=
  match args.nonempty "price_range" with
  | none => .ok none
  | some text =>
      match (splitAt '_' text).map (readFloat platform.floats) with
      | [some low, some high] =>
          if platform.binds low && platform.binds high then .ok (some (low, high))
          else .error .raised
      | _ => .error (.error 400 "Invalid price range format. Expected 'min_max'." [])

def kitColumn (platform : Platform) (db : Database) (sortBy : String) (kit : Kit) : SortValue :=
  if sortBy = "price" then .number (some kit.price)
  else if sortBy = "average_rating" then .number (queriedAverage platform db kit)
  else if sortBy = "description" then .text kit.description
  else if sortBy = "image_url" then .text kit.imageUrl
  else if sortBy = "id" then .number (some kit.id)
  else .text kit.name

def inventoriesOf (db : Database) (kit : Kit) : List Inventory :=
  db.inventory.rows.filter (fun inv => inv.kitId = kit.id)

/-- `loc in inv.location_name` for one of the given texts: a substring is enough. -/
def locatedIn (db : Database) (texts : List String) (kit : Kit) : Bool :=
  texts.any fun text =>
    (inventoriesOf db kit).any fun inv => decide (text.toList <:+: inv.locationName.toList)

/-- `[loc.strip() for loc in locations.split(",") if loc.strip()]`. -/
def locationList (text : String) : List String :=
  ((splitAt ',' text).map strip).filter (fun part => part ≠ "")

/-- The LIKE of SQL: a percent sign stands for any text, an underscore for any character. -/
def like : List Char → List Char → Bool
  | [], text => text.isEmpty
  | c :: pattern, text =>
      if c = '%' then text.tails.any (like pattern)
      else
        match text with
        | [] => false
        | d :: rest => (c = '_' || c = d) && like pattern rest

/-- `lower(text) LIKE lower(pattern)`. -/
def ilike (text pattern : String) : Bool := like (lower pattern).toList (lower text).toList

/-- The condition of a search, on a kit and a row of the inventory. -/
def searchTerm (search : String) (kit : Kit) (inv : Inventory) : Bool :=
  let likeTerm := "%" ++ search ++ "%"
  ilike kit.name likeTerm || ilike kit.description likeTerm || ilike inv.location likeTerm

/-- The rows of an association table of the options, by kit and option. -/
def associations (db : Database) (options : Kit → List Nat) : List (Nat × Nat) :=
  db.kits.rows.flatMap fun kit => (options kit).map fun id => (kit.id, id)

/-- The join with `kit_inventory` is on the kit only. The condition names the inventory, which is
joined with nothing: each of its rows is tried, whichever kit it is for. -/
def joinSearch (db : Database) (search : Option String) (rows : List Kit) : List Kit :=
  match search with
  | none => rows
  | some text =>
      innerJoin rows fun kit =>
        (db.kitInventory.filter (fun link => link.1 = kit.id)).product
          (db.inventory.rows.filter (searchTerm text kit))

/-- The join with one of the association tables of the options. -/
def joinOptions (table : List (Nat × Nat)) (ids : Option (List Nat)) (rows : List Kit) : List Kit :=
  match ids with
  | none => rows
  | some ids =>
      innerJoin rows fun kit => table.filter (fun link => link.1 = kit.id && link.2 ∈ ids)

/-- The outer joins of the eagerly loaded relationships. -/
def joinLoaded (db : Database) (rows : List Kit) : List Kit :=
  let ages := fun kit : Kit => kit.age.filterMap db.ageOptions.get?
  let categories := fun kit : Kit => kit.category.filterMap db.categoryOptions.get?
  outerJoin (outerJoin (outerJoin rows ages) categories) (inventoriesOf db)

/-- The rows of the statement before they are sorted; a kit comes once for each way in which
the joins match it. -/
def queriedKits (db : Database) (args : Query) (ids : OptionIds)
    (bounds : Option (FloatValue × FloatValue)) : List Kit :=
  let searched := joinSearch db (args.nonempty "search") db.kits.rows
  let aged := joinOptions (associations db Kit.age) ids.age searched
  let categorised := joinOptions (associations db Kit.category) ids.category aged
  let graded := joinOptions (associations db Kit.grade) ids.grade categorised
  let themed := joinOptions (associations db Kit.theme) ids.theme graded
  joinLoaded db (themed.filter fun kit =>
    bounds.all (fun range => range.1.atMost kit.price && range.2.atLeast kit.price))

/-- The filters that are applied to the loaded kits. -/
def keptKit (platform : Platform) (db : Database) (args : Query) (kit : Kit) : Bool :=
  (floatArg platform args "min_rating").all
      (fun rating => rating.atMost ((averageRating platform db kit).getD 0)) &&
    (args.nonempty "locations").all (fun text => locatedIn db (locationList text) kit)

def selectedKits (platform : Platform) (db : Database) (args : Query) (ids : OptionIds)
    (bounds : Option (FloatValue × FloatValue)) : List Kit :=
  (unique (sortRows platform (kitColumn platform db ((args.get "sortBy").getD "name"))
    ((args.get "sortDir").getD "asc") (queriedKits db args ids bounds))).filter
      (keptKit platform db args)

def getKits (platform : Platform) (db : Database) (args : Query) : Reply (List Kit) :=
  match pageArgs args "perPage" 12, optionIds args, priceBounds platform args with
  | none, _, _ => .raised
  | some _, none, _ => .raised
  | some _, some _, .error reply => reply
  | some (page, perPage), some ids, .ok bounds =>
      .ok 200 (pageOf (selectedKits platform db args ids bounds) perPage page)

end Kits

section Purchases

/-- The inner joins with the kit and the inventory row. -/
def joinedRows (db : Database) (purchase : Purchase) : Option (Kit × Inventory) :=
  match db.kits.get? purchase.kitId, purchase.inventoryId.bind db.inventory.get? with
  | some kit, some inv => some (kit, inv)
  | _, _ => none

/-- `(Kit.average_rating >= rating) | (Kit.average_rating == None)`. -/
def ratingFilter (platform : Platform) (db : Database) (args : Query) (kit : Kit) : Bool :=
  (floatArg platform args "rating").all fun rating =>
    (queriedAverage platform db kit).all (fun average => rating.atMost average)

/-- The database takes the rating as a parameter, if one is given. -/
def ratingBinds (platform : Platform) (args : Query) : Bool :=
  (floatArg platform args "rating").all platform.binds

/-- Without a rating nothing is filtered by it. -/
theorem ratingFilter_unrated {platform : Platform} {args : Query}
    (sent : args.get "rating" = some "") (db : Database) (kit : Kit) :
    ratingFilter platform db args kit = true := by
  rw [ratingFilter, floatArg, sent, Option.bind_some, readFloat_empty]
  rfl

theorem ratingBinds_unrated {platform : Platform} {args : Query}
    (sent : args.get "rating" = some "") : ratingBinds platform args = true := by
  rw [ratingBinds, floatArg, sent, Option.bind_some, readFloat_empty]
  rfl

/-- `Kit.category.any(id.in_(ids))` and the like: the option has to be stored. -/
def anyOption (args : Query) (name : String) (options : Table KitOption.id) (ids : List Nat) :
    Bool :=
  let texts := splitAt ',' ((args.get name).getD "")
  if texts.any (fun text => text ≠ "") then
    ids.any (fun id => (options.get? id).isSome && id ∈ texts.filterMap readNat)
  else true

/-- The names are compared with the address of the inventory row. -/
def locationFilter (engine : Engine) (args : Query) (inv : Inventory) : Bool :=
  let names := splitAt ',' ((args.get "location_names").getD "")
  if names.any (fun name => name ≠ "") then names.any (engine.sameText inv.location) else true

def applyCommonPurchaseFilters (platform : Platform) (engine : Engine) (db : Database)
    (args : Query) (kit : Kit) (inv : Inventory) : Bool :=
  ratingFilter platform db args kit && locationFilter engine args inv &&
    anyOption args "age_ids" db.ageOptions kit.age &&
    anyOption args "category_ids" db.categoryOptions kit.category &&
    anyOption args "theme_ids" db.themeOptions kit.theme &&
    anyOption args "grade_ids" db.gradeOptions kit.grade

def purchaseColumn (platform : Platform) (db : Database) (sortBy : String)
    (row : Purchase × Kit × Inventory) : SortValue :=
  if sortBy = "name" then .text row.2.1.name
  else if sortBy = "avg_rating" then .number (queriedAverage platform db row.2.1)
  else if sortBy = "price" then .number (some row.2.1.price)
  else if sortBy = "quantity" then .number (some row.1.quantity)
  else .number (some row.1.id)

/-- The purchases that a listing may show, joined and filtered. -/
def queriedPurchases (platform : Platform) (engine : Engine) (db : Database) (args : Query)
    (visible : Purchase → Bool) : List (Purchase × Kit × Inventory) :=
  db.purchases.rows.filterMap fun purchase =>
    ((joinedRows db purchase).filter fun row =>
      visible purchase && applyCommonPurchaseFilters platform engine db args row.1 row.2).map
        fun row => (purchase, row)

def sortedPurchases (platform : Platform) (engine : Engine) (db : Database) (args : Query)
    (visible : Purchase → Bool) : List Purchase :=
  (sortRows platform (purchaseColumn platform db ((args.get "sortBy").getD "id"))
    ((args.get "sortDir").getD "desc") (queriedPurchases platform engine db args visible)).map
      Prod.fst

/-- The rows of a page as they are answered; each is dumped with its buyer, who is loaded. -/
def dumpPage (db : Database) (rows : List Purchase) : Reply (List Purchase) :=
  if rows.all (buyerLoads db) then .ok 200 rows else .raised

def listPurchases (platform : Platform) (engine : Engine) (db : Database) (args : Query)
    (visible : Purchase → Bool) : Reply (List Purchase) :=
  match pageArgs args "per_page" 10 with
  | none => .raised
  | some (page, perPage) =>
      if ratingBinds platform args then
        dumpPage db (pageOf (sortedPurchases platform engine db args visible) perPage page)
      else .raised

def getMyPurchases (platform : Platform) (engine : Engine) (session : Session) (s : State)
    (args : Query) : Reply (List Purchase) × State :=
  loginRequired session s fun user =>
    (listPurchases platform engine s.db args (fun purchase => purchase.userId = user), s)

def getAllPurchases (platform : Platform) (engine : Engine) (session : Session) (s : State)
    (args : Query) : Reply (List Purchase) × State :=
  adminRequired session s fun _ => (listPurchases platform engine s.db args (fun _ => true), s)

end Purchases

section InventoryRows

structure InventoryListing where
  items : List Inventory
  total : Nat
  page : Nat
  perPage : Nat
  hasNext : Bool

/-- The column to sort by; a kit has no attribute `avg_rating`. -/
def inventoryColumn (sortBy : String) : Option (Inventory × Kit → SortValue) :=
  if sortBy = "name" then some fun row => .text row.2.name
  else if sortBy = "price" then some fun row => .number (some row.2.price)
  else if sortBy = "avg_rating" then none
  else if sortBy = "quantity" then some fun row => .number (some row.1.quantity)
  else if sortBy = "location" then some fun row => .text row.1.location
  else if sortBy = "coordinates" then some fun row => .text row.1.coordinates
  else if sortBy = "id" then some fun row => .number (some row.1.id)
  else if sortBy = "kit_id" then some fun row => .number (some row.1.kitId)
  else some fun row => .text row.1.locationName

/-- The rows with a stored kit that pass the filters. -/
def queriedInventory (platform : Platform) (engine : Engine) (db : Database) (args : Query) :
    List (Inventory × Kit) :=
  db.inventory.rows.filterMap fun inv =>
    ((db.kits.get? inv.kitId).filter fun kit =>
      ratingFilter platform db args kit &&
        (args.nonempty "locations").all
          (fun text => (locationList text).any (engine.sameText inv.locationName))).map
      fun kit => (inv, kit)

def getInventory (platform : Platform) (engine : Engine) (db : Database) (args : Query) :
    Reply InventoryListing :=
  match pageArgs args "perPage" 10, inventoryColumn ((args.get "sortBy").getD "location_name") with
  | some (page, perPage), some column =>
      if ratingBinds platform args then
        let rows := sortRows platform column ((args.get "sortDir").getD "asc")
          (queriedInventory platform engine db args)
        .ok 200 ⟨(pageOf rows perPage page).map Prod.fst, rows.length, page, perPage,
          page * perPage < rows.length⟩
      else .raised
  | _, _ => .raised

end InventoryRows

end ProductSite.Backend.Listings
