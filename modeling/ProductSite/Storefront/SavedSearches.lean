/- Module: ProductSite/Storefront/SavedSearches
   source: react-router-bootstrap-app/src/pages/Cards.jsx,
     react-router-bootstrap-app/src/components/FilterBy.jsx,
     backend/app/schemas/favorite_schema.py
   digest: Saving the filters of the Cards page as a favorite, reloading and selecting them. -/

import ProductSite.Backend.PersonalRoutes
import ProductSite.Storefront.Filters

set_option autoImplicit false
set_option relaxedAutoImplicit false

namespace ProductSite.Storefront.SavedSearches

open ProductSite.Backend.Models
open ProductSite.Backend.PersonalRoutes
open ProductSite.Storefront.Filters (CardsFilters defaultFilters listIn)

/-- The filter state of the page: how the cards are shown, and what they are filtered by. -/
structure PageFilters where
  view : String
  filters : CardsFilters

/-- `defaultFilters` of the page, for the search of its URL. -/
def PageFilters.default (search : String) : PageFilters :=
  ⟨"grid", defaultFilters 12 "name" "asc" search⟩

/-- The values that the page reads from a favorite or keeps as its filters. -/
inductive JsValue where
  | undefined
  | null
  | number (value : Nat)
  | text (value : String)
  | filters (value : PageFilters)

namespace JsValue

def truthy : JsValue → Bool
  | .undefined => false
  | .null => false
  | .number value => value ≠ 0
  | .text value => value ≠ ""
  | .filters _ => true

/-- `value === text`. -/
def isText (text : String) : JsValue → Bool
  | .text value => value = text
  | _ => false

/-- `first || second`. -/
def or (first second : JsValue) : JsValue := if first.truthy then first else second

def ofOption {α : Type} (make : α → JsValue) : Option α → JsValue
  | none => .null
  | some a => make a

/-- `String(value)`. -/
def printed : JsValue → String
  | .undefined => "undefined"
  | .null => "null"
  | .number value => toString value
  | .text value => value
  | .filters _ => "[object Object]"

end JsValue

/-- An entry of the saved searches, by its keys. -/
abbrev Entry := List (String × JsValue)

/-- A missing key reads as undefined. -/
def Entry.read (entry : Entry) (key : String) : JsValue := (entry.lookup key).getD .undefined

/-- The dump of `FavoriteSchema`, without the nested kit. -/
def dumpFavorite (favorite : Favorite) : Entry :=
  [("id", .number favorite.id), ("user_id", .number favorite.userId),
    ("kit_id", .ofOption .number favorite.kitId),
    ("filter_json", .ofOption .text favorite.filterJson),
    ("filter_name", .ofOption .text favorite.filterName)]

def isSavedSearch (f : Entry) : Bool :=
  ((f.read "type").isText "filter" || (f.read "filter_data").truthy ||
      (f.read "filter_json").truthy) &&
    !(f.read "kit_id").truthy && !(f.read "character_id").truthy

/-- `savedFilters` of a page that is loaded again. -/
def savedSearches (session : Session) (s : State) : List Entry :=
  ((listIn (getFavorites session s none).1).map dumpFavorite).filter isSavedSearch

/-- The body that `handleSaveSearch` posts. The handler reads neither `type` nor `value`. -/
def searchBody (filters : PageFilters) (name : String) :
    FavoriteBody (FilterValue PageFilters) :=
  ⟨.null, .null, .absent, .value (.object filters), .value name⟩

/-- The saved searches of the page and the state after saving; without a name nothing is sent. -/
def handleSaveSearch (bindObject : PageFilters → Option String) (engine : Engine)
    (session : Session) (s : State) (saved : List Entry) (filters : PageFilters) (name : String) :
    List Entry × State :=
  if name = "" then (saved, s)
  else
    match addFavoriteOf FilterValue.truthy (FilterValue.bind bindObject) engine session s
        (searchBody filters name) with
    | (.ok _ created, after) =>
        (if isSavedSearch (dumpFavorite created) then saved ++ [dumpFavorite created] else saved,
          after)
    | (_, after) => (saved, after)

/-- The filters of the page after a saved search is selected by its id. -/
def handleSelectSavedFilter (saved : List Entry) (current : JsValue) (search : String)
    (selectedId : String) : JsValue :=
  match saved.find? (fun fav => (fav.read "id").printed = selectedId) with
  | none => current
  | some selected =>
      ((selected.read "filter_data").or (selected.read "filter_json")).or
        (.filters (.default search))

/-- What `FilterBy` shows for an entry. -/
def shownName (entry : Entry) : JsValue := entry.read "name"

end ProductSite.Storefront.SavedSearches
