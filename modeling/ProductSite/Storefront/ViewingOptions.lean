/- Module: ProductSite/Storefront/ViewingOptions
   source: react-router-bootstrap-app/src/components/ViewingOptions.jsx,
     react-router-bootstrap-app/src/pages/Cards.jsx
   digest: The viewing options of the Cards page, the two places where they are kept, and the
     effects that restore and save them. -/

import ProductSite.Foundation.Runs

set_option autoImplicit false
set_option relaxedAutoImplicit false

namespace ProductSite.Storefront.ViewingOptions

inductive ViewMode where
  | grid
  | list
  deriving DecidableEq

/-- The columns that the kits can be sorted by. -/
inductive KitSort where
  | name
  | price
  | averageRating
  | description
  deriving DecidableEq

inductive SortDir where
  | asc
  | desc
  deriving DecidableEq

/-- What the component shows and saves. -/
structure Options where
  viewMode : ViewMode
  itemsPerPage : Nat
  sortBy : KitSort
  sortDir : SortDir
  deriving DecidableEq

/-- The filters of the page; `rest` stands for those that no viewing option touches. -/
structure Filters (R : Type) where
  view : ViewMode
  itemsPerPage : Nat
  page : Nat
  sortBy : KitSort
  sortDir : SortDir
  search : String
  rest : R
  deriving DecidableEq

variable {R : Type}

/-- The filters as the properties of the component. -/
def Filters.options (filters : Filters R) : Options :=
  ⟨filters.view, filters.itemsPerPage, filters.sortBy, filters.sortDir⟩

def defaultFilters (searchQuery : String) (rest : R) : Filters R :=
  ⟨.grid, 12, 1, .name, .asc, searchQuery, rest⟩

/-- The entries `viewingOptions_characters` of the page and `viewing_options_kits` of the
component. -/
structure Storage (R : Type) where
  characters : Option (Filters R)
  kits : Option Options
  deriving DecidableEq

/-- An update with one of the keys that the component sends. -/
inductive OptionUpdate where
  | view (value : ViewMode)
  | itemsPerPage (value : Nat)
  | sortBy (value : KitSort)
  deriving DecidableEq

/-- A new column is sorted upwards, and any column goes back to the first page. -/
def handleFilterChange (filters : Filters R) : OptionUpdate → Filters R
  | .view value => { filters with view := value }
  | .itemsPerPage value => { filters with itemsPerPage := value }
  | .sortBy value =>
      { filters with
        sortBy := value
        sortDir := if value ≠ filters.sortBy then .asc else filters.sortDir
        page := 1 }

def toggled : SortDir → SortDir
  | .asc => .desc
  | .desc => .asc

/-- The handler takes no argument: whichever direction it is called with, it toggles. -/
def handleSortDirChange (filters : Filters R) : Filters R :=
  { filters with sortDir := toggled filters.sortDir }

/-- The first effect of the component: it hands the saved options to the page. -/
def restoreEffect (saved : Option Options) (filters : Filters R) : Filters R :=
  match saved with
  | none => filters
  | some options =>
      let viewed := handleFilterChange filters (.view options.viewMode)
      let sized := if options.itemsPerPage ≠ 0 then
        handleFilterChange viewed (.itemsPerPage options.itemsPerPage) else viewed
      handleSortDirChange (handleFilterChange sized (.sortBy options.sortBy))

/-- The effects that save, of the component and of the page, after a rendering. -/
def saveEffects (filters : Filters R) : Storage R := ⟨some filters, some filters.options⟩

/-- The page, and what it has stored. -/
structure CardsPage (R : Type) where
  filters : Filters R
  storage : Storage R
  deriving DecidableEq

/-- The page is opened: the filters start from its own entry, then the component restores from
the other one. -/
def mount (searchQuery : String) (rest : R) (storage : Storage R) : CardsPage R :=
  let initial := storage.characters.getD (defaultFilters searchQuery rest)
  -- the restoring effect comes first, so it still finds what the last visit has saved
  let restored := restoreEffect storage.kits initial
  let settled := { restored with search := searchQuery }
  -- what the saving effects wrote for the first rendering is overwritten once this is shown
  ⟨settled, saveEffects settled⟩

/-- What the user does in the component. -/
inductive ViewingAction where
  | viewMode (value : ViewMode)
  | itemsPerPage (value : Nat)
  | sortBy (value : KitSort)
  | toggleSortDir
  deriving DecidableEq

def applied (filters : Filters R) : ViewingAction → Filters R
  | .viewMode value => handleFilterChange filters (.view value)
  | .itemsPerPage value => handleFilterChange filters (.itemsPerPage value)
  | .sortBy value => handleFilterChange filters (.sortBy value)
  | .toggleSortDir => handleSortDirChange filters

def viewingStep (page : CardsPage R) (action : ViewingAction) : CardsPage R :=
  ⟨applied page.filters action, saveEffects (applied page.filters action)⟩

def reload (searchQuery : String) (rest : R) (page : CardsPage R) : CardsPage R :=
  mount searchQuery rest page.storage

end ProductSite.Storefront.ViewingOptions
