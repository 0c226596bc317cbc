/- Module: ProductSite/Personal/SavedSearches
   source: react-router-bootstrap-app/src/pages/Cards.jsx, backend/app/routes/favorite_routes.py,
     backend/app/models/favorite.py, backend/app/schemas/favorite_schema.py
   digest: No saved search keeps its name, and none is read back as filters. -/

import ProductSite.Backend.Requests
import ProductSite.Storefront.SavedSearches

set_option autoImplicit false
set_option relaxedAutoImplicit false

namespace ProductSite.Personal.SavedSearches

open ProductSite.Backend.Models
open ProductSite.Backend.PersonalRoutes
open ProductSite.Backend.Requests (customer shelfOnly)
open ProductSite.Storefront.SavedSearches

/-- The saved searches that a page shows when it is loaded after the filters were saved. -/
def reloaded (bindObject : PageFilters → Option String) (engine : Engine) (session : Session)
    (s : State) (saved : List Entry) (filters : PageFilters) (name : String) : List Entry :=
  savedSearches session (handleSaveSearch bindObject engine session s saved filters name).2

/-- After the filters are saved under the name, an entry of the reloaded page has the name, and
its selection sets the filters of the page to the saved ones, from whatever they were. -/
def RoundTrips (bindObject : PageFilters → Option String) (engine : Engine) (session : Session)
    (s : State) (saved : List Entry) (filters : PageFilters) (name : String) : Prop :=
  ∃ entry ∈ reloaded bindObject engine session s saved filters name,
    shownName entry = .text name ∧
      ∀ current search,
        handleSelectSavedFilter (reloaded bindObject engine session s saved filters name) current
          search (entry.read "id").printed = .filters filters

section Entries

variable {session : Session} {s : State} {entry : Entry}

private theorem dump_of_mem (member : entry ∈ savedSearches session s) :
    ∃ favorite, entry = dumpFavorite favorite ∧ isSavedSearch (dumpFavorite favorite) = true := by
  obtain ⟨listed, search⟩ := List.mem_filter.mp member
  obtain ⟨favorite, -, rfl⟩ := List.mem_map.mp listed
  exact ⟨favorite, rfl, search⟩

/-- The schema has no key `name`. -/
private theorem shownName_of_mem (member : entry ∈ savedSearches session s) :
    shownName entry = .undefined := by
  obtain ⟨favorite, rfl, -⟩ := dump_of_mem member
  rfl

/-- Only the stored text makes a dumped favorite a saved search. -/
private theorem filterJson_of_search {favorite : Favorite}
    (search : isSavedSearch (dumpFavorite favorite) = true) :
    ∃ text, favorite.filterJson = some text ∧ text ≠ "" := by
  cases stored : favorite.filterJson with
  | none =>
      have dumped : (dumpFavorite favorite).read "filter_json" = .null := by
        rw [dumpFavorite, stored]
        rfl
      simp only [isSavedSearch, dumped] at search
      cases search
  | some text =>
      refine ⟨text, rfl, ?_⟩
      rintro rfl
      have dumped : (dumpFavorite favorite).read "filter_json" = .text "" := by
        rw [dumpFavorite, stored]
        rfl
      simp only [isSavedSearch, dumped] at search
      cases search

/-- A selected entry sets the filters to the stored text, which nothing parses. -/
private theorem selection_of_mem (member : entry ∈ savedSearches session s) (current : JsValue)
    (search : String) :
    ∃ text, handleSelectSavedFilter (savedSearches session s) current search
      (entry.read "id").printed = .text text := by
  unfold handleSelectSavedFilter
  cases found : (savedSearches session s).find?
      (fun fav => (fav.read "id").printed = (entry.read "id").printed) with
  | none =>
      have missed := List.find?_eq_none.mp found entry member
      simp at missed
  | some selected =>
      obtain ⟨favorite, rfl, isSearch⟩ := dump_of_mem (List.mem_of_find?_eq_some found)
      obtain ⟨text, stored, filled⟩ := filterJson_of_search isSearch
      have data : (dumpFavorite favorite).read "filter_data" = .undefined := rfl
      have json : (dumpFavorite favorite).read "filter_json" = .text text := by
        rw [dumpFavorite, stored]
        rfl
      refine ⟨text, ?_⟩
      simp [data, json, JsValue.or, JsValue.truthy, filled]

end Entries

/-- For every filter state and name, in every session and state, with every engine and whatever
text its driver would make of an object, the saved search is not read back: no reloaded entry
has the name, and none sets the filters. -/
theorem saved_search_never_round_trips (bindObject : PageFilters → Option String)
    (engine : Engine) (session : Session) (s : State) (saved : List Entry)
    (filters : PageFilters) (name : String) :
    ¬ RoundTrips bindObject engine session s saved filters name ∧
      ∀ entry ∈ reloaded bindObject engine session s saved filters name,
        shownName entry ≠ .text name ∧ ∀ current search,
          handleSelectSavedFilter (reloaded bindObject engine session s saved filters name)
            current search (entry.read "id").printed ≠ .filters filters := by
  have unnamed : ∀ entry ∈ reloaded bindObject engine session s saved filters name,
      shownName entry ≠ .text name := by
    intro entry member named
    rw [shownName_of_mem member] at named
    cases named
  refine ⟨?_, fun entry member => ⟨unnamed entry member, ?_⟩⟩
  · rintro ⟨entry, member, named, -⟩
    exact unnamed entry member named
  · intro current search restored
    obtain ⟨text, selected⟩ := selection_of_mem member current search
    have clash := selected.symm.trans restored
    cases clash

/-- The default filters saved as "Toddlers": with a driver that raises nothing is saved, with
one that would store a text the entry has no name and its selection sets a text. -/
theorem default_filters_are_lost :
    reloaded (fun _ => none) .sqlite customer (shelfOnly 3) [] (.default "") "Toddlers" = [] ∧
      reloaded (fun _ => some "filters") .sqlite customer (shelfOnly 3) [] (.default "")
        "Toddlers" = [dumpFavorite ⟨1, 1, none, some "filters", none⟩] ∧
      shownName (dumpFavorite ⟨1, 1, none, some "filters", none⟩) = .undefined ∧
      handleSelectSavedFilter [dumpFavorite ⟨1, 1, none, some "filters", none⟩]
        (.filters (.default "")) "" "1" = .text "filters" ∧
      ¬ RoundTrips (fun _ => none) .sqlite customer (shelfOnly 3) [] (.default "")
        "Toddlers" := by
  refine ⟨rfl, rfl, rfl, rfl, ?_⟩
  rintro ⟨entry, member, -⟩
  cases member

end ProductSite.Personal.SavedSearches
