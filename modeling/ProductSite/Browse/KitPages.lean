/- Module: ProductSite/Browse/KitPages
   source: backend/app/routes/kit_routes.py, backend/app/models/kits.py,
     react-router-bootstrap-app/src/components/CharacterList.jsx,
     react-router-bootstrap-app/src/components/PaginationControls.jsx
   digest: The pages of the catalogue, and when its Next button leads to one. -/

import ProductSite.Browse.Kits

set_option autoImplicit false
set_option relaxedAutoImplicit false

namespace ProductSite.Browse.KitPages

open ProductSite.Foundation.Floats (FloatValue)
open ProductSite.Foundation.Joins
open ProductSite.Foundation.Listing
open ProductSite.Backend.Models
open ProductSite.Backend.Listings
open ProductSite.Backend.Requests (shelfOnly)
open ProductSite.Storefront.Filters
open ProductSite.Browse.KitListing
open ProductSite.Browse.Kits

section Slices

/-- The columns of the table of the kits. -/
inductive KitColumn where
  | id
  | name
  | description
  | imageUrl
  | price
  deriving DecidableEq

def KitColumn.attribute : KitColumn → String
  | .id => "id"
  | .name => "name"
  | .description => "description"
  | .imageUrl => "image_url"
  | .price => "price"

def KitColumn.value : KitColumn → Kit → SortValue
  | .id => fun kit => .number (some kit.id)
  | .name => fun kit => .text kit.name
  | .description => fun kit => .text kit.description
  | .imageUrl => fun kit => .text kit.imageUrl
  | .price => fun kit => .number (some kit.price)

private theorem kitColumn_attribute (platform : Platform) (db : Database) (column : KitColumn) :
    kitColumn platform db column.attribute = column.value := by
  funext kit
  cases column <;> simp [kitColumn, KitColumn.attribute, KitColumn.value]

/-- The lists of ids by their ASCII digits; whatever else is in a list is skipped. -/
def asciiIds (args : Query) : OptionIds where
  age := (args.nonempty "age_ids").map readIds
  category := (args.nonempty "category_ids").map readIds
  grade := (args.nonempty "grade_ids").map readIds
  theme := (args.nonempty "theme_ids").map readIds

/-- No list of ids has a token of digits with one that is not ASCII. -/
def PlainOptions (args : Query) : Prop :=
  ∀ name ∈ ["age_ids", "category_ids", "grade_ids", "theme_ids"],
    ∀ text ∈ args.nonempty name, PlainIds text

instance (args : Query) : Decidable (PlainOptions args) :=
  inferInstanceAs (Decidable (∀ name ∈ ["age_ids", "category_ids", "grade_ids", "theme_ids"],
    ∀ text ∈ args.nonempty name, PlainIds text))

private theorem optionIds_of_plain {args : Query} (plain : PlainOptions args) :
    optionIds args = some (asciiIds args) := by
  have read : ∀ name ∈ ["age_ids", "category_ids", "grade_ids", "theme_ids"],
      idsArg args name = some ((args.nonempty name).map readIds) := by
    intro name dimension
    unfold idsArg
    cases given : args.nonempty name with
    | none => rfl
    | some text =>
        simp only [intIds_of_plain (plain name dimension text given), Option.map_some]
  simp [optionIds, asciiIds, read]

end Slices

section NextButton

variable {platform : Platform} {db : Database} {filters : CardsFilters}

/-- The kit is one of those that the filters select. -/
def Selected (platform : Platform) (db : Database) (filters : CardsFilters) (kit : Kit) : Prop :=
  ∃ ids, optionIds (charactersQuery filters 0) = some ids ∧
    FoundBy db ((charactersQuery filters 0).nonempty "search") kit ∧
    Listed platform db (charactersQuery filters 0) ids none kit

private theorem length_listed : (listed platform db filters).length =
    {kit | Selected platform db filters kit}.ncard := by
  have lists : Lists (listedBefore platform db (charactersQuery filters 0))
      (Selected platform db filters) (listed platform db filters) := by
    unfold listed Selected
    cases optionIds (charactersQuery filters 0) with
    | none => exact ⟨List.nodup_nil, List.Pairwise.nil, by simp⟩
    | some ids =>
        refine lists_selectedKits.congr ?_
        simp
  exact lists.length_eq_ncard

/-- The button is shown for a full page. -/
private theorem hasNext_iff (filled : 1 ≤ filters.itemsPerPage) (number : Nat) :
    hasNext filters.itemsPerPage
        (getKits platform db (charactersQuery filters number)) = some true ↔
      (characters platform db filters number).length = filters.itemsPerPage := by
  rw [characters, getKits, pageArgs_charactersQuery, priceBounds_charactersQuery,
    optionIds_charactersQuery]
  cases optionIds (charactersQuery filters 0) with
  | none =>
      have short : (0 : Nat) ≠ filters.itemsPerPage := by omega
      simp [hasNext, listIn, short]
  | some ids => simp [hasNext, listIn]

end NextButton

/-- The Next button is there for a page exactly if the page after it holds kits, if and only if
the selected kits do not just fill the pages up to this one. -/
theorem next_button_right_iff (platform : Platform) (db : Database) (filters : CardsFilters)
    (page : Nat) (first : 1 ≤ page) (filled : 1 ≤ filters.itemsPerPage) :
    (hasNext filters.itemsPerPage
        (getKits platform db (charactersQuery filters page)) = some true ↔
      characters platform db filters (page + 1) ≠ []) ↔
      {kit | Selected platform db filters kit}.ncard ≠ page * filters.itemsPerPage := by
  obtain ⟨before, rfl⟩ : ∃ before, page = before + 1 := ⟨page - 1, by omega⟩
  rw [hasNext_iff filled, characters_eq_pageOf, characters_eq_pageOf, full_pageOf_iff filled,
    pageOf_ne_nil_iff filled, length_listed]
  omega

section Samples

/-- The catalogue as it opens. -/
def catalogue (itemsPerPage : Nat) : CardsFilters := defaultFilters itemsPerPage "name" "asc" ""

/-- Nothing is selected, so the only kit of the sample shop is shown. -/
private theorem selected_catalogue (itemsPerPage : Nat) :
    {kit | Selected plainPlatform (shelfOnly 3).db (catalogue itemsPerPage) kit} = {sandTray} := by
  have read : optionIds (charactersQuery (catalogue itemsPerPage) 0) =
      some ⟨none, none, none, none⟩ := rfl
  have unsearched : (charactersQuery (catalogue itemsPerPage) 0).nonempty "search" = none := rfl
  have unrated : floatArg plainPlatform (charactersQuery (catalogue itemsPerPage) 0)
      "min_rating" = none := rfl
  have anywhere : (charactersQuery (catalogue itemsPerPage) 0).nonempty "locations" = none := rfl
  ext kit
  rw [Set.mem_ofPred_eq, Set.mem_singleton_iff, Selected, read, unsearched]
  constructor
  · rintro ⟨ids, -, -, listed⟩
    exact List.mem_singleton.mp listed.stored
  · rintro rfl
    refine ⟨_, rfl, foundBy_none _ _, ⟨List.mem_singleton_self _, hasOneOf_none _, hasOneOf_none _,
      hasOneOf_none _, hasOneOf_none _, nofun, ?_, ?_⟩⟩
    · rw [unrated]
      exact nofun
    · rw [anywhere]
      exact nofun

private theorem length_catalogue (itemsPerPage : Nat) :
    (listed plainPlatform (shelfOnly 3).db (catalogue itemsPerPage)).length = 1 := by
  rw [length_listed, selected_catalogue, Set.ncard_singleton]

end Samples

/-- On a page for two kits there is one and no button, and nothing on the next page. -/
theorem next_button_of_a_page_for_two :
    hasNext 2 (getKits plainPlatform (shelfOnly 3).db (charactersQuery (catalogue 2) 1)) =
        some true ↔
      characters plainPlatform (shelfOnly 3).db (catalogue 2) 2 ≠ [] := by
  refine (next_button_right_iff plainPlatform (shelfOnly 3).db (catalogue 2) 1 (by decide)
    (by decide)).mpr ?_
  rw [selected_catalogue, Set.ncard_singleton]
  decide

/-- The one kit fills the only page, and the button leads to an empty one. -/
theorem next_button_leads_nowhere :
    hasNext 1 (getKits plainPlatform (shelfOnly 3).db (charactersQuery (catalogue 1) 1)) =
        some true ∧
      characters plainPlatform (shelfOnly 3).db (catalogue 1) 2 = [] := by
  constructor
  · have filled : 1 ≤ (catalogue 1).itemsPerPage := le_refl 1
    refine (hasNext_iff filled 1).mpr ?_
    rw [characters_eq_pageOf]
    exact (full_pageOf_iff (by decide) 0).mpr (length_catalogue 1).ge
  · rw [characters_eq_pageOf]
    by_contra more
    have longer := (pageOf_ne_nil_iff (by decide) 1).mp more
    rw [length_catalogue] at longer
    exact absurd longer (by decide)

end ProductSite.Browse.KitPages
