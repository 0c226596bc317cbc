/- Module: ProductSite/Browse/Kits
   source: react-router-bootstrap-app/src/pages/Cards.jsx,
     react-router-bootstrap-app/src/components/CharacterList.jsx,
     backend/app/routes/kit_routes.py
   digest: The kits that the catalogue shows for what the user selected. -/

import Mathlib.Logic.Function.Basic
import Mathlib.Tactic.NormNum
import ProductSite.Backend.Requests
import ProductSite.Browse.KitListing
import ProductSite.Foundation.Runs
import ProductSite.Storefront.Filters

set_option autoImplicit false
set_option relaxedAutoImplicit false

namespace ProductSite.Browse.Kits

open ProductSite.Foundation.Floats (FloatValue)
open ProductSite.Foundation.Joins (mem_unique)
open ProductSite.Foundation.Listing
open ProductSite.Foundation.Numerals (readFloat_natural)
open ProductSite.Foundation.Runs (run run_snoc)
open ProductSite.Foundation.Wire (readNat readNat_toString number_ne_empty)
open ProductSite.Backend.Models
open ProductSite.Backend.Listings
open ProductSite.Backend.Requests (shelfOnly)
open ProductSite.Storefront.Filters
open ProductSite.Browse.KitListing

section Selection

/-- What the user has selected. -/
structure Selection where
  options : Dimension → Finset Nat
  locations : Finset String
  rating : Option (Fin 5)
  price : Option (Nat × Nat)

def Selection.nothing : Selection := ⟨fun _ => ∅, ∅, none, none⟩

/-- A toggled choice is selected if it was not, and no longer if it was. -/
def selectStep (selection : Selection) : FilterAction → Selection
  | .toggleOption dimension id =>
      { selection with
        options := Function.update selection.options dimension
          (symmDiff (selection.options dimension) {id}) }
  | .toggleLocation name =>
      { selection with locations := symmDiff selection.locations {name} }
  | .chooseRating rating => { selection with rating := rating }
  | .movePrice low high => { selection with price := some (low, high) }

def kitOptions (kit : Kit) : Dimension → List Nat
  | .age => kit.age
  | .category => kit.category
  | .theme => kit.theme
  | .grade => kit.grade

variable (platform : Platform) (db : Database) (selection : Selection) (kit : Kit)

/-- The kit has a selected option in each dimension that has selections. -/
def MeetsOptions : Prop :=
  ∀ dimension, selection.options dimension = ∅ ∨
    ∃ id ∈ kitOptions kit dimension, id ∈ selection.options dimension

def MeetsRating : Prop :=
  ∀ rating, selection.rating = some rating →
    ∃ average, averageRating platform db kit = some average ∧ (stars rating : ℚ) ≤ average

def MeetsPrice : Prop :=
  ∀ low high : Nat, selection.price = some (low, high) → low ≤ kit.price ∧ kit.price ≤ high

def MeetsLocation : Prop :=
  selection.locations = ∅ ∨
    ∃ inv ∈ inventoriesOf db kit, inv.locationName ∈ selection.locations

/-- The kit satisfies every active selection. -/
structure Satisfies : Prop where
  options : MeetsOptions selection kit
  rating : MeetsRating platform db selection kit
  price : MeetsPrice selection kit
  location : MeetsLocation db selection kit

end Selection

section Simulation

/-- The page holds the selection: the printed ids of the options, the names of the locations,
the rating and the text of the price range. Under `locations` it holds nothing. -/
structure Holds (itemsPerPage : Nat) (page : CardsPage) (selection : Selection) : Prop where
  options : ∀ dimension, ∃ ids : List Nat,
    page.filters.ids dimension = ids.map toString ∧
      Represents ids (selection.options dimension)
  selectedLocations : Represents page.selectedLocations selection.locations
  rating : page.filters.rating = ratingValue selection.rating
  price : page.filters.priceRange =
    match selection.price with
    | none => .array []
    | some (low, high) => .text (toString low ++ "_" ++ toString high)
  locations : page.filters.locations = []
  search : page.filters.search = ""
  itemsPerPage : page.filters.itemsPerPage = itemsPerPage

private theorem holds_opened (itemsPerPage : Nat) (sortBy sortDir : String) :
    Holds itemsPerPage (.opened itemsPerPage sortBy sortDir "") .nothing := by
  refine ⟨?_, represents_nil, rfl, rfl, rfl, rfl, rfl⟩
  intro dimension
  refine ⟨[], ?_, represents_nil⟩
  cases dimension <;> rfl

private theorem ids_handleFilterChange (filters : CardsFilters) (dimension other : Dimension)
    (next : List String) :
    (handleFilterChange filters (.ids dimension next)).ids other =
      if other = dimension then next else filters.ids other := by
  cases dimension <;> cases other <;> rfl

private theorem toString_injective : Function.Injective (toString : Nat → String) := by
  intro m n same
  have read := congrArg readNat same
  rw [readNat_toString, readNat_toString] at read
  exact Option.some.inj read

private theorem holds_toggleOption {itemsPerPage : Nat} {page : CardsPage} {selection : Selection}
    (holds : Holds itemsPerPage page selection) (dimension : Dimension) (id : Nat) :
    Holds itemsPerPage (filterStep page (.toggleOption dimension id))
      (selectStep selection (.toggleOption dimension id)) := by
  refine ⟨?_, holds.selectedLocations, ?_, ?_, ?_, ?_, ?_⟩
  · intro other
    simp only [filterStep, selectStep, ids_handleFilterChange]
    by_cases here : other = dimension
    · subst here
      obtain ⟨ids, printed, same⟩ := holds.options other
      refine ⟨toggle ids id, ?_, ?_⟩
      · rw [if_pos rfl, printed, map_toggle toString_injective]
      · rw [Function.update_self]
        exact represents_toggle same id
    · rw [if_neg here, Function.update_of_ne here]
      exact holds.options other
  · cases dimension <;> exact holds.rating
  · cases dimension <;> exact holds.price
  · cases dimension <;> exact holds.locations
  · cases dimension <;> exact holds.search
  · cases dimension <;> exact holds.itemsPerPage

private theorem holds_step {itemsPerPage : Nat} {page : CardsPage} {selection : Selection}
    (holds : Holds itemsPerPage page selection) (action : FilterAction) :
    Holds itemsPerPage (filterStep page action) (selectStep selection action) := by
  cases action with
  | toggleOption dimension id => exact holds_toggleOption holds dimension id
  | toggleLocation name =>
      exact ⟨holds.options, represents_toggle holds.selectedLocations name, holds.rating,
        holds.price, holds.locations, holds.search, holds.itemsPerPage⟩
  | chooseRating rating =>
      exact ⟨holds.options, holds.selectedLocations, rfl, holds.price, holds.locations,
        holds.search, holds.itemsPerPage⟩
  | movePrice low high =>
      exact ⟨holds.options, holds.selectedLocations, holds.rating, rfl, holds.locations,
        holds.search, holds.itemsPerPage⟩

/-- The catalogue after some actions, and what the user has selected by them. -/
def cardsAfter (itemsPerPage : Nat) (sortBy sortDir : String) (actions : List FilterAction) :
    CardsPage :=
  run filterStep (.opened itemsPerPage sortBy sortDir "") actions

def selected (actions : List FilterAction) : Selection := run selectStep .nothing actions

/-- After any actions the page holds what the user has selected. -/
private theorem holds_run (itemsPerPage : Nat) (sortBy sortDir : String)
    (actions : List FilterAction) :
    Holds itemsPerPage (cardsAfter itemsPerPage sortBy sortDir actions) (selected actions) := by
  induction actions using List.reverseRecOn with
  | nil => exact holds_opened itemsPerPage sortBy sortDir
  | append_singleton actions action ih =>
      rw [cardsAfter, selected, run_snoc, run_snoc]
      exact holds_step ih action

end Simulation

section Query

variable {filters : CardsFilters} {number : Nat}

private theorem get_priceArgs {range : PriceRange} {name : String} (low : "min_price" ≠ name)
    (high : "max_price" ≠ name) : (priceArgs range).get name = none := by
  unfold priceArgs
  split
  · simp [low, high]
  · rfl

/-- The argument that carries the selected options of a dimension. -/
def argumentName : Dimension → String
  | .age => "age_ids"
  | .category => "category_ids"
  | .theme => "theme_ids"
  | .grade => "grade_ids"

private theorem get_options (filters : CardsFilters) (number : Nat) (dimension : Dimension) :
    (charactersQuery filters number).get (argumentName dimension) =
      if filters.ids dimension = [] then none else some (joinComma (filters.ids dimension)) := by
  by_cases empty : filters.ids dimension = [] <;> cases dimension <;>
    · simp only [CardsFilters.ids] at empty
      simp [charactersQuery, get_priceArgs, argumentName, CardsFilters.ids, empty]

private theorem get_rating :
    (charactersQuery filters number).get "min_rating" =
      if filters.rating = "" then none else some filters.rating := by
  simp [charactersQuery, get_priceArgs]

/-- The range of prices is sent under other names than the handler reads. -/
theorem priceBounds_charactersQuery (platform : Platform) :
    priceBounds platform (charactersQuery filters number) = .ok none := by
  simp [priceBounds, Query.nonempty, charactersQuery, get_priceArgs]

theorem pageArgs_charactersQuery :
    pageArgs (charactersQuery filters number) "perPage" 12 =
      some (number, filters.itemsPerPage) :=
  pageArgs_sent (by simp [charactersQuery]) (by simp [charactersQuery]) 12

/-- Only the number of the page differs between the URLs of a list. -/
private theorem get_charactersQuery {name : String} (other : name ≠ "page") (filters : CardsFilters)
    (number : Nat) :
    (charactersQuery filters number).get name = (charactersQuery filters 0).get name :=
  Query.get_other other ((charactersQuery filters 0).take 2) ((charactersQuery filters 0).drop 3)
    _ _

end Query

section Listed

variable {platform : Platform} {db : Database} {filters : CardsFilters}

/-- The kits of all pages, in order; none when the lists of ids raise. -/
def listed (platform : Platform) (db : Database) (filters : CardsFilters) : List Kit :=
  match optionIds (charactersQuery filters 0) with
  | none => []
  | some ids => selectedKits platform db (charactersQuery filters 0) ids none

theorem optionIds_charactersQuery (number : Nat) :
    optionIds (charactersQuery filters number) = optionIds (charactersQuery filters 0) := by
  have same : ∀ name, name ≠ "page" →
      (charactersQuery filters number).get name = (charactersQuery filters 0).get name :=
    fun name other => get_charactersQuery other filters number
  unfold optionIds idsArg Query.nonempty
  rw [same "age_ids" (by decide), same "category_ids" (by decide), same "grade_ids" (by decide),
    same "theme_ids" (by decide)]

private theorem selectedKits_charactersQuery (number : Nat) (ids : OptionIds) :
    selectedKits platform db (charactersQuery filters number) ids none =
      selectedKits platform db (charactersQuery filters 0) ids none := by
  have same : ∀ name, name ≠ "page" →
      (charactersQuery filters number).get name = (charactersQuery filters 0).get name :=
    fun name other => get_charactersQuery other filters number
  unfold selectedKits queriedKits keptKit floatArg Query.nonempty
  rw [same "sortBy" (by decide), same "sortDir" (by decide), same "search" (by decide),
    same "min_rating" (by decide), same "locations" (by decide)]

theorem characters_eq_pageOf (number : Nat) :
    characters platform db filters number =
      pageOf (listed platform db filters) filters.itemsPerPage number := by
  rw [characters, getKits, pageArgs_charactersQuery, priceBounds_charactersQuery,
    optionIds_charactersQuery, listed]
  cases optionIds (charactersQuery filters 0) with
  | none => exact (pageOf_nil _ _).symm
  | some ids =>
      exact congrArg (pageOf · filters.itemsPerPage number)
        (selectedKits_charactersQuery number ids)

/-- The ids of a dimension are read back as they were printed. -/
private theorem idsArg_sent {args : Query} {name : String} {ids : List Nat}
    (sent : args.get name =
      if ids.map toString = [] then none else some (joinComma (ids.map toString))) :
    idsArg args name = some (if ids = [] then none else some ids) := by
  by_cases empty : ids = []
  · simp [idsArg, Query.nonempty, sent, empty]
  · have text : args.nonempty name = some (joinComma (ids.map toString)) := by
      have printed : ids.map toString ≠ [] := fun none => empty (List.map_eq_nil_iff.mp none)
      rw [Query.nonempty, sent, if_neg printed]
      simp [Option.filter, joinComma_ids_ne_empty empty]
    simp [idsArg, text, intIds_joinComma empty, empty]

private theorem idsArg_dimension {itemsPerPage : Nat} {page : CardsPage} {selection : Selection}
    (holds : Holds itemsPerPage page selection) (dimension : Dimension) :
    ∃ given, idsArg (charactersQuery page.filters 0) (argumentName dimension) = some given ∧
      ∀ options, HasOneOf given options ↔ selection.options dimension = ∅ ∨
        ∃ id ∈ options, id ∈ selection.options dimension := by
  obtain ⟨ids, printed, same⟩ := holds.options dimension
  have sent := get_options (page.filters) 0 dimension
  rw [printed] at sent
  refine ⟨_, idsArg_sent sent, ?_⟩
  intro options
  rw [← same.nil_iff]
  by_cases empty : ids = []
  · simp [HasOneOf, empty]
  · simp [HasOneOf, empty, same _]

private theorem floatArg_rating {itemsPerPage : Nat} {page : CardsPage} {selection : Selection}
    (holds : Holds itemsPerPage page selection) :
    floatArg platform (charactersQuery page.filters 0) "min_rating" =
      selection.rating.map (fun rating => .finite (stars rating)) := by
  rw [floatArg, get_rating, holds.rating]
  cases selection.rating with
  | none => rfl
  | some rating =>
      have printed : ratingValue (some rating) ≠ "" := number_ne_empty (stars rating)
      rw [if_neg printed, Option.bind_some]
      exact readFloat_natural platform.floats ((stars_le rating).trans (by norm_num))

/-- A chosen rating lets a kit pass that has an average of at least as much. -/
private theorem meetsRating_iff {selection : Selection} {kit : Kit} :
    (selection.rating.map (fun rating => FloatValue.finite (stars rating))).all
        (fun rating => rating.atMost ((averageRating platform db kit).getD 0)) = true ↔
      MeetsRating platform db selection kit := by
  unfold MeetsRating
  cases chosen : selection.rating with
  | none => simp
  | some rating =>
      have positive : (0 : ℚ) < stars rating := by
        exact_mod_cast Nat.succ_pos rating.val
      cases averageRating platform db kit with
      | none =>
          simp only [Option.map_some, Option.all_some, Option.getD_none, FloatValue.atMost,
            decide_eq_true_eq]
          refine iff_of_false (not_le_of_gt positive) ?_
          intro meets
          obtain ⟨average, none, -⟩ := meets rating rfl
          cases none
      | some average => simp [FloatValue.atMost]

theorem mem_listed_iff {itemsPerPage : Nat} {page : CardsPage} {selection : Selection}
    (holds : Holds itemsPerPage page selection) (kit : Kit) :
    kit ∈ listed platform db page.filters ↔
      kit ∈ db.kits.rows ∧ MeetsOptions selection kit ∧
        MeetsRating platform db selection kit := by
  have search : (charactersQuery page.filters 0).nonempty "search" = none := by
    simp [Query.nonempty, charactersQuery, holds.search]
  have locations : (charactersQuery page.filters 0).nonempty "locations" = none := by
    simp [Query.nonempty, charactersQuery, get_priceArgs, holds.locations]
  obtain ⟨age, ageIds, hasAge⟩ := idsArg_dimension holds .age
  obtain ⟨category, categoryIds, hasCategory⟩ := idsArg_dimension holds .category
  obtain ⟨grade, gradeIds, hasGrade⟩ := idsArg_dimension holds .grade
  obtain ⟨theme, themeIds, hasTheme⟩ := idsArg_dimension holds .theme
  simp only [argumentName] at ageIds categoryIds gradeIds themeIds
  have read : optionIds (charactersQuery page.filters 0) = some ⟨age, category, grade, theme⟩ := by
    simp [optionIds, ageIds, categoryIds, gradeIds, themeIds]
  rw [listed, read]
  simp only
  rw [selectedKits, List.mem_filter, mem_unique, (sortRows_perm _ _ _ _).mem_iff, mem_queriedKits,
    keptKit, floatArg_rating holds, locations, search, Bool.and_eq_true, meetsRating_iff,
    hasAge, hasCategory, hasGrade, hasTheme]
  constructor
  · rintro ⟨⟨stored, -, inAge, inCategory, inGrade, inTheme, -⟩, rating, -⟩
    refine ⟨stored, ?_, rating⟩
    intro dimension
    cases dimension with
    | age => exact inAge
    | category => exact inCategory
    | theme => exact inTheme
    | grade => exact inGrade
  · rintro ⟨stored, passes, rating⟩
    refine ⟨⟨stored, foundBy_none db kit, passes .age, passes .category, passes .grade,
      passes .theme, ?_⟩, rating, rfl⟩
    intro low high bounded
    cases bounded

end Listed

/-- The kit is on one of the pages that `CharacterList` obtains. -/
def Obtained (platform : Platform) (db : Database) (page : CardsPage) (kit : Kit) : Prop :=
  ∃ number, kit ∈ characters platform db page.filters number

private theorem obtained_iff {platform : Platform} {db : Database} {itemsPerPage : Nat}
    (positive : 0 < itemsPerPage) (sortBy sortDir : String) (actions : List FilterAction)
    (kit : Kit) :
    Obtained platform db (cardsAfter itemsPerPage sortBy sortDir actions) kit ↔
      kit ∈ db.kits.rows ∧ MeetsOptions (selected actions) kit ∧
        MeetsRating platform db (selected actions) kit := by
  have holds := holds_run itemsPerPage sortBy sortDir actions
  have pages : ∀ number,
      characters platform db (cardsAfter itemsPerPage sortBy sortDir actions).filters number =
        pageOf (listed platform db (cardsAfter itemsPerPage sortBy sortDir actions).filters)
          itemsPerPage number := by
    intro number
    rw [characters_eq_pageOf, holds.itemsPerPage]
  unfold Obtained
  simp only [pages]
  rw [mem_pageOf_iff positive]
  exact mem_listed_iff holds kit

def plainPlatform : Platform where
  floats := .exact
  roundTenth := id
  databaseAverage := id
  bindsSpecials := true
  textLe a b := a ≤ b
  textLe_trans a b c first second := by
    simp only [decide_eq_true_eq] at first second ⊢
    exact String.le_trans first second
  textLe_total a b := by
    simp only [Bool.or_eq_true, decide_eq_true_eq]
    exact String.le_total a b

/-- The only kit of the sample shop, at ten dollars in the library. -/
def sandTray : Kit := ⟨1, "Sand tray", "A tray of sand", "/tray.png", 10, [], [], [], []⟩

/-- The catalogue shows exactly the kits that satisfy every selection if and only if no kit with
the selected options and rating fails the price range or the locations. -/
theorem catalogue_shows_selection_iff (platform : Platform) (db : Database) (itemsPerPage : Nat)
    (positive : 0 < itemsPerPage) (sortBy sortDir : String) (actions : List FilterAction) :
    (∀ kit, Obtained platform db (cardsAfter itemsPerPage sortBy sortDir actions) kit ↔
        kit ∈ db.kits.rows ∧ Satisfies platform db (selected actions) kit) ↔
      ∀ kit ∈ db.kits.rows, MeetsOptions (selected actions) kit →
        MeetsRating platform db (selected actions) kit →
        MeetsPrice (selected actions) kit ∧ MeetsLocation db (selected actions) kit := by
  simp only [obtained_iff positive]
  constructor
  · intro exact_list kit stored options rating
    obtain ⟨-, satisfied⟩ := (exact_list kit).mp ⟨stored, options, rating⟩
    exact ⟨satisfied.price, satisfied.location⟩
  · intro rest kit
    constructor
    · rintro ⟨stored, options, rating⟩
      obtain ⟨price, location⟩ := rest kit stored options rating
      exact ⟨stored, options, rating, price, location⟩
    · rintro ⟨stored, satisfied⟩
      exact ⟨stored, satisfied.options, satisfied.rating⟩

theorem tray_is_shown_for_its_price :
    Obtained plainPlatform (shelfOnly 3).db (cardsAfter 12 "name" "asc" [.movePrice 5 20])
      sandTray := by
  have options : ∀ kit, MeetsOptions (selected [.movePrice 5 20]) kit := fun _ _ => Or.inl rfl
  have rating : ∀ kit, MeetsRating plainPlatform (shelfOnly 3).db (selected [.movePrice 5 20])
      kit := nofun
  have location : ∀ kit, MeetsLocation (shelfOnly 3).db (selected [.movePrice 5 20]) kit :=
    fun _ => Or.inl rfl
  have price : MeetsPrice (selected [.movePrice 5 20]) sandTray := by
    intro low high chosen
    cases chosen
    norm_num [sandTray]
  have rest : ∀ kit ∈ (shelfOnly 3).db.kits.rows,
      MeetsOptions (selected [.movePrice 5 20]) kit →
      MeetsRating plainPlatform (shelfOnly 3).db (selected [.movePrice 5 20]) kit →
      MeetsPrice (selected [.movePrice 5 20]) kit ∧
        MeetsLocation (shelfOnly 3).db (selected [.movePrice 5 20]) kit := by
    intro kit stored _ _
    rw [List.mem_singleton.mp stored]
    exact ⟨price, location _⟩
  refine ((catalogue_shows_selection_iff plainPlatform (shelfOnly 3).db 12 (by decide) "name" "asc"
    [.movePrice 5 20]).mpr rest sandTray).mpr ?_
  exact ⟨List.mem_singleton_self _, options _, rating _, price, location _⟩

/-- The tray costs ten dollars and is kept in the library; it is shown to a user who asks for
kits of twenty to thirty dollars, and to one who asks for kits in the harbour. -/
theorem price_and_location_are_dropped :
    (Obtained plainPlatform (shelfOnly 3).db (cardsAfter 12 "name" "asc" [.movePrice 20 30])
        sandTray ∧
      ¬ Satisfies plainPlatform (shelfOnly 3).db (selected [.movePrice 20 30]) sandTray) ∧
    Obtained plainPlatform (shelfOnly 3).db
        (cardsAfter 12 "name" "asc" [.toggleLocation "Harbour"]) sandTray ∧
      ¬ Satisfies plainPlatform (shelfOnly 3).db (selected [.toggleLocation "Harbour"])
        sandTray := by
  have stored : sandTray ∈ (shelfOnly 3).db.kits.rows := List.mem_singleton_self _
  refine ⟨⟨?_, ?_⟩, ?_, ?_⟩
  · exact (obtained_iff (by decide) _ _ _ _).mpr ⟨stored, fun _ => Or.inl rfl, nofun⟩
  · intro satisfied
    have within := satisfied.price 20 30 rfl
    norm_num [sandTray] at within
  · exact (obtained_iff (by decide) _ _ _ _).mpr ⟨stored, fun _ => Or.inl rfl, nofun⟩
  · intro satisfied
    rcases satisfied.location with none | ⟨inv, kept, named⟩
    · exact absurd none (by decide)
    · have place : inv.locationName = "Library" := by
        have listed := (List.mem_filter.mp kept).1
        rw [List.mem_singleton.mp listed]
        rfl
      rw [place] at named
      exact absurd named (by decide)

end ProductSite.Browse.Kits
