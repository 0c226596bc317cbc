/- Module: ProductSite/Browse/KitListing
   source: backend/app/routes/kit_routes.py, backend/app/models/kits.py
   digest: The listing of the kits is a slice of the sorted list of the kits that match. -/

import Mathlib.Data.List.ProdSigma
import ProductSite.Backend.Listings

set_option autoImplicit false
set_option relaxedAutoImplicit false

namespace ProductSite.Browse.KitListing

open ProductSite.Foundation.Floats (FloatValue)
open ProductSite.Foundation.Joins
open ProductSite.Foundation.KeyedTable (Table)
open ProductSite.Foundation.Listing
open ProductSite.Foundation.Numerals (isdigit readInt_of_readNat)
open ProductSite.Foundation.Wire (readNat readNat_toString)
open ProductSite.Backend.Models
open ProductSite.Backend.Listings

section Digits

/-- Every token of digits is one of ASCII digits. -/
def PlainIds (text : String) : Prop :=
  ∀ token ∈ splitAt ',' text, isdigit token = true → (readNat token).isSome = true

instance (text : String) : Decidable (PlainIds text) :=
  inferInstanceAs (Decidable (∀ token ∈ splitAt ',' text,
    isdigit token = true → (readNat token).isSome = true))

/-- The tokens that are no ASCII digits are skipped where no other digits are given. -/
theorem intIds_of_plain {text : String} (plain : PlainIds text) :
    intIds text = some (readIds text) := by
  unfold PlainIds at plain
  unfold intIds readIds
  generalize splitAt ',' text = tokens at plain ⊢
  induction tokens with
  | nil => rfl
  | cons token rest ih =>
      have later := ih fun other member => plain other (List.mem_cons_of_mem token member)
      cases read : readNat token with
      | none =>
          have skipped : isdigit token = false := by
            rw [Bool.eq_false_iff]
            intro digits
            have number := plain token List.mem_cons_self digits
            rw [read] at number
            cases number
          simpa [skipped, read] using later
      | some n =>
          obtain ⟨digits, value⟩ := readInt_of_readNat read
          simp [digits, value, read, later]

private theorem plainIds_joinComma {ids : List Nat} (some_id : ids ≠ []) :
    PlainIds (joinComma (ids.map toString)) := by
  intro token member _
  rw [splitAt_ids some_id] at member
  obtain ⟨n, -, rfl⟩ := List.mem_map.mp member
  rw [readNat_toString]
  rfl

theorem intIds_joinComma {ids : List Nat} (some_id : ids ≠ []) :
    intIds (joinComma (ids.map toString)) = some ids := by
  rw [intIds_of_plain (plainIds_joinComma some_id), readIds_joinComma some_id]

end Digits

section Matching

variable {platform : Platform} {db : Database} {args : Query} {ids : OptionIds}
  {bounds : Option (FloatValue × FloatValue)} {kit : Kit} {rows : List Kit}

/-- One of the options is in the list of ids, if one is given. -/
def HasOneOf (ids : Option (List Nat)) (options : List Nat) : Prop :=
  ∀ list, ids = some list → ∃ id ∈ options, id ∈ list

theorem hasOneOf_none (options : List Nat) : HasOneOf none options := by
  intro list given
  cases given

/-- The kit is linked with some row of the inventory, and a text of the kit or the address of any
row has what is searched for. -/
def FoundBy (db : Database) (search : Option String) (kit : Kit) : Prop :=
  ∀ text, search = some text → (∃ link ∈ db.kitInventory, link.1 = kit.id) ∧
    ∃ inv ∈ db.inventory.rows, searchTerm text kit inv = true

theorem foundBy_none (db : Database) (kit : Kit) : FoundBy db none kit := by
  intro text given
  cases given

/-- The kit has one of the ids of every given dimension, a price in the range, a rounded average
of at least the minimum, which counts as zero without reviews, and an inventory in one of the
given places. -/
structure Listed (platform : Platform) (db : Database) (args : Query) (ids : OptionIds)
    (bounds : Option (FloatValue × FloatValue)) (kit : Kit) : Prop where
  stored : kit ∈ db.kits.rows
  age : HasOneOf ids.age kit.age
  category : HasOneOf ids.category kit.category
  grade : HasOneOf ids.grade kit.grade
  theme : HasOneOf ids.theme kit.theme
  price : ∀ low high, bounds = some (low, high) →
    low.atMost kit.price = true ∧ high.atLeast kit.price = true
  rating : ∀ rating, floatArg platform args "min_rating" = some rating →
    rating.atMost ((averageRating platform db kit).getD 0) = true
  location : ∀ text, args.nonempty "locations" = some text →
    ∃ place ∈ locationList text, ∃ inv ∈ db.inventory.rows, inv.kitId = kit.id ∧
      place.toList <:+: inv.locationName.toList

/-- The keys of the kits are distinct, so a kit has no association but those of its options. -/
private theorem mem_associations {options : Kit → List Nat} (stored : kit ∈ db.kits.rows)
    {id : Nat} :
    (kit.id, id) ∈ associations db options ↔ id ∈ options kit := by
  rw [associations, List.mem_flatMap]
  constructor
  · rintro ⟨other, present, linked⟩
    obtain ⟨listed, member, pair⟩ := List.mem_map.mp linked
    obtain ⟨same, rfl⟩ := Prod.mk.inj pair
    have equal : other = kit := by
      have here := Table.get?_of_mem stored
      rw [← same, Table.get?_of_mem present] at here
      exact Option.some.inj here
    rw [← equal]
    exact member
  · intro member
    exact ⟨kit, stored, List.mem_map.mpr ⟨id, member, rfl⟩⟩

private theorem mem_joinOptions {table : List (Nat × Nat)} {given : Option (List Nat)} :
    kit ∈ joinOptions table given rows ↔
      kit ∈ rows ∧ ∀ list, given = some list → ∃ id ∈ list, (kit.id, id) ∈ table := by
  cases given with
  | none => simp [joinOptions]
  | some list =>
      rw [joinOptions, mem_innerJoin]
      refine and_congr_right fun _ => ?_
      simp only [Option.some.injEq, forall_eq', List.mem_filter, Bool.and_eq_true,
        decide_eq_true_eq]
      constructor
      · rintro ⟨⟨kitId, id⟩, linked, rfl, member⟩
        exact ⟨id, member, linked⟩
      · rintro ⟨id, member, linked⟩
        exact ⟨(kit.id, id), linked, rfl, member⟩

private theorem linked_iff {options : Kit → List Nat} {given : Option (List Nat)}
    (stored : kit ∈ db.kits.rows) :
    (∀ list, given = some list → ∃ id ∈ list, (kit.id, id) ∈ associations db options) ↔
      HasOneOf given (options kit) := by
  refine forall_congr' fun list => forall_congr' fun _ => exists_congr fun id => ?_
  rw [mem_associations stored, and_comm]

private theorem mem_joinSearch {search : Option String} :
    kit ∈ joinSearch db search rows ↔ kit ∈ rows ∧ FoundBy db search kit := by
  cases search with
  | none => simp [joinSearch, FoundBy]
  | some text =>
      rw [joinSearch, mem_innerJoin]
      refine and_congr_right fun _ => ?_
      simp only [FoundBy, Option.some.injEq, forall_eq']
      constructor
      · rintro ⟨⟨link, inv⟩, joined⟩
        obtain ⟨linked, tried⟩ := List.pair_mem_product.mp joined
        obtain ⟨present, same⟩ := List.mem_filter.mp linked
        obtain ⟨row, found⟩ := List.mem_filter.mp tried
        exact ⟨⟨link, present, of_decide_eq_true same⟩, inv, row, found⟩
      · rintro ⟨⟨link, present, same⟩, inv, row, found⟩
        refine ⟨(link, inv), List.pair_mem_product.mpr ⟨?_, List.mem_filter.mpr ⟨row, found⟩⟩⟩
        exact List.mem_filter.mpr ⟨present, decide_eq_true same⟩

private theorem mem_joinLoaded : kit ∈ joinLoaded db rows ↔ kit ∈ rows := by
  rw [joinLoaded, mem_outerJoin, mem_outerJoin, mem_outerJoin]

/-- Whatever is joined, a kit that is stored is among the rows if each join matches it. -/
theorem mem_queriedKits :
    kit ∈ queriedKits db args ids bounds ↔
      kit ∈ db.kits.rows ∧ FoundBy db (args.nonempty "search") kit ∧ HasOneOf ids.age kit.age ∧
        HasOneOf ids.category kit.category ∧ HasOneOf ids.grade kit.grade ∧
        HasOneOf ids.theme kit.theme ∧
        ∀ low high, bounds = some (low, high) →
          low.atMost kit.price = true ∧ high.atLeast kit.price = true := by
  have price : bounds.all (fun range => range.1.atMost kit.price && range.2.atLeast kit.price) =
      true ↔ ∀ low high, bounds = some (low, high) →
        low.atMost kit.price = true ∧ high.atLeast kit.price = true := by
    cases bounds with
    | none => simp
    | some range =>
        obtain ⟨low, high⟩ := range
        simp only [Option.all_some, Bool.and_eq_true, Option.some.injEq, Prod.mk.injEq, and_imp]
        constructor
        · rintro within _ _ rfl rfl
          exact within
        · intro within
          exact within low high rfl rfl
  unfold queriedKits
  simp only [mem_joinLoaded, List.mem_filter, price, mem_joinOptions, mem_joinSearch, and_assoc]
  refine and_congr_right fun stored => ?_
  rw [linked_iff stored, linked_iff stored, linked_iff stored, linked_iff stored]

private theorem keptKit_iff :
    keptKit platform db args kit = true ↔
      (∀ rating, floatArg platform args "min_rating" = some rating →
        rating.atMost ((averageRating platform db kit).getD 0) = true) ∧
      ∀ text, args.nonempty "locations" = some text →
        ∃ place ∈ locationList text, ∃ inv ∈ db.inventory.rows, inv.kitId = kit.id ∧
          place.toList <:+: inv.locationName.toList := by
  rw [keptKit, Bool.and_eq_true]
  refine and_congr ?_ ?_
  · cases floatArg platform args "min_rating" with
    | none => simp
    | some rating => simp
  · cases args.nonempty "locations" with
    | none => simp
    | some text => simp [locatedIn, inventoriesOf]

/-- The order of a listing, by the arguments that name the column and the direction. -/
def listedBefore (platform : Platform) (db : Database) (args : Query) (a b : Kit) : Prop :=
  before platform (kitColumn platform db ((args.get "sortBy").getD "name"))
    ((args.get "sortDir").getD "asc") a b = true

/-- The joins repeat kits, the deduplication takes the repetitions out again, and neither it nor
the filters after it change the order. -/
theorem lists_selectedKits :
    Lists (listedBefore platform db args)
      (fun kit => FoundBy db (args.nonempty "search") kit ∧
        Listed platform db args ids bounds kit)
      (selectedKits platform db args ids bounds) := by
  have members : ∀ kit, kit ∈ sortRows platform
      (kitColumn platform db ((args.get "sortBy").getD "name")) ((args.get "sortDir").getD "asc")
        (queriedKits db args ids bounds) ↔ kit ∈ queriedKits db args ids bounds :=
    fun kit => (sortRows_perm _ _ _ _).mem_iff
  refine ((lists_unique (sortRows_sorted platform _ _ _) members).filter
    (keptKit platform db args)).congr ?_
  intro kit
  rw [mem_queriedKits, keptKit_iff]
  constructor
  · rintro ⟨⟨stored, found, age, category, grade, theme, price⟩, rating, location⟩
    exact ⟨found, stored, age, category, grade, theme, price, rating, location⟩
  · rintro ⟨found, listed⟩
    exact ⟨⟨listed.stored, found, listed.age, listed.category, listed.grade, listed.theme,
      listed.price⟩, listed.rating, listed.location⟩

end Matching

end ProductSite.Browse.KitListing
