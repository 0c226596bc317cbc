/- Module: ProductSite/Catalogue/OptionTables
   source: backend/app/routes/kit_routes.py, backend/app/routes/review_routes.py,
     backend/app/schemas/kit_schema.py, backend/app/models/kits.py
   digest: What every run of requests keeps of the four option tables: clean names, no name twice,
     and kits and reviews that are tagged with stored options only. -/

import Mathlib.Data.List.DropRight
import ProductSite.Browse.Search
import ProductSite.Foundation.References

set_option autoImplicit false
set_option relaxedAutoImplicit false

namespace ProductSite.Catalogue.OptionTables

open ProductSite.Foundation.Clashes (adds_insertNew)
open ProductSite.Foundation.KeyedTable (Table)
open ProductSite.Foundation.Numerals (isSpace)
open ProductSite.Foundation.References (Keeps isSome_get?_iff keeps_adds)
open ProductSite.Foundation.Runs
open ProductSite.Foundation.Wire (JsonField Reply)
open ProductSite.Access.Authentication (plainLibraries)
open ProductSite.Backend.Models
open ProductSite.Backend.Accounts (Libraries handle)
open ProductSite.Backend.CartRoutes (cartStep cartStep_frame)
open ProductSite.Backend.InventoryRoutes (deleteInventory)
open ProductSite.Backend.KitRoutes
open ProductSite.Backend.PersonalRoutes
open ProductSite.Backend.PurchaseRoutes
open ProductSite.Backend.PurchaseSaving
open ProductSite.Backend.Requests (administrator nobody shelfOnly step_frame)
open ProductSite.Backend.Site (handle_frame)
open ProductSite.Browse.Search (CatalogueRequest catalogueStep)

section Names

/-- `str.strip` leaves nothing to strip: what is cut at the end does not bare a space in front. -/
private theorem strip_strip (text : String) : strip (strip text) = strip text := by
  set inner := text.toList.dropWhile isSpace with inner_def
  have front : (inner.rdropWhile isSpace).dropWhile isSpace = inner.rdropWhile isSpace := by
    rw [List.dropWhile_eq_self_iff]
    intro nonempty
    have starts : inner.rdropWhile isSpace <+: inner := List.rdropWhile_prefix isSpace inner
    have head := starts.getElem nonempty
    have bare : inner.dropWhile isSpace = inner := List.dropWhile_idempotent isSpace text.toList
    rw [List.dropWhile_eq_self_iff] at bare
    have first := bare (Nat.lt_of_lt_of_le nonempty starts.length_le)
    rw [head]
    exact first
  unfold strip
  rw [String.toList_ofList, ← inner_def, front, List.rdropWhile_idempotent]

end Names

section Tags

/-- The options of one kind that a kit is tagged with. -/
def chosen (kit : Kit) : OptionKind → List Nat
  | .age => kit.age
  | .category => kit.category
  | .grade => kit.grade
  | .theme => kit.theme

/-- The ids are those of stored options, each once. -/
structure Drawn (options : Table KitOption.id) (ids : List Nat) : Prop where
  once : ids.Nodup
  stored : ∀ id ∈ ids, (options.get? id).isSome = true

variable {options options' : Table KitOption.id} {ids : List Nat}

private theorem drawn_nil (options : Table KitOption.id) : Drawn options [] :=
  ⟨List.nodup_nil, nofun⟩

private theorem drawn_existingOptions (options : Table KitOption.id) (asked : List Nat) :
    Drawn options (existingOptions options asked) where
  once := options.distinct.filter _
  stored := fun _ member => (mem_existingOptions.mp member).2

theorem Drawn.keeps (drawn : Drawn options ids) (keeps : Keeps options options') :
    Drawn options' ids :=
  ⟨drawn.once, fun id member => keeps id (drawn.stored id member)⟩

/-- An option that goes is taken off. -/
private theorem Drawn.detach (drawn : Drawn options ids) (gone : Nat) :
    Drawn (options.remove (fun option => option.id = gone))
      (ids.filter (fun other => other ≠ gone)) where
  once := drawn.once.filter _
  stored := by
    intro id member
    obtain ⟨tagged, other⟩ := List.mem_filter.mp member
    obtain ⟨option, present, same⟩ := isSome_get?_iff.mp (drawn.stored id tagged)
    refine isSome_get?_iff.mpr ⟨option, Table.mem_remove.mpr ⟨present, decide_eq_false ?_⟩, same⟩
    rw [same]
    exact of_decide_eq_true other

private theorem drawn_loadOptions (drawn : Drawn options ids) (asked : JsonField (List Nat)) :
    Drawn options (loadOptions options asked ids) := by
  unfold loadOptions
  split
  · exact drawn
  · exact drawn_existingOptions options _

private theorem chosen_applyTo (body : KitBody) (db : Database) (kit : Kit)
    (drawn : ∀ kind, Drawn (optionsOf db kind) (chosen kit kind)) (kind : OptionKind) :
    Drawn (optionsOf db kind) (chosen (body.applyTo db kit) kind) := by
  cases kind with
  | age => exact drawn_loadOptions (drawn .age) body.ageIds
  | category => exact drawn_loadOptions (drawn .category) body.categoryIds
  | grade => exact drawn_loadOptions (drawn .grade) body.gradeIds
  | theme => exact drawn_loadOptions (drawn .theme) body.themeIds

end Tags

/-- What the option tables are for: every name is clean, none is stored a second time as far as
the engine tells texts apart, and kits and reviews are tagged with stored options. -/
structure Sound (engine : Engine) (db : Database) : Prop where
  clean : ∀ kind, ∀ option ∈ (optionsOf db kind).rows,
    option.name ≠ "" ∧ strip option.name = option.name
  apart : ∀ kind, (optionsOf db kind).rows.Pairwise
    (fun older newer => engine.sameText older.name newer.name = false)
  kits : ∀ kind, ∀ kit ∈ db.kits.rows, Drawn (optionsOf db kind) (chosen kit kind)
  reviews : ∀ review ∈ db.reviews.rows, Drawn db.ageOptions review.age

section Steps

variable {engine : Engine} {session : Session} {s : State} {db db' : Database}

/-- A request that leaves the options alone need only draw the tags that it writes. -/
private theorem Sound.retag (sound : Sound engine db)
    (options : ∀ kind, optionsOf db' kind = optionsOf db kind)
    (kits : ∀ kit ∈ db'.kits.rows,
      kit ∈ db.kits.rows ∨ ∀ kind, Drawn (optionsOf db kind) (chosen kit kind))
    (reviews : ∀ review ∈ db'.reviews.rows,
      review ∈ db.reviews.rows ∨ Drawn db.ageOptions review.age) : Sound engine db' where
  clean := fun kind => options kind ▸ sound.clean kind
  apart := fun kind => options kind ▸ sound.apart kind
  kits := by
    intro kind kit member
    rw [options kind]
    rcases kits kit member with old | drawn
    · exact sound.kits kind kit old
    · exact drawn kind
  reviews := by
    intro review member
    have same : db'.ageOptions = db.ageOptions := options .age
    rw [same]
    rcases reviews review member with old | drawn
    · exact sound.reviews review old
    · exact drawn

/-- A request writes neither kits nor reviews nor options. -/
theorem Sound.elsewhere (sound : Sound engine db)
    (options : ∀ kind, optionsOf db' kind = optionsOf db kind)
    (kits : db'.kits = db.kits) (reviews : db'.reviews = db.reviews) : Sound engine db' :=
  sound.retag options (fun _ member => Or.inl (kits ▸ member))
    (fun _ member => Or.inl (reviews ▸ member))

/-- A creation is refused, or stores a trimmed name that no option of the kind has. -/
private theorem createOption_stores (engine : Engine) (s : State) (kind : OptionKind)
    (name : JsonField String) :
    (createOption kind engine s name).2 = s ∨
    ∃ text, strip text ≠ "" ∧
      (∀ option ∈ (optionsOf s.db kind).rows, engine.sameText option.name (strip text) = false) ∧
      (createOption kind engine s name).2 =
        { s with
          db := withOptions s.db kind
            ((optionsOf s.db kind).insertNew (fun id => ⟨id, strip text⟩) (fun _ => rfl)) } := by
  unfold createOption
  split
  · exact Or.inl rfl
  · rename_i text _
    by_cases blank : strip text = ""
    · simp only [blank, if_true]
      exact Or.inl trivial
    · simp only [blank, if_false]
      split
      · exact Or.inl rfl
      · rename_i free
        refine Or.inr ⟨text, blank, ?_, rfl⟩
        intro option member
        rw [← Bool.not_eq_true]
        intro same
        exact free ((optionTaken_iff engine).mpr ⟨option, member, same⟩)

private theorem optionsOf_withOptions_ne {kind other : OptionKind} (different : other ≠ kind)
    (db : Database) (table : Table KitOption.id) :
    optionsOf (withOptions db kind table) other = optionsOf db other := by
  cases kind <;> cases other <;> first | rfl | exact absurd rfl different

private theorem kits_withOptions (db : Database) (kind : OptionKind) (table : Table KitOption.id) :
    (withOptions db kind table).kits = db.kits := by
  cases kind <;> rfl

private theorem reviews_withOptions (db : Database) (kind : OptionKind)
    (table : Table KitOption.id) :
    (withOptions db kind table).reviews = db.reviews := by
  cases kind <;> rfl

private theorem sound_createOption (sound : Sound engine s.db) (kind : OptionKind)
    (name : JsonField String) : Sound engine (createOption kind engine s name).2.db := by
  rcases createOption_stores engine s kind name with kept | ⟨text, nonempty, free, stored⟩
  · rw [kept]
    exact sound
  · rw [stored]
    have keeps : ∀ other, Keeps (optionsOf s.db other) (optionsOf (withOptions s.db kind
        ((optionsOf s.db kind).insertNew (fun id => ⟨id, strip text⟩) (fun _ => rfl))) other) := by
      intro other
      by_cases same : other = kind
      · subst same
        rw [optionsOf_withOptions]
        exact keeps_adds (adds_insertNew (fun _ => rfl))
      · rw [optionsOf_withOptions_ne same]
        exact .refl _
    refine ⟨?_, ?_, ?_, ?_⟩
    · intro other option member
      by_cases same : other = kind
      · subst same
        rw [optionsOf_withOptions] at member
        rcases Table.mem_insertNew.mp member with old | rfl
        · exact sound.clean other option old
        · exact ⟨nonempty, strip_strip text⟩
      · rw [optionsOf_withOptions_ne same] at member
        exact sound.clean other option member
    · intro other
      by_cases same : other = kind
      · subst same
        rw [optionsOf_withOptions]
        refine List.pairwise_append.mpr ⟨sound.apart other, List.pairwise_singleton _ _, ?_⟩
        intro older member newer new
        rw [List.mem_singleton.mp new]
        exact free older member
      · rw [optionsOf_withOptions_ne same]
        exact sound.apart other
    · intro other kit member
      rw [kits_withOptions] at member
      exact (sound.kits other kit member).keeps (keeps other)
    · intro review member
      rw [reviews_withOptions] at member
      exact (sound.reviews review member).keeps (keeps .age)

private theorem chosen_detachKit (kind : OptionKind) (id : Nat) (kit : Kit) (other : OptionKind) :
    chosen (detachKit kind id kit) other =
      if other = kind then (chosen kit other).filter (fun tag => tag ≠ id)
      else chosen kit other := by
  cases kind <;> cases other <;> rfl

private theorem age_detachReview (kind : OptionKind) (id : Nat) (review : Review) :
    (detachReview kind id review).age =
      if .age = kind then review.age.filter (fun tag => tag ≠ id) else review.age := by
  cases kind <;> rfl

private theorem optionsOf_withoutOption (db : Database) (kind other : OptionKind) (id : Nat) :
    optionsOf (withoutOption db kind id) other =
      if other = kind then (optionsOf db other).remove (fun option => option.id = id)
      else optionsOf db other := by
  cases kind <;> cases other <;> rfl

private theorem sound_deleteOption (sound : Sound engine s.db) (kind : OptionKind) (id : Nat) :
    Sound engine (deleteOption kind s id).2.db := by
  rcases deleteOption_cases s kind id with ⟨-, kept⟩ | ⟨_, -, deleted⟩
  · rw [kept]
    exact sound
  · rw [deleted]
    -- the tags of one kind lose the option together with its table; the others stay
    have detached : ∀ other ids, Drawn (optionsOf s.db other) ids →
        Drawn (optionsOf (withoutOption s.db kind id) other)
          (if other = kind then ids.filter (fun tag => tag ≠ id) else ids) := by
      intro other ids drawn
      rw [optionsOf_withoutOption]
      split
      · exact drawn.detach id
      · exact drawn
    refine ⟨?_, ?_, ?_, ?_⟩
    · intro other option member
      rw [optionsOf_withoutOption] at member
      split at member
      · exact sound.clean other option (Table.mem_remove.mp member).1
      · exact sound.clean other option member
    · intro other
      rw [optionsOf_withoutOption]
      split
      · exact (sound.apart other).filter _
      · exact sound.apart other
    · intro other kit member
      have mapped : kit ∈ s.db.kits.rows.map (detachKit kind id) := by
        rw [withoutOption, kits_withOptions] at member
        exact member
      obtain ⟨old, present, rfl⟩ := List.mem_map.mp mapped
      rw [chosen_detachKit]
      exact detached other _ (sound.kits other old present)
    · intro review member
      have mapped : review ∈ s.db.reviews.rows.map (detachReview kind id) := by
        rw [withoutOption, reviews_withOptions] at member
        exact member
      obtain ⟨old, present, rfl⟩ := List.mem_map.mp mapped
      rw [age_detachReview]
      exact detached .age _ (sound.reviews old present)

private theorem sound_adminRequired {β : Type} {handler : Nat → Reply β × State}
    (sound : Sound engine s.db) (handled : ∀ user, Sound engine (handler user).2.db) :
    Sound engine (adminRequired session s handler).2.db := by
  unfold adminRequired
  split
  · exact sound
  · split
    · exact handled _
    · exact sound

/-- A kit is stored with tags that `load_relationships` has looked up, or that it had. -/
private theorem sound_withKits {table : Table Kit.id} (sound : Sound engine s.db)
    (drawn : ∀ kit ∈ table.rows,
      kit ∈ s.db.kits.rows ∨ ∀ kind, Drawn (optionsOf s.db kind) (chosen kit kind)) :
    Sound engine (withKits s table).db := by
  refine sound.retag ?_ drawn (fun _ member => Or.inl member)
  intro kind
  cases kind <;> rfl

private theorem sound_createKit (sound : Sound engine s.db) (body : KitBody) :
    Sound engine (createKit session s body).2.db := by
  have stored : Sound engine
      (withKits s (s.db.kits.insertNew (newKit body s.db) (fun _ => rfl))).db := by
    refine sound_withKits sound ?_
    intro kit member
    rcases Table.mem_insertNew.mp member with old | rfl
    · exact Or.inl old
    · refine Or.inr (chosen_applyTo body s.db _ ?_)
      intro kind
      cases kind <;> exact drawn_nil _
  rw [createKit_eq]
  refine sound_adminRequired sound fun _ => ?_
  split
  · exact sound
  · simp only
    split
    · exact stored
    · split
      · exact stored
      · exact stored

private theorem sound_updateKit (sound : Sound engine s.db) (id : Nat) (body : KitBody) :
    Sound engine (updateKit session s id body).2.db := by
  refine sound_adminRequired sound fun _ => ?_
  split
  · exact sound
  · rename_i kit found
    split
    · exact sound
    · simp only [assignOptions_applyTo]
      refine sound_withKits sound ?_
      intro other member
      rcases Table.mem_save.mp member with ⟨rfl, -⟩ | ⟨old, -⟩
      · have present := (Table.get?_eq_some_iff.mp found).1
        exact Or.inr (chosen_applyTo body s.db kit (fun kind => sound.kits kind kit present))
      · exact Or.inl old

private theorem sound_deleteKit (sound : Sound engine s.db) (id : Nat) :
    Sound engine (deleteKit session s id).2.db := by
  rcases deleteKit_cases session s id with ⟨-, -, kept⟩ | ⟨-, deleted⟩
  · rw [kept]
    exact sound
  · rw [deleted]
    refine sound.retag ?_ (fun _ member => Or.inl (Table.mem_remove.mp member).1)
      (fun _ member => Or.inl member)
    intro kind
    cases kind <;> rfl

private theorem sound_kitStep (sound : Sound engine s.db) (call : KitCall) :
    Sound engine (kitStep engine s call).db := by
  obtain ⟨session, request⟩ := call
  cases request with
  | list => exact sound
  | createKit body => exact sound_createKit sound body
  | updateKit id body => exact sound_updateKit sound id body
  | deleteKit id => exact sound_deleteKit sound id
  | createOption kind name =>
      rw [kitStep_createOption]
      exact sound_createOption sound kind name
  | deleteOption kind id =>
      rw [kitStep_deleteOption]
      exact sound_deleteOption sound kind id

/-- Each review after a request was there before, or has ages that were looked up. -/
def ReviewsDrawn (s after : State) : Prop :=
  ∀ review ∈ after.db.reviews.rows, review ∈ s.db.reviews.rows ∨ Drawn s.db.ageOptions review.age

theorem ReviewsDrawn.of_eq {after : State} (same : after.db.reviews = s.db.reviews) :
    ReviewsDrawn s after :=
  fun _ member => Or.inl (same ▸ member)

private theorem reviewsDrawn_storeReview (engine : Engine) (s : State) (kitId user : Nat)
    (rating : Int) (body : ReviewBody) (ids : List Nat) :
    ReviewsDrawn s (storeReview engine s kitId user rating body
      (existingOptions s.db.ageOptions ids)).2 := by
  rcases storeReview_cases engine s kitId user rating body
      (existingOptions s.db.ageOptions ids) with
    ⟨_, -, stored⟩ | ⟨-, -, stored⟩ | ⟨-, refused⟩
  · rw [stored]
    intro review member
    rcases Table.mem_save.mp member with ⟨rfl, -⟩ | ⟨old, -⟩
    · exact Or.inr (drawn_existingOptions _ ids)
    · exact Or.inl old
  · rw [stored]
    intro review member
    rcases ((adds_insertNew (fun _ => rfl)).members review).mp member with old | rfl
    · exact Or.inl old
    · exact Or.inr (drawn_existingOptions _ ids)
  · exact .of_eq (congrArg (·.2.db.reviews) refused)

private theorem reviewsDrawn_of_write {server : Server} {after : State}
    (write : PersonalWrite server s session after) : ReviewsDrawn s after := by
  cases write with
  | kept => exact .of_eq rfl
  | favorites table => exact .of_eq rfl
  | review kitId user rating body ids =>
      exact reviewsDrawn_storeReview server.engine s kitId user rating body ids
  | reviewGone gone => exact fun review member => Or.inl (Table.mem_remove.mp member).1
  | address table => exact .of_eq rfl
  | purchaseGone gone => exact .of_eq rfl
  | order stripe now body =>
      obtain ⟨_, _, _, after⟩ := createPurchase_frame server session stripe now s body
      exact .of_eq (congrArg (·.db.reviews) after)
  | orderUpdate purchaseId body =>
      rw [updatePurchase_state]
      split
      · exact .of_eq rfl
      · exact .of_eq rfl

private theorem sound_step {libraries : Libraries} {server : Server} (s : State)
    (request : CatalogueRequest) (sound : Sound server.engine s.db) :
    Sound server.engine (catalogueStep libraries server s request).db := by
  have options : ∀ {db' : Database}, db'.ageOptions = s.db.ageOptions →
      db'.categoryOptions = s.db.categoryOptions → db'.gradeOptions = s.db.gradeOptions →
      db'.themeOptions = s.db.themeOptions → ∀ kind, optionsOf db' kind = optionsOf s.db kind := by
    intro db' age category grade theme kind
    cases kind with
    | age => exact age
    | category => exact category
    | grade => exact grade
    | theme => exact theme
  cases request with
  | deleteInventory session kitId location =>
      change Sound server.engine (deleteInventory server.engine session s kitId location).2.db
      unfold deleteInventory
      refine sound_adminRequired sound fun _ => ?_
      split
      · exact sound
      · exact sound.elsewhere (options rfl rfl rfl rfl) rfl rfl
  | site request =>
      cases request with
      | account session request =>
          change Sound server.engine (handle libraries server.engine session s request).state.db
          obtain ⟨_, _, _, after⟩ : ∃ users addresses purchases,
              (handle libraries server.engine session s request).state = { s with db := { s.db with
                users := users, shippingAddresses := addresses, purchases := purchases } } :=
            handle_frame request
          rw [after]
          exact sound.elsewhere (options rfl rfl rfl rfl) rfl rfl
      | stock request =>
          obtain ⟨_, _, _, _, after⟩ := step_frame server s request
          change Sound server.engine (Backend.Requests.step server s request).db
          rw [after]
          exact sound.elsewhere (options rfl rfl rfl rfl) rfl rfl
      | cart call =>
          obtain ⟨_, after⟩ := cartStep_frame server.engine s call
          change Sound server.engine (cartStep server.engine s call).db
          rw [after]
          exact sound.elsewhere (options rfl rfl rfl rfl) rfl rfl
      | personal call =>
          obtain ⟨_, _, _, _, _, _, _, after⟩ := (personalStep_frame server s call).writes
          have reviews := reviewsDrawn_of_write (personalStep_writes server s call)
          change Sound server.engine (personalStep server s call).db
          rw [after] at reviews ⊢
          exact sound.retag (options rfl rfl rfl rfl) (fun _ member => Or.inl member) reviews
      | kit call => exact sound_kitStep sound call

end Steps

/-- Along every run of requests, on any engine, option names are clean and stored once, and the
options of kits and reviews exist. The handlers see to it before a constraint of the tables can. -/
theorem option_tables_sound_along (libraries : Libraries) (server : Server) (s : State)
    (requests : List CatalogueRequest) (start : Sound server.engine s.db) :
    Along (catalogueStep libraries server) (fun t => Sound server.engine t.db) s requests := by
  have keeps : ∀ t request, Sound server.engine t.db →
      Sound server.engine (catalogueStep libraries server t request).db :=
    fun t request sound => sound_step t request sound
  exact along_of_kept keeps start requests

private theorem sound_shelfOnly (engine : Engine) (quantity : Int) :
    Sound engine (shelfOnly quantity).db := by
  refine ⟨?_, ?_, ?_, nofun⟩
  · intro kind option member
    cases kind <;> cases member
  · intro kind
    cases kind <;> exact List.Pairwise.nil
  · intro kind kit member
    rw [List.mem_singleton.mp member]
    cases kind <;> exact drawn_nil _

/-- Anyone may add an age, which is stored trimmed and once; the kit that is tagged with it, and
with an age that does not exist, loses it when anyone deletes it. -/
theorem age_comes_and_goes :
    let create : String → CatalogueRequest :=
      fun name => .site (.kit ⟨nobody, .createOption .age (.value name)⟩)
    let tag : CatalogueRequest := .site (.kit ⟨administrator, .updateKit 1
      ⟨.absent, .absent, .absent, .absent, .value [1, 7], .absent, .absent, .absent, .absent⟩⟩)
    let delete : CatalogueRequest := .site (.kit ⟨nobody, .deleteOption .age 1⟩)
    let ages : List CatalogueRequest → List KitOption × List (List Nat) := fun requests =>
      let after := run (catalogueStep plainLibraries ⟨.mysql, 0, .binary⟩) (shelfOnly 3) requests
      (after.db.ageOptions.rows, after.db.kits.rows.map Kit.age)
    Along (catalogueStep plainLibraries ⟨.mysql, 0, .binary⟩) (fun t => Sound .mysql t.db)
        (shelfOnly 3) [create " Toddler ", create "toddler", tag, delete] ∧
      ages [create " Toddler ", create "toddler", tag] = ([⟨1, "Toddler"⟩], [[1]]) ∧
      ages [create " Toddler ", create "toddler", tag, delete] = ([], [[]]) :=
  ⟨option_tables_sound_along plainLibraries ⟨.mysql, 0, .binary⟩ (shelfOnly 3) _
      (sound_shelfOnly .mysql 3),
    by decide, by decide⟩

end ProductSite.Catalogue.OptionTables
