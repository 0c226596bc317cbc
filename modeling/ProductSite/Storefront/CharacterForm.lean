/- Module: ProductSite/Storefront/CharacterForm
   source: react-router-bootstrap-app/src/components/CharacterForm.jsx,
     react-router-bootstrap-app/src/pages/EditCharacterPage.jsx
   digest: The form of a kit: how it is filled while its options arrive, and what it submits. -/

import ProductSite.Backend.KitSchema
import ProductSite.Foundation.Runs

set_option autoImplicit false
set_option relaxedAutoImplicit false

namespace ProductSite.Storefront.CharacterForm

open ProductSite.Foundation.Runs
open ProductSite.Foundation.Wire (JsonField Reply readNat readNat_toString)
open ProductSite.Backend.Models
open ProductSite.Backend.KitRoutes
open ProductSite.Backend.KitSchema
open ProductSite.Backend.Listings (Platform)

/-- The fields of the form. The chosen options are texts, and the price is blank or a number;
the keys of the kit's JSON that the form does not show are carried along. -/
structure FormData where
  name : String
  imageUrl : String
  price : Option ℚ
  description : String
  ageIds : List String
  categoryIds : List String
  themeIds : List String
  gradeIds : List String
  inventories : JsonField (List InventoryData)
  dumpOnly : DumpOnly

def FormData.blank : FormData :=
  ⟨"", "", none, "", [], [], [], [], .value [], DumpOnly.absent⟩

/-- `String(option.id)` for each option. -/
def idTexts (options : List KitOption) : List String :=
  options.map (fun option => toString option.id)

/-- `{...initialData, age_ids: ..}`: all keys of the kit's JSON, and the ids of its options. -/
def FormData.ofKit (initialData : KitDump) : FormData where
  name := initialData.name
  imageUrl := initialData.imageUrl
  price := some initialData.price
  description := initialData.description
  ageIds := idTexts initialData.age
  categoryIds := idTexts initialData.category
  themeIds := idTexts initialData.theme
  gradeIds := idTexts initialData.grade
  inventories := .absent
  dumpOnly :=
    { id := .value initialData.id
      age := .value initialData.age
      category := .value initialData.category
      grade := .value initialData.grade
      theme := .value initialData.theme
      averageRating := .ofOption initialData.averageRating
      reviewCount := .value initialData.reviewCount
      inventoryOutput := .value initialData.inventoryOutput }

structure FormState where
  formData : FormData
  urlError : String
  options : OptionKind → List KitOption

/-- The effect on `initialData` and the options; it waits for ages and categories only. -/
def fillForm (initialData : Option KitDump) (form : FormState) : FormState :=
  match initialData with
  | none => form
  | some kit =>
      if form.options .age ≠ [] ∧ form.options .category ≠ [] then
        { form with formData := FormData.ofKit kit }
      else form

/-- The answer to one of the four fetches of options. -/
structure Arrival where
  kind : OptionKind
  options : List KitOption

/-- Set the options; the effect runs after it. -/
def receive (initialData : Option KitDump) (form : FormState) (arrival : Arrival) : FormState :=
  fillForm initialData
    { form with options := Function.update form.options arrival.kind arrival.options }

def mountForm (initialData : Option KitDump) : FormState :=
  fillForm initialData ⟨FormData.blank, "", fun _ => []⟩

/-- The form that nobody has edited, after some of the fetches. -/
def formAfter (initialData : Option KitDump) (arrivals : List Arrival) : FormState :=
  run (receive initialData) (mountForm initialData) arrivals

/-- `ids.map(Number)`. A text that is no number is sent as a null in the list, and like a null
in its place it is refused. -/
def numbers (ids : List String) : JsonField (List Nat) := .ofOption (ids.mapM readNat)

/-- What `handleSubmit` passes to `onSubmit`; with an error of the image URL it only alerts.
A blank price is a text, which is refused like a null. -/
def handleSubmit (form : FormState) : Option KitJson :=
  if form.urlError ≠ "" then none
  else
    let formData := form.formData
    some
      { body :=
          { name := .value formData.name
            imageUrl := .value formData.imageUrl
            price := .ofOption formData.price
            description := .value formData.description
            ageIds := numbers formData.ageIds
            categoryIds := numbers formData.categoryIds
            gradeIds := numbers formData.gradeIds
            themeIds := numbers formData.themeIds
            inventories := formData.inventories }
        dumpOnly := formData.dumpOnly }

/-- What the option endpoints answer, in the order in which the answers arrive. -/
def answers (db : Database) (kinds : List OptionKind) : List Arrival :=
  kinds.map fun kind => ⟨kind, (optionsOf db kind).rows⟩

/-- The page of a kit: it fetches the kit, shows the form with it, and when the form is submitted
sends the PUT of `handleEditSubmit`. No request is sent if the form refuses to submit. -/
def editUnedited (platform : Platform) (session : Session) (s : State) (id : Nat)
    (kinds : List OptionKind) : Option (Reply Kit × State) :=
  match getKit platform s.db id with
  | .ok _ initialData =>
      (handleSubmit (formAfter (some initialData) (answers s.db kinds))).map
        (updateKitJson session s id)
  | _ => none

private theorem numbers_idTexts (options : List KitOption) :
    numbers (idTexts options) = .value (options.map KitOption.id) := by
  have read : (idTexts options).mapM readNat = some (options.map KitOption.id) := by
    induction options with
    | nil => rfl
    | cons option rest ih =>
        rw [idTexts] at ih ⊢
        rw [List.map_cons, List.mapM_cons, ih, readNat_toString]
        rfl
  rw [numbers, read]
  rfl

section Filling

variable (kit : KitDump)

private theorem fillForm_options (initialData : Option KitDump) (form : FormState) :
    (fillForm initialData form).options = form.options := by
  unfold fillForm
  split
  · rfl
  · split <;> rfl

private theorem fillForm_urlError (initialData : Option KitDump) (form : FormState) :
    (fillForm initialData form).urlError = form.urlError := by
  unfold fillForm
  split
  · rfl
  · split <;> rfl

private theorem fillForm_filled {form : FormState} (ages : form.options .age ≠ [])
    (categories : form.options .category ≠ []) :
    (fillForm (some kit) form).formData = FormData.ofKit kit := by
  simp only [fillForm, if_pos (And.intro ages categories)]

private theorem receive_options (initialData : Option KitDump) (form : FormState)
    (arrival : Arrival) :
    (receive initialData form arrival).options =
      Function.update form.options arrival.kind arrival.options :=
  fillForm_options initialData _

private theorem formAfter_snoc (initialData : Option KitDump) (arrivals : List Arrival)
    (arrival : Arrival) :
    formAfter initialData (arrivals ++ [arrival]) =
      receive initialData (formAfter initialData arrivals) arrival :=
  run_snoc _ _ _ _

theorem formAfter_urlError (initialData : Option KitDump) (arrivals : List Arrival) :
    (formAfter initialData arrivals).urlError = "" := by
  induction arrivals using List.reverseRecOn with
  | nil => exact fillForm_urlError initialData _
  | append_singleton handled arrival ih =>
      rw [formAfter_snoc]
      exact (fillForm_urlError initialData _).trans ih

theorem formAfter_answers (initialData : Option KitDump) (db : Database)
    {kinds : List OptionKind} {kind : OptionKind} (arrived : kind ∈ kinds) :
    (formAfter initialData (answers db kinds)).options kind = (optionsOf db kind).rows := by
  induction kinds using List.reverseRecOn with
  | nil => cases arrived
  | append_singleton earlier last ih =>
      rw [answers, List.map_append, List.map_singleton, formAfter_snoc, receive_options]
      by_cases here : kind = last
      · subst here
        exact Function.update_self _ _ _
      · rw [Function.update_of_ne here]
        have before : kind ∈ earlier := by
          rcases List.mem_append.mp arrived with before | now
          · exact before
          · exact absurd (List.mem_singleton.mp now) here
        exact ih before

/-- Once there are ages and categories, the form shows the kit. -/
theorem formAfter_filled {arrivals : List Arrival}
    (ages : (formAfter (some kit) arrivals).options .age ≠ [])
    (categories : (formAfter (some kit) arrivals).options .category ≠ []) :
    (formAfter (some kit) arrivals).formData = FormData.ofKit kit := by
  induction arrivals using List.reverseRecOn with
  | nil =>
      have unset : (mountForm (some kit)).options .age = [] := by
        rw [mountForm, fillForm_options]
      exact absurd unset ages
  | append_singleton handled arrival _ =>
      rw [formAfter_snoc, receive] at ages categories ⊢
      rw [fillForm_options] at ages categories
      exact fillForm_filled kit ages categories

/-- The fields of a kit and the ids of the options that it was shown with. -/
def shownBody : KitBody :=
  ⟨.value kit.name, .value kit.imageUrl, .value kit.price, .value kit.description,
    .value (kit.age.map KitOption.id), .value (kit.category.map KitOption.id),
    .value (kit.grade.map KitOption.id), .value (kit.theme.map KitOption.id), .absent⟩

theorem handleSubmit_filled {form : FormState} (valid : form.urlError = "")
    (filled : form.formData = FormData.ofKit kit) :
    ∃ data, handleSubmit form = some data ∧ data.body = shownBody kit := by
  refine ⟨_, if_neg (not_not.mpr valid), ?_⟩
  simp only [filled, FormData.ofKit, numbers_idTexts, JsonField.ofOption, shownBody]

end Filling

end ProductSite.Storefront.CharacterForm
