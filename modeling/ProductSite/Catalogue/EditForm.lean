/- Module: ProductSite/Catalogue/EditForm
   source: react-router-bootstrap-app/src/components/CharacterForm.jsx,
     react-router-bootstrap-app/src/pages/EditCharacterPage.jsx,
     backend/app/routes/kit_routes.py, backend/app/schemas/kit_schema.py
   digest: A kit that goes through the form unedited comes back as it was. -/

import ProductSite.Browse.Kits
import ProductSite.Storefront.CharacterForm

set_option autoImplicit false
set_option relaxedAutoImplicit false

namespace ProductSite.Catalogue.EditForm

open ProductSite.Foundation.KeyedTable (Table)
open ProductSite.Backend.Models
open ProductSite.Backend.PersonalRoutes (existingOptions)
open ProductSite.Backend.KitRoutes
open ProductSite.Backend.KitSchema
open ProductSite.Backend.Listings (Platform)
open ProductSite.Backend.Requests (administrator shelfOnly)
open ProductSite.Browse.Kits (plainPlatform)
open ProductSite.Storefront.CharacterForm

/-- The kit reads the same from both databases: its columns, and its options as sets. -/
structure ReadsSame (db : Database) (kit : Kit) (db' : Database) (kit' : Kit) : Prop where
  id : kit'.id = kit.id
  name : kit'.name = kit.name
  description : kit'.description = kit.description
  imageUrl : kit'.imageUrl = kit.imageUrl
  price : kit'.price = kit.price
  options : ∀ kind option, option ∈ kitOptions db' kit' kind ↔ option ∈ kitOptions db kit kind

variable {platform : Platform} {s : State} {kit : Kit}

private theorem associated_shownBody (db : Database) (kind : OptionKind) :
    associated ((shownBody (dumpKit platform db kit)).applyTo db kit) kind =
      existingOptions (optionsOf db kind) ((kitOptions db kit kind).map KitOption.id) := by
  cases kind <;> rfl

private theorem readsSame_shownBody (db : Database) (table : Table Kit.id) :
    ReadsSame db kit { db with kits := table }
      ((shownBody (dumpKit platform db kit)).applyTo db kit) := by
  refine ⟨rfl, rfl, rfl, rfl, rfl, ?_⟩
  intro kind option
  have stored : optionsOf { db with kits := table } kind = optionsOf db kind := by
    cases kind <;> rfl
  rw [kitOptions, stored, associated_shownBody]
  exact mem_optionsIn_reloaded

/-- Once the form has received ages and categories, what it submits unedited is the kit it was
shown. -/
private theorem editUnedited_eq {session : Session} {id : Nat} {kinds : List OptionKind}
    (found : s.db.kits.get? id = some kit) (ages : s.db.ageOptions.rows ≠ [])
    (categories : s.db.categoryOptions.rows ≠ []) (ageArrived : OptionKind.age ∈ kinds)
    (categoryArrived : OptionKind.category ∈ kinds) :
    editUnedited platform session s id kinds =
      some (updateKit session s id (shownBody (dumpKit platform s.db kit))) := by
  have shown : getKit platform s.db id = .ok 200 (dumpKit platform s.db kit) := by
    rw [getKit, found]
  have filled : (formAfter (some (dumpKit platform s.db kit)) (answers s.db kinds)).formData =
      FormData.ofKit (dumpKit platform s.db kit) := by
    apply formAfter_filled
    · rw [formAfter_answers _ _ ageArrived]
      exact ages
    · rw [formAfter_answers _ _ categoryArrived]
      exact categories
  obtain ⟨data, submitted, body⟩ := handleSubmit_filled _ (formAfter_urlError _ _) filled
  rw [editUnedited, shown]
  simp only [submitted, Option.map_some, updateKitJson, stripDumpOnlyFields, body]

/-- Opened on a stored kit and submitted unedited by an administrator, the form is answered with
200, the kit reads as before, and no other kit and no other table is written. -/
theorem unedited_form_changes_nothing (platform : Platform) (s : State) (session : Session)
    (user id : Nat) (kit : Kit) (kinds : List OptionKind)
    (login : session.user = some user) (admin : isAdmin s.db user = true)
    (found : s.db.kits.get? id = some kit) (ages : s.db.ageOptions.rows ≠ [])
    (categories : s.db.categoryOptions.rows ≠ []) (ageArrived : OptionKind.age ∈ kinds)
    (categoryArrived : OptionKind.category ∈ kinds) :
    ∃ reply after kit', editUnedited platform session s id kinds = some (reply, after) ∧
      reply.status = 200 ∧ after.db.kits.get? id = some kit' ∧
      ReadsSame s.db kit after.db kit' ∧
      (∀ other, other ≠ id → after.db.kits.get? other = s.db.kits.get? other) ∧
      ∃ kits, after = withKits s kits := by
  obtain ⟨-, rfl⟩ := Table.get?_eq_some_iff.mp found
  let updated := (shownBody (dumpKit platform s.db kit)).applyTo s.db kit
  have edited : editUnedited platform session s kit.id kinds =
      some (.ok 200 updated, withKits s (s.db.kits.save updated)) := by
    rw [editUnedited_eq found ages categories ageArrived categoryArrived,
      updateKit_saves login admin found rfl]
  refine ⟨_, _, updated, edited, rfl, ?_, readsSame_shownBody s.db _, ?_, _, rfl⟩
  · have here : (s.db.kits.save updated).get? kit.id = (s.db.kits.get? kit.id).map _ :=
      (Table.get?_save _ _ _).trans (if_pos rfl)
    exact here.trans (by rw [found]; rfl)
  · intro other different
    exact (Table.get?_save _ _ _).trans (if_neg different)

section Samples

/-- One kit of one age and one category, next to an age that it is not for. -/
def furnishedShop : State :=
  { shelfOnly 3 with
    db := { (shelfOnly 3).db with
      kits := ⟨[⟨1, "Sand tray", "A tray of sand", "/tray.png", 10, [2], [1], [], []⟩], by decide,
        by decide⟩
      ageOptions := ⟨[⟨1, "3-5"⟩, ⟨2, "5-7"⟩], by decide, by decide⟩
      categoryOptions := ⟨[⟨1, "Sensory"⟩], by decide, by decide⟩ } }

end Samples

/-- The ages arrive last; the kit keeps its one age. -/
theorem sand_tray_is_resubmitted :
    ∃ reply after kit', editUnedited plainPlatform administrator furnishedShop 1
        [.theme, .category, .age] = some (reply, after) ∧
      reply.status = 200 ∧ after.db.kits.get? 1 = some kit' ∧
      kitOptions after.db kit' .age ≠ [] := by
  obtain ⟨reply, after, kit', edited, answered, stored, same, -⟩ :=
    unedited_form_changes_nothing plainPlatform furnishedShop administrator 2 1
      ⟨1, "Sand tray", "A tray of sand", "/tray.png", 10, [2], [1], [], []⟩
      [.theme, .category, .age] rfl (by decide) (by decide) (by decide) (by decide) (by decide)
      (by decide)
  refine ⟨reply, after, kit', edited, answered, stored, ?_⟩
  have shown := (same.options .age ⟨2, "5-7"⟩).mpr (by decide)
  exact List.ne_nil_of_mem shown

end ProductSite.Catalogue.EditForm
