/- Module: ProductSite/Access/Catalogue
   source: backend/app/routes/kit_routes.py, backend/app/utils/decorators.py
   digest: Outsiders leave the catalogue alone iff their requests for the options are refused. -/

import ProductSite.Backend.KitRoutes
import ProductSite.Backend.Requests

set_option autoImplicit false
set_option relaxedAutoImplicit false

namespace ProductSite.Access.Catalogue

open ProductSite.Foundation.KeyedTable (Table)
open ProductSite.Foundation.Runs
open ProductSite.Foundation.Wire (JsonField Reply)
open ProductSite.Backend.Models
open ProductSite.Backend.KitRoutes
open ProductSite.Backend.Requests (customer nobody shelfOnly)

/-- The kits with their rows in the association tables, and the four option tables. -/
structure Rows where
  kits : List Kit
  options : OptionKind → List KitOption

def catalogue (db : Database) : Rows := ⟨db.kits.rows, fun kind => (optionsOf db kind).rows⟩

/-- The request comes without a session, or in one of a user who is no administrator. -/
def Outsider (db : Database) (call : KitCall) : Prop :=
  ∀ user, call.session.user = some user → isAdmin db user = false

/-- A request for the options is refused for its contents: the new name is blank, null or
taken, or there is no option to delete. -/
def LeavesOptions (engine : Engine) (s : State) (call : KitCall) : Prop :=
  match call.request with
  | .createOption kind name => NameRefused engine s kind name
  | .deleteOption kind id => (optionsOf s.db kind).get? id = none
  | .list | .createKit _ | .updateKit _ _ | .deleteKit _ => True

variable {engine : Engine} {s : State}

private theorem catalogue_createOption_iff (kind : OptionKind) (name : JsonField String) :
    catalogue (createOption kind engine s name).2.db = catalogue s.db ↔
      NameRefused engine s kind name := by
  rcases createOption_cases engine s kind name with ⟨refused, kept⟩ | ⟨accepted, text, created⟩
  · rw [kept]
    exact iff_of_true rfl refused
  · refine iff_of_false ?_ accepted
    intro same
    rw [created] at same
    have rows := congrFun (congrArg Rows.options same) kind
    have longer : ((optionsOf s.db kind).insertNew (fun id => ⟨id, text⟩) (fun _ => rfl)).rows =
        (optionsOf s.db kind).rows := by
      simpa only [catalogue, optionsOf_withOptions] using rows
    have lengths := congrArg List.length longer
    rw [Table.insertNew, List.length_append, List.length_singleton] at lengths
    omega

private theorem catalogue_deleteOption_iff (kind : OptionKind) (id : Nat) :
    catalogue (deleteOption kind s id).2.db = catalogue s.db ↔
      (optionsOf s.db kind).get? id = none := by
  rcases deleteOption_cases s kind id with ⟨missing, kept⟩ | ⟨option, found, deleted⟩
  · rw [kept]
    exact iff_of_true rfl missing
  · refine iff_of_false ?_ (by rw [found]; exact Option.some_ne_none option)
    intro same
    rw [deleted] at same
    have rows := congrFun (congrArg Rows.options same) kind
    have shorter : ((optionsOf s.db kind).remove (fun row => row.id = id)).rows =
        (optionsOf s.db kind).rows := by
      simpa only [catalogue, withoutOption, optionsOf_withOptions] using rows
    obtain ⟨member, named⟩ := Table.get?_eq_some_iff.mp found
    rw [← shorter] at member
    have stays := (Table.mem_remove.mp member).2
    simp [named] at stays

private theorem catalogue_kitStep_iff (call : KitCall) (outside : Outsider s.db call) :
    catalogue (kitStep engine s call).db = catalogue s.db ↔ LeavesOptions engine s call := by
  obtain ⟨session, request⟩ := call
  have guarded : ∀ {β : Type} (handler : Nat → Reply β × State),
      catalogue (adminRequired session s handler).2.db = catalogue s.db := by
    intro β handler
    rw [(adminRequired_refused outside).1]
  cases request with
  | list => exact iff_of_true rfl trivial
  | createKit body => exact iff_of_true (guarded _) trivial
  | updateKit id body => exact iff_of_true (guarded _) trivial
  | deleteKit id => exact iff_of_true (guarded _) trivial
  | createOption kind name =>
      rw [kitStep_createOption]
      exact catalogue_createOption_iff kind name
  | deleteOption kind id =>
      rw [kitStep_deleteOption]
      exact catalogue_deleteOption_iff kind id

/-- For every database and every run of requests to the kit endpoints without a session or in
sessions of users who are not administrators, the catalogue is unchanged throughout the run
precisely when each request that creates or deletes an option is refused for its contents. -/
theorem unchanged_along_iff (engine : Engine) (s : State) (calls : List KitCall)
    (outsiders : ∀ call ∈ calls, Outsider s.db call) :
    Along (kitStep engine) (fun t => catalogue t.db = catalogue s.db) s calls ↔
      EachStep (kitStep engine) (LeavesOptions engine) s calls := by
  have users : Along (kitStep engine) (fun t => t.db.users = s.db.users) s calls := by
    have keeps : ∀ t call, t.db.users = s.db.users →
        (kitStep engine t call).db.users = s.db.users := by
      intro t call same
      rw [kitStep_users, same]
    exact along_of_kept keeps rfl calls
  have exact_step : ∀ t call, catalogue t.db = catalogue s.db →
      t.db.users = s.db.users ∧ Outsider s.db call →
      (catalogue (kitStep engine t call).db = catalogue s.db ↔ LeavesOptions engine t call) := by
    rintro t call same ⟨table, outside⟩
    rw [← same]
    refine catalogue_kitStep_iff call ?_
    intro user login
    rw [isAdmin_congr table]
    exact outside user login
  exact along_iff_eachStep exact_step rfl (users.eachStep.and (eachStep_of_forall outsiders s))

section Samples

/-- One kit, for one age. -/
def agedShop : State :=
  { shelfOnly 3 with
    db := { (shelfOnly 3).db with
      kits := ⟨[⟨1, "Sand tray", "A tray of sand", "/tray.png", 10, [1], [], [], []⟩], by decide,
        by decide⟩
      ageOptions := ⟨[⟨1, "5-7"⟩], by decide, by decide⟩ } }

def outsidersRun : List KitCall :=
  [⟨nobody, .createOption .theme (.value " Space ")⟩, ⟨nobody, .deleteOption .age 1⟩]

end Samples

/-- Without a session a theme is added, and an age is taken from all kits. -/
theorem options_are_changed_without_a_session :
    (∀ call ∈ outsidersRun, Outsider agedShop.db call) ∧
      (run (kitStep .sqlite) agedShop outsidersRun).db.themeOptions.rows = [⟨1, "Space"⟩] ∧
      (run (kitStep .sqlite) agedShop outsidersRun).db.ageOptions.rows = [] ∧
      agedShop.db.kits.rows.map Kit.age = [[1]] ∧
      (run (kitStep .sqlite) agedShop outsidersRun).db.kits.rows.map Kit.age = [[]] := by
  refine ⟨?_, by decide, by decide, by decide, by decide⟩
  intro call member user login
  simp only [outsidersRun, List.mem_cons, List.not_mem_nil, or_false] at member
  rcases member with rfl | rfl
  · cases login
  · cases login

theorem refused_requests_leave_the_catalogue :
    catalogue (run (kitStep .sqlite) agedShop
      [⟨customer, .deleteKit 1⟩, ⟨nobody, .createOption .age (.value " 5-7")⟩,
        ⟨customer, .deleteOption .theme 1⟩]).db = catalogue agedShop.db := by
  refine ((unchanged_along_iff .sqlite agedShop _ ?_).mpr ?_).finish
  · intro call member user login
    simp only [List.mem_cons, List.not_mem_nil, or_false] at member
    rcases member with rfl | rfl | rfl
    · cases login
      decide
    · cases login
    · cases login
      decide
  · simp only [eachStep_cons, eachStep_nil, and_true]
    refine ⟨trivial, ?_, by unfold LeavesOptions; decide⟩
    rintro text ⟨⟩
    exact Or.inr ⟨⟨1, "5-7"⟩, by decide, by decide⟩

end ProductSite.Access.Catalogue
