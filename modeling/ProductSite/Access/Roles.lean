/- Module: ProductSite/Access/Roles
   source: backend/app/routes/user_settings_routes.py, backend/app/routes/auth_routes.py,
     backend/app/models/user.py
   digest: Which requests keep the stored roles within the enumeration of the role column. -/

import ProductSite.Access.Authentication

set_option autoImplicit false
set_option relaxedAutoImplicit false

namespace ProductSite.Access.Roles

open ProductSite.Foundation.KeyedTable (Table)
open ProductSite.Foundation.Runs (Along EachStep along_congr along_iff_eachStep_of_law
  eachStep_cons eachStep_nil)
open ProductSite.Foundation.Wire (JsonField Reply)
open ProductSite.Backend.Models
open ProductSite.Backend.Accounts
open ProductSite.Backend.Site
open ProductSite.Backend.CartRoutes (cartStep_frame)
open ProductSite.Backend.KitRoutes (kitStep_users)
open ProductSite.Backend.PersonalRoutes (personalStep_users)
open ProductSite.Backend.Requests (administrator sampleServer shelfOnly step_users)
open ProductSite.Access.Authentication (plainLibraries)

/-- Every stored role is a value of the enumeration, and the admin guard can evaluate the row of
any user. -/
def RolesValid (s : State) : Prop :=
  (∀ row ∈ s.db.users.rows, row.role = "admin" ∨ row.role = "customer") ∧
    ∀ (user : Nat), (adminRefusal s.db user : Reply Answer) ≠ .raised

/-- All rows of the user table can be loaded. -/
def AllLoad (users : Table User.id) : Prop := ∀ row ∈ users.rows, row.loadable = true

instance (users : Table User.id) : Decidable (AllLoad users) :=
  inferInstanceAs (Decidable (∀ row ∈ users.rows, row.loadable = true))

private theorem loadable_iff {row : User} :
    row.loadable = true ↔ row.role = "admin" ∨ row.role = "customer" := by
  simp [User.loadable]

private theorem rolesValid_iff (s : State) : RolesValid s ↔ AllLoad s.db.users := by
  constructor
  · intro valid row member
    exact loadable_iff.mpr (valid.1 row member)
  · intro loads
    refine ⟨fun row member => loadable_iff.mp (loads row member), ?_⟩
    intro user
    have readable : (s.db.users.get? user).any (fun row => !row.loadable) = false := by
      cases found : s.db.users.get? user with
      | none => rfl
      | some row => simp [loads row (Table.get?_eq_some_iff.mp found).1]
    rw [adminRefusal, readable]
    exact nofun

section Writes

variable {libraries : Libraries} {engine : Engine} {session : Session} {s : State}

private theorem allLoad_save {users : Table User.id} {changed : User} (loads : AllLoad users)
    (new : changed.loadable = true) : AllLoad (users.save changed) := by
  intro row member
  rcases Table.mem_save.mp member with ⟨rfl, -⟩ | ⟨old, -⟩
  · exact new
  · exact loads row old

private theorem allLoad_insertNew {users : Table User.id} (loads : AllLoad users)
    (username email password : String) (provider : Option String) :
    AllLoad (users.insertNew (newUser username email password provider) (fun _ => rfl)) := by
  intro row member
  rcases Table.mem_insertNew.mp member with old | rfl
  · exact loads row old
  · exact loadable_iff.mpr (Or.inr rfl)

private theorem allLoad_remove {users : Table User.id} (loads : AllLoad users)
    (gone : User → Bool) :
    AllLoad (users.remove gone) :=
  fun row member => loads row (Table.mem_remove.mp member).1

/-- Writing back a row keeps the rows loadable exactly if the new one is. -/
private theorem allLoad_save_iff {users : Table User.id} {row changed : User}
    (loads : AllLoad users) (stored : users.get? changed.id = some row) :
    AllLoad (users.save changed) ↔ changed.loadable = true := by
  refine ⟨fun after => after changed ?_, allLoad_save loads⟩
  obtain ⟨member, key⟩ := Table.get?_eq_some_iff.mp stored
  exact Table.mem_save.mpr (Or.inl ⟨rfl, row, member, key⟩)

private theorem allLoad_edits {after : State} {password : Option String}
    (loads : AllLoad s.db.users) (edits : EditsVerified libraries s after password) :
    AllLoad after.db.users := by
  rcases edits with rfl | ⟨row, changed, stored, -, -, role, -, rfl⟩
  · exact loads
  · have old := loadable_iff.mp (loads row (Table.get?_eq_some_iff.mp stored).1)
    rw [← role] at old
    exact allLoad_save loads (loadable_iff.mpr old)

private theorem allLoad_register (loads : AllLoad s.db.users) (body : RegisterBody) :
    AllLoad (register libraries engine s body).state.db.users := by
  rcases register_cases libraries engine s body with
    ⟨same, -⟩ | ⟨existing, stored, -, -, saved, -⟩ | ⟨username, email, password, added, -⟩
  · rw [same]
    exact loads
  · rw [saved]
    have old := loads existing (Table.get?_eq_some_iff.mp stored).1
    exact allLoad_save loads old
  · rw [added]
    exact allLoad_insertNew loads username email _ none

private theorem allLoad_authGoogleCallback (loads : AllLoad s.db.users) (info : Option UserInfo) :
    AllLoad (authGoogleCallback engine s info).state.db.users := by
  rcases authGoogleCallback_cases engine s info with
    ⟨⟨same, -⟩, -⟩ | ⟨user, -, -, -, same, -⟩ | ⟨username, email, -, -, added, -⟩
  · rw [same]
    exact loads
  · rw [same]
    exact loads
  · rw [added]
    exact allLoad_insertNew loads username email "" (some "google")

private theorem allLoad_deleteUser (loads : AllLoad s.db.users) (userId : Nat) :
    AllLoad (deleteUser engine session s userId).2.db.users := by
  rw [deleteUser_users]
  split
  · exact allLoad_remove loads _
  · exact loads

/-- An administrator sets a stored user to 'user', on an engine that stores what it is given. -/
def storesUser (engine : Engine) (session : Session) (db : Database) (userId : Nat)
    (role : JsonField String) : Bool :=
  role.get == some "user" && session.user.any (isAdmin db) &&
    (db.users.get? userId).any User.loadable && !engine.enumerations

private theorem roleChange_admin {db : Database} {userId : Nat} {role : JsonField String}
    {changed : User} (asked : role.get = some "admin")
    (accepted : roleChange engine session db userId role = some changed) :
    changed.loadable = true := by
  unfold roleChange at accepted
  split at accepted
  · rename_i text row _ given _
    rw [asked] at given
    cases given
    split at accepted
    · cases accepted
    · cases accepted
      exact loadable_iff.mpr (Or.inl rfl)
  · cases accepted

private theorem roleChange_user {db : Database} {userId : Nat} {role : JsonField String}
    (asked : role.get = some "user") :
    (∃ changed, roleChange engine session db userId role = some changed ∧
      changed.loadable = false) ↔ storesUser engine session db userId role = true := by
  have unknown : ∀ row : User, User.loadable { row with role := "user" } = false := fun _ => rfl
  have given : role.get.filter (fun text => text = "user" || text = "admin") = some "user" := by
    rw [asked]
    rfl
  unfold roleChange storesUser
  rw [given, asked]
  cases session.user with
  | none => simp
  | some user =>
      cases admin : isAdmin db user with
      | false => simp [Option.filter, admin]
      | true =>
          cases db.users.get? userId with
          | none => simp [Option.filter, admin]
          | some row =>
              cases loads : row.loadable <;> cases engine.enumerations <;>
                simp [Option.filter, admin, loads, unknown]

private theorem roleChange_other {db : Database} {userId : Nat} {role : JsonField String}
    (user : role.get ≠ some "user") (admin : role.get ≠ some "admin") :
    roleChange engine session db userId role = none := by
  have refused : role.get.filter (fun text => text = "user" || text = "admin") = none := by
    cases given : role.get with
    | none => rfl
    | some text =>
        rw [given] at user admin
        have other : text ≠ "user" ∧ text ≠ "admin" :=
          ⟨fun same => user (congrArg some same), fun same => admin (congrArg some same)⟩
        simp [Option.filter, other]
  unfold roleChange
  rw [refused]
  cases session.user.filter (isAdmin db) <;> rfl

/-- The role that a request stores is outside the enumeration exactly if it is 'user'. -/
private theorem roleChange_unloadable_iff {db : Database} {userId : Nat} {role : JsonField String} :
    (∃ changed, roleChange engine session db userId role = some changed ∧
      changed.loadable = false) ↔ storesUser engine session db userId role = true := by
  by_cases user : role.get = some "user"
  · exact roleChange_user user
  · have elsewhere : storesUser engine session db userId role = false := by
      simp [storesUser, user]
    rw [elsewhere]
    refine iff_of_false ?_ Bool.false_ne_true
    rintro ⟨changed, accepted, unloadable⟩
    by_cases admin : role.get = some "admin"
    · rw [roleChange_admin admin accepted] at unloadable
      cases unloadable
    · rw [roleChange_other user admin] at accepted
      cases accepted

private theorem allLoad_changeUserRole_iff (loads : AllLoad s.db.users) (userId : Nat)
    (role : JsonField String) :
    AllLoad (changeUserRole engine session s userId role).2.db.users ↔
      storesUser engine session s.db userId role = false := by
  rw [changeUserRole_state, ← Bool.not_eq_true, ← roleChange_unloadable_iff]
  cases accepted : roleChange engine session s.db userId role with
  | none => simpa using loads
  | some changed =>
      obtain ⟨row, found, equal⟩ := roleChange_eq_some accepted
      have here : row.id = userId := Table.key_of_get? found
      have key : changed.id = userId := (congrArg User.id equal).trans here
      rw [← key] at found
      refine (allLoad_save_iff loads found).trans ?_
      simp

end Writes

/-- The request does not store the role 'user'. -/
def KeepsEnumeration (server : Server) (s : State) : SiteRequest → Prop
  | .account session (.changeUserRole userId role) =>
      storesUser server.engine session s.db userId role = false
  | _ => True

private theorem allLoad_siteStep_iff (libraries : Libraries) (server : Server) (s : State)
    (request : SiteRequest) (loads : AllLoad s.db.users) :
    AllLoad (siteStep libraries server s request).db.users ↔ KeepsEnumeration server s request := by
  cases request with
  | account session request =>
      cases request with
      | login body =>
          refine iff_of_true ?_ trivial
          rcases login_cases libraries server.engine s body with
            ⟨same, -⟩ | ⟨row, -, -, -, same, -⟩
          · rw [siteStep, handle, same]
            exact loads
          · rw [siteStep, handle, same]
            exact loads
      | register body => exact iff_of_true (allLoad_register loads body) trivial
      | authGoogleCallback info => exact iff_of_true (allLoad_authGoogleCallback loads info) trivial
      | logout => exact iff_of_true loads trivial
      | changeEmail email password =>
          exact iff_of_true (allLoad_edits loads (changeEmail_edits email password)) trivial
      | changePassword currentPassword newPassword =>
          exact iff_of_true
            (allLoad_edits loads (changePassword_edits currentPassword newPassword)) trivial
      | deleteAccount password =>
          exact iff_of_true (allLoad_edits loads (deleteAccount_edits password)) trivial
      | changeUserRole userId role => exact allLoad_changeUserRole_iff loads userId role
      | deleteUser userId => exact iff_of_true (allLoad_deleteUser loads userId) trivial
  | stock request =>
      refine iff_of_true ?_ trivial
      rw [siteStep, step_users]
      exact loads
  | cart call =>
      refine iff_of_true ?_ trivial
      obtain ⟨table, after⟩ := cartStep_frame server.engine s call
      rw [siteStep, after]
      exact loads
  | personal call =>
      refine iff_of_true ?_ trivial
      rw [siteStep, personalStep_users]
      exact loads
  | kit call =>
      refine iff_of_true ?_ trivial
      rw [siteStep, kitStep_users]
      exact loads

/-- Ann's role is set by the administrator. -/
def setRole (role : String) : SiteRequest :=
  .account administrator (.changeUserRole 1 (.value role))

/-- From valid users, the stored roles stay valid throughout a run exactly if no request of it
stores the role 'user'. -/
theorem roles_valid_along_iff (libraries : Libraries) (server : Server) (s : State)
    (requests : List SiteRequest) (start : RolesValid s) :
    Along (siteStep libraries server) RolesValid s requests ↔
      EachStep (siteStep libraries server) (KeepsEnumeration server) s requests := by
  have exact_step : ∀ t request, AllLoad t.db.users →
      (AllLoad (siteStep libraries server t request).db.users ↔
        KeepsEnumeration server t request) := allLoad_siteStep_iff libraries server
  rw [along_congr rolesValid_iff]
  exact along_iff_eachStep_of_law exact_step ((rolesValid_iff s).mp start) requests

theorem promotion_keeps_roles_valid :
    Along (siteStep plainLibraries sampleServer) RolesValid (shelfOnly 3) [setRole "admin"] := by
  have start : RolesValid (shelfOnly 3) := (rolesValid_iff _).mpr (by decide)
  refine (roles_valid_along_iff plainLibraries sampleServer (shelfOnly 3) _ start).mpr ?_
  exact eachStep_cons.mpr ⟨rfl, eachStep_nil _ _⟩

/-- The role that the settings page offers beside 'admin' is stored, and the guard can no longer
evaluate the row. -/
theorem demotion_stores_an_unknown_role :
    RolesValid (shelfOnly 3) ∧
      ((siteStep plainLibraries sampleServer (shelfOnly 3) (setRole "user")).db.users.get? 1).map
        User.role = some "user" ∧
      (adminRefusal (siteStep plainLibraries sampleServer (shelfOnly 3) (setRole "user")).db 1 :
        Reply Answer) = .raised :=
  ⟨(rolesValid_iff _).mpr (by decide), by decide, by decide⟩

end ProductSite.Access.Roles
