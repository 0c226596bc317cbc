/- Module: ProductSite/Backend/Site
   source: backend/app/__init__.py, backend/app/routes
   digest: All requests of the site, the sessions of its clients, and what reaches the users. -/

import Mathlib.Logic.Function.Basic
import ProductSite.Backend.Accounts
import ProductSite.Backend.KitRoutes
import ProductSite.Backend.Requests

set_option autoImplicit false
set_option relaxedAutoImplicit false

namespace ProductSite.Backend.Site

open ProductSite.Foundation.KeyedTable (Table)
open ProductSite.Foundation.Wire (JsonField Reply)
open ProductSite.Backend.Models
open ProductSite.Backend.Accounts
open ProductSite.Backend.CartRoutes (CartCall cartStep cartStep_frame)
open ProductSite.Backend.KitRoutes (KitCall kitStep kitStep_users)
open ProductSite.Backend.PersonalRoutes (PersonalCall personalStep personalStep_users)

/-- A request to one of the groups of endpoints, in any session. -/
inductive SiteRequest where
  | account (session : Session) (request : AccountRequest)
  | stock (request : Requests.Request)
  | cart (call : CartCall)
  | personal (call : PersonalCall)
  | kit (call : KitCall)

def siteStep (libraries : Libraries) (server : Server) (s : State) : SiteRequest → State
  | .account session request => (handle libraries server.engine session s request).state
  | .stock request => Requests.step server s request
  | .cart call => cartStep server.engine s call
  | .personal call => personalStep server s call
  | .kit call => kitStep server.engine s call

/-- The server with the sessions that it keeps, one for each client. -/
structure ServerState where
  state : State
  sessions : Nat → Session

/-- Before anyone has logged in. -/
def ServerState.fresh (s : State) : ServerState := ⟨s, fun _ => ⟨none, none⟩⟩

structure Visit where
  client : Nat
  request : AccountRequest

def visitOutcome (libraries : Libraries) (engine : Engine) (site : ServerState) (visit : Visit) :
    Outcome :=
  handle libraries engine (site.sessions visit.client) site.state visit.request

/-- An account request in the session of its client, which it may write. -/
def visitStep (libraries : Libraries) (engine : Engine) (site : ServerState) (visit : Visit) :
    ServerState where
  state := (visitOutcome libraries engine site visit).state
  sessions := Function.update site.sessions visit.client
    ((visitOutcome libraries engine site visit).write.apply (site.sessions visit.client))

/-- Everything that an account request can do to the user table. -/
inductive UserWrite (libraries : Libraries) (before : Table User.id) : Table User.id → Prop where
  | kept : UserWrite libraries before before
  | registered (username email password : String) :
      UserWrite libraries before
        (before.insertNew (newUser username email password none) (fun _ => rfl))
  | joined (username email : String) :
      UserWrite libraries before
        (before.insertNew (newUser username email "" (some "google")) (fun _ => rfl))
  | restored (row : User) (stored : before.get? row.id = some row) (inactive : row.active = false) :
      UserWrite libraries before (before.save { row with active := true })
  | edited (row changed : User) (password : Option String)
      (stored : before.get? row.id = some row)
      (verified : libraries.checkPasswordHash row.password password = some true)
      (same : changed.id = row.id ∧ changed.role = row.role ∧
        changed.oauthProvider = row.oauthProvider) :
      UserWrite libraries before (before.save changed)
  | promoted (row : User) (role : String) (stored : before.get? row.id = some row) :
      UserWrite libraries before (before.save { row with role := role })
  | removed (id : Nat) : UserWrite libraries before (before.remove (fun user => user.id = id))

/-- The paths by which a request sets the user of its session, with what each one writes and
the state that it leaves. -/
inductive Entry (libraries : Libraries) (engine : Engine) (s : State) :
    AccountRequest → SessionWrite → State → Prop where
  | password (body : LoginBody) (row : User) (stored : s.db.users.get? row.id = some row)
      (verified : libraries.checkPasswordHash row.password body.password.get = some true)
      (active : row.active = true) :
      Entry libraries engine s (.login body) (.login row.id row.role) s
  | restored (body : RegisterBody) (row : User) (stored : s.db.users.get? row.id = some row)
      (inactive : row.active = false)
      (allowed : libraries.checkPasswordHash row.password body.password.get = some true ∨
        hasProvider row = true) :
      Entry libraries engine s (.register body) (.login row.id row.role)
        (State.saveUser s { row with active := true })
  | registered (body : RegisterBody) (username email password : String) :
      Entry libraries engine s (.register body) (.login s.db.users.nextKey "customer")
        (State.addUser s username email password none)
  | google (info : Option UserInfo) (row : User)
      (found : googleAccount engine s.db info = some row) (loads : row.loadable = true) :
      Entry libraries engine s (.authGoogleCallback info) (.userOnly row.id) s
  | joined (info : Option UserInfo) (username email : String)
      (new : googleNewcomer engine s.db info = some (username, email)) :
      Entry libraries engine s (.authGoogleCallback info) (.userOnly s.db.users.nextKey)
        (State.addUser s username email "" (some "google"))

section Writes

variable {libraries : Libraries} {engine : Engine} {session : Session} {s : State}

private theorem userWrite_of_quiet {outcome : Outcome} (quiet : Quiet s outcome) :
    UserWrite libraries s.db.users outcome.state.db.users := by
  rw [quiet.1]
  exact .kept

private theorem userWrite_of_edits {after : State} {password : Option String}
    (edits : EditsVerified libraries s after password) :
    UserWrite libraries s.db.users after.db.users := by
  rcases edits with rfl | ⟨row, changed, stored, verified, key, role, provider, rfl⟩
  · exact .kept
  · exact .edited row changed password stored verified ⟨key, role, provider⟩

private theorem userWrite_register (body : RegisterBody) :
    UserWrite libraries s.db.users (register libraries engine s body).state.db.users := by
  rcases register_cases libraries engine s body with
    quiet | ⟨existing, stored, inactive, -, saved, -⟩ | ⟨username, email, password, added, -⟩
  · exact userWrite_of_quiet quiet
  · rw [saved]
    exact .restored existing stored inactive
  · rw [added]
    exact .registered username email _

private theorem userWrite_authGoogleCallback (info : Option UserInfo) :
    UserWrite libraries s.db.users (authGoogleCallback engine s info).state.db.users := by
  rcases authGoogleCallback_cases engine s info with
    ⟨quiet, -⟩ | ⟨user, -, -, -, same, -⟩ | ⟨username, email, -, -, added, -⟩
  · exact userWrite_of_quiet quiet
  · rw [same]
    exact .kept
  · rw [added]
    exact .joined username email

private theorem userWrite_changeUserRole (userId : Nat) (role : JsonField String) :
    UserWrite libraries s.db.users (changeUserRole engine session s userId role).2.db.users := by
  rw [changeUserRole_state]
  cases accepted : roleChange engine session s.db userId role with
  | none => exact .kept
  | some changed =>
      obtain ⟨row, found, equal⟩ := roleChange_eq_some accepted
      have stored : s.db.users.get? row.id = some row := by
        rw [Table.key_of_get? found]
        exact found
      have write : UserWrite libraries s.db.users
          (s.db.users.save { row with role := changed.role }) :=
        .promoted row changed.role stored
      rw [← equal] at write
      exact write

/-- One inversion for all account requests. -/
private theorem handle_users (request : AccountRequest) :
    UserWrite libraries s.db.users (handle libraries engine session s request).state.db.users := by
  cases request with
  | login body =>
      rcases login_cases libraries engine s body with
        quiet | ⟨row, -, -, -, same, -⟩
      · exact userWrite_of_quiet quiet
      · change UserWrite _ _ (login libraries engine s body).state.db.users
        rw [same]
        exact .kept
  | register body => exact userWrite_register body
  | authGoogleCallback info => exact userWrite_authGoogleCallback info
  | logout => exact .kept
  | changeEmail email password => exact userWrite_of_edits (changeEmail_edits email password)
  | changePassword currentPassword newPassword =>
      exact userWrite_of_edits (changePassword_edits currentPassword newPassword)
  | deleteAccount password => exact userWrite_of_edits (deleteAccount_edits password)
  | changeUserRole userId role => exact userWrite_changeUserRole userId role
  | deleteUser userId =>
      change UserWrite _ _ (deleteUser engine session s userId).2.db.users
      rw [deleteUser_users]
      split
      · exact .removed userId
      · exact .kept

/-- Account requests write the users; the deletion of one also the addresses and purchases. -/
theorem handle_frame (request : AccountRequest) :
    ∃ users shippingAddresses purchases, (handle libraries engine session s request).state =
      { s with db := { s.db with
        users := users, shippingAddresses := shippingAddresses, purchases := purchases } } := by
  have edited : ∀ {after : State} {password : Option String},
      EditsVerified libraries s after password →
      ∃ users shippingAddresses purchases, after = { s with db := { s.db with
        users := users, shippingAddresses := shippingAddresses, purchases := purchases } } := by
    rintro _ _ (rfl | ⟨_, _, -, -, -, -, -, rfl⟩) <;> exact ⟨_, _, _, rfl⟩
  cases request with
  | login body =>
      rcases login_cases libraries engine s body with ⟨kept, -⟩ | ⟨_, -, -, -, kept, -⟩
      · exact ⟨_, _, _, kept⟩
      · exact ⟨_, _, _, kept⟩
  | register body =>
      rcases register_cases libraries engine s body with
        ⟨kept, -⟩ | ⟨_, -, -, -, saved, -⟩ | ⟨_, _, _, added, -⟩
      · exact ⟨_, _, _, kept⟩
      · exact ⟨_, _, _, saved⟩
      · exact ⟨_, _, _, added⟩
  | authGoogleCallback info =>
      rcases authGoogleCallback_cases engine s info with
        ⟨⟨kept, -⟩, -⟩ | ⟨_, -, -, -, kept, -⟩ | ⟨_, _, -, -, added, -⟩
      · exact ⟨_, _, _, kept⟩
      · exact ⟨_, _, _, kept⟩
      · exact ⟨_, _, _, added⟩
  | logout => exact ⟨_, _, _, rfl⟩
  | changeEmail email password => exact edited (changeEmail_edits email password)
  | changePassword currentPassword newPassword =>
      exact edited (changePassword_edits currentPassword newPassword)
  | deleteAccount password => exact edited (deleteAccount_edits password)
  | changeUserRole userId role =>
      change ∃ _ _ _, (changeUserRole engine session s userId role).2 = _
      rw [changeUserRole_state]
      split <;> exact ⟨_, _, _, rfl⟩
  | deleteUser userId =>
      change ∃ _ _ _, (deleteUser engine session s userId).2 = _
      rcases deleteUser_cases engine session s userId with ⟨-, -, kept⟩ | ⟨-, _, removed⟩
      · exact ⟨_, _, _, kept⟩
      · exact ⟨_, _, _, congrArg Prod.snd removed⟩

/-- The settings write no user to the session. -/
private theorem given_ofAnswer (answer : Reply Answer × State) {write : SessionWrite}
    (silent : write.given = none) : (Outcome.ofAnswer answer write).write.given = none := by
  unfold Outcome.ofAnswer
  simp only
  split
  · exact silent
  · rfl

/-- A request that sets the user of its session took one of the paths. -/
theorem entry_of_given {request : AccountRequest} {user : Nat}
    (given : (handle libraries engine session s request).write.given = some user) :
    Entry libraries engine s request (handle libraries engine session s request).write
      (handle libraries engine session s request).state := by
  have silent : ∀ (answer : Reply Answer × State) (write : SessionWrite), write.given = none →
      (Outcome.ofAnswer answer write).write.given ≠ some user := by
    intro answer write unset
    rw [given_ofAnswer answer unset]
    exact Option.some_ne_none user |>.symm
  cases request with
  | login body =>
      change (login libraries engine s body).write.given = some user at given
      change Entry _ _ _ _ (login libraries engine s body).write _
      rcases login_cases libraries engine s body with
        ⟨-, kept⟩ | ⟨row, stored, verified, active, same, write⟩
      · rw [kept] at given
        cases given
      · simp only [handle, same, write]
        exact .password body row stored verified active
  | register body =>
      change (register libraries engine s body).write.given = some user at given
      rcases register_cases libraries engine s body with
        ⟨-, kept⟩ | ⟨row, stored, inactive, allowed, saved, write⟩ | ⟨_, _, _, added, write⟩
      · rw [kept] at given
        cases given
      · simp only [handle, saved, write]
        exact .restored body row stored inactive allowed
      · simp only [handle, added, write]
        exact .registered body _ _ _
  | authGoogleCallback info =>
      change (authGoogleCallback engine s info).write.given = some user at given
      rcases authGoogleCallback_cases engine s info with
        ⟨⟨-, kept⟩, -⟩ | ⟨row, found, loads, -, same, write⟩ | ⟨_, _, new, -, added, write⟩
      · rw [kept] at given
        cases given
      · simp only [handle, same, write]
        exact .google info row found loads
      · simp only [handle, added, write]
        exact .joined info _ _ new
  | logout => cases given
  | changeEmail email password => exact absurd given (silent _ _ rfl)
  | changePassword currentPassword newPassword => exact absurd given (silent _ _ rfl)
  | deleteAccount password => exact absurd given (silent _ _ rfl)
  | changeUserRole userId role => exact absurd given (silent _ _ rfl)
  | deleteUser userId => exact absurd given (silent _ _ rfl)

/-- The user table is written by account requests only. -/
theorem siteStep_users (server : Server) (request : SiteRequest) :
    UserWrite libraries s.db.users (siteStep libraries server s request).db.users := by
  cases request with
  | account session request => exact handle_users request
  | stock request =>
      rw [siteStep, Requests.step_users]
      exact .kept
  | cart call =>
      obtain ⟨table, after⟩ := cartStep_frame server.engine s call
      rw [siteStep, after]
      exact .kept
  | personal call =>
      rw [siteStep, personalStep_users]
      exact .kept
  | kit call =>
      rw [siteStep, kitStep_users]
      exact .kept

end Writes

end ProductSite.Backend.Site
