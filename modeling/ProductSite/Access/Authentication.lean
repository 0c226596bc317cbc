/- Module: ProductSite/Access/Authentication
   source: backend/app/routes/auth_routes.py, backend/app/routes/user_settings_routes.py,
     backend/app/__init__.py
   digest: Sessions go to authenticated users, deactivated ones only through Google. -/

import ProductSite.Backend.Site

set_option autoImplicit false
set_option relaxedAutoImplicit false

namespace ProductSite.Access.Authentication

open ProductSite.Foundation.KeyedTable (Table)
open ProductSite.Foundation.Runs
open ProductSite.Backend.Models
open ProductSite.Backend.Accounts
open ProductSite.Backend.Requests (nobody sampleServer shelfOnly)
open ProductSite.Backend.Site

/-- The user that the request sets `session['user_id']` to. -/
def sessionGiven (libraries : Libraries) (server : Server) (s : State) :
    SiteRequest → Option Nat
  | .account session request => (handle libraries server.engine session s request).write.given
  | .stock _ | .cart _ | .personal _ | .kit _ => none

/-- The request carries a password that verifies against the hash of the account, or Google's
word for an email that is the same as the one of the account. -/
def Authenticated (libraries : Libraries) (same : String → String → Prop) (row : User) :
    SiteRequest → Prop
  | .account _ (.login body) =>
      libraries.checkPasswordHash row.password body.password.get = some true
  | .account _ (.register body) =>
      libraries.checkPasswordHash row.password body.password.get = some true
  | .account _ (.authGoogleCallback info) =>
      ∃ email, info.bind UserInfo.email = some email ∧ same row.email email
  | _ => False

/-- The accounts of a provider are as the callback made them: without a password, and active. -/
def ProviderAccounts (users : Table User.id) : Prop :=
  ∀ row ∈ users.rows, hasProvider row = true → row.password = "" ∧ row.active = true

variable {libraries : Libraries} {server : Server} {s : State}

section Providers

variable {users after : Table User.id}

private theorem providerAccounts_save {changed : User} (law : ProviderAccounts users)
    (allowed : hasProvider changed = true → changed.password = "" ∧ changed.active = true) :
    ProviderAccounts (users.save changed) := by
  intro row member provider
  rcases Table.mem_save.mp member with ⟨rfl, -⟩ | ⟨old, -⟩
  · exact allowed provider
  · exact law row old provider

private theorem providerAccounts_insertNew {mk : Nat → User} {keyed : ∀ id, (mk id).id = id}
    (law : ProviderAccounts users)
    (allowed : ∀ id, hasProvider (mk id) = true →
      (mk id).password = "" ∧ (mk id).active = true) :
    ProviderAccounts (users.insertNew mk keyed) := by
  intro row member provider
  rcases Table.mem_insertNew.mp member with old | rfl
  · exact law row old provider
  · exact allowed _ provider

/-- An account of a provider has no password that could verify, so no setting changes it. -/
private theorem no_provider_of_verified {row : User} {password : Option String}
    (law : ProviderAccounts users) (stored : users.get? row.id = some row)
    (verified : libraries.checkPasswordHash row.password password = some true) :
    hasProvider row = false := by
  cases provider : hasProvider row with
  | false => rfl
  | true =>
      obtain ⟨unset, -⟩ := law row (Table.get?_eq_some_iff.mp stored).1 provider
      rw [unset, libraries.checkPasswordHash_empty] at verified
      cases verified

private theorem no_provider_of_inactive {row : User} (law : ProviderAccounts users)
    (stored : users.get? row.id = some row) (inactive : row.active = false) :
    hasProvider row = false := by
  cases provider : hasProvider row with
  | false => rfl
  | true =>
      obtain ⟨-, active⟩ := law row (Table.get?_eq_some_iff.mp stored).1 provider
      rw [inactive] at active
      cases active

private theorem providerAccounts_write (law : ProviderAccounts users)
    (write : UserWrite libraries users after) : ProviderAccounts after := by
  cases write with
  | kept => exact law
  | registered username email password => exact providerAccounts_insertNew law nofun
  | joined username email => exact providerAccounts_insertNew law fun _ _ => ⟨rfl, rfl⟩
  | restored row stored inactive =>
      have none := no_provider_of_inactive law stored inactive
      refine providerAccounts_save law ?_
      intro provider
      exact absurd (none.symm.trans provider) Bool.false_ne_true
  | edited row changed password stored verified same =>
      have none := no_provider_of_verified law stored verified
      refine providerAccounts_save law ?_
      intro provider
      rw [hasProvider, same.2.2] at provider
      exact absurd (none.symm.trans provider) Bool.false_ne_true
  | promoted row role stored =>
      refine providerAccounts_save law ?_
      exact law row (Table.get?_eq_some_iff.mp stored).1
  | removed id =>
      intro row member
      exact law row (Table.mem_remove.mp member).1

end Providers

section Entries

variable {s : State}

/-- The row that a session is given to is the one that the handler has found. -/
private theorem same_row {row stored : User} {user : Nat}
    (found : s.db.users.get? row.id = some row) (given : some row.id = some user)
    (here : s.db.users.get? user = some stored) : stored = row := by
  cases given
  rw [found] at here
  exact (Option.some.inj here).symm

private theorem not_stored_nextKey {user : Nat} {row : User}
    (given : some s.db.users.nextKey = some user) : s.db.users.get? user ≠ some row := by
  cases given
  rw [Table.get?_nextKey]
  exact (Option.some_ne_none row).symm

end Entries

/-- A request that gives a session to an account which is stored already is authenticated. -/
def GivesToAuthenticated (libraries : Libraries) (server : Server)
    (same : String → String → Prop) (s : State) (request : SiteRequest) : Prop :=
  ∀ user row, sessionGiven libraries server s request = some user →
    s.db.users.get? user = some row → Authenticated libraries same row request

private theorem authenticated_of_entry {session : Session} {request : AccountRequest}
    {write : SessionWrite} {after : State} {user : Nat} {stored : User}
    {same : String → String → Prop}
    (compared : ∀ a b, server.engine.sameText a b = true → same a b)
    (law : ProviderAccounts s.db.users)
    (entry : Entry libraries server.engine s request write after) (given : write.given = some user)
    (here : s.db.users.get? user = some stored) :
    Authenticated libraries same stored (.account session request) := by
  cases entry with
  | password body row found verified active =>
      cases same_row found given here
      exact verified
  | restored body row found inactive allowed =>
      cases same_row found given here
      -- the branch that asks for no password is for deactivated accounts of a provider
      rcases allowed with verified | provider
      · exact verified
      · have none := no_provider_of_inactive law found inactive
        exact absurd (none.symm.trans provider) Bool.false_ne_true
  | registered body username email password => exact absurd here (not_stored_nextKey given)
  | google info row found loads =>
      obtain ⟨present, email, asserted, matched⟩ := findByEmail_eq_some found
      cases same_row present given here
      exact ⟨email, asserted, compared _ _ matched⟩
  | joined info username email new => exact absurd here (not_stored_nextKey given)

/-- For every run of the site from a user table whose accounts of a provider have no password
and are active, every request that sets the user of a session to an account which was stored
before carries a password that verifies against its hash, or Google's word for its email. Two
emails are the same where the database takes them for equal: literally so if it compares texts
literally. -/
theorem authenticated_along (libraries : Libraries) (server : Server)
    (same : String → String → Prop)
    (compared : ∀ a b, server.engine.sameText a b = true → same a b) (s : State)
    (requests : List SiteRequest) (start : ProviderAccounts s.db.users) :
    EachStep (siteStep libraries server) (GivesToAuthenticated libraries server same) s
      requests := by
  have keeps : ∀ t request, ProviderAccounts t.db.users →
      ProviderAccounts (siteStep libraries server t request).db.users := by
    intro t request law
    exact providerAccounts_write law (siteStep_users server request)
  have along := along_of_kept keeps start requests
  intro handled request here user row given stored
  have law := along.eachStep handled request here
  cases request with
  | account session request =>
      exact authenticated_of_entry compared law (entry_of_given given) given stored
  | stock request => cases given
  | cart call => cases given
  | personal call => cases given
  | kit call => cases given

section Samples

/-- A stand-in for the library that takes a password for its own hash. -/
def plainLibraries : Libraries where
  generatePasswordHash := fun password => password
  checkPasswordHash := fun hash password =>
    if hash = "" then some false else password.map (fun text => text == hash)
  checkPasswordHash_empty := by simp
  validEmail := fun _ => true

def withoutUsers : State :=
  { shelfOnly 3 with db := { (shelfOnly 3).db with users := .empty } }

def registerEve : SiteRequest :=
  .account nobody (.register ⟨.value "eve", .value "eve@mail.com", .value "secret", true,
    .value false, false⟩)

def loginEve : SiteRequest := .account nobody (.login ⟨.value "eve", .value "secret"⟩)

def googleEve (email : String) : SiteRequest :=
  .account nobody (.authGoogleCallback (some ⟨some email, .value "Eve"⟩))

end Samples

/-- SQLite compares texts literally, so the email that Google asserts is the stored one. -/
theorem google_login_after_registration_is_authenticated :
    sessionGiven plainLibraries sampleServer
        (siteStep plainLibraries sampleServer withoutUsers registerEve)
        (googleEve "eve@mail.com") = some 1 ∧
      Authenticated plainLibraries Eq
        ⟨1, "eve", "eve@mail.com", "secret", "customer", none, true⟩
        (googleEve "eve@mail.com") := by
  have each := authenticated_along plainLibraries sampleServer Eq (fun _ _ => eq_of_beq)
    withoutUsers [registerEve, googleEve "eve@mail.com"] nofun
  have given : sessionGiven plainLibraries sampleServer
      (siteStep plainLibraries sampleServer withoutUsers registerEve)
      (googleEve "eve@mail.com") = some 1 := by
    decide
  exact ⟨given, each [registerEve] _ List.prefix_rfl 1 _ given (by decide)⟩

/-- MySQL takes the two spellings for one: the session of eve@mail.com goes to whoever Google
knows as EVE@mail.com. -/
theorem other_spelling_gets_the_session :
    sessionGiven plainLibraries ⟨.mysql, 0, .binary⟩
        (siteStep plainLibraries ⟨.mysql, 0, .binary⟩ withoutUsers registerEve)
        (googleEve "EVE@mail.com") = some 1 ∧
      ((siteStep plainLibraries ⟨.mysql, 0, .binary⟩ withoutUsers registerEve).db.users.get?
        1).map User.email = some "eve@mail.com" ∧
      ¬ EachStep (siteStep plainLibraries ⟨.mysql, 0, .binary⟩)
        (GivesToAuthenticated plainLibraries ⟨.mysql, 0, .binary⟩ Eq) withoutUsers
        [registerEve, googleEve "EVE@mail.com"] := by
  have given : sessionGiven plainLibraries ⟨.mysql, 0, .binary⟩
      (siteStep plainLibraries ⟨.mysql, 0, .binary⟩ withoutUsers registerEve)
      (googleEve "EVE@mail.com") = some 1 := by
    decide
  refine ⟨given, by decide, ?_⟩
  intro each
  have stored : (siteStep plainLibraries ⟨.mysql, 0, .binary⟩ withoutUsers
      registerEve).db.users.get? 1 =
        some ⟨1, "eve", "eve@mail.com", "secret", "customer", none, true⟩ := by
    decide
  obtain ⟨email, asserted, equal⟩ := each [registerEve] _ List.prefix_rfl 1 _ given stored
  cases asserted
  exact absurd equal (by decide)

/-- The account that a session is given to is active once the request is answered. -/
def GivesToActive (libraries : Libraries) (server : Server) (s : State) (request : SiteRequest) :
    Prop :=
  ∀ user, sessionGiven libraries server s request = some user →
    ∃ row, (siteStep libraries server s request).db.users.get? user = some row ∧
      row.active = true

/-- The callback of the Google login does not find a deactivated account. -/
def FindsActive (engine : Engine) (s : State) : SiteRequest → Prop
  | .account _ (.authGoogleCallback info) =>
      ∀ row, googleAccount engine s.db info = some row → row.loadable = true → row.active = true
  | _ => True

private theorem active_addUser {username email password : String} {provider : Option String}
    {user : Nat} (given : some s.db.users.nextKey = some user) :
    ∃ row, (State.addUser s username email password provider).db.users.get? user = some row ∧
      row.active = true := by
  cases given
  refine ⟨newUser username email password provider s.db.users.nextKey, ?_, rfl⟩
  exact (Table.get?_insertNew s.db.users _ (fun _ => rfl) _).trans (if_pos rfl)

private theorem active_of_entry {session : Session} {request : AccountRequest}
    {write : SessionWrite} {after : State} {user : Nat}
    (finds : FindsActive server.engine s (.account session request))
    (entry : Entry libraries server.engine s request write after)
    (given : write.given = some user) :
    ∃ row, after.db.users.get? user = some row ∧ row.active = true := by
  cases entry with
  | password body row found verified active =>
      cases given
      exact ⟨row, found, active⟩
  | restored body row found inactive allowed =>
      cases given
      refine ⟨{ row with active := true }, ?_, rfl⟩
      refine (Table.get?_save s.db.users _ row.id).trans ?_
      rw [if_pos rfl, found]
      rfl
  | registered body username email password => exact active_addUser given
  | google info row found loads =>
      cases given
      exact ⟨row, (findByEmail_eq_some found).1, finds row found loads⟩
  | joined info username email new => exact active_addUser given

private theorem findsActive_of_gives {session : Session} {info : Option UserInfo}
    (gives : GivesToActive libraries server s (.account session (.authGoogleCallback info))) :
    FindsActive server.engine s (.account session (.authGoogleCallback info)) := by
  intro row found loads
  rcases authGoogleCallback_cases server.engine s info with
    ⟨-, -, unloadable⟩ | ⟨other, same, -, -, state, write⟩ | ⟨_, _, -, missing, -, -⟩
  · have fails := unloadable row found
    rw [loads] at fails
    cases fails
  · rw [found] at same
    cases same
    have given : sessionGiven libraries server s
        (.account session (.authGoogleCallback info)) = some row.id :=
      congrArg SessionWrite.given write
    obtain ⟨stored, here, active⟩ := gives row.id given
    change (authGoogleCallback server.engine s info).state.db.users.get? row.id = _ at here
    rw [state, (findByEmail_eq_some found).1] at here
    cases here
    exact active
  · rw [missing] at found
    cases found

private theorem givesToActive_iff (request : SiteRequest) :
    GivesToActive libraries server s request ↔ FindsActive server.engine s request := by
  constructor
  · intro gives
    cases request with
    | account session request =>
        cases request with
        | authGoogleCallback info => exact findsActive_of_gives gives
        | _ => trivial
    | _ => trivial
  · intro finds user given
    cases request with
    | account session request => exact active_of_entry finds (entry_of_given given) given
    | stock request => cases given
    | cart call => cases given
    | personal call => cases given
    | kit call => cases given

/-- For every run of the site, every request that sets the user of a session leaves the account
active precisely when the callback of the Google login never finds a deactivated account. -/
theorem active_along_iff (libraries : Libraries) (server : Server) (s : State)
    (requests : List SiteRequest) :
    EachStep (siteStep libraries server) (GivesToActive libraries server) s requests ↔
      EachStep (siteStep libraries server) (FindsActive server.engine) s requests :=
  eachStep_congr (fun _ request => givesToActive_iff request) s requests

def deactivatedEve : State :=
  run (siteStep plainLibraries sampleServer) withoutUsers
    [registerEve, .account ⟨some 1, some "customer"⟩ (.deleteAccount (.value "secret"))]

/-- Eve registers and deletes the account; the callback logs it in all the same. -/
theorem deactivated_account_is_logged_in :
    sessionGiven plainLibraries sampleServer deactivatedEve loginEve = none ∧
      sessionGiven plainLibraries sampleServer deactivatedEve (googleEve "eve@mail.com") =
        some 1 ∧
      ((siteStep plainLibraries sampleServer deactivatedEve
        (googleEve "eve@mail.com")).db.users.get? 1).map User.active = some false := by
  decide

end ProductSite.Access.Authentication
