/- Module: ProductSite/Backend/Accounts
   source: backend/app/routes/auth_routes.py, backend/app/routes/user_settings_routes.py,
     backend/app/__init__.py
   digest: Registration, the logins, the account settings, and what each writes to the session. -/

import ProductSite.Backend.Models

set_option autoImplicit false
set_option relaxedAutoImplicit false

namespace ProductSite.Backend.Accounts

open ProductSite.Foundation.KeyedTable (Table)
open ProductSite.Foundation.Wire (JsonField Reply)
open ProductSite.Backend.Models

/-- The libraries that the handlers call. `check_password_hash` raises for a password that is
None, and answers False for a text that is no hash, such as the empty one. -/
structure Libraries where
  generatePasswordHash : String → String
  checkPasswordHash : String → Option String → Option Bool
  checkPasswordHash_empty : ∀ password, checkPasswordHash "" password = some false
  validEmail : String → Bool

/-- What a handler does to the session of its request. -/
inductive SessionWrite where
  | keep
  | login (user : Nat) (role : String)
  | userOnly (user : Nat)
  | clear
  deriving DecidableEq

def SessionWrite.apply (session : Session) : SessionWrite → Session
  | .keep => session
  | .login user role => ⟨some user, some role⟩
  | .userOnly user => ⟨some user, session.role⟩
  | .clear => ⟨none, none⟩

/-- The user that `session['user_id']` is set to. -/
def SessionWrite.given : SessionWrite → Option Nat
  | .login user _ => some user
  | .userOnly user => some user
  | _ => none

structure UserView where
  username : String
  email : String
  role : String
  id : Nat
  deriving DecidableEq

inductive Answer where
  | message (text : String)
  | loggedIn (text : String) (user : UserView)
  | page
  deriving DecidableEq

structure Outcome where
  reply : Reply Answer
  state : State
  write : SessionWrite

def Outcome.refused (reply : Reply Answer) (s : State) : Outcome := ⟨reply, s, .keep⟩

def State.saveUser (s : State) (row : User) : State :=
  { s with db := { s.db with users := s.db.users.save row } }

def newUser (username email password : String) (provider : Option String) (id : Nat) : User :=
  ⟨id, username, email, password, "customer", provider, true⟩

def State.addUser (s : State) (username email password : String) (provider : Option String) :
    State :=
  { s with db := { s.db with
    users := s.db.users.insertNew (newUser username email password provider) (fun _ => rfl) } }

def findByEmail (engine : Engine) (db : Database) (email : Option String) : Option User :=
  email.bind (fun text => db.users.first (fun row => engine.sameText row.email text))

/-- A row with this name or this email, which the unique columns do not allow twice. -/
def taken (engine : Engine) (db : Database) (username email : String) : Bool :=
  db.users.rows.any
    (fun row => engine.sameText row.username username || engine.sameText row.email email)

section Logins

structure LoginBody where
  username : JsonField String
  password : JsonField String

def view (row : User) : UserView := ⟨row.username, row.email, row.role, row.id⟩

/-- The login once the one row with the name is loaded. -/
def loginAs (libraries : Libraries) (s : State) (row : User) (password : JsonField String) :
    Outcome :=
  if !password.present then .refused .raised s
  else
    match libraries.checkPasswordHash row.password password.get with
    | none => .refused .raised s
    | some false => .refused (.error 401 "Invalid credentials" []) s
    | some true =>
        if !row.active then .refused (.error 403 "Account is deactivated" []) s
        else ⟨.ok 200 (.loggedIn "Login successful" (view row)), s, .login row.id row.role⟩

def login (libraries : Libraries) (engine : Engine) (s : State) (body : LoginBody) : Outcome :=
  if !body.username.present then .refused .raised s
  else
    match s.db.users.rows.filter
        (fun row => body.username.get.any (engine.sameText row.username)) with
    | [] => .refused (.error 401 "Invalid credentials" []) s
    | [row] =>
        if row.loadable then loginAs libraries s row body.password else .refused .raised s
    | _ => .refused .raised s

/-- `confirmPassword` and the keys that the schema does not know are only present or not. -/
structure RegisterBody where
  username : JsonField String
  email : JsonField String
  password : JsonField String
  confirmPassword : Bool
  restore : JsonField Bool
  unknownKeys : Bool

/-- `existing.oauth_provider` as a condition. -/
def hasProvider (row : User) : Bool := row.oauthProvider.any (fun provider => provider ≠ "")

def restoreAccount (libraries : Libraries) (s : State) (existing : User)
    (password : Option String) : Outcome :=
  match libraries.checkPasswordHash existing.password password with
  | none => .refused .raised s
  | some verified =>
      -- an account of a provider is restored whatever the password
      if !verified && !hasProvider existing then
        .refused (.error 401 "Incorrect current password" []) s
      else
        ⟨.ok 200 (.message "Account restored successfully"),
          State.saveUser s { existing with active := true }, .login existing.id existing.role⟩

def createAccount (libraries : Libraries) (engine : Engine) (s : State) (body : RegisterBody) :
    Outcome :=
  if !body.restore.present || body.unknownKeys then .refused .raised s
  else
    match body.username.get, body.email.get, body.password.get with
    | some username, some email, some password =>
        if !libraries.validEmail email || taken engine s.db username email then
          .refused .raised s
        else
          ⟨.ok 201 (.message "User registered successfully"),
            State.addUser s username email (libraries.generatePasswordHash password) none,
            .login s.db.users.nextKey "customer"⟩
    | _, _, _ => .refused .raised s

def register (libraries : Libraries) (engine : Engine) (s : State) (body : RegisterBody) :
    Outcome :=
  if !body.confirmPassword then .refused .raised s
  else
    match findByEmail engine s.db body.email.get with
    | none => createAccount libraries engine s body
    | some existing =>
        if !existing.loadable then .refused .raised s
        else if existing.active then .refused (.error 400 "Email is already registered" []) s
        else
          match body.restore with
          | .value false =>
              .refused (.error 409 "Account exists but is deactivated" [("canRestore", "true")]) s
          | .value true => restoreAccount libraries s existing body.password.get
          | _ => createAccount libraries engine s body

structure UserInfo where
  email : Option String
  name : JsonField String

/-- `email.split("@")[0]`. -/
def localPart (email : String) : String :=
  String.ofList (email.toList.takeWhile (fun letter => letter ≠ '@'))

/-- The callback of the Google login; without user info the exchange of the token raised. -/
def authGoogleCallback (engine : Engine) (s : State) (info : Option UserInfo) : Outcome :=
  match info.bind UserInfo.email, info with
  | some email, some given =>
      match findByEmail engine s.db (some email) with
      | some user =>
          -- neither `active` nor the role of the session is looked at
          if user.loadable then ⟨.ok 200 .page, s, .userOnly user.id⟩ else .refused .raised s
      | none =>
          match given.name.getD (localPart email) with
          | none => .refused .raised s
          | some username =>
              if taken engine s.db username email then .refused .raised s
              else
                ⟨.ok 200 .page, State.addUser s username email "" (some "google"),
                  .userOnly s.db.users.nextKey⟩
  | _, _ => .refused .raised s

def logout (s : State) : Outcome := ⟨.ok 200 (.message "Logout successful"), s, .clear⟩

end Logins

section Settings

/-- The row of the session's user, once it is loaded and the password verified. -/
def verifiedUser (libraries : Libraries) (s : State) (user : Nat) (password : Option String) :
    Except (Reply Answer) (Option User) :=
  match s.db.users.get? user with
  | none => .ok none
  | some row =>
      if !row.loadable then .error .raised
      else
        match libraries.checkPasswordHash row.password password with
        | none => .error .raised
        | some verified => .ok (if verified then some row else none)

/-- The settings of the session's own account: what is answered unless the password verifies,
and what is committed if it does. -/
def settings (libraries : Libraries) (session : Session) (s : State) (password : JsonField String)
    (refusal : Nat → Reply Answer) (commit : User → Reply Answer × State) :
    Reply Answer × State :=
  loginRequired session s fun user =>
    match verifiedUser libraries s user password.get with
    | .error reply => (reply, s)
    | .ok none => (refusal user, s)
    | .ok (some row) => commit row

def changeEmail (libraries : Libraries) (engine : Engine) (session : Session) (s : State)
    (email password : JsonField String) : Reply Answer × State :=
  settings libraries session s password
    -- a session without a row raises here, where the other settings answer 401
    (fun user =>
      if (s.db.users.get? user).isNone then .raised else .error 401 "Incorrect password" [])
    fun row =>
      match email.get with
      | none => (.raised, s)
      | some text =>
          if s.db.users.rows.any
              (fun other => other.id ≠ row.id && engine.sameText other.email text) then
            (.raised, s)
          else
            (.ok 200 (.message "Email updated successfully"),
              State.saveUser s { row with email := text })

def changePassword (libraries : Libraries) (session : Session) (s : State)
    (currentPassword newPassword : JsonField String) : Reply Answer × State :=
  settings libraries session s currentPassword
    (fun _ => .error 401 "Incorrect current password" [])
    fun row =>
      match newPassword.get with
      | none => (.raised, s)
      | some text =>
          (.ok 200 (.message "Password updated successfully"),
            State.saveUser s { row with password := libraries.generatePasswordHash text })

def deleteAccount (libraries : Libraries) (session : Session) (s : State)
    (password : JsonField String) : Reply Answer × State :=
  settings libraries session s password (fun _ => .error 401 "Incorrect current password" [])
    fun row =>
      (.ok 200 (.message "Account deactivated successfully"),
        State.saveUser s { row with active := false })

/-- The answer to a change that is committed already: its text reads the row again. -/
def roleAnswer (row : User) : Reply Answer :=
  if row.loadable then
    .ok 200 (.message ("Role for " ++ row.username ++ " updated to " ++ row.role))
  else .raised

def changeUserRole (engine : Engine) (session : Session) (s : State) (userId : Nat)
    (role : JsonField String) : Reply Answer × State :=
  adminRequired session s fun _ =>
    match role.get.filter (fun text => text = "user" || text = "admin") with
    | none => (.error 400 "Invalid role" [], s)
    | some text =>
        match s.db.users.get? userId with
        | none => (.error 404 "User not found" [], s)
        | some row =>
            let changed := { row with role := text }
            -- the enumeration has no 'user': an engine that enforces it fails the commit
            if !row.loadable || (engine.enumerations && !changed.loadable) then (.raised, s)
            else (roleAnswer changed, State.saveUser s changed)

/-- The rows that go with a user: the addresses, and the purchases sent to them. -/
def ownAddress (db : Database) (user : Nat) (address : Option Nat) : Bool :=
  address.any (fun id => (db.shippingAddresses.get? id).any (fun row => row.userId = user))

/-- A row of the user that would stay behind with its owner set to null, or with a dangling
foreign key where the engine enforces those. -/
def blocksDeletion (engine : Engine) (db : Database) (user : Nat) : Bool :=
  db.cartItems.rows.any (fun item => item.userId = user) ||
    db.reviews.rows.any (fun review => review.userId = user) ||
    db.purchases.rows.any (fun purchase =>
      purchase.userId = user && !ownAddress db user purchase.shippingAddressId) ||
    (engine.foreignKeys && db.favorites.rows.any (fun favorite => favorite.userId = user))

def deleteUser (engine : Engine) (session : Session) (s : State) (userId : Nat) :
    Reply Answer × State :=
  adminRequired session s fun _ =>
    match s.db.users.get? userId with
    | none => (.error 404 "User not found" [], s)
    | some row =>
        if !row.loadable || blocksDeletion engine s.db userId then (.raised, s)
        else
          (.ok 200 (.message ("User " ++ row.username ++ " deleted")),
            { s with db := { s.db with
              users := s.db.users.remove (fun user => user.id = userId)
              shippingAddresses := s.db.shippingAddresses.remove (fun row => row.userId = userId)
              purchases := s.db.purchases.remove (fun purchase =>
                ownAddress s.db userId purchase.shippingAddressId) } })

end Settings

/-- The requests that write the user table or the session. -/
inductive AccountRequest where
  | login (body : LoginBody)
  | register (body : RegisterBody)
  | authGoogleCallback (info : Option UserInfo)
  | logout
  | changeEmail (email password : JsonField String)
  | changePassword (currentPassword newPassword : JsonField String)
  | deleteAccount (password : JsonField String)
  | changeUserRole (userId : Nat) (role : JsonField String)
  | deleteUser (userId : Nat)

def Outcome.ofAnswer (answer : Reply Answer × State) (write : SessionWrite) : Outcome :=
  ⟨answer.1, answer.2, if answer.1.fetchOk then write else .keep⟩

def handle (libraries : Libraries) (engine : Engine) (session : Session) (s : State) :
    AccountRequest → Outcome
  | .login body => login libraries engine s body
  | .register body => register libraries engine s body
  | .authGoogleCallback info => authGoogleCallback engine s info
  | .logout => logout s
  | .changeEmail email password =>
      .ofAnswer (changeEmail libraries engine session s email password) .keep
  | .changePassword currentPassword newPassword =>
      .ofAnswer (changePassword libraries session s currentPassword newPassword) .keep
  | .deleteAccount password => .ofAnswer (deleteAccount libraries session s password) .clear
  | .changeUserRole userId role =>
      .ofAnswer (changeUserRole engine session s userId role) .keep
  | .deleteUser userId => .ofAnswer (deleteUser engine session s userId) .keep

section Cases

variable (libraries : Libraries) (engine : Engine) (session : Session) (s : State)

def Quiet (outcome : Outcome) : Prop := outcome.state = s ∧ outcome.write = .keep

/-- The session goes to a stored, active account with a password that verifies. -/
def LogsIn (password : Option String) (outcome : Outcome) : Prop :=
  ∃ row, s.db.users.get? row.id = some row ∧
    libraries.checkPasswordHash row.password password = some true ∧ row.active = true ∧
    outcome.state = s ∧ outcome.write = .login row.id row.role

/-- A deactivated account is active again, and the session goes to it. -/
def Restores (password : Option String) (outcome : Outcome) : Prop :=
  ∃ existing, s.db.users.get? existing.id = some existing ∧ existing.active = false ∧
    (libraries.checkPasswordHash existing.password password = some true ∨
      hasProvider existing = true) ∧
    outcome.state = State.saveUser s { existing with active := true } ∧
    outcome.write = .login existing.id existing.role

/-- The session goes to a new account. -/
def Registers (outcome : Outcome) : Prop :=
  ∃ username email password,
    outcome.state =
      State.addUser s username email (libraries.generatePasswordHash password) none ∧
    outcome.write = .login s.db.users.nextKey "customer"

variable {libraries engine session s}

theorem findByEmail_eq_some {email : Option String} {row : User}
    (found : findByEmail engine s.db email = some row) :
    s.db.users.get? row.id = some row ∧
      ∃ text, email = some text ∧ engine.sameText row.email text = true := by
  obtain ⟨text, given, first⟩ := Option.bind_eq_some_iff.mp found
  have same := Table.of_first first
  exact ⟨Table.get?_of_first first, text, given, same⟩

private theorem loginAs_cases {row : User} (stored : s.db.users.get? row.id = some row)
    (password : JsonField String) :
    Quiet s (loginAs libraries s row password) ∨
      LogsIn libraries s password.get (loginAs libraries s row password) := by
  unfold loginAs
  split
  · exact Or.inl ⟨rfl, rfl⟩
  · cases check : libraries.checkPasswordHash row.password password.get with
    | none => exact Or.inl ⟨rfl, rfl⟩
    | some verified =>
        cases verified with
        | false => exact Or.inl ⟨rfl, rfl⟩
        | true =>
            simp only
            cases active : row.active with
            | false => exact Or.inl ⟨rfl, rfl⟩
            | true => exact Or.inr ⟨row, stored, check, active, rfl, rfl⟩

theorem login_cases (libraries : Libraries) (engine : Engine) (s : State) (body : LoginBody) :
    Quiet s (login libraries engine s body) ∨
      LogsIn libraries s body.password.get (login libraries engine s body) := by
  unfold login
  split
  · exact Or.inl ⟨rfl, rfl⟩
  · split
    · exact Or.inl ⟨rfl, rfl⟩
    · rename_i row only
      have stored : row ∈ s.db.users.rows := by
        have listed := List.mem_singleton_self row
        rw [← only] at listed
        exact (List.mem_filter.mp listed).1
      split
      · exact loginAs_cases (Table.get?_of_mem stored) body.password
      · exact Or.inl ⟨rfl, rfl⟩
    · exact Or.inl ⟨rfl, rfl⟩

private theorem createAccount_cases (body : RegisterBody) :
    Quiet s (createAccount libraries engine s body) ∨
      Registers libraries s (createAccount libraries engine s body) := by
  unfold createAccount
  split
  · exact Or.inl ⟨rfl, rfl⟩
  · split
    · split
      · exact Or.inl ⟨rfl, rfl⟩
      · exact Or.inr ⟨_, _, _, rfl, rfl⟩
    · exact Or.inl ⟨rfl, rfl⟩

private theorem restoreAccount_cases {existing : User}
    (stored : s.db.users.get? existing.id = some existing) (inactive : existing.active = false)
    (password : Option String) :
    Quiet s (restoreAccount libraries s existing password) ∨
      Restores libraries s password (restoreAccount libraries s existing password) := by
  unfold restoreAccount
  cases check : libraries.checkPasswordHash existing.password password with
  | none => exact Or.inl ⟨rfl, rfl⟩
  | some verified =>
      cases verified with
      | true => exact Or.inr ⟨existing, stored, inactive, Or.inl check, rfl, rfl⟩
      | false =>
          simp only
          cases provider : hasProvider existing with
          | false => exact Or.inl ⟨rfl, rfl⟩
          | true => exact Or.inr ⟨existing, stored, inactive, Or.inr provider, rfl, rfl⟩

theorem register_cases (libraries : Libraries) (engine : Engine) (s : State)
    (body : RegisterBody) :
    Quiet s (register libraries engine s body) ∨
      Restores libraries s body.password.get (register libraries engine s body) ∨
      Registers libraries s (register libraries engine s body) := by
  unfold register
  split
  · exact Or.inl ⟨rfl, rfl⟩
  · cases found : findByEmail engine s.db body.email.get with
    | none => exact (createAccount_cases body).imp_right Or.inr
    | some existing =>
        simp only
        split
        · exact Or.inl ⟨rfl, rfl⟩
        · split
          · exact Or.inl ⟨rfl, rfl⟩
          · rename_i inactive
            have deactivated : existing.active = false := by simpa using inactive
            split
            · exact Or.inl ⟨rfl, rfl⟩
            · exact (restoreAccount_cases (findByEmail_eq_some found).1 deactivated
                body.password.get).imp_right Or.inl
            · exact (createAccount_cases body).imp_right Or.inr

/-- The account that the callback finds for what Google asserts. -/
def googleAccount (engine : Engine) (db : Database) (info : Option UserInfo) : Option User :=
  findByEmail engine db (info.bind UserInfo.email)

/-- The name and the email of the account that the callback can add: neither is taken. -/
def googleNewcomer (engine : Engine) (db : Database) (info : Option UserInfo) :
    Option (String × String) :=
  info.bind fun given =>
    given.email.bind fun email =>
      ((given.name.getD (localPart email)).filter
        (fun username => !taken engine db username email)).map (fun username => (username, email))

private theorem googleNewcomer_found {given : UserInfo} {email : String} {user : User}
    (asserted : given.email = some email)
    (found : findByEmail engine s.db (some email) = some user) :
    googleNewcomer engine s.db (some given) = none := by
  obtain ⟨stored, text, named, same⟩ := findByEmail_eq_some found
  cases named
  have known : ∀ username, taken engine s.db username email = true := by
    intro username
    refine List.any_eq_true.mpr ⟨user, (Table.get?_eq_some_iff.mp stored).1, ?_⟩
    rw [same, Bool.or_true]
  cases read : given.name.getD (localPart email) with
  | none => simp [googleNewcomer, asserted, read]
  | some username => simp [googleNewcomer, asserted, read, known]

/-- The callback hands the session to the account that it finds, or else adds one, or raises. -/
theorem authGoogleCallback_cases (engine : Engine) (s : State) (info : Option UserInfo) :
    (Quiet s (authGoogleCallback engine s info) ∧ googleNewcomer engine s.db info = none ∧
      ∀ user, googleAccount engine s.db info = some user → user.loadable = false) ∨
    (∃ user, googleAccount engine s.db info = some user ∧ user.loadable = true ∧
      googleNewcomer engine s.db info = none ∧
      (authGoogleCallback engine s info).state = s ∧
      (authGoogleCallback engine s info).write = .userOnly user.id) ∨
    (∃ username email, googleNewcomer engine s.db info = some (username, email) ∧
      googleAccount engine s.db info = none ∧
      (authGoogleCallback engine s info).state =
        State.addUser s username email "" (some "google") ∧
      (authGoogleCallback engine s info).write = .userOnly s.db.users.nextKey) := by
  cases info with
  | none => exact Or.inl ⟨⟨rfl, rfl⟩, rfl, nofun⟩
  | some given =>
      cases asserted : given.email with
      | none =>
          have silent : (some given).bind UserInfo.email = none := asserted
          simp [authGoogleCallback, silent, Quiet, Outcome.refused, googleNewcomer, asserted,
            googleAccount, findByEmail]
      | some email =>
          have spoken : (some given).bind UserInfo.email = some email := asserted
          rw [googleAccount, spoken]
          cases found : findByEmail engine s.db (some email) with
          | some user =>
              have known := googleNewcomer_found asserted found
              cases loads : user.loadable with
              | true =>
                  refine Or.inr (Or.inl ⟨user, rfl, loads, known, ?_⟩)
                  simp [authGoogleCallback, spoken, found, loads]
              | false =>
                  refine Or.inl ⟨?_, known, ?_⟩
                  · simp [authGoogleCallback, spoken, found, loads, Quiet, Outcome.refused]
                  · rintro _ ⟨⟩
                    exact loads
          | none =>
              cases read : given.name.getD (localPart email) with
              | none =>
                  simp [authGoogleCallback, spoken, found, read, Quiet, Outcome.refused,
                    googleNewcomer, asserted]
              | some username =>
                  cases used : taken engine s.db username email with
                  | true =>
                      simp [authGoogleCallback, spoken, found, read, used, Quiet,
                        Outcome.refused, googleNewcomer, asserted]
                  | false =>
                      refine Or.inr (Or.inr ⟨username, email, ?_, rfl, ?_⟩)
                      · simp [googleNewcomer, asserted, read, used]
                      · simp [authGoogleCallback, spoken, found, read, used]

theorem verifiedUser_eq_some {user : Nat} {password : Option String} {row : User}
    (verified : verifiedUser libraries s user password = .ok (some row)) :
    s.db.users.get? user = some row ∧
      libraries.checkPasswordHash row.password password = some true := by
  unfold verifiedUser at verified
  split at verified
  · cases verified
  · rename_i stored found
    split at verified
    · cases verified
    · split at verified
      · cases verified
      · rename_i answer check
        cases answer with
        | false => cases verified
        | true =>
            cases verified
            exact ⟨found, check⟩

/-- The state is the old one, or the old one with an edited row of an account whose password
is verified. -/
def EditsVerified (libraries : Libraries) (s after : State) (password : Option String) : Prop :=
  after = s ∨ ∃ row changed, s.db.users.get? row.id = some row ∧
    libraries.checkPasswordHash row.password password = some true ∧
    changed.id = row.id ∧ changed.role = row.role ∧ changed.oauthProvider = row.oauthProvider ∧
    after = State.saveUser s changed

private theorem settings_edits {password : JsonField String} {refusal : Nat → Reply Answer}
    {commit : User → Reply Answer × State}
    (commits : ∀ row, (commit row).2 = s ∨ ∃ changed, changed.id = row.id ∧
      changed.role = row.role ∧ changed.oauthProvider = row.oauthProvider ∧
      (commit row).2 = State.saveUser s changed) :
    EditsVerified libraries s (settings libraries session s password refusal commit).2
      password.get := by
  unfold settings loginRequired
  split
  · exact Or.inl rfl
  · rename_i user login
    simp only
    split
    · exact Or.inl rfl
    · exact Or.inl rfl
    · rename_i row verified
      obtain ⟨found, check⟩ := verifiedUser_eq_some verified
      have here : row.id = user := Table.key_of_get? found
      rcases commits row with kept | ⟨changed, key, role, provider, saved⟩
      · exact Or.inl kept
      · exact Or.inr ⟨row, changed, by rw [here]; exact found, check, key, role, provider, saved⟩

theorem changeEmail_edits (email password : JsonField String) :
    EditsVerified libraries s (changeEmail libraries engine session s email password).2
      password.get := by
  apply settings_edits
  intro row
  cases email.get with
  | none => exact Or.inl rfl
  | some text =>
      simp only
      split
      · exact Or.inl rfl
      · exact Or.inr ⟨{ row with email := text }, rfl, rfl, rfl, rfl⟩

theorem changePassword_edits (currentPassword newPassword : JsonField String) :
    EditsVerified libraries s (changePassword libraries session s currentPassword newPassword).2
      currentPassword.get := by
  apply settings_edits
  intro row
  cases newPassword.get with
  | none => exact Or.inl rfl
  | some text =>
      exact Or.inr ⟨{ row with password := libraries.generatePasswordHash text },
        rfl, rfl, rfl, rfl⟩

theorem deleteAccount_edits (password : JsonField String) :
    EditsVerified libraries s (deleteAccount libraries session s password).2 password.get := by
  apply settings_edits
  intro row
  exact Or.inr ⟨{ row with active := false }, rfl, rfl, rfl, rfl⟩

/-- The row that an accepted `change_user_role` request writes. -/
def roleChange (engine : Engine) (session : Session) (db : Database) (userId : Nat)
    (role : JsonField String) : Option User :=
  match session.user.filter (isAdmin db),
      role.get.filter (fun text => text = "user" || text = "admin"), db.users.get? userId with
  | some _, some text, some row =>
      if !row.loadable || (engine.enumerations && !User.loadable { row with role := text })
      then none
      else some { row with role := text }
  | _, _, _ => none

theorem roleChange_eq_some {userId : Nat} {role : JsonField String} {changed : User}
    (accepted : roleChange engine session s.db userId role = some changed) :
    ∃ row, s.db.users.get? userId = some row ∧ changed = { row with role := changed.role } := by
  unfold roleChange at accepted
  split at accepted
  · rename_i row _ _ found
    split at accepted
    · cases accepted
    · cases accepted
      exact ⟨row, found, rfl⟩
  · cases accepted

theorem changeUserRole_state (engine : Engine) (session : Session) (s : State) (userId : Nat)
    (role : JsonField String) :
    (changeUserRole engine session s userId role).2 =
      match roleChange engine session s.db userId role with
      | none => s
      | some changed => State.saveUser s changed := by
  unfold changeUserRole adminRequired roleChange
  cases session.user with
  | none => rfl
  | some user =>
      simp only [Option.filter_some]
      split
      · cases role.get.filter (fun text => text = "user" || text = "admin") with
        | none => rfl
        | some text =>
            cases s.db.users.get? userId with
            | none => rfl
            | some row =>
                simp only
                split <;> rfl
      · rfl

/-- A `delete_user` request is accepted: an administrator asks, and nothing of the user stays
behind. -/
def deletes (engine : Engine) (session : Session) (db : Database) (userId : Nat) : Bool :=
  session.user.any (isAdmin db) &&
    (db.users.get? userId).any (fun row => row.loadable && !blocksDeletion engine db userId)

/-- The database after the deletion: the addresses go with their user, and the purchases with
the addresses that they are sent to. -/
def withoutUser (db : Database) (userId : Nat) : Database :=
  { db with
    users := db.users.remove (fun user => user.id = userId)
    shippingAddresses := db.shippingAddresses.remove (fun row => row.userId = userId)
    purchases := db.purchases.remove
      (fun purchase => ownAddress db userId purchase.shippingAddressId) }

theorem deleteUser_cases (engine : Engine) (session : Session) (s : State) (userId : Nat) :
    (deletes engine session s.db userId = false ∧
      (deleteUser engine session s userId).1.fetchOk = false ∧
      (deleteUser engine session s userId).2 = s) ∨
    (deletes engine session s.db userId = true ∧ ∃ message,
      deleteUser engine session s userId =
        (.ok 200 (.message message), { s with db := withoutUser s.db userId })) := by
  unfold deleteUser adminRequired deletes
  cases session.user with
  | none => exact Or.inl ⟨rfl, rfl, rfl⟩
  | some user =>
      cases admin : isAdmin s.db user with
      | false => simp [admin, adminRefusal_fetchOk]
      | true =>
          cases s.db.users.get? userId with
          | none => simp [admin, Reply.fetchOk, Reply.status]
          | some row =>
              cases loads : row.loadable with
              | false => simp [admin, loads, Reply.fetchOk, Reply.status]
              | true =>
                  cases blocksDeletion engine s.db userId with
                  | true => simp [admin, loads, Reply.fetchOk, Reply.status]
                  | false => simp [admin, loads, withoutUser]

theorem deleteUser_users (engine : Engine) (session : Session) (s : State) (userId : Nat) :
    (deleteUser engine session s userId).2.db.users =
      if deletes engine session s.db userId then s.db.users.remove (fun user => user.id = userId)
      else s.db.users := by
  rcases deleteUser_cases engine session s userId with ⟨refused, -, kept⟩ | ⟨accepted, _, removed⟩
  · simp [refused, kept]
  · simp [accepted, removed, withoutUser]

end Cases

section Administrators

variable {libraries : Libraries} {s : State}

theorem isAdmin_saveUser {row changed : User} (stored : s.db.users.get? changed.id = some row)
    (user : Nat) :
    isAdmin (State.saveUser s changed).db user = true ↔
      if user = changed.id then changed.role = "admin" else isAdmin s.db user = true := by
  have lookup : (State.saveUser s changed).db.users.get? user =
      if user = changed.id then (s.db.users.get? user).map (fun _ => changed)
      else s.db.users.get? user := Table.get?_save s.db.users changed user
  rw [isAdmin_iff, lookup]
  split
  · rename_i here
    rw [here, stored]
    simp
  · rw [isAdmin_iff]

theorem isAdmin_saveUser_kept {row changed : User} {user : Nat}
    (stored : s.db.users.get? changed.id = some row) (role : changed.role = row.role)
    (admin : isAdmin s.db user = true) : isAdmin (State.saveUser s changed).db user = true := by
  refine (isAdmin_saveUser stored user).mpr ?_
  split
  · rename_i here
    obtain ⟨found, present, named⟩ := isAdmin_iff.mp admin
    rw [here, stored] at present
    cases present
    exact role.trans named
  · exact admin

theorem isAdmin_removed {user userId : Nat} {after : State}
    (users : after.db.users = s.db.users.remove (fun row => row.id = userId)) :
    isAdmin after.db user = true ↔ user ≠ userId ∧ isAdmin s.db user = true := by
  rw [isAdmin_iff, isAdmin_iff, users]
  constructor
  · rintro ⟨row, found, role⟩
    obtain ⟨member, key⟩ := Table.get?_eq_some_iff.mp found
    obtain ⟨old, stays⟩ := Table.mem_remove.mp member
    have other : row.id ≠ userId := of_decide_eq_false stays
    rw [key] at other
    exact ⟨other, row, Table.get?_eq_some_iff.mpr ⟨old, key⟩, role⟩
  · rintro ⟨other, row, found, role⟩
    obtain ⟨member, key⟩ := Table.get?_eq_some_iff.mp found
    have stays : decide (row.id = userId) = false := decide_eq_false (by rw [key]; exact other)
    exact ⟨row, Table.get?_eq_some_iff.mpr ⟨Table.mem_remove.mpr ⟨member, stays⟩, key⟩, role⟩

variable (username email password : String) (provider : Option String)

theorem isAdmin_addUser_nextKey :
    isAdmin (State.addUser s username email password provider).db s.db.users.nextKey = false := by
  have lookup : (State.addUser s username email password provider).db.users.get?
      s.db.users.nextKey = some (newUser username email password provider s.db.users.nextKey) :=
    (Table.get?_insertNew s.db.users _ (fun _ => rfl) _).trans (if_pos rfl)
  refine Bool.eq_false_iff.mpr ?_
  intro admin
  obtain ⟨row, found, role⟩ := isAdmin_iff.mp admin
  rw [lookup] at found
  cases found
  exact absurd role (show "customer" ≠ "admin" by decide)

theorem isAdmin_addUser {user : Nat} (admin : isAdmin s.db user = true) :
    isAdmin (State.addUser s username email password provider).db user = true := by
  obtain ⟨row, found, role⟩ := isAdmin_iff.mp admin
  have old : user ≠ s.db.users.nextKey := by
    rintro rfl
    rw [Table.get?_nextKey] at found
    cases found
  refine isAdmin_iff.mpr ⟨row, ?_, role⟩
  exact (Table.get?_insertNew s.db.users _ (fun _ => rfl) user).trans ((if_neg old).trans found)

theorem isAdmin_of_edits {after : State} {given : Option String} {user : Nat}
    (edits : EditsVerified libraries s after given) (admin : isAdmin s.db user = true) :
    isAdmin after.db user = true := by
  rcases edits with rfl | ⟨row, changed, stored, -, key, role, -, rfl⟩
  · exact admin
  · rw [← key] at stored
    exact isAdmin_saveUser_kept stored role admin

end Administrators

end ProductSite.Backend.Accounts
