/- Module: ProductSite/Access/OneAccount
   source: backend/app/routes/auth_routes.py, backend/app/routes/user_settings_routes.py,
     backend/app/models/user.py
   digest: No two accounts share a name or an email along any run of requests, and an account that
     was registered can log in until its owner or an administrator edits it. -/

import ProductSite.Access.Authentication
import ProductSite.Browse.Search
import ProductSite.Foundation.Clashes

set_option autoImplicit false
set_option relaxedAutoImplicit false

namespace ProductSite.Access.OneAccount

open ProductSite.Foundation.Clashes
open ProductSite.Foundation.KeyedTable (Table)
open ProductSite.Foundation.Runs
open ProductSite.Foundation.Wire (JsonField Reply)
open ProductSite.Access.Authentication (plainLibraries)
open ProductSite.Backend.Models
open ProductSite.Backend.Accounts
open ProductSite.Backend.CartRoutes (cartStep_frame)
open ProductSite.Backend.InventoryRoutes (deleteInventory)
open ProductSite.Backend.KitRoutes (kitStep_users)
open ProductSite.Backend.PersonalRoutes (personalStep_users)
open ProductSite.Backend.Requests (customer nobody sampleShop shelfOnly step_users)
open ProductSite.Browse.Search (CatalogueRequest catalogueStep)

section Edits

/-- The request edits the account: its owner does so in the settings, or an administrator in the
list of users. -/
def editsAccount (session : Session) (db : Database) (id : Nat) : AccountRequest → Bool
  | .changeEmail _ _ | .changePassword _ _ | .deleteAccount _ => session.user = some id
  | .changeUserRole userId _ | .deleteUser userId =>
      userId = id && session.user.any (isAdmin db)
  | _ => false

/-- What an account request does to the user table, with what was checked before. -/
inductive AccountEdit (engine : Engine) (session : Session) (db : Database)
    (request : AccountRequest) : Table User.id → Prop where
  | kept : AccountEdit engine session db request db.users
  | added (username email password : String) (provider : Option String)
      (free : taken engine db username email = false) :
      AccountEdit engine session db request
        (db.users.insertNew (newUser username email password provider) (fun _ => rfl))
  | rewritten (row changed : User) (stored : db.users.get? row.id = some row)
      (key : changed.id = row.id) (name : changed.username = row.username)
      (email : changed.email = row.email ∨ ∀ other ∈ db.users.rows, other.id ≠ row.id →
        engine.sameText other.email changed.email = false)
      (entitled : row.active = false ∨ editsAccount session db row.id request = true) :
      AccountEdit engine session db request (db.users.save changed)
  | removed (id : Nat) (entitled : editsAccount session db id request = true) :
      AccountEdit engine session db request (db.users.remove (fun user => user.id = id))

variable {libraries : Libraries} {engine : Engine} {session : Session} {s : State}

theorem AccountEdit.of_eq {request : AccountRequest} {after : State} (same : after = s) :
    AccountEdit engine session s.db request after.db.users := by
  rw [same]
  exact .kept

/-- A new account is stored after both unique columns were compared. -/
private theorem createAccount_adds (libraries : Libraries) (engine : Engine) (s : State)
    (body : RegisterBody) :
    (createAccount libraries engine s body).state = s ∧
      (createAccount libraries engine s body).reply = .raised ∨
    ∃ username email password, body.username.get = some username ∧
      body.password.get = some password ∧ taken engine s.db username email = false ∧
      createAccount libraries engine s body =
        ⟨.ok 201 (.message "User registered successfully"),
          State.addUser s username email (libraries.generatePasswordHash password) none,
          .login s.db.users.nextKey "customer"⟩ := by
  unfold createAccount
  split
  · exact Or.inl ⟨rfl, rfl⟩
  · split
    · rename_i username email password named mailed chosen
      split
      · exact Or.inl ⟨rfl, rfl⟩
      · rename_i accepted
        rw [Bool.or_eq_true, not_or, Bool.not_eq_true, Bool.not_eq_true] at accepted
        exact Or.inr ⟨username, email, password, named, chosen, accepted.2, rfl⟩
    · exact Or.inl ⟨rfl, rfl⟩

/-- A registration is turned away, restores a deactivated account, or creates one. -/
private theorem register_paths (libraries : Libraries) (engine : Engine) (s : State)
    (body : RegisterBody) :
    ((register libraries engine s body).state = s ∧
      (register libraries engine s body).reply.status ≠ 201) ∨
    (∃ existing, s.db.users.get? existing.id = some existing ∧ existing.active = false ∧
      register libraries engine s body =
        restoreAccount libraries s existing body.password.get) ∨
    register libraries engine s body = createAccount libraries engine s body := by
  unfold register
  split
  · exact Or.inl ⟨rfl, nofun⟩
  · cases found : findByEmail engine s.db body.email.get with
    | none => exact Or.inr (Or.inr rfl)
    | some existing =>
        simp only
        split
        · exact Or.inl ⟨rfl, nofun⟩
        · split
          · exact Or.inl ⟨rfl, nofun⟩
          · rename_i inactive
            rw [Bool.not_eq_true] at inactive
            split
            · exact Or.inl ⟨rfl, nofun⟩
            · exact Or.inr (Or.inl ⟨existing, (findByEmail_eq_some found).1, inactive, rfl⟩)
            · exact Or.inr (Or.inr rfl)

/-- Restoring an account only sets its flag, and is never answered with 201. -/
private theorem restoreAccount_paths (libraries : Libraries) (s : State) (existing : User)
    (password : Option String) :
    ((restoreAccount libraries s existing password).state = s ∨
      (restoreAccount libraries s existing password).state =
        State.saveUser s { existing with active := true }) ∧
    (restoreAccount libraries s existing password).reply.status ≠ 201 := by
  unfold restoreAccount
  split
  · exact ⟨Or.inl rfl, nofun⟩
  · split
    · exact ⟨Or.inl rfl, nofun⟩
    · exact ⟨Or.inr rfl, nofun⟩

/-- A registration that is answered with 201 has added the account. -/
private theorem register_created {body : RegisterBody}
    (created : (register libraries engine s body).reply.status = 201) :
    ∃ username email password, body.username.get = some username ∧
      body.password.get = some password ∧ taken engine s.db username email = false ∧
      (register libraries engine s body).state =
        State.addUser s username email (libraries.generatePasswordHash password) none := by
  rcases register_paths libraries engine s body with
    ⟨-, refused⟩ | ⟨existing, -, -, restores⟩ | creates
  · exact absurd created refused
  · rw [restores] at created
    exact absurd created (restoreAccount_paths libraries s existing _).2
  · rw [creates] at created ⊢
    rcases createAccount_adds libraries engine s body with
      ⟨-, raised⟩ | ⟨username, email, password, named, chosen, free, added⟩
    · rw [raised] at created
      cases created
    · exact ⟨username, email, password, named, chosen, free, congrArg Outcome.state added⟩

private theorem accountEdit_register (body : RegisterBody) :
    AccountEdit engine session s.db (.register body)
      (register libraries engine s body).state.db.users := by
  rcases register_paths libraries engine s body with
    ⟨kept, -⟩ | ⟨existing, stored, inactive, restores⟩ | creates
  · exact .of_eq kept
  · rw [restores]
    rcases (restoreAccount_paths libraries s existing body.password.get).1 with kept | saved
    · exact .of_eq kept
    · rw [saved]
      exact .rewritten existing _ stored rfl rfl (Or.inl rfl) (Or.inl inactive)
  · rw [creates]
    rcases createAccount_adds libraries engine s body with
      ⟨kept, -⟩ | ⟨username, email, password, -, -, free, added⟩
    · exact .of_eq kept
    · rw [added]
      exact .added username email _ none free

private theorem accountEdit_authGoogleCallback (info : Option UserInfo) :
    AccountEdit engine session s.db (.authGoogleCallback info)
      (authGoogleCallback engine s info).state.db.users := by
  rcases authGoogleCallback_cases engine s info with
    ⟨⟨kept, -⟩, -⟩ | ⟨_, -, -, -, kept, -⟩ | ⟨username, email, newcomer, -, after, -⟩
  · exact .of_eq kept
  · exact .of_eq kept
  · rw [after]
    refine .added username email "" (some "google") ?_
    obtain ⟨given, -, mailed⟩ := Option.bind_eq_some_iff.mp newcomer
    obtain ⟨address, -, named⟩ := Option.bind_eq_some_iff.mp mailed
    obtain ⟨chosen, kept, same⟩ := Option.map_eq_some_iff.mp named
    cases same
    exact Bool.not_eq_true' _ ▸ (Option.filter_eq_some_iff.mp kept).2

/-- The settings leave the state alone, or commit for the row of the session's user. -/
private theorem settings_commits {password : JsonField String} {refusal : Nat → Reply Answer}
    {commit : User → Reply Answer × State} :
    (settings libraries session s password refusal commit).2 = s ∨
      ∃ row, s.db.users.get? row.id = some row ∧ session.user = some row.id ∧
        (settings libraries session s password refusal commit).2 = (commit row).2 := by
  unfold settings loginRequired
  split
  · exact Or.inl rfl
  · rename_i user login
    simp only
    split
    · exact Or.inl rfl
    · exact Or.inl rfl
    · rename_i row verified
      have found := (verifiedUser_eq_some verified).1
      have here : row.id = user := Table.key_of_get? found
      refine Or.inr ⟨row, ?_, ?_, rfl⟩
      · rw [here]
        exact found
      · rw [here]
        exact login

private theorem accountEdit_changeEmail (email password : JsonField String) :
    AccountEdit engine session s.db (.changeEmail email password)
      (changeEmail libraries engine session s email password).2.db.users := by
  unfold changeEmail
  rcases settings_commits with kept | ⟨row, stored, own, committed⟩
  · exact .of_eq kept
  · rw [committed]
    split
    · exact .kept
    · rename_i text _
      split
      · exact .kept
      · rename_i free
        refine .rewritten row _ stored rfl rfl (Or.inr ?_) (Or.inr (decide_eq_true own))
        intro other member elsewhere
        rw [← Bool.not_eq_true]
        intro same
        refine free (List.any_eq_true.mpr ⟨other, member, ?_⟩)
        rw [same, Bool.and_true]
        exact decide_eq_true elsewhere

private theorem accountEdit_changePassword (currentPassword newPassword : JsonField String) :
    AccountEdit engine session s.db (.changePassword currentPassword newPassword)
      (changePassword libraries session s currentPassword newPassword).2.db.users := by
  unfold changePassword
  rcases settings_commits with kept | ⟨row, stored, own, committed⟩
  · exact .of_eq kept
  · rw [committed]
    split
    · exact .kept
    · exact .rewritten row _ stored rfl rfl (Or.inl rfl) (Or.inr (decide_eq_true own))

private theorem accountEdit_deleteAccount (password : JsonField String) :
    AccountEdit engine session s.db (.deleteAccount password)
      (deleteAccount libraries session s password).2.db.users := by
  unfold deleteAccount
  rcases settings_commits with kept | ⟨row, stored, own, committed⟩
  · exact .of_eq kept
  · rw [committed]
    exact .rewritten row _ stored rfl rfl (Or.inl rfl) (Or.inr (decide_eq_true own))

private theorem accountEdit_changeUserRole (userId : Nat) (role : JsonField String) :
    AccountEdit engine session s.db (.changeUserRole userId role)
      (changeUserRole engine session s userId role).2.db.users := by
  rw [changeUserRole_state]
  split
  · exact .kept
  · rename_i changed accepted
    have asked : session.user.any (isAdmin s.db) = true := by
      cases admin : session.user.filter (isAdmin s.db) with
      | none =>
          rw [roleChange, admin] at accepted
          cases accepted
      | some user =>
          obtain ⟨given, allowed⟩ := Option.filter_eq_some_iff.mp admin
          rw [given]
          exact allowed
    obtain ⟨row, found, same⟩ := roleChange_eq_some accepted
    have here : row.id = userId := Table.key_of_get? found
    rw [same]
    refine .rewritten row _ (by rw [here]; exact found) rfl rfl (Or.inl rfl) (Or.inr ?_)
    simp [editsAccount, here, asked]

private theorem accountEdit_handle (request : AccountRequest) :
    AccountEdit engine session s.db request
      (handle libraries engine session s request).state.db.users := by
  cases request with
  | login body =>
      rcases login_cases libraries engine s body with ⟨kept, -⟩ | ⟨_, -, -, -, kept, -⟩
      · exact .of_eq kept
      · exact .of_eq kept
  | register body => exact accountEdit_register body
  | authGoogleCallback info => exact accountEdit_authGoogleCallback info
  | logout => exact .kept
  | changeEmail email password => exact accountEdit_changeEmail email password
  | changePassword currentPassword newPassword =>
      exact accountEdit_changePassword currentPassword newPassword
  | deleteAccount password => exact accountEdit_deleteAccount password
  | changeUserRole userId role => exact accountEdit_changeUserRole userId role
  | deleteUser userId =>
      change AccountEdit engine session s.db _ (deleteUser engine session s userId).2.db.users
      rw [deleteUser_users]
      split
      · rename_i accepted
        refine .removed userId ?_
        simp only [editsAccount, decide_true, Bool.true_and]
        exact (Bool.and_eq_true_iff.mp accepted).1
      · exact .kept

/-- The other requests of the site leave the user table alone. -/
private theorem users_catalogueStep (libraries : Libraries) (server : Server) (s : State)
    (request : CatalogueRequest) :
    (∃ session account, request = .site (.account session account)) ∨
      (catalogueStep libraries server s request).db.users = s.db.users := by
  cases request with
  | deleteInventory session kitId location =>
      refine Or.inr ?_
      change (deleteInventory server.engine session s kitId location).2.db.users = _
      unfold deleteInventory adminRequired
      split
      · rfl
      · split
        · split <;> rfl
        · rfl
  | site request =>
      cases request with
      | account session account => exact Or.inl ⟨session, account, rfl⟩
      | stock request => exact Or.inr (step_users server s request)
      | cart call =>
          obtain ⟨_, after⟩ := cartStep_frame server.engine s call
          exact Or.inr (congrArg (·.db.users) after)
      | personal call => exact Or.inr (personalStep_users server s call)
      | kit call => exact Or.inr (kitStep_users server.engine s call)

end Edits

section Uniqueness

/-- No two accounts have names, or emails, that the engine takes for the same text. -/
structure Separated (engine : Engine) (users : Table User.id) : Prop where
  names : Apart (fun row other => engine.sameText row.username other.username = true) users
  emails : Apart (fun row other => engine.sameText row.email other.email = true) users

variable {engine : Engine} {session : Session} {db : Database} {request : AccountRequest}
  {users : Table User.id}

/-- One of the two columns stays unique if a new value differs from those of the other rows. -/
private theorem apart_save_column {column : User → String}
    (symmetric : ∀ a b, engine.sameText a b = engine.sameText b a)
    (apart : Apart (fun row other => engine.sameText (column row) (column other) = true) users)
    {row changed : User} (stored : users.get? row.id = some row) (key : changed.id = row.id)
    (free : column changed = column row ∨ ∀ other ∈ users.rows, other.id ≠ row.id →
      engine.sameText (column other) (column changed) = false) :
    Apart (fun row other => engine.sameText (column row) (column other) = true)
      (users.save changed) := by
  have swap : ∀ {first second : User}, engine.sameText (column first) (column second) = true →
      engine.sameText (column second) (column first) = true := by
    intro first second same
    rw [symmetric]
    exact same
  have found : users.get? changed.id = some row := by
    rw [key]
    exact stored
  refine (apart_save_iff swap found apart).mpr ?_
  intro other member elsewhere clashes
  rw [key] at elsewhere
  rcases free with same | different
  · rw [same] at clashes
    have equal := apart other member row (Table.get?_eq_some_iff.mp stored).1 clashes
    exact elsewhere (congrArg User.id equal)
  · rw [different other member elsewhere] at clashes
    cases clashes

private theorem apart_add_column {column : User → String} {row : User} {after : Table User.id}
    (symmetric : ∀ a b, engine.sameText a b = engine.sameText b a)
    (apart : Apart (fun row other => engine.sameText (column row) (column other) = true) users)
    (adds : Adds users after row)
    (free : ∀ other ∈ users.rows, engine.sameText (column other) (column row) = false) :
    Apart (fun row other => engine.sameText (column row) (column other) = true) after := by
  have swap : ∀ {first second : User}, engine.sameText (column first) (column second) = true →
      engine.sameText (column second) (column first) = true := by
    intro first second same
    rw [symmetric]
    exact same
  refine (adds.apart_iff swap apart).mpr ?_
  intro other member clashes
  rw [free other member] at clashes
  cases clashes

private theorem AccountEdit.separated (symmetric : ∀ a b, engine.sameText a b = engine.sameText b a)
    (edit : AccountEdit engine session db request users) (separated : Separated engine db.users) :
    Separated engine users := by
  cases edit with
  | kept => exact separated
  | added username email password provider free =>
      have differs : ∀ other ∈ db.users.rows, engine.sameText other.username username = false ∧
          engine.sameText other.email email = false := by
        intro other member
        have both := List.any_eq_false.mp free other member
        rw [Bool.not_eq_true, Bool.or_eq_false_iff] at both
        exact both
      exact ⟨apart_add_column symmetric separated.names (adds_insertNew (fun _ => rfl))
          (fun other member => (differs other member).1),
        apart_add_column symmetric separated.emails (adds_insertNew (fun _ => rfl))
          (fun other member => (differs other member).2)⟩
  | rewritten row changed stored key name email entitled =>
      exact ⟨apart_save_column symmetric separated.names stored key (Or.inl name),
        apart_save_column symmetric separated.emails stored key email⟩
  | removed id entitled => exact ⟨separated.names.remove _, separated.emails.remove _⟩

private theorem separated_step {libraries : Libraries} {server : Server}
    (symmetric : ∀ a b, server.engine.sameText a b = server.engine.sameText b a) (s : State)
    (request : CatalogueRequest) (separated : Separated server.engine s.db.users) :
    Separated server.engine (catalogueStep libraries server s request).db.users := by
  rcases users_catalogueStep libraries server s request with ⟨session, account, rfl⟩ | same
  · exact (accountEdit_handle account).separated symmetric separated
  · rw [same]
    exact separated

end Uniqueness

/-- The two accounts of the sample shop. -/
private theorem separated_shelfOnly (quantity : Int) :
    Separated .mysql (shelfOnly quantity).db.users := by
  constructor
  · intro row member other present same
    simp only [shelfOnly, sampleShop, List.mem_cons, List.not_mem_nil, or_false] at member present
    rcases member with rfl | rfl <;> rcases present with rfl | rfl <;>
      first | rfl | exact absurd same (by decide)
  · intro row member other present same
    simp only [shelfOnly, sampleShop, List.mem_cons, List.not_mem_nil, or_false] at member present
    rcases member with rfl | rfl <;> rcases present with rfl | rfl <;>
      first | rfl | exact absurd same (by decide)

private theorem sameText_mysql_symm (a b : String) :
    Engine.mysql.sameText a b = Engine.mysql.sameText b a :=
  Bool.beq_comm

section Access

variable {libraries : Libraries} {engine : Engine} {session : Session} {db : Database}
  {request : AccountRequest} {users : Table User.id}

/-- An active account stays as it is under the requests that do not edit it. -/
private theorem AccountEdit.row_kept (edit : AccountEdit engine session db request users) {id : Nat}
    {row : User} (stored : db.users.get? id = some row) (active : row.active = true)
    (others : editsAccount session db id request = false) : users.get? id = some row := by
  cases edit with
  | kept => exact stored
  | added username email password provider free =>
      have elsewhere : id ≠ db.users.nextKey := by
        rintro rfl
        rw [Table.get?_nextKey] at stored
        cases stored
      exact ((Table.get?_insertNew _ _ _ id).trans (if_neg elsewhere)).trans stored
  | rewritten old changed found key name email entitled =>
      rw [Table.get?_save, if_neg]
      · exact stored
      · intro here
        rw [key] at here
        subst here
        rw [found] at stored
        cases stored
        rcases entitled with inactive | edits
        · rw [active] at inactive
          cases inactive
        · rw [others] at edits
          cases edits
  | removed gone entitled =>
      obtain ⟨member, here⟩ := Table.get?_eq_some_iff.mp stored
      refine Table.get?_eq_some_iff.mpr ⟨Table.mem_remove.mpr ⟨member, decide_eq_false ?_⟩, here⟩
      rw [here]
      rintro rfl
      rw [others] at entitled
      cases entitled

/-- The request edits the account in the state that it finds. -/
def Edits (id : Nat) (s : State) : CatalogueRequest → Prop
  | .site (.account session request) => editsAccount session s.db id request = true
  | _ => False

private theorem row_kept_step {server : Server} {s : State} {request : CatalogueRequest} {id : Nat}
    {row : User} (stored : s.db.users.get? id = some row) (active : row.active = true)
    (others : ¬ Edits id s request) :
    (catalogueStep libraries server s request).db.users.get? id = some row := by
  rcases users_catalogueStep libraries server s request with ⟨session, account, rfl⟩ | same
  · exact (accountEdit_handle account).row_kept stored active (Bool.not_eq_true _ ▸ others)
  · rw [same]
    exact stored

/-- With unique names, the name and the password of an active account log in to it. -/
private theorem login_of_separated {s : State} (separated : Separated engine s.db.users)
    (row : User) (stored : s.db.users.get? row.id = some row) (active : row.active = true)
    (loads : row.loadable = true) {username secret : JsonField String} {password : String}
    (named : username = .value row.username) (given : secret = .value password)
    (verified : libraries.checkPasswordHash row.password (some password) = some true) :
    login libraries engine s ⟨username, secret⟩ =
      ⟨.ok 200 (.loggedIn "Login successful" (view row)), s, .login row.id row.role⟩ := by
  subst named given
  have only : s.db.users.rows.filter
      (fun other => engine.sameText other.username row.username) = [row] := by
    refine separated.names.filter_eq_singleton (fun other selected => selected)
      (Table.get?_eq_some_iff.mp stored).1 ?_
    exact engine.sameText_self row.username
  simp [login, loginAs, JsonField.present, JsonField.get, only, verified, active, loads]

end Access

/-- Whoever is registered can log in, with the name and the password given, after any requests of
anyone that do not edit the account; no registration and no change of another account shadows it. -/
theorem registered_account_logs_in (libraries : Libraries) (server : Server)
    (symmetric : ∀ a b, server.engine.sameText a b = server.engine.sameText b a) (s : State)
    (start : Separated server.engine s.db.users) (body : RegisterBody)
    (verifies : ∀ password, body.password.get = some password →
      libraries.checkPasswordHash (libraries.generatePasswordHash password) (some password) =
        some true)
    (created : (register libraries server.engine s body).reply.status = 201)
    (requests : List CatalogueRequest)
    (others : EachStep (catalogueStep libraries server)
      (fun t request => ¬ Edits s.db.users.nextKey t request)
      (register libraries server.engine s body).state requests) :
    let after := run (catalogueStep libraries server)
      (register libraries server.engine s body).state requests
    (login libraries server.engine after ⟨body.username, body.password⟩).reply.status = 200 ∧
      (login libraries server.engine after ⟨body.username, body.password⟩).write =
        .login s.db.users.nextKey "customer" := by
  obtain ⟨username, email, password, named, given, -, added⟩ := register_created created
  set account := newUser username email (libraries.generatePasswordHash password) none
    s.db.users.nextKey with account_def
  have edit : AccountEdit server.engine nobody s.db (.register body)
      (register libraries server.engine s body).state.db.users := accountEdit_register body
  have separated := edit.separated symmetric start
  have first : (register libraries server.engine s body).state.db.users.get?
      s.db.users.nextKey = some account := by
    rw [added]
    exact (Table.get?_insertNew _ _ (fun _ => rfl) _).trans (if_pos rfl)
  -- the account and the uniqueness are kept together by every request that does not edit it
  have along : Along (catalogueStep libraries server)
      (fun t => Separated server.engine t.db.users ∧
        t.db.users.get? s.db.users.nextKey = some account)
      (register libraries server.engine s body).state requests := by
    refine along_of_eachStep ?_ ⟨separated, first⟩ others
    intro t request law foreign
    exact ⟨separated_step symmetric t request law.1, row_kept_step law.2 rfl foreign⟩
  have stays := along.finish
  have outcome := login_of_separated stays.1 account stays.2 rfl rfl
    (JsonField.eq_value_of_get named) (JsonField.eq_value_of_get given) (verifies password given)
  intro after
  rw [outcome]
  exact ⟨rfl, rfl⟩

def eve (username : String) (email : String) : RegisterBody :=
  ⟨.value username, .value email, .value "secret", true, .value false, false⟩

/-- Eve registers, another visitor fails to register under the same name, Ann fails to demote Eve
and to take over the email, and Eve logs in. -/
theorem eve_logs_in :
    let server : Server := ⟨.mysql, 0, .binary⟩
    let registered :=
      (register plainLibraries .mysql (shelfOnly 3) (eve "eve" "eve@mail.com")).state
    let after := run (catalogueStep plainLibraries server) registered
      [.site (.account nobody (.register (eve "EVE" "other@mail.com"))),
        .site (.account customer (.changeUserRole 3 (.value "user"))),
        .site (.account customer (.changeEmail (.value "eve@mail.com") (.value "hash-1")))]
    (login plainLibraries .mysql after ⟨.value "eve", .value "secret"⟩).reply.status = 200 ∧
      (login plainLibraries .mysql after ⟨.value "eve", .value "secret"⟩).write =
        .login 3 "customer" := by
  refine registered_account_logs_in plainLibraries ⟨.mysql, 0, .binary⟩ sameText_mysql_symm
    (shelfOnly 3) (separated_shelfOnly 3) (eve "eve" "eve@mail.com") ?_ (by decide) _ ?_
  · intro password given
    cases given
    decide
  · rw [eachStep_cons, eachStep_cons, eachStep_cons]
    refine ⟨?_, ?_, ?_, eachStep_nil _ _⟩
    · exact Bool.false_ne_true
    · change ¬ editsAccount _ _ _ _ = true
      decide
    · change ¬ editsAccount _ _ _ _ = true
      decide

end ProductSite.Access.OneAccount
