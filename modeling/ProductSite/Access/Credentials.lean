/- Module: ProductSite/Access/Credentials
   source: backend/app/routes/auth_routes.py, backend/app/models/user.py
   digest: What a reset token, a forgotten password and a login token are good for. -/

import ProductSite.Access.Authentication
import ProductSite.Backend.Credentials
import ProductSite.Foundation.Listing

set_option autoImplicit false
set_option relaxedAutoImplicit false

namespace ProductSite.Access.Credentials

open ProductSite.Foundation.KeyedTable (Table)
open ProductSite.Foundation.Listing (joinComma readIds readIds_joinComma)
open ProductSite.Foundation.Wire (JsonField Reply)
open ProductSite.Backend.Models
open ProductSite.Backend.Accounts (Libraries LoginBody State.saveUser findByEmail hasProvider login
  loginAs)
open ProductSite.Backend.Credentials
open ProductSite.Backend.Email (Mailer sendBulkEmail sendBulkEmail_works working works_working)
open ProductSite.Backend.Requests (shelfOnly)
open ProductSite.Access.Authentication (plainLibraries)

section Samples

def withPages : MailConfig := ⟨some "http://localhost:3000", "example.com"⟩

def ann : User := ⟨1, "ann", "ann@mail.com", "hash-1", "customer", none, true⟩

end Samples

section Reset

/-- The state that a reset request with a token and a new password leaves. -/
def afterReset (methods : UserMethods) (s : State) (token password : String) : State :=
  (resetPassword methods s (.value token) (.value password)).2

/-- A reset that works, once: the user's hash verifies the new password alone, no other row
changes, and no later request with the token gets anywhere as long as it is not issued again. -/
structure ResetWorks (libraries : Libraries) (methods : UserMethods) (s : State) (user : Nat)
    (token password : String) : Prop where
  answered : (resetPassword methods s (.value token) (.value password)).1 = .ok 200 .success
  verifies : ∃ row, (afterReset methods s token password).db.users.get? user = some row ∧
    ∀ text, libraries.checkPasswordHash row.password (some text) = some true ↔ text = password
  others : ∀ id, id ≠ user →
    (afterReset methods s token password).db.users.get? id = s.db.users.get? id
  singleUse : ∀ (later : State) (again : JsonField String),
    later.redis.get (resetKey (some token)) =
      (afterReset methods s token password).redis.get (resetKey (some token)) →
    (resetPassword methods later (.value token) again).1.fetchOk = false ∧
      (resetPassword methods later (.value token) again).2 = later

/-- With methods that hash like the other handlers the reset works. -/
theorem resetWorks_of_hashing {libraries : Libraries} {s : State} {user : User} {token : String}
    (verifies : ∀ password text,
      libraries.checkPasswordHash (libraries.generatePasswordHash password) (some text) =
        some (text == password))
    (stored : s.redis.get (resetKey (some token)) = some (.text (toString user.id)))
    (present : s.db.users.get? user.id = some user) (loads : user.loadable = true)
    (password : String) :
    ResetWorks libraries (hashingMethods libraries) s user.id token password := by
  let changed : User := { user with password := libraries.generatePasswordHash password }
  have outcome : resetPassword (hashingMethods libraries) s (.value token) (.value password) =
      (.ok 200 .success,
        { State.saveUser s changed with redis := s.redis.delete (resetKey (some token)) }) :=
    resetPassword_stored stored present loads (.value password)
  have lookup : ∀ id, (afterReset (hashingMethods libraries) s token password).db.users.get? id =
      if id = user.id then (s.db.users.get? id).map (fun _ => changed)
      else s.db.users.get? id := by
    intro id
    rw [afterReset, outcome]
    exact Table.get?_save s.db.users changed id
  refine ⟨by rw [outcome], ⟨changed, ?_, ?_⟩, ?_, ?_⟩
  · rw [lookup, if_pos rfl, present]
    rfl
  · intro text
    rw [verifies]
    simp
  · intro id other
    rw [lookup, if_neg other]
  · intro later again forgotten
    have unknown : later.redis.get (resetKey (JsonField.value token).get) = none := by
      rw [afterReset, outcome] at forgotten
      exact forgotten.trans (if_pos rfl)
    rw [resetPassword_unknown unknown]
    exact ⟨rfl, rfl⟩

/-- Without the method no request gets further than the call of it. -/
private theorem resetPassword_userMethods (s : State) (token password : JsonField String) :
    (resetPassword userMethods s token password).1.fetchOk = false ∧
      (resetPassword userMethods s token password).2 = s := by
  unfold resetPassword
  simp only
  split
  · exact ⟨rfl, rfl⟩
  · exact ⟨rfl, rfl⟩
  · split
    · exact ⟨rfl, rfl⟩
    · split
      · exact ⟨rfl, rfl⟩
      · split
        · exact ⟨rfl, rfl⟩
        · split
          · exact ⟨rfl, rfl⟩
          · exact ⟨rfl, rfl⟩

private theorem not_resetWorks (libraries : Libraries) (s : State) (user : Nat)
    (token password : String) :
    ¬ ResetWorks libraries userMethods s user token password := by
  intro works
  have failed := (resetPassword_userMethods s (.value token) (.value password)).1
  rw [works.answered] at failed
  cases failed

/-- A token that was issued for an account with a password resets nothing in any later state
in which it is still stored: the request raises and leaves the state alone. -/
theorem issued_token_resets_nothing (config : MailConfig) (libraries : Libraries)
    (engine : Engine) (mailer : Mailer) (s later : State) (user : User)
    (token password : String) (nonempty : user.email ≠ "")
    (found : findByEmail engine s.db (some user.email) = some user)
    (loads : user.loadable = true) (ownPassword : hasProvider user = false)
    (unexpired : later.redis.get (resetKey (some token)) =
      (forgotPassword config engine mailer token s (.value user.email)).2.redis.get
        (resetKey (some token))) :
    ¬ ResetWorks libraries userMethods later user.id token password ∧
      ∀ row, later.db.users.get? user.id = some row → row.loadable = true →
        resetPassword userMethods later (.value token) (.value password) = (.raised, later) := by
  refine ⟨not_resetWorks libraries later user.id token password, ?_⟩
  intro row present readable
  have key : row.id = user.id := Table.key_of_get? present
  have stored : later.redis.get (resetKey (some token)) = some (.text (toString row.id)) := by
    rw [unexpired, forgotPassword_stores nonempty found loads ownPassword token,
      redis_storeToken, key]
  rw [← key] at present
  rw [resetPassword_stored stored present readable]
  rfl

theorem token_of_ann_resets_nothing :
    (forgotPassword withPages .sqlite working "t" (shelfOnly 3) (.value ann.email)).1 =
        .ok 200 (.message "Reset email sent") ∧
      ¬ ResetWorks plainLibraries userMethods
        (forgotPassword withPages .sqlite working "t" (shelfOnly 3) (.value ann.email)).2 1 "t"
        "new" :=
  ⟨by decide, (issued_token_resets_nothing withPages plainLibraries .sqlite working (shelfOnly 3) _
    ann "t" "new" (by decide) (by decide) (by decide) (by decide) rfl).1⟩

/-- Ann asks for a reset and follows the link: the answer is 500, and the password is the old
one. -/
theorem reset_of_ann_raises :
    (resetPassword userMethods (storeToken (shelfOnly 3) "t" 1) (.value "t") (.value "new")).1 =
        .raised ∧
      (afterReset userMethods (storeToken (shelfOnly 3) "t" 1) "t" "new").db.users.get? 1 =
        some ann ∧
      ¬ ResetWorks plainLibraries userMethods (storeToken (shelfOnly 3) "t" 1) 1 "t" "new" := by
  have present : (storeToken (shelfOnly 3) "t" 1).db.users.get? ann.id = some ann := rfl
  have reached : resetPassword userMethods (storeToken (shelfOnly 3) "t" 1) (.value "t")
      (.value "new") = (.raised, storeToken (shelfOnly 3) "t" 1) :=
    resetPassword_stored (redis_storeToken "t" 1) present rfl (.value "new")
  refine ⟨by rw [reached], ?_, not_resetWorks _ _ _ _ _⟩
  rw [afterReset, reached]
  rfl

end Reset

section Disclosure

/-- No account has the email, or one that only the provider logs in. -/
def undisclosed (engine : Engine) (db : Database) (email : String) : Bool :=
  (findByEmail engine db (some email)).all (fun user => user.loadable && hasProvider user)

/-- The account with the email has a role that cannot be read. -/
def unreadable (engine : Engine) (db : Database) (email : String) : Bool :=
  (findByEmail engine db (some email)).any (fun user => !user.loadable)

private theorem forgotPassword_reply {config : MailConfig} {engine : Engine} {mailer : Mailer}
    {email : String} (nonempty : email ≠ "") (works : mailer.Works) (token : String)
    (s : State) :
    (forgotPassword config engine mailer token s (.value email)).1 =
      if undisclosed engine s.db email then .ok 200 .success
      else if unreadable engine s.db email || config.frontendUrl.isNone then .raised
      else .ok 200 (.message "Reset email sent") := by
  rw [forgotPassword_value nonempty token]
  have mail : ∀ body, (sendBulkEmail config.googleEmailDomain mailer "Reset Your Password" body
      [email]).1 = (true, "Emails sent successfully") :=
    fun body => sendBulkEmail_works works config.googleEmailDomain _ body [email]
  cases found : findByEmail engine s.db (some email) with
  | none => simp [found, undisclosed]
  | some user =>
      cases loads : user.loadable with
      | false => simp [found, loads, undisclosed, unreadable]
      | true =>
          cases provider : hasProvider user with
          | true => simp [found, loads, provider, undisclosed]
          | false =>
              cases page : config.frontendUrl with
              | none =>
                  simp [found, loads, provider, undisclosed, unreadable,
                    mailToken, page]
              | some url =>
                  simp [found, loads, provider, undisclosed, unreadable,
                    mailToken, page, mail]

private theorem unreadable_of_undisclosed {engine : Engine} {db : Database} {email : String}
    (silent : undisclosed engine db email = true) : unreadable engine db email = false := by
  cases found : findByEmail engine db (some email) with
  | none => simp [unreadable, found]
  | some user =>
      simp only [undisclosed, found, Option.all_some, Bool.and_eq_true] at silent
      simp [unreadable, found, silent.1]

/-- Two tables get the same answer exactly if the email has an account with a password in both
or in neither; where the mail can be built, an account that cannot be read shows as well. -/
theorem forgotPassword_same_answer_iff (config : MailConfig) (engine : Engine)
    (mailer : Mailer) (token token' : String) (s s' : State) (email : String)
    (nonempty : email ≠ "") (works : mailer.Works) :
    (forgotPassword config engine mailer token s (.value email)).1 =
        (forgotPassword config engine mailer token' s' (.value email)).1 ↔
      undisclosed engine s.db email = undisclosed engine s'.db email ∧
        (config.frontendUrl.isSome = true →
          unreadable engine s.db email = unreadable engine s'.db email) := by
  rw [forgotPassword_reply nonempty works token s,
    forgotPassword_reply nonempty works token' s']
  cases silent : undisclosed engine s.db email with
  | true =>
      have readable := unreadable_of_undisclosed silent
      cases silent' : undisclosed engine s'.db email with
      | true => simp [readable, unreadable_of_undisclosed silent']
      | false =>
          cases unreadable engine s'.db email || config.frontendUrl.isNone <;> simp
  | false =>
      cases silent' : undisclosed engine s'.db email with
      | true => cases unreadable engine s.db email || config.frontendUrl.isNone <;> simp
      | false =>
          cases config.frontendUrl with
          | none => simp
          | some url =>
              cases unreadable engine s.db email <;> cases unreadable engine s'.db email <;> simp

/-- Two shops that differ in other accounts answer alike. -/
theorem strangers_get_the_same_answer :
    (forgotPassword withPages .sqlite working "t" (shelfOnly 3) (.value "eve@mail.com")).1 =
      (forgotPassword withPages .sqlite working "u" Authentication.withoutUsers
        (.value "eve@mail.com")).1 :=
  (forgotPassword_same_answer_iff withPages .sqlite working "t" "u" (shelfOnly 3)
    Authentication.withoutUsers "eve@mail.com" (by decide) works_working).mpr
    (by decide)

/-- The answer tells whether Ann has an account. -/
theorem answer_discloses_ann :
    (forgotPassword withPages .sqlite working "t" (shelfOnly 3) (.value "ann@mail.com")).1 =
        .ok 200 (.message "Reset email sent") ∧
      (forgotPassword withPages .sqlite working "t" Authentication.withoutUsers
        (.value "ann@mail.com")).1 = .ok 200 .success := by
  decide

end Disclosure

section Tokens

/-- The token that an answer carries. -/
def issued : Reply TokenAnswer → Option (String × ShortView)
  | .ok 200 (.token token user) => some (token, user)
  | _ => none

def named (username password : String) : LoginBody := ⟨.value username, .value password⟩

/-- The two logins agree: the same credentials get in, and a token names the user that it was
issued for and is accepted for an hour as that user. -/
structure LoginsAgree (methods : UserMethods) (libraries : Libraries) (engine : Engine)
    (serializer : Serializer) (now : Nat) (s : State) (username password : String) : Prop where
  same : (issued (tokenLogin methods engine serializer now s (named username password))).isSome =
    (login libraries engine s (named username password)).reply.fetchOk
  accepted : ∀ token user,
    issued (tokenLogin methods engine serializer now s (named username password)) =
      some (token, user) →
    ∃ row, findByUsername engine s.db (some username) = some row ∧ user = shortView row ∧
      ∀ later, now ≤ later → later ≤ now + 3600 →
        serializer.loads token later 3600 = .userId row.id ∧
          verifyToken serializer later s (.value token) = .ok 200 (.user user)

/-- The only row with the name is an active account whose hash verifies the password. -/
def admits (libraries : Libraries) (engine : Engine) (db : Database) (username password : String) :
    Bool :=
  match db.users.rows.filter (fun row => engine.sameText row.username username) with
  | [row] =>
      row.loadable && libraries.checkPasswordHash row.password (some password) == some true &&
        row.active
  | _ => false

private theorem loginAs_fetchOk (libraries : Libraries) (s : State) (row : User)
    (password : String) :
    (loginAs libraries s row (.value password)).reply.fetchOk =
      (libraries.checkPasswordHash row.password (some password) == some true && row.active) := by
  simp only [loginAs, JsonField.present, JsonField.get, Bool.not_true, Bool.false_eq_true, if_false]
  cases libraries.checkPasswordHash row.password (some password) with
  | none => rfl
  | some verified =>
      cases verified with
      | false => rfl
      | true => cases active : row.active <;> rfl

private theorem login_fetchOk (libraries : Libraries) (engine : Engine) (s : State)
    (username password : String) :
    (login libraries engine s (named username password)).reply.fetchOk =
      admits libraries engine s.db username password := by
  have name : (fun row : User => (some username).any (engine.sameText row.username)) =
      fun row => engine.sameText row.username username := by
    funext row
    simp
  simp only [login, admits, named, JsonField.present, JsonField.get, Bool.not_true,
    Bool.false_eq_true, if_false, name]
  cases s.db.users.rows.filter (fun row => engine.sameText row.username username) with
  | nil => rfl
  | cons row rest =>
      cases rest with
      | cons _ _ => rfl
      | nil =>
          cases loads : row.loadable with
          | false => simp [loads, Backend.Accounts.Outcome.refused, Reply.fetchOk, Reply.status]
          | true =>
              simp only [loads, if_true, Bool.true_and]
              exact loginAs_fetchOk libraries s row password

/-- Without the method no password gets a token. -/
private theorem issued_userMethods (engine : Engine) (serializer : Serializer) (now : Nat)
    (s : State)
    (body : LoginBody) : issued (tokenLogin userMethods engine serializer now s body) = none := by
  unfold tokenLogin
  split
  · rfl
  · split <;> rfl

private theorem verifyToken_dumps {serializer : Serializer} {s : State} {row : User}
    {now later : Nat} (stored : s.db.users.get? row.id = some row) (loads : row.loadable = true)
    (since : now ≤ later) (within : later ≤ now + 3600) :
    verifyToken serializer later s (.value (serializer.dumps row.id now)) =
      .ok 200 (.user (shortView row)) := by
  have read := serializer.loads_dumps row.id now later 3600 since within
  simp only [verifyToken, JsonField.get, read, stored, loads, if_true]

private theorem issued_hashing {libraries : Libraries} {engine : Engine} {s : State}
    {username password : String} {row : User}
    (found : findByUsername engine s.db (some username) = some row) (loads : row.loadable = true)
    (serializer : Serializer) (now : Nat) :
    issued (tokenLogin (hashingMethods libraries) engine serializer now s
        (named username password)) =
      if libraries.checkPasswordHash row.password (some password) = some true then
        some (serializer.dumps row.id now, shortView row)
      else none := by
  simp only [tokenLogin, named, JsonField.get, found, loads, Bool.not_true, Bool.false_eq_true,
    if_false, hashingMethods, Option.bind_some]
  cases libraries.checkPasswordHash row.password (some password) with
  | none => rfl
  | some verified => cases verified <;> rfl

/-- With a method that compares hashes the logins would differ on deactivated accounts only. -/
theorem loginsAgree_of_hashing_iff {libraries : Libraries} {engine : Engine}
    {serializer : Serializer} {now : Nat} {s : State} {username password : String} {row : User}
    (only : s.db.users.rows.filter (fun row => engine.sameText row.username username) = [row])
    (loads : row.loadable = true) :
    LoginsAgree (hashingMethods libraries) libraries engine serializer now s username password ↔
      (libraries.checkPasswordHash row.password (some password) = some true →
        row.active = true) := by
  have found : findByUsername engine s.db (some username) = some row := by
    have head := congrArg List.head? only
    rw [List.head?_filter] at head
    exact head
  have member : row ∈ s.db.users.rows := by
    have listed := List.mem_singleton_self row
    rw [← only] at listed
    exact (List.mem_filter.mp listed).1
  have admitted : (login libraries engine s (named username password)).reply.fetchOk =
      (libraries.checkPasswordHash row.password (some password) == some true && row.active) := by
    rw [login_fetchOk]
    simp [admits, only, loads]
  constructor
  · intro agree verified
    have same := agree.same
    rw [issued_hashing found loads, admitted, if_pos verified, verified] at same
    simpa using same.symm
  · intro active
    refine ⟨?_, ?_⟩
    · rw [issued_hashing found loads, admitted]
      split
      · rename_i verified
        simp [verified, active verified]
      · rename_i refused
        simp [refused]
    · intro token user given
      rw [issued_hashing found loads] at given
      split at given
      · cases given
        refine ⟨row, found, rfl, ?_⟩
        intro later since within
        exact ⟨serializer.loads_dumps row.id now later 3600 since within,
          verifyToken_dumps (Table.get?_of_mem member) loads since within⟩
      · cases given

/-- The logins agree exactly on the credentials that the login by password refuses. -/
theorem loginsAgree_iff (libraries : Libraries) (engine : Engine) (serializer : Serializer)
    (now : Nat) (s : State) (username password : String) :
    LoginsAgree userMethods libraries engine serializer now s username password ↔
      admits libraries engine s.db username password = false := by
  have none_issued :=
    issued_userMethods engine serializer now s (named username password)
  rw [← login_fetchOk]
  constructor
  · intro agree
    have same := agree.same
    rw [none_issued] at same
    exact same.symm
  · intro refused
    refine ⟨by rw [none_issued, refused]; rfl, ?_⟩
    intro token user given
    rw [none_issued] at given
    cases given

/-- The token for a user is the pair of the user and the time at which it was issued. -/
def plainToken (user issued : Nat) : String := joinComma ([user, issued].map toString)

/-- A stand-in for the library that signs nothing and only takes the tokens that it makes. -/
def plainSerializer : Serializer where
  dumps := plainToken
  loads token now maxAge :=
    match readIds token with
    | [user, issued] =>
        if token ≠ plainToken user issued then .badSignature
        else if now ≤ issued + maxAge then .userId user
        else .expired
    | _ => .badSignature
  loads_dumps := by
    intro user issued now maxAge _ within
    have read : readIds (plainToken user issued) = [user, issued] :=
      readIds_joinComma (List.cons_ne_nil _ _)
    simp only [read, ne_eq, not_true_eq_false, if_false, within, if_true]
  loads_genuine := by
    intro token now maxAge user loaded
    split at loaded
    · rename_i signed issued _
      split at loaded
      · cases loaded
      · rename_i genuine
        split at loaded
        · cases loaded
          exact ⟨issued, not_not.mp genuine⟩
        · cases loaded
    · cases loaded

/-- A wrong password is good for neither. -/
theorem wrong_password_gets_neither :
    LoginsAgree userMethods plainLibraries .sqlite plainSerializer 0 (shelfOnly 3) "ann" "wrong" :=
  (loginsAgree_iff plainLibraries .sqlite plainSerializer 0 (shelfOnly 3) "ann" "wrong").mpr
    (by decide)

/-- Ann's own password is good for a session, and for no token. -/
theorem ann_gets_no_token :
    (login plainLibraries .sqlite (shelfOnly 3) (named "ann" "hash-1")).reply.fetchOk = true ∧
      ∀ (serializer : Serializer) (now : Nat),
        tokenLogin userMethods .sqlite serializer now (shelfOnly 3) (named "ann" "hash-1") =
            .raised ∧
          ¬ LoginsAgree userMethods plainLibraries .sqlite serializer now (shelfOnly 3) "ann"
            "hash-1" := by
  have admitted :
      (login plainLibraries .sqlite (shelfOnly 3) (named "ann" "hash-1")).reply.fetchOk = true := by
    decide
  refine ⟨admitted, ?_⟩
  intro serializer now
  refine ⟨rfl, ?_⟩
  intro agree
  have same := agree.same
  rw [issued_userMethods, admitted] at same
  cases same

end Tokens

end ProductSite.Access.Credentials
