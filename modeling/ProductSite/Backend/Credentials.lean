/- Module: ProductSite/Backend/Credentials
   source: backend/app/routes/auth_routes.py, backend/app/models/user.py
   digest: Password reset by mail and login by token, over the methods that the user class has. -/

import ProductSite.Backend.Accounts
import ProductSite.Backend.Email

set_option autoImplicit false
set_option relaxedAutoImplicit false

namespace ProductSite.Backend.Credentials

open ProductSite.Foundation.Wire (JsonField Reply readNat)
open ProductSite.Backend.Models
open ProductSite.Backend.Accounts (Libraries LoginBody State.saveUser findByEmail hasProvider)
open ProductSite.Backend.Email (Mailer sendBulkEmail)

/-- The methods that the handlers call on a row of `User`, where the class has them. A method
that the class lacks raises an AttributeError when it is called. -/
structure UserMethods where
  setPassword : Option (User → Option String → Option User)
  checkPassword : Option (User → Option String → Option Bool)

/-- The class declares columns and relationships, and no method. -/
def userMethods : UserMethods := ⟨none, none⟩

/-- The two methods as the other handlers hash and compare passwords. -/
def hashingMethods (libraries : Libraries) : UserMethods where
  setPassword := some fun row password =>
    password.map fun text => { row with password := libraries.generatePasswordHash text }
  checkPassword := some fun row password => libraries.checkPasswordHash row.password password

section Reset

/-- `Config` as far as the reset mail reads it. -/
structure MailConfig where
  frontendUrl : Option String
  googleEmailDomain : String

inductive ResetAnswer where
  | success
  | message (text : String)
  deriving DecidableEq

/-- `reset_token:{token}`, where a missing token is printed as None. -/
def resetKey (token : Option String) : String := "reset_token:" ++ token.getD "None"

def resetBody (email resetUrl : String) : String :=
  "Hi " ++ email ++ ",\n\n" ++
    "We received a request to reset your password. Click the link below:\n\n" ++ resetUrl ++
    "\n\nIf you didn't request this, just ignore this email.\n\n" ++
    "This link will expire in 1 hour."

/-- `redis_client.setex(key, 3600, user.id)`: the id is stored as a text. -/
def storeToken (s : State) (token : String) (user : Nat) : State :=
  { s with redis := s.redis.set (resetKey (some token)) (.text (toString user)) }

/-- The request once the account is found; the token is stored before the address of the page
is looked up. -/
def mailToken (config : MailConfig) (mailer : Mailer) (token : String) (s : State)
    (user : User) (email : String) : Reply ResetAnswer × State :=
  match config.frontendUrl with
  | none => (.raised, storeToken s token user.id)
  | some url =>
      let (sent, _) := sendBulkEmail config.googleEmailDomain mailer "Reset Your Password"
        (resetBody user.email (url ++ "/reset-password?token=" ++ token)) [email]
      if sent.1 then (.ok 200 (.message "Reset email sent"), storeToken s token user.id)
      else (.error 500 sent.2 [], storeToken s token user.id)

/-- The token is what `secrets.token_urlsafe(32)` draws. -/
def forgotPassword (config : MailConfig) (engine : Engine) (mailer : Mailer) (token : String)
    (s : State) (email : JsonField String) : Reply ResetAnswer × State :=
  match email.get.filter (fun text => text ≠ "") with
  | none => (.error 400 "Email is required" [], s)
  | some text =>
      match findByEmail engine s.db (some text) with
      | none => (.ok 200 .success, s)
      | some user =>
          if !user.loadable then (.raised, s)
          else if hasProvider user then (.ok 200 .success, s)
          else mailToken config mailer token s user text

/-- The request once the row of the token's user is loaded. -/
def resetUser (methods : UserMethods) (s : State) (key : String) (user : User)
    (password : Option String) : Reply ResetAnswer × State :=
  match methods.setPassword.bind (fun set => set user password) with
  | none => (.raised, s)
  | some changed =>
      (.ok 200 .success, { State.saveUser s changed with redis := s.redis.delete key })

def resetPassword (methods : UserMethods) (s : State) (token password : JsonField String) :
    Reply ResetAnswer × State :=
  let key := resetKey token.get
  match s.redis.get key with
  | none => (.error 400 "Invalid or expired token" [], s)
  | some (.rollback _) => (.raised, s)
  | some (.text value) =>
      if value = "" then (.error 400 "Invalid or expired token" [], s)
      else
        match readNat value with
        | none => (.raised, s)
        | some id =>
            match s.db.users.get? id with
            | none => (.error 404 "User not found" [], s)
            | some user =>
                if !user.loadable then (.raised, s)
                else resetUser methods s key user password.get

variable {config : MailConfig} {engine : Engine} {mailer : Mailer} {s : State}

private theorem mailToken_state (token : String) (user : User) (email : String) :
    (mailToken config mailer token s user email).2 = storeToken s token user.id := by
  unfold mailToken
  cases config.frontendUrl with
  | none => rfl
  | some url =>
      simp only
      split <;> rfl

/-- The request with an email that is not empty. -/
theorem forgotPassword_value {email : String} (nonempty : email ≠ "") (token : String) :
    forgotPassword config engine mailer token s (.value email) =
      match findByEmail engine s.db (some email) with
      | none => (.ok 200 .success, s)
      | some user =>
          if !user.loadable then (.raised, s)
          else if hasProvider user then (.ok 200 .success, s)
          else mailToken config mailer token s user email := by
  have given : (JsonField.value email).get.filter (fun text => text ≠ "") = some email := by
    simp [JsonField.get, Option.filter, nonempty]
  rw [forgotPassword, given]

/-- The mail of an account with a password stores a token for it, whatever is answered. -/
theorem forgotPassword_stores {email : String} {user : User} (nonempty : email ≠ "")
    (found : findByEmail engine s.db (some email) = some user) (loads : user.loadable = true)
    (ownPassword : hasProvider user = false) (token : String) :
    (forgotPassword config engine mailer token s (.value email)).2 =
      storeToken s token user.id := by
  rw [forgotPassword_value nonempty token, found]
  simp only [loads, ownPassword, Bool.not_true, Bool.false_eq_true, if_false]
  exact mailToken_state token user email

@[simp] theorem redis_storeToken (token : String) (user : Nat) :
    (storeToken s token user).redis.get (resetKey (some token)) =
      some (.text (toString user)) := by
  simp [storeToken]

/-- A request with a stored token reaches the row of the token's user. -/
theorem resetPassword_stored {methods : UserMethods} {token : String} {user : User}
    (stored : s.redis.get (resetKey (some token)) = some (.text (toString user.id)))
    (present : s.db.users.get? user.id = some user) (loads : user.loadable = true)
    (password : JsonField String) :
    resetPassword methods s (.value token) password =
      resetUser methods s (resetKey (some token)) user password.get := by
  have key : resetKey (JsonField.value token).get = resetKey (some token) := rfl
  have some_digits := Foundation.Wire.number_ne_empty user.id
  simp only [resetPassword, key, stored, some_digits, if_false, Foundation.Wire.readNat_toString,
    present, loads, Bool.not_true, Bool.false_eq_true]

/-- A request without a stored token is rejected and changes nothing. -/
theorem resetPassword_unknown {methods : UserMethods} {token : JsonField String}
    (unknown : s.redis.get (resetKey token.get) = none) (password : JsonField String) :
    resetPassword methods s token password = (.error 400 "Invalid or expired token" [], s) := by
  simp only [resetPassword, unknown]

end Reset

section Tokens

/-- What `serializer.loads` finds in a token. -/
inductive Loaded where
  | userId (id : Nat)
  | expired
  | badSignature
  deriving DecidableEq

/-- The signing serializer. A token that is loaded within its time gives the user that it was
signed for, and nothing else gives a user. -/
structure Serializer where
  dumps : Nat → Nat → String
  loads : String → Nat → Nat → Loaded
  loads_dumps : ∀ user issued now maxAge, issued ≤ now → now ≤ issued + maxAge →
    loads (dumps user issued) now maxAge = .userId user
  loads_genuine : ∀ token now maxAge user, loads token now maxAge = .userId user →
    ∃ issued, token = dumps user issued

structure ShortView where
  username : String
  role : String
  deriving DecidableEq

def shortView (row : User) : ShortView := ⟨row.username, row.role⟩

inductive TokenAnswer where
  | token (token : String) (user : ShortView)
  | user (user : ShortView)
  deriving DecidableEq

def findByUsername (engine : Engine) (db : Database) (username : Option String) : Option User :=
  username.bind (fun text => db.users.first (fun row => engine.sameText row.username text))

def tokenLogin (methods : UserMethods) (engine : Engine) (serializer : Serializer) (now : Nat)
    (s : State) (body : LoginBody) : Reply TokenAnswer :=
  match findByUsername engine s.db body.username.get with
  | none => .error 401 "Invalid credentials" []
  | some user =>
      if !user.loadable then .raised
      else
        match methods.checkPassword.bind (fun check => check user body.password.get) with
        | none => .raised
        | some false => .error 401 "Invalid credentials" []
        | some true => .ok 200 (.token (serializer.dumps user.id now) (shortView user))

/-- Tokens are valid for an hour. -/
def verifyToken (serializer : Serializer) (now : Nat) (s : State) (token : JsonField String) :
    Reply TokenAnswer :=
  match token.get with
  | none => .raised
  | some text =>
      match serializer.loads text now 3600 with
      | .expired => .error 403 "Token expired" []
      | .badSignature => .error 403 "Invalid token" []
      | .userId id =>
          match s.db.users.get? id with
          | none => .error 401 "Unauthorized" []
          | some user => if user.loadable then .ok 200 (.user (shortView user)) else .raised

end Tokens

end ProductSite.Backend.Credentials
