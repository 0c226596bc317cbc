/- Module: ProductSite/Access/GoogleSignIn
   source: backend/app/__init__.py, backend/app/models/user.py
   digest: A Google user can sign in iff their email has an account, or nobody has the username
     that is made of their display name. -/

import ProductSite.Access.Authentication

set_option autoImplicit false
set_option relaxedAutoImplicit false

namespace ProductSite.Access.GoogleSignIn

open ProductSite.Foundation.KeyedTable (Table)
open ProductSite.Backend.Models
open ProductSite.Backend.Accounts
open ProductSite.Backend.Requests (shelfOnly)

/-- User info with an email and at most a display name, of lengths that the columns take. -/
structure GoogleUser where
  email : String
  name : Option String
  email_length : email.length ≤ 100
  name_length : ∀ text, name = some text → text.length ≤ 100

def GoogleUser.info (google : GoogleUser) : UserInfo :=
  ⟨some google.email,
    match google.name with
    | none => .absent
    | some text => .value text⟩

/-- The username of the account that the callback adds. -/
def GoogleUser.username (google : GoogleUser) : String :=
  google.name.getD (localPart google.email)

def callback (engine : Engine) (s : State) (google : GoogleUser) : Outcome :=
  authGoogleCallback engine s (some google.info)

/-- The session goes to a user with the email, the users stay as they are, at most one is added,
and a second call adds none. -/
structure SignsIn (engine : Engine) (s : State) (google : GoogleUser) : Prop where
  session : ∃ user, (callback engine s google).write.given = some user.id ∧
    (callback engine s google).state.db.users.get? user.id = some user ∧
    user.email = google.email
  kept : ∀ user ∈ s.db.users.rows, user ∈ (callback engine s google).state.db.users.rows
  added : (callback engine s google).state.db.users.rows.length ≤ s.db.users.rows.length + 1
  again : (callback engine (callback engine s google).state google).state.db.users =
    (callback engine s google).state.db.users

/-- The account that the database finds for the email can be loaded and has this very email, or it
finds none and the username is free. -/
def Admitted (engine : Engine) (db : Database) (google : GoogleUser) : Prop :=
  match findByEmail engine db (some google.email) with
  | some user => user.loadable = true ∧ user.email = google.email
  | none => ∀ user ∈ db.users.rows, engine.sameText user.username google.username = false

instance (engine : Engine) (db : Database) (google : GoogleUser) :
    Decidable (Admitted engine db google) := by
  unfold Admitted
  split <;> infer_instance

section Callback

variable {engine : Engine} {s : State} {google : GoogleUser}

private theorem name_getD (google : GoogleUser) :
    google.info.name.getD (localPart google.email) = some google.username := by
  unfold GoogleUser.info GoogleUser.username
  cases google.name <;> rfl

/-- The callback for an email with an account. -/
private theorem callback_found {user : User}
    (found : findByEmail engine s.db (some google.email) = some user) :
    callback engine s google =
      if user.loadable = true then ⟨.ok 200 .page, s, .userOnly user.id⟩
      else .refused .raised s := by
  unfold callback authGoogleCallback
  simp only [GoogleUser.info, Option.bind_some, found]

/-- The callback for an email without an account. -/
private theorem callback_missing (missing : findByEmail engine s.db (some google.email) = none) :
    callback engine s google =
      if taken engine s.db google.username google.email = true then .refused .raised s
      else ⟨.ok 200 .page, State.addUser s google.username google.email "" (some "google"),
        .userOnly s.db.users.nextKey⟩ := by
  have read := name_getD google
  unfold callback authGoogleCallback
  simp only [GoogleUser.info] at read ⊢
  simp only [Option.bind_some, missing, read]

/-- Without an account for the email, only the username can be taken. -/
private theorem taken_iff (missing : findByEmail engine s.db (some google.email) = none) :
    taken engine s.db google.username google.email = true ↔
      ¬ ∀ user ∈ s.db.users.rows, engine.sameText user.username google.username = false := by
  have nobody : ∀ user ∈ s.db.users.rows, ¬ engine.sameText user.email google.email = true :=
    List.find?_eq_none.mp missing
  rw [taken, List.any_eq_true]
  push Not
  refine exists_congr fun user => and_congr_right fun member => ?_
  simp [nobody user member]

private theorem addUser_rows (s : State) (username email password : String)
    (provider : Option String) :
    (State.addUser s username email password provider).db.users.rows =
      s.db.users.rows ++ [newUser username email password provider s.db.users.nextKey] := rfl

/-- A second call finds the account that the first one added. -/
private theorem findByEmail_addUser (missing : findByEmail engine s.db (some google.email) = none) :
    findByEmail engine (State.addUser s google.username google.email "" (some "google")).db
        (some google.email) =
      some (newUser google.username google.email "" (some "google") s.db.users.nextKey) := by
  have nobody : s.db.users.rows.find? (fun row => engine.sameText row.email google.email) = none :=
    missing
  rw [findByEmail, Option.bind_some, Table.first, addUser_rows, List.find?_append, nobody,
    Option.none_or, List.find?_cons_of_pos]
  exact engine.sameText_self google.email

private theorem signsIn_of_found {user : User}
    (found : findByEmail engine s.db (some google.email) = some user)
    (loads : user.loadable = true) (same : user.email = google.email) :
    SignsIn engine s google := by
  have answered : callback engine s google = ⟨.ok 200 .page, s, .userOnly user.id⟩ := by
    rw [callback_found found, if_pos loads]
  constructor
  · rw [answered]
    exact ⟨user, rfl, (findByEmail_eq_some found).1, same⟩
  · rw [answered]
    exact fun _ member => member
  · rw [answered]
    exact Nat.le_succ _
  · rw [answered]
    change (callback engine s google).state.db.users = s.db.users
    rw [answered]

private theorem signsIn_of_added (missing : findByEmail engine s.db (some google.email) = none)
    (free : ¬ taken engine s.db google.username google.email = true) :
    SignsIn engine s google := by
  have answered : callback engine s google =
      ⟨.ok 200 .page, State.addUser s google.username google.email "" (some "google"),
        .userOnly s.db.users.nextKey⟩ := by
    rw [callback_missing missing, if_neg free]
  constructor
  · rw [answered]
    refine ⟨newUser google.username google.email "" (some "google") s.db.users.nextKey, rfl, ?_,
      rfl⟩
    exact (Table.get?_insertNew s.db.users _ (fun _ => rfl) s.db.users.nextKey).trans (if_pos rfl)
  · rw [answered]
    intro user member
    rw [addUser_rows]
    exact List.mem_append_left _ member
  · rw [answered, addUser_rows, List.length_append, List.length_singleton]
  · rw [answered]
    have second := callback_found (findByEmail_addUser missing)
    change (callback engine (State.addUser s google.username google.email "" (some "google"))
      google).state.db.users = _
    rw [second]
    rfl

end Callback

/-- The callback signs the Google user in as it should if and only if the account that is found for
their email can be loaded and has this email, or none is found and nobody has the username. -/
theorem google_signs_in_iff (engine : Engine) (s : State) (google : GoogleUser) :
    SignsIn engine s google ↔ Admitted engine s.db google := by
  unfold Admitted
  cases found : findByEmail engine s.db (some google.email) with
  | some user =>
      constructor
      · rintro ⟨⟨given, set, stored, same⟩, -, -, -⟩
        by_cases loads : user.loadable = true
        · refine ⟨loads, ?_⟩
          rw [callback_found found, if_pos loads] at set stored
          obtain rfl : user = given := by
            have here := (findByEmail_eq_some found).1
            rw [Option.some.inj set, stored] at here
            exact (Option.some.inj here).symm
          exact same
        · rw [callback_found found, if_neg loads] at set
          cases set
      · rintro ⟨loads, same⟩
        exact signsIn_of_found found loads same
  | none =>
      constructor
      · rintro ⟨⟨given, set, -⟩, -, -, -⟩
        by_contra held
        rw [callback_missing found, if_pos ((taken_iff found).mpr held)] at set
        cases set
      · intro free
        refine signsIn_of_added found ?_
        rw [taken_iff found]
        exact not_not_intro free

/-- Google's user with the email and the display name, next to the customer "ann". -/
def otherAnn : GoogleUser := ⟨"other@mail.com", some "ann", by decide, by decide⟩

/-- The customer "ann" has another email. A Google user whose display name is "ann" too gets an
exception, and neither an account nor a session. -/
theorem namesake_cannot_sign_in :
    (callback .sqlite (shelfOnly 3) otherAnn).reply = .raised ∧
      (callback .sqlite (shelfOnly 3) otherAnn).write.given = none ∧
      ¬ SignsIn .sqlite (shelfOnly 3) otherAnn := by
  refine ⟨by decide, by decide, ?_⟩
  intro signs
  obtain ⟨user, set, -⟩ := signs.session
  have unset : (callback .sqlite (shelfOnly 3) otherAnn).write.given = none := by decide
  rw [unset] at set
  cases set

end ProductSite.Access.GoogleSignIn
