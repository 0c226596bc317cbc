/- Module: ProductSite/Access/AdminBypass
   source: backend/app/routes/purchase_routes.py, backend/app/utils/decorators.py,
     backend/app/__init__.py, backend/app/routes/user_settings_routes.py
   digest: The role in a session agrees with the database iff no request lets it go stale. -/

import ProductSite.Access.Authentication

set_option autoImplicit false
set_option relaxedAutoImplicit false

namespace ProductSite.Access.AdminBypass

open ProductSite.Foundation.KeyedTable (Table)
open ProductSite.Foundation.Runs
open ProductSite.Foundation.Wire (JsonField Reply)
open ProductSite.Backend.Models
open ProductSite.Backend.Accounts
open ProductSite.Backend.PersonalRoutes (deletePurchase deletePurchase_cases)
open ProductSite.Backend.PurchaseRoutes
open ProductSite.Backend.PurchaseSaving (paid paid_eq_some payOrder_taken)
open ProductSite.Backend.Requests (sampleServer shelfOnly)
open ProductSite.Backend.Site
open ProductSite.Access.Authentication (plainLibraries)

/-- `create_purchase` goes on to store the order without having charged anything. -/
def SkipsPayment (session : Session) (user : Nat) : Prop :=
  ∃ server stripe body, paid server session stripe body = some (user, [])

/-- `delete_purchase` accepts a purchase of someone else. -/
def DeletesForeign (session : Session) (s : State) (user : Nat) : Prop :=
  ∃ purchaseId purchase, s.db.purchases.get? purchaseId = some purchase ∧
    purchase.userId ≠ user ∧ (deletePurchase session s purchaseId).1.fetchOk = true

/-- Whoever can bypass the payment or the ownership is one whom `admin_required` admits. -/
def BypassesByAdmins (site : ServerState) : Prop :=
  ∀ client user, (site.sessions client).user = some user →
    SkipsPayment (site.sessions client) user ∨
      DeletesForeign (site.sessions client) site.state user →
    isAdmin site.state.db user = true

/-- The role that a session has cached for its user is the one in the database. -/
def Coherent (site : ServerState) : Prop :=
  ∀ client user, (site.sessions client).user = some user →
    adminSession (site.sessions client) = true → isAdmin site.state.db user = true

/-- No session has cached the role of an administrator for the user. -/
def Uncached (site : ServerState) (user : Nat) : Prop :=
  ∀ client, (site.sessions client).user = some user →
    adminSession (site.sessions client) = false

/-- The request does not let a cached role go stale. The callback of the Google login changes
the user of the session and keeps its role; a change of a role and the deletion of a user reach
no session at all. -/
def KeepsRoles (engine : Engine) (site : ServerState) (visit : Visit) : Prop :=
  let session := site.sessions visit.client
  match visit.request with
  | .authGoogleCallback info =>
      adminSession session = true → googleNewcomer engine site.state.db info = none ∧
        ∀ row, googleAccount engine site.state.db info = some row → row.loadable = true →
          row.role = "admin"
  | .changeUserRole userId role =>
      ∀ changed, roleChange engine session site.state.db userId role = some changed →
        changed.role = "admin" ∨ Uncached site userId
  | .deleteUser userId =>
      deletes engine session site.state.db userId = true → Uncached site userId
  | _ => True

section Bypasses

variable {session : Session} {s : State} {user : Nat}

def oneItem : PurchaseBody :=
  ⟨.value [⟨.value 1, .value 1, .value 1, some ⟨some 10⟩⟩], none, none, .absent⟩

private theorem skipsPayment_of_admin (login : session.user = some user)
    (admin : adminSession session = true) : SkipsPayment session user := by
  refine ⟨sampleServer, fun _ => .failed "", oneItem, paid_eq_some.mpr ⟨login, ?_⟩⟩
  have total : totalAmount sampleServer.floats 0 oneItem.itemList = some 1000 := by decide +kernel
  rw [payOrder, total, admin]
  rfl

private theorem admin_of_skipsPayment (skips : SkipsPayment session user) :
    adminSession session = true := by
  obtain ⟨server, stripe, body, passed⟩ := skips
  have taken := payOrder_taken (paid_eq_some.mp passed).2
  cases admin : adminSession session with
  | true => rfl
  | false =>
      rw [admin, if_neg Bool.false_ne_true] at taken
      obtain ⟨charge, empty, -⟩ := taken
      cases empty

private theorem admin_of_deletesForeign (login : session.user = some user)
    (foreign : DeletesForeign session s user) : adminSession session = true := by
  obtain ⟨purchaseId, purchase, found, other, accepted⟩ := foreign
  rcases deletePurchase_cases s login purchaseId with ⟨-, refused⟩ | ⟨same, here, allowed, -⟩
  · rw [refused] at accepted
    cases accepted
  · rw [found] at here
    cases here
    exact allowed.resolve_left other

private theorem bypassesByAdmins_iff (site : ServerState) :
    BypassesByAdmins site ↔ Coherent site := by
  constructor
  · intro law client user login admin
    exact law client user login (Or.inl (skipsPayment_of_admin login admin))
  · intro law client user login bypass
    rcases bypass with skips | foreign
    · exact law client user login (admin_of_skipsPayment skips)
    · exact law client user login (admin_of_deletesForeign login foreign)

end Bypasses

section Steps

variable {libraries : Libraries} {engine : Engine} {site : ServerState} {client : Nat}
  {after : State} {session : Session}

private theorem coherent_update (law : Coherent site)
    (admins : ∀ user, isAdmin site.state.db user = true → isAdmin after.db user = true)
    (new : ∀ user, session.user = some user → adminSession session = true →
      isAdmin after.db user = true) :
    Coherent ⟨after, Function.update site.sessions client session⟩ := by
  intro other user login admin
  by_cases here : other = client
  · subst here
    simp only [Function.update_self] at login admin
    exact new user login admin
  · simp only [Function.update_of_ne here] at login admin
    exact admins user (law other user login admin)

/-- The session of the client after the request, as the law sees it. -/
private theorem coherent_at {user : Nat}
    (law : Coherent ⟨after, Function.update site.sessions client session⟩)
    (login : session.user = some user) (admin : adminSession session = true) :
    isAdmin after.db user = true := by
  refine law client user ?_ ?_
  · simpa only [Function.update_self] using login
  · simpa only [Function.update_self] using admin

private theorem coherent_keep (law : Coherent site)
    (admins : ∀ user, isAdmin site.state.db user = true → isAdmin after.db user = true) :
    Coherent ⟨after, Function.update site.sessions client (site.sessions client)⟩ :=
  coherent_update law admins fun user login admin => admins user (law client user login admin)

private theorem write_ofAnswer_keep (answer : Reply Answer × State) :
    (Outcome.ofAnswer answer .keep).write = .keep := by
  unfold Outcome.ofAnswer
  exact ite_self _

private theorem visitStep_eq (request : AccountRequest) {write : SessionWrite}
    (state : (handle libraries engine (site.sessions client) site.state request).state = after)
    (written : (handle libraries engine (site.sessions client) site.state request).write = write) :
    visitStep libraries engine site ⟨client, request⟩ =
      ⟨after, Function.update site.sessions client (write.apply (site.sessions client))⟩ := by
  rw [visitStep, visitOutcome, state, written]

/-- An answer that does not touch the session. -/
private theorem visitStep_keep {request : AccountRequest} {answer : Reply Answer × State}
    (handled : handle libraries engine (site.sessions client) site.state request =
      .ofAnswer answer .keep) :
    visitStep libraries engine site ⟨client, request⟩ = ⟨answer.2, site.sessions⟩ := by
  have state := congrArg Outcome.state handled
  have written := (congrArg Outcome.write handled).trans (write_ofAnswer_keep answer)
  rw [visitStep_eq request state written, SessionWrite.apply, Function.update_eq_self]
  rfl

private theorem write_ofAnswer_clear (answer : Reply Answer × State) :
    (Outcome.ofAnswer answer .clear).write = .keep ∨
      (Outcome.ofAnswer answer .clear).write = .clear := by
  unfold Outcome.ofAnswer
  simp only
  split
  · exact Or.inr rfl
  · exact Or.inl rfl

private theorem user_of_stored {row : User} {role : Option String} {users : Table User.id}
    (stored : users.get? row.id = some row) :
    (Session.mk (some row.id) role).user = some row.id := by
  have positive := Table.positive_of_get? stored
  have nonzero : row.id ≠ 0 := by omega
  simp [Session.user, nonzero]

/-- The session of an account with its own role. -/
private theorem admin_of_login {row : User} {user : Nat}
    (stored : site.state.db.users.get? row.id = some row)
    (login : (Session.mk (some row.id) (some row.role)).user = some user)
    (admin : adminSession ⟨some row.id, some row.role⟩ = true) :
    isAdmin site.state.db user = true := by
  have role : row.role = "admin" := by simpa [adminSession] using admin
  have here := (user_of_stored stored).symm.trans login
  cases here
  exact isAdmin_iff.mpr ⟨row, stored, role⟩

private theorem coherent_login (law : Coherent site) (body : LoginBody) :
    Coherent (visitStep libraries engine site ⟨client, .login body⟩) := by
  rcases login_cases libraries engine site.state body with
    ⟨same, kept⟩ | ⟨row, stored, -, -, same, write⟩
  · rw [visitStep_eq (.login body) same kept]
    exact coherent_keep law fun _ admin => admin
  · rw [visitStep_eq (.login body) same write]
    exact coherent_update law (fun _ admin => admin) fun _ => admin_of_login stored

private theorem coherent_register (law : Coherent site) (body : RegisterBody) :
    Coherent (visitStep libraries engine site ⟨client, .register body⟩) := by
  rcases register_cases libraries engine site.state body with
    ⟨same, kept⟩ | ⟨row, stored, -, -, saved, write⟩ | ⟨username, email, password, added, write⟩
  · rw [visitStep_eq (.register body) same kept]
    exact coherent_keep law fun _ admin => admin
  · have admins : ∀ user, isAdmin site.state.db user = true →
        isAdmin (State.saveUser site.state { row with active := true }).db user = true :=
      fun _ => isAdmin_saveUser_kept stored rfl
    rw [visitStep_eq (.register body) saved write]
    refine coherent_update law admins ?_
    intro user login admin
    exact admins user (admin_of_login stored login admin)
  · rw [visitStep_eq (.register body) added write]
    refine coherent_update law (fun _ => isAdmin_addUser _ _ _ _) ?_
    intro user _ admin
    have role : adminSession ⟨some site.state.db.users.nextKey, some "customer"⟩ = true := admin
    cases role

private theorem coherent_settings {request : AccountRequest} {password : Option String}
    (law : Coherent site)
    (edits : EditsVerified libraries site.state
      (handle libraries engine (site.sessions client) site.state request).state password)
    (silent : (handle libraries engine (site.sessions client) site.state request).write = .keep ∨
      (handle libraries engine (site.sessions client) site.state request).write = .clear) :
    Coherent (visitStep libraries engine site ⟨client, request⟩) := by
  have admins : ∀ user, isAdmin site.state.db user = true →
      isAdmin (handle libraries engine (site.sessions client) site.state request).state.db user =
        true := fun _ => isAdmin_of_edits edits
  rcases silent with keep | clear
  · rw [visitStep_eq request rfl keep]
    exact coherent_keep law admins
  · rw [visitStep_eq request rfl clear]
    exact coherent_update law admins nofun

private theorem coherent_authGoogleCallback_iff (law : Coherent site) (info : Option UserInfo) :
    Coherent (visitStep libraries engine site ⟨client, .authGoogleCallback info⟩) ↔
      KeepsRoles engine site ⟨client, .authGoogleCallback info⟩ := by
  unfold KeepsRoles
  simp only
  rcases authGoogleCallback_cases engine site.state info with
    ⟨⟨same, kept⟩, none, unloadable⟩ | ⟨row, found, loads, none, same, write⟩ |
    ⟨username, email, new, -, added, write⟩
  · rw [visitStep_eq (.authGoogleCallback info) same kept]
    refine iff_of_true (coherent_keep law fun _ admin => admin) ?_
    intro _
    refine ⟨none, ?_⟩
    intro row found loads
    rw [unloadable row found] at loads
    cases loads
  · have stored := (findByEmail_eq_some found).1
    rw [visitStep_eq (.authGoogleCallback info) same write]
    constructor
    · intro after cached
      refine ⟨none, ?_⟩
      intro other here _
      rw [found] at here
      cases here
      have admin := coherent_at after (user_of_stored stored) cached
      obtain ⟨stays, present, role⟩ := isAdmin_iff.mp admin
      rw [stored] at present
      cases present
      exact role
    · intro allowed
      refine coherent_update law (fun _ admin => admin) ?_
      intro user login cached
      have here := (user_of_stored stored).symm.trans login
      cases here
      exact isAdmin_iff.mpr ⟨row, stored, (allowed cached).2 row found loads⟩
  · have customer := isAdmin_addUser_nextKey username email "" (some "google") (s := site.state)
    have login : ∀ role, (Session.mk (some site.state.db.users.nextKey) role).user =
        some site.state.db.users.nextKey := by
      intro role
      simp [Session.user, Table.nextKey]
    rw [visitStep_eq (.authGoogleCallback info) added write]
    constructor
    · intro after cached
      have admin := coherent_at after (login _) cached
      rw [customer] at admin
      cases admin
    · intro allowed
      refine coherent_update law (fun _ => isAdmin_addUser _ _ _ _) ?_
      intro user _ cached
      rw [new] at allowed
      cases (allowed cached).1

private theorem coherent_changeUserRole_iff (law : Coherent site) (userId : Nat)
    (role : JsonField String) :
    Coherent (visitStep libraries engine site ⟨client, .changeUserRole userId role⟩) ↔
      KeepsRoles engine site ⟨client, .changeUserRole userId role⟩ := by
  rw [visitStep_keep rfl, changeUserRole_state]
  unfold KeepsRoles
  simp only
  cases accepted : roleChange engine (site.sessions client) site.state.db userId role with
  | none => exact iff_of_true law nofun
  | some changed =>
      obtain ⟨row, found, equal⟩ := roleChange_eq_some accepted
      have key : changed.id = userId := by
        have named : row.id = userId := Table.key_of_get? found
        rw [equal]
        exact named
      have stored : site.state.db.users.get? changed.id = some row := by
        rw [key]
        exact found
      have admins := isAdmin_saveUser stored
      rw [key] at admins
      simp only [Option.some.injEq, forall_eq']
      constructor
      · intro after
        by_cases promoted : changed.role = "admin"
        · exact Or.inl promoted
        · refine Or.inr fun other login => ?_
          refine Bool.eq_false_iff.mpr fun cached => promoted ?_
          have admin := (admins userId).mp (after other userId login cached)
          rw [if_pos rfl] at admin
          exact admin
      · intro allowed other user login cached
        refine (admins user).mpr ?_
        split
        · rename_i here
          subst here
          rcases allowed with promoted | uncached
          · exact promoted
          · have clean := uncached other login
            rw [cached] at clean
            cases clean
        · exact law other user login cached

private theorem coherent_deleteUser_iff (law : Coherent site) (userId : Nat) :
    Coherent (visitStep libraries engine site ⟨client, .deleteUser userId⟩) ↔
      KeepsRoles engine site ⟨client, .deleteUser userId⟩ := by
  have users := deleteUser_users engine (site.sessions client) site.state userId
  rw [visitStep_keep rfl]
  unfold KeepsRoles
  simp only
  cases accepted : deletes engine (site.sessions client) site.state.db userId with
  | false =>
      rw [accepted, if_neg Bool.false_ne_true] at users
      refine iff_of_true ?_ nofun
      intro other user login cached
      rw [isAdmin_congr users]
      exact law other user login cached
  | true =>
      rw [accepted, if_pos rfl] at users
      simp only [forall_const]
      constructor
      · intro after other login
        refine Bool.eq_false_iff.mpr fun cached => ?_
        exact ((isAdmin_removed users).mp (after other userId login cached)).1 rfl
      · intro uncached other user login cached
        refine (isAdmin_removed users).mpr ⟨?_, law other user login cached⟩
        rintro rfl
        have clean := uncached other login
        rw [cached] at clean
        cases clean

private theorem coherent_visitStep_iff (law : Coherent site) (visit : Visit) :
    Coherent (visitStep libraries engine site visit) ↔ KeepsRoles engine site visit := by
  obtain ⟨client, request⟩ := visit
  cases request with
  | login body => exact iff_of_true (coherent_login law body) trivial
  | register body => exact iff_of_true (coherent_register law body) trivial
  | authGoogleCallback info => exact coherent_authGoogleCallback_iff law info
  | logout =>
      exact iff_of_true (coherent_update law (fun _ admin => admin) nofun) trivial
  | changeEmail email password =>
      exact iff_of_true (coherent_settings law (changeEmail_edits email password)
        (Or.inl (write_ofAnswer_keep _))) trivial
  | changePassword currentPassword newPassword =>
      exact iff_of_true (coherent_settings law (changePassword_edits currentPassword newPassword)
        (Or.inl (write_ofAnswer_keep _))) trivial
  | deleteAccount password =>
      exact iff_of_true (coherent_settings law (deleteAccount_edits password)
        (write_ofAnswer_clear _)) trivial
  | changeUserRole userId role => exact coherent_changeUserRole_iff law userId role
  | deleteUser userId => exact coherent_deleteUser_iff law userId

end Steps

/-- For every database and every run of account requests in any number of sessions, all of them
empty at first, only administrators by the database can bypass the payment or the ownership in
any state of the run precisely when no request lets a cached role go stale: no callback of the
Google login in a session with the cached role leads to an account without it, and no change of
a role and no deletion takes it from a user for whom a session has cached it. -/
theorem bypassesByAdmins_along_iff (libraries : Libraries) (engine : Engine) (s : State)
    (visits : List Visit) :
    Along (visitStep libraries engine) BypassesByAdmins (.fresh s) visits ↔
      EachStep (visitStep libraries engine) (KeepsRoles engine) (.fresh s) visits := by
  have start : Coherent (.fresh s) := nofun
  have exact_step : ∀ site visit, Coherent site →
      (Coherent (visitStep libraries engine site visit) ↔ KeepsRoles engine site visit) :=
    fun _ visit law => coherent_visitStep_iff law visit
  exact (along_congr bypassesByAdmins_iff (.fresh s) visits).trans
    (along_iff_eachStep_of_law exact_step start visits)

section Samples

/-- The administrator logs in, and then goes through the Google login as a customer. -/
def staleVisits : List Visit :=
  [⟨0, .login ⟨.value "root", .value "hash-2"⟩⟩,
    ⟨0, .authGoogleCallback (some ⟨some "ann@mail.com", .value "Ann"⟩)⟩]

def staleSite : ServerState :=
  run (visitStep plainLibraries .sqlite) (.fresh (shelfOnly 3)) staleVisits

end Samples

theorem customer_orders_without_payment :
    (staleSite.sessions 0).user = some 1 ∧ isAdmin staleSite.state.db 1 = false ∧
      paid sampleServer (staleSite.sessions 0) (fun _ => .failed "declined") oneItem =
        some (1, []) := by
  decide +kernel

end ProductSite.Access.AdminBypass
