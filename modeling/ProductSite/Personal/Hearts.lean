/- Module: ProductSite/Personal/Hearts
   source: react-router-bootstrap-app/src/components/FavoriteButton.jsx,
     react-router-bootstrap-app/src/context/FavoritesContext.jsx,
     backend/app/routes/favorite_routes.py
   digest: Hearts that are pressed only when nothing about their kit is under way tell what the
     server stores, in whatever order calls are served and answered; impatient presses do not. -/

import ProductSite.Personal.Favorites
import ProductSite.Storefront.FavoriteButton

set_option autoImplicit false
set_option relaxedAutoImplicit false

namespace ProductSite.Personal.Hearts

open ProductSite.Foundation.KeyedTable (Table)
open ProductSite.Foundation.RemoteCalls
open ProductSite.Foundation.Runs
open ProductSite.Foundation.Wire (JsonField)
open ProductSite.Access.Authentication (plainLibraries)
open ProductSite.Backend.Accounts (Libraries)
open ProductSite.Backend.Models
open ProductSite.Backend.PersonalRoutes
open ProductSite.Backend.Requests (customer sampleServer shelfOnly)
open ProductSite.Backend.Site (SiteRequest siteStep)
open ProductSite.Personal.Favorites (forKit kitEntries kitEntries_eq listing listing_untyped
  user_ne_zero)
open ProductSite.Storefront.FavoriteButton

section Writes

variable {engine : Engine} {session : Session} {user : Nat} {s : State}

/-- The kit is among the favorites of the user. -/
def liked (s : State) (user kitId : Nat) : Bool := 0 < kitEntries s user kitId

private theorem liked_iff {kitId : Nat} : liked s user kitId = true ↔ 0 < kitEntries s user kitId :=
  decide_eq_true_iff

/-- The list that the server answers with tells which kits are liked. -/
private theorem look_answer (login : session.user = some user) (kitId : Nat) :
    ∃ data, (getFavorites session s none).1 = .ok 200 data ∧
      (data.map Favorite.kitId).contains (some kitId) = liked s user kitId := by
  refine ⟨s.db.favorites.rows.filter (fun favorite => favorite.userId = user), ?_, ?_⟩
  · rw [getFavorites, loginRequired_some login]
    rfl
  · rw [Bool.eq_iff_iff, liked_iff, kitEntries, listing_untyped (user_ne_zero login),
      List.countP_pos_iff, List.contains_iff_mem, List.mem_map]
    simp only [decide_eq_true_eq]

/-- An addition is refused and changes nothing, or adds one entry for its kit. -/
private theorem kitEntries_addFavorite (engine : Engine) (login : session.user = some user)
    (kitId : Nat) :
    ((addFavorite engine session s (characterBody kitId)).1.fetchOk = false ∧
      (addFavorite engine session s (characterBody kitId)).2 = s) ∨
    ((addFavorite engine session s (characterBody kitId)).1.fetchOk = true ∧
      ∀ other, kitEntries (addFavorite engine session s (characterBody kitId)).2 user other =
        kitEntries s user other + if other = kitId then 1 else 0) := by
  have real := user_ne_zero login
  rcases addFavorite_cases engine s login (characterBody kitId) with
    ⟨-, refused, kept⟩ | ⟨allowed, added⟩
  · exact Or.inl ⟨refused, kept⟩
  · refine Or.inr ⟨by rw [added]; rfl, ?_⟩
    intro other
    have named : (characterBody kitId).kit = some kitId := by
      by_cases zero : kitId = 0
      · subst zero
        cases allowed
      · simp [characterBody, FavoriteBody.kit, JsonField.get, zero]
    rw [added, kitEntries_eq real, kitEntries_eq real]
    change (s.db.favorites.rows ++ [_]).countP _ = _
    rw [List.countP_append, List.countP_singleton]
    simp [forKit, newFavorite, named, eq_comm]

/-- A deletion finds nothing and changes nothing, or takes one entry of its kit away. -/
private theorem kitEntries_deleteFavoriteByCharacter (login : session.user = some user)
    (kitId : Nat) :
    ((deleteFavoriteByCharacter session s kitId).1.fetchOk = false ∧
      (deleteFavoriteByCharacter session s kitId).2 = s ∧ kitEntries s user kitId = 0) ∨
    ((deleteFavoriteByCharacter session s kitId).1.fetchOk = true ∧
      ∀ other, kitEntries (deleteFavoriteByCharacter session s kitId).2 user other +
        (if other = kitId then 1 else 0) = kitEntries s user other) := by
  have real := user_ne_zero login
  rw [deleteFavoriteByCharacter, deleteSelected, loginRequired_some login]
  cases found : s.db.favorites.first
      (fun favorite => favorite.userId = user && favorite.kitId = some kitId) with
  | none =>
      refine Or.inl ⟨rfl, rfl, ?_⟩
      rw [kitEntries_eq real, List.countP_eq_zero]
      intro favorite member
      exact List.find?_eq_none.mp found favorite member
  | some favorite =>
      refine Or.inr ⟨rfl, ?_⟩
      intro other
      have matched := Table.of_first found
      simp only [Bool.and_eq_true, decide_eq_true_eq] at matched
      have one := Table.countP_remove_key (Table.get?_of_first found) (forKit user other)
      rw [kitEntries_eq real, kitEntries_eq real]
      simpa [forKit, matched.1, matched.2, eq_comm, withFavorites] using one

end Writes

section Calls

/-- The call is about the kit. -/
def about (kitId : Nat) : Call → Bool
  | .look _ characterId | .toggle _ characterId _ | .removeFavorite characterId =>
      characterId = kitId
  | .fetchFavorites | .byIds _ _ => false

def isWrite : Call → Bool
  | .toggle _ _ _ | .removeFavorite _ => true
  | _ => false

/-- The button that waits for the call. -/
def waiting : Call → Option Nat
  | .look button _ | .toggle button _ _ => some button
  | _ => none

/-- Neither of two calls about one kit is a write. -/
def Compatible (call other : Call) : Prop :=
  ∀ kitId, about kitId call = true → about kitId other = true →
    isWrite call = false ∧ isWrite other = false

theorem Compatible.symm {call other : Call} (compatible : Compatible call other) :
    Compatible other call :=
  fun kitId first second => (compatible kitId second first).symm

/-- A call that is about no kit is compatible with all. -/
private theorem compatible_of_silent {call : Call} (silent : ∀ kitId, about kitId call = false)
    (other : Call) : Compatible call other := by
  intro kitId named
  rw [silent] at named
  cases named

end Calls

/-- How the user and the others behave: a button is mounted while no write about its kit is under
way; it is pressed while nothing about its kit is under way and no second heart shows that kit; a
kit is removed on the favorites page while nothing about it is under way and no heart shows it; and
nobody else changes the list of the user's favorites. -/
def Calm (libraries : Libraries) (server : Server) (user : Nat) (s : FavoritesSystem) :
    Event PageEvent SiteRequest → Prop
  | .act (.mountButton characterId) =>
      ∀ call ∈ s.underWay, about characterId call = true → isWrite call = false
  | .act (.press button) => ∀ heart, s.client.buttons button = some heart →
      (∀ call ∈ s.underWay, about heart.characterId call = false) ∧
      ∀ second shown, s.client.buttons second = some shown →
        shown.characterId = heart.characterId → second = button
  | .act (.removeFavorite characterId) =>
      (∀ call ∈ s.underWay, about characterId call = false) ∧
      ∀ button heart, s.client.buttons button = some heart → heart.characterId ≠ characterId
  | .other request =>
      listing (siteStep libraries server s.server request) user none = listing s.server user none
  | _ => True

/-- Every kit is stored at most once, and a heart that waits for nothing shows whether it is. -/
structure Truthful (user : Nat) (s : FavoritesSystem) : Prop where
  once : ∀ kitId, kitEntries s.server user kitId ≤ 1
  shown : ∀ button heart, s.client.buttons button = some heart →
    (∃ call ∈ s.underWay, waiting call = some button) ∨
      heart.isFavorited = liked s.server user heart.characterId

section Invariant

variable {libraries : Libraries} {server : Server} {session : Session} {user : Nat}

/-- Where the button of a call still is, it shows what it did when the call was sent. -/
def Placed (client : Client) : Call → Prop
  | .look button characterId =>
      ∀ heart, client.buttons button = some heart → heart.characterId = characterId
  | .toggle button characterId isFavorited =>
      (∀ heart, client.buttons button = some heart →
        heart.characterId = characterId ∧ heart.isFavorited = isFavorited) ∧
      ∀ second shown, client.buttons second = some shown →
        shown.characterId = characterId → second = button
  | .removeFavorite characterId =>
      ∀ button heart, client.buttons button = some heart → heart.characterId ≠ characterId
  | _ => True

/-- A toggle that is not yet served will find the kit as its button showed it. -/
def Expected (s : State) (user : Nat) : Call → Prop
  | .toggle _ characterId isFavorited => liked s user characterId = isFavorited
  | _ => True

/-- An answer under way tells the present state of its kit. -/
def Current (s : State) (user : Nat) : Call × Answer → Prop
  | (.look _ characterId, answer) => ∃ data, answer = .listing (.ok 200 data) ∧
      (data.map Favorite.kitId).contains (some characterId) = liked s user characterId
  | (.toggle _ characterId isFavorited, answer) => ∃ ok, answer = .written ok ∧
      liked s user characterId = if ok then !isFavorited else isFavorited
  | _ => True

structure Consistent (user : Nat) (s : FavoritesSystem) : Prop extends Truthful user s where
  known : ∀ button, s.client.nextInstance ≤ button → s.client.buttons button = none
  numbered : ∀ call ∈ s.underWay, ∀ button, waiting call = some button →
    button < s.client.nextInstance
  apart : s.underWay.Pairwise Compatible
  placed : ∀ call ∈ s.underWay, Placed s.client call
  expected : ∀ call ∈ s.sent, Expected s.server user call
  current : ∀ entry ∈ s.answered, Current s.server user entry

private theorem consistent_fresh {s : State} (once : ∀ kitId, kitEntries s user kitId ≤ 1) :
    Consistent user (FavoritesSystem.fresh s) where
  once := once
  shown := nofun
  known := fun _ _ => rfl
  numbered := nofun
  apart := List.Pairwise.nil
  placed := nofun
  expected := nofun
  current := nofun

/-- What the laws say of the server is the same where the same kits are liked. -/
private theorem Expected.of_liked {s t : State} {call : Call}
    (same : ∀ kitId, about kitId call = true → liked t user kitId = liked s user kitId)
    (expected : Expected s user call) : Expected t user call := by
  cases call with
  | toggle button characterId isFavorited =>
      exact (same characterId (decide_eq_true rfl)).trans expected
  | _ => trivial

private theorem Current.of_liked {s t : State} {entry : Call × Answer}
    (same : ∀ kitId, about kitId entry.1 = true → liked t user kitId = liked s user kitId)
    (current : Current s user entry) : Current t user entry := by
  obtain ⟨call, answer⟩ := entry
  cases call with
  | look button characterId =>
      obtain ⟨data, listed, holds⟩ := current
      exact ⟨data, listed, holds.trans (same characterId (decide_eq_true rfl)).symm⟩
  | toggle button characterId isFavorited =>
      obtain ⟨ok, written, holds⟩ := current
      exact ⟨ok, written, (same characterId (decide_eq_true rfl)).trans holds⟩
  | _ => trivial

/-- The kits keep their places where hearts only go. -/
private theorem Placed.of_fewer {client client' : Client} {call : Call}
    (fewer : ∀ button heart, client'.buttons button = some heart →
      client.buttons button = some heart) (placed : Placed client call) : Placed client' call := by
  cases call with
  | look button characterId => exact fun heart here => placed heart (fewer button heart here)
  | toggle button characterId isFavorited =>
      exact ⟨fun heart here => placed.1 heart (fewer button heart here),
        fun second shown here => placed.2 second shown (fewer second shown here)⟩
  | removeFavorite characterId =>
      exact fun button heart here => placed button heart (fewer button heart here)
  | _ => trivial

/-- A call that no heart depends on. -/
def Silent (call : Call) : Prop := waiting call = none ∧ ∀ kitId, about kitId call = false

/-- What a call has to meet when it is sent. -/
structure Sendable (user : Nat) (s : FavoritesSystem) (client : Client) (call : Call) : Prop where
  numbered : ∀ button, waiting call = some button → button < client.nextInstance
  placed : Placed client call
  expected : Expected s.server user call
  apart : ∀ old ∈ s.underWay, Compatible old call

private theorem Silent.sendable {call : Call} (silent : Silent call) (s : FavoritesSystem)
    (client : Client) : Sendable user s client call where
  numbered := by
    intro button named
    rw [silent.1] at named
    cases named
  placed := by
    cases call with
    | look button characterId => cases silent.1
    | toggle button characterId isFavorited => cases silent.1
    | removeFavorite characterId =>
        have named := silent.2 characterId
        simp [about] at named
    | _ => trivial
  expected := by
    cases call with
    | toggle button characterId isFavorited => cases silent.1
    | _ => trivial
  apart := fun old _ => (compatible_of_silent silent.2 old).symm

/-- A step of the client: it may take an answer away, and it sends calls. -/
private theorem Consistent.move {s : FavoritesSystem} (law : Consistent user s) {client : Client}
    {calls : List Call} {answered : List (Call × Answer)} (fewer : answered.Sublist s.answered)
    (next : s.client.nextInstance ≤ client.nextInstance)
    (known : ∀ button, client.nextInstance ≤ button → client.buttons button = none)
    (shown : ∀ button heart, client.buttons button = some heart →
      (∃ call ∈ s.sent ++ calls ++ answered.map Prod.fst, waiting call = some button) ∨
        heart.isFavorited = liked s.server user heart.characterId)
    (placed : ∀ call ∈ s.sent ++ answered.map Prod.fst, Placed client call)
    (sendable : ∀ call ∈ calls, Sendable user s client call)
    (newApart : calls.Pairwise Compatible) :
    Consistent user ⟨client, s.server, s.sent ++ calls, answered⟩ := by
  have order : (s.sent ++ calls ++ answered.map Prod.fst).Perm
      (s.sent ++ answered.map Prod.fst ++ calls) := by
    rw [List.append_assoc, List.append_assoc]
    exact List.Perm.append_left _ List.perm_append_comm
  have old : (s.sent ++ answered.map Prod.fst).Sublist s.underWay :=
    (List.Sublist.refl _).append (fewer.map Prod.fst)
  have cases_of : ∀ call ∈ s.sent ++ calls ++ answered.map Prod.fst,
      call ∈ s.sent ++ answered.map Prod.fst ∨ call ∈ calls :=
    fun call member => List.mem_append.mp (order.mem_iff.mp member)
  refine ⟨⟨law.once, shown⟩, known, ?_, ?_, ?_, ?_, ?_⟩
  · intro call member button named
    rcases cases_of call member with before | new
    · exact Nat.lt_of_lt_of_le (law.numbered call (old.subset before) button named) next
    · exact (sendable call new).numbered button named
  · refine (order.pairwise_iff Compatible.symm).mpr (List.pairwise_append.mpr ?_)
    refine ⟨law.apart.sublist old, newApart, ?_⟩
    intro call before new member
    exact (sendable new member).apart call (old.subset before)
  · intro call member
    rcases cases_of call member with before | new
    · exact placed call before
    · exact (sendable call new).placed
  · intro call member
    rcases List.mem_append.mp member with before | new
    · exact law.expected call before
    · exact (sendable call new).expected
  · exact fun entry member => law.current entry (fewer.subset member)

/-- What a heart shows, with more calls under way. -/
private theorem Consistent.shown_more {s : FavoritesSystem} (law : Consistent user s)
    (calls : List Call)
    {button : Nat} {heart : Heart} (here : s.client.buttons button = some heart) :
    (∃ call ∈ s.sent ++ calls ++ s.answered.map Prod.fst, waiting call = some button) ∨
      heart.isFavorited = liked s.server user heart.characterId := by
  rcases law.shown button heart here with ⟨call, member, named⟩ | tells
  · refine Or.inl ⟨call, ?_, named⟩
    rcases List.mem_append.mp member with sent | answer
    · exact List.mem_append_left _ (List.mem_append_left _ sent)
    · exact List.mem_append_right _ answer
  · exact Or.inr tells

/-- A client step that leaves the hearts alone and sends silent calls. -/
theorem Consistent.quiet {s : FavoritesSystem} (law : Consistent user s) {client : Client}
    {calls : List Call} (buttons : client.buttons = s.client.buttons)
    (next : s.client.nextInstance ≤ client.nextInstance)
    (silent : ∀ call ∈ calls, Silent call) {answered : List (Call × Answer)}
    (fewer : answered.Sublist s.answered)
    (kept : ∀ call ∈ s.underWay, (waiting call).isSome = true →
      call ∈ s.sent ++ answered.map Prod.fst) :
    Consistent user ⟨client, s.server, s.sent ++ calls, answered⟩ := by
  refine law.move fewer next ?_ ?_ ?_ (fun call member => (silent call member).sendable s client) ?_
  · intro button late
    rw [buttons]
    exact law.known button (next.trans late)
  · intro button heart here
    rw [buttons] at here
    rcases law.shown button heart here with ⟨call, member, named⟩ | tells
    · have stays := kept call member (by rw [named]; rfl)
      refine Or.inl ⟨call, ?_, named⟩
      rcases List.mem_append.mp stays with sent | answer
      · exact List.mem_append_left _ (List.mem_append_left _ sent)
      · exact List.mem_append_right _ answer
    · exact Or.inr tells
  · intro call member
    have before : call ∈ s.underWay := by
      rcases List.mem_append.mp member with sent | answer
      · exact List.mem_append_left _ sent
      · exact List.mem_append_right _ ((fewer.map Prod.fst).subset answer)
    refine (law.placed call before).of_fewer ?_
    intro button heart here
    rw [buttons] at here
    exact here
  · refine List.pairwise_iff_forall_sublist.mpr ?_
    intro first second both
    have member : first ∈ calls := both.subset (by simp)
    exact compatible_of_silent (silent first member).2 second

end Invariant

section Acts

variable {libraries : Libraries} {server : Server} {session : Session} {user : Nat}
  {s : FavoritesSystem}

private theorem silent_fetchFavorites : Silent .fetchFavorites := ⟨rfl, fun _ => rfl⟩

private theorem silent_byIds (page : Nat) (ids : List Nat) : Silent (.byIds page ids) :=
  ⟨rfl, fun _ => rfl⟩

private theorem consistent_mountButton (law : Consistent user s) (characterId : Nat)
    (calm : Calm libraries server user s (.act (.mountButton characterId))) :
    Consistent user (s.acting (favoritesProtocol libraries server session)
      (.mountButton characterId)) := by
  set button := s.client.nextInstance with button_def
  have spared : ∀ call ∈ s.underWay, about characterId call = true → isWrite call = false := calm
  have lookup : ∀ other heart, Function.update s.client.buttons button
      (some ⟨characterId, false⟩) other = some heart →
      (other = button ∧ heart = ⟨characterId, false⟩) ∨
        (other ≠ button ∧ s.client.buttons other = some heart) := by
    intro other heart here
    by_cases new : other = button
    · rw [new, Function.update_self] at here
      cases here
      exact Or.inl ⟨new, rfl⟩
    · rw [Function.update_of_ne new] at here
      exact Or.inr ⟨new, here⟩
  change Consistent user ⟨{ s.client with
    buttons := Function.update s.client.buttons button (some ⟨characterId, false⟩)
    nextInstance := button + 1 }, s.server, s.sent ++ [.look button characterId], s.answered⟩
  refine law.move (.refl _) (Nat.le_succ _) ?_ ?_ ?_ ?_ (List.pairwise_singleton _ _)
  · intro other late
    have new : other ≠ button := Nat.ne_of_gt late
    exact (Function.update_of_ne new ..).trans (law.known other (Nat.le_of_succ_le late))
  · intro other heart here
    rcases lookup other heart here with ⟨rfl, -⟩ | ⟨-, old⟩
    · exact Or.inl ⟨.look _ characterId, by simp, rfl⟩
    · exact law.shown_more _ old
  · intro call member
    have placed := law.placed call member
    cases call with
    | look other kitId =>
        intro heart here
        rcases lookup other heart here with ⟨new, -⟩ | ⟨-, old⟩
        · exact absurd (law.numbered _ member other rfl) (by omega)
        · exact placed heart old
    | toggle other kitId isFavorited =>
        refine ⟨?_, ?_⟩
        · intro heart here
          rcases lookup other heart here with ⟨new, -⟩ | ⟨-, old⟩
          · exact absurd (law.numbered _ member other rfl) (by omega)
          · exact placed.1 heart old
        · intro second heart here same
          rcases lookup second heart here with ⟨-, rfl⟩ | ⟨-, old⟩
          · cases spared _ member (decide_eq_true same.symm)
          · exact placed.2 second heart old same
    | removeFavorite kitId =>
        intro other heart here same
        rcases lookup other heart here with ⟨-, rfl⟩ | ⟨-, old⟩
        · cases spared _ member (decide_eq_true same.symm)
        · exact placed other heart old same
    | _ => trivial
  · intro call member
    rw [List.mem_singleton.mp member]
    refine ⟨?_, ?_, trivial, ?_⟩
    · intro other named
      cases named
      exact Nat.lt_succ_self _
    · intro heart here
      rcases lookup button heart here with ⟨-, rfl⟩ | ⟨other, -⟩
      · rfl
      · exact absurd rfl other
    · intro old present kitId named second
      have here : characterId = kitId := of_decide_eq_true second
      rw [← here] at named
      exact ⟨spared old present named, rfl⟩

/-- A call about a kit of which nothing is under way is compatible with all that is. -/
private theorem compatible_of_alone {calls : List Call} {call : Call} {characterId : Nat}
    (only : ∀ kitId, about kitId call = true → kitId = characterId)
    (alone : ∀ other ∈ calls, about characterId other = false) :
    ∀ old ∈ calls, Compatible old call := by
  intro old member kitId named second
  rw [only kitId second, alone old member] at named
  cases named

private theorem consistent_press (law : Consistent user s) (button : Nat)
    (calm : Calm libraries server user s (.act (.press button))) :
    Consistent user (s.acting (favoritesProtocol libraries server session) (.press button)) := by
  cases here : s.client.buttons button with
  | none =>
      have idle : s.acting (favoritesProtocol libraries server session) (.press button) =
          ⟨s.client, s.server, s.sent ++ [], s.answered⟩ := by
        simp [System.acting, favoritesProtocol, act, here]
      rw [idle]
      exact law.quiet rfl (Nat.le_refl _) (by simp) (.refl _) (fun call member _ => member)
  | some heart =>
      obtain ⟨alone, single⟩ := calm heart here
      have sends : s.acting (favoritesProtocol libraries server session) (.press button) =
          ⟨s.client, s.server, s.sent ++ [.toggle button heart.characterId heart.isFavorited],
            s.answered⟩ := by
        simp [System.acting, favoritesProtocol, act, here]
      -- nothing that the button waits for is under way, so it shows the truth
      have tells : heart.isFavorited = liked s.server user heart.characterId := by
        refine (law.shown button heart here).resolve_left ?_
        rintro ⟨call, member, named⟩
        have placed := law.placed call member
        have silent := alone call member
        cases call with
        | look other kitId =>
            cases named
            rw [placed heart here] at silent
            exact absurd silent (by simp [about])
        | toggle other kitId isFavorited =>
            cases named
            rw [(placed.1 heart here).1] at silent
            exact absurd silent (by simp [about])
        | _ => cases named
      have bounded : button < s.client.nextInstance := by
        by_contra late
        rw [law.known button (Nat.le_of_not_lt late)] at here
        cases here
      rw [sends]
      refine law.move (.refl _) (Nat.le_refl _) law.known ?_ law.placed ?_
        (List.pairwise_singleton _ _)
      · exact fun other shown present => law.shown_more _ present
      · intro call member
        rw [List.mem_singleton.mp member]
        refine ⟨?_, ⟨?_, single⟩, tells.symm,
          compatible_of_alone (fun kitId named => (of_decide_eq_true named).symm) alone⟩
        · intro other named
          cases named
          exact bounded
        · intro other present
          rw [here] at present
          cases present
          exact ⟨rfl, rfl⟩

private theorem consistent_removeFavorite (law : Consistent user s) (characterId : Nat)
    (calm : Calm libraries server user s (.act (.removeFavorite characterId))) :
    Consistent user (s.acting (favoritesProtocol libraries server session)
      (.removeFavorite characterId)) := by
  obtain ⟨alone, hidden⟩ := calm
  refine law.move (.refl _) (Nat.le_refl _) law.known ?_ law.placed ?_
    (List.pairwise_singleton _ _)
  · exact fun button heart here => law.shown_more _ here
  · intro call member
    rw [List.mem_singleton.mp member]
    exact ⟨nofun, hidden, trivial,
      compatible_of_alone (fun kitId named => (of_decide_eq_true named).symm) alone⟩

private theorem consistent_acting (law : Consistent user s) (event : PageEvent)
    (calm : Calm libraries server user s (.act event)) :
    Consistent user (s.acting (favoritesProtocol libraries server session) event) := by
  cases event with
  | mountButton characterId => exact consistent_mountButton law characterId calm
  | press button => exact consistent_press law button calm
  | removeFavorite characterId => exact consistent_removeFavorite law characterId calm
  | unmountButton button =>
      have fewer : ∀ other heart, Function.update s.client.buttons button none other = some heart →
          s.client.buttons other = some heart := by
        intro other heart here
        by_cases gone : other = button
        · rw [gone, Function.update_self] at here
          cases here
        · rw [Function.update_of_ne gone] at here
          exact here
      change Consistent user ⟨{ s.client with
        buttons := Function.update s.client.buttons button none }, s.server, s.sent ++ [],
        s.answered⟩
      refine law.move (.refl _) (Nat.le_refl _) ?_ ?_ ?_ (by simp) List.Pairwise.nil
      · intro other late
        by_contra present
        obtain ⟨heart, here⟩ := Option.ne_none_iff_exists'.mp present
        have old := fewer other heart here
        rw [law.known other late] at old
        cases old
      · exact fun other heart here => law.shown_more _ (fewer other heart here)
      · exact fun call member => (law.placed call member).of_fewer fewer
  | openPage =>
      change Consistent user ⟨{ s.client with
        page := some ⟨s.client.nextInstance, []⟩, nextInstance := s.client.nextInstance + 1 },
        s.server, s.sent ++ (.fetchFavorites :: if s.client.favorites = [] then []
          else [.byIds s.client.nextInstance s.client.favorites]), s.answered⟩
      refine law.quiet (by rfl) (by simp) ?_ (.refl _) (fun call member _ => member)
      intro call member
      rcases List.mem_cons.mp member with rfl | second
      · exact silent_fetchFavorites
      · split at second
        · cases second
        · rw [List.mem_singleton.mp second]
          exact silent_byIds _ _
  | closePage =>
      change Consistent user ⟨{ s.client with page := none }, s.server, s.sent ++ [], s.answered⟩
      exact law.quiet (by rfl) (by simp) (by simp) (.refl _) (fun call member _ => member)

end Acts

section Answers

variable {libraries : Libraries} {server : Server} {session : Session} {user : Nat}
  {s : FavoritesSystem}

private theorem setFavorites_quiet (client : Client) (favorites : List Nat) :
    (setFavorites client favorites).1.buttons = client.buttons ∧
      (setFavorites client favorites).1.nextInstance = client.nextInstance ∧
      ∀ call ∈ (setFavorites client favorites).2, Silent call := by
  unfold setFavorites
  split
  · exact ⟨rfl, rfl, nofun⟩
  · split
    · exact ⟨rfl, rfl, nofun⟩
    · refine ⟨rfl, rfl, ?_⟩
      intro call member
      rw [List.mem_singleton.mp member]
      exact silent_byIds _ _

private theorem setIsFavorited_same (client : Client) {button : Nat} {value : Bool}
    (shows : ∀ heart, client.buttons button = some heart → heart.isFavorited = value) :
    setIsFavorited client button value = client := by
  have unchanged : (client.buttons button).map
      (fun heart => { heart with isFavorited := value }) = client.buttons button := by
    cases here : client.buttons button with
    | none => rfl
    | some heart =>
        rw [← shows heart here]
        rfl
  rw [setIsFavorited, unchanged, Function.update_eq_self]

/-- An answer for which no button waits leaves the hearts alone. -/
private theorem receive_quiet (client : Client) {call : Call} (none_waits : waiting call = none)
    (answer : Answer) :
    (receive client call answer).1.buttons = client.buttons ∧
      (receive client call answer).1.nextInstance = client.nextInstance ∧
      ∀ next ∈ (receive client call answer).2, Silent next := by
  unfold receive
  split
  · cases none_waits
  · cases none_waits
  · exact setFavorites_quiet client _
  · obtain ⟨buttons, next, silent⟩ := setFavorites_quiet client
      (client.favorites.filter (fun id => id ≠ _))
    refine ⟨buttons, next, ?_⟩
    intro call member
    rcases List.mem_cons.mp member with rfl | second
    · exact silent_fetchFavorites
    · exact silent call second
  · exact ⟨rfl, rfl, nofun⟩
  · exact ⟨rfl, rfl, nofun⟩

/-- The setter changes what one heart shows, and no other. -/
private theorem buttons_setIsFavorited {client : Client} {button other : Nat} {value : Bool}
    {heart : Heart} (here : (setIsFavorited client button value).buttons other = some heart) :
    ∃ old, client.buttons other = some old ∧ heart.characterId = old.characterId ∧
      heart.isFavorited = if other = button then value else old.isFavorited := by
  change Function.update client.buttons button _ other = some heart at here
  by_cases own : other = button
  · subst own
    rw [Function.update_self] at here
    obtain ⟨old, present, rfl⟩ := Option.map_eq_some_iff.mp here
    exact ⟨old, present, rfl, (if_pos rfl).symm⟩
  · rw [Function.update_of_ne own] at here
    exact ⟨heart, here, rfl, (if_neg own).symm⟩

/-- A heart may be set while no toggle of its own is under way. -/
private theorem Placed.settled {client : Client} {held : Call} (placed : Placed client held)
    {button : Nat} (value : Bool)
    (free : ∀ heart, client.buttons button = some heart →
      ∀ characterId isFavorited, held ≠ .toggle button characterId isFavorited) :
    Placed (setIsFavorited client button value) held := by
  cases held with
  | look other kitId =>
      intro heart here
      obtain ⟨old, stored, kit, -⟩ := buttons_setIsFavorited here
      rw [kit]
      exact placed old stored
  | toggle other kitId isFavorited =>
      refine ⟨?_, ?_⟩
      · intro heart here
        obtain ⟨old, stored, kit, shows⟩ := buttons_setIsFavorited here
        obtain ⟨same, was⟩ := placed.1 old stored
        by_cases own : other = button
        · subst own
          exact absurd rfl (free old stored kitId isFavorited)
        · rw [if_neg own] at shows
          exact ⟨kit.trans same, shows.trans was⟩
      · intro second heart here same
        obtain ⟨old, stored, kit, -⟩ := buttons_setIsFavorited here
        exact placed.2 second old stored (kit.symm.trans same)
  | removeFavorite kitId =>
      intro other heart here
      obtain ⟨old, stored, kit, -⟩ := buttons_setIsFavorited here
      rw [kit]
      exact placed other old stored
  | _ => trivial

/-- The one heart that an answer is for now shows the truth; the others wait or show it as
before. -/
private theorem consistent_settled (law : Consistent user s) {before after : List (Call × Answer)}
    {call : Call} {answer : Answer} (answered : s.answered = before ++ (call, answer) :: after)
    {button characterId : Nat} (waits : waiting call = some button)
    (named : about characterId call = true) {value : Bool}
    (tells : ∀ heart, s.client.buttons button = some heart →
      heart.characterId = characterId ∧ value = liked s.server user characterId)
    {calls : List Call} (silent : ∀ next ∈ calls, Silent next) :
    Consistent user ⟨setIsFavorited s.client button value, s.server, s.sent ++ calls,
      before ++ after⟩ := by
  have fewer : (before ++ after).Sublist s.answered := by
    rw [answered]
    exact (List.Sublist.refl _).append (List.sublist_cons_self _ _)
  have order : s.underWay.Perm (call :: (s.sent ++ (before ++ after).map Prod.fst)) := by
    rw [System.underWay, answered, List.map_append, List.map_append, List.map_cons,
      ← List.append_assoc, ← List.append_assoc]
    exact List.perm_middle
  have alone := (List.pairwise_cons.mp ((order.pairwise_iff Compatible.symm).mp law.apart)).1
  refine law.move fewer (Nat.le_refl _) ?_ ?_ ?_
    (fun next member => (silent next member).sendable s _) ?_
  · intro other late
    by_contra present
    obtain ⟨heart, here⟩ := Option.ne_none_iff_exists'.mp present
    obtain ⟨old, stored, -⟩ := buttons_setIsFavorited here
    rw [law.known other late] at stored
    cases stored
  · intro other heart here
    obtain ⟨old, stored, kit, shows⟩ := buttons_setIsFavorited here
    by_cases own : other = button
    · rw [own] at stored
      obtain ⟨same, truth⟩ := tells old stored
      rw [if_pos own] at shows
      rw [shows, kit, same]
      exact Or.inr truth
    · rw [if_neg own] at shows
      rcases law.shown other old stored with ⟨held, member, holds⟩ | truth
      · refine Or.inl ⟨held, ?_, holds⟩
        rcases List.mem_cons.mp (order.mem_iff.mp member) with rfl | rest
        · rw [waits] at holds
          cases holds
          exact absurd rfl own
        · rcases List.mem_append.mp rest with sent | answer
          · exact List.mem_append_left _ (List.mem_append_left _ sent)
          · exact List.mem_append_right _ answer
      · rw [shows, kit]
        exact Or.inr truth
  · intro held member
    have placed := law.placed held (order.mem_iff.mpr (List.mem_cons_of_mem _ member))
    refine placed.settled value ?_
    -- a toggle of this heart would be a write under way next to the call about the same kit
    rintro old stored kitId isFavorited rfl
    have here := (tells old stored).1
    rw [(placed.1 old stored).1] at here
    subst here
    have clash := alone _ member kitId named (decide_eq_true rfl)
    cases clash.2
  · refine List.pairwise_iff_forall_sublist.mpr ?_
    intro first second both
    have member : first ∈ calls := both.subset (by simp)
    exact compatible_of_silent (silent first member).2 second

private theorem consistent_receiving (law : Consistent user s) {before after : List (Call × Answer)}
    {call : Call} {answer : Answer} (answered : s.answered = before ++ (call, answer) :: after) :
    Consistent user (s.receiving (favoritesProtocol libraries server session) call answer
      (before ++ after)) := by
  have member : (call, answer) ∈ s.answered := by
    rw [answered]
    exact List.mem_append_right _ List.mem_cons_self
  have current := law.current _ member
  have placed := law.placed call
    (List.mem_append_right _ (List.mem_map_of_mem member))
  cases waits : waiting call with
  | none =>
      obtain ⟨buttons, next, silent⟩ := receive_quiet s.client waits answer
      refine law.quiet buttons (Nat.le_of_eq next.symm) silent ?_ ?_
      · rw [answered]
        exact (List.Sublist.refl _).append (List.sublist_cons_self _ _)
      · intro held present holds
        rw [System.underWay, answered, List.map_append, List.map_cons] at present
        rw [List.map_append]
        simp only [List.mem_append, List.mem_cons] at present ⊢
        rcases present with sent | first | rfl | second
        · exact Or.inl sent
        · exact Or.inr (Or.inl first)
        · rw [waits] at holds
          cases holds
        · exact Or.inr (Or.inr second)
  | some button =>
      cases call with
      | look other characterId =>
          obtain ⟨data, rfl, listed⟩ := current
          cases waits
          refine consistent_settled law answered rfl (decide_eq_true rfl)
            (fun heart here => ⟨placed heart here, listed⟩) ?_
          intro next member
          cases member
      | toggle other characterId isFavorited =>
          obtain ⟨ok, rfl, holds⟩ := current
          cases waits
          cases ok with
          | true =>
              refine consistent_settled law answered rfl (decide_eq_true rfl)
                (fun heart here => ⟨(placed.1 heart here).1, holds.symm⟩) ?_
              intro next member
              rw [List.mem_singleton.mp member]
              exact silent_fetchFavorites
          | false =>
              have same := setIsFavorited_same s.client (fun heart here => (placed.1 heart here).2)
              change Consistent user ⟨s.client, s.server, s.sent ++ [], before ++ after⟩
              rw [← same]
              refine consistent_settled law answered rfl (decide_eq_true rfl)
                (fun heart here => ⟨(placed.1 heart here).1, holds.symm⟩) ?_
              intro next member
              cases member
      | _ => cases waits

end Answers

section Service

variable {libraries : Libraries} {server : Server} {session : Session} {user : Nat}
  {s : FavoritesSystem}

/-- What deleting a kit from the favorites does: it is not liked afterwards, and if the request is
refused it was not before; the other kits stay as they are. -/
private theorem deleteFavoriteByCharacter_effect (login : session.user = some user) {t : State}
    (once : ∀ kitId, kitEntries t user kitId ≤ 1) (characterId : Nat) :
    (∀ kitId, kitEntries (deleteFavoriteByCharacter session t characterId).2 user kitId ≤ 1) ∧
      (∀ kitId, characterId ≠ kitId →
        liked (deleteFavoriteByCharacter session t characterId).2 user kitId =
          liked t user kitId) ∧
      liked (deleteFavoriteByCharacter session t characterId).2 user characterId = false ∧
      ((deleteFavoriteByCharacter session t characterId).1.fetchOk = false →
        liked t user characterId = false) := by
  rcases kitEntries_deleteFavoriteByCharacter (s := t) login characterId with
    ⟨-, kept, none_left⟩ | ⟨accepted, counts⟩
  · rw [kept]
    have empty : liked t user characterId = false := by simp [liked, none_left]
    exact ⟨once, fun _ _ => rfl, empty, fun _ => empty⟩
  · refine ⟨?_, ?_, ?_, ?_⟩
    · intro kitId
      have count := counts kitId
      have before := once kitId
      omega
    · intro kitId other
      have count := counts kitId
      rw [if_neg (Ne.symm other), Nat.add_zero] at count
      rw [liked, liked, count]
    · have count := counts characterId
      rw [if_pos rfl] at count
      have before := once characterId
      simp only [liked, decide_eq_false_iff_not]
      omega
    · rw [accepted]
      nofun

/-- What serving a call does: its answer tells the state that it leaves, no kit is stored twice,
and only the kit that it writes can change. -/
theorem handle_effect (engine : Engine) (login : session.user = some user) {t : State}
    (once : ∀ kitId, kitEntries t user kitId ≤ 1) {call : Call} (expected : Expected t user call) :
    Current (handle engine session t call).2 user (call, (handle engine session t call).1) ∧
      (∀ kitId, kitEntries (handle engine session t call).2 user kitId ≤ 1) ∧
      ∀ kitId, (about kitId call = true → isWrite call = false) →
        liked (handle engine session t call).2 user kitId = liked t user kitId := by
  cases call with
  | look button characterId =>
      obtain ⟨data, answer, listed⟩ := look_answer (s := t) login characterId
      have kept : (getFavorites session t none).2 = t := getFavorites_state t none
      simp only [handle, kept]
      exact ⟨⟨data, by rw [answer], listed⟩, once, fun _ _ => trivial⟩
  | fetchFavorites =>
      have kept : (getFavorites session t none).2 = t := getFavorites_state t none
      simp only [handle, kept]
      exact ⟨trivial, once, fun _ _ => trivial⟩
  | byIds page ids => exact ⟨trivial, once, fun _ _ => rfl⟩
  | removeFavorite characterId =>
      obtain ⟨kept, others, -, -⟩ := deleteFavoriteByCharacter_effect login once characterId
      refine ⟨trivial, kept, ?_⟩
      intro kitId spared
      refine others kitId ?_
      intro same
      cases spared (decide_eq_true same)
  | toggle button characterId isFavorited =>
      have other_of : ∀ kitId, (about kitId (.toggle button characterId isFavorited) = true →
          isWrite (.toggle button characterId isFavorited) = false) → characterId ≠ kitId := by
        intro kitId spared same
        cases spared (decide_eq_true same)
      cases isFavorited with
      | true =>
          obtain ⟨kept, others, gone, missing⟩ :=
            deleteFavoriteByCharacter_effect login once characterId
          refine ⟨⟨_, rfl, ?_⟩, kept, fun kitId spared => others kitId (other_of kitId spared)⟩
          cases accepted : (deleteFavoriteByCharacter session t characterId).1.fetchOk with
          | true => exact gone
          | false =>
              have absent := missing accepted
              rw [expected] at absent
              cases absent
      | false =>
          rcases kitEntries_addFavorite (s := t) engine login characterId with
            ⟨refused, kept⟩ | ⟨accepted, counts⟩
          · simp only [handle, kept, refused]
            exact ⟨⟨false, rfl, expected⟩, once, fun _ _ => trivial⟩
          · have absent : kitEntries t user characterId = 0 := by
              have expects : liked t user characterId = false := expected
              simpa [liked] using expects
            simp only [handle, accepted]
            refine ⟨⟨true, rfl, ?_⟩, ?_, ?_⟩
            · rw [liked, counts, if_pos rfl]
              simp
            · intro kitId
              rw [counts]
              have before := once kitId
              split
              · rename_i same
                rw [same, absent]
              · exact before
            · intro kitId spared
              rw [liked, liked, counts, if_neg (Ne.symm (other_of kitId spared)), Nat.add_zero]

private theorem consistent_serving (login : session.user = some user) (law : Consistent user s)
    {before after : List Call} {call : Call} (sent : s.sent = before ++ call :: after) :
    Consistent user (s.serving (favoritesProtocol libraries server session) call
      (before ++ after)) := by
  have order := System.underWay_serving (favoritesProtocol libraries server session) sent
  have member : call ∈ s.sent := by
    rw [sent]
    exact List.mem_append_right _ List.mem_cons_self
  obtain ⟨tells, once, others⟩ := handle_effect server.engine login law.once
    (law.expected call member)
  have alone : ∀ other ∈ before ++ after ++ s.answered.map Prod.fst, Compatible call other := by
    have first : s.underWay.Perm (call :: (before ++ after ++ s.answered.map Prod.fst)) := by
      rw [System.underWay, sent, List.append_assoc, List.append_assoc]
      exact List.perm_middle
    exact (List.pairwise_cons.mp ((first.pairwise_iff Compatible.symm).mp law.apart)).1
  -- the kits of the other calls are not written
  have spared : ∀ other ∈ before ++ after ++ s.answered.map Prod.fst, ∀ kitId,
      about kitId other = true →
      liked (handle server.engine session s.server call).2 user kitId =
        liked s.server user kitId := by
    intro other present kitId named
    exact others kitId (fun own => (alone other present kitId own named).1)
  refine ⟨⟨once, ?_⟩, law.known, ?_, ?_, ?_, ?_, ?_⟩
  · intro button heart here
    rcases law.shown button heart here with ⟨held, present, waits⟩ | truth
    · exact Or.inl ⟨held, order.mem_iff.mpr present, waits⟩
    · by_cases written : about heart.characterId call = true ∧ isWrite call = true
      · have placed := law.placed call (List.mem_append_left _ member)
        have present := order.mem_iff.mpr (List.mem_append_left _ member)
        obtain ⟨named, writes⟩ := written
        cases call with
        | toggle other characterId isFavorited =>
            have here' := placed.2 button heart here (of_decide_eq_true named).symm
            exact Or.inl ⟨_, present, congrArg some here'.symm⟩
        | removeFavorite characterId =>
            exact absurd (of_decide_eq_true named).symm (placed button heart here)
        | _ => cases writes
      · refine Or.inr (truth.trans (others heart.characterId ?_).symm)
        intro named
        exact Bool.eq_false_iff.mpr fun writes => written ⟨named, writes⟩
  · exact fun held present => law.numbered held (order.mem_iff.mp present)
  · exact (order.pairwise_iff Compatible.symm).mpr law.apart
  · exact fun held present => law.placed held (order.mem_iff.mp present)
  · intro held present
    have old : held ∈ s.sent := by
      rw [sent]
      rcases List.mem_append.mp present with first | second
      · exact List.mem_append_left _ first
      · exact List.mem_append_right _ (List.mem_cons_of_mem _ second)
    exact (law.expected held old).of_liked (spared held (List.mem_append_left _ present))
  · intro entry present
    rcases List.mem_append.mp present with old | new
    · exact (law.current entry old).of_liked
        (spared entry.1 (List.mem_append_right _ (List.mem_map_of_mem old)))
    · rw [List.mem_singleton.mp new]
      exact tells

/-- The requests of others leave the list of the user's favorites, and so what the laws say. -/
private theorem consistent_disturbed (law : Consistent user s) (request : SiteRequest)
    (calm : Calm libraries server user s (.other request)) :
    Consistent user (s.disturbed (favoritesProtocol libraries server session) request) := by
  have entries : ∀ kitId, kitEntries (siteStep libraries server s.server request) user kitId =
      kitEntries s.server user kitId := by
    intro kitId
    rw [kitEntries, kitEntries, calm]
  have same : ∀ kitId, liked (siteStep libraries server s.server request) user kitId =
      liked s.server user kitId := by
    intro kitId
    rw [liked, liked, entries]
  refine ⟨⟨?_, ?_⟩, law.known, law.numbered, law.apart, law.placed, ?_, ?_⟩
  · intro kitId
    exact (entries kitId).trans_le (law.once kitId)
  · intro button heart here
    exact (law.shown button heart here).imp_right fun truth => truth.trans (same _).symm
  · exact fun call member => (law.expected call member).of_liked fun kitId _ => same kitId
  · exact fun entry member => (law.current entry member).of_liked fun kitId _ => same kitId

end Service

/-- However calls are served and answers received, the hearts of a calm user tell the truth, and
no kit becomes a favorite twice, although the server would store it again. -/
theorem hearts_truthful_along (libraries : Libraries) (server : Server) (session : Session)
    (user : Nat) (login : session.user = some user) (s : State)
    (once : ∀ kitId, kitEntries s user kitId ≤ 1) (events : List (Event PageEvent SiteRequest))
    (calm : EachStep (step (favoritesProtocol libraries server session))
      (Calm libraries server user) (FavoritesSystem.fresh s) events) :
    Along (step (favoritesProtocol libraries server session)) (Truthful user)
      (FavoritesSystem.fresh s) events := by
  have along : Along (step (favoritesProtocol libraries server session)) (Consistent user)
      (FavoritesSystem.fresh s) events := by
    refine along_of_rules ?_ ?_ ?_ ?_ (consistent_fresh once) calm
    · exact fun t event law allowed => consistent_acting law event allowed
    · exact fun t before call after law sent => consistent_serving login law sent
    · exact fun t before call answer after law answered => consistent_receiving law answered
    · exact fun t request law allowed => consistent_disturbed law request allowed
  exact fun handled here => (along handled here).toTruthful

/-- Ann's heart for the sand tray is looked up, pressed, and answered. -/
theorem heart_is_filled :
    let protocol := favoritesProtocol plainLibraries sampleServer customer
    let events : List (Event PageEvent SiteRequest) :=
      [.act (.mountButton 1), .serve 0, .receive 0, .act (.press 0), .serve 0, .receive 0]
    Along (step protocol) (Truthful 1) (FavoritesSystem.fresh (shelfOnly 3)) events ∧
      (run (step protocol) (FavoritesSystem.fresh (shelfOnly 3)) events).client.buttons 0 =
        some ⟨1, true⟩ ∧
      kitEntries (run (step protocol) (FavoritesSystem.fresh (shelfOnly 3)) events).server 1 1 =
        1 := by
  refine ⟨hearts_truthful_along plainLibraries sampleServer customer 1 rfl (shelfOnly 3) ?_ _ ?_,
    by decide, by decide⟩
  · intro kitId
    exact Nat.zero_le 1
  · simp only [eachStep_cons, eachStep_nil, and_true]
    refine ⟨?_, trivial, trivial, ?_, trivial, trivial⟩
    · intro _ mounting
      cases mounting
    rintro _ ⟨⟩
    refine ⟨?_, ?_⟩
    · intro call under
      cases under
    intro second shown here _
    by_contra other
    change Function.update (Function.update (fun _ => none) 0 _) 0 _ second = some shown at here
    rw [Function.update_of_ne other, Function.update_of_ne other] at here
    cases here

section Impatience

variable (libraries : Libraries) {server : Server} {session : Session} {user button kitId : Nat}

private theorem run_presses {client : Client} {heart : Heart}
    (here : client.buttons button = some heart)
    (t : State) (sent : List Call) (answered : List (Call × Answer)) (n : Nat) :
    run (step (favoritesProtocol libraries server session)) ⟨client, t, sent, answered⟩
        (List.replicate n (.act (.press button))) =
      ⟨client, t, sent ++ List.replicate n (.toggle button heart.characterId heart.isFavorited),
        answered⟩ := by
  induction n generalizing sent with
  | zero => simp
  | succ n ih =>
      have first : step (favoritesProtocol libraries server session) ⟨client, t, sent, answered⟩
          (.act (.press button)) =
            ⟨client, t, sent ++ [.toggle button heart.characterId heart.isFavorited],
              answered⟩ := by
        simp [step, System.acting, favoritesProtocol, act, here]
      rw [List.replicate_succ, run_cons, first, ih, List.replicate_succ, List.append_assoc]
      rfl

/-- Each of the calls adds an entry, since each button press was made on an empty heart. -/
private theorem run_serves (login : session.user = some user) (button n : Nat) (client : Client)
    {t : State} (answered : List (Call × Answer))
    (allowed : favoriteAllowed server.engine t.db user (characterBody kitId) = true) :
    ∃ after, run (step (favoritesProtocol libraries server session))
        ⟨client, t, List.replicate n (.toggle button kitId false), answered⟩
        (List.replicate n (.serve 0)) =
          ⟨client, after, [],
            answered ++ List.replicate n (.toggle button kitId false, .written true)⟩ ∧
      kitEntries after user kitId = kitEntries t user kitId + n := by
  induction n generalizing t answered with
  | zero => exact ⟨t, by simp, rfl⟩
  | succ n ih =>
      have added : addFavorite server.engine session t (characterBody kitId) =
          (.ok 201 (newFavorite user (characterBody kitId) t.db.favorites.nextKey),
            withFavorites t (t.db.favorites.insertNew (newFavorite user (characterBody kitId))
              (fun _ => rfl))) := by
        rcases addFavorite_cases server.engine t login (characterBody kitId) with
          ⟨refused, -, -⟩ | ⟨-, inserted⟩
        · rw [allowed] at refused
          cases refused
        · exact inserted
      have counted : kitEntries (addFavorite server.engine session t (characterBody kitId)).2 user
          kitId = kitEntries t user kitId + 1 := by
        rcases kitEntries_addFavorite (s := t) server.engine login kitId with
          ⟨refused, -⟩ | ⟨-, counts⟩
        · rw [added] at refused
          cases refused
        · rw [counts, if_pos rfl]
      have first : step (favoritesProtocol libraries server session)
          ⟨client, t, List.replicate (n + 1) (.toggle button kitId false), answered⟩ (.serve 0) =
            ⟨client, (addFavorite server.engine session t (characterBody kitId)).2,
              List.replicate n (.toggle button kitId false),
              answered ++ [(.toggle button kitId false, .written true)]⟩ := by
        have accepted : (addFavorite server.engine session t (characterBody kitId)).1.fetchOk =
            true := by
          rw [added]
          rfl
        simp [step, System.serving, favoritesProtocol, handle, List.replicate_succ, accepted]
      have still : favoriteAllowed server.engine
          (addFavorite server.engine session t (characterBody kitId)).2.db user
          (characterBody kitId) = true := by
        rw [added]
        exact allowed
      obtain ⟨after, ran, total⟩ :=
        ih (answered ++ [(.toggle button kitId false, .written true)]) still
      refine ⟨after, ?_, ?_⟩
      · rw [List.replicate_succ (a := Event.serve 0), run_cons, first, ran, List.replicate_succ,
          List.append_assoc]
        rfl
      · rw [total, counted]
        omega

private theorem run_receives (n : Nat) {client : Client} (t : State) (sent : List Call) {was : Bool}
    (here : client.buttons button = some ⟨kitId, was⟩) :
    ∃ shown, run (step (favoritesProtocol libraries server session))
        ⟨client, t, sent, List.replicate n (.toggle button kitId false, .written true)⟩
        (List.replicate n (.receive 0)) =
          ⟨shown, t, sent ++ List.replicate n .fetchFavorites, []⟩ ∧
      shown.buttons button = some ⟨kitId, if n = 0 then was else true⟩ := by
  induction n generalizing client sent was with
  | zero => exact ⟨client, by simp, by simpa using here⟩
  | succ n ih =>
      have filled : (setIsFavorited client button true).buttons button = some ⟨kitId, true⟩ := by
        simp [setIsFavorited, here]
      obtain ⟨shown, ran, shows⟩ := ih (sent ++ [.fetchFavorites]) filled
      refine ⟨shown, ?_, ?_⟩
      · rw [List.replicate_succ (a := Event.receive 0), run_cons]
        have first : step (favoritesProtocol libraries server session)
            ⟨client, t, sent,
              List.replicate (n + 1) (.toggle button kitId false, .written true)⟩ (.receive 0) =
              ⟨setIsFavorited client button true, t, sent ++ [.fetchFavorites],
                List.replicate n (.toggle button kitId false, .written true)⟩ := by
          simp [step, System.receiving, favoritesProtocol, receive, List.replicate_succ]
        rw [first, ran, List.replicate_succ, List.append_assoc]
        rfl
      · rw [shows]
        simp

end Impatience

/-- An empty heart that is pressed several times, with all calls served after the last press and all
answers received after the last call, stores the kit as often; the heart is full, and the next
press empties it while the kit stays a favorite. -/
theorem impatient_presses_stay_stored (libraries : Libraries) (server : Server)
    (session : Session) (user : Nat) (login : session.user = some user) (s : FavoritesSystem)
    (idle : s.sent = [] ∧ s.answered = []) (button kitId : Nat)
    (here : s.client.buttons button = some ⟨kitId, false⟩)
    (absent : kitEntries s.server user kitId = 0)
    (allowed : favoriteAllowed server.engine s.server.db user (characterBody kitId) = true)
    (n : Nat) :
    let protocol := favoritesProtocol libraries server session
    let filled := run (step protocol) s (List.replicate (n + 1) (.act (.press button)) ++
      List.replicate (n + 1) (.serve 0) ++ List.replicate (n + 1) (.receive 0))
    let emptied := run (step protocol) filled
      [.act (.press button), .serve (n + 1), .receive 0]
    filled.client.buttons button = some ⟨kitId, true⟩ ∧
      kitEntries filled.server user kitId = n + 1 ∧
      emptied.client.buttons button = some ⟨kitId, false⟩ ∧
      kitEntries emptied.server user kitId = n := by
  intro protocol filled emptied
  obtain ⟨client, t, sent, answered⟩ := s
  obtain ⟨rfl, rfl⟩ := idle
  obtain ⟨stored, served, total⟩ := run_serves libraries login button (n + 1) client [] allowed
  obtain ⟨shown, received, full⟩ := run_receives libraries (n + 1) stored [] here
  have reached : filled = ⟨shown, stored, List.replicate (n + 1) .fetchFavorites, []⟩ := by
    change run _ _ (_ ++ _ ++ _) = _
    rw [run_append, run_append, run_presses libraries here]
    simp only [List.nil_append] at served received ⊢
    rw [served, received]
  rw [absent, Nat.zero_add] at total
  rw [if_neg (Nat.succ_ne_zero n)] at full
  -- the full heart sends a deletion, which finds the first of the entries
  obtain ⟨accepted, counts⟩ :
      (deleteFavoriteByCharacter session stored kitId).1.fetchOk = true ∧
        ∀ other, kitEntries (deleteFavoriteByCharacter session stored kitId).2 user other +
          (if other = kitId then 1 else 0) = kitEntries stored user other := by
    refine (kitEntries_deleteFavoriteByCharacter login kitId).resolve_left ?_
    rintro ⟨-, -, none_left⟩
    rw [total] at none_left
    cases none_left
  have again : emptied = ⟨setIsFavorited shown button false,
      (deleteFavoriteByCharacter session stored kitId).2,
      List.replicate (n + 1) .fetchFavorites ++ [.fetchFavorites], []⟩ := by
    set fetches := List.replicate (n + 1) Call.fetchFavorites with fetches_def
    have many : fetches.length = n + 1 := List.length_replicate
    have last : (fetches ++ [Call.toggle button kitId true])[n + 1]? =
        some (.toggle button kitId true) := by
      rw [← many]
      exact List.getElem?_concat_length
    have rest : (fetches ++ [Call.toggle button kitId true]).eraseIdx (n + 1) = fetches := by
      rw [← many, List.eraseIdx_append_of_length_le (Nat.le_refl _), Nat.sub_self]
      exact List.append_nil _
    change run _ filled _ = _
    rw [reached]
    simp [step, System.acting, System.serving, System.receiving, favoritesProtocol, act, full,
      handle, receive, accepted, protocol, last, rest]
  have left := counts kitId
  rw [if_pos rfl, total] at left
  rw [reached, again]
  refine ⟨full, total, ?_, Nat.succ_injective left⟩
  simp [setIsFavorited, full]

/-- Three quick presses by Ann, and a fourth that seems to take the sand tray off the favorites. -/
theorem ann_presses_three_times :
    let protocol := favoritesProtocol plainLibraries sampleServer customer
    let looked := run (step protocol) (FavoritesSystem.fresh (shelfOnly 3))
      [.act (.mountButton 1), .serve 0, .receive 0]
    let filled := run (step protocol) looked (List.replicate 3 (.act (.press 0)) ++
      List.replicate 3 (.serve 0) ++ List.replicate 3 (.receive 0))
    let emptied := run (step protocol) filled [.act (.press 0), .serve 3, .receive 0]
    filled.client.buttons 0 = some ⟨1, true⟩ ∧ kitEntries filled.server 1 1 = 3 ∧
      emptied.client.buttons 0 = some ⟨1, false⟩ ∧ kitEntries emptied.server 1 1 = 2 :=
  impatient_presses_stay_stored plainLibraries sampleServer customer 1 rfl
    (run (step (favoritesProtocol plainLibraries sampleServer customer))
      (FavoritesSystem.fresh (shelfOnly 3)) [.act (.mountButton 1), .serve 0, .receive 0])
    ⟨rfl, rfl⟩ 0 1 (by decide) (by decide) (by decide) 2

end ProductSite.Personal.Hearts
