/- Module: ProductSite/Personal/Favorites
   source: backend/app/routes/favorite_routes.py, backend/app/models/favorite.py,
     backend/app/routes/kit_routes.py
   digest: When the favorites are a set of kits, and when each is a kit or a saved search. -/

import ProductSite.Access.Authentication
import ProductSite.Storefront.Filters

set_option autoImplicit false
set_option relaxedAutoImplicit false

namespace ProductSite.Personal.Favorites

open ProductSite.Foundation.KeyedTable (Table)
open ProductSite.Foundation.Runs
open ProductSite.Access.Authentication (plainLibraries)
open ProductSite.Backend.Accounts (Libraries handle)
open ProductSite.Backend.CartRoutes (cartStep_frame userAllowed)
open ProductSite.Backend.InventoryRoutes (kitAllowed)
open ProductSite.Backend.KitRoutes
open ProductSite.Backend.Models
open ProductSite.Backend.PersonalRoutes
open ProductSite.Backend.Requests (administrator customer sampleServer shelfOnly step_frame)
open ProductSite.Backend.Site
open ProductSite.Storefront.Filters (listIn)

/-- The answer to `GET /api/favorites/` in a session of the user, for a `type` of the query. -/
def listing (s : State) (user : Nat) (type : Option String) : List Favorite :=
  listIn (getFavorites ⟨some user, none⟩ s type).1

/-- How many entries of the untyped listing are for the kit. -/
def kitEntries (s : State) (user kitId : Nat) : Nat :=
  (listing s user none).countP (fun favorite => favorite.kitId = some kitId)

section Steps

variable {libraries : Libraries} {server : Server} {s : State}

/-- The requests that may write favorites. -/
def touchesFavorites : SiteRequest → Bool
  | .personal call => call.request.onFavorites
  | .kit ⟨_, .deleteKit _⟩ => true
  | _ => false

private theorem siteStep_favorites {request : SiteRequest}
    (quiet : touchesFavorites request = false) :
    (siteStep libraries server s request).db.favorites = s.db.favorites := by
  cases request with
  | account session request =>
      obtain ⟨users, addresses, purchases, after⟩ :
          ∃ users addresses purchases, (handle libraries server.engine session s request).state =
            { s with db := { s.db with
              users := users, shippingAddresses := addresses, purchases := purchases } } :=
        handle_frame request
      rw [siteStep, after]
  | stock request =>
      obtain ⟨inventory, purchases, redis, charges, after⟩ := step_frame server s request
      rw [siteStep, after]
  | cart call =>
      obtain ⟨table, after⟩ := cartStep_frame server.engine s call
      rw [siteStep, after]
      rfl
  | personal call => exact (personalStep_frame server s call).favorites quiet
  | kit call =>
      obtain ⟨session, request⟩ := call
      have other : ∀ id, request ≠ .deleteKit id := by
        rintro id rfl
        cases quiet
      obtain ⟨_, _, _, _, _, _, after⟩ := kitStep_frame server.engine s session request other
      rw [siteStep, after]

/-- A case for each request that may write favorites, and one for all others. -/
@[elab_as_elim]
private theorem favorites_cases {motive : SiteRequest → Prop}
    (add : ∀ session body, motive (.personal ⟨session, .addFavorite body⟩))
    (deleteByCharacter : ∀ session kitId,
      motive (.personal ⟨session, .deleteFavoriteByCharacter kitId⟩))
    (delete : ∀ session id, motive (.personal ⟨session, .deleteFavorite id⟩))
    (deleteKit : ∀ session id, motive (.kit ⟨session, .deleteKit id⟩))
    (quiet : ∀ request, touchesFavorites request = false → motive request)
    (request : SiteRequest) : motive request := by
  cases request with
  | account session request => exact quiet _ rfl
  | stock request => exact quiet _ rfl
  | cart call => exact quiet _ rfl
  | personal call =>
      obtain ⟨session, request⟩ := call
      cases request with
      | addFavorite body => exact add session body
      | deleteFavoriteByCharacter kitId => exact deleteByCharacter session kitId
      | deleteFavorite id => exact delete session id
      | _ => exact quiet _ rfl
  | kit call =>
      obtain ⟨session, request⟩ := call
      cases request with
      | deleteKit id => exact deleteKit session id
      | _ => exact quiet _ rfl

end Steps

section Listings

variable {s : State} {user : Nat}

theorem user_ne_zero {session : Session} (login : session.user = some user) : user ≠ 0 := by
  have kept := (Option.filter_eq_some_iff.mp login).2
  simpa using kept

private theorem getFavorites_owner (real : user ≠ 0) (type : Option String) :
    listing s user type =
      (let own := s.db.favorites.rows.filter (fun favorite => favorite.userId = user)
      if type = some "filter" then
        own.filter (fun favorite => favorite.filterJson.isSome && favorite.kitId.isNone)
      else if type = some "kit" then own.filter (fun favorite => favorite.kitId.isSome)
      else own) := by
  have login : (⟨some user, none⟩ : Session).user = some user := by
    simp [Session.user, real]
  rw [listing, getFavorites, loginRequired_some login]
  rfl

theorem listing_untyped (real : user ≠ 0) :
    listing s user none =
      s.db.favorites.rows.filter (fun favorite => favorite.userId = user) := by
  rw [getFavorites_owner real]
  rfl

private theorem listing_kit (real : user ≠ 0) :
    listing s user (some "kit") =
      (listing s user none).filter (fun favorite => favorite.kitId.isSome) := by
  rw [listing_untyped real, getFavorites_owner real]
  rfl

private theorem listing_filter (real : user ≠ 0) :
    listing s user (some "filter") = (listing s user none).filter
      (fun favorite => favorite.filterJson.isSome && favorite.kitId.isNone) := by
  rw [listing_untyped real, getFavorites_owner real]
  rfl

/-- Nobody is logged in as user 0. -/
private theorem listing_zero (type : Option String) : listing s 0 type = [] := rfl

end Listings

section Sets

variable {libraries : Libraries} {server : Server} {s : State} {user : Nat}

def forKit (user kitId : Nat) (favorite : Favorite) : Bool :=
  favorite.userId = user && favorite.kitId = some kitId

private theorem forKit_iff {kitId : Nat} {favorite : Favorite} :
    forKit user kitId favorite = true ↔ favorite.userId = user ∧ favorite.kitId = some kitId := by
  simp [forKit]

theorem kitEntries_eq (real : user ≠ 0) (kitId : Nat) :
    kitEntries s user kitId = s.db.favorites.rows.countP (forKit user kitId) := by
  rw [kitEntries, listing_untyped real, List.countP_filter]
  apply List.countP_congr
  intro favorite _
  simp [forKit, and_comm]

/-- After a success the listing shows what the request asked for: the added kit once, the
deleted kit not at all. -/
def Settles (server : Server) (user : Nat) (s : State) : SiteRequest → Prop
  | .personal ⟨session, .addFavorite body⟩ =>
      session.user = some user → (addFavorite server.engine session s body).1.fetchOk = true →
        ∀ kitId, body.kit = some kitId →
          kitEntries (addFavorite server.engine session s body).2 user kitId = 1
  | .personal ⟨session, .deleteFavoriteByCharacter kitId⟩ =>
      session.user = some user →
        (deleteFavoriteByCharacter session s kitId).1.fetchOk = true →
          kitEntries (deleteFavoriteByCharacter session s kitId).2 user kitId = 0
  | _ => True

/-- A kit that the user adds, and that the engine lets be added, is not yet among the user's
favorites. -/
def AddsNew (server : Server) (user : Nat) (s : State) : SiteRequest → Prop
  | .personal ⟨session, .addFavorite body⟩ =>
      session.user = some user → userAllowed server.engine s.db user = true →
        ∀ kitId, body.kit = some kitId → kitAllowed server.engine s.db kitId = true →
          ∀ favorite ∈ s.db.favorites.rows, favorite.userId = user → favorite.kitId ≠ some kitId
  | _ => True

/-- The table holds each kit at most once for the user. -/
def OnceEach (user : Nat) (s : State) : Prop :=
  ∀ kitId, s.db.favorites.rows.countP (forKit user kitId) ≤ 1

private theorem countP_insertNew (table : Table Favorite.id) (owner : Nat)
    (body : AddFavoriteBody) (user kitId : Nat) :
    (table.insertNew (newFavorite owner body) (fun _ => rfl)).rows.countP (forKit user kitId) =
      table.rows.countP (forKit user kitId) +
        if owner = user ∧ body.kit = some kitId then 1 else 0 := by
  have rows : (table.insertNew (newFavorite owner body) (fun _ => rfl)).rows =
      table.rows ++ [newFavorite owner body table.nextKey] := rfl
  rw [rows, List.countP_append, List.countP_singleton]
  simp only [forKit_iff, newFavorite]

private theorem countP_remove_le (table : Table Favorite.id) (gone counted : Favorite → Bool) :
    (table.remove gone).rows.countP counted ≤ table.rows.countP counted :=
  List.filter_sublist.countP_le

/-- A row that is removed is not counted any more. -/
private theorem countP_remove_lt {table : Table Favorite.id} {gone counted : Favorite → Bool}
    {favorite : Favorite} (member : favorite ∈ table.rows) (removed : gone favorite = true)
    (selected : counted favorite = true) :
    (table.remove gone).rows.countP counted < table.rows.countP counted := by
  have split := List.countP_eq_countP_filter_add table.rows counted (fun row => !gone row)
  have lost : 0 < (table.rows.filter (fun row => !!gone row)).countP counted := by
    refine List.countP_pos_iff.mpr ⟨favorite, List.mem_filter.mpr ⟨member, ?_⟩, selected⟩
    rw [removed]
    rfl
  have kept : (table.remove gone).rows = table.rows.filter (fun row => !gone row) := rfl
  rw [kept]
  omega

private theorem countP_release_le (table : Table Favorite.id) (gone kitId : Nat) :
    (table.modify (releaseFavorite gone) (fun _ => rfl)).rows.countP (forKit user kitId) ≤
      table.rows.countP (forKit user kitId) := by
  have rows : (table.modify (releaseFavorite gone) (fun _ => rfl)).rows =
      table.rows.map (releaseFavorite gone) := rfl
  rw [rows, List.countP_map]
  apply List.countP_mono_left
  intro favorite _
  simp only [Function.comp_apply, forKit_iff, releaseFavorite, Option.filter_eq_some_iff]
  exact fun held => ⟨held.1, held.2.1⟩

private theorem onceEach_remove (once : OnceEach user s) (gone : Favorite → Bool) :
    OnceEach user (withFavorites s (s.db.favorites.remove gone)) :=
  fun kitId => (countP_remove_le s.db.favorites gone _).trans (once kitId)

private theorem onceEach_deleteSelected (once : OnceEach user s) (session : Session)
    (selected : Favorite → Bool) : OnceEach user (deleteSelected session s selected).2 := by
  rcases deleteSelected_removes session s selected with kept | ⟨gone, removed⟩
  · rw [kept]
    exact once
  · rw [removed]
    exact onceEach_remove once gone

/-- An accepted addition meets the condition exactly if the count of its kit is 0. -/
private theorem new_countP {session : Session} {body : AddFavoriteBody} {owner kitId : Nat}
    (new : AddsNew server user s (.personal ⟨session, .addFavorite body⟩))
    (login : session.user = some owner) (own : owner = user) (named : body.kit = some kitId)
    (allowed : favoriteAllowed server.engine s.db owner body = true) :
    s.db.favorites.rows.countP (forKit user kitId) = 0 := by
  subst own
  simp only [favoriteAllowed, named, Option.all_some, Bool.and_eq_true] at allowed
  rw [List.countP_eq_zero]
  intro favorite member
  have free := new login allowed.1.2 kitId named allowed.2 favorite member
  simpa [forKit] using free

private theorem onceEach_addFavorite (once : OnceEach user s) (session : Session)
    (body : AddFavoriteBody)
    (new : AddsNew server user s (.personal ⟨session, .addFavorite body⟩)) :
    OnceEach user (addFavorite server.engine session s body).2 := by
  cases login : session.user with
  | none =>
      rw [addFavorite_eq, loginRequired_none login]
      exact once
  | some owner =>
      rcases addFavorite_cases server.engine s login body with ⟨-, -, kept⟩ | ⟨allowed, added⟩
      · rw [kept]
        exact once
      · rw [added]
        intro kitId
        refine le_of_eq_of_le (countP_insertNew s.db.favorites owner body user kitId) ?_
        split
        · rename_i own
          have none := new_countP new login own.1 own.2 allowed
          omega
        · exact once kitId

/-- One step keeps the favorites of the user a set if it adds no kit twice. -/
private theorem onceEach_step (request : SiteRequest) (once : OnceEach user s)
    (new : AddsNew server user s request) :
    OnceEach user (siteStep libraries server s request) := by
  induction request using favorites_cases with
  | add session body => exact onceEach_addFavorite once session body new
  | deleteByCharacter session kitId => exact onceEach_deleteSelected once session _
  | delete session id => exact onceEach_deleteSelected once session _
  | deleteKit session id =>
      change OnceEach user (deleteKit session s id).2
      rcases deleteKit_cases session s id with ⟨-, -, kept⟩ | ⟨-, deleted⟩
      · rw [kept]
        exact once
      · rw [deleted]
        exact fun kitId => (countP_release_le s.db.favorites id kitId).trans (once kitId)
  | quiet request quiet =>
      intro kitId
      rw [siteStep_favorites quiet]
      exact once kitId

/-- An addition that leaves its kit listed once found it not listed. -/
private theorem addsNew_of_settles (request : SiteRequest)
    (settles : Settles server user s request) :
    AddsNew server user s request := by
  induction request using favorites_cases with
  | add session body =>
      intro login userStored kitId named kitStored favorite member own held
      have allowed : favoriteAllowed server.engine s.db user body = true := by
        simp [favoriteAllowed, named, userStored, kitStored]
      rcases addFavorite_cases server.engine s login body with ⟨refused, -, -⟩ | ⟨-, added⟩
      · rw [allowed] at refused
        cases refused
      · have once := settles login (by rw [added]; rfl) kitId named
        rw [kitEntries_eq (user_ne_zero login), added] at once
        have counted := countP_insertNew s.db.favorites user body user kitId
        rw [if_pos ⟨rfl, named⟩] at counted
        have listed : 0 < s.db.favorites.rows.countP (forKit user kitId) :=
          List.countP_pos_iff.mpr ⟨favorite, member, forKit_iff.mpr ⟨own, held⟩⟩
        have sum := counted.symm.trans once
        omega
  | deleteByCharacter session kitId => trivial
  | delete session id => trivial
  | deleteKit session id => trivial
  | quiet request quiet =>
      unfold AddsNew
      split
      · cases quiet
      · trivial

private theorem settles_of_addsNew (request : SiteRequest) (once : user ≠ 0 → OnceEach user s)
    (new : AddsNew server user s request) : Settles server user s request := by
  induction request using favorites_cases with
  | add session body =>
      intro login success kitId named
      have real := user_ne_zero login
      rcases addFavorite_cases server.engine s login body with ⟨-, refused, -⟩ | ⟨allowed, added⟩
      · rw [refused] at success
        cases success
      · have counted := countP_insertNew s.db.favorites user body user kitId
        rw [new_countP new login rfl named allowed, if_pos ⟨rfl, named⟩] at counted
        rw [kitEntries_eq real, added]
        exact counted
  | deleteByCharacter session kitId =>
      intro login success
      have real := user_ne_zero login
      rcases deleteSelected_cases s login (fun favorite => favorite.kitId = some kitId) with
        ⟨refused, -⟩ | ⟨favorite, stored, own, held, removed⟩
      · rw [deleteFavoriteByCharacter, refused] at success
        cases success
      · have member := (Table.get?_eq_some_iff.mp stored).1
        have counted : forKit user kitId favorite = true :=
          forKit_iff.mpr ⟨own, by simpa using held⟩
        have fewer : (s.db.favorites.remove (fun row => row.id = favorite.id)).rows.countP
            (forKit user kitId) < s.db.favorites.rows.countP (forKit user kitId) :=
          countP_remove_lt member (by simp) counted
        have before := once real kitId
        rw [kitEntries_eq real, deleteFavoriteByCharacter, removed]
        change (s.db.favorites.remove _).rows.countP _ = 0
        omega
  | delete session id => trivial
  | deleteKit session id => trivial
  | quiet request quiet =>
      unfold Settles
      split
      · cases quiet
      · cases quiet
      · trivial

end Sets

/-- The customer marks a kit, or takes the mark away. -/
def addKit (kitId : Nat) : SiteRequest :=
  .personal ⟨customer, .addFavorite ⟨.absent, .value kitId, .absent, .absent, .absent⟩⟩

def dropKit (kitId : Nat) : SiteRequest :=
  .personal ⟨customer, .deleteFavoriteByCharacter kitId⟩

/-- For every user who starts with each kit listed at most once, and every run of requests of
all users: each success of the user's additions and deletions shows in the listing as it should
exactly if no addition is for a kit that the user has already. -/
theorem favorites_set_iff (libraries : Libraries) (server : Server) (user : Nat) (s : State)
    (requests : List SiteRequest) (start : ∀ kitId, kitEntries s user kitId ≤ 1) :
    EachStep (siteStep libraries server) (Settles server user) s requests ↔
      EachStep (siteStep libraries server) (AddsNew server user) s requests := by
  constructor
  · intro each handled request here
    exact addsNew_of_settles request (each handled request here)
  · intro each handled request here
    refine settles_of_addsNew request ?_ (each handled request here)
    intro real
    have first : OnceEach user s := by
      intro kitId
      rw [← kitEntries_eq real]
      exact start kitId
    have along : Along (siteStep libraries server) (OnceEach user) s requests :=
      along_of_eachStep (fun _ request once new => onceEach_step request once new) first each
    exact along.eachStep handled request here

theorem marked_and_unmarked :
    EachStep (siteStep plainLibraries sampleServer) (Settles sampleServer 1) (shelfOnly 3)
      [addKit 1, dropKit 1] := by
  have start : ∀ kitId, kitEntries (shelfOnly 3) 1 kitId ≤ 1 := fun _ => Nat.zero_le 1
  refine (favorites_set_iff plainLibraries sampleServer 1 (shelfOnly 3) _ start).mpr ?_
  refine eachStep_cons.mpr ⟨?_, eachStep_cons.mpr ⟨trivial, eachStep_nil _ _⟩⟩
  intro _ _ kitId _ _ favorite member
  cases member

/-- From an empty table, two additions of a kit list it twice, and after a successful deletion
it is still listed. -/
theorem marked_twice_stays_marked :
    (shelfOnly 3).db.favorites.rows = [] ∧
      listing (run (siteStep plainLibraries sampleServer) (shelfOnly 3) [addKit 1, addKit 1])
        1 none = [⟨1, 1, some 1, none, none⟩, ⟨2, 1, some 1, none, none⟩] ∧
      (deleteFavoriteByCharacter customer
        (run (siteStep plainLibraries sampleServer) (shelfOnly 3) [addKit 1, addKit 1]) 1).1 =
          .ok 200 "Favorite deleted" ∧
      listing (run (siteStep plainLibraries sampleServer) (shelfOnly 3)
        [addKit 1, addKit 1, dropKit 1]) 1 none = [⟨2, 1, some 1, none, none⟩] ∧
      ¬ EachStep (siteStep plainLibraries sampleServer) (Settles sampleServer 1) (shelfOnly 3)
        [addKit 1, addKit 1, dropKit 1] := by
  refine ⟨rfl, by decide, by decide, by decide, ?_⟩
  intro each
  have second := each [addKit 1] (addKit 1) ⟨[dropKit 1], rfl⟩
  have twice : kitEntries (run (siteStep plainLibraries sampleServer) (shelfOnly 3)
      [addKit 1, addKit 1]) 1 1 = 1 := second rfl (by decide) 1 rfl
  exact absurd twice (by decide)

section Kinds

variable {libraries : Libraries} {server : Server} {s : State}

/-- Every favorite is in exactly one of the two typed listings of its user, and for every user
the untyped listing is their disjoint union. -/
structure Classified (s : State) : Prop where
  one : ∀ favorite ∈ s.db.favorites.rows,
    Xor (favorite ∈ listing s favorite.userId (some "kit"))
      (favorite ∈ listing s favorite.userId (some "filter"))
  union : ∀ user, (listing s user none).Perm
    (listing s user (some "kit") ++ listing s user (some "filter"))
  disjoint : ∀ user, (listing s user (some "kit")).Disjoint (listing s user (some "filter"))

/-- A deletion of a kit finds no favorite that is only for this kit. -/
def ReleasesSearchesOnly (s : State) : SiteRequest → Prop
  | .kit ⟨session, .deleteKit id⟩ =>
      deletesKit session s.db id = true → ∀ favorite ∈ s.db.favorites.rows,
        favorite.kitId = some id → favorite.filterJson.isSome = true
  | _ => True

/-- The row has an owner who can list it, and is for a kit or a search. -/
def Listed (favorite : Favorite) : Prop :=
  favorite.userId ≠ 0 ∧ (favorite.kitId.isSome = true ∨ favorite.filterJson.isSome = true)

private theorem mem_listing_kit {user : Nat} (real : user ≠ 0) {favorite : Favorite} :
    favorite ∈ listing s user (some "kit") ↔
      (favorite ∈ s.db.favorites.rows ∧ favorite.userId = user) ∧ favorite.kitId.isSome = true := by
  rw [listing_kit real, listing_untyped real]
  simp only [List.mem_filter, decide_eq_true_eq]

private theorem mem_listing_filter {user : Nat} (real : user ≠ 0) {favorite : Favorite} :
    favorite ∈ listing s user (some "filter") ↔
      (favorite ∈ s.db.favorites.rows ∧ favorite.userId = user) ∧
        favorite.filterJson.isSome = true ∧ favorite.kitId = none := by
  rw [listing_filter real, listing_untyped real]
  simp only [List.mem_filter, decide_eq_true_eq, Bool.and_eq_true, Option.isNone_iff_eq_none]

private theorem listed_of_classified (classified : Classified s) :
    ∀ favorite ∈ s.db.favorites.rows, Listed favorite := by
  intro favorite member
  have one := classified.one favorite member
  by_cases real : favorite.userId = 0
  · rw [real, listing_zero, listing_zero] at one
    simp [Xor] at one
  · refine ⟨real, ?_⟩
    rcases one with ⟨kit, -⟩ | ⟨search, -⟩
    · exact Or.inl ((mem_listing_kit real).mp kit).2
    · exact Or.inr ((mem_listing_filter real).mp search).2.1

private theorem classified_of_listed (listed : ∀ favorite ∈ s.db.favorites.rows, Listed favorite) :
    Classified s where
  one := by
    intro favorite member
    obtain ⟨real, kind⟩ := listed favorite member
    rw [mem_listing_kit real, mem_listing_filter real]
    cases held : favorite.kitId with
    | some kitId => exact Or.inl ⟨⟨⟨member, rfl⟩, rfl⟩, fun search => nomatch search.2.2⟩
    | none =>
        rw [held] at kind
        have search := kind.resolve_left nofun
        exact Or.inr ⟨⟨⟨member, rfl⟩, search, rfl⟩, fun kit => nomatch kit.2⟩
  union := by
    intro user
    rcases eq_or_ne user 0 with rfl | real
    · exact List.Perm.refl _
    · have rest : listing s user (some "filter") =
          (listing s user none).filter (fun favorite => !favorite.kitId.isSome) := by
        rw [listing_filter real]
        apply List.filter_congr
        intro favorite member
        rw [listing_untyped real] at member
        have kind := (listed favorite (List.mem_filter.mp member).1).2
        cases held : favorite.kitId with
        | some kitId => simp
        | none =>
            rw [held] at kind
            simpa using kind.resolve_left nofun
      rw [rest, listing_kit real]
      exact (List.filter_append_perm _ _).symm
  disjoint := by
    intro user favorite kit search
    rcases eq_or_ne user 0 with rfl | real
    · cases kit
    · have held := ((mem_listing_kit real).mp kit).2
      rw [((mem_listing_filter real).mp search).2.2] at held
      cases held

private theorem classified_iff :
    Classified s ↔ ∀ favorite ∈ s.db.favorites.rows, Listed favorite :=
  ⟨listed_of_classified, classified_of_listed⟩

private theorem classified_deleteSelected (classified : Classified s) (session : Session)
    (selected : Favorite → Bool) : Classified (deleteSelected session s selected).2 := by
  rcases deleteSelected_removes session s selected with kept | ⟨gone, removed⟩
  · rw [kept]
    exact classified
  · rw [removed]
    refine classified_iff.mpr ?_
    intro row present
    exact classified_iff.mp classified row (Table.mem_remove.mp present).1

/-- The check of the POST is that the new row is of one of the kinds. -/
private theorem classified_addFavorite (classified : Classified s) (session : Session)
    (body : AddFavoriteBody) : Classified (addFavorite server.engine session s body).2 := by
  cases login : session.user with
  | none =>
      rw [addFavorite_eq, loginRequired_none login]
      exact classified
  | some owner =>
      rcases addFavorite_cases server.engine s login body with ⟨-, -, kept⟩ | ⟨allowed, added⟩
      · rw [kept]
        exact classified
      · rw [added]
        refine classified_iff.mpr ?_
        intro row present
        have member : row ∈
            (s.db.favorites.insertNew (newFavorite owner body) (fun _ => rfl)).rows := present
        rcases Table.mem_insertNew.mp member with old | rfl
        · exact classified_iff.mp classified row old
        · simp only [favoriteAllowed, Bool.and_eq_true, Bool.or_eq_true] at allowed
          exact ⟨user_ne_zero login, allowed.1.1⟩

/-- A favorite whose kit is deleted stays of a kind exactly if it is not only for this kit. -/
private theorem listed_release_iff {favorite : Favorite} (listed : Listed favorite) (kitId : Nat) :
    Listed (releaseFavorite kitId favorite) ↔
      (favorite.kitId = some kitId → favorite.filterJson.isSome = true) := by
  obtain ⟨real, kind⟩ := listed
  have unfolded : Listed (releaseFavorite kitId favorite) ↔ favorite.userId ≠ 0 ∧
      ((favorite.kitId.filter (fun id => id ≠ kitId)).isSome = true ∨
        favorite.filterJson.isSome = true) := Iff.rfl
  rw [unfolded]
  cases held : favorite.kitId with
  | none =>
      rw [held] at kind
      simp [real, kind.resolve_left nofun]
  | some id =>
      by_cases same : id = kitId
      · simp [real, same]
      · simp [real, same, Option.filter_some]

private theorem classified_deleteKit_iff (classified : Classified s) (session : Session)
    (id : Nat) :
    Classified (deleteKit session s id).2 ↔
      ReleasesSearchesOnly s (.kit ⟨session, .deleteKit id⟩) := by
  have before := classified_iff.mp classified
  change _ ↔ (deletesKit session s.db id = true → ∀ favorite ∈ s.db.favorites.rows,
    favorite.kitId = some id → favorite.filterJson.isSome = true)
  rcases deleteKit_cases session s id with ⟨refused, -, kept⟩ | ⟨accepted, deleted⟩
  · rw [kept, refused]
    exact iff_of_true classified nofun
  · rw [deleted, accepted, classified_iff]
    simp only [true_implies]
    constructor
    · intro after favorite member
      have released : releaseFavorite id favorite ∈
          (s.db.favorites.modify (releaseFavorite id) (fun _ => rfl)).rows :=
        List.mem_map_of_mem member
      exact (listed_release_iff (before favorite member) id).mp (after _ released)
    · intro searches row present
      obtain ⟨favorite, member, rfl⟩ := List.mem_map.mp present
      exact (listed_release_iff (before favorite member) id).mpr (searches favorite member)

private theorem classified_step_iff (request : SiteRequest) (classified : Classified s) :
    Classified (siteStep libraries server s request) ↔ ReleasesSearchesOnly s request := by
  induction request using favorites_cases with
  | add session body =>
      exact iff_of_true (classified_addFavorite classified session body) trivial
  | deleteByCharacter session kitId =>
      exact iff_of_true (classified_deleteSelected classified session _) trivial
  | delete session id =>
      exact iff_of_true (classified_deleteSelected classified session _) trivial
  | deleteKit session id => exact classified_deleteKit_iff classified session id
  | quiet request quiet =>
      refine iff_of_true ?_ ?_
      · rw [classified_iff, siteStep_favorites quiet]
        exact classified_iff.mp classified
      · unfold ReleasesSearchesOnly
        split
        · cases quiet
        · trivial

end Kinds

/-- The administrator deletes a kit. -/
def dropFromShop (kitId : Nat) : SiteRequest := .kit ⟨administrator, .deleteKit kitId⟩

/-- From a state in which every favorite is of a kind, such as an empty table, every state of a
run has every favorite in exactly one typed listing exactly if each kit that is deleted is the
kit of no favorite that is not also a search. -/
theorem classified_along_iff (libraries : Libraries) (server : Server) (s : State)
    (requests : List SiteRequest) (start : Classified s) :
    Along (siteStep libraries server) Classified s requests ↔
      EachStep (siteStep libraries server) ReleasesSearchesOnly s requests := by
  refine along_iff_eachStep_of_law ?_ start requests
  intro t request classified
  exact classified_step_iff request classified

theorem kit_without_favorites_is_deleted :
    Along (siteStep plainLibraries sampleServer) Classified (shelfOnly 3)
      [addKit 1, dropKit 1, dropFromShop 1] := by
  have start : Classified (shelfOnly 3) := classified_iff.mpr fun favorite member => nomatch member
  refine (classified_along_iff plainLibraries sampleServer (shelfOnly 3) _ start).mpr ?_
  refine eachStep_cons.mpr ⟨trivial, eachStep_cons.mpr ⟨trivial, eachStep_cons.mpr ⟨?_, ?_⟩⟩⟩
  · intro _ favorite member
    have none : (siteStep plainLibraries sampleServer (siteStep plainLibraries sampleServer
        (shelfOnly 3) (addKit 1)) (dropKit 1)).db.favorites.rows = [] := by decide
    rw [none] at member
    cases member
  · exact eachStep_nil _ _

/-- The favorite of a deleted kit stays as a row that only the untyped listing shows. -/
theorem favorite_of_deleted_kit_is_unclassified :
    (shelfOnly 3).db.favorites.rows = [] ∧
      listing (run (siteStep plainLibraries sampleServer) (shelfOnly 3)
        [addKit 1, dropFromShop 1]) 1 none = [⟨1, 1, none, none, none⟩] ∧
      listing (run (siteStep plainLibraries sampleServer) (shelfOnly 3)
        [addKit 1, dropFromShop 1]) 1 (some "kit") = [] ∧
      listing (run (siteStep plainLibraries sampleServer) (shelfOnly 3)
        [addKit 1, dropFromShop 1]) 1 (some "filter") = [] ∧
      ¬ Classified (run (siteStep plainLibraries sampleServer) (shelfOnly 3)
        [addKit 1, dropFromShop 1]) := by
  refine ⟨rfl, by decide, by decide, by decide, ?_⟩
  intro classified
  have perm := classified.union 1
  exact absurd perm.length_eq (by decide)

end ProductSite.Personal.Favorites
