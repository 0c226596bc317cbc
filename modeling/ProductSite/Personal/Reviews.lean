/- Module: ProductSite/Personal/Reviews
   source: backend/app/routes/review_routes.py, backend/app/models/review.py,
     backend/app/models/kits.py, backend/app/schemas/review_schema.py
   digest: The reviews are a map from kit and user to the latest review; when ratings stay within
     the five stars. -/

import Mathlib.Algebra.Order.BigOperators.Group.List
import Mathlib.Algebra.Order.Field.Rat
import Mathlib.Order.Monotone.Defs
import ProductSite.Backend.PersonalRoutes
import ProductSite.Browse.Kits
import ProductSite.Foundation.TableMap

set_option autoImplicit false
set_option relaxedAutoImplicit false

namespace ProductSite.Personal.Reviews

open ProductSite.Foundation.Clashes (Apart)
open ProductSite.Foundation.KeyedTable (Table)
open ProductSite.Foundation.Runs
open ProductSite.Foundation.TableMap
open ProductSite.Backend.CartRoutes (userAllowed)
open ProductSite.Backend.InventoryRoutes (kitAllowed)
open ProductSite.Backend.Listings
open ProductSite.Backend.Models
open ProductSite.Backend.PersonalRoutes
open ProductSite.Backend.Requests (customer shelfOnly)
open ProductSite.Browse.Kits (plainPlatform)

inductive ReviewRequest where
  | post (kitId : Nat) (body : ReviewBody)
  | delete (kitId : Nat)

def ReviewRequest.kitId : ReviewRequest → Nat
  | .post kitId _ => kitId
  | .delete kitId => kitId

structure ReviewCall where
  session : Session
  request : ReviewRequest

def reviewStep (engine : Engine) (s : State) (call : ReviewCall) : State :=
  match call.request with
  | .post kitId body => (createOrUpdateReview engine call.session s kitId body).2
  | .delete kitId => (deleteOwnReview call.session s kitId).2

section Map

/-- What a review says; its ages are a set. -/
structure Content where
  rating : Int
  comment : Option String
  lengthOfPlay : Option String
  ages : Set Nat

def pairOf (review : Review) : Nat × Nat := (review.kitId, review.userId)

def contentOf (review : Review) : Content :=
  ⟨review.rating, review.comment, review.lengthOfPlay, {id | id ∈ review.age}⟩

/-- What a POST asks for: the comment is empty without one, and of the ages those count that
exist. -/
def requested (options : Table KitOption.id) (body : ReviewBody) : Content where
  rating := body.rating.get.getD 0
  comment := body.comment.getD ""
  lengthOfPlay := body.lengthOfPlay.get
  ages := {id | id ∈ body.ageIds.get.getD [] ∧ (options.get? id).isSome = true}

/-- The pair that a request is for. -/
def target (call : ReviewCall) : Option (Nat × Nat) :=
  call.session.user.map (fun user => (call.request.kitId, user))

/-- What a request leaves for its pair. -/
def effect (options : Table KitOption.id) (call : ReviewCall) : Option Content :=
  match call.request with
  | .post _ body => some (requested options body)
  | .delete _ => none

/-- The content of the last POST for a pair, unless a DELETE followed it. -/
def latestReview (options : Table KitOption.id) (calls : List ReviewCall) :
    Nat × Nat → Option Content :=
  latest target (effect options) calls

/-- A request of an existing user for an existing kit; a POST has a rating other than 0, and a
list of ages if it has the key. -/
structure Proper (db : Database) (call : ReviewCall) : Prop where
  user : ∃ user, call.session.user = some user ∧ (db.users.get? user).isSome = true
  kit : (db.kits.get? call.request.kitId).isSome = true
  body : ∀ kitId body, call.request = .post kitId body →
    (∃ rating, body.rating = .value rating ∧ rating ≠ 0) ∧ body.ageIds ≠ .null

variable {engine : Engine} {s t : State}

private theorem contentOf_reviewRow {kitId user : Nat} {rating : Int} {body : ReviewBody}
    {ids : List Nat} (readable : ReviewReadable kitId body rating ids) (id : Nat) :
    contentOf (reviewRow kitId user rating body (existingOptions s.db.ageOptions ids) id) =
      requested s.db.ageOptions body := by
  have ages : ids = body.ageIds.get.getD [] := by
    have read := readable.ages
    cases field : body.ageIds with
    | absent => rw [field] at read; cases read; rfl
    | null => rw [field] at read; cases read
    | value list => rw [field] at read; cases read; rfl
  have rated : body.rating.get.getD 0 = rating := by
    rw [readable.rated]
    rfl
  simp only [contentOf, reviewRow, requested, rated, Content.mk.injEq, true_and]
  ext id
  rw [← ages]
  exact mem_existingOptions

private theorem findReview_iff (apart : Apart (SamePlace pairOf) s.db.reviews) {kitId user : Nat}
    {review : Review} :
    findReview s.db kitId user = some review ↔
      review ∈ s.db.reviews.rows ∧ pairOf review = (kitId, user) := by
  have selects : ∀ row other : Review,
      (decide (row.kitId = kitId) && decide (row.userId = user)) = true →
      (decide (other.kitId = kitId) && decide (other.userId = user)) = true →
      SamePlace pairOf row other := by
    intro row other first second
    simp only [Bool.and_eq_true, decide_eq_true_eq] at first second
    simp only [SamePlace, pairOf, first, second]
  rw [findReview, apart.first_eq_some_iff selects]
  simp only [Bool.and_eq_true, decide_eq_true_eq, pairOf, Prod.mk.injEq]

private theorem free_of_missing (apart : Apart (SamePlace pairOf) s.db.reviews)
    {kitId user : Nat} (missing : findReview s.db kitId user = none) :
    ∀ row ∈ s.db.reviews.rows, pairOf row ≠ (kitId, user) := by
  intro row member here
  have found := (findReview_iff apart).mpr ⟨member, here⟩
  rw [missing] at found
  cases found

private theorem writes_post (engine : Engine) (apart : Apart (SamePlace pairOf) s.db.reviews)
    {session : Session} {user : Nat} (login : session.user = some user)
    (stored : (s.db.users.get? user).isSome = true) {kitId : Nat} {body : ReviewBody}
    (proper : Proper s.db ⟨session, .post kitId body⟩) :
    ∃ table, (createOrUpdateReview engine session s kitId body).2 = withReviews s table ∧
      Writes pairOf contentOf s.db.reviews table (kitId, user)
        (some (requested s.db.ageOptions body)) := by
  obtain ⟨⟨rating, rated, nonzero⟩, listed⟩ := proper.body kitId body rfl
  obtain ⟨kit, kitFound⟩ := Option.isSome_iff_exists.mp proper.kit
  obtain ⟨ids, ages⟩ : ∃ ids, body.ageIds.getD [] = some ids := by
    cases field : body.ageIds with
    | absent => exact ⟨[], rfl⟩
    | null => exact absurd field listed
    | value list => exact ⟨list, rfl⟩
  have readable : ReviewReadable kitId body rating ids :=
    ⟨rated, nonzero, (Table.positive_of_get? kitFound).ne', ages⟩
  have row : ∀ id, contentOf (reviewRow kitId user rating body
      (existingOptions s.db.ageOptions ids) id) = requested s.db.ageOptions body :=
    contentOf_reviewRow readable
  rw [createOrUpdateReview_readable engine s login readable]
  rcases storeReview_cases engine s kitId user rating body (existingOptions s.db.ageOptions ids)
    with ⟨review, found, after⟩ | ⟨missing, -, after⟩ | ⟨refused, -⟩
  · obtain ⟨present, here⟩ := (findReview_iff apart).mp found
    rw [after]
    refine ⟨_, rfl, ?_⟩
    rw [← row review.id]
    have stored := Table.get?_of_mem present
    exact writes_save apart stored here rfl
  · rw [after]
    refine ⟨_, rfl, ?_⟩
    rw [← row s.db.reviews.nextKey]
    exact writes_insertNew (fun _ => rfl) (free_of_missing apart missing) rfl
  · have allowed : (userAllowed engine s.db user && kitAllowed engine s.db kitId) = true := by
      have kitStored : (s.db.kits.get? kitId).isSome = true := proper.kit
      simp [userAllowed, kitAllowed, stored, kitStored]
    rw [allowed] at refused
    cases refused

private theorem writes_delete (apart : Apart (SamePlace pairOf) s.db.reviews) {session : Session}
    {user : Nat} (login : session.user = some user) (kitId : Nat) :
    ∃ table, (deleteOwnReview session s kitId).2 = withReviews s table ∧
      Writes pairOf contentOf s.db.reviews table (kitId, user) none := by
  rcases deleteOwnReview_cases s login kitId with ⟨missing, -, kept⟩ | ⟨review, found, removed⟩
  · exact ⟨s.db.reviews, kept, writes_nothing (free_of_missing apart missing)⟩
  · obtain ⟨present, here⟩ := (findReview_iff apart).mp found
    rw [removed]
    exact ⟨_, rfl, writes_removeKey apart (Table.get?_of_mem present) here⟩

/-- A proper request writes the place of its pair, and no other table. -/
private theorem reviewStep_writes (apart : Apart (SamePlace pairOf) s.db.reviews)
    (call : ReviewCall) (proper : Proper s.db call) :
    ∃ table pair, reviewStep engine s call = withReviews s table ∧ target call = some pair ∧
      Writes pairOf contentOf s.db.reviews table pair (effect s.db.ageOptions call) := by
  obtain ⟨session, request⟩ := call
  obtain ⟨user, login, stored⟩ := proper.user
  have aimed : target ⟨session, request⟩ = some (request.kitId, user) := by
    rw [target, login]
    rfl
  cases request with
  | post kitId body =>
      obtain ⟨table, after, writes⟩ := writes_post engine apart login stored proper
      exact ⟨table, _, after, aimed, writes⟩
  | delete kitId =>
      obtain ⟨table, after, writes⟩ := writes_delete apart login kitId
      exact ⟨table, _, after, aimed, writes⟩

/-- The reviews are the map of the latest ones: at most one row for a pair, with the content of
the last POST that no DELETE followed, and as many for a kit as it has pairs. -/
structure IsLatest (options : Table KitOption.id) (handled : List ReviewCall) (t : State) :
    Prop where
  unique : ∀ review ∈ t.db.reviews.rows, ∀ other ∈ t.db.reviews.rows,
    review.kitId = other.kitId → review.userId = other.userId → review = other
  stored : ∀ kitId user content, latestReview options handled (kitId, user) = some content ↔
    ∃ review ∈ t.db.reviews.rows, review.kitId = kitId ∧ review.userId = user ∧
      contentOf review = content
  count : ∀ kit : Kit, reviewCount t.db kit =
    Set.ncard {pair | pair.1 = kit.id ∧ (latestReview options handled pair).isSome = true}

/-- The rows of all other pairs are the same before and after a request. -/
def LeavesOthers (engine : Engine) (t : State) (call : ReviewCall) : Prop :=
  ∀ review, some (pairOf review) ≠ target call →
    (review ∈ (reviewStep engine t call).db.reviews.rows ↔ review ∈ t.db.reviews.rows)

private theorem isLatest_of_represents {options : Table KitOption.id} {handled : List ReviewCall}
    (represents : Represents pairOf contentOf t.db.reviews (latestReview options handled)) :
    IsLatest options handled t where
  unique := by
    intro review member other present kits users
    exact represents.apart review member other present (Prod.ext kits users)
  stored := by
    intro kitId user content
    rw [represents.stored]
    simp only [pairOf, Prod.mk.injEq, and_assoc]
  count := by
    intro kit
    have counted := represents.count (fun pair => decide (pair.1 = kit.id))
    simp only [decide_eq_true_eq] at counted
    exact counted

private theorem leavesOthers_of_writes {call : ReviewCall} {pair : Nat × Nat}
    {content : Option Content} (aimed : target call = some pair)
    (writes : Writes pairOf contentOf t.db.reviews (reviewStep engine t call).db.reviews pair
      content) : LeavesOthers engine t call := by
  intro review elsewhere
  refine writes.others review ?_
  intro here
  exact elsewhere (by rw [aimed, here])

end Map

/-- From an empty table, after every number of requests of existing users for existing kits, the
reviews are the map of the latest ones, and no request changes the row of another pair. -/
theorem reviews_are_latest (engine : Engine) (s : State) (calls : List ReviewCall)
    (empty : s.db.reviews.rows = []) (proper : ∀ call ∈ calls, Proper s.db call) :
    (∀ handled, handled <+: calls →
      IsLatest s.db.ageOptions handled (run (reviewStep engine) s handled)) ∧
    EachStep (reviewStep engine) (LeavesOthers engine) s calls := by
  -- only the reviews are written, so the requests stay proper and the ages stay the same
  have step : ∀ t call, call ∈ calls → (∃ table, t = withReviews s table) →
      Apart (SamePlace pairOf) t.db.reviews →
      (∃ table, reviewStep engine t call = withReviews s table) ∧
        ∃ pair, target call = some pair ∧ Writes pairOf contentOf t.db.reviews
          (reviewStep engine t call).db.reviews pair (effect s.db.ageOptions call) := by
    rintro _ call asked ⟨before, rfl⟩ apart
    obtain ⟨user, kit, body⟩ := proper call asked
    have still : Proper (withReviews s before).db call := ⟨user, kit, body⟩
    obtain ⟨table, pair, after, aimed, writes⟩ := reviewStep_writes apart call still
    rw [after]
    exact ⟨⟨table, rfl⟩, pair, aimed, writes⟩
  have start : ∃ table, s = withReviews s table := ⟨s.db.reviews, rfl⟩
  obtain ⟨framed, represents⟩ := represents_latest (fun t : State => t.db.reviews)
    (fun t => ∃ table, t = withReviews s table) start empty step
  refine ⟨fun handled here => isLatest_of_represents (represents handled here), ?_⟩
  intro handled call here
  have before := (List.prefix_append handled [call]).trans here
  have asked : call ∈ calls := here.subset (by simp)
  obtain ⟨-, pair, aimed, writes⟩ :=
    step _ call asked (framed handled before) (represents handled before).apart
  exact leavesOthers_of_writes aimed writes

/-- The customer rates the only kit. -/
def rate (rating : Int) : ReviewCall :=
  ⟨customer, .post 1 ⟨.value rating, .absent, .absent, .absent⟩⟩

theorem second_review_replaces_the_first :
    IsLatest (shelfOnly 3).db.ageOptions [rate 5, rate 4]
        (run (reviewStep .mysql) (shelfOnly 3) [rate 5, rate 4]) ∧
      (run (reviewStep .mysql) (shelfOnly 3) [rate 5, rate 4]).db.reviews.rows =
        [⟨1, 1, 1, 4, some "", none, []⟩] := by
  have proper : ∀ call ∈ [rate 5, rate 4], Proper (shelfOnly 3).db call := by
    have each : ∀ rating : Int, rating ≠ 0 → Proper (shelfOnly 3).db (rate rating) := by
      intro rating nonzero
      refine ⟨⟨1, rfl, rfl⟩, rfl, ?_⟩
      rintro kitId body ⟨⟩
      exact ⟨⟨rating, rfl, nonzero⟩, nofun⟩
    intro call member
    rcases List.mem_pair.mp member with rfl | rfl
    · exact each 5 (by decide)
    · exact each 4 (by decide)
  have latest := (reviews_are_latest .mysql (shelfOnly 3) [rate 5, rate 4] rfl proper).1
  exact ⟨latest _ List.prefix_rfl, by decide⟩

section Stars

/-- The rounding of averages keeps their order and the whole numbers one and five. -/
structure RoundsStars (platform : Platform) : Prop where
  monotone : Monotone platform.roundTenth
  one : platform.roundTenth 1 = 1
  five : platform.roundTenth 5 = 5

/-- Every rating is between one and five, and so is every average. -/
structure InStars (platform : Platform) (s : State) : Prop where
  ratings : ∀ review ∈ s.db.reviews.rows, 1 ≤ review.rating ∧ review.rating ≤ 5
  averages : ∀ kit average, averageRating platform s.db kit = some average →
    1 ≤ average ∧ average ≤ 5

def Accepted (engine : Engine) (s : State) (call : ReviewCall) : Prop :=
  match call.request with
  | .post kitId body => (createOrUpdateReview engine call.session s kitId body).1.fetchOk = true
  | .delete kitId => (deleteOwnReview call.session s kitId).1.fetchOk = true

/-- A POST gives from one to five stars. -/
def GivesStars (call : ReviewCall) : Prop :=
  match call.request with
  | .post _ body => ∀ rating, body.rating.get = some rating → 1 ≤ rating ∧ rating ≤ 5
  | .delete _ => True

variable {platform : Platform} {engine : Engine} {s : State}

private theorem exactAverage_bounds (db : Database) (kit : Kit)
    (ratings : ∀ review ∈ db.reviews.rows, 1 ≤ review.rating ∧ review.rating ≤ 5) {average : ℚ}
    (given : exactAverage db kit = some average) : 1 ≤ average ∧ average ≤ 5 := by
  unfold exactAverage at given
  split at given
  · cases given
  · rename_i some
    have within : ∀ rating ∈ (reviewsOf db kit).map Review.rating, 1 ≤ rating ∧ rating ≤ 5 := by
      intro rating member
      obtain ⟨review, listed, rfl⟩ := List.mem_map.mp member
      exact ratings review (List.mem_filter.mp listed).1
    have low := List.card_nsmul_le_sum _ 1 fun rating member => (within rating member).1
    have high := List.sum_le_card_nsmul _ 5 fun rating member => (within rating member).2
    have many : 0 < ((reviewsOf db kit).length : ℚ) := by
      exact_mod_cast List.length_pos_iff.mpr some
    rw [List.length_map, nsmul_eq_mul] at low high
    cases given
    rw [le_div_iff₀ many, div_le_iff₀ many]
    constructor
    · rw [one_mul]
      exact_mod_cast (by simpa using low)
    · rw [mul_comm]
      exact_mod_cast high

/-- The averages follow from the ratings. -/
private theorem inStars_iff (rounds : RoundsStars platform) :
    InStars platform s ↔
      ∀ review ∈ s.db.reviews.rows, 1 ≤ review.rating ∧ review.rating ≤ 5 := by
  constructor
  · exact InStars.ratings
  · intro ratings
    refine ⟨ratings, ?_⟩
    intro kit average shown
    obtain ⟨exact, given, rfl⟩ := Option.map_eq_some_iff.mp shown
    obtain ⟨low, high⟩ := exactAverage_bounds s.db kit ratings given
    have atLeast := rounds.monotone low
    have atMost := rounds.monotone high
    rw [rounds.one] at atLeast
    rw [rounds.five] at atMost
    exact ⟨atLeast, atMost⟩

/-- An accepted POST leaves its row in the table, and otherwise rows that were there. -/
private theorem post_rows {session : Session} {kitId : Nat} {body : ReviewBody}
    (accepted : (createOrUpdateReview engine session s kitId body).1.fetchOk = true) :
    ∃ row : Review, body.rating = .value row.rating ∧
      row ∈ (createOrUpdateReview engine session s kitId body).2.db.reviews.rows ∧
      ∀ review ∈ (createOrUpdateReview engine session s kitId body).2.db.reviews.rows,
        review = row ∨ review ∈ s.db.reviews.rows := by
  cases login : session.user with
  | none =>
      rw [createOrUpdateReview, loginRequired, login] at accepted
      cases accepted
  | some user =>
      rcases createOrUpdateReview_cases engine s login kitId body with
        ⟨refused, -⟩ | ⟨rating, ids, readable⟩
      · rw [refused] at accepted
        cases accepted
      · rw [createOrUpdateReview_readable engine s login readable] at accepted ⊢
        rcases storeReview_cases engine s kitId user rating body
            (existingOptions s.db.ageOptions ids) with
          ⟨review, found, after⟩ | ⟨-, -, after⟩ | ⟨-, raised⟩
        · have stored := (findReview_eq_some found).1
          rw [after]
          refine ⟨_, readable.rated, Table.mem_save.mpr (Or.inl ⟨rfl, review,
            (Table.get?_eq_some_iff.mp stored).1, rfl⟩), ?_⟩
          intro other present
          rcases Table.mem_save.mp present with ⟨rfl, -⟩ | ⟨old, -⟩
          · exact Or.inl rfl
          · exact Or.inr old
        · rw [after]
          let inserted := reviewRow kitId user rating body (existingOptions s.db.ageOptions ids)
          have members : ∀ review : Review,
              review ∈ (s.db.reviews.insertNew inserted (fun _ => rfl)).rows ↔
                review ∈ s.db.reviews.rows ∨ review = inserted s.db.reviews.nextKey :=
            fun _ => Table.mem_insertNew
          refine ⟨_, readable.rated, (members _).mpr (Or.inr rfl), ?_⟩
          intro other present
          exact ((members other).mp present).symm
        · rw [raised] at accepted
          cases accepted

private theorem inStars_step_iff (rounds : RoundsStars platform) (call : ReviewCall)
    (before : InStars platform s) (accepted : Accepted engine s call) :
    InStars platform (reviewStep engine s call) ↔ GivesStars call := by
  rw [inStars_iff rounds]
  obtain ⟨session, request⟩ := call
  cases request with
  | post kitId body =>
      obtain ⟨row, rated, stored, rest⟩ := post_rows accepted
      constructor
      · intro after rating given
        rw [rated] at given
        cases given
        exact after row stored
      · intro stars review member
        rcases rest review member with rfl | old
        · exact stars review.rating (by rw [rated]; rfl)
        · exact before.ratings review old
  | delete kitId =>
      refine iff_of_true ?_ trivial
      have kept : ∀ review ∈ (deleteOwnReview session s kitId).2.db.reviews.rows,
          review ∈ s.db.reviews.rows := by
        intro review member
        cases login : session.user with
        | none =>
            rw [deleteOwnReview, loginRequired_none login] at member
            exact member
        | some user =>
            rcases deleteOwnReview_cases s login kitId with ⟨-, -, same⟩ | ⟨_, -, removed⟩
            · rw [same] at member
              exact member
            · rw [removed] at member
              exact (Table.mem_remove.mp member).1
      intro review member
      exact before.ratings review (kept review member)

end Stars

/-- For every run of accepted requests, ratings and averages stay within the five stars exactly
if every POST of the run gives from one to five. -/
theorem ratings_in_stars_iff (platform : Platform) (rounds : RoundsStars platform)
    (engine : Engine) (s : State) (calls : List ReviewCall) (start : InStars platform s)
    (accepted : EachStep (reviewStep engine) (Accepted engine) s calls) :
    Along (reviewStep engine) (InStars platform) s calls ↔ ∀ call ∈ calls, GivesStars call := by
  have stepwise : Along (reviewStep engine) (InStars platform) s calls ↔
      EachStep (reviewStep engine) (fun _ call => GivesStars call) s calls := by
    refine along_iff_eachStep ?_ start accepted
    intro t call before admitted
    exact inStars_step_iff rounds call before admitted
  rw [stepwise, eachStep_const_iff]

private theorem roundsStars_plainPlatform : RoundsStars plainPlatform := ⟨monotone_id, rfl, rfl⟩

theorem five_stars_then_four :
    Along (reviewStep .sqlite) (InStars plainPlatform) (shelfOnly 3)
      [rate 5, rate 4] := by
  have start : InStars plainPlatform (shelfOnly 3) :=
    (inStars_iff roundsStars_plainPlatform).mpr fun review member => nomatch member
  have accepted : EachStep (reviewStep .sqlite) (Accepted .sqlite) (shelfOnly 3)
      [rate 5, rate 4] :=
    eachStep_cons.mpr ⟨rfl, eachStep_cons.mpr ⟨rfl, eachStep_nil _ _⟩⟩
  have rounds := roundsStars_plainPlatform
  refine (ratings_in_stars_iff _ rounds .sqlite (shelfOnly 3) _ start accepted).mpr ?_
  intro call member
  rcases List.mem_pair.mp member with rfl | rfl
  · rintro rating ⟨⟩
    decide
  · rintro rating ⟨⟩
    decide

/-- The first request of an empty table gives nine stars, and is answered with 200. -/
theorem nine_stars_are_stored :
    (shelfOnly 3).db.reviews.rows = [] ∧
      (createOrUpdateReview .sqlite customer (shelfOnly 3) 1
        ⟨.value 9, .absent, .absent, .absent⟩).1 = .ok 200 ⟨1, 1, 1, 9, some "", none, []⟩ ∧
      (run (reviewStep .sqlite) (shelfOnly 3) [rate 9]).db.reviews.rows =
        [⟨1, 1, 1, 9, some "", none, []⟩] ∧
      ¬ InStars plainPlatform
        (run (reviewStep .sqlite) (shelfOnly 3) [rate 9]) := by
  have rows : (run (reviewStep .sqlite) (shelfOnly 3) [rate 9]).db.reviews.rows =
      [⟨1, 1, 1, 9, some "", none, []⟩] := by decide
  refine ⟨rfl, by decide, rows, ?_⟩
  intro inside
  have stars := inside.ratings ⟨1, 1, 1, 9, some "", none, []⟩ (by rw [rows]; simp)
  exact absurd stars.2 (by decide)

end ProductSite.Personal.Reviews
