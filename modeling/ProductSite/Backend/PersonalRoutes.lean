/- Module: ProductSite/Backend/PersonalRoutes
   source: backend/app/routes/favorite_routes.py, backend/app/routes/review_routes.py,
     backend/app/routes/shipping_address_routes.py, backend/app/routes/purchase_routes.py
   digest: The endpoints of the rows that belong to users: favorites, reviews, addresses, orders. -/

import ProductSite.Backend.CartRoutes
import ProductSite.Backend.PurchaseSaving

set_option autoImplicit false
set_option relaxedAutoImplicit false

namespace ProductSite.Backend.PersonalRoutes

open ProductSite.Foundation.KeyedTable (Table)
open ProductSite.Foundation.Wire (JsonField Reply)
open ProductSite.Backend.Models
open ProductSite.Backend.CartRoutes (userAllowed)
open ProductSite.Backend.InventoryRoutes (kitAllowed)
open ProductSite.Backend.PurchaseRoutes
open ProductSite.Backend.PurchaseSaving

section Favorites

def withFavorites (s : State) (table : Table Favorite.id) : State :=
  { s with db := { s.db with favorites := table } }

def getFavorites (session : Session) (s : State) (type : Option String) :
    Reply (List Favorite) × State :=
  loginRequired session s fun user =>
    let own := s.db.favorites.rows.filter (fun favorite => favorite.userId = user)
    (.ok 200 (
      if type = some "filter" then
        own.filter (fun favorite => favorite.filterJson.isSome && favorite.kitId.isNone)
      else if type = some "kit" then own.filter (fun favorite => favorite.kitId.isSome)
      else own), s)

/-- The body of `add_favorite`, by what may stand under the two keys of the filters. -/
structure FavoriteBody (φ : Type) where
  kitId : JsonField Nat
  characterId : JsonField Nat
  filterJson : JsonField φ
  filterData : JsonField φ
  name : JsonField String

section AddFavorite

variable {φ : Type} (truthy : φ → Bool)

/-- `data.get('kit_id') or data.get('character_id')`, with 0 read as None. -/
def FavoriteBody.kit (body : FavoriteBody φ) : Option Nat :=
  (body.kitId.get.filter (fun id => id ≠ 0) <|> body.characterId.get).filter (fun id => id ≠ 0)

/-- `data.get('filter_json') or data.get('filter_data')`, with what is falsy read as None. -/
def FavoriteBody.filters (body : FavoriteBody φ) : Option φ :=
  (body.filterJson.get.filter truthy <|> body.filterData.get).filter truthy

/-- `add_favorite`, with the parameter of the statement for the text column, which is none when
the driver raises. `hasattr(Favorite, 'name')` is false, so the name is dropped. -/
def addFavoriteOf (bind : φ → Option String) (engine : Engine) (session : Session) (s : State)
    (body : FavoriteBody φ) : Reply Favorite × State :=
  loginRequired session s fun user =>
    if body.kit.isNone && (body.filters truthy).isNone then
      (.error 400 "Either kit_id/character_id or filter_json/filter_data is required." [], s)
    else
      match (body.filters truthy).mapM bind with
      | none => (.raised, s)
      | some search =>
          if userAllowed engine s.db user && body.kit.all (kitAllowed engine s.db) then
            (.ok 201 ⟨s.db.favorites.nextKey, user, body.kit, search, none⟩,
              withFavorites s (s.db.favorites.insertNew
                (fun id => ⟨id, user, body.kit, search, none⟩) (fun _ => rfl)))
          else (.raised, s)

end AddFavorite

/-- A body whose filters are texts. -/
abbrev AddFavoriteBody := FavoriteBody String

def AddFavoriteBody.search (body : AddFavoriteBody) : Option String :=
  body.filters (fun text => text ≠ "")

/-- A text is bound as it is. -/
def addFavorite : Engine → Session → State → AddFavoriteBody → Reply Favorite × State :=
  addFavoriteOf (fun text => text ≠ "") some

def newFavorite (user : Nat) (body : AddFavoriteBody) (id : Nat) : Favorite :=
  ⟨id, user, body.kit, body.search, none⟩

theorem addFavorite_eq (engine : Engine) (session : Session) (s : State) (body : AddFavoriteBody) :
    addFavorite engine session s body = loginRequired session s fun user =>
      if body.kit.isNone && body.search.isNone then
        (.error 400 "Either kit_id/character_id or filter_json/filter_data is required." [], s)
      else if userAllowed engine s.db user && body.kit.all (kitAllowed engine s.db) then
        (.ok 201 (newFavorite user body s.db.favorites.nextKey),
          withFavorites s (s.db.favorites.insertNew (newFavorite user body) (fun _ => rfl)))
      else (.raised, s) := by
  have bound : ∀ search : Option String, search.mapM some = some search := by
    intro search
    cases search <;> rfl
  rw [addFavorite, addFavoriteOf, bound]
  rfl

/-- Delete the first of the user's favorites that is selected. -/
def deleteSelected (session : Session) (s : State) (selected : Favorite → Bool) :
    Reply String × State :=
  loginRequired session s fun user =>
    match s.db.favorites.first (fun favorite => favorite.userId = user && selected favorite) with
    | none => (.error 404 "Favorite not found" [], s)
    | some favorite =>
        (.ok 200 "Favorite deleted",
          withFavorites s (s.db.favorites.remove (fun row => row.id = favorite.id)))

def deleteFavoriteByCharacter (session : Session) (s : State) (characterId : Nat) :
    Reply String × State :=
  deleteSelected session s (fun favorite => favorite.kitId = some characterId)

def deleteFavorite (session : Session) (s : State) (favoriteId : Nat) : Reply String × State :=
  deleteSelected session s (fun favorite => favorite.id = favoriteId)

/-- What a body can hold under a filter key: a text, or an object with keys. -/
inductive FilterValue (φ : Type) where
  | text (value : String)
  | object (value : φ)

def FilterValue.truthy {φ : Type} : FilterValue φ → Bool
  | .text value => value ≠ ""
  | .object _ => true

def FilterValue.bind {φ : Type} (bindObject : φ → Option String) : FilterValue φ → Option String
  | .text value => some value
  | .object value => bindObject value

end Favorites

section Reviews

def withReviews (s : State) (table : Table Review.id) : State :=
  { s with db := { s.db with reviews := table } }

structure ReviewBody where
  rating : JsonField Int
  comment : JsonField String
  ageIds : JsonField (List Nat)
  lengthOfPlay : JsonField String

def findReview (db : Database) (kitId user : Nat) : Option Review :=
  db.reviews.first (fun review => review.kitId = kitId && review.userId = user)

/-- The ids of the options that exist among the requested ones. -/
def existingOptions (options : Table KitOption.id) (ids : List Nat) : List Nat :=
  (options.rows.map KitOption.id).filter (fun id => ids.contains id)

theorem mem_existingOptions {options : Table KitOption.id} {ids : List Nat} {id : Nat} :
    id ∈ existingOptions options ids ↔ id ∈ ids ∧ (options.get? id).isSome = true := by
  simp only [existingOptions, List.mem_filter, List.mem_map, List.contains_iff_mem]
  constructor
  · rintro ⟨⟨option, member, rfl⟩, asked⟩
    exact ⟨asked, by rw [Table.get?_of_mem member]; rfl⟩
  · rintro ⟨asked, stored⟩
    obtain ⟨option, found⟩ := Option.isSome_iff_exists.mp stored
    obtain ⟨member, same⟩ := Table.get?_eq_some_iff.mp found
    exact ⟨⟨option, member, same⟩, asked⟩

def reviewRow (kitId user : Nat) (rating : Int) (body : ReviewBody) (ages : List Nat) (id : Nat) :
    Review :=
  ⟨id, kitId, user, rating, body.comment.getD "", body.lengthOfPlay.get, ages⟩

def storeReview (engine : Engine) (s : State) (kitId user : Nat) (rating : Int) (body : ReviewBody)
    (ages : List Nat) : Reply Review × State :=
  match findReview s.db kitId user with
  | some review =>
      let changed := reviewRow kitId user rating body ages review.id
      (.ok 200 changed, withReviews s (s.db.reviews.save changed))
  | none =>
      if userAllowed engine s.db user && kitAllowed engine s.db kitId then
        (.ok 200 (reviewRow kitId user rating body ages s.db.reviews.nextKey),
          withReviews s (s.db.reviews.insertNew (reviewRow kitId user rating body ages)
            (fun _ => rfl)))
      else (.raised, s)

def createOrUpdateReview (engine : Engine) (session : Session) (s : State) (kitId : Nat)
    (body : ReviewBody) : Reply Review × State :=
  loginRequired session s fun user =>
    match body.rating.get.filter (fun rating => rating ≠ 0 && kitId ≠ 0) with
    | none => (.error 400 "kit_id and rating are required." [], s)
    | some rating =>
        match body.ageIds.getD [] with
        | none => (.raised, s)
        | some ids =>
            storeReview engine s kitId user rating body (existingOptions s.db.ageOptions ids)

def deleteOwnReview (session : Session) (s : State) (kitId : Nat) : Reply String × State :=
  loginRequired session s fun user =>
    match findReview s.db kitId user with
    | none => (.error 404 "Review not found" [], s)
    | some review =>
        (.ok 200 "Review deleted",
          withReviews s (s.db.reviews.remove (fun row => row.id = review.id)))

end Reviews

section Addresses

def withAddresses (s : State) (table : Table ShippingAddress.id) : State :=
  { s with db := { s.db with shippingAddresses := table } }

def getShippingAddresses (session : Session) (s : State) :
    Reply (List ShippingAddress) × State :=
  loginRequired session s fun user =>
    (.ok 200 (s.db.shippingAddresses.rows.filter (fun address => address.userId = user)), s)

structure AddressBody where
  line1 : JsonField String
  city : JsonField String
  state : JsonField String
  postalCode : JsonField String
  country : JsonField String

structure AddressFields where
  line1 : String
  city : String
  state : String
  postalCode : String
  country : String

/-- The fields of the body; none when one is null, which no column allows. -/
def AddressBody.fields (body : AddressBody) : Option AddressFields :=
  match body.line1.getD "", body.city.getD "", body.state.getD "", body.postalCode.getD "",
      body.country.getD "" with
  | some line1, some city, some state, some postalCode, some country =>
      some ⟨line1, city, state, postalCode, country⟩
  | _, _, _, _, _ => none

def newAddress (user : Nat) (fields : AddressFields) (id : Nat) : ShippingAddress :=
  ⟨id, user, fields.line1, fields.city, fields.state, fields.postalCode, fields.country⟩

def addShippingAddress (engine : Engine) (session : Session) (s : State) (body : AddressBody) :
    Reply ShippingAddress × State :=
  loginRequired session s fun user =>
    match body.fields with
    | none => (.raised, s)
    | some fields =>
        if userAllowed engine s.db user then
          (.ok 201 (newAddress user fields s.db.shippingAddresses.nextKey),
            withAddresses s (s.db.shippingAddresses.insertNew (newAddress user fields)
              (fun _ => rfl)))
        else (.raised, s)

end Addresses

section Orders

def withPurchases (s : State) (table : Table Purchase.id) : State :=
  { s with db := { s.db with purchases := table } }

/-- The role is read from the session, as in `create_purchase`. -/
def deletePurchase (session : Session) (s : State) (purchaseId : Nat) : Reply String × State :=
  loginRequired session s fun user =>
    match s.db.purchases.get? purchaseId with
    | none => (.error 404 "Not Found" [], s)
    | some purchase =>
        if purchase.userId ≠ user && !adminSession session then (.error 403 "Unauthorized" [], s)
        else
          (.ok 200 "Purchase deleted successfully",
            withPurchases s (s.db.purchases.remove (fun row => row.id = purchaseId)))

end Orders

/-- The requests to these endpoints; `list` stands for the listings of reviews and orders, which
only read. -/
inductive PersonalRequest where
  | list
  | getFavorites (type : Option String)
  | getShippingAddresses
  | addFavorite (body : AddFavoriteBody)
  | deleteFavoriteByCharacter (characterId : Nat)
  | deleteFavorite (favoriteId : Nat)
  | createOrUpdateReview (kitId : Nat) (body : ReviewBody)
  | deleteOwnReview (kitId : Nat)
  | addShippingAddress (body : AddressBody)
  | createPurchase (stripe : PaymentRequest → StripeOutcome) (now : Nat) (body : PurchaseBody)
  | updatePurchase (purchaseId : Nat) (body : PurchaseUpdate)
  | deletePurchase (purchaseId : Nat)

structure PersonalCall where
  session : Session
  request : PersonalRequest

def personalStep (server : Server) (s : State) (call : PersonalCall) : State :=
  match call.request with
  | .list => s
  | .getFavorites type => (getFavorites call.session s type).2
  | .getShippingAddresses => (getShippingAddresses call.session s).2
  | .addFavorite body => (addFavorite server.engine call.session s body).2
  | .deleteFavoriteByCharacter characterId =>
      (deleteFavoriteByCharacter call.session s characterId).2
  | .deleteFavorite favoriteId => (deleteFavorite call.session s favoriteId).2
  | .createOrUpdateReview kitId body =>
      (createOrUpdateReview server.engine call.session s kitId body).2
  | .deleteOwnReview kitId => (deleteOwnReview call.session s kitId).2
  | .addShippingAddress body => (addShippingAddress server.engine call.session s body).2
  | .createPurchase stripe now body =>
      (createPurchase server call.session stripe now s body).2
  | .updatePurchase purchaseId body =>
      (updatePurchase server.engine call.session s purchaseId body).2
  | .deletePurchase purchaseId => (deletePurchase call.session s purchaseId).2

section Cases

variable {session : Session} {user : Nat}

private theorem loginRequired_listing {β : Type} (s : State) (answer : Nat → Reply β) :
    (loginRequired session s fun user => (answer user, s)).2 = s := by
  unfold loginRequired
  split <;> rfl

theorem getFavorites_state (s : State) (type : Option String) :
    (getFavorites session s type).2 = s :=
  loginRequired_listing s _

theorem getShippingAddresses_state (s : State) : (getShippingAddresses session s).2 = s :=
  loginRequired_listing s _

/-- The body names a kit or a search, and what the row refers to exists as far as the engine
asks. -/
def favoriteAllowed (engine : Engine) (db : Database) (user : Nat) (body : AddFavoriteBody) :
    Bool :=
  (body.kit.isSome || body.search.isSome) && userAllowed engine db user &&
    body.kit.all (kitAllowed engine db)

theorem addFavorite_cases (engine : Engine) (s : State) (login : session.user = some user)
    (body : AddFavoriteBody) :
    (favoriteAllowed engine s.db user body = false ∧
      (addFavorite engine session s body).1.fetchOk = false ∧
      (addFavorite engine session s body).2 = s) ∨
    (favoriteAllowed engine s.db user body = true ∧ addFavorite engine session s body =
      (.ok 201 (newFavorite user body s.db.favorites.nextKey),
        withFavorites s (s.db.favorites.insertNew (newFavorite user body) (fun _ => rfl)))) := by
  have asked : (body.kit.isNone && body.search.isNone) =
      !(body.kit.isSome || body.search.isSome) := by
    cases body.kit <;> cases body.search <;> rfl
  rw [addFavorite_eq, loginRequired_some login, asked, favoriteAllowed, Bool.and_assoc]
  cases body.kit.isSome || body.search.isSome with
  | false => exact Or.inl ⟨rfl, rfl, rfl⟩
  | true =>
      cases userAllowed engine s.db user && body.kit.all (kitAllowed engine s.db) with
      | false => exact Or.inl ⟨rfl, rfl, rfl⟩
      | true => exact Or.inr ⟨rfl, rfl⟩

theorem deleteSelected_cases (s : State) (login : session.user = some user)
    (selected : Favorite → Bool) :
    ((deleteSelected session s selected).1.fetchOk = false ∧
      (deleteSelected session s selected).2 = s) ∨
    ∃ favorite, s.db.favorites.get? favorite.id = some favorite ∧ favorite.userId = user ∧
      selected favorite = true ∧ deleteSelected session s selected =
        (.ok 200 "Favorite deleted",
          withFavorites s (s.db.favorites.remove (fun row => row.id = favorite.id))) := by
  rw [deleteSelected, loginRequired_some login]
  split
  · exact Or.inl ⟨rfl, rfl⟩
  · rename_i favorite found
    have matched := Table.of_first found
    simp only [Bool.and_eq_true, decide_eq_true_eq] at matched
    exact Or.inr ⟨favorite, Table.get?_of_first found, matched.1, matched.2, rfl⟩

/-- In any session, a deletion of favorites at most removes rows. -/
theorem deleteSelected_removes (session : Session) (s : State) (selected : Favorite → Bool) :
    (deleteSelected session s selected).2 = s ∨
      ∃ gone, (deleteSelected session s selected).2 =
        withFavorites s (s.db.favorites.remove gone) := by
  cases login : session.user with
  | none => exact Or.inl (loginRequired_none login)
  | some user =>
      rcases deleteSelected_cases s login selected with ⟨-, kept⟩ | ⟨favorite, -, -, -, removed⟩
      · exact Or.inl kept
      · exact Or.inr ⟨_, congrArg Prod.snd removed⟩

theorem findReview_eq_some {db : Database} {kitId : Nat} {review : Review}
    (found : findReview db kitId user = some review) :
    db.reviews.get? review.id = some review ∧ review.kitId = kitId ∧ review.userId = user := by
  have matched := Table.of_first found
  simp only [Bool.and_eq_true, decide_eq_true_eq] at matched
  exact ⟨Table.get?_of_first found, matched⟩

/-- A rating that counts as given, for a kit that does, and a list of ages. -/
structure ReviewReadable (kitId : Nat) (body : ReviewBody) (rating : Int) (ids : List Nat) :
    Prop where
  rated : body.rating = .value rating
  nonzero : rating ≠ 0
  kit : kitId ≠ 0
  ages : body.ageIds.getD [] = some ids

theorem createOrUpdateReview_readable (engine : Engine) (s : State)
    (login : session.user = some user) {kitId : Nat} {body : ReviewBody} {rating : Int}
    {ids : List Nat} (readable : ReviewReadable kitId body rating ids) :
    createOrUpdateReview engine session s kitId body =
      storeReview engine s kitId user rating body (existingOptions s.db.ageOptions ids) := by
  have given : body.rating.get.filter (fun rating => rating ≠ 0 && kitId ≠ 0) = some rating := by
    simp [readable.rated, JsonField.get, readable.nonzero, readable.kit]
  rw [createOrUpdateReview, loginRequired_some login, given]
  simp only [readable.ages]

/-- A review request that is not readable is refused. -/
theorem createOrUpdateReview_cases (engine : Engine) (s : State)
    (login : session.user = some user) (kitId : Nat) (body : ReviewBody) :
    ((createOrUpdateReview engine session s kitId body).1.fetchOk = false ∧
      (createOrUpdateReview engine session s kitId body).2 = s) ∨
    ∃ rating ids, ReviewReadable kitId body rating ids := by
  rw [createOrUpdateReview, loginRequired_some login]
  cases given : body.rating.get.filter (fun rating => rating ≠ 0 && kitId ≠ 0) with
  | none => exact Or.inl ⟨rfl, rfl⟩
  | some rating =>
      obtain ⟨read, counts⟩ := Option.filter_eq_some_iff.mp given
      simp only [Bool.and_eq_true, decide_eq_true_eq] at counts
      cases ages : body.ageIds.getD [] with
      | none => exact Or.inl ⟨rfl, rfl⟩
      | some ids =>
          refine Or.inr ⟨rating, ids, ?_, counts.1, counts.2, ages⟩
          cases field : body.rating with
          | absent => rw [field] at read; cases read
          | null => rw [field] at read; cases read
          | value other =>
              rw [field] at read
              cases read
              rfl

/-- A readable review rewrites the user's own, or inserts one. -/
theorem storeReview_cases (engine : Engine) (s : State) (kitId user : Nat) (rating : Int)
    (body : ReviewBody) (ages : List Nat) :
    (∃ review, findReview s.db kitId user = some review ∧
      storeReview engine s kitId user rating body ages =
        (.ok 200 (reviewRow kitId user rating body ages review.id),
          withReviews s (s.db.reviews.save (reviewRow kitId user rating body ages review.id)))) ∨
    (findReview s.db kitId user = none ∧
      (userAllowed engine s.db user && kitAllowed engine s.db kitId) = true ∧
      storeReview engine s kitId user rating body ages =
        (.ok 200 (reviewRow kitId user rating body ages s.db.reviews.nextKey),
          withReviews s (s.db.reviews.insertNew (reviewRow kitId user rating body ages)
            (fun _ => rfl)))) ∨
    ((userAllowed engine s.db user && kitAllowed engine s.db kitId) = false ∧
      storeReview engine s kitId user rating body ages = (.raised, s)) := by
  unfold storeReview
  cases found : findReview s.db kitId user with
  | some review => exact Or.inl ⟨review, rfl, rfl⟩
  | none =>
      cases allowed : userAllowed engine s.db user && kitAllowed engine s.db kitId with
      | true => exact Or.inr (Or.inl ⟨rfl, rfl, rfl⟩)
      | false => exact Or.inr (Or.inr ⟨rfl, rfl⟩)

theorem deleteOwnReview_cases (s : State) (login : session.user = some user) (kitId : Nat) :
    (findReview s.db kitId user = none ∧ (deleteOwnReview session s kitId).1.fetchOk = false ∧
      (deleteOwnReview session s kitId).2 = s) ∨
    ∃ review, findReview s.db kitId user = some review ∧ deleteOwnReview session s kitId =
      (.ok 200 "Review deleted",
        withReviews s (s.db.reviews.remove (fun row => row.id = review.id))) := by
  rw [deleteOwnReview, loginRequired_some login]
  cases found : findReview s.db kitId user with
  | none => exact Or.inl ⟨rfl, rfl, rfl⟩
  | some review => exact Or.inr ⟨review, rfl, rfl⟩

theorem addShippingAddress_cases (engine : Engine) (s : State) (login : session.user = some user)
    (body : AddressBody) :
    (addShippingAddress engine session s body).2 = s ∨
      ∃ fields, (addShippingAddress engine session s body).2 =
        withAddresses s (s.db.shippingAddresses.insertNew (newAddress user fields)
          (fun _ => rfl)) := by
  rw [addShippingAddress, loginRequired_some login]
  split
  · exact Or.inl rfl
  · rename_i fields _
    split
    · exact Or.inr ⟨fields, rfl⟩
    · exact Or.inl rfl

/-- A deletion is refused, or removes a purchase that is the user's or that the session may
remove as an administrator's. -/
theorem deletePurchase_cases (s : State) (login : session.user = some user) (purchaseId : Nat) :
    ((deletePurchase session s purchaseId).2 = s ∧
      (deletePurchase session s purchaseId).1.fetchOk = false) ∨
    ∃ purchase, s.db.purchases.get? purchaseId = some purchase ∧
      (purchase.userId = user ∨ adminSession session = true) ∧
      deletePurchase session s purchaseId =
        (.ok 200 "Purchase deleted successfully",
          withPurchases s (s.db.purchases.remove (fun row => row.id = purchaseId))) := by
  rw [deletePurchase, loginRequired_some login]
  cases found : s.db.purchases.get? purchaseId with
  | none => exact Or.inl ⟨rfl, rfl⟩
  | some purchase =>
      simp only
      split
      · exact Or.inl ⟨rfl, rfl⟩
      · rename_i allowed
        refine Or.inr ⟨purchase, rfl, ?_, rfl⟩
        by_cases own : purchase.userId = user
        · exact Or.inl own
        · exact Or.inr (by simpa [own] using allowed)

end Cases

/-- The requests that write favorites. -/
def PersonalRequest.onFavorites : PersonalRequest → Bool
  | .addFavorite _ | .deleteFavoriteByCharacter _ | .deleteFavorite _ => true
  | _ => false

/-- What these requests write; favorites only if they are about favorites. -/
structure PersonalFrame (s after : State) (call : PersonalCall) : Prop where
  writes : ∃ favorites reviews shippingAddresses inventory purchases redis charges, after =
    ⟨{ s.db with
        favorites := favorites, reviews := reviews, shippingAddresses := shippingAddresses
        inventory := inventory, purchases := purchases }, redis, charges⟩
  favorites : call.request.onFavorites = false → after.db.favorites = s.db.favorites

private theorem PersonalFrame.of_eq {s after : State} {call : PersonalCall} (same : after = s) :
    PersonalFrame s after call := by
  subst same
  exact ⟨⟨_, _, _, _, _, _, _, rfl⟩, fun _ => rfl⟩

theorem personalStep_frame (server : Server) (s : State) (call : PersonalCall) :
    PersonalFrame s (personalStep server s call) call := by
  obtain ⟨session, request⟩ := call
  have logged : ∀ {β : Type} {handler : Nat → Reply β × State},
      (∀ user, session.user = some user →
        PersonalFrame s (loginRequired session s handler).2 ⟨session, request⟩) →
      PersonalFrame s (loginRequired session s handler).2 ⟨session, request⟩ := by
    intro β handler handled
    cases login : session.user with
    | none => exact .of_eq (loginRequired_none login)
    | some user => exact handled user login
  have selected : ∀ select, request.onFavorites = true →
      PersonalFrame s (deleteSelected session s select).2 ⟨session, request⟩ := by
    intro select about
    refine logged fun user login => ?_
    rcases deleteSelected_cases s login select with ⟨-, kept⟩ | ⟨_, -, -, -, removed⟩
    · exact .of_eq kept
    · exact ⟨⟨_, _, _, _, _, _, _, congrArg Prod.snd removed⟩,
        fun not => absurd about (by simp [not])⟩
  unfold personalStep
  cases request with
  | list => exact .of_eq rfl
  | getFavorites type => exact .of_eq (getFavorites_state ..)
  | getShippingAddresses => exact .of_eq (getShippingAddresses_state ..)
  | deleteFavoriteByCharacter characterId => exact selected _ rfl
  | deleteFavorite favoriteId => exact selected _ rfl
  | createPurchase stripe now body =>
      obtain ⟨purchases, redis, charges, after⟩ :=
        createPurchase_frame server session stripe now s body
      exact ⟨⟨_, _, _, _, _, _, _, after⟩, fun _ => congrArg (·.db.favorites) after⟩
  | updatePurchase purchaseId body =>
      simp only [updatePurchase_state]
      split <;> exact ⟨⟨_, _, _, _, _, _, _, rfl⟩, fun _ => rfl⟩
  | addFavorite body =>
      refine logged fun user login => ?_
      rcases addFavorite_cases server.engine s login body with ⟨-, -, kept⟩ | ⟨-, inserted⟩
      · exact .of_eq kept
      · exact ⟨⟨_, _, _, _, _, _, _, congrArg Prod.snd inserted⟩, nofun⟩
  | createOrUpdateReview kitId body =>
      refine logged fun user login => ?_
      rcases createOrUpdateReview_cases server.engine s login kitId body with
        ⟨-, kept⟩ | ⟨rating, ids, readable⟩
      · exact .of_eq kept
      · change PersonalFrame s (createOrUpdateReview server.engine session s kitId body).2 _
        rw [createOrUpdateReview_readable server.engine s login readable]
        rcases storeReview_cases server.engine s kitId user rating body
            (existingOptions s.db.ageOptions ids) with
          ⟨_, -, stored⟩ | ⟨-, -, stored⟩ | ⟨-, refused⟩
        · rw [stored]
          exact ⟨⟨_, _, _, _, _, _, _, rfl⟩, fun _ => rfl⟩
        · rw [stored]
          exact ⟨⟨_, _, _, _, _, _, _, rfl⟩, fun _ => rfl⟩
        · exact .of_eq (congrArg Prod.snd refused)
  | deleteOwnReview kitId =>
      refine logged fun user login => ?_
      rcases deleteOwnReview_cases s login kitId with ⟨-, -, kept⟩ | ⟨_, -, removed⟩
      · exact .of_eq kept
      · have after := congrArg Prod.snd removed
        exact ⟨⟨_, _, _, _, _, _, _, after⟩, fun _ => congrArg (·.db.favorites) after⟩
  | addShippingAddress body =>
      refine logged fun user login => ?_
      rcases addShippingAddress_cases server.engine s login body with kept | ⟨_, inserted⟩
      · exact .of_eq kept
      · exact ⟨⟨_, _, _, _, _, _, _, inserted⟩, fun _ => congrArg (·.db.favorites) inserted⟩
  | deletePurchase purchaseId =>
      refine logged fun user login => ?_
      rcases deletePurchase_cases s login purchaseId with ⟨kept, -⟩ | ⟨_, -, -, removed⟩
      · exact .of_eq kept
      · have after := congrArg Prod.snd removed
        exact ⟨⟨_, _, _, _, _, _, _, after⟩, fun _ => congrArg (·.db.favorites) after⟩

/-- The ways in which these requests write: one table of the user's rows at a time, or what the
handlers of orders do. -/
inductive PersonalWrite (server : Server) (s : State) (session : Session) : State → Prop where
  | kept : PersonalWrite server s session s
  | favorites (table : Table Favorite.id) : PersonalWrite server s session (withFavorites s table)
  | review (kitId user : Nat) (rating : Int) (body : ReviewBody) (ids : List Nat) :
      PersonalWrite server s session (storeReview server.engine s kitId user rating body
        (existingOptions s.db.ageOptions ids)).2
  | reviewGone (gone : Review → Bool) :
      PersonalWrite server s session (withReviews s (s.db.reviews.remove gone))
  | address (table : Table ShippingAddress.id) :
      PersonalWrite server s session (withAddresses s table)
  | purchaseGone (gone : Purchase → Bool) :
      PersonalWrite server s session (withPurchases s (s.db.purchases.remove gone))
  | order (stripe : PaymentRequest → StripeOutcome) (now : Nat) (body : PurchaseBody) :
      PersonalWrite server s session (createPurchase server session stripe now s body).2
  | orderUpdate (purchaseId : Nat) (body : PurchaseUpdate) :
      PersonalWrite server s session (updatePurchase server.engine session s purchaseId body).2

theorem personalStep_writes (server : Server) (s : State) (call : PersonalCall) :
    PersonalWrite server s call.session (personalStep server s call) := by
  obtain ⟨session, request⟩ := call
  have of_eq : ∀ {after written : State}, PersonalWrite server s session written →
      after = written → PersonalWrite server s session after := by
    intro after written write same
    rw [same]
    exact write
  have logged : ∀ {β : Type} {handler : Nat → Reply β × State},
      (∀ user, session.user = some user →
        PersonalWrite server s session (loginRequired session s handler).2) →
      PersonalWrite server s session (loginRequired session s handler).2 := by
    intro β handler handled
    cases login : session.user with
    | none => exact of_eq .kept (loginRequired_none login)
    | some user => exact handled user login
  have selected : ∀ select, PersonalWrite server s session (deleteSelected session s select).2 := by
    intro select
    rcases deleteSelected_removes session s select with kept | ⟨_, removed⟩
    · exact of_eq .kept kept
    · exact of_eq (.favorites _) removed
  cases request with
  | list => exact .kept
  | getFavorites type => exact of_eq .kept (getFavorites_state ..)
  | getShippingAddresses => exact of_eq .kept (getShippingAddresses_state ..)
  | deleteFavoriteByCharacter characterId => exact selected _
  | deleteFavorite favoriteId => exact selected _
  | addFavorite body =>
      refine logged fun user login => ?_
      rcases addFavorite_cases server.engine s login body with ⟨-, -, kept⟩ | ⟨-, inserted⟩
      · exact of_eq .kept kept
      · exact of_eq (.favorites _) (congrArg Prod.snd inserted)
  | createOrUpdateReview kitId body =>
      refine logged fun user login => ?_
      rcases createOrUpdateReview_cases server.engine s login kitId body with
        ⟨-, kept⟩ | ⟨rating, ids, readable⟩
      · exact of_eq .kept kept
      · exact of_eq (.review kitId user rating body ids)
          (congrArg Prod.snd (createOrUpdateReview_readable server.engine s login readable))
  | deleteOwnReview kitId =>
      refine logged fun user login => ?_
      rcases deleteOwnReview_cases s login kitId with ⟨-, -, kept⟩ | ⟨_, -, removed⟩
      · exact of_eq .kept kept
      · exact of_eq (.reviewGone _) (congrArg Prod.snd removed)
  | addShippingAddress body =>
      refine logged fun user login => ?_
      rcases addShippingAddress_cases server.engine s login body with kept | ⟨_, inserted⟩
      · exact of_eq .kept kept
      · exact of_eq (.address _) inserted
  | createPurchase stripe now body => exact .order stripe now body
  | updatePurchase purchaseId body => exact .orderUpdate purchaseId body
  | deletePurchase purchaseId =>
      refine logged fun user login => ?_
      rcases deletePurchase_cases s login purchaseId with ⟨kept, -⟩ | ⟨_, -, -, removed⟩
      · exact of_eq .kept kept
      · exact of_eq (.purchaseGone _) (congrArg Prod.snd removed)

/-- None of these requests writes the user table. -/
theorem personalStep_users (server : Server) (s : State) (call : PersonalCall) :
    (personalStep server s call).db.users = s.db.users := by
  obtain ⟨_, _, _, _, _, _, _, after⟩ := (personalStep_frame server s call).writes
  rw [after]

end ProductSite.Backend.PersonalRoutes
