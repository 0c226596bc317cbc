/- Module: ProductSite/Access/Isolation
   source: backend/app/routes/favorite_routes.py, backend/app/routes/review_routes.py,
     backend/app/routes/shipping_address_routes.py, backend/app/routes/purchase_routes.py
   digest: No run of a customer's requests changes the favorites, reviews, orders and addresses
     of others. -/

import ProductSite.Backend.PersonalRoutes
import ProductSite.Backend.Requests
import ProductSite.Foundation.Ownership

set_option autoImplicit false
set_option relaxedAutoImplicit false

namespace ProductSite.Access.Isolation

open ProductSite.Foundation.Ownership
open ProductSite.Foundation.Runs
open ProductSite.Backend.Models
open ProductSite.Backend.PersonalRoutes
open ProductSite.Backend.PurchaseRoutes
open ProductSite.Backend.PurchaseSaving
open ProductSite.Backend.Requests (customer sampleServer shelfOnly)

/-- The rows of all users but one are the same in both states: favorites, reviews with their
ages, purchases and addresses. -/
structure Unchanged (a : Nat) (s t : State) : Prop where
  favorites : others t.db.favorites (fun row => row.userId = a) =
    others s.db.favorites (fun row => row.userId = a)
  reviews : others t.db.reviews (fun row => row.userId = a) =
    others s.db.reviews (fun row => row.userId = a)
  purchases : others t.db.purchases (fun row => row.userId = a) =
    others s.db.purchases (fun row => row.userId = a)
  addresses : others t.db.shippingAddresses (fun row => row.userId = a) =
    others s.db.shippingAddresses (fun row => row.userId = a)

variable {server : Server} {session : Session} {a : Nat} {s t u : State}

private theorem Unchanged.of_eq (same : t = s) : Unchanged a s t := by
  subst same
  exact ⟨rfl, rfl, rfl, rfl⟩

private theorem Unchanged.trans (first : Unchanged a s t) (second : Unchanged a t u) :
    Unchanged a s u :=
  ⟨second.favorites.trans first.favorites, second.reviews.trans first.reviews,
    second.purchases.trans first.purchases, second.addresses.trans first.addresses⟩

private theorem unchanged_addFavorite (login : session.user = some a) (body : AddFavoriteBody) :
    Unchanged a s (addFavorite server.engine session s body).2 := by
  rcases addFavorite_cases server.engine s login body with ⟨-, -, kept⟩ | ⟨-, inserted⟩
  · exact .of_eq kept
  · rw [inserted]
    exact ⟨others_insertNew (fun _ => rfl) rfl, rfl, rfl, rfl⟩

private theorem unchanged_deleteSelected (login : session.user = some a)
    (selected : Favorite → Bool) : Unchanged a s (deleteSelected session s selected).2 := by
  rcases deleteSelected_cases s login selected with ⟨-, kept⟩ | ⟨favorite, stored, own, -, removed⟩
  · exact .of_eq kept
  · rw [removed]
    refine ⟨others_removeKey_iff.mpr ?_, rfl, rfl, rfl⟩
    intro row found
    rw [stored] at found
    cases found
    exact own

private theorem unchanged_createOrUpdateReview (login : session.user = some a) (kitId : Nat)
    (body : ReviewBody) :
    Unchanged a s (createOrUpdateReview server.engine session s kitId body).2 := by
  rcases createOrUpdateReview_cases server.engine s login kitId body with
    ⟨-, kept⟩ | ⟨rating, ids, readable⟩
  · exact .of_eq kept
  · rw [createOrUpdateReview_readable server.engine s login readable]
    rcases storeReview_cases server.engine s kitId a rating body
        (existingOptions s.db.ageOptions ids) with
      ⟨review, found, stored⟩ | ⟨-, -, stored⟩ | ⟨-, refused⟩
    · obtain ⟨present, -, own⟩ := findReview_eq_some found
      rw [stored]
      exact ⟨rfl, others_save present own rfl, rfl, rfl⟩
    · rw [stored]
      exact ⟨rfl, others_insertNew (fun _ => rfl) rfl, rfl, rfl⟩
    · exact .of_eq (congrArg Prod.snd refused)

private theorem unchanged_deleteOwnReview (login : session.user = some a) (kitId : Nat) :
    Unchanged a s (deleteOwnReview session s kitId).2 := by
  rcases deleteOwnReview_cases s login kitId with ⟨-, -, kept⟩ | ⟨review, located, removed⟩
  · exact .of_eq kept
  · obtain ⟨stored, -, own⟩ := findReview_eq_some located
    rw [removed]
    refine ⟨rfl, others_removeKey_iff.mpr ?_, rfl, rfl⟩
    intro row found
    rw [stored] at found
    cases found
    exact own

private theorem unchanged_addShippingAddress (login : session.user = some a)
    (body : AddressBody) :
    Unchanged a s (addShippingAddress server.engine session s body).2 := by
  rcases addShippingAddress_cases server.engine s login body with kept | ⟨fields, inserted⟩
  · exact .of_eq kept
  · rw [inserted]
    exact ⟨rfl, rfl, rfl, others_insertNew (fun _ => rfl) rfl⟩

private theorem unchanged_createPurchase (login : session.user = some a)
    (stripe : PaymentRequest → StripeOutcome) (now : Nat) (body : PurchaseBody) :
    Unchanged a s (createPurchase server session stripe now s body).2 := by
  rcases createPurchase_cases server session stripe now s body with
    ⟨-, -, kept⟩ | ⟨user, taken, payment, -, table, created, rows, creates, stored⟩ |
    ⟨user, taken, -, -, -, paidOnly⟩
  · exact .of_eq kept
  · have buyer : user = a := by
      have given := (paid_eq_some.mp payment).1
      rw [login] at given
      exact (Option.some.inj given).symm
    rw [stored]
    refine ⟨rfl, rfl, others_append rows ?_, rfl⟩
    intro purchase member
    obtain ⟨item, -, filled⟩ := paired_of_mem_right creates member
    exact filled.records.1.trans buyer
  · rw [paidOnly]
    exact ⟨rfl, rfl, rfl, rfl⟩

private theorem unchanged_updatePurchase (login : session.user = some a)
    (stored : isAdmin s.db a = false) (purchaseId : Nat) (body : PurchaseUpdate) :
    Unchanged a s (updatePurchase server.engine session s purchaseId body).2 := by
  refine .of_eq (adminRequired_refused ?_).1
  intro user given
  rw [login] at given
  cases given
  exact stored

private theorem unchanged_deletePurchase (login : session.user = some a)
    (role : session.role ≠ some "admin") (purchaseId : Nat) :
    Unchanged a s (deletePurchase session s purchaseId).2 := by
  rcases deletePurchase_cases s login purchaseId with
    ⟨kept, -⟩ | ⟨purchase, stored, allowed, removed⟩
  · exact .of_eq kept
  · have own : purchase.userId = a := by
      rcases allowed with own | admin
      · exact own
      · exact absurd (by simpa [adminSession] using admin) role
    rw [removed]
    refine ⟨rfl, rfl, others_removeKey_iff.mpr ?_, rfl⟩
    intro row found
    rw [stored] at found
    cases found
    exact own

private theorem unchanged_step (call : PersonalCall) (login : call.session.user = some a)
    (role : call.session.role ≠ some "admin") (stored : isAdmin s.db a = false) :
    Unchanged a s (personalStep server s call) := by
  unfold personalStep
  cases call.request with
  | list => exact .of_eq rfl
  | getFavorites type => exact .of_eq (getFavorites_state ..)
  | getShippingAddresses => exact .of_eq (getShippingAddresses_state ..)
  | addFavorite body => exact unchanged_addFavorite login body
  | deleteFavoriteByCharacter characterId => exact unchanged_deleteSelected login _
  | deleteFavorite favoriteId => exact unchanged_deleteSelected login _
  | createOrUpdateReview kitId body => exact unchanged_createOrUpdateReview login kitId body
  | deleteOwnReview kitId => exact unchanged_deleteOwnReview login kitId
  | addShippingAddress body => exact unchanged_addShippingAddress login body
  | createPurchase stripe now body => exact unchanged_createPurchase login stripe now body
  | updatePurchase purchaseId body => exact unchanged_updatePurchase login stored purchaseId body
  | deletePurchase purchaseId => exact unchanged_deletePurchase login role purchaseId

/-- For every database and every run of requests to these endpoints in sessions of one user who
is an administrator neither by the session nor by the database, with any ids and bodies, the
rows of all other users are unchanged in every state that the run passes through. -/
theorem others_unchanged_along (server : Server) (a : Nat) (s : State) (calls : List PersonalCall)
    (sessions : ∀ call ∈ calls,
      call.session.user = some a ∧ call.session.role ≠ some "admin")
    (stored : isAdmin s.db a = false) :
    Along (personalStep server) (Unchanged a s) s calls := by
  -- the user table stays as it is, so the user does not become an administrator on the way
  have keeps : ∀ t call, Unchanged a s t ∧ t.db.users = s.db.users →
      (call.session.user = some a ∧ call.session.role ≠ some "admin") →
      Unchanged a s (personalStep server t call) ∧
        (personalStep server t call).db.users = s.db.users := by
    rintro t call ⟨before, users⟩ ⟨login, role⟩
    have still : isAdmin t.db a = false := by
      rw [isAdmin_congr users]
      exact stored
    exact ⟨before.trans (unchanged_step call login role still),
      (personalStep_users server t call).trans users⟩
  have along := along_of_eachStep keeps ⟨.of_eq rfl, rfl⟩ (eachStep_of_forall sessions s)
  exact fun handled before => (along handled before).1

section Samples

def foreignPurchase : Purchase :=
  ⟨1, 1, 2, some 1, 1, 0, some "Ready for pickup", none, "pickup", some "stripe", some 1234,
    some 1⟩

def foreignOrders : State := withPurchases (shelfOnly 3) ⟨[foreignPurchase], by decide, by decide⟩

end Samples

theorem foreign_order_is_not_deleted :
    Unchanged 1 foreignOrders (run (personalStep sampleServer) foreignOrders
      [⟨customer, .deletePurchase 1⟩, ⟨customer, .deleteFavorite 1⟩,
        ⟨customer, .createOrUpdateReview 1 ⟨.value 5, .absent, .absent, .absent⟩⟩]) :=
  (others_unchanged_along sampleServer 1 foreignOrders _ (by simp [customer, Session.user])
    (by decide)).finish

end ProductSite.Access.Isolation
