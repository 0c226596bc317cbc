/- Module: ProductSite/Access/Addresses
   source: backend/app/routes/purchase_routes.py, backend/app/routes/shipping_address_routes.py,
     backend/app/schemas/purchase_schema.py
   digest: Orders carry the buyer's own addresses iff no order names the id of another's. -/

import ProductSite.Backend.PersonalRoutes
import ProductSite.Backend.Requests

set_option autoImplicit false
set_option relaxedAutoImplicit false

namespace ProductSite.Access.Addresses

open ProductSite.Foundation.KeyedTable (Table)
open ProductSite.Foundation.Runs
open ProductSite.Foundation.Wire (JsonField)
open ProductSite.Backend.Models
open ProductSite.Backend.PersonalRoutes
open ProductSite.Backend.PurchaseRoutes
open ProductSite.Backend.PurchaseSaving
open ProductSite.Backend.Requests (administrator customer sampleServer shelfOnly)

inductive OrderRequest where
  | addShippingAddress (body : AddressBody)
  | createPurchase (stripe : PaymentRequest → StripeOutcome) (now : Nat) (body : PurchaseBody)

structure OrderCall where
  session : Session
  request : OrderRequest

def orderStep (server : Server) (s : State) (call : OrderCall) : State :=
  match call.request with
  | .addShippingAddress body => (addShippingAddress server.engine call.session s body).2
  | .createPurchase stripe now body => (createPurchase server call.session stripe now s body).2

/-- The address that `PurchaseSchema` nests into an order. -/
def nestedAddress (db : Database) (purchase : Purchase) : Option ShippingAddress :=
  purchase.shippingAddressId.bind db.shippingAddresses.get?

/-- Every order with an address id shows an address of its own user. -/
def OwnAddresses (s : State) : Prop :=
  ∀ purchase ∈ s.db.purchases.rows, purchase.shippingAddressId ≠ none →
    ∃ address, nestedAddress s.db purchase = some address ∧ address.userId = purchase.userId

/-- An order that goes through names no address, or one of the user who places it. -/
def NamesOwnAddress (server : Server) (s : State) (call : OrderCall) : Prop :=
  match call.request with
  | .addShippingAddress _ => True
  | .createPurchase stripe now body =>
      ∀ user taken, paid server call.session stripe body = some (user, taken) →
        BodyStorable server call.session now s body user →
        ∀ id, body.shippingAddressId.get = some id →
          ∃ address, s.db.shippingAddresses.get? id = some address ∧ address.userId = user

variable {server : Server} {session : Session} {s : State}

private theorem ownAddresses_addShippingAddress (own : OwnAddresses s) (body : AddressBody) :
    OwnAddresses (addShippingAddress server.engine session s body).2 := by
  cases login : session.user with
  | none =>
      rw [addShippingAddress, loginRequired_none login]
      exact own
  | some user =>
      rcases addShippingAddress_cases server.engine s login body with kept | ⟨fields, inserted⟩
      · rw [kept]
        exact own
      · rw [inserted]
        intro purchase member named
        obtain ⟨address, shown, same⟩ := own purchase member named
        obtain ⟨id, given, found⟩ := Option.bind_eq_some_iff.mp shown
        refine ⟨address, ?_, same⟩
        -- the id is in use already, so it is not the one of the new address
        have other : id ≠ s.db.shippingAddresses.nextKey := by
          rintro rfl
          rw [Table.get?_nextKey] at found
          cases found
        rw [nestedAddress, given, Option.bind_some]
        refine (Table.get?_insertNew s.db.shippingAddresses (newAddress user fields)
          (fun _ => rfl) id).trans ?_
        rw [if_neg other, found]

private theorem ownAddresses_stored_iff {table : Table Purchase.id} {created : List Purchase}
    {context : OrderContext} {items : List PurchaseItem} {after : State} (own : OwnAddresses s)
    (rows : table.rows = s.db.purchases.rows ++ created)
    (creates : List.Forall₂ (Creates s.db context) items created) (nonempty : items ≠ [])
    (purchases : after.db.purchases = table)
    (addresses : after.db.shippingAddresses = s.db.shippingAddresses) :
    OwnAddresses after ↔ ∀ id, context.address = some id →
      ∃ address, s.db.shippingAddresses.get? id = some address ∧
        address.userId = context.user := by
  have shown : ∀ purchase, nestedAddress after.db purchase = nestedAddress s.db purchase := by
    intro purchase
    rw [nestedAddress, nestedAddress, addresses]
  constructor
  · intro law id given
    obtain ⟨item, first⟩ := List.exists_mem_of_ne_nil items nonempty
    obtain ⟨_, listed, line, number, -, rfl⟩ := paired_of_mem_left creates first
    have member : purchaseRow context line number ∈ after.db.purchases.rows := by
      rw [purchases, rows]
      exact List.mem_append_right _ listed
    have named : (purchaseRow context line number).shippingAddressId = some id := given
    obtain ⟨address, nested, same⟩ := law _ member (by rw [named]; exact Option.some_ne_none id)
    rw [shown, nestedAddress, named, Option.bind_some] at nested
    exact ⟨address, nested, same⟩
  · intro buyer purchase member named
    rw [purchases, rows] at member
    rcases List.mem_append.mp member with old | new
    · rw [shown]
      exact own purchase old named
    · obtain ⟨item, -, line, number, -, rfl⟩ := paired_of_mem_right creates new
      obtain ⟨id, given⟩ := Option.ne_none_iff_exists'.mp named
      obtain ⟨address, found, same⟩ := buyer id given
      refine ⟨address, ?_, same⟩
      rw [shown, nestedAddress, given, Option.bind_some, found]

private theorem ownAddresses_createPurchase_iff (own : OwnAddresses s)
    (stripe : PaymentRequest → StripeOutcome) (now : Nat) (body : PurchaseBody) :
    OwnAddresses (createPurchase server session stripe now s body).2 ↔
      ∀ user taken, paid server session stripe body = some (user, taken) →
        BodyStorable server session now s body user →
        ∀ id, body.shippingAddressId.get = some id →
          ∃ address, s.db.shippingAddresses.get? id = some address ∧ address.userId = user := by
  rcases createPurchase_cases server session stripe now s body with
    ⟨unpaid, -, kept⟩ | ⟨user, taken, payment, storable, table, created, rows, creates, stored⟩ |
    ⟨user, taken, payment, fails, -, paidOnly⟩
  · rw [kept]
    refine iff_of_true own ?_
    intro user taken payment
    rw [unpaid] at payment
    cases payment
  · have nonempty := payOrder_nonempty (paid_eq_some.mp payment).2
    have law := ownAddresses_stored_iff own rows creates nonempty
      (congrArg (fun answer => answer.2.db.purchases) stored)
      (congrArg (fun answer => answer.2.db.shippingAddresses) stored)
    refine law.trans ?_
    constructor
    · intro buyer user' taken' payment' _ id given
      rw [payment] at payment'
      cases payment'
      exact buyer id given
    · intro buyer id given
      exact buyer user taken payment storable id given
  · rw [paidOnly]
    refine iff_of_true own ?_
    intro user' taken' payment' storable
    rw [payment] at payment'
    cases payment'
    exact absurd storable fails

/-- In every run of requests that add addresses and place orders, by any users and with any
bodies, all orders show addresses of their own users in every state that the run passes through
precisely when each order that goes through names no address or one of its own user. -/
theorem ownAddresses_along_iff (server : Server) (s : State) (calls : List OrderCall)
    (start : OwnAddresses s) :
    Along (orderStep server) OwnAddresses s calls ↔
      EachStep (orderStep server) (NamesOwnAddress server) s calls := by
  have exact_step : ∀ t call, OwnAddresses t →
      (OwnAddresses (orderStep server t call) ↔ NamesOwnAddress server t call) := by
    intro t call own
    unfold orderStep NamesOwnAddress
    cases call.request with
    | addShippingAddress body =>
        exact iff_of_true (ownAddresses_addShippingAddress own body) trivial
    | createPurchase stripe now body => exact ownAddresses_createPurchase_iff own stripe now body
  exact along_iff_eachStep_of_law exact_step start calls

section Samples

def homeAddress : AddressBody :=
  ⟨.value "5 Elm St", .value "Springfield", .value "IL", .value "62701", .value "US"⟩

def orderTo (address : JsonField Nat) : PurchaseBody :=
  ⟨.value [⟨.value 1, .value 1, .value 1, some ⟨some 10⟩⟩], some ⟨some "pm_card", some "a@b.c"⟩,
    none, address⟩

/-- User 2 adds an address, and user 1 places an order to it. -/
def orderToAddress (id : Nat) : List OrderCall :=
  [⟨administrator, .addShippingAddress homeAddress⟩, ⟨customer, .addShippingAddress homeAddress⟩,
    ⟨customer, .createPurchase (fun _ => .intent "succeeded") 0 (orderTo (.value id))⟩]

def afterOrder (id : Nat) : State := run (orderStep sampleServer) (shelfOnly 3) (orderToAddress id)

/-- There are no orders yet. -/
private theorem ownAddresses_shelfOnly : OwnAddresses (shelfOnly 3) := by
  intro purchase member
  cases member

end Samples

theorem order_shows_a_foreign_address :
    OwnAddresses (shelfOnly 3) ∧
      (afterOrder 1).db.purchases.rows.map Purchase.userId = [1] ∧
      (afterOrder 1).db.purchases.rows.map (nestedAddress (afterOrder 1).db) =
        [some ⟨1, 2, "5 Elm St", "Springfield", "IL", "62701", "US"⟩] := by
  exact ⟨ownAddresses_shelfOnly, by decide +kernel, by decide +kernel⟩

theorem order_shows_the_own_address : OwnAddresses (afterOrder 2) := by
  refine ((ownAddresses_along_iff sampleServer (shelfOnly 3) (orderToAddress 2)
    ownAddresses_shelfOnly).mpr ?_).finish
  simp only [orderToAddress, eachStep_cons, eachStep_nil, and_true]
  refine ⟨trivial, trivial, ?_⟩
  intro user taken payment _ id given
  have buyer : user = 1 := by
    have login := (paid_eq_some.mp payment).1
    exact (Option.some.inj login).symm
  have named : id = 2 := (Option.some.inj given).symm
  subst buyer named
  exact ⟨_, rfl, rfl⟩

end ProductSite.Access.Addresses
