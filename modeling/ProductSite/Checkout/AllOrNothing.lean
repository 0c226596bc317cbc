/- Module: ProductSite/Checkout/AllOrNothing
   source: backend/app/routes/purchase_routes.py
   digest: A purchase request is all or nothing iff no failure strikes after its payment. -/

import ProductSite.Backend.Requests

set_option autoImplicit false
set_option relaxedAutoImplicit false

namespace ProductSite.Checkout.AllOrNothing

open ProductSite.Foundation.Wire (Keyspace Reply)
open ProductSite.Backend.Models
open ProductSite.Backend.PurchaseRoutes
open ProductSite.Backend.PurchaseSaving
open ProductSite.Backend.Requests (customer sampleServer shelfOnly)

/-- Nothing has happened: no payment, no purchase, no reservation key deleted. -/
def Untouched (before after : State) : Prop :=
  after.charges = before.charges ∧ after.db.purchases = before.db.purchases ∧
    ∀ inventory user, after.redis.get (pendingKey inventory user) =
      before.redis.get (pendingKey inventory user)

/-- Everything has happened: one purchase for each item, and one payment by a customer. -/
def Completed (session : Session) (items : List PurchaseItem) (before after : State) : Prop :=
  (∃ user created, session.user = some user ∧
    after.db.purchases.rows = before.db.purchases.rows ++ created ∧
    List.Forall₂ (Records user) items created) ∧
  (session.role ≠ some "admin" → ∃ charge, after.charges = charge :: before.charges)

def Atomic (session : Session) (items : List PurchaseItem) (reply : Reply (List PurchaseDump))
    (before after : State) : Prop :=
  (reply.status ≠ 201 → Untouched before after) ∧
    (reply.status = 201 → Completed session items before after)

/-- None of the items is reserved by the user. -/
def NothingReserved (s : State) (user : Nat) (items : List PurchaseItem) : Prop :=
  ∀ item ∈ items, ∀ id, item.inventoryId.get = some id → s.redis.get (pendingKey id user) = none

/-- When a request is all or nothing: it is refused before the payment, or its order can be
stored and its buyer loaded again, or its order cannot be stored, is an administrator's, and
there is no reservation of an item that the saving loop handles. -/
def SafeRequest (server : Server) (session : Session) (stripe : PaymentRequest → StripeOutcome)
    (now : Nat) (s : State) (body : PurchaseBody) : Prop :=
  ∀ user taken, paid server session stripe body = some (user, taken) →
    (BodyStorable server session now s body user ∧ userLoads s.db user = true) ∨
      (¬ BodyStorable server session now s body user ∧ session.role = some "admin" ∧
        NothingReserved s user (bodyItems server session now s body user))

section Reservations

variable {s : State} {user : Nat} {items : List PurchaseItem}

private theorem keys_kept_iff :
    (∀ inventory other, (s.redis.deleteAll (itemKeys user items)).get (pendingKey inventory other) =
        s.redis.get (pendingKey inventory other)) ↔ NothingReserved s user items := by
  simp only [Keyspace.get_deleteAll, mem_itemKeys]
  constructor
  · intro kept item member id given
    have here := kept id user
    rw [if_pos ⟨rfl, item, member, given⟩] at here
    exact here.symm
  · intro free inventory other
    split
    · rename_i handled
      obtain ⟨rfl, item, member, given⟩ := handled
      exact (free item member inventory given).symm
    · rfl

end Reservations

section Payments

variable {server : Server} {session : Session} {stripe : PaymentRequest → StripeOutcome}
  {body : PurchaseBody} {user : Nat} {taken : List PaymentRequest}

private theorem taken_of_customer (payment : paid server session stripe body = some (user, taken))
    (role : session.role ≠ some "admin") : ∃ charge, taken = [charge] := by
  have charged := payOrder_taken (paid_eq_some.mp payment).2
  rw [if_neg (by simpa [adminSession] using role)] at charged
  obtain ⟨charge, taken, -⟩ := charged
  exact ⟨charge, taken⟩

private theorem nothing_taken_iff (payment : paid server session stripe body = some (user, taken))
    (charges : List PaymentRequest) :
    taken ++ charges = charges ↔ session.role = some "admin" := by
  by_cases role : session.role = some "admin"
  · have free := payOrder_taken (paid_eq_some.mp payment).2
    rw [if_pos (by simp [adminSession, role])] at free
    simp [free, role]
  · obtain ⟨charge, rfl⟩ := taken_of_customer payment role
    simp [role]

/-- A request that fails after its payment has left everything untouched only if it was an
administrator's and found no reservation to delete. -/
private theorem untouched_failed_iff
    (payment : paid server session stripe body = some (user, taken)) (now : Nat) (s : State) :
    Untouched s { bodyCleared server session now s body user with
        charges := taken ++ s.charges } ↔
      session.role = some "admin" ∧
        NothingReserved s user (bodyItems server session now s body user) := by
  rw [← nothing_taken_iff payment s.charges, ← keys_kept_iff]
  exact and_congr_right fun _ => ⟨fun kept => kept.2, fun kept => ⟨rfl, kept⟩⟩

end Payments

/-- For every database, every list of items and every outcome at Stripe, a request to
`create_purchase` is all or nothing precisely when it is a safe one. -/
theorem atomic_iff (server : Server) (session : Session)
    (stripe : PaymentRequest → StripeOutcome) (now : Nat) (s : State) (body : PurchaseBody) :
    Atomic session body.itemList (createPurchase server session stripe now s body).1
        s (createPurchase server session stripe now s body).2 ↔
      SafeRequest server session stripe now s body := by
  unfold Atomic SafeRequest
  rcases createPurchase_cases server session stripe now s body with
    ⟨unpaid, refused, after⟩ |
    ⟨user, taken, payment, storable, table, created, rows, creates, stored⟩ |
    ⟨user, taken, payment, fails, refused, after⟩
  · have status := Reply.status_ne_created refused
    rw [after, unpaid]
    refine iff_of_true ⟨fun _ => ⟨rfl, rfl, fun _ _ => rfl⟩, fun done => absurd done status⟩ ?_
    intro user taken none
    cases none
  · rw [stored, payment]
    cases loads : userLoads s.db user with
    | true =>
        rw [confirmation, loads]
        refine iff_of_true ⟨fun failed => absurd rfl failed, fun _ => ⟨?_, ?_⟩⟩ ?_
        · exact ⟨user, created, (paid_eq_some.mp payment).1, rows,
            creates.imp fun _ _ => Creates.records⟩
        · intro role
          obtain ⟨charge, rfl⟩ := taken_of_customer payment role
          exact ⟨charge, rfl⟩
        · intro user' taken' same
          cases same
          exact Or.inl ⟨storable, loads⟩
    | false =>
        -- the purchases are stored and the answer is an error
        have failed : (confirmation s.db user created).status ≠ 201 :=
          Reply.status_ne_created ((confirmation_fetchOk s.db user created).trans loads)
        have nonempty := payOrder_nonempty (paid_eq_some.mp payment).2
        refine iff_of_false ?_ ?_
        · intro atomic
          have kept : table = s.db.purchases := (atomic.1 failed).2.1
          rw [kept] at rows
          rw [List.self_eq_append_right.mp rows, List.forall₂_nil_right_iff] at creates
          exact nonempty creates
        · intro safe
          rcases safe user taken rfl with ⟨-, loaded⟩ | ⟨fails, -⟩
          · rw [loads] at loaded
            cases loaded
          · exact fails storable
  · have status := Reply.status_ne_created refused
    rw [after, payment]
    have untouched := untouched_failed_iff payment now s
    constructor
    · intro atomic user' taken' same
      cases same
      exact Or.inr ⟨fails, untouched.mp (atomic.1 status)⟩
    · intro safe
      refine ⟨fun _ => untouched.mpr ?_, fun done => absurd done status⟩
      rcases safe user taken rfl with ⟨storable, -⟩ | ⟨-, free⟩
      · exact absurd storable fails
      · exact free

section Samples

def oneUnitFrom (row : Nat) : PurchaseItem := ⟨.value 1, .value row, .value 1, some ⟨some 10⟩⟩

def orderFrom (rows : List Nat) : PurchaseBody :=
  ⟨.value (rows.map oneUnitFrom), some ⟨some "pm_card", some "a@b.c"⟩, none, .absent⟩

end Samples

/-- The second row does not exist: the request is answered with 404, nothing is stored, and
twenty dollars are charged. -/
theorem missing_row_after_payment :
    (createPurchase sampleServer customer (fun _ => .intent "succeeded") 0 (shelfOnly 3)
        (orderFrom [1, 2])).1 = .error 404 "Inventory 2 not found" [] ∧
      ¬ Atomic customer (orderFrom [1, 2]).itemList
        (createPurchase sampleServer customer (fun _ => .intent "succeeded") 0 (shelfOnly 3)
          (orderFrom [1, 2])).1 (shelfOnly 3)
        (createPurchase sampleServer customer (fun _ => .intent "succeeded") 0 (shelfOnly 3)
          (orderFrom [1, 2])).2 := by
  refine ⟨by with_unfolding_all rfl, ?_⟩
  intro atomic
  obtain ⟨charges, -⟩ := atomic.1 (by decide +kernel)
  revert charges
  decide +kernel

end ProductSite.Checkout.AllOrNothing
