/- Module: ProductSite/Stock/Ledger
   source: backend/app/routes/inventory_routes.py, backend/app/routes/purchase_routes.py
   digest: The reservation keys against the history of decrements, purchases and restores. -/

import ProductSite.Backend.Requests

set_option autoImplicit false
set_option relaxedAutoImplicit false

namespace ProductSite.Stock.Ledger

open ProductSite.Foundation.Balances
open ProductSite.Foundation.Runs
open ProductSite.Foundation.Wire (JsonField Keyspace)
open ProductSite.Backend.Models
open ProductSite.Backend.InventoryRoutes
open ProductSite.Backend.PurchaseRoutes
open ProductSite.Backend.PurchaseSaving
open ProductSite.Backend.Requests

/-- The requests by which units are reserved, bought and given back. -/
inductive LedgerRequest where
  | decrement (session : Session) (body : DecrementBody)
  | purchase (session : Session) (stripe : PaymentRequest → StripeOutcome) (now : Nat)
      (body : PurchaseBody)
  | restore (session : Session) (items : JsonField (List RestoreItem))

namespace LedgerRequest

def session : LedgerRequest → Session
  | .decrement session _ => session
  | .purchase session _ _ _ => session
  | .restore session _ => session

def toRequest : LedgerRequest → Request
  | .decrement session body => .decrementQuantity session body
  | .purchase session stripe now body => .createPurchase session stripe now body
  | .restore session items => .restoreReservedInventory session items

end LedgerRequest

def ledgerStep (server : Server) (s : State) (request : LedgerRequest) : State :=
  step server s request.toRequest

/-- The units that an accepted decrement takes from the row. -/
def debited (server : Server) (s : State) (request : LedgerRequest) (row : Nat) : Int :=
  match request with
  | .decrement session body =>
      match reservation server.engine session s.db body with
      | some (_, inv, quantity) => if row = inv.id then quantity else 0
      | none => 0
  | _ => 0

/-- The units of the row in some purchases. -/
def unitsOf (row : Nat) (purchases : List Purchase) : Int :=
  (purchases.map (fun purchase =>
    if purchase.inventoryId = some row then purchase.quantity else 0)).sum

/-- The units of the row in the purchases that the request stores. -/
def bought (server : Server) (s : State) (request : LedgerRequest) (row : Nat) : Int :=
  match request with
  | .purchase session stripe now body =>
      unitsOf row (createPurchase server session stripe now s body).2.db.purchases.rows -
        unitsOf row s.db.purchases.rows
  | _ => 0

/-- The units that a restore request credits to the row, if there is such a row. -/
def credited (s : State) (request : LedgerRequest) (row : Nat) : Int :=
  match request with
  | .restore session items =>
      if (s.stock row).isSome then creditTo row (restoredBy session s items) else 0
  | _ => 0

/-- What the request is to change in the ledger of a row and a user. -/
def ledgerAmount (server : Server) (row user : Nat) (s : State) (request : LedgerRequest) : Int :=
  if request.session.user = some user then
    debited server s request row - bought server s request row - credited s request row
  else 0

def recordedUnits : Option RedisValue → Int
  | some (.rollback data) => data.quantity
  | _ => 0

/-- The quantity under the reservation key, zero without one. -/
def recorded (s : State) (row user : Nat) : Int := recordedUnits (s.redis.get (pendingKey row user))

/-- The units of the row that the items of an order ask for. -/
def orderedUnits (row : Nat) (items : List PurchaseItem) : Int :=
  (items.map (fun item =>
    if item.inventoryId.get = some row then item.quantity.get.getD 0 else 0)).sum

/-- When a request keeps the ledger: a decrement finds no reservation of its row; a purchase
that is paid for finds reserved, of each row that its loop handles, what its items ask for, or
nothing where the order cannot be stored; and a restore credits nothing. -/
def InStep (server : Server) (s : State) : LedgerRequest → Prop
  | .decrement session body => ∀ user inv quantity,
      reservation server.engine session s.db body = some (user, inv, quantity) →
        recorded s inv.id user = 0
  | .purchase session stripe now body => ∀ user taken,
      paid server session stripe body = some (user, taken) →
        ∀ item ∈ bodyItems server session now s body user, ∀ row, item.inventoryId.get = some row →
          (BodyStorable server session now s body user →
            recorded s row user = orderedUnits row body.itemList) ∧
          (¬ BodyStorable server session now s body user → recorded s row user = 0)
  | .restore session items => ∀ user, session.user = some user →
      ∀ row, credited s (.restore session items) row = 0

section Steps

variable (server : Server) (s : State)

def Posted (request : LedgerRequest) : Prop :=
  ∀ row user, recorded (ledgerStep server s request) row user =
    recorded s row user + ledgerAmount server row user s request

private theorem recorded_reserve (user : Nat) (inv : Inventory) (kitId : Option Nat)
    (quantity : Int) (row other : Nat) :
    recorded (reserve s user inv kitId quantity) row other =
      if row = inv.id ∧ other = user then quantity else recorded s row other := by
  unfold recorded reserve
  simp only [Keyspace.get_set, pendingKey_inj]
  by_cases here : row = inv.id ∧ other = user
  · rw [if_pos here, if_pos here]
    rfl
  · rw [if_neg here, if_neg here]

private theorem posted_decrement_iff (session : Session) (body : DecrementBody) :
    Posted server s (.decrement session body) ↔ InStep server s (.decrement session body) := by
  unfold Posted InStep
  change (∀ row user, recorded (decrementQuantity server.engine session s body).2 row user = _) ↔ _
  rw [decrementQuantity_state]
  cases accepted : reservation server.engine session s.db body with
  | none =>
      refine iff_of_true ?_ (by simp [accepted])
      intro row user
      simp [ledgerAmount, debited, bought, credited, accepted]
  | some taken =>
      obtain ⟨user, inv, quantity⟩ := taken
      have login : session.user = some user := (reservation_eq_some.mp accepted).1
      have amount (row other : Nat) : ledgerAmount server row other s (.decrement session body) =
          if row = inv.id ∧ other = user then quantity else 0 := by
        by_cases mine : user = other
        · subst mine
          by_cases here : row = inv.id
          · simp [ledgerAmount, debited, bought, credited, accepted, LedgerRequest.session, login,
              here]
          · simp [ledgerAmount, debited, bought, credited, accepted, here]
        · simp [ledgerAmount, LedgerRequest.session, login, mine, Ne.symm mine]
      simp only [amount, recorded_reserve]
      constructor
      · intro posted user' inv' quantity' same
        rw [accepted] at same
        cases same
        have here := posted inv.id user
        simp only [and_self, if_true] at here
        omega
      · intro empty row other
        have zero := empty user inv quantity accepted
        by_cases here : row = inv.id ∧ other = user
        · obtain ⟨rfl, rfl⟩ := here
          simp [zero]
        · simp [here]

private theorem pendingKey_ne_reservedKey (row user : Nat) (id : Option Nat) :
    pendingKey row user ≠ reservedKey id := by
  intro same
  have first := congrArg (fun text => text.toList.head?) same
  have left : (pendingKey row user).toList.head? = some 'p' := by
    change ("pending_inventory:" ++ toString row ++ ":" ++ toString user).toList.head? = _
    simp [String.toList_append]
  have right : (reservedKey id).toList.head? = some 'r' := by
    unfold reservedKey
    simp [String.toList_append]
  simp only [left, right] at first
  cases first

private theorem posted_restore_iff (session : Session) (items : JsonField (List RestoreItem)) :
    Posted server s (.restore session items) ↔ InStep server s (.restore session items) := by
  have kept (row user : Nat) :
      recorded (ledgerStep server s (.restore session items)) row user = recorded s row user := by
    obtain ⟨names, deleted, own⟩ := restoreReservedInventory_redis session s items
    -- the handler deletes keys under another name, so the reservation stays recorded
    have untouched : pendingKey row user ∉ names := by
      intro member
      obtain ⟨id, same⟩ := own _ member
      exact pendingKey_ne_reservedKey row user id same
    change recordedUnits ((restoreReservedInventory session s items).2.redis.get _) = _
    rw [deleted, Keyspace.get_deleteAll, if_neg untouched]
    rfl
  unfold Posted InStep
  simp only [kept]
  constructor
  · intro posted user login row
    have here := posted row user
    simp only [ledgerAmount, LedgerRequest.session, login, if_true, debited, bought] at here
    omega
  · intro none row user
    unfold ledgerAmount
    split
    · rename_i login
      have zero := none user login row
      simp only [debited, bought]
      omega
    · omega

private theorem recorded_purchase {session : Session} {stripe : PaymentRequest → StripeOutcome}
    {now user : Nat} {body : PurchaseBody} {taken : List PaymentRequest}
    (payment : paid server session stripe body = some (user, taken)) (row other : Nat) :
    recorded (ledgerStep server s (.purchase session stripe now body)) row other =
      if other = user ∧ ∃ item ∈ bodyItems server session now s body user,
        item.inventoryId.get = some row
      then 0 else recorded s row other := by
  have deleted := createPurchase_redis server session stripe now s body
  rw [payment] at deleted
  change recordedUnits ((createPurchase server session stripe now s body).2.redis.get _) = _
  rw [deleted, Keyspace.get_deleteAll]
  simp only [mem_itemKeys]
  split
  · rfl
  · rfl

private theorem unitsOf_append (row : Nat) (first second : List Purchase) :
    unitsOf row (first ++ second) = unitsOf row first + unitsOf row second := by
  rw [unitsOf, List.map_append, List.sum_append]
  rfl

private theorem unitsOf_records {user : Nat} {items : List PurchaseItem} {created : List Purchase}
    (records : List.Forall₂ (Records user) items created) (row : Nat) :
    unitsOf row created = orderedUnits row items := by
  induction records with
  | nil => rfl
  | @cons item purchase items created record later ih =>
      obtain ⟨-, -, named, units⟩ := record
      simp only [unitsOf, orderedUnits, List.map_cons, List.sum_cons] at ih ⊢
      rw [ih, named, units, Option.getD_some]

section Purchases

variable {session : Session} {stripe : PaymentRequest → StripeOutcome} {user : Nat}
  {body : PurchaseBody} {taken : List PaymentRequest}

/-- What a request that is paid for buys is decided before its loop: all that its items ask
for, or nothing where the order cannot be stored. -/
private theorem bought_paid (now : Nat)
    (payment : paid server session stripe body = some (user, taken)) (row : Nat) :
    (BodyStorable server session now s body user →
      bought server s (.purchase session stripe now body) row = orderedUnits row body.itemList) ∧
    (¬ BodyStorable server session now s body user →
      bought server s (.purchase session stripe now body) row = 0) := by
  have stores : bought server s (.purchase session stripe now body) row =
      unitsOf row (createPurchase server session stripe now s body).2.db.purchases.rows -
        unitsOf row s.db.purchases.rows := rfl
  rw [stores]
  rcases createPurchase_cases server session stripe now s body with ⟨unpaid, -, -⟩ |
    ⟨user', taken', same, storable, table, created, rows, creates, stored⟩ |
    ⟨user', taken', same, fails, -, after⟩
  · rw [payment] at unpaid
    cases unpaid
  · rw [payment] at same
    cases same
    refine ⟨?_, fun fails => absurd storable fails⟩
    intro _
    have units := unitsOf_records (creates.imp fun _ _ => Creates.records) row
    rw [stored]
    change unitsOf row table.rows - _ = _
    rw [rows, unitsOf_append, units]
    omega
  · rw [payment] at same
    cases same
    refine ⟨fun storable => absurd storable fails, ?_⟩
    intro _
    rw [after]
    exact sub_self _

private theorem bought_unhandled (now : Nat)
    (payment : paid server session stripe body = some (user, taken)) {row : Nat}
    (unhandled : ∀ item ∈ bodyItems server session now s body user,
      item.inventoryId.get ≠ some row) :
    bought server s (.purchase session stripe now body) row = 0 := by
  obtain ⟨whole, nothing⟩ := bought_paid server s now payment row
  by_cases storable : BodyStorable server session now s body user
  · rw [bodyItems, savedItems_storable storable] at unhandled
    rw [whole storable]
    apply List.sum_eq_zero
    intro units member
    obtain ⟨item, listed, rfl⟩ := List.mem_map.mp member
    exact if_neg (unhandled item listed)
  · exact nothing storable

private theorem inStep_purchase_iff (now : Nat)
    (payment : paid server session stripe body = some (user, taken)) :
    InStep server s (.purchase session stripe now body) ↔
      ∀ item ∈ bodyItems server session now s body user, ∀ row, item.inventoryId.get = some row →
        recorded s row user = bought server s (.purchase session stripe now body) row := by
  constructor
  · intro exactly item member row named
    obtain ⟨whole, nothing⟩ := bought_paid server s now payment row
    obtain ⟨full, empty⟩ := exactly user taken payment item member row named
    by_cases storable : BodyStorable server session now s body user
    · rw [whole storable, full storable]
    · rw [nothing storable, empty storable]
  · intro exactly user' taken' same item member row named
    rw [payment] at same
    cases same
    obtain ⟨whole, nothing⟩ := bought_paid server s now payment row
    have units := exactly item member row named
    exact ⟨fun storable => units.trans (whole storable), fun fails => units.trans (nothing fails)⟩

end Purchases

private theorem posted_purchase_iff (session : Session)
    (stripe : PaymentRequest → StripeOutcome) (now : Nat) (body : PurchaseBody) :
    Posted server s (.purchase session stripe now body) ↔
      InStep server s (.purchase session stripe now body) := by
  cases payment : paid server session stripe body with
  | none =>
      have unpaid : (createPurchase server session stripe now s body).2 = s ∧
          (createPurchase server session stripe now s body).1.fetchOk = false :=
        createPurchase_unpaid payment
      have same : ledgerStep server s (.purchase session stripe now body) = s := unpaid.1
      refine iff_of_true ?_ (by simp [InStep, payment])
      intro row user
      rw [same]
      simp [ledgerAmount, debited, bought, unitsOf, credited, unpaid.1]
  | some order =>
      obtain ⟨user, taken⟩ := order
      have login : session.user = some user := (paid_eq_some.mp payment).1
      have amount (row other : Nat) :
          ledgerAmount server row other s (.purchase session stripe now body) =
            if other = user then -bought server s (.purchase session stripe now body) row
            else 0 := by
        simp only [ledgerAmount, LedgerRequest.session, login, Option.some.injEq, debited, credited,
          eq_comm]
        split
        · omega
        · rfl
      rw [inStep_purchase_iff server s now payment]
      unfold Posted
      simp only [recorded_purchase server s payment, amount]
      constructor
      · intro posted item member row named
        -- the key of a handled row is gone, so its record was all that the request buys
        have here := posted row user
        rw [if_pos ⟨rfl, item, member, named⟩, if_pos rfl] at here
        omega
      · intro exactly row other
        by_cases mine : other = user
        · subst mine
          by_cases handled : ∃ item ∈ bodyItems server session now s body other,
              item.inventoryId.get = some row
          · obtain ⟨item, member, named⟩ := handled
            have units := exactly item member row named
            rw [if_pos ⟨rfl, item, member, named⟩, if_pos rfl]
            omega
          · have nothing := bought_unhandled server s now payment
              (fun item member named => handled ⟨item, member, named⟩)
            rw [if_neg (by simpa using handled), if_pos rfl, nothing]
            omega
        · simp [mine]

private theorem posted_iff (request : LedgerRequest) :
    Posted server s request ↔ InStep server s request := by
  cases request with
  | decrement session body => exact posted_decrement_iff server s session body
  | purchase session stripe now body => exact posted_purchase_iff server s session stripe now body
  | restore session items => exact posted_restore_iff server s session items

end Steps

/-- In a run of decrements, purchases and restores by any users, every reservation key records
what its user has taken from its row and neither bought nor restored precisely when no units
are recorded at the start and every request keeps the ledger. -/
theorem recorded_along_iff (server : Server) (s : State) (requests : List LedgerRequest) :
    (∀ handled, handled <+: requests → ∀ row user,
      recorded (run (ledgerStep server) s handled) row user =
        tally (ledgerStep server) (ledgerAmount server row user) s handled) ↔
    (∀ row user, recorded s row user = 0) ∧
      EachStep (ledgerStep server) (InStep server) s requests := by
  have account (row user : Nat) := along_account_iff (ledgerStep server)
    (fun t => recorded t row user) (ledgerAmount server row user) s requests
  constructor
  · intro law
    have empty : ∀ row user, recorded s row user = 0 := law [] List.nil_prefix
    refine ⟨empty, ?_⟩
    intro handled request here
    refine (posted_iff server _ request).mp ?_
    intro row user
    refine (account row user).mp ?_ handled request here
    intro handled' before
    rw [empty row user, zero_add]
    exact law handled' before row user
  · rintro ⟨empty, each⟩ handled before row user
    have sum := (account row user).mpr ?_ handled before
    · rw [sum, empty row user, zero_add]
    · intro handled' request here
      exact (posted_iff server _ request).mpr (each handled' request here) row user

/-- Two decrements of one unit each by one user: the key records one unit. -/
theorem second_decrement_overwrites_the_first :
    recorded (run (ledgerStep sampleServer) (shelfOnly 3)
        [.decrement customer ⟨.value "Library", .value 1, .value 1, .value "1 Main St"⟩,
          .decrement customer ⟨.value "Library", .value 1, .value 1, .value "1 Main St"⟩]) 1 1 = 1 ∧
      tally (ledgerStep sampleServer) (ledgerAmount sampleServer 1 1) (shelfOnly 3)
        [.decrement customer ⟨.value "Library", .value 1, .value 1, .value "1 Main St"⟩,
          .decrement customer ⟨.value "Library", .value 1, .value 1, .value "1 Main St"⟩] = 2 := by
  decide

end ProductSite.Stock.Ledger
