/- Module: ProductSite/Backend/PurchaseRoutes
   source: backend/app/routes/purchase_routes.py, backend/app/schemas/purchase_schema.py
   digest: Creating purchases against payment, and updating them with the return adjustment. -/

import ProductSite.Backend.InventoryRoutes

set_option autoImplicit false
set_option relaxedAutoImplicit false

namespace ProductSite.Backend.PurchaseRoutes

open ProductSite.Foundation.Balances (credits post postAll)
open ProductSite.Foundation.Floats (Arithmetic)
open ProductSite.Foundation.KeyedTable (Table)
open ProductSite.Foundation.Wire (JsonField Keyspace Reply)
open ProductSite.Backend.Models
open ProductSite.Backend.InventoryRoutes (kitAllowed)

/-- The kit embedded in an item; no price means one that `float` does not take. -/
structure ItemKit where
  price : Option ℚ

structure PurchaseItem where
  kitId : JsonField Nat
  inventoryId : JsonField Nat
  quantity : JsonField Int
  kit : Option ItemKit

structure BillingDetails where
  paymentMethodId : Option String
  email : Option String

/-- Billing details that are missing, null or an empty object read as none. -/
structure PurchaseBody where
  items : JsonField (List PurchaseItem)
  billingDetails : Option BillingDetails
  billingInfo : Option BillingDetails
  shippingAddressId : JsonField Nat

structure PurchaseDump where
  purchase : Purchase
  total : Option ℚ

/-- `PurchaseSchema.get_total`, from the stored price. -/
def getTotal (db : Database) (purchase : Purchase) : Option ℚ :=
  match db.kits.get? purchase.kitId with
  | none => none
  | some kit => if kit.price = 0 then none else some (kit.price * purchase.quantity)

def dump (db : Database) (purchase : Purchase) : PurchaseDump := ⟨purchase, getTotal db purchase⟩

/-- `int(float(price) * 100)`; a product that is too large for a float raises. -/
def cents (floats : Arithmetic) (price : ℚ) : Option Int :=
  (floats.times (floats.nearest price) 100).toInt

def itemAmount (floats : Arithmetic) (item : PurchaseItem) : Option Int :=
  match (item.kit.bind ItemKit.price).bind (cents floats), item.quantity.getD 1 with
  | some amount, some quantity => some (amount * quantity)
  | _, _ => none

def totalAmount (floats : Arithmetic) : Int → List PurchaseItem → Option Int
  | total, [] => some total
  | total, item :: rest =>
      match itemAmount floats item with
      | none => none
      | some amount => totalAmount floats (total + amount) rest

inductive StripeOutcome where
  | failed (message : String)
  | intent (status : String)
  deriving DecidableEq

def takePayment (admin : Bool) (stripe : PaymentRequest → StripeOutcome) (total : Int)
    (billing : Option BillingDetails) : Except (Reply (List PurchaseDump)) (List PaymentRequest) :=
  if admin then .ok []
  else
    let request : PaymentRequest :=
      ⟨total, "usd", billing.bind BillingDetails.paymentMethodId, "manual", true,
        billing.bind BillingDetails.email⟩
    match stripe request with
    | .failed message => .error (.error 400 message [])
    | .intent status =>
        if status = "succeeded" then .ok [request]
        else .error (.error 402 "Payment not completed" [("payment_status", status)])

structure OrderLine where
  kitId : Nat
  quantity : Int
  inventoryId : Nat
  shippingType : String
  deriving DecidableEq

/-- How the loop over the items ends. A line with a null in a required column is none. -/
inductive SaveOutcome where
  | saved (created : List (Option OrderLine)) (redis : Keyspace RedisValue)
  | missing (inventoryId : Option Nat) (redis : Keyspace RedisValue)
  | raised (redis : Keyspace RedisValue)

def shippingType (inventory : Inventory) : String :=
  if inventory.locationName = "warehouse" then "delivery" else "pickup"

def orderLine (item : PurchaseItem) (inventory : Inventory) : Option OrderLine :=
  match item.kitId.get, item.quantity.get with
  | some kitId, some quantity => some ⟨kitId, quantity, inventory.id, shippingType inventory⟩
  | _, _ => none

def allLines : List (Option OrderLine) → Option (List OrderLine)
  | [] => some []
  | none :: _ => none
  | some line :: rest => (allLines rest).map (line :: ·)

/-- The foreign keys of the new rows, as far as the engine enforces them. -/
def referencesAllowed (engine : Engine) (db : Database) (user : Nat) (address : Option Nat)
    (lines : List OrderLine) : Bool :=
  lines.all (fun line => kitAllowed engine db line.kitId) &&
    (!engine.foreignKeys ||
      ((db.users.get? user).isSome &&
        address.all (fun id => (db.shippingAddresses.get? id).isSome)))

structure OrderContext where
  importTime : Nat
  now : Nat
  user : Nat
  admin : Bool
  address : Option Nat

/-- The rows that the session has not written yet can be written, as far as there are any. -/
def flushes (engine : Engine) (context : OrderContext) (db : Database)
    (created : List (Option OrderLine)) : Bool :=
  created.isEmpty ||
    (allLines created).any (referencesAllowed engine db context.user context.address)

/-- The session still holds the row of the item before. Any other row is queried, and a query
first writes the rows that are not written yet. -/
def lookupRaises (engine : Engine) (context : OrderContext) (db : Database) (held : Option Nat)
    (created : List (Option OrderLine)) (item : PurchaseItem) : Bool :=
  (item.inventoryId.get.isNone || item.inventoryId.get != held) &&
    !flushes engine context db created

def saveLoop (engine : Engine) (context : OrderContext) (db : Database)
    (held : Option Nat) (redis : Keyspace RedisValue) (created : List (Option OrderLine)) :
    List PurchaseItem → SaveOutcome
  | [] => .saved created redis
  | item :: rest =>
      if lookupRaises engine context db held created item then .raised redis
      else
        match item.inventoryId.get.bind db.inventory.get? with
        -- by now the payment is taken and the keys of the earlier items are deleted
        | none => .missing item.inventoryId.get redis
        | some inventory =>
            if item.kitId.present && item.quantity.present then
              saveLoop engine context db item.inventoryId.get
                (redis.delete (pendingKey inventory.id context.user))
                (created ++ [orderLine item inventory]) rest
            else .raised redis

def secondsPerDay : Nat := 24 * 60 * 60

def purchaseRow (context : OrderContext) (line : OrderLine) (id : Nat) : Purchase where
  id := id
  kitId := line.kitId
  userId := context.user
  inventoryId := some line.inventoryId
  quantity := line.quantity
  -- the column default was evaluated once, when the model class was
  timeBought := context.importTime
  status := some "Ready for pickup"
  shippingAddressId := context.address
  shippingType := line.shippingType
  paymentMethod := some (if context.admin then "admin" else "stripe")
  availableDate := some 1234
  pickUpDate := some ((context.now + secondsPerDay) / secondsPerDay)

def insertLines (context : OrderContext) (table : Table Purchase.id) :
    List OrderLine → Table Purchase.id × List Purchase
  | [] => (table, [])
  | line :: rest =>
      let row := purchaseRow context line table.nextKey
      let inserted := insertLines context
        (table.insertNew (purchaseRow context line) (fun _ => rfl)) rest
      (inserted.1, row :: inserted.2)

def missingText (inventoryId : Option Nat) : String :=
  "Inventory " ++ (inventoryId.map toString).getD "None" ++ " not found"

/-- The purchases are loaded again, each with its buyer, and answered. -/
def reload (db : Database) (purchases : List Purchase) : Reply (List PurchaseDump) :=
  if purchases.all (buyerLoads db) then .ok 201 (purchases.map (dump db)) else .raised

def commitPurchases (engine : Engine) (context : OrderContext) (s : State)
    (created : List (Option OrderLine)) : Reply (List PurchaseDump) × State :=
  match allLines created with
  | none => (.raised, s)
  | some lines =>
      if referencesAllowed engine s.db context.user context.address lines then
        let inserted := insertLines context s.db.purchases lines
        (reload s.db inserted.2, { s with db := { s.db with purchases := inserted.1 } })
      else (.raised, s)

def savePurchases (engine : Engine) (context : OrderContext) (s : State)
    (items : List PurchaseItem) : Reply (List PurchaseDump) × State :=
  match saveLoop engine context s.db none s.redis [] items with
  | .missing inventoryId redis =>
      (.error 404 (missingText inventoryId) [], { s with redis := redis })
  | .raised redis => (.raised, { s with redis := redis })
  | .saved created redis => commitPurchases engine context { s with redis := redis } created

def PurchaseBody.itemList (body : PurchaseBody) : List PurchaseItem := body.items.get.getD []

/-- The role is read from the session, not from the stored user. -/
def adminSession (session : Session) : Bool := session.role == some "admin"

/-- The handler up to the payment: the refusal to answer with, or the payment taken. -/
def payOrder (floats : Arithmetic) (session : Session) (stripe : PaymentRequest → StripeOutcome)
    (body : PurchaseBody) : Except (Reply (List PurchaseDump)) (List PaymentRequest) :=
  let billing := body.billingDetails <|> body.billingInfo
  if body.itemList.isEmpty || (billing.isNone && !adminSession session) then
    .error (.error 400 "Missing required data" [])
  else
    match totalAmount floats 0 body.itemList with
    | none => .error .raised
    | some total =>
        if total ≤ 0 then .error (.error 400 "Invalid cart total" [])
        else takePayment (adminSession session) stripe total billing

def createPurchase (server : Server) (session : Session)
    (stripe : PaymentRequest → StripeOutcome) (now : Nat) (s : State) (body : PurchaseBody) :
    Reply (List PurchaseDump) × State :=
  loginRequired session s fun user =>
    match payOrder server.floats session stripe body with
    | .error reply => (reply, s)
    | .ok taken =>
        savePurchases server.engine
          ⟨server.importTime, now, user, adminSession session, body.shippingAddressId.get⟩
          { s with charges := taken ++ s.charges } body.itemList

structure PurchaseUpdate where
  status : JsonField String
  availableDate : JsonField Int
  pickUpDate : JsonField Nat
  paymentMethod : JsonField String
  quantity : JsonField Int
  inventoryId : JsonField Nat

def assignFields (purchase : Purchase) (quantity : Int) (body : PurchaseUpdate) : Purchase :=
  { purchase with
    status := body.status.assign purchase.status
    availableDate := body.availableDate.assign purchase.availableDate
    pickUpDate := body.pickUpDate.assign purchase.pickUpDate
    paymentMethod := body.paymentMethod.assign purchase.paymentMethod
    quantity := quantity
    inventoryId := body.inventoryId.assign purchase.inventoryId }

def inventoryAllowed (engine : Engine) (db : Database) (inventoryId : Option Nat) : Bool :=
  !engine.foreignKeys || inventoryId.all (fun id => (db.inventory.get? id).isSome)

def updatePlan (engine : Engine) (db : Database) (purchase : Purchase) (body : PurchaseUpdate) :
    Except (Reply PurchaseDump) (Purchase × Option Inventory) :=
  match body.quantity.assign (some purchase.quantity) with
  | none => .error .raised
  | some quantity =>
      let updated := assignFields purchase quantity body
      let row := updated.inventoryId.bind db.inventory.get?
      -- only a column that changes is written, and the engine checks no other
      if updated.inventoryId ≠ purchase.inventoryId ∧
          inventoryAllowed engine db updated.inventoryId = false then .error .raised
      -- the new status is read from the body, the previous one was stored
      else if purchase.status ≠ some "Returned" ∧ body.status.get = some "Returned" then
        .ok (updated, row.map (fun inv => { inv with quantity := inv.quantity + quantity }))
      else if purchase.status = some "Returned" ∧ body.status.get ≠ some "Returned" then
        match row with
        | none => .ok (updated, none)
        | some inv =>
            if inv.quantity < quantity then
              .error (.error 400 "Insufficient inventory to revert return" [])
            else .ok (updated, some { inv with quantity := inv.quantity - quantity })
      else .ok (updated, none)

def commitUpdate (s : State) (updated : Purchase) (row : Option Inventory) : State :=
  { s with
    db := { s.db with
      purchases := s.db.purchases.save updated
      inventory := match row with
        | none => s.db.inventory
        | some inv => s.db.inventory.save inv } }

def updatePurchase (engine : Engine) (session : Session) (s : State) (purchaseId : Nat)
    (body : PurchaseUpdate) : Reply PurchaseDump × State :=
  adminRequired session s fun _ =>
    match s.db.purchases.get? purchaseId with
    | none => (.error 404 "Not Found" [], s)
    | some purchase =>
        match updatePlan engine s.db purchase body with
        | .error reply => (reply, s)
        | .ok (updated, row) =>
            -- the committed purchase is loaded again with its buyer
            (if buyerLoads s.db updated then .ok 200 (dump s.db updated) else .raised,
              commitUpdate s updated row)

section Returns

/-- The units that an update gives back to the row of the purchase, negative when it takes
them again. -/
def returnedUnits (purchase : Purchase) (quantity : Int) (body : PurchaseUpdate) : Int :=
  if purchase.status ≠ some "Returned" ∧ body.status.get = some "Returned" then quantity
  else if purchase.status = some "Returned" ∧ body.status.get ≠ some "Returned" then -quantity
  else 0

variable {engine : Engine} {s : State} {purchase updated : Purchase} {body : PurchaseUpdate}
  {row : Option Inventory}

def adjustedRow (db : Database) (updated : Purchase) : Option Inventory :=
  updated.inventoryId.bind db.inventory.get?

/-- Everything that a successful update does: it either leaves the rows alone, or posts the
returned units to the row of the purchase; units are only taken from a row that has them. -/
theorem updatePlan_cases (plan : updatePlan engine s.db purchase body = .ok (updated, row)) :
    body.quantity.assign (some purchase.quantity) = some updated.quantity ∧
      updated = assignFields purchase updated.quantity body ∧
      ((returnedUnits purchase updated.quantity body = 0 ∧ row = none) ∨
        (row = (adjustedRow s.db updated).map (fun inv =>
            { inv with
              quantity := inv.quantity + returnedUnits purchase updated.quantity body }) ∧
          ∀ inv, adjustedRow s.db updated = some inv → purchase.status = some "Returned" →
            updated.quantity ≤ inv.quantity)) := by
  unfold updatePlan at plan
  split at plan
  · cases plan
  · rename_i quantity given
    simp only at plan
    split at plan
    · cases plan
    · split at plan
      · rename_i returning
        obtain ⟨rfl, rfl⟩ := Prod.mk.inj (Except.ok.inj plan)
        refine ⟨given, rfl, Or.inr ⟨?_, fun _ _ already => absurd already returning.1⟩⟩
        simp only [returnedUnits, if_pos returning]
        rfl
      · rename_i kept
        split at plan
        · rename_i reverting
          split at plan
          · rename_i gone
            obtain ⟨rfl, rfl⟩ := Prod.mk.inj (Except.ok.inj plan)
            refine ⟨given, rfl, Or.inr ⟨?_, ?_⟩⟩
            · simp only [adjustedRow, gone, Option.map_none]
            · intro inv found _
              rw [adjustedRow, gone] at found
              cases found
          · rename_i inv found
            split at plan
            · cases plan
            · rename_i enough
              obtain ⟨rfl, rfl⟩ := Prod.mk.inj (Except.ok.inj plan)
              refine ⟨given, rfl, Or.inr ⟨?_, ?_⟩⟩
              · simp only [adjustedRow, found, returnedUnits, if_neg kept, if_pos reverting,
                  Option.map_some, Int.sub_eq_add_neg]
                rfl
              · intro other same _
                rw [adjustedRow, found] at same
                cases same
                exact not_lt.mp enough
        · rename_i still
          obtain ⟨rfl, rfl⟩ := Prod.mk.inj (Except.ok.inj plan)
          exact ⟨given, rfl, Or.inl ⟨by rw [returnedUnits, if_neg kept, if_neg still], rfl⟩⟩

def updatedEntries (purchase updated : Purchase) (body : PurchaseUpdate) : List (Nat × Int) :=
  match updated.inventoryId with
  | none => []
  | some id => [(id, returnedUnits purchase updated.quantity body)]

theorem updatePlan_stock (plan : updatePlan engine s.db purchase body = .ok (updated, row)) :
    (commitUpdate s updated row).stock =
      postAll s.stock (credits (updatedEntries purchase updated body)) := by
  obtain ⟨-, -, adjusted⟩ := updatePlan_cases plan
  unfold updatedEntries
  cases named : updated.inventoryId with
  | none =>
      have unchanged : row = none := by
        rcases adjusted with ⟨-, none⟩ | ⟨shape, -⟩
        · exact none
        · rw [shape, adjustedRow, named]
          rfl
      rw [unchanged]
      rfl
  | some id =>
      have posted : postAll s.stock (credits [(id, returnedUnits purchase updated.quantity body)]) =
          post s.stock (.add id (returnedUnits purchase updated.quantity body)) := rfl
      simp only [posted]
      rcases adjusted with ⟨zero, rfl⟩ | ⟨rfl, -⟩
      · rw [zero, Foundation.Balances.post_add_zero]
        rfl
      · unfold adjustedRow
        rw [named]
        cases found : s.db.inventory.get? id with
        | none =>
            have missing : s.stock id = none := stockOf_of_missing found
            rw [Foundation.Balances.post_add_missing missing]
            simp [found, commitUpdate, State.stock]
        | some inv =>
            have here : inv.id = id := Table.key_of_get? found
            subst here
            simp only [Option.bind_some, found, Option.map_some]
            exact stockOf_save_add found _

/-- The purchase as it was stored, as it is written, and the adjusted row of an accepted
`update_purchase` request. -/
def acceptedUpdate (engine : Engine) (session : Session) (db : Database) (purchaseId : Nat)
    (body : PurchaseUpdate) : Option (Purchase × Purchase × Option Inventory) :=
  match session.user.filter (isAdmin db), db.purchases.get? purchaseId with
  | some _, some purchase =>
      match updatePlan engine db purchase body with
      | .ok (updated, row) => some (purchase, updated, row)
      | .error _ => none
  | _, _ => none

variable {session : Session} {purchaseId : Nat}

theorem acceptedUpdate_eq_some
    (accepted : acceptedUpdate engine session s.db purchaseId body =
      some (purchase, updated, row)) :
    s.db.purchases.get? purchaseId = some purchase ∧
      updatePlan engine s.db purchase body = .ok (updated, row) := by
  unfold acceptedUpdate at accepted
  split at accepted
  · rename_i stored found
    split at accepted
    · rename_i plan
      cases accepted
      exact ⟨found, plan⟩
    · cases accepted
  · cases accepted

private theorem admin_of_acceptedUpdate
    (accepted : acceptedUpdate engine session s.db purchaseId body =
      some (purchase, updated, row)) :
    ∃ user, session.user = some user ∧ isAdmin s.db user = true := by
  unfold acceptedUpdate at accepted
  split at accepted
  · rename_i user _ admitted _
    exact ⟨user, Option.filter_eq_some_iff.mp admitted⟩
  · cases accepted

theorem updatePurchase_state :
    (updatePurchase engine session s purchaseId body).2 =
      match acceptedUpdate engine session s.db purchaseId body with
      | none => s
      | some (_, updated, row) => commitUpdate s updated row := by
  unfold updatePurchase adminRequired acceptedUpdate
  cases session.user with
  | none => rfl
  | some user =>
      simp only [Option.filter_some]
      split
      · cases s.db.purchases.get? purchaseId with
        | none => rfl
        | some purchase =>
            simp only
            cases updatePlan engine s.db purchase body with
            | error reply => rfl
            | ok written => rfl
      · rfl

private theorem updatePlan_refused {reply : Reply PurchaseDump}
    (plan : updatePlan engine s.db purchase body = .error reply) : reply.status ≠ 200 := by
  unfold updatePlan at plan
  split at plan
  · cases plan
    decide
  · simp only at plan
    split at plan
    · cases plan
      decide
    · split at plan
      · cases plan
      · split at plan
        · split at plan
          · cases plan
          · split at plan
            · cases plan
              decide
            · cases plan
        · cases plan

private theorem buyerLoads_updated
    (plan : updatePlan engine s.db purchase body = .ok (updated, row)) :
    buyerLoads s.db updated = buyerLoads s.db purchase := by
  obtain ⟨-, shape, -⟩ := updatePlan_cases plan
  rw [shape]
  rfl

/-- An accepted update is committed, and answered once the buyer is loaded with the purchase. -/
theorem updatePurchase_answer
    (accepted : acceptedUpdate engine session s.db purchaseId body =
      some (purchase, updated, row)) :
    updatePurchase engine session s purchaseId body =
      (if buyerLoads s.db purchase then .ok 200 (dump s.db updated) else .raised,
        commitUpdate s updated row) := by
  obtain ⟨found, plan⟩ := acceptedUpdate_eq_some accepted
  obtain ⟨user, login, admin⟩ := admin_of_acceptedUpdate accepted
  simp only [updatePurchase, adminRequired, login, admin, if_true, found, plan,
    buyerLoads_updated plan]

/-- An accepted update is answered with 200 if the buyer can be loaded with the purchase. -/
theorem updatePurchase_status :
    (updatePurchase engine session s purchaseId body).1.status = 200 ↔
      (acceptedUpdate engine session s.db purchaseId body).any
        (fun accepted => buyerLoads s.db accepted.1) = true := by
  unfold updatePurchase adminRequired acceptedUpdate
  cases session.user with
  | none => simp [Reply.status]
  | some user =>
      simp only [Option.filter_some]
      split
      · cases s.db.purchases.get? purchaseId with
        | none => simp [Reply.status]
        | some purchase =>
            simp only
            cases plan : updatePlan engine s.db purchase body with
            | error reply => simp [updatePlan_refused plan]
            | ok written =>
                obtain ⟨updated, row⟩ := written
                simp only [buyerLoads_updated plan, Option.any_some]
                split
                · rename_i loads
                  exact iff_of_true rfl loads
                · rename_i fails
                  exact iff_of_false (by decide) fails
      · simp [Reply.status_ne_ok (adminRefusal_fetchOk s.db user)]

end Returns

end ProductSite.Backend.PurchaseRoutes
