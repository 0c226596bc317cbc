/- Module: ProductSite/Backend/PurchaseSaving
   source: backend/app/routes/purchase_routes.py
   digest: What a purchase request does at each stage: payment, saving loop, commit. -/

import Mathlib.Data.List.Forall2
import Mathlib.Data.List.TakeWhile
import ProductSite.Backend.PurchaseRoutes

set_option autoImplicit false
set_option relaxedAutoImplicit false

namespace ProductSite.Backend.PurchaseSaving

open ProductSite.Foundation.Floats (Arithmetic)
open ProductSite.Foundation.KeyedTable (Table)
open ProductSite.Foundation.Wire (JsonField Keyspace Reply)
open ProductSite.Backend.Models
open ProductSite.Backend.InventoryRoutes (kitAllowed)
open ProductSite.Backend.PurchaseRoutes

section Paired

variable {α β : Type} {R : α → β → Prop} {items : List α} {rows : List β}

theorem paired_of_mem_left (paired : List.Forall₂ R items rows) {item : α} (member : item ∈ items) :
    ∃ row ∈ rows, R item row := by
  induction paired with
  | nil => cases member
  | cons first others ih =>
      rcases List.mem_cons.mp member with rfl | later
      · exact ⟨_, List.mem_cons_self, first⟩
      · obtain ⟨row, here, related⟩ := ih later
        exact ⟨row, List.mem_cons_of_mem _ here, related⟩

theorem paired_of_mem_right (paired : List.Forall₂ R items rows) {row : β} (member : row ∈ rows) :
    ∃ item ∈ items, R item row :=
  paired_of_mem_left paired.flip member

end Paired

section Payment

variable {server : Server} {floats : Arithmetic} {session : Session}
  {stripe : PaymentRequest → StripeOutcome} {now user : Nat} {s : State} {body : PurchaseBody}
  {taken : List PaymentRequest}

/-- The user of a request that gets to the saving loop, and the payment taken for it. -/
def paid (server : Server) (session : Session) (stripe : PaymentRequest → StripeOutcome)
    (body : PurchaseBody) : Option (Nat × List PaymentRequest) :=
  match session.user, payOrder server.floats session stripe body with
  | some user, .ok taken => some (user, taken)
  | _, _ => none

private theorem takePayment_refused {admin : Bool} {total : Int} {billing : Option BillingDetails}
    {reply : Reply (List PurchaseDump)}
    (refused : takePayment admin stripe total billing = .error reply) : reply.fetchOk = false := by
  unfold takePayment at refused
  split at refused
  · cases refused
  · simp only at refused
    split at refused
    · cases refused
      rfl
    · split at refused
      · cases refused
      · cases refused
        rfl

private theorem payOrder_refused {reply : Reply (List PurchaseDump)}
    (refused : payOrder floats session stripe body = .error reply) : reply.fetchOk = false := by
  unfold payOrder at refused
  simp only at refused
  split at refused
  · cases refused
    rfl
  · split at refused
    · cases refused
      rfl
    · split at refused
      · cases refused
        rfl
      · exact takePayment_refused refused

/-- Everyone but an administrator pays exactly once to get to the saving loop, the total of
the items. -/
theorem payOrder_taken (accepted : payOrder floats session stripe body = .ok taken) :
    if adminSession session then taken = []
    else ∃ charge, taken = [charge] ∧ totalAmount floats 0 body.itemList = some charge.amount := by
  unfold payOrder takePayment at accepted
  simp only at accepted
  split at accepted
  · cases accepted
  · split at accepted
    · cases accepted
    · rename_i total sum
      split at accepted
      · cases accepted
      · split at accepted
        · rename_i admin
          cases accepted
          rw [if_pos admin]
        · rename_i charged
          rw [if_neg charged]
          split at accepted
          · cases accepted
          · split at accepted
            · cases accepted
              exact ⟨_, rfl, sum⟩
            · cases accepted

private theorem totalAmount_shift (total : Int) (items : List PurchaseItem) :
    totalAmount floats total items = (totalAmount floats 0 items).map (total + ·) := by
  induction items generalizing total with
  | nil => simp [totalAmount]
  | cons item rest ih =>
      unfold totalAmount
      cases itemAmount floats item with
      | none => rfl
      | some amount =>
          simp only
          rw [ih (total + amount), ih (0 + amount), Option.map_map]
          congr 1
          funext later
          simp only [Function.comp_apply]
          omega

theorem totalAmount_cons {item : PurchaseItem} {amount : Int}
    (priced : itemAmount floats item = some amount) (rest : List PurchaseItem) :
    totalAmount floats 0 (item :: rest) = (totalAmount floats 0 rest).map (amount + ·) := by
  rw [totalAmount, priced]
  simp only
  rw [totalAmount_shift, zero_add]

private theorem totalAmount_priced {total amount : Int} {items : List PurchaseItem}
    (sum : totalAmount floats total items = some amount) :
    ∀ item ∈ items, (item.kit.bind ItemKit.price).isSome := by
  induction items generalizing total with
  | nil => simp
  | cons item rest ih =>
      unfold totalAmount at sum
      split at sum
      · cases sum
      · rename_i units priced
        refine List.forall_mem_cons.mpr ⟨?_, ih sum⟩
        unfold itemAmount at priced
        split at priced
        · rename_i given _
          obtain ⟨price, embedded, -⟩ := Option.bind_eq_some_iff.mp given
          rw [embedded]
          rfl
        · cases priced

theorem payOrder_priced (accepted : payOrder floats session stripe body = .ok taken) :
    ∀ item ∈ body.itemList, (item.kit.bind ItemKit.price).isSome := by
  unfold payOrder at accepted
  simp only at accepted
  split at accepted
  · cases accepted
  · split at accepted
    · cases accepted
    · rename_i total sum
      exact totalAmount_priced sum

theorem payOrder_nonempty (accepted : payOrder floats session stripe body = .ok taken) :
    body.itemList ≠ [] := by
  intro empty
  rw [payOrder, empty] at accepted
  cases accepted

theorem createPurchase_unpaid (unpaid : paid server session stripe body = none) :
    (createPurchase server session stripe now s body).2 = s ∧
      (createPurchase server session stripe now s body).1.fetchOk = false := by
  unfold createPurchase loginRequired
  unfold paid at unpaid
  cases login : session.user with
  | none => exact ⟨rfl, rfl⟩
  | some user =>
      cases order : payOrder server.floats session stripe body with
      | error reply => exact ⟨rfl, payOrder_refused order⟩
      | ok taken =>
          rw [login, order] at unpaid
          cases unpaid

def orderContext (server : Server) (session : Session) (now user : Nat) (body : PurchaseBody) :
    OrderContext :=
  ⟨server.importTime, now, user, adminSession session, body.shippingAddressId.get⟩

theorem paid_eq_some :
    paid server session stripe body = some (user, taken) ↔
      session.user = some user ∧ payOrder server.floats session stripe body = .ok taken := by
  unfold paid
  cases session.user with
  | none => simp
  | some id =>
      cases payOrder server.floats session stripe body with
      | error reply => simp
      | ok charges => simp

private theorem createPurchase_paid
    (payment : paid server session stripe body = some (user, taken)) :
    createPurchase server session stripe now s body =
      savePurchases server.engine (orderContext server session now user body)
        { s with charges := taken ++ s.charges } body.itemList := by
  obtain ⟨login, order⟩ := paid_eq_some.mp payment
  unfold createPurchase loginRequired
  rw [login, order]
  rfl

end Payment

section Loop

/-- The loop gets past the item: its row exists, and it has the keys that are indexed. -/
def Savable (db : Database) (item : PurchaseItem) : Bool :=
  (item.inventoryId.get.bind db.inventory.get?).isSome &&
    (item.kitId.present && item.quantity.present)

def itemKey (user : Nat) (item : PurchaseItem) : Option String :=
  item.inventoryId.get.map (fun id => pendingKey id user)

def itemKeys (user : Nat) (items : List PurchaseItem) : List String :=
  items.filterMap (itemKey user)

def lineOf (db : Database) (item : PurchaseItem) : Option OrderLine :=
  (item.inventoryId.get.bind db.inventory.get?).bind (orderLine item)

/-- The items that the loop handles from some point on. -/
def handledItems (engine : Engine) (context : OrderContext) (db : Database) (held : Option Nat)
    (created : List (Option OrderLine)) : List PurchaseItem → List PurchaseItem
  | [] => []
  | item :: rest =>
      if lookupRaises engine context db held created item || !Savable db item then []
      else
        item :: handledItems engine context db item.inventoryId.get (created ++ [lineOf db item])
          rest

/-- The items that the loop has handled when it ends. -/
def savedItems (engine : Engine) (context : OrderContext) (db : Database)
    (items : List PurchaseItem) : List PurchaseItem :=
  handledItems engine context db none [] items

def SaveOutcome.redis : SaveOutcome → Keyspace RedisValue
  | .saved _ redis => redis
  | .missing _ redis => redis
  | .raised redis => redis

variable {engine : Engine} {context : OrderContext} {db : Database}

/-- One round of the loop handles the item and goes on, or ends without touching Redis. -/
private theorem saveLoop_cons (held : Option Nat) (redis : Keyspace RedisValue)
    (created : List (Option OrderLine)) (item : PurchaseItem) (rest : List PurchaseItem) :
    (∃ name, itemKey context.user item = some name ∧
      handledItems engine context db held created (item :: rest) =
        item :: handledItems engine context db item.inventoryId.get
          (created ++ [lineOf db item]) rest ∧
      saveLoop engine context db held redis created (item :: rest) =
        saveLoop engine context db item.inventoryId.get (redis.delete name)
          (created ++ [lineOf db item]) rest) ∨
    (handledItems engine context db held created (item :: rest) = [] ∧
      (saveLoop engine context db held redis created (item :: rest) =
          .missing item.inventoryId.get redis ∨
        saveLoop engine context db held redis created (item :: rest) = .raised redis)) := by
  simp only [handledItems, saveLoop]
  cases raises : lookupRaises engine context db held created item with
  | true => exact Or.inr ⟨rfl, Or.inr rfl⟩
  | false =>
      simp only [Bool.false_or, Bool.false_eq_true, if_false]
      cases row : item.inventoryId.get.bind db.inventory.get? with
      | none =>
          have unsavable : Savable db item = false := by simp [Savable, row]
          exact Or.inr ⟨by rw [unsavable]; rfl, Or.inl rfl⟩
      | some inventory =>
          cases keys : item.kitId.present && item.quantity.present with
          | false =>
              have unsavable : Savable db item = false := by simp [Savable, row, keys]
              exact Or.inr ⟨by rw [unsavable]; rfl, Or.inr rfl⟩
          | true =>
              have savable : Savable db item = true := by simp [Savable, row, keys]
              obtain ⟨id, named, found⟩ := Option.bind_eq_some_iff.mp row
              have here : inventory.id = id := Table.key_of_get? found
              refine Or.inl ⟨pendingKey id context.user, by simp [itemKey, named], ?_, ?_⟩
              · simp only [savable, Bool.not_true, Bool.false_eq_true, if_false]
              · simp only [if_true, lineOf, row, Option.bind_some, here]

/-- However the loop ends, the keys of the items that it has handled are deleted. -/
private theorem saveLoop_redis (engine : Engine) (context : OrderContext) (db : Database)
    (held : Option Nat) (redis : Keyspace RedisValue) (created : List (Option OrderLine))
    (items : List PurchaseItem) :
    SaveOutcome.redis (saveLoop engine context db held redis created items) =
      redis.deleteAll (itemKeys context.user (handledItems engine context db held created
        items)) := by
  induction items generalizing held redis created with
  | nil => rfl
  | cons item rest ih =>
      rcases saveLoop_cons held redis created item rest with
        ⟨name, key, handled, unfolded⟩ | ⟨nothing, missing | raised⟩
      · rw [unfolded, ih, handled]
        simp [itemKeys, key]
      -- the item that stops the loop keeps its key, and so do all after it
      · rw [missing, nothing]
        rfl
      · rw [raised, nothing]
        rfl

/-- A loop that ends with all items saved has made the line of each. -/
private theorem saveLoop_lines {held : Option Nat} {redis after : Keyspace RedisValue}
    {created lines : List (Option OrderLine)} {items : List PurchaseItem}
    (saved : saveLoop engine context db held redis created items = .saved lines after) :
    lines = created ++ items.map (lineOf db) := by
  induction items generalizing held redis created with
  | nil =>
      cases saved
      simp
  | cons item rest ih =>
      rcases saveLoop_cons held redis created item rest with
        ⟨name, -, -, unfolded⟩ | ⟨-, missing | raised⟩
      · rw [unfolded] at saved
        rw [ih saved, List.append_assoc]
        rfl
      · rw [missing] at saved
        cases saved
      · rw [raised] at saved
        cases saved

theorem mem_itemKeys {user id other : Nat} {items : List PurchaseItem} :
    pendingKey id other ∈ itemKeys user items ↔
      other = user ∧ ∃ item ∈ items, item.inventoryId.get = some id := by
  unfold itemKeys itemKey
  rw [List.mem_filterMap]
  constructor
  · rintro ⟨item, member, key⟩
    obtain ⟨named, given, same⟩ := Option.map_eq_some_iff.mp key
    obtain ⟨rfl, rfl⟩ := pendingKey_injective same
    exact ⟨rfl, item, member, given⟩
  · rintro ⟨rfl, item, member, given⟩
    exact ⟨item, member, by simp [given]⟩

end Loop

section Commit

/-- The item can be stored: its row exists, and no required column stays null. -/
def Storable (engine : Engine) (db : Database) (item : PurchaseItem) : Prop :=
  ∃ inventory kitId quantity, item.inventoryId.get.bind db.inventory.get? = some inventory ∧
    item.kitId.get = some kitId ∧ kitAllowed engine db kitId = true ∧
    item.quantity.get = some quantity

def OrderStorable (engine : Engine) (context : OrderContext) (db : Database)
    (items : List PurchaseItem) : Prop :=
  (∀ item ∈ items, Storable engine db item) ∧
    referencesAllowed engine db context.user context.address [] = true

def Records (user : Nat) (item : PurchaseItem) (purchase : Purchase) : Prop :=
  purchase.userId = user ∧ item.kitId.get = some purchase.kitId ∧
    item.inventoryId.get = purchase.inventoryId ∧ item.quantity.get = some purchase.quantity

/-- The purchase is the row of the item's order line. -/
def Creates (db : Database) (context : OrderContext) (item : PurchaseItem)
    (purchase : Purchase) : Prop :=
  ∃ line id, lineOf db item = some line ∧ purchase = purchaseRow context line id

variable {engine : Engine} {context : OrderContext} {s : State} {items : List PurchaseItem}

theorem lineOf_eq_some {db : Database} {item : PurchaseItem} {line : OrderLine} :
    lineOf db item = some line ↔
      ∃ inventory, item.inventoryId.get.bind db.inventory.get? = some inventory ∧
        item.kitId.get = some line.kitId ∧ item.quantity.get = some line.quantity ∧
        line.inventoryId = inventory.id ∧ line.shippingType = shippingType inventory := by
  unfold lineOf orderLine
  rw [Option.bind_eq_some_iff]
  refine exists_congr fun inventory => and_congr_right fun _ => ?_
  split
  · rename_i kitId quantity kit units
    rw [kit, units]
    cases line
    simp only [Option.some.injEq, OrderLine.mk.injEq]
    constructor
    · rintro ⟨rfl, rfl, rfl, rfl⟩
      exact ⟨rfl, rfl, rfl, rfl⟩
    · rintro ⟨rfl, rfl, rfl, rfl⟩
      exact ⟨rfl, rfl, rfl, rfl⟩
  · rename_i incomplete
    constructor
    · intro none
      cases none
    · rintro ⟨kit, units, -, -⟩
      exact absurd units (incomplete _ _ kit)

private theorem allLines_eq_some {created : List (Option OrderLine)} {lines : List OrderLine} :
    allLines created = some lines ↔ created = lines.map some := by
  induction created generalizing lines with
  | nil =>
      cases lines with
      | nil => simp [allLines]
      | cons line rest => simp [allLines]
  | cons head rest ih =>
      cases head with
      | none => cases lines <;> simp [allLines]
      | some line =>
          cases lines with
          | nil => simp [allLines]
          | cons other others =>
              simp only [allLines, Option.map_eq_some_iff, List.map_cons, List.cons.injEq,
                Option.some.injEq]
              constructor
              · rintro ⟨tail, lines, rfl, rfl⟩
                exact ⟨rfl, ih.mp lines⟩
              · rintro ⟨rfl, tail⟩
                exact ⟨others, ih.mpr tail, rfl, rfl⟩

private theorem storable_iff_lines {db : Database} :
    (∀ item ∈ items, Storable engine db item) ↔
      ∃ lines : List OrderLine, items.map (lineOf db) = lines.map some ∧
        ∀ line ∈ lines, kitAllowed engine db line.kitId = true := by
  induction items with
  | nil =>
      refine iff_of_true (by simp) ⟨[], rfl, by simp⟩
  | cons item rest ih =>
      rw [List.forall_mem_cons, ih]
      constructor
      · rintro ⟨⟨inventory, kitId, quantity, row, kit, allowed, units⟩, lines, same, kits⟩
        refine ⟨⟨kitId, quantity, inventory.id, shippingType inventory⟩ :: lines, ?_, ?_⟩
        · have first : lineOf db item =
              some ⟨kitId, quantity, inventory.id, shippingType inventory⟩ :=
            lineOf_eq_some.mpr ⟨inventory, row, kit, units, rfl, rfl⟩
          rw [List.map_cons, List.map_cons, same, first]
        · exact List.forall_mem_cons.mpr ⟨allowed, kits⟩
      · rintro ⟨lines, same, kits⟩
        cases lines with
        | nil => cases same
        | cons line lines =>
            rw [List.map_cons, List.map_cons, List.cons.injEq] at same
            obtain ⟨inventory, row, kit, units, -, -⟩ := lineOf_eq_some.mp same.1
            obtain ⟨allowed, others⟩ := List.forall_mem_cons.mp kits
            exact ⟨⟨inventory, line.kitId, line.quantity, row, kit, allowed, units⟩,
              lines, same.2, others⟩

private theorem insertLines_rows (table : Table Purchase.id) (lines : List OrderLine) :
    (insertLines context table lines).1.rows =
      table.rows ++ (insertLines context table lines).2 := by
  induction lines generalizing table with
  | nil => simp [insertLines]
  | cons line rest ih =>
      simp only [insertLines, ih, Table.insertNew, List.append_assoc, List.singleton_append]

private theorem insertLines_lines (table : Table Purchase.id) (lines : List OrderLine) :
    List.Forall₂ (fun line purchase => ∃ id, purchase = purchaseRow context line id) lines
      (insertLines context table lines).2 := by
  induction lines generalizing table with
  | nil => exact List.Forall₂.nil
  | cons line rest ih => exact List.Forall₂.cons ⟨_, rfl⟩ (ih _)

theorem Creates.records {db : Database} {item : PurchaseItem} {purchase : Purchase}
    (creates : Creates db context item purchase) : Records context.user item purchase := by
  obtain ⟨line, id, same, rfl⟩ := creates
  obtain ⟨inventory, found, kit, units, named, -⟩ := lineOf_eq_some.mp same
  obtain ⟨key, given, present⟩ := Option.bind_eq_some_iff.mp found
  have here : inventory.id = key := Table.key_of_get? present
  refine ⟨rfl, kit, ?_, units⟩
  rw [given, ← here, ← named]
  rfl

private theorem creates_of_lines {db : Database} {lines : List OrderLine}
    {created : List Purchase} (same : items.map (lineOf db) = lines.map some)
    (rows : List.Forall₂ (fun line purchase => ∃ id, purchase = purchaseRow context line id)
      lines created) :
    List.Forall₂ (Creates db context) items created := by
  induction rows generalizing items with
  | nil =>
      rw [List.map_nil, List.map_eq_nil_iff] at same
      rw [same]
      exact List.Forall₂.nil
  | @cons line purchase lines created row rows ih =>
      cases items with
      | nil => cases same
      | cons item rest =>
          rw [List.map_cons, List.map_cons, List.cons.injEq] at same
          obtain ⟨id, shape⟩ := row
          exact List.Forall₂.cons ⟨line, id, same.1, shape⟩ (ih same.2)

private theorem referencesAllowed_iff {db : Database} {lines : List OrderLine} :
    referencesAllowed engine db context.user context.address lines = true ↔
      (∀ line ∈ lines, kitAllowed engine db line.kitId = true) ∧
        referencesAllowed engine db context.user context.address [] = true := by
  simp [referencesAllowed]

private theorem flushes_lines {db : Database} {lines : List OrderLine}
    (kits : ∀ line ∈ lines, kitAllowed engine db line.kitId = true)
    (shared : referencesAllowed engine db context.user context.address [] = true) :
    flushes engine context db (lines.map some) = true := by
  have all : allLines (lines.map some) = some lines := allLines_eq_some.mpr rfl
  have allowed := referencesAllowed_iff.mpr ⟨kits, shared⟩
  rw [flushes, all, Option.any_some, allowed, Bool.or_true]

/-- The loop saves every item of an order that can be stored. -/
private theorem saveLoop_storable {db : Database} (redis : Keyspace RedisValue)
    (shared : referencesAllowed engine db context.user context.address [] = true)
    (storable : ∀ item ∈ items, Storable engine db item) :
    (∃ after, saveLoop engine context db none redis [] items =
        .saved (items.map (lineOf db)) after) ∧
      savedItems engine context db items = items := by
  -- the lines made so far can be written at any time, so no lookup raises
  suffices general : ∀ (held : Option Nat) (redis : Keyspace RedisValue) (lines : List OrderLine),
      (∀ line ∈ lines, kitAllowed engine db line.kitId = true) →
      (∃ after, saveLoop engine context db held redis (lines.map some) items =
          .saved (lines.map some ++ items.map (lineOf db)) after) ∧
        handledItems engine context db held (lines.map some) items = items from
    general none redis [] (by simp)
  induction items with
  | nil => exact fun held redis lines _ => ⟨⟨redis, by simp [saveLoop]⟩, rfl⟩
  | cons item rest ih =>
      intro held redis lines kits
      obtain ⟨first, others⟩ := List.forall_mem_cons.mp storable
      obtain ⟨inventory, kitId, quantity, row, kit, allowed, units⟩ := first
      have line : lineOf db item =
          some ⟨kitId, quantity, inventory.id, shippingType inventory⟩ :=
        lineOf_eq_some.mpr ⟨inventory, row, kit, units, rfl, rfl⟩
      have quiet : lookupRaises engine context db held (lines.map some) item = false := by
        rw [lookupRaises, flushes_lines kits shared, Bool.not_true, Bool.and_false]
      have keys : (item.kitId.present && item.quantity.present) = true := by
        rw [JsonField.present_of_get kit, JsonField.present_of_get units]
        rfl
      obtain ⟨⟨after, saved⟩, handled⟩ := ih others item.inventoryId.get
        (redis.delete (pendingKey inventory.id context.user))
        (lines ++ [⟨kitId, quantity, inventory.id, shippingType inventory⟩]) (by
          simpa [or_imp, forall_and] using ⟨kits, allowed⟩)
      rw [List.map_append, List.map_singleton, ← line] at saved handled
      refine ⟨⟨after, ?_⟩, ?_⟩
      · have made : orderLine item inventory = lineOf db item := by
          rw [lineOf, row, Option.bind_some]
        rw [saveLoop, quiet]
        simp only [row, keys, if_true, Bool.false_eq_true, if_false, made, saved,
          List.append_assoc, List.map_cons, List.singleton_append]
      · have savable : Savable db item = true := by simp [Savable, row, keys]
        rw [handledItems, quiet, savable]
        simp only [Bool.not_true, Bool.or_false, Bool.false_eq_true, if_false, handled]

theorem savedItems_storable {db : Database} (storable : OrderStorable engine context db items) :
    savedItems engine context db items = items :=
  (saveLoop_storable ⟨fun _ => none⟩ storable.2 storable.1).2

/-- The state that the saving loop leaves: only the keys of the handled items are gone. -/
def cleared (engine : Engine) (context : OrderContext) (s : State) (items : List PurchaseItem) :
    State :=
  { s with
    redis := s.redis.deleteAll (itemKeys context.user (savedItems engine context s.db items)) }

/-- The answer to an order that is stored, for which the buyer is loaded again. -/
def confirmation (db : Database) (user : Nat) (created : List Purchase) :
    Reply (List PurchaseDump) :=
  if userLoads db user then .ok 201 (created.map (dump db)) else .raised

theorem confirmation_fetchOk (db : Database) (user : Nat) (created : List Purchase) :
    (confirmation db user created).fetchOk = userLoads db user := by
  unfold confirmation
  cases userLoads db user <;> rfl

private theorem reload_creates {db : Database} {created : List Purchase} (nonempty : items ≠ [])
    (creates : List.Forall₂ (Creates db context) items created) :
    reload db created = confirmation db context.user created := by
  have buyers : ∀ purchase ∈ created, purchase.userId = context.user := by
    intro purchase member
    obtain ⟨item, -, made⟩ := paired_of_mem_right creates member
    exact made.records.1
  have loads : created.all (buyerLoads db) = userLoads db context.user := by
    cases creates with
    | nil => exact absurd rfl nonempty
    | @cons item purchase rest others first later =>
        rw [Bool.eq_iff_iff, List.all_eq_true]
        constructor
        · intro all
          rw [← buyers purchase List.mem_cons_self]
          exact all purchase List.mem_cons_self
        · intro loaded other member
          rw [buyerLoads, buyers other member]
          exact loaded
  rw [reload, confirmation, loads]

/-- A storable order is stored, one purchase for each item, and answered once its buyer is
loaded. -/
private theorem savePurchases_storable (nonempty : items ≠ [])
    (storable : OrderStorable engine context s.db items) :
    ∃ table created, table.rows = s.db.purchases.rows ++ created ∧
      List.Forall₂ (Creates s.db context) items created ∧
      savePurchases engine context s items =
        (confirmation s.db context.user created,
          { cleared engine context s items with db := { s.db with purchases := table } }) := by
  obtain ⟨lines, same, kits⟩ := storable_iff_lines.mp storable.1
  obtain ⟨⟨after, outcome⟩, -⟩ := saveLoop_storable s.redis storable.2 storable.1
  have keys := saveLoop_redis engine context s.db none s.redis [] items
  rw [outcome] at keys
  have allowed := referencesAllowed_iff.mpr ⟨kits, storable.2⟩
  have all : allLines (items.map (lineOf s.db)) = some lines := allLines_eq_some.mpr same
  have creates : List.Forall₂ (Creates s.db context) items
      (insertLines context s.db.purchases lines).2 :=
    creates_of_lines same (insertLines_lines _ _)
  refine ⟨(insertLines context s.db.purchases lines).1,
    (insertLines context s.db.purchases lines).2, insertLines_rows _ _, creates, ?_⟩
  unfold savePurchases cleared savedItems
  rw [outcome, ← keys, ← reload_creates nonempty creates]
  simp only [commitPurchases, all, allowed, if_true]
  rfl

/-- Any other order is answered with an error after the loop has deleted keys. -/
private theorem savePurchases_unstorable (fails : ¬ OrderStorable engine context s.db items) :
    (savePurchases engine context s items).1.fetchOk = false ∧
      (savePurchases engine context s items).2 = cleared engine context s items := by
  have keys := saveLoop_redis engine context s.db none s.redis [] items
  unfold savePurchases cleared savedItems
  cases outcome : saveLoop engine context s.db none s.redis [] items with
  | missing inventoryId redis =>
      rw [outcome] at keys
      rw [← keys]
      exact ⟨rfl, rfl⟩
  | raised redis =>
      rw [outcome] at keys
      rw [← keys]
      exact ⟨rfl, rfl⟩
  | saved created redis =>
      rw [outcome] at keys
      rw [← keys]
      have made := saveLoop_lines outcome
      rw [List.nil_append] at made
      subst made
      simp only [commitPurchases]
      cases all : allLines (items.map (lineOf s.db)) with
      | none => exact ⟨rfl, rfl⟩
      | some lines =>
          have refused : ¬ referencesAllowed engine s.db context.user context.address lines := by
            intro allowed
            obtain ⟨kits, shared⟩ := referencesAllowed_iff.mp allowed
            exact fails ⟨storable_iff_lines.mpr ⟨lines, allLines_eq_some.mp all, kits⟩, shared⟩
          simp only [refused]
          exact ⟨rfl, rfl⟩

end Commit

section Requests

variable (server : Server) (session : Session) (stripe : PaymentRequest → StripeOutcome)
  (now : Nat) (s : State) (body : PurchaseBody)

def BodyStorable (user : Nat) : Prop :=
  OrderStorable server.engine (orderContext server session now user body) s.db body.itemList

/-- The items of a request that the loop has handled when it ends. -/
def bodyItems (user : Nat) : List PurchaseItem :=
  savedItems server.engine (orderContext server session now user body) s.db body.itemList

/-- The state after the loop of a request. -/
def bodyCleared (user : Nat) : State :=
  cleared server.engine (orderContext server session now user body) s body.itemList

/-- Everything that a purchase request can do. It is refused before the payment, or is paid
and stored, or is paid and fails after the loop has deleted keys. -/
theorem createPurchase_cases :
    (paid server session stripe body = none ∧
      (createPurchase server session stripe now s body).1.fetchOk = false ∧
      (createPurchase server session stripe now s body).2 = s) ∨
    (∃ user taken, paid server session stripe body = some (user, taken) ∧
      BodyStorable server session now s body user ∧
      ∃ table created, table.rows = s.db.purchases.rows ++ created ∧
        List.Forall₂ (Creates s.db (orderContext server session now user body)) body.itemList
          created ∧
        createPurchase server session stripe now s body =
          (confirmation s.db user created,
            { bodyCleared server session now s body user with
              db := { s.db with purchases := table }
              charges := taken ++ s.charges })) ∨
    (∃ user taken, paid server session stripe body = some (user, taken) ∧
      ¬ BodyStorable server session now s body user ∧
      (createPurchase server session stripe now s body).1.fetchOk = false ∧
      (createPurchase server session stripe now s body).2 =
        { bodyCleared server session now s body user with charges := taken ++ s.charges }) := by
  cases payment : paid server session stripe body with
  | none =>
      obtain ⟨unchanged, refused⟩ := createPurchase_unpaid payment
      exact Or.inl ⟨rfl, refused, unchanged⟩
  | some order =>
      obtain ⟨user, taken⟩ := order
      rw [createPurchase_paid payment]
      by_cases storable : BodyStorable server session now s body user
      · have nonempty := payOrder_nonempty (paid_eq_some.mp payment).2
        obtain ⟨table, created, rows, creates, stored⟩ := savePurchases_storable
          (s := { s with charges := taken ++ s.charges }) nonempty storable
        exact Or.inr (Or.inl ⟨user, taken, rfl, storable, table, created, rows, creates, stored⟩)
      · obtain ⟨refused, after⟩ := savePurchases_unstorable
          (s := { s with charges := taken ++ s.charges }) storable
        exact Or.inr (Or.inr ⟨user, taken, rfl, storable, refused, after⟩)

theorem createPurchase_stored
    (success : (createPurchase server session stripe now s body).1.fetchOk = true) :
    ∃ user taken, paid server session stripe body = some (user, taken) ∧
      BodyStorable server session now s body user ∧
      ∃ table created, table.rows = s.db.purchases.rows ++ created ∧
        List.Forall₂ (Creates s.db (orderContext server session now user body)) body.itemList
          created ∧
        createPurchase server session stripe now s body =
          (.ok 201 (created.map (dump s.db)),
            { bodyCleared server session now s body user with
              db := { s.db with purchases := table }
              charges := taken ++ s.charges }) := by
  rcases createPurchase_cases server session stripe now s body with ⟨-, refused, -⟩ |
    ⟨user, taken, payment, storable, table, created, rows, creates, stored⟩ |
    ⟨-, -, -, -, refused, -⟩
  · rw [refused] at success
    cases success
  · rw [stored, confirmation_fetchOk] at success
    rw [confirmation, if_pos success] at stored
    exact ⟨user, taken, payment, storable, table, created, rows, creates, stored⟩
  · rw [refused] at success
    cases success

/-- Buying writes the purchases, Redis and the payments. It does not touch the stock: the units
were taken when they were reserved. -/
theorem createPurchase_frame :
    ∃ purchases redis charges, (createPurchase server session stripe now s body).2 =
      ⟨{ s.db with purchases := purchases }, redis, charges⟩ := by
  rcases createPurchase_cases server session stripe now s body with ⟨-, -, after⟩ |
    ⟨user, taken, -, -, table, created, -, -, stored⟩ | ⟨user, taken, -, -, -, after⟩
  · exact ⟨_, _, _, after⟩
  · exact ⟨_, _, _, congrArg Prod.snd stored⟩
  · exact ⟨_, _, _, after⟩

theorem createPurchase_inventory :
    (createPurchase server session stripe now s body).2.db.inventory = s.db.inventory := by
  obtain ⟨purchases, redis, charges, after⟩ :=
    createPurchase_frame server session stripe now s body
  rw [after]

theorem createPurchase_redis :
    (createPurchase server session stripe now s body).2.redis =
      match paid server session stripe body with
      | none => s.redis
      | some (user, _) =>
          s.redis.deleteAll (itemKeys user (bodyItems server session now s body user)) := by
  rcases createPurchase_cases server session stripe now s body with ⟨payment, -, after⟩ |
    ⟨user, taken, payment, -, table, created, -, -, stored⟩ | ⟨user, taken, payment, -, -, after⟩
  · rw [after, payment]
  · rw [stored, payment]
    rfl
  · rw [after, payment]
    rfl

end Requests

end ProductSite.Backend.PurchaseSaving
