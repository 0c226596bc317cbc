/- Module: ProductSite/Checkout/Prices
   source: backend/app/routes/purchase_routes.py, backend/app/schemas/purchase_schema.py
   digest: The charge is the stored price iff the prices embedded in the items add up to it. -/

import ProductSite.Backend.Requests

set_option autoImplicit false
set_option relaxedAutoImplicit false

namespace ProductSite.Checkout.Prices

open ProductSite.Foundation.Floats (Arithmetic)
open ProductSite.Foundation.Wire (JsonField Reply)
open ProductSite.Backend.Models
open ProductSite.Backend.PurchaseRoutes
open ProductSite.Backend.PurchaseSaving
open ProductSite.Backend.Requests (customer sampleServer shelfOnly)

structure ItemOrder where
  kitId : JsonField Nat
  inventoryId : JsonField Nat
  quantity : JsonField Int

def order (item : PurchaseItem) : ItemOrder := ⟨item.kitId, item.inventoryId, item.quantity⟩

def SameOrder (first second : PurchaseBody) : Prop :=
  first.itemList.map order = second.itemList.map order ∧
    first.billingDetails = second.billingDetails ∧ first.billingInfo = second.billingInfo ∧
    first.shippingAddressId = second.shippingAddressId

def storedKit (db : Database) (item : PurchaseItem) : Option Kit :=
  item.kitId.get.bind db.kits.get?

/-- The cents of the stored price of the kit. -/
def storedCents (floats : Arithmetic) (db : Database) (item : PurchaseItem) : Option Int :=
  (storedKit db item).bind (fun kit => cents floats kit.price)

/-- The cents of the embedded price. -/
def embeddedCents (floats : Arithmetic) (item : PurchaseItem) : Option Int :=
  (item.kit.bind ItemKit.price).bind (cents floats)

/-- The item with the stored price of its kit in place of the embedded one. -/
def withStoredPrice (db : Database) (item : PurchaseItem) : PurchaseItem :=
  { item with kit := (storedKit db item).map (fun kit => ⟨some kit.price⟩) }

def storedAmount (floats : Arithmetic) (db : Database) (body : PurchaseBody) : Option Int :=
  totalAmount floats 0 (body.itemList.map (withStoredPrice db))

def Charges (server : Server) (session : Session) (stripe : PaymentRequest → StripeOutcome)
    (now : Nat) (s : State) (body : PurchaseBody) (amount : Int) : Prop :=
  ∃ charge, (createPurchase server session stripe now s body).2.charges = charge :: s.charges ∧
    charge.amount = amount

/-- By how much the embedded price of an item raises the amount. -/
def overcharge (floats : Arithmetic) (db : Database) (item : PurchaseItem) : Int :=
  ((embeddedCents floats item).getD 0 - (storedCents floats db item).getD 0) *
    (item.quantity.getD 1).getD 0

/-- The kits of the items are stored with prices that have an amount in cents, and the
differences to these amounts cancel out. -/
def PricesAgree (floats : Arithmetic) (db : Database) (body : PurchaseBody) : Prop :=
  (∀ item ∈ body.itemList, (storedCents floats db item).isSome) ∧
    (body.itemList.map (overcharge floats db)).sum = 0

section Totals

variable {floats : Arithmetic} {db : Database}

private theorem embeddedCents_stored (db : Database) (item : PurchaseItem) :
    embeddedCents floats (withStoredPrice db item) = storedCents floats db item := by
  unfold embeddedCents withStoredPrice storedCents
  cases storedKit db item <;> rfl

private theorem itemAmount_eq (item : PurchaseItem) :
    itemAmount floats item =
      (embeddedCents floats item).bind (fun cents => (item.quantity.getD 1).map (cents * ·)) := by
  unfold itemAmount
  split
  · rename_i amount quantity priced asked
    rw [embeddedCents, priced, asked]
    rfl
  · rename_i incomplete
    cases priced : embeddedCents floats item with
    | none => rfl
    | some amount =>
        cases asked : item.quantity.getD 1 with
        | none => rfl
        | some quantity => exact absurd asked (incomplete amount quantity priced)

private theorem itemAmount_stored (db : Database) {item : PurchaseItem} {amount : Int}
    (priced : itemAmount floats item = some amount) :
    itemAmount floats (withStoredPrice db item) =
      if (storedCents floats db item).isSome then some (amount - overcharge floats db item)
      else none := by
  rw [itemAmount_eq, Option.bind_eq_some_iff] at priced
  obtain ⟨embedded, given, product⟩ := priced
  obtain ⟨quantity, asked, rfl⟩ := Option.map_eq_some_iff.mp product
  have units : (withStoredPrice db item).quantity.getD 1 = some quantity := asked
  rw [itemAmount_eq, embeddedCents_stored, units, overcharge, given, asked]
  cases storedCents floats db item with
  | none => rfl
  | some stored =>
      simp only [Option.bind_some, Option.map_some, Option.isSome_some, if_true, Option.getD_some,
        Option.some.injEq]
      ring

/-- The stored total is the embedded one without the overcharges, if all kits are stored. -/
private theorem totalAmount_stored {items : List PurchaseItem} {total : Int}
    (sum : totalAmount floats 0 items = some total) :
    totalAmount floats 0 (items.map (withStoredPrice db)) =
      if ∀ item ∈ items, (storedCents floats db item).isSome then
        some (total - (items.map (overcharge floats db)).sum)
      else none := by
  induction items generalizing total with
  | nil =>
      cases sum
      rfl
  | cons item rest ih =>
      cases priced : itemAmount floats item with
      | none =>
          rw [totalAmount, priced] at sum
          cases sum
      | some amount =>
          rw [totalAmount_cons priced] at sum
          obtain ⟨later, restSum, rfl⟩ := Option.map_eq_some_iff.mp sum
          have first := itemAmount_stored db priced
          by_cases stored : (storedCents floats db item).isSome
          · rw [if_pos stored] at first
            rw [List.map_cons, totalAmount_cons first, ih restSum]
            simp only [List.forall_mem_cons, stored, true_and, List.map_cons, List.sum_cons]
            split
            · rw [Option.map_some, Option.some.injEq]
              omega
            · rfl
          · rw [if_neg stored] at first
            rw [List.map_cons, totalAmount, first]
            simp [stored]

private theorem storedAmount_iff {body : PurchaseBody} {total : Int}
    (sum : totalAmount floats 0 body.itemList = some total) :
    storedAmount floats db body = some total ↔ PricesAgree floats db body := by
  unfold storedAmount PricesAgree
  rw [totalAmount_stored sum]
  split
  · rename_i stored
    rw [Option.some.injEq]
    constructor
    · intro equal
      exact ⟨stored, by omega⟩
    · rintro ⟨-, zero⟩
      omega
  · rename_i missing
    simp [missing]

private theorem storedAmount_same (db : Database) {first second : PurchaseBody}
    (same : SameOrder first second) :
    storedAmount floats db first = storedAmount floats db second := by
  have priced (item : PurchaseItem) : withStoredPrice db item =
      withStoredPrice db
        ⟨(order item).kitId, (order item).inventoryId, (order item).quantity, none⟩ := rfl
  have listed (items : List PurchaseItem) : items.map (withStoredPrice db) =
      (items.map order).map
        (fun o => withStoredPrice db ⟨o.kitId, o.inventoryId, o.quantity, none⟩) := by
    rw [List.map_map]
    exact List.map_congr_left fun item _ => priced item
  unfold storedAmount
  rw [listed first.itemList, listed second.itemList, same.1]

end Totals

section Requests

variable {server : Server} {session : Session} {stripe : PaymentRequest → StripeOutcome}
  {now : Nat} {s : State} {body : PurchaseBody}

private theorem charges_iff (role : session.role ≠ some "admin")
    (accepted : (createPurchase server session stripe now s body).1.status = 201) :
    ∃ total, totalAmount server.floats 0 body.itemList = some total ∧
      ∀ amount, Charges server session stripe now s body amount ↔ total = amount := by
  obtain ⟨user, taken, payment, -, table, created, -, -, stored⟩ :=
    createPurchase_stored server session stripe now s body (Reply.fetchOk_of_status accepted)
  have charged := payOrder_taken (paid_eq_some.mp payment).2
  rw [if_neg (by simpa [adminSession] using role)] at charged
  obtain ⟨charge, rfl, sum⟩ := charged
  refine ⟨charge.amount, sum, ?_⟩
  intro amount
  unfold Charges
  rw [stored]
  simp only [List.singleton_append, List.cons.injEq, and_true, exists_eq_left']

end Requests

/-- However floats are rounded, two accepted requests of a customer that differ only in the
embedded prices are charged the same, namely the amount of the stored prices, precisely when in
each of them all kits are stored and the differences to their amounts cancel out. -/
theorem charge_from_stored_prices_iff (server : Server) (session : Session)
    (stripe : PaymentRequest → StripeOutcome) (now : Nat) (s : State)
    (first second : PurchaseBody) (role : session.role ≠ some "admin")
    (same : SameOrder first second)
    (accepted : (createPurchase server session stripe now s first).1.status = 201)
    (accepted' : (createPurchase server session stripe now s second).1.status = 201) :
    (∃ amount, storedAmount server.floats s.db first = some amount ∧
      Charges server session stripe now s first amount ∧
      Charges server session stripe now s second amount) ↔
    PricesAgree server.floats s.db first ∧ PricesAgree server.floats s.db second := by
  obtain ⟨total, sum, charged⟩ := charges_iff role accepted
  obtain ⟨total', sum', charged'⟩ := charges_iff role accepted'
  have stored : storedAmount server.floats s.db first = storedAmount server.floats s.db second :=
    storedAmount_same s.db same
  rw [← storedAmount_iff sum, ← storedAmount_iff sum', ← stored]
  constructor
  · rintro ⟨amount, computed, one, two⟩
    rw [(charged amount).mp one, (charged' amount).mp two]
    exact ⟨computed, computed⟩
  · rintro ⟨computed, computed'⟩
    have equal : total' = total := Option.some.inj (computed'.symm.trans computed)
    exact ⟨total, computed, (charged total).mpr rfl, (charged' total).mpr equal⟩

section Samples

def orderAt (prices : List ℚ) : PurchaseBody :=
  ⟨.value (prices.map (fun price => ⟨.value 1, .value 1, .value 1, some ⟨some price⟩⟩)),
    some ⟨some "pm_card", some "a@b.c"⟩, none, .absent⟩

def submit (prices : List ℚ) : Reply (List PurchaseDump) × State :=
  createPurchase sampleServer customer (fun _ => .intent "succeeded") 0 (shelfOnly 3)
    (orderAt prices)

end Samples

/-- Both requests are accepted; one is charged ten dollars and the other one dollar. -/
theorem client_names_the_price :
    SameOrder (orderAt [10]) (orderAt [1]) ∧
      (submit [10]).1.status = 201 ∧ (submit [1]).1.status = 201 ∧
      storedAmount .exact (shelfOnly 3).db (orderAt [1]) = some 1000 ∧
      (submit [10]).2.charges.map PaymentRequest.amount = [1000] ∧
      (submit [1]).2.charges.map PaymentRequest.amount = [100] := by
  refine ⟨⟨rfl, rfl, rfl, rfl⟩, ?_⟩
  decide +kernel

theorem cancelling_prices_are_charged_alike :
    ∃ amount, storedAmount .exact (shelfOnly 3).db (orderAt [10, 10]) = some amount ∧
      Charges sampleServer customer (fun _ => .intent "succeeded") 0 (shelfOnly 3)
        (orderAt [10, 10]) amount ∧
      Charges sampleServer customer (fun _ => .intent "succeeded") 0 (shelfOnly 3)
        (orderAt [12, 8]) amount := by
  refine (charge_from_stored_prices_iff sampleServer customer (fun _ => .intent "succeeded") 0
    (shelfOnly 3) (orderAt [10, 10]) (orderAt [12, 8]) (by decide) ⟨rfl, rfl, rfl, rfl⟩
    (by decide +kernel) (by decide +kernel)).mpr ?_
  constructor
  · refine ⟨?_, by decide +kernel⟩
    intro item member
    obtain ⟨price, -, rfl⟩ := List.mem_map.mp member
    rfl
  · refine ⟨?_, by decide +kernel⟩
    intro item member
    obtain ⟨price, -, rfl⟩ := List.mem_map.mp member
    rfl

/-- The float product decides: the cents of 24.99 and of 24.98 differ. -/
example : cents .binary (2499 / 100) = some 2499 ∧ cents .binary (2498 / 100) = some 2498 := by
  decide +kernel

end ProductSite.Checkout.Prices
