/- Module: ProductSite/Stock/Returns
   source: backend/app/routes/purchase_routes.py, react-router-bootstrap-app/src/pages/Orders.jsx
   digest: Partial updates of a purchase credit its units once iff returned ones name a status. -/

import ProductSite.Backend.Requests

set_option autoImplicit false
set_option relaxedAutoImplicit false

namespace ProductSite.Stock.Returns

open ProductSite.Foundation.KeyedTable (Table)
open ProductSite.Foundation.Runs
open ProductSite.Foundation.Wire (JsonField)
open ProductSite.Backend.Models
open ProductSite.Backend.PurchaseRoutes
open ProductSite.Backend.Requests (administrator sampleShop shelf)

/-- An update that leaves out the quantity and the row of the purchase. -/
structure PartialUpdate where
  session : Session
  status : JsonField String
  availableDate : JsonField Int
  pickUpDate : JsonField Nat
  paymentMethod : JsonField String

def PartialUpdate.body (update : PartialUpdate) : PurchaseUpdate :=
  ⟨update.status, update.availableDate, update.pickUpDate, update.paymentMethod, .absent, .absent⟩

def handle (engine : Engine) (purchaseId : Nat) (s : State) (update : PartialUpdate) : State :=
  (updatePurchase engine update.session s purchaseId update.body).2

def Succeeds (engine : Engine) (purchaseId : Nat) (s : State) (update : PartialUpdate) : Prop :=
  (updatePurchase engine update.session s purchaseId update.body).1.status = 200

/-- The Save button of the orders page: one request for each of three fields. -/
def saveButton (session : Session) (status : Option String) (availableDate : Option Int)
    (pickUpDate : Option Nat) : List PartialUpdate :=
  [⟨session, .ofOption status, .absent, .absent, .absent⟩,
    ⟨session, .absent, .ofOption availableDate, .absent, .absent⟩,
    ⟨session, .absent, .absent, .ofOption pickUpDate, .absent⟩]

def givenBack (status : Option String) (quantity : Int) : Int :=
  if status = some "Returned" then quantity else 0

/-- The row holds its first quantity, and the units of the purchase on top of it precisely
while the stored status is Returned. -/
def ReturnAccounted (purchaseId row : Nat) (first quantity : Int) (s : State) : Prop :=
  ∃ purchase, s.db.purchases.get? purchaseId = some purchase ∧
    s.stock row = some (first + givenBack purchase.status quantity)

/-- A returned purchase of some units is only updated by requests that name a status. -/
def NamesStatus (purchaseId : Nat) (quantity : Int) (s : State) (update : PartialUpdate) : Prop :=
  ∀ purchase, s.db.purchases.get? purchaseId = some purchase →
    quantity = 0 ∨ purchase.status ≠ some "Returned" ∨ update.status.present = true

def Fixed (purchaseId row : Nat) (quantity : Int) (s : State) : Prop :=
  ∃ purchase, s.db.purchases.get? purchaseId = some purchase ∧
    purchase.inventoryId = some row ∧ purchase.quantity = quantity

section Steps

variable {engine : Engine} {purchaseId row : Nat} {quantity : Int} {s : State}
  {update : PartialUpdate}

private theorem handle_effect {purchase : Purchase}
    (stored : s.db.purchases.get? purchaseId = some purchase)
    (fixedRow : purchase.inventoryId = some row) (success : Succeeds engine purchaseId s update) :
    (handle engine purchaseId s update).db.purchases.get? purchaseId =
        some (assignFields purchase purchase.quantity update.body) ∧
      (handle engine purchaseId s update).stock row =
        (s.stock row).map (· + returnedUnits purchase purchase.quantity update.body) := by
  obtain ⟨⟨before, updated, written⟩, accepted, -⟩ :=
    (Option.any_eq_true _ _).mp (updatePurchase_status.mp success)
  obtain ⟨found, plan⟩ := acceptedUpdate_eq_some accepted
  have same : before = purchase := Option.some.inj (found.symm.trans stored)
  subst same
  obtain ⟨amount, shape, -⟩ := updatePlan_cases plan
  have units : before.quantity = updated.quantity := Option.some.inj amount
  have state : handle engine purchaseId s update = commitUpdate s updated written := by
    unfold handle
    rw [updatePurchase_state, accepted]
  have identifier : updated.id = purchaseId := by
    have key : before.id = purchaseId := Table.key_of_get? stored
    rw [shape]
    exact key
  have named : updated.inventoryId = some row := by
    rw [shape]
    exact fixedRow
  rw [state, updatePlan_stock plan]
  constructor
  · change (s.db.purchases.save updated).get? purchaseId = _
    rw [Table.get?_save, if_pos identifier.symm, stored, units, ← shape]
    rfl
  · rw [Foundation.Balances.postAll_credits, updatedEntries, named, units]
    simp

private theorem fixed_handle (before : Fixed purchaseId row quantity s)
    (success : Succeeds engine purchaseId s update) :
    Fixed purchaseId row quantity (handle engine purchaseId s update) := by
  obtain ⟨purchase, stored, named, units⟩ := before
  exact ⟨_, (handle_effect stored named success).1, named, units⟩

/-- The balance of one update: what it gives back is what its new status calls for, unless
a returned purchase is updated without a status. -/
private theorem givenBack_assign_iff (quantity : Int) (purchase : Purchase)
    (update : PartialUpdate) :
    givenBack purchase.status quantity + returnedUnits purchase quantity update.body =
        givenBack (update.status.assign purchase.status) quantity ↔
      quantity = 0 ∨ purchase.status ≠ some "Returned" ∨ update.status.present = true := by
  obtain ⟨session, status, availableDate, pickUpDate, paymentMethod⟩ := update
  unfold givenBack returnedUnits PartialUpdate.body
  -- an absent status reads as one that is not Returned, but leaves the stored one as it is
  by_cases returned : purchase.status = some "Returned"
  · cases status with
    | absent => simp [returned, JsonField.get, JsonField.assign, JsonField.present, eq_comm]
    | null => simp [returned, JsonField.get, JsonField.assign, JsonField.present]
    | value status =>
        by_cases stays : status = "Returned"
        · simp [returned, stays, JsonField.get, JsonField.assign, JsonField.present]
        · simp [returned, stays, JsonField.get, JsonField.assign, JsonField.present]
  · cases status with
    | absent => simp [returned, JsonField.get, JsonField.assign]
    | null => simp [returned, JsonField.get, JsonField.assign]
    | value status =>
        by_cases returns : status = "Returned"
        · simp [returned, returns, JsonField.get, JsonField.assign]
        · simp [returned, returns, JsonField.get, JsonField.assign]

private theorem returnAccounted_handle_iff {first : Int}
    (before : ReturnAccounted purchaseId row first quantity s)
    (fixed : Fixed purchaseId row quantity s) (success : Succeeds engine purchaseId s update) :
    ReturnAccounted purchaseId row first quantity (handle engine purchaseId s update) ↔
      NamesStatus purchaseId quantity s update := by
  obtain ⟨purchase, stored, named, rfl⟩ := fixed
  obtain ⟨same, present, account⟩ := before
  rw [stored] at present
  cases present
  obtain ⟨after, stock⟩ := handle_effect stored named success
  rw [account] at stock
  have balance := givenBack_assign_iff purchase.quantity purchase update
  unfold ReturnAccounted NamesStatus
  rw [after, stock, stored]
  simp only [Option.some.injEq, exists_eq_left', Option.map_some, forall_eq']
  rw [← balance, add_assoc, add_right_inj]
  rfl

end Steps

/-- In a run of successful updates that leave quantity and row alone, the row accounts for the
return at every point precisely when no returned purchase is updated without a status. -/
theorem returnAccounted_along_iff (engine : Engine) (s : State) (purchase : Purchase)
    (inv : Inventory) (updates : List PartialUpdate)
    (stored : s.db.purchases.get? purchase.id = some purchase)
    (named : purchase.inventoryId = some inv.id)
    (found : s.db.inventory.get? inv.id = some inv)
    (kept : purchase.status ≠ some "Returned")
    (succeed : EachStep (handle engine purchase.id) (Succeeds engine purchase.id) s updates) :
    Along (handle engine purchase.id)
        (ReturnAccounted purchase.id inv.id inv.quantity purchase.quantity) s updates ↔
      EachStep (handle engine purchase.id) (NamesStatus purchase.id purchase.quantity)
        s updates := by
  have fixed : Along (handle engine purchase.id)
      (Fixed purchase.id inv.id purchase.quantity) s updates :=
    along_of_eachStep (fun _ _ before success => fixed_handle before success)
      ⟨purchase, stored, named, rfl⟩ succeed
  have start : ReturnAccounted purchase.id inv.id inv.quantity purchase.quantity s := by
    refine ⟨purchase, stored, ?_⟩
    rw [givenBack, if_neg kept, add_zero]
    exact stockOf_of_get? found
  exact along_iff_eachStep
    (fun _ _ before inside => returnAccounted_handle_iff before inside.1 inside.2)
    start (fixed.eachStep.and succeed)

section Samples

def soldFromShelf (status : String) : Purchase :=
  ⟨1, 1, 1, some 1, 2, 0, some status, none, "pickup", some "stripe", some 1234, some 1⟩

def oneSale (status : String) : State :=
  sampleShop ⟨[shelf 3], by simp [shelf], by simp [shelf]⟩
    ⟨[soldFromShelf status], by simp [soldFromShelf], by simp [soldFromShelf]⟩

end Samples

/-- Saving a return on the orders page: the units come back with the first request, and leave
with each of the other two while the purchase stays returned. -/
theorem saving_a_return_takes_the_units_twice :
    EachStep (handle .mysql 1) (Succeeds .mysql 1) (oneSale "Ready for pickup")
        (saveButton administrator (some "Returned") (some 1234) (some 1)) ∧
      ¬ ReturnAccounted 1 1 3 2 (run (handle .mysql 1) (oneSale "Ready for pickup")
        (saveButton administrator (some "Returned") (some 1234) (some 1))) := by
  constructor
  · simp only [saveButton, eachStep_cons]
    exact ⟨rfl, rfl, rfl, eachStep_nil _ _⟩
  · rintro ⟨purchase, stored, account⟩
    have returned : purchase.status = some "Returned" := by
      cases stored
      rfl
    rw [returned] at account
    revert account
    decide

theorem returning_in_one_request_is_accounted :
    Along (handle .mysql 1) (ReturnAccounted 1 1 3 2) (oneSale "Ready for pickup")
      [⟨administrator, .value "Returned", .value 1234, .value 1, .absent⟩] := by
  refine (returnAccounted_along_iff .mysql (oneSale "Ready for pickup")
    (soldFromShelf "Ready for pickup") (shelf 3) _ rfl rfl rfl (by decide) ?_).mpr ?_
  · rw [eachStep_cons]
    exact ⟨rfl, eachStep_nil _ _⟩
  · rw [eachStep_cons]
    refine ⟨?_, eachStep_nil _ _⟩
    intro purchase stored
    exact Or.inr (Or.inr rfl)

end ProductSite.Stock.Returns
