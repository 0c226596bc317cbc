/- Module: ProductSite/Stock/PurchaseEffects
   source: backend/app/routes/purchase_routes.py, backend/app/models/purchase.py,
     react-router-bootstrap-app/src/pages/Orders.jsx
   digest: What one update of a purchase, and its cancellation, leave in the inventory table. -/

import ProductSite.Backend.Accounts
import ProductSite.Backend.PersonalRoutes
import ProductSite.Stock.NonNegative
import ProductSite.Stock.Returns

set_option autoImplicit false
set_option relaxedAutoImplicit false

namespace ProductSite.Stock.PurchaseEffects

open ProductSite.Foundation.KeyedTable (Table)
open ProductSite.Foundation.Wire (JsonField Reply)
open ProductSite.Backend.Models
open ProductSite.Backend.Accounts (changeUserRole)
open ProductSite.Backend.PersonalRoutes (deletePurchase deletePurchase_cases)
open ProductSite.Backend.PurchaseRoutes
open ProductSite.Backend.Requests (administrator customer shelf)
open ProductSite.Stock.NonNegative (AllStocked)
open ProductSite.Stock.Returns (oneSale soldFromShelf)

/-- What an accepted update may do: write the six fields of the purchase and credit or debit its
units to the row that it names afterwards. -/
structure Updates (s after : State) (purchase updated : Purchase) : Prop where
  fields : updated = { purchase with
    status := updated.status, availableDate := updated.availableDate
    pickUpDate := updated.pickUpDate, paymentMethod := updated.paymentMethod
    quantity := updated.quantity, inventoryId := updated.inventoryId }
  purchases : ∀ id, after.db.purchases.get? id =
    if id = purchase.id then some updated else s.db.purchases.get? id
  inventory : ∃ units, (units = updated.quantity ∨ units = -updated.quantity ∨ units = 0) ∧
    Adjusts s.db.inventory after.db.inventory updated.inventoryId units
  stocked : AllStocked after
  frame : after = { s with
    db := { s.db with purchases := after.db.purchases, inventory := after.db.inventory } }

section Adjusting

variable {before : Table Inventory.id}

private theorem adjusts_zero (id : Option Nat) : Adjusts before before id 0 := by
  intro key
  cases found : before.get? key with
  | none => rfl
  | some row => simp

private theorem adjusts_missing {id : Option Nat} (missing : id.bind before.get? = none)
    (units : Int) :
    Adjusts before before id units := by
  intro key
  cases found : before.get? key with
  | none => rfl
  | some row =>
      have elsewhere : id ≠ some key := by
        intro here
        rw [here, Option.bind_some, found] at missing
        cases missing
      rw [Option.map_some, if_neg elsewhere]

/-- A table that is left alone gives some units back precisely if there are none. -/
private theorem adjusts_self_iff {row : Inventory} (stored : before.get? row.id = some row)
    {units : Int} : Adjusts before before (some row.id) units ↔ units = 0 := by
  constructor
  · intro adjusts
    have same := adjusts row.id
    rw [stored, Option.map_some, if_pos rfl] at same
    have quantity : row.quantity = row.quantity + units :=
      congrArg Inventory.quantity (Option.some.inj same)
    omega
  · intro nothing
    rw [nothing]
    exact adjusts_zero _

/-- Stock stays non-negative when the adjusted row holds the units that leave it. -/
private theorem stocked_of_adjusts {after : Table Inventory.id} {id : Option Nat} {units : Int}
    (adjusts : Adjusts before after id units) (stocked : ∀ row ∈ before.rows, 0 ≤ row.quantity)
    (enough : ∀ row, id.bind before.get? = some row → 0 ≤ row.quantity + units) :
    ∀ row ∈ after.rows, 0 ≤ row.quantity := by
  intro row member
  have found := Table.get?_of_mem member
  rw [adjusts row.id] at found
  obtain ⟨old, present, changed⟩ := Option.map_eq_some_iff.mp found
  split at changed
  · rename_i here
    rw [← changed]
    apply enough old
    rw [here]
    exact present
  · rw [← changed]
    exact stocked old (Table.get?_eq_some_iff.mp present).1

end Adjusting

section Updating

variable {engine : Engine} {s : State} {purchase updated : Purchase} {body : PurchaseUpdate}
  {row : Option Inventory}

private theorem returnedUnits_cases (purchase : Purchase) (quantity : Int) (body : PurchaseUpdate) :
    returnedUnits purchase quantity body = quantity ∨
      returnedUnits purchase quantity body = -quantity ∧ purchase.status = some "Returned" ∨
      returnedUnits purchase quantity body = 0 := by
  unfold returnedUnits
  split
  · exact Or.inl rfl
  · split
    · rename_i reverting
      exact Or.inr (Or.inl ⟨rfl, reverting.1⟩)
    · exact Or.inr (Or.inr rfl)

private theorem updatePlan_adjusts
    (plan : updatePlan engine s.db purchase body = .ok (updated, row)) :
    Adjusts s.db.inventory (commitUpdate s updated row).db.inventory updated.inventoryId
      (returnedUnits purchase updated.quantity body) := by
  obtain ⟨-, -, ⟨nothing, rfl⟩ | ⟨rfl, -⟩⟩ := updatePlan_cases plan
  · rw [nothing]
    exact adjusts_zero _
  · cases found : adjustedRow s.db updated with
    | none => exact adjusts_missing found _
    | some inv =>
        obtain ⟨id, named, stored⟩ := Option.bind_eq_some_iff.mp found
        have here : inv.id = id := Table.key_of_get? stored
        rw [named, ← here]
        rw [← here] at stored
        exact adjusts_save stored _

private theorem updatePlan_enough (plan : updatePlan engine s.db purchase body = .ok (updated, row))
    (stocked : AllStocked s) (nonnegative : 0 ≤ updated.quantity) {inv : Inventory}
    (found : updated.inventoryId.bind s.db.inventory.get? = some inv) :
    0 ≤ inv.quantity + returnedUnits purchase updated.quantity body := by
  obtain ⟨id, -, stored⟩ := Option.bind_eq_some_iff.mp found
  have held : 0 ≤ inv.quantity := stocked inv (Table.get?_eq_some_iff.mp stored).1
  obtain ⟨-, -, ⟨nothing, -⟩ | ⟨-, covered⟩⟩ := updatePlan_cases plan
  · omega
  · rcases returnedUnits_cases purchase updated.quantity body with back | ⟨taken, status⟩ | none
    · omega
    · have enough := covered inv found status
      omega
    · omega

private theorem updatePlan_updates
    (plan : updatePlan engine s.db purchase body = .ok (updated, row))
    (stocked : AllStocked s) (stored : s.db.purchases.get? purchase.id = some purchase)
    (nonnegative : 0 ≤ updated.quantity) :
    Updates s (commitUpdate s updated row) purchase updated := by
  obtain ⟨-, assigned, -⟩ := updatePlan_cases plan
  have adjusts := updatePlan_adjusts plan
  have key : updated.id = purchase.id := by
    rw [assigned]
    rfl
  refine ⟨?_, ?_, ⟨_, ?_, adjusts⟩, ?_, rfl⟩
  · rw [assigned]
    rfl
  · intro id
    change (s.db.purchases.save updated).get? id = _
    rw [Table.get?_save, key]
    split
    · rename_i here
      rw [here, stored, Option.map_some]
    · rfl
  · rcases returnedUnits_cases purchase updated.quantity body with back | ⟨taken, -⟩ | none
    · exact Or.inl back
    · exact Or.inr (Or.inl taken)
    · exact Or.inr (Or.inr none)
  · exact stocked_of_adjusts adjusts stocked
      (fun inv found => updatePlan_enough plan stocked nonnegative found)

/-- A return is to be reverted, and the row that the purchase names holds too few units. -/
def LacksStock (db : Database) (purchase : Purchase) (body : PurchaseUpdate) (quantity : Int) :
    Prop :=
  purchase.status = some "Returned" ∧ body.status.get ≠ some "Returned" ∧
    ∃ inv, (body.inventoryId.assign purchase.inventoryId).bind db.inventory.get? = some inv ∧
      inv.quantity < quantity

/-- With a quantity and a row that can be stored, an update is refused only for lack of stock. -/
private theorem updatePlan_insufficient {quantity : Int} {reply : Reply PurchaseDump}
    (asked : body.quantity.assign (some purchase.quantity) = some quantity)
    (named : ∀ id, body.inventoryId = .value id → (s.db.inventory.get? id).isSome)
    (plan : updatePlan engine s.db purchase body = .error reply) :
    reply = .error 400 "Insufficient inventory to revert return" [] ∧
      LacksStock s.db purchase body quantity := by
  have allowed : ¬ ((assignFields purchase quantity body).inventoryId ≠ purchase.inventoryId ∧
      inventoryAllowed engine s.db (assignFields purchase quantity body).inventoryId = false) := by
    rintro ⟨changed, refused⟩
    change body.inventoryId.assign purchase.inventoryId ≠ purchase.inventoryId at changed
    change inventoryAllowed engine s.db
      (body.inventoryId.assign purchase.inventoryId) = false at refused
    cases field : body.inventoryId with
    | absent => exact changed (by rw [field]; rfl)
    | null => simp [field, JsonField.assign, inventoryAllowed] at refused
    | value id => simp [field, JsonField.assign, inventoryAllowed, named id field] at refused
  unfold updatePlan at plan
  simp only [asked, if_neg allowed] at plan
  split at plan
  · cases plan
  · split at plan
    · rename_i reverting
      split at plan
      · cases plan
      · rename_i inv found
        split at plan
        · rename_i short
          cases plan
          exact ⟨rfl, reverting.1, reverting.2, inv, found, short⟩
        · cases plan
    · cases plan

/-- An update that is accepted does not lack stock. -/
private theorem not_lacksStock {quantity : Int} (stocked : AllStocked s)
    (asked : body.quantity.assign (some purchase.quantity) = some quantity)
    (plan : updatePlan engine s.db purchase body = .ok (updated, row)) :
    ¬ LacksStock s.db purchase body quantity := by
  rintro ⟨returned, reverted, inv, found, short⟩
  obtain ⟨given, assigned, adjusted⟩ := updatePlan_cases plan
  have units : updated.quantity = quantity := Option.some.inj (given.symm.trans asked)
  have here : adjustedRow s.db updated = some inv := by
    rw [adjustedRow, assigned]
    exact found
  rcases adjusted with ⟨nothing, -⟩ | ⟨-, covered⟩
  · obtain ⟨id, -, stored⟩ := Option.bind_eq_some_iff.mp found
    have held : 0 ≤ inv.quantity := stocked inv (Table.get?_eq_some_iff.mp stored).1
    rw [returnedUnits, if_neg (fun returning => returning.1 returned),
      if_pos ⟨returned, reverted⟩] at nothing
    omega
  · have enough := covered inv here returned
    omega

end Updating

/-- One step of `update_purchase`: it is refused without an effect, or it writes the six fields and
adjusts one row by the quantity. Sessions other than those of an administrator never get to the
update. -/
def OneStep (engine : Engine) (session : Session) (s : State) (purchase : Purchase)
    (body : PurchaseUpdate) (quantity : Int) : Prop :=
  (((updatePurchase engine session s purchase.id body).1.status = 400 ∨
      ∀ user, session.user = some user → isAdmin s.db user = false) ∧
    (updatePurchase engine session s purchase.id body).2 = s) ∨
  ((updatePurchase engine session s purchase.id body).1.status = 200 ∧
    ∃ updated, updated.quantity = quantity ∧
      updated.inventoryId = body.inventoryId.assign purchase.inventoryId ∧
      Updates s (updatePurchase engine session s purchase.id body).2 purchase updated)

/-- One update of a stored purchase, for a body that names no missing row and leaves a quantity
that is not negative, is a proper step if and only if the session is not admitted, or the update
is refused for lack of stock, or the buyer can be loaded again after the commit. -/
theorem updatePurchase_step_iff (engine : Engine) (session : Session) (s : State)
    (purchase : Purchase) (body : PurchaseUpdate) (quantity : Int) (stocked : AllStocked s)
    (stored : s.db.purchases.get? purchase.id = some purchase)
    (named : ∀ id, body.inventoryId = .value id → (s.db.inventory.get? id).isSome)
    (asked : body.quantity.assign (some purchase.quantity) = some quantity)
    (nonnegative : 0 ≤ quantity) :
    OneStep engine session s purchase body quantity ↔
      (∀ user, session.user = some user → isAdmin s.db user = false) ∨
        LacksStock s.db purchase body quantity ∨ buyerLoads s.db purchase = true := by
  unfold OneStep
  rcases admin_or_outside session s.db with ⟨user, login, role⟩ | outside
  · have inside : ¬ ∀ user, session.user = some user → isAdmin s.db user = false := by
      intro outside
      rw [outside user login] at role
      cases role
    cases plan : updatePlan engine s.db purchase body with
    | error reply =>
        obtain ⟨refusal, lacks⟩ := updatePlan_insufficient asked named plan
        refine iff_of_true (Or.inl ⟨Or.inl ?_, ?_⟩) (Or.inr (Or.inl lacks))
        · simp only [updatePurchase, adminRequired, login, role, if_true, stored, plan, refusal]
          rfl
        · simp only [updatePurchase, adminRequired, login, role, if_true, stored, plan]
    | ok written =>
        obtain ⟨updated, row⟩ := written
        obtain ⟨given, assigned, -⟩ := updatePlan_cases plan
        have units : updated.quantity = quantity := Option.some.inj (given.symm.trans asked)
        have accepted : acceptedUpdate engine session s.db purchase.id body =
            some (purchase, updated, row) := by
          simp only [acceptedUpdate, login, Option.filter_some, role, if_true, stored, plan]
        have answered := updatePurchase_answer accepted
        have updates := updatePlan_updates plan stocked stored (units ▸ nonnegative)
        have target : updated.inventoryId = body.inventoryId.assign purchase.inventoryId := by
          rw [assigned]
          rfl
        rw [answered]
        cases loads : buyerLoads s.db purchase with
        | true => exact iff_of_true (Or.inr ⟨rfl, updated, units, target, updates⟩) (by simp)
        | false =>
            -- the update is committed, and the answer is an error
            refine iff_of_false ?_ ?_
            · rintro (⟨refused | outside, -⟩ | ⟨success, -⟩)
              · cases refused
              · exact inside outside
              · cases success
            · rintro (outside | lacks | loaded)
              · exact inside outside
              · exact not_lacksStock stocked asked plan lacks
              · cases loaded
  · exact iff_of_true (Or.inl ⟨Or.inr outside, (adminRequired_refused outside).1⟩) (Or.inl outside)

theorem returned_tray_is_restocked :
    OneStep .mysql administrator (oneSale "Ready for pickup") (soldFromShelf "Ready for pickup")
      ⟨.value "Returned", .absent, .absent, .absent, .absent, .absent⟩ 2 := by
  have stocked : AllStocked (oneSale "Ready for pickup") := by
    intro row member
    rw [List.mem_singleton.mp member]
    decide
  refine (updatePurchase_step_iff .mysql administrator (oneSale "Ready for pickup")
    (soldFromShelf "Ready for pickup")
    ⟨.value "Returned", .absent, .absent, .absent, .absent, .absent⟩ 2 stocked rfl nofun rfl
    (by decide)).mpr ?_
  exact Or.inr (Or.inr rfl)

/-- The customer who bought two units is given the role "user", which SQLite stores. -/
def demotedBuyer : State :=
  (changeUserRole .sqlite administrator (oneSale "Ready for pickup") 1 (.value "user")).2

/-- The units of the return are back on the shelf, and the answer is an error. -/
theorem restocked_with_an_error :
    (updatePurchase .sqlite administrator demotedBuyer 1
        ⟨.value "Returned", .absent, .absent, .absent, .absent, .absent⟩).1.status = 500 ∧
      (updatePurchase .sqlite administrator demotedBuyer 1
        ⟨.value "Returned", .absent, .absent, .absent, .absent, .absent⟩).2.db.inventory.rows =
          [shelf 5] ∧
      ¬ OneStep .sqlite administrator demotedBuyer (soldFromShelf "Ready for pickup")
        ⟨.value "Returned", .absent, .absent, .absent, .absent, .absent⟩ 2 := by
  have failed : (updatePurchase .sqlite administrator demotedBuyer 1
      ⟨.value "Returned", .absent, .absent, .absent, .absent, .absent⟩).1.status = 500 := by decide
  refine ⟨failed, by decide, ?_⟩
  rintro (⟨refused | outside, -⟩ | ⟨success, -⟩)
  · exact absurd (failed.symm.trans refused) (by decide)
  · exact absurd (outside 2 rfl) (by decide)
  · exact absurd (failed.symm.trans success) (by decide)

section Cancelling

/-- The cancel button of the orders page: the purchases it shows afterwards, and its alert. -/
def handleCancel (session : Session) (confirmed : Bool) (purchases : List Purchase) (s : State)
    (id : Nat) : (List Purchase × Option String) × State :=
  if !confirmed then ((purchases, none), s)
  else
    let answer := deletePurchase session s id
    if answer.1.fetchOk then
      ((purchases.filter (fun purchase => purchase.id ≠ id), none), answer.2)
    else ((purchases, some "Failed to cancel order"), answer.2)

/-- The units of a purchase that are not back in stock. -/
def outstanding (purchase : Purchase) : Int :=
  if purchase.status = some "Returned" then 0 else purchase.quantity

variable {session : Session} {s : State} {id : Nat}

private theorem handleCancel_state (purchases : List Purchase) :
    (handleCancel session true purchases s id).2 = (deletePurchase session s id).2 := by
  unfold handleCancel
  simp only [Bool.not_true, Bool.false_eq_true, if_false]
  split <;> rfl

private theorem deletePurchase_inventory :
    (deletePurchase session s id).2.db.inventory = s.db.inventory := by
  cases login : session.user with
  | none =>
      rw [deletePurchase, loginRequired, login]
  | some user =>
      rcases deletePurchase_cases s login id with ⟨kept, -⟩ | ⟨purchase, -, -, deleted⟩
      · rw [kept]
      · rw [deleted]
        rfl

end Cancelling

/-- Cancelling a purchase, whether or not the session may do so, gives the units that are not yet
back in stock to its row exactly if there are none. -/
theorem cancel_restocks_iff (session : Session) (s : State) (purchases : List Purchase)
    (purchase : Purchase) (row : Inventory) (held : purchase.inventoryId = some row.id)
    (found : s.db.inventory.get? row.id = some row) :
    Adjusts s.db.inventory
        (handleCancel session true purchases s purchase.id).2.db.inventory
        purchase.inventoryId (outstanding purchase) ↔
      purchase.status = some "Returned" ∨ purchase.quantity = 0 := by
  rw [handleCancel_state, deletePurchase_inventory, held, adjusts_self_iff found]
  unfold outstanding
  split
  · rename_i returned
    exact iff_of_true rfl (Or.inl returned)
  · rename_i kept
    simp [kept]

theorem returned_tray_is_cancelled :
    Adjusts (oneSale "Returned").db.inventory
      (handleCancel customer true [soldFromShelf "Returned"] (oneSale "Returned") 1).2.db.inventory
      (some 1) 0 :=
  (cancel_restocks_iff customer (oneSale "Returned") [soldFromShelf "Returned"]
    (soldFromShelf "Returned") (shelf 3) rfl rfl).mpr (Or.inl rfl)

/-- The owner cancels an order of two units that was not returned: the order is gone from the
page and from the database, and its row holds three units as before. -/
theorem cancelled_units_are_lost :
    (deletePurchase customer (oneSale "Ready for pickup") 1).1.status = 200 ∧
      (handleCancel customer true [soldFromShelf "Ready for pickup"]
        (oneSale "Ready for pickup") 1).1 = ([], none) ∧
      (handleCancel customer true [soldFromShelf "Ready for pickup"]
        (oneSale "Ready for pickup") 1).2.db.purchases.rows = [] ∧
      (handleCancel customer true [soldFromShelf "Ready for pickup"]
        (oneSale "Ready for pickup") 1).2.db.inventory.rows = [shelf 3] ∧
      ¬ Adjusts (oneSale "Ready for pickup").db.inventory
        (handleCancel customer true [soldFromShelf "Ready for pickup"]
          (oneSale "Ready for pickup") 1).2.db.inventory (some 1) 2 := by
  refine ⟨rfl, rfl, rfl, rfl, ?_⟩
  intro adjusts
  exact absurd (adjusts 1) (by decide)

end ProductSite.Stock.PurchaseEffects
