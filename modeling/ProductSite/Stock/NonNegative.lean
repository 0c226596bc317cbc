/- Module: ProductSite/Stock/NonNegative
   source: backend/app/routes/inventory_routes.py, backend/app/routes/purchase_routes.py
   digest: A run leaves no negative stock exactly when each request finds the units it takes. -/

import ProductSite.Backend.Requests

set_option autoImplicit false
set_option relaxedAutoImplicit false

namespace ProductSite.Stock.NonNegative

open ProductSite.Foundation.Balances
open ProductSite.Foundation.KeyedTable (Table)
open ProductSite.Foundation.Wire (JsonField)
open ProductSite.Foundation.Runs
  (Along EachStep along_iff_eachStep eachStep_cons eachStep_nil eachStep_of_forall)
open ProductSite.Backend.Models
open ProductSite.Backend.InventoryRoutes
open ProductSite.Backend.PurchaseRoutes
open ProductSite.Backend.RedisListener
open ProductSite.Backend.Requests

def AllStocked (s : State) : Prop := ∀ row ∈ s.db.inventory.rows, 0 ≤ row.quantity

/-- The quantities that requests may name: not negative where a quantity is set, at least one
where units are moved. -/
def Admissible : Request → Prop
  | .createInventory _ _ body => ∀ quantity, body.quantity.get = some quantity → 0 ≤ quantity
  | .editInventory _ _ body => ∀ quantity, body.quantity.get = some quantity → 0 ≤ quantity
  | .decrementQuantity _ body => ∀ quantity, body.quantity.get = some quantity → 1 ≤ quantity
  | .incrementQuantity _ body => ∀ quantity, body.quantity.get = some quantity → 1 ≤ quantity
  | .restoreReservedInventory _ items => ∀ list, items.get = some list → ∀ item ∈ list,
      ∀ quantity, item.quantity.get = some quantity → 1 ≤ quantity
  | .createPurchase _ _ _ _ => True
  | .updatePurchase _ _ body => ∀ quantity, body.quantity.get = some quantity → 0 ≤ quantity
  | .expire _ => True

/-- The row holds the units that the request takes from it. A decrement takes the requested
quantity; a return or a rollback takes units only when its recorded quantity is negative. -/
def EnoughStock (server : Server) (s : State) : Request → Prop
  | .decrementQuantity session body => ∀ user inv quantity,
      reservation server.engine session s.db body = some (user, inv, quantity) →
        quantity ≤ inv.quantity
  | .updatePurchase session purchaseId body => ∀ purchase updated row inv,
      acceptedUpdate server.engine session s.db purchaseId body =
        some (purchase, updated, row) →
      purchase.status ≠ some "Returned" → body.status.get = some "Returned" →
      adjustedRow s.db updated = some inv → -updated.quantity ≤ inv.quantity
  | .expire name => ∀ data inv,
      rollbackRecord (forget s name) name = some data →
      s.db.inventory.get? data.inventoryId = some inv → -data.quantity ≤ inv.quantity
  | _ => True

private theorem allStocked_iff (s : State) : AllStocked s ↔ NonNegative s.stock := by
  constructor
  · intro stocked id held found
    obtain ⟨row, present, rfl⟩ := Option.map_eq_some_iff.mp found
    exact stocked row (Table.get?_eq_some_iff.mp present).1
  · intro nonneg row member
    exact nonneg row.id row.quantity (stockOf_of_get? (Table.get?_of_mem member))

section Steps

variable {server : Server} {s : State}

private theorem covered_row {table : Table Inventory.id} {inv : Inventory}
    (found : table.get? inv.id = some inv) (units : Int) :
    Covered (stockOf table) (.add inv.id units) ↔ -units ≤ inv.quantity := by
  have held := stockOf_of_get? found
  constructor
  · intro covered
    exact covered _ held
  · intro enough other present
    rw [held] at present
    cases present
    exact enough

private theorem nonNegative_created (before : NonNegative s.stock) {session : Session}
    {places : String → PlacesReply} {body : CreateInventoryBody}
    (asked : Admissible (.createInventory session places body)) :
    NonNegative
      (postAll s.stock (posts server s (.createInventory session places body))) := by
  simp only [posts, createdPosts]
  split
  · refine nonNegative_postAll before ⟨?_, trivial⟩
    change 0 ≤ body.quantity.get.getD 0
    cases given : body.quantity.get with
    | none => exact le_rfl
    | some quantity => exact asked quantity given
  · exact before

private theorem nonNegative_edited (before : NonNegative s.stock) {session : Session}
    {places : String → PlacesReply} {body : EditInventoryBody}
    (asked : Admissible (.editInventory session places body)) :
    NonNegative
      (postAll s.stock (posts server s (.editInventory session places body))) := by
  simp only [posts, editedPosts]
  split
  · rename_i quantity _ given
    refine nonNegative_postAll before ⟨?_, trivial⟩
    exact asked quantity (by rw [given]; rfl)
  · exact before

private theorem decremented_iff (before : NonNegative s.stock)
    (session : Session) (body : DecrementBody) :
    NonNegative
        (postAll s.stock (posts server s (.decrementQuantity session body))) ↔
      EnoughStock server s (.decrementQuantity session body) := by
  simp only [posts, EnoughStock]
  cases accepted : reservation server.engine session s.db body with
  | none => simp [reservedPosts, before]
  | some taken =>
      obtain ⟨user, inv, quantity⟩ := taken
      have found := (reservation_found accepted).1
      have covered := covered_row found (-quantity)
      rw [neg_neg] at covered
      simp only [reservedPosts]
      rw [postAll_cons, postAll_nil, nonNegative_post_iff before, State.stock, covered]
      constructor
      · intro enough user' inv' quantity' same
        cases same
        exact enough
      · intro enough
        exact enough user inv quantity rfl

private theorem nonNegative_incremented (before : NonNegative s.stock) {session : Session}
    {body : IncrementBody} (asked : Admissible (.incrementQuantity session body)) :
    NonNegative (postAll s.stock (posts server s (.incrementQuantity session body))) := by
  simp only [posts, incrementedPosts]
  split
  · rename_i inv quantity _ plan
    refine nonNegative_postAll before ⟨?_, trivial⟩
    have gain : 1 ≤ quantity := JsonField.getD_satisfies asked le_rfl (incrementPlan_found plan).2
    intro held found
    have nonneg := before _ _ found
    omega
  · exact before

private theorem nonNegative_restored (before : NonNegative s.stock) {session : Session}
    {items : JsonField (List RestoreItem)}
    (asked : Admissible (.restoreReservedInventory session items)) :
    NonNegative (postAll s.stock (posts server s (.restoreReservedInventory session items))) := by
  refine nonNegative_postAll before (coveredAll_credits before ?_)
  intro entry member
  obtain ⟨list, given, listed⟩ := mem_restoredBy member
  obtain ⟨item, present, -, named⟩ := mem_restoredEntries.mp listed
  have gain : 1 ≤ entry.2 := asked list given item present entry.2 named
  omega

private theorem returned_iff {engine : Engine} {purchase updated : Purchase}
    {body : PurchaseUpdate} {row : Option Inventory} {inv : Inventory}
    (plan : updatePlan engine s.db purchase body = .ok (updated, row))
    (found : adjustedRow s.db updated = some inv) (held : 0 ≤ inv.quantity) :
    -returnedUnits purchase updated.quantity body ≤ inv.quantity ↔
      (purchase.status ≠ some "Returned" → body.status.get = some "Returned" →
        -updated.quantity ≤ inv.quantity) := by
  obtain ⟨-, -, adjusted⟩ := updatePlan_cases plan
  -- a purchase that is taken back has passed the guard of the handler
  by_cases already : purchase.status = some "Returned"
  · have enough : -returnedUnits purchase updated.quantity body ≤ inv.quantity := by
      rcases adjusted with ⟨zero, -⟩ | ⟨-, guard⟩
      · omega
      · have bound := guard inv found already
        unfold returnedUnits
        split
        · rename_i returning
          exact absurd already returning.1
        · split <;> omega
    exact ⟨fun _ fresh => absurd already fresh, fun _ => enough⟩
  · by_cases returning : body.status.get = some "Returned"
    · simp [returnedUnits, already, returning]
    · simp [returnedUnits, already, returning, held]

private theorem updated_iff (before : NonNegative s.stock) (session : Session) (purchaseId : Nat)
    (body : PurchaseUpdate) :
    NonNegative (postAll s.stock (posts server s (.updatePurchase session purchaseId body))) ↔
      EnoughStock server s (.updatePurchase session purchaseId body) := by
  simp only [posts, updatedBy, EnoughStock]
  cases accepted : acceptedUpdate server.engine session s.db purchaseId body with
  | none => simp [credits, before]
  | some written =>
      obtain ⟨purchase, updated, row⟩ := written
      have plan := (acceptedUpdate_eq_some accepted).2
      have condition : (∀ purchase' updated' row' inv,
          some (purchase, updated, row) = some (purchase', updated', row') →
          purchase'.status ≠ some "Returned" → body.status.get = some "Returned" →
          adjustedRow s.db updated' = some inv → -updated'.quantity ≤ inv.quantity) ↔
          ∀ inv, adjustedRow s.db updated = some inv → purchase.status ≠ some "Returned" →
            body.status.get = some "Returned" → -updated.quantity ≤ inv.quantity := by
        constructor
        · intro enough inv found fresh returning
          exact enough purchase updated row inv rfl fresh returning found
        · intro enough purchase' updated' row' inv same fresh returning found
          cases same
          exact enough inv found fresh returning
      rw [condition]
      simp only [updatedEntries]
      cases named : updated.inventoryId with
      | none => simp [credits, before, adjustedRow, named]
      | some id =>
          refine (nonNegative_post_iff before (.add id _)).trans ?_
          simp only [adjustedRow, named, Option.bind_some]
          constructor
          · intro covered inv found
            have held := stockOf_of_get? found
            have bound := covered _ held
            exact (returned_iff plan (by rw [adjustedRow, named]; exact found)
              (before _ _ held)).mp bound
          · intro enough held present
            obtain ⟨inv, found, rfl⟩ := Option.map_eq_some_iff.mp present
            exact (returned_iff plan (by rw [adjustedRow, named]; exact found)
              (before _ _ present)).mpr (enough inv found)

private theorem expired_iff (before : NonNegative s.stock) (name : String) :
    NonNegative (postAll s.stock (posts server s (.expire name))) ↔
      EnoughStock server s (.expire name) := by
  simp only [posts, EnoughStock]
  cases recorded : rollbackRecord (forget s name) name with
  | none => simp [rollbackPosts, before]
  | some data =>
      refine (nonNegative_post_iff before (.add data.inventoryId data.quantity)).trans ?_
      constructor
      · intro covered data' inv same found
        cases same
        exact covered _ (stockOf_of_get? found)
      · intro enough held present
        obtain ⟨inv, found, rfl⟩ := Option.map_eq_some_iff.mp present
        exact enough data inv rfl found

/-- One request keeps the stock non-negative precisely when the row holds what it takes. -/
private theorem allStocked_step_iff {request : Request} (before : AllStocked s)
    (asked : Admissible request) :
    AllStocked (step server s request) ↔ EnoughStock server s request := by
  rw [allStocked_iff] at before
  rw [allStocked_iff, stock_step]
  cases request with
  | createInventory session places body => simp [EnoughStock, nonNegative_created before asked]
  | editInventory session places body => simp [EnoughStock, nonNegative_edited before asked]
  | decrementQuantity session body => exact decremented_iff before session body
  | incrementQuantity session body => simp [EnoughStock, nonNegative_incremented before asked]
  | restoreReservedInventory session items => simp [EnoughStock, nonNegative_restored before asked]
  | createPurchase session stripe now body => simp [EnoughStock, posts, before]
  | updatePurchase session purchaseId body => exact updated_iff before session purchaseId body
  | expire name => exact expired_iff before name

end Steps

/-- In a run from a table without negative quantities, no quantity ever gets negative
precisely when every request finds the units that it takes. -/
theorem allStocked_along_iff (server : Server) (s : State) (requests : List Request)
    (start : AllStocked s) (asked : ∀ request ∈ requests, Admissible request) :
    Along (step server) AllStocked s requests ↔
      EachStep (step server) (EnoughStock server) s requests := by
  exact along_iff_eachStep (fun _ _ before admissible => allStocked_step_iff before admissible)
    start (eachStep_of_forall asked s)

/-- Five units are taken from a row that holds one. -/
theorem decrement_below_zero :
    AllStocked (shelfOnly 1) ∧ Admissible (takeFromShelf 5) ∧
      ¬ AllStocked (step sampleServer (shelfOnly 1) (takeFromShelf 5)) := by
  refine ⟨?_, ?_, ?_⟩
  · unfold AllStocked
    decide
  · intro quantity named
    cases named
    decide
  · unfold AllStocked
    decide

theorem two_of_three_keep_stock :
    Along (step sampleServer) AllStocked (shelfOnly 3) [takeFromShelf 2] := by
  refine (allStocked_along_iff sampleServer (shelfOnly 3) [takeFromShelf 2] ?_ ?_).mpr ?_
  · unfold AllStocked
    decide
  · intro request member
    rw [List.mem_singleton.mp member]
    intro quantity named
    cases named
    decide
  · rw [eachStep_cons]
    refine ⟨?_, eachStep_nil _ _⟩
    intro user inv quantity accepted
    cases accepted
    decide

end ProductSite.Stock.NonNegative
