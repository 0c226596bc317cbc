/- Module: ProductSite/Checkout/ReservedRow
   source: backend/app/routes/inventory_routes.py,
     react-router-bootstrap-app/src/pages/CartPage.jsx
   digest: A reservation debits the row of its cart item iff no earlier row answers its lookup. -/

import ProductSite.Backend.Requests
import ProductSite.Storefront.CartPage

set_option autoImplicit false
set_option relaxedAutoImplicit false

namespace ProductSite.Checkout.ReservedRow

open ProductSite.Foundation.KeyedTable (Table)
open ProductSite.Backend.InventoryRoutes
open ProductSite.Backend.Models
  (Adjusts Database Engine Inventory Session State adjusts_save)
open ProductSite.Backend.Requests (customer sampleShop)
open ProductSite.Storefront.CartPage

/-- The item carries the row as the API dumps it. -/
def RefersTo (db : Database) (item : CartItem) (row : Inventory) : Prop :=
  db.inventory.get? row.id = some row ∧
    item.inventory = some ⟨row.id, row.location, row.locationName⟩

/-- What the handler asks of a row, given the name, the kit and the address of an item: any row
of the warehouse serves an item of the warehouse. -/
def answers (engine : Engine) (item : CartItem) (row : Inventory) : Bool :=
  if isWarehouse item then engine.sameText row.locationName "warehouse"
  else
    row.kitId == (getDetails item).kitId &&
      (getDetails item).location.any (engine.sameText row.location)

/-- The row answers the lookup, and no row that is stored before it does. -/
def FirstAnswer (engine : Engine) (db : Database) (item : CartItem) (row : Inventory) : Prop :=
  answers engine item row = true ∧
    ∃ earlier later, db.inventory.rows = earlier ++ row :: later ∧
      ∀ other ∈ earlier, answers engine item other = false

section Lookup

variable {engine : Engine} {db : Database} {item : CartItem}

private theorem decrementRow_decrementBody {row : Option Inventory}
    (found : decrementRow engine db (decrementBody item) = .ok row) :
    db.inventory.first (answers engine item) = row := by
  have named : (decrementBody item).locationName.getD "" = some (locationName item) := rfl
  unfold decrementRow at found
  simp only [named] at found
  split at found
  · rename_i warehouse
    have kind : isWarehouse item = true := beq_iff_eq.mpr warehouse
    have served : answers engine item =
        fun row => engine.sameText row.locationName "warehouse" := by
      funext row
      rw [answers, if_pos kind]
    rw [served]
    exact Except.ok.inj found
  · rename_i elsewhere
    have kind : ¬ isWarehouse item = true := fun warehouse => elsewhere (beq_iff_eq.mp warehouse)
    split at found
    · rename_i kitId location kit address
      have sent : (getDetails item).kitId = kitId :=
        Option.some.inj (Option.filter_eq_some_iff.mp kit).1
      have placed : (getDetails item).location = some location := by
        have given := (Option.filter_eq_some_iff.mp address).1
        cases text : (getDetails item).location with
        | none =>
            rw [decrementBody, text] at given
            cases given
        | some value =>
            rw [decrementBody, text] at given
            exact given
      have served : answers engine item =
          fun row => row.kitId == kitId && engine.sameText row.location location := by
        funext row
        rw [answers, if_neg kind, sent, placed, Option.any_some]
      rw [served]
      exact Except.ok.inj found
    · cases found

private theorem first_answers_iff {row : Inventory} :
    db.inventory.first (answers engine item) = some row ↔ FirstAnswer engine db item row := by
  unfold Table.first FirstAnswer
  rw [List.find?_eq_some_iff_append]
  simp

end Lookup

/-- Units that are taken from a row are missing from no other row. -/
private theorem debits_row_iff {before : Table Inventory.id} {row other : Inventory}
    {quantity : Int}
    (stored : before.get? row.id = some row) (present : before.get? other.id = some other)
    (some_units : quantity ≠ 0) :
    Adjusts before (before.save { other with quantity := other.quantity - quantity })
        (some row.id) (-quantity) ↔ other = row := by
  rw [Int.sub_eq_add_neg]
  constructor
  · intro debits
    by_contra different
    have apart : ¬ some row.id = some other.id := by
      intro same
      rw [← Option.some.inj same, stored] at present
      exact different (Option.some.inj present).symm
    have kept := debits other.id
    rw [adjusts_save present (-quantity) other.id, present, Option.map_some, Option.map_some,
      if_pos rfl, if_neg apart] at kept
    have units : other.quantity + -quantity = other.quantity :=
      congrArg Inventory.quantity (Option.some.inj kept)
    omega
  · intro same
    rw [same]
    exact adjusts_save stored (-quantity)

/-- An accepted reservation takes the requested units from the row that the cart item refers to,
and from no other, exactly if that row is the first that answers the lookup of the handler. -/
theorem reserves_own_row_iff (engine : Engine) (session : Session) (s : State) (item : CartItem)
    (row : Inventory) (refers : RefersTo s.db item row)
    (accepted : (decrementQuantity engine session s (decrementBody item)).1.fetchOk = true) :
    Adjusts s.db.inventory
        (decrementQuantity engine session s (decrementBody item)).2.db.inventory (some row.id)
        (-(getDetails item).quantity) ↔
      FirstAnswer engine s.db item row := by
  rw [decrementQuantity_fetchOk] at accepted
  obtain ⟨⟨user, taken, quantity⟩, reserved⟩ := Option.isSome_iff_exists.mp accepted
  obtain ⟨stored, asked⟩ := reservation_found reserved
  obtain ⟨found, -, -⟩ := decrementPlan_eq_ok.mp (reservation_eq_some.mp reserved).2
  have units : (getDetails item).quantity = quantity := Option.some.inj asked
  have after : (decrementQuantity engine session s (decrementBody item)).2.db.inventory =
      s.db.inventory.save { taken with quantity := taken.quantity - quantity } := by
    rw [decrementQuantity_state, reserved]
    rfl
  have some_units : quantity ≠ 0 := units ▸ orOne_ne_zero item.quantity
  rw [after, units, debits_row_iff refers.1 stored some_units, ← first_answers_iff,
    decrementRow_decrementBody found, Option.some_inj]

/-- A row of each of two kits. -/
def twoRows (first second : String × String) : Table Inventory.id :=
  ⟨[⟨1, first.1, "", first.2, 5, 1⟩, ⟨2, second.1, "", second.2, 5, 2⟩], by simp, by simp⟩

/-- Three units of the second kit, from the second row. -/
def ofSecondKit (location name : String) : CartItem :=
  ⟨7, 2, some 2, 3, some ⟨2, "Water table", 10⟩, some ⟨2, location, name⟩,
    by rintro k ⟨rfl⟩; rfl, rfl⟩

theorem library_row_is_debited :
    Adjusts (twoRows ("1 Main St", "Library") ("1 Main St", "Library"))
      (decrementQuantity .sqlite customer
        (sampleShop (twoRows ("1 Main St", "Library") ("1 Main St", "Library")) .empty)
        (decrementBody (ofSecondKit "1 Main St" "Library"))).2.db.inventory
      (some 2) (-3) := by
  refine (reserves_own_row_iff .sqlite customer
    (sampleShop (twoRows ("1 Main St", "Library") ("1 Main St", "Library")) .empty)
    (ofSecondKit "1 Main St" "Library") ⟨2, "1 Main St", "", "Library", 5, 2⟩
    ⟨by decide, rfl⟩ (by decide)).mpr ?_
  refine ⟨by decide, [⟨1, "1 Main St", "", "Library", 5, 1⟩], [], rfl, ?_⟩
  intro other earlier
  cases List.mem_singleton.mp earlier
  decide

/-- Two kits are stored in the warehouse, and the units of the second are taken from the row of
the first. -/
theorem other_kit_is_debited :
    RefersTo (sampleShop (twoRows ("", "warehouse") ("", "warehouse")) .empty).db
        (ofSecondKit "" "warehouse") ⟨2, "", "", "warehouse", 5, 2⟩ ∧
      (decrementQuantity .sqlite customer
        (sampleShop (twoRows ("", "warehouse") ("", "warehouse")) .empty)
        (decrementBody (ofSecondKit "" "warehouse"))).1.fetchOk = true ∧
      (decrementQuantity .sqlite customer
        (sampleShop (twoRows ("", "warehouse") ("", "warehouse")) .empty)
        (decrementBody (ofSecondKit "" "warehouse"))).2.db.inventory.rows =
          [⟨1, "", "", "warehouse", 2, 1⟩, ⟨2, "", "", "warehouse", 5, 2⟩] ∧
      ¬ Adjusts (twoRows ("", "warehouse") ("", "warehouse"))
        (decrementQuantity .sqlite customer
          (sampleShop (twoRows ("", "warehouse") ("", "warehouse")) .empty)
          (decrementBody (ofSecondKit "" "warehouse"))).2.db.inventory
        (some 2) (-3) := by
  refine ⟨⟨by decide, rfl⟩, by decide, by decide, ?_⟩
  intro debits
  exact absurd (debits 1) (by decide)

end ProductSite.Checkout.ReservedRow
