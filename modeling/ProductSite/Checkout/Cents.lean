/- Module: ProductSite/Checkout/Cents
   source: backend/app/routes/purchase_routes.py, backend/app/routes/checkout_routes.py,
     backend/app/models/kits.py
   digest: Prices that are held in binary become cents by truncation. -/

import Mathlib.Algebra.Order.Field.Rat
import Mathlib.Data.Rat.Floor
import Mathlib.Tactic.Linarith
import Mathlib.Tactic.NormNum
import ProductSite.Backend.CheckoutRoutes

set_option autoImplicit false
set_option relaxedAutoImplicit false

namespace ProductSite.Checkout.Cents

open ProductSite.Foundation.Floats (Arithmetic)
open ProductSite.Foundation.Wire (JsonField)
open ProductSite.Backend.CheckoutRoutes
open ProductSite.Backend.PurchaseRoutes

private theorem cents_eq_floor {price : ℚ} (free : 0 ≤ price) :
    cents .exact price = some ⌊price * 100⌋ := by
  have positive : 0 ≤ (price * 100).num := Rat.num_nonneg.mpr (by linarith)
  have truncated : (price * 100).num.tdiv (price * 100).den = ⌊price * 100⌋ := by
    rw [Int.tdiv_eq_ediv_of_nonneg positive, ← Rat.floor_intCast_div_natCast, Rat.num_div_den]
  exact congrArg some truncated

/-- A price near a whole number of cents becomes that number exactly if it is not below it. -/
private theorem cents_eq_iff {price : ℚ} {n : ℤ} (free : 0 ≤ price)
    (near : |price * 100 - n| ≤ 1 / 1000) :
    cents .exact price = some n ↔ (n : ℚ) ≤ price * 100 := by
  rw [cents_eq_floor free, Option.some.injEq, Int.floor_eq_iff]
  constructor
  · intro floor
    exact floor.1
  · intro reached
    refine ⟨reached, ?_⟩
    have above : price * 100 - n ≤ 1 / 1000 := (abs_le.mp near).2
    linarith

/-- With exact multiplication, for a price within a thousandth of a cent of a whole number of
cents, the amount that is added to a purchase is that number for each unit, and the unit amount
of a checkout session is that number, if and only if the price is not below it. -/
theorem exact_cents_iff (price : ℚ) (n : ℤ) (quantity : Int) (kitId inventoryId : JsonField Nat)
    (title : JsonField String) (titled : title.present = true) (free : 0 ≤ price)
    (near : |price * 100 - n| ≤ 1 / 1000) :
    (itemAmount .exact ⟨kitId, inventoryId, .value quantity, some ⟨some price⟩⟩ =
        some (n * quantity) ∧
      (lineItem .exact ⟨title, some price, .value quantity⟩).map LineItem.unitAmount = some n) ↔
      (n : ℚ) ≤ price * 100 := by
  have amount : itemAmount .exact ⟨kitId, inventoryId, .value quantity, some ⟨some price⟩⟩ =
      (cents .exact price).map (· * quantity) := by
    simp only [itemAmount, Option.bind_some, JsonField.getD]
    cases cents .exact price <;> rfl
  have unit : (lineItem .exact ⟨title, some price, .value quantity⟩).map LineItem.unitAmount =
      cents .exact price := by
    have asked : (JsonField.value quantity).present = true := rfl
    simp only [lineItem, Option.bind_some, titled, asked]
    cases cents .exact price <;> rfl
  rw [amount, unit, ← cents_eq_iff free near]
  constructor
  · intro both
    exact both.2
  · intro same
    exact ⟨by rw [same, Option.map_some], same⟩

/-- A price of twenty dollars is twenty dollars. -/
theorem twenty_dollars_are_exact :
    itemAmount .exact ⟨.value 1, .value 1, .value 3, some ⟨some 20⟩⟩ = some (2000 * 3) ∧
      (lineItem .exact ⟨.value "Sand tray", some 20, .value 3⟩).map LineItem.unitAmount =
        some 2000 :=
  (exact_cents_iff 20 2000 3 (.value 1) (.value 1) (.value "Sand tray") rfl (by norm_num)
    (by norm_num)).mpr (by norm_num)

/-- The float nearest to 19.99. -/
def binaryPrice : ℚ := 5626684784446013 / 281474976710656

example : Arithmetic.binary.nearest (1999 / 100) = .finite binaryPrice := by decide +kernel

/-- The float for a price of 19.99 lies within a thousandth of a cent below 1999 cents. Three
units are charged at 1998 cents each. -/
theorem binary_price_loses_a_cent :
    0 ≤ binaryPrice ∧ |binaryPrice * 100 - (1999 : ℤ)| ≤ 1 / 1000 ∧
      itemAmount .exact ⟨.value 1, .value 1, .value 3, some ⟨some binaryPrice⟩⟩ =
        some (1998 * 3) ∧
      (lineItem .exact ⟨.value "Sand tray", some binaryPrice, .value 3⟩).map
        LineItem.unitAmount = some 1998 := by
  have near : |binaryPrice * 100 - (1999 : ℤ)| ≤ 1 / 1000 := by
    rw [abs_le]
    norm_num [binaryPrice]
  exact ⟨by norm_num [binaryPrice], near, by decide +kernel, by decide +kernel⟩

end ProductSite.Checkout.Cents
