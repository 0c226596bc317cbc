/- Module: ProductSite/Backend/RedisListener
   source: backend/scripts/redis_listener.py
   digest: The process that reacts to expired reservation keys. -/

import ProductSite.Backend.Models

set_option autoImplicit false
set_option relaxedAutoImplicit false

namespace ProductSite.Backend.RedisListener

open ProductSite.Foundation.Balances (post post_add_missing)
open ProductSite.Foundation.KeyedTable (Table)
open ProductSite.Backend.Models

def isPendingKey (name : String) : Bool := "pending_inventory:".toList.isPrefixOf name.toList

/-- The name under which the listener looks for the rollback record. -/
def metadataKey (name : String) : String := s!"{name}:data"

/-- The rollback record that the listener finds when the key of this name has expired. A
record that is no JSON object is reported and skipped. -/
def rollbackRecord (s : State) (name : String) : Option RollbackData :=
  if isPendingKey name then
    match s.redis.get (metadataKey name) with
    | some (.rollback data) => some data
    | _ => none
  else none

/-- One message of the subscription to expired keys. -/
def handleExpired (s : State) (name : String) : State :=
  match rollbackRecord s name with
  | none => s
  | some data =>
      let cleared := { s with redis := s.redis.delete (metadataKey name) }
      match s.db.inventory.get? data.inventoryId with
      | none => cleared
      | some inv => cleared.saveInventory { inv with quantity := inv.quantity + data.quantity }

def forget (s : State) (name : String) : State := { s with redis := s.redis.delete name }

/-- A key expires, and the listener handles the event that carries its name. -/
def expire (s : State) (name : String) : State := handleExpired (forget s name) name

theorem stock_handleExpired (s : State) (name : String) :
    (handleExpired s name).stock =
      match rollbackRecord s name with
      | none => s.stock
      | some data => post s.stock (.add data.inventoryId data.quantity) := by
  unfold handleExpired
  cases rollbackRecord s name with
  | none => rfl
  | some data =>
      simp only
      cases found : s.db.inventory.get? data.inventoryId with
      | none =>
          have missing : s.stock data.inventoryId = none := stockOf_of_missing found
          rw [post_add_missing missing]
          rfl
      | some inv =>
          have here : inv.id = data.inventoryId := Table.key_of_get? found
          rw [← here] at found ⊢
          exact stockOf_save_add found data.quantity

end ProductSite.Backend.RedisListener
