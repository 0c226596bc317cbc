/- Module: ProductSite/Stock/Expiry
   source: backend/app/routes/inventory_routes.py, backend/scripts/redis_listener.py
   digest: The listener reads a key that nothing writes, so no expired reservation comes back. -/

import ProductSite.Backend.Requests

set_option autoImplicit false
set_option relaxedAutoImplicit false

namespace ProductSite.Stock.Expiry

open ProductSite.Foundation.Balances (isSome_postAll post_add)
open ProductSite.Foundation.Runs
open ProductSite.Foundation.Wire (Keyspace numbered_ne_suffixed)
open ProductSite.Backend.Models
open ProductSite.Backend.InventoryRoutes
open ProductSite.Backend.RedisListener
open ProductSite.Backend.Requests

/-- After the event of the expired reservation, the row has these units more than before. -/
def RolledBack (server : Server) (s : State) (inventory user : Nat) (quantity : Int) : Prop :=
  (step server s (.expire (pendingKey inventory user))).stock inventory =
    (s.stock inventory).map (· + quantity)

/-- The units of the row in the record that the listener looks for. -/
def metadataUnits (s : State) (inventory user : Nat) : Int :=
  match rollbackRecord s (pendingKey inventory user) with
  | none => 0
  | some data => if inventory = data.inventoryId then data.quantity else 0

def NoMetadata (s : State) : Prop := ∀ name, s.redis.get (metadataKey name) = none

section Metadata

private theorem metadataKey_ne_pendingKey (name : String) (inventory user : Nat) :
    metadataKey name ≠ pendingKey inventory user := by
  intro same
  have letter : (":data" : String).toList = [':', 'd', 'a', 't'] ++ ['a'] := by decide
  exact numbered_ne_suffixed s!"pending_inventory:{inventory}:" name ":data" user letter
    (by decide) same.symm

private theorem metadataKey_ne_self (name : String) : metadataKey name ≠ name := by
  intro same
  have lengths := congrArg String.length same
  rw [metadataKey] at lengths
  change (name ++ ":data").length = name.length at lengths
  rw [String.length_append] at lengths
  have five : (":data" : String).length = 5 := by decide
  omega

/-- No request writes a record where the listener looks for it. -/
private theorem noMetadata_step (server : Server) (s : State) (request : Request)
    (before : NoMetadata s) : NoMetadata (step server s request) := by
  intro name
  rcases step_redis server s request with ⟨names, deleted⟩ | ⟨inventory, user, data, written⟩
  · rw [deleted, Keyspace.get_deleteAll]
    split
    · rfl
    · exact before name
  -- the reservation key ends in a digit, the name that the listener reads in a letter
  · rw [written, Keyspace.get_set, if_neg (metadataKey_ne_pendingKey name inventory user)]
    exact before name

theorem noMetadata_along (server : Server) {s : State} (start : NoMetadata s)
    (requests : List Request) : Along (step server) NoMetadata s requests :=
  along_of_kept (noMetadata_step server) start requests

end Metadata

section Events

private theorem rollbackRecord_forget (s : State) (name : String) :
    rollbackRecord (forget s name) name = rollbackRecord s name := by
  unfold rollbackRecord forget
  rw [Keyspace.get_delete, if_neg (metadataKey_ne_self name)]

private theorem rollbackRecord_noMetadata {s : State} (clean : NoMetadata s) (name : String) :
    rollbackRecord s name = none := by
  unfold rollbackRecord
  rw [clean name]
  split <;> rfl

private theorem metadataUnits_none {s : State} {inventory user : Nat}
    (absent : rollbackRecord s (pendingKey inventory user) = none) :
    metadataUnits s inventory user = 0 := by
  delta metadataUnits
  rw [absent]

private theorem metadataUnits_some {s : State} {inventory user : Nat} {data : RollbackData}
    (found : rollbackRecord s (pendingKey inventory user) = some data) :
    metadataUnits s inventory user =
      if inventory = data.inventoryId then data.quantity else 0 := by
  delta metadataUnits
  rw [found]

private theorem stock_expire (server : Server) (s : State) (inventory user : Nat) :
    (step server s (.expire (pendingKey inventory user))).stock inventory =
      (s.stock inventory).map (· + metadataUnits s inventory user) := by
  have expired : step server s (.expire (pendingKey inventory user)) =
      handleExpired (forget s (pendingKey inventory user)) (pendingKey inventory user) := rfl
  rw [expired, stock_handleExpired, rollbackRecord_forget]
  cases record : rollbackRecord s (pendingKey inventory user) with
  | none =>
      change s.stock inventory = _
      simp [metadataUnits_none record]
  | some data =>
      simp only
      rw [post_add, metadataUnits_some record]
      rfl

private theorem rolledBack_iff_metadata (server : Server) (user : Nat) {s : State}
    {inventory : Nat} (present : (s.stock inventory).isSome) (quantity : Int) :
    RolledBack server s inventory user quantity ↔ metadataUnits s inventory user = quantity := by
  obtain ⟨held, found⟩ := Option.isSome_iff_exists.mp present
  rw [RolledBack, stock_expire, found]
  simp

private theorem row_stays (server : Server) {s : State} {session : Session} {body : DecrementBody}
    {user : Nat} {inv : Inventory} {quantity : Int}
    (accepted : reservation server.engine session s.db body = some (user, inv, quantity))
    (requests : List Request) : ((run (step server) s requests).stock inv.id).isSome := by
  have found := (reservation_found accepted).1
  have start : (s.stock inv.id).isSome := by
    rw [State.stock, stockOf_of_get? found]
    rfl
  have keeps : ∀ t request, (t.stock inv.id).isSome →
      ((step server t request).stock inv.id).isSome := by
    intro t request opened
    rw [stock_step]
    exact isSome_postAll opened _
  exact (along_of_kept keeps start requests).finish

end Events

/-- A decrement of a row is accepted, other requests follow, and its key expires. The row is
rolled back by these units precisely when the record beside the key says so; from a Redis
without such records, precisely when there are no units to roll back. -/
theorem rolledBack_iff (server : Server) (s : State) (session : Session) (body : DecrementBody)
    (user : Nat) (inv : Inventory) (quantity : Int) (between : List Request)
    (accepted : reservation server.engine session s.db body = some (user, inv, quantity)) :
    (RolledBack server (run (step server) s (.decrementQuantity session body :: between)) inv.id
        user quantity ↔
      metadataUnits (run (step server) s (.decrementQuantity session body :: between)) inv.id
        user = quantity) ∧
    (NoMetadata s →
      (RolledBack server (run (step server) s (.decrementQuantity session body :: between)) inv.id
        user quantity ↔ quantity = 0)) := by
  have exact_record := rolledBack_iff_metadata server user
    (row_stays server accepted (.decrementQuantity session body :: between)) quantity
  refine ⟨exact_record, ?_⟩
  intro clean
  have absent := rollbackRecord_noMetadata (noMetadata_along server clean
    (.decrementQuantity session body :: between)).finish (pendingKey inv.id user)
  have nothing : metadataUnits
      (run (step server) s (.decrementQuantity session body :: between)) inv.id user = 0 :=
    metadataUnits_none absent
  rw [exact_record, nothing]
  exact eq_comm

/-- Two units are reserved and their key expires: the row keeps its one unit. -/
theorem expired_units_stay_reserved :
    reservation sampleServer.engine customer (shelfOnly 3).db
        ⟨.value "Library", .value 2, .value 1, .value "1 Main St"⟩ = some (1, shelf 3, 2) ∧
      (run (step sampleServer) (shelfOnly 3) [takeFromShelf 2]).stock 1 = some 1 ∧
      (run (step sampleServer) (shelfOnly 3)
        [takeFromShelf 2, .expire (pendingKey 1 1)]).stock 1 = some 1 := by
  decide

theorem recorded_units_come_back :
    RolledBack sampleServer
      (run (step sampleServer)
        { shelfOnly 3 with
          redis := Keyspace.empty.set (metadataKey (pendingKey 1 1)) (.rollback ⟨1, some 1, 2⟩) }
        [takeFromShelf 2]) 1 1 2 :=
  (rolledBack_iff sampleServer
    { shelfOnly 3 with
      redis := Keyspace.empty.set (metadataKey (pendingKey 1 1)) (.rollback ⟨1, some 1, 2⟩) }
    customer ⟨.value "Library", .value 2, .value 1, .value "1 Main St"⟩ 1 (shelf 3) 2 []
    rfl).1.mpr (by decide)

end ProductSite.Stock.Expiry
