/- Module: ProductSite/Cart/Simulation
   source: react-router-bootstrap-app/src/context/CartContext.jsx,
     backend/app/routes/cart_routes.py
   digest: The cart that a client keeps is the one that the server would return, up to order. -/

import Mathlib.Data.List.Perm.Basic
import ProductSite.Backend.Requests
import ProductSite.Foundation.Runs
import ProductSite.Storefront.CartContext

set_option autoImplicit false
set_option relaxedAutoImplicit false

namespace ProductSite.Cart.Simulation

open ProductSite.Foundation.Runs
open ProductSite.Backend.Models
open ProductSite.Backend.CartRoutes
open ProductSite.Backend.Requests (customer shelfOnly)
open ProductSite.Storefront.CartContext

/-- What is compared of an entry: `id`, `kit_id`, `inventory_id` and `quantity`. -/
def shown (entry : CartDump) : Nat × Nat × Option Nat × ℚ :=
  (entry.item.id, entry.item.kitId, entry.item.inventoryId, entry.item.quantity)

/-- The client shows what a GET would return, up to order. -/
def InStep (session : Session) (p : Provider) : Prop :=
  (p.cart.map shown).Perm ((fetched session p.server).map shown)

/-- The simulation relation: the entries are the user's rows as they are dumped, one for each kit
and location. -/
structure Mirrors (user : Nat) (p : Provider) : Prop where
  items : (p.cart.map CartDump.item).Perm ((ownRows user p.server).map dumped)
  unique : OneRowEach (ownRows user p.server)

section Relation

variable {session : Session} {user : Nat}

private theorem inStep_of_mirrors (login : session.user = some user) {p : Provider}
    (mirrors : Mirrors user p) : InStep session p := by
  let field : CartItem → Nat × Nat × Option Nat × ℚ :=
    fun item => (item.id, item.kitId, item.inventoryId, item.quantity)
  have viewed : ∀ cart : List CartDump, cart.map shown = (cart.map CartDump.item).map field := by
    intro cart
    rw [List.map_map]
    rfl
  rw [InStep, viewed, viewed, items_fetched login]
  exact mirrors.items.map field

private theorem mirrors_fetched (login : session.user = some user) {s : State}
    (unique : OneRowEach (ownRows user s)) : Mirrors user ⟨s, fetched session s⟩ :=
  ⟨by rw [items_fetched login], unique⟩

/-- A change that leaves user, kit and location alone keeps the rows apart. -/
private theorem oneRowEach_map {rows : List CartItem} (unique : OneRowEach rows)
    {change : CartItem → CartItem} (place : ∀ item, purpose (change item) = purpose item) :
    OneRowEach (rows.map change) := by
  intro item member other present same
  obtain ⟨old, stored, rfl⟩ := List.mem_map.mp member
  obtain ⟨old', stored', rfl⟩ := List.mem_map.mp present
  rw [place, place] at same
  rw [unique old stored old' stored' same]

private theorem oneRowEach_append {rows : List CartItem} {new : CartItem}
    (unique : OneRowEach rows) (fresh : ∀ item ∈ rows, purpose item ≠ purpose new) :
    OneRowEach (rows ++ [new]) := by
  intro item member other present same
  rcases List.mem_append.mp member with old | added
  · rcases List.mem_append.mp present with old' | added'
    · exact unique item old other old' same
    · rw [List.mem_singleton.mp added'] at same
      exact absurd same (fresh item old)
  · rcases List.mem_append.mp present with old' | added'
    · rw [List.mem_singleton.mp added] at same
      exact absurd same.symm (fresh other old')
    · rw [List.mem_singleton.mp added, List.mem_singleton.mp added']

private theorem purpose_withQuantity (id : Nat) (quantity : ℚ) (item : CartItem) :
    purpose (withQuantity id quantity item) = purpose item := by
  unfold withQuantity
  split <;> rfl

/-- Setting an integer shows as it is. -/
private theorem dumped_withQuantity (id : Nat) {quantity : ℚ} (whole : Whole quantity)
    (item : CartItem) :
    dumped (withQuantity id quantity item) = withQuantity id quantity (dumped item) := by
  by_cases here : item.id = id
  · have changed : dumped { item with quantity := quantity } = { item with quantity := quantity } :=
      Whole.dumped_eq whole
    have named : (dumped item).id = id := here
    rw [withQuantity, withQuantity, if_pos here, if_pos named, changed]
    rfl
  · have elsewhere : (dumped item).id ≠ id := here
    rw [withQuantity, withQuantity, if_neg here, if_neg elsewhere]

private theorem isFor_iff {kitId inventoryId : Nat} {item : CartItem} :
    isFor kitId inventoryId item = true ↔
      item.kitId = kitId ∧ item.inventoryId = some inventoryId := by
  simp [isFor]

/-- Where rows are unique, adding one to the entries of a kit and location is setting the
quantity of the one row that has them. -/
private theorem addOne_eq_withQuantity {rows : List CartItem} (unique : OneRowEach rows)
    (own : ∀ item ∈ rows, item.userId = user) (keyed : (rows.map CartItem.id).Nodup)
    {kitId inventoryId : Nat} {existing : CartItem} (member : existing ∈ rows)
    (hit : isFor kitId inventoryId existing = true) {item : CartItem} (stored : item ∈ rows) :
    addOne kitId inventoryId item =
      withQuantity existing.id (existing.quantity + 1) item := by
  obtain ⟨kit, inventory⟩ := isFor_iff.mp hit
  unfold addOne withQuantity
  by_cases same : item = existing
  · rw [same, if_pos hit, if_pos rfl]
  · have other : isFor kitId inventoryId item = false := by
      refine Bool.eq_false_iff.mpr ?_
      intro alike
      obtain ⟨kit', inventory'⟩ := isFor_iff.mp alike
      refine same (unique item stored existing member ?_)
      rw [purpose, purpose, own item stored, own existing member, kit', kit, inventory', inventory]
    have elsewhere : item.id ≠ existing.id := fun equal =>
      same (List.inj_on_of_nodup_map keyed stored member equal)
    rw [other, if_neg elsewhere]
    rfl

end Relation

section Steps

variable {engine : Engine} {session : Session} {user : Nat} {s : State} {cart : List CartDump}

/-- What a client sees has the ids of the stored rows. -/
private theorem nodup_dumped : (((ownRows user s).map dumped).map CartItem.id).Nodup := by
  rw [List.map_map]
  exact s.db.cartItems.distinct.sublist (List.filter_sublist.map CartItem.id)

private theorem owner_dumped : ∀ item ∈ (ownRows user s).map dumped, item.userId = user := by
  intro item member
  obtain ⟨row, own, rfl⟩ := List.mem_map.mp member
  exact (mem_ownRows.mp own).2

/-- An accepted PUT of an integer is the same change on both sides. -/
private theorem mirrors_put (login : session.user = some user) (mirrors : Mirrors user ⟨s, cart⟩)
    {id : Nat} {quantity : ℚ} (whole : Whole quantity) {change : CartItem → CartItem}
    (same : ∀ item ∈ (ownRows user s).map dumped, change item = withQuantity id quantity item)
    (accepted : (updateCart engine session s id ⟨.value quantity, .absent⟩).1.fetchOk = true) :
    Mirrors user ⟨(updateCart engine session s id ⟨.value quantity, .absent⟩).2,
      cart.map (CartDump.onItem change)⟩ := by
  obtain ⟨item, found, after⟩ := updateCart_accepted login accepted
  have rows : ownRows user (updateCart engine session s id ⟨.value quantity, .absent⟩).2 =
      (ownRows user s).map (withQuantity id quantity) := by
    rw [after, whole.stored engine]
    exact ownRows_setQuantity quantity found
  refine ⟨?_, ?_⟩
  · change ((cart.map (CartDump.onItem change)).map CartDump.item).Perm
      ((ownRows user (updateCart engine session s id ⟨.value quantity, .absent⟩).2).map dumped)
    have shows : ((ownRows user s).map (withQuantity id quantity)).map dumped =
        ((ownRows user s).map dumped).map (withQuantity id quantity) := by
      rw [List.map_map, List.map_map]
      exact List.map_congr_left fun item _ => dumped_withQuantity id whole item
    rw [rows, shows, items_onItem, ← List.map_congr_left same]
    exact mirrors.items.map change
  · change OneRowEach (ownRows user (updateCart engine session s id ⟨.value quantity, .absent⟩).2)
    rw [rows]
    exact oneRowEach_map mirrors.unique (purpose_withQuantity id quantity)

/-- An accepted POST inserts a row for a kit and location that the client does not hold. -/
private theorem unique_post (login : session.user = some user)
    (unique : OneRowEach (ownRows user s)) {kitId inventoryId : Nat}
    (absent : ∀ item ∈ ownRows user s, isFor kitId inventoryId item = false)
    (accepted : (addToCart engine session s
      ⟨.value kitId, .value inventoryId, .value 1⟩).1.fetchOk = true) :
    OneRowEach (ownRows user
      (addToCart engine session s ⟨.value kitId, .value inventoryId, .value 1⟩).2) := by
  have missing : findItem s.db user (some kitId) (some inventoryId) = none := by
    rw [findItem_chosen]
    refine List.find?_eq_none.mpr ?_
    intro item own
    rw [absent item own]
    exact Bool.false_ne_true
  rw [addToCart_chosen login, missing] at accepted ⊢
  rw [insertItem_accepted accepted, ownRows_inserted]
  refine oneRowEach_append unique ?_
  intro item own same
  simp only [purpose, newItem, Prod.mk.injEq] at same
  have other := absent item own
  rw [isFor_iff.mpr same.2] at other
  cases other

private theorem mirrors_addChosen (login : session.user = some user)
    (mirrors : Mirrors user ⟨s, cart⟩) {kitId chosen : Nat}
    (accepted : (serve engine session s (addChosen cart kitId chosen).2).1 = true) :
    Mirrors user
      ⟨(serve engine session s (addChosen cart kitId chosen).2).2,
        if refetches (addChosen cart kitId chosen).2 then
          fetched session (serve engine session s (addChosen cart kitId chosen).2).2
        else (addChosen cart kitId chosen).1⟩ := by
  cases found : cart.find? (fun entry => isFor kitId chosen entry.item) with
  | some existing =>
      have hit : isFor kitId chosen existing.item = true := by
        simpa using List.find?_some found
      have seen : existing.item ∈ (ownRows user s).map dumped :=
        mirrors.items.mem_iff.mp (List.mem_map_of_mem (List.mem_of_find?_eq_some found))
      -- what the client shows came from a dump, so it sends an integer
      have whole : Whole (existing.item.quantity + 1) := by
        obtain ⟨row, -, shown⟩ := List.mem_map.mp seen
        have next := (whole_dumped row).add 1
        rwa [shown, Int.cast_one] at next
      have sent : addChosen cart kitId chosen =
          (cart.map (CartDump.onItem (addOne kitId chosen)),
            .updateCart existing.item.id ⟨.value (existing.item.quantity + 1), .absent⟩) := by
        rw [addChosen, found]
      rw [sent] at accepted ⊢
      refine mirrors_put login mirrors whole ?_ accepted
      intro item stored
      have apart : OneRowEach ((ownRows user s).map dumped) :=
        oneRowEach_map mirrors.unique fun _ => rfl
      exact addOne_eq_withQuantity apart owner_dumped nodup_dumped seen hit stored
  | none =>
      have absent : ∀ item ∈ ownRows user s, isFor kitId chosen item = false := by
        intro item own
        obtain ⟨entry, member, same⟩ :=
          List.mem_map.mp (mirrors.items.mem_iff.mpr (List.mem_map_of_mem own))
        have other := Bool.eq_false_iff.mpr (List.find?_eq_none.mp found entry member)
        rw [same] at other
        exact other
      have sent : addChosen cart kitId chosen =
          (cart, .addToCart ⟨.value kitId, .value chosen, .value 1⟩) := by
        rw [addChosen, found]
      rw [sent] at accepted ⊢
      exact mirrors_fetched login (unique_post login mirrors.unique absent accepted)

/-- A quantity that is set is an integer. -/
def SetsInteger : CartAction → Prop
  | .updateQuantity _ quantity => Whole quantity
  | _ => True

/-- Every call that the server processes with success keeps the relation. -/
private theorem mirrors_perform (login : session.user = some user) {p : Provider}
    {action : CartAction} (mirrors : Mirrors user p) (integer : SetsInteger action)
    (accepted : isProcessed engine session p action = true) :
    Mirrors user (perform engine session p action) := by
  obtain ⟨s, cart⟩ := p
  cases action with
  | addToCart kitId inventoryId inventories selected =>
      cases choice : chooseInventory inventoryId inventories selected with
      | none =>
          rw [perform, act, choice]
          exact mirrors
      | some chosen =>
          simp only [isProcessed, act, choice] at accepted
          simp only [perform, act, choice]
          exact mirrors_addChosen login mirrors accepted
  | updateQuantity id quantity =>
      exact mirrors_put login mirrors integer (fun _ _ => rfl) accepted
  | removeFromCart id =>
      have after : (deleteCart session s id).2 =
          withCart s (s.db.cartItems.remove (fun item => item.id = id)) :=
        deleteCart_accepted login accepted
      have rows : ownRows user (deleteCart session s id).2 =
          (ownRows user s).filter (fun item => item.id ≠ id) := by
        rw [after, ownRows_removed]
      refine ⟨?_, ?_⟩
      · change ((cart.filter (fun entry => entry.item.id ≠ id)).map CartDump.item).Perm
          ((ownRows user (deleteCart session s id).2).map dumped)
        have kept : (cart.filter (fun entry => entry.item.id ≠ id)).map CartDump.item =
            (cart.map CartDump.item).filter (fun item => item.id ≠ id) := by
          rw [List.filter_map]
          rfl
        have shows : ((ownRows user s).filter (fun item => item.id ≠ id)).map dumped =
            ((ownRows user s).map dumped).filter (fun item => item.id ≠ id) := by
          rw [List.filter_map]
          rfl
        rw [rows, kept, shows]
        exact mirrors.items.filter _
      · change OneRowEach (ownRows user (deleteCart session s id).2)
        rw [rows]
        intro item member other present
        exact mirrors.unique item (List.mem_filter.mp member).1 other (List.mem_filter.mp present).1
  | clearCart =>
      have rows : ownRows user (deleteAllCart session s).2 = [] := by
        rw [deleteAllCart_state login, ownRows_cleared]
      refine ⟨?_, ?_⟩
      · change ([] : List CartItem).Perm ((ownRows user (deleteAllCart session s).2).map dumped)
        rw [rows]
        exact List.Perm.nil
      · change OneRowEach (ownRows user (deleteAllCart session s).2)
        rw [rows]
        intro item member
        cases member

end Steps

/-- From the answer of a GET for a cart with one row for each kit and location, the client's
list is the one that a GET would return after every call, as long as the quantities that are set
are integers and each call is processed with success before the next. -/
theorem client_cart_in_step (engine : Engine) (session : Session) (user : Nat)
    (login : session.user = some user) (s : State) (unique : OneRowEach (ownRows user s))
    (actions : List CartAction) (integers : ∀ action ∈ actions, SetsInteger action)
    (processed : EachStep (perform engine session)
      (fun p action => isProcessed engine session p action = true) ⟨s, fetched session s⟩ actions) :
    Along (perform engine session) (InStep session) ⟨s, fetched session s⟩ actions := by
  have keeps : ∀ (p : Provider) (action : CartAction), Mirrors user p →
      SetsInteger action ∧ isProcessed engine session p action = true →
        Mirrors user (perform engine session p action) :=
    fun p action mirrors each => mirrors_perform login mirrors each.1 each.2
  have each : EachStep (perform engine session)
      (fun p action => SetsInteger action ∧ isProcessed engine session p action = true)
      ⟨s, fetched session s⟩ actions :=
    (eachStep_of_forall integers _).and processed
  have along := along_of_eachStep keeps (mirrors_fetched login unique) each
  intro handled here
  exact inStep_of_mirrors login (along handled here)

theorem client_cart_in_step_for_a_customer :
    Along (perform .sqlite customer) (InStep customer) ⟨shelfOnly 3, fetched customer (shelfOnly 3)⟩
      [.addToCart 1 (some 1) [] none, .addToCart 1 (some 1) [] none, .updateQuantity 1 5,
        .removeFromCart 1] := by
  have unique : OneRowEach (ownRows 1 (shelfOnly 3)) := by
    intro item member
    cases member
  refine client_cart_in_step .sqlite customer 1 rfl (shelfOnly 3) unique _ ?_ ?_
  · simp only [List.forall_mem_cons, SetsInteger, List.not_mem_nil, false_implies, implies_true,
      true_and, and_true]
    exact ⟨5, rfl⟩
  · exact eachStep_cons.mpr ⟨by decide, eachStep_cons.mpr ⟨by decide +kernel, eachStep_cons.mpr
      ⟨by decide +kernel, eachStep_cons.mpr ⟨by decide +kernel, eachStep_nil _ _⟩⟩⟩⟩

/-- A customer's cart with one tray. -/
def oneTrayInCart : State :=
  withCart (shelfOnly 3) ⟨[⟨1, 1, 1, some 1, 1⟩], by decide, by decide⟩

/-- The customer enters two and a half: the request is answered with success and the page shows
5/2, but SQLite's answer to a GET is 2 and the one of MySQL is 3. -/
theorem fraction_is_shown_but_not_stored :
    isProcessed .sqlite customer ⟨oneTrayInCart, fetched customer oneTrayInCart⟩
        (.updateQuantity 1 (5 / 2)) = true ∧
      isProcessed .mysql customer ⟨oneTrayInCart, fetched customer oneTrayInCart⟩
        (.updateQuantity 1 (5 / 2)) = true ∧
      (perform .sqlite customer ⟨oneTrayInCart, fetched customer oneTrayInCart⟩
        (.updateQuantity 1 (5 / 2))).cart.map shown = [(1, 1, some 1, 5 / 2)] ∧
      (fetched customer (perform .sqlite customer ⟨oneTrayInCart, fetched customer oneTrayInCart⟩
        (.updateQuantity 1 (5 / 2))).server).map shown = [(1, 1, some 1, 2)] ∧
      (fetched customer (perform .mysql customer ⟨oneTrayInCart, fetched customer oneTrayInCart⟩
        (.updateQuantity 1 (5 / 2))).server).map shown = [(1, 1, some 1, 3)] ∧
      ¬ InStep customer (perform .sqlite customer ⟨oneTrayInCart, fetched customer oneTrayInCart⟩
        (.updateQuantity 1 (5 / 2))) := by
  have client : (perform .sqlite customer ⟨oneTrayInCart, fetched customer oneTrayInCart⟩
      (.updateQuantity 1 (5 / 2))).cart.map shown = [(1, 1, some 1, 5 / 2)] := by
    decide +kernel
  have stored : (fetched customer (perform .sqlite customer
      ⟨oneTrayInCart, fetched customer oneTrayInCart⟩ (.updateQuantity 1 (5 / 2))).server).map
      shown = [(1, 1, some 1, 2)] := by
    decide +kernel
  refine ⟨by decide +kernel, by decide +kernel, client, stored, by decide +kernel, ?_⟩
  intro same
  rw [InStep, client, stored, List.singleton_perm_singleton] at same
  exact absurd same (by decide +kernel)

end ProductSite.Cart.Simulation
