/- Module: ProductSite/Cart/LostAdds
   source: react-router-bootstrap-app/src/context/CartContext.jsx,
     backend/app/routes/cart_routes.py
   digest: Adds from several tabs all count iff every PUT carries the current quantity plus one. -/

import Mathlib.Logic.Function.Basic
import ProductSite.Cart.Simulation

set_option autoImplicit false
set_option relaxedAutoImplicit false

namespace ProductSite.Cart.LostAdds

open ProductSite.Foundation.KeyedTable (Table)
open ProductSite.Foundation.Runs
open ProductSite.Backend.Models
open ProductSite.Backend.CartRoutes
open ProductSite.Backend.InventoryRoutes (kitAllowed)
open ProductSite.Backend.PurchaseRoutes (inventoryAllowed)
open ProductSite.Backend.Requests (customer shelfOnly)
open ProductSite.Storefront.CartContext
open ProductSite.Cart.Simulation (oneTrayInCart)

/-- The user whose tabs add, and the kit and inventory row that all of them add. -/
structure Target where
  user : Nat
  kitId : Nat
  inventoryId : Nat

/-- One server, the carts of the tabs, and what is on its way: requests to the server and
answers to GETs. -/
structure World where
  server : State
  carts : Nat → List CartDump
  requests : List CartRequest
  answers : List (Nat × List CartDump)
  calls : Nat

/-- A tab calls `addToCart`, the server handles any of the requests, or answers a GET of a tab,
or any of its answers arrives. -/
inductive Event where
  | call (tab : Nat)
  | handle (position : Nat)
  | answer (tab : Nat)
  | arrive (position : Nat)

def worldStep (engine : Engine) (session : Session) (target : Target) (w : World) : Event → World
  | .call tab =>
      let added := addChosen (w.carts tab) target.kitId target.inventoryId
      { w with
        carts := Function.update w.carts tab added.1
        requests := w.requests ++ [added.2]
        calls := w.calls + 1 }
  | .handle position =>
      match w.requests[position]? with
      | none => w
      | some request =>
          { w with
            server := (serve engine session w.server request).2
            requests := w.requests.eraseIdx position }
  | .answer tab => { w with answers := w.answers ++ [(tab, fetched session w.server)] }
  | .arrive position =>
      match w.answers[position]? with
      | none => w
      | some (tab, cart) =>
          { w with
            carts := Function.update w.carts tab cart
            answers := w.answers.eraseIdx position }

section Rows

variable (target : Target)

def Target.matches (item : CartItem) : Bool := isFor target.kitId target.inventoryId item

/-- The quantity of the row for the target, zero without one. -/
def Target.quantityIn (rows : List CartItem) : ℚ :=
  ((rows.find? target.matches).map CartItem.quantity).getD 0

def Target.quantity (s : State) : ℚ := target.quantityIn (ownRows target.user s)

/-- At most one row for the target. -/
def Target.One (rows : List CartItem) : Prop :=
  ∀ item ∈ rows, ∀ other ∈ rows,
    target.matches item = true → target.matches other = true → item = other

/-- The id is that of a row for the target. -/
def Target.Knows (rows : List CartItem) (id : Nat) : Prop :=
  ∃ row ∈ rows, target.matches row = true ∧ row.id = id

def Target.put (id : Nat) (quantity : ℚ) : CartRequest :=
  .updateCart id ⟨.value quantity, .absent⟩

def Target.post : CartRequest :=
  .addToCart ⟨.value target.kitId, .value target.inventoryId, .value 1⟩

/-- What a tab sends: one more of the target, or a new quantity for a row. -/
def Target.Sends (request : CartRequest) : Prop :=
  request = target.post ∨ ∃ id quantity, Whole quantity ∧ request = Target.put id quantity

variable {target} {rows : List CartItem}

private theorem matches_withQuantity (id : Nat) (quantity : ℚ) (item : CartItem) :
    target.matches (withQuantity id quantity item) = target.matches item := by
  unfold withQuantity
  split <;> rfl

private theorem find?_of_one (one : target.One rows) {row : CartItem} (member : row ∈ rows)
    (hit : target.matches row = true) : rows.find? target.matches = some row := by
  cases found : rows.find? target.matches with
  | none => exact absurd hit (List.find?_eq_none.mp found row member)
  | some first =>
      rw [one first (List.mem_of_find?_eq_some found) row member (List.find?_some found) hit]

private theorem quantityIn_of_one (one : target.One rows) {row : CartItem} (member : row ∈ rows)
    (hit : target.matches row = true) : target.quantityIn rows = row.quantity := by
  rw [Target.quantityIn, find?_of_one one member hit]
  rfl

private theorem one_set (one : target.One rows) (id : Nat) (quantity : ℚ) :
    target.One (rows.map (withQuantity id quantity)) := by
  intro item member other present hit hit'
  obtain ⟨old, stored, rfl⟩ := List.mem_map.mp member
  obtain ⟨old', stored', rfl⟩ := List.mem_map.mp present
  rw [matches_withQuantity] at hit hit'
  rw [one old stored old' stored' hit hit']

private theorem quantityIn_set (one : target.One rows) {id : Nat} (known : target.Knows rows id)
    (quantity : ℚ) : target.quantityIn (rows.map (withQuantity id quantity)) = quantity := by
  obtain ⟨row, member, hit, named⟩ := known
  have written : withQuantity id quantity row ∈ rows.map (withQuantity id quantity) :=
    List.mem_map_of_mem member
  rw [quantityIn_of_one (one_set one id quantity) written (by rw [matches_withQuantity, hit])]
  rw [withQuantity, if_pos named]

/-- Setting the quantity of any other row does not show. -/
private theorem quantityIn_set_other {id : Nat} (unknown : ¬ target.Knows rows id) (quantity : ℚ) :
    target.quantityIn (rows.map (withQuantity id quantity)) = target.quantityIn rows := by
  have sees : target.matches ∘ withQuantity id quantity = target.matches := by
    funext item
    exact matches_withQuantity id quantity item
  unfold Target.quantityIn
  rw [List.find?_map, sees]
  cases found : rows.find? target.matches with
  | none => rfl
  | some row =>
      have elsewhere : row.id ≠ id := fun named =>
        unknown ⟨row, List.mem_of_find?_eq_some found, List.find?_some found, named⟩
      rw [Option.map_some, withQuantity, if_neg elsewhere]

private theorem quantityIn_absent (absent : ∀ item ∈ rows, target.matches item = false) :
    target.quantityIn rows = 0 := by
  have missing : rows.find? target.matches = none := by
    refine List.find?_eq_none.mpr ?_
    intro item member
    rw [absent item member]
    exact Bool.false_ne_true
  rw [Target.quantityIn, missing]
  rfl

private theorem one_append (absent : ∀ item ∈ rows, target.matches item = false) (new : CartItem) :
    target.One (rows ++ [new]) := by
  have only : ∀ item ∈ rows ++ [new], target.matches item = true → item = new := by
    intro item member hit
    rcases List.mem_append.mp member with old | added
    · rw [absent item old] at hit
      cases hit
    · exact List.mem_singleton.mp added
  intro item member other present hit hit'
  rw [only item member hit, only other present hit']

end Rows

section Server

variable {engine : Engine} {session : Session} {target : Target} {s : State}

/-- The engine accepts a row for the target. -/
def Target.Storable (target : Target) (engine : Engine) (db : Database) : Prop :=
  userAllowed engine db target.user = true ∧ kitAllowed engine db target.kitId = true ∧
    inventoryAllowed engine db (some target.inventoryId) = true

private theorem serve_frame (engine : Engine) (session : Session) (s : State)
    (request : CartRequest) :
    ∃ table, (serve engine session s request).2 = withCart s table := by
  have same : (serve engine session s request).2 = cartStep engine s ⟨session, request⟩ := by
    cases request <;> rfl
  rw [same]
  exact cartStep_frame engine s ⟨session, request⟩

private theorem storable_serve (storable : target.Storable engine s.db) (request : CartRequest) :
    target.Storable engine (serve engine session s request).2.db := by
  obtain ⟨table, after⟩ := serve_frame engine session s request
  rw [after]
  exact storable

/-- A PUT that names the row of the target sets its quantity. -/
private theorem rows_put (login : session.user = some target.user) {id : Nat}
    (known : target.Knows (ownRows target.user s) id) {quantity : ℚ} (whole : Whole quantity) :
    ownRows target.user (serve engine session s (Target.put id quantity)).2 =
      (ownRows target.user s).map (withQuantity id quantity) := by
  obtain ⟨row, own, -, rfl⟩ := known
  have found : s.db.cartItems.get? row.id = some row := Table.get?_of_mem (mem_ownRows.mp own).1
  have written : updatedItem engine s.db row ⟨.value quantity, .absent⟩ =
      some { row with quantity := quantity } := by
    rw [updatedItem_value, whole.stored engine]
  have after : (updateCart engine session s row.id ⟨.value quantity, .absent⟩).2 =
      withCart s (s.db.cartItems.save { row with quantity := quantity }) := by
    rw [updateCart_state login, found, Option.bind_some, written]
  change ownRows target.user (updateCart engine session s row.id ⟨.value quantity, .absent⟩).2 = _
  rw [after]
  exact ownRows_setQuantity quantity found

/-- Any PUT sets the quantity of the row that it names, or is refused. -/
private theorem rows_put_cases (login : session.user = some target.user) (id : Nat)
    {quantity : ℚ} (whole : Whole quantity) :
    ownRows target.user (serve engine session s (Target.put id quantity)).2 =
        ownRows target.user s ∨
      ownRows target.user (serve engine session s (Target.put id quantity)).2 =
        (ownRows target.user s).map (withQuantity id quantity) := by
  cases accepted : (updateCart engine session s id ⟨.value quantity, .absent⟩).1.fetchOk with
  | true =>
      obtain ⟨item, found, after⟩ := updateCart_accepted login accepted
      refine Or.inr ?_
      change ownRows target.user (updateCart engine session s id ⟨.value quantity, .absent⟩).2 = _
      rw [after, whole.stored engine]
      exact ownRows_setQuantity quantity found
  | false =>
      refine Or.inl ?_
      change ownRows target.user (updateCart engine session s id ⟨.value quantity, .absent⟩).2 = _
      rw [updateCart_refused login accepted]

private theorem rows_post (login : session.user = some target.user)
    (storable : target.Storable engine s.db)
    (whole : Integers (ownRows target.user s)) :
    (∃ row ∈ ownRows target.user s, target.matches row = true ∧
      ownRows target.user (serve engine session s target.post).2 =
        (ownRows target.user s).map (withQuantity row.id (row.quantity + 1))) ∨
    ((∀ item ∈ ownRows target.user s, target.matches item = false) ∧
      ownRows target.user (serve engine session s target.post).2 =
        ownRows target.user s ++ [newItem target.user target.kitId (some target.inventoryId) 1
          s.db.cartItems.nextKey]) := by
  have served : (serve engine session s target.post).2 =
      (addToCart engine session s
        ⟨.value target.kitId, .value target.inventoryId, .value 1⟩).2 := rfl
  rw [served, addToCart_chosen login]
  cases found : findItem s.db target.user (some target.kitId) (some target.inventoryId) with
  | some row =>
      rw [findItem_chosen] at found
      have own := List.mem_of_find?_eq_some found
      have stored : s.db.cartItems.get? row.id = some row :=
        Table.get?_of_mem (mem_ownRows.mp own).1
      have next : engine.integerColumn (row.quantity + (1 : Int)) = row.quantity + 1 := by
        rw [((whole row own).add 1).stored engine, Int.cast_one]
      refine Or.inl ⟨row, own, List.find?_some found, ?_⟩
      simp only [next]
      exact ownRows_setQuantity _ stored
  | none =>
      rw [findItem_chosen] at found
      have none_matches : ∀ item ∈ ownRows target.user s, target.matches item = false :=
        fun item own => Bool.eq_false_iff.mpr (List.find?_eq_none.mp found item own)
      refine Or.inr ⟨none_matches, ?_⟩
      have allowed : (userAllowed engine s.db target.user && kitAllowed engine s.db target.kitId &&
          inventoryAllowed engine s.db (some target.inventoryId)) = true := by
        rw [storable.1, storable.2.1, storable.2.2]
        rfl
      simp only [insertItem, allowed, if_true]
      exact ownRows_inserted _ _ _

/-- A PUT counts as its quantity if it names the row of the target, and not at all else. -/
private theorem effect_put (login : session.user = some target.user)
    (one : target.One (ownRows target.user s)) (id : Nat) {quantity : ℚ} (whole : Whole quantity) :
    target.One (ownRows target.user (serve engine session s (Target.put id quantity)).2) ∧
      (target.Knows (ownRows target.user s) id →
        target.quantity (serve engine session s (Target.put id quantity)).2 = quantity) ∧
      (¬ target.Knows (ownRows target.user s) id →
        target.quantity (serve engine session s (Target.put id quantity)).2 =
          target.quantity s) := by
  refine ⟨?_, ?_, ?_⟩
  · rcases rows_put_cases login id whole with same | written
    · rw [same]
      exact one
    · rw [written]
      exact one_set one id quantity
  · intro known
    rw [Target.quantity, rows_put login known whole]
    exact quantityIn_set one known quantity
  · intro unknown
    unfold Target.quantity
    rcases rows_put_cases login id whole with same | written
    · rw [same]
    · rw [written]
      exact quantityIn_set_other unknown quantity

private theorem effect_post (login : session.user = some target.user)
    (storable : target.Storable engine s.db) (one : target.One (ownRows target.user s))
    (whole : Integers (ownRows target.user s)) :
    target.One (ownRows target.user (serve engine session s target.post).2) ∧
      target.quantity (serve engine session s target.post).2 = target.quantity s + 1 := by
  unfold Target.quantity
  rcases rows_post login storable whole with ⟨row, own, hit, rows⟩ | ⟨absent, rows⟩
  · rw [rows, quantityIn_of_one one own hit]
    exact ⟨one_set one _ _, quantityIn_set one ⟨row, own, hit, rfl⟩ _⟩
  · rw [rows, quantityIn_absent absent]
    have apart := one_append absent
      (newItem target.user target.kitId (some target.inventoryId) 1 s.db.cartItems.nextKey)
    refine ⟨apart, ?_⟩
    rw [quantityIn_of_one apart (List.mem_append_right _ (List.mem_singleton_self _))
      (by simp [Target.matches, isFor, newItem])]
    simp [newItem]

private theorem whole_withQuantity {id : Nat} {quantity : ℚ} (whole : Whole quantity)
    {item : CartItem} (before : Whole item.quantity) :
    Whole (withQuantity id quantity item).quantity := by
  unfold withQuantity
  split
  · exact whole
  · exact before

/-- The requests of the tabs keep the quantities integers. -/
private theorem whole_serve (login : session.user = some target.user)
    (storable : target.Storable engine s.db)
    (whole : Integers (ownRows target.user s)) {request : CartRequest}
    (sends : target.Sends request) :
    Integers (ownRows target.user (serve engine session s request).2) := by
  have set : ∀ id quantity, Whole quantity →
      Integers ((ownRows target.user s).map (withQuantity id quantity)) := by
    intro id quantity integer row member
    obtain ⟨old, own, rfl⟩ := List.mem_map.mp member
    exact whole_withQuantity integer (whole old own)
  rcases sends with rfl | ⟨id, quantity, integer, rfl⟩
  · rcases rows_post login storable whole with ⟨row, own, -, rows⟩ | ⟨-, rows⟩
    · rw [rows]
      refine set row.id _ ?_
      have next := (whole row own).add 1
      rwa [Int.cast_one] at next
    · rw [rows]
      intro row member
      rcases List.mem_append.mp member with old | new
      · exact whole row old
      · rw [List.mem_singleton.mp new]
        exact ⟨1, rfl⟩
  · rcases rows_put_cases login id integer with same | written
    · rw [same]
      exact whole
    · rw [written]
      exact set id quantity integer

end Server

section Invariant

variable {engine : Engine} {session : Session} {target : Target} {w : World}

/-- What holds in every state: the server accepts rows for the target and has at most one, only
adds are on their way, and all quantities are integers. -/
structure Consistent (engine : Engine) (target : Target) (w : World) : Prop where
  storable : target.Storable engine w.server.db
  one : target.One (ownRows target.user w.server)
  requests : ∀ request ∈ w.requests, target.Sends request
  rows : Integers (ownRows target.user w.server)
  carts : ∀ tab, Integers ((w.carts tab).map CartDump.item)
  answers : ∀ answer ∈ w.answers, Integers (answer.2.map CartDump.item)

private theorem integers_fetched {user : Nat} (login : session.user = some user) (s : State) :
    Integers ((fetched session s).map CartDump.item) := by
  rw [items_fetched login]
  intro item member
  obtain ⟨row, -, rfl⟩ := List.mem_map.mp member
  exact whole_dumped row

private theorem addChosen_integers (target : Target) {cart : List CartDump}
    (integers : Integers (cart.map CartDump.item)) :
    target.Sends (addChosen cart target.kitId target.inventoryId).2 ∧
      Integers ((addChosen cart target.kitId target.inventoryId).1.map CartDump.item) := by
  have next : ∀ quantity : ℚ, Whole quantity → Whole (quantity + 1) := by
    intro quantity whole
    have more := whole.add 1
    rwa [Int.cast_one] at more
  unfold addChosen
  split
  · rename_i existing found
    have held := integers existing.item (List.mem_map_of_mem (List.mem_of_find?_eq_some found))
    refine ⟨Or.inr ⟨_, _, next _ held, rfl⟩, ?_⟩
    rw [items_onItem]
    intro item member
    obtain ⟨old, present, rfl⟩ := List.mem_map.mp member
    unfold addOne
    split
    · exact next _ (integers old present)
    · exact integers old present
  · exact ⟨Or.inl rfl, integers⟩

/-- What one tab shows does not matter to the others. -/
private theorem integers_update {carts : Nat → List CartDump} {tab : Nat} {cart : List CartDump}
    (integers : ∀ other, Integers ((carts other).map CartDump.item))
    (new : Integers (cart.map CartDump.item)) (other : Nat) :
    Integers ((Function.update carts tab cart other).map CartDump.item) := by
  by_cases here : other = tab
  · rw [here, Function.update_self]
    exact new
  · rw [Function.update_of_ne here]
    exact integers other

private theorem consistent_worldStep (login : session.user = some target.user)
    (consistent : Consistent engine target w) (event : Event) :
    Consistent engine target (worldStep engine session target w event) := by
  cases event with
  | call tab =>
      obtain ⟨sends, shows⟩ := addChosen_integers target (consistent.carts tab)
      refine { consistent with
        requests := ?_, carts := integers_update consistent.carts shows }
      intro request member
      rcases List.mem_append.mp member with old | new
      · exact consistent.requests request old
      · rw [List.mem_singleton.mp new]
        exact sends
  | handle position =>
      simp only [worldStep]
      cases named : w.requests[position]? with
      | none => exact consistent
      | some request =>
          have sends := consistent.requests request (List.mem_of_getElem? named)
          refine { consistent with
            storable := storable_serve consistent.storable request, one := ?_, requests := ?_,
            rows := whole_serve login consistent.storable consistent.rows sends }
          · rcases sends with rfl | ⟨id, quantity, whole, rfl⟩
            · exact (effect_post login consistent.storable consistent.one consistent.rows).1
            · exact (effect_put login consistent.one id whole).1
          · intro other member
            exact consistent.requests other (List.mem_of_mem_eraseIdx member)
  | answer tab =>
      refine { consistent with answers := ?_ }
      intro answer member
      rcases List.mem_append.mp member with old | new
      · exact consistent.answers answer old
      · rw [List.mem_singleton.mp new]
        exact integers_fetched login w.server
  | arrive position =>
      simp only [worldStep]
      cases named : w.answers[position]? with
      | none => exact consistent
      | some answer =>
          refine { consistent with carts := integers_update consistent.carts
                                     (consistent.answers answer (List.mem_of_getElem? named)),
                                   answers := ?_ }
          intro other member
          exact consistent.answers other (List.mem_of_mem_eraseIdx member)

end Invariant

section Account

variable {engine : Engine} {session : Session} {target : Target} {w : World}

/-- Every call is on its way or counted, and once all requests are handled, all are counted. -/
def NoneLost (target : Target) (initial : ℚ) (w : World) : Prop :=
  target.quantity w.server + w.requests.length = initial + w.calls ∧
    (w.requests = [] → target.quantity w.server = initial + w.calls)

/-- A PUT that the server handles names the row of the target and carries one more than the
quantity that the server has. -/
def CarriesCurrent (target : Target) (w : World) : Event → Prop
  | .handle position =>
      ∀ id quantity, w.requests[position]? = some (Target.put id quantity) →
        target.Knows (ownRows target.user w.server) id ∧
          quantity = target.quantity w.server + 1
  | _ => True

private theorem noneLost_iff {initial : ℚ} :
    NoneLost target initial w ↔
      target.quantity w.server + w.requests.length = initial + w.calls := by
  refine ⟨And.left, fun balance => ⟨balance, ?_⟩⟩
  intro settled
  rw [settled] at balance
  simpa using balance

private theorem length_eraseIdx {requests : List CartRequest} {position : Nat}
    {request : CartRequest} (named : requests[position]? = some request) :
    ((requests.eraseIdx position).length : ℚ) = requests.length - 1 := by
  obtain ⟨inside, -⟩ := List.getElem?_eq_some_iff.mp named
  have filled : 1 ≤ requests.length := by omega
  rw [List.length_eraseIdx_of_lt inside, Nat.cast_sub filled, Nat.cast_one]

/-- Handling a request keeps the account exactly if it adds one. -/
private theorem noneLost_handle_iff {initial : ℚ} (login : session.user = some target.user)
    (consistent : Consistent engine target w) (none_lost : NoneLost target initial w)
    (position : Nat) :
    NoneLost target initial (worldStep engine session target w (.handle position)) ↔
      CarriesCurrent target w (.handle position) := by
  have balance := noneLost_iff.mp none_lost
  simp only [worldStep, CarriesCurrent]
  cases named : w.requests[position]? with
  | none =>
      refine iff_of_true none_lost ?_
      intro id quantity sent
      cases sent
  | some request =>
      have shorter := length_eraseIdx named
      rw [noneLost_iff]
      simp only
      rw [shorter]
      rcases consistent.requests request (List.mem_of_getElem? named) with
        rfl | ⟨id, quantity, whole, rfl⟩
      · have after : target.quantity (serve engine session w.server target.post).2 =
            target.quantity w.server + 1 :=
          (effect_post login consistent.storable consistent.one consistent.rows).2
        refine iff_of_true ?_ ?_
        · rw [after]
          linarith
        · intro id quantity sent
          cases sent
      · obtain ⟨-, known, unknown⟩ := effect_put login consistent.one id whole
        constructor
        · intro counted id' quantity' sent
          cases sent
          by_cases here : target.Knows (ownRows target.user w.server) id
          · rw [known here] at counted
            exact ⟨here, by linarith⟩
          · rw [unknown here] at counted
            linarith
        · intro current
          obtain ⟨here, next⟩ := current id quantity rfl
          rw [known here]
          linarith

private theorem noneLost_worldStep_iff {initial : ℚ} (login : session.user = some target.user)
    (consistent : Consistent engine target w) (none_lost : NoneLost target initial w)
    (event : Event) :
    NoneLost target initial (worldStep engine session target w event) ↔
      CarriesCurrent target w event := by
  have balance := noneLost_iff.mp none_lost
  cases event with
  | call tab =>
      refine iff_of_true (noneLost_iff.mpr ?_) trivial
      simp only [worldStep, List.length_append, List.length_singleton]
      push_cast
      linarith
  | handle position => exact noneLost_handle_iff login consistent none_lost position
  | answer tab => exact iff_of_true none_lost trivial
  | arrive position =>
      refine iff_of_true ?_ trivial
      simp only [worldStep]
      cases w.answers[position]? with
      | none => exact none_lost
      | some answer => exact none_lost

end Account

/-- No call is lost at any point of a run exactly if every PUT names the row of the target and
carries one more than the quantity that the server holds when it handles it. -/
theorem none_lost_along_iff (engine : Engine) (session : Session) (target : Target)
    (login : session.user = some target.user) (w : World) (consistent : Consistent engine target w)
    (idle : w.requests = []) (first : w.calls = 0) (events : List Event) :
    Along (worldStep engine session target) (NoneLost target (target.quantity w.server)) w events ↔
      EachStep (worldStep engine session target) (CarriesCurrent target) w events := by
  have keeps : ∀ (t : World) (event : Event), Consistent engine target t →
      Consistent engine target (worldStep engine session target t event) :=
    fun _ event before => consistent_worldStep login before event
  have throughout := (along_of_kept keeps consistent events).eachStep
  have start : NoneLost target (target.quantity w.server) w := by
    rw [noneLost_iff, idle, first]
    simp
  refine along_iff_eachStep ?_ start throughout
  intro t event none_lost before
  exact noneLost_worldStep_iff login before none_lost event

/-- Ann's tabs, with her cart loaded from the server. -/
def tabs (s : State) : World := ⟨s, fun _ => fetched customer s, [], [], 0⟩

def tray : Target := ⟨1, 1, 1⟩

theorem two_tabs_with_an_empty_cart_lose_nothing :
    Along (worldStep .sqlite customer tray) (NoneLost tray 0) (tabs (shelfOnly 3))
      [.call 0, .call 1, .handle 1, .handle 0] := by
  have consistent : Consistent .sqlite tray (tabs (shelfOnly 3)) := by
    constructor
    · exact ⟨rfl, rfl, rfl⟩
    · intro item member
      cases member
    · intro request member
      cases member
    · intro row member
      cases member
    · have login : customer.user = some 1 := rfl
      exact fun _ => integers_fetched login (shelfOnly 3)
    · intro answer member
      cases member
  refine (none_lost_along_iff .sqlite customer tray rfl (tabs (shelfOnly 3)) consistent rfl rfl
    _).mpr ?_
  refine eachStep_cons.mpr ⟨trivial, eachStep_cons.mpr ⟨trivial, eachStep_cons.mpr ⟨?_,
    eachStep_cons.mpr ⟨?_, eachStep_nil _ _⟩⟩⟩⟩
  · intro id quantity sent
    cases sent
  · intro id quantity sent
    cases sent

/-- Two tabs that show one tray both add one: the server is told twice that there are two. -/
theorem two_tabs_lose_an_add :
    (run (worldStep .sqlite customer tray) (tabs oneTrayInCart)
        [.call 0, .call 1, .handle 0, .handle 0]).requests.length = 0 ∧
      (run (worldStep .sqlite customer tray) (tabs oneTrayInCart)
        [.call 0, .call 1, .handle 0, .handle 0]).calls = 2 ∧
      tray.quantity oneTrayInCart = 1 ∧
      tray.quantity (run (worldStep .sqlite customer tray) (tabs oneTrayInCart)
        [.call 0, .call 1, .handle 0, .handle 0]).server = 2 := by
  decide +kernel

end ProductSite.Cart.LostAdds
