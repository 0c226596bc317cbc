/- Module: ProductSite/Cart/Additive
   source: backend/app/routes/cart_routes.py, backend/app/models/cart_item.py
   digest: From an empty table, the cart rows are the sums of the posted quantities, one row for
     each user, kit and location, whatever the order of the requests. -/

import ProductSite.Cart.UniqueRows

set_option autoImplicit false
set_option relaxedAutoImplicit false

namespace ProductSite.Cart.Additive

open ProductSite.Foundation.KeyedTable (Table)
open ProductSite.Foundation.Runs
open ProductSite.Foundation.TableMap
open ProductSite.Foundation.Wire (JsonField Reply)
open ProductSite.Backend.Models
open ProductSite.Backend.CartRoutes
open ProductSite.Backend.InventoryRoutes (kitAllowed)
open ProductSite.Backend.PurchaseRoutes (inventoryAllowed)
open ProductSite.Backend.Requests (administrator customer shelfOnly)
open ProductSite.Cart.UniqueRows (findItem_eq_none)

/-- A POST of a logged-in user with a kit and an integer quantity, or none. The location may be
left out or null. -/
structure Posting where
  session : Session
  user : Nat
  login : session.user = some user
  kitId : Nat
  inventoryId : JsonField Nat
  quantity : Option Int

def Posting.body (posting : Posting) : AddToCartBody :=
  ⟨.value posting.kitId, posting.inventoryId,
    match posting.quantity with
    | none => .absent
    | some quantity => .value quantity⟩

def Posting.key (posting : Posting) : Nat × Nat × Option Nat :=
  (posting.user, posting.kitId, posting.inventoryId.get)

def Posting.units (posting : Posting) : Int := posting.quantity.getD 1

def Posting.amount (posting : Posting) : ℚ := posting.units

def post (engine : Engine) (s : State) (posting : Posting) : Reply String × State :=
  addToCart engine posting.session s posting.body

def postStep (engine : Engine) (s : State) (posting : Posting) : State := (post engine s posting).2

/-- The engine takes a row for the user, the kit and the location: without foreign keys it
always does, otherwise the three have to be stored. -/
def admits (engine : Engine) (db : Database) (key : Nat × Nat × Option Nat) : Bool :=
  userAllowed engine db key.1 && kitAllowed engine db key.2.1 &&
    inventoryAllowed engine db key.2.2

/-- The requests for rows that the engine takes. -/
def admitted (engine : Engine) (db : Database) (postings : List Posting) : List Posting :=
  postings.filter (fun posting => admits engine db posting.key)

/-- The rows are the sums of the posted quantities, one for each key that occurs. -/
structure HoldsSums (postings : List Posting) (rows : List CartItem) : Prop where
  one : ∀ posting ∈ postings, ∃! item, item ∈ rows ∧ purpose item = posting.key
  posted : ∀ item ∈ rows, ∃ posting ∈ postings, posting.key = purpose item
  sum : ∀ item ∈ rows, item.quantity =
    ((postings.filter (fun posting => posting.key = purpose item)).map Posting.amount).sum

/-- A row without its id. -/
def content (item : CartItem) : (Nat × Nat × Option Nat) × ℚ := (purpose item, item.quantity)

section Steps

variable {engine : Engine} {t : State} {posting : Posting}

private theorem quantity_getD (posting : Posting) :
    posting.body.quantity.getD 1 = some posting.units := by
  unfold Posting.body Posting.units
  cases posting.quantity <;> rfl

/-- A posting for a stored row adds its quantity to that row. -/
private theorem post_found {item : CartItem} (whole : Whole item.quantity)
    (found : findItem t.db posting.user (some posting.kitId) posting.inventoryId.get = some item) :
    post engine t posting = (.ok 201 "Cart updated", withCart t
      (t.db.cartItems.save { item with quantity := item.quantity + posting.amount })) := by
  have located : findItem t.db posting.user posting.body.kitId.get posting.body.inventoryId.get =
      some item := found
  have given : (!posting.body.kitId.present) = false := rfl
  have sum : engine.integerColumn (item.quantity + posting.units) =
      item.quantity + posting.units := (whole.add posting.units).stored engine
  unfold post addToCart
  rw [loginRequired_some posting.login, located, given, quantity_getD]
  simp only [Bool.false_eq_true, if_false, sum]
  rfl

/-- A posting without a stored row inserts one, if the engine takes it. -/
private theorem post_free
    (free : findItem t.db posting.user (some posting.kitId) posting.inventoryId.get = none) :
    post engine t posting =
      if admits engine t.db posting.key = true then
        (.ok 201 "Cart updated", withCart t (t.db.cartItems.insertNew
          (newItem posting.user posting.kitId posting.inventoryId.get posting.units)
          (fun _ => rfl)))
      else (.raised, t) := by
  have missing : findItem t.db posting.user posting.body.kitId.get posting.body.inventoryId.get =
      none := free
  have given : (!posting.body.kitId.present) = false := rfl
  unfold post addToCart
  rw [loginRequired_some posting.login, missing, given, quantity_getD]
  rfl

private theorem purpose_of_found {item : CartItem}
    (found : findItem t.db posting.user (some posting.kitId) posting.inventoryId.get = some item) :
    item ∈ t.db.cartItems.rows ∧ purpose item = posting.key := by
  have matched := Table.of_first found
  simp only [Bool.and_eq_true, decide_eq_true_eq, Option.some.injEq] at matched
  obtain ⟨user, kit, place⟩ := matched
  refine ⟨List.mem_of_find?_eq_some found, ?_⟩
  rw [purpose, Posting.key, user, kit, place]

private theorem free_of_missing
    (free : findItem t.db posting.user (some posting.kitId) posting.inventoryId.get = none)
    (item : CartItem) (member : item ∈ t.db.cartItems.rows) : purpose item ≠ posting.key := by
  intro same
  simp only [purpose, Posting.key, Prod.mk.injEq] at same
  obtain ⟨user, kit, place⟩ := same
  exact findItem_eq_none free member ⟨user, congrArg some kit, place⟩

private theorem missing_of_free (free : ∀ item ∈ t.db.cartItems.rows, purpose item ≠ posting.key) :
    findItem t.db posting.user (some posting.kitId) posting.inventoryId.get = none := by
  cases found : findItem t.db posting.user (some posting.kitId) posting.inventoryId.get with
  | none => rfl
  | some item =>
      obtain ⟨member, same⟩ := purpose_of_found found
      exact absurd same (free item member)

/-- An admitted posting is accepted and adds its amount to what the table has for its key. -/
private theorem post_writes {m : Nat × Nat × Option Nat → Option ℚ}
    (integers : Integers t.db.cartItems.rows)
    (represents : Represents purpose CartItem.quantity t.db.cartItems m)
    (allowed : admits engine t.db posting.key = true) :
    ∃ table, post engine t posting = (.ok 201 "Cart updated", withCart t table) ∧
      Integers table.rows ∧ Writes purpose CartItem.quantity t.db.cartItems table posting.key
        (some ((m posting.key).getD 0 + posting.amount)) := by
  cases found : findItem t.db posting.user (some posting.kitId) posting.inventoryId.get with
  | some item =>
      obtain ⟨member, same⟩ := purpose_of_found found
      have whole := integers item member
      have held : m posting.key = some item.quantity :=
        (represents.stored _ _).mpr ⟨item, member, same, rfl⟩
      have stored := (findItem_eq_some found).1
      rw [held, Option.getD_some]
      refine ⟨_, post_found whole found, ?_, writes_save represents.apart stored same same⟩
      intro row present
      rcases Table.mem_save.mp present with ⟨rfl, -⟩ | ⟨old, -⟩
      · exact whole.add posting.units
      · exact integers row old
  | none =>
      have free := free_of_missing found
      have empty : m posting.key = none := by
        cases held : m posting.key with
        | none => rfl
        | some quantity =>
            obtain ⟨item, member, same, -⟩ := (represents.stored _ _).mp held
            exact absurd same (free item member)
      rw [empty, Option.getD_none, zero_add, post_free found, if_pos allowed]
      refine ⟨_, rfl, ?_, writes_insertNew (fun _ => rfl) free rfl⟩
      intro row present
      rcases Table.mem_insertNew.mp present with old | rfl
      · exact integers row old
      · exact ⟨posting.units, rfl⟩

/-- A posting that is not admitted raises and leaves the state, unless its row is stored. -/
private theorem post_refused (free : ∀ item ∈ t.db.cartItems.rows, purpose item ≠ posting.key)
    (refused : admits engine t.db posting.key = false) :
    post engine t posting = (.raised, t) := by
  rw [post_free (missing_of_free free), refused, if_neg Bool.false_ne_true]

end Steps

/-- After every number of requests the table represents the sums of the admitted ones. -/
private theorem represents_sums (engine : Engine) {s : State} (empty : s.db.cartItems.rows = [])
    (postings : List Posting) :
    (∃ table, run (postStep engine) s postings = withCart s table ∧ Integers table.rows) ∧
      Represents purpose CartItem.quantity (run (postStep engine) s postings).db.cartItems
        (total Posting.key Posting.amount (admitted engine s.db postings)) := by
  have start : Integers s.db.cartItems.rows := by
    intro row member
    rw [empty] at member
    cases member
  -- the other tables stay as they are, and so does what the engine admits
  refine represents_total Posting.key Posting.amount (fun t : State => t.db.cartItems)
    (fun t => ∃ table, t = withCart s table ∧ Integers table.rows) (admits engine s.db)
    ⟨s.db.cartItems, rfl, start⟩ empty ?_ ?_ postings
  · rintro _ posting m ⟨before, rfl, integers⟩ represents allowed
    obtain ⟨table, answered, after, writes⟩ := post_writes integers represents allowed
    rw [postStep, answered]
    exact ⟨⟨table, rfl, after⟩, writes⟩
  · rintro _ posting ⟨before, rfl, -⟩ free refused
    rw [postStep, post_refused free refused]

private theorem holdsSums_of_represents {postings : List Posting} {table : Table CartItem.id}
    (represents : Represents purpose CartItem.quantity table
      (total Posting.key Posting.amount postings)) : HoldsSums postings table.rows where
  one := by
    intro posting member
    exact represents.existsUnique (total_of_mem Posting.key Posting.amount member)
  posted := by
    intro item member
    exact (total_eq_some Posting.key Posting.amount (represents.value_of_mem member)).1
  sum := by
    intro item member
    exact (total_eq_some Posting.key Posting.amount (represents.value_of_mem member)).2

/-- The table is the same for every order of the requests, but for the ids of its rows. -/
private theorem content_perm (engine : Engine) {s : State} (empty : s.db.cartItems.rows = [])
    {postings other : List Posting} (perm : other.Perm postings) :
    ((run (postStep engine) s other).db.cartItems.rows.map content).Perm
      ((run (postStep engine) s postings).db.cartItems.rows.map content) := by
  have reordered := (represents_sums engine empty other).2
  have same : (admitted engine s.db other).Perm (admitted engine s.db postings) := perm.filter _
  rw [total_perm Posting.key Posting.amount same] at reordered
  exact reordered.perm (represents_sums engine empty postings).2

/-- A request of a run is accepted exactly if it is admitted. -/
private theorem post_fetchOk (engine : Engine) {s : State} (empty : s.db.cartItems.rows = [])
    (handled : List Posting) (posting : Posting) :
    (post engine (run (postStep engine) s handled) posting).1.fetchOk =
      admits engine s.db posting.key := by
  obtain ⟨⟨table, after, integers⟩, represents⟩ := represents_sums engine empty handled
  rw [after] at represents ⊢
  cases allowed : admits engine s.db posting.key with
  | true =>
      obtain ⟨_, answered, -, -⟩ := post_writes integers represents allowed
      rw [answered]
      rfl
  | false =>
      have free : ∀ item ∈ (withCart s table).db.cartItems.rows, purpose item ≠ posting.key := by
        intro item member same
        obtain ⟨⟨other, listed, there⟩, -⟩ :=
          total_eq_some Posting.key Posting.amount (represents.value_of_mem member)
        have taken := (List.mem_filter.mp listed).2
        rw [there, same, allowed] at taken
        cases taken
      rw [post_refused free allowed]
      rfl

private theorem admitted_eq_self {engine : Engine} (unchecked : engine.foreignKeys = false)
    (db : Database) (postings : List Posting) : admitted engine db postings = postings := by
  refine List.filter_eq_self.mpr ?_
  intro posting _
  simp [admits, userAllowed, kitAllowed, inventoryAllowed, unchecked]

/-- From an empty cart table, whatever the requests and their order: a request is accepted
exactly if the engine takes a row for its user, kit and location, the rows are the sums of what
the accepted requests post, and any other order of the requests gives the same rows up to ids.
An engine that enforces no foreign keys accepts every request. -/
theorem adding_is_additive (engine : Engine) (s : State) (empty : s.db.cartItems.rows = [])
    (postings : List Posting) :
    EachStep (postStep engine) (fun t posting =>
        (post engine t posting).1.fetchOk = admits engine s.db posting.key) s postings ∧
      HoldsSums (admitted engine s.db postings)
        (run (postStep engine) s postings).db.cartItems.rows ∧
      (engine.foreignKeys = false → admitted engine s.db postings = postings) ∧
      ∀ other : List Posting, other.Perm postings →
        ((run (postStep engine) s other).db.cartItems.rows.map content).Perm
          ((run (postStep engine) s postings).db.cartItems.rows.map content) := by
  refine ⟨?_, ?_, ?_, ?_⟩
  · intro handled posting _
    exact post_fetchOk engine empty handled posting
  · exact holdsSums_of_represents (represents_sums engine empty postings).2
  · intro unchecked
    exact admitted_eq_self unchecked s.db postings
  · intro other perm
    exact content_perm engine empty perm

/-- The customer and the administrator put trays into their carts. -/
def customerAdds (inventoryId : JsonField Nat) (quantity : Option Int) : Posting :=
  ⟨customer, 1, rfl, 1, inventoryId, quantity⟩

def administratorAdds (inventoryId : JsonField Nat) (quantity : Option Int) : Posting :=
  ⟨administrator, 2, rfl, 1, inventoryId, quantity⟩

def fourPostings : List Posting :=
  [customerAdds (.value 1) (some 2), administratorAdds .absent none, customerAdds .null (some 3),
    customerAdds (.value 1) none]

theorem four_postings_are_summed :
    HoldsSums fourPostings (run (postStep .sqlite) (shelfOnly 3) fourPostings).db.cartItems.rows ∧
      (run (postStep .sqlite) (shelfOnly 3) fourPostings).db.cartItems.rows =
        [⟨1, 1, 1, some 1, 3⟩, ⟨2, 2, 1, none, 1⟩, ⟨3, 1, 1, none, 3⟩] := by
  obtain ⟨-, sums, all, -⟩ := adding_is_additive .sqlite (shelfOnly 3) rfl fourPostings
  rw [all rfl] at sums
  exact ⟨sums, by decide +kernel⟩

/-- The customer puts a kit into the cart that is not stored. -/
def unknownKit : Posting := ⟨customer, 1, rfl, 99, .absent, none⟩

/-- MySQL enforces the foreign key: the request raises and there is no row for the kit. -/
theorem unknown_kit_has_no_row :
    (post .mysql (shelfOnly 3) unknownKit).1 = .raised ∧
      (run (postStep .mysql) (shelfOnly 3) [unknownKit]).db.cartItems.rows = [] ∧
      ¬ HoldsSums [unknownKit]
        (run (postStep .mysql) (shelfOnly 3) [unknownKit]).db.cartItems.rows := by
  have rows : (run (postStep .mysql) (shelfOnly 3) [unknownKit]).db.cartItems.rows = [] := by
    decide
  refine ⟨by decide, rows, ?_⟩
  intro sums
  obtain ⟨item, ⟨member, -⟩, -⟩ := sums.one unknownKit List.mem_cons_self
  rw [rows] at member
  cases member

end ProductSite.Cart.Additive
