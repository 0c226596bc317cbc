/- Module: ProductSite/Browse/OrderPages
   source: backend/app/routes/purchase_routes.py
   digest: Each page of the orders is a statement of its own, so the pages neither overlap nor
     skip iff no page ends among orders that the sort column does not tell apart. -/

import ProductSite.Browse.Orders
import ProductSite.Foundation.Ties

set_option autoImplicit false
set_option relaxedAutoImplicit false

namespace ProductSite.Browse.OrderPages

open ProductSite.Foundation.Listing
open ProductSite.Foundation.Ties
open ProductSite.Foundation.Wire (Reply)
open ProductSite.Backend.Models
open ProductSite.Backend.Listings
open ProductSite.Backend.Requests (customer sampleShop shelf shelfOnly)
open ProductSite.Storefront.Filters (listIn mem_dumpPage)
open ProductSite.Browse.Kits (plainPlatform sandTray)
open ProductSite.Browse.Orders (map_queriedPurchases trays twoOrders)

/-- The two routes that list orders. -/
inductive OrderList where
  | mine
  | all
  deriving DecidableEq

/-- A row of the statement: a purchase with the rows that it is joined with. -/
abbrev OrderRow := Purchase × Kit × Inventory

/-- The purchases that a route shows to a session; a session that is refused sees none. -/
def shownTo (session : Session) (db : Database) (list : OrderList) (purchase : Purchase) : Bool :=
  match session.user with
  | none => false
  | some user =>
      match list with
      | .mine => purchase.userId = user
      | .all => isAdmin db user

/-- The rows that match the filters of a request. -/
def matching (platform : Platform) (engine : Engine) (session : Session) (s : State)
    (list : OrderList) (args : Query) : List OrderRow :=
  queriedPurchases platform engine s.db args (shownTo session s.db list)

/-- The ORDER BY clause of a request: it names one column and nothing to decide between rows
that are equal in it. -/
def orderBy (platform : Platform) (db : Database) (args : Query) : OrderRow → OrderRow → Bool :=
  before platform (purchaseColumn platform db ((args.get "sortBy").getD "id"))
    ((args.get "sortDir").getD "desc")

/-- What the routes answer if the database has the matching rows in the given order. -/
def paginated (platform : Platform) (db : Database) (order : List OrderRow) (args : Query) :
    Reply (List Purchase) :=
  match pageArgs args "per_page" 10 with
  | none => .raised
  | some (page, perPage) =>
      if ratingBinds platform args then dumpPage db ((pageOf order perPage page).map Prod.fst)
      else .raised

def listOrders (platform : Platform) (order : List OrderRow) (session : Session) (s : State)
    (list : OrderList) (args : Query) : Reply (List Purchase) × State :=
  match list with
  | .mine => loginRequired session s fun _ => (paginated platform s.db order args, s)
  | .all => adminRequired session s fun _ => (paginated platform s.db order args, s)

/-- Whatever order the database chooses for each request, every matching purchase is on exactly
one of the pages. -/
def EachOnOnePage (platform : Platform) (engine : Engine) (session : Session) (s : State)
    (list : OrderList) (args : Query) (perPage : Nat) : Prop :=
  ∀ orders : Nat → List OrderRow,
    (∀ number, Arranges (orderBy platform s.db args)
      (matching platform engine session s list args) (orders number)) →
    ∀ purchase ∈ (matching platform engine session s list args).map Prod.fst,
      ∃! number, (1 ≤ number ∧
          number ≤ ((matching platform engine session s list args).length + perPage - 1) /
            perPage) ∧
        purchase ∈ listIn (listOrders platform (orders number) session s list
          (pageQuery "per_page" args perPage number)).1

section Routes

variable {platform : Platform} {engine : Engine} {session : Session} {s : State}
  {list : OrderList} {args : Query} {user : Nat}

/-- The order of a sorted list is one that the database may choose. -/
private theorem arranges_sorted (args : Query) (rows : List OrderRow) :
    Arranges (orderBy platform s.db args) rows
      (sortRows platform (purchaseColumn platform s.db ((args.get "sortBy").getD "id"))
        ((args.get "sortDir").getD "desc") rows) :=
  ⟨sortRows_perm _ _ _ _, sortRows_sorted _ _ _ _⟩

private theorem paginated_sorted (shown : Purchase → Bool) :
    paginated platform s.db (sortRows platform
        (purchaseColumn platform s.db ((args.get "sortBy").getD "id"))
        ((args.get "sortDir").getD "desc")
        (queriedPurchases platform engine s.db args shown)) args =
      listPurchases platform engine s.db args shown := by
  unfold paginated listPurchases sortedPurchases
  cases pageArgs args "per_page" 10 with
  | none => rfl
  | some asked =>
      obtain ⟨page, perPage⟩ := asked
      simp only [map_pageOf]

/-- The handlers are these routes with the sorted list. -/
theorem getMyPurchases_eq (login : session.user = some user) :
    getMyPurchases platform engine session s args =
      listOrders platform (sortRows platform
        (purchaseColumn platform s.db ((args.get "sortBy").getD "id"))
        ((args.get "sortDir").getD "desc")
        (matching platform engine session s .mine args)) session s .mine args := by
  have own : shownTo session s.db .mine = fun purchase => decide (purchase.userId = user) := by
    funext purchase
    simp only [shownTo, login]
  rw [getMyPurchases, loginRequired_some login, listOrders, loginRequired_some login, matching,
    paginated_sorted, own]

theorem getAllPurchases_eq (login : session.user = some user) (admin : isAdmin s.db user = true) :
    getAllPurchases platform engine session s args =
      listOrders platform (sortRows platform
        (purchaseColumn platform s.db ((args.get "sortBy").getD "id"))
        ((args.get "sortDir").getD "desc")
        (matching platform engine session s .all args)) session s .all args := by
  have every : shownTo session s.db .all = fun _ => true := by
    funext purchase
    simp only [shownTo, login, admin]
  simp only [getAllPurchases, listOrders, adminRequired, login, admin, if_true, matching,
    paginated_sorted, every]

/-- A purchase is in the answer if it is on the page, the database takes the rating and the buyers
of the whole page can be loaded. -/
private theorem mem_paginated {order : List OrderRow} {perPage number : Nat} {purchase : Purchase} :
    purchase ∈ listIn (paginated platform s.db order (pageQuery "per_page" args perPage number)) ↔
      ratingBinds platform args = true ∧
        purchase ∈ (pageOf order perPage number).map Prod.fst ∧
        ∀ row ∈ pageOf order perPage number, buyerLoads s.db row.1 = true := by
  have rating : ratingBinds platform (pageQuery "per_page" args perPage number) =
      ratingBinds platform args := by
    unfold ratingBinds floatArg
    rw [get_pageQuery (by decide) (by decide)]
  rw [paginated, pageArgs_pageQuery (by decide), rating]
  simp only
  split
  · rename_i taken
    rw [mem_dumpPage, List.forall_mem_map]
    exact (and_iff_right taken).symm
  · rename_i refused
    refine iff_of_false List.not_mem_nil ?_
    rintro ⟨taken, -⟩
    exact refused taken

/-- The route answers with the page, unless the session is refused and nothing matches. -/
private theorem matching_nil_or_listOrders (platform : Platform) (engine : Engine)
    (session : Session) (s : State) (list : OrderList) (args : Query) :
    matching platform engine session s list args = [] ∨ ∀ order asked,
      (listOrders platform order session s list asked).1 =
        paginated platform s.db order asked := by
  have nothing : shownTo session s.db list = (fun _ => false) →
      matching platform engine session s list args = [] := by
    intro unseen
    rw [matching, unseen]
    refine List.filterMap_eq_nil_iff.mpr ?_
    intro purchase _
    simp
  cases login : session.user with
  | none =>
      refine Or.inl (nothing ?_)
      funext purchase
      simp only [shownTo, login]
  | some user =>
      cases list with
      | mine =>
          refine Or.inr fun order asked => ?_
          rw [listOrders, loginRequired_some login]
      | all =>
          cases admin : isAdmin s.db user with
          | false =>
              refine Or.inl (nothing ?_)
              funext purchase
              simp only [shownTo, login, admin]
          | true =>
              refine Or.inr fun order asked => ?_
              simp only [listOrders, adminRequired, login, admin, if_true]

private theorem nodup_purchases :
    ((matching platform engine session s list args).map Prod.fst).Nodup := by
  rw [matching, map_queriedPurchases]
  exact s.db.purchases.distinct.of_map.filter _

/-- Only matching rows are on a page. -/
private theorem mem_matching_of_page {order : List OrderRow}
    (arranges : Arranges (orderBy platform s.db args)
      (matching platform engine session s list args) order)
    {perPage number : Nat} {row : OrderRow} (present : row ∈ pageOf order perPage number) :
    row ∈ matching platform engine session s list args := by
  refine arranges.perm.mem_iff.mp ?_
  cases number with
  | zero => cases present
  | succ full => exact List.mem_of_mem_drop (List.mem_of_mem_take present)

/-- A purchase is on a page exactly if its row is among the rows of the page. -/
private theorem mem_page_iff {order : List OrderRow}
    (arranges : Arranges (orderBy platform s.db args)
      (matching platform engine session s list args) order)
    {row : OrderRow} (member : row ∈ matching platform engine session s list args)
    (perPage number : Nat) :
    row.1 ∈ (pageOf order perPage number).map Prod.fst ↔ row ∈ pageOf order perPage number := by
  refine ⟨?_, List.mem_map_of_mem⟩
  intro listed
  obtain ⟨other, present, same⟩ := List.mem_map.mp listed
  have equal : other = row := List.inj_on_of_nodup_map nodup_purchases
    (mem_matching_of_page arranges present) member same
  exact equal ▸ present

/-- The database takes the rating and can load the buyers of all matching purchases. -/
structure Answered (platform : Platform) (engine : Engine) (session : Session) (s : State)
    (list : OrderList) (args : Query) : Prop where
  taken : ratingBinds platform args = true
  loads : ∀ row ∈ matching platform engine session s list args, buyerLoads s.db row.1 = true

instance (platform : Platform) (engine : Engine) (session : Session) (s : State)
    (list : OrderList) (args : Query) :
    Decidable (Answered platform engine session s list args) :=
  decidable_of_iff (ratingBinds platform args = true ∧
    ∀ row ∈ matching platform engine session s list args, buyerLoads s.db row.1 = true)
    ⟨fun both => ⟨both.1, both.2⟩, fun answered => ⟨answered.taken, answered.loads⟩⟩

/-- Where all matching purchases are on pages, the pages have been answered. -/
private theorem EachOnOnePage.answered {perPage : Nat}
    (each : EachOnOnePage platform engine session s list args perPage)
    (found : matching platform engine session s list args ≠ []) :
    Answered platform engine session s list args := by
  have answers := (matching_nil_or_listOrders platform engine session s list args).resolve_left
    found
  obtain ⟨order, sorted⟩ : ∃ order, Arranges (orderBy platform s.db args)
      (matching platform engine session s list args) order := ⟨_, arranges_sorted args _⟩
  have shown : ∀ row ∈ matching platform engine session s list args,
      ratingBinds platform args = true ∧ buyerLoads s.db row.1 = true := by
    intro row member
    obtain ⟨number, ⟨-, listed⟩, -⟩ :=
      each (fun _ => order) (fun _ => sorted) row.1 (List.mem_map_of_mem member)
    rw [answers, mem_paginated] at listed
    obtain ⟨taken, here, loads⟩ := listed
    exact ⟨taken, loads row ((mem_page_iff sorted member perPage number).mp here)⟩
  obtain ⟨row, member⟩ := List.exists_mem_of_ne_nil _ found
  exact ⟨(shown row member).1, fun other listed => (shown other listed).2⟩

/-- Where the pages are answered, they are the pages of the orders that the database chooses. -/
private theorem eachOnOnePage_iff_onOnePage
    (answered : Answered platform engine session s list args) (perPage : Nat) :
    EachOnOnePage platform engine session s list args perPage ↔
      ∀ orders : Nat → List OrderRow,
        (∀ number, Arranges (orderBy platform s.db args)
          (matching platform engine session s list args) (orders number)) →
        OnOnePage (matching platform engine session s list args) perPage orders := by
  refine forall_congr' fun orders => imp_congr_right fun legal => ?_
  rcases matching_nil_or_listOrders platform engine session s list args with none | answers
  · rw [none]
    exact iff_of_true (fun _ member => by cases member) (fun _ member => by cases member)
  · rw [List.forall_mem_map]
    refine forall_congr' fun row => imp_congr_right fun member => ?_
    refine existsUnique_congr fun number => and_congr_right fun _ => ?_
    rw [answers, mem_paginated, mem_page_iff (legal number) member]
    refine (and_iff_right answered.taken).trans (and_iff_left ?_)
    intro other present
    exact answered.loads other (mem_matching_of_page (legal number) present)

/-- The columns besides the id. -/
def sortColumns : List String := ["name", "avg_rating", "price", "quantity"]

/-- Sorted by the id no two orders compare equal. -/
theorem tiesOnOnePage_id (unlisted : (args.get "sortBy").getD "id" ∉ sortColumns)
    (perPage : Nat) :
    TiesOnOnePage (orderBy platform s.db args) (matching platform engine session s list args)
      perPage := by
  have column : purchaseColumn platform s.db ((args.get "sortBy").getD "id") =
      fun row => .number (some row.1.id) := by
    funext row
    simp only [sortColumns, List.mem_cons, List.not_mem_nil, or_false, not_or] at unlisted
    obtain ⟨name, rating, price, quantity⟩ := unlisted
    rw [purchaseColumn, if_neg name, if_neg rating, if_neg price, if_neg quantity]
  refine tiesOnOnePage_of_antisymm ?_ before_total
  intro a first b second le ge
  have ids : a.1.id = b.1.id := by
    rw [orderBy, column] at le ge
    by_cases down : (args.get "sortDir").getD "desc" = "desc"
    · simp [before, down, SortValue.le] at le ge
      omega
    · simp [before, down, SortValue.le] at le ge
      omega
  have same : a.1 = b.1 := by
    have stored : ∀ row ∈ matching platform engine session s list args,
        row.1 ∈ s.db.purchases.rows := by
      intro row member
      have listed := List.mem_map_of_mem (f := Prod.fst) member
      rw [matching, map_queriedPurchases] at listed
      exact (List.mem_filter.mp listed).1
    exact List.inj_on_of_nodup_map s.db.purchases.distinct (stored a first) (stored b second) ids
  exact List.inj_on_of_nodup_map nodup_purchases first second same

end Routes

/-- A customer's two orders of the same quantity, sorted by the quantity. -/
def sameQuantity : State :=
  sampleShop (shelfOnly 3).db.inventory ⟨[trays 1 2, trays 2 2], by decide, by decide⟩

def byQuantity : Query := [("sortBy", "quantity")]

def orderRow (id : Nat) : OrderRow := (trays id 2, sandTray, shelf 3)

end ProductSite.Browse.OrderPages
