/- Module: ProductSite/Browse/Orders
   source: react-router-bootstrap-app/src/pages/Orders.jsx,
     backend/app/routes/purchase_routes.py
   digest: The purchases that the Orders page lists for the chosen filters and sort column. -/

import ProductSite.Browse.Kits

set_option autoImplicit false
set_option relaxedAutoImplicit false

namespace ProductSite.Browse.Orders

open ProductSite.Foundation.KeyedTable (Table)
open ProductSite.Foundation.Listing
open ProductSite.Foundation.Wire (Reply readNat number_ne_empty)
open ProductSite.Backend.Models
open ProductSite.Backend.Listings
open ProductSite.Backend.Requests (customer sampleShop shelf shelfOnly)
open ProductSite.Storefront.Filters
open ProductSite.Browse.Kits (plainPlatform)

section Meaning

/-- The purchases that the session may see on the page. -/
def visible (session : Session) (db : Database) (page : OrdersPage) (purchase : Purchase) : Bool :=
  match session.user with
  | none => false
  | some user => if page.showsAll then isAdmin db user else purchase.userId = user

/-- The inventory row that the purchase was taken from, as long as it is stored. -/
def inventoryRow (db : Database) (purchase : Purchase) : Option Inventory :=
  purchase.inventoryId.bind db.inventory.get?

/-- One of the selected values applies, or none is selected. -/
def Meets {α : Type} (selected : List α) (applies : α → Prop) : Prop :=
  selected = [] ∨ ∃ value ∈ selected, applies value

/-- The kit has one of the selected categories. -/
def MeetsCategory (db : Database) (page : OrdersPage) (purchase : Purchase) : Prop :=
  Meets page.categoryIds fun id => ∃ kit, db.kits.get? purchase.kitId = some kit ∧
    id ∈ kit.category ∧ (db.categoryOptions.get? id).isSome = true

/-- The selections besides the categories; users are selected where all purchases are shown. -/
structure MeetsOthers (db : Database) (page : OrdersPage) (purchase : Purchase) : Prop where
  location : Meets page.locationNames fun name =>
    ∃ inv, inventoryRow db purchase = some inv ∧ inv.locationName = name
  status : Meets page.status fun status => purchase.status = some status
  paymentMethod : Meets page.paymentMethod fun method => purchase.paymentMethod = some method
  shippingType : Meets page.shippingType fun kind => purchase.shippingType = kind
  user : page.showsAll = true → Meets page.userIds fun id => purchase.userId = id

/-- The purchase may be seen and satisfies every selection. -/
def Selected (session : Session) (db : Database) (page : OrdersPage) (purchase : Purchase) :
    Prop :=
  purchase ∈ db.purchases.rows ∧ visible session db page purchase = true ∧
    MeetsCategory db page purchase ∧ MeetsOthers db page purchase

/-- The value of a purchase in a column, null where a joined row is missing. The rating is the
one that the catalogue is sorted by. -/
def orderValue (platform : Platform) (db : Database) (purchase : Purchase) :
    OrderColumn → Option SortValue
  | .timeBought => some (.number (some purchase.timeBought))
  | .quantity => some (.number (some purchase.quantity))
  | .locationName => (inventoryRow db purchase).map fun inv => .text inv.locationName
  | .name => (db.kits.get? purchase.kitId).map fun kit => .text kit.name
  | .averageRating => (db.kits.get? purchase.kitId).map fun kit =>
      .number (queriedAverage platform db kit)
  | .price => (db.kits.get? purchase.kitId).map fun kit => .number (some kit.price)

def valueLe (platform : Platform) : Option SortValue → Option SortValue → Bool
  | none, _ => true
  | some _, none => false
  | some a, some b => a.le platform b

/-- The first purchase may come before the second in the selected column and direction. -/
def InOrder (platform : Platform) (db : Database) (page : OrdersPage) (a b : Purchase) : Prop :=
  (if page.descending then
    valueLe platform (orderValue platform db b page.sortBy) (orderValue platform db a page.sortBy)
  else valueLe platform (orderValue platform db a page.sortBy)
    (orderValue platform db b page.sortBy)) = true

instance (platform : Platform) (db : Database) (page : OrdersPage) (a b : Purchase) :
    Decidable (InOrder platform db page a b) :=
  inferInstanceAs (Decidable (_ = true))

/-- The pages hold the selected purchases, in the selected order. -/
structure MeansSelection (platform : Platform) (engine : Engine) (session : Session) (s : State)
    (page : OrdersPage) : Prop where
  same : ∀ purchase, (∃ number, purchase ∈ purchasesShown platform engine session s page number) ↔
    Selected session s.db page purchase
  sorted : ∀ count, (firstPages (purchasesShown platform engine session s page) count).Pairwise
    (InOrder platform s.db page)

end Meaning

section Query

variable {page : OrdersPage} {number : Nat}

private theorem get_categories : (ordersQuery page number).get "category_ids" =
    some (joinComma (page.categoryIds.map toString)) := by
  simp [ordersQuery]

/-- The dimensions without a choice are sent empty. -/
private theorem get_unoffered {name : String}
    (unoffered : name ∈ ["age_ids", "theme_ids", "grade_ids"]) :
    (ordersQuery page number).get name = some (joinComma (([] : List Nat).map toString)) := by
  simp only [List.mem_cons, List.not_mem_nil, or_false] at unoffered
  rcases unoffered with rfl | rfl | rfl <;> simp [ordersQuery]

private theorem get_rating : (ordersQuery page number).get "rating" = some "" := by
  simp [ordersQuery]

private theorem pageArgs_ordersQuery :
    pageArgs (ordersQuery page number) "per_page" 10 = some (number, page.itemsPerPage) :=
  pageArgs_sent (by simp [ordersQuery]) (by simp [ordersQuery]) 10

/-- The filter of an option lets a kit pass that has one of the ids, or any kit without ids. -/
private theorem anyOption_iff {args : Query} {name : String} {options : Table KitOption.id}
    {ids selected : List Nat}
    (sent : args.get name = some (joinComma (selected.map toString))) :
    anyOption args name options ids = true ↔
      selected = [] ∨ ∃ id ∈ selected, id ∈ ids ∧ (options.get? id).isSome = true := by
  by_cases empty : selected = []
  · subst empty
    refine iff_of_true ?_ (Or.inl rfl)
    rw [anyOption, sent]
    rfl
  · have read : (splitAt ',' (joinComma (selected.map toString))).filterMap readNat = selected :=
      readIds_joinComma empty
    have something : (splitAt ',' (joinComma (selected.map toString))).any
        (fun text => text ≠ "") = true := by
      obtain ⟨id, listed⟩ := List.exists_mem_of_ne_nil selected empty
      rw [splitAt_ids empty, List.any_eq_true]
      exact ⟨toString id, List.mem_map_of_mem listed, decide_eq_true (number_ne_empty id)⟩
    simp only [anyOption, sent, Option.getD_some, something, if_true, read, List.any_eq_true,
      Bool.and_eq_true, decide_eq_true_eq, empty, false_or]
    constructor
    · rintro ⟨id, present, stored, chosen⟩
      exact ⟨id, chosen, present, stored⟩
    · rintro ⟨id, chosen, present, stored⟩
      exact ⟨id, present, stored, chosen⟩

end Query

section Listed

variable {platform : Platform} {engine : Engine} {db : Database} {session : Session}
  {page : OrdersPage} {purchase : Purchase}

/-- The texts that the handler gets for the selected names, which it splits at each comma. -/
def sentNames (page : OrdersPage) : List String := splitAt ',' (joinComma page.locationNames)

/-- The address of the row is among the texts that were sent, or all of these are empty. -/
def AddressSent (engine : Engine) (page : OrdersPage) (inv : Inventory) : Prop :=
  (∀ name ∈ sentNames page, name = "") ∨
    ∃ name ∈ sentNames page, engine.sameText inv.location name = true

instance (engine : Engine) (page : OrdersPage) (inv : Inventory) :
    Decidable (AddressSent engine page inv) :=
  inferInstanceAs (Decidable (_ ∨ _))

/-- What the handler asks of a purchase besides the categories: its kit and its inventory row
are stored, and the address of that row was sent. -/
def Passes (engine : Engine) (db : Database) (page : OrdersPage) (purchase : Purchase) : Prop :=
  (db.kits.get? purchase.kitId).isSome = true ∧
    ∃ inv, inventoryRow db purchase = some inv ∧ AddressSent engine page inv

private theorem joinedRows_eq_some {kit : Kit} {inv : Inventory} :
    joinedRows db purchase = some (kit, inv) ↔
      db.kits.get? purchase.kitId = some kit ∧ inventoryRow db purchase = some inv := by
  unfold joinedRows inventoryRow
  cases db.kits.get? purchase.kitId <;>
    cases purchase.inventoryId.bind db.inventory.get? <;> simp

private theorem locationFilter_iff {inv : Inventory} {number : Nat} :
    locationFilter engine (ordersQuery page number) inv = true ↔ AddressSent engine page inv := by
  have sent : splitAt ',' (((ordersQuery page number).get "location_names").getD "") =
      sentNames page := by
    simp [ordersQuery, sentNames]
  unfold locationFilter AddressSent
  rw [sent]
  by_cases nothing : ∀ name ∈ sentNames page, name = ""
  · have silent : (sentNames page).any (fun name => name ≠ "") = false := by
      simpa using nothing
    simp only [silent, Bool.false_eq_true, if_false]
    exact iff_of_true trivial (Or.inl nothing)
  · have something : (sentNames page).any (fun name => name ≠ "") = true := by
      simpa using nothing
    simp only [something, if_true, List.any_eq_true, nothing, false_or]

/-- The filters of the handler, as far as the page makes use of them. -/
private theorem filters_iff {kit : Kit} {inv : Inventory} {number : Nat} :
    applyCommonPurchaseFilters platform engine db (ordersQuery page number) kit inv = true ↔
      AddressSent engine page inv ∧ Meets page.categoryIds
        fun id => id ∈ kit.category ∧ (db.categoryOptions.get? id).isSome = true := by
  have rating : ratingFilter platform db (ordersQuery page number) kit = true :=
    ratingFilter_unrated get_rating db kit
  have age : anyOption (ordersQuery page number) "age_ids" db.ageOptions kit.age = true :=
    (anyOption_iff (get_unoffered (by decide))).mpr (Or.inl rfl)
  have theme : anyOption (ordersQuery page number) "theme_ids" db.themeOptions kit.theme = true :=
    (anyOption_iff (get_unoffered (by decide))).mpr (Or.inl rfl)
  have grade : anyOption (ordersQuery page number) "grade_ids" db.gradeOptions kit.grade = true :=
    (anyOption_iff (get_unoffered (by decide))).mpr (Or.inl rfl)
  rw [applyCommonPurchaseFilters, rating, age, theme, grade, Bool.true_and, Bool.and_true,
    Bool.and_true, Bool.and_true, Bool.and_eq_true, locationFilter_iff,
    anyOption_iff get_categories]
  rfl

/-- The joined rows of a purchase that the handler keeps. -/
def keptRows (platform : Platform) (engine : Engine) (db : Database) (args : Query)
    (visible : Purchase → Bool) (purchase : Purchase) : Option (Kit × Inventory) :=
  (joinedRows db purchase).filter fun row =>
    visible purchase && applyCommonPurchaseFilters platform engine db args row.1 row.2

private theorem keptRows_isSome {number : Nat} {shown : Purchase → Bool} :
    (keptRows platform engine db (ordersQuery page number) shown purchase).isSome = true ↔
      shown purchase = true ∧ MeetsCategory db page purchase ∧ Passes engine db page purchase := by
  simp only [keptRows, Option.isSome_filter, Option.any_eq_true, Bool.and_eq_true, filters_iff,
    Prod.exists, joinedRows_eq_some]
  constructor
  · rintro ⟨kit, inv, ⟨bought, taken⟩, seen, address, category⟩
    refine ⟨seen, ?_, by rw [bought]; rfl, inv, taken, address⟩
    rcases category with none | ⟨id, chosen, has⟩
    · exact Or.inl none
    · exact Or.inr ⟨id, chosen, kit, bought, has⟩
  · rintro ⟨seen, category, stored, inv, taken, address⟩
    obtain ⟨kit, bought⟩ := Option.isSome_iff_exists.mp stored
    refine ⟨kit, inv, ⟨bought, taken⟩, seen, address, ?_⟩
    rcases category with none | ⟨id, chosen, other, same, has⟩
    · exact Or.inl none
    · rw [bought, Option.some.injEq] at same
      subst same
      exact Or.inr ⟨id, chosen, has⟩

/-- The purchases of all pages, in the order of the pages. -/
def listed (platform : Platform) (engine : Engine) (session : Session) (db : Database)
    (page : OrdersPage) : List Purchase :=
  sortedPurchases platform engine db (ordersQuery page 0) (visible session db page)

theorem map_queriedPurchases (args : Query) (shown : Purchase → Bool) :
    (queriedPurchases platform engine db args shown).map Prod.fst =
      db.purchases.rows.filter
        (fun purchase => (keptRows platform engine db args shown purchase).isSome) :=
  map_fst_join db.purchases.rows (keptRows platform engine db args shown)

private theorem listed_perm :
    (listed platform engine session db page).Perm
      (db.purchases.rows.filter fun purchase =>
        (keptRows platform engine db (ordersQuery page 0) (visible session db page)
          purchase).isSome) := by
  rw [← map_queriedPurchases]
  exact (sortRows_perm _ _ _ _).map Prod.fst

theorem mem_listed_iff :
    purchase ∈ listed platform engine session db page ↔
      purchase ∈ db.purchases.rows ∧ visible session db page purchase = true ∧
        MeetsCategory db page purchase ∧ Passes engine db page purchase := by
  rw [listed_perm.mem_iff, List.mem_filter, keptRows_isSome]

/-- Whatever the selected column and direction, the newest purchase comes first. -/
private theorem listed_descending :
    (listed platform engine session db page).Pairwise (fun a b => b.id < a.id) := by
  have weakly : (listed platform engine session db page).Pairwise (fun a b => b.id ≤ a.id) := by
    -- the page names its sort arguments differently from the handler, which finds none and falls
    -- back to the id, downwards
    have sortBy : (ordersQuery page 0).get "sortBy" = none := by simp [ordersQuery]
    have sortDir : (ordersQuery page 0).get "sortDir" = none := by simp [ordersQuery]
    unfold listed sortedPurchases
    rw [sortBy, sortDir, Option.getD_none, Option.getD_none, List.pairwise_map]
    exact sortRows_desc (fun row => rfl) _
  have distinct : (listed platform engine session db page).Pairwise (fun a b => a.id ≠ b.id) := by
    have kept : ((listed platform engine session db page).map Purchase.id).Nodup := by
      rw [(listed_perm.map Purchase.id).nodup_iff]
      exact db.purchases.distinct.sublist (List.filter_sublist.map Purchase.id)
    exact List.pairwise_map.mp kept
  exact (weakly.and distinct).imp fun both => lt_of_le_of_ne both.1 both.2.symm

private theorem visible_nobody (login : session.user = none) :
    visible session db page = fun _ => false := by
  funext purchase
  rw [visible, login]

private theorem visible_own {user : Nat} (login : session.user = some user)
    (own : page.showsAll = false) :
    visible session db page = fun purchase => decide (purchase.userId = user) := by
  funext purchase
  simp only [visible, login, own, Bool.false_eq_true, if_false]

private theorem visible_all {user : Nat} (login : session.user = some user)
    (all : page.showsAll = true) : visible session db page = fun _ => isAdmin db user := by
  funext purchase
  simp only [visible, login, all, if_true]

private theorem listed_nil (unseen : visible session db page = fun _ => false) :
    listed platform engine session db page = [] := by
  rw [List.eq_nil_iff_forall_not_mem]
  intro purchase member
  have seen := (mem_listed_iff.mp member).2.1
  rw [unseen] at seen
  cases seen

/-- Only the number of the page differs between the requests for a list. -/
private theorem sortedPurchases_ordersQuery (number : Nat) (shown : Purchase → Bool) :
    sortedPurchases platform engine db (ordersQuery page number) shown =
      sortedPurchases platform engine db (ordersQuery page 0) shown := by
  have same : ∀ name, name ≠ "page" →
      (ordersQuery page number).get name = (ordersQuery page 0).get name := by
    intro name other
    exact Query.get_other other ((ordersQuery page 0).take 9) ((ordersQuery page 0).drop 10) _ _
  unfold sortedPurchases queriedPurchases applyCommonPurchaseFilters ratingFilter locationFilter
    anyOption floatArg
  rw [same "sortBy" (by decide), same "sortDir" (by decide), same "rating" (by decide),
    same "location_names" (by decide), same "age_ids" (by decide),
    same "category_ids" (by decide), same "theme_ids" (by decide), same "grade_ids" (by decide)]

private theorem listPurchases_ordersQuery (number : Nat) (shown : Purchase → Bool) :
    listPurchases platform engine db (ordersQuery page number) shown =
      dumpPage db (pageOf (sortedPurchases platform engine db (ordersQuery page 0) shown)
        page.itemsPerPage number) := by
  rw [listPurchases, pageArgs_ordersQuery, ← sortedPurchases_ordersQuery number,
    ratingBinds_unrated get_rating]
  rfl

private theorem listIn_adminRefusal {α : Type} (user : Nat) :
    listIn (adminRefusal db user : Reply (List α)) = [] := by
  unfold adminRefusal
  split <;> rfl

/-- The pages cut one list, whatever their number, and each of them has its buyers loaded. -/
private theorem purchasesShown_eq (s : State) (number : Nat) :
    purchasesShown platform engine session s page number = listIn (dumpPage s.db
      (pageOf (listed platform engine session s.db page) page.itemsPerPage number)) := by
  unfold purchasesShown fetchPurchases
  cases login : session.user with
  | none =>
      -- a session that is refused gets no list, and sees no purchase either
      rw [listed_nil (visible_nobody login), pageOf_nil, getAllPurchases, getMyPurchases,
        adminRequired, loginRequired, login]
      cases page.showsAll <;> rfl
  | some user =>
      cases all : page.showsAll with
      | false =>
          rw [getMyPurchases, loginRequired_some login, listPurchases_ordersQuery, listed,
            visible_own login all]
          rfl
      | true =>
          have everyone : visible session s.db page = fun _ => isAdmin s.db user :=
            visible_all login all
          cases admin : isAdmin s.db user with
          | false =>
              have refused : (getAllPurchases platform engine session s
                  (ordersQuery page number)).1 = adminRefusal s.db user := by
                simp only [getAllPurchases, adminRequired, login, admin, Bool.false_eq_true,
                  if_false]
              rw [admin] at everyone
              rw [listed_nil everyone, pageOf_nil, if_pos rfl, refused, listIn_adminRefusal]
              rfl
          | true =>
              rw [admin] at everyone
              simp only [getAllPurchases, adminRequired, login, admin, if_true,
                listPurchases_ordersQuery, listed, everyone]

/-- The purchase is on a page of the listing and the buyers of all purchases of this page can be
loaded. -/
def OnLoadedPage (platform : Platform) (engine : Engine) (session : Session) (db : Database)
    (page : OrdersPage) (purchase : Purchase) : Prop :=
  ∃ number,
    purchase ∈ pageOf (listed platform engine session db page) page.itemsPerPage number ∧
      ∀ other ∈ pageOf (listed platform engine session db page) page.itemsPerPage number,
        buyerLoads db other = true

private theorem onLoadedPage_of_all (positive : 0 < page.itemsPerPage)
    (loads : ∀ other ∈ db.purchases.rows, buyerLoads db other = true)
    (member : purchase ∈ listed platform engine session db page) :
    OnLoadedPage platform engine session db page purchase := by
  obtain ⟨number, here⟩ := (mem_pageOf_iff positive).mpr member
  refine ⟨number, here, ?_⟩
  intro other there
  exact loads other (mem_listed_iff.mp ((mem_pageOf_iff positive).mp ⟨number, there⟩)).1

theorem shown_iff {s : State} (positive : 0 < page.itemsPerPage) (purchase : Purchase) :
    (∃ number, purchase ∈ purchasesShown platform engine session s page number) ↔
      purchase ∈ s.db.purchases.rows ∧ visible session s.db page purchase = true ∧
        MeetsCategory s.db page purchase ∧ Passes engine s.db page purchase ∧
        OnLoadedPage platform engine session s.db page purchase := by
  simp only [purchasesShown_eq, mem_dumpPage]
  constructor
  · rintro ⟨number, here, loads⟩
    obtain ⟨stored, seen, category, passes⟩ :=
      mem_listed_iff.mp ((mem_pageOf_iff positive).mp ⟨number, here⟩)
    exact ⟨stored, seen, category, passes, number, here, loads⟩
  · rintro ⟨-, -, -, -, loaded⟩
    exact loaded

private theorem sorted_iff {s : State} :
    (∀ count, (firstPages (purchasesShown platform engine session s page) count).Pairwise
        (InOrder platform s.db page)) ↔
      ∀ a b, (∃ number, a ∈ purchasesShown platform engine session s page number) →
        (∃ number, b ∈ purchasesShown platform engine session s page number) → b.id < a.id →
          InOrder platform s.db page a b := by
  have cut : ∀ number, (purchasesShown platform engine session s page number).Sublist
      (pageOf (listed platform engine session s.db page) page.itemsPerPage number) := by
    intro number
    rw [purchasesShown_eq]
    exact dumpPage_sublist s.db _
  exact pairwise_firstPages_iff cut listed_descending

end Listed

/-- A customer's orders of one tray and then of five, and the Orders page without a selection,
sorted by time with the latest first. -/
def trays (id : Nat) (quantity : Int) : Purchase :=
  ⟨id, 1, 1, some 1, quantity, id, some "Pending", none, "pickup", some "stripe", none, none⟩

def twoOrders : State :=
  sampleShop (shelfOnly 3).db.inventory ⟨[trays 1 1, trays 2 5], by decide, by decide⟩

def latestFirst : OrdersPage := ⟨[], [], [], [], [], [], false, false, .timeBought, true, 10⟩

/-- Both orders are on the page as long as no category and no location is selected. -/
private theorem twoOrders_shown {page : OrdersPage} (positive : 0 < page.itemsPerPage)
    (own : page.showsAll = false) (categories : page.categoryIds = [])
    (anywhere : page.locationNames = []) {purchase : Purchase}
    (stored : purchase ∈ twoOrders.db.purchases.rows) :
    ∃ number, purchase ∈ purchasesShown plainPlatform .sqlite customer twoOrders page number := by
  have seen : visible customer twoOrders.db page purchase = true := by
    rw [visible_own rfl own]
    rcases List.mem_pair.mp stored with rfl | rfl <;> rfl
  have unnamed : ∀ name ∈ sentNames page, name = "" := by
    rw [sentNames, anywhere]
    decide
  have passes : Passes .sqlite twoOrders.db page purchase := by
    rcases List.mem_pair.mp stored with rfl | rfl <;>
      exact ⟨rfl, shelf 3, rfl, Or.inl unnamed⟩
  have member : purchase ∈ listed plainPlatform .sqlite customer twoOrders.db page :=
    mem_listed_iff.mpr ⟨stored, seen, Or.inl categories, passes⟩
  exact (shown_iff positive purchase).mpr ⟨stored, seen, Or.inl categories, passes,
    onLoadedPage_of_all positive (by decide) member⟩

end ProductSite.Browse.Orders
