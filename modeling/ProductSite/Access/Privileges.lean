/- Module: ProductSite/Access/Privileges
   source: backend/app/utils/decorators.py, backend/app/routes/kit_routes.py,
     backend/app/routes/inventory_routes.py, backend/app/routes/user_settings_routes.py
   digest: What no run of requests changes unless one of them comes from an administrator's
     session: the kits, the rows of the inventory, the accounts, and who is an administrator. -/

import ProductSite.Access.Authentication
import ProductSite.Browse.Search
import ProductSite.Foundation.References

set_option autoImplicit false
set_option relaxedAutoImplicit false

namespace ProductSite.Access.Privileges

open ProductSite.Foundation.Clashes (adds_insertNew)
open ProductSite.Foundation.KeyedTable (Table)
open ProductSite.Foundation.References
open ProductSite.Foundation.Runs
open ProductSite.Foundation.Wire (JsonField Keyspace Reply)
open ProductSite.Access.Authentication (plainLibraries)
open ProductSite.Backend.Models
open ProductSite.Backend.Accounts
open ProductSite.Backend.CartRoutes (cartStep cartStep_frame)
open ProductSite.Backend.InventoryRoutes
open ProductSite.Backend.KitRoutes
open ProductSite.Backend.PersonalRoutes
open ProductSite.Backend.PurchaseRoutes
open ProductSite.Backend.PurchaseSaving
open ProductSite.Backend.RedisListener
open ProductSite.Backend.Requests (customer nobody sampleServer shelfOnly)
open ProductSite.Browse.Search (CatalogueRequest catalogueStep)

/-- A kit without its options, which `delete_option` takes off for anyone. -/
def untagged (kit : Kit) : Kit := { kit with age := [], category := [], grade := [], theme := [] }

/-- An inventory row without its stock, which reservations and restorations change. -/
def unstocked (row : Inventory) : Inventory := { row with quantity := 0 }

/-- What requests from outside leave alone. -/
structure Governed (db db' : Database) : Prop where
  kits : db'.kits.rows.map untagged = db.kits.rows.map untagged
  inventory : db'.inventory.rows.map unstocked = db.inventory.rows.map unstocked
  users : Keeps db.users db'.users
  admins : ∀ user, isAdmin db' user = true → isAdmin db user = true

theorem Governed.refl (db : Database) : Governed db db := ⟨rfl, rfl, .refl _, fun _ admin => admin⟩

theorem Governed.of_eq {db db' : Database} (same : db' = db) : Governed db db' := same ▸ .refl db

theorem Governed.trans {db db' db'' : Database} (first : Governed db db')
    (second : Governed db' db'') : Governed db db'' where
  kits := second.kits.trans first.kits
  inventory := second.inventory.trans first.inventory
  users := first.users.trans second.users
  admins := fun user admin => first.admins user (second.admins user admin)

/-- A request that writes none of the three tables. -/
theorem Governed.elsewhere {db db' : Database} (kits : db'.kits = db.kits)
    (inventory : db'.inventory = db.inventory) (users : db'.users = db.users) :
    Governed db db' where
  kits := by rw [kits]
  inventory := by rw [inventory]
  users := users ▸ .refl _
  admins := fun user admin => (isAdmin_congr users user) ▸ admin

/-- The session that a request is made in; an expiry has none. -/
def sessionOf : CatalogueRequest → Option Session
  | .deleteInventory session _ _ => some session
  | .site (.account session _) => some session
  | .site (.cart call) => some call.session
  | .site (.personal call) => some call.session
  | .site (.kit call) => some call.session
  | .site (.stock (.createInventory session _ _)) => some session
  | .site (.stock (.editInventory session _ _)) => some session
  | .site (.stock (.decrementQuantity session _)) => some session
  | .site (.stock (.incrementQuantity session _)) => some session
  | .site (.stock (.restoreReservedInventory session _)) => some session
  | .site (.stock (.createPurchase session _ _ _)) => some session
  | .site (.stock (.updatePurchase session _ _)) => some session
  | .site (.stock (.expire _)) => none

/-- The request does not come from the session of a user whom `admin_required` admits. -/
def FromOutside (s : State) (request : CatalogueRequest) : Prop :=
  ∀ session, sessionOf request = some session →
    ∀ user, session.user = some user → isAdmin s.db user = false

section Steps

variable {engine : Engine} {session : Session} {s : State}

private theorem governed_adminRequired {β : Type} {handler : Nat → Reply β × State}
    (outside : ∀ user, session.user = some user → isAdmin s.db user = false) :
    Governed s.db (adminRequired session s handler).2.db :=
  .of_eq (congrArg State.db (adminRequired_refused outside).1)

private theorem governed_loginRequired {β : Type} {handler : Nat → Reply β × State}
    (handled : ∀ user, Governed s.db (handler user).2.db) :
    Governed s.db (loginRequired session s handler).2.db := by
  unfold loginRequired
  split
  · exact .refl _
  · exact handled _

section Stock

private theorem governed_saveInventoryTable {table : Table Inventory.id}
    (same : table.rows.map unstocked = s.db.inventory.rows.map unstocked) :
    Governed s.db (s.saveInventoryTable table).db :=
  ⟨rfl, same, .refl _, fun _ admin => admin⟩

/-- A row that is found and written back with another quantity. -/
private theorem governed_requantify {inv : Inventory}
    (stored : s.db.inventory.get? inv.id = some inv)
    (quantity : Int) : Governed s.db (s.saveInventory { inv with quantity := quantity }).db :=
  governed_saveInventoryTable (map_save_of_same stored rfl)

/-- The induction is on the items, with the table that the loop has reached. -/
private theorem restoreLoop_unstocked {items : List RestoreItem} {table after : Table Inventory.id}
    {redis : Keyspace RedisValue} (done : (restoreLoop table redis items).1 = some after) :
    after.rows.map unstocked = table.rows.map unstocked := by
  induction items generalizing table redis with
  | nil =>
      cases done
      rfl
  | cons item rest ih =>
      unfold restoreLoop at done
      simp only at done
      split at done
      · exact ih done
      · rename_i inv found
        split at done
        · cases done
        · rename_i quantity _
          obtain ⟨id, -, stored⟩ := Option.bind_eq_some_iff.mp found
          have here : inv.id = id := Table.key_of_get? stored
          rw [← here] at stored
          have saved : (table.save { inv with quantity := inv.quantity + quantity }).rows.map
              unstocked = table.rows.map unstocked := map_save_of_same stored rfl
          exact (ih done).trans saved

private theorem governed_restoreReservedInventory (items : JsonField (List RestoreItem)) :
    Governed s.db (restoreReservedInventory session s items).2.db := by
  refine governed_loginRequired fun user => ?_
  split
  · exact .refl _
  · split
    · exact .refl _
    · rename_i table redis loop
      exact governed_saveInventoryTable (restoreLoop_unstocked (congrArg Prod.fst loop))

private theorem governed_expire (name : String) : Governed s.db (expire s name).db := by
  unfold expire handleExpired
  split
  · exact .refl _
  · simp only
    split
    · exact .refl _
    · rename_i inv found
      have here : inv.id = _ := Table.key_of_get? found
      rw [← here] at found
      exact governed_requantify found _

private theorem governed_createPurchase {server : Server} (stripe : PaymentRequest → StripeOutcome)
    (now : Nat) (body : PurchaseBody) :
    Governed s.db (createPurchase server session stripe now s body).2.db := by
  obtain ⟨_, _, _, after⟩ := createPurchase_frame server session stripe now s body
  rw [after]
  exact .elsewhere rfl rfl rfl

private theorem governed_stockStep {server : Server} (request : Backend.Requests.Request)
    (outside : FromOutside s (.site (.stock request))) :
    Governed s.db (Backend.Requests.step server s request).db := by
  cases request with
  | createInventory session places body => exact governed_adminRequired (outside session rfl)
  | editInventory session places body => exact governed_adminRequired (outside session rfl)
  | decrementQuantity session body =>
      refine governed_loginRequired fun user => ?_
      split
      · exact .refl _
      · rename_i inv quantity plan
        exact governed_requantify (decrementRow_found (decrementPlan_eq_ok.mp plan).1) _
  | incrementQuantity session body =>
      refine governed_loginRequired fun user => ?_
      split
      · exact .refl _
      · rename_i inv quantity plan
        exact governed_requantify (incrementPlan_found plan).1 _
  | restoreReservedInventory session items => exact governed_restoreReservedInventory items
  | createPurchase session stripe now body =>
      exact governed_createPurchase stripe now body
  | updatePurchase session purchaseId body => exact governed_adminRequired (outside session rfl)
  | expire name => exact governed_expire name

end Stock

private theorem governed_kitStep (call : KitCall)
    (outside : ∀ user, call.session.user = some user → isAdmin s.db user = false) :
    Governed s.db (kitStep engine s call).db := by
  obtain ⟨session, request⟩ := call
  cases request with
  | list => exact .refl _
  | createKit body => exact governed_adminRequired outside
  | updateKit id body => exact governed_adminRequired outside
  | deleteKit id => exact governed_adminRequired outside
  | createOption kind name =>
      rw [kitStep_createOption]
      rcases createOption_cases engine s kind name with ⟨-, kept⟩ | ⟨-, _, created⟩
      · exact .of_eq (congrArg State.db kept)
      · rw [created]
        cases kind <;> exact .elsewhere rfl rfl rfl
  | deleteOption kind id =>
      rw [kitStep_deleteOption]
      rcases deleteOption_cases s kind id with ⟨-, kept⟩ | ⟨_, -, deleted⟩
      · exact .of_eq (congrArg State.db kept)
      · rw [deleted]
        have kits : (s.db.kits.modify (detachKit kind id) (detachKit_id kind id)).rows.map
            untagged = s.db.kits.rows.map untagged := by
          refine map_modify_of_same (detachKit_id kind id) ?_
          intro kit
          cases kind <;> rfl
        cases kind <;> exact ⟨kits, rfl, .refl _, fun _ admin => admin⟩

/-- Of the personal requests only `update_purchase` writes the inventory. -/
private theorem governed_of_write {server : Server} {after : State}
    (write : PersonalWrite server s session after)
    (outside : ∀ user, session.user = some user → isAdmin s.db user = false) :
    Governed s.db after.db := by
  cases write with
  | kept => exact .refl _
  | favorites table => exact .elsewhere rfl rfl rfl
  | review kitId user rating body ids =>
      rcases storeReview_cases server.engine s kitId user rating body
          (existingOptions s.db.ageOptions ids) with
        ⟨_, -, stored⟩ | ⟨-, -, stored⟩ | ⟨-, stored⟩
      · rw [stored]
        exact .elsewhere rfl rfl rfl
      · rw [stored]
        exact .elsewhere rfl rfl rfl
      · rw [stored]
        exact .refl _
  | reviewGone gone => exact .elsewhere rfl rfl rfl
  | address table => exact .elsewhere rfl rfl rfl
  | purchaseGone gone => exact .elsewhere rfl rfl rfl
  | order stripe now body => exact governed_createPurchase stripe now body
  | orderUpdate purchaseId body => exact governed_adminRequired outside

section Accounts

variable {libraries : Libraries}

private theorem governed_saveUser {row changed : User}
    (stored : s.db.users.get? changed.id = some row)
    (role : changed.role = row.role) : Governed s.db (State.saveUser s changed).db := by
  refine ⟨rfl, rfl, keeps_save _ _, ?_⟩
  intro user admin
  have after := (isAdmin_saveUser stored user).mp admin
  split at after
  · rename_i here
    rw [here]
    exact isAdmin_iff.mpr ⟨row, stored, role.symm.trans after⟩
  · exact after

private theorem governed_addUser (username email password : String) (provider : Option String) :
    Governed s.db (State.addUser s username email password provider).db := by
  refine ⟨rfl, rfl, keeps_adds (adds_insertNew (fun _ => rfl)), ?_⟩
  intro user admin
  by_cases new : user = s.db.users.nextKey
  · rw [new, isAdmin_addUser_nextKey] at admin
    cases admin
  · obtain ⟨row, found, role⟩ := isAdmin_iff.mp admin
    have lookup : (State.addUser s username email password provider).db.users.get? user =
        s.db.users.get? user :=
      (Table.get?_insertNew _ _ (fun _ => rfl) user).trans (if_neg new)
    rw [lookup] at found
    exact isAdmin_iff.mpr ⟨row, found, role⟩

private theorem governed_edits {after : State} {password : Option String}
    (edits : EditsVerified libraries s after password) : Governed s.db after.db := by
  rcases edits with rfl | ⟨row, changed, stored, -, key, role, -, rfl⟩
  · exact .refl _
  · rw [← key] at stored
    exact governed_saveUser stored role

private theorem governed_account (request : AccountRequest)
    (outside : ∀ user, session.user = some user → isAdmin s.db user = false) :
    Governed s.db (handle libraries engine session s request).state.db := by
  cases request with
  | login body =>
      rcases login_cases libraries engine s body with ⟨kept, -⟩ | ⟨_, -, -, -, kept, -⟩
      · exact .of_eq (congrArg State.db kept)
      · exact .of_eq (congrArg State.db kept)
  | register body =>
      change Governed s.db (register libraries engine s body).state.db
      rcases register_cases libraries engine s body with
        ⟨kept, -⟩ | ⟨_, stored, -, -, after, -⟩ | ⟨_, _, _, after, -⟩
      · exact .of_eq (congrArg State.db kept)
      · rw [after]
        exact governed_saveUser stored rfl
      · rw [after]
        exact governed_addUser ..
  | authGoogleCallback info =>
      change Governed s.db (authGoogleCallback engine s info).state.db
      rcases authGoogleCallback_cases engine s info with
        ⟨⟨kept, -⟩, -⟩ | ⟨_, -, -, -, kept, -⟩ | ⟨_, _, -, -, after, -⟩
      · exact .of_eq (congrArg State.db kept)
      · exact .of_eq (congrArg State.db kept)
      · rw [after]
        exact governed_addUser ..
  | logout => exact .refl _
  | changeEmail email password => exact governed_edits (changeEmail_edits email password)
  | changePassword currentPassword newPassword =>
      exact governed_edits (changePassword_edits currentPassword newPassword)
  | deleteAccount password => exact governed_edits (deleteAccount_edits password)
  | changeUserRole userId role => exact governed_adminRequired outside
  | deleteUser id => exact governed_adminRequired outside

end Accounts

private theorem governed_step {libraries : Libraries} {server : Server} (s : State)
    (request : CatalogueRequest) (outside : FromOutside s request) :
    Governed s.db (catalogueStep libraries server s request).db := by
  cases request with
  | deleteInventory session kitId location => exact governed_adminRequired (outside session rfl)
  | site request =>
      cases request with
      | account session request => exact governed_account request (outside session rfl)
      | stock request => exact governed_stockStep request outside
      | cart call =>
          change Governed s.db (cartStep server.engine s call).db
          obtain ⟨_, after⟩ := cartStep_frame server.engine s call
          rw [after]
          exact .elsewhere rfl rfl rfl
      | personal call =>
          exact governed_of_write (personalStep_writes server s call) (outside call.session rfl)
      | kit call => exact governed_kitStep call (outside call.session rfl)

end Steps

/-- Along any run without a request from an administrator's session, the kits keep all but their
options, the inventory rows all but their stock, no account goes, and nobody becomes an
administrator. -/
theorem only_administrators_govern (libraries : Libraries) (server : Server) (s : State)
    (requests : List CatalogueRequest)
    (outside : EachStep (catalogueStep libraries server) FromOutside s requests) :
    Along (catalogueStep libraries server) (fun t => Governed s.db t.db) s requests := by
  have keeps : ∀ t request, Governed s.db t.db → FromOutside t request →
      Governed s.db (catalogueStep libraries server t request).db :=
    fun t request governed foreign => governed.trans (governed_step t request foreign)
  exact along_of_eachStep keeps (.refl s.db) outside

/-- Ann promotes herself and sets the stock through every door that is open to her, and a visitor
deletes the kit: the stock changes, the rest stays. -/
theorem customer_governs_nothing :
    let promote : CatalogueRequest :=
      .site (.account customer (.changeUserRole 1 (.value "admin")))
    let increment : CatalogueRequest :=
      .site (.stock (.incrementQuantity customer ⟨.value 1, .value "1 Main St", .value 5⟩))
    let delete : CatalogueRequest := .site (.kit ⟨nobody, .deleteKit 1⟩)
    Along (catalogueStep plainLibraries sampleServer) (fun t => Governed (shelfOnly 3).db t.db)
        (shelfOnly 3) [promote, increment, delete] ∧
      (run (catalogueStep plainLibraries sampleServer) (shelfOnly 3)
        [promote, increment, delete]).db.inventory.rows = (shelfOnly 8).db.inventory.rows := by
  refine ⟨only_administrators_govern plainLibraries sampleServer (shelfOnly 3) _ ?_, by decide⟩
  rw [eachStep_cons, eachStep_cons, eachStep_cons]
  refine ⟨?_, ?_, ?_, eachStep_nil _ _⟩
  · rintro _ ⟨⟩ _ ⟨⟩
    decide
  · rintro _ ⟨⟩ _ ⟨⟩
    decide
  · rintro _ ⟨⟩ _ ⟨⟩

end ProductSite.Access.Privileges
