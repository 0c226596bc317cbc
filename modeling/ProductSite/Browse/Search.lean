/- Module: ProductSite/Browse/Search
   source: backend/app/routes/kit_routes.py, backend/app/models/kits.py,
     backend/app/routes/inventory_routes.py
   digest: The search of the catalogue joins a table that no request fills. -/

import ProductSite.Access.Authentication
import ProductSite.Backend.Site
import ProductSite.Browse.Kits

set_option autoImplicit false
set_option relaxedAutoImplicit false

namespace ProductSite.Browse.Search

open ProductSite.Foundation.Listing
open ProductSite.Foundation.Runs
open ProductSite.Access.Authentication (plainLibraries)
open ProductSite.Backend.Accounts (Libraries)
open ProductSite.Backend.CartRoutes (cartStep_frame)
open ProductSite.Backend.InventoryRoutes (deleteInventory)
open ProductSite.Backend.KitRoutes
  (KitCall KitRequest KitBody deleteKit deleteKit_cases kitStep kitStep_frame)
open ProductSite.Backend.Listings
open ProductSite.Backend.Models
open ProductSite.Backend.PersonalRoutes (personalStep_frame)
open ProductSite.Backend.Requests
  (administrator sampleServer sampleShop shelfOnly step_frame)
open ProductSite.Backend.Site (SiteRequest handle_frame siteStep)
open ProductSite.Storefront.Filters
open ProductSite.Browse.KitListing
open ProductSite.Browse.Kits

section Reachable

/-- A request of the site, or the deletion of an inventory row. -/
inductive CatalogueRequest where
  | site (request : SiteRequest)
  | deleteInventory (session : Session) (kitId : Option Nat) (location : Option String)

def catalogueStep (libraries : Libraries) (server : Server) (s : State) :
    CatalogueRequest → State
  | .site request => siteStep libraries server s request
  | .deleteInventory session kitId location =>
      (deleteInventory server.engine session s kitId location).2

variable {libraries : Libraries} {server : Server}

private theorem kitInventory_kitStep (engine : Engine) (s : State) (call : KitCall) :
    (kitStep engine s call).db.kitInventory = s.db.kitInventory := by
  obtain ⟨session, request⟩ := call
  by_cases deletes : ∃ id, request = .deleteKit id
  · obtain ⟨id, rfl⟩ := deletes
    change (deleteKit session s id).2.db.kitInventory = _
    rcases deleteKit_cases session s id with ⟨-, -, kept⟩ | ⟨-, deleted⟩
    · rw [kept]
    · rw [deleted]
      rfl
  · obtain ⟨_, _, _, _, _, _, after⟩ :=
      kitStep_frame engine s session request fun id same => deletes ⟨id, same⟩
    rw [after]

/-- No request of any kind writes the table that the search joins. -/
private theorem kitInventory_step (s : State) (request : CatalogueRequest) :
    (catalogueStep libraries server s request).db.kitInventory = s.db.kitInventory := by
  cases request with
  | deleteInventory session kitId location =>
      change (deleteInventory server.engine session s kitId location).2.db.kitInventory = _
      unfold deleteInventory adminRequired
      split
      · rfl
      · split
        · split <;> rfl
        · rfl
  | site request =>
      cases request with
      | account session request =>
          obtain ⟨_, _, _, after⟩ := @handle_frame libraries server.engine session s request
          rw [catalogueStep, siteStep, after]
      | stock request =>
          obtain ⟨_, _, _, _, after⟩ := step_frame server s request
          rw [catalogueStep, siteStep, after]
      | cart call =>
          obtain ⟨_, after⟩ := cartStep_frame server.engine s call
          rw [catalogueStep, siteStep, after]
          rfl
      | personal call =>
          obtain ⟨_, _, _, _, _, _, _, after⟩ := (personalStep_frame server s call).writes
          rw [catalogueStep, siteStep, after]
      | kit call => exact kitInventory_kitStep server.engine s call

private theorem kitInventory_run {s : State} (unlinked : s.db.kitInventory = [])
    (requests : List CatalogueRequest) :
    (run (catalogueStep libraries server) s requests).db.kitInventory = [] := by
  have keeps : ∀ (t : State) (request : CatalogueRequest), t.db.kitInventory = [] →
      (catalogueStep libraries server t request).db.kitInventory = [] := by
    intro t request empty
    rw [kitInventory_step, empty]
  exact (along_of_kept keeps unlinked requests).finish

end Reachable

section Terms

/-- One text is in the other, whatever the case of the letters. -/
def Contains (text part : String) : Prop := (lower part).toList <:+: (lower text).toList

instance (text part : String) : Decidable (Contains text part) :=
  inferInstanceAs (Decidable ((lower part).toList <:+: (lower text).toList))

/-- A text without the wildcards of LIKE. -/
def PlainText (text : String) : Prop := '%' ∉ text.toList ∧ '_' ∉ text.toList

private theorem toLower_ne {c d : Char} (below : d.toNat < 97) (other : c ≠ d) : c.toLower ≠ d := by
  unfold Char.toLower
  split
  · rename_i upper
    have low : 65 ≤ c.val.toNat := upper.1
    have high : c.val.toNat ≤ 90 := upper.2
    have shifted : (c.val + ('a'.val - 'A'.val)).toNat = c.val.toNat + 32 := by
      have distance : ('a'.val - 'A'.val).toNat = 32 := rfl
      rw [UInt32.toNat_add, distance]
      omega
    intro same
    have value : (c.val + ('a'.val - 'A'.val)).toNat = d.toNat := congrArg Char.toNat same
    omega
  · exact other

/-- Lower-casing makes no wildcard of another character. -/
private theorem notMem_lower {text : String} {d : Char} (below : d.toNat < 97)
    (absent : d ∉ text.toList) :
    d ∉ (lower text).toList := by
  rw [lower, String.toList_ofList, List.mem_map]
  rintro ⟨c, member, same⟩
  refine toLower_ne below ?_ same
  rintro rfl
  exact absent member

private theorem like_append_iff {part : List Char} (percent : '%' ∉ part) (underscore : '_' ∉ part)
    (text : List Char) : like (part ++ ['%']) text = true ↔ part <+: text := by
  induction part generalizing text with
  | nil =>
      simp only [List.nil_append, like, if_true, List.any_eq_true, List.nil_prefix, iff_true]
      exact ⟨[], (List.mem_tails _ _).mpr List.nil_suffix, rfl⟩
  | cons c part ih =>
      rw [List.mem_cons, not_or] at percent underscore
      cases text with
      | nil => simp [like, Ne.symm percent.1]
      | cons d text =>
          simp [like, Ne.symm percent.1, Ne.symm underscore.1, ih percent.2 underscore.2,
            List.cons_prefix_cons]

private theorem like_contains_iff {part : List Char} (percent : '%' ∉ part)
    (underscore : '_' ∉ part)
    (text : List Char) : like ('%' :: (part ++ ['%'])) text = true ↔ part <:+: text := by
  have tails : like ('%' :: (part ++ ['%'])) text = text.tails.any (like (part ++ ['%'])) := by
    cases text <;> simp [like]
  rw [tails, List.any_eq_true]
  simp only [like_append_iff percent underscore, List.mem_tails]
  constructor
  · rintro ⟨rest, tail, head⟩
    exact head.isInfix.trans tail.isInfix
  · rintro ⟨before, after, rfl⟩
    exact ⟨part ++ after, ⟨before, by simp⟩, List.prefix_append _ _⟩

private theorem ilike_iff {part : String} (plain : PlainText part) (text : String) :
    ilike text ("%" ++ part ++ "%") = true ↔ Contains text part := by
  have pattern : (lower ("%" ++ part ++ "%")).toList = '%' :: ((lower part).toList ++ ['%']) := by
    simp [lower]
  rw [ilike, pattern, Contains]
  exact like_contains_iff (notMem_lower (by decide) plain.1) (notMem_lower (by decide) plain.2) _

/-- What a search finds when the table is filled: a kit that is linked with anything, and that
has the text itself or is tried with a row, of any kit, that has it in its address. -/
theorem foundBy_iff {db : Database} {text : String} (plain : PlainText text) (kit : Kit) :
    FoundBy db (some text) kit ↔ (∃ link ∈ db.kitInventory, link.1 = kit.id) ∧
      ∃ inv ∈ db.inventory.rows, Contains kit.name text ∨ Contains kit.description text ∨
        Contains inv.location text := by
  simp only [FoundBy, Option.some.injEq, forall_eq', searchTerm, Bool.or_eq_true,
    ilike_iff plain, or_assoc]

end Terms

section Searching

variable {platform : Platform} {db : Database} {itemsPerPage : Nat} {sortBy sortDir text : String}

/-- The kit has the text in its name or its description, or an inventory of it has the text in
its address. -/
def Matches (db : Database) (text : String) (kit : Kit) : Prop :=
  kit ∈ db.kits.rows ∧ (Contains kit.name text ∨ Contains kit.description text ∨
    ∃ inv ∈ db.inventory.rows, inv.kitId = kit.id ∧ Contains inv.location text)

private theorem not_obtained_of_unlinked (unlinked : db.kitInventory = []) (nonempty : text ≠ "")
    (kit : Kit) :
    ¬ Obtained platform db (.opened itemsPerPage sortBy sortDir text) kit := by
  rintro ⟨number, shown⟩
  have sent : (charactersQuery (defaultFilters itemsPerPage sortBy sortDir text) 0).nonempty
      "search" = some text := by
    have given : (charactersQuery (defaultFilters itemsPerPage sortBy sortDir text) 0).get
        "search" = some text := rfl
    rw [Query.nonempty, given]
    exact Option.filter_some_pos (decide_eq_true nonempty)
  rw [characters_eq_pageOf] at shown
  have member : kit ∈ listed platform db (defaultFilters itemsPerPage sortBy sortDir text) := by
    cases number with
    | zero => cases shown
    | succ before => exact List.mem_of_mem_drop (List.mem_of_mem_take shown)
  unfold listed at member
  split at member
  · cases member
  · obtain ⟨found, -⟩ := (lists_selectedKits.members kit).mp member
    rw [sent] at found
    obtain ⟨⟨link, present, -⟩, -⟩ := found text rfl
    rw [unlinked] at present
    cases present

end Searching

/-- In every state that is reached from one without links, a search shows exactly the kits that
match it, over all its pages, if and only if no kit matches it. -/
theorem search_exact_iff (platform : Platform) (libraries : Libraries) (server : Server)
    (s : State) (unlinked : s.db.kitInventory = []) (requests : List CatalogueRequest)
    (itemsPerPage : Nat) (sortBy sortDir text : String) (nonempty : text ≠ "") :
    (∀ kit, Obtained platform (run (catalogueStep libraries server) s requests).db
          (.opened itemsPerPage sortBy sortDir text) kit ↔
        Matches (run (catalogueStep libraries server) s requests).db text kit) ↔
      ∀ kit, ¬ Matches (run (catalogueStep libraries server) s requests).db text kit := by
  have nothing : ∀ kit, ¬ Obtained platform (run (catalogueStep libraries server) s requests).db
      (.opened itemsPerPage sortBy sortDir text) kit :=
    not_obtained_of_unlinked (kitInventory_run unlinked requests) nonempty
  constructor
  · intro same kit matched
    exact nothing kit ((same kit).mpr matched)
  · intro unmatched kit
    exact iff_of_false (nothing kit) (unmatched kit)

/-- Nothing in the sample shop has to do with a harbour, and a search for one shows nothing. -/
theorem search_for_a_harbour :
    (∀ kit, ¬ Matches (run (catalogueStep plainLibraries sampleServer) (shelfOnly 3) []).db
        "harbour" kit) ∧
      ∀ kit, Obtained plainPlatform
          (run (catalogueStep plainLibraries sampleServer) (shelfOnly 3) []).db
          (.opened 12 "name" "asc" "harbour") kit ↔
        Matches (run (catalogueStep plainLibraries sampleServer) (shelfOnly 3) []).db
          "harbour" kit := by
  have unmatched : ∀ kit,
      ¬ Matches (run (catalogueStep plainLibraries sampleServer) (shelfOnly 3) []).db
        "harbour" kit := by
    rintro kit ⟨stored, matched⟩
    rw [List.mem_singleton.mp stored] at matched
    rcases matched with named | described | ⟨inv, present, -, placed⟩
    · exact absurd named (by decide)
    · exact absurd described (by decide)
    · rw [List.mem_singleton.mp present] at placed
      exact absurd placed (by decide)
  refine ⟨unmatched, ?_⟩
  exact (search_exact_iff plainPlatform plainLibraries sampleServer (shelfOnly 3) rfl [] 12
    "name" "asc" "harbour" (by decide)).mpr unmatched

section Samples

/-- A shop with its users, and without any kits yet. -/
def openedShop : State :=
  { sampleShop .empty .empty with db := { (sampleShop .empty .empty).db with kits := .empty } }

def sandTrayBody : KitBody :=
  ⟨.value "Sand tray", .value "/tray.png", .value 10, .value "A tray of sand", .absent, .absent,
    .absent, .absent, .absent⟩

def createSandTray : CatalogueRequest := .site (.kit ⟨administrator, .createKit sandTrayBody⟩)

end Samples

/-- An administrator creates the sand tray, and a search for sand does not show it. -/
theorem created_tray_is_not_found :
    Matches (run (catalogueStep plainLibraries sampleServer) openedShop [createSandTray]).db "sand"
        sandTray ∧
      ¬ Obtained plainPlatform
        (run (catalogueStep plainLibraries sampleServer) openedShop [createSandTray]).db
        (.opened 12 "name" "asc" "sand") sandTray := by
  refine ⟨⟨List.mem_singleton_self _, Or.inl (by decide)⟩, ?_⟩
  exact not_obtained_of_unlinked (kitInventory_run rfl [createSandTray]) (by decide) sandTray

end ProductSite.Browse.Search
