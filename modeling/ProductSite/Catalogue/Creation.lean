/- Module: ProductSite/Catalogue/Creation
   source: backend/app/routes/kit_routes.py, backend/app/models/inventory.py
   digest: The two commits of a new kit are atomic iff the second has nothing to write. -/

import ProductSite.Backend.KitRoutes
import ProductSite.Backend.Requests

set_option autoImplicit false
set_option relaxedAutoImplicit false

namespace ProductSite.Catalogue.Creation

open ProductSite.Foundation.Wire (Reply)
open ProductSite.Backend.KitRoutes
open ProductSite.Backend.Models
open ProductSite.Backend.Requests (administrator shelfOnly)

/-- The row belongs to the kit and has the values of the entry. -/
def Describes (kit : Kit) (entry : InventoryData) (row : Inventory) : Prop :=
  row.kitId = kit.id ∧ entry.location = .value row.location ∧
    entry.locationName = .value row.locationName ∧ entry.quantity = .value row.quantity

/-- All or nothing: no row after a 400; after a 201 one kit, and one row for each entry that has
the three keys. -/
structure Atomic (before after : Database) (body : KitBody) (reply : Reply Kit) : Prop where
  refused : reply.status = 400 →
    after.kits.rows = before.kits.rows ∧ after.inventory.rows = before.inventory.rows
  created : reply.status = 201 → ∃ entries kit rows,
    body.inventories.getD [] = some entries ∧ after.kits.rows = before.kits.rows ++ [kit] ∧
      after.inventory.rows = before.inventory.rows ++ rows ∧
      List.Forall₂ (Describes kit) (entries.filter InventoryData.complete) rows

/-- The inventories of the body are a list, and no entry of it has all the keys. -/
def AddsNothing (body : KitBody) : Prop :=
  ∃ entries, body.inventories.getD [] = some entries ∧ ∀ entry ∈ entries, entry.complete = false

section Outcomes

variable {s : State} {body : KitBody}

private theorem addsNothing_iff {entries : List InventoryData}
    (given : body.inventories.getD [] = some entries) :
    AddsNothing body ↔ entries.any InventoryData.complete = false := by
  rw [List.any_eq_false]
  constructor
  · rintro ⟨others, same, incomplete⟩ entry member
    rw [given] at same
    cases same
    rw [incomplete entry member]
    exact Bool.false_ne_true
  · intro incomplete
    exact ⟨entries, given, fun entry member => Bool.eq_false_iff.mpr (incomplete entry member)⟩

private theorem atomic_unchanged {reply : Reply Kit} (refused : reply.status ≠ 201) :
    Atomic s.db s.db body reply :=
  ⟨fun _ => ⟨rfl, rfl⟩, fun created => absurd created refused⟩

private theorem stored_rows :
    (withKits s (s.db.kits.insertNew (newKit body s.db) (fun _ => rfl))).db.kits.rows =
      s.db.kits.rows ++ [newKit body s.db s.db.kits.nextKey] := rfl

/-- The kit of the first commit stays behind. -/
private theorem not_atomic_of_stored (message : String) :
    ¬ Atomic s.db (withKits s (s.db.kits.insertNew (newKit body s.db) (fun _ => rfl))).db body
      (.error 400 message []) := by
  intro atomic
  have same := (atomic.refused rfl).1
  rw [stored_rows] at same
  have length := congrArg List.length same
  simp at length

private theorem atomic_of_addsNothing (nothing : AddsNothing body) :
    Atomic s.db (withKits s (s.db.kits.insertNew (newKit body s.db) (fun _ => rfl))).db body
      (.ok 201 (newKit body s.db s.db.kits.nextKey)) := by
  obtain ⟨entries, given, incomplete⟩ := nothing
  refine ⟨fun refused => absurd refused (by simp [Reply.status]), fun _ => ?_⟩
  refine ⟨entries, _, [], given, stored_rows, (List.append_nil _).symm, ?_⟩
  have none : entries.filter InventoryData.complete = [] := by
    apply List.filter_eq_nil_iff.mpr
    intro entry member
    rw [incomplete entry member]
    exact Bool.false_ne_true
  rw [none]
  exact List.Forall₂.nil

end Outcomes

/-- A request for a new kit is answered all or nothing exactly if it is not the one of an
administrator, or its body is refused before the first commit, or no entry of its inventories is
complete. -/
theorem createKit_atomic_iff (session : Session) (s : State) (body : KitBody) :
    Atomic s.db (createKit session s body).2.db body
        (createKit session s body).1 ↔
      ((∀ user, session.user = some user → isAdmin s.db user = false) ∨
        (body.hasNull || !body.hasRequired) = true ∨ AddsNothing body) := by
  rcases admin_or_outside session s.db with ⟨user, login, role⟩ | outside
  · have inside : ¬ ∀ user, session.user = some user → isAdmin s.db user = false := by
      intro outside
      rw [outside user login] at role
      cases role
    rw [createKit_eq]
    unfold adminRequired
    simp only [login, role, if_true]
    rw [login] at inside
    cases loads : body.hasNull || !body.hasRequired with
    | true =>
        refine iff_of_true ?_ (Or.inr (Or.inl rfl))
        exact atomic_unchanged (by simp [Reply.status])
    | false =>
        simp only [Bool.false_eq_true, if_false, inside, false_or]
        cases given : body.inventories.getD [] with
        | none =>
            refine iff_of_false (not_atomic_of_stored _) ?_
            rintro ⟨entries, some, -⟩
            rw [given] at some
            cases some
        | some entries =>
            rw [addsNothing_iff given]
            cases any : entries.any InventoryData.complete with
            | true =>
                simp only [any, if_true]
                exact iff_of_false (not_atomic_of_stored _) (by decide)
            | false =>
                simp only [any, Bool.false_eq_true, if_false]
                exact iff_of_true (atomic_of_addsNothing ((addsNothing_iff given).mpr any)) trivial
  · obtain ⟨kept, failed⟩ : (createKit session s body).2 = s ∧
        (createKit session s body).1.fetchOk = false := adminRequired_refused outside
    refine iff_of_true ?_ (Or.inl outside)
    rw [kept]
    exact atomic_unchanged (Reply.status_ne_created failed)

/-- A second kit with five units on a shelf of the library. -/
def waterTable : KitBody :=
  ⟨.value "Water table", .value "/table.png", .value 20, .value "A table of water", .absent,
    .absent, .absent, .absent, .value [⟨.value "1 Main St", .value "Library", .value 5⟩]⟩

/-- The answer is 400, the kit is stored and its inventory is not. -/
theorem refused_kit_is_stored :
    (createKit administrator (shelfOnly 3) waterTable).1.status = 400 ∧
      (shelfOnly 3).db.kits.rows.length = 1 ∧
      (createKit administrator (shelfOnly 3) waterTable).2.db.kits.rows.length = 2 ∧
      (createKit administrator (shelfOnly 3) waterTable).2.db.inventory.rows =
        (shelfOnly 3).db.inventory.rows ∧
      ¬ Atomic (shelfOnly 3).db
        (createKit administrator (shelfOnly 3) waterTable).2.db waterTable
        (createKit administrator (shelfOnly 3) waterTable).1 := by
  refine ⟨rfl, rfl, rfl, rfl, ?_⟩
  exact not_atomic_of_stored _

end ProductSite.Catalogue.Creation
