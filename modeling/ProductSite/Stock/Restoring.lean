/- Module: ProductSite/Stock/Restoring
   source: backend/app/routes/inventory_routes.py
   digest: Restoring creates no stock iff no request restores more than is outstanding. -/

import ProductSite.Stock.Ledger

set_option autoImplicit false
set_option relaxedAutoImplicit false

namespace ProductSite.Stock.Restoring

open ProductSite.Foundation.Balances
open ProductSite.Foundation.KeyedTable (Table)
open ProductSite.Foundation.Runs
open ProductSite.Foundation.Wire (JsonField)
open ProductSite.Backend.Models
open ProductSite.Backend.InventoryRoutes
open ProductSite.Backend.Requests
open ProductSite.Stock.Ledger

def AtLeastOne : LedgerRequest → Prop
  | .decrement _ body => ∀ quantity, body.quantity.get = some quantity → 1 ≤ quantity
  | _ => True

def totalDebited (server : Server) (s : State) (handled : List LedgerRequest) (row : Nat) : Int :=
  tally (ledgerStep server) (fun t request => debited server t request row) s handled

def totalCredited (server : Server) (s : State) (handled : List LedgerRequest) (row : Nat) : Int :=
  tally (ledgerStep server) (fun t request => credited t request row) s handled

/-- A restore request credits to no row more than is missing from its first quantity, that is
more than was debited from it and not yet restored. -/
def WithinOutstanding (first t : State) : LedgerRequest → Prop
  | .restore session items => ∀ row ∈ first.db.inventory.rows, ∀ held,
      t.stock row.id = some held →
        credited t (.restore session items) row.id ≤ row.quantity - held
  | _ => True

def NoneGained (first t : State) : Prop :=
  ∀ row ∈ first.db.inventory.rows, ∃ held, t.stock row.id = some held ∧ held ≤ row.quantity

/-- At every point of the run, no row was credited more than was debited from it, and none
exceeds its first quantity. -/
def RestoredWithinDebits (server : Server) (s : State) (requests : List LedgerRequest) : Prop :=
  ∀ handled, handled <+: requests → ∀ row ∈ s.db.inventory.rows,
    totalCredited server s handled row.id ≤ totalDebited server s handled row.id ∧
      ∃ held, (run (ledgerStep server) s handled).stock row.id = some held ∧ held ≤ row.quantity

section Steps

variable (server : Server)

private theorem stock_ledgerStep (t : State) (request : LedgerRequest) (row : Nat) :
    (ledgerStep server t request).stock row =
      (t.stock row).map (· + (credited t request row - debited server t request row)) := by
  unfold ledgerStep
  rw [stock_step]
  cases request with
  | decrement session body =>
      simp only [LedgerRequest.toRequest, posts, credited, debited]
      cases reservation server.engine session t.db body with
      | none => simp [reservedPosts]
      | some taken =>
          obtain ⟨user, inv, quantity⟩ := taken
          simp only [reservedPosts, postAll_cons, postAll_nil]
          rw [post_add]
          by_cases here : row = inv.id
          · simp [here]
          · simp [here]
  | purchase session stripe now body =>
      simp [LedgerRequest.toRequest, posts, credited, debited]
  | restore session items =>
      simp only [LedgerRequest.toRequest, posts, credited, debited]
      rw [postAll_credits]
      cases t.stock row with
      | none => rfl
      | some held => simp

/-- A row holds its first quantity, less all debits and plus all credits. -/
private theorem stock_run (s : State) (handled : List LedgerRequest) (row : Nat) :
    (run (ledgerStep server) s handled).stock row =
      (s.stock row).map
        (· + (totalCredited server s handled row - totalDebited server s handled row)) := by
  induction handled using List.reverseRecOn with
  | nil => simp [totalCredited, totalDebited]
  | append_singleton handled request ih =>
      rw [run_snoc, stock_ledgerStep, ih, Option.map_map]
      congr 1
      funext held
      simp only [Function.comp_apply, totalCredited, totalDebited, tally_snoc]
      omega

private theorem debited_nonneg {t : State} {request : LedgerRequest} (asked : AtLeastOne request)
    (row : Nat) : 0 ≤ debited server t request row := by
  cases request with
  | decrement session body =>
      simp only [debited]
      split
      · rename_i user inv quantity accepted
        have given := (reservation_found accepted).2
        have atLeast : 1 ≤ quantity := JsonField.getD_satisfies asked le_rfl given
        split
        · omega
        · exact le_rfl
      · exact le_rfl
  | purchase session stripe now body => exact le_rfl
  | restore session items => exact le_rfl

private theorem noneGained_step_iff {first t : State} {request : LedgerRequest}
    (before : NoneGained first t) (asked : AtLeastOne request) :
    NoneGained first (ledgerStep server t request) ↔ WithinOutstanding first t request := by
  have taking (nothing : ∀ row, credited t request row = 0) :
      NoneGained first (ledgerStep server t request) := by
    intro row member
    obtain ⟨held, found, bound⟩ := before row member
    have nonneg := debited_nonneg server (t := t) asked row.id
    refine ⟨held + (credited t request row.id - debited server t request row.id), ?_, ?_⟩
    · rw [stock_ledgerStep, found]
      rfl
    · rw [nothing row.id]
      omega
  cases request with
  | decrement session body => exact iff_of_true (taking (fun _ => rfl)) trivial
  | purchase session stripe now body => exact iff_of_true (taking (fun _ => rfl)) trivial
  | restore session items =>
      constructor
      · intro after row member held found
        obtain ⟨later, present, bound⟩ := after row member
        rw [stock_ledgerStep, found] at present
        have units : held + (credited t (.restore session items) row.id - 0) = later :=
          Option.some.inj present
        omega
      · intro within row member
        obtain ⟨held, found, -⟩ := before row member
        have bound := within row member held found
        refine ⟨held + credited t (.restore session items) row.id, ?_, by omega⟩
        rw [stock_ledgerStep, found]
        simp [debited]

end Steps

/-- In a run of decrements of at least one unit, purchases and restores, restoring creates no
stock precisely when every restore request stays within what is outstanding. -/
theorem restoredWithinDebits_iff (server : Server) (s : State) (requests : List LedgerRequest)
    (asked : ∀ request ∈ requests, AtLeastOne request) :
    RestoredWithinDebits server s requests ↔
      EachStep (ledgerStep server) (WithinOutstanding s) s requests := by
  have start : NoneGained s s := by
    intro row member
    exact ⟨row.quantity, stockOf_of_get? (Table.get?_of_mem member), le_rfl⟩
  rw [← along_iff_eachStep (fun t request => noneGained_step_iff server) start
    (eachStep_of_forall asked s)]
  constructor
  · intro law handled here row member
    exact (law handled here row member).2
  · intro law handled here row member
    obtain ⟨held, found, bound⟩ := law handled here row member
    refine ⟨?_, held, found, bound⟩
    have first : s.stock row.id = some row.quantity := stockOf_of_get? (Table.get?_of_mem member)
    rw [stock_run, first] at found
    have units : row.quantity + (totalCredited server s handled row.id -
        totalDebited server s handled row.id) = held := Option.some.inj found
    omega

/-- Five units are restored to a row from which nothing was taken. -/
theorem restoring_without_a_decrement :
    (run (ledgerStep sampleServer) (shelfOnly 3)
        [.restore customer (.value [⟨.value 1, .value 5⟩])]).stock 1 = some 8 ∧
      ¬ RestoredWithinDebits sampleServer (shelfOnly 3)
        [.restore customer (.value [⟨.value 1, .value 5⟩])] := by
  refine ⟨by decide, ?_⟩
  intro law
  have within := (law _ List.prefix_rfl (shelf 3) List.mem_cons_self).1
  revert within
  decide

theorem restoring_what_was_taken :
    RestoredWithinDebits sampleServer (shelfOnly 3)
      [.decrement customer ⟨.value "Library", .value 2, .value 1, .value "1 Main St"⟩,
        .restore customer (.value [⟨.value 1, .value 2⟩])] := by
  refine (restoredWithinDebits_iff sampleServer (shelfOnly 3) _ ?_).mpr ?_
  · intro request member
    simp only [List.mem_cons, List.not_mem_nil, or_false] at member
    rcases member with rfl | rfl
    · intro quantity named
      cases named
      decide
    · trivial
  · rw [eachStep_cons, eachStep_cons]
    refine ⟨trivial, ?_, eachStep_nil _ _⟩
    intro row member held found
    rw [List.mem_singleton.mp member] at found ⊢
    cases found
    decide

end ProductSite.Stock.Restoring
