/- Module: ProductSite/Personal/Newsletter
   source: backend/app/routes/newsletter_routes.py, backend/app/models/newsletter.py
   digest: Concurrent requests keep one row an e-mail iff every insert and delete is in time. -/

import ProductSite.Backend.NewsletterRoutes

set_option autoImplicit false
set_option relaxedAutoImplicit false

namespace ProductSite.Personal.Newsletter

open ProductSite.Foundation.CheckThenAct
open ProductSite.Foundation.Clashes (Adds Apart adds_insertNew)
open ProductSite.Foundation.KeyedTable (Table)
open ProductSite.Foundation.Runs
open ProductSite.Foundation.Wire (JsonField)
open ProductSite.Backend.Models
open ProductSite.Backend.NewsletterRoutes

/-- The engine finds at most one row for an e-mail. -/
def OneRowEach (engine : Engine) (table : Table Newsletter.id) : Prop :=
  ∀ email, ∀ row ∈ table.rows, ∀ other ∈ table.rows,
    engine.sameText row.email email = true → engine.sameText other.email email = true →
      row = other

variable {engine : Engine}

private theorem oneRowEach_iff (admits : NewsletterValue → Bool) {table : Table Newsletter.id} :
    OneRowEach engine table ↔ Apart (Clash (newsletters engine admits)) table := by
  constructor
  · rintro one row member other present ⟨email, first, second⟩
    exact one email row member other present first second
  · intro apart email row member other present first second
    exact apart row member other present ⟨email, first, second⟩

section InTurn

/-- A request that is handled as a whole. -/
inductive NewsletterRequest where
  | subscribe (body : SubscribeBody)
  | unsubscribe (email : JsonField String)

def newsletterStep (engine : Engine) (admits : NewsletterValue → Bool)
    (table : Table Newsletter.id) : NewsletterRequest → Table Newsletter.id
  | .subscribe body => (subscribe engine admits table body).2
  | .unsubscribe email => (unsubscribe engine table email).2

/-- Texts that a collation identifies with a common one are identified with each other. -/
def Collates (engine : Engine) : Prop :=
  ∀ first second common, engine.sameText first common = true →
    engine.sameText second common = true → engine.sameText first second = true

private theorem oneRowEach_insert (admits : NewsletterValue → Bool) (collates : Collates engine)
    {table : Table Newsletter.id} (one : OneRowEach engine table) {email : String}
    (free : findEntry engine table email = none)
    (value : NewsletterValue) :
    OneRowEach engine (table.insertNew (fun id => ⟨id, email, value⟩) (fun _ => rfl)) := by
  have apart := (oneRowEach_iff admits).mp one
  have adds : Adds table (table.insertNew (fun id => ⟨id, email, value⟩) (fun _ => rfl))
      ⟨table.nextKey, email, value⟩ := adds_insertNew (fun _ => rfl)
  refine (oneRowEach_iff admits).mpr ((adds.apart_iff Clash.symm apart).mpr ?_)
  rintro row member ⟨common, first, second⟩
  have found := collates row.email email common first second
  exact absurd found (List.find?_eq_none.mp free row member)

/-- Handled one after the other, the requests never leave two rows for an e-mail. -/
theorem in_turn_one_row_each (admits : NewsletterValue → Bool) (collates : Collates engine)
    {table : Table Newsletter.id} (one : OneRowEach engine table)
    (requests : List NewsletterRequest) :
    Along (newsletterStep engine admits) (OneRowEach engine) table requests := by
  refine along_of_kept ?_ one requests
  intro before request kept
  cases request with
  | subscribe body =>
      change OneRowEach engine (subscribe engine admits before body).2
      unfold subscribe
      split
      · exact kept
      · split
        · exact kept
        · rename_i free
          split
          · exact oneRowEach_insert admits collates kept free _
          · exact kept
  | unsubscribe email =>
      change OneRowEach engine (unsubscribe engine before email).2
      unfold unsubscribe
      split
      · exact kept
      · exact (oneRowEach_iff admits).mpr (((oneRowEach_iff admits).mp kept).remove _)

end InTurn

section Schedules

variable {ι : Type}

/-- One row at most for an e-mail, and none for an e-mail that was unsubscribed and for which
no row was inserted since. -/
def Effective (engine : Engine) (s : System ι String Newsletter.id) : Prop :=
  OneRowEach engine s.table ∧
    ∀ email ∈ s.withdrawn, ∀ row ∈ s.table.rows, engine.sameText row.email email = false

/-- An insert finds no row that would be found together with the new one, and a delete finds no
row for its e-mail but the one that was looked up. -/
def ActsInTime (engine : Engine) (admits : NewsletterValue → Bool)
    (requests : ι → Task String NewsletterValue) (s : System ι String Newsletter.id) :
    Message ι → Prop
  | .lookup _ => True
  | .act worker =>
      match s.phase worker, requests worker with
      | .cleared, .enrol email value =>
          admits value = true → ∀ row ∈ s.table.rows,
            ¬ ∃ common, engine.sameText row.email common = true ∧
              engine.sameText email common = true
      | .holding id, .withdraw email =>
          ∀ row ∈ s.table.rows, engine.sameText row.email email = true → row.id = id
      | _, _ => True

private theorem effective_iff (admits : NewsletterValue → Bool)
    (s : System ι String Newsletter.id) :
    Effective engine s ↔ Sound (newsletters engine admits) s := by
  rw [Effective, oneRowEach_iff admits]
  exact ⟨fun both => ⟨both.1, both.2⟩, fun sound => ⟨sound.one, sound.absent⟩⟩

private theorem actsInTime_iff (admits : NewsletterValue → Bool)
    (requests : ι → Task String NewsletterValue) (s : System ι String Newsletter.id)
    (message : Message ι) :
    ActsInTime engine admits requests s message ↔
      Current (newsletters engine admits) requests s message := by
  cases message with
  | lookup worker => exact Iff.rfl
  | act worker =>
      cases phase : s.phase worker <;> cases asked : requests worker <;>
        simp only [ActsInTime, Current, phase, asked] <;> exact Iff.rfl

/-- However many requests there are and however their messages interleave, unsubscribing stays
effective precisely if every insert and every delete acts in time. -/
theorem unsubscribing_effective_iff [DecidableEq ι] (engine : Engine)
    (admits : NewsletterValue → Bool) (requests : ι → Task String NewsletterValue)
    (table : Table Newsletter.id)
    (one : OneRowEach engine table) (messages : List (Message ι)) :
    Along (serve (newsletters engine admits) requests) (Effective engine)
        (System.fresh table) messages ↔
      EachStep (serve (newsletters engine admits) requests) (ActsInTime engine admits requests)
        (System.fresh table) messages := by
  have apart := (oneRowEach_iff admits).mp one
  rw [along_congr (effective_iff admits), eachStep_congr (actsInTime_iff admits requests)]
  exact sound_along_iff apart messages

end Schedules

section Samples

/-- Ann subscribes in two tabs and then unsubscribes. -/
def annsRequests : Fin 3 → Task String NewsletterValue
  | 0 => .enrol "ann@mail.com" (.text "general")
  | 1 => .enrol "ann@mail.com" (.text "general")
  | 2 => .withdraw "ann@mail.com"

def annsService (messages : List (Message (Fin 3))) : System (Fin 3) String Newsletter.id :=
  run (serve (newsletters .sqlite (fun _ => true)) annsRequests) (System.fresh .empty) messages

end Samples

/-- Served one after the other, the second tab is refused and the unsubscription is effective. -/
theorem tabs_in_turn :
    Effective .sqlite
      (annsService [.lookup 0, .act 0, .lookup 1, .act 1, .lookup 2, .act 2]) := by
  have one : OneRowEach .sqlite .empty := by
    rintro _ _ ⟨⟩
  refine ((unsubscribing_effective_iff .sqlite (fun _ => true) annsRequests .empty one _).mpr
    ?_).finish
  simp only [eachStep_cons, eachStep_nil, and_true]
  refine ⟨trivial, ?_, trivial, trivial, trivial, ?_⟩
  · rintro _ _ ⟨⟩
  · change ∀ row ∈ [(⟨1, "ann@mail.com", .text "general"⟩ : Newsletter)], _ → row.id = 1
    intro row member _
    rw [List.mem_singleton.mp member]

/-- Both tabs look up before either inserts. One of the two rows survives the unsubscription,
although it is answered with success and nothing is inserted after it. -/
theorem both_tabs_insert :
    (annsService [.lookup 0, .lookup 1, .act 0, .act 1]).table.rows =
        [⟨1, "ann@mail.com", .text "general"⟩, ⟨2, "ann@mail.com", .text "general"⟩] ∧
      (annsService [.lookup 0, .lookup 1, .act 0, .act 1, .lookup 2, .act 2]).phase 2 = .done ∧
      (annsService [.lookup 0, .lookup 1, .act 0, .act 1, .lookup 2, .act 2]).withdrawn =
        ["ann@mail.com"] ∧
      (annsService [.lookup 0, .lookup 1, .act 0, .act 1, .lookup 2, .act 2]).table.rows =
        [⟨2, "ann@mail.com", .text "general"⟩] ∧
      ¬ Effective .sqlite (annsService [.lookup 0, .lookup 1, .act 0, .act 1]) ∧
      ¬ Effective .sqlite
        (annsService [.lookup 0, .lookup 1, .act 0, .act 1, .lookup 2, .act 2]) := by
  have twice : (annsService [.lookup 0, .lookup 1, .act 0, .act 1]).table.rows =
      [⟨1, "ann@mail.com", .text "general"⟩, ⟨2, "ann@mail.com", .text "general"⟩] := by decide
  have left : (annsService
      [.lookup 0, .lookup 1, .act 0, .act 1, .lookup 2, .act 2]).table.rows =
      [⟨2, "ann@mail.com", .text "general"⟩] := by decide
  refine ⟨twice, by decide, by decide, left, ?_, ?_⟩
  · rintro ⟨one, -⟩
    have same := one "ann@mail.com" ⟨1, "ann@mail.com", .text "general"⟩ (by rw [twice]; simp)
      ⟨2, "ann@mail.com", .text "general"⟩ (by rw [twice]; simp) (by decide) (by decide)
    cases same
  · rintro ⟨-, absent⟩
    have unlisted := absent "ann@mail.com" (by decide) ⟨2, "ann@mail.com", .text "general"⟩
      (by rw [left]; simp)
    cases unlisted

end ProductSite.Personal.Newsletter
