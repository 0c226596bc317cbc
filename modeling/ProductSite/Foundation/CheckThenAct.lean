/- Module: ProductSite/Foundation/CheckThenAct
   digest: Workers that look a name up and then insert under it, or delete the row they found. -/

import Mathlib.Logic.Function.Basic
import ProductSite.Foundation.Clashes
import ProductSite.Foundation.Runs

set_option autoImplicit false
set_option relaxedAutoImplicit false

namespace ProductSite.Foundation.CheckThenAct

open ProductSite.Foundation.Clashes (Adds Apart adds_insertNew)
open ProductSite.Foundation.KeyedTable (Table)
open ProductSite.Foundation.Runs (Along EachStep along_iff_eachStep_of_law)

/-- Rows that are found under names and made from a name and a value, if the table admits
the value. -/
structure Registry (ρ η β : Type) (key : ρ → Nat) where
  found : ρ → η → Bool
  make : η → β → Nat → ρ
  keyed : ∀ name value k, key (make name value k) = k
  admits : β → Bool

inductive Task (η β : Type) where
  | enrol (name : η) (value : β)
  | withdraw (name : η)

/-- How far a worker has come: it has sent nothing, it has found the name free, it holds the
key of the row that it found, or it has ended in one of three ways. -/
inductive Phase where
  | waiting
  | cleared
  | holding (id : Nat)
  | refused
  | failed
  | done
  deriving DecidableEq

inductive Message (ι : Type) where
  | lookup (worker : ι)
  | act (worker : ι)
  deriving DecidableEq

/-- The table, the workers, and the names that were withdrawn with no row made for them since. -/
structure System (ι η : Type) {ρ : Type} (key : ρ → Nat) where
  table : Table key
  phase : ι → Phase
  withdrawn : List η

variable {ι ρ η β : Type} {key : ρ → Nat}

def System.fresh (table : Table key) : System ι η key := ⟨table, fun _ => .waiting, []⟩

def System.enter [DecidableEq ι] (s : System ι η key) (worker : ι) (phase : Phase) :
    System ι η key :=
  { s with phase := Function.update s.phase worker phase }

variable (registry : Registry ρ η β key)

def Registry.find (table : Table key) (name : η) : Option ρ :=
  table.first (fun row => registry.found row name)

def Registry.enrol (s : System ι η key) (name : η) (value : β) : System ι η key :=
  { s with
    table := s.table.insertNew (registry.make name value) (registry.keyed name value)
    withdrawn := s.withdrawn.filter
      (fun other => !registry.found (registry.make name value s.table.nextKey) other) }

def withdraw (s : System ι η key) (name : η) (id : Nat) : System ι η key :=
  { s with
    table := s.table.remove (fun row => key row = id)
    withdrawn := name :: s.withdrawn }

/-- What a worker makes of its lookup. -/
def Registry.answer (table : Table key) : Task η β → Phase
  | .enrol name _ => if (registry.find table name).isSome then .refused else .cleared
  | .withdraw name =>
      match registry.find table name with
      | none => .refused
      | some row => .holding (key row)

/-- The store serves one message; nothing locks the table between the two of a worker. -/
def serve [DecidableEq ι] (task : ι → Task η β) (s : System ι η key) :
    Message ι → System ι η key
  | .lookup worker =>
      match s.phase worker with
      | .waiting => s.enter worker (registry.answer s.table (task worker))
      | _ => s
  | .act worker =>
      match s.phase worker, task worker with
      | .cleared, .enrol name value =>
          if registry.admits value then (registry.enrol s name value).enter worker .done
          else s.enter worker .failed
      -- the row may be gone already, or another one may have come
      | .holding id, .withdraw name => (withdraw s name id).enter worker .done
      | _, _ => s

/-- Two rows that are found under one name. -/
def Clash (row other : ρ) : Prop :=
  ∃ name, registry.found row name = true ∧ registry.found other name = true

/-- No name finds two rows, and a withdrawn name finds none. -/
structure Sound (s : System ι η key) : Prop where
  one : Apart (Clash registry) s.table
  absent : ∀ name ∈ s.withdrawn, ∀ row ∈ s.table.rows, registry.found row name = false

/-- A message acts on what its worker looked up: a row that is made clashes with none, and no
row but the one to be deleted is found under the name to be withdrawn. -/
def Current (task : ι → Task η β) (s : System ι η key) : Message ι → Prop
  | .lookup _ => True
  | .act worker =>
      match s.phase worker, task worker with
      | .cleared, .enrol name value =>
          registry.admits value = true →
            ∀ row ∈ s.table.rows, ¬ Clash registry row (registry.make name value s.table.nextKey)
      | .holding id, .withdraw name =>
          ∀ row ∈ s.table.rows, registry.found row name = true → key row = id
      | _, _ => True

variable {registry} {task : ι → Task η β}

theorem Clash.symm {row other : ρ} (clash : Clash registry row other) :
    Clash registry other row := by
  obtain ⟨name, first, second⟩ := clash
  exact ⟨name, second, first⟩

@[simp] theorem enter_phase [DecidableEq ι] (s : System ι η key) (worker : ι) (phase : Phase) :
    (s.enter worker phase).phase worker = phase :=
  Function.update_self ..

theorem serve_lookup [DecidableEq ι] {s : System ι η key} {worker : ι}
    (waiting : s.phase worker = .waiting) :
    serve registry task s (.lookup worker) =
      s.enter worker (registry.answer s.table (task worker)) := by
  simp only [serve, waiting]

/-- Everything that a message can do to the table and to the withdrawn names. -/
theorem serve_cases [DecidableEq ι] (s : System ι η key) (message : Message ι) :
    (Current registry task s message ∧ (serve registry task s message).table = s.table ∧
      (serve registry task s message).withdrawn = s.withdrawn) ∨
    (∃ worker name value, message = .act worker ∧ s.phase worker = .cleared ∧
      task worker = .enrol name value ∧ registry.admits value = true ∧
      serve registry task s message = (registry.enrol s name value).enter worker .done) ∨
    ∃ worker name id, message = .act worker ∧ s.phase worker = .holding id ∧
      task worker = .withdraw name ∧
      serve registry task s message = (withdraw s name id).enter worker .done := by
  cases message with
  | lookup worker =>
      refine Or.inl ⟨trivial, ?_⟩
      cases phase : s.phase worker with
      | waiting =>
          simp only [serve, phase]
          exact ⟨rfl, rfl⟩
      | _ => simp [serve, phase]
  | act worker =>
      cases phase : s.phase worker with
      | cleared =>
          cases asked : task worker with
          | enrol name value =>
              by_cases admitted : registry.admits value = true
              · refine Or.inr (Or.inl ⟨worker, name, value, rfl, phase, asked, admitted, ?_⟩)
                simp only [serve, phase, asked, admitted, if_true]
              · refine Or.inl ⟨?_, ?_⟩
                · simp only [Current, phase, asked]
                  exact fun admits => absurd admits admitted
                · simp only [serve, phase, asked, admitted]
                  exact ⟨rfl, rfl⟩
          | withdraw name => simp [Current, serve, phase, asked]
      | holding id =>
          cases asked : task worker with
          | enrol name value => simp [Current, serve, phase, asked]
          | withdraw name =>
              refine Or.inr (Or.inr ⟨worker, name, id, rfl, phase, asked, ?_⟩)
              simp only [serve, phase, asked]
      | waiting => simp [Current, serve, phase]
      | refused => simp [Current, serve, phase]
      | failed => simp [Current, serve, phase]
      | done => simp [Current, serve, phase]

theorem sound_enrol_iff {s : System ι η key} (sound : Sound registry s) (name : η) (value : β) :
    Sound registry (registry.enrol s name value) ↔
      ∀ row ∈ s.table.rows, ¬ Clash registry row (registry.make name value s.table.nextKey) := by
  have adds : Adds s.table (registry.enrol s name value).table
      (registry.make name value s.table.nextKey) := adds_insertNew (registry.keyed name value)
  have apart := adds.apart_iff Clash.symm sound.one
  refine ⟨fun after => apart.mp after.one, fun free => ⟨apart.mpr free, ?_⟩⟩
  intro other listed row member
  obtain ⟨before, missed⟩ := List.mem_filter.mp listed
  rcases (adds.members row).mp member with old | rfl
  · exact sound.absent other before row old
  · rw [Bool.not_eq_true'] at missed
    exact missed

theorem sound_withdraw_iff {s : System ι η key} (sound : Sound registry s) (name : η) (id : Nat) :
    Sound registry (withdraw s name id) ↔
      ∀ row ∈ s.table.rows, registry.found row name = true → key row = id := by
  have members : ∀ row, row ∈ (withdraw s name id).table.rows ↔
      row ∈ s.table.rows ∧ key row ≠ id := by
    intro row
    rw [withdraw, Table.mem_remove, decide_eq_false_iff_not]
  constructor
  · intro after row member finds
    by_contra other
    have missed := after.absent name List.mem_cons_self row ((members row).mpr ⟨member, other⟩)
    rw [finds] at missed
    cases missed
  · intro only
    refine ⟨sound.one.remove _, ?_⟩
    intro other listed row member
    obtain ⟨old, elsewhere⟩ := (members row).mp member
    rcases List.mem_cons.mp listed with rfl | before
    · by_contra finds
      exact elsewhere (only row old (Bool.not_eq_false _ ▸ finds))
    · exact sound.absent other before row old

/-- A message keeps the registry sound precisely if it acts on what its worker looked up. -/
theorem sound_serve_iff [DecidableEq ι] (s : System ι η key) (message : Message ι)
    (sound : Sound registry s) :
    Sound registry (serve registry task s message) ↔ Current registry task s message := by
  rcases serve_cases s message with ⟨current, table, withdrawn⟩ |
    ⟨worker, name, value, rfl, phase, asked, admitted, next⟩ |
    ⟨worker, name, id, rfl, phase, asked, next⟩
  · refine iff_of_true ⟨?_, ?_⟩ current
    · rw [table]
      exact sound.one
    · rw [table, withdrawn]
      exact sound.absent
  · have entered : Sound registry (serve registry task s (.act worker)) ↔
        Sound registry (registry.enrol s name value) := by
      rw [next]
      exact ⟨fun after => ⟨after.one, after.absent⟩, fun after => ⟨after.one, after.absent⟩⟩
    rw [entered, sound_enrol_iff sound]
    simp only [Current, phase, asked, admitted, forall_const]
  · have entered : Sound registry (serve registry task s (.act worker)) ↔
        Sound registry (withdraw s name id) := by
      rw [next]
      exact ⟨fun after => ⟨after.one, after.absent⟩, fun after => ⟨after.one, after.absent⟩⟩
    rw [entered, sound_withdraw_iff sound]
    simp only [Current, phase, asked]

/-- Whatever the schedule, the registry stays sound precisely if every message of it acts on
what its worker looked up. -/
theorem sound_along_iff [DecidableEq ι] {table : Table key} (apart : Apart (Clash registry) table)
    (messages : List (Message ι)) :
    Along (serve registry task) (Sound registry) (System.fresh table) messages ↔
      EachStep (serve registry task) (Current registry task) (System.fresh table) messages := by
  have start : Sound registry (System.fresh table : System ι η key) :=
    ⟨apart, fun _ listed => nomatch listed⟩
  exact along_iff_eachStep_of_law sound_serve_iff start messages

end ProductSite.Foundation.CheckThenAct
