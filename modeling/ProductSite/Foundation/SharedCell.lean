/- Module: ProductSite/Foundation/SharedCell
   digest: Workers that read a cell and write it back; updates survive iff no write is stale, and
     a schedule alone decides whose updates the cell carries. -/

import Mathlib.Algebra.BigOperators.Group.Finset.Basic
import Mathlib.Algebra.BigOperators.Group.Finset.Piecewise
import ProductSite.Foundation.Runs

set_option autoImplicit false
set_option relaxedAutoImplicit false

namespace ProductSite.Foundation.SharedCell

open ProductSite.Foundation.Runs
  (Along EachStep run run_snoc along_iff_eachStep along_of_eachStep along_of_kept)

/-- How far one worker has come: it has sent nothing, holds the value that it read and the
value that it computed from it, has given up after its read, or has written. -/
inductive Phase (V : Type) where
  | waiting
  | holding (seen next : V)
  | refused
  | written
  deriving DecidableEq

inductive Message (ι : Type) where
  | read (worker : ι)
  | write (worker : ι)
  deriving DecidableEq

structure System (ι V : Type) where
  cell : V
  phase : ι → Phase V

def System.fresh {ι V : Type} (cell : V) : System ι V := ⟨cell, fun _ => .waiting⟩

variable {ι V : Type} [DecidableEq ι] (compute : ι → V → Option V)

def System.enter (s : System ι V) (worker : ι) (phase : Phase V) (cell : V) : System ι V :=
  ⟨cell, Function.update s.phase worker phase⟩

/-- The store serves one message. A worker reads once and writes at most once, after its
read; nothing locks the cell in between. -/
def serve (s : System ι V) : Message ι → System ι V
  | .read worker =>
      match s.phase worker with
      | .waiting =>
          match compute worker s.cell with
          | none => s.enter worker .refused s.cell
          | some next => s.enter worker (.holding s.cell next) s.cell
      | _ => s
  | .write worker =>
      match s.phase worker with
      -- the absolute value computed earlier, whatever the cell holds by now
      | .holding _ next => s.enter worker .written next
      | _ => s

/-- A write finds the value from which its worker computed. -/
def NotStale (s : System ι V) : Message ι → Prop
  | .read _ => True
  | .write worker => ∀ seen next, s.phase worker = .holding seen next → s.cell = seen

/-- What a worker holds was computed from what it read. -/
def Computed (s : System ι V) : Prop :=
  ∀ worker seen next, s.phase worker = .holding seen next → compute worker seen = some next

variable {compute}

/-- Everything that serving a message can do. -/
private theorem serve_cases (s : System ι V) (message : Message ι) :
    (serve compute s message = s ∧ NotStale s message) ∨
      (∃ worker phase, message = .read worker ∧ s.phase worker = .waiting ∧ phase ≠ .written ∧
        (∀ seen next, phase = .holding seen next → compute worker seen = some next) ∧
        serve compute s message = s.enter worker phase s.cell) ∨
      ∃ worker seen next, message = .write worker ∧ s.phase worker = .holding seen next ∧
        serve compute s message = s.enter worker .written next := by
  cases message with
  | read worker =>
      cases phase : s.phase worker with
      | waiting =>
          refine Or.inr (Or.inl ?_)
          cases result : compute worker s.cell with
          | none =>
              exact ⟨worker, .refused, rfl, phase, by simp, by simp, by simp [serve, phase, result]⟩
          | some next =>
              refine ⟨worker, .holding s.cell next, rfl, phase, by simp, ?_,
                by simp [serve, phase, result]⟩
              rintro _ _ ⟨rfl, rfl⟩
              exact result
      | _ => exact Or.inl ⟨by simp [serve, phase], trivial⟩
  | write worker =>
      cases phase : s.phase worker with
      | holding seen next =>
          exact Or.inr (Or.inr ⟨worker, seen, next, rfl, phase, by simp [serve, phase]⟩)
      | _ => exact Or.inl ⟨by simp [serve, phase], by simp [NotStale, phase]⟩

private theorem computed_enter {s : System ι V} (before : Computed compute s) (worker : ι)
    {phase : Phase V} (cell : V)
    (entered : ∀ seen next, phase = .holding seen next → compute worker seen = some next) :
    Computed compute (s.enter worker phase cell) := by
  intro other seen next held
  change Function.update s.phase worker phase other = _ at held
  by_cases here : other = worker
  · subst here
    rw [Function.update_self] at held
    exact entered seen next held
  · rw [Function.update_of_ne here] at held
    exact before other seen next held

private theorem computed_serve (s : System ι V) (message : Message ι)
    (before : Computed compute s) : Computed compute (serve compute s message) := by
  rcases serve_cases s message with ⟨same, -⟩ | ⟨worker, phase, -, -, -, entered, next⟩ |
    ⟨worker, seen, value, -, -, next⟩
  · rw [same]
    exact before
  · rw [next]
    exact computed_enter before worker s.cell entered
  · rw [next]
    exact computed_enter before worker value (by simp)

theorem computed_along (cell : V) (messages : List (Message ι)) :
    Along (serve compute) (Computed compute) (System.fresh cell) messages := by
  have start : Computed compute (System.fresh cell : System ι V) := by
    intro worker seen next held
    cases held
  exact along_of_kept computed_serve start messages

section Sums

variable [Fintype ι] [AddCommGroup V] [DecidableEq V]

/-- What the workers that have written were to add to the cell. -/
def contributed (delta : ι → V) (s : System ι V) : V :=
  ∑ worker with s.phase worker = .written, delta worker

private theorem contributed_enter (delta : ι → V) (s : System ι V) (worker : ι)
    (phase : Phase V) (cell : V) (pending : s.phase worker ≠ .written) :
    contributed delta (s.enter worker phase cell) =
      contributed delta s + if phase = .written then delta worker else 0 := by
  have split (t : System ι V) : contributed delta t =
      (if t.phase worker = .written then delta worker else 0) +
        ∑ i ∈ Finset.univ.erase worker, if t.phase i = .written then delta i else 0 := by
    rw [contributed, Finset.sum_filter]
    exact (Finset.add_sum_erase _ _ (Finset.mem_univ worker)).symm
  have here : (s.enter worker phase cell).phase worker = phase := Function.update_self ..
  have others : ∀ i ∈ Finset.univ.erase worker,
      (if (s.enter worker phase cell).phase i = .written then delta i else 0) =
        if s.phase i = .written then delta i else 0 := by
    intro i member
    have kept : (s.enter worker phase cell).phase i = s.phase i :=
      Function.update_of_ne (Finset.ne_of_mem_erase member) ..
    rw [kept]
  rw [split s, split (s.enter worker phase cell), here, Finset.sum_congr rfl others,
    if_neg pending, zero_add, add_comm]

/-- The cell holds its first value and everything that the finished workers were to add. -/
def NothingLost (delta : ι → V) (first : V) (s : System ι V) : Prop :=
  s.cell = first + contributed delta s

variable {delta : ι → V}

private theorem nothingLost_serve_iff
    (adds : ∀ worker seen next, compute worker seen = some next → next = seen + delta worker)
    {first : V} (s : System ι V) (message : Message ι) (before : NothingLost delta first s)
    (computed : Computed compute s) :
    NothingLost delta first (serve compute s message) ↔ NotStale s message := by
  rcases serve_cases s message with ⟨same, current⟩ |
    ⟨worker, phase, rfl, waiting, unwritten, -, next⟩ | ⟨worker, seen, value, rfl, held, next⟩
  · rw [same]
    exact iff_of_true before current
  · have pending : s.phase worker ≠ .written := by simp [waiting]
    rw [next, NothingLost, contributed_enter delta s worker phase s.cell pending,
      if_neg unwritten, add_zero]
    exact iff_of_true before trivial
  · have pending : s.phase worker ≠ .written := by simp [held]
    have sum := adds worker seen value (computed worker seen value held)
    rw [next, NothingLost, contributed_enter delta s worker .written value pending, if_pos rfl,
      ← add_assoc, ← before]
    change value = s.cell + delta worker ↔ _
    rw [sum, add_left_inj]
    constructor
    · intro current seen' value' held'
      rw [held] at held'
      cases held'
      exact current.symm
    · intro current
      exact (current seen value held).symm

/-- No update is lost at any point of a schedule precisely when no write of it is stale. -/
theorem nothingLost_along_iff
    (adds : ∀ worker seen next, compute worker seen = some next → next = seen + delta worker)
    (first : V) (messages : List (Message ι)) :
    Along (serve compute) (NothingLost delta first) (System.fresh first) messages ↔
      EachStep (serve compute) NotStale (System.fresh first) messages := by
  have start : NothingLost delta first (System.fresh first : System ι V) := by
    simp [NothingLost, contributed, System.fresh]
  exact along_iff_eachStep (fun s message => nothingLost_serve_iff adds s message) start
    (computed_along first messages).eachStep

end Sums

section Images

variable {W : Type} {compute' : ι → W → Option W}

def Phase.map (f : V → W) : Phase V → Phase W
  | .waiting => .waiting
  | .holding seen next => .holding (f seen) (f next)
  | .refused => .refused
  | .written => .written

@[simp] theorem Phase.map_eq_written {f : V → W} {phase : Phase V} :
    phase.map f = .written ↔ phase = .written := by
  cases phase <;> simp [Phase.map]

def System.map (f : V → W) (s : System ι V) : System ι W :=
  ⟨f s.cell, fun worker => (s.phase worker).map f⟩

theorem System.map_enter (f : V → W) (s : System ι V) (worker : ι) (phase : Phase V) (cell : V) :
    (s.enter worker phase cell).map f = (s.map f).enter worker (phase.map f) (f cell) := by
  unfold System.map System.enter
  congr 1
  funext other
  by_cases here : other = worker
  · subst here
    simp
  · simp [Function.update_of_ne here]

/-- A map that commutes with what the workers compute commutes with serving a message. -/
theorem serve_map (f : V → W)
    (commutes : ∀ worker v, compute' worker (f v) = (compute worker v).map f)
    (s : System ι V) (message : Message ι) :
    serve compute' (s.map f) message = (serve compute s message).map f := by
  cases message with
  | read worker =>
      have seen : (s.map f).phase worker = (s.phase worker).map f := rfl
      have cell : (s.map f).cell = f s.cell := rfl
      cases phase : s.phase worker with
      | waiting =>
          have result := commutes worker s.cell
          cases computed : compute worker s.cell with
          | none =>
              rw [computed] at result
              simp [serve, seen, cell, phase, Phase.map, computed, result, System.map_enter]
          | some next =>
              rw [computed] at result
              simp [serve, seen, cell, phase, Phase.map, computed, result, System.map_enter]
      | _ => simp [serve, seen, phase, Phase.map]
  | write worker =>
      have seen : (s.map f).phase worker = (s.phase worker).map f := rfl
      cases phase : s.phase worker with
      | holding held next => simp [serve, seen, phase, Phase.map, System.map_enter]
      | _ => simp [serve, seen, phase, Phase.map]

theorem run_map (f : V → W)
    (commutes : ∀ worker v, compute' worker (f v) = (compute worker v).map f)
    (s : System ι V) (messages : List (Message ι)) :
    run (serve compute') (s.map f) messages = (run (serve compute) s messages).map f := by
  induction messages using List.reverseRecOn with
  | nil => rfl
  | append_singleton handled message ih =>
      rw [run_snoc, run_snoc, ih, serve_map f commutes]

end Images

section Journals

/-- In place of a value the cell holds the workers whose updates made it up. -/
def journal (worker : ι) (entries : List ι) : Option (List ι) := some (entries ++ [worker])

/-- The workers whose updates are in the cell after the schedule, in the order in which they were
applied: the last one to write, before it the one whose value it had read, and so on. -/
def carried (messages : List (Message ι)) : List ι :=
  (run (serve journal) (System.fresh []) messages).cell

def replay (act : ι → V → V) (first : V) (entries : List ι) : V :=
  entries.foldl (fun value worker => act worker value) first

omit [DecidableEq ι] in
theorem replay_snoc (act : ι → V → V) (first : V) (entries : List ι) (worker : ι) :
    replay act first (entries ++ [worker]) = act worker (replay act first entries) := by
  simp [replay]

/-- Whatever the workers do to a value, the system is the image of its journal. -/
theorem run_eq_replay (act : ι → V → V) (first : V) (messages : List (Message ι)) :
    run (serve (fun worker value => some (act worker value))) (System.fresh first) messages =
      (run (serve journal) (System.fresh []) messages).map (replay act first) := by
  have commutes : ∀ (worker : ι) (entries : List ι),
      some (act worker (replay act first entries)) =
        (journal worker entries).map (replay act first) := by
    intro worker entries
    rw [journal, Option.map_some, replay_snoc]
  exact run_map (replay act first) commutes (System.fresh []) messages

theorem cell_eq_replay (act : ι → V → V) (first : V) (messages : List (Message ι)) :
    (run (serve (fun worker value => some (act worker value))) (System.fresh first)
      messages).cell = replay act first (carried messages) := by
  rw [run_eq_replay]
  rfl

/-- Every worker that has written is in the journal. -/
def Recorded (s : System ι (List ι)) : Prop :=
  ∀ worker, s.phase worker = .written → worker ∈ s.cell

private theorem recorded_serve (s : System ι (List ι)) (message : Message ι)
    (before : Computed journal s ∧ Recorded s) (current : NotStale s message) :
    Computed journal (serve journal s message) ∧ Recorded (serve journal s message) := by
  obtain ⟨computed, recorded⟩ := before
  refine ⟨computed_serve s message computed, ?_⟩
  rcases serve_cases s message with ⟨same, -⟩ |
    ⟨worker, phase, rfl, -, unwritten, -, next⟩ | ⟨worker, seen, entries, rfl, held, next⟩
  · rw [same]
    exact recorded
  · rw [next]
    intro other written
    change Function.update s.phase worker phase other = .written at written
    by_cases here : other = worker
    · subst here
      rw [Function.update_self] at written
      exact absurd written unwritten
    · rw [Function.update_of_ne here] at written
      exact recorded other written
  · -- what is written extends the journal, for the worker has read all of it
    have extended : s.cell ++ [worker] = entries := by
      rw [current seen entries held]
      exact Option.some.inj (computed worker seen entries held)
    rw [next]
    intro other written
    change other ∈ entries
    change Function.update s.phase worker .written other = .written at written
    rw [← extended, List.mem_append, List.mem_singleton]
    by_cases here : other = worker
    · exact Or.inr here
    · rw [Function.update_of_ne here] at written
      exact Or.inl (recorded other written)

/-- When no write is served between the read and the write of another worker, the cell carries
the updates of all that have written. -/
theorem mem_carried_of_notStale {messages : List (Message ι)}
    (current : EachStep (serve journal) NotStale (System.fresh []) messages) {worker : ι}
    (written : (run (serve journal) (System.fresh []) messages).phase worker = .written) :
    worker ∈ carried messages := by
  have computed : Along (serve journal) (Computed journal) (System.fresh [])
      ([] : List (Message ι)) := computed_along [] []
  have start : Computed journal (System.fresh [] : System ι (List ι)) ∧
      Recorded (System.fresh [] : System ι (List ι)) := ⟨computed.finish, nofun⟩
  exact (along_of_eachStep recorded_serve start current).finish.2 worker written

end Journals

end ProductSite.Foundation.SharedCell
