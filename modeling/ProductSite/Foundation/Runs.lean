/- Module: ProductSite/Foundation/Runs
   digest: Finite runs of a step function, laws along a run, and exact running accounts. -/

import Mathlib.Algebra.Group.Basic
import Mathlib.Data.List.Infix
import Mathlib.Tactic.Abel

set_option autoImplicit false
set_option relaxedAutoImplicit false

namespace ProductSite.Foundation.Runs

variable {σ ρ : Type} (step : σ → ρ → σ)

/-- Handle the requests one at a time, in order. -/
def run (s : σ) (requests : List ρ) : σ := requests.foldl step s

/-- The law holds in every state that the run passes through, both ends included. -/
def Along (law : σ → Prop) (s : σ) (requests : List ρ) : Prop :=
  ∀ handled, handled <+: requests → law (run step s handled)

/-- Every request of the run meets the condition in the state that it finds. -/
def EachStep (cond : σ → ρ → Prop) (s : σ) (requests : List ρ) : Prop :=
  ∀ handled request, handled ++ [request] <+: requests → cond (run step s handled) request

@[simp] theorem run_nil (s : σ) : run step s [] = s := rfl

@[simp] theorem run_cons (s : σ) (request : ρ) (rest : List ρ) :
    run step s (request :: rest) = run step (step s request) rest := rfl

theorem run_append (s : σ) (first second : List ρ) :
    run step s (first ++ second) = run step (run step s first) second :=
  List.foldl_append

theorem run_snoc (s : σ) (handled : List ρ) (request : ρ) :
    run step s (handled ++ [request]) = step (run step s handled) request := by
  rw [run_append, run_cons, run_nil]

variable {step}

theorem Along.finish {law : σ → Prop} {s : σ} {requests : List ρ}
    (along : Along step law s requests) : law (run step s requests) :=
  along requests List.prefix_rfl

@[simp] theorem eachStep_nil (cond : σ → ρ → Prop) (s : σ) : EachStep step cond s [] := by
  intro handled request here
  simp at here

@[simp] theorem eachStep_cons {cond : σ → ρ → Prop} {s : σ} {request : ρ} {rest : List ρ} :
    EachStep step cond s (request :: rest) ↔
      cond s request ∧ EachStep step cond (step s request) rest := by
  constructor
  · intro each
    refine ⟨each [] request (by simp), ?_⟩
    intro handled later here
    exact each (request :: handled) later (List.cons_prefix_cons.mpr ⟨rfl, here⟩)
  · rintro ⟨first, each⟩ handled later here
    cases handled with
    | nil =>
        obtain ⟨rfl, -⟩ := List.cons_prefix_cons.mp here
        exact first
    | cons head handled =>
        obtain ⟨rfl, tail⟩ := List.cons_prefix_cons.mp here
        exact each handled later tail

theorem Along.eachStep {law : σ → Prop} {s : σ} {requests : List ρ}
    (along : Along step law s requests) :
    EachStep step (fun t _ => law t) s requests := by
  intro handled request here
  exact along handled ((List.prefix_append handled [request]).trans here)

/-- A condition on the requests alone is met by each step if it is met by each request. -/
theorem eachStep_const_iff {cond : ρ → Prop} {requests : List ρ} {s : σ} :
    EachStep step (fun _ request => cond request) s requests ↔
      ∀ request ∈ requests, cond request := by
  induction requests generalizing s with
  | nil => simp
  | cons request rest ih => rw [eachStep_cons, ih, List.forall_mem_cons]

theorem eachStep_of_forall {cond : ρ → Prop} {requests : List ρ}
    (all : ∀ request ∈ requests, cond request) (s : σ) :
    EachStep step (fun _ request => cond request) s requests :=
  eachStep_const_iff.mpr all

theorem EachStep.and {cond cond' : σ → ρ → Prop} {s : σ} {requests : List ρ}
    (each : EachStep step cond s requests) (each' : EachStep step cond' s requests) :
    EachStep step (fun t request => cond t request ∧ cond' t request) s requests :=
  fun handled request here => ⟨each handled request here, each' handled request here⟩

/-- Conditions that are the same wherever the run is, are met by the same runs. -/
theorem eachStep_congr_of {dom cond cond' : σ → ρ → Prop} {s : σ} {requests : List ρ}
    (same : ∀ t request, dom t request → (cond t request ↔ cond' t request))
    (inside : EachStep step dom s requests) :
    EachStep step cond s requests ↔ EachStep step cond' s requests := by
  constructor
  · intro each handled request here
    exact (same _ _ (inside handled request here)).mp (each handled request here)
  · intro each handled request here
    exact (same _ _ (inside handled request here)).mpr (each handled request here)

theorem eachStep_congr {cond cond' : σ → ρ → Prop}
    (same : ∀ t request, cond t request ↔ cond' t request) (s : σ) (requests : List ρ) :
    EachStep step cond s requests ↔ EachStep step cond' s requests := by
  have anywhere : EachStep step (fun _ _ => True) s requests := fun _ _ _ => trivial
  exact eachStep_congr_of (fun t request _ => same t request) anywhere

theorem along_congr {law law' : σ → Prop} (same : ∀ t, law t ↔ law' t) (s : σ)
    (requests : List ρ) : Along step law s requests ↔ Along step law' s requests := by
  constructor
  · intro along handled here
    exact (same _).mp (along handled here)
  · intro along handled here
    exact (same _).mpr (along handled here)

/-- The invariant rule: steps that meet the condition keep the law. -/
theorem along_of_eachStep {law : σ → Prop} {cond : σ → ρ → Prop} {s : σ} {requests : List ρ}
    (keeps : ∀ t request, law t → cond t request → law (step t request))
    (start : law s) (each : EachStep step cond s requests) : Along step law s requests := by
  intro handled
  induction handled using List.reverseRecOn with
  | nil => exact fun _ => start
  | append_singleton handled request ih =>
      intro here
      rw [run_snoc]
      have before : handled <+: requests := (List.prefix_append handled [request]).trans here
      exact keeps _ _ (ih before) (each handled request here)

theorem along_of_kept {law : σ → Prop} {s : σ} (keeps : ∀ t request, law t → law (step t request))
    (start : law s) (requests : List ρ) : Along step law s requests := by
  have free : EachStep step (fun _ _ => True) s requests := fun _ _ _ => trivial
  exact along_of_eachStep (fun t request before _ => keeps t request before) start free

/-- The exact invariant rule: where a step keeps the law precisely when it meets the
condition, a run keeps the law throughout precisely when all its steps meet it. -/
theorem along_iff_eachStep {law : σ → Prop} {dom cond : σ → ρ → Prop} {s : σ}
    {requests : List ρ}
    (exact_step : ∀ t request, law t → dom t request → (law (step t request) ↔ cond t request))
    (start : law s) (inside : EachStep step dom s requests) :
    Along step law s requests ↔ EachStep step cond s requests := by
  constructor
  · intro along handled request here
    have before := along.eachStep handled request here
    have after := along (handled ++ [request]) here
    rw [run_snoc] at after
    exact (exact_step _ _ before (inside handled request here)).mp after
  · intro each
    have keeps : ∀ t request, law t → dom t request ∧ cond t request → law (step t request) := by
      intro t request before met
      exact (exact_step t request before met.1).mpr met.2
    exact along_of_eachStep keeps start (inside.and each)

/-- The exact invariant rule for steps whose effect on the law needs no further assumption. -/
theorem along_iff_eachStep_of_law {law : σ → Prop} {cond : σ → ρ → Prop} {s : σ}
    (exact_step : ∀ t request, law t → (law (step t request) ↔ cond t request))
    (start : law s) (requests : List ρ) :
    Along step law s requests ↔ EachStep step cond s requests := by
  have anywhere : EachStep step (fun _ _ => True) s requests := fun _ _ _ => trivial
  exact along_iff_eachStep (fun t request before _ => exact_step t request before) start anywhere

theorem EachStep.left {cond : σ → ρ → Prop} {s : σ} {first second : List ρ}
    (each : EachStep step cond s (first ++ second)) : EachStep step cond s first := by
  intro handled request here
  exact each handled request (here.trans (List.prefix_append first second))

theorem EachStep.right {cond : σ → ρ → Prop} {s : σ} {first second : List ρ}
    (each : EachStep step cond s (first ++ second)) :
    EachStep step cond (run step s first) second := by
  intro handled request here
  rw [← run_append]
  apply each
  rw [List.append_assoc]
  exact (List.prefix_append_right_inj first).mpr here

section Accounts

/-- What the requests of a run note down, one after the other. -/
def journal {η : Type} (step : σ → ρ → σ) (note : σ → ρ → List η) : σ → List ρ → List η
  | _, [] => []
  | s, request :: rest => note s request ++ journal step note (step s request) rest

/-- A log that every request appends to, as far as its note says. -/
theorem log_eq_journal {η θ : Type} {cond : σ → ρ → Prop} {note : σ → ρ → List η}
    {log : σ → List θ} {entries : η → List θ}
    (appends : ∀ t request, cond t request →
      log (step t request) = log t ++ (note t request).flatMap entries)
    {s : σ} {requests : List ρ} (each : EachStep step cond s requests) :
    log (run step s requests) = log s ++ (journal step note s requests).flatMap entries := by
  induction requests generalizing s with
  | nil => simp [journal]
  | cons request rest ih =>
      obtain ⟨first, later⟩ := eachStep_cons.mp each
      rw [run_cons, ih later, appends s request first, journal, List.flatMap_append,
        List.append_assoc]

variable {A : Type} [AddCommGroup A]

/-- The total of what the requests of a run post to an account. -/
def tally (step : σ → ρ → σ) (amount : σ → ρ → A) : σ → List ρ → A
  | _, [] => 0
  | s, request :: rest => amount s request + tally step amount (step s request) rest

@[simp] theorem tally_nil (amount : σ → ρ → A) (s : σ) : tally step amount s [] = 0 := rfl

theorem tally_snoc (amount : σ → ρ → A) (s : σ) (handled : List ρ) (request : ρ) :
    tally step amount s (handled ++ [request]) =
      tally step amount s handled + amount (run step s handled) request := by
  induction handled generalizing s with
  | nil => simp [tally]
  | cons first rest ih =>
      simp only [List.cons_append, tally, ih, run_cons]
      abel

/-- The accounting rule: an observation equals its first value plus the account in every
state of a run precisely when each step changes it by exactly what it posts. -/
theorem along_account_iff (step : σ → ρ → σ) (observe : σ → A) (amount : σ → ρ → A) (s : σ)
    (requests : List ρ) :
    (∀ handled, handled <+: requests →
      observe (run step s handled) = observe s + tally step amount s handled) ↔
    EachStep step (fun t request => observe (step t request) = observe t + amount t request)
      s requests := by
  constructor
  · intro account handled request here
    have before := account handled ((List.prefix_append handled [request]).trans here)
    have after := account (handled ++ [request]) here
    rw [run_snoc, tally_snoc] at after
    rw [after, before, add_assoc]
  · intro each handled
    induction handled using List.reverseRecOn with
    | nil => intro _; simp
    | append_singleton handled request ih =>
        intro here
        have before := ih ((List.prefix_append handled [request]).trans here)
        rw [run_snoc, tally_snoc, each handled request here, before, add_assoc]

end Accounts

end ProductSite.Foundation.Runs
