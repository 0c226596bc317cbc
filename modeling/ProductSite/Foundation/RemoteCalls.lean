/- Module: ProductSite/Foundation/RemoteCalls
   digest: A client that sends calls to a server and goes on before they are answered; calls are
     served, and answers received, in any order. -/

import Mathlib.Data.List.Perm.Basic
import ProductSite.Foundation.Runs

set_option autoImplicit false
set_option relaxedAutoImplicit false

namespace ProductSite.Foundation.RemoteCalls

open ProductSite.Foundation.Runs

/-- What the client does on an event of its own and with an answer, each time with the calls that
it sends, and what the server does with a call and with the requests of others. -/
structure Protocol (χ σ κ α ε ρ : Type) where
  act : χ → ε → χ × List κ
  handle : σ → κ → α × σ
  receive : χ → κ → α → χ × List κ
  other : σ → ρ → σ

/-- The two sides, the calls under way to the server, and the answers under way back. -/
structure System (χ σ κ α : Type) where
  client : χ
  server : σ
  sent : List κ
  answered : List (κ × α)

inductive Event (ε ρ : Type) where
  | act (event : ε)
  | serve (position : Nat)
  | receive (position : Nat)
  | other (request : ρ)

variable {χ σ κ α ε ρ : Type} (protocol : Protocol χ σ κ α ε ρ)

namespace System

variable (s : System χ σ κ α)

def acting (event : ε) : System χ σ κ α :=
  ⟨(protocol.act s.client event).1, s.server, s.sent ++ (protocol.act s.client event).2,
    s.answered⟩

/-- The server handles a call; the calls that are still under way are given. -/
def serving (call : κ) (rest : List κ) : System χ σ κ α :=
  ⟨s.client, (protocol.handle s.server call).2, rest,
    s.answered ++ [(call, (protocol.handle s.server call).1)]⟩

/-- The client receives an answer; the answers that are still under way are given. -/
def receiving (call : κ) (answer : α) (rest : List (κ × α)) : System χ σ κ α :=
  ⟨(protocol.receive s.client call answer).1, s.server,
    s.sent ++ (protocol.receive s.client call answer).2, rest⟩

def disturbed (request : ρ) : System χ σ κ α :=
  ⟨s.client, protocol.other s.server request, s.sent, s.answered⟩

/-- The calls that the client has no answer to yet. -/
def underWay : List κ := s.sent ++ s.answered.map Prod.fst

variable {s}

theorem underWay_acting (event : ε) :
    (s.acting protocol event).underWay.Perm (s.underWay ++ (protocol.act s.client event).2) := by
  simp only [underWay, acting, List.append_assoc]
  exact List.Perm.append_left _ List.perm_append_comm

theorem underWay_serving {before after : List κ} {call : κ}
    (sent : s.sent = before ++ call :: after) :
    (s.serving protocol call (before ++ after)).underWay.Perm s.underWay := by
  simp only [underWay, serving, sent, List.map_append, List.map_cons, List.map_nil]
  rw [← List.append_assoc]
  refine List.perm_append_singleton .. |>.trans ?_
  rw [List.append_assoc before (call :: after), List.cons_append, List.append_assoc]
  exact List.perm_middle.symm

theorem underWay_receiving {before after : List (κ × α)} {call : κ} {answer : α}
    (answered : s.answered = before ++ (call, answer) :: after) :
    (call :: (s.receiving protocol call answer (before ++ after)).underWay).Perm
      (s.underWay ++ (protocol.receive s.client call answer).2) := by
  set mid := before.map Prod.fst with mid_def
  set tail := after.map Prod.fst with tail_def
  set calls := (protocol.receive s.client call answer).2 with calls_def
  have later : (calls ++ (mid ++ tail)).Perm (mid ++ tail ++ calls) := List.perm_append_comm
  calc call :: (s.receiving protocol call answer (before ++ after)).underWay
      = call :: (s.sent ++ (calls ++ (mid ++ tail))) := by
        simp only [underWay, receiving, List.map_append, List.append_assoc, mid_def, tail_def,
          calls_def]
    List.Perm _ (call :: (s.sent ++ (mid ++ tail ++ calls))) := (later.append_left _).cons _
    List.Perm _ (s.sent ++ mid ++ call :: (tail ++ calls)) := by
        rw [List.append_assoc mid, ← List.append_assoc s.sent]
        exact List.perm_middle.symm
    _ = s.underWay ++ calls := by
        simp only [underWay, answered, List.map_append, List.map_cons, List.append_assoc,
          List.cons_append, mid_def, tail_def]

section Single

variable {p : κ → Bool} (single : s.underWay.countP p ≤ 1)

include single

/-- A call of a kind of which at most one is under way is the only one when it is served. -/
theorem others_of_serving {before after : List κ} {call : κ}
    (sent : s.sent = before ++ call :: after) (kind : p call = true) :
    (∀ other ∈ before ++ after, p other = false) ∧ ∀ entry ∈ s.answered, p entry.1 = false := by
  have total : (before ++ after).countP p + 1 + (s.answered.map Prod.fst).countP p ≤ 1 := by
    rw [underWay, sent] at single
    simp only [List.countP_append, List.countP_cons, kind, if_true] at single ⊢
    omega
  have rest : (before ++ after).countP p = 0 := by omega
  have answers : (s.answered.map Prod.fst).countP p = 0 := by omega
  constructor
  · intro other member
    simpa using List.countP_eq_zero.mp rest other member
  · intro entry member
    simpa using List.countP_eq_zero.mp answers entry.1 (List.mem_map_of_mem member)

/-- And when its answer is received. -/
theorem others_of_receiving {before after : List (κ × α)} {call : κ} {answer : α}
    (answered : s.answered = before ++ (call, answer) :: after) (kind : p call = true) :
    (∀ other ∈ s.sent, p other = false) ∧ ∀ entry ∈ before ++ after, p entry.1 = false := by
  have total : s.sent.countP p + ((before ++ after).map Prod.fst).countP p + 1 ≤ 1 := by
    rw [underWay, answered] at single
    simp only [List.map_append, List.map_cons, List.countP_append, List.countP_cons, kind,
      if_true] at single ⊢
    omega
  have calls : s.sent.countP p = 0 := by omega
  have rest : ((before ++ after).map Prod.fst).countP p = 0 := by omega
  constructor
  · intro other member
    simpa using List.countP_eq_zero.mp calls other member
  · intro entry member
    simpa using List.countP_eq_zero.mp rest entry.1 (List.mem_map_of_mem member)

end Single

end System

/-- One event; a position at which nothing is under way means nothing. -/
def step (s : System χ σ κ α) : Event ε ρ → System χ σ κ α
  | .act event => s.acting protocol event
  | .serve position =>
      match s.sent[position]? with
      | none => s
      | some call => s.serving protocol call (s.sent.eraseIdx position)
  | .receive position =>
      match s.answered[position]? with
      | none => s
      | some (call, answer) =>
          s.receiving protocol call answer (s.answered.eraseIdx position)
  | .other request => s.disturbed protocol request

/-- An entry splits a list into what is before and what is after it. -/
theorem split_at {β : Type} {list : List β} {position : Nat} {entry : β}
    (here : list[position]? = some entry) :
    ∃ before after, list = before ++ entry :: after ∧
      list.eraseIdx position = before ++ after := by
  obtain ⟨inside, value⟩ := List.getElem?_eq_some_iff.mp here
  refine ⟨list.take position, list.drop (position + 1), ?_, List.eraseIdx_eq_take_drop_succ ..⟩
  rw [← value, ← List.drop_eq_getElem_cons inside, List.take_append_drop]

theorem mem_of_rest {β : Type} {list before after : List β} {entry other : β}
    (whole : list = before ++ entry :: after) (rest : other ∈ before ++ after) : other ∈ list := by
  rw [whole]
  rcases List.mem_append.mp rest with early | late
  · exact List.mem_append_left _ early
  · exact List.mem_append_right _ (List.mem_cons_of_mem _ late)

section Histories

variable {η : Type} (note : η → κ → α → η)

/-- The protocol with a client that also keeps a note of the answers it received. -/
def Protocol.watched : Protocol (χ × η) σ κ α ε ρ where
  act := fun client event =>
    (((protocol.act client.1 event).1, client.2), (protocol.act client.1 event).2)
  handle := protocol.handle
  receive := fun client call answer =>
    (((protocol.receive client.1 call answer).1, note client.2 call answer),
      (protocol.receive client.1 call answer).2)
  other := protocol.other

def System.forget (s : System (χ × η) σ κ α) : System χ σ κ α :=
  ⟨s.client.1, s.server, s.sent, s.answered⟩

/-- The note has no part in what happens. -/
theorem forget_step (s : System (χ × η) σ κ α) (event : Event ε ρ) :
    (step (protocol.watched note) s event).forget = step protocol s.forget event := by
  cases event with
  | act event => rfl
  | serve position =>
      simp only [step, System.forget]
      split <;> rfl
  | receive position =>
      simp only [step, System.forget]
      split <;> rfl
  | other request => rfl

theorem forget_run (s : System (χ × η) σ κ α) (events : List (Event ε ρ)) :
    (run (step (protocol.watched note)) s events).forget =
      run (step protocol) s.forget events := by
  induction events generalizing s with
  | nil => rfl
  | cons event rest ih => rw [run_cons, run_cons, ih, forget_step]

end Histories

variable {protocol}

/-- The invariant rule. The law has to be kept by the acts and by the requests of others that meet
the condition, and by any call being served and any answer being received. -/
theorem along_of_rules {law : System χ σ κ α → Prop}
    {cond : System χ σ κ α → Event ε ρ → Prop}
    (acts : ∀ s event, law s → cond s (.act event) → law (s.acting protocol event))
    (serves : ∀ s before call after, law s → s.sent = before ++ call :: after →
      law (s.serving protocol call (before ++ after)))
    (receives : ∀ s before call answer after, law s →
      s.answered = before ++ (call, answer) :: after →
      law (s.receiving protocol call answer (before ++ after)))
    (others : ∀ s request, law s → cond s (.other request) → law (s.disturbed protocol request))
    {s : System χ σ κ α} {events : List (Event ε ρ)} (start : law s)
    (each : EachStep (step protocol) cond s events) : Along (step protocol) law s events := by
  refine along_of_eachStep ?_ start each
  intro t event holds allowed
  cases event with
  | act event => exact acts t event holds allowed
  | serve position =>
      simp only [step]
      split
      · exact holds
      · rename_i call here
        obtain ⟨before, after, sent, rest⟩ := split_at here
        rw [rest]
        exact serves t before call after holds sent
  | receive position =>
      simp only [step]
      split
      · exact holds
      · rename_i call answer here
        obtain ⟨before, after, answered, rest⟩ := split_at here
        rw [rest]
        exact receives t before call answer after holds answered
  | other request => exact others t request holds allowed

end ProductSite.Foundation.RemoteCalls
