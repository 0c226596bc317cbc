/- Module: ProductSite/Foundation/Views
   digest: What a client shows of a store on the server, fetched from there and edited on both
     sides; it is right whenever nothing about it is under way, if the client waits for that. -/

import ProductSite.Foundation.RemoteCalls

set_option autoImplicit false
set_option relaxedAutoImplicit false

namespace ProductSite.Foundation.Views

open ProductSite.Foundation.RemoteCalls
open ProductSite.Foundation.Runs

variable {χ σ κ α ε ρ V S : Type}

/-- A view of the client on a store of the server. `Ready` says of a call about the view that it
may be served now, and `Fits` of an answer that it may be received now. -/
structure View (protocol : Protocol χ σ κ α ε ρ) (V S : Type) where
  view : χ → V
  store : σ → S
  Agrees : V → S → Prop
  about : κ → Bool
  Ready : V → S → κ → Prop
  Fits : V → S → κ → α → Prop
  act_view : ∀ client event, view (protocol.act client event).1 = view client
  act_once : ∀ client event, (protocol.act client event).2.countP about ≤ 1
  act_ready : ∀ client event stored, Agrees (view client) stored →
    ∀ call ∈ (protocol.act client event).2, about call = true → Ready (view client) stored call
  handle_other : ∀ server call, about call = false →
    store (protocol.handle server call).2 = store server
  handle_about : ∀ shown server call, about call = true → Ready shown (store server) call →
    Fits shown (store (protocol.handle server call).2) call (protocol.handle server call).1
  receive_other : ∀ client call answer, about call = false →
    view (protocol.receive client call answer).1 = view client ∧
      (protocol.receive client call answer).2.countP about = 0
  /-- The answer makes the view right, or the client sends one more call about it. -/
  receive_about : ∀ client stored call answer, about call = true →
    Fits (view client) stored call answer →
      (Agrees (view (protocol.receive client call answer).1) stored ∧
        (protocol.receive client call answer).2.countP about = 0) ∨
      ((protocol.receive client call answer).2.countP about = 1 ∧
        ∀ next ∈ (protocol.receive client call answer).2, about next = true →
          Ready (view (protocol.receive client call answer).1) stored next)

namespace View

variable {protocol : Protocol χ σ κ α ε ρ} (v : View protocol V S)

/-- Nothing about the view is under way. -/
def Idle (s : System χ σ κ α) : Prop := s.underWay.countP v.about = 0

def Right (s : System χ σ κ α) : Prop := v.Agrees (v.view s.client) (v.store s.server)

/-- At most one call about the view is under way. While there is none the view is right, and
otherwise the call may be served, or its answer received. -/
structure InStep (s : System χ σ κ α) : Prop where
  single : s.underWay.countP v.about ≤ 1
  idle : v.Idle s → v.Right s
  ready : ∀ call ∈ s.sent, v.about call = true →
    v.Ready (v.view s.client) (v.store s.server) call
  fits : ∀ entry ∈ s.answered, v.about entry.1 = true →
    v.Fits (v.view s.client) (v.store s.server) entry.1 entry.2

/-- The client waits with a call about the view until the last one is answered, and others leave
the store as it is. -/
def Patient (s : System χ σ κ α) : Event ε ρ → Prop
  | .act event => (protocol.act s.client event).2.countP v.about ≠ 0 → v.Idle s
  | .other request => v.store (protocol.other s.server request) = v.store s.server
  | .serve _ => True
  | .receive _ => True

variable {v} {s : System χ σ κ α}

theorem InStep.acting (before : v.InStep s) {event : ε} (patient : v.Patient s (.act event)) :
    v.InStep (s.acting protocol event) := by
  have count : (s.acting protocol event).underWay.countP v.about =
      s.underWay.countP v.about + (protocol.act s.client event).2.countP v.about := by
    rw [(System.underWay_acting protocol event).countP_eq, List.countP_append]
  have same : v.Right (s.acting protocol event) ↔ v.Right s := by
    rw [Right, Right, System.acting, v.act_view]
  have once := v.act_once s.client event
  have alone : (protocol.act s.client event).2.countP v.about ≠ 0 →
      s.underWay.countP v.about = 0 := patient
  constructor
  · have single := before.single
    by_cases quiet : (protocol.act s.client event).2.countP v.about = 0
    · omega
    · have nothing := alone quiet
      omega
  · intro idle
    rw [Idle, count] at idle
    exact same.mpr (before.idle (by rw [Idle]; omega))
  · intro call member asks
    rw [System.acting, v.act_view]
    rcases List.mem_append.mp member with old | new
    · exact before.ready call old asks
    · have some_call : 0 < (protocol.act s.client event).2.countP v.about :=
        List.countP_pos_iff.mpr ⟨call, new, asks⟩
      exact v.act_ready _ _ _ (before.idle (alone (by omega))) call new asks
  · intro entry member asks
    have fits := before.fits entry member asks
    rw [System.acting, v.act_view]
    exact fits

theorem InStep.serving (before : v.InStep s) {first last : List κ} {call : κ}
    (sent : s.sent = first ++ call :: last) :
    v.InStep (s.serving protocol call (first ++ last)) := by
  have count := (System.underWay_serving protocol sent).countP_eq v.about
  have present : call ∈ s.sent := by simp [sent]
  by_cases asks : v.about call = true
  · -- the call is the only one about the view
    obtain ⟨others, nothing⟩ := System.others_of_serving before.single sent asks
    have counted : 0 < s.underWay.countP v.about :=
      List.countP_pos_iff.mpr ⟨call, List.mem_append_left _ present, asks⟩
    constructor
    · rw [count]
      exact before.single
    · intro idle
      rw [Idle] at idle
      omega
    · intro other member about
      rw [others other member] at about
      cases about
    · intro entry member about
      rcases List.mem_append.mp member with old | new
      · rw [nothing entry old] at about
        cases about
      · rw [List.mem_singleton] at new
        subst new
        exact v.handle_about _ _ _ asks (before.ready call present asks)
  · have other_call : v.about call = false := by simpa using asks
    have stored := v.handle_other s.server call other_call
    have same : v.Right (s.serving protocol call (first ++ last)) ↔ v.Right s := by
      rw [Right, Right, System.serving, stored]
    constructor
    · rw [count]
      exact before.single
    · intro idle
      rw [Idle, count] at idle
      exact same.mpr (before.idle idle)
    · intro other member about
      rw [System.serving, stored]
      exact before.ready other (mem_of_rest sent member) about
    · intro entry member about
      rw [System.serving, stored]
      rcases List.mem_append.mp member with old | new
      · exact before.fits entry old about
      · rw [List.mem_singleton] at new
        subst new
        exact (asks about).elim

theorem InStep.receiving (before : v.InStep s) {first last : List (κ × α)} {call : κ} {answer : α}
    (answered : s.answered = first ++ (call, answer) :: last) :
    v.InStep (s.receiving protocol call answer (first ++ last)) := by
  have count := (System.underWay_receiving protocol answered).countP_eq v.about
  rw [List.countP_cons, List.countP_append] at count
  have present : (call, answer) ∈ s.answered := by simp [answered]
  have single := before.single
  by_cases asks : v.about call = true
  · obtain ⟨unsent, nothing⟩ := System.others_of_receiving single answered asks
    have counted : 0 < s.underWay.countP v.about := by
      refine List.countP_pos_iff.mpr ⟨call, List.mem_append_right _ ?_, asks⟩
      exact List.mem_map_of_mem present
    rw [if_pos asks] at count
    rcases v.receive_about s.client (v.store s.server) call answer asks
      (before.fits _ present asks) with ⟨right, silent⟩ | ⟨one, next_ready⟩
    · constructor
      · omega
      · intro _
        exact right
      · intro other member about
        rcases List.mem_append.mp member with old | new
        · rw [unsent other old] at about
          cases about
        · have some_call := List.countP_pos_iff.mpr ⟨other, new, about⟩
          omega
      · intro entry member about
        rw [nothing entry member] at about
        cases about
    · constructor
      · omega
      · intro idle
        rw [Idle] at idle
        omega
      · intro other member about
        rcases List.mem_append.mp member with old | new
        · rw [unsent other old] at about
          cases about
        · exact next_ready other new about
      · intro entry member about
        rw [nothing entry member] at about
        cases about
  · obtain ⟨shown, silent⟩ := v.receive_other s.client call answer (by simpa using asks)
    have same : v.Right (s.receiving protocol call answer (first ++ last)) ↔ v.Right s := by
      rw [Right, Right, System.receiving, shown]
    rw [if_neg asks] at count
    constructor
    · omega
    · intro idle
      rw [Idle] at idle
      exact same.mpr (before.idle (by rw [Idle]; omega))
    · intro other member about
      rw [System.receiving, shown]
      rcases List.mem_append.mp member with old | new
      · exact before.ready other old about
      · have some_call := List.countP_pos_iff.mpr ⟨other, new, about⟩
        omega
    · intro entry member about
      rw [System.receiving, shown]
      exact before.fits entry (mem_of_rest answered member) about

theorem InStep.disturbed (before : v.InStep s) {request : ρ}
    (patient : v.Patient s (.other request)) : v.InStep (s.disturbed protocol request) := by
  have stored : v.store (protocol.other s.server request) = v.store s.server := patient
  have same : v.Right (s.disturbed protocol request) ↔ v.Right s := by
    rw [Right, Right, System.disturbed, stored]
  constructor
  · exact before.single
  · intro idle
    exact same.mpr (before.idle idle)
  · intro call member asks
    rw [System.disturbed, stored]
    exact before.ready call member asks
  · intro entry member asks
    rw [System.disturbed, stored]
    exact before.fits entry member asks

/-- The view of a patient client stays in step with the store. -/
theorem inStep_along {events : List (Event ε ρ)} (start : v.InStep s)
    (each : EachStep (step protocol) v.Patient s events) :
    Along (step protocol) v.InStep s events :=
  along_of_rules (fun _ _ before patient => before.acting patient)
    (fun _ _ _ _ before sent => before.serving sent)
    (fun _ _ _ _ _ before answered => before.receiving answered)
    (fun _ _ before patient => before.disturbed patient) start each

end View

end ProductSite.Foundation.Views
