/- Module: ProductSite/Checkout/Clicks
   source: react-router-bootstrap-app/src/components/BillingModal.jsx,
     backend/app/routes/purchase_routes.py
   digest: One click at a time pays once and stores each item once, in every order of messages. -/

import ProductSite.Checkout.Purchased
import ProductSite.Storefront.BillingModal

set_option autoImplicit false
set_option relaxedAutoImplicit false

namespace ProductSite.Checkout.Clicks

open ProductSite.Foundation.Runs
open ProductSite.Backend.Models hiding CartItem
open ProductSite.Backend.PurchaseRoutes
open ProductSite.Backend.PurchaseSaving
open ProductSite.Backend.Requests (customer sampleServer shelf shelfOnly)
open ProductSite.Checkout.Purchased (bought bought_of_buys inCart)
open ProductSite.Checkout.Submission (Buys buys_of_creates)
open ProductSite.Storefront.CartPage (CartItem payload purchaseItem sandTray)
open ProductSite.Storefront.BillingModal (Event Modal)

/-- At most one payment is taken, and each item of the cart is stored at most once. -/
def OnceOnly (cart : List CartItem) (before after : State) : Prop :=
  ∃ created taken, after.db.purchases.rows = before.db.purchases.rows ++ created ∧
    after.charges = taken ++ before.charges ∧ taken.length ≤ 1 ∧
    (created.map bought).Subperm (cart.map inCart)

variable (server : Server) (session : Session) (email : String) (cart : List CartItem)

/-- The button is clicked only while no submission is under way, and no order that is handled
fails after its payment. -/
def OneAtATime (modal : Modal) : Event → Prop
  | .click _ =>
      modal.shown = true → modal.creating = 0 ∧ modal.sent = [] ∧ modal.answers = []
  | .handled message stripe now =>
      ∀ body, modal.sent[message]? = some body →
        ∀ user taken, paid server session stripe body = some (user, taken) →
          BodyStorable server session now modal.state body user ∧
            userLoads modal.state.db user = true
  | _ => True

/-- Either no order is placed and at most one submission is under way, or one is placed and
the modal, if it is still shown, only waits for the answer. -/
inductive Progress (start : State) (modal : Modal) : Prop where
  | waiting (kept : modal.state = start)
      (messages : ∀ body ∈ modal.sent, ∃ id, body = payload cart email id)
      (refused : ∀ reply ∈ modal.answers, reply.fetchOk = false)
      (single : modal.creating + modal.sent.length + modal.answers.length ≤ 1)
  | placed (once : OnceOnly cart start modal.state) (quiet : modal.creating = 0 ∧ modal.sent = [])
      (leaving : modal.shown = true → ∃ reply, modal.answers = [reply] ∧ reply.fetchOk = true)

variable {server session email cart} {start : State} {modal : Modal}

private theorem onceOnly_refl (cart : List CartItem) (s : State) : OnceOnly cart s s :=
  ⟨[], [], by simp, by simp, by simp, List.nil_subperm⟩

private theorem onceOnly_of_progress (progress : Progress email cart start modal) :
    OnceOnly cart start modal.state := by
  cases progress with
  | waiting kept => rw [kept]; exact onceOnly_refl cart start
  | placed once => exact once

private theorem onceOnly_stored {id : String} {user now : Nat} {taken : List PaymentRequest}
    {stripe : PaymentRequest → StripeOutcome} {created : List Purchase} {after : State}
    (payment : paid server session stripe (payload cart email id) = some (user, taken))
    (creates : List.Forall₂ (Creates start.db
      (orderContext server session now user (payload cart email id))) (cart.map purchaseItem)
      created)
    (rows : after.db.purchases.rows = start.db.purchases.rows ++ created)
    (charged : after.charges = taken ++ start.charges) :
    OnceOnly cart start after := by
  have buys : List.Forall₂ (Buys user) cart created :=
    (List.forall₂_map_left_iff.mp creates).imp fun _ _ filled => buys_of_creates filled
  have paying := payOrder_taken (paid_eq_some.mp payment).2
  refine ⟨created, taken, rows, charged, ?_, ?_⟩
  · split at paying
    · simp [paying]
    · obtain ⟨charge, rfl, -⟩ := paying
      simp
  · rw [bought_of_buys buys]

/-- Of one submission under way, a message that is found is all there is. -/
private theorem only_message {message : Nat} {body : PurchaseBody}
    (single : modal.creating + modal.sent.length + modal.answers.length ≤ 1)
    (found : modal.sent[message]? = some body) :
    message = 0 ∧ modal.sent = [body] ∧ modal.creating = 0 ∧ modal.answers = [] := by
  obtain ⟨inside, at_message⟩ := List.getElem?_eq_some_iff.mp found
  have one : modal.sent.length = 1 := by omega
  have none : modal.answers.length = 0 := by omega
  obtain ⟨only, shape⟩ := List.length_eq_one_iff.mp one
  have here : message = 0 := by omega
  subst here
  have same : only = body := by simpa [shape] using found
  exact ⟨rfl, by rw [shape, same], by omega, List.length_eq_zero_iff.mp none⟩

private theorem progress_handled {message now : Nat} {stripe : PaymentRequest → StripeOutcome}
    (progress : Progress email cart start modal)
    (guarded : OneAtATime server session modal (.handled message stripe now)) :
    Progress email cart start
      (modal.step server session email cart (.handled message stripe now)) := by
  cases found : modal.sent[message]? with
  | none => simpa only [Modal.step, found] using progress
  | some body =>
      cases progress with
      | placed once quiet leaving =>
          rw [quiet.2] at found
          cases found
      | waiting kept messages refused single =>
          obtain ⟨rfl, sent, creating, answers⟩ := only_message single found
          obtain ⟨id, rfl⟩ := messages body (sent ▸ List.mem_singleton_self _)
          simp only [Modal.step, found]
          rcases createPurchase_cases server session stripe now modal.state
              (payload cart email id) with
            ⟨-, refusal, after⟩ |
            ⟨user, taken, payment, -, table, created, rows, creates, stored⟩ |
            ⟨user, taken, payment, fails, -, -⟩
          · refine .waiting (after.trans kept) ?_ ?_ ?_
            · simp [sent]
            · simpa [answers] using refusal
            · simp [sent, answers, creating]
          · obtain ⟨-, loads⟩ := guarded _ found user taken payment
            have success : (confirmation modal.state.db user created).fetchOk = true :=
              (confirmation_fetchOk _ _ _).trans loads
            rw [stored]
            refine .placed ?_ ⟨creating, by simp [sent]⟩ ?_
            · rw [← kept]
              exact onceOnly_stored payment creates rows rfl
            · exact fun _ => ⟨_, by simp [answers], success⟩
          · exact absurd (guarded _ found user taken payment).1 fails

private theorem progress_answered {answer : Nat} (progress : Progress email cart start modal) :
    Progress email cart start (modal.step server session email cart (.answered answer)) := by
  cases found : modal.answers[answer]? with
  | none => simpa only [Modal.step, found] using progress
  | some reply =>
      have member : reply ∈ modal.answers := List.mem_of_getElem? found
      have erased := List.length_eraseIdx_of_lt (List.getElem?_eq_some_iff.mp found).1
      simp only [Modal.step, found, Modal.receive]
      cases progress with
      | waiting kept messages refused single =>
          rw [if_neg (by simp [refused reply member])]
          refine .waiting kept messages ?_ ?_
          · exact fun other later => refused other (List.mem_of_mem_eraseIdx later)
          · simp only [erased]
            omega
      | placed once quiet leaving =>
          split
          · exact .placed once quiet nofun
          · rename_i failed
            refine .placed once quiet ?_
            intro shown
            obtain ⟨only, answers, success⟩ := leaving shown
            rw [answers] at member
            rw [List.mem_singleton.mp member] at failed
            exact absurd success failed

private theorem progress_methodCreated {result : Except String String}
    (progress : Progress email cart start modal) :
    Progress email cart start (modal.step server session email cart (.methodCreated result)) := by
  cases progress with
  | placed once quiet leaving =>
      simp only [Modal.step, quiet.1]
      exact .placed once quiet leaving
  | waiting kept messages refused single =>
      cases pending : modal.creating with
      | zero =>
          simp only [Modal.step, pending]
          exact .waiting kept messages refused single
      | succ creating =>
          cases result with
          | error message =>
              simp only [Modal.step, pending]
              refine .waiting kept messages refused ?_
              show creating + modal.sent.length + modal.answers.length ≤ 1
              omega
          | ok id =>
              simp only [Modal.step, pending]
              refine .waiting kept ?_ refused ?_
              · intro body member
                rcases List.mem_append.mp member with old | new
                · exact messages body old
                · exact ⟨id, List.mem_singleton.mp new⟩
              · simp only [List.length_append, List.length_singleton]
                omega

private theorem progress_click {ready : Bool} (progress : Progress email cart start modal)
    (guarded : OneAtATime server session modal (.click ready)) :
    Progress email cart start (modal.step server session email cart (.click ready)) := by
  simp only [Modal.step]
  split
  · rename_i clicked
    obtain ⟨shown, -⟩ := Bool.and_eq_true_iff.mp clicked
    obtain ⟨creating, sent, answers⟩ := guarded shown
    cases progress with
    | waiting kept messages refused single =>
        refine .waiting kept messages refused ?_
        simp [creating, sent, answers]
    | placed once quiet leaving =>
        obtain ⟨reply, waitsFor, -⟩ := leaving shown
        rw [answers] at waitsFor
        cases waitsFor
  · exact progress

private theorem progress_step (modal : Modal) (event : Event)
    (progress : Progress email cart start modal) (guarded : OneAtATime server session modal event) :
    Progress email cart start (modal.step server session email cart event) := by
  cases event with
  | click ready => exact progress_click progress guarded
  | methodCreated result => exact progress_methodCreated progress
  | handled message stripe now => exact progress_handled progress guarded
  | answered answer => exact progress_answered progress
  | closed =>
      cases progress with
      | waiting kept messages refused single => exact .waiting kept messages refused single
      | placed once quiet leaving => exact .placed once quiet nofun

/-- In every run of clicks, messages and answers in which the button is clicked only while no
submission is under way and no order fails after its payment, at most one payment is taken and
each item of the cart is stored at most once, in every state that the run passes through. -/
theorem once_only_along (server : Server) (session : Session) (email : String)
    (cart : List CartItem) (s : State) (events : List Event)
    (guarded : EachStep (Modal.step server session email cart) (OneAtATime server session)
      (.opened s) events) :
    Along (Modal.step server session email cart) (fun modal => OnceOnly cart s modal.state)
      (.opened s) events := by
  have start : Progress email cart s (.opened s) := by
    refine .waiting rfl ?_ ?_ (by simp [Modal.opened])
    · intro body sent
      cases sent
    · intro reply answered
      cases answered
  have along := along_of_eachStep progress_step start guarded
  exact fun handled before => onceOnly_of_progress (along handled before)

section Samples

def trayCart : List CartItem := [sandTray 1 1 "1 Main St" "Library" 1]

def clickThrough (id : String) : List Event :=
  [.click true, .methodCreated (.ok id), .handled 0 (fun _ => .intent "succeeded") 0, .answered 0]

/-- Two clicks before the first is answered. -/
def doubleClick : List Event :=
  [.click true, .click true, .methodCreated (.ok "pm_1"), .methodCreated (.ok "pm_2"),
    .handled 0 (fun _ => .intent "succeeded") 0, .handled 0 (fun _ => .intent "succeeded") 0]

def clicked (events : List Event) : Modal :=
  run (Modal.step sampleServer customer "a@b.c" trayCart) (.opened (shelfOnly 3)) events

end Samples

theorem double_click_is_charged_twice :
    (clicked doubleClick).state.charges.map PaymentRequest.amount = [1000, 1000] ∧
      (clicked doubleClick).state.db.purchases.rows.map bought = [⟨1, some 1, 1⟩, ⟨1, some 1, 1⟩] ∧
      ¬ OnceOnly trayCart (shelfOnly 3) (clicked doubleClick).state := by
  refine ⟨by decide +kernel, by decide +kernel, ?_⟩
  rintro ⟨created, taken, -, charges, single, -⟩
  have twice : (clicked doubleClick).state.charges.length = 2 := by decide +kernel
  have none : (shelfOnly 3).charges.length = 0 := rfl
  rw [charges, List.length_append, none] at twice
  omega

theorem single_click_is_charged_once :
    OnceOnly trayCart (shelfOnly 3) (clicked (clickThrough "pm_1")).state := by
  have guarded : EachStep (Modal.step sampleServer customer "a@b.c" trayCart)
      (OneAtATime sampleServer customer) (.opened (shelfOnly 3)) (clickThrough "pm_1") := by
    simp only [clickThrough, eachStep_cons, eachStep_nil, and_true]
    refine ⟨fun _ => ⟨rfl, rfl, rfl⟩, trivial, ?_, trivial⟩
    rintro body ⟨⟩ user taken payment
    have buyer : user = 1 := by
      have login := (paid_eq_some.mp payment).1
      exact (Option.some.inj login).symm
    subst buyer
    refine ⟨⟨?_, rfl⟩, rfl⟩
    intro item member
    refine ⟨shelf 3, 1, 1, ?_⟩
    rw [List.mem_singleton.mp member]
    exact ⟨rfl, rfl, rfl, rfl⟩
  exact (once_only_along sampleServer customer "a@b.c" trayCart (shelfOnly 3) (clickThrough "pm_1")
    guarded).finish

end ProductSite.Checkout.Clicks
