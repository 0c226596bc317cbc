/- Module: ProductSite/Cart/Privacy
   source: react-router-bootstrap-app/src/context/CartContext.jsx,
     react-router-bootstrap-app/src/context/UserContext.jsx, backend/app/routes/cart_routes.py
   digest: A browser shows a user no cart but their own, in every order of calls and answers, if
     people log in and out only while no cart is on its way. -/

import ProductSite.Access.Authentication
import ProductSite.Backend.Requests
import ProductSite.Storefront.CartProvider

set_option autoImplicit false
set_option relaxedAutoImplicit false

namespace ProductSite.Cart.Privacy

open ProductSite.Foundation.RemoteCalls
open ProductSite.Foundation.Runs
open ProductSite.Foundation.Wire (Reply)
open ProductSite.Access.Authentication (plainLibraries)
open ProductSite.Backend.Accounts (Libraries LoginBody)
open ProductSite.Backend.CartRoutes
open ProductSite.Backend.Models
open ProductSite.Backend.Requests (sampleServer shelfOnly)
open ProductSite.Backend.Site
open ProductSite.Storefront.CartContext (CartAction refetches serve)
open ProductSite.Storefront.CartProvider

/-- Every entry of the cart on the screen is one of the user who is logged in there. -/
def Private (browser : Browser) : Prop :=
  ∀ cart, browser.cart = some cart →
    ∀ entry ∈ cart, browser.currentUser = some entry.item.userId

/-- Calls that change who is logged in, or tell. -/
def account : Call → Bool
  | .checkLogin _ | .login _ _ | .logout _ => true
  | _ => false

/-- Calls that end in a new cart. -/
def loads : Call → Bool
  | .loadCart _ | .reloadCart _ => true
  | .write _ request => refetches request
  | _ => false

/-- People log in and out only when nothing of this is under way, log in only when nobody is
logged in, and add to the cart only when nobody is about to log in or out. -/
def Orderly (s : CartSystem) : Event BrowserEvent HostRequest → Prop
  | .act (.login _) => s.underWay.countP account = 0 ∧ s.underWay.countP loads = 0 ∧
      s.client.currentUser = none
  | .act .logout => s.underWay.countP account = 0 ∧ s.underWay.countP loads = 0
  | .act (.cart action) =>
      (act s.client (.cart action)).2.countP loads ≠ 0 → s.underWay.countP account = 0
  | _ => True

/-- The session of the cookie is one of the user on the screen, or of nobody. -/
def Agrees (browser : Browser) (host : Host) : Prop :=
  ∀ user, (host.session browser.cookie).user = some user → browser.currentUser = some user

def CallReady (browser : Browser) (host : Host) : Call → Prop
  | .checkLogin cookie => cookie = browser.cookie ∧ browser.currentUser = none
  | .login cookie _ => cookie = browser.cookie ∧ browser.currentUser = none ∧ Agrees browser host
  | .loadCart cookie | .reloadCart cookie => cookie = browser.cookie
  | .logout _ | .write _ _ => True

def AnswerFits (browser : Browser) (host : Host) : Call → Answer → Prop
  | .checkLogin cookie, answer =>
      cookie = browser.cookie ∧ browser.currentUser = none ∧
        ∃ user, answer = .user user ∧
          ∀ other, (host.session cookie).user = some other → user = some other
  | .login _ _, .loggedIn user cookie =>
      browser.currentUser = none ∧
        ∀ other, (host.session (some cookie)).user = some other → user = other
  | .login _ _, _ => Agrees browser host
  | .loadCart _, .cart (.ok _ data) | .reloadCart _, .cart (.ok _ data) =>
      ∀ entry ∈ data, browser.currentUser = some entry.item.userId
  | _, _ => True

/-- What holds while people are orderly. -/
structure Guarded (s : CartSystem) : Prop where
  shown : Private s.client
  single : s.underWay.countP account ≤ 1
  apart : s.underWay.countP account = 1 → s.underWay.countP loads = 0
  agrees : s.underWay.countP account = 0 → Agrees s.client s.server
  ready : ∀ call ∈ s.sent, CallReady s.client s.server call
  fits : ∀ entry ∈ s.answered, AnswerFits s.client s.server entry.1 entry.2

section Frames

variable {browser browser' : Browser} {host host' : Host}

/-- Calls that neither load nor concern the account are always ready, and their answers fit. -/
private theorem callReady_of_plain {call : Call} (other : account call = false)
    (plain : loads call = false) : CallReady browser host call := by
  cases call with
  | write cookie request => trivial
  | checkLogin cookie => cases other
  | login cookie body => cases other
  | logout cookie => cases other
  | loadCart cookie => cases plain
  | reloadCart cookie => cases plain

private theorem answerFits_of_plain {call : Call} {answer : Answer} (other : account call = false)
    (plain : loads call = false) : AnswerFits browser host call answer := by
  cases call with
  | write cookie request => trivial
  | checkLogin cookie => cases other
  | login cookie body => cases other
  | logout cookie => cases other
  | loadCart cookie => cases plain
  | reloadCart cookie => cases plain

private theorem answerFits_cart {reply : Reply (List CartDump)}
    (owned : ∀ status data, reply = .ok status data →
      ∀ entry ∈ data, browser.currentUser = some entry.item.userId) (cookie : Option Nat) :
    AnswerFits browser host (.loadCart cookie) (.cart reply) ∧
      AnswerFits browser host (.reloadCart cookie) (.cart reply) := by
  cases reply with
  | ok status data => exact ⟨owned status data rfl, owned status data rfl⟩
  | error status message details => exact ⟨trivial, trivial⟩
  | raised => exact ⟨trivial, trivial⟩

/-- A host that has lost some sessions and gained none. -/
def Fewer (host' host : Host) : Prop :=
  ∀ cookie user, (host'.session cookie).user = some user → (host.session cookie).user = some user

theorem Agrees.fewer (agrees : Agrees browser host) (fewer : Fewer host' host) :
    Agrees browser host' :=
  fun user found => agrees user (fewer _ user found)

theorem CallReady.fewer {call : Call} (ready : CallReady browser host call)
    (fewer : Fewer host' host) : CallReady browser host' call := by
  cases call with
  | login cookie body => exact ⟨ready.1, ready.2.1, ready.2.2.fewer fewer⟩
  | _ => exact ready

theorem AnswerFits.fewer {call : Call} {answer : Answer}
    (fits : AnswerFits browser host call answer) (fewer : Fewer host' host) :
    AnswerFits browser host' call answer := by
  cases call with
  | checkLogin cookie =>
      obtain ⟨same, nobody, user, rfl, found⟩ := fits
      exact ⟨same, nobody, user, rfl, fun other here => found other (fewer _ other here)⟩
  | login cookie body =>
      cases answer with
      | loggedIn user given =>
          exact ⟨fits.1, fun other here => fits.2 other (fewer _ other here)⟩
      | _ => exact Agrees.fewer fits fewer
  | loadCart cookie =>
      cases answer with
      | cart reply => cases reply with
        | _ => exact fits
      | _ => exact fits
  | reloadCart cookie =>
      cases answer with
      | cart reply => cases reply with
        | _ => exact fits
      | _ => exact fits
  | _ => trivial

/-- Nothing that is ready or fits depends on the cart on the screen. -/
theorem CallReady.sameUser {call : Call} (ready : CallReady browser host call)
    (user : browser'.currentUser = browser.currentUser)
    (cookie : browser'.cookie = browser.cookie) : CallReady browser' host call := by
  unfold CallReady Agrees at *
  rw [user, cookie]
  exact ready

theorem AnswerFits.sameUser {call : Call} {answer : Answer}
    (fits : AnswerFits browser host call answer)
    (user : browser'.currentUser = browser.currentUser)
    (cookie : browser'.cookie = browser.cookie) : AnswerFits browser' host call answer := by
  unfold AnswerFits Agrees at *
  rw [user, cookie]
  exact fits

end Frames

section Acts

/-- An action on the cart brings in no entry of anybody else. -/
private theorem owner_of_act {cart : List CartDump} {action : CartAction} {entry : CartDump}
    (member : entry ∈ (Storefront.CartContext.act cart action).1) :
    ∃ old ∈ cart, old.item.userId = entry.item.userId := by
  have mapped : ∀ change : CartItem → CartItem, (∀ item, (change item).userId = item.userId) →
      entry ∈ cart.map (Storefront.CartContext.CartDump.onItem change) →
        ∃ old ∈ cart, old.item.userId = entry.item.userId := by
    intro change owner inside
    obtain ⟨old, present, rfl⟩ := List.mem_map.mp inside
    exact ⟨old, present, (owner old.item).symm⟩
  cases action with
  | addToCart kitId inventoryId inventories selected =>
      simp only [Storefront.CartContext.act] at member
      split at member
      · exact ⟨entry, member, rfl⟩
      · rename_i chosen _
        simp only [Storefront.CartContext.addChosen] at member
        split at member
        · refine mapped _ ?_ member
          intro item
          unfold Storefront.CartContext.addOne
          split <;> rfl
        · exact ⟨entry, member, rfl⟩
  | updateQuantity id quantity =>
      refine mapped _ ?_ member
      intro item
      unfold Storefront.CartContext.withQuantity
      split <;> rfl
  | removeFromCart id => exact ⟨entry, (List.mem_filter.mp member).1, rfl⟩
  | clearCart => cases member

/-- An action on the cart sends writes only, and leaves the user and the cookie alone. -/
private theorem act_cart (browser : Browser) (action : CartAction) :
    (act browser (.cart action)).1.currentUser = browser.currentUser ∧
      (act browser (.cart action)).1.cookie = browser.cookie ∧
      (act browser (.cart action)).2.countP account = 0 ∧
      ∀ call ∈ (act browser (.cart action)).2, ∃ cookie request, call = .write cookie request := by
  rcases act_cart_cases browser action with still | ⟨cart, -, performed⟩
  · rw [still]
    exact ⟨rfl, rfl, rfl, by simp⟩
  · rw [performed]
    cases (Storefront.CartContext.act cart action).2 with
    | none => exact ⟨rfl, rfl, rfl, by simp⟩
    | some request =>
        refine ⟨rfl, rfl, rfl, ?_⟩
        intro call member
        rw [List.mem_singleton.mp member]
        exact ⟨_, _, rfl⟩

private theorem private_act_cart {browser : Browser} (shown : Private browser)
    (action : CartAction) :
    Private (act browser (.cart action)).1 := by
  rcases act_cart_cases browser action with still | ⟨cart, here, performed⟩
  · rw [still]
    exact shown
  · rw [performed]
    rintro _ ⟨⟩ entry member
    obtain ⟨old, present, owner⟩ := owner_of_act member
    rw [← owner]
    exact shown cart here old present

variable {libraries : Libraries} {server : Server} {s : CartSystem}

theorem Guarded.acting (before : Guarded s) {event : BrowserEvent}
    (orderly : Orderly s (.act event)) :
    Guarded (s.acting (cartProtocol libraries server) event) := by
  have count : ∀ p : Call → Bool,
      (s.acting (cartProtocol libraries server) event).underWay.countP p =
        s.underWay.countP p + (act s.client event).2.countP p := by
    intro p
    rw [(System.underWay_acting _ event).countP_eq, List.countP_append]
    rfl
  cases event with
  | login body =>
      obtain ⟨no_account, no_load, nobody⟩ := orderly
      have accounts := count account
      have loading := count loads
      rw [no_account] at accounts
      rw [no_load] at loading
      refine ⟨before.shown, accounts.le, fun _ => loading, ?_, ?_, before.fits⟩
      · intro none_left
        rw [accounts] at none_left
        cases none_left
      · intro call member
        rcases List.mem_append.mp member with old | new
        · exact before.ready call old
        · rw [List.mem_singleton.mp new]
          exact ⟨rfl, nobody, before.agrees no_account⟩
  | logout =>
      obtain ⟨no_account, no_load⟩ := orderly
      have accounts := count account
      have loading := count loads
      rw [no_account] at accounts
      rw [no_load] at loading
      refine ⟨before.shown, accounts.le, fun _ => loading, ?_, ?_, before.fits⟩
      · intro none_left
        rw [accounts] at none_left
        cases none_left
      · intro call member
        rcases List.mem_append.mp member with old | new
        · exact before.ready call old
        · rw [List.mem_singleton.mp new]
          trivial
  | cart action =>
      obtain ⟨user, cookie, silent, writes⟩ := act_cart s.client action
      have accounts := count account
      have loading := count loads
      rw [silent, Nat.add_zero] at accounts
      have waits : (act s.client (.cart action)).2.countP loads ≠ 0 →
          s.underWay.countP account = 0 := orderly
      refine ⟨private_act_cart before.shown action, accounts ▸ before.single, ?_, ?_, ?_, ?_⟩
      · intro one
        rw [accounts] at one
        have unloaded := before.apart one
        by_cases quiet : (act s.client (.cart action)).2.countP loads = 0
        · omega
        · have nothing := waits quiet
          omega
      · intro none_left
        rw [accounts] at none_left
        have agrees := before.agrees none_left
        intro other found
        rw [System.acting] at found ⊢
        simp only [cartProtocol, user, cookie] at found ⊢
        exact agrees other found
      · intro call member
        rcases List.mem_append.mp member with old | new
        · exact (before.ready call old).sameUser user cookie
        · obtain ⟨_, _, rfl⟩ := writes call new
          trivial
      · intro entry member
        exact (before.fits entry member).sameUser user cookie

end Acts

section Serving

variable {libraries : Libraries} {server : Server} {s : CartSystem}

private theorem fewer_of_sessions {host host' : Host}
    (same : host'.site.sessions = host.site.sessions) :
    Fewer host' host := by
  intro cookie user found
  cases cookie with
  | none => exact found
  | some cookie =>
      rw [Host.session, same] at found
      exact found

/-- A request that logs nobody in leaves every session as it is, or empty. -/
private theorem fewer_visit {host : Host} {visit : Visit}
    (nobody : (visitOutcome libraries server.engine host.site visit).write.given = none) :
    Fewer { host with site := visitStep libraries server.engine host.site visit } host := by
  intro cookie user found
  cases cookie with
  | none => exact found
  | some cookie =>
      simp only [Host.session, visitStep] at found ⊢
      by_cases here : cookie = visit.client
      · subst here
        rw [Function.update_self] at found
        revert nobody found
        cases (visitOutcome libraries server.engine host.site visit).write with
        | keep => exact fun _ found => found
        | clear => exact fun _ found => by cases found
        | login given role => exact fun nobody _ => by cases nobody
        | userOnly given => exact fun nobody _ => by cases nobody
      · rw [Function.update_of_ne here] at found
        exact found

private theorem user_of_visit {host : Host} {visit : Visit} {user other : Nat}
    (given : (visitOutcome libraries server.engine host.site visit).write.given = some user)
    (found : ((visitStep libraries server.engine host.site visit).sessions visit.client).user =
      some other) : user = other := by
  simp only [visitStep, Function.update_self] at found
  revert given found
  cases (visitOutcome libraries server.engine host.site visit).write with
  | keep => exact fun given _ => by cases given
  | clear => exact fun given _ => by cases given
  | login logged role =>
      intro given found
      obtain ⟨same, -⟩ := Option.filter_eq_some_iff.mp found
      exact Option.some.inj (given.symm.trans same)
  | userOnly logged =>
      intro given found
      obtain ⟨same, -⟩ := Option.filter_eq_some_iff.mp found
      exact Option.some.inj (given.symm.trans same)

/-- The cart that is answered is that of the user of the session. -/
private theorem owner_of_getCart {session : Session} {state : State} {status : Nat}
    {data : List CartDump}
    (answered : (getCart session state).1 = .ok status data) {entry : CartDump}
    (member : entry ∈ data) : session.user = some entry.item.userId := by
  unfold getCart loginRequired at answered
  cases login : session.user with
  | none =>
      rw [login] at answered
      cases answered
  | some user =>
      rw [login] at answered
      cases answered
      obtain ⟨item, stored, rfl⟩ := List.mem_map.mp member
      have owner : item.userId = user := by simpa using (List.mem_filter.mp stored).2
      rw [← owner]
      rfl

/-- A call is served that logs nobody in. -/
theorem Guarded.served (before : Guarded s) {first last : List Call} {call : Call}
    (sent : s.sent = first ++ call :: last)
    (fewer : Fewer ((cartProtocol libraries server).handle s.server call).2 s.server)
    (fits : AnswerFits s.client ((cartProtocol libraries server).handle s.server call).2 call
      ((cartProtocol libraries server).handle s.server call).1) :
    Guarded (s.serving (cartProtocol libraries server) call (first ++ last)) := by
  have count := fun p => (System.underWay_serving (cartProtocol libraries server) sent).countP_eq p
  refine ⟨before.shown, ?_, ?_, ?_, ?_, ?_⟩
  · rw [count]
    exact before.single
  · rw [count, count]
    exact before.apart
  · rw [count]
    exact fun none_left => (before.agrees none_left).fewer fewer
  · intro other member
    exact (before.ready other (mem_of_rest sent member)).fewer fewer
  · intro entry member
    rcases List.mem_append.mp member with old | new
    · exact (before.fits entry old).fewer fewer
    · rw [List.mem_singleton.mp new]
      exact fits

/-- While an account call is served, everything else under way is plain. -/
theorem Guarded.alone (before : Guarded s) {first last : List Call} {call : Call}
    (sent : s.sent = first ++ call :: last) (asks : account call = true) :
    (∀ other ∈ first ++ last, account other = false ∧ loads other = false) ∧
      ∀ entry ∈ s.answered, account entry.1 = false ∧ loads entry.1 = false := by
  obtain ⟨others, answers⟩ := System.others_of_serving before.single sent asks
  have present : call ∈ s.underWay := List.mem_append_left _ (by simp [sent])
  have some_account : 0 < s.underWay.countP account := List.countP_pos_iff.mpr ⟨call, present, asks⟩
  have unloaded : s.underWay.countP loads = 0 := by
    apply before.apart
    have single := before.single
    omega
  constructor
  · intro other member
    have under : other ∈ s.underWay := List.mem_append_left _ (mem_of_rest sent member)
    exact ⟨others other member, by simpa using List.countP_eq_zero.mp unloaded other under⟩
  · intro entry member
    have under : entry.1 ∈ s.underWay :=
      List.mem_append_right _ (List.mem_map_of_mem member)
    exact ⟨answers entry member, by simpa using List.countP_eq_zero.mp unloaded entry.1 under⟩

theorem Guarded.loggedIn (before : Guarded s) {first last : List Call} {cookie : Option Nat}
    {body : LoginBody} {user given : Nat} (sent : s.sent = first ++ .login cookie body :: last)
    (nobody : s.client.currentUser = none)
    (answer : (handle libraries server.engine s.server (.login cookie body)).1 =
      .loggedIn user given)
    (found : ∀ other, ((handle libraries server.engine s.server (.login cookie body)).2.session
      (some given)).user = some other → user = other) :
    Guarded (s.serving (cartProtocol libraries server) (.login cookie body) (first ++ last)) := by
  have present : .login cookie body ∈ s.sent := by simp [sent]
  obtain ⟨others, answers⟩ := before.alone sent rfl
  have count := fun p => (System.underWay_serving (cartProtocol libraries server) sent).countP_eq p
  refine ⟨before.shown, ?_, ?_, ?_, ?_, ?_⟩
  · rw [count]
    exact before.single
  · rw [count, count]
    exact before.apart
  · rw [count]
    intro none_left
    have low := List.countP_eq_zero.mp none_left _ (List.mem_append_left _ present)
    exact (low rfl).elim
  · intro other member
    exact callReady_of_plain (others other member).1 (others other member).2
  · intro entry member
    rcases List.mem_append.mp member with old | new
    · exact answerFits_of_plain (answers entry old).1 (answers entry old).2
    · rw [List.mem_singleton.mp new]
      simp only [cartProtocol, answer]
      exact ⟨nobody, found⟩

theorem Guarded.serving (before : Guarded s) {first last : List Call} {call : Call}
    (sent : s.sent = first ++ call :: last) :
    Guarded (s.serving (cartProtocol libraries server) call (first ++ last)) := by
  have present : call ∈ s.sent := by simp [sent]
  have ready := before.ready call present
  have same_host : Fewer s.server s.server := fewer_of_sessions rfl
  -- a cart is only loaded while the session is that of the user on the screen
  have owned : ∀ cookie, loads call = true → cookie = s.client.cookie → ∀ status data,
      (getCart (s.server.session cookie) s.server.site.state).1 = .ok status data →
        ∀ entry ∈ data, s.client.currentUser = some entry.item.userId := by
    intro cookie loading same status data answered entry member
    have some_load : 0 < s.underWay.countP loads :=
      List.countP_pos_iff.mpr ⟨call, List.mem_append_left _ present, loading⟩
    have agrees : Agrees s.client s.server := by
      apply before.agrees
      have single := before.single
      have apart := before.apart
      omega
    apply agrees
    rw [← same]
    exact owner_of_getCart answered member
  cases call with
  | checkLogin cookie =>
      refine before.served sent same_host ?_
      exact ⟨ready.1, ready.2, _, rfl, fun other here => here⟩
  | login cookie body =>
      obtain ⟨same, nobody, agrees⟩ := ready
      cases given : (visitOutcome libraries server.engine s.server.site
          ⟨cookie.getD s.server.nextCookie, .login body⟩).write.given with
      | none =>
          have handled := handle_login_none given
          have fewer : Fewer (handle libraries server.engine s.server (.login cookie body)).2
              s.server := by
            rw [handled]
            exact fewer_visit given
          refine before.served sent fewer ?_
          simp only [cartProtocol]
          rw [handled] at fewer ⊢
          exact agrees.fewer fewer
      | some user =>
          obtain ⟨answer, sessions⟩ := handle_login_some given
          exact before.loggedIn sent nobody answer
            (fun other found => user_of_visit given (by rwa [Host.session, sessions] at found))
  | logout cookie =>
      cases cookie with
      | none => exact before.served sent same_host trivial
      | some cookie => exact before.served sent (fewer_visit rfl) trivial
  | loadCart cookie =>
      refine before.served sent same_host ?_
      exact (answerFits_cart (owned cookie rfl ready) cookie).1
  | reloadCart cookie =>
      refine before.served sent same_host ?_
      exact (answerFits_cart (owned cookie rfl ready) cookie).2
  | write cookie request => exact before.served sent (fewer_of_sessions rfl) trivial

end Serving

section Receiving

variable {libraries : Libraries} {server : Server} {s : CartSystem}

/-- An answer that does not concern the account leaves the user and the cookie as they are, shows
what fits, and leads to a load only if it was itself on the way to one. -/
theorem Guarded.received (before : Guarded s) {first last : List (Call × Answer)} {call : Call}
    {answer : Answer} (answered : s.answered = first ++ (call, answer) :: last)
    (other : account call = false)
    (user : (receive s.client call answer).1.currentUser = s.client.currentUser)
    (cookie : (receive s.client call answer).1.cookie = s.client.cookie)
    (shown : Private (receive s.client call answer).1)
    (silent : (receive s.client call answer).2.countP account = 0)
    (loading : (receive s.client call answer).2.countP loads ≤ if loads call then 1 else 0)
    (ready : ∀ next ∈ (receive s.client call answer).2,
      CallReady (receive s.client call answer).1 s.server next) :
    Guarded (s.receiving (cartProtocol libraries server) call answer (first ++ last)) := by
  have count := fun p => (System.underWay_receiving (cartProtocol libraries server)
    answered).countP_eq p
  simp only [List.countP_cons, List.countP_append] at count
  have accounts := count account
  have carts := count loads
  simp only [cartProtocol, other, Bool.false_eq_true, if_false] at accounts carts silent loading
  refine ⟨shown, ?_, ?_, ?_, ?_, ?_⟩
  · have single := before.single
    simp only [cartProtocol]
    omega
  · intro one
    have unloaded := before.apart (by simp only [cartProtocol] at one; omega)
    simp only [cartProtocol]
    omega
  · intro none_left
    have agrees := before.agrees (by simp only [cartProtocol] at none_left; omega)
    intro owner found
    simp only [System.receiving, cartProtocol, user, cookie] at found ⊢
    exact agrees owner found
  · intro next member
    rcases List.mem_append.mp member with old | new
    · exact (before.ready next old).sameUser user cookie
    · exact ready next new
  · intro entry member
    exact (before.fits entry (mem_of_rest answered member)).sameUser user cookie

/-- The answer to an account call finds nothing else under way that matters. -/
private theorem Guarded.switched (before : Guarded s) {first last : List (Call × Answer)}
    {call : Call} {answer : Answer} (answered : s.answered = first ++ (call, answer) :: last)
    (asks : account call = true)
    (shown : Private (receive s.client call answer).1)
    (agrees : Agrees (receive s.client call answer).1 s.server)
    (silent : (receive s.client call answer).2.countP account = 0)
    (ready : ∀ next ∈ (receive s.client call answer).2,
      CallReady (receive s.client call answer).1 s.server next) :
    Guarded (s.receiving (cartProtocol libraries server) call answer (first ++ last)) := by
  have count := (System.underWay_receiving (cartProtocol libraries server)
    answered).countP_eq account
  have present : (call, answer) ∈ s.answered := by simp [answered]
  have under : call ∈ s.underWay := List.mem_append_right _ (List.mem_map_of_mem present)
  have some_account : 0 < s.underWay.countP account := List.countP_pos_iff.mpr ⟨call, under, asks⟩
  have single := before.single
  have unloaded : s.underWay.countP loads = 0 := before.apart (by omega)
  obtain ⟨unsent, rest⟩ := System.others_of_receiving before.single answered asks
  simp only [List.countP_cons, List.countP_append, asks, if_true, cartProtocol, silent] at count
  have nothing : (s.receiving (cartProtocol libraries server) call answer
      (first ++ last)).underWay.countP account = 0 := by
    simp only [cartProtocol]
    omega
  refine ⟨shown, by omega, by omega, fun _ => agrees, ?_, ?_⟩
  · intro next member
    rcases List.mem_append.mp member with old | new
    · have plain := List.countP_eq_zero.mp unloaded next (List.mem_append_left _ old)
      exact callReady_of_plain (unsent next old) (by simpa using plain)
    · exact ready next new
  · intro entry member
    have old : entry.1 ∈ s.underWay :=
      List.mem_append_right _ (List.mem_map_of_mem (mem_of_rest answered member))
    have plain := List.countP_eq_zero.mp unloaded entry.1 old
    exact answerFits_of_plain (rest entry member) (by simpa using plain)

/-- Where nobody is logged in, nothing is shown that could be anybody's. -/
private theorem private_of_nobody {browser browser' : Browser} (shown : Private browser)
    (nobody : browser.currentUser = none) (same : browser'.cart = browser.cart) :
    Private browser' := by
  intro cart here entry member
  have owner := shown cart (same ▸ here) entry member
  rw [nobody] at owner
  cases owner

/-- A user is set on a screen on which nobody was logged in. -/
private theorem Guarded.arrives (before : Guarded s) {first last : List (Call × Answer)}
    {call : Call} {answer : Answer} (answered : s.answered = first ++ (call, answer) :: last)
    (asks : account call = true) (nobody : s.client.currentUser = none) {user : Nat}
    {browser : Browser}
    (received : receive s.client call answer = setCurrentUser browser (some user))
    (cart : browser.cart = s.client.cart)
    (found : ∀ other, (s.server.session browser.cookie).user = some other → user = other) :
    Guarded (s.receiving (cartProtocol libraries server) call answer (first ++ last)) := by
  apply before.switched answered asks
  · rw [received]
    exact private_of_nobody before.shown nobody cart
  · rw [received]
    intro other here
    rw [← found other here]
    rfl
  · rw [received]
    rfl
  · rw [received]
    intro next member
    rw [List.mem_singleton.mp member]
    rfl

theorem Guarded.receiving (before : Guarded s) {first last : List (Call × Answer)} {call : Call}
    {answer : Answer} (answered : s.answered = first ++ (call, answer) :: last) :
    Guarded (s.receiving (cartProtocol libraries server) call answer (first ++ last)) := by
  have present : (call, answer) ∈ s.answered := by simp [answered]
  have fits := before.fits _ present
  cases call with
  | checkLogin cookie =>
      obtain ⟨same, nobody, user, rfl, found⟩ := fits
      cases user with
      | some user =>
          refine before.arrives answered rfl nobody rfl rfl ?_
          intro other here
          exact Option.some.inj (found other (same ▸ here))
      | none =>
          have still : receive s.client (.checkLogin cookie) (.user none) = (s.client, []) := by
            simp [receive, setCurrentUser, nobody]
          apply before.switched answered rfl <;> rw [still]
          · exact before.shown
          · intro other here
            cases found other (same ▸ here)
          · rfl
          · exact fun next member => by cases member
  | login cookie body =>
      cases answer with
      | loggedIn user given => exact before.arrives answered rfl fits.1 rfl rfl fits.2
      | _ => exact before.switched answered rfl before.shown fits rfl (by simp [receive])
  | logout cookie =>
      apply before.switched answered rfl
      · simp only [receive, setCurrentUser]
        split
        · exact before.shown
        · rintro _ ⟨⟩ entry member
          cases member
      · simp only [receive, setCurrentUser]
        split
        · exact fun other found => by cases found
        · exact fun other found => by cases found
      · simp only [receive, setCurrentUser]
        split <;> rfl
      · simp only [receive, setCurrentUser]
        split <;> simp
  | loadCart cookie =>
      have emptied : Private { s.client with cart := some [] } := by
        rintro _ ⟨⟩ entry member
        cases member
      cases answer with
      | cart reply =>
          cases reply with
          | ok status data =>
              refine before.received answered rfl rfl rfl ?_ rfl (Nat.zero_le _) (by simp [receive])
              rintro _ ⟨⟩ entry member
              exact fits entry member
          | _ =>
              exact before.received answered rfl rfl rfl emptied rfl (Nat.zero_le _)
                (by simp [receive])
      | _ =>
          exact before.received answered rfl rfl rfl emptied rfl (Nat.zero_le _) (by simp [receive])
  | reloadCart cookie =>
      cases answer with
      | cart reply =>
          cases reply with
          | ok status data =>
              refine before.received answered rfl rfl rfl ?_ rfl (Nat.zero_le _) (by simp [receive])
              rintro _ ⟨⟩ entry member
              exact fits entry member
          | error status message details =>
              refine before.received answered rfl rfl rfl ?_ rfl (Nat.zero_le _) (by simp [receive])
              intro cart shown
              cases shown
          | raised =>
              exact before.received answered rfl rfl rfl before.shown rfl (Nat.zero_le _)
                (by simp [receive])
      | _ =>
          exact before.received answered rfl rfl rfl before.shown rfl (Nat.zero_le _)
            (by simp [receive])
  | write cookie request =>
      refine before.received answered rfl rfl rfl before.shown ?_ ?_ ?_
      · simp only [receive]
        split <;> rfl
      · cases again : refetches request with
        | true => simp [receive, loads, again]
        | false => simp [receive, loads, again]
      · intro next member
        simp only [receive] at member
        split at member
        · rw [List.mem_singleton.mp member]
          rfl
        · cases member

theorem Guarded.disturbed (before : Guarded s) (request : HostRequest) :
    Guarded (s.disturbed (cartProtocol libraries server) request) := by
  have fewer : Fewer (hostStep libraries server s.server request) s.server := by
    cases request with
    | site request => exact fewer_of_sessions rfl
    | expire cookie =>
        intro other user found
        cases other with
        | none => exact found
        | some other =>
            simp only [hostStep, Host.session] at found ⊢
            by_cases here : other = cookie
            · subst here
              rw [Function.update_self] at found
              cases found
            · rw [Function.update_of_ne here] at found
              exact found
  refine ⟨before.shown, before.single, before.apart, ?_, ?_, ?_⟩
  · exact fun none_left => (before.agrees none_left).fewer fewer
  · exact fun call member => (before.ready call member).fewer fewer
  · exact fun entry member => (before.fits entry member).fewer fewer

end Receiving

private theorem guarded_opened (cookie : Option Nat) (host : Host) :
    Guarded (CartSystem.opened cookie host) := by
  refine ⟨?_, Nat.le_refl 1, fun _ => rfl, ?_, ?_, ?_⟩
  · rintro _ ⟨⟩ entry member
    cases member
  · intro none_left
    cases none_left
  · intro call member
    rw [List.mem_singleton.mp member]
    exact ⟨rfl, rfl⟩
  · intro entry member
    cases member

section Samples

/-- A server on which the cart of ann, the first user, holds an item. -/
def annsHost : Host where
  site := .fresh { shelfOnly 3 with
    db := { (shelfOnly 3).db with
      cartItems := ⟨[⟨1, 1, 1, some 1, 2⟩], by decide, by decide⟩ } }
  nextCookie := 0

/-- Nobody is logged in when the site is opened, and ann logs in. -/
def annLogsIn : List (Event BrowserEvent HostRequest) :=
  [.serve 0, .receive 0, .act (.login ⟨.value "ann", .value "hash-1"⟩), .serve 0, .receive 0]

end Samples

/-- Logging out before the cart has arrived leaves it on the screen. -/
example :
    let protocol := cartProtocol plainLibraries sampleServer
    let left := run (step protocol) (CartSystem.opened none annsHost)
      (annLogsIn ++ [.serve 0, .act .logout, .serve 0, .receive 1, .receive 0])
    left.client.currentUser = none ∧
      left.client.cart.map (List.map fun entry => entry.item.userId) = some [1] := by
  decide

end ProductSite.Cart.Privacy
