/- Module: ProductSite/Storefront/CartProvider
   source: react-router-bootstrap-app/src/context/CartContext.jsx,
     react-router-bootstrap-app/src/context/UserContext.jsx,
     react-router-bootstrap-app/src/components/HeaderBar.jsx,
     react-router-bootstrap-app/src/pages/Login.jsx, backend/app/routes/auth_routes.py
   digest: The cart and the user that a browser holds, while people log in and out and calls are
     answered later. -/

import ProductSite.Backend.Site
import ProductSite.Foundation.RemoteCalls
import ProductSite.Storefront.CartContext

set_option autoImplicit false
set_option relaxedAutoImplicit false

namespace ProductSite.Storefront.CartProvider

open ProductSite.Foundation.RemoteCalls (Protocol System)
open ProductSite.Foundation.Wire (Reply)
open ProductSite.Backend.Accounts (Libraries LoginBody login)
open ProductSite.Backend.CartRoutes
open ProductSite.Backend.Models
open ProductSite.Backend.Site (ServerState SiteRequest Visit siteStep visitOutcome visitStep)
open ProductSite.Storefront.CartContext (CartAction refetches serve)

/-- The server with its sessions. A cookie names one; the next one is not in use yet. -/
structure Host where
  site : ServerState
  nextCookie : Nat

/-- The session of a request; without a cookie it is empty. -/
def Host.session (host : Host) : Option Nat → Session
  | none => ⟨none, none⟩
  | some cookie => host.site.sessions cookie

/-- What the two providers hold, and the cookie. The user stands for the object that was answered
for a session of theirs. The cart is none when what it was set to is no list. -/
structure Browser where
  currentUser : Option Nat
  cookie : Option Nat
  cart : Option (List CartDump)

/-- Every call takes the cookie along that the browser has when it is sent. -/
inductive Call where
  | checkLogin (cookie : Option Nat)
  | login (cookie : Option Nat) (body : LoginBody)
  | logout (cookie : Option Nat)
  | loadCart (cookie : Option Nat)
  | write (cookie : Option Nat) (request : CartRequest)
  | reloadCart (cookie : Option Nat)

inductive Answer where
  | user (user : Option Nat)
  | loggedIn (user : Nat) (cookie : Nat)
  | loggedOut
  | cart (reply : Reply (List CartDump))
  | done

/-- What the server answers. A login without a cookie is given a new session. -/
def handle (libraries : Libraries) (engine : Engine) (host : Host) : Call → Answer × Host
  | .checkLogin cookie => (.user (host.session cookie).user, host)
  | .login cookie body =>
      let visit : Visit := ⟨cookie.getD host.nextCookie, .login body⟩
      match (visitOutcome libraries engine host.site visit).write.given with
      | none => (.done, { host with site := visitStep libraries engine host.site visit })
      | some user =>
          (.loggedIn user visit.client,
            { host with
              site := visitStep libraries engine host.site visit
              nextCookie := if cookie.isNone then host.nextCookie + 1 else host.nextCookie })
  | .logout none => (.loggedOut, host)
  | .logout (some cookie) =>
      (.loggedOut, { host with site := visitStep libraries engine host.site ⟨cookie, .logout⟩ })
  | .loadCart cookie | .reloadCart cookie =>
      (.cart (getCart (host.session cookie) host.site.state).1, host)
  | .write cookie request =>
      (.done,
        { host with
          site := { host.site with
            state := (serve engine (host.session cookie) host.site.state request).2 } })

section Logins

variable {libraries : Libraries} {engine : Engine} {host : Host} {cookie : Option Nat}
  {body : LoginBody}

theorem handle_login_none
    (given : (visitOutcome libraries engine host.site
      ⟨cookie.getD host.nextCookie, .login body⟩).write.given = none) :
    handle libraries engine host (.login cookie body) =
      (.done, { host with
        site := visitStep libraries engine host.site
          ⟨cookie.getD host.nextCookie, .login body⟩ }) := by
  simp only [handle, given]

theorem handle_login_some {user : Nat}
    (given : (visitOutcome libraries engine host.site
      ⟨cookie.getD host.nextCookie, .login body⟩).write.given = some user) :
    (handle libraries engine host (.login cookie body)).1 =
        .loggedIn user (cookie.getD host.nextCookie) ∧
      (handle libraries engine host (.login cookie body)).2.site =
        visitStep libraries engine host.site ⟨cookie.getD host.nextCookie, .login body⟩ := by
  simp only [handle, given, and_self]

end Logins

inductive BrowserEvent where
  | login (body : LoginBody)
  | logout
  | cart (action : CartAction)

/-- An action needs a cart that is a list, and adding needs a user. -/
def act (browser : Browser) : BrowserEvent → Browser × List Call
  | .login body => (browser, [.login browser.cookie body])
  | .logout => (browser, [.logout browser.cookie])
  | .cart action =>
      match browser.cart, action, browser.currentUser with
      | none, _, _ => (browser, [])
      | some _, .addToCart _ _ _ _, none => (browser, [])
      | some cart, action, _ =>
          let (shown, request) := CartContext.act cart action
          ({ browser with cart := some shown }, (request.map (Call.write browser.cookie)).toList)

/-- An action does nothing, or it is performed on the cart and sends its request. -/
theorem act_cart_cases (browser : Browser) (action : CartAction) :
    act browser (.cart action) = (browser, []) ∨
      ∃ cart, browser.cart = some cart ∧ act browser (.cart action) =
        ({ browser with cart := some (CartContext.act cart action).1 },
          ((CartContext.act cart action).2.map (Call.write browser.cookie)).toList) := by
  simp only [act]
  split
  · exact Or.inl rfl
  · exact Or.inl rfl
  · rename_i here _
    exact Or.inr ⟨_, here, rfl⟩

/-- `setCurrentUser`, with the effect of the cart provider on a user that is not the old one. The
object of a user is always a new one. -/
def setCurrentUser (browser : Browser) : Option Nat → Browser × List Call
  | some user => ({ browser with currentUser := some user }, [.loadCart browser.cookie])
  | none =>
      if browser.currentUser.isNone then (browser, [])
      else ({ browser with currentUser := none, cart := some [] }, [])

def receive (browser : Browser) : Call → Answer → Browser × List Call
  | .checkLogin _, .user user => setCurrentUser browser user
  | .login _ _, .loggedIn user cookie => setCurrentUser { browser with cookie := some cookie } user
  | .logout _, _ => setCurrentUser { browser with cookie := none } none
  | .loadCart _, .cart (.ok _ data) => ({ browser with cart := some data }, [])
  | .loadCart _, _ => ({ browser with cart := some [] }, [])
  -- whatever the answer to a POST is, the cart is fetched again
  | .write _ request, _ =>
      (browser, if refetches request then [.reloadCart browser.cookie] else [])
  | .reloadCart _, .cart (.ok _ data) => ({ browser with cart := some data }, [])
  | .reloadCart _, .cart (.error _ _ _) => ({ browser with cart := none }, [])
  | _, _ => (browser, [])

/-- What happens on the server besides: requests from other browsers, and sessions that expire. -/
inductive HostRequest where
  | site (request : SiteRequest)
  | expire (cookie : Nat)

def hostStep (libraries : Libraries) (server : Server) (host : Host) : HostRequest → Host
  | .site request =>
      { host with
        site := { host.site with state := siteStep libraries server host.site.state request } }
  | .expire cookie =>
      { host with
        site := { host.site with
          sessions := Function.update host.site.sessions cookie ⟨none, none⟩ } }

def cartProtocol (libraries : Libraries) (server : Server) :
    Protocol Browser Host Call Answer BrowserEvent HostRequest where
  act := act
  handle := handle libraries server.engine
  receive := receive
  other := hostStep libraries server

abbrev CartSystem := System Browser Host Call Answer

/-- The site is opened in a browser that may still hold a cookie. -/
def CartSystem.opened (cookie : Option Nat) (host : Host) : CartSystem :=
  ⟨⟨none, cookie, some []⟩, host, [.checkLogin cookie], []⟩

end ProductSite.Storefront.CartProvider
