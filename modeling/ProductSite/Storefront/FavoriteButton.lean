/- Module: ProductSite/Storefront/FavoriteButton
   source: react-router-bootstrap-app/src/context/FavoritesContext.jsx,
     react-router-bootstrap-app/src/components/FavoriteButton.jsx,
     react-router-bootstrap-app/src/components/SuperheroCard.jsx,
     react-router-bootstrap-app/src/pages/FavoritesPage.jsx, backend/app/routes/kit_routes.py
   digest: The hearts on the cards, the provider of the favorites and the page that lists them, as
     a client whose calls are answered later. -/

import Mathlib.Logic.Function.Basic
import ProductSite.Backend.Site
import ProductSite.Foundation.RemoteCalls

set_option autoImplicit false
set_option relaxedAutoImplicit false

namespace ProductSite.Storefront.FavoriteButton

open ProductSite.Foundation.RemoteCalls (Protocol System)
open ProductSite.Foundation.Wire (Reply)
open ProductSite.Backend.Accounts (Libraries)
open ProductSite.Backend.Models
open ProductSite.Backend.PersonalRoutes
open ProductSite.Backend.Site (SiteRequest siteStep)

/-- A mounted button. -/
structure Heart where
  characterId : Nat
  isFavorited : Bool
  deriving DecidableEq

/-- The favorites page while it is open. -/
structure Page where
  instanceId : Nat
  characters : List Kit

/-- The buttons by their instances, the `favorites` of the provider, and the page. Instances are
numbered, so that an answer for one that is gone does not reach a later one. -/
structure Client where
  buttons : Nat → Option Heart
  favorites : List Nat
  page : Option Page
  nextInstance : Nat

def Client.fresh : Client := ⟨fun _ => none, [], none, 0⟩

inductive Call where
  | look (button characterId : Nat)
  | toggle (button characterId : Nat) (isFavorited : Bool)
  | fetchFavorites
  | removeFavorite (characterId : Nat)
  | byIds (page : Nat) (ids : List Nat)
  deriving DecidableEq

inductive Answer where
  | listing (reply : Reply (List Favorite))
  | written (ok : Bool)
  | kits (rows : List Kit)

/-- The body of both places that add a favorite. -/
def characterBody (characterId : Nat) : AddFavoriteBody :=
  ⟨.absent, .value characterId, .absent, .absent, .absent⟩

/-- `get_kits_by_ids`, for a list of integers. -/
def getKitsByIds (db : Database) (ids : List Nat) : List Kit :=
  db.kits.rows.filter (fun kit => ids.contains kit.id)

/-- What the server answers to a call in the session of the page. -/
def handle (engine : Engine) (session : Session) (s : State) : Call → Answer × State
  | .look _ _ | .fetchFavorites =>
      (.listing (getFavorites session s none).1, (getFavorites session s none).2)
  | .toggle _ characterId true | .removeFavorite characterId =>
      (.written (deleteFavoriteByCharacter session s characterId).1.fetchOk,
        (deleteFavoriteByCharacter session s characterId).2)
  | .toggle _ characterId false =>
      (.written (addFavorite engine session s (characterBody characterId)).1.fetchOk,
        (addFavorite engine session s (characterBody characterId)).2)
  | .byIds _ ids => (.kits (getKitsByIds s.db ids), s)

/-- The kits of the favorites; saved searches have none. -/
def kitIds (data : List Favorite) : List Nat := data.filterMap Favorite.kitId

/-- `setFavorites`, with the effect that a new list has on the open page. -/
def setFavorites (client : Client) (favorites : List Nat) : Client × List Call :=
  match client.page with
  | none => ({ client with favorites := favorites }, [])
  | some page =>
      if favorites = [] then
        ({ client with favorites := [], page := some { page with characters := [] } }, [])
      else ({ client with favorites := favorites }, [.byIds page.instanceId favorites])

/-- The setter of an instance does nothing once the instance is gone. -/
def setIsFavorited (client : Client) (button : Nat) (value : Bool) : Client :=
  { client with
    buttons := Function.update client.buttons button
      ((client.buttons button).map fun heart => { heart with isFavorited := value }) }

def setCharacters (client : Client) (instanceId : Nat) (rows : List Kit) : Client :=
  { client with
    page := client.page.map fun page =>
      if page.instanceId = instanceId then { page with characters := rows } else page }

inductive PageEvent where
  | mountButton (characterId : Nat)
  | unmountButton (button : Nat)
  | press (button : Nat)
  | openPage
  | closePage
  | removeFavorite (characterId : Nat)

def act (client : Client) : PageEvent → Client × List Call
  | .mountButton characterId =>
      ({ client with
          buttons := Function.update client.buttons client.nextInstance (some ⟨characterId, false⟩)
          nextInstance := client.nextInstance + 1 },
        [.look client.nextInstance characterId])
  | .unmountButton button =>
      ({ client with buttons := Function.update client.buttons button none }, [])
  -- `handleToggleFavorite`: the method follows what the button shows
  | .press button =>
      match client.buttons button with
      | none => (client, [])
      | some heart => (client, [.toggle button heart.characterId heart.isFavorited])
  | .openPage =>
      ({ client with
          page := some ⟨client.nextInstance, []⟩
          nextInstance := client.nextInstance + 1 },
        .fetchFavorites ::
          if client.favorites = [] then [] else [.byIds client.nextInstance client.favorites])
  | .closePage => ({ client with page := none }, [])
  | .removeFavorite characterId => (client, [.removeFavorite characterId])

/-- What is done with an answer. An answer that is not ok is only reported on the console; the
button goes to the opposite of what it showed when it was pressed. -/
def receive (client : Client) : Call → Answer → Client × List Call
  | .look button characterId, .listing (.ok _ data) =>
      (setIsFavorited client button
        ((data.map Favorite.kitId).contains (some characterId)), [])
  | .toggle button _ isFavorited, .written true =>
      (setIsFavorited client button (!isFavorited), [.fetchFavorites])
  | .fetchFavorites, .listing (.ok _ data) => setFavorites client (kitIds data)
  | .removeFavorite characterId, .written true =>
      let (filtered, calls) := setFavorites client
        (client.favorites.filter (fun id => id ≠ characterId))
      (filtered, .fetchFavorites :: calls)
  | .byIds instanceId _, .kits rows => (setCharacters client instanceId rows, [])
  | _, _ => (client, [])

/-- The pages in a session, while others send requests of any kind. -/
def favoritesProtocol (libraries : Libraries) (server : Server) (session : Session) :
    Protocol Client State Call Answer PageEvent SiteRequest where
  act := act
  handle := handle server.engine session
  receive := receive
  other := siteStep libraries server

abbrev FavoritesSystem := System Client State Call Answer

/-- The pages are just opened, on a server in this state. -/
def FavoritesSystem.fresh (s : State) : FavoritesSystem := ⟨.fresh, s, [], []⟩

end ProductSite.Storefront.FavoriteButton
