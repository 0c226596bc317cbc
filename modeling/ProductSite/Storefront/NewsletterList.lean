/- Module: ProductSite/Storefront/NewsletterList
   source: react-router-bootstrap-app/src/pages/NewsLetterList.jsx
   digest: The page on which newsletters are composed, saved and sent, as a client whose calls are
     answered later. -/

import ProductSite.Backend.NewsletterMessages
import ProductSite.Foundation.RemoteCalls

set_option autoImplicit false
set_option relaxedAutoImplicit false

namespace ProductSite.Storefront.NewsletterList

open ProductSite.Foundation.RemoteCalls (Protocol System)
open ProductSite.Foundation.Wire (Reply)
open ProductSite.Backend.Models
open ProductSite.Backend.NewsletterMessages
open ProductSite.Backend.NewsletterRoutes (NewsletterValue unsubscribe)

/-- The state of the page. The available lists are none when what was answered is no list: the
page then fails to be drawn, and nothing on it can be used. -/
structure Page where
  newsletterValue : String
  availableLists : Option (List NewsletterValue)
  emails : List String
  emailSubject : String
  emailBody : String
  message : String
  error : String
  savedMessages : List NewsletterMessage

def Page.fresh : Page := ⟨"", some [], [], "", "", "", "", []⟩

inductive Call where
  | availableValues
  | fetchSavedMessages
  | fetchEmails (value : String)
  | sendNewsletter (subject body : String) (emails : List String)
  | saveNewsletter (value subject body : String)
  | deleteMessage (id : Nat)
  | unsubscribe (email : String)
  deriving DecidableEq

inductive Answer where
  | lists (reply : Reply (List NewsletterValue))
  | saved (reply : Reply (List NewsletterMessage))
  | emails (reply : Reply (List String))
  | created (reply : Reply NewsletterMessage)
  | text (reply : Reply String)

/-- What the page is shown under: the session and the accounts that the server checks, the address
that sends the mails, what the server reads of a text that stands unescaped in an address, and what
the browser says of an answer that is no JSON. -/
structure Setting where
  storage : Storage
  session : Session
  db : Database
  senderEmail : String
  queried : String → String
  notJson : String

/-- What the server answers to a call of the page. -/
def handle (setting : Setting) (s : Desk) : Call → Answer × Desk
  | .availableValues =>
      let (reply, s) := availableNewsletterValues setting.session setting.db s
      (.lists reply, s)
  | .fetchSavedMessages =>
      let (reply, s) := getAllMessages setting.session setting.db s
      (.saved reply, s)
  | .fetchEmails value =>
      let (reply, s) :=
        listByValue setting.storage setting.session setting.db s (some (setting.queried value))
      (.emails reply, s)
  | .sendNewsletter subject body emails =>
      let (reply, s) := sendNewsletter setting.senderEmail setting.session setting.db s
        ⟨.value subject, .value body, .value emails⟩
      (.text reply, s)
  | .saveNewsletter value subject body =>
      let (reply, s) := createMessage setting.storage setting.session setting.db s
        (MessageBody.ofTexts subject body value)
      (.created reply, s)
  | .deleteMessage id =>
      let (reply, s) := deleteMessage setting.session setting.db s id
      (.text reply, s)
  | .unsubscribe email =>
      let (reply, subscribers) :=
        unsubscribe setting.storage.engine s.subscribers (.value email)
      (.text reply, { s with subscribers := subscribers })

/-- An option of the list of values is written as a text. -/
def optionText : NewsletterValue → String
  | .number value => toString value
  | .text value => value

inductive PageEvent where
  -- the effect of the page runs again, as it does when the user is set again
  | effect
  -- the position among the available lists; none is the option that names no list
  | selectList (position : Option Nat)
  | fetchEmails
  | deleteEmail (position : Nat)
  | loadMessage (id : Nat)
  | typeSubject (text : String)
  | typeBody (text : String)
  | save
  | send
  | deleteMessage (id : Nat)

/-- What the effect of the page fetches. -/
def mountCalls : List Call := [.availableValues, .fetchSavedMessages]

/-- What an event of the page does once the page is drawn, with the available lists. -/
def actDrawn (page : Page) (lists : List NewsletterValue) : PageEvent → Page × List Call
  | .effect => (page, mountCalls)
  | .selectList position =>
      match position with
      | none => ({ page with newsletterValue := "" }, [])
      | some position =>
          match lists[position]? with
          | none => (page, [])
          | some value => ({ page with newsletterValue := optionText value }, [])
  | .fetchEmails =>
      if page.newsletterValue = "" then
        ({ page with error := "Please select a newsletter list." }, [])
      else (page, [.fetchEmails page.newsletterValue])
  | .deleteEmail position =>
      match page.emails[position]? with
      | none => (page, [])
      | some email => (page, [.unsubscribe email])
  | .loadMessage id =>
      match page.savedMessages.find? (fun message => message.id = id) with
      | none => (page, [])
      | some message =>
          ({ page with
              newsletterValue := message.newsletterValue
              emailSubject := message.subject
              emailBody := message.body }, [])
  | .typeSubject text => ({ page with emailSubject := text }, [])
  | .typeBody text => ({ page with emailBody := text }, [])
  | .save => (page, [.saveNewsletter page.newsletterValue page.emailSubject page.emailBody])
  -- the button is disabled while no list is selected
  | .send =>
      if page.newsletterValue = "" then (page, [])
      else (page, [.sendNewsletter page.emailSubject page.emailBody page.emails])
  | .deleteMessage id =>
      if page.savedMessages.any (fun message => message.id = id) then (page, [.deleteMessage id])
      else (page, [])

def act (page : Page) (event : PageEvent) : Page × List Call :=
  match page.availableLists with
  | none => (page, [])
  | some lists => actDrawn page lists event

/-- No event changes by itself what was fetched. -/
theorem act_fetched (page : Page) (event : PageEvent) :
    (act page event).1.savedMessages = page.savedMessages ∧
      (act page event).1.emails = page.emails := by
  unfold act
  cases page.availableLists with
  | none => exact ⟨rfl, rfl⟩
  | some lists =>
      simp only
      unfold actDrawn
      repeat' split
      all_goals exact ⟨rfl, rfl⟩

/-- An event sends nothing, the calls of the effect, or one call. -/
theorem act_calls (page : Page) (event : PageEvent) :
    (act page event).2 = [] ∨ (act page event).2 = mountCalls ∨
      ∃ call, (act page event).2 = [call] := by
  unfold act
  cases page.availableLists with
  | none => exact Or.inl rfl
  | some lists =>
      simp only
      unfold actDrawn
      repeat' split
      all_goals
        first
        | exact Or.inl rfl
        | exact Or.inr (Or.inl rfl)
        | exact Or.inr (Or.inr ⟨_, rfl⟩)

/-- A message is only deleted where its button is pressed. -/
theorem deleteMessage_of_act {page : Page} {event : PageEvent} {id : Nat}
    (sent : .deleteMessage id ∈ (act page event).2) : event = .deleteMessage id := by
  unfold act at sent
  split at sent
  · cases sent
  · unfold actDrawn at sent
    repeat' split at sent
    all_goals simp_all [mountCalls]

/-- Only e-mails that are shown are unsubscribed. -/
theorem unsubscribe_of_act {page : Page} {event : PageEvent} {email : String}
    (sent : .unsubscribe email ∈ (act page event).2) : email ∈ page.emails := by
  unfold act at sent
  split at sent
  · cases sent
  · unfold actDrawn at sent
    split at sent
    case h_4 position =>
      split at sent
      · cases sent
      · rename_i other here
        rw [List.mem_singleton] at sent
        cases sent
        exact List.mem_of_getElem? here
    all_goals
      repeat' split at sent
      all_goals simp_all [mountCalls]

/-- `data.error || fallback`, for an answer that is not ok. -/
def errorOr {β : Type} (reply : Reply β) (notJson fallback : String) : String :=
  match reply with
  | .error _ "" _ => fallback
  | .error _ text _ => text
  | .raised => notJson
  | .ok _ _ => fallback

/-- What is done with an answer. -/
def receive (setting : Setting) (page : Page) : Call → Answer → Page × List Call
  | .availableValues, .lists (.ok _ data) => ({ page with availableLists := some data }, [])
  | .availableValues, .lists (.error _ _ _) => ({ page with availableLists := none }, [])
  | .fetchSavedMessages, .saved (.ok _ data) => ({ page with savedMessages := data }, [])
  | .fetchEmails _, .emails (.ok _ data) => ({ page with emails := data, error := "" }, [])
  | .fetchEmails _, .emails reply =>
      ({ page with error := errorOr reply "Server error." "Failed to fetch emails." }, [])
  | .sendNewsletter _ _ _, .text (.ok _ _) =>
      ({ page with message := "Newsletter sent successfully!", error := "" }, [])
  | .sendNewsletter _ _ _, .text reply =>
      ({ page with error := errorOr reply setting.notJson "Failed to send newsletter" }, [])
  | .saveNewsletter _ _ _, .created (.ok _ _) =>
      ({ page with message := "Newsletter saved.", error := "" }, [.fetchSavedMessages])
  | .saveNewsletter _ _ _, .created reply =>
      ({ page with error := errorOr reply setting.notJson "Failed to save newsletter" }, [])
  | .deleteMessage id, .text (.ok _ _) =>
      ({ page with
          savedMessages := page.savedMessages.filter (fun message => message.id ≠ id) }, [])
  | .unsubscribe email, .text (.ok _ _) =>
      ({ page with
          emails := page.emails.filter (fun other => other ≠ email)
          message := "Unsubscribed " ++ email }, [])
  | .unsubscribe _, .text reply =>
      ({ page with error := errorOr reply "Server error." "Failed to unsubscribe." }, [])
  | _, _ => (page, [])

/-- An answer makes the page send nothing, or fetch the messages again. -/
theorem receive_calls (setting : Setting) (page : Page) (call : Call) (answer : Answer) :
    (receive setting page call answer).2 = [] ∨
      (receive setting page call answer).2 = [.fetchSavedMessages] := by
  unfold receive
  split
  all_goals first | exact Or.inl rfl | exact Or.inr rfl

def newsletterProtocol (setting : Setting) :
    Protocol Page Desk Call Answer PageEvent DeskRequest where
  act := act
  handle := handle setting
  receive := receive setting
  other := deskStep setting.storage setting.senderEmail setting.db

abbrev NewsletterSystem := System Page Desk Call Answer

/-- The page is just opened, at a desk in this state. -/
def NewsletterSystem.opened (s : Desk) : NewsletterSystem := ⟨.fresh, s, mountCalls, []⟩

end ProductSite.Storefront.NewsletterList
