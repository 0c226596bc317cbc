/- Module: ProductSite/Personal/NewsletterDesk
   source: react-router-bootstrap-app/src/pages/NewsLetterList.jsx,
     backend/app/routes/newsletter_message_routes.py, backend/app/routes/newsletter_routes.py
   digest: What the page of the newsletters shows of the saved messages and of the subscribers,
     and whom a newsletter is sent to. -/

import ProductSite.Backend.Requests
import ProductSite.Foundation.Views
import ProductSite.Personal.Newsletter
import ProductSite.Storefront.NewsletterList

set_option autoImplicit false
set_option relaxedAutoImplicit false

namespace ProductSite.Personal.NewsletterDesk

open ProductSite.Foundation.KeyedTable (Table)
open ProductSite.Foundation.RemoteCalls
open ProductSite.Foundation.Runs
open ProductSite.Foundation.Views
open ProductSite.Foundation.Wire (JsonField Reply)
open ProductSite.Backend.ContentRoutes (adminOnly_admin)
open ProductSite.Backend.Models
open ProductSite.Backend.NewsletterMessages
open ProductSite.Backend.NewsletterRoutes
open ProductSite.Backend.Requests
open ProductSite.Personal.Newsletter (OneRowEach)
open ProductSite.Storefront.NewsletterList

/-- The page is that of an administrator. -/
def Admin (setting : Setting) : Prop :=
  ∃ user, setting.session.user = some user ∧ isAdmin setting.db user = true

section Drafts

/-- The messages are those of the table, the newest ones first. -/
def Lists (shown stored : List NewsletterMessage) : Prop :=
  shown.Perm stored ∧ shown.Pairwise (fun a b => b.sentAt ≤ a.sentAt)

private theorem lists_newestFirst (stored : List NewsletterMessage) :
    Lists (newestFirst stored) stored := by
  have sorted : (newestFirst stored).Pairwise
      (fun a b => decide (b.sentAt ≤ a.sentAt) = true) := by
    apply List.pairwise_mergeSort
    · intro a b c first second
      simp only [decide_eq_true_eq] at *
      omega
    · intro a b
      simp only [Bool.or_eq_true, decide_eq_true_eq]
      omega
  refine ⟨List.mergeSort_perm _ _, ?_⟩
  simpa using sorted

theorem Lists.filter {shown stored : List NewsletterMessage} (lists : Lists shown stored)
    (p : NewsletterMessage → Bool) : Lists (shown.filter p) (stored.filter p) :=
  ⟨lists.1.filter p, lists.2.filter p⟩

def aboutMessages : Call → Bool
  | .fetchSavedMessages | .saveNewsletter _ _ _ | .deleteMessage _ => true
  | _ => false

def fetchesMessages : Call → Bool
  | .fetchSavedMessages => true
  | _ => false

/-- What an answer says about the table when nothing else was served in between. -/
def MessagesFit (shown stored : List NewsletterMessage) : Call → Answer → Prop
  | .fetchSavedMessages, .saved (.ok _ data) => Lists data stored
  | .fetchSavedMessages, _ => False
  -- a message that was stored is not shown yet, but the list is fetched again
  | .saveNewsletter _ _ _, .created (.ok _ _) => True
  | .saveNewsletter _ _ _, _ => Lists shown stored
  | .deleteMessage id, .text (.ok _ _) =>
      Lists (shown.filter (fun message => message.id ≠ id)) stored
  | .deleteMessage _, _ => Lists shown stored
  | _, _ => True

variable {setting : Setting}

private theorem messages_handle_other (s : Desk) {call : Call}
    (other : aboutMessages call = false) :
    (handle setting s call).2.messages = s.messages := by
  cases call with
  | availableValues => exact congrArg Desk.messages (availableNewsletterValues_desk _ _ s)
  | fetchEmails value => exact congrArg Desk.messages (listByValue_desk _ _ _ s _)
  | sendNewsletter subject body emails =>
      obtain ⟨mails, sent⟩ := sendNewsletter_desk setting.senderEmail setting.session setting.db s
        ⟨.value subject, .value body, .value emails⟩
      have same := congrArg Desk.messages sent
      exact same
  | unsubscribe email => rfl
  | fetchSavedMessages => cases other
  | saveNewsletter value subject body => cases other
  | deleteMessage id => cases other

private theorem countP_act (about : Call → Bool) (mounts : mountCalls.countP about ≤ 1)
    (page : Page) (event : PageEvent) : (act page event).2.countP about ≤ 1 := by
  rcases act_calls page event with silent | mount | ⟨call, one⟩
  · rw [silent]
    exact Nat.zero_le 1
  · rw [mount]
    exact mounts
  · rw [one]
    exact List.countP_le_length

section Failures

variable {shown stored : List NewsletterMessage} (lists : Lists shown stored)

include lists

private theorem messagesFit_unsaved {value subject body : String} {reply : Reply NewsletterMessage}
    (failed : reply.failed = true) :
    MessagesFit shown stored (.saveNewsletter value subject body) (.created reply) := by
  cases reply with
  | ok status message => cases failed
  | error status message details => exact lists
  | raised => exact lists

private theorem messagesFit_undeleted {id : Nat} {reply : Reply String}
    (failed : reply.failed = true) :
    MessagesFit shown stored (.deleteMessage id) (.text reply) := by
  cases reply with
  | ok status message => cases failed
  | error status message details => exact lists
  | raised => exact lists

end Failures

/-- What the server answers about the messages fits, if the page showed the table before. -/
private theorem messagesFit_handle (admin : Admin setting) {shown : List NewsletterMessage}
    {s : Desk} {call : Call} (about : aboutMessages call = true)
    (right : fetchesMessages call = false → Lists shown s.messages.rows) :
    MessagesFit shown (handle setting s call).2.messages.rows call (handle setting s call).1 := by
  cases call with
  | fetchSavedMessages =>
      obtain ⟨user, login, allowed⟩ := admin
      have handled := adminOnly_admin s (fun _ => (Reply.ok 200 (newestFirst s.messages.rows), s))
        login allowed
      simp only [handle, getAllMessages, handled]
      exact lists_newestFirst s.messages.rows
  | saveNewsletter value subject body =>
      simp only [handle]
      rcases createMessage_cases setting.storage setting.session setting.db s
        (MessageBody.ofTexts subject body value) with ⟨_, _, _, -, stored⟩ | ⟨same, failed⟩
      · rw [stored]
        trivial
      · rw [same]
        exact messagesFit_unsaved (right rfl) failed
  | deleteMessage id =>
      simp only [handle]
      have before := right rfl
      rcases deleteMessage_cases setting.session setting.db s id with
        ⟨-, deleted⟩ | ⟨same, failed⟩
      · rw [deleted]
        have filtered := before.filter (fun message => message.id ≠ id)
        simpa [MessagesFit, Table.remove] using filtered
      · rw [same]
        exact messagesFit_undeleted before failed
  | availableValues => cases about
  | fetchEmails value => cases about
  | sendNewsletter subject body emails => cases about
  | unsubscribe email => cases about

private theorem lists_receive (setting : Setting) {page : Page} {stored : List NewsletterMessage}
    {call : Call} {answer : Answer} (about : aboutMessages call = true)
    (fits : MessagesFit page.savedMessages stored call answer) :
    (Lists (receive setting page call answer).1.savedMessages stored ∧
      (receive setting page call answer).2 = []) ∨
      (receive setting page call answer).2 = [.fetchSavedMessages] := by
  cases call with
  | fetchSavedMessages =>
      cases answer with
      | saved reply =>
          cases reply with
          | ok status data => exact Or.inl ⟨fits, rfl⟩
          | _ => exact fits.elim
      | _ => exact fits.elim
  | saveNewsletter value subject body =>
      cases answer with
      | created reply =>
          cases reply with
          | ok status message => exact Or.inr rfl
          | _ => exact Or.inl ⟨fits, rfl⟩
      | _ => exact Or.inl ⟨fits, rfl⟩
  | deleteMessage id =>
      cases answer with
      | text reply =>
          cases reply with
          | _ => exact Or.inl ⟨fits, rfl⟩
      | _ => exact Or.inl ⟨fits, rfl⟩
  | availableValues => cases about
  | fetchEmails value => cases about
  | sendNewsletter subject body emails => cases about
  | unsubscribe email => cases about

/-- The saved messages on the page, as a view of the table of messages. -/
def drafts (admin : Admin setting) :
    View (newsletterProtocol setting) (List NewsletterMessage) (Table NewsletterMessage.id) where
  view := Page.savedMessages
  store := Desk.messages
  Agrees := fun shown table => Lists shown table.rows
  about := aboutMessages
  Ready := fun shown table call => fetchesMessages call = false → Lists shown table.rows
  Fits := fun shown table => MessagesFit shown table.rows
  act_view := fun page event => (act_fetched page event).1
  act_once := countP_act aboutMessages (by decide)
  act_ready := fun _ _ _ lists _ _ _ _ => lists
  handle_other := fun s _ other => messages_handle_other s other
  handle_about := fun _ _ _ about right => messagesFit_handle admin about right
  receive_other := by
    intro page call answer other
    simp only [newsletterProtocol]
    unfold receive
    split
    all_goals first | exact ⟨rfl, rfl⟩ | cases other
  receive_about := by
    intro page stored call answer about fits
    rcases lists_receive setting about fits with ⟨lists, silent⟩ | fetched
    · exact Or.inl ⟨lists, by rw [newsletterProtocol, silent]; rfl⟩
    · refine Or.inr ⟨by rw [newsletterProtocol, fetched]; rfl, ?_⟩
      intro next member _
      rw [newsletterProtocol, fetched, List.mem_singleton] at member
      rw [member]
      exact nofun

/-- The page offers the stored messages, and loading one fills the form with its texts. -/
structure DraftsCurrent (s : NewsletterSystem) : Prop where
  listed : Lists s.client.savedMessages s.server.messages.rows
  loads : ∀ message ∈ s.server.messages.rows, s.client.availableLists.isSome = true →
    act s.client (.loadMessage message.id) =
      ({ s.client with
          newsletterValue := message.newsletterValue
          emailSubject := message.subject
          emailBody := message.body }, [])

/-- The message under an id is found among the messages on the page, in whatever order. -/
private theorem find?_of_lists {shown : List NewsletterMessage} {table : Table NewsletterMessage.id}
    (lists : Lists shown table.rows) {message : NewsletterMessage} (stored : message ∈ table.rows) :
    shown.find? (fun other => other.id = message.id) = some message := by
  have present : message ∈ shown := lists.1.mem_iff.mpr stored
  have hit : (shown.find? (fun other => other.id = message.id)).isSome = true :=
    List.find?_isSome.mpr ⟨message, present, by simp⟩
  obtain ⟨found, here⟩ := Option.isSome_iff_exists.mp hit
  have same : found.id = message.id := by simpa using List.find?_some here
  have listed : found ∈ table.rows := lists.1.mem_iff.mp (List.mem_of_find?_eq_some here)
  have unique : table.get? message.id = some found := Table.get?_eq_some_iff.mpr ⟨listed, same⟩
  rw [Table.get?_of_mem stored] at unique
  rw [here, Option.some.inj unique]

private theorem draftsCurrent_of_lists {s : NewsletterSystem}
    (lists : Lists s.client.savedMessages s.server.messages.rows) : DraftsCurrent s := by
  refine ⟨lists, ?_⟩
  intro message stored drawn
  obtain ⟨values, shown⟩ := Option.isSome_iff_exists.mp drawn
  rw [act, shown]
  simp only [actDrawn, find?_of_lists lists stored]

private theorem drafts_opened (admin : Admin setting) (s : Desk) :
    (drafts admin).InStep (NewsletterSystem.opened s) := by
  constructor
  · exact Nat.le_refl 1
  · intro idle
    cases idle
  · intro call member about
    simp only [NewsletterSystem.opened, mountCalls, List.mem_cons, List.not_mem_nil,
      or_false] at member
    rcases member with rfl | rfl
    · cases about
    · exact nofun
  · intro entry member
    cases member

end Drafts

/-- Whatever is served and answered when: if the page waits with a call about the messages until
the last one is answered, and nobody else writes messages, then whenever nothing about them is
under way the page shows the messages of the table and loads them as they were saved. -/
theorem drafts_current_along (setting : Setting) (admin : Admin setting) (s : Desk)
    (events : List (Event PageEvent DeskRequest))
    (patient : EachStep (step (newsletterProtocol setting)) (drafts admin).Patient
      (NewsletterSystem.opened s) events) :
    Along (step (newsletterProtocol setting))
      (fun t => (drafts admin).Idle t → DraftsCurrent t) (NewsletterSystem.opened s) events := by
  intro handled here idle
  have inStep := View.inStep_along (drafts_opened admin s) patient handled here
  exact draftsCurrent_of_lists (inStep.idle idle)

def sampleSetting : Setting where
  storage := plainStorage
  session := administrator
  db := (shelfOnly 3).db
  senderEmail := "shop@mail.com"
  queried := id
  notJson := "Unexpected token"

private theorem sampleSetting_admin : Admin sampleSetting := ⟨2, rfl, by decide⟩

/-- The page is opened and a newsletter is composed. -/
def compose : List (Event PageEvent DeskRequest) :=
  [.serve 0, .serve 0, .receive 0, .receive 0, .act (.typeSubject "Spring"),
    .act (.typeBody "New kits")]

def composeAndSave : List (Event PageEvent DeskRequest) :=
  compose ++ .act .save :: [.serve 0, .receive 0, .serve 0, .receive 0]

theorem spring_is_shown :
    let opened := NewsletterSystem.opened emptyDesk
    let protocol := newsletterProtocol sampleSetting
    Along (step protocol)
        (fun t => (drafts sampleSetting_admin).Idle t → DraftsCurrent t) opened composeAndSave ∧
      (drafts sampleSetting_admin).Idle (run (step protocol) opened composeAndSave) ∧
      (run (step protocol) opened composeAndSave).server.messages.rows =
        [⟨1, "Spring", "New kits", "", 0⟩] := by
  refine ⟨drafts_current_along sampleSetting sampleSetting_admin emptyDesk composeAndSave ?_,
    rfl, by decide⟩
  simp only [composeAndSave, compose, List.cons_append, List.nil_append, eachStep_cons,
    eachStep_nil, and_true]
  exact ⟨trivial, trivial, trivial, trivial, fun _ => rfl, fun _ => rfl, fun _ => rfl, trivial,
    trivial, trivial, trivial⟩

section RoundTrip

variable {setting : Setting}

/-- A stored message stays, unless it is deleted. -/
private theorem mem_messages_handle {s : Desk} {message : NewsletterMessage}
    (stored : message ∈ s.messages.rows) {call : Call} (spared : call ≠ .deleteMessage message.id) :
    message ∈ (handle setting s call).2.messages.rows := by
  by_cases about : aboutMessages call = true
  · cases call with
    | fetchSavedMessages =>
        have same : (handle setting s .fetchSavedMessages).2 = s := getAllMessages_desk _ _ s
        rw [same]
        exact stored
    | saveNewsletter value subject body =>
        simp only [handle]
        rcases createMessage_cases setting.storage setting.session setting.db s
          (MessageBody.ofTexts subject body value) with ⟨_, _, _, -, added⟩ | ⟨same, -⟩
        · rw [added]
          exact List.mem_append_left _ stored
        · rw [same]
          exact stored
    | deleteMessage id =>
        simp only [handle]
        rcases deleteMessage_cases setting.session setting.db s id with ⟨-, deleted⟩ | ⟨same, -⟩
        · rw [deleted]
          refine Table.mem_remove.mpr ⟨stored, ?_⟩
          have other : message.id ≠ id := fun here => spared (by rw [here])
          simpa using other
        · rw [same]
          exact stored
    | availableValues => cases about
    | fetchEmails value => cases about
    | sendNewsletter subject body emails => cases about
    | unsubscribe email => cases about
  · rw [messages_handle_other s (by simpa using about)]
    exact stored

/-- What the composed texts become. -/
structure Composed where
  value : String
  subject : String
  body : String

namespace Composed

variable (texts : Composed)

def call : Call := .saveNewsletter texts.value texts.subject texts.body

def message (id sentAt : Nat) : NewsletterMessage :=
  ⟨id, texts.subject, texts.body, texts.value, sentAt⟩

/-- The texts in the form of the page. -/
def ofPage (page : Page) : Composed := ⟨page.newsletterValue, page.emailSubject, page.emailBody⟩

end Composed

/-- The newsletter is on its way to a table that is still the one it was sent to, or it is stored
under the next id of that table. -/
structure Kept (admin : Admin setting) (texts : Composed) (table : Table NewsletterMessage.id)
    (s : NewsletterSystem) : Prop where
  inStep : (drafts admin).InStep s
  spared : .deleteMessage table.nextKey ∉ s.sent
  saved : (texts.call ∈ s.sent ∧ s.server.messages = table) ∨
    ∃ sentAt, texts.message table.nextKey sentAt ∈ s.server.messages.rows

variable {admin : Admin setting} {texts : Composed} {table : Table NewsletterMessage.id}
  {s : NewsletterSystem}

/-- Served, the newsletter is stored with the texts that were composed. -/
private theorem messages_handle_composed (admin : Admin setting) (texts : Composed)
    (fits : setting.storage.fits texts.subject texts.body texts.value = true) (s : Desk) :
    texts.message s.messages.nextKey s.now ∈ (handle setting s texts.call).2.messages.rows := by
  obtain ⟨user, login, allowed⟩ := admin
  simp only [Composed.call, handle, createMessage]
  rw [adminOnly_admin _ _ login allowed]
  simp only [MessageBody.ofTexts, validate, strErrors, Given.asText, List.map_nil,
    List.append_nil, fits, if_true]
  exact Table.mem_insertNew.mpr (Or.inr rfl)

theorem Kept.acting (kept : Kept admin texts table s) {event : PageEvent}
    (patient : (drafts admin).Patient s (.act event))
    (spares : event ≠ .deleteMessage table.nextKey) :
    Kept admin texts table (s.acting (newsletterProtocol setting) event) := by
  refine ⟨kept.inStep.acting patient, ?_, ?_⟩
  · intro deletes
    rcases List.mem_append.mp deletes with old | new
    · exact kept.spared old
    · exact spares (deleteMessage_of_act new)
  · rcases kept.saved with ⟨pending, same⟩ | stored
    · exact Or.inl ⟨List.mem_append_left _ pending, same⟩
    · exact Or.inr stored

theorem Kept.serving (fits : setting.storage.fits texts.subject texts.body texts.value = true)
    (kept : Kept admin texts table s) {first last : List Call} {call : Call}
    (sent : s.sent = first ++ call :: last) :
    Kept admin texts table (s.serving (newsletterProtocol setting) call (first ++ last)) := by
  have present : call ∈ s.sent := by simp [sent]
  refine ⟨kept.inStep.serving sent, ?_, ?_⟩
  · intro deletes
    exact kept.spared (mem_of_rest sent deletes)
  · rcases kept.saved with ⟨pending, same⟩ | ⟨sentAt, stored⟩
    · by_cases here : call = texts.call
      · refine Or.inr ⟨s.server.now, ?_⟩
        rw [here, ← same]
        exact messages_handle_composed admin texts fits s.server
      · -- the newsletter is the only call about the messages, so the one served is not
        have waiting : texts.call ∈ first ++ last := by
          rw [sent] at pending
          simp only [List.mem_append, List.mem_cons] at pending ⊢
          rcases pending with early | now | late
          · exact Or.inl early
          · exact (here now.symm).elim
          · exact Or.inr late
        have other : aboutMessages call = false := by
          by_contra about
          have single := kept.inStep.single
          have one : 0 < (first ++ last).countP aboutMessages :=
            List.countP_pos_iff.mpr ⟨texts.call, waiting, rfl⟩
          have total : (first ++ last).countP aboutMessages + 1 ≤
              s.underWay.countP aboutMessages := by
            rw [System.underWay, sent]
            simp only [List.countP_append, List.countP_cons, Bool.eq_true_of_not_eq_false about,
              if_true]
            omega
          have bound : s.underWay.countP aboutMessages ≤ 1 := single
          omega
        exact Or.inl ⟨waiting, (messages_handle_other s.server other).trans same⟩
    · refine Or.inr ⟨sentAt, mem_messages_handle stored ?_⟩
      intro deletes
      apply kept.spared
      rw [deletes] at present
      exact present

theorem Kept.receiving (kept : Kept admin texts table s) {first last : List (Call × Answer)}
    {call : Call} {answer : Answer} (answered : s.answered = first ++ (call, answer) :: last) :
    Kept admin texts table
      (s.receiving (newsletterProtocol setting) call answer (first ++ last)) := by
  refine ⟨kept.inStep.receiving answered, ?_, ?_⟩
  · intro deletes
    rcases List.mem_append.mp deletes with old | new
    · exact kept.spared old
    · rcases receive_calls setting s.client call answer with silent | fetches
      · rw [newsletterProtocol, silent] at new
        cases new
      · rw [newsletterProtocol, fetches, List.mem_singleton] at new
        cases new
  · rcases kept.saved with ⟨pending, same⟩ | stored
    · exact Or.inl ⟨List.mem_append_left _ pending, same⟩
    · exact Or.inr stored

theorem Kept.disturbed (kept : Kept admin texts table s) {request : DeskRequest}
    (patient : (drafts admin).Patient s (.other request)) :
    Kept admin texts table (s.disturbed (newsletterProtocol setting) request) := by
  have same : ((newsletterProtocol setting).other s.server request).messages =
      s.server.messages := patient
  refine ⟨kept.inStep.disturbed patient, kept.spared, ?_⟩
  rcases kept.saved with ⟨pending, table_same⟩ | ⟨sentAt, stored⟩
  · exact Or.inl ⟨pending, same.trans table_same⟩
  · refine Or.inr ⟨sentAt, ?_⟩
    rw [System.disturbed, same]
    exact stored

/-- The newsletter is kept by every event but the deletion of it. -/
theorem kept_along (fits : setting.storage.fits texts.subject texts.body texts.value = true)
    (start : Kept admin texts table s) {events : List (Event PageEvent DeskRequest)}
    (patient : EachStep (step (newsletterProtocol setting)) (drafts admin).Patient s events)
    (spares : .act (.deleteMessage table.nextKey) ∉ events) :
    Along (step (newsletterProtocol setting)) (Kept admin texts table) s events := by
  have spared : EachStep (step (newsletterProtocol setting))
      (fun _ event => event ≠ .act (.deleteMessage table.nextKey)) s events := by
    apply eachStep_of_forall
    intro event member deletes
    exact spares (deletes ▸ member)
  refine along_of_rules ?_ ?_ ?_ ?_ start (patient.and spared)
  · intro t event kept allowed
    exact kept.acting allowed.1 (fun deletes => allowed.2 (congrArg Event.act deletes))
  · intro t first call last kept sent
    exact kept.serving fits sent
  · intro t first call answer last kept answered
    exact kept.receiving answered
  · intro t request kept allowed
    exact kept.disturbed allowed.1

/-- Pressing Save on a drawn page sends the texts of the form. -/
private theorem kept_save (inStep : (drafts admin).InStep s) (idle : (drafts admin).Idle s)
    (drawn : s.client.availableLists.isSome = true) :
    Kept admin (.ofPage s.client) s.server.messages
      (s.acting (newsletterProtocol setting) .save) := by
  obtain ⟨lists, shown⟩ := Option.isSome_iff_exists.mp drawn
  have calls : (act s.client .save).2 = [(Composed.ofPage s.client).call] := by
    rw [act, shown]
    rfl
  have nothing : ∀ call ∈ s.sent, aboutMessages call = false := by
    intro call member
    have none_about : s.underWay.countP aboutMessages = 0 := idle
    have low := List.countP_eq_zero.mp none_about call (List.mem_append_left _ member)
    simpa using low
  refine ⟨inStep.acting (fun _ => idle), ?_, Or.inl ⟨?_, rfl⟩⟩
  · intro deletes
    rcases List.mem_append.mp deletes with old | new
    · cases nothing _ old
    · rw [newsletterProtocol, calls, List.mem_singleton] at new
      cases new
  · apply List.mem_append_right
    rw [newsletterProtocol, calls]
    exact List.mem_singleton_self _

end RoundTrip

/-- A newsletter that is saved can be loaded again: whatever happens afterwards, short of deleting
it, once nothing about the messages is under way its id brings back the texts of the form. -/
theorem saved_newsletter_loads (setting : Setting) (admin : Admin setting) (s : Desk)
    (before after : List (Event PageEvent DeskRequest))
    (patient : EachStep (step (newsletterProtocol setting)) (drafts admin).Patient
      (NewsletterSystem.opened s) (before ++ .act .save :: after)) :
    let composing := run (step (newsletterProtocol setting)) (NewsletterSystem.opened s) before
    let texts := Composed.ofPage composing.client
    let id := composing.server.messages.nextKey
    let final := run (step (newsletterProtocol setting)) (NewsletterSystem.opened s)
      (before ++ .act .save :: after)
    composing.client.availableLists.isSome = true →
      setting.storage.fits texts.subject texts.body texts.value = true →
      .act (.deleteMessage id) ∉ after →
      (drafts admin).Idle final → final.client.availableLists.isSome = true →
      Composed.ofPage (act final.client (.loadMessage id)).1 = texts := by
  intro composing texts id final drawn fits spares idle open_page
  have inStep : (drafts admin).InStep composing :=
    (View.inStep_along (drafts_opened admin s) patient.left).finish
  obtain ⟨waits, later⟩ := eachStep_cons.mp patient.right
  have sends : (act composing.client .save).2.countP aboutMessages ≠ 0 := by
    obtain ⟨lists, shown⟩ := Option.isSome_iff_exists.mp drawn
    rw [act, shown]
    exact Nat.one_ne_zero
  have start := kept_save inStep (waits sends) drawn
  have kept : Kept admin texts composing.server.messages final := by
    have whole : final = run (step (newsletterProtocol setting))
        (composing.acting (newsletterProtocol setting) .save) after := run_append _ _ _ _
    rw [whole]
    exact (kept_along fits start later spares).finish
  obtain ⟨sentAt, stored⟩ : ∃ sentAt, texts.message id sentAt ∈ final.server.messages.rows := by
    rcases kept.saved with ⟨pending, -⟩ | stored
    · -- a call that is still under way is one about the messages
      have none_about : final.underWay.countP aboutMessages = 0 := idle
      have low := List.countP_eq_zero.mp none_about _ (List.mem_append_left _ pending)
      exact (low rfl).elim
    · exact stored
  have current := draftsCurrent_of_lists (kept.inStep.idle idle)
  have loaded := current.loads _ stored open_page
  rw [Composed.message] at loaded
  rw [loaded]
  rfl

theorem spring_loads_again :
    let protocol := newsletterProtocol sampleSetting
    let later : List (Event PageEvent DeskRequest) :=
      [.act (.typeSubject "Summer"), .serve 0, .receive 0, .serve 0, .receive 0]
    let final := run (step protocol) (NewsletterSystem.opened emptyDesk)
      (compose ++ .act .save :: later)
    let composing := run (step protocol) (NewsletterSystem.opened emptyDesk) compose
    let id := composing.server.messages.nextKey
    final.client.emailSubject = "Summer" ∧
      Composed.ofPage (act final.client (.loadMessage id)).1 = ⟨"", "Spring", "New kits"⟩ := by
  intro protocol later final composing id
  refine ⟨by decide, ?_⟩
  refine saved_newsletter_loads sampleSetting sampleSetting_admin emptyDesk compose later ?_ rfl rfl
    (by simp [later]) rfl rfl
  simp only [compose, later, List.cons_append, List.nil_append, eachStep_cons, eachStep_nil,
    and_true]
  exact ⟨trivial, trivial, trivial, trivial, fun _ => rfl, fun _ => rfl, fun _ => rfl,
    fun sends => (sends rfl).elim, trivial, trivial, trivial, trivial⟩

section Recipients

variable {setting : Setting}

/-- The list whose subscribers the page has fetched last. -/
def noteFetched (fetched : Option String) : Call → Answer → Option String
  | .fetchEmails value, .emails (.ok _ _) => some value
  | _, _ => fetched

def aboutList : Call → Bool
  | .fetchEmails _ | .unsubscribe _ => true
  | _ => false

def fetchedSubscribers (setting : Setting) (table : Table Newsletter.id) :
    Option String → List String
  | none => []
  | some value => subscribersOf setting.storage table (setting.queried value)

/-- The e-mails shown are those of the list that was fetched last, and no e-mail has two rows. -/
def ShowsList (setting : Setting) (shown : List String × Option String)
    (table : Table Newsletter.id) : Prop :=
  OneRowEach setting.storage.engine table ∧ shown.1 = fetchedSubscribers setting table shown.2

def ListFits (setting : Setting) (shown : List String × Option String)
    (table : Table Newsletter.id) : Call → Answer → Prop
  | .fetchEmails value, .emails (.ok _ data) => ShowsList setting (data, some value) table
  | .fetchEmails _, _ => ShowsList setting shown table
  | .unsubscribe email, .text (.ok _ _) =>
      ShowsList setting (shown.1.filter (fun other => other ≠ email), shown.2) table
  | .unsubscribe _, _ => ShowsList setting shown table
  | _, _ => True

private theorem subscribers_handle_other (s : Desk) {call : Call} (other : aboutList call = false) :
    (handle setting s call).2.subscribers = s.subscribers := by
  cases call with
  | availableValues => exact congrArg Desk.subscribers (availableNewsletterValues_desk _ _ s)
  | fetchSavedMessages => exact congrArg Desk.subscribers (getAllMessages_desk _ _ s)
  | sendNewsletter subject body emails =>
      obtain ⟨mails, sent⟩ := sendNewsletter_desk setting.senderEmail setting.session setting.db s
        ⟨.value subject, .value body, .value emails⟩
      have same := congrArg Desk.subscribers sent
      exact same
  | saveNewsletter value subject body =>
      simp only [handle]
      rcases createMessage_cases setting.storage setting.session setting.db s
        (MessageBody.ofTexts subject body value) with ⟨_, _, _, -, stored⟩ | ⟨same, -⟩
      · rw [stored]
      · rw [same]
  | deleteMessage id =>
      simp only [handle]
      rcases deleteMessage_cases setting.session setting.db s id with ⟨-, deleted⟩ | ⟨same, -⟩
      · rw [deleted]
      · rw [same]
  | fetchEmails value => cases other
  | unsubscribe email => cases other

/-- Where no e-mail has two rows, taking away the row of one takes the e-mail from every list. -/
private theorem subscribersOf_remove {storage : Storage} {table : Table Newsletter.id}
    (one : OneRowEach storage.engine table) {email : String} {entry : Newsletter}
    (found : findEntry storage.engine table email = some entry)
    (listed : ∃ row ∈ table.rows, row.email = email) (value : String) :
    subscribersOf storage (table.remove (fun row => row.id = entry.id)) value =
      (subscribersOf storage table value).filter (fun other => other ≠ email) := by
  have member : entry ∈ table.rows := List.mem_of_find?_eq_some found
  have matching : storage.engine.sameText entry.email email = true := by
    have holds := List.find?_some found
    exact holds
  have only : ∀ row ∈ table.rows, row.email = email → row = entry := by
    intro row present here
    refine one email row present entry member ?_ matching
    rw [here]
    exact storage.engine.sameText_self email
  have spelled : entry.email = email := by
    obtain ⟨row, present, here⟩ := listed
    rw [← only row present here]
    exact here
  rw [subscribersOf, subscribersOf, Table.remove, List.filter_map, List.filter_filter,
    List.filter_filter]
  congr 1
  apply List.filter_congr
  intro row present
  have same : row.id = entry.id ↔ row.email = email := by
    constructor
    · intro key
      have first := Table.get?_of_mem present
      rw [key, Table.get?_of_mem member] at first
      rw [← Option.some.inj first]
      exact spelled
    · intro here
      rw [only row present here]
  by_cases here : row.email = email
  · simp [here, same.mpr here]
  · simp [here, mt same.mp here]

private theorem oneRowEach_remove {engine : Engine} {table : Table Newsletter.id}
    (one : OneRowEach engine table) (gone : Newsletter → Bool) :
    OneRowEach engine (table.remove gone) := by
  intro email row member other present
  exact one email row (Table.mem_remove.mp member).1 other (Table.mem_remove.mp present).1

private theorem listFits_handle (admin : Admin setting) {shown : List String × Option String}
    {s : Desk}
    {call : Call} (about : aboutList call = true) (shows : ShowsList setting shown s.subscribers)
    (listed : ∀ email, call = .unsubscribe email → email ∈ shown.1) :
    ListFits setting shown (handle setting s call).2.subscribers call
      (handle setting s call).1 := by
  cases call with
  | fetchEmails value =>
      obtain ⟨user, login, allowed⟩ := admin
      simp only [handle, listByValue]
      rw [adminOnly_admin _ _ login allowed]
      split
      · exact shows
      · rename_i text asked
        obtain ⟨given, -⟩ := Option.filter_eq_some_iff.mp asked
        rw [← Option.some.inj given]
        exact ⟨shows.1, rfl⟩
  | unsubscribe email =>
      obtain ⟨one, emails⟩ := shows
      have read : (JsonField.value email).get.bind
          (findEntry setting.storage.engine s.subscribers) =
            findEntry setting.storage.engine s.subscribers email := rfl
      simp only [handle, unsubscribe, read]
      cases found : findEntry setting.storage.engine s.subscribers email with
      | none => exact ⟨one, emails⟩
      | some entry =>
          refine ⟨oneRowEach_remove one _, ?_⟩
          have present := listed email rfl
          rw [emails] at present ⊢
          cases fetched : shown.2 with
          | none =>
              rw [fetched] at present
              cases present
          | some value =>
              rw [fetched] at present
              obtain ⟨row, member, here⟩ := List.mem_map.mp present
              have stored := (List.mem_filter.mp member).1
              exact (subscribersOf_remove one found ⟨row, stored, here⟩ _).symm
  | availableValues => cases about
  | fetchSavedMessages => cases about
  | sendNewsletter subject body emails => cases about
  | saveNewsletter value subject body => cases about
  | deleteMessage id => cases about

/-- The e-mails on the page, as a view of the table of subscribers. -/
def shownEmails (admin : Admin setting) :
    View ((newsletterProtocol setting).watched noteFetched) (List String × Option String)
      (Table Newsletter.id) where
  view := fun client => (client.1.emails, client.2)
  store := Desk.subscribers
  Agrees := ShowsList setting
  about := aboutList
  Ready := fun shown table call =>
    ShowsList setting shown table ∧ ∀ email, call = .unsubscribe email → email ∈ shown.1
  Fits := ListFits setting
  act_view := by
    intro client event
    rw [Protocol.watched, newsletterProtocol, (act_fetched client.1 event).2]
  act_once := fun client event => countP_act aboutList (by decide) client.1 event
  act_ready := by
    intro client event table shows call sent _
    refine ⟨shows, ?_⟩
    rintro email rfl
    exact unsubscribe_of_act sent
  handle_other := fun s _ other => subscribers_handle_other s other
  handle_about := fun _ _ _ about ready => listFits_handle admin about ready.1 ready.2
  receive_other := by
    intro client call answer other
    have unnoted : noteFetched client.2 call answer = client.2 := by
      cases call with
      | fetchEmails value => cases other
      | _ => rfl
    simp only [Protocol.watched, newsletterProtocol, unnoted]
    unfold receive
    split
    all_goals first | exact ⟨rfl, rfl⟩ | cases other
  receive_about := by
    intro client table call answer about fits
    refine Or.inl ?_
    cases call with
    | fetchEmails value =>
        cases answer with
        | emails reply =>
            cases reply with
            | _ => exact ⟨fits, rfl⟩
        | _ => exact ⟨fits, rfl⟩
    | unsubscribe email =>
        cases answer with
        | text reply =>
            cases reply with
            | _ => exact ⟨fits, rfl⟩
        | _ => exact ⟨fits, rfl⟩
    | availableValues => cases about
    | fetchSavedMessages => cases about
    | sendNewsletter subject body emails => cases about
    | saveNewsletter value subject body => cases about
    | deleteMessage id => cases about

/-- The page waits with a call about the e-mails until the last one is answered, and nobody else
subscribes or unsubscribes. -/
def ListPatient (setting : Setting) (s : NewsletterSystem) : Event PageEvent DeskRequest → Prop
  | .act event => (act s.client event).2.countP aboutList ≠ 0 → s.underWay.countP aboutList = 0
  | .other request => (deskStep setting.storage setting.senderEmail setting.db s.server
      request).subscribers = s.server.subscribers
  | .serve _ => True
  | .receive _ => True

/-- The page just opened, with the note of the list that was fetched last. -/
def watchedOpened (s : Desk) : System (Page × Option String) Desk Call Answer :=
  ⟨(.fresh, none), s, mountCalls, []⟩

def listFetchedLast (setting : Setting) (s : Desk) (events : List (Event PageEvent DeskRequest)) :
    Option String :=
  (run (step ((newsletterProtocol setting).watched noteFetched)) (watchedOpened s) events).client.2

private theorem shownEmails_opened (admin : Admin setting) {s : Desk}
    (one : OneRowEach setting.storage.engine s.subscribers) :
    (shownEmails admin).InStep (watchedOpened s) := by
  constructor
  · exact Nat.zero_le 1
  · intro _
    exact ⟨one, rfl⟩
  · intro call member about
    simp only [watchedOpened, mountCalls, List.mem_cons, List.not_mem_nil, or_false] at member
    rcases member with rfl | rfl
    · cases about
    · cases about
  · intro entry member
    cases member

end Recipients

/-- A newsletter goes to the subscribers of the list that was fetched last, whichever list has been
selected or loaded since. -/
theorem send_goes_to_list_fetched_last (setting : Setting) (admin : Admin setting) (s : Desk)
    (one : OneRowEach setting.storage.engine s.subscribers)
    (events : List (Event PageEvent DeskRequest))
    (patient : EachStep (step (newsletterProtocol setting)) (ListPatient setting)
      (NewsletterSystem.opened s) events) :
    ∀ handled, handled <+: events →
      let t := run (step (newsletterProtocol setting)) (NewsletterSystem.opened s) handled
      t.underWay.countP aboutList = 0 → t.client.availableLists.isSome = true →
        t.client.newsletterValue ≠ "" →
        (act t.client .send).2 =
          [.sendNewsletter t.client.emailSubject t.client.emailBody
            (fetchedSubscribers setting t.server.subscribers
              (listFetchedLast setting s handled))] := by
  intro handled here t idle drawn selected
  set watched := run (step ((newsletterProtocol setting).watched noteFetched)) (watchedOpened s)
    handled with watched_def
  have forgotten : watched.forget = t := forget_run _ _ _ _
  have waits : EachStep (step ((newsletterProtocol setting).watched noteFetched))
      (shownEmails admin).Patient (watchedOpened s) events := by
    intro earlier event step_here
    have asked := patient earlier event step_here
    have same : (run (step ((newsletterProtocol setting).watched noteFetched)) (watchedOpened s)
        earlier).forget = run (step (newsletterProtocol setting)) (NewsletterSystem.opened s)
          earlier := forget_run _ _ _ _
    rw [← same] at asked
    cases event with
    | act event => exact asked
    | serve position => trivial
    | receive position => trivial
    | other request => exact asked
  have inStep := View.inStep_along (shownEmails_opened admin one) waits handled here
  rw [← forgotten] at idle drawn selected ⊢
  obtain ⟨-, emails⟩ := inStep.idle idle
  obtain ⟨lists, shown⟩ := Option.isSome_iff_exists.mp drawn
  have listed : watched.forget.client.emails = fetchedSubscribers setting
      watched.forget.server.subscribers (listFetchedLast setting s handled) := emails
  rw [act, shown]
  simp only [actDrawn, if_neg selected, listed]

def twoSubscribers : Table Newsletter.id where
  rows := [⟨1, "ann@mail.com", .text "general"⟩, ⟨2, "eve@mail.com", .text "spring"⟩]
  distinct := by decide
  positive := by decide

/-- The list is changed after the e-mails were fetched, and the newsletter for one list goes to the
subscribers of the other. -/
theorem spring_goes_to_general :
    let events : List (Event PageEvent DeskRequest) :=
      [.serve 0, .serve 0, .receive 0, .receive 0, .act (.selectList (some 0)), .act .fetchEmails,
        .serve 0, .receive 0, .act (.selectList (some 1))]
    let t := run (step (newsletterProtocol sampleSetting))
      (NewsletterSystem.opened { emptyDesk with subscribers := twoSubscribers }) events
    t.client.newsletterValue = "spring" ∧
      (act t.client .send).2 = [.sendNewsletter "" "" ["ann@mail.com"]] := by
  intro events t
  have one : OneRowEach sampleSetting.storage.engine twoSubscribers := by
    intro email row member other present first second
    have same : row.email = other.email := by
      have left : row.email = email := eq_of_beq first
      have right : other.email = email := eq_of_beq second
      rw [left, right]
    simp only [twoSubscribers, List.mem_cons, List.not_mem_nil, or_false] at member present
    rcases member with rfl | rfl <;> rcases present with rfl | rfl <;> simp_all
  refine ⟨by decide, ?_⟩
  refine (send_goes_to_list_fetched_last sampleSetting sampleSetting_admin
    { emptyDesk with subscribers := twoSubscribers } one events ?_ events List.prefix_rfl rfl rfl
    (by decide)).trans (by decide)
  simp only [events, eachStep_cons, eachStep_nil, and_true]
  exact ⟨trivial, trivial, trivial, trivial, fun _ => rfl, fun _ => rfl, trivial, trivial,
    fun _ => rfl⟩

end ProductSite.Personal.NewsletterDesk
