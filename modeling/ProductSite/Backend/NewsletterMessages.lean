/- Module: ProductSite/Backend/NewsletterMessages
   source: backend/app/routes/newsletter_message_routes.py,
     backend/app/schemas/newsletter_message_schema.py, backend/app/models/newsletter_message.py,
     backend/app/routes/newsletter_routes.py
   digest: The saved newsletters, the lists of subscribers and the mails that are sent to them. -/

import ProductSite.Backend.ContentRoutes
import ProductSite.Backend.Email
import ProductSite.Backend.NewsletterRoutes

set_option autoImplicit false
set_option relaxedAutoImplicit false

namespace ProductSite.Backend.NewsletterMessages

open ProductSite.Foundation.KeyedTable (Table)
open ProductSite.Foundation.Wire (JsonField Reply)
open ProductSite.Backend.ContentRoutes (adminOnly adminOnly_cases)
open ProductSite.Backend.Email (Mail Mailer sendBulkEmail working)
open ProductSite.Backend.Models
open ProductSite.Backend.NewsletterRoutes

structure NewsletterMessage where
  id : Nat
  subject : String
  body : String
  newsletterValue : String
  sentAt : Nat
  deriving DecidableEq

/-- What the database does with the columns of the newsletter: which values the column of integers
takes, how it compares one with a text, and which texts the columns of a message take. -/
structure Storage where
  engine : Engine
  admits : NewsletterValue → Bool
  sameValue : NewsletterValue → String → Bool
  fits : String → String → String → Bool

/-- The tables, the mails that were accepted, the time and the mail server. -/
structure Desk where
  subscribers : Table Newsletter.id
  messages : Table NewsletterMessage.id
  mails : List Mail
  now : Nat
  mailer : Mailer

section Schema

/-- A value under a key, as far as a field of texts tells values apart. -/
inductive Given where
  | text (value : String)
  | other

structure MessageBody where
  subject : JsonField Given
  body : JsonField Given
  newsletterValue : JsonField Given
  -- every other key, the keys `id` and `sent_at` that are only dumped included
  unknown : List String

/-- `fields.Str(required=True)`. -/
def strErrors (name : String) : JsonField Given → List (String × String)
  | .absent => [(name, "Missing data for required field.")]
  | .null => [(name, "Field may not be null.")]
  | .value .other => [(name, "Not a valid string.")]
  | .value (.text _) => []

def validate (data : MessageBody) : List (String × String) :=
  strErrors "subject" data.subject ++ strErrors "body" data.body ++
    strErrors "newsletter_value" data.newsletterValue ++
    data.unknown.map (fun name => (name, "Unknown field."))

def Given.asText : JsonField Given → Option String
  | .value (.text value) => some value
  | _ => none

/-- The body that a client sends which has the three texts and nothing else. -/
def MessageBody.ofTexts (subject body newsletterValue : String) : MessageBody :=
  ⟨.value (.text subject), .value (.text body), .value (.text newsletterValue), []⟩

/-- A body that the schema accepts has the three texts and nothing else. -/
private theorem eq_ofTexts {data : MessageBody} {subject body value : String}
    (valid : validate data = []) (first : Given.asText data.subject = some subject)
    (second : Given.asText data.body = some body)
    (third : Given.asText data.newsletterValue = some value) :
    data = MessageBody.ofTexts subject body value := by
  have texts : ∀ {field : JsonField Given} {text : String}, Given.asText field = some text →
      field = .value (.text text) := by
    intro field text read
    unfold Given.asText at read
    split at read
    · rw [Option.some.inj read]
    · cases read
  obtain ⟨-, known⟩ := List.append_eq_nil_iff.mp valid
  obtain ⟨dataSubject, dataBody, dataValue, unknown⟩ := data
  rw [MessageBody.ofTexts, MessageBody.mk.injEq]
  exact ⟨texts first, texts second, texts third, List.map_eq_nil_iff.mp known⟩

end Schema

section Messages

variable (storage : Storage) (session : Session) (db : Database) (s : Desk)

/-- `order_by(sent_at.desc())`. -/
def newestFirst (rows : List NewsletterMessage) : List NewsletterMessage :=
  rows.mergeSort (fun a b => b.sentAt ≤ a.sentAt)

def getAllMessages : Reply (List NewsletterMessage) × Desk :=
  adminOnly session db s fun _ => (.ok 200 (newestFirst s.messages.rows), s)

/-- The errors of the schema are answered as they are, with no text under the key `error`. -/
def createMessage (data : MessageBody) : Reply NewsletterMessage × Desk :=
  adminOnly session db s fun _ =>
    match validate data, Given.asText data.subject, Given.asText data.body,
      Given.asText data.newsletterValue with
    | [], some subject, some body, some value =>
        if storage.fits subject body value then
          (.ok 201 ⟨s.messages.nextKey, subject, body, value, s.now⟩,
            { s with
              messages := s.messages.insertNew (fun id => ⟨id, subject, body, value, s.now⟩)
                (fun _ => rfl) })
        else (.raised, s)
    | errors, _, _, _ => (.error 400 "" errors, s)

structure MessageUpdate where
  subject : JsonField String
  body : JsonField String
  newsletterValue : JsonField String

/-- The columns hold no nulls, so a null makes the commit fail. -/
def MessageUpdate.write (data : MessageUpdate) (message : NewsletterMessage) :
    Option NewsletterMessage :=
  match data.subject.assign (some message.subject), data.body.assign (some message.body),
    data.newsletterValue.assign (some message.newsletterValue) with
  | some subject, some body, some value =>
      some ⟨message.id, subject, body, value, message.sentAt⟩
  | _, _, _ => none

def updateMessage (messageId : Nat) (data : MessageUpdate) : Reply NewsletterMessage × Desk :=
  adminOnly session db s fun _ =>
    match s.messages.get? messageId with
    | none => (.error 404 "Not found" [], s)
    | some message =>
        match data.write message with
        | none => (.raised, s)
        | some written =>
            if storage.fits written.subject written.body written.newsletterValue then
              (.ok 200 written, { s with messages := s.messages.save written })
            else (.raised, s)

def deleteMessage (messageId : Nat) : Reply String × Desk :=
  adminOnly session db s fun _ =>
    match s.messages.get? messageId with
    | none => (.error 404 "Not found" [], s)
    | some message =>
        (.ok 200 "Newsletter message deleted.",
          { s with messages := s.messages.remove (fun row => row.id = message.id) })

/-- A message is stored with the texts of the request, or nothing changes and the answer is an
error. -/
theorem createMessage_cases (data : MessageBody) :
    (∃ subject body value, data = MessageBody.ofTexts subject body value ∧
      createMessage storage session db s data =
        (.ok 201 ⟨s.messages.nextKey, subject, body, value, s.now⟩,
          { s with
            messages := s.messages.insertNew (fun id => ⟨id, subject, body, value, s.now⟩)
              (fun _ => rfl) })) ∨
      ((createMessage storage session db s data).2 = s ∧
        (createMessage storage session db s data).1.failed = true) := by
  rcases adminOnly_cases session db s _ with ⟨user, handled⟩ | refused
  · rw [createMessage, handled]
    split
    · rename_i subject body value valid first second third
      split
      · refine Or.inl ⟨subject, body, value, ?_, rfl⟩
        exact eq_ofTexts valid first second third
      · exact Or.inr ⟨rfl, rfl⟩
    · exact Or.inr ⟨rfl, rfl⟩
  · exact Or.inr refused

theorem updateMessage_cases (messageId : Nat) (data : MessageUpdate) :
    (updateMessage storage session db s messageId data).2 = s ∨
      ∃ written, (updateMessage storage session db s messageId data).2 =
        { s with messages := s.messages.save written } := by
  rcases adminOnly_cases session db s _ with ⟨user, handled⟩ | refused
  · rw [updateMessage, handled]
    split
    · exact Or.inl rfl
    · split
      · exact Or.inl rfl
      · rename_i written _
        split
        · exact Or.inr ⟨written, rfl⟩
        · exact Or.inl rfl
  · exact Or.inl refused.1

/-- The message is deleted, or nothing changes and the answer is an error. -/
theorem deleteMessage_cases (messageId : Nat) :
    ((∃ message, s.messages.get? messageId = some message) ∧
      deleteMessage session db s messageId =
        (.ok 200 "Newsletter message deleted.",
          { s with messages := s.messages.remove (fun row => row.id = messageId) })) ∨
      ((deleteMessage session db s messageId).2 = s ∧
        (deleteMessage session db s messageId).1.failed = true) := by
  rcases adminOnly_cases session db s _ with ⟨user, handled⟩ | refused
  · rw [deleteMessage, handled]
    split
    · exact Or.inr ⟨rfl, rfl⟩
    · rename_i message found
      have key := Table.key_of_get? found
      subst key
      exact Or.inl ⟨⟨message, found⟩, rfl⟩
  · exact Or.inr refused

end Messages

section Lists

variable (storage : Storage) (session : Session) (db : Database) (s : Desk)

/-- The e-mails of the rows that the database finds for a value. -/
def subscribersOf (table : Table Newsletter.id) (value : String) : List String :=
  (table.rows.filter (fun row => storage.sameValue row.newsletterValue value)).map Newsletter.email

def listByValue (value : Option String) : Reply (List String) × Desk :=
  adminOnly session db s fun _ =>
    match value.filter (fun text => text ≠ "") with
    | none => (.error 400 "Missing newsletter_value parameter." [], s)
    | some text => (.ok 200 (subscribersOf storage s.subscribers text), s)

def availableNewsletterValues : Reply (List NewsletterValue) × Desk :=
  adminOnly session db s fun _ =>
    (.ok 200 ((s.subscribers.rows.map Newsletter.newsletterValue).eraseDups.filter
      NewsletterValue.truthy), s)

theorem getAllMessages_desk : (getAllMessages session db s).2 = s := by
  rcases adminOnly_cases session db s _ with ⟨user, handled⟩ | refused
  · rw [getAllMessages, handled]
  · exact refused.1

theorem availableNewsletterValues_desk : (availableNewsletterValues session db s).2 = s := by
  rcases adminOnly_cases session db s _ with ⟨user, handled⟩ | refused
  · rw [availableNewsletterValues, handled]
  · exact refused.1

theorem listByValue_desk (value : Option String) :
    (listByValue storage session db s value).2 = s := by
  rcases adminOnly_cases session db s _ with ⟨user, handled⟩ | refused
  · rw [listByValue, handled]
    split <;> rfl
  · exact refused.1

end Lists

section Sending

structure SendBody where
  subject : JsonField String
  body : JsonField String
  emails : JsonField (List String)

def sendNewsletter (senderEmail : String) (session : Session) (db : Database) (s : Desk)
    (data : SendBody) : Reply String × Desk :=
  adminOnly session db s fun _ =>
    match data.subject.get.filter (fun subject => subject ≠ ""),
      data.body.get.filter (fun body => body ≠ ""),
      data.emails.get.filter (fun emails => emails ≠ []) with
    | some subject, some body, some emails =>
        let ((success, msg), mails) := sendBulkEmail senderEmail s.mailer subject body emails
        (if success then .ok 200 msg else .error 500 msg [], { s with mails := s.mails ++ mails })
    | _, _, _ => (.error 400 "Missing subject, body, or email list." [], s)

/-- Sending changes nothing but the mails that were accepted. -/
theorem sendNewsletter_desk (senderEmail : String) (session : Session) (db : Database) (s : Desk)
    (data : SendBody) :
    ∃ mails, (sendNewsletter senderEmail session db s data).2 =
      { s with mails := s.mails ++ mails } := by
  rcases adminOnly_cases session db s _ with ⟨user, handled⟩ | ⟨refused, -⟩
  · rw [sendNewsletter, handled]
    split
    · exact ⟨_, rfl⟩
    · exact ⟨[], by simp⟩
  · exact ⟨[], by rw [sendNewsletter, refused, List.append_nil]⟩

end Sending

/-- What changes at the desk besides the page at hand: visitors, other administrators, the time
and the mail server. -/
inductive DeskRequest where
  | subscribe (body : SubscribeBody)
  | unsubscribe (email : JsonField String)
  | create (session : Session) (data : MessageBody)
  | update (session : Session) (messageId : Nat) (data : MessageUpdate)
  | delete (session : Session) (messageId : Nat)
  | send (session : Session) (data : SendBody)
  | passes (time : Nat)
  | mailer (mailer : Mailer)

def deskStep (storage : Storage) (senderEmail : String) (db : Database) (s : Desk) :
    DeskRequest → Desk
  | .subscribe body =>
      { s with subscribers := (subscribe storage.engine storage.admits s.subscribers body).2 }
  | .unsubscribe email =>
      { s with subscribers := (unsubscribe storage.engine s.subscribers email).2 }
  | .create session data => (createMessage storage session db s data).2
  | .update session messageId data => (updateMessage storage session db s messageId data).2
  | .delete session messageId => (deleteMessage session db s messageId).2
  | .send session data => (sendNewsletter senderEmail session db s data).2
  | .passes time => { s with now := s.now + time }
  | .mailer mailer => { s with mailer := mailer }

/-- Lists are named by texts, and nothing is too long. -/
def plainStorage : Storage where
  engine := .sqlite
  admits := fun _ => true
  sameValue := fun value text => value = .text text
  fits := fun _ _ _ => true

def emptyDesk : Desk := ⟨.empty, .empty, [], 0, working⟩

end ProductSite.Backend.NewsletterMessages
