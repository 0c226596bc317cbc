/- Module: ProductSite/Personal/Mailing
   source: backend/app/utils/email.py, backend/app/routes/newsletter_routes.py
   digest: Over any number of attempts to send a newsletter, who is mailed how often, and when
     everybody is mailed exactly once. -/

import ProductSite.Backend.NewsletterMessages
import ProductSite.Backend.Requests

set_option autoImplicit false
set_option relaxedAutoImplicit false

namespace ProductSite.Personal.Mailing

open ProductSite.Foundation.Runs
open ProductSite.Foundation.Wire (JsonField)
open ProductSite.Backend.ContentRoutes (adminOnly_admin)
open ProductSite.Backend.Email
open ProductSite.Backend.Models
open ProductSite.Backend.NewsletterMessages
open ProductSite.Backend.Requests

section Attempt

/-- How many recipients the loop gets past. -/
def reachFrom (accepts : Nat → String → Bool) : Nat → List String → Nat
  | _, [] => 0
  | position, recipient :: rest =>
      if accepts position recipient then reachFrom accepts (position + 1) rest + 1 else 0

def reach (mailer : Mailer) (emails : List String) : Nat :=
  if mailer.connects then reachFrom mailer.accepts 0 emails else 0

private theorem reachFrom_le (accepts : Nat → String → Bool) (position : Nat)
    (emails : List String) :
    reachFrom accepts position emails ≤ emails.length := by
  induction emails generalizing position with
  | nil => exact Nat.le_refl 0
  | cons recipient rest ih =>
      rw [reachFrom, List.length_cons]
      have later := ih (position + 1)
      split <;> omega

private theorem reach_le (mailer : Mailer) (emails : List String) :
    reach mailer emails ≤ emails.length := by
  unfold reach
  split
  · exact reachFrom_le _ _ _
  · exact Nat.zero_le _

/-- The loop mails the recipients that it gets past, and finishes when these are all. -/
private theorem sendEach_eq (accepts : Nat → String → Bool) (mail : String → Mail) (position : Nat)
    (emails : List String) :
    sendEach accepts mail position emails =
      ((emails.take (reachFrom accepts position emails)).map mail,
        decide (reachFrom accepts position emails = emails.length)) := by
  induction emails generalizing position with
  | nil => rfl
  | cons recipient rest ih =>
      rw [sendEach, reachFrom]
      split
      · rw [ih (position + 1)]
        simp
      · simp

/-- The mails of one attempt, and its answer. -/
private theorem sendBulkEmail_eq (senderEmail : String) (mailer : Mailer) (subject body : String)
    (emails : List String) :
    sendBulkEmail senderEmail mailer subject body emails =
      (if mailer.connects && decide (reach mailer emails = emails.length) && mailer.quits then
          (true, "Emails sent successfully")
        else (false, senderEmail),
        (emails.take (reach mailer emails)).map
          (fun recipient => ⟨senderEmail, recipient, subject, body⟩)) := by
  unfold sendBulkEmail reach
  cases mailer.connects with
  | false => rfl
  | true =>
      simp only [if_true, sendEach_eq, Bool.true_and]
      split <;> rfl

end Attempt

/-- A newsletter that is ready to be sent: the texts and the recipients that the handler asks for,
with no address twice. -/
structure Issue where
  subject : String
  body : String
  emails : List String
  subject_nonempty : subject ≠ ""
  body_nonempty : body ≠ ""
  emails_nonempty : emails ≠ []
  distinct : emails.Nodup

namespace Issue

variable (issue : Issue)

def data : SendBody := ⟨.value issue.subject, .value issue.body, .value issue.emails⟩

/-- The mails of an attempt that gets past so many recipients. -/
def mails (senderEmail : String) (reached : Nat) : List Mail :=
  (issue.emails.take reached).map
    (fun recipient => ⟨senderEmail, recipient, issue.subject, issue.body⟩)

end Issue

section Requests

variable (storage : Storage) (senderEmail : String) (db : Database)

private theorem sendNewsletter_issue (issue : Issue) {session : Session} {user : Nat}
    (login : session.user = some user) (admin : isAdmin db user = true) (s : Desk) :
    (sendNewsletter senderEmail session db s issue.data).2 =
      { s with mails := s.mails ++ issue.mails senderEmail (reach s.mailer issue.emails) } := by
  rw [sendNewsletter, adminOnly_admin _ _ login admin]
  simp [Issue.data, JsonField.get, Option.filter, issue.subject_nonempty, issue.body_nonempty,
    issue.emails_nonempty, sendBulkEmail_eq, Issue.mails]

/-- Whatever else is asked for, no newsletter but this one is sent, and only by administrators. -/
def SendsOnly (issue : Issue) : DeskRequest → Prop
  | .send session data =>
      (∃ user, session.user = some user ∧ isAdmin db user = true) ∧ data = issue.data
  | _ => True

/-- The mail server of an attempt to send. -/
def attempt (s : Desk) : DeskRequest → List Mailer
  | .send _ _ => [s.mailer]
  | _ => []

/-- The mail servers that the attempts of a run found. -/
def attempts (s : Desk) (requests : List DeskRequest) : List Mailer :=
  journal (deskStep storage senderEmail db) attempt s requests

variable {storage senderEmail db}

private theorem mails_deskStep {issue : Issue} {s : Desk} {request : DeskRequest}
    (only : SendsOnly db issue request) :
    (deskStep storage senderEmail db s request).mails =
      s.mails ++ (attempt s request).flatMap
        (fun mailer => issue.mails senderEmail (reach mailer issue.emails)) := by
  cases request with
  | send session data =>
      obtain ⟨⟨user, login, admin⟩, rfl⟩ := only
      rw [deskStep, sendNewsletter_issue senderEmail db issue login admin]
      simp [attempt]
  | subscribe body => simp [deskStep, attempt]
  | unsubscribe email => simp [deskStep, attempt]
  | create session data =>
      simp only [deskStep, attempt, List.flatMap_nil, List.append_nil]
      rcases createMessage_cases storage session db s data with ⟨_, _, _, _, stored⟩ | ⟨same, -⟩
      · rw [stored]
      · rw [same]
  | update session messageId data =>
      simp only [deskStep, attempt, List.flatMap_nil, List.append_nil]
      rcases updateMessage_cases storage session db s messageId data with same | ⟨_, written⟩
      · rw [same]
      · rw [written]
  | delete session messageId =>
      simp only [deskStep, attempt, List.flatMap_nil, List.append_nil]
      rcases deleteMessage_cases session db s messageId with ⟨-, deleted⟩ | ⟨same, -⟩
      · rw [deleted]
      · rw [same]
  | passes time => simp [deskStep, attempt]
  | mailer mailer => simp [deskStep, attempt]

end Requests

section Counting

variable {α : Type}

private theorem sum_of_indicators (p : α → Bool) (entries : List α) :
    (entries.map (fun entry => if p entry then 1 else 0)).sum = entries.countP p := by
  induction entries with
  | nil => rfl
  | cons entry rest ih =>
      rw [List.map_cons, List.sum_cons, ih, List.countP_cons, Nat.add_comm]

/-- Of heights that are at most `bound`, exactly one is above every level below `bound` iff one of
them is `bound` and all others are zero. -/
private theorem one_above_each_level_iff {bound : Nat} (positive : 0 < bound) (height : α → Nat)
    (entries : List α) (bounded : ∀ entry ∈ entries, height entry ≤ bound) :
    (∀ level < bound, entries.countP (fun entry => level < height entry) = 1) ↔
      ∃ before entry after, entries = before ++ entry :: after ∧ height entry = bound ∧
        ∀ other ∈ before ++ after, height other = 0 := by
  constructor
  · intro once
    have top := once (bound - 1) (by omega)
    have some_top : 0 < entries.countP (fun entry => bound - 1 < height entry) := by omega
    obtain ⟨entry, member, above⟩ := List.countP_pos_iff.mp some_top
    have full : height entry = bound := by
      have below := bounded entry member
      have high := of_decide_eq_true above
      omega
    obtain ⟨before, after, rfl⟩ := List.append_of_mem member
    refine ⟨before, entry, after, rfl, full, ?_⟩
    have ground := once 0 positive
    rw [List.countP_append, List.countP_cons, if_pos (by simpa [full] using positive)] at ground
    have none_other : (before ++ after).countP (fun other => 0 < height other) = 0 := by
      rw [List.countP_append]
      omega
    intro other present
    have low := List.countP_eq_zero.mp none_other other present
    simpa using low
  · rintro ⟨before, entry, after, rfl, full, others⟩ level below
    have flat : (before ++ after).countP (fun other => level < height other) = 0 := by
      rw [List.countP_eq_zero]
      intro other present
      simp [others other present]
    rw [List.countP_append] at flat
    rw [List.countP_append, List.countP_cons, if_pos (by simpa [full] using below)]
    omega

end Counting

section Recipients

variable (issue : Issue)

/-- The mails of a run that went to a recipient. -/
def mailsTo (recipient : String) (s : Desk) : Nat :=
  s.mails.countP (fun mail => mail.recipient = recipient)

private theorem countP_issue_mails (senderEmail : String) {recipient : String}
    (listed : recipient ∈ issue.emails) (reached : Nat) :
    (issue.mails senderEmail reached).countP (fun mail => mail.recipient = recipient) =
      if issue.emails.idxOf recipient < reached then 1 else 0 := by
  have counted : (issue.mails senderEmail reached).countP
      (fun mail => mail.recipient = recipient) = (issue.emails.take reached).count recipient := by
    rw [Issue.mails, List.countP_map, List.count]
    congr 1
  rw [counted]
  have distinct : (issue.emails.take reached).Nodup :=
    issue.distinct.sublist (List.take_sublist reached issue.emails)
  rw [distinct.count]
  congr 1
  rw [List.mem_take_iff_idxOf_lt listed]

variable {issue} {storage : Storage} {senderEmail : String} {db : Database}

/-- A recipient gets one mail from every attempt that gets past their place in the list. -/
private theorem mailsTo_run {s : Desk} {requests : List DeskRequest}
    (only : ∀ request ∈ requests, SendsOnly db issue request) {recipient : String}
    (listed : recipient ∈ issue.emails) :
    mailsTo recipient (run (deskStep storage senderEmail db) s requests) =
      mailsTo recipient s + (attempts storage senderEmail db s requests).countP
        (fun mailer => issue.emails.idxOf recipient < reach mailer issue.emails) := by
  have each : EachStep (deskStep storage senderEmail db)
      (fun _ request => SendsOnly db issue request) s requests := eachStep_of_forall only s
  have log := log_eq_journal (fun _ _ allowed => mails_deskStep allowed) each
  set late : Mailer → Bool :=
    fun mailer => decide (issue.emails.idxOf recipient < reach mailer issue.emails) with late_def
  have counted : (List.countP (fun mail : Mail => decide (mail.recipient = recipient))) ∘
      (fun mailer => issue.mails senderEmail (reach mailer issue.emails)) =
        fun mailer => if late mailer then 1 else 0 := by
    funext mailer
    simpa [late_def] using countP_issue_mails issue senderEmail listed (reach mailer issue.emails)
  rw [mailsTo, log, List.countP_append, List.countP_flatMap, counted, sum_of_indicators]
  rfl

end Recipients

/-- However often a newsletter is sent while no other one is, everybody on the list is mailed
exactly once iff one attempt got past everybody and the others past nobody. -/
theorem everybody_mailed_once_iff (storage : Storage) (senderEmail : String) (db : Database)
    (issue : Issue) (s : Desk) (requests : List DeskRequest)
    (only : ∀ request ∈ requests, SendsOnly db issue request) :
    (∀ recipient ∈ issue.emails,
      mailsTo recipient (run (deskStep storage senderEmail db) s requests) =
        mailsTo recipient s + 1) ↔
      ∃ before mailer after,
        attempts storage senderEmail db s requests = before ++ mailer :: after ∧
          reach mailer issue.emails = issue.emails.length ∧
          ∀ other ∈ before ++ after, reach other issue.emails = 0 := by
  have positive : 0 < issue.emails.length := List.length_pos_iff.mpr issue.emails_nonempty
  rw [← one_above_each_level_iff positive _ _ (fun mailer _ => reach_le mailer issue.emails)]
  constructor
  · intro once level below
    have listed : issue.emails[level] ∈ issue.emails := List.getElem_mem below
    have place : issue.emails.idxOf issue.emails[level] = level :=
      issue.distinct.idxOf_getElem level below
    have mailed := once _ listed
    rw [mailsTo_run only listed, place] at mailed
    omega
  · intro once recipient listed
    rw [mailsTo_run only listed, once _ (List.idxOf_lt_length_of_mem listed)]

def spring : Issue where
  subject := "Spring"
  body := "New kits"
  emails := ["ann@mail.com", "eve@mail.com"]
  subject_nonempty := by decide
  body_nonempty := by decide
  emails_nonempty := by decide
  distinct := by decide

/-- The first attempt finds no mail server, the second one gets through. -/
theorem spring_is_mailed_once :
    let requests : List DeskRequest :=
      [.mailer ⟨false, fun _ _ => true, true⟩, .send administrator spring.data, .mailer working,
        .send administrator spring.data]
    ∀ recipient ∈ spring.emails,
      mailsTo recipient
          (run (deskStep plainStorage "shop@mail.com" (shelfOnly 3).db) emptyDesk requests) =
        mailsTo recipient emptyDesk + 1 := by
  intro requests
  refine (everybody_mailed_once_iff plainStorage "shop@mail.com" (shelfOnly 3).db spring emptyDesk
    requests ?_).mpr ⟨[⟨false, fun _ _ => true, true⟩], working, [], rfl, by decide, ?_⟩
  · have admin : ∃ user, administrator.user = some user ∧ isAdmin (shelfOnly 3).db user = true :=
      ⟨2, rfl, by decide⟩
    simp only [requests, List.forall_mem_cons, List.not_mem_nil, false_implies, implies_true,
      and_true]
    exact ⟨trivial, ⟨admin, rfl⟩, trivial, admin, rfl⟩
  · intro other member
    rw [List.append_nil, List.mem_singleton] at member
    rw [member]
    rfl

/-- A server that refuses one recipient makes the others before them get a mail at every try. -/
example :
    let requests : List DeskRequest :=
      [.mailer ⟨true, fun _ recipient => recipient ≠ "eve@mail.com", true⟩,
        .send administrator spring.data, .mailer working, .send administrator spring.data]
    mailsTo "ann@mail.com"
      (run (deskStep plainStorage "shop@mail.com" (shelfOnly 3).db) emptyDesk requests) = 2 := by
  decide

end ProductSite.Personal.Mailing
