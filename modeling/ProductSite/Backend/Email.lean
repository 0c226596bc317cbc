/- Module: ProductSite/Backend/Email
   source: backend/app/utils/email.py
   digest: Mails to a list of recipients, one after the other, over one connection. -/

import Mathlib.Logic.Basic

set_option autoImplicit false
set_option relaxedAutoImplicit false

namespace ProductSite.Backend.Email

structure Mail where
  sender : String
  recipient : String
  subject : String
  body : String
  deriving DecidableEq

/-- The mail server during one request: whether the connection, the encryption and the login
succeed, which of the recipients it accepts, in the order of the loop, and whether it quits. -/
structure Mailer where
  connects : Bool
  accepts : Nat → String → Bool
  quits : Bool

/-- The loop over the recipients, from a position on: the mails that are accepted before the first
one that is refused, and whether none is. -/
def sendEach (accepts : Nat → String → Bool) (mail : String → Mail) :
    Nat → List String → List Mail × Bool
  | _, [] => ([], true)
  | position, recipient :: rest =>
      if accepts position recipient then
        let (mails, finished) := sendEach accepts mail (position + 1) rest
        (mail recipient :: mails, finished)
      else ([], false)

/-- An exception is answered with the address of the sender. The mails that were accepted before
it are not called back. -/
def sendBulkEmail (senderEmail : String) (mailer : Mailer) (subject body : String)
    (emails : List String) : (Bool × String) × List Mail :=
  if mailer.connects then
    let (mails, finished) :=
      sendEach mailer.accepts (fun recipient => ⟨senderEmail, recipient, subject, body⟩) 0 emails
    if finished && mailer.quits then ((true, "Emails sent successfully"), mails)
    else ((false, senderEmail), mails)
  else ((false, senderEmail), [])

/-- Nothing goes wrong at the mail server. -/
structure Mailer.Works (mailer : Mailer) : Prop where
  connects : mailer.connects = true
  accepts : ∀ position recipient, mailer.accepts position recipient = true
  quits : mailer.quits = true

/-- A mail server that takes everything. -/
def working : Mailer := ⟨true, fun _ _ => true, true⟩

theorem works_working : working.Works := ⟨rfl, fun _ _ => rfl, rfl⟩

private theorem sendEach_finishes {accepts : Nat → String → Bool}
    (all : ∀ position recipient, accepts position recipient = true) (mail : String → Mail)
    (position : Nat) (emails : List String) :
    (sendEach accepts mail position emails).2 = true := by
  induction emails generalizing position with
  | nil => rfl
  | cons recipient rest ih =>
      rw [sendEach, if_pos (all position recipient)]
      exact ih (position + 1)

theorem sendBulkEmail_works {mailer : Mailer} (works : mailer.Works) (senderEmail : String)
    (subject body : String) (emails : List String) :
    (sendBulkEmail senderEmail mailer subject body emails).1 =
      (true, "Emails sent successfully") := by
  unfold sendBulkEmail
  rw [if_pos works.connects]
  simp only [sendEach_finishes works.accepts, works.quits, Bool.and_self, if_true]

end ProductSite.Backend.Email
