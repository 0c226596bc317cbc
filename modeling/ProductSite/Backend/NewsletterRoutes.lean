/- Module: ProductSite/Backend/NewsletterRoutes
   source: backend/app/routes/newsletter_routes.py, backend/app/models/newsletter.py
   digest: Subscribing to the newsletter and unsubscribing, handled in turn or by messages. -/

import ProductSite.Backend.Models
import ProductSite.Foundation.CheckThenAct

set_option autoImplicit false
set_option relaxedAutoImplicit false

namespace ProductSite.Backend.NewsletterRoutes

open ProductSite.Foundation.CheckThenAct
open ProductSite.Foundation.KeyedTable (Table)
open ProductSite.Foundation.Runs (run run_cons run_nil)
open ProductSite.Foundation.Wire (JsonField Reply)
open ProductSite.Backend.Models

/-- What clients send as `newsletter_value`; the form of the page sends a text. -/
inductive NewsletterValue where
  | number (value : Int)
  | text (value : String)
  deriving DecidableEq

def NewsletterValue.truthy : NewsletterValue → Bool
  | .number value => value ≠ 0
  | .text value => value ≠ ""

/-- No constraint makes the e-mail unique. -/
structure Newsletter where
  id : Nat
  email : String
  newsletterValue : NewsletterValue
  deriving DecidableEq

structure SubscribeBody where
  email : JsonField String
  newsletterValue : JsonField NewsletterValue

/-- `Newsletter.query.filter_by(email=email).first()`. -/
def findEntry (engine : Engine) (table : Table Newsletter.id) (email : String) :
    Option Newsletter :=
  table.first (fun row => engine.sameText row.email email)

/-- The e-mail and the value, if Python takes both for true. -/
def SubscribeBody.entry (body : SubscribeBody) : Option (String × NewsletterValue) :=
  match body.email.get.filter (fun email => email ≠ ""),
    body.newsletterValue.get.filter NewsletterValue.truthy with
  | some email, some value => some (email, value)
  | _, _ => none

/-- The column of the value is one of integers; `admits` says which values the engine stores. -/
def subscribe (engine : Engine) (admits : NewsletterValue → Bool) (table : Table Newsletter.id)
    (body : SubscribeBody) : Reply String × Table Newsletter.id :=
  match body.entry with
  | none => (.error 400 "Email and newsletter_value are required." [], table)
  | some (email, value) =>
      match findEntry engine table email with
      | some _ => (.error 400 "Email already subscribed." [], table)
      | none =>
          if admits value then
            (.ok 201 "Subscribed successfully",
              table.insertNew (fun id => ⟨id, email, value⟩) (fun _ => rfl))
          else (.raised, table)

/-- A missing e-mail is compared with a column that holds no null. -/
def unsubscribe (engine : Engine) (table : Table Newsletter.id) (email : JsonField String) :
    Reply String × Table Newsletter.id :=
  match email.get.bind (findEntry engine table) with
  | none => (.error 404 "Email not found." [], table)
  | some entry => (.ok 200 "Unsubscribed successfully", table.remove (fun row => row.id = entry.id))

/-- The two handlers as workers: a lookup of the e-mail, then an insert or the delete of the
row found. -/
def newsletters (engine : Engine) (admits : NewsletterValue → Bool) :
    Registry Newsletter String NewsletterValue Newsletter.id where
  found := fun row email => engine.sameText row.email email
  make := fun email value id => ⟨id, email, value⟩
  keyed := fun _ _ _ => rfl
  admits := admits

section Turns

variable {engine : Engine} {admits : NewsletterValue → Bool} {ι : Type} [DecidableEq ι]
  {task : ι → Task String NewsletterValue} {s : System ι String Newsletter.id} {worker : ι}

private theorem find_newsletters (table : Table Newsletter.id) (email : String) :
    (newsletters engine admits).find table email = findEntry engine table email := rfl

/-- A subscriber that is served at once does what the handler does. -/
theorem subscribe_in_turn {body : SubscribeBody} {email : String} {value : NewsletterValue}
    (entry : body.entry = some (email, value)) (asked : task worker = .enrol email value)
    (waiting : s.phase worker = .waiting) :
    (run (serve (newsletters engine admits) task) s [.lookup worker, .act worker]).table =
      (subscribe engine admits s.table body).2 := by
  rw [run_cons, run_cons, run_nil, serve_lookup waiting, asked]
  rcases Option.eq_none_or_eq_some (findEntry engine s.table email) with free | ⟨row, taken⟩
  · simp only [subscribe, entry, Registry.answer, find_newsletters, free, Option.isSome_none,
      Bool.false_eq_true, if_false, serve, enter_phase, asked]
    change System.table (if admits value = true then _ else _) = _
    split <;> rfl
  · simp only [subscribe, entry, Registry.answer, find_newsletters, taken, Option.isSome_some,
      if_true, serve, enter_phase]
    rfl

theorem unsubscribe_in_turn {email : String} (asked : task worker = .withdraw email)
    (waiting : s.phase worker = .waiting) :
    (run (serve (newsletters engine admits) task) s [.lookup worker, .act worker]).table =
      (unsubscribe engine s.table (.value email)).2 := by
  have read : (JsonField.value email).get.bind (findEntry engine s.table) =
      findEntry engine s.table email := rfl
  rw [run_cons, run_cons, run_nil, serve_lookup waiting, asked]
  rcases Option.eq_none_or_eq_some (findEntry engine s.table email) with missing | ⟨row, found⟩
  · simp only [unsubscribe, read, Registry.answer, find_newsletters, missing, serve, enter_phase]
    rfl
  · simp only [unsubscribe, read, Registry.answer, find_newsletters, found, serve, enter_phase,
      asked]
    rfl

end Turns

end ProductSite.Backend.NewsletterRoutes
