/- Module: ProductSite/Backend/ContentRoutes
   source: backend/app/routes/content_routes.py,
     react-router-bootstrap-app/src/components/EditableField.jsx
   digest: The document of the editable texts, which every edit reads and writes as a whole. -/

import ProductSite.Backend.Models
import ProductSite.Foundation.SharedCell

set_option autoImplicit false
set_option relaxedAutoImplicit false

namespace ProductSite.Backend.ContentRoutes

open ProductSite.Foundation.Runs (run)
open ProductSite.Foundation.SharedCell (System serve)
open ProductSite.Foundation.Wire (JsonField Keyspace Reply)
open ProductSite.Backend.Models

variable {J : Type}

/-- The keys that the handler looks for. A value of null is a value, so only a missing one is
none. -/
structure ContentBody (J : Type) where
  field : JsonField String
  value : Option J

structure Edit (J : Type) where
  field : String
  value : J
  deriving DecidableEq

/-- `content[data["field"]] = data["value"]`. -/
def Edit.apply (edit : Edit J) (content : Keyspace J) : Keyspace J :=
  content.set edit.field edit.value

def ContentBody.edit (body : ContentBody J) : Option (Edit J) :=
  match body.field, body.value with
  | .value name, some value => some ⟨name, value⟩
  -- a key of None is printed as null
  | .null, some value => some ⟨"null", value⟩
  | _, _ => none

/-- The guard of the administrators on a handler that keeps a file. -/
def adminOnly {β σ : Type} (session : Session) (db : Database) (kept : σ)
    (handler : Nat → Reply β × σ) : Reply β × σ :=
  match session.user with
  | none => (.error 401 "Unauthorized" [], kept)
  | some user => if isAdmin db user then handler user else (adminRefusal db user, kept)

theorem adminOnly_admin {β σ : Type} {session : Session} {db : Database} {user : Nat} (kept : σ)
    (handler : Nat → Reply β × σ) (login : session.user = some user)
    (admin : isAdmin db user = true) : adminOnly session db kept handler = handler user := by
  simp [adminOnly, login, admin]

/-- The handler answers, or the guard does and leaves alone what is kept. -/
theorem adminOnly_cases {β σ : Type} (session : Session) (db : Database) (kept : σ)
    (handler : Nat → Reply β × σ) :
    (∃ user, adminOnly session db kept handler = handler user) ∨
      ((adminOnly session db kept handler).2 = kept ∧
        (adminOnly session db kept handler).1.failed = true) := by
  rcases admin_or_outside session db with ⟨user, login, admin⟩ | outside
  · exact Or.inl ⟨user, adminOnly_admin kept handler login admin⟩
  · refine Or.inr ?_
    unfold adminOnly
    cases login : session.user with
    | none => exact ⟨rfl, rfl⟩
    | some user =>
        simp only [outside user login, Bool.false_eq_true, if_false]
        refine ⟨trivial, ?_⟩
        unfold adminRefusal
        split <;> rfl

/-- The file is created when it is missing; otherwise it is loaded, changed and dumped. -/
def updateContent (session : Session) (db : Database) (file : Option (Keyspace J))
    (body : ContentBody J) : Reply (Edit J) × Option (Keyspace J) :=
  adminOnly session db file fun _ =>
    match body.edit with
    | none => (.error 400 "Missing 'field' or 'value'" [], file)
    | some edit => (.ok 200 edit, some (edit.apply (file.getD .empty)))

/-- What a request computes from the document that it has read. -/
def rewrite {ι : Type} (edits : ι → Edit J) (worker : ι) (content : Keyspace J) :
    Option (Keyspace J) :=
  some ((edits worker).apply content)

/-- The messages are those of the handler: served one after the other, they leave in the file
what `update_content` leaves there, and the write comes with the answer of success. -/
theorem updateContent_messages {session : Session} {db : Database} {user : Nat}
    {body : ContentBody J} {edit : Edit J} (login : session.user = some user)
    (admin : isAdmin db user = true) (asked : body.edit = some edit) (content : Keyspace J) :
    updateContent session db (some content) body =
      (.ok 200 edit, some (run (serve (rewrite fun _ : Unit => edit)) (System.fresh content)
        [.read (), .write ()]).cell) := by
  simp [updateContent, adminOnly, login, admin, asked, run, serve, rewrite, System.fresh,
    System.enter]

end ProductSite.Backend.ContentRoutes
