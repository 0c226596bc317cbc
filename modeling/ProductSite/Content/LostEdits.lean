/- Module: ProductSite/Content/LostEdits
   source: backend/app/routes/content_routes.py
   digest: Concurrent edits of the content file survive iff the last write carries them. -/

import ProductSite.Storefront.EditableContent

set_option autoImplicit false
set_option relaxedAutoImplicit false

namespace ProductSite.Content.LostEdits

open ProductSite.Foundation.Runs (EachStep run)
open ProductSite.Foundation.SharedCell
open ProductSite.Foundation.Wire (Keyspace)
open ProductSite.Backend.ContentRoutes
open ProductSite.Storefront.EditableContent (savedBody)

variable {J : Type} {n : Nat} (edits : Fin n → Edit J)

/-- The file after the messages of the requests have been served in some order. -/
def served (first : Keyspace J) (messages : List (Message (Fin n))) :
    System (Fin n) (Keyspace J) :=
  run (serve (rewrite edits)) (System.fresh first) messages

/-- Every request has written, and so has answered with success. -/
def AllAnswered {V : Type} (s : System (Fin n) V) : Prop := ∀ worker, s.phase worker = .written

/-- Once all have answered, a field that was edited holds the value of one of its edits, and
every other field is as it was. -/
def NoEditLost (first : Keyspace J) (s : System (Fin n) (Keyspace J)) : Prop :=
  AllAnswered s →
    (∀ worker, ∃ other, (edits other).field = (edits worker).field ∧
      s.cell.get (edits worker).field = some (edits other).value) ∧
    ∀ name, (∀ worker, (edits worker).field ≠ name) → s.cell.get name = first.get name

/-- The last write carries an edit of the field, or the field held the value of one of its
edits from the start. -/
def FieldKept (first : Keyspace J) (messages : List (Message (Fin n))) (worker : Fin n) : Prop :=
  (∃ other ∈ carried messages, (edits other).field = (edits worker).field) ∨
    ∃ other, (edits other).field = (edits worker).field ∧
      first.get (edits worker).field = some (edits other).value

section Replay

/-- A field of a replayed document holds the value of one of the replayed edits, or there was no
edit of it and it is as it was. -/
private theorem get_replay (first : Keyspace J) (entries : List (Fin n)) (name : String) :
    (∃ worker ∈ entries, (edits worker).field = name ∧
        (replay (fun w => (edits w).apply) first entries).get name =
          some (edits worker).value) ∨
      (∀ worker ∈ entries, (edits worker).field ≠ name) ∧
        (replay (fun w => (edits w).apply) first entries).get name = first.get name := by
  induction entries using List.reverseRecOn with
  | nil => exact Or.inr ⟨nofun, rfl⟩
  | append_singleton entries last ih =>
      rw [replay_snoc]
      by_cases here : (edits last).field = name
      · refine Or.inl ⟨last, List.mem_append_right _ (List.mem_singleton_self last), here, ?_⟩
        rw [Edit.apply, Keyspace.get_set, if_pos here.symm]
      · have kept : ((edits last).apply (replay (fun w => (edits w).apply) first entries)).get
            name = (replay (fun w => (edits w).apply) first entries).get name := by
          rw [Edit.apply, Keyspace.get_set, if_neg (Ne.symm here)]
        rw [kept]
        rcases ih with ⟨worker, member, field, value⟩ | ⟨absent, same⟩
        · exact Or.inl ⟨worker, List.mem_append_left _ member, field, value⟩
        · refine Or.inr ⟨?_, same⟩
          intro worker member
          rcases List.mem_append.mp member with before | final
          · exact absent worker before
          · rw [List.mem_singleton.mp final]
            exact here

private theorem cell_served (first : Keyspace J) (messages : List (Message (Fin n))) :
    (served edits first messages).cell =
      replay (fun w => (edits w).apply) first (carried messages) :=
  cell_eq_replay (fun w => (edits w).apply) first messages

private theorem allAnswered_served (first : Keyspace J) (messages : List (Message (Fin n))) :
    AllAnswered (served edits first messages) ↔
      AllAnswered (run (serve journal) (System.fresh []) messages) := by
  have image : served edits first messages =
      (run (serve journal) (System.fresh []) messages).map
        (replay (fun w => (edits w).apply) first) :=
    run_eq_replay (fun w => (edits w).apply) first messages
  rw [image]
  exact forall_congr' fun worker => Phase.map_eq_written

end Replay

section Kept

variable (first : Keyspace J) (messages : List (Message (Fin n)))

/-- Unedited fields are always as they were, so that it is the edited ones that decide. -/
private theorem document_kept_iff :
    ((∀ worker, ∃ other, (edits other).field = (edits worker).field ∧
        (served edits first messages).cell.get (edits worker).field =
          some (edits other).value) ∧
      ∀ name, (∀ worker, (edits worker).field ≠ name) →
        (served edits first messages).cell.get name = first.get name) ↔
      ∀ worker, FieldKept edits first messages worker := by
  rw [cell_served]
  constructor
  · rintro ⟨edited, -⟩ worker
    obtain ⟨other, field, value⟩ := edited worker
    rcases get_replay edits first (carried messages) (edits worker).field with
      ⟨writer, member, same, -⟩ | ⟨-, same⟩
    · exact Or.inl ⟨writer, member, same⟩
    · exact Or.inr ⟨other, field, same.symm.trans value⟩
  · intro kept
    refine ⟨?_, ?_⟩
    · intro worker
      rcases get_replay edits first (carried messages) (edits worker).field with
        ⟨writer, -, same, value⟩ | ⟨absent, same⟩
      · exact ⟨writer, same, value⟩
      · rcases kept worker with ⟨writer, member, field⟩ | ⟨other, field, value⟩
        · exact absurd field (absent writer member)
        · exact ⟨other, field, same.trans value⟩
    · intro name unnamed
      rcases get_replay edits first (carried messages) name with ⟨writer, -, same, -⟩ | ⟨-, same⟩
      · exact absurd same (unnamed writer)
      · exact same

end Kept

/-- When no write is served between the read and the write of another request, every edit is
kept. -/
theorem noEditLost_of_serial (first : Keyspace J) {messages : List (Message (Fin n))}
    (serial : EachStep (serve journal) NotStale (System.fresh []) messages) :
    NoEditLost edits first (served edits first messages) := by
  intro answered
  rw [allAnswered_served] at answered
  refine (document_kept_iff edits first messages).mpr ?_
  intro worker
  exact Or.inl ⟨worker, mem_carried_of_notStale serial (answered worker), rfl⟩

/-- For any number of edits and any interleaving of their reads and writes, no edit is lost once
all have answered if and only if each edited field is kept: the last write carries an edit of it,
or it held one of the values before. -/
theorem noEditLost_iff (first : Keyspace J) (messages : List (Message (Fin n))) :
    NoEditLost edits first (served edits first messages) ↔
      (AllAnswered (run (serve journal) (System.fresh []) messages) →
        ∀ worker, FieldKept edits first messages worker) := by
  unfold NoEditLost
  rw [allAnswered_served]
  exact imp_congr_right fun _ => document_kept_iff edits first messages

section Samples

/-- The texts of the two buttons that turn the pages, each changed by another administrator. -/
def twoEdits : Fin 2 → Edit String
  | 0 => ⟨"content_70", "Back"⟩
  | 1 => ⟨"content_73", "Forward"⟩

def bothLoadFirst {ι : Type} (a b : ι) : List (Message ι) := [.read a, .read b, .write a, .write b]

def pageTurners : Keyspace String :=
  (Keyspace.empty.set "content_70" "Previous").set "content_73" "Next"

end Samples

/-- Both save, both are answered with success, and the first edit is gone: the second request
has written back the document without it. -/
theorem both_load_first_loses_one :
    (savedBody "content_70" "Previous" "Back").bind ContentBody.edit = some (twoEdits 0) ∧
      (savedBody "content_73" "Next" "Forward").bind ContentBody.edit = some (twoEdits 1) ∧
      AllAnswered (served twoEdits pageTurners (bothLoadFirst 0 1)) ∧
      (served twoEdits pageTurners (bothLoadFirst 0 1)).cell.get "content_70" = some "Previous" ∧
      ¬ NoEditLost twoEdits pageTurners (served twoEdits pageTurners (bothLoadFirst 0 1)) := by
  have answered : AllAnswered (served twoEdits pageTurners (bothLoadFirst 0 1)) := by
    rw [allAnswered_served]
    intro worker
    revert worker
    decide
  have stale : (served twoEdits pageTurners (bothLoadFirst 0 1)).cell.get "content_70" =
      some "Previous" := by
    rw [cell_served]
    decide
  refine ⟨by decide, by decide, answered, stale, ?_⟩
  intro kept
  obtain ⟨other, field, value⟩ := (kept answered).1 0
  have old := stale.symm.trans value
  revert field old
  revert other
  decide

end ProductSite.Content.LostEdits
