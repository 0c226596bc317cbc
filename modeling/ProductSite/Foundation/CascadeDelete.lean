/- Module: ProductSite/Foundation/CascadeDelete
   digest: Deleting a row together with its dependants, along foreign keys with three rules. -/

import Mathlib.Data.Set.Basic

set_option autoImplicit false
set_option relaxedAutoImplicit false

namespace ProductSite.Foundation.CascadeDelete

/-- What becomes of a row whose target is deleted: it goes too, it loses the reference, or the
deletion is refused. -/
inductive OnDelete where
  | cascade
  | setNull
  | refuse
  deriving DecidableEq

/-- Rows with their keys and the foreign keys that they hold. -/
structure Schema (ρ ν : Type) where
  key : ρ → ν
  refs : ρ → List (ν × OnDelete)

variable {ρ ν : Type} (schema : Schema ρ ν)

/-- The rows that go with the root, by key. -/
inductive Doomed (stored : Set ρ) (root : ν) : ν → Prop where
  | root : Doomed stored root root
  | child (row : ρ) {parent : ν} (member : row ∈ stored)
      (cascades : (parent, .cascade) ∈ schema.refs row) (goes : Doomed stored root parent) :
      Doomed stored root (schema.key row)

/-- Whatever would refuse the deletion goes along on another path. -/
def Allowed (stored : Set ρ) (root : ν) : Prop :=
  ∀ row ∈ stored, ∀ parent, (parent, .refuse) ∈ schema.refs row →
    Doomed schema stored root parent → Doomed schema stored root (schema.key row)

/-- The row stays, with its references to what stays. -/
structure Survives (stored : Set ρ) (root : ν) (row row' : ρ) : Prop where
  stays : ¬ Doomed schema stored root (schema.key row)
  key : schema.key row' = schema.key row
  refs : ∀ ref, ref ∈ schema.refs row' ↔
    ref ∈ schema.refs row ∧ ¬ Doomed schema stored root ref.1

/-- The rows after a deletion are the survivors of those before. -/
structure Deletes (stored : Set ρ) (root : ν) (stored' : Set ρ) : Prop where
  origin : ∀ row' ∈ stored', ∃ row ∈ stored, Survives schema stored root row row'
  kept : ∀ row ∈ stored, ¬ Doomed schema stored root (schema.key row) →
    ∃ row' ∈ stored', Survives schema stored root row row'

/-- Every foreign key leads to a stored row. -/
def Intact (stored : Set ρ) : Prop :=
  ∀ row ∈ stored, ∀ ref ∈ schema.refs row, ∃ target ∈ stored, schema.key target = ref.1

variable {schema} {stored stored' : Set ρ} {root : ν}

/-- A row that has nothing to lose stays as it is. -/
theorem Allowed.survives (allowed : Allowed schema stored root) {row : ρ} (member : row ∈ stored)
    (stays : ¬ Doomed schema stored root (schema.key row))
    (fixed : ∀ parent, (parent, OnDelete.setNull) ∈ schema.refs row →
      ¬ Doomed schema stored root parent) :
    Survives schema stored root row row := by
  refine ⟨stays, rfl, ?_⟩
  rintro ⟨parent, rule⟩
  refine ⟨fun held => ⟨held, ?_⟩, And.left⟩
  intro goes
  cases rule with
  | cascade => exact stays (.child row member held goes)
  | setNull => exact fixed parent held goes
  | refuse => exact stays (allowed row member parent held goes)

theorem Deletes.gone (deletes : Deletes schema stored root stored') {node : ν}
    (goes : Doomed schema stored root node) {row : ρ} (member : row ∈ stored') :
    schema.key row ≠ node := by
  obtain ⟨before, -, survives⟩ := deletes.origin row member
  rintro rfl
  rw [survives.key] at goes
  exact survives.stays goes

theorem Deletes.unreferenced (deletes : Deletes schema stored root stored') {node : ν}
    (goes : Doomed schema stored root node) {row : ρ} (member : row ∈ stored') :
    ∀ ref ∈ schema.refs row, ref.1 ≠ node := by
  obtain ⟨before, -, survives⟩ := deletes.origin row member
  rintro ref held rfl
  exact ((survives.refs ref).mp held).2 goes

/-- A deletion leaves no foreign key dangling. -/
theorem Deletes.intact (deletes : Deletes schema stored root stored')
    (intact : Intact schema stored) : Intact schema stored' := by
  intro row' member' ref held
  obtain ⟨row, member, survives⟩ := deletes.origin row' member'
  obtain ⟨before, stays⟩ := (survives.refs ref).mp held
  obtain ⟨target, present, reached⟩ := intact row member ref before
  rw [← reached] at stays
  obtain ⟨target', present', survives'⟩ := deletes.kept target present stays
  exact ⟨target', present', survives'.key.trans reached⟩

end ProductSite.Foundation.CascadeDelete
