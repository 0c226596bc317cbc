/- Module: ProductSite/Foundation/References
   digest: Table writes that keep the keys that other rows refer to, or the values of a column. -/

import ProductSite.Foundation.Clashes

set_option autoImplicit false
set_option relaxedAutoImplicit false

namespace ProductSite.Foundation.References

open ProductSite.Foundation.Clashes (Adds)
open ProductSite.Foundation.KeyedTable (Table)

variable {ρ : Type} {key : ρ → Nat} {t t' : Table key}

/-- Every key of the first table is a key of the second. -/
def Keeps (t t' : Table key) : Prop :=
  ∀ k, (t.get? k).isSome = true → (t'.get? k).isSome = true

theorem isSome_get?_iff {k : Nat} : (t.get? k).isSome = true ↔ ∃ row ∈ t.rows, key row = k := by
  rw [Option.isSome_iff_exists]
  constructor
  · intro found
    obtain ⟨row, here⟩ := found
    exact ⟨row, Table.get?_eq_some_iff.mp here⟩
  · intro member
    obtain ⟨row, here⟩ := member
    exact ⟨row, Table.get?_eq_some_iff.mpr here⟩

section Keys

theorem Keeps.refl (t : Table key) : Keeps t t := fun _ held => held

theorem Keeps.trans {t'' : Table key} (first : Keeps t t') (second : Keeps t' t'') : Keeps t t'' :=
  fun k held => second k (first k held)

theorem keeps_save (t : Table key) (row : ρ) : Keeps t (t.save row) := by
  intro k held
  rw [Table.get?_save]
  split
  · rw [Option.isSome_map]
    exact held
  · exact held

theorem keeps_adds {row : ρ} (adds : Adds t t' row) : Keeps t t' := by
  intro k held
  rw [isSome_get?_iff] at held ⊢
  obtain ⟨old, member, here⟩ := held
  exact ⟨old, (adds.members old).mpr (Or.inl member), here⟩

end Keys

section Columns

variable {β : Type}

/-- A row that is written back with the same value of a column leaves the column as it is. -/
theorem map_save_of_same {column : ρ → β} {row old : ρ} (found : t.get? (key row) = some old)
    (same : column row = column old) : (t.save row).rows.map column = t.rows.map column := by
  change (t.rows.map _).map column = _
  rw [List.map_map]
  refine List.map_congr_left ?_
  intro other member
  change column (if key other = key row then row else other) = column other
  split
  · rename_i here
    have only := Table.get?_of_mem member
    rw [here, found] at only
    cases only
    exact same
  · rfl

theorem map_modify_of_same {column : ρ → β} {change : ρ → ρ}
    (keyed : ∀ row, key (change row) = key row) (same : ∀ row, column (change row) = column row) :
    (t.modify change keyed).rows.map column = t.rows.map column := by
  change (t.rows.map change).map column = _
  rw [List.map_map]
  exact List.map_congr_left fun row _ => same row

end Columns

end ProductSite.Foundation.References
