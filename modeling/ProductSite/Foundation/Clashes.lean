/- Module: ProductSite/Foundation/Clashes
   digest: Tables without two rows that clash, and which writes keep them so. -/

import ProductSite.Foundation.KeyedTable

set_option autoImplicit false
set_option relaxedAutoImplicit false

namespace ProductSite.Foundation.Clashes

open ProductSite.Foundation.KeyedTable (Table)

variable {ρ : Type} {key : ρ → Nat}

/-- No two rows of the table clash. -/
def Apart (clash : ρ → ρ → Prop) (t : Table key) : Prop :=
  ∀ row ∈ t.rows, ∀ other ∈ t.rows, clash row other → row = other

variable {clash : ρ → ρ → Prop} {t : Table key}

theorem apart_empty : Apart clash (Table.empty : Table key) := by
  intro row member
  cases member

theorem Apart.remove (apart : Apart clash t) (gone : ρ → Bool) : Apart clash (t.remove gone) := by
  intro row member other present
  exact apart row (Table.mem_remove.mp member).1 other (Table.mem_remove.mp present).1

theorem Apart.modify (apart : Apart clash t) {change : ρ → ρ}
    (keyed : ∀ row, key (change row) = key row)
    (reflects : ∀ row other, clash (change row) (change other) → clash row other) :
    Apart clash (t.modify change keyed) := by
  intro row member other present clashes
  obtain ⟨row, old, rfl⟩ := List.mem_map.mp member
  obtain ⟨other, old', rfl⟩ := List.mem_map.mp present
  rw [apart row old other old' (reflects row other clashes)]

/-- The second table is the first with one row more, under a key of its own. -/
structure Adds (t t' : Table key) (row : ρ) : Prop where
  members : ∀ r, r ∈ t'.rows ↔ r ∈ t.rows ∨ r = row
  fresh : ∀ r ∈ t.rows, key r ≠ key row

theorem adds_insertNew {mk : Nat → ρ} (keyed : ∀ k, key (mk k) = k) :
    Adds t (t.insertNew mk keyed) (mk t.nextKey) where
  members := fun _ => Table.mem_insertNew
  fresh := by
    intro r member same
    have found := Table.get?_of_mem member
    rw [same, keyed, Table.get?_nextKey] at found
    cases found

theorem adds_insert? {t' : Table key} {row : ρ} (stored : t.insert? row = some t') :
    Adds t t' row := by
  obtain ⟨fresh, rows⟩ := Table.rows_insert? stored
  refine ⟨?_, fresh⟩
  intro r
  rw [rows, List.mem_append, List.mem_singleton]

/-- A new row keeps the rows apart exactly if it clashes with none of them. -/
theorem Adds.apart_iff {t' : Table key} {row : ρ} (adds : Adds t t' row)
    (symm : ∀ {row other}, clash row other → clash other row) (apart : Apart clash t) :
    Apart clash t' ↔ ∀ other ∈ t.rows, ¬ clash other row := by
  constructor
  · intro after other present clashes
    have equal := after other ((adds.members other).mpr (Or.inl present)) row
      ((adds.members row).mpr (Or.inr rfl)) clashes
    exact adds.fresh other present (congrArg key equal)
  · intro free first member second present clashes
    rcases (adds.members first).mp member with old | rfl
    · rcases (adds.members second).mp present with old' | rfl
      · exact apart first old second old' clashes
      · exact absurd clashes (free first old)
    · rcases (adds.members second).mp present with old' | rfl
      · exact absurd (symm clashes) (free second old')
      · rfl

/-- Writing back a row keeps the rows apart exactly if it clashes with no other. -/
theorem apart_save_iff (symm : ∀ {row other}, clash row other → clash other row) {row old : ρ}
    (found : t.get? (key row) = some old) (apart : Apart clash t) :
    Apart clash (t.save row) ↔ ∀ other ∈ t.rows, key other ≠ key row → ¬ clash other row := by
  obtain ⟨member, same⟩ := Table.get?_eq_some_iff.mp found
  have written : row ∈ (t.save row).rows := Table.mem_save.mpr (Or.inl ⟨rfl, old, member, same⟩)
  constructor
  · intro after other present elsewhere clashes
    have kept : other ∈ (t.save row).rows := Table.mem_save.mpr (Or.inr ⟨present, elsewhere⟩)
    exact elsewhere (congrArg key (after other kept row written clashes))
  · intro free first member₁ second member₂ clashes
    rcases Table.mem_save.mp member₁ with ⟨rfl, -⟩ | ⟨old₁, other₁⟩
    · rcases Table.mem_save.mp member₂ with ⟨rfl, -⟩ | ⟨old₂, other₂⟩
      · rfl
      · exact absurd (symm clashes) (free second old₂ other₂)
    · rcases Table.mem_save.mp member₂ with ⟨rfl, -⟩ | ⟨old₂, other₂⟩
      · exact absurd clashes (free first old₁ other₁)
      · exact apart first old₁ second old₂ clashes

section Lookups

variable {filter : ρ → Bool}

/-- Where the rows that a filter selects all clash, a lookup finds the only one. -/
theorem Apart.first_eq_some_iff (apart : Apart clash t)
    (selects : ∀ row other, filter row = true → filter other = true → clash row other) {row : ρ} :
    t.first filter = some row ↔ row ∈ t.rows ∧ filter row = true := by
  constructor
  · intro found
    exact ⟨List.mem_of_find?_eq_some found, Table.of_first found⟩
  · rintro ⟨member, selected⟩
    obtain ⟨other, found⟩ : ∃ other, t.rows.find? filter = some other :=
      Option.isSome_iff_exists.mp (List.find?_isSome.mpr ⟨row, member, selected⟩)
    have equal := apart other (List.mem_of_find?_eq_some found) row member
      (selects other row (List.find?_some found) selected)
    rw [Table.first, found, equal]

/-- Where the rows that a filter selects all clash with one of them, a listing shows only that. -/
theorem Apart.filter_eq_singleton (apart : Apart clash t) {row : ρ}
    (selects : ∀ other, filter other = true → clash other row) (member : row ∈ t.rows)
    (selected : filter row = true) : t.rows.filter filter = [row] := by
  have once : (t.rows.filter filter).Nodup := t.distinct.of_map.filter _
  refine List.perm_singleton.mp
    ((List.perm_ext_iff_of_nodup once (List.nodup_singleton row)).mpr ?_)
  intro other
  rw [List.mem_filter, List.mem_singleton]
  constructor
  · intro listed
    exact apart other listed.1 row member (selects other listed.2)
  · intro same
    rw [same]
    exact ⟨member, selected⟩

end Lookups

end ProductSite.Foundation.Clashes
