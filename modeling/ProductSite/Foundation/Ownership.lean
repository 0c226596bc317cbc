/- Module: ProductSite/Foundation/Ownership
   digest: The rows of a table that an owner does not claim, and which writes leave them alone. -/

import Mathlib.Data.Set.Basic
import ProductSite.Foundation.KeyedTable

set_option autoImplicit false
set_option relaxedAutoImplicit false

namespace ProductSite.Foundation.Ownership

open ProductSite.Foundation.KeyedTable (Table)

variable {ρ : Type} {key : ρ → Nat} (t : Table key) (mine : ρ → Prop)

def others : Set ρ := {row | row ∈ t.rows ∧ ¬ mine row}

variable {t mine}

theorem others_append {t' : Table key} {new : List ρ} (rows : t'.rows = t.rows ++ new)
    (own : ∀ row ∈ new, mine row) : others t' mine = others t mine := by
  ext row
  constructor
  · rintro ⟨member, foreign⟩
    rw [rows] at member
    rcases List.mem_append.mp member with old | added
    · exact ⟨old, foreign⟩
    · exact absurd (own row added) foreign
  · rintro ⟨member, foreign⟩
    refine ⟨?_, foreign⟩
    rw [rows]
    exact List.mem_append_left _ member

theorem others_insertNew {mk : Nat → ρ} (keyed : ∀ k, key (mk k) = k)
    (own : mine (mk t.nextKey)) : others (t.insertNew mk keyed) mine = others t mine := by
  have rows : (t.insertNew mk keyed).rows = t.rows ++ [mk t.nextKey] := rfl
  refine others_append rows ?_
  intro row added
  rw [List.mem_singleton.mp added]
  exact own

/-- A write that keeps the owner of a row leaves the rows of the others alone precisely when
the row is not theirs or is not changed. -/
theorem others_save_iff {row old : ρ} (found : t.get? (key row) = some old)
    (kept : mine row ↔ mine old) :
    others (t.save row) mine = others t mine ↔ mine old ∨ row = old := by
  obtain ⟨present, same⟩ := Table.get?_eq_some_iff.mp found
  constructor
  · intro equal
    by_cases own : mine old
    · exact Or.inl own
    · -- the written row is now one of the others, so it was one of them before
      have foreign : row ∈ others t mine := by
        rw [← equal]
        exact ⟨Table.mem_save.mpr (Or.inl ⟨rfl, old, present, same⟩),
          fun own' => own (kept.mp own')⟩
      have before := Table.get?_of_mem foreign.1
      rw [found] at before
      exact Or.inr (Option.some.inj before).symm
  · intro harmless
    ext r
    constructor
    · rintro ⟨member, foreign⟩
      rcases Table.mem_save.mp member with ⟨rfl, -⟩ | ⟨member, -⟩
      · rcases harmless with own | rfl
        · exact absurd (kept.mpr own) foreign
        · exact ⟨present, foreign⟩
      · exact ⟨member, foreign⟩
    · rintro ⟨member, foreign⟩
      refine ⟨Table.mem_save.mpr ?_, foreign⟩
      by_cases here : key r = key row
      · have equal : r = old := by
          have hit := Table.get?_of_mem member
          rw [here, found] at hit
          exact (Option.some.inj hit).symm
        rcases harmless with own | unchanged
        · exact absurd (equal ▸ own) foreign
        · exact Or.inl ⟨equal.trans unchanged.symm, old, present, same⟩
      · exact Or.inr ⟨member, here⟩

theorem others_save {row old : ρ} (found : t.get? (key row) = some old) (own : mine old)
    (stays : mine row) : others (t.save row) mine = others t mine :=
  (others_save_iff found (iff_of_true stays own)).mpr (Or.inl own)

theorem others_remove_iff {gone : ρ → Bool} :
    others (t.remove gone) mine = others t mine ↔
      ∀ row ∈ t.rows, gone row = true → mine row := by
  constructor
  · intro equal row member removed
    by_contra foreign
    have stays : row ∈ others (t.remove gone) mine := by
      rw [equal]
      exact ⟨member, foreign⟩
    have kept := (Table.mem_remove.mp stays.1).2
    rw [removed] at kept
    cases kept
  · intro own
    ext row
    constructor
    · rintro ⟨member, foreign⟩
      exact ⟨(Table.mem_remove.mp member).1, foreign⟩
    · rintro ⟨member, foreign⟩
      have kept : gone row = false := by
        cases removed : gone row with
        | false => rfl
        | true => exact absurd (own row member removed) foreign
      exact ⟨Table.mem_remove.mpr ⟨member, kept⟩, foreign⟩

/-- Removing the row of a key. -/
theorem others_removeKey_iff {k : Nat} :
    others (t.remove (fun row => key row = k)) mine = others t mine ↔
      ∀ row, t.get? k = some row → mine row := by
  rw [others_remove_iff]
  constructor
  · intro own row found
    obtain ⟨member, here⟩ := Table.get?_eq_some_iff.mp found
    exact own row member (by simpa using here)
  · intro own row member removed
    exact own row (Table.get?_eq_some_iff.mpr ⟨member, by simpa using removed⟩)

end ProductSite.Foundation.Ownership
