/- Module: ProductSite/Foundation/Joins
   digest: Joins that repeat rows, removal of repetitions, lists that meet a specification. -/

import Mathlib.Data.List.Nodup
import Mathlib.Data.List.Perm.Basic
import Mathlib.Data.Set.Card

set_option autoImplicit false
set_option relaxedAutoImplicit false

namespace ProductSite.Foundation.Joins

section Joins

variable {α β : Type}

/-- The left sides of an inner join: a row comes once for each of its partners. -/
def innerJoin (rows : List α) (partners : α → List β) : List α :=
  rows.flatMap fun row => (partners row).map fun _ => row

/-- The left sides of an outer join: a row without partners comes once, too. -/
def outerJoin (rows : List α) (partners : α → List β) : List α :=
  rows.flatMap fun row => if partners row = [] then [row] else (partners row).map fun _ => row

theorem mem_innerJoin {rows : List α} {partners : α → List β} {row : α} :
    row ∈ innerJoin rows partners ↔ row ∈ rows ∧ ∃ partner, partner ∈ partners row := by
  rw [innerJoin, List.mem_flatMap]
  constructor
  · rintro ⟨other, member, joined⟩
    obtain ⟨partner, found, rfl⟩ := List.mem_map.mp joined
    exact ⟨member, partner, found⟩
  · rintro ⟨member, partner, found⟩
    exact ⟨row, member, List.mem_map.mpr ⟨partner, found, rfl⟩⟩

theorem mem_outerJoin {rows : List α} {partners : α → List β} {row : α} :
    row ∈ outerJoin rows partners ↔ row ∈ rows := by
  rw [outerJoin, List.mem_flatMap]
  constructor
  · rintro ⟨other, member, joined⟩
    split at joined
    · rw [List.mem_singleton.mp joined]
      exact member
    · obtain ⟨partner, -, rfl⟩ := List.mem_map.mp joined
      exact member
  · intro member
    refine ⟨row, member, ?_⟩
    split
    · exact List.mem_singleton_self row
    · rename_i some_partner
      obtain ⟨partner, found⟩ := List.exists_mem_of_ne_nil _ some_partner
      exact List.mem_map.mpr ⟨partner, found, rfl⟩

end Joins

section Unique

variable {α : Type} [DecidableEq α]

/-- The first occurrence of each row. -/
def unique (rows : List α) : List α := rows.eraseDups

@[simp] theorem mem_unique {rows : List α} {row : α} : row ∈ unique rows ↔ row ∈ rows :=
  List.mem_eraseDups

/-- The induction is on the length, for a repetition may stand anywhere in the rest. -/
theorem unique_sublist_nodup (rows : List α) :
    (unique rows).Sublist rows ∧ (unique rows).Nodup := by
  induction size : rows.length using Nat.strongRecOn generalizing rows with
  | _ n ih =>
      cases rows with
      | nil => exact ⟨List.Sublist.slnil, List.nodup_nil⟩
      | cons row rows =>
          have shorter : (rows.filter (fun other => !other == row)).length < n := by
            have bound := List.length_filter_le (fun other => !other == row) rows
            rw [List.length_cons] at size
            omega
          obtain ⟨sublist, nodup⟩ := ih _ shorter (rows.filter (fun other => !other == row)) rfl
          rw [unique, List.eraseDups_cons]
          refine ⟨(sublist.trans List.filter_sublist).cons_cons row, ?_⟩
          refine List.nodup_cons.mpr ⟨?_, nodup⟩
          intro again
          have kept := (List.mem_filter.mp (List.mem_eraseDups.mp again)).2
          simp at kept

end Unique

section Specification

variable {α : Type} {order : α → α → Prop} {P : α → Prop} {rows : List α}

/-- The list holds exactly the rows with the property, each of them once, in the order. -/
structure Lists (order : α → α → Prop) (P : α → Prop) (rows : List α) : Prop where
  nodup : rows.Nodup
  sorted : rows.Pairwise order
  members : ∀ row, row ∈ rows ↔ P row

theorem lists_unique [DecidableEq α] (sorted : rows.Pairwise order)
    (members : ∀ row, row ∈ rows ↔ P row) : Lists order P (unique rows) := by
  obtain ⟨sublist, nodup⟩ := unique_sublist_nodup rows
  refine ⟨nodup, sorted.sublist sublist, ?_⟩
  intro row
  rw [mem_unique, members]

theorem Lists.filter (lists : Lists order P rows) (keep : α → Bool) :
    Lists order (fun row => P row ∧ keep row = true) (rows.filter keep) := by
  refine ⟨lists.nodup.filter keep, lists.sorted.sublist List.filter_sublist, ?_⟩
  intro row
  rw [List.mem_filter, lists.members]

theorem Lists.congr {Q : α → Prop} (lists : Lists order P rows) (same : ∀ row, P row ↔ Q row) :
    Lists order Q rows :=
  ⟨lists.nodup, lists.sorted, fun row => (lists.members row).trans (same row)⟩

/-- Such a list is as long as there are rows with the property. -/
theorem Lists.length_eq_ncard (lists : Lists order P rows) : rows.length = {row | P row}.ncard := by
  classical
  have same : {row | P row} = (rows.toFinset : Set α) := by
    ext row
    rw [Set.mem_ofPred_eq, List.coe_toFinset, Set.mem_ofPred_eq, lists.members]
  rw [same, Set.ncard_coe_finset, List.toFinset_card_of_nodup lists.nodup]

end Specification

end ProductSite.Foundation.Joins
