/- Module: ProductSite/Foundation/KeyedTable
   digest: Tables whose rows carry distinct positive keys: lookup, update, insertion, removal. -/

import Mathlib.Data.List.Find
import Mathlib.Data.List.Nodup

set_option autoImplicit false
set_option relaxedAutoImplicit false

namespace ProductSite.Foundation.KeyedTable

/-- Rows in storage order. The keys are those of an auto-incremented primary key:
distinct, and never zero. -/
structure Table {ρ : Type} (key : ρ → Nat) where
  rows : List ρ
  distinct : (rows.map key).Nodup
  positive : ∀ row ∈ rows, 0 < key row

namespace Table

variable {ρ : Type} {key : ρ → Nat}

def empty : Table key := ⟨[], List.nodup_nil, by simp⟩

def get? (t : Table key) (k : Nat) : Option ρ := t.rows.find? (fun row => key row = k)

/-- The first row, in storage order, that satisfies the filter. -/
def first (t : Table key) (filter : ρ → Bool) : Option ρ := t.rows.find? filter

private theorem map_key_replace (rows : List ρ) (row : ρ) :
    (rows.map (fun r => if key r = key row then row else r)).map key = rows.map key := by
  rw [List.map_map]
  apply List.map_congr_left
  intro r _
  simp only [Function.comp_apply]
  split
  · rename_i same
    exact same.symm
  · rfl

/-- Write back a row under its primary key; without such a row nothing changes. -/
def save (t : Table key) (row : ρ) : Table key where
  rows := t.rows.map (fun r => if key r = key row then row else r)
  distinct := by
    rw [map_key_replace]
    exact t.distinct
  positive := by
    intro r member
    have image : key r ∈ (t.rows.map (fun r => if key r = key row then row else r)).map key :=
      List.mem_map_of_mem member
    rw [map_key_replace] at image
    obtain ⟨old, present, same⟩ := List.mem_map.mp image
    rw [← same]
    exact t.positive old present

def nextKey (t : Table key) : Nat := (t.rows.map key).foldr max 0 + 1

private theorem lt_nextKey (t : Table key) {row : ρ} (member : row ∈ t.rows) :
    key row < t.nextKey := by
  have bound : ∀ rows : List ρ, row ∈ rows → key row ≤ (rows.map key).foldr max 0 := by
    intro rows
    induction rows with
    | nil => intro none; cases none
    | cons head tail ih =>
        intro here
        simp only [List.map_cons, List.foldr_cons]
        rcases List.mem_cons.mp here with rfl | later
        · exact le_max_left _ _
        · exact (ih later).trans (le_max_right _ _)
  exact Nat.lt_succ_of_le (bound t.rows member)

/-- Insert a row under the next key, which the engine assigns. -/
def insertNew (t : Table key) (mk : Nat → ρ) (keyed : ∀ k, key (mk k) = k) : Table key where
  rows := t.rows ++ [mk t.nextKey]
  distinct := by
    rw [List.map_append, List.map_singleton, keyed]
    refine List.nodup_append.mpr ⟨t.distinct, by simp, ?_⟩
    intro k present k' fresh equal
    obtain ⟨row, member, rfl⟩ := List.mem_map.mp present
    have bound := t.lt_nextKey member
    rw [equal, List.mem_singleton.mp fresh] at bound
    exact lt_irrefl _ bound
  positive := by
    intro row member
    rcases List.mem_append.mp member with old | new
    · exact t.positive row old
    · rw [List.mem_singleton.mp new, keyed]
      exact Nat.succ_pos _

/-- Insert a row under the key that it already carries; refused when the key is taken. -/
def insert? (t : Table key) (row : ρ) : Option (Table key) :=
  if fresh : 0 < key row ∧ key row ∉ t.rows.map key then
    some {
      rows := t.rows ++ [row]
      distinct := by
        rw [List.map_append, List.map_singleton]
        refine List.nodup_append.mpr ⟨t.distinct, by simp, ?_⟩
        intro k present k' new equal
        rw [equal, List.mem_singleton.mp new] at present
        exact fresh.2 present
      positive := by
        intro r member
        rcases List.mem_append.mp member with old | new
        · exact t.positive r old
        · rw [List.mem_singleton.mp new]
          exact fresh.1 }
  else none

def remove (t : Table key) (gone : ρ → Bool) : Table key where
  rows := t.rows.filter (fun row => !gone row)
  distinct := t.distinct.sublist (List.filter_sublist.map key)
  positive := fun row member => t.positive row (List.mem_filter.mp member).1

/-- Change every row by a function that leaves the keys alone. -/
def modify (t : Table key) (change : ρ → ρ) (keyed : ∀ row, key (change row) = key row) :
    Table key where
  rows := t.rows.map change
  distinct := by
    have same : key ∘ change = key := funext keyed
    rw [List.map_map, same]
    exact t.distinct
  positive := by
    intro row member
    obtain ⟨old, present, rfl⟩ := List.mem_map.mp member
    rw [keyed]
    exact t.positive old present

theorem get?_eq_some_iff {t : Table key} {k : Nat} {row : ρ} :
    t.get? k = some row ↔ row ∈ t.rows ∧ key row = k := by
  unfold get?
  constructor
  · intro found
    refine ⟨List.mem_of_find?_eq_some found, ?_⟩
    simpa using List.find?_some found
  · rintro ⟨member, rfl⟩
    obtain ⟨other, found⟩ : ∃ other, t.rows.find? (fun r => key r = key row) = some other :=
      Option.isSome_iff_exists.mp (List.find?_isSome.mpr ⟨row, member, by simp⟩)
    have same : key other = key row := by simpa using List.find?_some found
    -- the search stops at some row with this key; distinct keys make it the given one
    have equal : other = row :=
      List.inj_on_of_nodup_map t.distinct (List.mem_of_find?_eq_some found) member same
    rw [found, equal]

theorem key_of_get? {t : Table key} {k : Nat} {row : ρ} (found : t.get? k = some row) :
    key row = k :=
  (get?_eq_some_iff.mp found).2

theorem get?_of_mem {t : Table key} {row : ρ} (member : row ∈ t.rows) :
    t.get? (key row) = some row :=
  get?_eq_some_iff.mpr ⟨member, rfl⟩

theorem any_get?_iff {t : Table key} {k : Nat} {p : ρ → Bool} :
    (t.get? k).any p = true ↔ ∃ row ∈ t.rows, key row = k ∧ p row = true := by
  rw [Option.any_eq_true]
  constructor
  · rintro ⟨row, found, holds⟩
    obtain ⟨member, same⟩ := get?_eq_some_iff.mp found
    exact ⟨row, member, same, holds⟩
  · rintro ⟨row, member, rfl, holds⟩
    exact ⟨row, get?_of_mem member, holds⟩

theorem any_get?_of_mem {t : Table key} {row : ρ} (member : row ∈ t.rows) (p : ρ → Bool) :
    (t.get? (key row)).any p = p row := by
  rw [get?_of_mem member, Option.any_some]

/-- A reference that may be null, read through the table. -/
theorem any_any_get?_iff {t : Table key} {reference : Option Nat} {p : ρ → Bool} :
    reference.any (fun k => (t.get? k).any p) = true ↔
      ∃ row ∈ t.rows, reference = some (key row) ∧ p row = true := by
  rw [Option.any_eq_true]
  constructor
  · rintro ⟨k, rfl, found⟩
    obtain ⟨row, member, rfl, holds⟩ := any_get?_iff.mp found
    exact ⟨row, member, rfl, holds⟩
  · rintro ⟨row, member, rfl, holds⟩
    exact ⟨key row, rfl, any_get?_iff.mpr ⟨row, member, rfl, holds⟩⟩

theorem positive_of_get? {t : Table key} {k : Nat} {row : ρ} (found : t.get? k = some row) :
    0 < k := by
  obtain ⟨member, rfl⟩ := get?_eq_some_iff.mp found
  exact t.positive row member

theorem get?_of_first {t : Table key} {filter : ρ → Bool} {row : ρ}
    (found : t.first filter = some row) : t.get? (key row) = some row :=
  get?_of_mem (List.mem_of_find?_eq_some found)

theorem of_first {t : Table key} {filter : ρ → Bool} {row : ρ} (found : t.first filter = some row) :
    filter row = true :=
  List.find?_some found

theorem mem_save {t : Table key} {row r : ρ} :
    r ∈ (t.save row).rows ↔
      (r = row ∧ ∃ old ∈ t.rows, key old = key row) ∨ (r ∈ t.rows ∧ key r ≠ key row) := by
  simp only [save, List.mem_map]
  constructor
  · rintro ⟨old, member, equal⟩
    split at equal
    · rename_i same
      exact Or.inl ⟨equal.symm, old, member, same⟩
    · rename_i other
      subst equal
      exact Or.inr ⟨member, other⟩
  · rintro (⟨rfl, old, member, same⟩ | ⟨member, other⟩)
    · exact ⟨old, member, if_pos same⟩
    · exact ⟨r, member, if_neg other⟩

/-- A write that does not change what a filter sees does not change which row is first. -/
theorem first_save {t : Table key} {filter : ρ → Bool} {row : ρ}
    (unseen : ∀ old ∈ t.rows, key old = key row → filter row = filter old) :
    (t.save row).first filter =
      (t.first filter).map (fun r => if key r = key row then row else r) := by
  unfold first save
  rw [List.find?_map]
  congr 1
  apply List.find?_congr
  intro old member
  simp only [Function.comp_apply]
  split
  · rename_i same
    exact unseen old member same
  · rfl

theorem get?_save (t : Table key) (row : ρ) (k : Nat) :
    (t.save row).get? k = if k = key row then (t.get? k).map (fun _ => row) else t.get? k := by
  split
  · rename_i here
    cases found : t.get? k with
    | none =>
        cases after : (t.save row).get? k with
        | none => rfl
        | some r =>
            obtain ⟨member, same⟩ := get?_eq_some_iff.mp after
            rcases mem_save.mp member with ⟨_, old, present, old_key⟩ | ⟨_, other⟩
            · have hit := get?_of_mem present
              rw [old_key, ← here, found] at hit
              cases hit
            · exact absurd (same.trans here) other
    | some old =>
        obtain ⟨present, old_key⟩ := get?_eq_some_iff.mp found
        exact get?_eq_some_iff.mpr
          ⟨mem_save.mpr (Or.inl ⟨rfl, old, present, old_key.trans here⟩), here.symm⟩
  · rename_i elsewhere
    apply Option.ext
    intro r
    rw [get?_eq_some_iff, get?_eq_some_iff, mem_save]
    constructor
    · rintro ⟨⟨rfl, _⟩ | ⟨member, _⟩, same⟩
      · exact absurd same.symm elsewhere
      · exact ⟨member, same⟩
    · rintro ⟨member, same⟩
      exact ⟨Or.inr ⟨member, fun equal => elsewhere (same.symm.trans equal)⟩, same⟩

theorem get?_insertNew (t : Table key) (mk : Nat → ρ) (keyed : ∀ k, key (mk k) = k) (k : Nat) :
    (t.insertNew mk keyed).get? k = if k = t.nextKey then some (mk k) else t.get? k := by
  split
  · rename_i here
    subst here
    exact get?_eq_some_iff.mpr ⟨List.mem_append.mpr (Or.inr (by simp)), keyed _⟩
  · rename_i elsewhere
    apply Option.ext
    intro r
    rw [get?_eq_some_iff, get?_eq_some_iff]
    simp only [insertNew, List.mem_append, List.mem_singleton]
    constructor
    · rintro ⟨member | rfl, same⟩
      · exact ⟨member, same⟩
      · exact absurd (same.symm.trans (keyed _)) elsewhere
    · rintro ⟨member, same⟩
      exact ⟨Or.inl member, same⟩

theorem mem_remove {t : Table key} {gone : ρ → Bool} {row : ρ} :
    row ∈ (t.remove gone).rows ↔ row ∈ t.rows ∧ gone row = false := by
  simp [remove]

/-- Taking away the row under a key takes away one row. -/
theorem countP_remove_key {t : Table key} {k : Nat} {row : ρ} (found : t.get? k = some row)
    (counted : ρ → Bool) :
    (t.remove (fun other => key other = k)).rows.countP counted +
      (if counted row then 1 else 0) = t.rows.countP counted := by
  obtain ⟨member, here⟩ := get?_eq_some_iff.mp found
  obtain ⟨before, after, rows⟩ := List.append_of_mem member
  have distinct := t.distinct
  rw [rows, List.map_append, List.map_cons, List.nodup_append] at distinct
  have elsewhere : ∀ other ∈ before ++ after, key other ≠ k := by
    intro other listed
    rw [← here]
    rcases List.mem_append.mp listed with first | second
    · exact distinct.2.2 _ (List.mem_map_of_mem first) _ List.mem_cons_self
    · intro same
      refine (List.nodup_cons.mp distinct.2.1).1 ?_
      rw [← same]
      exact List.mem_map_of_mem second
  have kept : (t.remove (fun other => key other = k)).rows = before ++ after := by
    change t.rows.filter _ = _
    rw [rows, List.filter_append, List.filter_cons_of_neg (by simp [here]), ← List.filter_append]
    refine List.filter_eq_self.mpr ?_
    intro other listed
    simp [elsewhere other listed]
  rw [kept, rows, List.countP_append, List.countP_append, List.countP_cons, Nat.add_assoc]

theorem mem_insertNew {t : Table key} {mk : Nat → ρ} {keyed : ∀ k, key (mk k) = k} {row : ρ} :
    row ∈ (t.insertNew mk keyed).rows ↔ row ∈ t.rows ∨ row = mk t.nextKey := by
  simp [insertNew]

theorem get?_nextKey (t : Table key) : t.get? t.nextKey = none := by
  cases found : t.get? t.nextKey with
  | none => rfl
  | some row =>
      obtain ⟨member, same⟩ := get?_eq_some_iff.mp found
      have bound := t.lt_nextKey member
      rw [same] at bound
      exact absurd bound (lt_irrefl _)

theorem rows_insert? {t t' : Table key} {row : ρ} (stored : t.insert? row = some t') :
    (∀ other ∈ t.rows, key other ≠ key row) ∧ t'.rows = t.rows ++ [row] := by
  unfold insert? at stored
  split at stored
  · rename_i fresh
    cases stored
    refine ⟨?_, rfl⟩
    intro other present same
    exact fresh.2 (List.mem_map.mpr ⟨other, present, same⟩)
  · cases stored

theorem get?_insert? {t t' : Table key} {row : ρ} (stored : t.insert? row = some t') (k : Nat) :
    t'.get? k = if k = key row then some row else t.get? k := by
  obtain ⟨-, rows⟩ := rows_insert? stored
  split
  · rename_i here
    exact get?_eq_some_iff.mpr ⟨by simp [rows], here.symm⟩
  · rename_i elsewhere
    apply Option.ext
    intro r
    rw [get?_eq_some_iff, get?_eq_some_iff, rows, List.mem_append, List.mem_singleton]
    constructor
    · rintro ⟨member | rfl, same⟩
      · exact ⟨member, same⟩
      · exact absurd same.symm elsewhere
    · rintro ⟨member, same⟩
      exact ⟨Or.inl member, same⟩

end Table

end ProductSite.Foundation.KeyedTable
