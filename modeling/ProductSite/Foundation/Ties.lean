/- Module: ProductSite/Foundation/Ties
   digest: Sorted lists in which rows that compare equal may come in any order, and the pages
     that are cut from a new such list at each request. -/

import Mathlib.Data.List.Basic
import ProductSite.Foundation.Listing

set_option autoImplicit false
set_option relaxedAutoImplicit false

namespace ProductSite.Foundation.Ties

open ProductSite.Foundation.Listing (pageOf)

variable {α : Type}

/-- The list holds the rows, in an order that the comparison allows. -/
structure Arranges (le : α → α → Bool) (rows order : List α) : Prop where
  perm : order.Perm rows
  sorted : order.Pairwise (fun a b => le a b = true)

/-- Each row is on exactly one of the pages that together have room for all rows, where each
page is cut from an arrangement of its own. -/
def OnOnePage (rows : List α) (perPage : Nat) (orders : Nat → List α) : Prop :=
  ∀ row ∈ rows, ∃! number, (1 ≤ number ∧ number ≤ (rows.length + perPage - 1) / perPage) ∧
    row ∈ pageOf (orders number) perPage number

section Positions

variable {le : α → α → Bool} {rows before after order : List α} {row : α} {perPage : Nat}

/-- The number of rows that come before the row in every arrangement. -/
def mustPrecede (le : α → α → Bool) (rows : List α) (row : α) : Nat :=
  rows.countP (fun other => !le row other)

/-- A row stands on the page that its position falls on. -/
theorem mem_pageOf_of_position
    (nodup : (before ++ row :: after).Nodup) (positive : 0 < perPage) (number : Nat) :
    row ∈ pageOf (before ++ row :: after) perPage number ↔
      number = before.length / perPage + 1 := by
  have here : (before ++ row :: after)[before.length]? = some row := by simp
  cases number with
  | zero =>
      refine iff_of_false ?_ (Nat.succ_ne_zero _).symm
      exact List.not_mem_nil
  | succ full =>
      have inside : row ∈ pageOf (before ++ row :: after) perPage (full + 1) ↔
          full * perPage ≤ before.length ∧ before.length < (full + 1) * perPage := by
        rw [pageOf, List.mem_iff_getElem?]
        constructor
        · rintro ⟨i, found⟩
          rw [List.getElem?_take] at found
          split at found
          · rename_i short
            rw [List.getElem?_drop] at found
            have bound : full * perPage + i < (before ++ row :: after).length :=
              (List.getElem?_eq_some_iff.mp found).1
            have same : full * perPage + i = before.length :=
              (List.getElem?_inj bound nodup).mp (found.trans here.symm)
            rw [Nat.succ_mul]
            omega
          · cases found
        · rintro ⟨low, high⟩
          rw [Nat.succ_mul] at high
          refine ⟨before.length - full * perPage, ?_⟩
          have short : before.length - full * perPage < perPage := by omega
          rw [List.getElem?_take, if_pos short, List.getElem?_drop, Nat.add_sub_cancel' low, here]
      rw [inside, Nat.add_right_cancel_iff, eq_comm, Nat.div_eq_iff positive, Nat.succ_mul]
      omega

/-- No arrangement has the row earlier than the rows that must precede it. -/
theorem mustPrecede_le (refl : ∀ a, le a a = true)
    (arranges : Arranges le rows (before ++ row :: after)) :
    mustPrecede le rows row ≤ before.length := by
  have later : after.countP (fun other => !le row other) = 0 := by
    rw [List.countP_eq_zero]
    intro other member
    have sorted := (List.pairwise_append.mp arranges.sorted).2.1
    simp [(List.pairwise_cons.mp sorted).1 other member]
  have count : mustPrecede le rows row = before.countP (fun other => !le row other) := by
    rw [mustPrecede, ← arranges.perm.countP_eq, List.countP_append, List.countP_cons, later]
    simp [refl row]
  rw [count]
  exact List.countP_le_length

/-- The page of a row is one of those that have room for the rows. -/
theorem page_le (refl : ∀ a, le a a = true) (positive : 0 < perPage)
    (arranges : Arranges le rows order) (member : row ∈ rows) :
    mustPrecede le rows row / perPage + 1 ≤ (rows.length + perPage - 1) / perPage := by
  obtain ⟨before, after, rfl⟩ := List.append_of_mem (arranges.perm.mem_iff.mpr member)
  have low := mustPrecede_le refl arranges
  have size : rows.length = before.length + (after.length + 1) := by
    rw [← arranges.perm.length_eq, List.length_append, List.length_cons]
  have cut := Nat.div_mul_le_self (mustPrecede le rows row) perPage
  rw [Nat.le_div_iff_mul_le positive, Nat.succ_mul]
  omega

end Positions

section Ties

variable [DecidableEq α] {le : α → α → Bool} {rows : List α}

/-- The number of other rows that come before the row in some arrangement. -/
def mayPrecede (le : α → α → Bool) (rows : List α) (row : α) : Nat :=
  rows.countP (fun other => other ≠ row && le other row)

/-- The rows that have to come before a row and those that may do so fill the same pages. -/
def TiesOnOnePage (le : α → α → Bool) (rows : List α) (perPage : Nat) : Prop :=
  ∀ row ∈ rows, mustPrecede le rows row / perPage = mayPrecede le rows row / perPage

instance (le : α → α → Bool) (rows : List α) (perPage : Nat) :
    Decidable (TiesOnOnePage le rows perPage) :=
  inferInstanceAs (Decidable (∀ row ∈ rows, _))

section Bounds

variable {row : α} {before after : List α}

/-- No arrangement has the row later than the rows that may precede it. -/
theorem le_mayPrecede (nodup : rows.Nodup)
    (arranges : Arranges le rows (before ++ row :: after)) :
    before.length ≤ mayPrecede le rows row := by
  have distinct : (before ++ row :: after).Nodup := arranges.perm.nodup_iff.mpr nodup
  have earlier : before.countP (fun other => other ≠ row && le other row) = before.length := by
    rw [List.countP_eq_length]
    intro other member
    have different : other ≠ row := by
      rintro rfl
      exact (List.nodup_append.mp distinct).2.2 other member other List.mem_cons_self rfl
    have first := (List.pairwise_append.mp arranges.sorted).2.2 other member row
      List.mem_cons_self
    simp [different, first]
  rw [mayPrecede, ← arranges.perm.countP_eq, List.countP_append, earlier]
  exact Nat.le_add_right _ _

end Bounds

/-- The list with the row put behind the rows that are to come before it. -/
def placed (first : α → Bool) (row : α) (order : List α) : List α :=
  (order.erase row).filter first ++ row :: (order.erase row).filter (fun other => !first other)

theorem arranges_placed (trans : ∀ a b c, le a b = true → le b c = true → le a c = true)
    {order : List α} (arranges : Arranges le rows order) {row : α} (member : row ∈ rows)
    {first : α → Bool} (before : ∀ other, first other = true → le other row = true)
    (after : ∀ other, first other = false → le row other = true) :
    Arranges le rows (placed first row order) where
  perm := by
    have split : (placed first row order).Perm (row :: order.erase row) :=
      List.perm_middle.trans ((List.filter_append_perm first _).cons row)
    have whole : order.Perm (row :: order.erase row) :=
      List.perm_cons_erase (arranges.perm.mem_iff.mpr member)
    exact (split.trans whole.symm).trans arranges.perm
  sorted := by
    have rest : (order.erase row).Pairwise (fun a b => le a b = true) :=
      arranges.sorted.sublist List.erase_sublist
    have behind : ∀ other ∈ (order.erase row).filter (fun other => !first other),
        le row other = true := by
      intro other listed
      exact after other (by simpa using (List.mem_filter.mp listed).2)
    refine List.pairwise_append.mpr ⟨rest.filter _, ?_, ?_⟩
    · exact List.pairwise_cons.mpr ⟨behind, rest.filter _⟩
    · intro a listed b present
      have ahead := before a (List.mem_filter.mp listed).2
      rcases List.mem_cons.mp present with rfl | later
      · exact ahead
      · exact trans a row b ahead (behind b later)

theorem length_placed {order : List α} (arranges : Arranges le rows order) (nodup : rows.Nodup)
    (first : α → Bool) (row : α) :
    ((order.erase row).filter first).length =
      rows.countP (fun other => other ≠ row && first other) := by
  have distinct : order.Nodup := arranges.perm.nodup_iff.mpr nodup
  rw [distinct.erase_eq_filter row, List.filter_filter, ← List.countP_eq_length_filter,
    arranges.perm.countP_eq]
  refine List.countP_congr ?_
  intro other _
  simp [and_comm]

section Extremes

variable {order : List α} {row : α}

/-- Some arrangement has the row as early as can be. -/
theorem exists_earliest (trans : ∀ a b c, le a b = true → le b c = true → le a c = true)
    (total : ∀ a b, (le a b || le b a) = true) (nodup : rows.Nodup)
    (arranges : Arranges le rows order) (member : row ∈ rows) :
    ∃ before after, Arranges le rows (before ++ row :: after) ∧
      before.length = mustPrecede le rows row := by
  have legal : Arranges le rows (placed (fun other => !le row other) row order) := by
    refine arranges_placed trans arranges member ?_ ?_
    · intro other strict
      have one := total row other
      rw [Bool.not_eq_true'] at strict
      rw [strict, Bool.false_or] at one
      exact one
    · intro other behind
      rw [Bool.not_eq_false'] at behind
      exact behind
  refine ⟨_, _, legal, ?_⟩
  rw [length_placed arranges nodup, mustPrecede]
  refine List.countP_congr ?_
  intro other _
  simp only [Bool.and_eq_true, decide_eq_true_eq, Bool.not_eq_true', ne_eq, and_iff_right_iff_imp]
  rintro strict rfl
  have itself := total other other
  rw [strict] at itself
  cases itself

/-- Some arrangement has the row as late as can be. -/
theorem exists_latest (trans : ∀ a b c, le a b = true → le b c = true → le a c = true)
    (total : ∀ a b, (le a b || le b a) = true) (nodup : rows.Nodup)
    (arranges : Arranges le rows order) (member : row ∈ rows) :
    ∃ before after, Arranges le rows (before ++ row :: after) ∧
      before.length = mayPrecede le rows row := by
  have legal : Arranges le rows (placed (fun other => le other row) row order) := by
    refine arranges_placed trans arranges member (fun _ ahead => ahead) ?_
    intro other strict
    have one := total row other
    rw [strict, Bool.or_false] at one
    exact one
  exact ⟨_, _, legal, length_placed arranges nodup _ row⟩

end Extremes

section Pages

variable {perPage : Nat} {order : List α}

/-- Where ties stay on one page, all arrangements have a row on the same page. -/
theorem mem_pageOf_of_ties (refl : ∀ a, le a a = true) (nodup : rows.Nodup)
    (positive : 0 < perPage) (ties : TiesOnOnePage le rows perPage)
    (arranges : Arranges le rows order) {row : α} (member : row ∈ rows) (number : Nat) :
    row ∈ pageOf order perPage number ↔ number = mustPrecede le rows row / perPage + 1 := by
  obtain ⟨before, after, rfl⟩ := List.append_of_mem (arranges.perm.mem_iff.mpr member)
  have low := mustPrecede_le refl arranges
  have high := le_mayPrecede nodup arranges
  have page : before.length / perPage = mustPrecede le rows row / perPage :=
    le_antisymm ((Nat.div_le_div_right high).trans (ties row member).ge)
      (Nat.div_le_div_right low)
  rw [mem_pageOf_of_position (arranges.perm.nodup_iff.mpr nodup) positive, page]

/-- However rows that compare equal are arranged for each page, every row is on exactly one
page, if and only if no page ends among rows that compare equal. -/
theorem onOnePage_iff (trans : ∀ a b c, le a b = true → le b c = true → le a c = true)
    (total : ∀ a b, (le a b || le b a) = true) (nodup : rows.Nodup) (positive : 0 < perPage)
    (arranges : Arranges le rows order) :
    (∀ orders : Nat → List α, (∀ number, Arranges le rows (orders number)) →
      OnOnePage rows perPage orders) ↔ TiesOnOnePage le rows perPage := by
  have refl : ∀ a, le a a = true := by
    intro a
    simpa using total a a
  constructor
  · intro always row member
    obtain ⟨before, after, early, first⟩ := exists_earliest trans total nodup arranges member
    obtain ⟨before', after', late, last⟩ := exists_latest trans total nodup arranges member
    have distinct : ∀ {list : List α}, Arranges le rows list → list.Nodup :=
      fun legal => legal.perm.nodup_iff.mpr nodup
    by_contra apart
    -- the page where the row stands early gets the row late, and all others get it early
    let here : Nat := mustPrecede le rows row / perPage + 1
    have legal : ∀ number, Arranges le rows
        (if number = here then before' ++ row :: after' else before ++ row :: after) := by
      intro number
      split
      · exact late
      · exact early
    obtain ⟨number, ⟨-, listed⟩, -⟩ := always _ legal row member
    simp only at listed
    split at listed
    · rename_i chosen
      have page := (mem_pageOf_of_position (distinct late) positive number).mp listed
      rw [last] at page
      exact apart (Nat.add_right_cancel (chosen.symm.trans page))
    · rename_i other
      have page := (mem_pageOf_of_position (distinct early) positive number).mp listed
      rw [first] at page
      exact other page
  · intro ties orders legal row member
    have only : ∀ number, row ∈ pageOf (orders number) perPage number ↔
        number = mustPrecede le rows row / perPage + 1 :=
      fun number => mem_pageOf_of_ties refl nodup positive ties (legal number) member number
    refine ⟨mustPrecede le rows row / perPage + 1, ⟨⟨Nat.le_add_left 1 _, ?_⟩, ?_⟩, ?_⟩
    · exact page_le refl positive arranges member
    · exact (only _).mpr rfl
    · rintro number ⟨-, listed⟩
      exact (only number).mp listed

/-- Rows that never compare equal keep their pages. -/
theorem tiesOnOnePage_of_antisymm
    (strict : ∀ a ∈ rows, ∀ b ∈ rows, le a b = true → le b a = true → a = b)
    (total : ∀ a b, (le a b || le b a) = true) : TiesOnOnePage le rows perPage := by
  intro row member
  have same : mustPrecede le rows row = mayPrecede le rows row := by
    refine List.countP_congr ?_
    intro other present
    simp only [Bool.not_eq_true', Bool.and_eq_true, decide_eq_true_eq, ne_eq]
    constructor
    · intro ahead
      have one := total row other
      rw [ahead, Bool.false_or] at one
      refine ⟨?_, one⟩
      rintro rfl
      rw [ahead] at one
      cases one
    · rintro ⟨different, one⟩
      by_contra back
      rw [Bool.not_eq_false] at back
      exact different (strict other present row member one back)
  rw [same]

end Pages

end Ties

end ProductSite.Foundation.Ties
