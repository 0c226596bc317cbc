/- Module: ProductSite/Foundation/Listing
   digest: Query arguments, lists joined by a separator, pages of a result, and toggled choices. -/

import Mathlib.Data.Finset.SymmDiff
import Mathlib.Data.List.Flatten
import ProductSite.Foundation.Wire

set_option autoImplicit false
set_option relaxedAutoImplicit false

namespace ProductSite.Foundation.Listing

open ProductSite.Foundation.Wire (readNat readNat_toString notMem_number)

section Query

/-- The decoded arguments of a URL, in order. -/
abbrev Query := List (String × String)

/-- The first argument with the name. -/
def Query.get (query : Query) (name : String) : Option String :=
  (query.find? (fun argument => argument.1 = name)).map Prod.snd

/-- An argument that is present and not empty. -/
def Query.nonempty (query : Query) (name : String) : Option String :=
  (query.get name).filter (fun text => text ≠ "")

/-- An argument that is sent under a condition. -/
def Query.sentIf (condition : Bool) (name value : String) : Query :=
  if condition then [(name, value)] else []

@[simp] theorem Query.get_nil (name : String) : Query.get [] name = none := rfl

@[simp] theorem Query.get_cons (argument : String × String) (rest : Query) (name : String) :
    Query.get (argument :: rest) name =
      if argument.1 = name then some argument.2 else Query.get rest name := by
  unfold Query.get
  rw [List.find?_cons]
  by_cases here : argument.1 = name
  · simp [here]
  · simp [here]

@[simp] theorem Query.get_append (first second : Query) (name : String) :
    Query.get (first ++ second) name = (Query.get first name).or (Query.get second name) := by
  unfold Query.get
  rw [List.find?_append]
  cases first.find? (fun argument => argument.1 = name) <;> rfl

@[simp] theorem Query.get_sentIf (condition : Bool) (key value name : String) :
    Query.get (Query.sentIf condition key value) name =
      if condition = true ∧ key = name then some value else none := by
  unfold Query.sentIf
  cases condition <;> simp

/-- The value of an argument does not matter to what is read under another name. -/
theorem Query.get_other {key name : String} (other : name ≠ key) (before after : Query)
    (value value' : String) :
    Query.get (before ++ (key, value) :: after) name =
      Query.get (before ++ (key, value') :: after) name := by
  rw [Query.get_append, Query.get_append, Query.get_cons, Query.get_cons, if_neg other.symm,
    if_neg other.symm]

end Query

section Joining

/-- `parts.join(',')`. -/
def joinComma (parts : List String) : String := ",".intercalate parts

/-- `text.split(separator)`. -/
def splitAt (separator : Char) (text : String) : List String :=
  (text.toList.splitOn separator).map String.ofList

theorem splitAt_joinComma {parts : List String} (some_part : parts ≠ [])
    (plain : ∀ part ∈ parts, ',' ∉ part.toList) : splitAt ',' (joinComma parts) = parts := by
  have letters : (joinComma parts).toList = [','].intercalate (parts.map String.toList) :=
    String.toList_intercalate
  have apart : ∀ part ∈ parts.map String.toList, ',' ∉ part := by
    intro part member
    obtain ⟨text, listed, rfl⟩ := List.mem_map.mp member
    exact plain text listed
  have whole : parts.map String.toList ≠ [] := by
    intro empty
    exact some_part (List.map_eq_nil_iff.mp empty)
  rw [splitAt, letters, List.splitOn_intercalate ',' apart whole, List.map_map]
  have same : String.ofList ∘ String.toList = id := by
    funext text
    exact String.ofList_toList
  rw [same, List.map_id]

/-- The numbers in a joined list; what is no number is skipped. -/
def readIds (text : String) : List Nat := (splitAt ',' text).filterMap readNat

theorem splitAt_ids {ids : List Nat} (some_id : ids ≠ []) :
    splitAt ',' (joinComma (ids.map toString)) = ids.map toString := by
  have plain : ∀ part ∈ ids.map toString, ',' ∉ part.toList := by
    intro part member
    obtain ⟨n, -, rfl⟩ := List.mem_map.mp member
    exact notMem_number (by decide)
  have whole : ids.map toString ≠ [] := by
    intro empty
    exact some_id (List.map_eq_nil_iff.mp empty)
  exact splitAt_joinComma whole plain

theorem readIds_joinComma {ids : List Nat} (some_id : ids ≠ []) :
    readIds (joinComma (ids.map toString)) = ids := by
  rw [readIds, splitAt_ids some_id, List.filterMap_map]
  have reads : readNat ∘ (toString : Nat → String) = some := by
    funext n
    exact readNat_toString n
  rw [reads, List.filterMap_some]

theorem joinComma_ids_ne_empty {ids : List Nat} (some_id : ids ≠ []) :
    joinComma (ids.map toString) ≠ "" := by
  intro empty
  have read := readIds_joinComma some_id
  rw [empty] at read
  exact some_id (read.symm.trans (by decide))

end Joining

section Pages

variable {α : Type}

/-- The rows of a page; pages count from one. -/
def pageOf (rows : List α) (perPage : Nat) : Nat → List α
  | 0 => []
  | before + 1 => (rows.drop (before * perPage)).take perPage

@[simp] theorem pageOf_nil (perPage number : Nat) : pageOf ([] : List α) perPage number = [] := by
  cases number with
  | zero => rfl
  | succ before => rw [pageOf, List.drop_nil, List.take_nil]

theorem map_pageOf {β : Type} (f : α → β) (rows : List α) (perPage number : Nat) :
    (pageOf rows perPage number).map f = pageOf (rows.map f) perPage number := by
  cases number with
  | zero => rfl
  | succ before => rw [pageOf, pageOf, List.map_take, List.map_drop]

theorem length_pageOf (rows : List α) (perPage before : Nat) :
    (pageOf rows perPage (before + 1)).length = min perPage (rows.length - before * perPage) := by
  rw [pageOf, List.length_take, List.length_drop]

/-- A page is full exactly if the rows reach to its end. -/
theorem full_pageOf_iff {rows : List α} {perPage : Nat} (positive : 0 < perPage) (before : Nat) :
    (pageOf rows perPage (before + 1)).length = perPage ↔ (before + 1) * perPage ≤ rows.length := by
  rw [length_pageOf, Nat.succ_mul]
  omega

/-- The page after some pages holds rows exactly if the rows go on after these. -/
theorem pageOf_ne_nil_iff {rows : List α} {perPage : Nat} (positive : 0 < perPage)
    (before : Nat) : pageOf rows perPage (before + 1) ≠ [] ↔ before * perPage < rows.length := by
  rw [← List.length_pos_iff, length_pageOf]
  omega

/-- The first pages, one after the other. -/
def firstPages (page : Nat → List α) (count : Nat) : List α :=
  (List.range count).flatMap (fun before => page (before + 1))

theorem firstPages_pageOf (rows : List α) (perPage count : Nat) :
    firstPages (pageOf rows perPage) count = rows.take (count * perPage) := by
  induction count with
  | zero => simp [firstPages]
  | succ count ih =>
      have last : firstPages (pageOf rows perPage) (count + 1) =
          firstPages (pageOf rows perPage) count ++ pageOf rows perPage (count + 1) := by
        simp [firstPages, List.range_succ, List.flatMap_append]
      rw [last, ih, Nat.succ_mul, List.take_add]
      rfl

/-- Enough pages hold all rows, in order. -/
theorem firstPages_all {rows : List α} {perPage count : Nat}
    (enough : rows.length ≤ count * perPage) : firstPages (pageOf rows perPage) count = rows := by
  rw [firstPages_pageOf, List.take_of_length_le enough]

/-- A row is on some page exactly if it is one of the rows. -/
theorem mem_pageOf_iff {rows : List α} {perPage : Nat} (positive : 0 < perPage) {row : α} :
    (∃ number, row ∈ pageOf rows perPage number) ↔ row ∈ rows := by
  constructor
  · rintro ⟨number, member⟩
    cases number with
    | zero => cases member
    | succ before => exact List.mem_of_mem_drop (List.mem_of_mem_take member)
  · intro member
    have enough : rows.length ≤ rows.length * perPage := Nat.le_mul_of_pos_right _ positive
    rw [← firstPages_all enough] at member
    obtain ⟨before, -, here⟩ := List.mem_flatMap.mp member
    exact ⟨before + 1, here⟩

/-- Ask for one page after the other, as long as the answer says that there is a next one; none
when the fuel ends before. -/
def walk (items : Nat → List α) (hasNext : Nat → Bool) : Nat → Nat → Option (List α)
  | 0, _ => none
  | fuel + 1, number =>
      if hasNext number then (walk items hasNext fuel (number + 1)).map (items number ++ ·)
      else some (items number)

/-- A walk over the pages that ends where the rows end visits all rows after its start, in order.
It takes no more steps than there are pages left. -/
theorem walk_pageOf {rows : List α} {perPage : Nat} (positive : 0 < perPage)
    {hasNext : Nat → Bool}
    (more : ∀ before, hasNext (before + 1) = true ↔ (before + 1) * perPage < rows.length)
    (fuel before : Nat) (enough : rows.length ≤ (before + fuel) * perPage + perPage) :
    walk (pageOf rows perPage) hasNext (fuel + 1) (before + 1) =
      some (rows.drop (before * perPage)) := by
  induction fuel generalizing before with
  | zero =>
      have last : ¬ hasNext (before + 1) = true := by
        rw [more, Nat.succ_mul]
        rw [Nat.add_zero] at enough
        omega
      rw [walk, if_neg last, pageOf, List.take_of_length_le]
      rw [List.length_drop]
      rw [Nat.add_zero] at enough
      omega
  | succ fuel ih =>
      rw [walk]
      split
      · have later : rows.length ≤ (before + 1 + fuel) * perPage + perPage := by
          rw [Nat.add_right_comm]
          exact enough
        rw [ih (before + 1) later, Option.map_some, pageOf, Nat.succ_mul, ← List.drop_drop,
          List.take_append_drop]
      · rename_i last
        rw [more, Nat.succ_mul] at last
        rw [pageOf, List.take_of_length_le]
        rw [List.length_drop]
        omega

/-- The rows that have a partner, where each is joined with its partner. -/
theorem map_fst_join {β : Type} (rows : List α) (partner : α → Option β) :
    (rows.filterMap fun row => (partner row).map fun other => (row, other)).map Prod.fst =
      rows.filter (fun row => (partner row).isSome) := by
  induction rows with
  | nil => rfl
  | cons row rows ih =>
      cases found : partner row with
      | none => simp [found, ih]
      | some other => simp [found, ih]

/-- In a list with descending keys, an order is kept exactly if it agrees with the keys. -/
theorem pairwise_iff_of_descending {rows : List α} {key : α → Nat} {order : α → α → Prop}
    (descending : rows.Pairwise (fun a b => key b < key a)) :
    rows.Pairwise order ↔ ∀ a ∈ rows, ∀ b ∈ rows, key b < key a → order a b := by
  constructor
  · intro sorted
    induction rows with
    | nil =>
        intro a none
        cases none
    | cons head rows ih =>
        obtain ⟨below, descending⟩ := List.pairwise_cons.mp descending
        obtain ⟨first, sorted⟩ := List.pairwise_cons.mp sorted
        intro a here b there less
        rcases List.mem_cons.mp here with rfl | inside
        · rcases List.mem_cons.mp there with rfl | within
          · exact absurd less (lt_irrefl _)
          · exact first b within
        · rcases List.mem_cons.mp there with rfl | within
          · exact absurd (below a inside) (lt_asymm less)
          · exact ih descending sorted a inside b within less
  · intro agrees
    exact descending.imp_of_mem fun here there less => agrees _ here _ there less

/-- A row is on some page exactly if it is on one of some first pages. -/
theorem mem_firstPages_iff {page : Nat → List α} (opening : page 0 = []) {row : α} {count : Nat} :
    row ∈ firstPages page count ↔ ∃ number, number ≤ count ∧ row ∈ page number := by
  rw [firstPages, List.mem_flatMap]
  constructor
  · rintro ⟨before, member, here⟩
    exact ⟨before + 1, List.mem_range.mp member, here⟩
  · rintro ⟨number, within, here⟩
    cases number with
    | zero =>
        rw [opening] at here
        cases here
    | succ before => exact ⟨before, List.mem_range.mpr within, here⟩

/-- Pages of rows with descending keys, some of which are missing, are in order, read one after the
other, exactly if the order agrees with the keys of the rows that are on them. -/
theorem pairwise_firstPages_iff {page : Nat → List α} {rows : List α} {perPage : Nat}
    (cut : ∀ number, (page number).Sublist (pageOf rows perPage number)) {key : α → Nat}
    (descending : rows.Pairwise (fun a b => key b < key a)) {order : α → α → Prop} :
    (∀ count, (firstPages page count).Pairwise order) ↔
      ∀ a b, (∃ number, a ∈ page number) → (∃ number, b ∈ page number) → key b < key a →
        order a b := by
  have opening : page 0 = [] := List.sublist_nil.mp (cut 0)
  have keys : ∀ count, (firstPages page count).Pairwise (fun a b => key b < key a) := by
    intro count
    have pages : (firstPages page count).Sublist (firstPages (pageOf rows perPage) count) :=
      List.Sublist.flatMap_right _ fun before _ => cut (before + 1)
    rw [firstPages_pageOf] at pages
    exact descending.sublist (pages.trans (List.take_sublist _ _))
  simp only [pairwise_iff_of_descending (keys _), mem_firstPages_iff opening]
  constructor
  · rintro sorted a b ⟨first, here⟩ ⟨second, there⟩ less
    exact sorted (max first second) a ⟨first, le_max_left _ _, here⟩ b
      ⟨second, le_max_right _ _, there⟩ less
  · rintro agrees count a ⟨first, -, here⟩ b ⟨second, -, there⟩ less
    exact agrees a b ⟨first, here⟩ ⟨second, there⟩ less

end Pages

section Toggling

variable {α : Type}

/-- The list holds the choices of the set. -/
def Represents (chosen : List α) (set : Finset α) : Prop := ∀ choice, choice ∈ chosen ↔ choice ∈ set

theorem represents_nil : Represents ([] : List α) ∅ := by
  intro choice
  simp

theorem Represents.nil_iff {chosen : List α} {set : Finset α} (same : Represents chosen set) :
    chosen = [] ↔ set = ∅ := by
  rw [List.eq_nil_iff_forall_not_mem, Finset.eq_empty_iff_forall_notMem]
  exact forall_congr' fun choice => not_congr (same choice)

variable [DecidableEq α]

/-- Take a choice out of the list, or append it. -/
def toggle (chosen : List α) (choice : α) : List α :=
  if choice ∈ chosen then chosen.filter (fun other => other ≠ choice) else chosen ++ [choice]

theorem represents_toggle {chosen : List α} {set : Finset α} (same : Represents chosen set)
    (choice : α) : Represents (toggle chosen choice) (symmDiff set {choice}) := by
  intro other
  rw [Finset.mem_symmDiff, Finset.mem_singleton, ← same other]
  unfold toggle
  split
  · rename_i present
    rw [List.mem_filter, decide_eq_true_eq]
    constructor
    · rintro ⟨member, different⟩
      exact Or.inl ⟨member, different⟩
    · rintro (⟨member, different⟩ | ⟨rfl, absent⟩)
      · exact ⟨member, different⟩
      · exact absurd present absent
  · rename_i absent
    rw [List.mem_append, List.mem_singleton]
    constructor
    · rintro (member | rfl)
      · refine Or.inl ⟨member, ?_⟩
        rintro rfl
        exact absent member
      · exact Or.inr ⟨rfl, absent⟩
    · rintro (⟨member, -⟩ | ⟨rfl, -⟩)
      · exact Or.inl member
      · exact Or.inr rfl

/-- Toggling commutes with an injective encoding. -/
theorem map_toggle {β : Type} [DecidableEq β] {encode : α → β}
    (injective : Function.Injective encode) (chosen : List α) (choice : α) :
    (toggle chosen choice).map encode = toggle (chosen.map encode) (encode choice) := by
  have member : encode choice ∈ chosen.map encode ↔ choice ∈ chosen :=
    List.mem_map_of_injective injective
  unfold toggle
  by_cases present : choice ∈ chosen
  · rw [if_pos present, if_pos (member.mpr present), List.filter_map]
    congr 1
    apply List.filter_congr
    intro other _
    simp [injective.eq_iff]
  · rw [if_neg present, if_neg (fun listed => present (member.mp listed)), List.map_append]
    rfl

end Toggling

end ProductSite.Foundation.Listing
