/- Module: ProductSite/Foundation/TableMap
   digest: Tables that hold at most one row for a place, the maps that they represent, and
     writes as updates of the map; the last request for a place decides, or their sum. -/

import Mathlib.Algebra.BigOperators.Group.List.Basic
import Mathlib.Data.Set.Card
import Mathlib.Logic.Function.Basic
import ProductSite.Foundation.Clashes
import ProductSite.Foundation.Runs

set_option autoImplicit false
set_option relaxedAutoImplicit false

namespace ProductSite.Foundation.TableMap

open ProductSite.Foundation.Clashes
open ProductSite.Foundation.KeyedTable (Table)
open ProductSite.Foundation.Runs

variable {ρ κ ν : Type} {key : ρ → Nat}

/-- Two rows are for the same place. -/
def SamePlace (place : ρ → κ) (row other : ρ) : Prop := place row = place other

/-- The table has at most one row for a place, and the map gives its value. -/
structure Represents (place : ρ → κ) (value : ρ → ν) (t : Table key) (m : κ → Option ν) :
    Prop where
  apart : Apart (SamePlace place) t
  stored : ∀ k v, m k = some v ↔ ∃ row ∈ t.rows, place row = k ∧ value row = v

/-- The second table is the first with the place `k` written: with a value, or emptied. -/
structure Writes (place : ρ → κ) (value : ρ → ν) (t t' : Table key) (k : κ) (v : Option ν) :
    Prop where
  others : ∀ row, place row ≠ k → (row ∈ t'.rows ↔ row ∈ t.rows)
  one : ∀ row ∈ t'.rows, ∀ other ∈ t'.rows, place row = k → place other = k → row = other
  here : ∀ w, v = some w ↔ ∃ row ∈ t'.rows, place row = k ∧ value row = w

section Writing

variable {place : ρ → κ} {value : ρ → ν} {t t' : Table key} {m : κ → Option ν} {k : κ}
  {v : Option ν}

theorem represents_empty {t : Table key} (empty : t.rows = []) :
    Represents place value t (fun _ => none) where
  apart := by
    intro row member
    rw [empty] at member
    cases member
  stored := by simp [empty]

theorem Represents.write [DecidableEq κ] (before : Represents place value t m)
    (writes : Writes place value t t' k v) :
    Represents place value t' (Function.update m k v) where
  apart := by
    intro row member other present same
    by_cases here : place row = k
    · exact writes.one row member other present here (Eq.trans (Eq.symm same) here)
    · have elsewhere : place other ≠ k := fun there => here (Eq.trans same there)
      exact before.apart row ((writes.others row here).mp member) other
        ((writes.others other elsewhere).mp present) same
  stored := by
    intro k' w
    by_cases here : k' = k
    · subst here
      rw [Function.update_self]
      exact writes.here w
    · rw [Function.update_of_ne here, before.stored]
      constructor
      · rintro ⟨row, member, rfl, rfl⟩
        exact ⟨row, (writes.others row here).mpr member, rfl, rfl⟩
      · rintro ⟨row, member, rfl, rfl⟩
        exact ⟨row, (writes.others row here).mp member, rfl, rfl⟩

theorem writes_insertNew {mk : Nat → ρ} (keyed : ∀ n, key (mk n) = n)
    (free : ∀ row ∈ t.rows, place row ≠ k) (placed : place (mk t.nextKey) = k) :
    Writes place value t (t.insertNew mk keyed) k (some (value (mk t.nextKey))) := by
  have only : ∀ row ∈ (t.insertNew mk keyed).rows, place row = k → row = mk t.nextKey := by
    intro row member here
    rcases Table.mem_insertNew.mp member with old | new
    · exact absurd here (free row old)
    · exact new
  refine ⟨?_, ?_, ?_⟩
  · intro row elsewhere
    rw [Table.mem_insertNew]
    constructor
    · rintro (old | rfl)
      · exact old
      · exact absurd placed elsewhere
    · exact Or.inl
  · intro row member other present here there
    rw [only row member here, only other present there]
  · intro w
    constructor
    · rintro ⟨⟩
      exact ⟨_, Table.mem_insertNew.mpr (Or.inr rfl), placed, rfl⟩
    · rintro ⟨row, member, here, rfl⟩
      rw [only row member here]

theorem writes_save {row old : ρ} (apart : Apart (SamePlace place) t)
    (found : t.get? (key row) = some old) (held : place old = k) (placed : place row = k) :
    Writes place value t (t.save row) k (some (value row)) := by
  obtain ⟨member, same⟩ := Table.get?_eq_some_iff.mp found
  have only : ∀ other ∈ (t.save row).rows, place other = k → other = row := by
    intro other present here
    rcases Table.mem_save.mp present with ⟨rfl, -⟩ | ⟨present, elsewhere⟩
    · rfl
    · have equal : other = old := apart other present old member (here.trans held.symm)
      rw [equal, same] at elsewhere
      exact absurd rfl elsewhere
  refine ⟨?_, ?_, ?_⟩
  · intro other elsewhere
    rw [Table.mem_save]
    constructor
    · rintro (⟨rfl, -⟩ | ⟨present, -⟩)
      · exact absurd placed elsewhere
      · exact present
    · intro present
      refine Or.inr ⟨present, ?_⟩
      intro sameKey
      have equal := Table.get?_of_mem present
      rw [sameKey, found] at equal
      cases equal
      exact elsewhere held
  · intro first member₁ second member₂ here there
    rw [only first member₁ here, only second member₂ there]
  · intro w
    constructor
    · rintro ⟨⟩
      exact ⟨row, Table.mem_save.mpr (Or.inl ⟨rfl, old, member, same⟩), placed, rfl⟩
    · rintro ⟨other, present, here, rfl⟩
      rw [only other present here]

/-- Removing the row of a place empties it. -/
theorem writes_removeKey {old : ρ} (apart : Apart (SamePlace place) t)
    (found : t.get? (key old) = some old) (held : place old = k) :
    Writes place value t (t.remove (fun row => key row = key old)) k none := by
  have member := (Table.get?_eq_some_iff.mp found).1
  have gone : ∀ row ∈ (t.remove (fun row => key row = key old)).rows, place row ≠ k := by
    intro row present here
    obtain ⟨stored, kept⟩ := Table.mem_remove.mp present
    have equal : row = old := apart row stored old member (here.trans held.symm)
    rw [equal] at kept
    simp at kept
  refine ⟨?_, ?_, ?_⟩
  · intro row elsewhere
    rw [Table.mem_remove]
    constructor
    · exact And.left
    · intro present
      refine ⟨present, ?_⟩
      simp only [decide_eq_false_iff_not]
      intro sameKey
      have equal := Table.get?_of_mem present
      rw [sameKey, found] at equal
      cases equal
      exact elsewhere held
  · intro row present other _ here
    exact absurd here (gone row present)
  · intro w
    constructor
    · rintro ⟨⟩
    · rintro ⟨row, present, here, -⟩
      exact absurd here (gone row present)

/-- Emptying a place without a row changes nothing. -/
theorem writes_nothing (free : ∀ row ∈ t.rows, place row ≠ k) :
    Writes place value t t k none := by
  refine ⟨fun _ _ => Iff.rfl, ?_, ?_⟩
  · intro row present other _ here
    exact absurd here (free row present)
  · intro w
    constructor
    · rintro ⟨⟩
    · rintro ⟨row, present, here, -⟩
      exact absurd here (free row present)

/-- The rows whose place is in a set are as many as the places of the set with a value. -/
theorem Represents.count (represents : Represents place value t m) (inside : κ → Bool) :
    (t.rows.filter (fun row => inside (place row))).length =
      Set.ncard {k | inside k = true ∧ (m k).isSome = true} := by
  classical
  let places := (t.rows.filter (fun row => inside (place row))).map place
  have nodup : places.Nodup := by
    refine List.Nodup.map_on ?_ (t.distinct.of_map.filter _)
    intro row member other present same
    exact represents.apart row (List.mem_filter.mp member).1 other
      (List.mem_filter.mp present).1 same
  have same : {k | inside k = true ∧ (m k).isSome = true} = (places.toFinset : Set κ) := by
    ext k
    simp only [Set.mem_ofPred_eq, List.coe_toFinset]
    constructor
    · rintro ⟨within, filled⟩
      obtain ⟨v, given⟩ := Option.isSome_iff_exists.mp filled
      obtain ⟨row, member, rfl, -⟩ := (represents.stored k v).mp given
      exact List.mem_map.mpr ⟨row, List.mem_filter.mpr ⟨member, within⟩, rfl⟩
    · intro listed
      obtain ⟨row, member, rfl⟩ := List.mem_map.mp listed
      obtain ⟨present, within⟩ := List.mem_filter.mp member
      refine ⟨within, ?_⟩
      rw [(represents.stored _ _).mpr ⟨row, present, rfl, rfl⟩]
      rfl
  rw [same, Set.ncard_coe_finset, List.toFinset_card_of_nodup nodup, List.length_map]

/-- The place of a value holds exactly one row. -/
theorem Represents.existsUnique (represents : Represents place value t m) {v : ν}
    (given : m k = some v) : ∃! row, row ∈ t.rows ∧ place row = k := by
  obtain ⟨row, member, here, -⟩ := (represents.stored k v).mp given
  refine ⟨row, ⟨member, here⟩, ?_⟩
  rintro other ⟨present, there⟩
  exact represents.apart other present row member (there.trans here.symm)

theorem Represents.value_of_mem (represents : Represents place value t m) {row : ρ}
    (member : row ∈ t.rows) : m (place row) = some (value row) :=
  (represents.stored _ _).mpr ⟨row, member, rfl, rfl⟩

/-- Tables of one map hold the same places and values, whatever their keys. -/
theorem Represents.perm {other : Table key} (represents : Represents place value t m)
    (same : Represents place value other m) :
    (t.rows.map (fun row => (place row, value row))).Perm
      (other.rows.map (fun row => (place row, value row))) := by
  have nodup : ∀ {table : Table key}, Represents place value table m →
      (table.rows.map (fun row => (place row, value row))).Nodup := by
    intro table held
    refine List.Nodup.map_on ?_ table.distinct.of_map
    intro row member other present equal
    exact held.apart row member other present (Prod.mk.inj equal).1
  have listed : ∀ {table : Table key}, Represents place value table m → ∀ k v,
      (k, v) ∈ table.rows.map (fun row => (place row, value row)) ↔ m k = some v := by
    intro table held k v
    rw [held.stored, List.mem_map]
    simp only [Prod.mk.injEq]
  refine (List.perm_ext_iff_of_nodup (nodup represents) (nodup same)).mpr ?_
  rintro ⟨k, v⟩
  rw [listed represents, listed same]

end Writing

section LastWrite

variable {β : Type} [DecidableEq κ] (target : β → Option κ) (effect : β → Option ν)

/-- What the last of the requests for a place leaves there. -/
def latest (requests : List β) (k : κ) : Option ν :=
  ((requests.filter (fun request => target request = some k)).getLast?).bind effect

theorem latest_snoc {request : β} {k : κ} (aimed : target request = some k)
    (requests : List β) :
    latest target effect (requests ++ [request]) =
      Function.update (latest target effect requests) k (effect request) := by
  funext k'
  unfold latest
  by_cases here : k' = k
  · subst here
    rw [Function.update_self, List.filter_append]
    simp [aimed]
  · have other : ¬ k = k' := fun same => here same.symm
    rw [Function.update_of_ne here, List.filter_append]
    simp [aimed, other]

end LastWrite

section Refinement

variable {σ β : Type} [DecidableEq κ] {step : σ → β → σ} {target : β → Option κ}
  {effect : β → Option ν} {place : ρ → κ} {value : ρ → ν} (table : σ → Table key)
  (dom : σ → Prop)

/-- The refinement rule: where each step writes the place that its request aims at, every run
from an empty table holds what the last request for each place left. -/
theorem represents_latest {s : σ} {requests : List β} (start : dom s)
    (empty : (table s).rows = [])
    (writes : ∀ t request, request ∈ requests → dom t → Apart (SamePlace place) (table t) →
      dom (step t request) ∧ ∃ k, target request = some k ∧
        Writes place value (table t) (table (step t request)) k (effect request)) :
    Along step dom s requests ∧ ∀ handled, handled <+: requests →
      Represents place value (table (run step s handled)) (latest target effect handled) := by
  have both : ∀ handled, handled <+: requests → dom (run step s handled) ∧
      Represents place value (table (run step s handled)) (latest target effect handled) := by
    intro handled
    induction handled using List.reverseRecOn with
    | nil =>
        intro _
        exact ⟨start, represents_empty empty⟩
    | append_singleton handled request ih =>
        intro here
        obtain ⟨inside, represents⟩ := ih ((List.prefix_append handled [request]).trans here)
        have asked : request ∈ requests := here.subset (by simp)
        obtain ⟨after, k, aimed, written⟩ := writes _ request asked inside represents.apart
        rw [run_snoc, latest_snoc target effect aimed]
        exact ⟨after, represents.write written⟩
  exact ⟨fun handled here => (both handled here).1, fun handled here => (both handled here).2⟩

end Refinement

section Sums

variable {β : Type} [DecidableEq κ] [AddCommMonoid ν] (target : β → κ) (amount : β → ν)

/-- The sum of the amounts for a place, where there is a request for it. -/
def total (requests : List β) (k : κ) : Option ν :=
  match requests.filter (fun request => target request = k) with
  | [] => none
  | first :: rest => some ((first :: rest).map amount).sum

theorem total_eq_none_iff {requests : List β} {k : κ} :
    total target amount requests k = none ↔ ∀ request ∈ requests, target request ≠ k := by
  have empty : requests.filter (fun request => target request = k) = [] ↔
      ∀ request ∈ requests, target request ≠ k := by
    simp [List.filter_eq_nil_iff]
  rw [← empty, total]
  split
  · rename_i none
    exact iff_of_true rfl none
  · rename_i first rest some
    rw [some]
    simp

theorem total_of_mem {requests : List β} {request : β} (member : request ∈ requests) :
    total target amount requests (target request) =
      some ((requests.filter (fun other => target other = target request)).map amount).sum := by
  have here : request ∈ requests.filter (fun other => target other = target request) :=
    List.mem_filter.mpr ⟨member, decide_eq_true rfl⟩
  rw [total]
  split
  · rename_i none
    rw [none] at here
    cases here
  · rename_i first rest some
    rw [some]

theorem total_eq_some {requests : List β} {k : κ} {v : ν}
    (given : total target amount requests k = some v) :
    (∃ request ∈ requests, target request = k) ∧
      v = ((requests.filter (fun request => target request = k)).map amount).sum := by
  rw [total] at given
  split at given
  · cases given
  · rename_i first rest listed
    have member : first ∈ requests.filter (fun request => target request = k) := by
      rw [listed]
      exact List.mem_cons_self
    obtain ⟨asked, here⟩ := List.mem_filter.mp member
    refine ⟨⟨first, asked, of_decide_eq_true here⟩, ?_⟩
    rw [listed]
    exact (Option.some.inj given).symm

theorem total_snoc (requests : List β) (request : β) :
    total target amount (requests ++ [request]) =
      Function.update (total target amount requests) (target request)
        (some ((total target amount requests (target request)).getD 0 + amount request)) := by
  funext k
  by_cases here : k = target request
  · subst here
    have last : request ∈ requests ++ [request] := by simp
    rw [Function.update_self, total_of_mem target amount last, List.filter_append]
    simp only [decide_true, List.filter_cons_of_pos, List.filter_nil, List.map_append,
      List.sum_append, List.map_cons, List.map_nil, List.sum_singleton]
    rw [total]
    split
    · rename_i none
      rw [none]
      rfl
    · rename_i first rest some
      rw [some]
      rfl
  · have other : ¬ target request = k := fun same => here same.symm
    rw [Function.update_of_ne here, total, total, List.filter_append]
    simp [other]

/-- The sums do not depend on the order of the requests. -/
theorem total_perm {requests other : List β} (perm : requests.Perm other) :
    total target amount requests = total target amount other := by
  funext k
  by_cases asked : ∃ request ∈ requests, target request = k
  · obtain ⟨request, member, rfl⟩ := asked
    rw [total_of_mem target amount member,
      total_of_mem target amount (perm.mem_iff.mp member), ((perm.filter _).map amount).sum_eq]
  · have first : total target amount requests k = none := by
      rw [total_eq_none_iff]
      intro request member same
      exact asked ⟨request, member, same⟩
    have second : total target amount other k = none := by
      rw [total_eq_none_iff]
      intro request member same
      exact asked ⟨request, perm.mem_iff.mpr member, same⟩
    rw [first, second]

/-- The refinement rule for sums: where each step adds its amount to the place of its request,
or is refused because of that place, every run from an empty table holds the sums of the
requests that count. -/
theorem represents_total {σ : Type} {step : σ → β → σ} {place : ρ → κ} {value : ρ → ν}
    (table : σ → Table key) (dom : σ → Prop) (counts : κ → Bool) {s : σ} (start : dom s)
    (empty : (table s).rows = [])
    (adds : ∀ t request m, dom t → Represents place value (table t) m →
      counts (target request) = true → dom (step t request) ∧
        Writes place value (table t) (table (step t request)) (target request)
          (some ((m (target request)).getD 0 + amount request)))
    (refuses : ∀ t request, dom t → (∀ row ∈ (table t).rows, place row ≠ target request) →
      counts (target request) = false → step t request = t)
    (requests : List β) :
    dom (run step s requests) ∧ Represents place value (table (run step s requests))
      (total target amount (requests.filter (fun request => counts (target request)))) := by
  induction requests using List.reverseRecOn with
  | nil => exact ⟨start, represents_empty empty⟩
  | append_singleton requests request ih =>
      obtain ⟨inside, represents⟩ := ih
      rw [run_snoc, List.filter_append, List.filter_singleton]
      cases counted : counts (target request) with
      | true =>
          obtain ⟨after, writes⟩ := adds _ request _ inside represents counted
          rw [cond_true, total_snoc]
          exact ⟨after, represents.write writes⟩
      | false =>
          have free : ∀ row ∈ (table (run step s requests)).rows, place row ≠ target request := by
            intro row member here
            have filled := represents.value_of_mem member
            have nothing : total target amount
                (requests.filter (fun request => counts (target request))) (place row) = none := by
              rw [total_eq_none_iff, here]
              intro other listed same
              have admitted := (List.mem_filter.mp listed).2
              rw [same, counted] at admitted
              cases admitted
            rw [nothing] at filled
            cases filled
          rw [refuses _ request inside free counted, cond_false, List.append_nil]
          exact ⟨inside, represents⟩

end Sums

end ProductSite.Foundation.TableMap
