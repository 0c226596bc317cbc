/- Module: ProductSite/Foundation/Balances
   digest: Accounts with integer balances, posts to them, and when no balance gets negative. -/

import Mathlib.Algebra.BigOperators.Group.List.Basic
import Mathlib.Algebra.Order.Group.Int
import Mathlib.Logic.Function.Basic
import Mathlib.Tactic.Linarith
import Mathlib.Tactic.Ring

set_option autoImplicit false
set_option relaxedAutoImplicit false

namespace ProductSite.Foundation.Balances

variable {κ : Type} [DecidableEq κ]

abbrev Accounts (κ : Type) := κ → Option Int

/-- Open an account or overwrite its balance, or add an amount of either sign to it. -/
inductive Post (κ : Type) where
  | assign (account : κ) (amount : Int)
  | add (account : κ) (amount : Int)
  deriving DecidableEq

/-- An addition to an account that does not exist has no effect. -/
def post (b : Accounts κ) : Post κ → Accounts κ
  | .assign account amount => Function.update b account (some amount)
  | .add account amount => Function.update b account ((b account).map (· + amount))

def postAll (b : Accounts κ) (posts : List (Post κ)) : Accounts κ := posts.foldl post b

def NonNegative (b : Accounts κ) : Prop := ∀ account held, b account = some held → 0 ≤ held

/-- The account holds what the post takes from it. -/
def Covered (b : Accounts κ) : Post κ → Prop
  | .assign _ amount => 0 ≤ amount
  | .add account amount => ∀ held, b account = some held → -amount ≤ held

/-- Each post of a sequence is covered by the balances it finds. -/
def CoveredAll : Accounts κ → List (Post κ) → Prop
  | _, [] => True
  | b, p :: rest => Covered b p ∧ CoveredAll (post b p) rest

@[simp] theorem postAll_nil (b : Accounts κ) : postAll b [] = b := rfl

@[simp] theorem postAll_cons (b : Accounts κ) (p : Post κ) (rest : List (Post κ)) :
    postAll b (p :: rest) = postAll (post b p) rest := rfl

theorem post_add (b : Accounts κ) (account other : κ) (amount : Int) :
    post b (.add account amount) other =
      (b other).map (· + if other = account then amount else 0) := by
  by_cases here : other = account
  · subst here
    simp [post]
  · simp [post, here]

theorem post_assign_self {b : Accounts κ} {account : κ} {held : Int}
    (found : b account = some held) : post b (.assign account held) = b := by
  change Function.update b account (some held) = b
  rw [← found, Function.update_eq_self]

theorem post_add_zero (b : Accounts κ) (account : κ) : post b (.add account 0) = b := by
  funext other
  rw [post_add]
  simp

theorem post_add_missing {b : Accounts κ} {account : κ} (missing : b account = none)
    (amount : Int) : post b (.add account amount) = b := by
  funext other
  rw [post_add]
  by_cases here : other = account
  · subst here
    simp [missing]
  · simp [here]

/-- No account is ever closed. -/
theorem isSome_postAll {b : Accounts κ} {account : κ} (opened : (b account).isSome)
    (posts : List (Post κ)) : (postAll b posts account).isSome := by
  induction posts generalizing b with
  | nil => exact opened
  | cons p rest ih =>
      apply ih
      cases p with
      | assign other amount =>
          by_cases here : account = other
          · simp [post, here]
          · simpa [post, here] using opened
      | add other amount =>
          rw [post_add, Option.isSome_map]
          exact opened

/-- A post leaves no negative balance precisely when it is covered. -/
theorem nonNegative_post_iff {b : Accounts κ} (before : NonNegative b) (p : Post κ) :
    NonNegative (post b p) ↔ Covered b p := by
  cases p with
  | assign account amount =>
      constructor
      · intro after
        exact after account amount (by simp [post])
      · intro covered other held found
        by_cases here : other = account
        · subst here
          have equal : amount = held := by simpa [post] using found
          exact equal ▸ covered
        · exact before other held (by simpa [post, here] using found)
  | add account amount =>
      constructor
      · intro after held found
        have bound := after account (held + amount) (by simp [post, found])
        linarith
      · intro covered other held found
        rw [post_add] at found
        obtain ⟨old, present, equal⟩ := Option.map_eq_some_iff.mp found
        by_cases here : other = account
        · subst here
          have bound := covered old present
          simp only [if_true] at equal
          linarith
        · simp only [here, if_false, add_zero] at equal
          exact equal ▸ before other old present

theorem nonNegative_postAll {b : Accounts κ} (before : NonNegative b) {posts : List (Post κ)}
    (covered : CoveredAll b posts) : NonNegative (postAll b posts) := by
  induction posts generalizing b with
  | nil => exact before
  | cons p rest ih => exact ih ((nonNegative_post_iff before p).mpr covered.1) covered.2

def credits (entries : List (κ × Int)) : List (Post κ) :=
  entries.map (fun entry => .add entry.1 entry.2)

def creditTo (account : κ) (entries : List (κ × Int)) : Int :=
  (entries.map (fun entry => if account = entry.1 then entry.2 else 0)).sum

@[simp] theorem creditTo_nil (account : κ) : creditTo account ([] : List (κ × Int)) = 0 := rfl

@[simp] theorem creditTo_cons (account : κ) (entry : κ × Int) (rest : List (κ × Int)) :
    creditTo account (entry :: rest) =
      (if account = entry.1 then entry.2 else 0) + creditTo account rest := rfl

/-- A sequence of additions adds to each account its own total, in whatever order. -/
theorem postAll_credits (b : Accounts κ) (entries : List (κ × Int)) (account : κ) :
    postAll b (credits entries) account = (b account).map (· + creditTo account entries) := by
  induction entries generalizing b with
  | nil => simp [credits]
  | cons entry rest ih =>
      have unfolded : postAll b (credits (entry :: rest)) =
          postAll (post b (.add entry.1 entry.2)) (credits rest) := rfl
      rw [unfolded, ih, post_add, creditTo_cons, Option.map_map]
      congr 1
      funext held
      simp only [Function.comp_apply]
      ring

theorem coveredAll_credits {b : Accounts κ} (before : NonNegative b) {entries : List (κ × Int)}
    (gains : ∀ entry ∈ entries, 0 ≤ entry.2) : CoveredAll b (credits entries) := by
  induction entries generalizing b with
  | nil => trivial
  | cons entry rest ih =>
      have gain : 0 ≤ entry.2 := gains entry List.mem_cons_self
      have covered : Covered b (.add entry.1 entry.2) := by
        intro held found
        have bound := before _ _ found
        linarith
      refine ⟨covered, ih ((nonNegative_post_iff before _).mpr covered) ?_⟩
      intro other member
      exact gains other (List.mem_cons_of_mem _ member)

end ProductSite.Foundation.Balances
