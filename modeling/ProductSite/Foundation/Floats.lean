/- Module: ProductSite/Foundation/Floats
   digest: Floats up to the rounding of their arithmetic, with exact and binary arithmetic. -/

import Mathlib.Algebra.Order.Field.Power
import Mathlib.Data.Int.Log
import Mathlib.Data.Rat.Floor
import Mathlib.Tactic.Linarith
import Mathlib.Tactic.NormNum

set_option autoImplicit false
set_option relaxedAutoImplicit false

namespace ProductSite.Foundation.Floats

/-- The integer part, towards zero. -/
def truncate (x : ℚ) : ℤ := x.num.tdiv x.den

@[simp] theorem truncate_intCast (n : ℤ) : truncate n = n := by
  simp [truncate]

/-- A float: a number, one of the infinities, or no number. -/
inductive FloatValue where
  | finite (value : ℚ)
  | infinite (negative : Bool)
  | nan
  deriving DecidableEq

namespace FloatValue

def isFinite : FloatValue → Bool
  | .finite _ => true
  | .infinite _ => false
  | .nan => false

/-- The float is at most the number; a nan compares with nothing. -/
def atMost : FloatValue → ℚ → Bool
  | .finite value, number => value ≤ number
  | .infinite negative, _ => negative
  | .nan, _ => false

def atLeast : FloatValue → ℚ → Bool
  | .finite value, number => number ≤ value
  | .infinite negative, _ => !negative
  | .nan, _ => false

/-- Truncation, which only numbers have. -/
def toInt : FloatValue → Option ℤ
  | .finite value => some (truncate value)
  | .infinite _ => none
  | .nan => none

end FloatValue

/-- The arithmetic of floats, up to its rounding. The natural numbers of 53 bits are floats. -/
structure Arithmetic where
  nearest : ℚ → FloatValue
  nearest_natural : ∀ n : ℕ, n ≤ 2 ^ 53 → nearest n = .finite n

/-- The product of a float and a positive number. -/
def Arithmetic.times (floats : Arithmetic) : FloatValue → ℚ → FloatValue
  | .finite value, factor => floats.nearest (value * factor)
  | .infinite negative, _ => .infinite negative
  | .nan, _ => .nan

/-- The arithmetic without rounding. -/
def Arithmetic.exact : Arithmetic := ⟨.finite, fun _ _ => rfl⟩

section Rounding

/-- The nearest integer, and the even one of two that are equally near. -/
def roundHalfEven (x : ℚ) : ℤ :=
  let whole := ⌊x⌋
  if x - whole < 1 / 2 ∨ (x - whole = 1 / 2 ∧ whole % 2 = 0) then whole else whole + 1

theorem roundHalfEven_near (x : ℚ) : |(roundHalfEven x : ℚ) - x| ≤ 1 / 2 := by
  have low := Int.floor_le x
  have high := Int.lt_floor_add_one x
  rw [abs_le]
  unfold roundHalfEven
  simp only
  split
  · rename_i down
    have near : x - ⌊x⌋ ≤ 1 / 2 := down.elim le_of_lt (fun tie => le_of_eq tie.1)
    constructor <;> linarith
  · rename_i up
    have far : 1 / 2 ≤ x - ⌊x⌋ := not_lt.mp (fun near => up (Or.inl near))
    push_cast
    constructor <;> linarith

@[simp] theorem roundHalfEven_intCast (n : ℤ) : roundHalfEven n = n := by
  have below : (n : ℚ) - (⌊(n : ℚ)⌋ : ℤ) < 1 / 2 := by
    rw [Int.floor_intCast, sub_self]
    norm_num
  rw [roundHalfEven, if_pos (Or.inl below), Int.floor_intCast]

/-- The nearest integer, and the one farther from zero of two that are equally near. -/
def roundHalfAway (x : ℚ) : ℤ := if 0 ≤ x then ⌊x + 1 / 2⌋ else ⌈x - 1 / 2⌉

@[simp] theorem roundHalfAway_intCast (n : ℤ) : roundHalfAway n = n := by
  unfold roundHalfAway
  split
  · rw [Int.floor_eq_iff]
    constructor <;> linarith
  · rw [Int.ceil_eq_iff]
    constructor <;> linarith

/-- The exponent of the last of the 53 binary places of a number. -/
def lastPlace (x : ℚ) : ℤ := max (Int.log 2 |x| - 52) (-1074)

/-- The number rounded to its last binary place. -/
def roundBinary (x : ℚ) : ℚ := roundHalfEven (x / 2 ^ lastPlace x) * 2 ^ lastPlace x

theorem roundBinary_eq_self {x : ℚ} {n : ℤ} (places : x = n * 2 ^ lastPlace x) :
    roundBinary x = x := by
  have unit : (2 : ℚ) ^ lastPlace x ≠ 0 := zpow_ne_zero _ (by norm_num)
  have whole : x / 2 ^ lastPlace x = n := by
    rw [div_eq_iff unit]
    exact places
  rw [roundBinary, whole, roundHalfEven_intCast]
  exact places.symm

theorem roundBinary_natural {n : ℕ} (small : n ≤ 2 ^ 53) : roundBinary n = n := by
  have bits : Int.log 2 |(n : ℚ)| = Nat.log 2 n := by
    rw [Nat.abs_cast, Int.log_natCast]
  have size : Nat.log 2 n ≤ 53 := by
    have monotone : Nat.log 2 n ≤ Nat.log 2 (2 ^ 53) := Nat.log_mono_right small
    rwa [Nat.log_pow (by norm_num)] at monotone
  by_cases short : Nat.log 2 n ≤ 52
  · -- the last place is at or after the binary point
    have place : lastPlace n = -((52 - Nat.log 2 n : ℕ) : ℤ) := by
      rw [lastPlace, bits]
      omega
    refine roundBinary_eq_self (n := n * 2 ^ (52 - Nat.log 2 n)) ?_
    rw [place, zpow_neg, zpow_natCast]
    push_cast
    exact (mul_inv_cancel_right₀ (pow_ne_zero _ (by norm_num)) _).symm
  · have full : Nat.log 2 n = 53 := by omega
    have value : n = 2 ^ 53 := by
      have least : 2 ^ 53 ≤ n := by
        have nonzero : n ≠ 0 := by
          rintro rfl
          rw [Nat.log_zero_right] at full
          omega
        rw [← full]
        exact Nat.pow_log_le_self 2 nonzero
      omega
    have place : lastPlace n = 1 := by
      rw [lastPlace, bits, full]
      rfl
    refine roundBinary_eq_self (n := 2 ^ 52) ?_
    rw [place, value]
    norm_num

end Rounding

/-- The arithmetic with 53 binary places, in which numbers that are too large become infinite. -/
def Arithmetic.binary : Arithmetic where
  nearest x :=
    if 2 ^ 1024 ≤ |roundBinary x| then .infinite (decide (x < 0)) else .finite (roundBinary x)
  nearest_natural := by
    intro n small
    have bound : (n : ℚ) ≤ 2 ^ 53 := by exact_mod_cast small
    have finite : ¬ (2 ^ 1024 : ℚ) ≤ |roundBinary n| := by
      rw [roundBinary_natural small, Nat.abs_cast, not_le]
      exact lt_of_le_of_lt bound (pow_lt_pow_right₀ (by norm_num) (by norm_num))
    rw [if_neg finite, roundBinary_natural small]

end ProductSite.Foundation.Floats
