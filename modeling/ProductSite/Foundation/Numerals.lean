/- Module: ProductSite/Foundation/Numerals
   digest: The texts that Python reads as numbers: digits of any script, `int` and `float`. -/

import Mathlib.Data.List.DropRight
import ProductSite.Foundation.Floats
import ProductSite.Foundation.Wire

set_option autoImplicit false
set_option relaxedAutoImplicit false

namespace ProductSite.Foundation.Numerals

open ProductSite.Foundation.Floats
open ProductSite.Foundation.Wire (isDigit_of_mem_number number_nonempty ofDigitChars_number
  readNat readNat_toString)

section Characters

/-- The characters that `str.strip` takes for white space. -/
def isSpace (c : Char) : Bool :=
  let code := c.toNat
  (9 ≤ code && code ≤ 13) || (28 ≤ code && code ≤ 32) || (8192 ≤ code && code ≤ 8202) ||
    [133, 160, 5760, 8232, 8233, 8239, 8287, 12288].contains code

/-- The zeros of the scripts, as code points: the decimal digits of a script are ten in a row. -/
def decimalZeros : List Nat :=
  [48, 1632, 1776, 1984, 2406, 2534, 2662, 2790, 2918, 3046, 3174, 3302, 3430, 3558, 3664, 3792,
    3872, 4160, 4240, 6112, 6160, 6470, 6608, 6784, 6800, 6992, 7088, 7232, 7248, 42528, 43216,
    43264, 43472, 43504, 43600, 44016, 65296, 66720, 68912, 69734, 69872, 69942, 70096, 70384,
    70736, 70864, 71248, 71360, 71472, 71904, 72016, 72784, 73040, 73120, 92768, 92864, 93008,
    120782, 120792, 120802, 120812, 120822, 123200, 123632, 125264, 130032]

/-- The digits that stand for no decimal place: superscripts, subscripts, circled ones and the
like, as ranges of code points. -/
def otherDigits : List (Nat × Nat) :=
  [(178, 179), (185, 185), (4969, 4977), (6618, 6618), (8304, 8304), (8308, 8313), (8320, 8329),
    (9312, 9320), (9332, 9340), (9352, 9360), (9450, 9450), (9461, 9469), (9471, 9471),
    (10102, 10110), (10112, 10120), (10122, 10130), (68160, 68163), (69216, 69224),
    (69714, 69722), (127232, 127242)]

def decimalValue (c : Char) : Option Nat :=
  (decimalZeros.find? (fun start => start ≤ c.toNat && c.toNat < start + 10)).map (c.toNat - ·)

private theorem code_of_isDigit {c : Char} (digit : c.isDigit = true) :
    48 ≤ c.toNat ∧ c.toNat < 58 := by
  simp only [Char.isDigit, Bool.and_eq_true, decide_eq_true_eq] at digit
  have low : (48 : UInt32).toNat ≤ c.toNat := digit.1
  have high : c.toNat ≤ (57 : UInt32).toNat := digit.2
  exact ⟨low, Nat.lt_succ_of_le high⟩

private theorem decimalValue_digit {c : Char} (digit : c.isDigit = true) :
    decimalValue c = some (c.toNat - 48) := by
  simp [decimalValue, decimalZeros, code_of_isDigit digit]

private theorem mapM_of_forall {α β : Type} {f : α → Option β} {g : α → β} {list : List α}
    (each : ∀ a ∈ list, f a = some (g a)) : list.mapM f = some (list.map g) := by
  induction list with
  | nil => rfl
  | cons a rest ih =>
      rw [List.mapM_cons, each a List.mem_cons_self,
        ih (fun b member => each b (List.mem_cons_of_mem a member))]
      rfl

/-- `text.isdigit()`. -/
def isdigit (text : String) : Bool :=
  text ≠ "" && text.toList.all fun c =>
    (decimalValue c).isSome ||
      otherDigits.any (fun range => range.1 ≤ c.toNat && c.toNat ≤ range.2)

end Characters

section Texts

/-- The blanks that are skipped at both ends. -/
def isBlank (c : Char) : Bool := (9 ≤ c.toNat && c.toNat ≤ 13) || c == ' '

/-- The ASCII character that a character is taken for, if there is one. -/
def asciiOf (c : Char) : Option Char :=
  if c.toNat < 127 then some c
  else if isSpace c then some ' '
  else (decimalValue c).map (fun digit => Char.ofNat (48 + digit))

/-- The text without its underscores, each of which has to stand between two digits. -/
def dropUnderscores (afterDigit : Bool) : List Char → Option (List Char)
  | [] => some []
  | c :: rest =>
      if c = '_' then
        if afterDigit && rest.head?.any Char.isDigit then dropUnderscores false rest else none
      else (dropUnderscores c.isDigit rest).map (c :: ·)

/-- What `int` and `float` read of a text. -/
def numeralOf (text : String) : Option (List Char) :=
  (text.toList.mapM asciiOf).bind fun ascii =>
    dropUnderscores false ((ascii.dropWhile isBlank).rdropWhile isBlank)

/-- Whether a minus sign comes first, and what follows the sign. -/
def cutSign : List Char → Bool × List Char
  | [] => (false, [])
  | c :: rest =>
      if c = '-' then (true, rest) else if c = '+' then (false, rest) else (false, c :: rest)

private theorem isBlank_digit {c : Char} (digit : c.isDigit = true) : isBlank c = false := by
  obtain ⟨low, high⟩ := code_of_isDigit digit
  have inked : c ≠ ' ' := by
    rintro rfl
    cases digit
  simp only [isBlank, Bool.or_eq_false_iff, Bool.and_eq_false_iff, decide_eq_false_iff_not,
    beq_eq_false_iff_ne]
  exact ⟨Or.inr (by omega), inked⟩

private theorem ne_of_isDigit {c d : Char} (digit : c.isDigit = true) (other : d.isDigit = false) :
    c ≠ d := by
  rintro rfl
  rw [digit] at other
  cases other

private theorem dropUnderscores_digits {text : List Char}
    (digits : ∀ c ∈ text, c.isDigit = true) (afterDigit : Bool) :
    dropUnderscores afterDigit text = some text := by
  induction text generalizing afterDigit with
  | nil => rfl
  | cons c rest ih =>
      obtain ⟨first, others⟩ := List.forall_mem_cons.mp digits
      rw [dropUnderscores, if_neg (ne_of_isDigit first (by decide)), ih others]
      rfl

private theorem cutSign_digits {text : List Char} (digits : ∀ c ∈ text, c.isDigit = true) :
    cutSign text = (false, text) := by
  cases text with
  | nil => rfl
  | cons c rest =>
      have first := digits c List.mem_cons_self
      rw [cutSign, if_neg (ne_of_isDigit first (by decide)),
        if_neg (ne_of_isDigit first (by decide))]

private theorem numeralOf_digits {text : String} (digits : ∀ c ∈ text.toList, c.isDigit = true) :
    numeralOf text = some text.toList := by
  have ascii : text.toList.mapM asciiOf = some text.toList := by
    refine (mapM_of_forall (g := id) ?_).trans (by rw [List.map_id])
    intro c member
    have code := code_of_isDigit (digits c member)
    exact if_pos (by omega)
  have front : text.toList.dropWhile isBlank = text.toList := by
    rw [List.dropWhile_eq_self_iff]
    intro inside
    rw [isBlank_digit (digits _ (List.getElem_mem inside))]
    decide
  have back : text.toList.rdropWhile isBlank = text.toList := by
    rw [List.rdropWhile_eq_self_iff]
    intro nonempty
    rw [isBlank_digit (digits _ (List.getLast_mem nonempty))]
    decide
  rw [numeralOf, ascii, Option.bind_some, front, back, dropUnderscores_digits digits]

end Texts

section Integers

/-- The number that digits with or without a sign spell; there has to be a digit. -/
def signedDigits (text : List Char) : Option Int :=
  let (negative, digits) := cutSign text
  if digits ≠ [] ∧ digits.all Char.isDigit then
    let size : Int := Nat.ofDigitChars 10 digits 0
    some (if negative then -size else size)
  else none

/-- `int(text)`, none where it raises. -/
def readInt (text : String) : Option Int := (numeralOf text).bind signedDigits

/-- A text of ASCII digits is a text of digits, and `int` reads the number that it spells. -/
theorem readInt_of_readNat {text : String} {n : Nat} (read : readNat text = some n) :
    isdigit text = true ∧ readInt text = some (n : Int) := by
  unfold readNat at read
  split at read
  · rename_i spelled
    obtain ⟨nonempty, all⟩ := spelled
    have digits : ∀ c ∈ text.toList, c.isDigit = true := List.all_eq_true.mp all
    constructor
    · have filled : text ≠ "" := by
        rintro rfl
        exact nonempty rfl
      simp only [isdigit, Bool.and_eq_true, decide_eq_true_eq, List.all_eq_true, Bool.or_eq_true]
      refine ⟨filled, ?_⟩
      intro c member
      rw [decimalValue_digit (digits c member)]
      exact Or.inl rfl
    · have value := Option.some.inj read
      rw [readInt, numeralOf_digits digits, Option.bind_some, signedDigits, cutSign_digits digits]
      simp only [Bool.false_eq_true, if_false]
      rw [if_pos ⟨nonempty, all⟩, value]
  · cases read

theorem readInt_toString (n : Nat) : readInt (toString n) = some (n : Int) :=
  (readInt_of_readNat (readNat_toString n)).2

end Integers

section Decimals

/-- The power of ten that follows the digits. -/
def exponentOf : List Char → Option Int
  | [] => some 0
  | c :: rest => if c = 'e' ∨ c = 'E' then signedDigits rest else none

/-- The digits behind the point, if there is one, and what follows them. -/
def cutFraction : List Char → List Char × List Char
  | [] => ([], [])
  | c :: rest =>
      if c = '.' then (rest.takeWhile Char.isDigit, rest.dropWhile Char.isDigit)
      else ([], c :: rest)

/-- The number that digits with a point and an exponent spell; there has to be a digit. -/
def decimalOf (text : List Char) : Option ℚ :=
  let whole := text.takeWhile Char.isDigit
  let (fraction, rest) := cutFraction (text.dropWhile Char.isDigit)
  if whole ++ fraction = [] then none
  else (exponentOf rest).map fun exponent =>
    let shift : Int := exponent - fraction.length
    (Nat.ofDigitChars 10 (whole ++ fraction) 0 : ℚ) * 10 ^ shift.toNat / 10 ^ (-shift).toNat

/-- The float for a text of ASCII characters without blanks and underscores. -/
def floatOf (floats : Arithmetic) (text : List Char) : Option FloatValue :=
  let (negative, rest) := cutSign text
  match decimalOf rest with
  | some size => some (floats.nearest (if negative then -size else size))
  | none =>
      let word := rest.map Char.toLower
      if word = "inf".toList ∨ word = "infinity".toList then some (.infinite negative)
      else if word = "nan".toList then some .nan
      else none

/-- `float(text)`, none where it raises. -/
def readFloat (floats : Arithmetic) (text : String) : Option FloatValue :=
  (numeralOf text).bind (floatOf floats)

@[simp] theorem readFloat_empty (floats : Arithmetic) : readFloat floats "" = none := rfl

private theorem decimalOf_digits {text : List Char} (nonempty : text ≠ [])
    (digits : ∀ c ∈ text, c.isDigit = true) :
    decimalOf text = some (Nat.ofDigitChars 10 text 0 : ℚ) := by
  have whole : text.takeWhile Char.isDigit = text := List.takeWhile_eq_self_iff.mpr digits
  have rest : text.dropWhile Char.isDigit = [] := List.dropWhile_eq_nil_iff.mpr digits
  simp [decimalOf, whole, rest, cutFraction, exponentOf, nonempty]

/-- The numeral of a natural number that is a float is read as this number. -/
theorem readFloat_natural (floats : Arithmetic) {n : Nat} (small : n ≤ 2 ^ 53) :
    readFloat floats (toString n) = some (.finite n) := by
  have digits : ∀ c ∈ (toString n).toList, c.isDigit = true := fun c => isDigit_of_mem_number
  rw [readFloat, numeralOf_digits digits, Option.bind_some, floatOf, cutSign_digits digits]
  simp only [decimalOf_digits (number_nonempty n) digits, ofDigitChars_number,
    Bool.false_eq_true, if_false, floats.nearest_natural n small]

end Decimals

end ProductSite.Foundation.Numerals
