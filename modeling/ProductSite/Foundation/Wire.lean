/- Module: ProductSite/Foundation/Wire
   digest: Optional JSON fields, HTTP replies, a string keyspace and colon-separated key names. -/

import Mathlib.Data.List.Basic
import Mathlib.Data.Nat.Basic

set_option autoImplicit false
set_option relaxedAutoImplicit false

namespace ProductSite.Foundation.Wire

/-- A key of a JSON object: missing, present with null, or present with a value. -/
inductive JsonField (α : Type) where
  | absent
  | null
  | value (a : α)
  deriving DecidableEq, Repr

namespace JsonField

variable {α : Type}

/-- `data.get(key)`: a missing key and null both read as None. -/
def get : JsonField α → Option α
  | .absent => none
  | .null => none
  | .value a => some a

/-- `data.get(key, fallback)`: the fallback replaces a missing key only. -/
def getD (field : JsonField α) (fallback : α) : Option α :=
  match field with
  | .absent => some fallback
  | .null => none
  | .value a => some a

/-- `key in data`. -/
def present : JsonField α → Bool
  | .absent => false
  | .null => true
  | .value _ => true

def isNull : JsonField α → Bool
  | .absent => false
  | .null => true
  | .value _ => false

/-- `if key in data: setattr(row, key, data[key])` on a nullable column. -/
def assign (field : JsonField α) (old : Option α) : Option α :=
  match field with
  | .absent => old
  | .null => none
  | .value a => some a

/-- The field that a client writes for a value that may be null. -/
def ofOption : Option α → JsonField α
  | none => .null
  | some a => .value a

theorem getD_eq_some {field : JsonField α} {fallback a : α} (read : field.getD fallback = some a) :
    field.get = some a ∨ a = fallback := by
  cases field with
  | absent => exact Or.inr (Option.some.inj read).symm
  | null => cases read
  | value _ => exact Or.inl read

theorem getD_satisfies {field : JsonField α} {fallback a : α} {P : α → Prop}
    (given : ∀ b, field.get = some b → P b) (otherwise : P fallback)
    (read : field.getD fallback = some a) : P a := by
  rcases getD_eq_some read with named | rfl
  · exact given a named
  · exact otherwise

theorem eq_value_of_get {field : JsonField α} {a : α} (read : field.get = some a) :
    field = .value a := by
  cases field with
  | absent => cases read
  | null => cases read
  | value b =>
      cases read
      rfl

theorem present_of_get {field : JsonField α} {a : α} (given : field.get = some a) :
    field.present = true := by
  rw [eq_value_of_get given]
  rfl

@[simp] theorem get_ofOption (a : Option α) : (ofOption a).get = a := by
  cases a <;> rfl

end JsonField

/-- What a handler answers. An exception that it lets through is answered with 500. -/
inductive Reply (β : Type) where
  | ok (status : Nat) (body : β)
  | error (status : Nat) (message : String) (details : List (String × String))
  | raised
  deriving DecidableEq, Repr

namespace Reply

variable {β : Type}

def status : Reply β → Nat
  | .ok status _ => status
  | .error status _ _ => status
  | .raised => 500

/-- The answer is an error. -/
def failed : Reply β → Bool
  | .ok _ _ => false
  | .error _ _ _ | .raised => true

/-- `res.ok` of a fetched response. -/
def fetchOk (reply : Reply β) : Bool := 200 ≤ reply.status && reply.status < 300

theorem fetchOk_of_status {reply : Reply β} (answered : reply.status = 201) :
    reply.fetchOk = true := by
  rw [fetchOk, answered]
  rfl

theorem status_ne_created {reply : Reply β} (failed : reply.fetchOk = false) :
    reply.status ≠ 201 := by
  intro answered
  rw [fetchOk_of_status answered] at failed
  cases failed

theorem status_ne_ok {reply : Reply β} (failed : reply.fetchOk = false) : reply.status ≠ 200 := by
  intro answered
  rw [fetchOk, answered] at failed
  cases failed

/-- The text under the key `error` of the answered body. -/
def errorText : Reply β → Option String
  | .error _ message _ => some message
  | _ => none

end Reply

structure Keyspace (V : Type) where
  get : String → Option V

namespace Keyspace

variable {V : Type}

def empty : Keyspace V := ⟨fun _ => none⟩

def set (space : Keyspace V) (name : String) (v : V) : Keyspace V :=
  ⟨fun other => if other = name then some v else space.get other⟩

def delete (space : Keyspace V) (name : String) : Keyspace V :=
  ⟨fun other => if other = name then none else space.get other⟩

@[simp] theorem get_set (space : Keyspace V) (name other : String) (v : V) :
    (space.set name v).get other = if other = name then some v else space.get other := rfl

@[simp] theorem get_delete (space : Keyspace V) (name other : String) :
    (space.delete name).get other = if other = name then none else space.get other := rfl

def deleteAll (space : Keyspace V) (names : List String) : Keyspace V :=
  names.foldl delete space

@[simp] theorem deleteAll_nil (space : Keyspace V) : space.deleteAll [] = space := rfl

@[simp] theorem deleteAll_cons (space : Keyspace V) (name : String) (names : List String) :
    space.deleteAll (name :: names) = (space.delete name).deleteAll names := rfl

theorem get_deleteAll (space : Keyspace V) (names : List String) (other : String) :
    (space.deleteAll names).get other = if other ∈ names then none else space.get other := by
  induction names generalizing space with
  | nil => simp
  | cons name names ih =>
      rw [deleteAll_cons, ih, get_delete]
      by_cases here : other = name
      · simp [here]
      · simp [here]

end Keyspace

section KeyNames

private theorem digits_of_number (n : Nat) : (toString n).toList = Nat.toDigits 10 n := by
  rw [Nat.toString_eq_repr, Nat.toList_repr]

theorem isDigit_of_mem_number {n : Nat} {c : Char} (member : c ∈ (toString n).toList) :
    c.isDigit = true := by
  rw [digits_of_number] at member
  exact Nat.isDigit_of_mem_toDigits (by decide) (by decide) member

private theorem number_injective {m n : Nat} (same : (toString m).toList = (toString n).toList) :
    m = n := by
  rw [digits_of_number, digits_of_number] at same
  have read := congrArg (fun digits => Nat.ofDigitChars 10 digits 0) same
  simpa only [Nat.ofDigitChars_ten_toDigits] using read

theorem number_nonempty (n : Nat) : (toString n).toList ≠ [] := by
  rw [digits_of_number]
  exact List.ne_nil_of_length_pos Nat.length_toDigits_pos

@[simp] theorem ofDigitChars_number (n : Nat) :
    Nat.ofDigitChars 10 (toString n).toList 0 = n := by
  rw [digits_of_number, Nat.ofDigitChars_ten_toDigits]

/-- The number that a text of digits spells. -/
def readNat (text : String) : Option Nat :=
  if text.toList ≠ [] ∧ text.toList.all Char.isDigit then
    some (Nat.ofDigitChars 10 text.toList 0)
  else none

@[simp] theorem readNat_toString (n : Nat) : readNat (toString n) = some n := by
  have digits : (toString n).toList.all Char.isDigit = true :=
    List.all_eq_true.mpr fun _ member => isDigit_of_mem_number member
  rw [readNat, if_pos ⟨number_nonempty n, digits⟩, ofDigitChars_number]

/-- A printed number holds no character other than digits. -/
theorem notMem_number {n : Nat} {c : Char} (separator : c.isDigit = false) :
    c ∉ (toString n).toList := by
  intro member
  rw [isDigit_of_mem_number member] at separator
  cases separator

theorem number_ne_empty (n : Nat) : toString n ≠ "" := by
  intro empty
  exact number_nonempty n (by rw [empty]; rfl)

/-- Two numbers printed after a common head and separated by a colon can be read back. -/
theorem colon_separated_injective (head : String) {i u j v : Nat}
    (same : head ++ toString i ++ ":" ++ toString u = head ++ toString j ++ ":" ++ toString v) :
    i = j ∧ u = v := by
  have chars := congrArg String.toList same
  simp only [String.toList_append, List.append_assoc, List.append_cancel_left_eq] at chars
  have colon : Char.isDigit ':' = false := by decide
  have parts := (List.append_cons_inj_of_notMem (notMem_number colon)
    (notMem_number colon)).mp chars
  exact ⟨number_injective parts.1, number_injective parts.2.2⟩

/-- A name that ends in a printed number is no name that ends in another character. -/
theorem numbered_ne_suffixed (head name suffix : String) (n : Nat) {stem : List Char} {c : Char}
    (shape : suffix.toList = stem ++ [c]) (letter : c.isDigit = false) :
    head ++ toString n ≠ name ++ suffix := by
  intro same
  have chars := congrArg (fun s => s.toList.getLast?) same
  simp only [String.toList_append, shape, List.getLast?_append] at chars
  have nonempty := number_nonempty n
  rw [List.getLast?_eq_some_getLast nonempty] at chars
  have last : (toString n).toList.getLast nonempty = c := by simpa using chars
  have digit := isDigit_of_mem_number (List.getLast_mem nonempty)
  rw [last, letter] at digit
  cases digit

end KeyNames

end ProductSite.Foundation.Wire
