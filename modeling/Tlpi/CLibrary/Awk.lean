import Mathlib.Algebra.Field.Rat
import Mathlib.Data.List.TakeWhile
import Tlpi.CLibrary.Strtol
import Tlpi.Foundations.Fields
import Tlpi.Foundations.Segments

namespace Tlpi
namespace CLibrary
namespace Awk

open Foundations

universe u

/-!
# Records, values and arrays of `awk`

A program in `awk` is run once for each line of its input.  The fields of a line are
the words between blanks.  A field that looks like a number is compared as a number with
another such field or with a number, and as a text with anything else.  Numbers are exact
here, where those of `awk` have some fifteen digits.
-/

/-- The records of an input, without their newlines. -/
def records (input : List Byte) : List (List Byte) :=
  (segments (· == newline) input).map (fun line => line.takeWhile (· != newline))

/-- What separates the fields of a record. -/
def isBlank (byte : Byte) : Bool := byte == 32 || byte == 9 || byte == newline

/-- The exponent that may end a number. -/
def exponent (text : List Byte) : Option Int :=
  match text with
  | [] => some 0
  | mark :: rest =>
      let signed := strtolSign rest
      if (mark = 101 ∨ mark = 69) ∧ IsNumeral 10 signed.2 then
        some (if signed.1 then -numeralValue 10 signed.2 else numeralValue 10 signed.2)
      else none

/-- The number that a text looks like: a decimal numeral, which may have a sign, a
fraction and an exponent. -/
def number (text : List Byte) : Option Rat :=
  let signed := strtolSign text
  let whole := signed.2.takeWhile (isDigit 10)
  let behind := signed.2.dropWhile (isDigit 10)
  let fraction := match behind with
    | 46 :: digits => digits.takeWhile (isDigit 10)
    | _ => []
  let rest := match behind with
    | 46 :: digits => digits.dropWhile (isDigit 10)
    | _ => behind
  if whole = [] ∧ fraction = [] then none
  else
    (exponent rest).map (fun (power : Int) =>
      (if signed.1 then -1 else 1) * (numeralValue 10 (whole ++ fraction) : Rat) *
        (10 : Rat) ^ (power - (fraction.length : Int)))

/-- A value, with the number that it counts as, if it does. -/
structure Value where
  text : List Byte
  number : Option Rat
deriving DecidableEq

namespace Value

def ofInt (value : Int) : Value := ⟨renderInt value, some value⟩

/-- A field of a record; one that the record does not have is empty and counts as zero. -/
def field (fields : List (List Byte)) (index : Nat) : Value :=
  match fields[index - 1]? with
  | some text => ⟨text, Awk.number text⟩
  | none => ⟨[], some 0⟩

/-- `first == second`. -/
def same (first second : Value) : Bool :=
  match first.number, second.number with
  | some left, some right => left = right
  | _, _ => first.text = second.text

theorem same_of_numbers {first second : Value} {left right : Rat} (firstIs : first.number = some left)
    (secondIs : second.number = some right) : first.same second = decide (left = right) := by
  unfold same
  rw [firstIs, secondIs]

end Value

/-- An array of counters: the keys that have been used, with their values. -/
abbrev Counters (Key : Type u) := List (Key × Nat)

namespace Counters

variable {Key : Type u} [DecidableEq Key]

def increment (key : Key) : Counters Key -> Counters Key
  | [] => [(key, 1)]
  | (other, count) :: rest =>
      if other = key then (other, count + 1) :: rest else (other, count) :: increment key rest

/-- `array[key]`; a key that has not been used counts as zero. -/
def value (counters : Counters Key) (key : Key) : Nat :=
  match counters with
  | [] => 0
  | (other, count) :: rest => if other = key then count else value rest key

theorem value_increment (counters : Counters Key) (key other : Key) :
    value (increment key counters) other =
      value counters other + if key = other then 1 else 0 := by
  induction counters with
  | nil => simp [increment, value]
  | cons head tail inductionHypothesis =>
      rcases head with ⟨first, count⟩
      unfold increment
      by_cases isKey : first = key
      · subst isKey
        by_cases isOther : first = other
        · simp [value, isOther]
        · simp [value, isOther]
      · rw [if_neg isKey]
        by_cases isOther : first = other
        · subst isOther
          simp [value, Ne.symm isKey]
        · simp [value, isOther, inductionHypothesis]

end Counters

/-- A line is the first record of an input that begins with it. -/
theorem records_line {line : List Byte} (noNewline : forall byte, byte ∈ line -> byte ≠ newline)
    (rest : List Byte) : records (line ++ newline :: rest) = line :: records rest := by
  have noStop : forall byte, byte ∈ line -> (byte == newline) = false :=
    fun byte member => beq_eq_false_iff_ne.mpr (noNewline byte member)
  have kept : forall byte, byte ∈ line -> (byte != newline) = true :=
    fun byte member => bne_iff_ne.mpr (noNewline byte member)
  have stripped : (line ++ [newline]).takeWhile (· != newline) = line := by
    rw [List.takeWhile_append_of_pos kept]
    exact List.append_nil line
  unfold records
  rw [segments_append_cons noStop (beq_self_eq_true newline), List.map_cons, stripped]

/-- A numeral counts as the number that it denotes. -/
theorem number_renderNat (value : Nat) : number (renderNat value) = some (value : Rat) := by
  have isNumeral := renderNat_isNumeral value
  have unsigned : strtolSign (renderNat value) = (false, renderNat value) := by
    cases text : renderNat value with
    | nil => rfl
    | cons first rest =>
        have digit := isNumeral.2 first (by rw [text]; exact List.mem_cons_self)
        have notSign := (not_isSpace_of_isDigit digit).2
        exact strtolSign_of_unsigned notSign.1 notSign.2
  have whole : (renderNat value).takeWhile (isDigit 10) = renderNat value :=
    List.takeWhile_eq_self_iff.mpr isNumeral.2
  have behind : (renderNat value).dropWhile (isDigit 10) = [] :=
    List.dropWhile_eq_nil_iff.mpr isNumeral.2
  unfold number
  simp only [unsigned, whole, behind]
  rw [if_neg (fun empty => isNumeral.1 empty.1), List.append_nil, numeralValue_renderNat]
  simp [exponent]

end Awk
end CLibrary
end Tlpi
