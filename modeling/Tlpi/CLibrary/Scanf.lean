import Mathlib.Data.List.TakeWhile
import Tlpi.CLibrary.Strtol
import Tlpi.Foundations.Fields

namespace Tlpi
namespace CLibrary

open Foundations

/-!
# Formatted input from a string

`sscanf` works through its format and stops at the first conversion that fails.  A
conversion of a number skips white space, takes what `strtol` would take and fails
when there is no digit; `%c` takes the next character, whatever it is.  White space
in the format matches any amount of white space, also none, so nothing has to
separate one conversion from the next.  A number that is too large for `long long`
is clamped to it; `%d` reads a `long` and narrows it to `int`.
-/

/-- The parts of a format. -/
inductive Directive where
  | blank
  | char
  | int
  | longLong
deriving DecidableEq, Repr

/-- What a conversion stores. -/
inductive Value where
  | char (byte : Byte)
  | number (value : Int)
deriving DecidableEq, Repr

/-- The character stored; numbers are stored elsewhere. -/
def Value.toByte : Value -> Byte
  | .char byte => byte
  | .number _ => 0

/-- The number stored; characters are stored elsewhere. -/
def Value.toNumber : Value -> Int
  | .char _ => 0
  | .number value => value

/-- The values stored, in order, and whether the text ran out. -/
structure Scanned where
  values : List Value
  exhausted : Bool
deriving DecidableEq, Repr

/-- A successful conversion before the others. -/
def Scanned.after (value : Value) (later : Scanned) : Scanned :=
  ⟨value :: later.values, later.exhausted⟩

/-- The value `sscanf` returns. -/
def Scanned.numRead (scanned : Scanned) : Int :=
  if scanned.values = [] ∧ scanned.exhausted = true then -1 else scanned.values.length

/-- The conversion of a number: its value and the text behind it. -/
def scanInteger (text : List Byte) : Option (Int × List Byte) :=
  let converted := strtol text 10
  if converted.rest = text then none else some (converted.value, converted.rest)

/-- `sscanf(text, format, ...)`. -/
def sscanf : List Directive -> List Byte -> Scanned
  | [], _ => ⟨[], false⟩
  | .blank :: format, text => sscanf format (text.dropWhile isSpace)
  | .char :: format, text =>
      match text with
      | [] => ⟨[], true⟩
      | byte :: rest => (sscanf format rest).after (.char byte)
  | .int :: format, text =>
      match scanInteger text with
      | none => ⟨[], (text.dropWhile isSpace).isEmpty⟩
      | some (value, rest) => (sscanf format rest).after (.number (toInt value))
  | .longLong :: format, text =>
      match scanInteger text with
      | none => ⟨[], (text.dropWhile isSpace).isEmpty⟩
      | some (value, rest) => (sscanf format rest).after (.number value)

/-- The number that a field denotes: a decimal numeral, perhaps with a sign. -/
def signedDecimal (field : List Byte) : Option Int :=
  match field with
  | 43 :: digits => if IsNumeral 10 digits then some (numeralValue 10 digits : Int) else none
  | _ => denotedInt field

/-- A number that `long long` can hold. -/
def longLong (field : List Byte) : Option Int :=
  (signedDecimal field).filter (fun value => LONG_MIN ≤ value ∧ value ≤ LONG_MAX)

theorem longLong_eq_some {field : List Byte} {value : Int} (denoted : longLong field = some value) :
    signedDecimal field = some value ∧ LONG_MIN ≤ value ∧ value ≤ LONG_MAX := by
  rcases Option.filter_eq_some_iff.mp denoted with ⟨isNumber, range⟩
  exact ⟨isNumber, decide_eq_true_eq.mp range⟩

/-- A field that denotes a number is a numeral behind its sign. -/
theorem signedDecimal_eq_some {field : List Byte} {value : Int}
    (denoted : signedDecimal field = some value) :
    Exists fun negative => Exists fun digits => IsNumeral 10 digits ∧
      (forall after, strtolSign (field ++ after) = (negative, digits ++ after)) ∧
      value = if negative then -(numeralValue 10 digits : Int) else numeralValue 10 digits := by
  unfold signedDecimal at denoted
  split at denoted
  · rename_i digits
    split at denoted
    · rename_i isNumeral
      cases denoted
      exact ⟨false, digits, isNumeral, fun _ => rfl, rfl⟩
    · cases denoted
  · unfold denotedInt at denoted
    split at denoted
    · rename_i digits _
      split at denoted
      · rename_i isNumeral
        cases denoted
        exact ⟨true, digits, isNumeral, fun _ => rfl, rfl⟩
      · cases denoted
    · split at denoted
      · rename_i isNumeral
        cases denoted
        refine ⟨false, field, isNumeral, ?_, rfl⟩
        intro after
        cases field with
        | nil => exact absurd rfl isNumeral.1
        | cons first rest =>
            have unsigned := not_isSpace_of_isDigit (isNumeral.2 first List.mem_cons_self)
            exact strtolSign_of_unsigned unsigned.2.1 unsigned.2.2
      · cases denoted

/-- `strtol` on a numeral behind a sign stops behind the numeral, with its value if
`long` can hold it. -/
theorem strtol_signed {text digits after : List Byte} {negative : Bool}
    (signed : strtolSign (text.dropWhile isSpace) = (negative, digits ++ after))
    (isNumeral : IsNumeral 10 digits) (ends : fieldEnds isSpace after = true)
    (low : LONG_MIN ≤ if negative then -(numeralValue 10 digits : Int) else numeralValue 10 digits)
    (high : (if negative then -(numeralValue 10 digits : Int) else numeralValue 10 digits) ≤ LONG_MAX) :
    strtol text 10 =
      ⟨if negative then -(numeralValue 10 digits : Int) else numeralValue 10 digits, after, false⟩ := by
  have noDigit : forall first rest, after = first :: rest -> isDigit 10 first = false := by
    intro first rest same
    rw [same] at ends
    apply Bool.eq_false_iff.mpr
    intro digit
    have space := (not_isSpace_of_isDigit digit).1
    rw [show isSpace first = true from ends] at space
    cases space
  have noDigits : after.takeWhile (isDigit 10) = [] ∧ after.dropWhile (isDigit 10) = after := by
    cases after with
    | nil => exact ⟨rfl, rfl⟩
    | cons first rest =>
        rw [List.takeWhile_cons, List.dropWhile_cons, noDigit first rest rfl]
        exact ⟨rfl, rfl⟩
  unfold strtol
  rw [signed]
  simp only [strtolBase_ten, List.takeWhile_append_of_pos isNumeral.2,
    List.dropWhile_append_of_pos isNumeral.2, noDigits.1, noDigits.2, List.append_nil]
  rw [if_neg isNumeral.1, if_neg (Int.not_lt.mpr high), if_neg (Int.not_lt.mpr low)]

theorem dropWhile_isSpace {blanks : List Byte}
    (allBlank : forall byte, byte ∈ blanks -> isSpace byte = true) {field : List Byte}
    (nonempty : field ≠ []) (noBlank : forall byte, byte ∈ field -> isSpace byte = false)
    (after : List Byte) : (blanks ++ (field ++ after)).dropWhile isSpace = field ++ after := by
  rw [List.dropWhile_append_of_pos allBlank]
  cases field with
  | nil => exact absurd rfl nonempty
  | cons first rest =>
      rw [List.cons_append, List.dropWhile_cons, noBlank first List.mem_cons_self]
      rfl

/-- A number between blanks is converted as a whole. -/
theorem scanInteger_field {blanks field after : List Byte} {value : Int}
    (allBlank : forall byte, byte ∈ blanks -> isSpace byte = true) (nonempty : field ≠ [])
    (noBlank : forall byte, byte ∈ field -> isSpace byte = false)
    (ends : fieldEnds isSpace after = true) (denoted : longLong field = some value) :
    scanInteger (blanks ++ (field ++ after)) = some (value, after) := by
  rcases longLong_eq_some denoted with ⟨isNumber, low, high⟩
  rcases signedDecimal_eq_some isNumber with ⟨negative, digits, isNumeral, signed, valueEq⟩
  have skipped := dropWhile_isSpace allBlank nonempty noBlank after
  have converted := @strtol_signed (blanks ++ (field ++ after)) _ _ _ (by rw [skipped]; exact signed after)
    isNumeral ends (valueEq ▸ low) (valueEq ▸ high)
  have shorter : after ≠ blanks ++ (field ++ after) := by
    intro same
    have lengths := congrArg List.length same
    have positive := List.length_pos_iff.mpr nonempty
    rw [List.length_append, List.length_append] at lengths
    omega
  unfold scanInteger
  rw [converted]
  simp only [if_neg shorter, valueEq]

/-- The kind of value that a directive stores, if it stores one: whether it is a character. -/
def Directive.stores : Directive -> Option Bool
  | .blank => none
  | .char => some true
  | .int => some false
  | .longLong => some false

def Value.isChar : Value -> Bool
  | .char _ => true
  | .number _ => false

theorem Value.eq_char {value : Value} (isChar : value.isChar = true) :
    Exists fun byte => value = .char byte := by
  cases value with
  | char byte => exact ⟨byte, rfl⟩
  | number number => cases isChar

theorem Value.eq_number {value : Value} (isNumber : value.isChar = false) :
    Exists fun number => value = .number number := by
  cases value with
  | char byte => cases isNumber
  | number number => exact ⟨number, rfl⟩

/-- The values stored are of the kinds that the format stores first. -/
theorem sscanf_kinds (format : List Directive) (text : List Byte) :
    (sscanf format text).values.map Value.isChar <+: format.filterMap Directive.stores := by
  induction format generalizing text with
  | nil => exact List.nil_prefix
  | cons directive format inductionHypothesis =>
      cases directive with
      | blank => exact inductionHypothesis (text.dropWhile isSpace)
      | char =>
          cases text with
          | nil => exact List.nil_prefix
          | cons byte rest => exact (List.prefix_cons_inj true).mpr (inductionHypothesis rest)
      | int =>
          unfold sscanf
          split
          · exact List.nil_prefix
          · exact (List.prefix_cons_inj false).mpr (inductionHypothesis _)
      | longLong =>
          unfold sscanf
          split
          · exact List.nil_prefix
          · exact (List.prefix_cons_inj false).mpr (inductionHypothesis _)

/-!
A format whose conversions each meet the field that is meant for them.
-/

variable {format : List Directive} {blanks field after : List Byte}

/-- White space and `%c` on a field of one character. -/
theorem sscanf_char_field {byte : Byte}
    (allBlank : forall blank, blank ∈ blanks -> isSpace blank = true) (noBlank : isSpace byte = false) :
    sscanf (.blank :: .char :: format) (blanks ++ ([byte] ++ after)) =
      (sscanf format after).after (.char byte) := by
  have skipped := dropWhile_isSpace allBlank (List.cons_ne_nil byte []) (fun other member => by
    rw [List.mem_singleton.mp member]
    exact noBlank) after
  simp only [sscanf, skipped]
  rfl

theorem sscanf_char_blanks (allBlank : forall blank, blank ∈ blanks -> isSpace blank = true) :
    sscanf (.blank :: .char :: format) blanks = ⟨[], true⟩ := by
  have skipped := List.dropWhile_eq_nil_iff.mpr allBlank
  simp only [sscanf, skipped]

theorem sscanf_longLong_field {value : Int}
    (allBlank : forall byte, byte ∈ blanks -> isSpace byte = true) (nonempty : field ≠ [])
    (noBlank : forall byte, byte ∈ field -> isSpace byte = false)
    (ends : fieldEnds isSpace after = true) (denoted : longLong field = some value) :
    sscanf (.blank :: .longLong :: format) (blanks ++ (field ++ after)) =
      (sscanf format after).after (.number value) := by
  have skipped := dropWhile_isSpace allBlank nonempty noBlank after
  have converted : scanInteger ([] ++ (field ++ after)) = some (value, after) :=
    scanInteger_field (fun byte member => absurd member List.not_mem_nil) nonempty noBlank ends denoted
  rw [List.nil_append] at converted
  simp only [sscanf, skipped, converted]

theorem sscanf_int_field {value : Int}
    (allBlank : forall byte, byte ∈ blanks -> isSpace byte = true) (nonempty : field ≠ [])
    (noBlank : forall byte, byte ∈ field -> isSpace byte = false)
    (ends : fieldEnds isSpace after = true) (denoted : longLong field = some value) :
    sscanf (.int :: format) (blanks ++ (field ++ after)) =
      (sscanf format after).after (.number (toInt value)) := by
  have converted := scanInteger_field allBlank nonempty noBlank ends denoted
  simp only [sscanf, converted]

end CLibrary
end Tlpi
