import Tlpi.CLibrary.Integers
import Tlpi.CLibrary.Memory
import Tlpi.Foundations.Numerals

namespace Tlpi
namespace CLibrary

open Foundations

/-!
# Number conversion and formatting in the C library

`strtol` skips white space, takes an optional sign and the longest numeral of
its base, clamps a value outside `long`, and reports where it stopped.  It is
modelled for the C locale on the bytes before the terminating null.  `atoi` is
the narrowing of a decimal `strtol` to `int`, without any error report.
-/

/-- The bytes of an ASCII text. -/
def ascii (text : String) : List Byte := text.toList.map (fun char => UInt8.ofNat char.toNat)

/-- The bytes of a name as text, for a diagnostic. -/
def textOf (bytes : List Byte) : String :=
  String.ofList (bytes.map (fun byte => Char.ofNat byte.toNat))

/-- `snprintf(buffer, size, ...)`: the formatted text, cut so that a terminating
null byte still fits. -/
def snprintf (size : Nat) (text : List Byte) : List Byte := text.take (size - 1)

/-- `isspace` in the C locale. -/
def isSpace (byte : Byte) : Bool := byte == 32 || (9 ≤ byte && byte ≤ 13)

/-- The value, the text at `*endptr`, and whether `errno` was set to `ERANGE`. -/
structure StrtolResult where
  value : Int
  rest : List Byte
  erange : Bool
deriving DecidableEq, Repr

/-- The optional sign: whether it is a minus, and the text after it. -/
def strtolSign (text : List Byte) : Bool × List Byte :=
  match text with
  | 45 :: rest => (true, rest)
  | 43 :: rest => (false, rest)
  | rest => (false, rest)

/-- The base actually used, and the text from which digits are taken.  A prefix
`0x` counts only before a hexadecimal digit; otherwise its zero is the number. -/
def strtolBase (base : Nat) (text : List Byte) : Nat × List Byte :=
  match text with
  | 48 :: mark :: digit :: rest =>
      if (base = 0 ∨ base = 16) ∧ (mark = 120 ∨ mark = 88) ∧ isDigit 16 digit = true then
        (16, digit :: rest)
      else if base = 0 then (8, text) else (base, text)
  | 48 :: _ => if base = 0 then (8, text) else (base, text)
  | _ => if base = 0 then (10, text) else (base, text)

/-- `strtol(text, &endptr, base)`. -/
def strtol (text : List Byte) (base : Nat) : StrtolResult :=
  let signed := strtolSign (text.dropWhile isSpace)
  let based := strtolBase base signed.2
  let digits := based.2.takeWhile (isDigit based.1)
  let rest := based.2.dropWhile (isDigit based.1)
  let magnitude : Int := numeralValue based.1 digits
  let value := if signed.1 then -magnitude else magnitude
  if digits = [] then ⟨0, text, false⟩
  else if LONG_MAX < value then ⟨LONG_MAX, rest, true⟩
  else if value < LONG_MIN then ⟨LONG_MIN, rest, true⟩
  else ⟨value, rest, false⟩

/-- `atoi(text)`, which is `(int) strtol(text, NULL, 10)`. -/
def atoi (text : List Byte) : Int := toInt (strtol text 10).value

/-- A decimal digit is no white space and no sign. -/
theorem not_isSpace_of_isDigit {byte : Byte} (digit : isDigit 10 byte = true) :
    isSpace byte = false ∧ byte ≠ 45 ∧ byte ≠ 43 := by
  have range := (isDigit_ten_iff byte).mp digit
  have differs : forall other : Byte, other.toNat < 48 -> byte ≠ other := by
    intro other small same
    rw [same] at range
    omega
  refine ⟨?_, differs 45 (by decide), differs 43 (by decide)⟩
  have notBlank : (byte == 32) = false := beq_eq_false_iff_ne.mpr (differs 32 (by decide))
  have notControl : ¬ byte ≤ 13 := by
    rw [UInt8.le_iff_toNat_le]
    simp only [UInt8.reduceToNat]
    omega
  simp only [isSpace, notBlank, decide_eq_false notControl, Bool.and_false, Bool.or_false]

theorem strtolSign_of_unsigned {first : Byte} {rest : List Byte} (notMinus : first ≠ 45)
    (notPlus : first ≠ 43) : strtolSign (first :: rest) = (false, first :: rest) := by
  unfold strtolSign
  split
  · rename_i same
    exact absurd (List.cons.inj same).1 notMinus
  · rename_i same
    exact absurd (List.cons.inj same).1 notPlus
  · rfl

theorem strtolBase_ten (text : List Byte) : strtolBase 10 text = (10, text) := by
  unfold strtolBase
  split <;> simp

/-- On a decimal numeral followed by something that is no digit, `strtol`
returns the value of the numeral, or `LONG_MAX` if that is too large. -/
theorem strtol_numeral {numeral after : List Byte} (isNumeral : IsNumeral 10 numeral)
    (ends : forall byte rest, after = byte :: rest -> isDigit 10 byte = false) :
    (strtol (numeral ++ after) 10).value = min (numeralValue 10 numeral : Int) LONG_MAX := by
  rcases numeral with _ | ⟨first, rest⟩
  · exact absurd rfl isNumeral.1
  · have unsigned := not_isSpace_of_isDigit (isNumeral.2 first List.mem_cons_self)
    have noDigits : after.takeWhile (isDigit 10) = [] := by
      cases after with
      | nil => rfl
      | cons byte others => rw [List.takeWhile_cons, ends byte others rfl]; rfl
    have taken : ((first :: rest) ++ after).takeWhile (isDigit 10) = first :: rest := by
      rw [List.takeWhile_append_of_pos isNumeral.2, noDigits, List.append_nil]
    have skipped : ((first :: rest) ++ after).dropWhile isSpace = (first :: rest) ++ after := by
      rw [List.cons_append, List.dropWhile_cons, unsigned.1]
      rfl
    have signed : strtolSign ((first :: rest) ++ after) = (false, (first :: rest) ++ after) :=
      strtolSign_of_unsigned unsigned.2.1 unsigned.2.2
    unfold strtol
    rw [skipped, signed]
    simp only [strtolBase_ten, taken]
    rw [if_neg (List.cons_ne_nil first rest)]
    have notBelow : ¬ (numeralValue 10 (first :: rest) : Int) < LONG_MIN := by
      unfold LONG_MIN
      omega
    by_cases large : LONG_MAX < (numeralValue 10 (first :: rest) : Int)
    · simp only [Bool.false_eq_true, if_false, if_pos large]
      omega
    · simp only [Bool.false_eq_true, if_false, if_neg large, if_neg notBelow]
      omega

end CLibrary
end Tlpi
