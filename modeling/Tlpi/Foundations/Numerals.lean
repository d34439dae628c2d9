import Mathlib.Data.List.Induction
import Mathlib.Tactic.IntervalCases
import Mathlib.Tactic.Linarith
import Mathlib.Tactic.Ring

namespace Tlpi
namespace Foundations

/-!
# Positional numerals as bytes

Bytes denote digits as in ASCII: the ten decimal digits, then the letters of
either case from ten to thirty-five.  A numeral in a base is read from its most
significant digit.  The decimal numeral of a natural number, and the signed
decimal numeral of an integer, are written without leading zeros; reading undoes
writing, so distinct integers have distinct numerals.
-/

/-- The digit a byte stands for; 36, which is no digit of any base up to 36,
when it stands for none. -/
def digitValue (byte : UInt8) : Nat :=
  if 48 ≤ byte ∧ byte ≤ 57 then byte.toNat - 48
  else if 97 ≤ byte ∧ byte ≤ 122 then byte.toNat - 87
  else if 65 ≤ byte ∧ byte ≤ 90 then byte.toNat - 55
  else 36

def isDigit (base : Nat) (byte : UInt8) : Bool := decide (digitValue byte < base)

/-- A numeral: at least one digit, and nothing else. -/
def IsNumeral (base : Nat) (bytes : List UInt8) : Prop :=
  bytes ≠ [] ∧ forall byte, byte ∈ bytes -> isDigit base byte = true

instance (base : Nat) : DecidablePred (IsNumeral base) := fun bytes =>
  decidable_of_iff (bytes ≠ [] ∧ bytes.all (isDigit base) = true) (by simp [IsNumeral])

/-- The value of a digit string, most significant digit first. -/
def numeralValue (base : Nat) (bytes : List UInt8) : Nat :=
  bytes.foldl (fun value byte => base * value + digitValue byte) 0

/-- The byte of a decimal digit. -/
def digitByte (digit : Nat) : UInt8 := UInt8.ofNat (48 + digit)

def renderNat (value : Nat) : List UInt8 :=
  (Nat.toDigits 10 value).map (fun char => UInt8.ofNat char.toNat)

/-- The decimal numeral of an integer, with a minus sign before a negative one. -/
def renderInt (value : Int) : List UInt8 :=
  if value < 0 then 45 :: renderNat value.natAbs else renderNat value.natAbs

/-- The integer that a signed decimal numeral denotes, if it is one. -/
def denotedInt (bytes : List UInt8) : Option Int :=
  match bytes with
  | 45 :: rest => if IsNumeral 10 rest then some (-(numeralValue 10 rest : Int)) else none
  | unsigned => if IsNumeral 10 unsigned then some (numeralValue 10 unsigned : Int) else none

theorem isDigit_ten_iff (byte : UInt8) :
    isDigit 10 byte = true <-> 48 ≤ byte.toNat ∧ byte.toNat ≤ 57 := by
  simp only [isDigit, digitValue, decide_eq_true_eq, UInt8.le_iff_toNat_le, UInt8.reduceToNat]
  split_ifs <;> omega

@[simp] theorem numeralValue_nil (base : Nat) : numeralValue base [] = 0 := rfl

/-- The positional law: the first part counts once for each digit after it. -/
theorem numeralValue_append (base : Nat) (first second : List UInt8) :
    numeralValue base (first ++ second) =
      numeralValue base first * base ^ second.length + numeralValue base second := by
  induction second using List.reverseRecOn with
  | nil => simp
  | append_singleton front last inductionHypothesis =>
      rw [← List.append_assoc]
      unfold numeralValue at *
      rw [List.foldl_append, inductionHypothesis, List.foldl_append, List.length_append,
        List.length_singleton, pow_succ]
      simp only [List.foldl_cons, List.foldl_nil]
      ring

/-- Cutting at least one digit off divides the value by at least the base. -/
theorem numeralValue_take_le {base : Nat} (positive : 0 < base) {bytes : List UInt8} {count : Nat}
    (short : count < bytes.length) :
    base * numeralValue base (bytes.take count) ≤ numeralValue base bytes := by
  have dropped : 1 ≤ (bytes.drop count).length := by
    rw [List.length_drop]
    omega
  calc
    base * numeralValue base (bytes.take count) =
        numeralValue base (bytes.take count) * base ^ 1 := by rw [pow_one, Nat.mul_comm]
    _ ≤ numeralValue base (bytes.take count) * base ^ (bytes.drop count).length :=
      Nat.mul_le_mul_left _ (Nat.pow_le_pow_right positive dropped)
    _ ≤ numeralValue base (bytes.take count ++ bytes.drop count) := by
      rw [numeralValue_append]
      exact Nat.le_add_right _ _
    _ = numeralValue base bytes := by rw [List.take_append_drop]

theorem numeralValue_singleton (base : Nat) (byte : UInt8) :
    numeralValue base [byte] = digitValue byte := by
  simp [numeralValue]

theorem digitValue_digitByte {digit : Nat} (small : digit < 10) :
    digitValue (digitByte digit) = digit := by
  interval_cases digit <;> rfl

theorem isDigit_digitByte {digit : Nat} (small : digit < 10) :
    isDigit 10 (digitByte digit) = true := by
  interval_cases digit <;> rfl

/-- The last digit is the remainder by ten; the digits before it are those of
the quotient. -/
theorem renderNat_eq (value : Nat) :
    renderNat value =
      if value < 10 then [digitByte value]
      else renderNat (value / 10) ++ [digitByte (value % 10)] := by
  have digit : forall digit, digit < 10 ->
      UInt8.ofNat (Nat.digitChar digit).toNat = digitByte digit := by
    intro digit small
    interval_cases digit <;> rfl
  unfold renderNat
  rw [Nat.toDigits_eq_if (by decide)]
  by_cases small : value < 10
  · rw [if_pos small, if_pos small, List.map_singleton, digit value small]
  · rw [if_neg small, if_neg small, List.map_append, List.map_singleton,
      digit _ (Nat.mod_lt _ (by decide))]

/-- Writing and reading a natural number in decimal. -/
theorem numeralValue_renderNat (value : Nat) : numeralValue 10 (renderNat value) = value := by
  induction value using Nat.strong_induction_on with
  | _ value inductionHypothesis =>
      rw [renderNat_eq]
      by_cases small : value < 10
      · rw [if_pos small, numeralValue_singleton, digitValue_digitByte small]
      · rw [if_neg small, numeralValue_append, inductionHypothesis _ (by omega),
          numeralValue_singleton, digitValue_digitByte (Nat.mod_lt _ (by decide)),
          List.length_singleton, pow_one]
        omega

theorem renderNat_isNumeral (value : Nat) : IsNumeral 10 (renderNat value) := by
  induction value using Nat.strong_induction_on with
  | _ value inductionHypothesis =>
      rw [renderNat_eq]
      by_cases small : value < 10
      · rw [if_pos small]
        refine ⟨List.cons_ne_nil _ _, ?_⟩
        intro byte member
        rw [List.mem_singleton.mp member]
        exact isDigit_digitByte small
      · rw [if_neg small]
        have quotient := inductionHypothesis (value / 10) (by omega)
        refine ⟨List.append_ne_nil_of_right_ne_nil _ (List.cons_ne_nil _ _), ?_⟩
        intro byte member
        rcases List.mem_append.mp member with early | last
        · exact quotient.2 byte early
        · rw [List.mem_singleton.mp last]
          exact isDigit_digitByte (Nat.mod_lt _ (by decide))

/-- The first digits of a number, if they are not all of them, are another number. -/
theorem numeralValue_take_renderNat_ne {value count : Nat} (positive : 0 < count)
    (short : count < (renderNat value).length) :
    numeralValue 10 ((renderNat value).take count) ≠ value := by
  intro same
  have smaller := numeralValue_take_le (by decide : 0 < 10) short
  rw [same, numeralValue_renderNat] at smaller
  have zero : value = 0 := by omega
  rw [zero, renderNat_eq, if_pos (by decide), List.length_singleton] at short
  omega

/-- The digits that a text begins with, up to a byte that is no digit. -/
theorem takeWhile_renderNat (value : Nat) {separator : UInt8} (notDigit : isDigit 10 separator = false)
    (rest : List UInt8) :
    (renderNat value ++ separator :: rest).takeWhile (isDigit 10) = renderNat value := by
  rw [List.takeWhile_append_of_pos (renderNat_isNumeral value).2, List.takeWhile_cons, notDigit]
  exact List.append_nil _

/-- A number that is followed by something else can be read back, with what follows. -/
theorem renderNat_append_inj {first second : Nat} {separator : UInt8}
    (notDigit : isDigit 10 separator = false) {rest other : List UInt8}
    (same : renderNat first ++ separator :: rest = renderNat second ++ separator :: other) :
    first = second ∧ rest = other := by
  have digits := congrArg (List.takeWhile (isDigit 10)) same
  rw [takeWhile_renderNat first notDigit, takeWhile_renderNat second notDigit] at digits
  have values := congrArg (numeralValue 10) digits
  rw [numeralValue_renderNat, numeralValue_renderNat] at values
  rw [digits] at same
  exact ⟨values, (List.cons.inj (List.append_cancel_left same)).2⟩

/-- A bound on a number bounds the length of its numeral. -/
theorem renderNat_length_le {value count : Nat} (positive : 0 < count)
    (bounded : value < 10 ^ count) : (renderNat value).length ≤ count := by
  unfold renderNat
  rw [List.length_map]
  exact (Nat.length_toDigits_le_iff (by decide) positive).mpr bounded

theorem IsNumeral.head_ne_minus {bytes rest : List UInt8} (numeral : IsNumeral 10 bytes) :
    bytes ≠ 45 :: rest := by
  intro same
  have digit := numeral.2 45 (by rw [same]; exact List.mem_cons_self)
  exact absurd digit (by decide)

theorem IsNumeral.take {base : Nat} {bytes : List UInt8} (numeral : IsNumeral base bytes)
    {count : Nat} (positive : 0 < count) : IsNumeral base (bytes.take count) := by
  constructor
  · intro empty
    rcases List.take_eq_nil_iff.mp empty with impossible | impossible
    · omega
    · exact numeral.1 impossible
  · intro byte member
    exact numeral.2 byte (List.mem_of_mem_take member)

/-- What begins with a minus sign denotes no positive number. -/
theorem denotedInt_minus {rest : List UInt8} {value : Int}
    (denoted : denotedInt (45 :: rest) = some value) : value ≤ 0 := by
  change (if IsNumeral 10 rest then _ else _) = _ at denoted
  split at denoted
  · cases denoted
    omega
  · cases denoted

theorem denotedInt_of_isNumeral {bytes : List UInt8} (numeral : IsNumeral 10 bytes) :
    denotedInt bytes = some (numeralValue 10 bytes : Int) := by
  unfold denotedInt
  split
  · exact absurd rfl numeral.head_ne_minus
  · rw [if_pos numeral]

theorem renderInt_natCast (value : Nat) : renderInt value = renderNat value := by
  unfold renderInt
  rw [if_neg (by omega), Int.natAbs_natCast]

theorem denotedInt_renderInt (value : Int) : denotedInt (renderInt value) = some value := by
  unfold renderInt
  by_cases negative : value < 0
  · rw [if_pos negative]
    change (if IsNumeral 10 (renderNat value.natAbs) then _ else _) = _
    rw [if_pos (renderNat_isNumeral _), numeralValue_renderNat]
    congr 1
    omega
  · rw [if_neg negative, denotedInt_of_isNumeral (renderNat_isNumeral _), numeralValue_renderNat]
    congr 1
    omega

/-- The bytes of a signed numeral: digits, and perhaps a minus sign. -/
theorem mem_renderInt {value : Int} {byte : UInt8} (member : byte ∈ renderInt value) :
    byte = 45 ∨ isDigit 10 byte = true := by
  unfold renderInt at member
  split at member
  · rcases List.mem_cons.mp member with sign | digit
    · exact Or.inl sign
    · exact Or.inr ((renderNat_isNumeral _).2 byte digit)
  · exact Or.inr ((renderNat_isNumeral _).2 byte member)

theorem renderInt_injective {first second : Int} (same : renderInt first = renderInt second) :
    first = second := by
  have denoted := congrArg denotedInt same
  rw [denotedInt_renderInt, denotedInt_renderInt] at denoted
  exact Option.some.inj denoted

/-- An integer of at most `count` decimal digits has a numeral at most one byte
longer, for the sign. -/
theorem renderInt_length_le {value : Int} {count : Nat} (positive : 0 < count)
    (bounded : value.natAbs < 10 ^ count) : (renderInt value).length ≤ count + 1 := by
  have digits := renderNat_length_le positive bounded
  unfold renderInt
  split
  · rw [List.length_cons]
    omega
  · omega

end Foundations
end Tlpi
