import Mathlib.Data.Nat.Bitwise
import Tlpi.CLibrary.NumberSyntax
import Tlpi.Lib.GetNum

namespace Tlpi
namespace Lib

open CLibrary Foundations

/-!
# The arguments that `getLong` and `getInt` accept

The functions decide by `errno`, the end pointer and the range checks.  What they should
accept has a description that mentions none of these: the argument is a number, its
value fits, and it meets the conditions of the flags.
-/

/-- The base that the bits of the flags ask for. -/
def flagBase (flags : Nat) : Nat :=
  if flags.testBit 6 then 0
  else if flags.testBit 7 then 8
  else if flags.testBit 8 then 16
  else 10

/-- The value meets the conditions that the bits of the flags ask for. -/
structure MeetsFlags (flags : Nat) (value : Int) : Prop where
  nonnegative : flags.testBit 0 = true -> 0 ≤ value
  positive : flags.testBit 1 = true -> 0 < value

theorem hasFlag_two_pow (flags bit : Nat) : hasFlag flags (2 ^ bit) = flags.testBit bit := by
  unfold hasFlag
  rw [Nat.and_two_pow]
  cases flags.testBit bit with
  | false => simp
  | true => simp

theorem selectedBase_eq (flags : Nat) : selectedBase flags = flagBase flags := by
  have any : hasFlag flags GN_ANY_BASE = flags.testBit 6 := hasFlag_two_pow flags 6
  have eight : hasFlag flags GN_BASE_8 = flags.testBit 7 := hasFlag_two_pow flags 7
  have sixteen : hasFlag flags GN_BASE_16 = flags.testBit 8 := hasFlag_two_pow flags 8
  unfold selectedBase flagBase
  rw [any, eight, sixteen]

theorem flagBase_le (flags : Nat) : flagBase flags ≤ 36 := by
  unfold flagBase
  split_ifs <;> decide

/-- The conditions of the flags are those that `getNum` checks. -/
theorem meetsFlags_iff (flags : Nat) (value : Int) :
    MeetsFlags flags value <->
      (hasFlag flags GN_NONNEG = true -> 0 ≤ value) ∧ (hasFlag flags GN_GT_0 = true -> 0 < value) := by
  have nonneg : hasFlag flags GN_NONNEG = flags.testBit 0 := hasFlag_two_pow flags 0
  have positive : hasFlag flags GN_GT_0 = flags.testBit 1 := hasFlag_two_pow flags 1
  rw [nonneg, positive]
  exact ⟨fun meets => ⟨meets.nonnegative, meets.positive⟩, fun both => ⟨both.1, both.2⟩⟩

/-- `getNum` returns what `strtol` converts to the end of the argument, if that passes
the checks. -/
theorem getNum_of_strtol {fname : String} {text : List Byte} {flags : Nat} {name : Option String}
    {value : Int} (nonempty : text ≠ [])
    (converted : strtol text (selectedBase flags) = ⟨value, [], false⟩)
    (meets : MeetsFlags flags value) : getNum fname (some text) flags name = .ok value := by
  rcases (meetsFlags_iff flags value).mp meets with ⟨nonnegative, positive⟩
  cases text with
  | nil => exact absurd rfl nonempty
  | cons first rest =>
      unfold getNum
      dsimp only
      rw [converted]
      have notNegative : ¬ (hasFlag flags GN_NONNEG = true ∧ value < 0) :=
        fun both => not_lt.mpr (nonnegative both.1) both.2
      have notZero : ¬ (hasFlag flags GN_GT_0 = true ∧ value ≤ 0) :=
        fun both => not_le.mpr (positive both.1) both.2
      simp only [ne_eq, not_true_eq_false, Bool.false_eq_true, if_false, if_neg notNegative,
        if_neg notZero]

/-- `getNum` returns exactly the numbers that fit and meet the flags. -/
theorem getNum_ok_iff {fname : String} {arg : Option (List Byte)} {flags : Nat}
    {name : Option String} {value : Int} :
    getNum fname arg flags name = .ok value <->
      Exists fun text => arg = some text ∧ NumberText (flagBase flags) text value ∧
        (LONG_MIN ≤ value ∧ value ≤ LONG_MAX) ∧ MeetsFlags flags value := by
  constructor
  · intro accepted
    rcases getNum_ok accepted with ⟨text, same, nonempty, converted, meets⟩
    rw [selectedBase_eq] at converted
    have number := (strtol_eq_iff (flagBase_le flags)).mp ⟨nonempty, converted⟩
    exact ⟨text, same, number.1, number.2, (meetsFlags_iff flags value).mpr meets⟩
  · rintro ⟨text, same, number, range, meets⟩
    have converted := (strtol_eq_iff (flagBase_le flags)).mpr ⟨number, range⟩
    rw [← selectedBase_eq] at converted
    rw [same]
    exact getNum_of_strtol converted.1 converted.2 meets

theorem getInt_ok_iff {arg : Option (List Byte)} {flags : Nat} {name : Option String} {value : Int} :
    getInt arg flags name = .ok value <->
      getNum "getInt" arg flags name = .ok value ∧ INT_MIN ≤ value ∧ value ≤ INT_MAX := by
  unfold getInt
  constructor
  · intro accepted
    split at accepted
    · cases accepted
    · rename_i res numeric
      split at accepted
      · cases accepted
      · rename_i fits
        cases accepted
        exact ⟨numeric, not_lt.mp (fun low => fits (Or.inr low)), not_lt.mp (fun high => fits (Or.inl high))⟩
  · rintro ⟨numeric, low, high⟩
    rw [numeric]
    dsimp only
    rw [if_neg]
    rintro (above | below)
    · exact not_lt.mpr high above
    · exact not_lt.mpr low below

/-- `getLong` returns a value exactly if the argument is a number with that value in the
base that the flags select, the value is a `long`, and it meets the flags; `getInt`
exactly if `getLong` does and the value is an `int`. -/
theorem getLong_getInt_accept (arg : Option (List Byte)) (flags : Nat) (name : Option String)
    (value : Int) :
    (getLong arg flags name = .ok value <->
      Exists fun text => arg = some text ∧ NumberText (flagBase flags) text value ∧
        (LONG_MIN ≤ value ∧ value ≤ LONG_MAX) ∧ MeetsFlags flags value) ∧
    (getInt arg flags name = .ok value <->
      getLong arg flags name = .ok value ∧ INT_MIN ≤ value ∧ value ≤ INT_MAX) := by
  constructor
  · exact getNum_ok_iff
  · rw [getInt_ok_iff, getNum_ok_iff]
    unfold getLong
    rw [getNum_ok_iff]

end Lib
end Tlpi
