import Tlpi.CLibrary.Strtol

namespace Tlpi
namespace Lib

open CLibrary Foundations

/-!
# `getInt` and `getLong`: checked numeric arguments

A rejected argument ends the process with a diagnostic, so the result is either
the diagnostic text or the number.  The checks are made in the source's order,
and the first one that fails names the message.
-/

def GN_NONNEG : Nat := 0o1

def GN_GT_0 : Nat := 0o2

def GN_ANY_BASE : Nat := 0o100

def GN_BASE_8 : Nat := 0o200

def GN_BASE_16 : Nat := 0o400

/-- The test `flags & flag`. -/
def hasFlag (flags flag : Nat) : Bool := flags &&& flag != 0

/-- The text that `gnFail` prints before it exits. -/
def gnFail (fname msg : String) (arg : Option (List Byte)) (name : Option String) : List Byte :=
  ascii fname ++ ascii " error" ++
    (match name with
      | none => []
      | some name => ascii " (in " ++ ascii name ++ ascii ")") ++
    ascii ": " ++ ascii msg ++ ascii "\n" ++
    (match arg with
      | none => []
      | some [] => []
      | some text => ascii "        offending text: " ++ text ++ ascii "\n")

def selectedBase (flags : Nat) : Nat :=
  if hasFlag flags GN_ANY_BASE then 0
  else if hasFlag flags GN_BASE_8 then 8
  else if hasFlag flags GN_BASE_16 then 16
  else 10

/-- `getNum(fname, arg, flags, name)`; a null `arg` is `none`. -/
def getNum (fname : String) (arg : Option (List Byte)) (flags : Nat) (name : Option String) :
    Except (List Byte) Int :=
  match arg with
  | none => .error (gnFail fname "null or empty string" arg name)
  | some [] => .error (gnFail fname "null or empty string" arg name)
  | some text =>
      let converted := strtol text (selectedBase flags)
      if converted.erange then .error (gnFail fname "strtol() failed" arg name)
      else if converted.rest ≠ [] then .error (gnFail fname "nonnumeric characters" arg name)
      else if hasFlag flags GN_NONNEG ∧ converted.value < 0 then
        .error (gnFail fname "negative value not allowed" arg name)
      else if hasFlag flags GN_GT_0 ∧ converted.value ≤ 0 then
        .error (gnFail fname "value must be > 0" arg name)
      else .ok converted.value

/-- `getLong(arg, flags, name)`. -/
def getLong (arg : Option (List Byte)) (flags : Nat) (name : Option String) :
    Except (List Byte) Int :=
  getNum "getLong" arg flags name

/-- `getInt(arg, flags, name)`. -/
def getInt (arg : Option (List Byte)) (flags : Nat) (name : Option String) :
    Except (List Byte) Int :=
  match getNum "getInt" arg flags name with
  | .error diagnostic => .error diagnostic
  | .ok res =>
      if INT_MAX < res ∨ res < INT_MIN then .error (gnFail "getInt" "integer out of range" arg name)
      else .ok res

/-- What acceptance by `getNum` establishes. -/
theorem getNum_ok {fname : String} {arg : Option (List Byte)} {flags : Nat} {name : Option String}
    {value : Int} (accepted : getNum fname arg flags name = .ok value) :
    Exists fun text => arg = some text ∧ text ≠ [] ∧
      strtol text (selectedBase flags) = ⟨value, [], false⟩ ∧
      (hasFlag flags GN_NONNEG = true -> 0 ≤ value) ∧
      (hasFlag flags GN_GT_0 = true -> 0 < value) := by
  unfold getNum at accepted
  split at accepted
  · cases accepted
  · cases accepted
  · rename_i text notEmpty
    dsimp only at accepted
    split at accepted
    · cases accepted
    · rename_i inRange
      split at accepted
      · cases accepted
      · rename_i allNumeric
        split at accepted
        · cases accepted
        · rename_i nonnegative
          split at accepted
          · cases accepted
          · rename_i positive
            cases accepted
            refine ⟨text, rfl, fun empty => notEmpty (by rw [empty]), ?_, ?_, ?_⟩
            · cases converted : strtol text (selectedBase flags) with
              | mk value rest erange =>
                  rw [converted] at inRange allNumeric
                  have noRest : rest = [] := not_not.mp allNumeric
                  have noError : erange = false := Bool.eq_false_iff.mpr inRange
                  rw [noRest, noError]
            · intro flag
              by_contra negative
              exact nonnegative ⟨flag, not_le.mp negative⟩
            · intro flag
              by_contra notPositive
              exact positive ⟨flag, not_lt.mp notPositive⟩

/-- A number accepted by `getInt` is an `int`, and positive when asked to be. -/
theorem getInt_ok {arg : Option (List Byte)} {flags : Nat} {name : Option String} {value : Int}
    (accepted : getInt arg flags name = .ok value) :
    INT_MIN ≤ value ∧ value ≤ INT_MAX ∧ (hasFlag flags GN_GT_0 = true -> 0 < value) := by
  unfold getInt at accepted
  split at accepted
  · cases accepted
  · rename_i res numeric
    split at accepted
    · cases accepted
    · rename_i fits
      cases accepted
      rcases getNum_ok numeric with ⟨_, _, _, _, _, positive⟩
      exact ⟨not_lt.mp (fun low => fits (Or.inr low)), not_lt.mp (fun high => fits (Or.inl high)), positive⟩

/-- An `int` that is greater than zero. -/
structure PositiveInt where
  value : Int
  positive : 0 < value
  fits : value ≤ INT_MAX
deriving DecidableEq

/-- `GN_GT_0` alone asks for a number greater than zero. -/
theorem positive_flagged : hasFlag (GN_GT_0 ||| 0) GN_GT_0 = true := by decide

/-- `getInt` with `GN_GT_0` among the flags. -/
def getPositive (arg : List Byte) (base : Nat) (flagged : hasFlag (GN_GT_0 ||| base) GN_GT_0 = true)
    (name : String) : Except (List Byte) PositiveInt :=
  match accepted : getInt (some arg) (GN_GT_0 ||| base) (some name) with
  | .error diagnostic => .error diagnostic
  | .ok value => .ok ⟨value, (getInt_ok accepted).2.2 flagged, (getInt_ok accepted).2.1⟩

end Lib
end Tlpi
