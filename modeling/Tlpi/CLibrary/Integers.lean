import Mathlib.Data.Int.Init

namespace Tlpi
namespace CLibrary

/-!
# Fixed-width integers of the C implementation

`int` has 32 bits; `long`, `size_t` and `ssize_t` have 64.  Values are kept as
mathematical integers, and every conversion that the source performs between
two of these types is a function below, so that a statement shows where a value
may change.  Signed results that do not fit are reduced in two's complement.
-/

def INT_MAX : Int := 2147483647

def INT_MIN : Int := -2147483648

def LONG_MAX : Int := 9223372036854775807

def LONG_MIN : Int := -9223372036854775808

def SSIZE_MAX : Nat := 9223372036854775807

def toInt (value : Int) : Int := value.bmod 4294967296

/-- Conversion to `size_t`, as in a comparison of an `ssize_t` with a `size_t`. -/
def toSizeT (value : Int) : Nat := (value % 18446744073709551616).toNat

def toSSizeT (value : Int) : Int := value.bmod 18446744073709551616

def toUnsigned (value : Int) : Nat := (value % 4294967296).toNat

theorem toInt_of_range {value : Int} (low : INT_MIN ≤ value) (high : value ≤ INT_MAX) :
    toInt value = value := by
  unfold INT_MIN at low
  unfold INT_MAX at high
  apply Int.bmod_eq_of_le <;> omega

theorem toInt_range (value : Int) : INT_MIN ≤ toInt value ∧ toInt value ≤ INT_MAX := by
  unfold toInt INT_MIN INT_MAX
  have low := Int.le_bmod (x := value) (m := 4294967296) (by decide)
  have high := Int.bmod_lt (x := value) (m := 4294967296) (by decide)
  omega

theorem toInt_emod (value : Int) : toInt value % 4294967296 = value % 4294967296 :=
  Int.bmod_emod

/-- The conversion takes the residue of the lower half of the width as it is, and
that of the upper half as negative. -/
theorem toInt_eq (value : Int) :
    toInt value = if value % 4294967296 < 2147483648 then value % 4294967296
      else value % 4294967296 - 4294967296 := by
  unfold toInt
  rw [Int.bmod_def]
  rfl

/-- Reducing a summand first does not change a reduced sum. -/
theorem toInt_toInt_add (first second : Int) : toInt (toInt first + second) = toInt (first + second) :=
  Int.bmod_add_bmod

/-- Values whose difference is converted to zero are converted to the same `int`. -/
theorem toInt_eq_of_sub_eq_zero {first second : Int} (zero : toInt (first - second) = 0) :
    toInt first = toInt second :=
  Int.bmod_eq_bmod_iff_bmod_sub_eq_zero.mpr zero

theorem toSizeT_of_range {value : Int} (low : 0 ≤ value) (high : value ≤ SSIZE_MAX) :
    (toSizeT value : Int) = value := by
  unfold SSIZE_MAX at high
  unfold toSizeT
  omega

theorem toSSizeT_of_range {value : Int} (low : 0 ≤ value) (high : value ≤ SSIZE_MAX) :
    toSSizeT value = value := by
  unfold SSIZE_MAX at high
  apply Int.bmod_eq_of_le <;> omega

end CLibrary
end Tlpi
