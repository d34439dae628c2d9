import Tlpi.CLibrary.Integers

namespace Tlpi
namespace CLibrary

/-!
# Arithmetic of 64 bits

A program that multiplies and adds in `long` and in `size_t` gets the results of the
mathematical operations as long as these are in the range of the type.  An unsigned result
that is not is reduced, and a signed one has no defined value.  A model that lists the
operations that it makes can be asked whether all of them fit.
-/

inductive Operation where
  | mulLong (left right : Int)
  | addLong (left right : Int)
  | addSizeT (left right : Nat)
  | subSizeT (left right : Nat)
deriving DecidableEq, Repr

namespace Operation

/-- The mathematical result. -/
def exact : Operation -> Int
  | mulLong left right => left * right
  | addLong left right => left + right
  | addSizeT left right => left + right
  | subSizeT left right => left - right

/-- The range of the type. -/
def range : Operation -> Int × Int
  | mulLong _ _ | addLong _ _ => (LONG_MIN, LONG_MAX)
  | addSizeT _ _ | subSizeT _ _ => (0, 18446744073709551615)

/-- The mathematical result is in the range of the type. -/
def Fits (operation : Operation) : Prop :=
  operation.range.1 ≤ operation.exact ∧ operation.exact ≤ operation.range.2

instance : DecidablePred Fits := fun operation =>
  inferInstanceAs (Decidable (operation.range.1 ≤ operation.exact ∧ operation.exact ≤ operation.range.2))

/-- The result as a `long`. -/
def toLong (operation : Operation) : Int := toSSizeT operation.exact

/-- The result as a `size_t`. -/
def toSize (operation : Operation) : Nat := toSizeT operation.exact

section

variable {left right : Nat}

theorem mulLong_fits (bound : left * right ≤ 9223372036854775807) : (mulLong left right).Fits := by
  have product : (mulLong left right).exact = ((left * right : Nat) : Int) :=
    (Int.natCast_mul left right).symm
  have range : (mulLong left right).range = (LONG_MIN, LONG_MAX) := rfl
  unfold Fits
  rw [product, range]
  unfold LONG_MIN LONG_MAX
  omega

theorem mulLong_toLong (bound : left * right ≤ 9223372036854775807) :
    (mulLong left right).toLong = ((left * right : Nat) : Int) := by
  have product : (mulLong left right).exact = ((left * right : Nat) : Int) :=
    (Int.natCast_mul left right).symm
  unfold toLong
  rw [product]
  apply toSSizeT_of_range
  · omega
  · unfold SSIZE_MAX
    omega

theorem addLong_fits (bound : left + right ≤ 9223372036854775807) :
    (addLong (left : Int) right).Fits := by
  have sum : (addLong (left : Int) right).exact = (left : Int) + right := rfl
  have range : (addLong (left : Int) right).range = (LONG_MIN, LONG_MAX) := rfl
  unfold Fits
  rw [sum, range]
  unfold LONG_MIN LONG_MAX
  omega

theorem addSizeT_fits (bound : left + right < 18446744073709551616) : (addSizeT left right).Fits := by
  have sum : (addSizeT left right).exact = (left : Int) + right := rfl
  have range : (addSizeT left right).range = (0, 18446744073709551615) := rfl
  unfold Fits
  rw [sum, range]
  omega

theorem addSizeT_toSize (bound : left + right < 18446744073709551616) :
    (addSizeT left right).toSize = left + right := by
  have sum : (addSizeT left right).exact = (left : Int) + right := rfl
  unfold toSize toSizeT
  rw [sum]
  omega

theorem subSizeT_fits (atMost : right ≤ left) (bound : left < 18446744073709551616) :
    (subSizeT left right).Fits := by
  have difference : (subSizeT left right).exact = (left : Int) - right := rfl
  have range : (subSizeT left right).range = (0, 18446744073709551615) := rfl
  unfold Fits
  rw [difference, range]
  omega

theorem subSizeT_toSize (atMost : right ≤ left) (bound : left < 18446744073709551616) :
    (subSizeT left right).toSize = left - right := by
  have difference : (subSizeT left right).exact = (left : Int) - right := rfl
  unfold toSize toSizeT
  rw [difference]
  omega

end

end Operation

end CLibrary
end Tlpi
