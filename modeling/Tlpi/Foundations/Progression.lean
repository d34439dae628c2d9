import Mathlib.Data.List.Nodup
import Mathlib.Tactic.Ring

namespace Tlpi
namespace Foundations

/-!
# Arithmetic progressions below a bound

A loop that starts at a number and adds a positive step while it is below a bound visits
the terms of an arithmetic progression.  How many there are has a closed form, and the
first term that is not below the bound is the only one that the loop computes without
visiting it.
-/

namespace Progression

/-- The number of terms below the bound. -/
def turns (first step bound : Int) : Nat := ((bound - first + step - 1) / step).toNat

/-- The terms below the bound. -/
def below (first step bound : Int) : List Int :=
  (List.range (turns first step bound)).map (fun turn : Nat => first + turn * step)

/-- The first term that is not below the bound. -/
def beyond (first step bound : Int) : Int := first + turns first step bound * step

variable {first step bound : Int}

theorem lt_turns_iff (positive : 0 < step) (turn : Nat) :
    turn < turns first step bound <-> first + turn * step < bound := by
  have quotient : (turn : Int) + 1 ≤ (bound - first + step - 1) / step <->
      ((turn : Int) + 1) * step ≤ bound - first + step - 1 := Int.le_ediv_iff_mul_le positive
  have expanded : ((turn : Int) + 1) * step = turn * step + step := by ring
  rw [expanded] at quotient
  unfold turns
  constructor
  · intro less
    have atMost := quotient.mp (by omega)
    omega
  · intro less
    have atMost := quotient.mpr (by omega)
    omega

theorem turns_of_le (positive : 0 < step) (reached : bound ≤ first) : turns first step bound = 0 := by
  by_contra some
  have less := (lt_turns_iff positive 0).mp (Nat.pos_of_ne_zero some)
  rw [Nat.cast_zero, zero_mul, add_zero] at less
  omega

theorem turns_of_lt (positive : 0 < step) (less : first < bound) :
    turns first step bound = turns (first + step) step bound + 1 := by
  have shifted : bound - first + step - 1 = (bound - (first + step) + step - 1) + 1 * step := by ring
  have quotient : (bound - first + step - 1) / step =
      (bound - (first + step) + step - 1) / step + 1 := by
    rw [shifted, Int.add_mul_ediv_right _ _ (ne_of_gt positive)]
  have nonneg : 0 ≤ (bound - (first + step) + step - 1) / step :=
    Int.ediv_nonneg (by omega) (le_of_lt positive)
  unfold turns
  rw [quotient]
  omega

theorem below_of_le (positive : 0 < step) (reached : bound ≤ first) : below first step bound = [] := by
  unfold below
  rw [turns_of_le positive reached]
  rfl

theorem below_of_lt (positive : 0 < step) (less : first < bound) :
    below first step bound = first :: below (first + step) step bound := by
  unfold below
  rw [turns_of_lt positive less, List.range_succ_eq_map, List.map_cons, List.map_map, Nat.cast_zero,
    zero_mul, add_zero]
  congr 1
  apply List.map_congr_left
  intro turn _
  simp only [Function.comp_apply, Nat.succ_eq_add_one, Nat.cast_add, Nat.cast_one]
  ring

theorem beyond_of_le (positive : 0 < step) (reached : bound ≤ first) : beyond first step bound = first := by
  unfold beyond
  rw [turns_of_le positive reached, Nat.cast_zero, zero_mul, add_zero]

theorem beyond_of_lt (positive : 0 < step) (less : first < bound) :
    beyond first step bound = beyond (first + step) step bound := by
  unfold beyond
  rw [turns_of_lt positive less, Nat.cast_add, Nat.cast_one]
  ring

theorem mem_below (positive : 0 < step) {term : Int} (member : term ∈ below first step bound) :
    first ≤ term ∧ term < bound := by
  rcases List.mem_map.mp member with ⟨turn, inRange, same⟩
  have less := (lt_turns_iff positive turn).mp (List.mem_range.mp inRange)
  have nonneg : 0 ≤ (turn : Int) * step := Int.mul_nonneg (Int.natCast_nonneg turn) (le_of_lt positive)
  omega

theorem nodup_below (positive : 0 < step) : (below first step bound).Nodup := by
  apply List.Nodup.map _ List.nodup_range
  intro left right same
  have products : (left : Int) * step = right * step := add_left_cancel same
  exact Int.ofNat_inj.mp (Int.eq_of_mul_eq_mul_right (ne_of_gt positive) products)

end Progression

end Foundations
end Tlpi
