import Mathlib.Data.Nat.Basic

namespace Tlpi
namespace Foundations

universe u v

/-!
# Loops that carry their own termination bound

A loop body either asks for another iteration or delivers a result.  The
structure below stores, beside the body, a natural-number variant and the proof
that every further iteration decreases it.  A loop that might not return cannot
be built, so running one needs neither fuel nor an absent result.  Execution is
structural recursion on the variant of the starting state and hence computes.
-/

/-- What one iteration of a loop body asks for. -/
inductive Control (State : Type u) (Result : Type v) where
  | again (next : State)
  | done (result : Result)

/-- A loop body together with the quantity each repeated iteration decreases. -/
structure BoundedLoop (State : Type u) (Result : Type v) where
  body : State -> Control State Result
  variant : State -> Nat
  decreases : forall {state next : State}, body state = .again next -> variant next < variant state

namespace BoundedLoop

variable {State : Type u} {Result : Type v} (loop : BoundedLoop State Result)

/-- Iterate within a bound that exceeds the variant.  The exhausted bound is
contradictory, so no artificial result is returned there. -/
def runWithin : (bound : Nat) -> (state : State) -> loop.variant state < bound -> Result
  | 0, _, enough => absurd enough (Nat.not_lt_zero _)
  | bound + 1, state, enough =>
      match iteration : loop.body state with
      | .again next =>
          runWithin bound next
            (Nat.lt_of_lt_of_le (loop.decreases iteration) (Nat.le_of_lt_succ enough))
      | .done result => result

/-- Run the loop to its result. -/
def run (state : State) : Result :=
  loop.runWithin (loop.variant state + 1) state (Nat.lt_succ_self _)

/-- A relation between a state and the final result, closed under one
iteration of the body, holds of the whole run.  This is the induction principle
for loops: `delivered` is its base case and `repeated` its step. -/
theorem runWithin_relation {motive : State -> Result -> Prop}
    (delivered : forall state result, loop.body state = .done result -> motive state result)
    (repeated : forall state next result, loop.body state = .again next ->
      motive next result -> motive state result)
    (bound : Nat) (state : State) (enough : loop.variant state < bound) :
    motive state (loop.runWithin bound state enough) := by
  induction bound generalizing state with
  | zero => exact absurd enough (Nat.not_lt_zero _)
  | succ bound inductionHypothesis =>
      unfold runWithin
      split
      · rename_i next iteration
        exact repeated state next _ iteration (inductionHypothesis next _)
      · rename_i result iteration
        exact delivered state result iteration

/-- The loop rule of `runWithin_relation`, at the loop's own bound. -/
theorem run_relation {motive : State -> Result -> Prop}
    (delivered : forall state result, loop.body state = .done result -> motive state result)
    (repeated : forall state next result, loop.body state = .again next ->
      motive next result -> motive state result)
    (state : State) : motive state (loop.run state) :=
  loop.runWithin_relation delivered repeated _ state _

end BoundedLoop

end Foundations
end Tlpi
