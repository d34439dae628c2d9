import Mathlib

namespace Tlpi
namespace Foundations

universe u

/-!
# Handing out consecutive ranges of a counter

An allocator keeps one counter.  Each grant begins at the counter and moves it
past the granted range.  The counter's type is arbitrary: what matters is how it
advances by a number of places, and for how many places that is injective.  An
unbounded counter is injective everywhere, a wrapping one for one full turn.
Grants laid end to end are disjoint as long as together they stay within the
injective stretch.
-/

/-- A granted range: its first place and its number of places. -/
structure Grant (Counter : Type u) where
  start : Counter
  length : Nat
deriving DecidableEq, Repr

section

variable {Counter : Type u} (advance : Counter -> Nat -> Counter)

/-- The places of a grant. -/
def Grant.places (grant : Grant Counter) : Set Counter :=
  {place | Exists fun offset => offset < grant.length ∧ place = advance grant.start offset}

/-- The number of places handed out by a list of grants. -/
def totalLength (grants : List (Grant Counter)) : Nat := (grants.map Grant.length).sum

/-- Grants laid end to end from a counter value on, the earliest first. -/
def EndToEnd : Counter -> List (Grant Counter) -> Prop
  | _, [] => True
  | counter, grant :: later =>
      grant.start = counter ∧ EndToEnd (advance counter grant.length) later

@[simp] theorem totalLength_nil : totalLength ([] : List (Grant Counter)) = 0 := rfl

@[simp] theorem totalLength_cons (grant : Grant Counter) (later : List (Grant Counter)) :
    totalLength (grant :: later) = grant.length + totalLength later := rfl

@[simp] theorem totalLength_append (earlier later : List (Grant Counter)) :
    totalLength (earlier ++ later) = totalLength earlier + totalLength later := by
  simp [totalLength]

variable {advance}
variable (additive : forall counter first second,
  advance (advance counter first) second = advance counter (first + second))

include additive

/-- A new grant extends the layout exactly when it begins where the earlier
ones end. -/
theorem endToEnd_append_singleton (zero : forall counter, advance counter 0 = counter)
    (counter : Counter) (grants : List (Grant Counter)) (grant : Grant Counter) :
    EndToEnd advance counter (grants ++ [grant]) <->
      EndToEnd advance counter grants ∧ grant.start = advance counter (totalLength grants) := by
  induction grants generalizing counter with
  | nil => simp [EndToEnd, zero]
  | cons head tail inductionHypothesis =>
      simp only [List.cons_append, EndToEnd, totalLength_cons]
      rw [inductionHypothesis, additive, and_assoc]

/-- Every place of a layout is some number of places, below the total, after
its beginning. -/
theorem EndToEnd.place_offset {counter : Counter} {grants : List (Grant Counter)}
    (layout : EndToEnd advance counter grants) {grant : Grant Counter} (member : grant ∈ grants)
    {place : Counter} (inside : place ∈ grant.places advance) :
    Exists fun offset => offset < totalLength grants ∧ place = advance counter offset := by
  induction grants generalizing counter with
  | nil => cases member
  | cons head tail inductionHypothesis =>
      rw [totalLength_cons]
      rcases List.mem_cons.mp member with same | later
      · subst same
        rcases inside with ⟨offset, within, reached⟩
        rw [layout.1] at reached
        exact ⟨offset, by omega, reached⟩
      · rcases inductionHypothesis layout.2 later with ⟨offset, within, reached⟩
        rw [additive] at reached
        exact ⟨head.length + offset, by omega, reached⟩

/-- Grants laid end to end within an injective stretch are pairwise disjoint. -/
theorem EndToEnd.pairwise_disjoint {counter : Counter} {grants : List (Grant Counter)} {stretch : Nat}
    (layout : EndToEnd advance counter grants)
    (injective : forall first second, first < stretch -> second < stretch ->
      advance counter first = advance counter second -> first = second)
    (fits : totalLength grants ≤ stretch) :
    grants.Pairwise (fun left right => Disjoint (left.places advance) (right.places advance)) := by
  induction grants generalizing counter stretch with
  | nil => exact List.Pairwise.nil
  | cons head tail inductionHypothesis =>
      rw [totalLength_cons] at fits
      refine List.pairwise_cons.mpr ⟨?_, ?_⟩
      · intro other member
        apply Set.disjoint_left.mpr
        intro place inHead inOther
        rcases inHead with ⟨first, firstWithin, firstReached⟩
        rcases layout.2.place_offset additive member inOther with ⟨second, secondWithin, secondReached⟩
        rw [layout.1] at firstReached
        rw [additive] at secondReached
        have same := injective first (head.length + second) (by omega) (by omega)
          (firstReached.symm.trans secondReached)
        omega
      · have shorter : totalLength tail ≤ stretch - head.length := by omega
        refine inductionHypothesis layout.2 ?_ shorter
        intro first second firstWithin secondWithin same
        rw [additive, additive] at same
        have equal := injective _ _ (by omega) (by omega) same
        omega

end

end Foundations
end Tlpi
