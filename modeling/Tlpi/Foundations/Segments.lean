import Mathlib.Data.List.Basic

namespace Tlpi
namespace Foundations

universe u

/-!
# Cutting a list after each delimiter

A segment runs through the first delimiter, which it keeps, or to the end of
the list when no delimiter is left.  Only the last segment can lack its
delimiter, no segment is empty, and the segments concatenate to the whole list.
Nothing here depends on what the elements are.
-/

variable {Element : Type u} (stop : Element -> Bool)

/-- The leading segment: everything through the first delimiter. -/
def throughFirst : List Element -> List Element
  | [] => []
  | head :: tail => if stop head then [head] else head :: throughFirst tail

/-- What follows the leading segment. -/
def afterFirst : List Element -> List Element
  | [] => []
  | head :: tail => if stop head then tail else afterFirst tail

def segments : List Element -> List (List Element)
  | [] => []
  | head :: tail =>
      if stop head then [head] :: segments tail
      else match segments tail with
        | [] => [[head]]
        | first :: rest => (head :: first) :: rest

@[simp] theorem throughFirst_nil : throughFirst stop [] = [] := rfl

@[simp] theorem afterFirst_nil : afterFirst stop [] = [] := rfl

@[simp] theorem segments_nil : segments stop [] = [] := rfl

/-- The leading segment and what follows it make up the list. -/
theorem throughFirst_append_afterFirst (list : List Element) :
    throughFirst stop list ++ afterFirst stop list = list := by
  induction list with
  | nil => rfl
  | cons head tail inductionHypothesis =>
      unfold throughFirst afterFirst
      split
      · rfl
      · rw [List.cons_append, inductionHypothesis]

theorem throughFirst_ne_nil {list : List Element} (nonempty : list ≠ []) :
    throughFirst stop list ≠ [] := by
  cases list with
  | nil => exact absurd rfl nonempty
  | cons head tail =>
      unfold throughFirst
      split <;> exact List.cons_ne_nil _ _

variable {stop} in
/-- A front part that has its only delimiter at its end is the leading segment. -/
theorem segments_append_cons {front : List Element} {delimiter : Element}
    (noStop : forall element, element ∈ front -> stop element = false)
    (isStop : stop delimiter = true) (rest : List Element) :
    segments stop (front ++ delimiter :: rest) = (front ++ [delimiter]) :: segments stop rest := by
  induction front with
  | nil => simp [segments, isStop]
  | cons head tail inductionHypothesis =>
      have later := inductionHypothesis (fun element member =>
        noStop element (List.mem_cons_of_mem head member))
      rw [List.cons_append, segments, noStop head List.mem_cons_self, later]
      rfl

variable {stop} in
/-- The parts around the first delimiter can be told from the list. -/
theorem append_cons_inj {front other : List Element} {delimiter : Element}
    (noStop : forall element, element ∈ front -> stop element = false)
    (free : forall element, element ∈ other -> stop element = false)
    (isStop : stop delimiter = true) {rest following : List Element}
    (same : front ++ delimiter :: rest = other ++ delimiter :: following) :
    front = other ∧ rest = following := by
  have cut := congrArg (segments stop) same
  rw [segments_append_cons noStop isStop, segments_append_cons free isStop] at cut
  have fronts := List.append_cancel_right (List.cons.inj cut).1
  rw [fronts] at same
  exact ⟨fronts, (List.cons.inj (List.append_cancel_left same)).2⟩

variable {stop} in
/-- What follows a front part without a delimiter is decided behind it. -/
theorem afterFirst_append {front : List Element}
    (noStop : forall element, element ∈ front -> stop element = false) (rest : List Element) :
    afterFirst stop (front ++ rest) = afterFirst stop rest := by
  induction front with
  | nil => rfl
  | cons head tail inductionHypothesis =>
      rw [List.cons_append, afterFirst, noStop head List.mem_cons_self]
      exact inductionHypothesis (fun element member =>
        noStop element (List.mem_cons_of_mem head member))

variable {stop} in
theorem afterFirst_eq_nil {list : List Element}
    (noStop : forall element, element ∈ list -> stop element = false) :
    afterFirst stop list = [] := by
  have behind := afterFirst_append noStop []
  rwa [List.append_nil] at behind

/-- The leading segment of a front part is a front part of the leading segment. -/
theorem throughFirst_take (list : List Element) (count : Nat) :
    throughFirst stop (list.take count) = (throughFirst stop list).take count := by
  induction list generalizing count with
  | nil => simp
  | cons head tail inductionHypothesis =>
      cases count with
      | zero => rfl
      | succ count =>
          rw [List.take_succ_cons]
          unfold throughFirst
          split
          · simp
          · rw [List.take_succ_cons, inductionHypothesis]

/-- A nonempty list is cut into its leading segment and the segments of what
follows it. -/
theorem segments_eq_cons {list : List Element} (nonempty : list ≠ []) :
    segments stop list = throughFirst stop list :: segments stop (afterFirst stop list) := by
  induction list with
  | nil => exact absurd rfl nonempty
  | cons head tail inductionHypothesis =>
      by_cases delimiter : stop head = true
      · simp [segments, throughFirst, afterFirst, delimiter]
      · by_cases last : tail = []
        · subst last
          simp [segments, throughFirst, afterFirst, delimiter]
        · simp [segments, throughFirst, afterFirst, delimiter, inductionHypothesis last]

/-- No element is lost or repeated: the segments concatenate to the list. -/
theorem segments_flatten (list : List Element) : (segments stop list).flatten = list := by
  induction list with
  | nil => rfl
  | cons head tail inductionHypothesis =>
      by_cases delimiter : stop head = true
      · simp [segments, delimiter, inductionHypothesis]
      · cases rest : segments stop tail with
        | nil =>
            rw [rest, List.flatten_nil] at inductionHypothesis
            simp only [segments, delimiter, if_false, Bool.false_eq_true, ← inductionHypothesis]
            rfl
        | cons first others =>
            rw [rest, List.flatten_cons] at inductionHypothesis
            simp [segments, delimiter, rest, inductionHypothesis]

end Foundations
end Tlpi
