import Mathlib.Data.List.Basic

namespace Tlpi
namespace Foundations

universe u

/-!
# Cutting a list into fields at blanks

A field is a longest run of elements that are not blank.  Blanks before, between
and after the fields separate them and belong to none, however many there are.
What counts as blank is a parameter.
-/

variable {Element : Type u} (blank : Element -> Bool)

/-- Put an element in front of the first field. -/
def extendFirst (element : Element) : List (List Element) -> List (List Element)
  | [] => [[element]]
  | field :: others => (element :: field) :: others

/-- A field can end here: nothing follows, or a blank does. -/
def fieldEnds : List Element -> Bool
  | [] => true
  | next :: _ => blank next

def fields : List Element -> List (List Element)
  | [] => []
  | head :: tail =>
      if blank head then fields tail
      else if fieldEnds blank tail then [head] :: fields tail
      else extendFirst head (fields tail)

variable {blank}

/-- Blanks in front of a list do not matter. -/
theorem fields_append_of_blank {front : List Element}
    (allBlank : forall element, element ∈ front -> blank element = true) (rest : List Element) :
    fields blank (front ++ rest) = fields blank rest := by
  induction front with
  | nil => rfl
  | cons head tail inductionHypothesis =>
      rw [List.cons_append, fields, if_pos (allBlank head List.mem_cons_self)]
      exact inductionHypothesis (fun element member =>
        allBlank element (List.mem_cons_of_mem head member))

/-- A run without blanks is the first field, if it ends there. -/
theorem fields_append_of_not_blank {word rest : List Element} (nonempty : word ≠ [])
    (noBlank : forall element, element ∈ word -> blank element = false)
    (ends : fieldEnds blank rest = true) :
    fields blank (word ++ rest) = word :: fields blank rest := by
  induction word with
  | nil => exact absurd rfl nonempty
  | cons head tail inductionHypothesis =>
      have headNotBlank := noBlank head List.mem_cons_self
      rw [List.cons_append, fields, if_neg (by rw [headNotBlank]; decide)]
      cases tail with
      | nil => rw [List.nil_append, if_pos ends]
      | cons next others =>
          have later := inductionHypothesis (List.cons_ne_nil next others)
            (fun element member => noBlank element (List.mem_cons_of_mem head member))
          have continues : fieldEnds blank (next :: others ++ rest) = false :=
            noBlank next (List.mem_cons_of_mem head List.mem_cons_self)
          rw [if_neg (by rw [continues]; decide), later]
          rfl

/-- A list whose only field runs through all of it. -/
theorem fields_of_not_blank {word : List Element} (nonempty : word ≠ [])
    (noBlank : forall element, element ∈ word -> blank element = false) :
    fields blank word = [word] := by
  have whole : fields blank (word ++ []) = word :: fields blank [] :=
    fields_append_of_not_blank nonempty noBlank rfl
  rw [List.append_nil] at whole
  exact whole

theorem blank_of_fields_eq_nil {list : List Element} (none : fields blank list = []) :
    forall element, element ∈ list -> blank element = true := by
  induction list with
  | nil => exact fun element member => absurd member List.not_mem_nil
  | cons head tail inductionHypothesis =>
      unfold fields at none
      split at none
      · rename_i isBlank
        intro element member
        rcases List.mem_cons.mp member with same | later
        · rw [same]
          exact isBlank
        · exact inductionHypothesis none element later
      · split at none
        · cases none
        · unfold extendFirst at none
          split at none <;> cases none

/-- How a list with a first field is made up: blanks, the field, and what follows. -/
theorem fields_eq_cons {list word : List Element} {others : List (List Element)}
    (found : fields blank list = word :: others) :
    Exists fun front => Exists fun rest => list = front ++ (word ++ rest) ∧
      (forall element, element ∈ front -> blank element = true) ∧ word ≠ [] ∧
      (forall element, element ∈ word -> blank element = false) ∧
      fieldEnds blank rest = true ∧ fields blank rest = others := by
  induction list generalizing word with
  | nil => cases found
  | cons head tail inductionHypothesis =>
      unfold fields at found
      split at found
      · rename_i isBlank
        rcases inductionHypothesis found with ⟨front, rest, parts, allBlank, remaining⟩
        refine ⟨head :: front, rest, by rw [parts]; rfl, ?_, remaining⟩
        intro element member
        rcases List.mem_cons.mp member with same | later
        · rw [same]
          exact isBlank
        · exact allBlank element later
      · rename_i notBlank
        have headNotBlank : blank head = false := Bool.eq_false_iff.mpr notBlank
        split at found
        · rename_i ends
          cases found
          exact ⟨[], tail, rfl, fun element member => absurd member List.not_mem_nil,
            List.cons_ne_nil head [], fun element member => by
              rw [List.mem_singleton.mp member]
              exact headNotBlank, ends, rfl⟩
        · rename_i continues
          cases later : fields blank tail with
          | nil =>
              exfalso
              cases tail with
              | nil => exact continues rfl
              | cons next tail => exact continues (blank_of_fields_eq_nil later next List.mem_cons_self)
          | cons field more =>
              rw [later] at found
              cases found
              rcases inductionHypothesis later with
                ⟨front, rest, parts, allBlank, nonempty, noBlank, remaining⟩
              have noFront : front = [] := by
                cases front with
                | nil => rfl
                | cons first front =>
                    exfalso
                    rw [parts] at continues
                    exact continues (allBlank first List.mem_cons_self)
              subst noFront
              refine ⟨[], rest, by rw [parts]; rfl, fun element member => absurd member List.not_mem_nil,
                List.cons_ne_nil head field, ?_, remaining⟩
              intro element member
              rcases List.mem_cons.mp member with same | inField
              · rw [same]
                exact headNotBlank
              · exact noBlank element inField

end Foundations
end Tlpi
