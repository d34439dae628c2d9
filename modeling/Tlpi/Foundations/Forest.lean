import Mathlib.Data.List.Basic

namespace Tlpi
namespace Foundations

universe u

/-!
# Forests and their levels

A forest is empty, or it is a first tree, with its label and the forest of its children,
and the rest of the forest.  A traversal lists the labels with the level at which each of
them stands, parents before their children or after them.  Either list determines the
forest: the levels say where the children of a node end.
-/

inductive Forest (Label : Type u) where
  | empty
  | tree (label : Label) (children rest : Forest Label)
deriving DecidableEq, Repr

namespace Forest

variable {Label : Type u}

/-- Parents before their children. -/
def preorder (level : Nat) : Forest Label -> List (Nat × Label)
  | empty => []
  | tree label children rest => (level, label) :: preorder (level + 1) children ++ preorder level rest

/-- Parents after their children. -/
def postorder (level : Nat) : Forest Label -> List (Nat × Label)
  | empty => []
  | tree label children rest => postorder (level + 1) children ++ (level, label) :: postorder level rest

/-- One forest and then another. -/
def append : Forest Label -> Forest Label -> Forest Label
  | empty, second => second
  | tree label children rest, second => tree label children (append rest second)

/-- The forest as it looks from the other side. -/
def mirror : Forest Label -> Forest Label
  | empty => empty
  | tree label children rest => append (mirror rest) (tree label (mirror children) empty)

@[simp] theorem append_empty (forest : Forest Label) : append forest empty = forest := by
  induction forest with
  | empty => rfl
  | tree label children rest _ inductionHypothesis => rw [append, inductionHypothesis]

theorem append_assoc (first second third : Forest Label) :
    append (append first second) third = append first (append second third) := by
  induction first with
  | empty => rfl
  | tree label children rest _ inductionHypothesis => rw [append, append, append, inductionHypothesis]

theorem mirror_append (first second : Forest Label) :
    mirror (append first second) = append (mirror second) (mirror first) := by
  induction first with
  | empty => rw [append, mirror, append_empty]
  | tree label children rest _ inductionHypothesis =>
      rw [append, mirror, mirror, inductionHypothesis, append_assoc]

theorem mirror_mirror (forest : Forest Label) : mirror (mirror forest) = forest := by
  induction forest with
  | empty => rfl
  | tree label children rest childrenHypothesis restHypothesis =>
      rw [mirror, mirror_append, restHypothesis, mirror, mirror, childrenHypothesis]
      rfl

theorem preorder_append (level : Nat) (first second : Forest Label) :
    preorder level (append first second) = preorder level first ++ preorder level second := by
  induction first with
  | empty => rfl
  | tree label children rest _ inductionHypothesis =>
      rw [append, preorder, preorder, inductionHypothesis, List.append_assoc]

/-- Read backwards, one order is the other order of the mirrored forest. -/
theorem reverse_postorder (level : Nat) (forest : Forest Label) :
    (postorder level forest).reverse = preorder level (mirror forest) := by
  induction forest generalizing level with
  | empty => rfl
  | tree label children rest childrenHypothesis restHypothesis =>
      rw [postorder, mirror, preorder_append, List.reverse_append, List.reverse_cons,
        restHypothesis, childrenHypothesis, preorder, List.append_assoc]
      simp [preorder]

/-- What follows a forest stands at a lower level. -/
def Below (level : Nat) (entries : List (Nat × Label)) : Prop :=
  forall entry, entries.head? = some entry -> entry.1 < level

theorem below_nil (level : Nat) : Below level ([] : List (Nat × Label)) := nofun

/-- The rest of a forest, and what follows it, stand below the children. -/
theorem below_preorder {level : Nat} {after : List (Nat × Label)} (below : Below level after)
    (rest : Forest Label) : Below (level + 1) (preorder level rest ++ after) := by
  intro entry head
  cases rest with
  | empty => exact Nat.lt_succ_of_lt (below entry head)
  | tree label children others =>
      cases head
      exact Nat.lt_succ_self level

/-- A forest can be told from what follows it. -/
theorem preorder_append_inj {level : Nat} {first second : Forest Label}
    {after behind : List (Nat × Label)} (lower : Below level after) (below : Below level behind)
    (same : preorder level first ++ after = preorder level second ++ behind) :
    first = second ∧ after = behind := by
  induction first generalizing level second after behind with
  | empty =>
      cases second with
      | empty => exact ⟨rfl, same⟩
      | tree label children rest =>
          have head := lower (level, label) (congrArg List.head? same)
          exact absurd head (Nat.lt_irrefl level)
  | tree label children rest childrenHypothesis restHypothesis =>
      cases second with
      | empty =>
          have head := below (level, label) (congrArg List.head? same.symm)
          exact absurd head (Nat.lt_irrefl level)
      | tree other its others =>
          rw [preorder, preorder, List.cons_append, List.cons_append, List.append_assoc,
            List.cons_append, List.cons_append, List.append_assoc] at same
          rcases List.cons.inj same with ⟨labels, following⟩
          rcases childrenHypothesis (below_preorder lower rest) (below_preorder below others) following
            with ⟨sameChildren, remaining⟩
          rcases restHypothesis lower below remaining with ⟨sameRest, sameAfter⟩
          rw [(Prod.mk.inj labels).2, sameChildren, sameRest]
          exact ⟨rfl, sameAfter⟩

theorem preorder_injective (level : Nat) :
    Function.Injective (preorder level : Forest Label -> List (Nat × Label)) := by
  intro first second same
  refine (preorder_append_inj (below_nil level) (below_nil level) ?_).1
  rw [List.append_nil, List.append_nil]
  exact same

theorem postorder_injective (level : Nat) :
    Function.Injective (postorder level : Forest Label -> List (Nat × Label)) := by
  intro first second same
  have reversed := congrArg List.reverse same
  rw [reverse_postorder, reverse_postorder] at reversed
  have mirrored := preorder_injective level reversed
  rw [← mirror_mirror first, mirrored, mirror_mirror]

end Forest

end Foundations
end Tlpi
