import Mathlib.Algebra.BigOperators.Group.Finset.Piecewise
import Mathlib.Data.Fintype.Card

namespace Tlpi
namespace Foundations

universe u v

/-!
# Counting the entries of a finite table

A finite table is a function on a finite index type, and a program changes it
one entry at a time.  The number of entries with a given property then changes
by what the old and the new entry contribute, which is the only fact an argument
about a counter needs.  The same holds for a list of entries, which may also grow
at its end.
-/

variable {Index : Type u} {Entry : Type v} [Fintype Index]

def countWhere (holds : Entry -> Prop) [DecidablePred holds] (table : Index -> Entry) : Nat :=
  (Finset.univ.filter (fun index => holds (table index))).card

/-- What one entry contributes to the count. -/
def contribution (holds : Entry -> Prop) [DecidablePred holds] (entry : Entry) : Nat :=
  if holds entry then 1 else 0

variable {holds : Entry -> Prop} [DecidablePred holds]

theorem countWhere_eq_sum (table : Index -> Entry) :
    countWhere holds table = ∑ index, contribution holds (table index) :=
  Finset.card_filter _ _

/-- One assignment removes the contribution of the old entry and adds that of
the new one. -/
theorem countWhere_update [DecidableEq Index] (table : Index -> Entry) (index : Index)
    (entry : Entry) :
    countWhere holds (Function.update table index entry) + contribution holds (table index) =
      countWhere holds table + contribution holds entry := by
  have composed : (fun other => contribution holds (Function.update table index entry other)) =
      Function.update (fun other => contribution holds (table other)) index
        (contribution holds entry) :=
    Function.comp_update (contribution holds) table index entry
  have updated := Finset.sum_update_of_mem (Finset.mem_univ index)
    (fun other => contribution holds (table other)) (contribution holds entry)
  have split := Finset.sum_update_of_mem (Finset.mem_univ index)
    (fun other => contribution holds (table other)) (contribution holds (table index))
  rw [Function.update_eq_self] at split
  rw [countWhere_eq_sum, countWhere_eq_sum, composed, updated, split]
  ac_rfl

variable [DecidableEq Index] {table : Index -> Entry} {index : Index} {entry : Entry}

/-- An assignment that does not change whether the entry counts leaves the count. -/
theorem countWhere_update_of_iff (same : holds entry <-> holds (table index)) :
    countWhere holds (Function.update table index entry) = countWhere holds table := by
  have balance : countWhere holds (Function.update table index entry) +
      contribution holds (table index) = countWhere holds table + contribution holds entry :=
    countWhere_update table index entry
  have equal : contribution holds entry = contribution holds (table index) := by
    simp only [contribution, same]
  rw [equal] at balance
  exact Nat.add_right_cancel balance

theorem countWhere_update_gain (before : ¬ holds (table index)) (after : holds entry) :
    countWhere holds (Function.update table index entry) = countWhere holds table + 1 := by
  have balance : countWhere holds (Function.update table index entry) +
      contribution holds (table index) = countWhere holds table + contribution holds entry :=
    countWhere_update table index entry
  rwa [contribution, contribution, if_neg before, if_pos after] at balance

theorem countWhere_update_loss (before : holds (table index)) (after : ¬ holds entry) :
    countWhere holds (Function.update table index entry) + 1 = countWhere holds table := by
  have balance : countWhere holds (Function.update table index entry) +
      contribution holds (table index) = countWhere holds table + contribution holds entry :=
    countWhere_update table index entry
  rwa [contribution, contribution, if_pos before, if_neg after] at balance

omit [DecidableEq Index] in
theorem countWhere_eq_zero_iff :
    countWhere holds table = 0 <-> forall index, ¬ holds (table index) := by
  simp [countWhere, Finset.filter_eq_empty_iff]

omit [DecidableEq Index] in
theorem countWhere_eq_card (all : forall index, holds (table index)) :
    countWhere holds table = Fintype.card Index := by
  rw [countWhere, Finset.filter_true_of_mem (fun index _ => all index), Finset.card_univ]

theorem sum_update_succ (amounts : Index -> Nat) (index : Index) :
    ∑ other, Function.update amounts index (amounts index + 1) other = (∑ other, amounts other) + 1 := by
  have updated := Finset.sum_update_of_mem (Finset.mem_univ index) amounts (amounts index + 1)
  have split := Finset.sum_update_of_mem (Finset.mem_univ index) amounts (amounts index)
  rw [Function.update_eq_self] at split
  rw [updated, split]
  ac_rfl

/-- One assignment in a list removes the contribution of the old entry and adds
that of the new one. -/
theorem countP_set_balance (holds : Entry -> Bool) {entries : List Entry} {position : Nat}
    {old : Entry} (found : entries[position]? = some old) (new : Entry) :
    (entries.set position new).countP holds + (holds old).toNat =
      entries.countP holds + (holds new).toNat := by
  induction entries generalizing position with
  | nil => cases found
  | cons head tail inductionHypothesis =>
      cases position with
      | zero =>
          cases found
          simp only [List.set_cons_zero, List.countP_cons, Bool.toNat, cond_eq_ite]
          omega
      | succ position =>
          have balance := inductionHypothesis found
          simp only [List.set_cons_succ, List.countP_cons]
          omega

/-- One removal from a list removes the contribution of the entry. -/
theorem countP_eraseIdx_balance (holds : Entry -> Bool) {entries : List Entry} {position : Nat}
    {old : Entry} (found : entries[position]? = some old) :
    (entries.eraseIdx position).countP holds + (holds old).toNat = entries.countP holds := by
  induction entries generalizing position with
  | nil => cases found
  | cons head tail inductionHypothesis =>
      cases position with
      | zero =>
          cases found
          simp only [List.eraseIdx_cons_zero, List.countP_cons, Bool.toNat, cond_eq_ite]
      | succ position =>
          have balance := inductionHypothesis found
          simp only [List.eraseIdx_cons_succ, List.countP_cons]
          omega

end Foundations
end Tlpi
