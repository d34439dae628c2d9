import Mathlib.Data.List.Basic
import Mathlib.Data.List.Count

namespace Tlpi
namespace Foundations

universe u v

/-!
# Histories

A history is the list of what has happened, in order.  A rule for histories says of each
entry what has to be true of everything before it, so a history that keeps the rule is
extended by looking at its new entry alone.  When several parties make entries, each has
its own part of the history, which an entry of another party leaves as it is.
-/

section Rules

variable {Entry : Type u}

/-- Every entry fits what has happened before it. -/
def Throughout (fits : List Entry -> Entry -> Prop) (history : List Entry) : Prop :=
  forall before entry after, history = before ++ entry :: after -> fits before entry

variable {fits : List Entry -> Entry -> Prop} {history : List Entry} {entry : Entry}

theorem throughout_nil : Throughout fits [] := by
  intro before entry after split
  cases before <;> cases split

theorem throughout_concat :
    Throughout fits (history ++ [entry]) <-> Throughout fits history ∧ fits history entry := by
  constructor
  · intro all
    refine ⟨?_, all history entry [] rfl⟩
    intro before earlier after split
    exact all before earlier (after ++ [entry]) (by rw [split, List.append_assoc, List.cons_append])
  · rintro ⟨earlier, now⟩ before other after split
    rcases List.eq_nil_or_concat after with rfl | ⟨rest, last, rfl⟩
    · rcases List.append_inj' split rfl with ⟨same, entries⟩
      cases entries
      rw [← same]
      exact now
    · rw [List.concat_eq_append, ← List.cons_append, ← List.append_assoc] at split
      rcases List.append_inj' split rfl with ⟨same, _⟩
      exact earlier before other rest same

/-- An entry fits what has happened before some occurrence of it. -/
theorem Throughout.exists_of_mem (all : Throughout fits history) (member : entry ∈ history) :
    Exists fun before => before <+: history ∧ fits before entry := by
  rcases List.append_of_mem member with ⟨before, after, split⟩
  exact ⟨before, ⟨entry :: after, split.symm⟩, all before entry after split⟩

end Rules

section Parties

variable {Party : Type u} {Entry : Type v} [DecidableEq Party]

/-- The entries of one party. -/
def entriesOf (party : Party) (history : List (Party × Entry)) : List Entry :=
  (history.filter (fun entry => entry.1 = party)).map Prod.snd

variable {party other : Party} {history : List (Party × Entry)} {entry : Entry}

@[simp] theorem entriesOf_nil : entriesOf party ([] : List (Party × Entry)) = [] := rfl

theorem entriesOf_concat_self (party : Party) (history : List (Party × Entry)) (entry : Entry) :
    entriesOf party (history ++ [(party, entry)]) = entriesOf party history ++ [entry] := by
  unfold entriesOf
  rw [List.filter_append, List.map_append, List.filter_singleton]
  simp

theorem entriesOf_concat_of_ne (different : party ≠ other) (history : List (Party × Entry))
    (entry : Entry) :
    entriesOf party (history ++ [(other, entry)]) = entriesOf party history := by
  unfold entriesOf
  rw [List.filter_append, List.map_append, List.filter_singleton]
  simp [different.symm]

theorem mem_entriesOf : entry ∈ entriesOf party history <-> (party, entry) ∈ history := by
  unfold entriesOf
  constructor
  · intro member
    rcases List.mem_map.mp member with ⟨⟨who, what⟩, there, same⟩
    rcases List.mem_filter.mp there with ⟨found, mine⟩
    cases same
    cases of_decide_eq_true mine
    exact found
  · intro member
    exact List.mem_map.mpr ⟨(party, entry), List.mem_filter.mpr ⟨member, decide_eq_true rfl⟩, rfl⟩

end Parties

end Foundations
end Tlpi
