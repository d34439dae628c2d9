import Mathlib.Data.List.Basic
import Mathlib.Data.List.Nodup

namespace Tlpi
namespace Foundations

universe u v

/-!
# Dictionaries that keep their order

A dictionary is a list of entries no two of which have the same key.  An entry that is put
in takes the place of the one with its key, or comes last.  What can be found under a key
after a number of edits is what the last edit of that key has left there.
-/

variable {Entry : Type u} {Key : Type v} [DecidableEq Key]

structure Dictionary (key : Entry -> Key) where
  entries : List Entry
  distinct : (entries.map key).Nodup

namespace Dictionary

variable {key : Entry -> Key}

def empty (key : Entry -> Key) : Dictionary key := ⟨[], List.nodup_nil⟩

def find (dictionary : Dictionary key) (wanted : Key) : Option Entry :=
  dictionary.entries.find? (fun entry => key entry = wanted)

/-- The new entry in the place of the old one. -/
def replaced (new : Entry) (key : Entry -> Key) (old : Entry) : Entry :=
  if key old = key new then new else old

theorem key_replaced (new old : Entry) : key (replaced new key old) = key old := by
  unfold replaced
  split
  · rename_i same
    exact same.symm
  · rfl

theorem map_key_replaced (new : Entry) (entries : List Entry) :
    (entries.map (replaced new key)).map key = entries.map key := by
  rw [List.map_map]
  apply List.map_congr_left
  intro old _
  exact key_replaced new old

def put (dictionary : Dictionary key) (new : Entry) : Dictionary key :=
  if present : key new ∈ dictionary.entries.map key then
    ⟨dictionary.entries.map (replaced new key), by
      rw [map_key_replaced]
      exact dictionary.distinct⟩
  else
    ⟨dictionary.entries ++ [new], by
      rw [List.map_append, List.map_singleton]
      apply dictionary.distinct.append (List.nodup_singleton _)
      intro other member same
      exact present (List.mem_singleton.mp same ▸ member)⟩

def remove (dictionary : Dictionary key) (unwanted : Key) : Dictionary key where
  entries := dictionary.entries.filter (fun entry => key entry ≠ unwanted)
  distinct := dictionary.distinct.sublist (List.filter_sublist.map key)

theorem find_eq_none {dictionary : Dictionary key} {wanted : Key} :
    dictionary.find wanted = none <-> wanted ∉ dictionary.entries.map key := by
  simp [find, List.find?_eq_none]

theorem mem_of_find {dictionary : Dictionary key} {wanted : Key} {entry : Entry}
    (found : dictionary.find wanted = some entry) : entry ∈ dictionary.entries ∧ key entry = wanted :=
  ⟨List.mem_of_find?_eq_some found, by simpa using List.find?_some found⟩

theorem find_map_replaced (new : Entry) (entries : List Entry) (wanted : Key) :
    (entries.map (replaced new key)).find? (fun entry => key entry = wanted) =
      (entries.find? (fun entry => key entry = wanted)).map (replaced new key) := by
  induction entries with
  | nil => rfl
  | cons first rest inductionHypothesis =>
      have same : key (replaced new key first) = key first := key_replaced new first
      rw [List.map_cons, List.find?_cons, List.find?_cons, same]
      split
      · rfl
      · exact inductionHypothesis

theorem find_put_self (dictionary : Dictionary key) (new : Entry) :
    (dictionary.put new).find (key new) = some new := by
  unfold put find
  split
  · rename_i present
    dsimp only
    rw [find_map_replaced]
    cases found : dictionary.find (key new) with
    | none => exact absurd present (find_eq_none.mp found)
    | some old =>
        unfold find at found
        rw [found, Option.map_some, replaced, if_pos (mem_of_find found).2]
  · rename_i absent
    dsimp only
    have nothing : dictionary.entries.find? (fun entry => key entry = key new) = none :=
      find_eq_none.mpr absent
    rw [List.find?_append, nothing]
    simp

theorem find_put_of_ne (dictionary : Dictionary key) {new : Entry} {wanted : Key}
    (different : wanted ≠ key new) : (dictionary.put new).find wanted = dictionary.find wanted := by
  unfold put find
  split
  · dsimp only
    rw [find_map_replaced]
    cases found : dictionary.find wanted with
    | none =>
        unfold find at found
        rw [found]
        rfl
    | some old =>
        unfold find at found
        have isWanted := (mem_of_find found).2
        rw [found, Option.map_some, replaced, if_neg (isWanted ▸ different)]
  · dsimp only
    rw [List.find?_append]
    simp [Ne.symm different]

theorem find_remove_self (dictionary : Dictionary key) (unwanted : Key) :
    (dictionary.remove unwanted).find unwanted = none := by
  apply find_eq_none.mpr
  intro member
  rcases List.mem_map.mp member with ⟨entry, kept, same⟩
  exact absurd same (of_decide_eq_true (List.mem_filter.mp kept).2)

theorem find_remove_of_ne (dictionary : Dictionary key) {unwanted wanted : Key}
    (different : wanted ≠ unwanted) :
    (dictionary.remove unwanted).find wanted = dictionary.find wanted := by
  unfold remove find
  dsimp only
  induction dictionary.entries with
  | nil => rfl
  | cons first rest inductionHypothesis =>
      rw [List.filter_cons, List.find?_cons]
      by_cases isWanted : key first = wanted
      · simp [isWanted, different]
      · by_cases isUnwanted : key first = unwanted
        · simpa [isWanted, isUnwanted, Ne.symm different] using inductionHypothesis
        · simpa [isWanted, isUnwanted] using inductionHypothesis

/-! ## Edits -/

inductive Edit (Entry : Type u) (Key : Type v) where
  | put (entry : Entry)
  | remove (key : Key)
deriving DecidableEq, Repr

def Edit.about (keyOf : Entry -> Key) : Edit Entry Key -> Key
  | .put entry => keyOf entry
  | .remove key => key

/-- What an edit leaves under its key. -/
def Edit.left : Edit Entry Key -> Option Entry
  | .put entry => some entry
  | .remove _ => none

def edit (dictionary : Dictionary key) : Edit Entry Key -> Dictionary key
  | .put entry => dictionary.put entry
  | .remove unwanted => dictionary.remove unwanted

def edits (dictionary : Dictionary key) (changes : List (Edit Entry Key)) : Dictionary key :=
  changes.foldl edit dictionary

/-- The last edit of a key. -/
def lastEdit (keyOf : Entry -> Key) (wanted : Key) : List (Edit Entry Key) -> Option (Edit Entry Key)
  | [] => none
  | change :: later =>
      (lastEdit keyOf wanted later).or (if change.about keyOf = wanted then some change else none)

theorem find_edit (dictionary : Dictionary key) (change : Edit Entry Key) (wanted : Key) :
    (dictionary.edit change).find wanted =
      if change.about key = wanted then change.left else dictionary.find wanted := by
  cases change with
  | put entry =>
      by_cases same : key entry = wanted
      · rw [Edit.about, if_pos same, ← same]
        exact find_put_self dictionary entry
      · rw [Edit.about, if_neg same]
        exact find_put_of_ne dictionary (Ne.symm same)
  | remove unwanted =>
      by_cases same : unwanted = wanted
      · rw [Edit.about, if_pos same, ← same]
        exact find_remove_self dictionary unwanted
      · rw [Edit.about, if_neg same]
        exact find_remove_of_ne dictionary (Ne.symm same)

/-- The last edit of a key decides. -/
theorem find_edits (dictionary : Dictionary key) (changes : List (Edit Entry Key)) (wanted : Key) :
    (dictionary.edits changes).find wanted =
      match lastEdit key wanted changes with
      | some change => change.left
      | none => dictionary.find wanted := by
  induction changes generalizing dictionary with
  | nil => rfl
  | cons change later inductionHypothesis =>
      rw [edits, List.foldl_cons, ← edits, inductionHypothesis, lastEdit]
      cases lastEdit key wanted later with
      | some last => rfl
      | none =>
          rw [Option.none_or]
          by_cases same : change.about key = wanted
          · rw [if_pos same]
            exact (find_edit dictionary change wanted).trans (if_pos same)
          · rw [if_neg same]
            exact (find_edit dictionary change wanted).trans (if_neg same)

end Dictionary

end Foundations
end Tlpi
