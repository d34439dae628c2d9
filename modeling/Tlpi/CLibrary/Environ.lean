import Mathlib.Data.List.TakeWhile
import Tlpi.CLibrary.Strtol
import Tlpi.Foundations.Dictionary

namespace Tlpi
namespace CLibrary

open Foundations

/-!
# The environment

The environment is a list of strings of the form `name=value`, at most one for each name.
`putenv` puts a string of that form in, and takes out the name that any other string is;
`setenv` may leave a name as it is.  After `clearenv` there is no list, until something is
put in.
-/

def equals : Byte := 61

/-- A string `name=value`. -/
structure Definition where
  text : List Byte
  isDefinition : equals ∈ text
deriving DecidableEq, Repr

/-- What stands in front of the first equals sign, or the whole string. -/
def nameOf (text : List Byte) : List Byte := text.takeWhile (fun byte => byte ≠ equals)

/-- What stands behind the first equals sign. -/
def valueOf (text : List Byte) : List Byte := text.drop ((nameOf text).length + 1)

def Definition.name (definition : Definition) : List Byte := nameOf definition.text

def Definition.value (definition : Definition) : List Byte := valueOf definition.text

abbrev Environ := Dictionary Definition.name

abbrev Alteration := Dictionary.Edit Definition (List Byte)

/-- What `putenv` does with a string.  `unsetenv` refuses the empty name. -/
def alteration (text : List Byte) : Option Alteration :=
  if isDefinition : equals ∈ text then some (.put ⟨text, isDefinition⟩)
  else if text = [] then none
  else some (.remove text)

/-- An alteration of the list that `environ` points to, if it does. -/
def alter (environ : Option Environ) (change : Alteration) : Option Environ :=
  match environ, change with
  | none, .remove _ => none
  | none, .put definition => some ((Dictionary.empty Definition.name).put definition)
  | some list, change => some (list.edit change)

def putenv (environ : Option Environ) (text : List Byte) : Option Environ :=
  match alteration text with
  | none => environ
  | some change => alter environ change

def unsetenv (environ : Option Environ) (name : List Byte) : Option Environ :=
  alter environ (.remove name)

/-- The list, which is empty where there is none. -/
def listOf (environ : Option Environ) : Environ := environ.getD (Dictionary.empty Definition.name)

theorem listOf_alter (environ : Option Environ) (change : Alteration) :
    listOf (alter environ change) = (listOf environ).edit change := by
  cases environ with
  | some list => rfl
  | none => cases change <;> rfl

theorem listOf_putenv (environ : Option Environ) (text : List Byte) :
    listOf (putenv environ text) = (listOf environ).edits (alteration text).toList := by
  unfold putenv
  cases alteration text with
  | none => rfl
  | some change => exact listOf_alter environ change

theorem alteration_about {text : List Byte} {change : Alteration}
    (altered : alteration text = some change) :
    text ≠ [] ∧ change.about Definition.name = nameOf text ∧
      change.left.map Definition.value = if equals ∈ text then some (valueOf text) else none := by
  unfold alteration at altered
  by_cases isDefinition : equals ∈ text
  · rw [dif_pos isDefinition] at altered
    cases altered
    refine ⟨List.ne_nil_of_mem isDefinition, rfl, ?_⟩
    rw [if_pos isDefinition]
    rfl
  · rw [dif_neg isDefinition] at altered
    by_cases isEmpty : text = []
    · rw [if_pos isEmpty] at altered
      cases altered
    · rw [if_neg isEmpty] at altered
      cases altered
      refine ⟨isEmpty, ?_, ?_⟩
      · symm
        apply List.takeWhile_eq_self_iff.mpr
        intro byte member
        apply decide_eq_true
        intro same
        exact isDefinition (same ▸ member)
      · rw [if_neg isDefinition]
        rfl

theorem alteration_eq_none {text : List Byte} : alteration text = none <-> text = [] := by
  unfold alteration
  by_cases isDefinition : equals ∈ text
  · rw [dif_pos isDefinition]
    exact iff_of_false nofun (List.ne_nil_of_mem isDefinition)
  · rw [dif_neg isDefinition]
    by_cases isEmpty : text = []
    · rw [if_pos isEmpty]
      exact iff_of_true rfl isEmpty
    · rw [if_neg isEmpty]
      exact iff_of_false nofun isEmpty

end CLibrary
end Tlpi
