import Tlpi.CLibrary.Environ
import Tlpi.Lib.ProgramEnd

namespace Tlpi
namespace Process
namespace ModifyEnv

open CLibrary Foundations Lib

/-!
# Changing the environment

`modify_env` erases its environment, and puts its arguments in, one after the other.  It
adds `GREET` unless that is there, removes `BYE`, and prints what there is then.

An argument that is no definition takes its name out of the environment.  Where the list
of the environment is not there at the end, the loop that prints it would go through a null
pointer.
-/

def GREET : Definition := ⟨ascii "GREET=Hello world", by decide⟩

def BYE : List Byte := ascii "BYE"

/-- The lines that are printed, and how the program ends. -/
structure Outcome where
  lines : List (List Byte)
  ended : ProgramEnd
deriving DecidableEq, Repr

/-- The loop over the arguments; `refuses` says for which of them there is no memory. -/
def putArguments (dumpcore : Option String) (refuses : Nat -> Option Errno) :
    Nat -> List (List Byte) -> Option Environ -> Except Failure (Option Environ)
  | _, [], environ => .ok environ
  | j, word :: later, environ =>
      match if equals ∈ word then refuses j else none with
      | some errno => .error (errExit dumpcore errno ("putenv: " ++ textOf word))
      | none => putArguments dumpcore refuses (j + 1) later (putenv environ word)

/-- `setenv("GREET", "Hello world", 0)`. -/
def addGreeting (dumpcore : Option String) (refuses : Option Errno) (environ : Option Environ) :
    Except Failure (Option Environ) :=
  match (listOf environ).find GREET.name with
  | some _ => .ok environ
  | none =>
      match refuses with
      | some errno => .error (errExit dumpcore errno "setenv")
      | none => .ok (alter environ (.put GREET))

/-- What is printed, if there is a list. -/
def display (environ : Option Environ) : Option Outcome :=
  environ.map (fun list => ⟨list.entries.map Definition.text, .success⟩)

/-- `main`; the call of `setenv` is counted behind the arguments.  There is no result where
the behaviour is undefined. -/
def modifyEnv (dumpcore : Option String) (argv : List (List Byte)) (refuses : Nat -> Option Errno) :
    Option Outcome :=
  match putArguments dumpcore refuses 1 argv.tail none with
  | .error failure => some ⟨[], .failed failure⟩
  | .ok environ =>
      match addGreeting dumpcore (refuses argv.length) environ with
      | .error failure => some ⟨[], .failed failure⟩
      | .ok environ => display (unsetenv environ BYE)

/-! ## What is left in the environment -/

/-- The value that the last argument about a name gives to it; an argument that takes the
name out gives none. -/
def given (name : List Byte) : List (List Byte) -> Option (Option (List Byte))
  | [] => none
  | word :: later =>
      (given name later).or
        (if word ≠ [] ∧ nameOf word = name then
          some (if equals ∈ word then some (valueOf word) else none)
        else none)

/-- The value that a name has in the end. -/
def wanted (arguments : List (List Byte)) (name : List Byte) : Option (List Byte) :=
  if name = BYE then none
  else if name = GREET.name then some ((given name arguments).join.getD GREET.value)
  else (given name arguments).join

/-- The lines are definitions of different names, which have the values that they should. -/
def Shown (arguments lines : List (List Byte)) : Prop :=
  Exists fun environ : Environ => lines = environ.entries.map Definition.text ∧
    forall name, (environ.find name).map Definition.value = wanted arguments name

def alterations (arguments : List (List Byte)) : List Alteration := arguments.filterMap alteration

theorem alterations_cons (word : List Byte) (later : List (List Byte)) :
    alterations (word :: later) = (alteration word).toList ++ alterations later := by
  unfold alterations
  rw [List.filterMap_cons]
  cases alteration word with
  | none => rfl
  | some change => rfl

/-- The loop makes the alterations in their order. -/
theorem putArguments_list {dumpcore : Option String} {refuses : Nat -> Option Errno} {j : Nat}
    {arguments : List (List Byte)} {environ result : Option Environ}
    (done : putArguments dumpcore refuses j arguments environ = .ok result) :
    listOf result = (listOf environ).edits (alterations arguments) := by
  induction arguments generalizing j environ with
  | nil =>
      cases done
      rfl
  | cons word later inductionHypothesis =>
      rw [putArguments] at done
      split at done
      · cases done
      · have rest := inductionHypothesis done
        rw [rest, listOf_putenv, alterations_cons, Dictionary.edits, Dictionary.edits,
          Dictionary.edits, List.foldl_append]

theorem putArguments_granted {refuses : Nat -> Option Errno} (granted : forall j, refuses j = none)
    (dumpcore : Option String) (j : Nat) (arguments : List (List Byte)) (environ : Option Environ) :
    Exists fun result => putArguments dumpcore refuses j arguments environ = .ok result := by
  induction arguments generalizing j environ with
  | nil => exact ⟨environ, rfl⟩
  | cons word later inductionHypothesis =>
      rw [putArguments, granted j, ite_self]
      exact inductionHypothesis (j + 1) (putenv environ word)

/-- The last alteration of a name is that of the last argument about it. -/
theorem lastEdit_alterations (name : List Byte) (arguments : List (List Byte)) :
    (Dictionary.lastEdit Definition.name name (alterations arguments)).map
      (fun change => change.left.map Definition.value) = given name arguments := by
  induction arguments with
  | nil => rfl
  | cons word later inductionHypothesis =>
      rw [alterations_cons, given, ← inductionHypothesis]
      cases altered : alteration word with
      | none =>
          rw [if_neg (fun both => both.1 (alteration_eq_none.mp altered)), Option.or_none]
          rfl
      | some change =>
          rcases alteration_about altered with ⟨nonempty, about, left⟩
          rw [Option.toList_some, List.singleton_append, Dictionary.lastEdit, about]
          cases Dictionary.lastEdit Definition.name name (alterations later) with
          | some last => rfl
          | none =>
              rw [Option.none_or, Option.map_none, Option.none_or]
              by_cases same : nameOf word = name
              · rw [if_pos same, if_pos ⟨nonempty, same⟩, Option.map_some, left]
              · rw [if_neg same, if_neg (fun both => same both.2)]
                rfl

/-- What can be found after the loop. -/
theorem find_putArguments {dumpcore : Option String} {refuses : Nat -> Option Errno}
    {arguments : List (List Byte)} {result : Option Environ}
    (done : putArguments dumpcore refuses 1 arguments none = .ok result) (name : List Byte) :
    ((listOf result).find name).map Definition.value = (given name arguments).join := by
  rw [putArguments_list done, Dictionary.find_edits, ← lastEdit_alterations]
  cases Dictionary.lastEdit Definition.name name (alterations arguments) with
  | none => rfl
  | some last => rfl

/-- The greeting is there, and everything else is as it was. -/
theorem addGreeting_spec {dumpcore : Option String} {refuses : Option Errno}
    {environ result : Option Environ} (done : addGreeting dumpcore refuses environ = .ok result) :
    result.isSome = true ∧ forall name, ((listOf result).find name).map Definition.value =
      if name = GREET.name then
        some ((((listOf environ).find name).map Definition.value).getD GREET.value)
      else ((listOf environ).find name).map Definition.value := by
  unfold addGreeting at done
  cases found : (listOf environ).find GREET.name with
  | some definition =>
      rw [found] at done
      cases done
      constructor
      · cases environ with
        | none => cases found
        | some list => rfl
      · intro name
        by_cases same : name = GREET.name
        · rw [if_pos same, same, found]
          rfl
        · rw [if_neg same]
  | none =>
      rw [found] at done
      dsimp only at done
      split at done
      · cases done
      · cases done
        constructor
        · cases environ with
          | none => rfl
          | some list => rfl
        · intro name
          rw [listOf_alter, Dictionary.find_edit]
          by_cases same : name = GREET.name
          · rw [if_pos same, same, found, Dictionary.Edit.about, if_pos rfl]
            rfl
          · rw [if_neg same, Dictionary.Edit.about, if_neg (Ne.symm same)]

/-- `main` always has a list to print.  When there is memory for everything it is successful,
and then the last argument about a name decides. -/
theorem environment_shown (dumpcore : Option String) (argv : List (List Byte))
    (refuses : Nat -> Option Errno) : Exists fun outcome =>
      modifyEnv dumpcore argv refuses = some outcome ∧
        ((forall j, refuses j = none) -> outcome.ended = .success) ∧
        (outcome.ended = .success -> Shown argv.tail outcome.lines) := by
  unfold modifyEnv
  cases put : putArguments dumpcore refuses 1 argv.tail none with
  | error failure =>
      refine ⟨⟨[], .failed failure⟩, rfl, ?_, nofun⟩
      intro granted
      rcases putArguments_granted granted dumpcore 1 argv.tail none with ⟨result, done⟩
      cases put.symm.trans done
  | ok environ =>
      dsimp only
      cases greeted : addGreeting dumpcore (refuses argv.length) environ with
      | error failure =>
          refine ⟨⟨[], .failed failure⟩, rfl, ?_, nofun⟩
          intro granted
          unfold addGreeting at greeted
          rw [granted] at greeted
          split at greeted
          · cases greeted
          · cases greeted
      | ok result =>
          rcases addGreeting_spec greeted with ⟨present, values⟩
          cases result with
          | none => cases present
          | some list =>
              refine ⟨⟨(list.remove BYE).entries.map Definition.text, .success⟩, rfl, fun _ => rfl, ?_⟩
              intro _
              refine ⟨list.remove BYE, rfl, ?_⟩
              intro name
              unfold wanted
              by_cases isBye : name = BYE
              · rw [if_pos isBye, isBye, Dictionary.find_remove_self]
                rfl
              · rw [if_neg isBye, Dictionary.find_remove_of_ne list isBye, ← find_putArguments put name]
                exact values name

/-- The second definition of a name takes the place of the first one. -/
example : (modifyEnv none [ascii "modify_env", ascii "A=1", ascii "B=2", ascii "BYE=3", ascii "A=4"]
    (fun _ => none)).map Outcome.lines = some [ascii "A=4", ascii "B=2", ascii "GREET=Hello world"] := by
  decide +kernel

end ModifyEnv
end Process
end Tlpi
