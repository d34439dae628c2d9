import Tlpi.CLibrary.Descriptor

namespace Tlpi
namespace Lib

open CLibrary

/-!
# Diagnosing an error and terminating

The functions that end a process differ in the text they write and in the call
they end with.  Which call that is decides whether the handlers registered with
`atexit` run: `exit` runs them, `_exit` and `abort` do not.
-/

inductive Termination where
  | abort
  | exit
  | quickExit
deriving DecidableEq, Repr

/-- Only `exit(3)` runs the handlers registered with `atexit`. -/
def Termination.runsHandlers : Termination -> Bool
  | .exit => true
  | .abort | .quickExit => false

/-- `terminate(useExit3)`.  The environment variable `EF_DUMPCORE`, when it is
defined and not empty, turns the end into an `abort`. -/
def terminate (dumpcore : Option String) (useExit3 : Bool) : Termination :=
  match dumpcore with
  | some value => if value ≠ "" then .abort else if useExit3 then .exit else .quickExit
  | none => if useExit3 then .exit else .quickExit

/-- What a failing process reports and how it ends. -/
structure Failure where
  errno : Option Errno
  message : String
  termination : Termination
deriving DecidableEq, Repr

/-- Report the message with the error, and terminate. -/
def errExit (dumpcore : Option String) (errno : Errno) (message : String) : Failure :=
  ⟨some errno, message, terminate dumpcore true⟩

/-- Report the message with the error, and terminate without running handlers. -/
def err_exit (dumpcore : Option String) (errno : Errno) (message : String) : Failure :=
  ⟨some errno, message, terminate dumpcore false⟩

/-- Report the message alone, and terminate. -/
def fatal (dumpcore : Option String) (message : String) : Failure :=
  ⟨none, message, terminate dumpcore true⟩

end Lib
end Tlpi
