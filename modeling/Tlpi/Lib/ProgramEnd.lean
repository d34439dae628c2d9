import Tlpi.Lib.ErrorFunctions
import Tlpi.Lib.GetNum

namespace Tlpi
namespace Lib

open CLibrary Foundations

/-!
# How a program ends

A program that runs to its end exits successfully.  One that is started with arguments
that it cannot use writes a diagnostic to its standard error output and exits, through
`usageErr`, `cmdLineErr` or the functions for numeric arguments.  One whose call fails
ends through the functions that report the error.
-/

inductive ProgramEnd where
  | success
  | badArguments (text : List Byte)
  | failed (failure : Failure)
deriving DecidableEq, Repr

/-- `usageErr`, with the formatted text. -/
def usageErr (text : List Byte) : ProgramEnd :=
  .badArguments (ascii "Usage: " ++ text ++ [newline])

/-- `cmdLineErr`, with the formatted text. -/
def cmdLineErr (text : List Byte) : ProgramEnd :=
  .badArguments (ascii "Command-line usage error: " ++ text ++ [newline])

/-- A numeric argument was refused, by `getInt` or `getLong`. -/
def Refuses (result : Except (List Byte) Int) : Prop := forall value, result ≠ .ok value

theorem refuses_error (diagnostic : List Byte) : Refuses (.error diagnostic) := by
  intro value same
  cases same

theorem not_refuses_ok (value : Int) : ¬ Refuses (.ok value) := fun refuses => refuses value rfl

end Lib
end Tlpi
