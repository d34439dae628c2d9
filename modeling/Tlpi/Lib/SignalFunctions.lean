import Tlpi.CLibrary.Signals
import Tlpi.CLibrary.Strtol
import Tlpi.Foundations.Numerals

namespace Tlpi
namespace Lib

open CLibrary Foundations

/-!
# Printing a set of signals

One line for each signal of the set, with its number and what the system calls it.
-/

/-- The signals of a set, in order. -/
def listed (sigset : Sigset) : List Nat := (List.range' 1 (NSIG - 1)).filter sigset

/-- `printSigset`; the description of a signal is that of `strsignal`. -/
def printSigset (strsignal : Nat -> List Byte) (before : List Byte) (sigset : Sigset) : List Byte :=
  match listed sigset with
  | [] => before ++ ascii "<empty signal set>\n"
  | sigs =>
      sigs.flatMap (fun sig =>
        before ++ renderNat sig ++ ascii " (" ++ strsignal sig ++ ascii ")\n")

end Lib
end Tlpi
