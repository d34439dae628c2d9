import Tlpi.CLibrary.WaitStatus

namespace Tlpi
namespace Lib

open CLibrary Foundations

/-!
# Printing a wait status

`printWaitStatus` takes the number apart with the macros and prints a line.  For the
numbers that the kernel makes, the line says what has happened, and no two things that
may happen to a child have the same line, whatever the descriptions of the signals are.
-/

/-- The text of `%x`. -/
def renderHex (value : Nat) : List Byte :=
  (Nat.toDigits 16 value).map (fun char => UInt8.ofNat char.toNat)

/-- `printWaitStatus(msg, status)`, with what it writes to the standard output. -/
def printWaitStatus (strsignal : Nat -> List Byte) (msg : Option (List Byte)) (status : BitVec 32) :
    List Byte :=
  msg.getD [] ++
    if WIFEXITED status then
      ascii "child exited, status=" ++ renderNat (WEXITSTATUS status).toNat ++ [newline]
    else if WIFSIGNALED status then
      ascii "child killed by signal " ++ renderNat (WTERMSIG status).toNat ++ ascii " (" ++
        strsignal (WTERMSIG status).toNat ++ ascii ")" ++
        (if WCOREDUMP status then ascii " (core dumped)" else []) ++ [newline]
    else if WIFSTOPPED status then
      ascii "child stopped by signal " ++ renderNat (WSTOPSIG status).toNat ++ ascii " (" ++
        strsignal (WSTOPSIG status).toNat ++ ascii ")" ++ [newline]
    else if WIFCONTINUED status then ascii "child continued" ++ [newline]
    else
      ascii "what happened to this child? (status=" ++ renderHex status.toNat ++ ascii ")" ++ [newline]

/-- The line that says what has happened. -/
def changeLine (strsignal : Nat -> List Byte) : StatusChange -> List Byte
  | .exited status => ascii "child exited, status=" ++ renderNat status.toNat ++ [newline]
  | .killed signal core =>
      ascii "child killed by signal " ++ renderNat signal.number ++ ascii " (" ++
        strsignal signal.number ++ ascii ")" ++ (if core then ascii " (core dumped)" else []) ++
        [newline]
  | .stopped signal =>
      ascii "child stopped by signal " ++ renderNat signal.number ++ ascii " (" ++
        strsignal signal.number ++ ascii ")" ++ [newline]
  | .continued => ascii "child continued" ++ [newline]

theorem printWaitStatus_eq (strsignal : Nat -> List Byte) (msg : Option (List Byte))
    (change : StatusChange) :
    printWaitStatus strsignal msg change.waitStatus = msg.getD [] ++ changeLine strsignal change := by
  unfold printWaitStatus
  cases change with
  | exited status =>
      rcases waitStatus_exited status with ⟨exited, value⟩
      rw [if_pos exited, value]
      rfl
  | killed signal core =>
      rcases waitStatus_killed signal core with ⟨notExited, killed, value, dumped⟩
      rw [notExited, if_neg Bool.false_ne_true, if_pos killed, value, dumped]
      rfl
  | stopped signal =>
      rcases waitStatus_stopped signal with ⟨notExited, notKilled, stopped, value⟩
      rw [notExited, notKilled, if_neg Bool.false_ne_true, if_neg Bool.false_ne_true, if_pos stopped,
        value]
      rfl
  | continued =>
      rcases waitStatus_continued with ⟨notExited, notKilled, notStopped, continued⟩
      rw [notExited, notKilled, notStopped, if_neg Bool.false_ne_true, if_neg Bool.false_ne_true,
        if_neg Bool.false_ne_true, if_pos continued]
      rfl

/-- The letter by which the lines differ. -/
def changeLetter : StatusChange -> Byte
  | .exited _ => 101
  | .killed _ _ => 107
  | .stopped _ => 115
  | .continued => 99

theorem getElem?_changeLine (strsignal : Nat -> List Byte) (change : StatusChange) :
    (changeLine strsignal change)[6]? = some (changeLetter change) := by
  cases change <;> rfl

theorem isDigit_newline : isDigit 10 newline = false := by decide

theorem isDigit_space : isDigit 10 32 = false := by decide

theorem signalNumber_ext {first second : SignalNumber} (same : first.number = second.number) :
    first = second := by
  rcases first with ⟨number, positive, bounded⟩
  cases same
  rfl

/-- What follows the number of a signal tells a core dump. -/
theorem dumped_inj {core other : Bool}
    (same : (if core then ascii " (core dumped)" else []) ++ [newline] =
      (if other then ascii " (core dumped)" else []) ++ [newline]) : core = other := by
  cases core <;> cases other <;> first | rfl | cases same

theorem changeLine_injective (strsignal : Nat -> List Byte) {first second : StatusChange}
    (same : changeLine strsignal first = changeLine strsignal second) : first = second := by
  have letters := congrArg (fun text => text[6]?) same
  simp only [getElem?_changeLine, Option.some.injEq] at letters
  cases first with
  | exited status =>
      cases second with
      | exited other =>
          simp only [changeLine, List.append_assoc] at same
          have values := renderNat_append_inj isDigit_newline (List.append_cancel_left same)
          rw [UInt8.toNat_inj.mp values.1]
      | killed _ _ | stopped _ | continued => simp [changeLetter] at letters
  | killed signal core =>
      cases second with
      | killed other otherCore =>
          simp only [changeLine, List.append_assoc] at same
          have values := renderNat_append_inj isDigit_space (List.append_cancel_left same)
          have numbers := signalNumber_ext values.1
          cases numbers
          have tails := List.append_cancel_left (List.append_cancel_left
            (List.append_cancel_left values.2))
          rw [dumped_inj tails]
      | exited _ | stopped _ | continued => simp [changeLetter] at letters
  | stopped signal =>
      cases second with
      | stopped other =>
          simp only [changeLine, List.append_assoc] at same
          have values := renderNat_append_inj isDigit_space (List.append_cancel_left same)
          rw [signalNumber_ext values.1]
      | exited _ | killed _ _ | continued => simp [changeLetter] at letters
  | continued =>
      cases second with
      | continued => rfl
      | exited _ | killed _ _ | stopped _ => simp [changeLetter] at letters

/-- What is printed of a change tells the change. -/
theorem printWaitStatus_injective (strsignal : Nat -> List Byte) (msg : Option (List Byte)) :
    Function.Injective (fun change : StatusChange => printWaitStatus strsignal msg change.waitStatus) := by
  intro first second same
  dsimp only at same
  rw [printWaitStatus_eq, printWaitStatus_eq] at same
  exact changeLine_injective strsignal (List.append_cancel_left same)

end Lib
end Tlpi
