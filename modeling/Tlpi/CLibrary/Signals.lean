import Mathlib.Data.List.Basic
import Mathlib.Logic.Function.Basic

namespace Tlpi
namespace CLibrary

/-!
# Signals of one process

A signal is known by its number.  A signal that is sent becomes pending, stays so
while the mask of the process blocks it, and is then delivered.  A standard signal
that is pending already is lost; a realtime signal is queued.  What delivery does is
the disposition of the signal: a handler, nothing, or its default action.
-/

def NSIG : Nat := 65

def SIGINT : Nat := 2
def SIGQUIT : Nat := 3
def SIGKILL : Nat := 9
def SIGTERM : Nat := 15
def SIGCHLD : Nat := 17
def SIGCONT : Nat := 18
def SIGSTOP : Nat := 19
def SIGTSTP : Nat := 20
def SIGTTIN : Nat := 21
def SIGTTOU : Nat := 22
def SIGURG : Nat := 23
def SIGWINCH : Nat := 28

/-- The signals that the threads library keeps for itself. -/
def reserved (sig : Nat) : Bool := sig = 32 ∨ sig = 33

/-- The signals that are queued. -/
def realtime (sig : Nat) : Bool := 32 ≤ sig

/-- `SIGKILL` and `SIGSTOP` can be neither caught nor blocked. -/
def sovereign (sig : Nat) : Bool := sig = SIGKILL ∨ sig = SIGSTOP

/-- The signals for which `sigaction` can install a handler. -/
def catchable (sig : Nat) : Bool := 1 ≤ sig ∧ sig < NSIG ∧ !sovereign sig ∧ !reserved sig

abbrev Sigset := Nat -> Bool

def sigfillset : Sigset := fun sig => !reserved sig

def sigdelset (set : Sigset) (sig : Nat) : Sigset := Function.update set sig false

/-- The mask of a process. -/
structure SignalMask where
  blocks : Sigset
  unblockable : forall sig, sovereign sig = true -> blocks sig = false

namespace SignalMask

/-- What `sigprocmask` makes of a set, and `sigaction` of an `sa_mask`. -/
def install (set : Sigset) : SignalMask where
  blocks := fun sig => set sig && !sovereign sig
  unblockable := fun sig isSovereign => by rw [isSovereign]; exact Bool.and_false _

/-- The mask while a handler for the signal runs. -/
def during (mask : SignalMask) (sig : Nat) (sa_mask : Sigset) : SignalMask :=
  install (fun other => mask.blocks other || sa_mask other || other = sig)

@[simp] theorem install_blocks (set : Sigset) (sig : Nat) :
    (install set).blocks sig = (set sig && !sovereign sig) := rfl

end SignalMask

/-- A full mask leaves no signal that a handler could catch. -/
theorem catchable_blocked (mask : SignalMask) (current : Nat) {sig : Nat}
    (catches : catchable sig = true) : (mask.during current sigfillset).blocks sig = true := by
  simp only [catchable, decide_eq_true_eq, Bool.not_eq_true'] at catches
  rcases catches with ⟨-, -, notSovereign, notReserved⟩
  simp [SignalMask.during, sigfillset, notSovereign, notReserved]

/-- `siginfo_t`, as far as a handler here reads it. -/
structure Siginfo where
  si_signo : Nat
  si_code : Int
  si_value : Int
  si_pid : Int
  si_uid : Int
deriving DecidableEq, Repr

def SI_USER : Int := 0
def SI_QUEUE : Int := -1

inductive Disposition where
  | SIG_DFL
  | SIG_IGN
  | handler
deriving DecidableEq, Repr

inductive DefaultAction where
  | terminate
  | ignore
  | stop
deriving DecidableEq, Repr

def stopSignal (sig : Nat) : Bool := sig = SIGSTOP ∨ sig = SIGTSTP ∨ sig = SIGTTIN ∨ sig = SIGTTOU

/-- What a signal does without a handler.  A process is continued already when
`SIGCONT` is sent. -/
def defaultAction (sig : Nat) : DefaultAction :=
  if stopSignal sig then .stop
  else if sig = SIGCHLD ∨ sig = SIGCONT ∨ sig = SIGURG ∨ sig = SIGWINCH then .ignore
  else .terminate

/-- The signals that are pending, in the order in which they came. -/
abbrev Pending := List Siginfo

namespace Pending

/-- Another signal is sent.  `SIGCONT` and the signals that stop a process discard
each other.  The limit `RLIMIT_SIGPENDING` on queued signals is not reached. -/
def generate (pending : Pending) (info : Siginfo) : Pending :=
  let kept :=
    if info.si_signo = SIGCONT then pending.filter (fun other => !stopSignal other.si_signo)
    else if stopSignal info.si_signo then
      pending.filter (fun other => other.si_signo ≠ SIGCONT)
    else pending
  if realtime info.si_signo = false ∧ kept.any (fun other => other.si_signo = info.si_signo) then kept
  else kept ++ [info]

/-- The first pending signal with the number, and those that stay pending. -/
def take (pending : Pending) (sig : Nat) : Option (Siginfo × Pending) :=
  (pending.find? (fun info => info.si_signo = sig)).map
    (fun info => (info, pending.eraseP (fun other => other.si_signo = sig)))

end Pending

end CLibrary
end Tlpi
