import Mathlib.Logic.Function.Basic
import Tlpi.CLibrary.Descriptor

namespace Tlpi
namespace ProcessExecute

open CLibrary

/-!
# `system`: running a shell command with signals set aside

The function blocks `SIGCHLD`, ignores `SIGINT` and `SIGQUIT`, forks a shell and
waits for it, and puts the caller's signal state back on one exit path.  That
path is reached when `fork` fails, when `waitpid` succeeds after any number of
interruptions, and when it fails otherwise.  The child never reaches it.

Four objects are saved at the start.  The exit path restores the mask from the
first and `SIGINT` from the second, but `SIGQUIT` from the second as well.  The
model keeps each saved object under its own name, and the theorem at the end
says for which callers the mix-up cannot be seen.
-/

/-- The signals that the function names, and all others by number. -/
inductive Signal where
  | SIGINT
  | SIGQUIT
  | SIGCHLD
  | other (number : Nat)
deriving DecidableEq, Repr

abbrev SigSet := Signal -> Bool

/-- `sa_handler`: the default action, ignoring, or a function by its address. -/
inductive Handler where
  | SIG_DFL
  | SIG_IGN
  | function (address : Nat)
deriving DecidableEq, Repr

/-- `struct sigaction`. -/
structure SigAction where
  handler : Handler
  flags : Nat
  mask : SigSet

/-- The part of a process that the function reads and writes. -/
structure ProcessState where
  mask : SigSet
  disposition : Signal -> SigAction
  errno : Errno

/-- A call that succeeds may still leave any value in `errno`; this is the
value it leaves, from the one it found. -/
structure Kernel where
  errnoAfter : Errno -> Errno

def sigemptyset : SigSet := fun _ => false

def sigaddset (set : SigSet) (signal : Signal) : SigSet := Function.update set signal true

/-- The two uses of `sigprocmask` in the function. -/
inductive MaskChange where
  | SIG_BLOCK
  | SIG_SETMASK
deriving DecidableEq, Repr

/-- `sigprocmask(how, &set, &old)`: the old mask and the state after the call. -/
def sigprocmask (kernel : Kernel) (how : MaskChange) (set : SigSet) (state : ProcessState) :
    SigSet × ProcessState :=
  (state.mask,
    { state with
      mask := match how with
        | .SIG_BLOCK => fun signal => state.mask signal || set signal
        | .SIG_SETMASK => set
      errno := kernel.errnoAfter state.errno })

/-- `sigaction(signal, &action, &old)`: the old disposition and the state after
the call. -/
def sigaction (kernel : Kernel) (signal : Signal) (action : SigAction) (state : ProcessState) :
    SigAction × ProcessState :=
  (state.disposition signal,
    { state with
      disposition := Function.update state.disposition signal action
      errno := kernel.errnoAfter state.errno })

/-- One return of `waitpid`. -/
inductive WaitResult where
  | failed (errno : Errno)
  | reaped (status : Int)
deriving DecidableEq, Repr

/-- One return of `fork`.  In the child it comes with the outcome of `execl`,
in the parent with the returns of `waitpid` to come. -/
inductive ForkResult where
  | failed (errno : Errno)
  | child (execErrno : Option Errno)
  | parent (childPid : Nat) (waits : List WaitResult)
deriving DecidableEq, Repr

/-- What becomes of a call: it returns in the caller, the child becomes the
shell or exits, or the parent is still waiting. -/
inductive SystemOutcome where
  | returned (status : Int) (after : ProcessState)
  | execed (path : String) (arguments : List String) (image : ProcessState)
  | exited (code : Nat) (last : ProcessState)
  | waiting (blocked : ProcessState)

/-- The `while` loop around `waitpid`, with the `status` it leaves. -/
def waitChild : List WaitResult -> ProcessState -> Option (Int × ProcessState)
  | [], _ => none
  | .reaped status :: _, state => some (status, state)
  | .failed errno :: rest, state =>
      if errno ≠ .EINTR then some (-1, { state with errno := errno })
      else waitChild rest { state with errno := errno }

/-- The common exit, with the objects it restores from.  `SIGQUIT` is restored
from `saOrigInt`, as the source has it. -/
def restoreAndReturn (kernel : Kernel) (origMask : SigSet) (saOrigInt : SigAction) (status : Int)
    (state : ProcessState) : SystemOutcome :=
  let savedErrno := state.errno
  let state := (sigprocmask kernel .SIG_SETMASK origMask state).2
  let state := (sigaction kernel .SIGINT saOrigInt state).2
  let state := (sigaction kernel .SIGQUIT saOrigInt state).2
  .returned status { state with errno := savedErrno }

/-- The `case 0` branch: the child resets what the caller did not ignore,
restores the mask, and becomes the shell or exits with 127. -/
def runChild (kernel : Kernel) (command : String) (origMask : SigSet) (saOrigInt saOrigQuit : SigAction)
    (execErrno : Option Errno) (state : ProcessState) : SystemOutcome :=
  let saDefault : SigAction := ⟨.SIG_DFL, 0, sigemptyset⟩
  let state :=
    if saOrigInt.handler ≠ .SIG_IGN then (sigaction kernel .SIGINT saDefault state).2 else state
  let state :=
    if saOrigQuit.handler ≠ .SIG_IGN then (sigaction kernel .SIGQUIT saDefault state).2 else state
  let state := (sigprocmask kernel .SIG_SETMASK origMask state).2
  match execErrno with
  | none => .execed "/bin/sh" ["sh", "-c", command] state
  | some errno => .exited 127 { state with errno := errno }

/-- The body that `system` and `my_system` share, for a command that is not
null. -/
def runCommand (kernel : Kernel) (command : String) (fork : ForkResult) (state : ProcessState) :
    SystemOutcome :=
  let blockMask := sigaddset sigemptyset .SIGCHLD
  let (origMask, state) := sigprocmask kernel .SIG_BLOCK blockMask state
  let saIgnore : SigAction := ⟨.SIG_IGN, 0, sigemptyset⟩
  let (saOrigInt, state) := sigaction kernel .SIGINT saIgnore state
  let (saOrigQuit, state) := sigaction kernel .SIGQUIT saIgnore state
  match fork with
  | .failed errno => restoreAndReturn kernel origMask saOrigInt (-1) { state with errno := errno }
  | .child execErrno => runChild kernel command origMask saOrigInt saOrigQuit execErrno state
  | .parent _ waits =>
      match waitChild waits state with
      | none => .waiting state
      | some (status, state) => restoreAndReturn kernel origMask saOrigInt status state

/-- The answer to a null command: whether the shell exited with status zero. -/
def SystemOutcome.shellAvailable : SystemOutcome -> SystemOutcome
  | .returned status after => .returned (if status = 0 then 1 else 0) after
  | outcome => outcome

/-- `system(command)`. -/
def system (kernel : Kernel) (command : Option String) (fork : ForkResult) (state : ProcessState) :
    SystemOutcome :=
  match command with
  | none => (runCommand kernel ":" fork state).shellAvailable
  | some command => runCommand kernel command fork state

/-- `my_system(command)`.  Its null command calls the `system` of the C library,
which is a parameter here. -/
def mySystem (librarySystem : String -> ProcessState -> SystemOutcome) (kernel : Kernel)
    (command : Option String) (fork : ForkResult) (state : ProcessState) : SystemOutcome :=
  match command with
  | none => (librarySystem ":" state).shellAvailable
  | some command => runCommand kernel command fork state

/-! ## The caller's signal state -/

/-- The mask and both dispositions are those at entry. -/
def SignalStatePreserved (before after : ProcessState) : Prop :=
  after.mask = before.mask ∧
    after.disposition .SIGINT = before.disposition .SIGINT ∧
    after.disposition .SIGQUIT = before.disposition .SIGQUIT

/-- The outcomes of `fork` and `waitpid` with which the caller gets an answer. -/
def ForkResult.Returns : ForkResult -> Prop
  | .failed _ => True
  | .child _ => False
  | .parent _ waits => Exists fun result => result ∈ waits ∧ result ≠ .failed .EINTR

/-- Waiting changes no signal state, and ends at the first return that is not
an interruption. -/
theorem waitChild_frame {waits : List WaitResult} {state after : ProcessState} {status : Int}
    (waited : waitChild waits state = some (status, after)) :
    after.mask = state.mask ∧ after.disposition = state.disposition := by
  induction waits generalizing state with
  | nil => cases waited
  | cons result rest inductionHypothesis =>
      cases result with
      | reaped reapedStatus =>
          cases waited
          exact ⟨rfl, rfl⟩
      | failed errno =>
          unfold waitChild at waited
          split at waited
          · cases waited
            exact ⟨rfl, rfl⟩
          · have frame := inductionHypothesis waited
            exact frame

theorem waitChild_isSome_iff (waits : List WaitResult) (state : ProcessState) :
    (waitChild waits state).isSome = true <->
      Exists fun result => result ∈ waits ∧ result ≠ .failed .EINTR := by
  induction waits generalizing state with
  | nil => simp [waitChild]
  | cons result rest inductionHypothesis =>
      cases result with
      | reaped status => simp [waitChild]
      | failed errno =>
          by_cases interrupted : errno = .EINTR
          · simp [waitChild, interrupted, inductionHypothesis]
          · simp [waitChild, interrupted]

/-- The exit path puts the mask back and gives `SIGINT` and `SIGQUIT` the same
saved disposition.  It keeps the `errno` it was entered with. -/
theorem restoreAndReturn_eq {kernel : Kernel} {origMask : SigSet} {saOrigInt : SigAction}
    {status returned : Int} {state after : ProcessState}
    (exited : restoreAndReturn kernel origMask saOrigInt status state = .returned returned after) :
    returned = status ∧ after.mask = origMask ∧ after.errno = state.errno ∧
      after.disposition .SIGINT = saOrigInt ∧ after.disposition .SIGQUIT = saOrigInt ∧
      forall signal, signal ≠ .SIGINT -> signal ≠ .SIGQUIT ->
        after.disposition signal = state.disposition signal := by
  cases exited
  refine ⟨rfl, rfl, rfl, ?_, ?_, ?_⟩
  · simp [sigaction]
  · simp [sigaction]
  · intro signal notInt notQuit
    simp [sigaction, sigprocmask, notInt, notQuit]

theorem runCommand_returned {kernel : Kernel} {command : String} {fork : ForkResult}
    {before after : ProcessState} {status : Int}
    (returned : runCommand kernel command fork before = .returned status after) :
    after.mask = before.mask ∧
      after.disposition .SIGINT = before.disposition .SIGINT ∧
      after.disposition .SIGQUIT = before.disposition .SIGINT := by
  cases fork with
  | failed errno =>
      have exited := restoreAndReturn_eq returned
      exact ⟨exited.2.1, exited.2.2.2.1, exited.2.2.2.2.1⟩
  | child execErrno => cases execErrno <;> cases returned
  | parent childPid waits =>
      simp only [runCommand] at returned
      split at returned
      · cases returned
      · have exited := restoreAndReturn_eq returned
        exact ⟨exited.2.1, exited.2.2.2.1, exited.2.2.2.2.1⟩

/-- No other disposition is touched, whatever handlers the caller has. -/
theorem runCommand_frame {kernel : Kernel} {command : String} {fork : ForkResult}
    {before after : ProcessState} {status : Int}
    (returned : runCommand kernel command fork before = .returned status after)
    {signal : Signal} (notInt : signal ≠ .SIGINT) (notQuit : signal ≠ .SIGQUIT) :
    after.disposition signal = before.disposition signal := by
  have setAside : forall action : SigAction,
      Function.update (Function.update before.disposition .SIGINT action) .SIGQUIT action signal =
        before.disposition signal := by
    intro action
    rw [Function.update_of_ne notQuit, Function.update_of_ne notInt]
  cases fork with
  | failed errno =>
      exact ((restoreAndReturn_eq returned).2.2.2.2.2 signal notInt notQuit).trans (setAside _)
  | child execErrno => cases execErrno <;> cases returned
  | parent childPid waits =>
      simp only [runCommand] at returned
      split at returned
      · cases returned
      · rename_i waitStatus waitedState waited
        have frame := (waitChild_frame waited).2
        have exited := (restoreAndReturn_eq returned).2.2.2.2.2 signal notInt notQuit
        rw [exited, frame]
        exact setAside _

/-- The caller gets an answer exactly when `fork` fails or some `waitpid` does
not report an interruption. -/
theorem runCommand_returns_iff (kernel : Kernel) (command : String) (fork : ForkResult)
    (before : ProcessState) :
    (Exists fun status => Exists fun after =>
      runCommand kernel command fork before = .returned status after) <-> fork.Returns := by
  cases fork with
  | failed errno => exact ⟨fun _ => trivial, fun _ => ⟨_, _, rfl⟩⟩
  | child execErrno =>
      refine ⟨?_, fun impossible => impossible.elim⟩
      rintro ⟨status, after, returned⟩
      cases execErrno <;> cases returned
  | parent childPid waits =>
      unfold ForkResult.Returns
      simp only [runCommand]
      rw [← waitChild_isSome_iff waits]
      split
      · rename_i still
        rw [still]
        constructor
        · rintro ⟨status, after, impossible⟩
          cases impossible
        · intro impossible
          cases impossible
      · rename_i status state waited
        rw [waited]
        exact ⟨fun _ => rfl, fun _ => ⟨_, _, rfl⟩⟩

/-- For both copies, and for every entry state and every outcome of `fork` and
`waitpid` with which the call returns in the caller, the caller's signal state
is preserved exactly when `SIGINT` and `SIGQUIT` had the same disposition. -/
theorem system_preserves_signal_state_iff
    (librarySystem : String -> ProcessState -> SystemOutcome) (kernel : Kernel) (command : String)
    (fork : ForkResult) (returns : fork.Returns) (before : ProcessState) :
    (Exists fun status => Exists fun after =>
      system kernel (some command) fork before = .returned status after ∧
      (SignalStatePreserved before after <->
        before.disposition .SIGINT = before.disposition .SIGQUIT)) ∧
    (Exists fun status => Exists fun after =>
      mySystem librarySystem kernel (some command) fork before = .returned status after ∧
      (SignalStatePreserved before after <->
        before.disposition .SIGINT = before.disposition .SIGQUIT)) := by
  rcases (runCommand_returns_iff kernel command fork before).mpr returns with ⟨status, after, returned⟩
  rcases runCommand_returned returned with ⟨mask, atInt, atQuit⟩
  have preserved : SignalStatePreserved before after <->
      before.disposition .SIGINT = before.disposition .SIGQUIT := by
    unfold SignalStatePreserved
    rw [mask, atInt, atQuit]
    exact ⟨fun kept => kept.2.2, fun same => ⟨rfl, rfl, same⟩⟩
  exact ⟨⟨status, after, returned, preserved⟩, ⟨status, after, returned, preserved⟩⟩

/-- A caller with one handler for both signals, whose `waitpid` is interrupted
once, finds its signal state preserved by both copies. -/
theorem system_preserves_signal_state_iff_one_handler :
    let before : ProcessState := ⟨fun _ => false, fun _ => ⟨.function 4096, 2, sigemptyset⟩, .ENOENT⟩
    let fork : ForkResult := .parent 100 [.failed .EINTR, .reaped 256]
    (Exists fun status => Exists fun after =>
      system ⟨id⟩ (some "ls") fork before = .returned status after ∧
      (SignalStatePreserved before after <->
        before.disposition .SIGINT = before.disposition .SIGQUIT)) ∧
    (Exists fun status => Exists fun after =>
      mySystem (fun _ state => .waiting state) ⟨id⟩ (some "ls") fork before = .returned status after ∧
      (SignalStatePreserved before after <->
        before.disposition .SIGINT = before.disposition .SIGQUIT)) := by
  have returns : ForkResult.Returns (.parent 100 [.failed .EINTR, .reaped 256]) :=
    ⟨.reaped 256, List.mem_cons_of_mem _ List.mem_cons_self, by decide⟩
  exact system_preserves_signal_state_iff _ _ _ _ returns _

/-- The caller that ignores `SIGINT` and handles `SIGQUIT` by a function; the
call leaves `SIGQUIT` ignored. -/
def ignoringInt : ProcessState where
  mask := fun _ => false
  disposition := fun signal =>
    if signal = .SIGINT then ⟨.SIG_IGN, 0, sigemptyset⟩ else ⟨.function 4096, 0, sigemptyset⟩
  errno := .ENOENT

/-- The exit path of a call whose `fork` failed loses the handler of `SIGQUIT`. -/
theorem system_loses_quit_disposition :
    (Exists fun after =>
      system ⟨id⟩ (some "ls") (.failed .EAGAIN) ignoringInt = .returned (-1) after ∧
      (after.disposition .SIGQUIT).handler = .SIG_IGN ∧
      ¬ SignalStatePreserved ignoringInt after) ∧
    (Exists fun after =>
      mySystem (fun _ state => .waiting state) ⟨id⟩ (some "ls") (.failed .EAGAIN) ignoringInt =
        .returned (-1) after ∧
      ¬ SignalStatePreserved ignoringInt after) := by
  have lost : forall after : ProcessState, (after.disposition .SIGQUIT).handler = .SIG_IGN ->
      ¬ SignalStatePreserved ignoringInt after := by
    intro after ignored preserved
    rw [preserved.2.2] at ignored
    exact absurd ignored (by decide)
  exact ⟨⟨_, rfl, rfl, lost _ rfl⟩, ⟨_, rfl, lost _ rfl⟩⟩

end ProcessExecute
end Tlpi
