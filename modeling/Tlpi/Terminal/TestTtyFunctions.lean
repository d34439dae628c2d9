import Mathlib.Logic.Function.Basic
import Tlpi.Foundations.Transition
import Tlpi.Lib.TtyFunctions

namespace Tlpi
namespace Terminal
namespace TestTtyFunctions

open CLibrary Foundations Lib

/-!
# Giving the terminal back

`test_tty_functions` puts its terminal in cbreak mode and echoes what is typed.
Whoever takes the terminal over should find it as the user last set it: when the
program ends, through `handler` or through its last lines, and when it stops,
through `tstpHandler`.  The global `userTermios` is to hold those settings.  While
the process is stopped the user may change them, and `tstpHandler` reads them again
after it is resumed.

The machine takes one step per call that touches the terminal, the signal mask or
a disposition.  A signal first becomes pending and is delivered as soon as it is
not blocked, before the process takes another step of its own.  Delivery to a
handler pushes a call on the stack of interrupted calls and blocks the signal
until that call returns; `handler` never does.  A stopped process takes no step and
receives no signal but `SIGCONT`, which also discards a pending `SIGTSTP`.
-/

inductive Signal where
  | SIGINT
  | SIGQUIT
  | SIGTERM
  | SIGTSTP
deriving DecidableEq, Repr

/-- What a signal does on delivery. -/
inductive Disposition where
  | SIG_DFL
  | SIG_IGN
  | handler
  | tstpHandler
deriving DecidableEq, Repr

/-- A set of signals: a mask, or those pending. -/
abbrev Sigset := Signal -> Bool

inductive HandlerPc where
  | restoring
  | exiting
deriving DecidableEq, Repr

/-- The positions in `tstpHandler`, each named after what it does next, with the
local variables that are set by then. -/
inductive TstpPc where
  | saving
  | restoring (ourTermios : Termios)
  | defaulting (ourTermios : Termios)
  | raising (ourTermios : Termios)
  | unblocking (ourTermios : Termios)
  | reblocking (ourTermios : Termios) (prevMask : Sigset)
  | reestablishing (ourTermios : Termios)
  | resaving (ourTermios : Termios)
  | reentering (ourTermios : Termios)
  | returning

/-- A call of a handler, with the mask that is put back when it returns. -/
inductive Frame where
  | handler (sig : Signal) (pc : HandlerPc) (savedMask : Sigset)
  | tstpHandler (pc : TstpPc) (savedMask : Sigset)

/-- The positions in `main` from its loop on. -/
inductive MainPc where
  | reading
  | restoring
  | exiting
deriving DecidableEq, Repr

/-- How the process ended: in `handler`, at the end of `main`, in `errExit`, or by
a signal. -/
inductive Exit where
  | handler
  | quit
  | failure
  | killed
deriving DecidableEq, Repr

inductive Status where
  | running
  | stopped
  | exited (exit : Exit)
deriving DecidableEq, Repr

/-- The process and its terminal.  The innermost call is the first of `frames`.
Nobody but the user holds `userSettings`, the settings the user last chose. -/
structure State where
  terminal : Termios
  userTermios : Termios
  userSettings : Termios
  main : MainPc
  frames : List Frame
  mask : Sigset
  pending : Sigset
  disposition : Signal -> Disposition
  output : List Byte
  status : Status

inductive Action where
  | step
  | typed (ch : Byte)
  | readEnds
  | fail
  | arrive (sig : Signal)
  | deliver (sig : Signal)
  | resume
  | userSets (settings : Termios)
deriving DecidableEq, Repr

/-- Whether a command-line argument is supplied. -/
inductive Mode where
  | cbreak
  | raw
deriving DecidableEq, Repr

/-- What `main` installs for a signal that the process may have inherited as
ignored. -/
def installUnlessIgnored (ignored : Bool) (disposition : Disposition) : Disposition :=
  if ignored then .SIG_IGN else disposition

theorem installUnlessIgnored_ne {ignored : Bool} {installed other : Disposition}
    (notIgnored : other ≠ .SIG_IGN) (notInstalled : other ≠ installed) :
    installUnlessIgnored ignored installed ≠ other := by
  unfold installUnlessIgnored
  split
  · exact notIgnored.symm
  · exact notInstalled.symm

/-- The dispositions when `main` reaches its loop.  In raw mode only `SIGTERM` gets
a handler. -/
def installed (mode : Mode) (ignored : Sigset) (sig : Signal) : Disposition :=
  match mode, sig with
  | _, .SIGTERM => .handler
  | .cbreak, .SIGINT => installUnlessIgnored (ignored .SIGINT) .handler
  | .cbreak, .SIGQUIT => installUnlessIgnored (ignored .SIGQUIT) .handler
  | .cbreak, .SIGTSTP => installUnlessIgnored (ignored .SIGTSTP) .tstpHandler
  | .raw, sig => installUnlessIgnored (ignored sig) .SIG_DFL

/-- The call that sets the mode. -/
def ttySetMode : Mode -> TtyAnswers -> Termios -> Option Termios -> TtyCall
  | .cbreak => ttySetCbreak
  | .raw => ttySetRaw

/-- The state in which all handlers are installed and `main` reaches its loop. -/
def start (mode : Mode) (settings : Termios) (ignored mask pending : Sigset) : State :=
  let call := ttySetMode mode ⟨true, true⟩ settings (some Termios.zero)
  { terminal := call.settings
    userTermios := call.prevTermios.getD Termios.zero
    userSettings := settings
    main := .reading
    frames := []
    mask := mask
    pending := pending
    disposition := installed mode ignored
    output := []
    status := .running }

/-- What the loop writes for a character. -/
def echo (ch : Byte) : List Byte :=
  if (65 ≤ ch ∧ ch ≤ 90) ∨ (97 ≤ ch ∧ ch ≤ 122) then [if ch ≤ 90 then ch + 32 else ch]
  else if ch = 10 ∨ ch = 13 then [ch]
  else if ch < 32 ∨ ch = 127 then [94, ch ^^^ 64]
  else [42]

namespace State

/-- The signal is pending and not blocked. -/
def deliverable (current : State) (sig : Signal) : Bool :=
  current.pending sig && !current.mask sig

/-- Some signal must be delivered before the process goes on. -/
def interrupted (current : State) : Bool :=
  current.deliverable .SIGINT || current.deliverable .SIGQUIT || current.deliverable .SIGTERM ||
    current.deliverable .SIGTSTP

def exit (current : State) (exit : Exit) : State := { current with status := .exited exit }

/-- The next step of the innermost call, or of `main` if it is not interrupted. -/
def programStep (current : State) : Option State :=
  match current.frames with
  | .handler sig .restoring savedMask :: rest =>
      some { current with
        terminal := current.userTermios
        frames := .handler sig .exiting savedMask :: rest }
  | .handler _ .exiting _ :: _ => some (current.exit .handler)
  | .tstpHandler .saving savedMask :: rest =>
      some { current with frames := .tstpHandler (.restoring current.terminal) savedMask :: rest }
  | .tstpHandler (.restoring ourTermios) savedMask :: rest =>
      some { current with
        terminal := current.userTermios
        frames := .tstpHandler (.defaulting ourTermios) savedMask :: rest }
  | .tstpHandler (.defaulting ourTermios) savedMask :: rest =>
      some { current with
        disposition := Function.update current.disposition .SIGTSTP .SIG_DFL
        frames := .tstpHandler (.raising ourTermios) savedMask :: rest }
  | .tstpHandler (.raising ourTermios) savedMask :: rest =>
      some { current with
        pending := Function.update current.pending .SIGTSTP true
        frames := .tstpHandler (.unblocking ourTermios) savedMask :: rest }
  | .tstpHandler (.unblocking ourTermios) savedMask :: rest =>
      some { current with
        mask := Function.update current.mask .SIGTSTP false
        frames := .tstpHandler (.reblocking ourTermios current.mask) savedMask :: rest }
  | .tstpHandler (.reblocking ourTermios prevMask) savedMask :: rest =>
      some { current with
        mask := prevMask
        frames := .tstpHandler (.reestablishing ourTermios) savedMask :: rest }
  | .tstpHandler (.reestablishing ourTermios) savedMask :: rest =>
      some { current with
        disposition := Function.update current.disposition .SIGTSTP .tstpHandler
        frames := .tstpHandler (.resaving ourTermios) savedMask :: rest }
  | .tstpHandler (.resaving ourTermios) savedMask :: rest =>
      some { current with
        userTermios := current.terminal
        frames := .tstpHandler (.reentering ourTermios) savedMask :: rest }
  | .tstpHandler (.reentering ourTermios) savedMask :: rest =>
      some { current with
        terminal := ourTermios
        frames := .tstpHandler .returning savedMask :: rest }
  | .tstpHandler .returning savedMask :: rest =>
      some { current with mask := savedMask, frames := rest }
  | [] =>
      match current.main with
      | .reading => none
      | .restoring => some { current with terminal := current.userTermios, main := .exiting }
      | .exiting => some (current.exit .quit)

/-- `main` is blocked in `read`. -/
def atRead (current : State) : Bool := current.frames.isEmpty && current.main == .reading

theorem frames_of_atRead {current : State} (atRead : current.atRead = true) : current.frames = [] :=
  List.isEmpty_iff.mp (Bool.and_eq_true_iff.mp atRead).1

/-- Whether the process is at a call whose error return it checks. -/
def atCheckedCall (current : State) : Bool :=
  match current.frames with
  | .handler _ pc _ :: _ => pc = .restoring
  | .tstpHandler (.raising _) _ :: _ | .tstpHandler .returning _ :: _ => false
  | .tstpHandler _ _ :: _ => true
  | [] => current.main = .restoring

/-- The signal becomes pending. -/
def arrive (current : State) (sig : Signal) : State :=
  { current with pending := Function.update current.pending sig true }

/-- `SIGCONT` discards a pending `SIGTSTP` and resumes a stopped process. -/
def resume (current : State) : State :=
  { current with
    pending := Function.update current.pending .SIGTSTP false
    status := .running }

def deliver (current : State) (sig : Signal) : State :=
  let taken := { current with pending := Function.update current.pending sig false }
  match current.disposition sig with
  | .SIG_IGN => taken
  | .SIG_DFL => { taken with status := if sig = .SIGTSTP then .stopped else .exited .killed }
  | .handler =>
      { taken with
        frames := .handler sig .restoring current.mask :: current.frames
        mask := Function.update current.mask sig true }
  | .tstpHandler =>
      { taken with
        frames := .tstpHandler .saving current.mask :: current.frames
        mask := Function.update current.mask sig true }

/-- `read` returns a character, which the loop echoes. -/
def readChar (current : State) (ch : Byte) : State :=
  { current with
    output := current.output ++ echo ch
    main := if ch = 113 then .restoring else .reading }

/-- `read` returns the end of the input or an error. -/
def readEnd (current : State) : State := { current with main := .restoring }

def userSets (current : State) (settings : Termios) : State :=
  { current with terminal := settings, userSettings := settings }

/-- One step of the process, its kernel or its user. -/
def next (current : State) (action : Action) : Option State :=
  match current.status with
  | .exited _ => none
  | .stopped =>
      match action with
      | .arrive sig => some (current.arrive sig)
      | .resume => some current.resume
      | .userSets settings => some (current.userSets settings)
      | _ => none
  | .running =>
      match action with
      | .arrive sig => some (current.arrive sig)
      | .resume => some current.resume
      | .deliver sig => if current.deliverable sig then some (current.deliver sig) else none
      | .step => if current.interrupted then none else current.programStep
      | .typed ch =>
          if current.interrupted = false ∧ current.atRead = true then some (current.readChar ch)
          else none
      | .readEnds =>
          if current.interrupted = false ∧ current.atRead = true then some current.readEnd
          else none
      | .fail =>
          if current.interrupted = false ∧ current.atCheckedCall = true then
            some (current.exit .failure)
          else none
      | .userSets _ => none

end State

/-- The program in one of its modes, as a machine. -/
def process (mode : Mode) : Machine State Action where
  Initial := fun state => Exists fun settings => Exists fun ignored => Exists fun mask =>
    Exists fun pending => state = start mode settings ignored mask pending
  step := State.next

/-! ## What a call still has to do -/

namespace TstpPc

/-- The process may have been stopped, and `userTermios` has yet to be read again. -/
def resaveDue : TstpPc -> Bool
  | .reblocking _ _ | .reestablishing _ | .resaving _ => true
  | _ => false

/-- The settings that the call will put back before it returns. -/
def ourTermios : TstpPc -> Option Termios
  | .saving | .returning => none
  | .restoring ourTermios | .defaulting ourTermios | .raising ourTermios | .unblocking ourTermios
  | .reblocking ourTermios _ | .reestablishing ourTermios | .resaving ourTermios
  | .reentering ourTermios => some ourTermios

end TstpPc

/-- The position of a call of `tstpHandler`. -/
def Frame.tstpPc : Frame -> Option TstpPc
  | .handler _ _ _ => none
  | .tstpHandler pc _ => some pc

/-- The position of the innermost call of `tstpHandler`, if there is one. -/
def activeTstp (frames : List Frame) : Option TstpPc := frames.findSome? Frame.tstpPc

/-- The innermost call has restored the terminal and has nothing left to do but
end the process. -/
def exitDue (main : MainPc) : List Frame -> Bool
  | [] => main = .exiting
  | .handler _ .exiting _ :: _ => true
  | _ => false

namespace State

/-- The next step is the `tcsetattr` of `handler`. -/
def handlerRestores (current : State) : Bool :=
  match current.frames with
  | .handler _ .restoring _ :: _ => true
  | _ => false

/-- Some call of `tstpHandler` has yet to read the settings again. -/
def resaveDue (current : State) : Bool := (activeTstp current.frames).any TstpPc.resaveDue

/-- `tstpHandler` has interrupted a call that had already restored the terminal. -/
def exitInterrupted (current : State) : Bool :=
  match current.frames with
  | .tstpHandler _ _ :: rest => exitDue current.main rest
  | _ => false

end State

/-- The two ways in which a stale copy of the settings may reach the terminal are
avoided.  `handler` does not restore `userTermios` between a stop and the moment
`tstpHandler` reads it again, unless the user made no change.  The user makes no
change while `tstpHandler` will return to a call that is about to end the process. -/
def Careful (current : State) : Action -> Prop
  | .step => current.handlerRestores = true -> current.resaveDue = true ->
      current.userTermios = current.userSettings
  | .userSets settings => current.exitInterrupted = true -> settings = current.userSettings
  | _ => True

instance (current : State) : DecidablePred (Careful current) := fun action =>
  match action with
  | .step => inferInstanceAs (Decidable (_ -> _ -> _))
  | .userSets _ => inferInstanceAs (Decidable (_ -> _))
  | .typed _ | .readEnds | .fail | .arrive _ | .deliver _ | .resume =>
      inferInstanceAs (Decidable True)

/-! ## The invariant -/

/-- What the innermost call of `tstpHandler` says about the mask, the disposition
of `SIGTSTP`, the terminal and `userTermios`.  Until it has unblocked `SIGTSTP` and
from the moment it has blocked it again, no second call can begin. -/
def Position (mask : Sigset) (disposition : Disposition)
    (terminal userTermios userSettings : Termios) : Option TstpPc -> Prop
  | none => disposition ≠ .SIG_DFL ∧ userTermios = userSettings
  | some .saving | some (.restoring _) | some (.reentering _) | some .returning =>
      mask .SIGTSTP = true ∧ disposition ≠ .SIG_DFL ∧ userTermios = userSettings
  | some (.defaulting _) =>
      mask .SIGTSTP = true ∧ disposition ≠ .SIG_DFL ∧ userTermios = userSettings ∧
        terminal = userSettings
  | some (.raising _) | some (.unblocking _) =>
      mask .SIGTSTP = true ∧ disposition = .SIG_DFL ∧ userTermios = userSettings ∧
        terminal = userSettings
  | some (.reblocking _ prevMask) =>
      prevMask .SIGTSTP = true ∧ disposition = .SIG_DFL ∧ terminal = userSettings
  | some (.reestablishing _) =>
      mask .SIGTSTP = true ∧ disposition = .SIG_DFL ∧ terminal = userSettings
  | some (.resaving _) =>
      mask .SIGTSTP = true ∧ disposition ≠ .SIG_DFL ∧ terminal = userSettings

namespace Position

variable {mask : Sigset} {disposition : Disposition} {terminal userTermios userSettings : Termios}
  {active : Option TstpPc}

/-- Blocking a further signal is harmless. -/
theorem block (position : Position mask disposition terminal userTermios userSettings active)
    (sig : Signal) :
    Position (Function.update mask sig true) disposition terminal userTermios userSettings
      active := by
  have still : mask .SIGTSTP = true -> Function.update mask sig true .SIGTSTP = true := by
    intro blocked
    rcases eq_or_ne Signal.SIGTSTP sig with same | different
    · rw [same, Function.update_self]
    · rw [Function.update_of_ne different]
      exact blocked
  rcases active with _ | pc
  · exact position
  · cases pc with
    | reblocking ourTermios prevMask => exact position
    | _ => exact ⟨still position.1, position.2⟩

/-- Giving the terminal back is harmless. -/
theorem give (position : Position mask disposition terminal userTermios userSettings active)
    {given : Termios} (settled : given = userSettings) :
    Position mask disposition given userTermios userSettings active := by
  rcases active with _ | pc
  · exact position
  · cases pc with
    | saving | restoring | reentering | returning => exact position
    | defaulting | raising | unblocking =>
        exact ⟨position.1, position.2.1, position.2.2.1, settled⟩
    | reblocking | reestablishing | resaving => exact ⟨position.1, position.2.1, settled⟩

/-- Outside the window after a stop, `userTermios` is up to date. -/
theorem saved (position : Position mask disposition terminal userTermios userSettings active)
    (settled : active.any TstpPc.resaveDue = false) : userTermios = userSettings := by
  rcases active with _ | pc
  · exact position.2
  · cases pc with
    | saving | restoring | reentering | returning => exact position.2.2
    | defaulting | raising | unblocking => exact position.2.2.1
    | reblocking | reestablishing | resaving => cases settled

/-- While `SIGTSTP` is not blocked and has its handler, `tstpHandler` is not
running. -/
theorem idle (position : Position mask disposition terminal userTermios userSettings active)
    (unblocked : mask .SIGTSTP = false) (handled : disposition ≠ .SIG_DFL) : active = none := by
  rcases active with _ | pc
  · rfl
  · cases pc with
    | reblocking => exact absurd position.2.1 handled
    | _ =>
        have blocked := position.1
        rw [unblocked] at blocked
        cases blocked

/-- While `SIGTSTP` is not blocked and stops the process, `tstpHandler` is between
unblocking and reblocking it. -/
theorem stops (position : Position mask disposition terminal userTermios userSettings active)
    (unblocked : mask .SIGTSTP = false) (default : disposition = .SIG_DFL) :
    Exists fun ourTermios => Exists fun prevMask =>
      active = some (.reblocking ourTermios prevMask) := by
  rcases active with _ | pc
  · exact absurd default position.1
  · cases pc with
    | reblocking ourTermios prevMask => exact ⟨ourTermios, prevMask, rfl⟩
    | _ =>
        have blocked := position.1
        rw [unblocked] at blocked
        cases blocked

end Position

structure Invariant (current : State) : Prop where
  alone : forall pc savedMask rest, current.frames = .tstpHandler pc savedMask :: rest ->
    activeTstp rest = none
  tstpOnly : forall sig, current.disposition sig = .tstpHandler -> sig = .SIGTSTP
  position : Position current.mask (current.disposition .SIGTSTP) current.terminal
    current.userTermios current.userSettings (activeTstp current.frames)
  exiting : exitDue current.main current.frames = true -> current.terminal = current.userSettings
  interrupted : forall pc savedMask rest, current.frames = .tstpHandler pc savedMask :: rest ->
    exitDue current.main rest = true -> current.terminal = current.userSettings ∧
      forall ourTermios, pc.ourTermios = some ourTermios -> ourTermios = current.userSettings
  stopped : current.status = .stopped -> Exists fun ourTermios => Exists fun prevMask =>
    activeTstp current.frames = some (.reblocking ourTermios prevMask)
  ended : current.status = .exited .handler ∨ current.status = .exited .quit ->
    current.terminal = current.userSettings

theorem start_invariant (settings : Termios) (ignored mask pending : Sigset) :
    Invariant (start .cbreak settings ignored mask pending) where
  alone := by simp [start]
  tstpOnly sig handled := by
    cases sig with
    | SIGTSTP => rfl
    | SIGTERM => cases handled
    | SIGINT | SIGQUIT => exact absurd handled (installUnlessIgnored_ne (by simp) (by simp))
  position := ⟨installUnlessIgnored_ne (by simp) (by simp), rfl⟩
  exiting := by simp [start, exitDue]
  interrupted := by simp [start]
  stopped := by simp [start]
  ended := by simp [start]

namespace Invariant

variable {current : State}

/-! ### The kernel and the user -/

/-- The invariant says nothing about what is pending. -/
theorem setPending (invariant : Invariant current) (pending : Sigset) :
    Invariant { current with pending := pending } :=
  { invariant with }

theorem resume (invariant : Invariant current) : Invariant current.resume :=
  { invariant with
    stopped := by simp [State.resume]
    ended := by simp [State.resume] }

theorem pushHandler (invariant : Invariant current) (running : current.status = .running)
    (sig : Signal) (pending : Sigset) :
    Invariant { current with
      pending := pending
      frames := .handler sig .restoring current.mask :: current.frames
      mask := Function.update current.mask sig true } where
  alone := by simp
  tstpOnly := invariant.tstpOnly
  position := invariant.position.block sig
  exiting := by simp [exitDue]
  interrupted := by simp
  stopped := by simp [running]
  ended := by simp [running]

/-- A call of `tstpHandler` begins, and is the only one. -/
theorem pushTstp (invariant : Invariant current) (running : current.status = .running)
    (unblocked : current.mask .SIGTSTP = false)
    (handled : current.disposition .SIGTSTP = .tstpHandler) (pending : Sigset) :
    Invariant { current with
      pending := pending
      frames := .tstpHandler .saving current.mask :: current.frames
      mask := Function.update current.mask .SIGTSTP true } := by
  have notDefault : current.disposition .SIGTSTP ≠ .SIG_DFL := by simp [handled]
  have position := invariant.position
  have idle := position.idle unblocked notDefault
  rw [idle] at position
  exact
    { alone := by
        intro pc savedMask rest same
        cases same
        exact idle
      tstpOnly := invariant.tstpOnly
      position := ⟨Function.update_self Signal.SIGTSTP true current.mask, notDefault, position.2⟩
      exiting := by simp [exitDue]
      interrupted := by
        intro pc savedMask rest same due
        cases same
        exact ⟨invariant.exiting due, by simp [TstpPc.ourTermios]⟩
      stopped := by simp [running]
      ended := by simp [running] }

/-- The default action of `SIGTSTP` stops the process with the terminal given
back. -/
theorem stop (invariant : Invariant current) (unblocked : current.mask .SIGTSTP = false)
    (default : current.disposition .SIGTSTP = .SIG_DFL) (pending : Sigset) :
    Invariant { current with pending := pending, status := .stopped } :=
  { invariant with
    stopped := fun _ => invariant.position.stops unblocked default
    ended := by simp }

theorem deliver (invariant : Invariant current) (running : current.status = .running)
    {sig : Signal} (deliverable : current.deliverable sig = true) :
    Invariant (current.deliver sig) := by
  have unblocked : current.mask sig = false := by
    simp only [State.deliverable, Bool.and_eq_true, Bool.not_eq_true'] at deliverable
    exact deliverable.2
  unfold State.deliver
  cases disposition : current.disposition sig with
  | SIG_IGN => exact invariant.setPending _
  | SIG_DFL =>
      by_cases tstp : sig = .SIGTSTP
      · subst tstp
        exact invariant.stop unblocked disposition _
      · simp only [if_neg tstp]
        exact { invariant with
          stopped := by simp
          ended := by simp }
  | handler => exact invariant.pushHandler running sig _
  | tstpHandler =>
      have tstp := invariant.tstpOnly sig disposition
      subst tstp
      exact invariant.pushTstp running unblocked disposition _

/-- The user changes the settings of a stopped process's terminal. -/
theorem userSets (invariant : Invariant current) (stopped : current.status = .stopped)
    {settings : Termios} (careful : Careful current (.userSets settings)) :
    Invariant (current.userSets settings) := by
  rcases invariant.stopped stopped with ⟨ourTermios, prevMask, active⟩
  have position := invariant.position
  rw [active] at position
  exact
    { alone := invariant.alone
      tstpOnly := invariant.tstpOnly
      position := by
        change Position _ _ _ _ _ (activeTstp current.frames)
        rw [active]
        exact ⟨position.1, position.2.1, rfl⟩
      exiting := fun _ => rfl
      interrupted := by
        intro pc savedMask rest head due
        refine ⟨rfl, ?_⟩
        change current.frames = _ at head
        have unchanged : settings = current.userSettings := by
          apply careful
          simp only [State.exitInterrupted, head]
          exact due
        intro ours held
        rw [(invariant.interrupted pc savedMask rest head due).2 ours held]
        exact unchanged.symm
      stopped := fun _ => ⟨ourTermios, prevMask, active⟩
      ended := fun _ => rfl }

/-! ### The steps of the program -/

/-- `handler` restores the terminal from a copy that is up to date. -/
theorem handlerRestore (invariant : Invariant current) (running : current.status = .running)
    (careful : Careful current .step) {sig : Signal} {savedMask : Sigset} {rest : List Frame}
    (head : current.frames = .handler sig .restoring savedMask :: rest) :
    Invariant { current with
      terminal := current.userTermios
      frames := .handler sig .exiting savedMask :: rest } := by
  have position := invariant.position
  have upToDate : current.userTermios = current.userSettings := by
    by_cases due : current.resaveDue = true
    · refine careful ?_ due
      simp [State.handlerRestores, head]
    · exact position.saved (Bool.not_eq_true _ ▸ due)
  rw [head] at position
  exact
    { alone := by simp
      tstpOnly := invariant.tstpOnly
      position := position.give upToDate
      exiting := fun _ => upToDate
      interrupted := by simp
      stopped := by simp [running]
      ended := by simp [running] }

/-- `tstpHandler` moves on.  It keeps what its position says, and what it owes to
a call that is about to end the process. -/
theorem advance (invariant : Invariant current) (running : current.status = .running)
    {pc : TstpPc} {savedMask : Sigset} {rest : List Frame}
    (head : current.frames = .tstpHandler pc savedMask :: rest) {moved : TstpPc}
    {terminal userTermios : Termios} {mask pending : Sigset}
    {disposition : Signal -> Disposition}
    (tstpOnly : forall sig, disposition sig = .tstpHandler -> sig = .SIGTSTP)
    (position : Position mask (disposition .SIGTSTP) terminal userTermios current.userSettings
      (some moved))
    (interrupted : exitDue current.main rest = true -> terminal = current.userSettings ∧
      forall ourTermios, moved.ourTermios = some ourTermios ->
        ourTermios = current.userSettings) :
    Invariant { current with
      terminal := terminal
      userTermios := userTermios
      mask := mask
      pending := pending
      disposition := disposition
      frames := .tstpHandler moved savedMask :: rest } where
  alone := by
    intro other otherMask others same
    cases same
    exact invariant.alone pc savedMask rest head
  tstpOnly := tstpOnly
  position := position
  exiting := by simp [exitDue]
  interrupted := by
    intro other otherMask others same
    cases same
    exact interrupted
  stopped := by simp [running]
  ended := by simp [running]

/-- A change of the disposition of `SIGTSTP` gives `tstpHandler` to no other
signal. -/
theorem tstpOnly_update (invariant : Invariant current) (disposition : Disposition) (sig : Signal)
    (handled : Function.update current.disposition .SIGTSTP disposition sig = .tstpHandler) :
    sig = .SIGTSTP := by
  by_cases same : sig = .SIGTSTP
  · exact same
  · rw [Function.update_of_ne same] at handled
    exact invariant.tstpOnly sig handled

theorem tstpReturn (invariant : Invariant current) (running : current.status = .running)
    {savedMask : Sigset} {rest : List Frame}
    (head : current.frames = .tstpHandler .returning savedMask :: rest) :
    Invariant { current with mask := savedMask, frames := rest } := by
  have position := invariant.position
  have alone := invariant.alone .returning savedMask rest head
  have noOther : forall pc otherMask others, rest ≠ .tstpHandler pc otherMask :: others := by
    intro pc otherMask others same
    rw [same] at alone
    cases alone
  rw [head] at position
  exact
    { alone := fun pc otherMask others same => absurd same (noOther pc otherMask others)
      tstpOnly := invariant.tstpOnly
      position := by
        change Position _ _ _ _ _ (activeTstp rest)
        rw [alone]
        exact position.2
      exiting := fun due => (invariant.interrupted .returning savedMask rest head due).1
      interrupted := fun pc otherMask others same => absurd same (noOther pc otherMask others)
      stopped := by simp [running]
      ended := by simp [running] }

theorem tstpStep (invariant : Invariant current) (running : current.status = .running)
    {pc : TstpPc} {savedMask : Sigset} {rest : List Frame}
    (head : current.frames = .tstpHandler pc savedMask :: rest) {next : State}
    (stepped : current.programStep = some next) : Invariant next := by
  have position := invariant.position
  have interrupted := invariant.interrupted pc savedMask rest head
  rw [head] at position
  cases pc with
  | saving =>
      simp only [State.programStep, head, Option.some.injEq] at stepped
      subst stepped
      refine invariant.advance running head invariant.tstpOnly position ?_
      intro due
      refine ⟨(interrupted due).1, ?_⟩
      intro ourTermios held
      cases held
      exact (interrupted due).1
  | restoring ourTermios =>
      simp only [State.programStep, head, Option.some.injEq] at stepped
      subst stepped
      rcases position with ⟨blocked, notDefault, upToDate⟩
      exact invariant.advance running head invariant.tstpOnly
        ⟨blocked, notDefault, upToDate, upToDate⟩ (fun due => ⟨upToDate, (interrupted due).2⟩)
  | defaulting ourTermios =>
      simp only [State.programStep, head, Option.some.injEq] at stepped
      subst stepped
      rcases position with ⟨blocked, -, upToDate, given⟩
      exact invariant.advance running head (invariant.tstpOnly_update .SIG_DFL)
        ⟨blocked, Function.update_self _ _ _, upToDate, given⟩ interrupted
  | raising ourTermios =>
      simp only [State.programStep, head, Option.some.injEq] at stepped
      subst stepped
      exact invariant.advance running head invariant.tstpOnly position interrupted
  | unblocking ourTermios =>
      simp only [State.programStep, head, Option.some.injEq] at stepped
      subst stepped
      rcases position with ⟨blocked, default, upToDate, given⟩
      exact invariant.advance running head invariant.tstpOnly ⟨blocked, default, given⟩ interrupted
  | reblocking ourTermios prevMask =>
      simp only [State.programStep, head, Option.some.injEq] at stepped
      subst stepped
      exact invariant.advance running head invariant.tstpOnly position interrupted
  | reestablishing ourTermios =>
      simp only [State.programStep, head, Option.some.injEq] at stepped
      subst stepped
      rcases position with ⟨blocked, -, given⟩
      exact invariant.advance running head (invariant.tstpOnly_update .tstpHandler)
        ⟨blocked, by simp, given⟩ interrupted
  | resaving ourTermios =>
      simp only [State.programStep, head, Option.some.injEq] at stepped
      subst stepped
      exact invariant.advance running head invariant.tstpOnly position interrupted
  | reentering ourTermios =>
      simp only [State.programStep, head, Option.some.injEq] at stepped
      subst stepped
      refine invariant.advance running head invariant.tstpOnly position ?_
      intro due
      exact ⟨(interrupted due).2 ourTermios rfl, by simp [TstpPc.ourTermios]⟩
  | returning =>
      simp only [State.programStep, head, Option.some.injEq] at stepped
      subst stepped
      exact invariant.tstpReturn running head

theorem moveMain (invariant : Invariant current) (running : current.status = .running)
    (alone : current.frames = []) {terminal : Termios} {main : MainPc} (output : List Byte)
    (exiting : main = .exiting -> terminal = current.userSettings) :
    Invariant { current with terminal := terminal, main := main, output := output } := by
  have position := invariant.position
  rw [alone] at position
  exact
    { alone := invariant.alone
      tstpOnly := invariant.tstpOnly
      position := by
        change Position _ _ _ _ _ (activeTstp current.frames)
        rw [alone]
        exact position
      exiting := by
        change exitDue main current.frames = true -> _
        rw [alone]
        exact fun due => exiting (of_decide_eq_true due)
      interrupted := by simp [alone]
      stopped := by simp [running]
      ended := by simp [running] }

/-- The process ends, with the terminal given back unless an error ends it. -/
theorem exit (invariant : Invariant current) (exit : Exit)
    (given : exit = .handler ∨ exit = .quit -> current.terminal = current.userSettings) :
    Invariant (current.exit exit) :=
  { invariant with
    stopped := by simp [State.exit]
    ended := by simpa [State.exit] using given }

theorem programStep (invariant : Invariant current) (running : current.status = .running)
    (careful : Careful current .step) {next : State}
    (stepped : current.programStep = some next) : Invariant next := by
  rcases head : current.frames with _ | ⟨frame, rest⟩
  · have position := invariant.position
    rw [head] at position
    cases main : current.main with
    | reading => simp [State.programStep, head, main] at stepped
    | restoring =>
        simp only [State.programStep, head, main, Option.some.injEq] at stepped
        subst stepped
        have moved : Invariant { current with terminal := current.userTermios, main := .exiting } :=
          invariant.moveMain running head current.output (fun _ => position.saved rfl)
        rw [head] at moved
        exact moved
    | exiting =>
        simp only [State.programStep, head, main, Option.some.injEq] at stepped
        subst stepped
        exact invariant.exit .quit (fun _ => invariant.exiting (by simp [head, main, exitDue]))
  · cases frame with
    | tstpHandler pc savedMask => exact invariant.tstpStep running head stepped
    | handler sig pc savedMask =>
        cases pc with
        | restoring =>
            simp only [State.programStep, head, Option.some.injEq] at stepped
            subst stepped
            exact invariant.handlerRestore running careful head
        | exiting =>
            simp only [State.programStep, head, Option.some.injEq] at stepped
            subst stepped
            exact invariant.exit .handler (fun _ => invariant.exiting (by simp [head, exitDue]))

theorem runningStep (invariant : Invariant current) (running : current.status = .running)
    {action : Action} (careful : Careful current action) {next : State}
    (stepped : current.next action = some next) : Invariant next := by
  unfold State.next at stepped
  rw [running] at stepped
  cases action with
  | step =>
      simp only at stepped
      split at stepped
      · cases stepped
      · exact invariant.programStep running careful stepped
  | typed ch =>
      simp only at stepped
      split at stepped
      · rename_i enabled
        cases stepped
        refine invariant.moveMain running (State.frames_of_atRead enabled.2) _ ?_
        split <;> simp
      · cases stepped
  | readEnds =>
      simp only at stepped
      split at stepped
      · rename_i enabled
        cases stepped
        exact invariant.moveMain running (State.frames_of_atRead enabled.2) current.output (by simp)
      · cases stepped
  | fail =>
      simp only at stepped
      split at stepped
      · cases stepped
        exact invariant.exit .failure (by simp)
      · cases stepped
  | arrive sig =>
      cases stepped
      exact invariant.setPending _
  | deliver sig =>
      simp only at stepped
      split at stepped
      · cases stepped
        exact invariant.deliver running ‹_›
      · cases stepped
  | resume =>
      cases stepped
      exact invariant.resume
  | userSets settings => cases stepped

theorem stoppedStep (invariant : Invariant current) (stopped : current.status = .stopped)
    {action : Action} (careful : Careful current action) {next : State}
    (stepped : current.next action = some next) : Invariant next := by
  unfold State.next at stepped
  rw [stopped] at stepped
  cases action with
  | arrive sig =>
      cases stepped
      exact invariant.setPending _
  | resume =>
      cases stepped
      exact invariant.resume
  | userSets settings =>
      cases stepped
      exact invariant.userSets stopped careful
  | step | typed | readEnds | fail | deliver => cases stepped

theorem of_reachable (reachable : (process .cbreak).ReachableUnder Careful current) :
    Invariant current := by
  refine Machine.ReachableUnder.invariant ?_ ?_ reachable
  · rintro state ⟨settings, ignored, mask, pending, rfl⟩
    exact start_invariant settings ignored mask pending
  · intro state action next invariant careful stepped
    cases status : state.status with
    | running => exact invariant.runningStep status careful stepped
    | stopped => exact invariant.stoppedStep status careful stepped
    | exited exit =>
        change state.next action = some next at stepped
        unfold State.next at stepped
        rw [status] at stepped
        cases stepped

end Invariant

/-! ## The terminal after the program -/

/-- Whoever takes the terminal over finds the settings of the user. -/
structure GivesBack (current : State) : Prop where
  when_stopped : current.status = .stopped -> current.terminal = current.userSettings
  when_handled : current.status = .exited .handler -> current.terminal = current.userSettings
  when_quit : current.status = .exited .quit -> current.terminal = current.userSettings

/-- In every careful run, whatever signals arrive and whenever the user changes
the settings, the terminal is given back as the user last set it. -/
theorem terminal_given_back (current : State)
    (reachable : (process .cbreak).ReachableUnder Careful current) : GivesBack current := by
  have invariant := Invariant.of_reachable reachable
  refine ⟨?_, fun ended => invariant.ended (Or.inl ended), fun ended => invariant.ended (Or.inr ended)⟩
  intro stopped
  rcases invariant.stopped stopped with ⟨ourTermios, prevMask, active⟩
  have position := invariant.position
  rw [active] at position
  exact position.2.2

/-- The settings of a terminal that handles lines and echoes. -/
def cooked : Termios :=
  { Termios.zero with c_iflag := ICRNL, c_oflag := OPOST, c_lflag := ISIG ||| ICANON ||| ECHO }

/-- The settings with echoing turned off. -/
def silent : Termios := { cooked with c_lflag := ISIG ||| ICANON }

/-- The process starts on a cooked terminal, with nothing ignored, blocked or
pending. -/
def cookedStart : State := start .cbreak cooked (fun _ => false) (fun _ => false) (fun _ => false)

theorem cookedStart_initial : (process .cbreak).Initial cookedStart :=
  ⟨cooked, fun _ => false, fun _ => false, fun _ => false, rfl⟩

/-- `SIGTSTP` stops the process, the user turns echoing off and resumes it, and
after `tstpHandler` has returned `SIGTERM` ends it. -/
def stopThenTerminate : List Action :=
  List.flatten
    [[.typed 97, .arrive .SIGTSTP, .deliver .SIGTSTP], List.replicate 5 .step,
      [.deliver .SIGTSTP, .userSets silent, .resume], List.replicate 5 .step,
      [.arrive .SIGTERM, .deliver .SIGTERM, .step, .step]]

def stopThenTerminateFinal : State :=
  ((process .cbreak).execUnder Careful cookedStart stopThenTerminate).get (by decide +kernel)

/-- The terminal is left without echoing, as the user set it. -/
theorem terminal_given_back_silent :
    stopThenTerminateFinal.status = .exited .handler ∧
      stopThenTerminateFinal.terminal = silent ∧ GivesBack stopThenTerminateFinal := by
  have executed : (process .cbreak).execUnder Careful cookedStart stopThenTerminate =
      some stopThenTerminateFinal := (Option.some_get _).symm
  refine ⟨by decide +kernel, by decide +kernel, ?_⟩
  exact terminal_given_back stopThenTerminateFinal
    (Machine.ReachableUnder.execUnder (.initial cookedStart_initial) executed)

/-- `SIGTERM` arrives while the process is stopped, and is delivered when the user
resumes it. -/
def terminateWhileStopped : List Action :=
  List.flatten
    [[.arrive .SIGTSTP, .deliver .SIGTSTP], List.replicate 5 .step,
      [.deliver .SIGTSTP, .userSets silent, .arrive .SIGTERM, .resume, .deliver .SIGTERM, .step, .step]]

def terminateWhileStoppedFinal : State :=
  ((process .cbreak).exec cookedStart terminateWhileStopped).get (by decide +kernel)

/-- The user types `q`, and `SIGTSTP` arrives when `main` has restored the terminal
and not yet called `exit`. -/
def stopAfterRestoring : List Action :=
  List.flatten
    [[.typed 113, .step, .arrive .SIGTSTP, .deliver .SIGTSTP], List.replicate 5 .step,
      [.deliver .SIGTSTP, .userSets silent, .resume], List.replicate 6 .step]

def stopAfterRestoringFinal : State :=
  ((process .cbreak).exec cookedStart stopAfterRestoring).get (by decide +kernel)

/-- Either run ends with the settings of the start of the program: `handler`
restores a copy that is out of date, or `tstpHandler` puts back the copy it took
after `main` had restored the terminal. -/
theorem terminal_stale_after_resume :
    ((process .cbreak).Reachable terminateWhileStoppedFinal ∧
      terminateWhileStoppedFinal.status = .exited .handler ∧
      terminateWhileStoppedFinal.userSettings = silent ∧
      terminateWhileStoppedFinal.terminal = cooked ∧ ¬ GivesBack terminateWhileStoppedFinal) ∧
    ((process .cbreak).Reachable stopAfterRestoringFinal ∧
      stopAfterRestoringFinal.status = .exited .quit ∧
      stopAfterRestoringFinal.userSettings = silent ∧
      stopAfterRestoringFinal.terminal = cooked ∧ ¬ GivesBack stopAfterRestoringFinal) := by
  constructor
  · have executed : (process .cbreak).exec cookedStart terminateWhileStopped =
        some terminateWhileStoppedFinal := (Option.some_get _).symm
    refine ⟨Machine.reachable_of_exec cookedStart_initial executed, by decide +kernel,
      by decide +kernel, by decide +kernel, ?_⟩
    intro gives
    exact absurd (gives.when_handled (by decide +kernel)) (by decide +kernel)
  · have executed : (process .cbreak).exec cookedStart stopAfterRestoring =
        some stopAfterRestoringFinal := (Option.some_get _).symm
    refine ⟨Machine.reachable_of_exec cookedStart_initial executed, by decide +kernel,
      by decide +kernel, by decide +kernel, ?_⟩
    intro gives
    exact absurd (gives.when_quit (by decide +kernel)) (by decide +kernel)

end TestTtyFunctions
end Terminal
end Tlpi
