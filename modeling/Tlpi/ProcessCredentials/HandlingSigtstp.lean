import Tlpi.CLibrary.Signals
import Tlpi.Foundations.Transition
import Tlpi.Lib.ErrorFunctions

namespace Tlpi
namespace ProcessCredentials
namespace HandlingSigtstp

open CLibrary Foundations Lib

/-!
# A handler that lets the process be stopped

A program that catches `SIGTSTP` should still be stopped by it, so that the shell gets to
know.  Its handler sets the signal back to its default action and raises it again.  The
signal is blocked while the handler runs, and stops the process when the handler unblocks
it.  After `SIGCONT` the handler blocks the signal again, establishes itself and returns.

`SIGTSTP` and `SIGCONT` arrive at any time.  A signal counts as sent when the process
notices it, so one that can be delivered is delivered before the next call.  `SIGCONT`
discards a pending `SIGTSTP`.  A process of an orphaned process group is not stopped.
Nothing in the model keeps the handler from being entered while it runs already.

The model keeps two records that the program does not hold: the error number that `main`
has seen last, and whether a stop has been asked for that has not happened yet.
-/

structure Setup where
  dumpcore : Option String
  ignored : Bool
  blocked : Bool
  orphaned : Bool

/-- The positions of `main`, each named after what it does next. -/
inductive MainPc where
  | asking
  | establishing
  | looping
  | pausing
  | printing
deriving DecidableEq, Repr

inductive HandlerPc where
  | saving
  | announcing
  | resetting
  | raising
  | unblocking
  | announcingCont
  | reblocking
  | reestablishing
  | announcingExit
  | restoring
deriving DecidableEq, Repr

/-- A run of the handler: its variables, and the mask to which the process returns. -/
structure Frame where
  pc : HandlerPc
  savedErrno : Int
  prevMask : Bool
  interrupted : Bool
deriving DecidableEq, Repr

/-- The process; of its mask and of what is pending, the part about `SIGTSTP`. -/
structure State where
  main : MainPc
  stack : List Frame
  disposition : Disposition
  blocked : Bool
  pending : Bool
  stopped : Bool
  errno : Int
  output : List String
  ended : Option Failure
  mainErrno : Int
  requested : Bool

inductive Outcome where
  | succeeds
  | fails (errno : Errno)
deriving DecidableEq, Repr

/-- The process makes its next call, after which `errno` may be any number; the pending
signal is delivered; or one of the two signals is sent. -/
inductive Action where
  | call (outcome : Outcome) (errno : Int)
  | deliver
  | sigtstp
  | sigcont
deriving DecidableEq, Repr

def caughtTstp : String := "Caught SIGTSTP\n"

def caughtCont : String := "Caught SIGCONT\n"

def exitingHandler : String := "Exiting SIGTSTP handler\n"

def mainLine : String := "Main\n"

def EINTR : Int := 4

namespace State

def say (state : State) (line : String) : State := { state with output := state.output ++ [line] }

def fail (setup : Setup) (state : State) (errno : Errno) (call : String) : State :=
  { state with ended := some (errExit setup.dumpcore errno call) }

/-- The process can take the pending signal. -/
def deliverable (state : State) : Bool := state.pending && !state.blocked

/-- `SIGTSTP` is sent to the process, where it is discarded if it is ignored and not
blocked. -/
def signal (state : State) : State :=
  { state with pending := state.pending || state.blocked || decide (state.disposition ≠ .SIG_IGN) }

def mainStep (setup : Setup) (state : State) (outcome : Outcome) (errno : Int) : Option State :=
  let after := { state with errno := errno, mainErrno := errno }
  match state.main, outcome with
  | .asking, .fails errno | .establishing, .fails errno => some (state.fail setup errno "sigaction")
  | .asking, .succeeds =>
      some { after with main := if state.disposition = .SIG_IGN then .looping else .establishing }
  | .establishing, .succeeds => some { after with main := .looping, disposition := .handler }
  | .looping, _ => some { state with main := .pausing }
  | .pausing, _ => none
  | .printing, _ => some { after.say mainLine with main := .looping }

/-- The handler returns.  A `pause` that it interrupted is over, and fails with `EINTR`. -/
def handlerReturn (state : State) (frame : Frame) (rest : List Frame) : State :=
  if rest = [] ∧ state.main = .pausing then
    { state with
      stack := rest, blocked := frame.interrupted, errno := EINTR, mainErrno := EINTR
      main := .printing }
  else { state with stack := rest, blocked := frame.interrupted, errno := frame.savedErrno }

def handlerStep (setup : Setup) (state : State) (frame : Frame) (rest : List Frame) (outcome : Outcome)
    (errno : Int) : State :=
  let move := fun (state : State) (pc : HandlerPc) => { state with stack := { frame with pc := pc } :: rest }
  let after := { state with errno := errno }
  match frame.pc, outcome with
  | .saving, _ =>
      { state with stack := { frame with pc := .announcing, savedErrno := state.errno } :: rest }
  | .announcing, _ => move (after.say caughtTstp) .resetting
  | .resetting, .succeeds => move { after with disposition := .SIG_DFL } .raising
  | .resetting, .fails errno => state.fail setup errno "signal"
  | .raising, _ => move after.signal .unblocking
  | .unblocking, .succeeds =>
      { after with
        blocked := false
        stack := { frame with pc := .announcingCont, prevMask := state.blocked } :: rest }
  | .unblocking, .fails errno | .reblocking, .fails errno => state.fail setup errno "sigprocmask"
  | .announcingCont, _ => move (after.say caughtCont) .reblocking
  | .reblocking, .succeeds => move { after with blocked := frame.prevMask } .reestablishing
  | .reestablishing, .succeeds => move { after with disposition := .handler } .announcingExit
  | .reestablishing, .fails errno => state.fail setup errno "sigaction"
  | .announcingExit, _ => move (after.say exitingHandler) .restoring
  | .restoring, _ => state.handlerReturn frame rest

/-- The pending signal is delivered: the process stops, or enters the handler. -/
def deliver (setup : Setup) (state : State) : State :=
  let taken := { state with pending := false }
  match state.disposition with
  | .SIG_DFL => { taken with stopped := !setup.orphaned, requested := false }
  | .SIG_IGN => taken
  | .handler =>
      { taken with
        blocked := true
        stack := ⟨.saving, 0, false, state.blocked⟩ :: state.stack }

end State

/-- One step.  A process that has stopped makes no call, and is delivered nothing. -/
def step (setup : Setup) (state : State) (action : Action) : Option State :=
  if state.ended.isSome then none
  else
    match action with
    | .call outcome errno =>
        if state.stopped ∨ state.deliverable then none
        else
          match state.stack with
          | [] => state.mainStep setup outcome errno
          | frame :: rest => some (state.handlerStep setup frame rest outcome errno)
    | .deliver =>
        if state.stopped = false ∧ state.deliverable then some (state.deliver setup) else none
    | .sigtstp =>
        some { state.signal with
          requested := state.requested || (state.signal.pending && !state.stopped) }
    | .sigcont => some { state with pending := false, stopped := false, requested := false }

def start (setup : Setup) : State where
  main := .asking
  stack := []
  disposition := if setup.ignored then .SIG_IGN else .SIG_DFL
  blocked := setup.blocked
  pending := false
  stopped := false
  errno := 0
  output := []
  ended := none
  mainErrno := 0
  requested := false

def machine (setup : Setup) : Machine State Action where
  Initial state := state = start setup
  step := step setup

/-!
## What is known at each position
-/

/-- The handler has not yet raised the signal again. -/
def HandlerPc.Early : HandlerPc -> Prop
  | .saving | .announcing | .resetting | .raising => True
  | _ => False

instance : DecidablePred HandlerPc.Early := fun pc => by
  cases pc <;> unfold HandlerPc.Early <;> infer_instance

/-- What the handler has made of the disposition. -/
def HandlerPc.disposition : HandlerPc -> Disposition
  | .saving | .announcing | .resetting | .announcingExit | .restoring => .handler
  | .raising | .unblocking | .announcingCont | .reblocking | .reestablishing => .SIG_DFL

/-- The handler has unblocked the signal. -/
def HandlerPc.opened : HandlerPc -> Bool
  | .announcingCont | .reblocking => true
  | _ => false

/-- What this run of the handler has printed. -/
def HandlerPc.printed : HandlerPc -> List String
  | .saving | .announcing => []
  | .resetting | .raising | .unblocking | .announcingCont => [caughtTstp]
  | .reblocking | .reestablishing | .announcingExit => [caughtTstp, caughtCont]
  | .restoring => [caughtTstp, caughtCont, exitingHandler]

/-- What the handler prints from its beginning to its end. -/
def episode : List String := [caughtTstp, caughtCont, exitingHandler]

def handlerLines (output : List String) : List String := output.filter (fun line => line ≠ mainLine)

/-- What is known outside the handler. -/
structure Outside (setup : Setup) (state : State) : Prop where
  disposition : state.disposition = if setup.ignored then .SIG_IGN
    else if state.main = .asking ∨ state.main = .establishing then .SIG_DFL else .handler
  established : setup.ignored = true -> state.main ≠ .establishing
  blocked : state.blocked = setup.blocked
  stopped : state.stopped = true -> state.disposition = .SIG_DFL
  errno : state.errno = state.mainErrno
  discarded : setup.ignored = true -> setup.blocked = false -> state.pending = false
  requested : state.requested = true -> state.pending = true ∧ state.stopped = false
  printed : Exists fun episodes =>
    handlerLines state.output = (List.replicate episodes episode).flatten

/-- What is known while the handler runs. -/
structure Inside (setup : Setup) (state : State) (frame : Frame) : Prop where
  ignored : setup.ignored = false
  main : state.main ≠ .asking ∧ state.main ≠ .establishing
  disposition : state.disposition = frame.pc.disposition
  blocked : state.blocked = !frame.pc.opened
  interrupted : frame.interrupted = false ∧ setup.blocked = false
  prevMask : frame.pc = .announcingCont ∨ frame.pc = .reblocking -> frame.prevMask = true
  stopped : state.stopped = true -> frame.pc.opened = true
  savedErrno : if frame.pc = .saving then state.errno = state.mainErrno
    else frame.savedErrno = state.mainErrno
  requested : state.requested = true ->
    state.stopped = false ∧ (state.pending = true ∨ frame.pc.Early)
  printed : Exists fun episodes => handlerLines state.output =
    (List.replicate episodes episode).flatten ++ frame.pc.printed

/-- The handler is never entered while it runs already. -/
def Invariant (setup : Setup) (state : State) : Prop :=
  match state.stack with
  | [] => Outside setup state
  | [frame] => Inside setup state frame
  | _ :: _ :: _ => False

variable {setup : Setup} {state next : State}

theorem invariant_nil (empty : state.stack = []) : Invariant setup state <-> Outside setup state := by
  unfold Invariant
  rw [empty]

theorem invariant_singleton {frame : Frame} (only : state.stack = [frame]) :
    Invariant setup state <-> Inside setup state frame := by
  unfold Invariant
  rw [only]

/-- The handler runs once or not at all. -/
theorem Invariant.cases (holds : Invariant setup state) :
    (state.stack = [] ∧ Outside setup state) ∨
      Exists fun frame => state.stack = [frame] ∧ Inside setup state frame := by
  rcases hold : state.stack with _ | ⟨frame, rest⟩
  · exact .inl ⟨rfl, (invariant_nil hold).mp holds⟩
  · cases rest with
    | nil => exact .inr ⟨frame, rfl, (invariant_singleton hold).mp holds⟩
    | cons second others =>
        unfold Invariant at holds
        rw [hold] at holds
        exact holds.elim

theorem start_outside (setup : Setup) : Outside setup (start setup) where
  disposition := rfl
  established _ := nofun
  blocked := rfl
  stopped := nofun
  errno := rfl
  discarded _ _ := rfl
  requested := nofun
  printed := ⟨0, rfl⟩

theorem handlerLines_say_main (state : State) :
    handlerLines (state.say mainLine).output = handlerLines state.output := by
  change (state.output ++ [mainLine]).filter _ = state.output.filter _
  rw [List.filter_append]
  exact List.append_nil _

theorem handlerLines_say (state : State) {line : String} (other : line ≠ mainLine) :
    handlerLines (state.say line).output = handlerLines state.output ++ [line] := by
  change (state.output ++ [line]).filter _ = state.output.filter _ ++ [line]
  rw [List.filter_append, List.filter_singleton]
  simp [other]

theorem Outside.call (holds : Outside setup state) (outcome : Outcome) (errno : Int)
    (running : state.stopped = false)
    (taken : state.mainStep setup outcome errno = some next) (empty : state.stack = []) :
    next.stack = [] ∧ Outside setup next := by
  have disposition := holds.disposition
  have notStopped : forall {goal : Prop}, state.stopped = true -> goal := by
    intro goal stopped
    rw [running] at stopped
    cases stopped
  unfold State.mainStep at taken
  dsimp only at taken
  cases position : state.main with
  | asking =>
      rw [position] at taken disposition
      cases outcome with
      | fails errno =>
          cases taken
          exact ⟨empty, { holds with }⟩
      | succeeds =>
          cases taken
          refine ⟨empty, { holds with disposition := ?_, established := ?_, errno := rfl }⟩
          · cases ignored : setup.ignored with
            | true =>
                rw [ignored, if_pos rfl] at disposition
                exact disposition
            | false =>
                rw [ignored, if_neg Bool.false_ne_true, if_pos (.inl rfl)] at disposition
                rw [if_neg (by rw [disposition]; exact nofun), if_neg Bool.false_ne_true,
                  if_pos (.inr rfl)]
                exact disposition
          · intro ignored
            rw [ignored, if_pos rfl] at disposition
            rw [if_pos disposition]
            exact nofun
  | establishing =>
      rw [position] at taken
      cases outcome with
      | fails errno =>
          cases taken
          exact ⟨empty, { holds with }⟩
      | succeeds =>
          cases taken
          have notIgnored : ¬ setup.ignored = true := fun ignored => holds.established ignored position
          refine ⟨empty, { holds with
            disposition := ?_
            established := fun _ => nofun
            stopped := notStopped
            errno := rfl }⟩
          rw [if_neg notIgnored]
          rfl
  | looping =>
      rw [position] at taken disposition
      cases taken
      exact ⟨empty, { holds with disposition := disposition, established := fun _ => nofun }⟩
  | pausing =>
      rw [position] at taken
      cases taken
  | printing =>
      rw [position] at taken disposition
      cases taken
      refine ⟨empty, { holds with
        disposition := disposition
        established := fun _ => nofun
        errno := rfl
        printed := ?_ }⟩
      rcases holds.printed with ⟨episodes, printed⟩
      exact ⟨episodes, (handlerLines_say_main state).trans printed⟩

theorem Outside.deliver (holds : Outside setup state) (empty : state.stack = [])
    (deliverable : state.deliverable = true) : Invariant setup (state.deliver setup) := by
  rcases Bool.and_eq_true_iff.mp deliverable with ⟨pending, unblocked⟩
  have open_ : state.blocked = false := by
    rw [Bool.not_eq_true'] at unblocked
    exact unblocked
  have notIgnored : setup.ignored = false := by
    cases ignored : setup.ignored with
    | false => rfl
    | true =>
        have nothing := holds.discarded ignored (holds.blocked.symm.trans open_)
        rw [pending] at nothing
        cases nothing
  have disposition := holds.disposition
  rw [notIgnored, if_neg Bool.false_ne_true] at disposition
  unfold State.deliver
  dsimp only
  split
  · rename_i default
    have there : Outside setup
        { state with pending := false, stopped := !setup.orphaned, requested := false } :=
      { holds with
        stopped := fun _ => default
        discarded := fun _ _ => rfl
        requested := nofun }
    refine (invariant_nil ?_).mpr there
    exact empty
  · rename_i ignored
    rw [ignored] at disposition
    split at disposition <;> cases disposition
  · rename_i caught
    have past : ¬ (state.main = .asking ∨ state.main = .establishing) := by
      intro early
      rw [if_pos early, caught] at disposition
      cases disposition
    refine (invariant_singleton (congrArg (List.cons _) empty)).mpr ?_
    exact
      { ignored := notIgnored
        main := not_or.mp past
        disposition := caught
        blocked := rfl
        interrupted := ⟨open_, holds.blocked.symm.trans open_⟩
        prevMask := by rintro (never | never) <;> cases never
        stopped := fun stopped => by
          have default := holds.stopped stopped
          rw [caught] at default
          cases default
        savedErrno := holds.errno
        requested := fun requested => ⟨(holds.requested requested).2, .inr trivial⟩
        printed := by
          rcases holds.printed with ⟨episodes, printed⟩
          exact ⟨episodes, printed.trans (List.append_nil _).symm⟩ }

/-- The signal is delivered while the handler has it unblocked: the process stops. -/
theorem Inside.deliver {frame : Frame} (holds : Inside setup state frame)
    (only : state.stack = [frame]) (deliverable : state.deliverable = true) :
    Invariant setup (state.deliver setup) := by
  rcases Bool.and_eq_true_iff.mp deliverable with ⟨pending, unblocked⟩
  have opened : frame.pc.opened = true := by
    rw [holds.blocked, Bool.not_not] at unblocked
    exact unblocked
  have default : state.disposition = .SIG_DFL := by
    rw [holds.disposition]
    cases pc : frame.pc <;> rw [pc] at opened <;> first | rfl | cases opened
  unfold State.deliver
  dsimp only
  split
  · refine (invariant_singleton ?_).mpr { holds with stopped := fun _ => opened, requested := nofun }
    exact only
  · rename_i ignored
    rw [default] at ignored
    cases ignored
  · rename_i caught
    rw [default] at caught
    cases caught

theorem Invariant.sigtstp (holds : Invariant setup state) :
    Invariant setup { state.signal with
      requested := state.requested || (state.signal.pending && !state.stopped) } := by
  have asked : (state.requested || (state.signal.pending && !state.stopped)) = true ->
      state.requested = true ∨ (state.signal.pending = true ∧ state.stopped = false) := by
    intro either
    rw [Bool.or_eq_true, Bool.and_eq_true, Bool.not_eq_true'] at either
    exact either
  have kept : state.pending = true -> state.signal.pending = true := by
    intro pending
    change (state.pending || state.blocked || decide (state.disposition ≠ .SIG_IGN)) = true
    rw [pending, Bool.true_or, Bool.true_or]
  rcases holds.cases with ⟨empty, outside⟩ | ⟨frame, only, inside⟩
  · refine (invariant_nil ?_).mpr { outside with discarded := ?_, requested := ?_ }
    · exact empty
    · intro ignored open_
      change (state.pending || state.blocked || decide (state.disposition ≠ .SIG_IGN)) = false
      have disposition := outside.disposition
      rw [if_pos ignored] at disposition
      rw [outside.discarded ignored open_, outside.blocked, open_, disposition]
      rfl
    · intro requested
      rcases asked requested with before | now
      · exact ⟨kept (outside.requested before).1, (outside.requested before).2⟩
      · exact now
  · refine (invariant_singleton ?_).mpr { inside with requested := ?_ }
    · exact only
    · intro requested
      rcases asked requested with before | now
      · exact (inside.requested before).imp_right (Or.imp_left kept)
      · exact ⟨now.2, .inl now.1⟩

theorem Invariant.sigcont (holds : Invariant setup state) :
    Invariant setup { state with pending := false, stopped := false, requested := false } := by
  rcases holds.cases with ⟨empty, outside⟩ | ⟨frame, only, inside⟩
  · refine (invariant_nil ?_).mpr
      { outside with stopped := nofun, discarded := fun _ _ => rfl, requested := nofun }
    exact empty
  · refine (invariant_singleton ?_).mpr { inside with stopped := nofun, requested := nofun }
    exact only

theorem Inside.handlerReturn {savedErrno : Int} {prevMask interrupted : Bool}
    (holds : Inside setup state ⟨.restoring, savedErrno, prevMask, interrupted⟩)
    (running : state.stopped = false) :
    Invariant setup (state.handlerReturn ⟨.restoring, savedErrno, prevMask, interrupted⟩ []) := by
  have notStopped : forall {goal : Prop}, state.stopped = true -> goal := by
    intro goal stopped
    rw [running] at stopped
    cases stopped
  have notIgnored : ¬ setup.ignored = true := by
    rw [holds.ignored]
    exact Bool.false_ne_true
  have open_ : interrupted = setup.blocked := holds.interrupted.1.trans holds.interrupted.2.symm
  rcases holds.printed with ⟨episodes, printed⟩
  have lines : handlerLines state.output = (List.replicate (episodes + 1) episode).flatten := by
    rw [List.replicate_succ', List.flatten_append, List.flatten_singleton]
    exact printed
  unfold State.handlerReturn
  split
  · refine (invariant_nil rfl).mpr ?_
    exact
      { disposition := by
          rw [if_neg notIgnored]
          exact holds.disposition
        established := fun ignored => absurd ignored notIgnored
        blocked := open_
        stopped := notStopped
        errno := rfl
        discarded := fun ignored => absurd ignored notIgnored
        requested := fun asked => ⟨(holds.requested asked).2.resolve_right id, running⟩
        printed := ⟨episodes + 1, lines⟩ }
  · refine (invariant_nil rfl).mpr ?_
    exact
      { disposition := by
          rw [if_neg notIgnored]
          exact holds.disposition.trans (if_neg (not_or.mpr holds.main)).symm
        established := fun ignored => absurd ignored notIgnored
        blocked := open_
        stopped := notStopped
        errno := holds.savedErrno
        discarded := fun ignored => absurd ignored notIgnored
        requested := fun asked => ⟨(holds.requested asked).2.resolve_right id, running⟩
        printed := ⟨episodes + 1, lines⟩ }

theorem Inside.call {frame : Frame} (holds : Inside setup state frame) (outcome : Outcome) (errno : Int)
    (running : state.stopped = false) (only : state.stack = [frame]) :
    Invariant setup (state.handlerStep setup frame [] outcome errno) := by
  have notStopped : forall {goal : Prop}, state.stopped = true -> goal := by
    intro goal stopped
    rw [running] at stopped
    cases stopped
  have fails : forall errno call, Invariant setup (state.fail setup errno call) := by
    intro errno call
    refine (invariant_singleton ?_).mpr { holds with }
    exact only
  rcases frame with ⟨pc, savedErrno, prevMask, interrupted⟩
  have saved := holds.savedErrno
  have requested := holds.requested
  have disposition := holds.disposition
  have blocked := holds.blocked
  rcases holds.printed with ⟨episodes, printed⟩
  cases pc with
  | saving =>
      refine (invariant_singleton rfl).mpr ?_
      exact { holds with prevMask := nofun, savedErrno := saved }
  | announcing =>
      refine (invariant_singleton rfl).mpr ?_
      refine { holds with prevMask := nofun, savedErrno := saved, printed := ⟨episodes, ?_⟩ }
      rw [show HandlerPc.resetting.printed = [] ++ [caughtTstp] from rfl, ← List.append_assoc]
      exact (handlerLines_say _ (by decide)).trans (congrArg (fun lines => lines ++ [caughtTstp]) printed)
  | resetting =>
      cases outcome with
      | fails errno => exact fails _ _
      | succeeds =>
          refine (invariant_singleton rfl).mpr ?_
          exact { holds with disposition := rfl, prevMask := nofun, savedErrno := saved }
  | raising =>
      refine (invariant_singleton rfl).mpr ?_
      refine { holds with
        disposition := disposition
        prevMask := nofun
        savedErrno := saved
        requested := fun requested => ⟨running, .inl ?_⟩ }
      change (state.pending || state.blocked || decide (state.disposition ≠ .SIG_IGN)) = true
      rw [blocked]
      simp [HandlerPc.opened]
  | unblocking =>
      cases outcome with
      | fails errno => exact fails _ _
      | succeeds =>
          refine (invariant_singleton rfl).mpr ?_
          exact { holds with
            disposition := disposition
            blocked := rfl
            prevMask := fun _ => blocked
            stopped := notStopped
            savedErrno := saved
            requested := fun asked => (requested asked).imp_right (Or.imp_right False.elim) }
  | announcingCont =>
      refine (invariant_singleton rfl).mpr ?_
      refine { holds with
        disposition := disposition
        prevMask := fun _ => holds.prevMask (.inl rfl)
        savedErrno := saved
        printed := ⟨episodes, ?_⟩ }
      rw [show HandlerPc.reblocking.printed = [caughtTstp] ++ [caughtCont] from rfl, ← List.append_assoc]
      exact (handlerLines_say _ (by decide)).trans (congrArg (fun lines => lines ++ [caughtCont]) printed)
  | reblocking =>
      cases outcome with
      | fails errno => exact fails _ _
      | succeeds =>
          refine (invariant_singleton rfl).mpr ?_
          exact { holds with
            disposition := disposition
            blocked := holds.prevMask (.inr rfl)
            prevMask := nofun
            stopped := notStopped
            savedErrno := saved }
  | reestablishing =>
      cases outcome with
      | fails errno => exact fails _ _
      | succeeds =>
          refine (invariant_singleton rfl).mpr ?_
          exact { holds with disposition := rfl, prevMask := nofun, savedErrno := saved }
  | announcingExit =>
      refine (invariant_singleton rfl).mpr ?_
      refine { holds with
        disposition := disposition
        prevMask := nofun
        savedErrno := saved
        printed := ⟨episodes, ?_⟩ }
      rw [show HandlerPc.restoring.printed = [caughtTstp, caughtCont] ++ [exitingHandler] from rfl,
        ← List.append_assoc]
      exact (handlerLines_say _ (by decide)).trans
        (congrArg (fun lines => lines ++ [exitingHandler]) printed)
  | restoring => exact holds.handlerReturn running

theorem step_preserves (action : Action) (holds : Invariant setup state)
    (taken : step setup state action = some next) : Invariant setup next := by
  unfold step at taken
  split at taken
  · cases taken
  · cases action with
    | call outcome errno =>
        dsimp only at taken
        split at taken
        · cases taken
        · rename_i free
          have running : state.stopped = false := Bool.eq_false_iff.mpr (not_or.mp free).1
          rcases holds.cases with ⟨empty, outside⟩ | ⟨frame, only, inside⟩
          · rw [empty] at taken
            rcases outside.call outcome errno running taken empty with ⟨still, after⟩
            exact (invariant_nil still).mpr after
          · rw [only] at taken
            cases taken
            exact inside.call outcome errno running only
    | deliver =>
        dsimp only at taken
        split at taken
        · rename_i can
          cases taken
          rcases holds.cases with ⟨empty, outside⟩ | ⟨frame, only, inside⟩
          · exact outside.deliver empty can.2
          · exact inside.deliver only can.2
        · cases taken
    | sigtstp =>
        cases taken
        exact holds.sigtstp
    | sigcont =>
        cases taken
        exact holds.sigcont

theorem reachable_invariant (reached : (machine setup).Reachable state) : Invariant setup state := by
  refine reached.invariant ?_ ?_
  · rintro _ rfl
    exact (invariant_nil rfl).mpr (start_outside setup)
  · intro before action after holds taken
    exact step_preserves action holds taken

/-!
## A stop that is asked for happens
-/

/-- A step of the process itself, in which no call fails. -/
def Action.Own : Action -> Prop
  | .call .succeeds _ | .deliver => True
  | .call (.fails _) _ | .sigtstp | .sigcont => False

/-- How many steps the handler has to make until the process stops. -/
def HandlerPc.rank : HandlerPc -> Nat
  | .reestablishing => 10
  | .announcingExit => 9
  | .restoring => 8
  | .saving => 6
  | .announcing => 5
  | .resetting => 4
  | .raising => 3
  | .unblocking => 2
  | .announcingCont | .reblocking => 1

def State.rank (state : State) : Nat :=
  match state.stack with
  | [] => 7
  | frame :: _ => frame.pc.rank

theorem rank_nil (empty : state.stack = []) : state.rank = 7 := by
  unfold State.rank
  rw [empty]

theorem rank_cons {frame : Frame} {rest : List Frame} (there : state.stack = frame :: rest) :
    state.rank = frame.pc.rank := by
  unfold State.rank
  rw [there]

@[simp]
theorem handlerReturn_stack (state : State) (frame : Frame) (rest : List Frame) :
    (state.handlerReturn frame rest).stack = rest := by
  unfold State.handlerReturn
  split <;> rfl

@[simp]
theorem handlerReturn_requested (state : State) (frame : Frame) (rest : List Frame) :
    (state.handlerReturn frame rest).requested = state.requested := by
  unfold State.handlerReturn
  split <;> rfl

@[simp]
theorem handlerReturn_ended (state : State) (frame : Frame) (rest : List Frame) :
    (state.handlerReturn frame rest).ended = state.ended := by
  unfold State.handlerReturn
  split <;> rfl

/-- A stop has been asked for, and the process can be stopped. -/
structure Asked (setup : Setup) (state : State) : Prop where
  invariant : Invariant setup state
  requested : state.requested = true
  alive : state.ended = none
  orphaned : setup.orphaned = false
  blocked : setup.blocked = false

/-- The process has stopped, or is nearer to it. -/
def Nearer (setup : Setup) (state next : State) : Prop :=
  next.stopped = true ∨ (Asked setup next ∧ next.rank < state.rank)

theorem Asked.deliver (asked : Asked setup state) (deliverable : state.deliverable = true) :
    Nearer setup state (state.deliver setup) := by
  unfold Nearer
  rcases asked.invariant.cases with ⟨empty, outside⟩ | ⟨frame, only, inside⟩
  · have after := outside.deliver empty deliverable
    unfold State.deliver at after ⊢
    dsimp only at after ⊢
    split at after
    · rw [asked.orphaned]
      exact .inl rfl
    · rename_i ignored
      have disposition := outside.disposition
      rw [ignored] at disposition
      split at disposition
      · rename_i isIgnored
        have nothing := outside.discarded isIgnored asked.blocked
        rw [(Bool.and_eq_true_iff.mp deliverable).1] at nothing
        cases nothing
      · split at disposition <;> cases disposition
    · refine .inr ⟨⟨after, asked.requested, asked.alive, asked.orphaned, asked.blocked⟩, ?_⟩
      rw [rank_nil empty]
      exact show 6 < 7 by decide
  · have opened : frame.pc.opened = true := by
      have unblocked := (Bool.and_eq_true_iff.mp deliverable).2
      rw [inside.blocked, Bool.not_not] at unblocked
      exact unblocked
    have default := inside.disposition
    unfold State.deliver
    dsimp only
    rcases frame with ⟨pc, savedErrno, prevMask, interrupted⟩
    cases pc with
    | announcingCont | reblocking =>
        rw [show state.disposition = .SIG_DFL from default, asked.orphaned]
        exact .inl rfl
    | saving | announcing | resetting | raising | unblocking | reestablishing | announcingExit
      | restoring => cases opened

theorem Asked.call (asked : Asked setup state) (errno : Int) (quiet : state.deliverable = false)
    (running : state.stopped = false)
    (taken : step setup state (.call .succeeds errno) = some next) : Nearer setup state next := by
  have after := step_preserves _ asked.invariant taken
  unfold step at taken
  rw [asked.alive, running, quiet] at taken
  dsimp only at taken
  rcases asked.invariant.cases with ⟨empty, outside⟩ | ⟨frame, only, inside⟩
  · have deliverable : state.deliverable = true := by
      unfold State.deliverable
      rw [(outside.requested asked.requested).1, outside.blocked, asked.blocked]
      rfl
    rw [quiet] at deliverable
    cases deliverable
  · rw [only] at taken
    cases taken
    have pending := (inside.requested asked.requested).2
    have blocked := inside.blocked
    rcases frame with ⟨pc, savedErrno, prevMask, interrupted⟩
    cases pc with
    | announcingCont | reblocking =>
        have deliverable : state.deliverable = true := by
          unfold State.deliverable
          rw [pending.resolve_right id, blocked]
          rfl
        rw [quiet] at deliverable
        cases deliverable
    | saving | announcing | resetting | raising | unblocking | reestablishing | announcingExit =>
        refine .inr ⟨⟨after, asked.requested, asked.alive, asked.orphaned, asked.blocked⟩, ?_⟩
        rw [rank_cons only]
        exact Nat.lt_succ_self _
    | restoring =>
        refine .inr ⟨⟨after, ?_, ?_, asked.orphaned, asked.blocked⟩, ?_⟩
        · exact (handlerReturn_requested state _ []).trans asked.requested
        · exact (handlerReturn_ended state _ []).trans asked.alive
        · rw [rank_cons only]
          exact (rank_nil (handlerReturn_stack state _ [])).trans_lt (Nat.lt_succ_self 7)

/-- The process itself goes on until it is stopped. -/
theorem Asked.own (asked : Asked setup state) {action : Action} (own : action.Own)
    (taken : step setup state action = some next) : Nearer setup state next := by
  cases action with
  | call outcome errno =>
      cases outcome with
      | fails _ => exact own.elim
      | succeeds =>
          have free : ¬ (state.stopped = true ∨ state.deliverable = true) := by
            intro held
            unfold step at taken
            rw [asked.alive] at taken
            dsimp only at taken
            rw [if_neg nofun, if_pos held] at taken
            cases taken
          rcases not_or.mp free with ⟨notStopped, quiet⟩
          exact asked.call errno (Bool.eq_false_iff.mpr quiet) (Bool.eq_false_iff.mpr notStopped) taken
  | deliver =>
      unfold step at taken
      rw [asked.alive] at taken
      dsimp only at taken
      split at taken
      · cases taken
      · split at taken
        · rename_i can
          cases taken
          exact asked.deliver can.2
        · cases taken
  | sigtstp | sigcont => exact own.elim

theorem Asked.enabled (asked : Asked setup state) :
    Exists fun action : Action => action.Own ∧ (step setup state action).isSome := by
  have running : state.stopped = false := by
    rcases asked.invariant.cases with ⟨_, outside⟩ | ⟨_, _, inside⟩
    · exact (outside.requested asked.requested).2
    · exact (inside.requested asked.requested).1
  by_cases deliverable : state.deliverable = true
  · refine ⟨.deliver, trivial, ?_⟩
    unfold step
    rw [asked.alive, running, deliverable]
    rfl
  · have quiet := Bool.eq_false_iff.mpr deliverable
    refine ⟨.call .succeeds 0, trivial, ?_⟩
    unfold step
    rw [asked.alive, running, quiet]
    rcases asked.invariant.cases with ⟨empty, outside⟩ | ⟨frame, only, _⟩
    · have there : state.deliverable = true := by
        unfold State.deliverable
        rw [(outside.requested asked.requested).1, outside.blocked, asked.blocked]
        rfl
      exact absurd there deliverable
    · rw [only]
      rfl

/-- A process that has stopped takes no step of its own. -/
theorem not_own_of_stopped (stopped : state.stopped = true) {action : Action} (own : action.Own) :
    step setup state action = none := by
  unfold step
  split
  · rfl
  · cases action with
    | call outcome errno => exact if_pos (.inl stopped)
    | deliver =>
        refine if_neg ?_
        rw [stopped]
        exact fun both => absurd both.1 Bool.noConfusion
    | sigtstp | sigcont => exact own.elim

theorem rank_le (state : State) : state.rank ≤ 10 := by
  unfold State.rank
  split
  · decide
  · rename_i frame rest _
    cases frame.pc <;> decide

theorem rank_pos (state : State) : 0 < state.rank := by
  unfold State.rank
  split
  · decide
  · rename_i frame rest _
    cases frame.pc <;> decide

/-- A further `SIGTSTP` leaves the process where it is. -/
theorem Asked.sigtstp (asked : Asked setup state) (taken : step setup state .sigtstp = some next) :
    Asked setup next ∧ next.rank = state.rank := by
  have after := step_preserves _ asked.invariant taken
  unfold step at taken
  rw [asked.alive] at taken
  cases taken
  refine ⟨⟨after, ?_, asked.alive, asked.orphaned, asked.blocked⟩, rfl⟩
  change (state.requested || _) = true
  rw [asked.requested, Bool.true_or]

/-- A step of the process in which no call fails, or a further `SIGTSTP`. -/
def Action.Continues (action : Action) : Prop := action.Own ∨ action = .sigtstp

/-- A process that has stopped stays so, whatever else it is sent. -/
theorem run_of_stopped (stopped : state.stopped = true) {actions : List Action}
    (continues : forall action, action ∈ actions -> action.Continues) {final : State}
    (executed : (machine setup).exec state actions = some final) :
    final.stopped = true ∧ actions.length = actions.count .sigtstp := by
  induction actions generalizing state with
  | nil =>
      cases executed
      exact ⟨stopped, rfl⟩
  | cons action rest inductionHypothesis =>
      rcases Option.bind_eq_some_iff.mp executed with ⟨next, stepped, continued⟩
      rcases continues action List.mem_cons_self with own | rfl
      · rw [show (machine setup).step state action = none from not_own_of_stopped stopped own] at stepped
        cases stepped
      · have still : next.stopped = true := by
          change step setup state .sigtstp = some next at stepped
          unfold step at stepped
          split at stepped
          · cases stepped
          · cases stepped
            exact stopped
        have later := inductionHypothesis still
          (fun other member => continues other (List.mem_cons_of_mem _ member)) continued
        rw [List.length_cons, List.count_cons_self, later.2]
        exact ⟨later.1, rfl⟩

/-- The steps of a run come off the rank, until the process stops. -/
theorem Asked.run (asked : Asked setup state) {actions : List Action}
    (continues : forall action, action ∈ actions -> action.Continues) {final : State}
    (executed : (machine setup).exec state actions = some final) :
    (final.stopped = true ∧ actions.length ≤ state.rank + actions.count .sigtstp) ∨
      (Asked setup final ∧ actions.length + final.rank ≤ state.rank + actions.count .sigtstp) := by
  induction actions generalizing state with
  | nil =>
      cases executed
      exact .inr ⟨asked, by simp⟩
  | cons action rest inductionHypothesis =>
      rcases Option.bind_eq_some_iff.mp executed with ⟨next, stepped, continued⟩
      have continuesRest : forall other, other ∈ rest -> other.Continues :=
        fun other member => continues other (List.mem_cons_of_mem _ member)
      rcases continues action List.mem_cons_self with own | rfl
      · have counted : (action :: rest).count .sigtstp = rest.count .sigtstp := by
          apply List.count_cons_of_ne
          rintro rfl
          exact own
        rw [List.length_cons, counted]
        rcases asked.own own stepped with stopped | ⟨still, less⟩
        · rcases run_of_stopped stopped continuesRest continued with ⟨stays, length⟩
          have positive := rank_pos state
          exact .inl ⟨stays, by omega⟩
        · rcases inductionHypothesis still continuesRest continued with ⟨stopped, short⟩ | ⟨again, short⟩
          · exact .inl ⟨stopped, by omega⟩
          · exact .inr ⟨again, by omega⟩
      · rw [List.length_cons, List.count_cons_self]
        rcases asked.sigtstp stepped with ⟨still, same⟩
        rcases inductionHypothesis still continuesRest continued with ⟨stopped, short⟩ | ⟨again, short⟩
        · exact .inl ⟨stopped, by omega⟩
        · exact .inr ⟨again, by omega⟩

/-- A signal that is not ignored at the start never is. -/
theorem Invariant.disposition_ne (holds : Invariant setup state) (caught : setup.ignored = false) :
    state.disposition ≠ .SIG_IGN := by
  rcases holds.cases with ⟨_, outside⟩ | ⟨frame, _, inside⟩
  · have disposition := outside.disposition
    rw [caught, if_neg Bool.false_ne_true] at disposition
    rw [disposition]
    split <;> exact nofun
  · rw [inside.disposition]
    cases frame.pc <;> exact nofun

/-- A `SIGTSTP` that is sent to a running process asks for a stop. -/
theorem Invariant.asked (holds : Invariant setup state) (orphaned : setup.orphaned = false)
    (blocked : setup.blocked = false) (caught : setup.ignored = false) (running : state.stopped = false)
    (taken : step setup state .sigtstp = some next) : Asked setup next := by
  have after := step_preserves _ holds taken
  have different := holds.disposition_ne caught
  unfold step at taken
  split at taken
  · cases taken
  · rename_i alive
    cases taken
    refine ⟨after, ?_, ?_, orphaned, blocked⟩
    · change (state.requested || ((state.pending || state.blocked ||
        decide (state.disposition ≠ .SIG_IGN)) && !state.stopped)) = true
      rw [running, decide_eq_true different]
      simp
    · exact Option.not_isSome_iff_eq_none.mp alive

/-- A `SIGTSTP` stops the process after at most ten steps of its own, however often the signal
is sent again meanwhile, unless `SIGCONT` comes first or a call fails. -/
theorem sigtstp_honoured (setup : Setup) (unorphaned : setup.orphaned = false)
    (unblocked : setup.blocked = false) (caught : setup.ignored = false) :
    forall state sent, (machine setup).Reachable state -> state.stopped = false ->
      step setup state .sigtstp = some sent -> forall actions final,
        (forall action, action ∈ actions -> action.Continues) ->
          (machine setup).exec sent actions = some final ->
            actions.length ≤ 10 + actions.count .sigtstp ∧
              (final.stopped = true ∨ Exists fun action : Action => action.Own ∧
                (step setup final action).isSome) := by
  intro state sent reached running taken actions final continues executed
  have asked := (reachable_invariant reached).asked unorphaned unblocked caught running taken
  have bound := rank_le sent
  rcases asked.run continues executed with ⟨stopped, short⟩ | ⟨still, short⟩
  · exact ⟨by omega, .inl stopped⟩
  · exact ⟨by omega, .inr still.enabled⟩

def plain : Setup where
  dumpcore := none
  ignored := false
  blocked := false
  orphaned := false

def succeeding (count : Nat) : List Action := List.replicate count (.call .succeeds 0)

/-- The handler is about to return from a first `SIGTSTP`. -/
def onceActions : List Action :=
  succeeding 3 ++ [.sigtstp, .deliver] ++ succeeding 5 ++ [.deliver, .sigcont] ++ succeeding 4

def onceStopped : State := ((machine plain).exec (start plain) onceActions).get (by decide +kernel)

def twiceAsked : State := (step plain onceStopped .sigtstp).get (by decide +kernel)

/-- A third `SIGTSTP` comes before the process has stopped for the second. -/
def twiceOwn : List Action := succeeding 1 ++ [.deliver] ++ succeeding 3 ++ [.sigtstp] ++ succeeding 2 ++ [.deliver]

def twiceStopped : State := ((machine plain).exec twiceAsked twiceOwn).get (by decide +kernel)

theorem sigtstp_honoured_twice :
    (onceStopped.stopped = false ∧ twiceStopped.stopped = true) ∧
      twiceOwn.length ≤ 10 + twiceOwn.count .sigtstp ∧
        (twiceStopped.stopped = true ∨ Exists fun action : Action => action.Own ∧
          (step plain twiceStopped action).isSome) := by
  have before : (machine plain).exec (start plain) onceActions = some onceStopped :=
    (Option.some_get _).symm
  have sent : step plain onceStopped .sigtstp = some twiceAsked := (Option.some_get _).symm
  have executed : (machine plain).exec twiceAsked twiceOwn = some twiceStopped :=
    (Option.some_get _).symm
  refine ⟨by decide +kernel, ?_⟩
  refine sigtstp_honoured plain rfl rfl rfl _ _ (Machine.reachable_of_exec rfl before)
    (by decide +kernel) sent _ _ ?_ executed
  intro action member
  simp only [twiceOwn, succeeding, List.replicate, List.mem_append, List.mem_cons, List.not_mem_nil,
    or_false] at member
  rcases member with ((((rfl | rfl) | rfl | rfl | rfl) | rfl) | rfl | rfl) | rfl <;>
    first | exact .inl trivial | exact .inr rfl

/-!
## What the handler leaves behind
-/

/-- The process as its shell, and as `main`, see it. -/
structure Undisturbed (setup : Setup) (state : State) : Prop where
  /-- The handler is never entered while it runs. -/
  once : state.stack.length ≤ 1
  /-- A stop has the default disposition, and after `main` has begun, the handler is
  between its call that unblocks the signal and the one that blocks it again. -/
  stopped : state.stopped = true -> state.disposition = .SIG_DFL ∧
    (state.main = .looping ∨ state.main = .pausing ∨ state.main = .printing ->
      Exists fun frame => state.stack = [frame] ∧ frame.pc.opened = true)
  /-- Outside the handler, everything is as `main` has left it. -/
  outside : state.stack = [] -> state.errno = state.mainErrno ∧ state.blocked = setup.blocked ∧
    (state.main = .looping ∨ state.main = .pausing ∨ state.main = .printing ->
      state.disposition = if setup.ignored then .SIG_IGN else .handler)
  /-- A signal that is ignored at the start has no effect. -/
  ignored : setup.ignored = true -> state.stopped = false ∧ state.stack = []
  /-- The handler prints its lines in turn. -/
  printed : Exists fun episodes => Exists fun part => part <+: episode ∧
    handlerLines state.output = (List.replicate episodes episode).flatten ++ part

theorem Outside.undisturbed (holds : Outside setup state) (empty : state.stack = []) :
    Undisturbed setup state := by
  have begun : state.main = .looping ∨ state.main = .pausing ∨ state.main = .printing ->
      state.disposition = if setup.ignored then .SIG_IGN else .handler := by
    intro position
    have past : ¬ (state.main = .asking ∨ state.main = .establishing) := by
      rcases position with here | here | here <;> rw [here] <;> simp
    rw [holds.disposition, if_neg past]
  constructor
  case once => simp [empty]
  case stopped =>
    intro stopped
    have default := holds.stopped stopped
    refine ⟨default, ?_⟩
    intro position
    have disposition := begun position
    rw [default] at disposition
    split at disposition <;> cases disposition
  case outside => exact fun _ => ⟨holds.errno, holds.blocked, begun⟩
  case ignored =>
    intro ignored
    refine ⟨?_, empty⟩
    by_contra stopped
    have default := holds.stopped (Bool.eq_true_of_not_eq_false stopped)
    have disposition := holds.disposition
    rw [if_pos ignored, default] at disposition
    cases disposition
  case printed =>
    rcases holds.printed with ⟨episodes, printed⟩
    exact ⟨episodes, [], List.nil_prefix, printed.trans (List.append_nil _).symm⟩

theorem Inside.undisturbed {frame : Frame} (holds : Inside setup state frame)
    (only : state.stack = [frame]) : Undisturbed setup state := by
  constructor
  case once => simp [only]
  case stopped =>
    intro stopped
    have opened := holds.stopped stopped
    refine ⟨?_, fun _ => ⟨frame, only, opened⟩⟩
    rw [holds.disposition]
    cases pc : frame.pc <;> rw [pc] at opened <;> first | rfl | cases opened
  case outside =>
    intro empty
    rw [only] at empty
    cases empty
  case ignored =>
    intro ignored
    rw [holds.ignored] at ignored
    cases ignored
  case printed =>
    rcases holds.printed with ⟨episodes, printed⟩
    refine ⟨episodes, frame.pc.printed, ?_, printed⟩
    cases frame.pc <;> decide

/-- Whenever the two signals come, the handler runs at most once at a time, and `main` does
not notice it. -/
theorem handler_undisturbed (setup : Setup) :
    forall state, (machine setup).Reachable state -> Undisturbed setup state := by
  intro state reached
  rcases (reachable_invariant reached).cases with ⟨empty, outside⟩ | ⟨frame, only, inside⟩
  · exact outside.undisturbed empty
  · exact inside.undisturbed only

theorem handler_undisturbed_stopped :
    (twiceStopped.stopped = true ∧ handlerLines twiceStopped.output = episode ++ [caughtTstp]) ∧
      Undisturbed plain twiceStopped := by
  have before : (machine plain).exec (start plain) onceActions = some onceStopped :=
    (Option.some_get _).symm
  have sent : (machine plain).step onceStopped .sigtstp = some twiceAsked := (Option.some_get _).symm
  have executed : (machine plain).exec twiceAsked twiceOwn = some twiceStopped :=
    (Option.some_get _).symm
  exact ⟨by decide +kernel, handler_undisturbed _ _
    (Machine.Reachable.exec (.step (Machine.reachable_of_exec rfl before) trivial sent) executed)⟩

end HandlingSigtstp
end ProcessCredentials
end Tlpi
