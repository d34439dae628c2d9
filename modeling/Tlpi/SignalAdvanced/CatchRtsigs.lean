import Tlpi.CLibrary.Signals
import Tlpi.CLibrary.Strings
import Tlpi.Foundations.Transition
import Tlpi.Lib.ErrorFunctions
import Tlpi.Lib.GetNum

namespace Tlpi
namespace SignalAdvanced
namespace CatchRtsigs

open CLibrary Foundations Lib

/-!
# Waiting for signals until told to stop

`catch_rtsigs` installs one handler for nearly all signals and then waits in a loop
around `pause`.  The handler of `SIGINT` and `SIGTERM` sets `allDone`, which the loop
tests before every `pause`.  The signals are not blocked between the test and the
call, so a handler that runs there is not noticed until another signal comes.

The machine takes one step per call of the process.  Signals are sent at any time.
They are delivered between any two steps and during `sleep` and `pause`, in any
order.  A call that sleeps ends when the environment says so, or early, when a
handler that has interrupted it returns.  A stopped process takes no step.
-/

structure Setup where
  dumpcore : Option String
  argv : List CString
  pid : Int

def Setup.argc (setup : Setup) : Nat := setup.argv.length

/-- The positions of `main`, each named after what it does next; at `paused` it is
in `pause`. -/
inductive Pc where
  | parsing
  | installing (sig : Nat)
  | blocking
  | announcing
  | sleeping
  | completing
  | unblocking
  | testing
  | pausing
  | paused
  | finishing
deriving DecidableEq, Repr

inductive HandlerPc where
  | entering
  | printing
  | sleeping
  | returning
deriving DecidableEq, Repr

/-- A call of the handler, with the mask that is put back when it returns. -/
structure Frame where
  sig : Nat
  si : Siginfo
  pc : HandlerPc
  savedMask : SignalMask

/-- What is printed. -/
inductive Line where
  | pid (pid : Int)
  | blocked (seconds : CString)
  | complete
  | caught (sig : Nat)
  | info (si_signo : Nat) (si_code : Int) (origin : String) (si_value : Int)
  | sender (si_pid si_uid : Int)
  | total (sigCnt : Nat)
deriving DecidableEq

inductive Ending where
  | success
  | usage
  | badArgument (diagnostic : List Byte)
  | failure (failure : Failure)
deriving DecidableEq, Repr

inductive Status where
  | running
  | stopped
  | exited (ending : Ending)
  | killed (sig : Nat)
deriving DecidableEq, Repr

/-- The process.  The innermost call of the handler is the first of `frames`. -/
structure State where
  pc : Pc
  frames : List Frame
  status : Status
  mask : SignalMask
  prevMask : SignalMask
  pending : Pending
  disposition : Nat -> Disposition
  handlerSleepTime : Int
  sigCnt : Nat
  allDone : Bool
  output : List Line

inductive Action where
  | main
  | handler
  | fail (errno : Errno)
  | generate (info : Siginfo)
  | deliver (sig : Nat)
deriving DecidableEq, Repr

/-- The signals that tell the program to stop. -/
def stops (sig : Nat) : Bool := sig = SIGINT ∨ sig = SIGTERM

def originName (si_code : Int) : String :=
  if si_code = SI_USER then "SI_USER" else if si_code = SI_QUEUE then "SI_QUEUE" else "other"

namespace State

def moveTo (state : State) (pc : Pc) : State := { state with pc := pc }

def print (state : State) (lines : List Line) : State :=
  { state with output := state.output ++ lines }

def exit (state : State) (ending : Ending) : State := { state with status := .exited ending }

/-- The start of `main`: the check for `--help` and the second argument. -/
def parse (setup : Setup) (state : State) : State :=
  if 1 < setup.argc ∧ (setup.argv[1]?).map CString.bytes = some (ascii "--help") then
    state.exit .usage
  else
    let announced := state.print [.pid setup.pid]
    let time :=
      if 2 < setup.argc then
        getInt ((setup.argv[2]?).map CString.bytes) GN_NONNEG (some "handler-sleep-time")
      else .ok 1
    match time with
    | .error diagnostic => announced.exit (.badArgument diagnostic)
    | .ok seconds => { announced with handlerSleepTime := seconds }.moveTo (.installing 1)

/-- `sigaction(sig, &sa, NULL)`, whose result is ignored. -/
def sigaction (state : State) (sig : Nat) : State :=
  if catchable sig then { state with disposition := Function.update state.disposition sig .handler }
  else state

/-- One pass of the loop that installs the handler, or its end. -/
def installHandler (setup : Setup) (state : State) (sig : Nat) : State :=
  if sig < NSIG then
    let installed := if sig ≠ SIGTSTP ∧ sig ≠ SIGQUIT then state.sigaction sig else state
    installed.moveTo (.installing (sig + 1))
  else state.moveTo (if 1 < setup.argc then .blocking else .testing)

/-- The set that is blocked for the sleep. -/
def blockMask : Sigset := sigdelset (sigdelset sigfillset SIGINT) SIGTERM

/-- The announcement of the sleep, and the check of the first argument. -/
def announce (setup : Setup) (state : State) : State :=
  let announced := state.print ((setup.argv[1]?).toList.map .blocked)
  match getInt ((setup.argv[1]?).map CString.bytes) GN_GT_0 (some "block-time") with
  | .error diagnostic => announced.exit (.badArgument diagnostic)
  | .ok _ => announced.moveTo .sleeping

def mainStep (setup : Setup) (state : State) : Option State :=
  match state.pc with
  | .parsing => some (state.parse setup)
  | .installing sig => some (state.installHandler setup sig)
  | .blocking =>
      some ({ state with mask := .install blockMask, prevMask := state.mask }.moveTo .announcing)
  | .announcing => some (state.announce setup)
  | .sleeping => some (state.moveTo .completing)
  | .completing => some ((state.print [.complete]).moveTo .unblocking)
  | .unblocking => some ({ state with mask := state.prevMask }.moveTo .testing)
  | .testing => some (state.moveTo (if state.allDone then .finishing else .pausing))
  | .pausing => some (state.moveTo .paused)
  | .paused => none
  | .finishing => some ((state.print [.total state.sigCnt]).exit .success)

/-- A call of `sigprocmask` fails. -/
def mainFails (setup : Setup) (state : State) (errno : Errno) : Option State :=
  match state.pc with
  | .blocking | .unblocking =>
      some (state.exit (.failure (errExit setup.dumpcore errno "sigprocmask")))
  | _ => none

/-- The lines that the handler prints. -/
def report (sig : Nat) (si : Siginfo) : List Line :=
  [.caught sig, .info si.si_signo si.si_code (originName si.si_code) si.si_value,
    .sender si.si_pid si.si_uid]

/-- Where `main` goes on after it was interrupted: `pause` returns, and so does a
`sleep`. -/
def resumed : Pc -> Pc
  | .paused => .testing
  | .sleeping => .completing
  | pc => pc

/-- The next step of the innermost call of the handler. -/
def handlerStep (state : State) (frame : Frame) (rest : List Frame) : State :=
  match frame.pc with
  | .entering =>
      if stops frame.sig then
        { state with allDone := true, frames := { frame with pc := .returning } :: rest }
      else
        { state with sigCnt := state.sigCnt + 1, frames := { frame with pc := .printing } :: rest }
  | .printing =>
      { state.print (report frame.sig frame.si) with
        frames := { frame with pc := .sleeping } :: rest }
  | .sleeping => { state with frames := { frame with pc := .returning } :: rest }
  | .returning =>
      { state with
        frames := rest
        mask := frame.savedMask
        pc := if rest = [] then resumed state.pc else state.pc }

/-- A signal is sent.  `SIGCONT` also resumes a stopped process. -/
def generate (state : State) (info : Siginfo) : State :=
  { state with
    pending := state.pending.generate info
    status := if info.si_signo = SIGCONT then .running else state.status }

def byDefault (state : State) (sig : Nat) : State :=
  match defaultAction sig with
  | .terminate => { state with status := .killed sig }
  | .ignore => state
  | .stop => { state with status := .stopped }

/-- The first pending signal of the number is delivered. -/
def deliver (state : State) (sig : Nat) : Option State :=
  if state.mask.blocks sig then none
  else
    (state.pending.take sig).map (fun (info, rest) =>
      let taken := { state with pending := rest }
      match state.disposition sig with
      | .SIG_IGN => taken
      | .SIG_DFL => taken.byDefault sig
      | .handler =>
          { taken with
            frames := ⟨sig, info, .entering, state.mask⟩ :: state.frames
            mask := state.mask.during sig sigfillset })

def step (setup : Setup) (state : State) (action : Action) : Option State :=
  match state.status, action with
  | .running, .main => if state.frames = [] then state.mainStep setup else none
  | .running, .fail errno => if state.frames = [] then state.mainFails setup errno else none
  | .running, .handler =>
      match state.frames with
      | [] => none
      | frame :: rest => some (state.handlerStep frame rest)
  | .running, .deliver sig => state.deliver sig
  | .stopped, .deliver sig => if sig = SIGKILL then state.deliver sig else none
  | .running, .generate info | .stopped, .generate info =>
      if 1 ≤ info.si_signo ∧ info.si_signo < NSIG then some (state.generate info) else none
  | _, _ => none

end State

/-- The program.  The mask, the pending signals and the ignored ones are inherited,
and no handler is. -/
def catchRtsigs (setup : Setup) : Machine State Action where
  Initial := fun state => state.pc = .parsing ∧ state.frames = [] ∧ state.status = .running ∧
    (forall sig, state.disposition sig ≠ .handler) ∧ state.sigCnt = 0 ∧ state.allDone = false ∧
    state.output = []
  step := State.step setup

/-! ## What a step can do -/

section

variable {setup : Setup} {state next : State} {action : Action}

theorem step_cases (stepped : state.step setup action = some next) :
    (action = .main ∧ state.frames = [] ∧ state.mainStep setup = some next) ∨
    (Exists fun errno => action = .fail errno ∧ state.mainFails setup errno = some next) ∨
    (Exists fun frame => Exists fun rest => action = .handler ∧ state.frames = frame :: rest ∧
      next = state.handlerStep frame rest) ∨
    (Exists fun sig => action = .deliver sig ∧ state.deliver sig = some next) ∨
    (Exists fun info => action = .generate info ∧ next = state.generate info) := by
  unfold State.step at stepped
  split at stepped
  · rcases Option.ite_none_right_eq_some.mp stepped with ⟨idle, result⟩
    exact .inl ⟨rfl, idle, result⟩
  · rcases Option.ite_none_right_eq_some.mp stepped with ⟨-, result⟩
    exact .inr (.inl ⟨_, rfl, result⟩)
  · split at stepped
    · cases stepped
    · rename_i frame rest frames
      cases stepped
      exact .inr (.inr (.inl ⟨frame, rest, rfl, frames, rfl⟩))
  · exact .inr (.inr (.inr (.inl ⟨_, rfl, stepped⟩)))
  · rcases Option.ite_none_right_eq_some.mp stepped with ⟨-, result⟩
    exact .inr (.inr (.inr (.inl ⟨_, rfl, result⟩)))
  · rcases Option.ite_none_right_eq_some.mp stepped with ⟨-, result⟩
    cases result
    exact .inr (.inr (.inr (.inr ⟨_, rfl, rfl⟩)))
  · rcases Option.ite_none_right_eq_some.mp stepped with ⟨-, result⟩
    cases result
    exact .inr (.inr (.inr (.inr ⟨_, rfl, rfl⟩)))
  · cases stepped

/-- Two states that agree on what the handler and the loop share. -/
structure SameTalk (state next : State) : Prop where
  pc : next.pc = state.pc
  frames : next.frames = state.frames
  allDone : next.allDone = state.allDone
  mask : next.mask = state.mask
  disposition : next.disposition = state.disposition

theorem mainFails_same {errno : Errno} (failed : state.mainFails setup errno = some next) :
    SameTalk state next := by
  unfold State.mainFails at failed
  split at failed <;> cases failed <;> exact ⟨rfl, rfl, rfl, rfl, rfl⟩

theorem generate_same (state : State) (info : Siginfo) : SameTalk state (state.generate info) :=
  ⟨rfl, rfl, rfl, rfl, rfl⟩

/-- A delivery either leaves all of that alone or calls the handler. -/
theorem deliver_cases {sig : Nat} (delivered : state.deliver sig = some next) :
    SameTalk state next ∨
    (state.mask.blocks sig = false ∧ state.disposition sig = .handler ∧
      Exists fun info => Exists fun rest => next = { state with
        pending := rest
        frames := ⟨sig, info, .entering, state.mask⟩ :: state.frames
        mask := state.mask.during sig sigfillset }) := by
  unfold State.deliver at delivered
  split at delivered
  · cases delivered
  · rename_i unblocked
    rcases Option.map_eq_some_iff.mp delivered with ⟨⟨info, rest⟩, -, result⟩
    dsimp only at result
    split at result
    · cases result
      exact .inl ⟨rfl, rfl, rfl, rfl, rfl⟩
    · cases result
      left
      unfold State.byDefault
      split <;> exact ⟨rfl, rfl, rfl, rfl, rfl⟩
    · rename_i isHandler
      exact .inr ⟨Bool.eq_false_iff.mpr unblocked, isHandler, info, rest, result.symm⟩

/-- What a step of `main` does to the things that it shares with the handler: it
calls `pause` only behind the test. -/
structure MainStep (state next : State) : Prop where
  frames : next.frames = state.frames
  allDone : next.allDone = state.allDone
  pausing : next.pc = .pausing -> state.allDone = false
  paused : next.pc = .paused -> state.pc = .pausing
  disposition : forall sig, next.disposition sig = .handler ->
    state.disposition sig = .handler ∨ catchable sig = true

/-- A step to a position in front of the loop. -/
theorem MainStep.of_early (frames : next.frames = state.frames)
    (allDone : next.allDone = state.allDone) (disposition : next.disposition = state.disposition)
    (notPausing : next.pc ≠ .pausing) (notPaused : next.pc ≠ .paused) : MainStep state next where
  frames := frames
  allDone := allDone
  pausing := fun pausing => absurd pausing notPausing
  paused := fun paused => absurd paused notPaused
  disposition := by
    intro sig handled
    rw [disposition] at handled
    exact .inl handled

theorem exit_step {printed : State} (same : SameTalk state printed) (ending : Ending)
    (notPausing : state.pc ≠ .pausing) (notPaused : state.pc ≠ .paused) :
    MainStep state (printed.exit ending) := by
  rw [← same.pc] at notPausing notPaused
  exact .of_early same.frames same.allDone same.disposition notPausing notPaused

theorem print_same (state : State) (lines : List Line) : SameTalk state (state.print lines) :=
  ⟨rfl, rfl, rfl, rfl, rfl⟩

theorem parse_step (setup : Setup) (position : state.pc = .parsing) :
    MainStep state (state.parse setup) := by
  have notPausing : state.pc ≠ .pausing := by rw [position]; decide
  have notPaused : state.pc ≠ .paused := by rw [position]; decide
  unfold State.parse
  split
  · exact exit_step ⟨rfl, rfl, rfl, rfl, rfl⟩ _ notPausing notPaused
  · dsimp only
    split
    · exact exit_step (print_same state _) _ notPausing notPaused
    · exact .of_early rfl rfl rfl (fun impossible => by cases impossible)
        (fun impossible => by cases impossible)

theorem installHandler_step (setup : Setup) (state : State) (sig : Nat) :
    MainStep state (state.installHandler setup sig) := by
  have untouched (pc : Pc) (notPausing : pc ≠ .pausing) (notPaused : pc ≠ .paused) :
      MainStep state (state.moveTo pc) := .of_early rfl rfl rfl notPausing notPaused
  unfold State.installHandler
  split
  · unfold State.sigaction
    split
    · split
      · rename_i catches
        refine ⟨rfl, rfl, (fun impossible => by cases impossible),
          (fun impossible => by cases impossible), ?_⟩
        intro other handled
        by_cases same : other = sig
        · rw [same]
          exact .inr catches
        · left
          change Function.update state.disposition sig .handler other = .handler at handled
          rw [Function.update_of_ne same] at handled
          exact handled
      · exact untouched _ (fun impossible => by cases impossible) (fun impossible => by cases impossible)
    · exact untouched _ (fun impossible => by cases impossible) (fun impossible => by cases impossible)
  · split <;>
      exact untouched _ (fun impossible => by cases impossible) (fun impossible => by cases impossible)

theorem announce_step (setup : Setup) (position : state.pc = .announcing) :
    MainStep state (state.announce setup) := by
  unfold State.announce
  dsimp only
  split
  · exact exit_step (print_same state _) _ (by rw [position]; decide) (by rw [position]; decide)
  · exact .of_early rfl rfl rfl (fun impossible => by cases impossible)
      (fun impossible => by cases impossible)

theorem mainStep_spec (stepped : state.mainStep setup = some next) : MainStep state next := by
  unfold State.mainStep at stepped
  cases position : state.pc <;> rw [position] at stepped <;> cases stepped
  case parsing => exact parse_step setup position
  case installing sig => exact installHandler_step setup state sig
  case announcing => exact announce_step setup position
  case testing =>
      refine ⟨rfl, rfl, ?_, ?_, fun _ handled => .inl handled⟩
      · intro pausing
        change (if state.allDone then Pc.finishing else Pc.pausing) = .pausing at pausing
        split at pausing
        · cases pausing
        · rename_i notDone
          exact Bool.eq_false_iff.mpr notDone
      · intro paused
        change (if state.allDone then Pc.finishing else Pc.pausing) = .paused at paused
        split at paused <;> cases paused
  case pausing =>
      exact ⟨rfl, rfl, (fun impossible => by cases impossible), fun _ => position,
        fun _ handled => .inl handled⟩
  case finishing =>
      exact exit_step (print_same state _) _ (by rw [position]; decide) (by rw [position]; decide)
  all_goals
    exact .of_early rfl rfl rfl (fun impossible => by cases impossible)
      (fun impossible => by cases impossible)

end

/-! ## Calls of the handler do not nest -/

/-- Only signals that can be caught have a handler, and while it runs all of them
are blocked. -/
structure Single (state : State) : Prop where
  catches : forall sig, state.disposition sig = .handler -> catchable sig = true
  blocked : state.frames = [] ∨
    Exists fun frame => state.frames = [frame] ∧
      forall sig, catchable sig = true -> state.mask.blocks sig = true

section

variable {setup : Setup} {state next : State} {action : Action}

theorem Single.of_same (single : Single state) (same : SameTalk state next) : Single next where
  catches := by
    rw [same.disposition]
    exact single.catches
  blocked := by
    rw [same.frames, same.mask]
    exact single.blocked

theorem Single.handlerStep (single : Single state) {frame : Frame} {rest : List Frame}
    (frames : state.frames = frame :: rest) : Single (state.handlerStep frame rest) := by
  rcases single with ⟨catches, idle | ⟨running, alone, blocked⟩⟩
  · rw [frames] at idle
    cases idle
  · rw [frames] at alone
    cases alone
    unfold State.handlerStep
    split
    · split <;> exact ⟨catches, .inr ⟨_, rfl, blocked⟩⟩
    · exact ⟨catches, .inr ⟨_, rfl, blocked⟩⟩
    · exact ⟨catches, .inr ⟨_, rfl, blocked⟩⟩
    · exact ⟨catches, .inl rfl⟩

theorem Single.deliver (single : Single state) {sig : Nat}
    (delivered : state.deliver sig = some next) : Single next := by
  rcases deliver_cases delivered with same | ⟨unblocked, handled, info, rest, rfl⟩
  · exact single.of_same same
  · have catches := single.catches sig handled
    rcases single.blocked with idle | ⟨frame, -, blocked⟩
    · refine ⟨single.catches, .inr ⟨⟨sig, info, .entering, state.mask⟩, ?_, ?_⟩⟩
      · change _ :: state.frames = _
        rw [idle]
      · intro other otherCatches
        exact catchable_blocked state.mask sig otherCatches
    · rw [blocked sig catches] at unblocked
      cases unblocked

theorem step_single (single : Single state) (stepped : state.step setup action = some next) :
    Single next := by
  rcases step_cases stepped with ⟨-, idle, main⟩ | ⟨errno, -, failed⟩ | ⟨frame, rest, -, frames, rfl⟩ |
    ⟨sig, -, delivered⟩ | ⟨info, -, rfl⟩
  · have spec := mainStep_spec main
    refine ⟨?_, .inl (spec.frames.trans idle)⟩
    intro sig handled
    rcases spec.disposition sig handled with before | catches
    · exact single.catches sig before
    · exact catches
  · exact single.of_same (mainFails_same failed)
  · exact single.handlerStep frames
  · exact single.deliver delivered
  · exact single.of_same (generate_same state info)

end

/-- At any time at most one call of the handler is running. -/
theorem handler_not_interrupted {setup : Setup} {state : State}
    (reachable : (catchRtsigs setup).Reachable state) : state.frames.length ≤ 1 := by
  have single : Single state := by
    refine Machine.Reachable.invariant ?_ ?_ reachable
    · rintro state ⟨-, idle, -, unhandled, -⟩
      exact ⟨fun sig handled => absurd handled (unhandled sig), .inl idle⟩
    · intro state action next single stepped
      exact step_single single stepped
  rcases single.blocked with idle | ⟨frame, alone, -⟩
  · rw [idle]
    exact Nat.zero_le 1
  · rw [alone]
    exact Nat.le_refl 1

/-! ## The loop and the handler -/

/-- The program has been told to stop: `allDone` is set, or a call of the handler
will set it. -/
def Told (state : State) : Prop :=
  state.allDone = true ∨ Exists fun frame => frame ∈ state.frames ∧ stops frame.sig = true

/-- Between the test and the call of `pause` the program has not been told to stop,
and in `pause` it has not noticed anything. -/
structure Notices (state : State) : Prop where
  window : state.pc = .pausing -> ¬ Told state
  asleep : state.pc = .paused -> state.frames = [] -> state.allDone = false

/-- A step that does not deliver `SIGINT` or `SIGTERM` between the test of `allDone`
and the call of `pause`. -/
def Careful (state : State) : Action -> Prop
  | .deliver sig => stops sig = true -> state.pc ≠ .pausing
  | _ => True

instance (state : State) : DecidablePred (Careful state) := by
  intro action
  cases action <;> unfold Careful <;> infer_instance

/-- `main` sleeps in `pause`: no handler has interrupted it. -/
def Blocked (state : State) : Prop := state.pc = .paused ∧ state.frames = []

section

variable {setup : Setup} {state next : State} {action : Action}

theorem Notices.of_same (notices : Notices state) (same : SameTalk state next) : Notices next := by
  rcases notices with ⟨window, asleep⟩
  constructor
  · unfold Told
    rw [same.pc, same.frames, same.allDone]
    exact window
  · rw [same.pc, same.frames, same.allDone]
    exact asleep

theorem Notices.mainStep (notices : Notices state) (idle : state.frames = [])
    (spec : MainStep state next) : Notices next := by
  constructor
  · intro pausing told
    unfold Told at told
    rw [spec.frames, idle, spec.allDone, spec.pausing pausing] at told
    rcases told with impossible | ⟨frame, member, -⟩
    · cases impossible
    · cases member
  · intro paused _
    have notTold := notices.window (spec.paused paused)
    rw [spec.allDone]
    exact Bool.eq_false_iff.mpr (fun done => notTold (.inl done))

theorem resumed_window {pc : Pc} (pausing : State.resumed pc = .pausing) : pc = .pausing := by
  cases pc <;> first | rfl | cases pausing

theorem resumed_ne_paused (pc : Pc) : State.resumed pc ≠ .paused := by
  cases pc <;> exact fun impossible => by cases impossible

/-- The handler does not tell the program to stop unless its signal does. -/
theorem handlerStep_told {frame : Frame} {rest : List Frame} (frames : state.frames = frame :: rest)
    (notTold : ¬ Told state) : ¬ Told (state.handlerStep frame rest) := by
  have notDone : state.allDone = false := Bool.eq_false_iff.mpr (fun done => notTold (.inl done))
  have quiet : forall other, other ∈ frame :: rest -> stops other.sig = false := by
    intro other member
    rw [← frames] at member
    exact Bool.eq_false_iff.mpr (fun isStop => notTold (.inr ⟨other, member, isStop⟩))
  have still (pc : HandlerPc) : forall other, other ∈ { frame with pc := pc } :: rest ->
      stops other.sig = false := by
    intro other member
    rcases List.mem_cons.mp member with rfl | member
    · exact quiet frame List.mem_cons_self
    · exact quiet other (List.mem_cons_of_mem _ member)
  have untold (result : State) (done : result.allDone = state.allDone)
      (others : forall other, other ∈ result.frames -> stops other.sig = false) : ¬ Told result := by
    rintro (isDone | ⟨other, member, isStop⟩)
    · rw [done, notDone] at isDone
      cases isDone
    · rw [others other member] at isStop
      cases isStop
  unfold State.handlerStep
  split
  · rw [if_neg (by rw [quiet frame List.mem_cons_self]; decide)]
    exact untold _ rfl (still .printing)
  · exact untold _ rfl (still .sleeping)
  · exact untold _ rfl (still .returning)
  · exact untold _ rfl (fun other member => quiet other (List.mem_cons_of_mem _ member))

/-- What the handler does to the position of `main`. -/
theorem handlerStep_pc (state : State) (frame : Frame) (rest : List Frame) :
    ((state.handlerStep frame rest).pc = state.pc ∧
      ((state.handlerStep frame rest).frames = [] -> False)) ∨
    ((state.handlerStep frame rest).frames = rest ∧
      (state.handlerStep frame rest).pc = if rest = [] then State.resumed state.pc else state.pc) := by
  unfold State.handlerStep
  split
  · split <;> exact .inl ⟨rfl, fun impossible => by cases impossible⟩
  · exact .inl ⟨rfl, fun impossible => by cases impossible⟩
  · exact .inl ⟨rfl, fun impossible => by cases impossible⟩
  · exact .inr ⟨rfl, rfl⟩

theorem Notices.handlerStep (notices : Notices state) {frame : Frame} {rest : List Frame}
    (frames : state.frames = frame :: rest) : Notices (state.handlerStep frame rest) := by
  rcases handlerStep_pc state frame rest with ⟨pc, busy⟩ | ⟨left, pc⟩
  · constructor
    · rw [pc]
      intro pausing
      exact handlerStep_told frames (notices.window pausing)
    · intro _ idle
      exact (busy idle).elim
  · constructor
    · rw [pc]
      intro pausing
      have before : state.pc = .pausing := by
        split at pausing
        · exact resumed_window pausing
        · exact pausing
      exact handlerStep_told frames (notices.window before)
    · rw [pc, left]
      intro paused idle
      rw [if_pos idle] at paused
      exact absurd paused (resumed_ne_paused state.pc)

theorem Notices.deliver (notices : Notices state) {sig : Nat}
    (careful : stops sig = true -> state.pc ≠ .pausing)
    (delivered : state.deliver sig = some next) : Notices next := by
  rcases deliver_cases delivered with same | ⟨-, -, info, rest, rfl⟩
  · exact notices.of_same same
  · constructor
    · rintro pausing (done | ⟨frame, member, isStop⟩)
      · exact notices.window pausing (.inl done)
      · rcases List.mem_cons.mp member with rfl | member
        · exact careful isStop pausing
        · exact notices.window pausing (.inr ⟨frame, member, isStop⟩)
    · intro _ impossible
      cases impossible

theorem step_notices (notices : Notices state) (careful : Careful state action)
    (stepped : state.step setup action = some next) : Notices next := by
  rcases step_cases stepped with ⟨-, idle, main⟩ | ⟨errno, -, failed⟩ | ⟨frame, rest, -, frames, rfl⟩ |
    ⟨sig, rfl, delivered⟩ | ⟨info, -, rfl⟩
  · exact notices.mainStep idle (mainStep_spec main)
  · exact notices.of_same (mainFails_same failed)
  · exact notices.handlerStep frames
  · exact notices.deliver careful delivered
  · exact notices.of_same (generate_same state info)

end

/-- In a run in which neither `SIGINT` nor `SIGTERM` is delivered between a test of
`allDone` and the call of `pause` behind it, the program never sleeps in `pause`
with `allDone` set and no signal pending. -/
theorem never_sleeps_when_done {setup : Setup} {state : State}
    (reachable : (catchRtsigs setup).ReachableUnder Careful state) :
    ¬ (Blocked state ∧ state.allDone = true ∧ state.pending = []) := by
  have notices : Notices state := by
    refine Machine.ReachableUnder.invariant ?_ ?_ reachable
    · rintro state ⟨position, -, -, -, -, notDone, -⟩
      refine ⟨?_, fun _ _ => notDone⟩
      intro pausing
      rw [position] at pausing
      cases pausing
    · intro state action next notices careful stepped
      exact step_notices notices careful stepped
  rintro ⟨⟨paused, idle⟩, done, -⟩
  rw [notices.asleep paused idle] at done
  cases done

def plainSetup : Setup where
  dumpcore := none
  argv := [⟨ascii "catch_rtsigs", nullFree_of_all (by decide)⟩]
  pid := 100

def plainStart : State where
  pc := .parsing
  frames := []
  status := .running
  mask := .install (fun _ => false)
  prevMask := .install (fun _ => false)
  pending := []
  disposition := fun _ => .SIG_DFL
  handlerSleepTime := 0
  sigCnt := 0
  allDone := false
  output := []

theorem plainStart_initial : (catchRtsigs plainSetup).Initial plainStart :=
  ⟨rfl, rfl, rfl, (fun _ impossible => by cases impossible), rfl, rfl, rfl⟩

/-- The parsing, the 64 signals, the end of the loop over them and the first test. -/
def untilPausing : List Action := List.replicate 67 .main

def sent (sig : Nat) (si_code si_value : Int) : Action := .generate ⟨sig, si_code, si_value, 200, 1000⟩

/-- Two realtime signals are queued and caught, and then `SIGINT` comes during
`pause`. -/
def caughtTwo : List Action :=
  List.flatten [untilPausing, [.main, sent 34 SI_QUEUE 5, sent 34 SI_QUEUE 6, .deliver 34],
    List.replicate 4 .handler, [.deliver 34], List.replicate 4 .handler,
    [.main, .main, sent SIGINT SI_USER 0, .deliver SIGINT, .handler, .handler, .main, .main]]

def caughtTwoFinal : State :=
  ((catchRtsigs plainSetup).execUnder Careful plainStart caughtTwo).get (by decide +kernel)

theorem never_sleeps_after_two :
    (caughtTwoFinal.status = .exited .success ∧ caughtTwoFinal.sigCnt = 2) ∧
      ¬ (Blocked caughtTwoFinal ∧ caughtTwoFinal.allDone = true ∧ caughtTwoFinal.pending = []) := by
  have executed : (catchRtsigs plainSetup).execUnder Careful plainStart caughtTwo =
      some caughtTwoFinal := (Option.some_get _).symm
  refine ⟨by decide +kernel, ?_⟩
  exact never_sleeps_when_done
    (Machine.ReachableUnder.execUnder (.initial plainStart_initial) executed)

/-- A delivery that is not careful is all it takes: unless something else is pending,
the program goes to sleep for good. -/
theorem sleeps_after_delivery (setup : Setup) {state : State} {sig : Nat} {info : Siginfo}
    (running : state.status = .running) (position : state.pc = .pausing)
    (idle : state.frames = []) (isStop : stops sig = true)
    (handled : state.disposition sig = .handler) (unblocked : state.mask.blocks sig = false)
    (only : state.pending.take sig = some (info, [])) :
    Exists fun final =>
      (catchRtsigs setup).exec state [.deliver sig, .handler, .handler, .main] = some final ∧
        Blocked final ∧ final.allDone = true ∧ final.pending = [] := by
  have delivered : state.step setup (.deliver sig) = some { state with
      pending := []
      frames := [⟨sig, info, .entering, state.mask⟩]
      mask := state.mask.during sig sigfillset } := by
    simp only [State.step, running, State.deliver, unblocked, only, handled, idle]
    rfl
  have noticed : State.step setup { state with
      pending := []
      frames := [⟨sig, info, .entering, state.mask⟩]
      mask := state.mask.during sig sigfillset } .handler = some { state with
      pending := []
      frames := [⟨sig, info, .returning, state.mask⟩]
      mask := state.mask.during sig sigfillset
      allDone := true } := by
    simp only [State.step, running, State.handlerStep, isStop]
    rfl
  have returned : State.step setup { state with
      pending := []
      frames := [⟨sig, info, .returning, state.mask⟩]
      mask := state.mask.during sig sigfillset
      allDone := true } .handler =
      some { state with pending := [], frames := [], allDone := true } := by
    simp only [State.step, running, State.handlerStep, position, State.resumed]
    rfl
  have entered : State.step setup
      { state with pending := [], frames := [], allDone := true } .main =
      some ({ state with pending := [], frames := [], allDone := true }.moveTo .paused) := by
    simp only [State.step, running, State.mainStep, position]
    rfl
  refine ⟨{ state with pending := [], frames := [], allDone := true }.moveTo .paused, ?_,
    ⟨rfl, rfl⟩, rfl, rfl⟩
  simp only [Machine.exec, catchRtsigs, delivered, noticed, returned, entered, Option.bind_some]

/-- `SIGINT` has been sent when the program has tested `allDone`. -/
def windowState : State :=
  ((catchRtsigs plainSetup).exec plainStart (untilPausing ++ [sent SIGINT SI_USER 0])).get
    (by decide +kernel)

theorem sleeps_when_done :
    ¬ forall (setup : Setup) (state : State), (catchRtsigs setup).Reachable state ->
      ¬ (Blocked state ∧ state.allDone = true ∧ state.pending = []) := by
  intro never
  have executed : (catchRtsigs plainSetup).exec plainStart
      (untilPausing ++ [sent SIGINT SI_USER 0]) = some windowState := (Option.some_get _).symm
  have reachable := Machine.reachable_of_exec plainStart_initial executed
  have only : windowState.pending.take SIGINT = some (⟨SIGINT, SI_USER, 0, 200, 1000⟩, []) := by
    decide +kernel
  rcases sleeps_after_delivery plainSetup (by decide +kernel) (by decide +kernel)
    (by decide +kernel) (by decide) (by decide +kernel) (by decide +kernel) only with
    ⟨final, continued, sleeps⟩
  exact never plainSetup final (Machine.Reachable.exec reachable continued) sleeps

end CatchRtsigs
end SignalAdvanced
end Tlpi
