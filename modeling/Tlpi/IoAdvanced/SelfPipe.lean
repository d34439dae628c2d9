import Mathlib.Data.PNat.Basic
import Mathlib.Logic.Function.Basic
import Tlpi.CLibrary.Strtol
import Tlpi.Foundations.Transition
import Tlpi.Lib.ErrorFunctions

namespace Tlpi
namespace IoAdvanced
namespace SelfPipe

open CLibrary Foundations Lib

/-!
# The self-pipe trick

The handler for `SIGINT` writes a byte into a pipe whose read end is among the
descriptors that `select` waits for.  A signal that comes before `select` looks at
the descriptors therefore makes it return.  Both ends are nonblocking, so that the
handler cannot hang on a full pipe, and the program reads the pipe until a read
fails with `EAGAIN`.

The machine takes one step per call.  `SIGINT` may come at any time, is not queued,
and is blocked while the handler runs.  The call of `select` is one step, the
moment at which it looks at the descriptors, or its failure.  `errno` is tested in
a step of its own, and the handler may run between a call and that test.
-/

/-- What the program is started with: the descriptors of its command line, all of
which have passed the check against `FD_SETSIZE`, and the timeout.  The kernel
chooses the descriptors and the capacity of the pipe. -/
structure Setup where
  dumpcore : Option String
  fds : List Nat
  timeout : Option Int
  pfd0 : Nat
  pfd1 : Nat
  capacity : PNat

/-- The positions of `main`, each named after what it does next. -/
inductive Pc where
  | creating
  | gettingReadFlags
  | settingReadFlags
  | gettingWriteFlags
  | settingWriteFlags
  | installing
  | selecting
  | testing
  | examining
  | draining
  | checkingRead
  | printing
  | exited
  | failed (failure : Failure)
  | killed
deriving DecidableEq, Repr

inductive HandlerPc where
  | saving
  | writing
  | checking
  | restoring
deriving DecidableEq, Repr

/-- A running handler.  `errnoBefore` is what it found in `errno`; the program does
not hold it. -/
structure Frame where
  pc : HandlerPc
  savedErrno : Errno
  errnoBefore : Errno
deriving DecidableEq, Repr

inductive Line where
  | caught
  | ready (count : Int)
  | descriptor (fd : Nat) (isSet : Bool)
  | readEnd (fd : Nat) (isSet : Bool)
  | timeout
deriving DecidableEq, Repr

/-- The process.  `started` and `completed` count the executions of the handler,
`selected` has the two counts at the moment at which the successful `select`
looked at the descriptors, and `foundEmpty` says that a read found the pipe empty;
the program holds none of them. -/
structure State where
  pc : Pc
  handler : Option Frame
  pending : Bool
  errno : Errno
  pipe : List Byte
  readNonblock : Bool
  writeNonblock : Bool
  readfds : Nat -> Bool
  nfds : Nat
  ready : Int
  output : List Line
  started : Nat
  completed : Nat
  selected : Option (Nat × Nat)
  foundEmpty : Bool

/-- `SIGINT` comes or is delivered, the main program or the handler goes on,
`select` returns with the descriptors that are ready besides the pipe or at the end
of its timeout, or a call fails. -/
inductive Action where
  | raise
  | deliver
  | main
  | handler
  | select (others : List Nat)
  | timeout
  | fail (errno : Errno)
  | writeFails (errno : Errno)
deriving DecidableEq, Repr

/-- The set and the bound that the loop over the command line builds. -/
def scanDescriptors (fds : List Nat) : (Nat -> Bool) × Nat :=
  fds.foldl
    (fun (readfds, nfds) fd => (Function.update readfds fd true, if fd ≥ nfds then fd + 1 else nfds))
    (fun _ => false, 0)

/-- The process before its call of `pipe`. -/
def start (setup : Setup) : State where
  pc := .creating
  handler := none
  pending := false
  errno := .other 0
  pipe := []
  readNonblock := false
  writeNonblock := false
  readfds := (scanDescriptors setup.fds).1
  nfds := (scanDescriptors setup.fds).2
  ready := 0
  output := []
  started := 0
  completed := 0
  selected := none
  foundEmpty := false

/-- The handler has been established and the process has not ended. -/
def Pc.handles : Pc -> Bool
  | .selecting | .testing | .examining | .draining | .checkingRead | .printing => true
  | _ => false

def Pc.ended : Pc -> Bool
  | .exited | .failed _ | .killed => true
  | _ => false

namespace State

def moveTo (state : State) (pc : Pc) : State := { state with pc := pc }

/-- `SIGINT` comes.  Without a handler it ends the process. -/
def raise (state : State) : Option State :=
  if state.pc.handles then some { state with pending := true }
  else if state.pc.ended then none
  else some (state.moveTo .killed)

def deliver (state : State) : Option State :=
  if state.pending ∧ state.pc.handles ∧ state.handler = none then
    some
      { state with
        pending := false
        handler := some ⟨.saving, state.errno, state.errno⟩
        started := state.started + 1 }
  else none

def handlerStep (setup : Setup) (state : State) (frame : Frame) : Option State :=
  match frame.pc with
  | .saving =>
      some { state with handler := some { frame with pc := .writing, savedErrno := state.errno } }
  | .writing =>
      if state.pipe.length < setup.capacity then
        some { state with
          pipe := state.pipe ++ ascii "x"
          handler := some { frame with pc := .restoring } }
      else if state.writeNonblock then
        some { state with errno := .EAGAIN, handler := some { frame with pc := .checking } }
      else none
  | .checking =>
      if state.errno ≠ .EAGAIN then
        some (state.moveTo (.failed (errExit setup.dumpcore state.errno "write")))
      else some { state with handler := some { frame with pc := .restoring } }
  | .restoring =>
      some { state with
        errno := frame.savedErrno
        handler := none
        completed := state.completed + 1 }

/-- The `write` of the handler fails otherwise than on a full pipe. -/
def writeFails (state : State) (errno : Errno) : Option State :=
  match state.handler with
  | some frame =>
      if frame.pc = .writing ∧ errno ≠ .EAGAIN then
        some { state with errno := errno, handler := some { frame with pc := .checking } }
      else none
  | none => none

/-- The descriptors of the set, below `nfds`, that are ready.  The read end of the
pipe is ready if there is something in the pipe. -/
def evaluate (setup : Setup) (state : State) (others : List Nat) : Nat -> Bool := fun fd =>
  state.readfds fd && decide (fd < state.nfds) &&
    (if fd = setup.pfd0 then !state.pipe.isEmpty else others.contains fd)

/-- The number of ready descriptors. -/
def countReady (state : State) (ready : Nat -> Bool) : Nat :=
  ((List.range state.nfds).filter ready).length

def select (setup : Setup) (state : State) (others : List Nat) : Option State :=
  let ready := state.evaluate setup others
  if state.pc = .selecting ∧ 0 < state.countReady ready then
    some
      { state with
        readfds := ready
        ready := state.countReady ready
        selected := some (state.started, state.completed)
        pc := .testing }
  else none

/-- `select` returns at the end of its timeout, with no descriptor ready. -/
def timeoutStep (setup : Setup) (state : State) : Option State :=
  if state.pc = .selecting ∧ setup.timeout ≠ none ∧
      state.countReady (state.evaluate setup []) = 0 then
    some
      { state with
        readfds := fun _ => false
        ready := 0
        selected := some (state.started, state.completed)
        pc := .testing }
  else none

/-- The lines about the descriptors at the end. -/
def summary (setup : Setup) (state : State) : List Line :=
  [.ready state.ready] ++ setup.fds.map (fun fd => .descriptor fd (state.readfds fd)) ++
    [.readEnd setup.pfd0 (state.readfds setup.pfd0)] ++
    (match setup.timeout with
    | none => []
    | some _ => [.timeout])

/-- The next step of the main program, apart from `select`. -/
def mainStep (setup : Setup) (state : State) : Option State :=
  match state.pc with
  | .creating =>
      some ({ state with
        readfds := Function.update state.readfds setup.pfd0 true
        nfds := max state.nfds (setup.pfd0 + 1) }.moveTo .gettingReadFlags)
  | .gettingReadFlags => some (state.moveTo .settingReadFlags)
  | .settingReadFlags => some ({ state with readNonblock := true }.moveTo .gettingWriteFlags)
  | .gettingWriteFlags => some (state.moveTo .settingWriteFlags)
  | .settingWriteFlags => some ({ state with writeNonblock := true }.moveTo .installing)
  | .installing => some (state.moveTo .selecting)
  | .selecting => none
  | .testing =>
      if state.ready = -1 ∧ state.errno = .EINTR then some (state.moveTo .selecting)
      else if state.ready = -1 then
        some (state.moveTo (.failed (errExit setup.dumpcore state.errno "select")))
      else some (state.moveTo .examining)
  | .examining =>
      if state.readfds setup.pfd0 then
        some ({ state with output := state.output ++ [Line.caught] }.moveTo .draining)
      else some (state.moveTo .printing)
  | .draining =>
      match state.pipe with
      | _ :: rest => some { state with pipe := rest }
      | [] =>
          if state.readNonblock then
            some ({ state with errno := .EAGAIN, foundEmpty := true }.moveTo .checkingRead)
          else none
  | .checkingRead =>
      if state.errno = .EAGAIN then some (state.moveTo .printing)
      else some (state.moveTo (.failed (errExit setup.dumpcore state.errno "read")))
  | .printing => some ({ state with output := state.output ++ state.summary setup }.moveTo .exited)
  | .exited | .failed _ | .killed => none

/-- A call of the main program fails.  A `select` that fails leaves the set as it
was; its error is tested in the next step. -/
def fail (setup : Setup) (state : State) (errno : Errno) : Option State :=
  let ending (call : String) :=
    some ({ state with errno := errno }.moveTo (.failed (errExit setup.dumpcore errno call)))
  match state.pc with
  | .creating => ending "pipe"
  | .gettingReadFlags | .gettingWriteFlags => ending "fcntl-F_GETFL"
  | .settingReadFlags | .settingWriteFlags => ending "fcntl-F_SETFL"
  | .installing => ending "sigaction"
  | .selecting => some ({ state with errno := errno, ready := -1 }.moveTo .testing)
  | .draining =>
      if errno = .EAGAIN then none
      else some ({ state with errno := errno }.moveTo .checkingRead)
  | _ => none

/-- One step.  The main program waits while the handler runs. -/
def step (setup : Setup) (state : State) (action : Action) : Option State :=
  match action, state.handler with
  | .raise, _ => state.raise
  | .deliver, _ => state.deliver
  | .handler, some frame => if state.pc.handles then state.handlerStep setup frame else none
  | .writeFails errno, some _ => if state.pc.handles then state.writeFails errno else none
  | .main, none => state.mainStep setup
  | .select others, none => state.select setup others
  | .timeout, none => state.timeoutStep setup
  | .fail errno, none => state.fail setup errno
  | _, _ => none

end State

def process (setup : Setup) : Machine State Action where
  Initial := fun state => state = start setup
  step := State.step setup

/-! ## What holds throughout -/

namespace Pc

/-- The pipe exists and the descriptor set has not been given to a `select` that
succeeded, as far as the position tells. -/
def arming : Pc -> Bool
  | .gettingReadFlags | .settingReadFlags | .gettingWriteFlags | .settingWriteFlags | .installing
  | .selecting => true
  | _ => false

/-- Nothing has yet been read from the pipe. -/
def beforeDrain : Pc -> Bool
  | .draining | .checkingRead | .printing | .exited | .failed _ | .killed => false
  | _ => true

/-- The program has reported the signal, if it does. -/
def reported : Pc -> Bool
  | .draining | .checkingRead | .printing | .exited => true
  | _ => false

/-- The process has ended otherwise than by `exit` at the end of `main`. -/
def aborted : Pc -> Bool
  | .failed _ | .killed => true
  | _ => false

def drained : Pc -> Bool
  | .printing | .exited => true
  | _ => false

theorem late_of_reported {pc : Pc} (reported : pc.reported = true) :
    pc.arming = false ∧ pc.beforeDrain = false := by
  cases pc <;> first | exact ⟨rfl, rfl⟩ | cases reported

end Pc

/-- What a running handler has done. -/
structure Frame.Sound (frame : Frame) (errno : Errno) (written : Prop) : Prop where
  saving : frame.pc = .saving -> errno = frame.errnoBefore
  saved : frame.pc ≠ .saving -> frame.savedErrno = frame.errnoBefore
  checked : frame.pc = .checking -> errno = .EAGAIN -> written
  restored : frame.pc = .restoring -> written

namespace State

/-- The pipe holds something, unless the program has begun to read from it. -/
def Written (state : State) : Prop := state.pc.beforeDrain = true -> state.pipe ≠ []

/-- The value of `errno` that the main program will find. -/
def mainErrno (state : State) : Errno :=
  match state.handler with
  | none => state.errno
  | some frame => frame.errnoBefore

end State

structure Invariant (setup : Setup) (state : State) : Prop where
  armed : state.pc.arming = true ∨ (state.pc = .testing ∧ state.ready = -1) ->
    state.readfds setup.pfd0 = true ∧ setup.pfd0 < state.nfds ∧ state.selected = none
  creating : state.pc = .creating -> state.selected = none
  chosen : state.pc = .examining ∨ (state.pc = .testing ∧ state.ready ≠ -1) ->
    state.selected ≠ none
  written : 0 < state.completed -> state.Written
  unwritten : state.started = 0 -> state.pipe = [] ∧ state.handler = none
  frame : forall frame, state.handler = some frame -> frame.Sound state.errno state.Written
  marked : forall started completed, state.selected = some (started, completed) ->
    0 ≤ state.ready ∧ (0 < completed -> state.readfds setup.pfd0 = true) ∧
      (started = 0 -> state.readfds setup.pfd0 = false)
  honest : Line.caught ∈ state.output ->
    state.readfds setup.pfd0 = true ∧ state.selected ≠ none
  told : state.pc.reported = true -> state.readfds setup.pfd0 = true -> Line.caught ∈ state.output
  unread : state.pc = .checkingRead -> state.mainErrno = .EAGAIN -> state.foundEmpty = true
  emptied : state.pc.drained = true -> state.readfds setup.pfd0 = true -> state.foundEmpty = true

namespace Frame.Sound

variable {frame : Frame} {errno : Errno} {written : Prop}

theorem of_writing (position : frame.pc = .writing)
    (saved : frame.savedErrno = frame.errnoBefore) : frame.Sound errno written where
  saving impossible := by
    rw [position] at impossible
    cases impossible
  saved _ := saved
  checked impossible := by
    rw [position] at impossible
    cases impossible
  restored impossible := by
    rw [position] at impossible
    cases impossible

theorem of_checking (position : frame.pc = .checking)
    (saved : frame.savedErrno = frame.errnoBefore) (full : errno = .EAGAIN -> written) :
    frame.Sound errno written where
  saving impossible := by
    rw [position] at impossible
    cases impossible
  saved _ := saved
  checked _ := full
  restored impossible := by
    rw [position] at impossible
    cases impossible

theorem of_restoring (position : frame.pc = .restoring)
    (saved : frame.savedErrno = frame.errnoBefore) (wrote : written) :
    frame.Sound errno written where
  saving impossible := by
    rw [position] at impossible
    cases impossible
  saved _ := saved
  checked impossible := by
    rw [position] at impossible
    cases impossible
  restored _ := wrote

end Frame.Sound

theorem Frame.Sound.mono {frame : Frame} {errno : Errno} {before after : Prop}
    (sound : frame.Sound errno before) (weaker : before -> after) : frame.Sound errno after where
  saving := sound.saving
  saved := sound.saved
  checked position full := weaker (sound.checked position full)
  restored position := weaker (sound.restored position)

section

variable {setup : Setup} {state next : State}

/-- An abrupt end of the process changes nothing but its position, of which the
invariant then says nothing. -/
theorem Invariant.abort (holds : Invariant setup state) {pc : Pc} (aborted : pc.aborted = true) :
    Invariant setup (state.moveTo pc) := by
  cases pc <;> simp only [Pc.aborted, Bool.false_eq_true] at aborted
  all_goals
    exact
      { armed := by rintro (impossible | ⟨impossible, -⟩) <;> cases impossible
        creating := fun impossible => by cases impossible
        chosen := by rintro (impossible | ⟨impossible, -⟩) <;> cases impossible
        written := fun _ impossible => by cases impossible
        unwritten := holds.unwritten
        frame := fun frame running =>
          (holds.frame frame running).mono (fun _ impossible => by cases impossible)
        marked := holds.marked
        honest := holds.honest
        told := fun impossible => by cases impossible
        unread := fun impossible => by cases impossible
        emptied := fun impossible => by cases impossible }

theorem raise_preserves (holds : Invariant setup state) (stepped : state.raise = some next) :
    Invariant setup next := by
  unfold State.raise at stepped
  split at stepped
  · cases stepped
    exact { holds with }
  · split at stepped
    · cases stepped
    · cases stepped
      exact holds.abort rfl

theorem deliver_preserves (holds : Invariant setup state) (stepped : state.deliver = some next) :
    Invariant setup next := by
  unfold State.deliver at stepped
  split at stepped
  · rename_i deliverable
    rcases deliverable with ⟨-, -, idle⟩
    cases stepped
    refine
      { holds with
        unwritten := fun impossible => by cases impossible
        frame := ?_
        unread := ?_ }
    · intro frame same
      cases same
      exact
        { saving := fun _ => rfl
          saved := fun _ => rfl
          checked := fun impossible => by cases impossible
          restored := fun impossible => by cases impossible }
    · intro position found
      apply holds.unread position
      simpa [State.mainErrno, idle] using found
  · cases stepped

theorem Invariant.goOn {frame : Frame} (holds : Invariant setup state)
    (running : state.handler = some frame) {errno : Errno} {pipe : List Byte} {after : Frame}
    (before : after.errnoBefore = frame.errnoBefore) (grows : state.pipe ≠ [] -> pipe ≠ [])
    (sound : after.Sound errno (state.pc.beforeDrain = true -> pipe ≠ [])) :
    Invariant setup { state with errno := errno, pipe := pipe, handler := some after } := by
  refine
    { holds with
      written := ?_
      unwritten := ?_
      frame := ?_
      unread := ?_ }
  · intro completed position
    exact grows (holds.written completed position)
  · intro never
    rw [(holds.unwritten never).2] at running
    cases running
  · intro other same
    cases same
    exact sound
  · intro position found
    apply holds.unread position
    simpa [State.mainErrno, running, before] using found

theorem handler_preserves {frame : Frame} (holds : Invariant setup state)
    (running : state.handler = some frame) (stepped : state.handlerStep setup frame = some next) :
    Invariant setup next := by
  have sound := holds.frame frame running
  rcases frame with ⟨pc, savedErrno, errnoBefore⟩
  unfold State.handlerStep at stepped
  cases pc with
  | saving =>
      cases stepped
      exact holds.goOn running rfl id (.of_writing rfl (sound.saving rfl))
  | writing =>
      have saved : savedErrno = errnoBefore := sound.saved (by simp)
      simp only at stepped
      split at stepped
      · cases stepped
        refine holds.goOn running rfl ?_ (.of_restoring rfl saved ?_)
        · intro _
          simp [ascii]
        · intro _
          simp [ascii]
      · rename_i full
        have nonempty : state.pipe ≠ [] := by
          intro empty
          rw [empty] at full
          exact full setup.capacity.pos
        split at stepped
        · cases stepped
          exact holds.goOn running rfl id (.of_checking rfl saved (fun _ _ => nonempty))
        · cases stepped
  | checking =>
      simp only at stepped
      split at stepped
      · cases stepped
        exact holds.abort rfl
      · rename_i full
        cases stepped
        have saved : savedErrno = errnoBefore := sound.saved (by simp)
        have wrote := sound.checked rfl (not_not.mp full)
        exact holds.goOn running rfl id (.of_restoring rfl saved wrote)
  | restoring =>
      cases stepped
      refine
        { holds with
          written := fun _ => sound.restored rfl
          unwritten := ?_
          frame := fun _ impossible => by cases impossible
          unread := ?_ }
      · intro never
        rw [(holds.unwritten never).2] at running
        cases running
      · intro position found
        apply holds.unread position
        have saved : savedErrno = errnoBefore := sound.saved (by simp)
        simpa [State.mainErrno, running, saved] using found

theorem writeFails_preserves {errno : Errno} (holds : Invariant setup state)
    (stepped : state.writeFails errno = some next) : Invariant setup next := by
  unfold State.writeFails at stepped
  split at stepped
  · rename_i frame running
    split at stepped
    · rename_i failing
      cases stepped
      have saved := (holds.frame frame running).saved (by simp [failing.1])
      exact holds.goOn running rfl id (.of_checking rfl saved (fun full => absurd full failing.2))
    · cases stepped
  · cases stepped

/-- While `select` may still be called, it sees the read end exactly as the pipe is. -/
theorem Invariant.evaluate_pfd0 (holds : Invariant setup state) (position : state.pc = .selecting)
    (others : List Nat) : state.evaluate setup others setup.pfd0 = !state.pipe.isEmpty := by
  rcases holds.armed (.inl (by rw [position]; rfl)) with ⟨member, below, -⟩
  simp [State.evaluate, member, below]

/-- A `select` that returns has marked the read end as the pipe was. -/
theorem Invariant.selected (holds : Invariant setup state) (position : state.pc = .selecting)
    {readfds : Nat -> Bool} (marks : readfds setup.pfd0 = !state.pipe.isEmpty) {ready : Int}
    (nonneg : 0 ≤ ready) :
    Invariant setup { state with
      readfds := readfds
      ready := ready
      selected := some (state.started, state.completed)
      pc := .testing } := by
  refine
    { armed := ?_
      creating := fun impossible => by cases impossible
      chosen := fun _ => by simp
      written := ?_
      unwritten := holds.unwritten
      frame := ?_
      marked := ?_
      honest := ?_
      told := fun impossible => by cases impossible
      unread := fun impossible => by cases impossible
      emptied := fun impossible => by cases impossible }
  · rintro (impossible | ⟨-, failed⟩)
    · cases impossible
    · have negative : ready = -1 := failed
      omega
  · intro completed _
    exact holds.written completed (by rw [position]; rfl)
  · intro frame running
    refine (holds.frame frame running).mono ?_
    intro written _
    exact written (by rw [position]; rfl)
  · intro started completed same
    cases same
    refine ⟨nonneg, ?_, ?_⟩
    · intro ran
      have nonempty := holds.written ran (by rw [position]; rfl)
      simpa [marks] using nonempty
    · intro never
      simp [marks, (holds.unwritten never).1]
  · intro reported
    rcases holds.honest reported with ⟨-, impossible⟩
    exact absurd (holds.armed (.inl (by rw [position]; rfl))).2.2 impossible

theorem select_preserves {others : List Nat} (holds : Invariant setup state)
    (stepped : state.select setup others = some next) : Invariant setup next := by
  simp only [State.select] at stepped
  split at stepped
  · rename_i accepted
    cases stepped
    exact holds.selected accepted.1 (holds.evaluate_pfd0 accepted.1 others) (Int.natCast_nonneg _)
  · cases stepped

theorem timeout_preserves (holds : Invariant setup state)
    (stepped : state.timeoutStep setup = some next) : Invariant setup next := by
  unfold State.timeoutStep at stepped
  split at stepped
  · rename_i accepted
    rcases accepted with ⟨position, -, none⟩
    cases stepped
    refine holds.selected position ?_ (Int.le_refl 0)
    have below := (holds.armed (.inl (by rw [position]; rfl))).2.1
    have filtered := List.filter_eq_nil_iff.mp (List.length_eq_zero_iff.mp none)
    have unready := filtered setup.pfd0 (List.mem_range.mpr below)
    rw [holds.evaluate_pfd0 position] at unready
    exact (Bool.eq_false_iff.mpr unready).symm
  · cases stepped

/-- A move in front of the drain loop. -/
theorem Invariant.moveEarly (holds : Invariant setup state) (early : state.pc.beforeDrain = true)
    {pc : Pc} (stillEarly : pc.beforeDrain = true) (notCreating : pc ≠ .creating)
    (armed : pc.arming = true ∨ (pc = .testing ∧ state.ready = -1) ->
      state.readfds setup.pfd0 = true ∧ setup.pfd0 < state.nfds ∧ state.selected = none)
    (chosen : pc = .examining ∨ (pc = .testing ∧ state.ready ≠ -1) -> state.selected ≠ none) :
    Invariant setup (state.moveTo pc) := by
  cases pc <;> simp only [Pc.beforeDrain, Bool.false_eq_true] at stillEarly
  all_goals
    exact
      { armed := armed
        creating := fun creating => absurd creating notCreating
        chosen := chosen
        written := fun completed _ => holds.written completed early
        unwritten := holds.unwritten
        frame := fun frame running =>
          (holds.frame frame running).mono (fun written _ => written early)
        marked := holds.marked
        honest := holds.honest
        told := fun impossible => by cases impossible
        unread := fun impossible => by cases impossible
        emptied := fun impossible => by cases impossible }

theorem Invariant.arm (holds : Invariant setup state) (arming : state.pc.arming = true) {pc : Pc}
    (stillArming : pc.arming = true) : Invariant setup (state.moveTo pc) := by
  have early : state.pc.beforeDrain = true := by
    cases position : state.pc <;> rw [position] at arming <;> first | rfl | cases arming
  have armed := holds.armed (.inl arming)
  apply holds.moveEarly early
  · cases pc <;> first | rfl | cases stillArming
  · intro creating
    rw [creating] at stillArming
    cases stillArming
  · intro _
    exact armed
  · rintro (examining | ⟨testing, -⟩)
    · rw [examining] at stillArming
      cases stillArming
    · rw [testing] at stillArming
      cases stillArming

/-- Behind the report the invariant is about the report and the drain loop only. -/
theorem invariant_of_reported (reported : state.pc.reported = true) (idle : state.handler = none)
    (unwritten : state.started = 0 -> state.pipe = [])
    (marked : forall started completed, state.selected = some (started, completed) ->
      0 ≤ state.ready ∧ (0 < completed -> state.readfds setup.pfd0 = true) ∧
        (started = 0 -> state.readfds setup.pfd0 = false))
    (honest : Line.caught ∈ state.output ->
      state.readfds setup.pfd0 = true ∧ state.selected ≠ none)
    (told : state.readfds setup.pfd0 = true -> Line.caught ∈ state.output)
    (unread : state.pc = .checkingRead -> state.errno = .EAGAIN -> state.foundEmpty = true)
    (emptied : state.pc.drained = true -> state.readfds setup.pfd0 = true ->
      state.foundEmpty = true) : Invariant setup state where
  armed := by
    rintro (arming | ⟨testing, -⟩)
    · rw [(Pc.late_of_reported reported).1] at arming
      cases arming
    · rw [testing] at reported
      cases reported
  creating creating := by
    rw [creating] at reported
    cases reported
  chosen := by
    rintro (examining | ⟨testing, -⟩)
    · rw [examining] at reported
      cases reported
    · rw [testing] at reported
      cases reported
  written _ early := by
    rw [(Pc.late_of_reported reported).2] at early
    cases early
  unwritten never := ⟨unwritten never, idle⟩
  frame frame running := by
    rw [idle] at running
    cases running
  marked := marked
  honest := honest
  told _ := told
  unread position found := unread position (by simpa [State.mainErrno, idle] using found)
  emptied := emptied

theorem creating_preserves (holds : Invariant setup state) (position : state.pc = .creating) :
    Invariant setup ({ state with
      readfds := Function.update state.readfds setup.pfd0 true
      nfds := max state.nfds (setup.pfd0 + 1) }.moveTo .gettingReadFlags) := by
  have unselected := holds.creating position
  have early : state.pc.beforeDrain = true := by rw [position]; rfl
  refine
    { armed := ?_
      creating := fun impossible => by cases impossible
      chosen := by rintro (impossible | ⟨impossible, -⟩) <;> cases impossible
      written := fun completed _ => holds.written completed early
      unwritten := holds.unwritten
      frame := fun frame running =>
        (holds.frame frame running).mono (fun written _ => written early)
      marked := ?_
      honest := fun reported => absurd unselected (holds.honest reported).2
      told := fun impossible => by cases impossible
      unread := fun impossible => by cases impossible
      emptied := fun impossible => by cases impossible }
  · intro _
    refine ⟨by simp [State.moveTo], ?_, unselected⟩
    exact Nat.lt_of_lt_of_le (Nat.lt_succ_self _) (Nat.le_max_right _ _)
  · intro started completed same
    rw [show state.selected = some (started, completed) from same] at unselected
    cases unselected

theorem testing_preserves (holds : Invariant setup state) (position : state.pc = .testing)
    (stepped : state.mainStep setup = some next) : Invariant setup next := by
  have early : state.pc.beforeDrain = true := by rw [position]; rfl
  simp only [State.mainStep, position] at stepped
  split at stepped
  · rename_i interrupted
    cases stepped
    apply holds.moveEarly early rfl (by simp)
    · intro _
      exact holds.armed (.inr ⟨position, interrupted.1⟩)
    · rintro (impossible | ⟨impossible, -⟩) <;> cases impossible
  · split at stepped
    · cases stepped
      exact holds.abort rfl
    · rename_i succeeded
      cases stepped
      apply holds.moveEarly early rfl (by simp)
      · rintro (impossible | ⟨impossible, -⟩) <;> cases impossible
      · intro _
        exact holds.chosen (.inr ⟨position, succeeded⟩)

theorem examining_preserves (holds : Invariant setup state) (position : state.pc = .examining)
    (idle : state.handler = none) (stepped : state.mainStep setup = some next) :
    Invariant setup next := by
  simp only [State.mainStep, position] at stepped
  split at stepped
  · rename_i marked
    cases stepped
    refine invariant_of_reported rfl idle (fun never => (holds.unwritten never).1) holds.marked
      ?_ ?_ ?_ ?_
    · intro _
      exact ⟨marked, holds.chosen (.inl position)⟩
    · intro _
      simp [State.moveTo]
    · intro impossible
      cases impossible
    · intro impossible
      cases impossible
  · rename_i unmarked
    cases stepped
    refine invariant_of_reported rfl idle (fun never => (holds.unwritten never).1) holds.marked
      holds.honest ?_ ?_ ?_
    · intro marked
      exact absurd marked unmarked
    · intro impossible
      cases impossible
    · intro _ marked
      exact absurd marked unmarked

theorem draining_preserves (holds : Invariant setup state) (position : state.pc = .draining)
    (idle : state.handler = none) (stepped : state.mainStep setup = some next) :
    Invariant setup next := by
  have told := holds.told (by rw [position]; rfl)
  simp only [State.mainStep, position] at stepped
  split at stepped
  · rename_i byte rest filled
    cases stepped
    refine invariant_of_reported rfl idle ?_ holds.marked holds.honest told ?_ ?_
    · intro never
      rw [(holds.unwritten never).1] at filled
      cases filled
    · intro impossible
      cases impossible
    · intro impossible
      cases impossible
  · split at stepped
    · cases stepped
      refine invariant_of_reported rfl idle (fun never => (holds.unwritten never).1) holds.marked
        holds.honest told (fun _ _ => rfl) ?_
      intro impossible
      cases impossible
    · cases stepped

theorem checkingRead_preserves (holds : Invariant setup state)
    (position : state.pc = .checkingRead) (idle : state.handler = none)
    (stepped : state.mainStep setup = some next) : Invariant setup next := by
  have told := holds.told (by rw [position]; rfl)
  simp only [State.mainStep, position] at stepped
  split at stepped
  · rename_i exhausted
    cases stepped
    have empty : state.foundEmpty = true := by
      apply holds.unread position
      simpa [State.mainErrno, idle] using exhausted
    refine invariant_of_reported rfl idle (fun never => (holds.unwritten never).1) holds.marked
      holds.honest told ?_ (fun _ _ => empty)
    intro impossible
    cases impossible
  · cases stepped
    exact holds.abort rfl

/-- The lines at the end do not report a signal. -/
theorem caught_not_mem_summary : Line.caught ∉ state.summary setup := by
  unfold State.summary
  cases setup.timeout <;> simp

theorem printing_preserves (holds : Invariant setup state) (position : state.pc = .printing)
    (idle : state.handler = none) :
    Invariant setup ({ state with output := state.output ++ state.summary setup }.moveTo .exited) := by
  have told := holds.told (by rw [position]; rfl)
  refine invariant_of_reported rfl idle (fun never => (holds.unwritten never).1) holds.marked
    ?_ ?_ ?_ ?_
  · intro reported
    apply holds.honest
    exact (List.mem_append.mp reported).resolve_right caught_not_mem_summary
  · intro marked
    exact List.mem_append_left _ (told marked)
  · intro impossible
    cases impossible
  · intro _
    exact holds.emptied (by rw [position]; rfl)

theorem main_preserves (holds : Invariant setup state) (idle : state.handler = none)
    (stepped : state.mainStep setup = some next) : Invariant setup next := by
  cases position : state.pc
  case testing => exact testing_preserves holds position stepped
  case examining => exact examining_preserves holds position idle stepped
  case draining => exact draining_preserves holds position idle stepped
  case checkingRead => exact checkingRead_preserves holds position idle stepped
  all_goals simp only [State.mainStep, position] at stepped; cases stepped
  case creating => exact creating_preserves holds position
  case gettingReadFlags => exact holds.arm (by rw [position]; rfl) rfl
  case settingReadFlags =>
      have moved : Invariant setup (state.moveTo .gettingWriteFlags) :=
        holds.arm (by rw [position]; rfl) rfl
      exact { moved with }
  case gettingWriteFlags => exact holds.arm (by rw [position]; rfl) rfl
  case settingWriteFlags =>
      have moved : Invariant setup (state.moveTo .installing) :=
        holds.arm (by rw [position]; rfl) rfl
      exact { moved with }
  case installing => exact holds.arm (by rw [position]; rfl) rfl
  case printing => exact printing_preserves holds position idle

theorem fail_preserves {errno : Errno} (holds : Invariant setup state) (idle : state.handler = none)
    (stepped : state.fail setup errno = some next) : Invariant setup next := by
  have renamed : forall failure : Failure,
      Invariant setup ({ state with errno := errno }.moveTo (.failed failure)) := by
    intro failure
    have aborted : Invariant setup (state.moveTo (.failed failure)) := holds.abort rfl
    exact
      { aborted with
        frame := fun frame running => by
          rw [show state.handler = some frame from running] at idle
          cases idle
        unread := fun impossible => by cases impossible }
  cases position : state.pc <;> simp only [State.fail, position] at stepped
  case selecting =>
      cases stepped
      have armed := holds.armed (.inl (by rw [position]; rfl))
      have early : state.pc.beforeDrain = true := by rw [position]; rfl
      exact
        { armed := fun _ => armed
          creating := fun impossible => by cases impossible
          chosen := by
            rintro (impossible | ⟨-, different⟩)
            · cases impossible
            · exact absurd rfl different
          written := fun completed _ => holds.written completed early
          unwritten := holds.unwritten
          frame := fun frame running => by
            rw [show state.handler = some frame from running] at idle
            cases idle
          marked := fun started completed same => by
            rw [show state.selected = some (started, completed) from same] at armed
            cases armed.2.2
          honest := holds.honest
          told := fun impossible => by cases impossible
          unread := fun impossible => by cases impossible
          emptied := fun impossible => by cases impossible }
  case draining =>
      split at stepped
      · cases stepped
      · rename_i other
        cases stepped
        refine invariant_of_reported rfl idle (fun never => (holds.unwritten never).1)
          holds.marked holds.honest (holds.told (by rw [position]; rfl)) ?_ ?_
        · intro _ found
          exact absurd found other
        · intro impossible
          cases impossible
  all_goals
    cases stepped
    try exact renamed _

end

theorem reachable_invariant {setup : Setup} {state : State}
    (reachable : (process setup).Reachable state) : Invariant setup state := by
  refine Machine.Reachable.invariant ?_ ?_ reachable
  · intro state initial
    cases initial
    exact
      { armed := by rintro (impossible | ⟨impossible, -⟩) <;> cases impossible
        creating := fun _ => rfl
        chosen := by rintro (impossible | ⟨impossible, -⟩) <;> cases impossible
        written := fun impossible => by cases impossible
        unwritten := fun _ => ⟨rfl, rfl⟩
        frame := fun _ impossible => by cases impossible
        marked := fun _ _ impossible => by cases impossible
        honest := fun impossible => by cases impossible
        told := fun impossible => by cases impossible
        unread := fun impossible => by cases impossible
        emptied := fun impossible => by cases impossible }
  · intro state action next holds stepped
    simp only [process, State.step] at stepped
    split at stepped
    · exact raise_preserves holds stepped
    · exact deliver_preserves holds stepped
    · split at stepped
      · exact handler_preserves holds ‹_› stepped
      · cases stepped
    · split at stepped
      · exact writeFails_preserves holds stepped
      · cases stepped
    · exact main_preserves holds ‹_› stepped
    · exact select_preserves holds stepped
    · exact timeout_preserves holds stepped
    · exact fail_preserves holds ‹_› stepped
    · cases stepped

/-- A signal is never missed.  If the handler has finished before the successful
`select` looks at the descriptors, the read end is marked and the program reports
the signal; if the handler has not run, neither happens.  The handler leaves
`errno` as it found it.  A read that takes the program out of its loop finds the
pipe empty. -/
theorem signal_not_missed (setup : Setup) {state : State}
    (reachable : (process setup).Reachable state) :
    (forall started completed, state.selected = some (started, completed) ->
      (0 < completed -> state.readfds setup.pfd0 = true ∧
        (state.pc.reported = true -> Line.caught ∈ state.output)) ∧
      (started = 0 -> state.readfds setup.pfd0 = false ∧ Line.caught ∉ state.output)) ∧
    (state.selected = none -> Line.caught ∉ state.output) ∧
    (forall frame next, state.handler = some frame -> frame.pc = .restoring ->
      (process setup).step state .handler = some next ->
      next.handler = none ∧ next.errno = frame.errnoBefore) ∧
    (forall next, state.pc = .draining -> (process setup).step state .main = some next ->
      next.pc ≠ .draining -> state.pipe = []) ∧
    (state.pc.drained = true -> state.readfds setup.pfd0 = true -> state.foundEmpty = true) := by
  have holds := reachable_invariant reachable
  refine ⟨?_, ?_, ?_, ?_, holds.emptied⟩
  · intro started completed selected
    rcases holds.marked started completed selected with ⟨-, marks, spares⟩
    refine ⟨?_, ?_⟩
    · intro ran
      exact ⟨marks ran, fun reported => holds.told reported (marks ran)⟩
    · intro never
      refine ⟨spares never, ?_⟩
      intro reported
      have marked := (holds.honest reported).1
      rw [spares never] at marked
      cases marked
  · intro unselected reported
    exact (holds.honest reported).2 unselected
  · intro frame next running position stepped
    have saved : frame.savedErrno = frame.errnoBefore :=
      (holds.frame frame running).saved (by simp [position])
    simp only [process, State.step, running] at stepped
    split at stepped
    · simp only [State.handlerStep, position] at stepped
      cases stepped
      exact ⟨rfl, saved⟩
    · cases stepped
  · intro next position stepped left
    cases running : state.handler with
    | some frame =>
        simp only [process, State.step, running] at stepped
        cases stepped
    | none =>
        simp only [process, State.step, running, State.mainStep, position] at stepped
        split at stepped
        · cases stepped
          exact absurd rfl left
        · assumption

/-- A program that watches descriptor 0 without a timeout, with a pipe for one byte. -/
def narrowPipe : Setup where
  dumpcore := none
  fds := [0]
  timeout := none
  pfd0 := 3
  pfd1 := 4
  capacity := ⟨1, Nat.one_pos⟩

/-- The signal comes twice before `select` and fills the pipe, a call of `select` is
interrupted, and the signal comes again while the pipe is drained. -/
def threeSignals : List Action :=
  [.main, .main, .main, .main, .main, .main, .raise, .deliver, .handler, .handler, .handler, .fail .EINTR,
    .raise, .deliver, .handler, .handler, .handler, .handler, .main, .select [], .main, .main, .main,
    .raise, .deliver, .handler, .handler, .handler, .main, .main, .main, .main]

def threeSignalsState : State :=
  ((process narrowPipe).exec (start narrowPipe) threeSignals).get (by decide +kernel)

theorem signal_not_missed_three_signals :
    threeSignalsState.pc = .exited ∧ threeSignalsState.selected = some (2, 2) ∧
      Line.caught ∈ threeSignalsState.output := by
  have executed : (process narrowPipe).exec (start narrowPipe) threeSignals =
      some threeSignalsState := (Option.some_get _).symm
  have reachable : (process narrowPipe).Reachable threeSignalsState :=
    Machine.reachable_of_exec rfl executed
  have selected : threeSignalsState.selected = some (2, 2) := by decide +kernel
  have ended : threeSignalsState.pc = .exited := by decide +kernel
  have caught := ((signal_not_missed narrowPipe reachable).1 2 2 selected).1 (by decide)
  exact ⟨ended, selected, caught.2 (by rw [ended]; rfl)⟩

end SelfPipe
end IoAdvanced
end Tlpi
