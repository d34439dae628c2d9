import Tlpi.CLibrary.Strings
import Tlpi.Foundations.Transition
import Tlpi.Lib.ErrorFunctions
import Tlpi.Lib.TtyFunctions

namespace Tlpi
namespace Pty
namespace Script

open CLibrary Foundations Lib

/-!
# Recording a terminal session

The parent process of `script` puts its terminal in raw mode and relays data: what
is typed goes to the master of a pseudoterminal, and what comes from the master
goes to standard output and to the typescript.  Both directions use the same buffer
and the same length.  A write that does not take everything ends the process, as do
the end of an input and an error.

The terminal is put back by a handler that is registered with `atexit` after the
mode has been changed.  Whether the handler runs depends on how the process ends,
and that depends on the environment variable `EF_DUMPCORE`.

The machine takes one step per call.  An action is the answer to the call: what a
read returns, how much a write takes, which descriptors are ready.
-/

def BUF_SIZE : Nat := 256

/-- The positions of the parent, each named after its next call.  In the first half
of a pass of the loop the position keeps whether the master is ready. -/
inductive Pc where
  | gettingAttributes
  | gettingSize
  | forking
  | opening
  | settingRaw
  | registering
  | announcing
  | selecting
  | readingStdin (masterReady : Bool)
  | writingMaster (masterReady : Bool)
  | readingMaster
  | writingStdout
  | writingScript
  | resetting (failure : Option Failure)
  | ended (failure : Option Failure)
deriving DecidableEq, Repr

/-- The process, its terminal, and what went through it.  `entered` says that
`ttySetRaw` has succeeded; `stdinRead` and `masterRead` have the chunks that the
reads of the loop returned, and `stdout` what the loop has written to standard
output. -/
structure State where
  pc : Pc
  terminal : Termios
  ttyOrig : Termios
  entered : Bool
  registered : Bool
  buf : Vector Byte BUF_SIZE
  numRead : Nat
  stdinRead : List (List Byte)
  masterRead : List (List Byte)
  masterWritten : List Byte
  stdout : List Byte
  typescript : List Byte
deriving DecidableEq, Repr

/-- The answer to a call. -/
inductive Action where
  | ok
  | fail (errno : Errno)
  | setRaw (answers : TtyAnswers)
  | ready (stdin master : Bool)
  | read (chunk : List Byte)
  | readEnd
  | wrote (count : Nat)
deriving DecidableEq, Repr

namespace State

def moveTo (state : State) (pc : Pc) : State := { state with pc := pc }

/-- How a process ends that reports a failure, or none. -/
def termination (failure : Option Failure) : Termination :=
  failure.elim .exit Failure.termination

/-- The process ends itself: the registered handler runs, or not. -/
def terminate (state : State) (failure : Option Failure) : State :=
  if (termination failure).runsHandlers ∧ state.registered then state.moveTo (.resetting failure)
  else state.moveTo (.ended failure)

/-- A read has returned some bytes. -/
def receive (state : State) (chunk : List Byte) : State :=
  { state with buf := fill state.buf chunk, numRead := chunk.length }

/-- The bytes that a write is to write. -/
def outgoing (state : State) : List Byte := contents state.buf state.numRead

def writeMaster (state : State) (count : Nat) : State :=
  { state with masterWritten := state.masterWritten ++ state.outgoing.take count }

def writeStdout (state : State) (count : Nat) : State :=
  { state with stdout := state.stdout ++ state.outgoing.take count }

def writeScript (state : State) (count : Nat) : State :=
  { state with typescript := state.typescript ++ state.outgoing.take count }

/-- The position behind `select`, or behind the first half of a pass. -/
def afterStdin (masterReady : Bool) : Pc := if masterReady then .readingMaster else .selecting

/-- The position behind `select`. -/
def afterSelect (stdinReady masterReady : Bool) : Pc :=
  if stdinReady then .readingStdin masterReady else afterStdin masterReady

/-- The common part of the three writes.  A write that fails writes nothing. -/
def writing (dumpcore : Option String) (state : State) (write : State -> Nat -> State)
    (next : Pc) (message : String) : Action -> Option State
  | .wrote count =>
      if count = state.numRead then some ((write state count).moveTo next)
      else if count < state.numRead then
        some ((write state count).terminate (some (fatal dumpcore message)))
      else none
  | .fail _ => some (state.terminate (some (fatal dumpcore message)))
  | _ => none

/-- The common part of the calls in front of the loop. -/
def calling (dumpcore : Option String) (state : State) (next : State) (message : String) :
    Action -> Option State
  | .ok => some next
  | .fail errno => some (state.terminate (some (errExit dumpcore errno message)))
  | _ => none

/-- What a read of the loop does: it records the chunk and goes on, or the process
ends. -/
def reading (state : State) (record : List Byte -> State) (next : Pc) : Action -> Option State
  | .read chunk =>
      if chunk ≠ [] ∧ chunk.length ≤ BUF_SIZE then
        some (((record chunk).receive chunk).moveTo next)
      else none
  | .readEnd => some (state.terminate none)
  | _ => none

/-- `ttySetRaw(STDIN_FILENO, &ttyOrig)`, whose result is ignored. -/
def enterRaw (state : State) (answers : TtyAnswers) : State :=
  let call := ttySetRaw answers state.terminal (some state.ttyOrig)
  { state with
    terminal := call.settings
    ttyOrig := call.prevTermios.getD state.ttyOrig
    entered := decide (call.result = 0) }

def step (dumpcore : Option String) (state : State) (action : Action) : Option State :=
  match state.pc with
  | .gettingAttributes =>
      calling dumpcore state
        ({ state with ttyOrig := state.terminal }.moveTo .gettingSize) "tcgetattr" action
  | .gettingSize => calling dumpcore state (state.moveTo .forking) "ioctl-TIOCGWINSZ" action
  | .forking => calling dumpcore state (state.moveTo .opening) "ptyFork" action
  | .opening => calling dumpcore state (state.moveTo .settingRaw) "open typescript" action
  | .settingRaw =>
      match action with
      | .setRaw answers => some ((state.enterRaw answers).moveTo .registering)
      | _ => none
  | .registering =>
      calling dumpcore state ({ state with registered := true }.moveTo .announcing) "atexit" action
  | .announcing =>
      match action with
      | .ok => some (state.moveTo .selecting)
      | _ => none
  | .selecting =>
      match action with
      | .ready stdinReady masterReady => some (state.moveTo (afterSelect stdinReady masterReady))
      | .fail errno => some (state.terminate (some (errExit dumpcore errno "select")))
      | _ => none
  | .readingStdin masterReady =>
      state.reading (fun chunk => { state with stdinRead := state.stdinRead ++ [chunk] })
        (.writingMaster masterReady) action
  | .writingMaster masterReady =>
      writing dumpcore state writeMaster (afterStdin masterReady)
        "partial/failed write (masterFd)" action
  | .readingMaster =>
      state.reading (fun chunk => { state with masterRead := state.masterRead ++ [chunk] })
        .writingStdout action
  | .writingStdout =>
      writing dumpcore state writeStdout .writingScript "partial/failed write (STDOUT_FILENO)" action
  | .writingScript =>
      writing dumpcore state writeScript .selecting "partial/faield write (scriptFd)" action
  | .resetting failure =>
      match action with
      | .ok => some ({ state with terminal := state.ttyOrig }.moveTo (.ended failure))
      | .fail errno => some (state.moveTo (.ended (some (errExit dumpcore errno "tcsetattr"))))
      | _ => none
  | .ended _ => none

end State

/-- The program on a terminal with the given attributes.  Its buffer holds
anything. -/
def script (dumpcore : Option String) (settings : Termios) : Machine State Action where
  Initial := fun state => state.pc = .gettingAttributes ∧ state.terminal = settings ∧
    state.ttyOrig = .zero ∧ state.entered = false ∧ state.registered = false ∧
    state.stdinRead = [] ∧ state.masterRead = [] ∧ state.masterWritten = [] ∧
    state.stdout = [] ∧ state.typescript = []
  step := State.step dumpcore

/-! ## What a call can come to -/

section

variable {dumpcore : Option String} {state next result : State} {action : Action}

theorem calling_cases {message : String}
    (stepped : State.calling dumpcore state next message action = some result) :
    (action = .ok ∧ result = next) ∨
      Exists fun errno => action = .fail errno ∧
        result = state.terminate (some (errExit dumpcore errno message)) := by
  cases action <;> cases stepped
  · exact .inl ⟨rfl, rfl⟩
  · exact .inr ⟨_, rfl, rfl⟩

theorem reading_cases {record : List Byte -> State} {pc : Pc}
    (stepped : state.reading record pc action = some result) :
    (Exists fun chunk => action = .read chunk ∧ chunk.length ≤ BUF_SIZE ∧
      result = ((record chunk).receive chunk).moveTo pc) ∨
    (action = .readEnd ∧ result = state.terminate none) := by
  cases action with
  | read chunk =>
      simp only [State.reading] at stepped
      split at stepped
      · rename_i bounds
        cases stepped
        exact .inl ⟨chunk, rfl, bounds.2, rfl⟩
      · cases stepped
  | readEnd =>
      cases stepped
      exact .inr ⟨rfl, rfl⟩
  | _ => cases stepped

theorem writing_cases {write : State -> Nat -> State} {pc : Pc} {message : String}
    (stepped : State.writing dumpcore state write pc message action = some result) :
    (action = .wrote state.numRead ∧ result = (write state state.numRead).moveTo pc) ∨
    (Exists fun count => count < state.numRead ∧ action = .wrote count ∧
      result = (write state count).terminate (some (fatal dumpcore message))) ∨
    (Exists fun errno => action = .fail errno ∧
      result = state.terminate (some (fatal dumpcore message))) := by
  cases action with
  | wrote count =>
      simp only [State.writing] at stepped
      split at stepped
      · rename_i whole
        cases stepped
        rw [whole]
        exact .inl ⟨rfl, rfl⟩
      · split at stepped
        · rename_i short
          cases stepped
          exact .inr (.inl ⟨count, short, rfl, rfl⟩)
        · cases stepped
  | fail errno =>
      cases stepped
      exact .inr (.inr ⟨errno, rfl, rfl⟩)
  | _ => cases stepped

end

/-! ## The relay -/

/-- All chunks have been written. -/
def Sent (chunks : List (List Byte)) (written : List Byte) : Prop := written = chunks.flatten

/-- All chunks but the last have been written, and it is what will be written
next. -/
def Behind (chunks : List (List Byte)) (written pending : List Byte) : Prop :=
  Exists fun earlier => chunks = earlier ++ [pending] ∧ written = earlier.flatten

/-- What was recorded is a prefix of what was shown, which is a prefix of what came
from the master; and the record lacks at most the last chunk. -/
structure Recorded (masterRead : List (List Byte)) (stdout typescript : List Byte) : Prop where
  complete : masterRead.dropLast.flatten <+: typescript
  shown : typescript <+: stdout
  came : stdout <+: masterRead.flatten

/-- Everything that was read has been written: to the master, to standard output
and to the typescript. -/
structure Relayed (state : State) : Prop where
  typed : Sent state.stdinRead state.masterWritten
  shown : Sent state.masterRead state.stdout
  recorded : Sent state.masterRead state.typescript

/-- What the position tells about the three outputs. -/
def RelayAt (state : State) : Pc -> Prop
  | .writingMaster _ => Behind state.stdinRead state.masterWritten state.outgoing ∧
      Sent state.masterRead state.stdout ∧ Sent state.masterRead state.typescript
  | .writingStdout => Sent state.stdinRead state.masterWritten ∧
      Behind state.masterRead state.stdout state.outgoing ∧
      Behind state.masterRead state.typescript state.outgoing
  | .writingScript => Sent state.stdinRead state.masterWritten ∧
      Sent state.masterRead state.stdout ∧
      Behind state.masterRead state.typescript state.outgoing
  | .resetting _ | .ended _ => Recorded state.masterRead state.stdout state.typescript
  | _ => Relayed state

/-- What holds of the outputs in every reachable state. -/
def Relay (state : State) : Prop := RelayAt state state.pc

section

variable {chunks : List (List Byte)} {written pending chunk stdout typescript : List Byte}

theorem Sent.behind (sent : Sent chunks written) (next : pending = chunk) :
    Behind (chunks ++ [chunk]) written pending := ⟨chunks, by rw [next], sent⟩

theorem Behind.sent (behind : Behind chunks written pending) : Sent chunks (written ++ pending) := by
  rcases behind with ⟨earlier, rfl, rfl⟩
  simp [Sent]

theorem prefix_append_take (written pending : List Byte) {short long : Nat} (less : short ≤ long) :
    written ++ pending.take short <+: written ++ pending.take long :=
  (List.prefix_append_right_inj written).mpr (List.take_prefix_take_left less)

/-- Any amounts of the last chunk have been shown and recorded, but not more
recorded than shown. -/
theorem Behind.recorded (behind : Behind chunks written pending) {recorded shown : Nat}
    (less : recorded ≤ shown) :
    Recorded chunks (written ++ pending.take shown) (written ++ pending.take recorded) := by
  rcases behind with ⟨earlier, rfl, rfl⟩
  refine ⟨?_, prefix_append_take _ _ less, ?_⟩
  · rw [List.dropLast_concat]
    exact List.prefix_append _ _
  · rw [List.flatten_append, List.flatten_singleton]
    exact (List.prefix_append_right_inj _).mpr (List.take_prefix _ _)

theorem Sent.recorded (shown : Sent chunks stdout) (recorded : Sent chunks typescript) :
    Recorded chunks stdout typescript := by
  rw [shown, recorded]
  refine ⟨?_, List.prefix_refl _, List.prefix_refl _⟩
  rcases List.eq_nil_or_concat chunks with rfl | ⟨earlier, last, rfl⟩
  · exact List.prefix_refl _
  · rw [List.concat_eq_append, List.dropLast_concat, List.flatten_append]
    exact List.prefix_append _ _

end

section

variable {dumpcore : Option String} {state next : State} {action : Action}

/-- A process that ends itself leaves the record as it is. -/
theorem terminate_relay (failure : Option Failure)
    (recorded : Recorded state.masterRead state.stdout state.typescript) :
    RelayAt (state.terminate failure) (state.terminate failure).pc := by
  unfold State.terminate
  split <;> exact recorded

theorem Relayed.terminate (relayed : Relayed state) (failure : Option Failure) :
    RelayAt (state.terminate failure) (state.terminate failure).pc :=
  terminate_relay failure (relayed.shown.recorded relayed.recorded)

theorem outgoing_take (state : State) : state.outgoing.take state.numRead = state.outgoing := by
  unfold State.outgoing contents
  rw [List.take_take, Nat.min_self]

theorem outgoing_receive (state : State) {chunk : List Byte} (fits : chunk.length ≤ BUF_SIZE) :
    (state.receive chunk).outgoing = chunk := contents_fill_of_le state.buf fits

/-- A call in front of the loop touches none of the streams. -/
theorem calling_relay {message : String} {result : State}
    (stepped : State.calling dumpcore state next message action = some result)
    (relayed : Relayed state) (after : RelayAt next next.pc) : RelayAt result result.pc := by
  rcases calling_cases stepped with ⟨-, rfl⟩ | ⟨errno, -, rfl⟩
  · exact after
  · exact relayed.terminate _

theorem readingStdin_relay {masterReady : Bool} (relayed : Relayed state)
    (stepped : state.reading (fun chunk => { state with stdinRead := state.stdinRead ++ [chunk] })
      (.writingMaster masterReady) action = some next) : RelayAt next next.pc := by
  rcases reading_cases stepped with ⟨chunk, -, fits, rfl⟩ | ⟨-, rfl⟩
  · have pending := outgoing_receive state fits
    exact ⟨relayed.typed.behind pending, relayed.shown, relayed.recorded⟩
  · exact relayed.terminate none

theorem readingMaster_relay (relayed : Relayed state)
    (stepped : state.reading (fun chunk => { state with masterRead := state.masterRead ++ [chunk] })
      .writingStdout action = some next) : RelayAt next next.pc := by
  rcases reading_cases stepped with ⟨chunk, -, fits, rfl⟩ | ⟨-, rfl⟩
  · have pending := outgoing_receive state fits
    exact ⟨relayed.typed, relayed.shown.behind pending, relayed.recorded.behind pending⟩
  · exact relayed.terminate none

theorem writingMaster_relay {masterReady : Bool}
    (relayed : RelayAt state (.writingMaster masterReady)) {message : String}
    (stepped : State.writing dumpcore state State.writeMaster (State.afterStdin masterReady)
      message action = some next) : RelayAt next next.pc := by
  rcases relayed with ⟨behind, shown, recorded⟩
  rcases writing_cases stepped with ⟨-, rfl⟩ | ⟨count, -, -, rfl⟩ | ⟨errno, -, rfl⟩
  · have typed : Relayed (state.writeMaster state.numRead) := by
      refine ⟨?_, shown, recorded⟩
      change Sent state.stdinRead (state.masterWritten ++ state.outgoing.take state.numRead)
      rw [outgoing_take]
      exact behind.sent
    cases masterReady <;> exact ⟨typed.typed, typed.shown, typed.recorded⟩
  · exact terminate_relay _ (shown.recorded recorded)
  · exact terminate_relay _ (shown.recorded recorded)

theorem writingStdout_relay (relayed : RelayAt state .writingStdout) {message : String}
    (stepped : State.writing dumpcore state State.writeStdout .writingScript message action =
      some next) : RelayAt next next.pc := by
  rcases relayed with ⟨typed, behind, recorded⟩
  have same : state.stdout = state.typescript := by
    rcases behind with ⟨earlier, chunks, shown⟩
    rcases recorded with ⟨others, sameChunks, written⟩
    rw [chunks] at sameChunks
    rw [shown, written, List.append_cancel_right sameChunks]
  rcases writing_cases stepped with ⟨-, rfl⟩ | ⟨count, -, -, rfl⟩ | ⟨errno, -, rfl⟩
  · refine ⟨typed, ?_, recorded⟩
    change Sent state.masterRead (state.stdout ++ state.outgoing.take state.numRead)
    rw [outgoing_take]
    exact behind.sent
  · apply terminate_relay
    have part := recorded.recorded (Nat.zero_le count)
    rw [List.take_zero, List.append_nil] at part
    change Recorded state.masterRead (state.stdout ++ state.outgoing.take count) state.typescript
    rw [same]
    exact part
  · apply terminate_relay
    have none := recorded.recorded (Nat.le_refl 0)
    rw [List.take_zero, List.append_nil] at none
    rw [same]
    exact none

theorem writingScript_relay (relayed : RelayAt state .writingScript) {message : String}
    (stepped : State.writing dumpcore state State.writeScript .selecting message action =
      some next) : RelayAt next next.pc := by
  rcases relayed with ⟨typed, shown, behind⟩
  have whole : state.stdout = state.typescript ++ state.outgoing.take state.numRead := by
    rw [outgoing_take]
    exact Eq.trans shown behind.sent.symm
  rcases writing_cases stepped with ⟨-, rfl⟩ | ⟨count, short, -, rfl⟩ | ⟨errno, -, rfl⟩
  · refine ⟨typed, shown, ?_⟩
    change Sent state.masterRead (state.typescript ++ state.outgoing.take state.numRead)
    rw [outgoing_take]
    exact behind.sent
  · apply terminate_relay
    have part := behind.recorded (Nat.le_of_lt short)
    rw [← whole] at part
    exact part
  · apply terminate_relay
    have none := behind.recorded (Nat.zero_le state.numRead)
    rw [← whole, List.take_zero, List.append_nil] at none
    exact none

theorem step_relay (relayed : Relay state)
    (stepped : state.step dumpcore action = some next) : Relay next := by
  unfold Relay at relayed
  unfold State.step at stepped
  cases position : state.pc <;> simp only [position] at stepped relayed
  case gettingAttributes =>
      exact calling_relay stepped relayed ⟨relayed.typed, relayed.shown, relayed.recorded⟩
  case gettingSize =>
      exact calling_relay stepped relayed ⟨relayed.typed, relayed.shown, relayed.recorded⟩
  case forking =>
      exact calling_relay stepped relayed ⟨relayed.typed, relayed.shown, relayed.recorded⟩
  case opening =>
      exact calling_relay stepped relayed ⟨relayed.typed, relayed.shown, relayed.recorded⟩
  case settingRaw =>
      cases action <;> cases stepped
      exact ⟨relayed.typed, relayed.shown, relayed.recorded⟩
  case registering =>
      exact calling_relay stepped relayed ⟨relayed.typed, relayed.shown, relayed.recorded⟩
  case announcing =>
      cases action <;> cases stepped
      exact ⟨relayed.typed, relayed.shown, relayed.recorded⟩
  case selecting =>
      cases action <;> cases stepped
      case ready stdinReady masterReady =>
          cases stdinReady <;> cases masterReady <;>
            exact ⟨relayed.typed, relayed.shown, relayed.recorded⟩
      case fail errno => exact Relayed.terminate relayed _
  case readingStdin masterReady => exact readingStdin_relay relayed stepped
  case writingMaster masterReady => exact writingMaster_relay relayed stepped
  case readingMaster => exact readingMaster_relay relayed stepped
  case writingStdout => exact writingStdout_relay relayed stepped
  case writingScript => exact writingScript_relay relayed stepped
  case resetting failure => cases action <;> cases stepped <;> exact relayed
  case ended failure => cases stepped

end

/-- At the top of every pass of the loop the typescript, standard output and what
came from the master are the same, and what went to the master is what was typed.
At any time, and so when the process ends, the typescript is a prefix of what was
shown and lacks at most the last chunk. -/
theorem script_records {dumpcore : Option String} {settings : Termios} {state : State}
    (reachable : (script dumpcore settings).Reachable state) :
    (state.pc = .selecting ->
      state.typescript = state.masterRead.flatten ∧ state.stdout = state.masterRead.flatten ∧
        state.masterWritten = state.stdinRead.flatten) ∧
    ((Exists fun failure => state.pc = .resetting failure ∨ state.pc = .ended failure) ->
      state.typescript <+: state.stdout ∧ state.stdout <+: state.masterRead.flatten ∧
        state.masterRead.dropLast.flatten <+: state.typescript) := by
  have relayed : Relay state := by
    refine Machine.Reachable.invariant ?_ ?_ reachable
    · rintro state ⟨position, -, -, -, -, stdinRead, masterRead, masterWritten, stdout, typescript⟩
      rw [Relay, position]
      refine ⟨?_, ?_, ?_⟩
      · rw [stdinRead, masterWritten]
        rfl
      · rw [masterRead, stdout]
        rfl
      · rw [masterRead, typescript]
        rfl
    · intro state action next relayed stepped
      exact step_relay relayed stepped
  unfold Relay at relayed
  refine ⟨?_, ?_⟩
  · intro top
    rw [top] at relayed
    exact ⟨relayed.recorded, relayed.shown, relayed.typed⟩
  · rintro ⟨failure, ending | ended⟩
    · rw [ending] at relayed
      exact ⟨relayed.shown, relayed.came, relayed.complete⟩
    · rw [ended] at relayed
      exact ⟨relayed.shown, relayed.came, relayed.complete⟩

/-- Ordinary settings of a terminal. -/
def cooked : Termios :=
  { c_iflag := ICRNL ||| IXON, c_oflag := OPOST, c_cflag := 0,
    c_lflag := ISIG ||| ICANON ||| ECHO ||| IEXTEN, c_cc := Vector.replicate NCCS 0 }

def started : State where
  pc := .gettingAttributes
  terminal := cooked
  ttyOrig := .zero
  entered := false
  registered := false
  buf := Vector.replicate BUF_SIZE 0
  numRead := 0
  stdinRead := []
  masterRead := []
  masterWritten := []
  stdout := []
  typescript := []

theorem started_initial (dumpcore : Option String) : (script dumpcore cooked).Initial started :=
  ⟨rfl, rfl, rfl, rfl, rfl, rfl, rfl, rfl, rfl, rfl⟩

/-- The calls in front of the loop succeed. -/
def preparation : List Action := [.ok, .ok, .ok, .ok, .setRaw ⟨true, true⟩, .ok, .ok]

/-- One pass with both descriptors ready. -/
def bothReady : List Action :=
  [.ready true true, .read [108, 115], .wrote 2, .read [108, 115, 10], .wrote 3, .wrote 3]

/-- The terminal is at the top of the loop again. -/
def relayedOnce : State :=
  ((script none cooked).exec started (preparation ++ bothReady)).get (by decide +kernel)

/-- Output arrives that the typescript has no room for. -/
def fullDisk : List Action := [.ready false true, .read [120, 121], .wrote 2, .wrote 1, .ok]

/-- The process has ended with a part of the last chunk recorded. -/
def recordedShort : State :=
  ((script none cooked).exec started (preparation ++ bothReady ++ fullDisk)).get (by decide +kernel)

/-- One pass, and then an exit for lack of room. -/
theorem script_records_session :
    (relayedOnce.typescript = relayedOnce.masterRead.flatten ∧
      relayedOnce.stdout = relayedOnce.masterRead.flatten ∧
      relayedOnce.masterWritten = relayedOnce.stdinRead.flatten) ∧
    (recordedShort.typescript <+: recordedShort.stdout ∧
      recordedShort.stdout <+: recordedShort.masterRead.flatten ∧
      recordedShort.masterRead.dropLast.flatten <+: recordedShort.typescript) := by
  have top : (script none cooked).exec started (preparation ++ bothReady) = some relayedOnce :=
    (Option.some_get _).symm
  have ending : (script none cooked).exec started (preparation ++ bothReady ++ fullDisk) =
      some recordedShort := (Option.some_get _).symm
  constructor
  · apply (script_records (Machine.reachable_of_exec (started_initial none) top)).1
    decide +kernel
  · apply (script_records (Machine.reachable_of_exec (started_initial none) ending)).2
    exact ⟨_, .inr (by decide +kernel : recordedShort.pc =
      .ended (some (fatal none "partial/faield write (scriptFd)")))⟩

/-! ## The terminal -/

/-- How far the process has come with its terminal. -/
inductive Phase where
  | starting
  | saved
  | changed
  | guarded
  | finished
deriving DecidableEq, Repr

def Pc.phase : Pc -> Phase
  | .gettingAttributes => .starting
  | .gettingSize | .forking | .opening | .settingRaw => .saved
  | .registering => .changed
  | .ended _ => .finished
  | _ => .guarded

/-- The settings that `ttySetRaw` leaves on the terminal. -/
def inEffect (settings : Termios) (entered : Bool) : Termios :=
  if entered then settings.raw else settings

/-- What the phase tells about the terminal, the saved settings and the handler. -/
def TtyAt (settings : Termios) (state : State) : Phase -> Prop
  | .starting => state.terminal = settings ∧ state.entered = false ∧ state.registered = false
  | .saved => state.terminal = settings ∧ state.ttyOrig = settings ∧ state.entered = false ∧
      state.registered = false
  | .changed => state.terminal = inEffect settings state.entered ∧ state.ttyOrig = settings ∧
      state.registered = false
  | .guarded => state.terminal = inEffect settings state.entered ∧ state.ttyOrig = settings ∧
      state.registered = true
  | .finished => state.terminal = settings ∨ state.terminal = settings.raw

/-- The environment does not turn the end of a failing process into an `abort`. -/
def Exits (dumpcore : Option String) : Prop := Lib.terminate dumpcore true = .exit

instance (dumpcore : Option String) : Decidable (Exits dumpcore) :=
  inferInstanceAs (Decidable (Lib.terminate dumpcore true = .exit))

/-- A step after which the terminal can still be put back: the handler can be
registered and can set the terminal, and a call in the loop that fails, or a write
that does not take everything, does not lead to an `abort`. -/
def Restorable (dumpcore : Option String) (state : State) (action : Action) : Prop :=
  match state.pc, action with
  | .registering, .fail _ => False
  | .resetting _, .fail _ => False
  | .selecting, .fail _ => Exits dumpcore
  | .writingMaster _, .fail _ | .writingStdout, .fail _ | .writingScript, .fail _ =>
      Exits dumpcore
  | .writingMaster _, .wrote count | .writingStdout, .wrote count | .writingScript, .wrote count =>
      count = state.numRead ∨ Exits dumpcore
  | _, _ => True

/-- The process is at one of the three writes of the loop. -/
def Pc.writes : Pc -> Bool
  | .writingMaster _ | .writingStdout | .writingScript => true
  | _ => false

/-- Two states with the same terminal, saved settings and handler. -/
structure SameTty (state next : State) : Prop where
  terminal : next.terminal = state.terminal
  ttyOrig : next.ttyOrig = state.ttyOrig
  entered : next.entered = state.entered
  registered : next.registered = state.registered

/-- What a step does to the terminal. -/
inductive TtyStep (dumpcore : Option String) (state : State) (action : Action) : State -> Prop
  | save (pc : Pc) : state.pc.phase = .starting -> pc.phase = .saved ->
      Restorable dumpcore state action ->
      TtyStep dumpcore state action ({ state with ttyOrig := state.terminal }.moveTo pc)
  | keep {next : State} : SameTty state next -> next.pc.phase = state.pc.phase ->
      state.pc.phase ≠ .finished -> Restorable dumpcore state action ->
      TtyStep dumpcore state action next
  | change (answers : TtyAnswers) (pc : Pc) : state.pc.phase = .saved -> pc.phase = .changed ->
      Restorable dumpcore state action ->
      TtyStep dumpcore state action ((state.enterRaw answers).moveTo pc)
  | guard (pc : Pc) : state.pc.phase = .changed -> pc.phase = .guarded ->
      Restorable dumpcore state action ->
      TtyStep dumpcore state action ({ state with registered := true }.moveTo pc)
  | terminate {middle : State} (failure : Option Failure) : SameTty state middle ->
      state.pc.phase ≠ .finished ->
      (state.pc.phase = .changed -> ¬ Restorable dumpcore state action) ->
      (state.pc.phase = .guarded ->
        (Restorable dumpcore state action <-> State.termination failure = .exit)) ->
      TtyStep dumpcore state action (middle.terminate failure)
  | reset (pc : Pc) : state.pc.phase = .guarded -> pc.phase = .finished ->
      Restorable dumpcore state action ->
      TtyStep dumpcore state action ({ state with terminal := state.ttyOrig }.moveTo pc)
  | stuck (pc : Pc) : state.pc.phase = .guarded -> pc.phase = .finished ->
      ¬ Restorable dumpcore state action -> TtyStep dumpcore state action (state.moveTo pc)

section

variable {dumpcore : Option String} {settings : Termios} {state next result : State}
  {action : Action}

theorem SameTty.refl (state : State) : SameTty state state := ⟨rfl, rfl, rfl, rfl⟩

theorem calling_tty {message : String}
    (stepped : State.calling dumpcore state next message action = some result)
    (running : state.pc.phase ≠ .finished) (unguarded : state.pc.phase ≠ .guarded)
    (changed : state.pc.phase = .changed -> action ≠ .ok -> ¬ Restorable dumpcore state action)
    (after : action = .ok -> TtyStep dumpcore state action next) :
    TtyStep dumpcore state action result := by
  rcases calling_cases stepped with ⟨succeeded, rfl⟩ | ⟨errno, rfl, rfl⟩
  · exact after succeeded
  · refine .terminate _ (.refl state) running ?_ (fun guarded => absurd guarded unguarded)
    intro isChanged
    exact changed isChanged (fun impossible => by cases impossible)

theorem saved_tty {message : String} {pc : Pc}
    (stepped : State.calling dumpcore state (state.moveTo pc) message action = some result)
    (before : state.pc.phase = .saved) (after : pc.phase = .saved)
    (restorable : Restorable dumpcore state action) : TtyStep dumpcore state action result := by
  apply calling_tty stepped
  · rw [before]
    decide
  · rw [before]
    decide
  · intro changed
    rw [before] at changed
    cases changed
  · intro _
    exact .keep ⟨rfl, rfl, rfl, rfl⟩ (after.trans before.symm) (by rw [before]; decide) restorable

theorem reading_tty {record : List Byte -> State} {pc : Pc}
    (stepped : state.reading record pc action = some result)
    (same : forall chunk, SameTty state (record chunk)) (before : state.pc.phase = .guarded)
    (after : pc.phase = .guarded) (restorable : Restorable dumpcore state action) :
    TtyStep dumpcore state action result := by
  have running : state.pc.phase ≠ .finished := by rw [before]; decide
  rcases reading_cases stepped with ⟨chunk, -, -, rfl⟩ | ⟨-, rfl⟩
  · have kept := same chunk
    exact .keep ⟨kept.terminal, kept.ttyOrig, kept.entered, kept.registered⟩ (after.trans before.symm)
      running restorable
  · refine .terminate none (.refl state) running ?_ ?_
    · intro changed
      rw [before] at changed
      cases changed
    · intro _
      exact iff_of_true restorable rfl

/-- A write of the loop that takes everything is harmless, and another one is if the
process then exits. -/
theorem restorable_write (dumpcore : Option String) (writes : state.pc.writes = true) :
    (forall count, Restorable dumpcore state (.wrote count) <->
      count = state.numRead ∨ Exits dumpcore) ∧
    (forall errno, Restorable dumpcore state (.fail errno) <-> Exits dumpcore) := by
  cases position : state.pc <;> rw [position] at writes <;> cases writes <;>
    simp only [Restorable, position, implies_true, and_self]

theorem writing_tty {write : State -> Nat -> State} {pc : Pc} {message : String}
    (stepped : State.writing dumpcore state write pc message action = some result)
    (same : forall count, SameTty state (write state count)) (before : state.pc.phase = .guarded)
    (writes : state.pc.writes = true) (after : pc.phase = .guarded) :
    TtyStep dumpcore state action result := by
  have running : state.pc.phase ≠ .finished := by rw [before]; decide
  have unchanged : state.pc.phase ≠ .changed := by rw [before]; decide
  rcases restorable_write dumpcore writes with ⟨wrote, failed⟩
  rcases writing_cases stepped with ⟨rfl, rfl⟩ | ⟨count, less, rfl, rfl⟩ | ⟨errno, rfl, rfl⟩
  · have kept := same state.numRead
    exact .keep ⟨kept.terminal, kept.ttyOrig, kept.entered, kept.registered⟩ (after.trans before.symm)
      running ((wrote _).mpr (.inl rfl))
  · refine .terminate _ (same count) running (fun changed => absurd changed unchanged) ?_
    intro _
    rw [wrote, or_iff_right (Nat.ne_of_lt less)]
    exact Iff.rfl
  · refine .terminate _ (.refl state) running (fun changed => absurd changed unchanged) ?_
    intro _
    rw [failed]
    exact Iff.rfl

theorem selecting_tty (position : state.pc = .selecting)
    (stepped : state.step dumpcore action = some next) : TtyStep dumpcore state action next := by
  have before : state.pc.phase = .guarded := by rw [position]; rfl
  have running : state.pc.phase ≠ .finished := by rw [before]; decide
  simp only [State.step, position] at stepped
  cases action <;> cases stepped
  case ready stdinReady masterReady =>
      refine .keep ⟨rfl, rfl, rfl, rfl⟩ ?_ running (by simp only [Restorable, position])
      rw [before]
      cases stdinReady <;> cases masterReady <;> rfl
  case fail errno =>
      refine .terminate _ (.refl state) running ?_ ?_
      · intro changed
        rw [before] at changed
        cases changed
      · intro _
        simp only [Restorable, position]
        exact Iff.rfl

theorem resetting_tty {failure : Option Failure} (position : state.pc = .resetting failure)
    (stepped : state.step dumpcore action = some next) : TtyStep dumpcore state action next := by
  have before : state.pc.phase = .guarded := by rw [position]; rfl
  simp only [State.step, position] at stepped
  cases action <;> cases stepped
  · exact .reset _ before rfl (by simp only [Restorable, position])
  · exact .stuck _ before rfl (by simp only [Restorable, position, not_false_eq_true])

theorem step_tty (stepped : state.step dumpcore action = some next) :
    TtyStep dumpcore state action next := by
  cases position : state.pc
  case selecting => exact selecting_tty position stepped
  case resetting failure => exact resetting_tty position stepped
  all_goals
    unfold State.step at stepped
    simp only [position] at stepped
  case gettingAttributes =>
      apply calling_tty stepped
      · rw [position]
        decide
      · rw [position]
        decide
      · intro changed
        rw [position] at changed
        cases changed
      · intro _
        exact .save _ (congrArg Pc.phase position) rfl (by simp only [Restorable, position])
  case gettingSize =>
      exact saved_tty stepped (congrArg Pc.phase position) rfl (by simp only [Restorable, position])
  case forking =>
      exact saved_tty stepped (congrArg Pc.phase position) rfl (by simp only [Restorable, position])
  case opening =>
      exact saved_tty stepped (congrArg Pc.phase position) rfl (by simp only [Restorable, position])
  case settingRaw =>
      cases action <;> cases stepped
      exact .change _ _ (congrArg Pc.phase position) rfl (by simp only [Restorable, position])
  case registering =>
      apply calling_tty stepped
      · rw [position]
        decide
      · rw [position]
        decide
      · intro _ failed
        rcases calling_cases stepped with ⟨rfl, -⟩ | ⟨errno, rfl, -⟩
        · exact absurd rfl failed
        · simp only [Restorable, position, not_false_eq_true]
      · rintro rfl
        exact .guard _ (congrArg Pc.phase position) rfl (by simp only [Restorable, position])
  case announcing =>
      cases action <;> cases stepped
      exact .keep ⟨rfl, rfl, rfl, rfl⟩ (congrArg Pc.phase position).symm (by rw [position]; decide)
        (by simp only [Restorable, position])
  case readingStdin masterReady =>
      exact reading_tty stepped (fun _ => ⟨rfl, rfl, rfl, rfl⟩) (congrArg Pc.phase position) rfl
        (by simp only [Restorable, position])
  case readingMaster =>
      exact reading_tty stepped (fun _ => ⟨rfl, rfl, rfl, rfl⟩) (congrArg Pc.phase position) rfl
        (by simp only [Restorable, position])
  case writingMaster masterReady =>
      apply writing_tty stepped (fun _ => ⟨rfl, rfl, rfl, rfl⟩)
      · rw [position]
        rfl
      · rw [position]
        rfl
      · cases masterReady <;> rfl
  case writingStdout =>
      exact writing_tty stepped (fun _ => ⟨rfl, rfl, rfl, rfl⟩) (congrArg Pc.phase position)
        (congrArg Pc.writes position) rfl
  case writingScript =>
      exact writing_tty stepped (fun _ => ⟨rfl, rfl, rfl, rfl⟩) (congrArg Pc.phase position)
        (congrArg Pc.writes position) rfl
  case ended failure => cases stepped

/-- The settings after `ttySetRaw` are those in effect, and the saved ones are the
original. -/
theorem enterRaw_tty (answers : TtyAnswers) (terminal : state.terminal = settings)
    (saved : state.ttyOrig = settings) :
    (state.enterRaw answers).terminal = inEffect settings (state.enterRaw answers).entered ∧
      (state.enterRaw answers).ttyOrig = settings := by
  change (ttySetRaw answers state.terminal (some state.ttyOrig)).settings =
      inEffect settings (state.enterRaw answers).entered ∧
    (ttySetRaw answers state.terminal (some state.ttyOrig)).prevTermios.getD state.ttyOrig = settings
  unfold ttySetRaw
  rcases ttySet_spec Termios.raw answers state.terminal (some state.ttyOrig) with
    ⟨succeeded, changed, returned⟩ | ⟨failed, unchanged, returned⟩
  · have entered : (state.enterRaw answers).entered = true := decide_eq_true succeeded
    rw [entered, changed, returned, terminal]
    exact ⟨rfl, rfl⟩
  · have nonzero : (ttySetRaw answers state.terminal (some state.ttyOrig)).result ≠ 0 := by
      rw [ttySetRaw, failed]
      decide
    have entered : (state.enterRaw answers).entered = false := decide_eq_false nonzero
    rw [entered, unchanged, terminal]
    refine ⟨rfl, ?_⟩
    rw [terminal] at returned
    rcases returned with same | found
    · rw [same]
      exact saved
    · rw [found]
      rfl

/-- In every phase the terminal has its original settings or those of the raw mode. -/
theorem TtyAt.terminal {phase : Phase} (holds : TtyAt settings state phase) :
    state.terminal = settings ∨ state.terminal = settings.raw := by
  have effect : state.terminal = inEffect settings state.entered ->
      state.terminal = settings ∨ state.terminal = settings.raw := by
    intro current
    rw [current, inEffect]
    cases state.entered
    · exact .inl rfl
    · exact .inr rfl
  cases phase with
  | starting => exact .inl holds.1
  | saved => exact .inl holds.1
  | changed => exact effect holds.1
  | guarded => exact effect holds.1
  | finished => exact holds

theorem SameTty.at {phase : Phase} (same : SameTty state next) (holds : TtyAt settings state phase) :
    TtyAt settings next phase := by
  rcases same with ⟨terminal, ttyOrig, entered, registered⟩
  cases phase <;> simpa only [TtyAt, terminal, ttyOrig, entered, registered] using holds

/-- Only a process that has registered its handler is in the guarded phase. -/
theorem TtyAt.phase_eq {phase : Phase} (holds : TtyAt settings state phase) (running : phase ≠ .finished)
    (registered : state.registered = true) : phase = .guarded := by
  cases phase with
  | starting => exact absurd (holds.2.2.symm.trans registered) Bool.false_ne_true
  | saved => exact absurd (holds.2.2.2.symm.trans registered) Bool.false_ne_true
  | changed => exact absurd (holds.2.2.symm.trans registered) Bool.false_ne_true
  | guarded => rfl
  | finished => exact absurd rfl running

theorem step_ttyAt (holds : TtyAt settings state state.pc.phase)
    (stepped : TtyStep dumpcore state action next) : TtyAt settings next next.pc.phase := by
  cases stepped with
  | save pc before after _ =>
      rw [before] at holds
      change TtyAt settings _ pc.phase
      rw [after]
      exact ⟨holds.1, holds.1, holds.2.1, holds.2.2⟩
  | keep same phase _ _ =>
      rw [phase]
      exact same.at holds
  | change answers pc before after _ =>
      rw [before] at holds
      change TtyAt settings _ pc.phase
      rw [after]
      obtain ⟨terminal, saved⟩ := enterRaw_tty answers holds.1 holds.2.1
      exact ⟨terminal, saved, holds.2.2.2⟩
  | guard pc before after _ =>
      rw [before] at holds
      change TtyAt settings _ pc.phase
      rw [after]
      exact ⟨holds.1, holds.2.1, rfl⟩
  | terminate failure same running _ _ =>
      have middle := same.at holds
      unfold State.terminate
      split
      · rename_i handled
        rw [middle.phase_eq running handled.2] at middle
        exact middle
      · exact middle.terminal
  | reset pc before after _ =>
      rw [before] at holds
      change TtyAt settings _ pc.phase
      rw [after]
      exact .inl holds.2.1
  | stuck pc before after _ =>
      change TtyAt settings _ pc.phase
      rw [after]
      exact holds.terminal

theorem runsHandlers_iff (termination : Termination) :
    termination.runsHandlers = true <-> termination = .exit := by
  cases termination <;> simp [Termination.runsHandlers]

/-- A step that does not end the process leaves the terminal to be put back. -/
theorem restorable_of_running (holds : TtyAt settings state state.pc.phase)
    (stepped : TtyStep dumpcore state action next) (running : next.pc.phase ≠ .finished) :
    Restorable dumpcore state action := by
  cases stepped with
  | save _ _ _ restorable => exact restorable
  | keep _ _ _ restorable => exact restorable
  | change _ _ _ _ restorable => exact restorable
  | guard _ _ _ restorable => exact restorable
  | terminate failure same before _ guarded =>
      unfold State.terminate at running
      split at running
      · rename_i handled
        have registered : state.registered = true := same.registered.symm.trans handled.2
        exact (guarded (holds.phase_eq before registered)).mpr ((runsHandlers_iff _).mp handled.1)
      · exact absurd rfl running
  | reset _ _ _ restorable => exact restorable
  | stuck pc _ after _ => exact absurd after running

/-- A step that ends the process after the mode was changed has put the terminal
back exactly if it is one that allows for it. -/
theorem restored_of_finished (holds : TtyAt settings state state.pc.phase)
    (stepped : TtyStep dumpcore state action next) (finished : next.pc.phase = .finished)
    (entered : next.entered = true) (different : settings.raw ≠ settings) :
    next.terminal = settings <-> Restorable dumpcore state action := by
  cases stepped with
  | save pc _ after _ => exact absurd (after.symm.trans finished) (by decide)
  | keep _ phase running _ => exact absurd (phase.symm.trans finished) running
  | change _ pc _ after _ => exact absurd (after.symm.trans finished) (by decide)
  | guard pc _ after _ => exact absurd (after.symm.trans finished) (by decide)
  | @terminate middle failure same running changed guarded =>
      unfold State.terminate at finished entered ⊢
      split at finished
      · cases finished
      · rename_i unhandled
        rw [if_neg unhandled] at entered ⊢
        have inRaw : state.entered = true := same.entered.symm.trans entered
        change middle.terminal = settings <-> _
        rw [same.terminal]
        cases phase : state.pc.phase with
        | starting =>
            rw [phase] at holds
            exact absurd (holds.2.1.symm.trans inRaw) Bool.false_ne_true
        | saved =>
            rw [phase] at holds
            exact absurd (holds.2.2.1.symm.trans inRaw) Bool.false_ne_true
        | changed =>
            rw [phase] at holds
            rw [holds.1, inRaw]
            exact iff_of_false different (changed phase)
        | guarded =>
            rw [phase] at holds
            rw [holds.1, inRaw, guarded phase, ← runsHandlers_iff]
            refine iff_of_false different (fun runs => unhandled ⟨runs, ?_⟩)
            exact same.registered.trans holds.2.2
        | finished => exact absurd phase running
  | reset pc before _ restorable =>
      rw [before] at holds
      exact iff_of_true holds.2.1 restorable
  | stuck pc before _ refused =>
      rw [before] at holds
      change state.terminal = settings <-> _
      have inRaw : state.entered = true := entered
      rw [holds.1, inRaw]
      exact iff_of_false different refused

theorem not_finished_of_step (stepped : state.step dumpcore action = some next) :
    state.pc.phase ≠ .finished := by
  unfold State.step at stepped
  cases position : state.pc with
  | ended failure =>
      rw [position] at stepped
      cases stepped
  | _ => exact fun impossible => by cases impossible

/-- The rest of a run puts the terminal back exactly if all of its steps allow for
it: a step that does not is the last one. -/
theorem restored_iff_along (different : settings.raw ≠ settings) {actions : List Action}
    {final : State} (holds : TtyAt settings state state.pc.phase) (running : state.pc.phase ≠ .finished)
    (executed : (script dumpcore settings).exec state actions = some final)
    (finished : final.pc.phase = .finished) (entered : final.entered = true) :
    final.terminal = settings <->
      (script dumpcore settings).Along (Restorable dumpcore) state actions := by
  induction actions generalizing state with
  | nil =>
      cases executed
      exact absurd finished running
  | cons action rest inductionHypothesis =>
      rcases Option.bind_eq_some_iff.mp executed with ⟨next, stepped, continued⟩
      have ttyStep := step_tty stepped
      rw [Machine.along_cons stepped]
      by_cases ended : next.pc.phase = .finished
      · -- nothing follows the end of the process
        cases rest with
        | nil =>
            cases continued
            rw [restored_of_finished holds ttyStep ended entered different]
            exact (and_iff_left trivial).symm
        | cons other others =>
            rcases Option.bind_eq_some_iff.mp continued with ⟨_, otherStep, -⟩
            exact absurd ended (not_finished_of_step otherStep)
      · have restorable := restorable_of_running holds ttyStep ended
        rw [inductionHypothesis (step_ttyAt holds ttyStep) ended continued, and_iff_right restorable]

theorem initial_ttyAt (initial : (script dumpcore settings).Initial state) :
    TtyAt settings state state.pc.phase := by
  rcases initial with ⟨position, terminal, -, entered, registered, -⟩
  rw [position]
  exact ⟨terminal, entered, registered⟩

end

/-- A process that ended itself after `ttySetRaw` had succeeded leaves the terminal
as it was at the start exactly if the raw mode made no difference, or every step
allowed for the settings to be put back: `atexit` and the `tcsetattr` of the handler
succeeded, and unless a failing process exits, no `select` failed and every write
took everything. -/
theorem terminal_restored_iff {dumpcore : Option String} {settings : Termios}
    {start final : State} {actions : List Action} {failure : Option Failure}
    (initial : (script dumpcore settings).Initial start)
    (executed : (script dumpcore settings).exec start actions = some final)
    (ended : final.pc = .ended failure) (entered : final.entered = true) :
    final.terminal = settings <->
      settings.raw = settings ∨
        (script dumpcore settings).Along (Restorable dumpcore) start actions := by
  have finished : final.pc.phase = .finished := by
    rw [ended]
    rfl
  by_cases same : settings.raw = settings
  · refine iff_of_true ?_ (.inl same)
    have reachable := Machine.reachable_of_exec initial executed
    have holds : TtyAt settings final final.pc.phase := by
      refine Machine.Reachable.invariant (fun _ => initial_ttyAt) ?_ reachable
      intro state action next holds stepped
      exact step_ttyAt holds (step_tty stepped)
    rcases holds.terminal with original | inRaw
    · exact original
    · exact inRaw.trans same
  · rw [or_iff_right same]
    have running : start.pc.phase ≠ .finished := by
      rw [initial.1]
      decide
    exact restored_iff_along same (initial_ttyAt initial) running executed finished entered

/-- The user types the end of the input, and the handler puts the terminal back. -/
def endOfInput : List Action := preparation ++ [.ready true false, .readEnd, .ok]

def endOfInputFinal : State :=
  ((script none cooked).exec started endOfInput).get (by decide +kernel)

theorem terminal_restored_at_end_of_input :
    endOfInputFinal.pc = .ended none ∧ endOfInputFinal.entered = true ∧
      (endOfInputFinal.terminal = cooked <->
        cooked.raw = cooked ∨
          (script none cooked).Along (Restorable none) started endOfInput) := by
  have ended : endOfInputFinal.pc = .ended none ∧ endOfInputFinal.entered = true := by
    decide +kernel
  exact ⟨ended.1, ended.2,
    terminal_restored_iff (started_initial none) (Option.some_get _).symm ended.1 ended.2⟩

/-- A write to the master is cut short in an environment with `EF_DUMPCORE`. -/
def shortWrite : List Action := preparation ++ [.ready true false, .read [108, 115], .wrote 1]

def shortWriteFinal : State :=
  ((script (some "1") cooked).exec started shortWrite).get (by decide +kernel)

/-- The process aborts, and leaves the terminal in raw mode. -/
theorem terminal_raw_after_abort :
    ¬ forall (dumpcore : Option String) (settings : Termios) (state : State)
        (failure : Option Failure),
      (script dumpcore settings).Reachable state -> state.pc = .ended failure ->
      state.entered = true -> state.terminal = settings := by
  intro restored
  have executed : (script (some "1") cooked).exec started shortWrite = some shortWriteFinal :=
    (Option.some_get _).symm
  have reachable := Machine.reachable_of_exec (started_initial (some "1")) executed
  have ended : shortWriteFinal.pc =
      .ended (some (fatal (some "1") "partial/failed write (masterFd)")) := by decide +kernel
  have terminal := restored _ _ _ _ reachable ended (by decide +kernel)
  exact absurd terminal (by decide +kernel)

end Script
end Pty
end Tlpi
