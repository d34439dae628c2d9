import Tlpi.CLibrary.Strtol
import Tlpi.Foundations.Segments
import Tlpi.Foundations.Transition
import Tlpi.Lib.ErrorFunctions

namespace Tlpi
namespace IoAdvanced
namespace DemoSigio

open CLibrary Foundations Lib

/-!
# Input announced by a signal

`demo_sigio` puts its terminal into cbreak mode and asks for `SIGIO` whenever input
is possible.  The handler sets a flag; the main loop looks at the flag in each turn
and, if it is set, reads byte by byte, without blocking, until a read fails or a hash
has been read.

The machine takes one step per call, test and assignment.  Input comes in groups of
any size at any time, and `SIGIO` may come and be delivered at any time.  The loop
that slows the main loop down is one step.
-/

/-- The positions of `main`, each named after what it does next. -/
inductive Pc where
  | installing
  | settingOwner
  | gettingFlags
  | settingFlags
  | settingCbreak
  | looping
  | delaying
  | testing
  | clearing
  | reading
  | checking
  | printing
  | assigning
  | incrementing
  | restoring
  | exited
  | failed (failure : Failure)
  | restoreFailed (failure : Failure)
  | killed
deriving DecidableEq, Repr

/-- `printf("cnt=%d; read %c\n", cnt, ch)`. -/
structure Line where
  cnt : Nat
  ch : Byte
deriving DecidableEq, Repr

/-- The process and its terminal.  `queue` has what waits on the terminal, and
`signalling` says that its input raises `SIGIO`.  `consumed` has the bytes that were
read, and `arrived` those that came in, apart from those that a change of the
terminal's settings discarded; the program holds neither of them. -/
structure State where
  pc : Pc
  gotSigio : Bool
  pending : Bool
  signalling : Bool
  done : Bool
  ch : Byte
  cnt : Nat
  queue : List Byte
  output : List Line
  arrived : List Byte
  consumed : List Byte
deriving DecidableEq, Repr

/-- Input comes, `SIGIO` comes or is delivered, the main program goes on, a call fails,
or a read meets the end of the input. -/
inductive Action where
  | arrive (bytes : List Byte)
  | raise
  | deliver
  | main
  | fail (errno : Errno)
  | endOfFile
deriving DecidableEq, Repr

def start : State where
  pc := .installing
  gotSigio := false
  pending := false
  signalling := false
  done := false
  ch := 0
  cnt := 0
  queue := []
  output := []
  arrived := []
  consumed := []

def hash : Byte := 35

def isHash (byte : Byte) : Bool := byte = hash

/-- The process has come to its end. -/
def Pc.ended : Pc -> Bool
  | .exited | .failed _ | .restoreFailed _ | .killed => true
  | _ => false

/-- The main loop has ended. -/
def Pc.left : Pc -> Bool
  | .restoring | .exited | .restoreFailed _ => true
  | _ => false

namespace State

def moveTo (state : State) (pc : Pc) : State := { state with pc := pc }

def printed (state : State) : List Byte := state.output.map Line.ch

/-- New settings are installed with `TCSAFLUSH`, which discards what waits. -/
def flush (state : State) : State := { state with queue := [], arrived := state.consumed }

def arrive (state : State) (bytes : List Byte) : Option State :=
  if state.pc.ended then none
  else some
    { state with
      queue := state.queue ++ bytes
      arrived := state.arrived ++ bytes
      pending := state.pending || state.signalling }

/-- `SIGIO` comes.  Without a handler it ends the process. -/
def raise (state : State) : Option State :=
  if state.pc.ended then none
  else if state.pc = .installing then some (state.moveTo .killed)
  else some { state with pending := true }

/-- `sigioHandler` runs. -/
def deliver (state : State) : Option State :=
  if state.pending ∧ state.pc ≠ .installing ∧ state.pc.ended = false then
    some { state with pending := false, gotSigio := true }
  else none

def mainStep (state : State) : Option State :=
  match state.pc with
  | .installing => some (state.moveTo .settingOwner)
  | .settingOwner => some (state.moveTo .gettingFlags)
  | .gettingFlags => some (state.moveTo .settingFlags)
  | .settingFlags => some ({ state with signalling := true }.moveTo .settingCbreak)
  | .settingCbreak => some (state.flush.moveTo .looping)
  | .looping => some (state.moveTo (if state.done then .restoring else .delaying))
  | .delaying => some (state.moveTo .testing)
  | .testing => some (state.moveTo (if state.gotSigio then .clearing else .incrementing))
  | .clearing => some ({ state with gotSigio := false }.moveTo .reading)
  | .reading =>
      match state.queue with
      | byte :: rest =>
          some ({ state with
            ch := byte
            queue := rest
            consumed := state.consumed ++ [byte] }.moveTo .checking)
      -- `EAGAIN`
      | [] => some (state.moveTo .incrementing)
  | .checking => some (state.moveTo (if state.done then .incrementing else .printing))
  | .printing =>
      some ({ state with output := state.output ++ [Line.mk state.cnt state.ch] }.moveTo .assigning)
  | .assigning => some ({ state with done := isHash state.ch }.moveTo .reading)
  | .incrementing => some ({ state with cnt := state.cnt + 1 }.moveTo .looping)
  | .restoring => some (state.flush.moveTo .exited)
  | .exited | .failed _ | .restoreFailed _ | .killed => none

/-- A call of the main program fails.  The result of `F_GETFL` is not tested. -/
def fail (dumpcore : Option String) (state : State) (errno : Errno) : Option State :=
  let ending (call : String) := some (state.moveTo (.failed (errExit dumpcore errno call)))
  match state.pc with
  | .installing => ending "sigaction"
  | .settingOwner => ending "fcntl(F_SETOWN)"
  | .gettingFlags => some (state.moveTo .settingFlags)
  | .settingFlags => ending "fcntl(F_SETFL)"
  | .settingCbreak => ending "ttySetCbreak"
  | .reading => some (state.moveTo .incrementing)
  | .restoring => some (state.moveTo (.restoreFailed (errExit dumpcore errno "tcsetattr")))
  | _ => none

def endOfFile (state : State) : Option State :=
  if state.pc = .reading then some (state.moveTo .incrementing) else none

def step (dumpcore : Option String) (state : State) : Action -> Option State
  | .arrive bytes => state.arrive bytes
  | .raise => state.raise
  | .deliver => state.deliver
  | .main => state.mainStep
  | .fail errno => state.fail dumpcore errno
  | .endOfFile => state.endOfFile

end State

def process (dumpcore : Option String) : Machine State Action where
  Initial := fun state => state = start
  step := State.step dumpcore

/-- Input is consumed up to a hash.  What is printed are the bytes that were read, in
order, and the program reads nothing beyond the first hash.  When the loop has ended,
everything that was read has been printed, and the last byte is the hash. -/
structure ConsumesToHash (state : State) : Prop where
  received : state.consumed <+: state.arrived
  echoed : state.printed <+: state.consumed
  notBeyond : afterFirst isHash state.consumed = []
  whole : state.pc.left = true -> state.printed = state.consumed ∧
    state.printed.getLast? = some hash

/-- The main program does not take a byte with the read that it makes once a hash has
been read. -/
def NothingBehindHash (state : State) (action : Action) : Prop :=
  action = .main -> state.pc = .reading -> state.done = true -> state.queue = []

/-! ## What has been read and printed -/

def NoHash (bytes : List Byte) : Prop := forall byte, byte ∈ bytes -> isHash byte = false

namespace Pc

/-- No byte is in hand, and the loop has not ended. -/
def scanning : Pc -> Bool
  | .checking | .printing | .assigning | .restoring | .exited | .restoreFailed _ => false
  | _ => true

/-- The positions behind the read that finds nothing after a hash. -/
def finishing : Pc -> Bool
  | .incrementing | .looping | .restoring | .exited | .restoreFailed _ => true
  | _ => false

theorem left_eq_false {pc : Pc} (scans : pc.scanning = true) : pc.left = false := by
  cases pc <;> first | rfl | cases scans

end Pc

/-- How far the program has come: it has seen no hash, it holds a byte that it has yet
to print, it has printed a byte that it has yet to compare, it has found the hash, or
it has taken one more byte behind the hash. -/
inductive Phase (state : State) : Prop where
  | searching (position : state.pc.scanning = true) (undone : state.done = false)
      (noHash : NoHash state.consumed) (same : state.printed = state.consumed)
  | holding (position : state.pc = .checking ∨ state.pc = .printing) (undone : state.done = false)
      (noHash : NoHash state.printed) (held : state.consumed = state.printed ++ [state.ch])
  | comparing (position : state.pc = .assigning) (undone : state.done = false) (front : List Byte)
      (noHash : NoHash front) (shown : state.printed = front ++ [state.ch])
      (same : state.printed = state.consumed)
  | found (position : state.pc = .reading ∨ state.pc.finishing = true) (done : state.done = true)
      (front : List Byte) (noHash : NoHash front) (shown : state.printed = front ++ [hash])
      (same : state.printed = state.consumed)
  | beyond (position : state.pc = .checking ∨ state.pc.finishing = true) (done : state.done = true)
      (front : List Byte) (noHash : NoHash front) (shown : state.printed = front ++ [hash])
      (byte : Byte) (taken : state.consumed = front ++ hash :: [byte])

structure Invariant (state : State) : Prop where
  flow : state.consumed ++ state.queue = state.arrived
  phase : Phase state

section

variable {dumpcore : Option String} {state next : State} {action : Action}

/-- The phase is a matter of the program, not of its terminal or its signals. -/
theorem Phase.congr (phase : Phase state) (samePc : next.pc = state.pc)
    (sameDone : next.done = state.done) (sameCh : next.ch = state.ch)
    (sameOutput : next.output = state.output) (sameConsumed : next.consumed = state.consumed) :
    Phase next := by
  have samePrinted : next.printed = state.printed := congrArg (List.map Line.ch) sameOutput
  rcases phase with ⟨position, undone, noHash, same⟩ | ⟨position, undone, noHash, held⟩ |
    ⟨position, undone, front, noHash, shown, same⟩ | ⟨position, done, front, noHash, shown, same⟩ |
    ⟨position, done, front, noHash, shown, byte, taken⟩
  · refine .searching ?_ ?_ ?_ ?_
    all_goals simpa [samePc, sameDone, sameConsumed, samePrinted]
  · refine .holding ?_ ?_ ?_ ?_
    all_goals simpa [samePc, sameDone, sameCh, sameConsumed, samePrinted]
  · refine .comparing ?_ ?_ front noHash ?_ ?_
    all_goals simpa [samePc, sameDone, sameCh, sameConsumed, samePrinted]
  · refine .found ?_ ?_ front noHash ?_ ?_
    all_goals simpa [samePc, sameDone, sameConsumed, samePrinted]
  · refine .beyond ?_ ?_ front noHash ?_ byte ?_
    all_goals simpa [samePc, sameDone, sameConsumed, samePrinted]

theorem searching_main (position : state.pc.scanning = true) (undone : state.done = false)
    (noHash : NoHash state.consumed) (same : state.printed = state.consumed)
    (stepped : state.mainStep = some next) : Phase next := by
  have stays : forall pc : Pc, pc.scanning = true -> Phase (state.moveTo pc) :=
    fun pc scans => .searching scans undone noHash same
  cases here : state.pc <;> simp only [State.mainStep, here] at stepped
  case reading =>
      cases waiting : state.queue with
      | nil =>
          rw [waiting] at stepped
          cases stepped
          exact stays .incrementing rfl
      | cons byte rest =>
          rw [waiting] at stepped
          cases stepped
          refine .holding (.inl rfl) undone ?_ ?_
          · exact same.symm ▸ noHash
          · exact congrArg (· ++ [byte]) same.symm
  case looping =>
      rw [undone] at stepped
      cases stepped
      exact stays .delaying rfl
  case testing =>
      cases stepped
      cases state.gotSigio
      · exact stays .incrementing rfl
      · exact stays .clearing rfl
  case installing | settingOwner | gettingFlags | delaying =>
      cases stepped
      exact stays _ rfl
  case settingFlags | settingCbreak | clearing | incrementing =>
      cases stepped
      exact .searching rfl undone noHash same
  case exited | failed | restoreFailed | killed => cases stepped
  case checking | printing | assigning | restoring =>
      rw [here] at position
      cases position

/-- A byte in hand is tested and printed. -/
theorem holding_main (position : state.pc = .checking ∨ state.pc = .printing)
    (undone : state.done = false) (noHash : NoHash state.printed)
    (held : state.consumed = state.printed ++ [state.ch]) (stepped : state.mainStep = some next) :
    Phase next := by
  rcases position with checking | printing
  · simp only [State.mainStep, checking, undone] at stepped
    cases stepped
    exact .holding (.inr rfl) undone noHash held
  · simp only [State.mainStep, printing] at stepped
    cases stepped
    have shown : (state.output ++ [Line.mk state.cnt state.ch]).map Line.ch =
        state.printed ++ [state.ch] := List.map_append
    exact .comparing rfl undone state.printed noHash shown (shown.trans held.symm)

/-- The byte that was printed is compared with the hash. -/
theorem comparing_main (position : state.pc = .assigning) (front : List Byte)
    (noHash : NoHash front) (shown : state.printed = front ++ [state.ch])
    (same : state.printed = state.consumed) (stepped : state.mainStep = some next) :
    Phase next := by
  simp only [State.mainStep, position] at stepped
  cases stepped
  cases compared : isHash state.ch with
  | true =>
      have hashed : state.ch = hash := of_decide_eq_true compared
      rw [hashed] at shown
      exact .found (.inl rfl) rfl front noHash shown same
  | false =>
      refine .searching rfl rfl ?_ same
      intro byte member
      change byte ∈ state.consumed at member
      rw [← same, shown, List.mem_append, List.mem_singleton] at member
      rcases member with early | rfl
      · exact noHash byte early
      · exact compared

/-- Once the hash is found, a read that finds a byte takes it. -/
theorem found_main (position : state.pc = .reading ∨ state.pc.finishing = true)
    (done : state.done = true) (front : List Byte) (noHash : NoHash front)
    (shown : state.printed = front ++ [hash]) (same : state.printed = state.consumed)
    (stepped : state.mainStep = some next) : Phase next := by
  cases here : state.pc <;> simp only [State.mainStep, here] at stepped
  case reading =>
      cases waiting : state.queue with
      | nil =>
          rw [waiting] at stepped
          cases stepped
          exact .found (.inr rfl) done front noHash shown same
      | cons byte rest =>
          rw [waiting] at stepped
          cases stepped
          refine .beyond (.inl rfl) done front noHash shown byte ?_
          change state.consumed ++ [byte] = front ++ hash :: [byte]
          rw [← same, shown, List.append_assoc]
          rfl
  case looping =>
      rw [done] at stepped
      cases stepped
      exact .found (.inr rfl) done front noHash shown same
  case incrementing | restoring =>
      cases stepped
      exact .found (.inr rfl) done front noHash shown same
  case exited | failed | restoreFailed | killed => cases stepped
  all_goals
    rw [here] at position
    rcases position with impossible | impossible <;> cases impossible

/-- Nothing is read any more behind the byte that was taken. -/
theorem beyond_main (position : state.pc = .checking ∨ state.pc.finishing = true)
    (done : state.done = true) {front : List Byte} (noHash : NoHash front)
    (shown : state.printed = front ++ [hash]) {byte : Byte}
    (taken : state.consumed = front ++ hash :: [byte]) (stepped : state.mainStep = some next) :
    Phase next := by
  cases here : state.pc <;> simp only [State.mainStep, here] at stepped
  case checking | looping =>
      rw [done] at stepped
      cases stepped
      exact .beyond (.inr rfl) done front noHash shown byte taken
  case incrementing | restoring =>
      cases stepped
      exact .beyond (.inr rfl) done front noHash shown byte taken
  case exited | failed | restoreFailed | killed => cases stepped
  all_goals
    rw [here] at position
    rcases position with impossible | impossible <;> cases impossible

theorem main_phase (phase : Phase state) (stepped : state.mainStep = some next) : Phase next := by
  rcases phase with ⟨position, undone, noHash, same⟩ | ⟨position, undone, noHash, held⟩ |
    ⟨position, -, front, noHash, shown, same⟩ | ⟨position, done, front, noHash, shown, same⟩ |
    ⟨position, done, front, noHash, shown, byte, taken⟩
  · exact searching_main position undone noHash same stepped
  · exact holding_main position undone noHash held stepped
  · exact comparing_main position front noHash shown same stepped
  · exact found_main position done front noHash shown same stepped
  · exact beyond_main position done noHash shown taken stepped

theorem Phase.move {pc : Pc} (phase : Phase state)
    (emptyHanded : state.pc ≠ .checking ∧ state.pc ≠ .printing ∧ state.pc ≠ .assigning)
    (scans : state.pc.scanning = true -> pc.scanning = true)
    (finishes : state.pc = .reading ∨ state.pc.finishing = true -> pc.finishing = true) :
    Phase (state.moveTo pc) := by
  rcases phase with ⟨position, undone, noHash, same⟩ | ⟨position, -, -, -⟩ | ⟨position, -, -, -⟩ |
    ⟨position, done, front, noHash, shown, same⟩ |
    ⟨position, done, front, noHash, shown, byte, taken⟩
  · exact .searching (scans position) undone noHash same
  · rcases position with checking | printing
    · exact absurd checking emptyHanded.1
    · exact absurd printing emptyHanded.2.1
  · exact absurd position emptyHanded.2.2
  · exact .found (.inr (finishes position)) done front noHash shown same
  · rcases position with checking | finishing
    · exact absurd checking emptyHanded.1
    · exact .beyond (.inr (finishes (.inr finishing))) done front noHash shown byte taken

theorem fail_phase {errno : Errno} (phase : Phase state)
    (stepped : state.fail dumpcore errno = some next) : Phase next := by
  cases here : state.pc <;> simp only [State.fail, here] at stepped <;> cases stepped
  all_goals
    apply phase.move
    · simp [here]
    · simp [here, Pc.scanning]
    · simp [here, Pc.finishing]

theorem endOfFile_phase (phase : Phase state) (stepped : state.endOfFile = some next) :
    Phase next := by
  unfold State.endOfFile at stepped
  split at stepped
  · rename_i here
    cases stepped
    apply phase.move
    · simp [here]
    · intro _
      rfl
    · intro _
      rfl
  · cases stepped

theorem raise_phase (phase : Phase state) (stepped : state.raise = some next) : Phase next := by
  unfold State.raise at stepped
  split at stepped
  · cases stepped
  · split at stepped
    · rename_i here
      cases stepped
      apply phase.move
      · simp [here]
      · intro _
        rfl
      · simp [here, Pc.finishing]
    · cases stepped
      exact phase.congr rfl rfl rfl rfl rfl

theorem step_phase (phase : Phase state) (stepped : state.step dumpcore action = some next) :
    Phase next := by
  cases action with
  | arrive bytes =>
      simp only [State.step, State.arrive] at stepped
      split at stepped
      · cases stepped
      · cases stepped
        exact phase.congr rfl rfl rfl rfl rfl
  | raise => exact raise_phase phase stepped
  | deliver =>
      simp only [State.step, State.deliver] at stepped
      split at stepped
      · cases stepped
        exact phase.congr rfl rfl rfl rfl rfl
      · cases stepped
  | main => exact main_phase phase stepped
  | fail errno => exact fail_phase phase stepped
  | endOfFile => exact endOfFile_phase phase stepped

/-! ## What a step takes from the terminal -/

/-- The terminal is left alone, it is given bytes, it is flushed, or the program reads
one byte. -/
theorem step_terminal (stepped : state.step dumpcore action = some next) :
    (next.consumed = state.consumed ∧ next.queue = state.queue ∧ next.arrived = state.arrived) ∨
    (Exists fun bytes => next.consumed = state.consumed ∧ next.queue = state.queue ++ bytes ∧
      next.arrived = state.arrived ++ bytes) ∨
    (next.consumed = state.consumed ∧ next.queue = [] ∧ next.arrived = state.consumed) ∨
    (action = .main ∧ state.pc = .reading ∧ Exists fun byte => Exists fun rest =>
      state.queue = byte :: rest ∧ next.consumed = state.consumed ++ [byte] ∧ next.queue = rest ∧
        next.arrived = state.arrived) := by
  cases action with
  | arrive bytes =>
      simp only [State.step, State.arrive] at stepped
      split at stepped
      · cases stepped
      · cases stepped
        exact .inr (.inl ⟨bytes, rfl, rfl, rfl⟩)
  | raise =>
      simp only [State.step, State.raise] at stepped
      split at stepped
      · cases stepped
      · split at stepped <;> cases stepped <;> exact .inl ⟨rfl, rfl, rfl⟩
  | deliver =>
      simp only [State.step, State.deliver] at stepped
      split at stepped
      · cases stepped
        exact .inl ⟨rfl, rfl, rfl⟩
      · cases stepped
  | main =>
      cases here : state.pc <;> simp only [State.step, State.mainStep, here] at stepped
      case reading =>
          cases waiting : state.queue with
          | nil =>
              rw [waiting] at stepped
              cases stepped
              exact .inl ⟨rfl, waiting, rfl⟩
          | cons byte rest =>
              rw [waiting] at stepped
              cases stepped
              exact .inr (.inr (.inr ⟨rfl, rfl, byte, rest, rfl, rfl, rfl, rfl⟩))
      case settingCbreak | restoring =>
          cases stepped
          exact .inr (.inr (.inl ⟨rfl, rfl, rfl⟩))
      all_goals
        cases stepped
        try exact .inl ⟨rfl, rfl, rfl⟩
  | fail errno =>
      cases here : state.pc <;> simp only [State.step, State.fail, here] at stepped <;> cases stepped
      all_goals exact .inl ⟨rfl, rfl, rfl⟩
  | endOfFile =>
      simp only [State.step, State.endOfFile] at stepped
      split at stepped
      · cases stepped
        exact .inl ⟨rfl, rfl, rfl⟩
      · cases stepped

/-- What was read is still what was read, unless this is the read of a byte. -/
theorem step_consumed (stepped : state.step dumpcore action = some next) :
    next.consumed = state.consumed ∨
    (action = .main ∧ state.pc = .reading ∧ Exists fun byte =>
      state.queue ≠ [] ∧ next.consumed = state.consumed ++ [byte]) := by
  rcases step_terminal stepped with ⟨same, -⟩ | ⟨-, same, -⟩ | ⟨same, -⟩ |
    ⟨main, here, byte, rest, waiting, taken, -⟩
  · exact .inl same
  · exact .inl same
  · exact .inl same
  · refine .inr ⟨main, here, byte, ?_, taken⟩
    rw [waiting]
    exact List.cons_ne_nil _ _

theorem step_preserves (holds : Invariant state) (stepped : state.step dumpcore action = some next) :
    Invariant next where
  flow := by
    rcases step_terminal stepped with ⟨consumed, queue, arrived⟩ |
      ⟨bytes, consumed, queue, arrived⟩ | ⟨consumed, queue, arrived⟩ |
      ⟨-, -, byte, rest, waiting, consumed, queue, arrived⟩
    · rw [consumed, queue, arrived, holds.flow]
    · rw [consumed, queue, arrived, ← List.append_assoc, holds.flow]
    · rw [consumed, queue, arrived, List.append_nil]
    · rw [consumed, queue, arrived, ← holds.flow, waiting, List.append_assoc]
      rfl
  phase := step_phase holds.phase stepped

theorem start_holds : Invariant start where
  flow := rfl
  phase := .searching rfl rfl (fun _ impossible => by cases impossible) rfl

/-! ## Reading beyond the hash -/

/-- Nothing was read beyond the first hash. -/
def Within (state : State) : Prop := afterFirst isHash state.consumed = []

theorem afterFirst_hash {front : List Byte} (noHash : NoHash front) (rest : List Byte) :
    afterFirst isHash (front ++ hash :: rest) = rest := by
  rw [afterFirst_append noHash]
  rfl

theorem afterFirst_last {front : List Byte} (noHash : NoHash front) (byte : Byte) :
    afterFirst isHash (front ++ [byte]) = [] := by
  rw [afterFirst_append noHash, afterFirst]
  split <;> rfl

/-- A program that is about to read has seen no hash, or has read nothing beyond it. -/
theorem Phase.of_reading (phase : Phase state) (here : state.pc = .reading) :
    (state.done = false ∧ NoHash state.consumed) ∨
    (state.done = true ∧ Exists fun front => NoHash front ∧ state.consumed = front ++ [hash]) := by
  rcases phase with ⟨-, undone, noHash, -⟩ | ⟨position, -, -, -⟩ | ⟨position, -, -, -⟩ |
    ⟨-, done, front, noHash, shown, same⟩ | ⟨position, -, -, -, -, -⟩
  · exact .inl ⟨undone, noHash⟩
  · rw [here] at position
    rcases position with impossible | impossible <;> cases impossible
  · rw [here] at position
    cases position
  · exact .inr ⟨done, front, noHash, same.symm.trans shown⟩
  · rw [here] at position
    rcases position with impossible | impossible <;> cases impossible

/-- The read that takes a byte goes beyond the hash exactly if the hash has been read. -/
theorem read_within_iff (phase : Phase state) (here : state.pc = .reading) {byte : Byte}
    (taken : next.consumed = state.consumed ++ [byte]) : Within next <-> state.done = false := by
  unfold Within
  rw [taken]
  rcases phase.of_reading here with ⟨undone, noHash⟩ | ⟨done, front, noHash, consumed⟩
  · exact iff_of_true (afterFirst_last noHash byte) undone
  · have beyond : afterFirst isHash (state.consumed ++ [byte]) = [byte] := by
      rw [consumed, List.append_assoc]
      exact afterFirst_hash noHash [byte]
    rw [beyond, done]
    exact iff_of_false (List.cons_ne_nil _ _) (fun impossible => by cases impossible)

/-- A program that has gone beyond the hash does not read again. -/
theorem not_reading_of_beyond (phase : Phase state) (gone : ¬ Within state) :
    state.pc ≠ .reading := by
  intro here
  apply gone
  unfold Within
  rcases phase.of_reading here with ⟨-, noHash⟩ | ⟨-, front, noHash, consumed⟩
  · exact afterFirst_eq_nil noHash
  · rw [consumed]
    exact afterFirst_last noHash hash

/-- A step goes beyond the hash exactly if it is a read behind it that finds a byte. -/
theorem step_within_iff (phase : Phase state) (within : Within state)
    (stepped : state.step dumpcore action = some next) :
    Within next <-> NothingBehindHash state action := by
  rcases step_consumed stepped with same | ⟨main, here, byte, waiting, taken⟩
  · have stays : Within next := by
      unfold Within
      rw [same]
      exact within
    refine iff_of_true stays ?_
    intro main here _
    by_contra waiting
    rcases List.exists_cons_of_ne_nil waiting with ⟨byte, rest, waiting⟩
    rw [main] at stepped
    simp only [State.step, State.mainStep, here, waiting] at stepped
    cases stepped
    exact List.cons_ne_nil _ _ (List.append_right_eq_self.mp same)
  · rw [read_within_iff phase here taken]
    constructor
    · intro undone _ _ done
      rw [undone] at done
      cases done
    · intro nothing
      by_contra done
      exact waiting (nothing main here (Bool.not_eq_false _ ▸ done))

/-- What lies beyond the hash stays read. -/
theorem beyond_stays (phase : Phase state) (gone : ¬ Within state)
    (stepped : state.step dumpcore action = some next) : ¬ Within next := by
  rcases step_consumed stepped with same | ⟨-, here, -⟩
  · unfold Within
    rw [same]
    exact gone
  · exact absurd here (not_reading_of_beyond phase gone)

/-- A reachable state has consumed its input to the hash exactly if it has not gone
beyond it. -/
theorem consumesToHash_iff_within (holds : Invariant state) :
    ConsumesToHash state <-> Within state := by
  refine ⟨fun consumes => consumes.notBeyond, ?_⟩
  intro within
  have received : state.consumed <+: state.arrived := ⟨state.queue, holds.flow⟩
  rcases holds.phase with ⟨position, -, -, same⟩ | ⟨position, -, -, held⟩ |
    ⟨position, -, -, -, -, same⟩ | ⟨-, -, front, -, shown, same⟩ |
    ⟨-, -, front, noHash, -, byte, taken⟩
  · refine ⟨received, same ▸ List.prefix_rfl, within, ?_⟩
    intro left
    rw [Pc.left_eq_false position] at left
    cases left
  · refine ⟨received, ⟨[state.ch], held.symm⟩, within, ?_⟩
    intro left
    rcases position with here | here <;> rw [here] at left <;> cases left
  · refine ⟨received, same ▸ List.prefix_rfl, within, ?_⟩
    intro left
    rw [position] at left
    cases left
  · refine ⟨received, same ▸ List.prefix_rfl, within, ?_⟩
    intro _
    refine ⟨same, ?_⟩
    rw [shown]
    exact List.getLast?_concat
  · unfold Within at within
    rw [taken, afterFirst_hash noHash] at within
    cases within

end

/-- At the end of a run, input has been consumed up to the first hash and no further
exactly if each read that was made once a hash had been read found no byte. -/
theorem consumesToHash_iff_nothing_behind {dumpcore : Option String} {actions : List Action}
    {final : State} (executed : (process dumpcore).exec start actions = some final) :
    ConsumesToHash final <-> (process dumpcore).Along NothingBehindHash start actions := by
  have preserved : forall state action next, Invariant state ->
      (process dumpcore).step state action = some next -> Invariant next :=
    fun _ _ _ holds stepped => step_preserves holds stepped
  have holds : Invariant final := by
    refine Machine.Reachable.invariant ?_ preserved (Machine.reachable_of_exec rfl executed)
    rintro state rfl
    exact start_holds
  rw [consumesToHash_iff_within holds]
  have within : Within start := rfl
  refine Machine.exec_live_iff_along_of_invariant preserved ?_ ?_ start_holds within executed
  · intro state action next holds within stepped
    exact step_within_iff holds.phase within stepped
  · intro state action next holds gone stepped
    exact beyond_stays holds.phase gone stepped

/-- The calls up to the main loop. -/
def setUp : List Action := [.main, .main, .main, .main, .main]

/-- A turn of the main loop up to its first read. -/
def turn : List Action := [.main, .main, .main, .main]

def readOne : List Action := [.main, .main, .main, .main]

/-- The last read, and the end of the main loop and of the program. -/
def wayOut : List Action := [.main, .main, .main, .main]

def alone : List Action := setUp ++ [.arrive [hash], .deliver] ++ turn ++ readOne ++ wayOut

def aloneFinal : State := ((process none).exec start alone).get (by decide +kernel)

/-- The run has consumed its input to the hash, and so the last read found nothing. -/
theorem consumesToHash_alone :
    (aloneFinal.pc = .exited ∧ aloneFinal.printed = [hash]) ∧ ConsumesToHash aloneFinal ∧
      (process none).Along NothingBehindHash start alone := by
  have ended : aloneFinal.pc = .exited ∧ aloneFinal.printed = [hash] ∧
      aloneFinal.consumed = [hash] ∧ aloneFinal.arrived = [hash] := by decide +kernel
  have consumes : ConsumesToHash aloneFinal :=
    { received := ended.2.2.1.trans ended.2.2.2.symm ▸ List.prefix_rfl
      echoed := ended.2.1.trans ended.2.2.1.symm ▸ List.prefix_rfl
      notBeyond := ended.2.2.1.symm ▸ rfl
      whole := fun _ => ⟨ended.2.1.trans ended.2.2.1.symm, ended.2.1.symm ▸ rfl⟩ }
  refine ⟨⟨ended.1, ended.2.1⟩, consumes, ?_⟩
  exact (consumesToHash_iff_nothing_behind (Option.some_get _).symm).mp consumes

/-- The hash comes together with another byte. -/
def together : List Action :=
  setUp ++ [.arrive [hash, 120], .deliver] ++ turn ++ readOne ++ [.main] ++ wayOut

def togetherFinal : State := ((process none).exec start together).get (by decide +kernel)

/-- The other byte is taken and not printed. -/
theorem byte_behind_hash_is_taken :
    togetherFinal.pc = .exited ∧ togetherFinal.consumed = [hash, 120] ∧
      togetherFinal.printed = [hash] ∧
      ¬ forall (state : State), (process none).Reachable state -> ConsumesToHash state := by
  have ended : togetherFinal.pc = .exited ∧ togetherFinal.consumed = [hash, 120] ∧
      togetherFinal.printed = [hash] := by decide +kernel
  refine ⟨ended.1, ended.2.1, ended.2.2, ?_⟩
  intro consumes
  have executed : (process none).exec start together = some togetherFinal :=
    (Option.some_get _).symm
  have beyond := (consumes togetherFinal (Machine.reachable_of_exec rfl executed)).notBeyond
  rw [ended.2.1] at beyond
  cases beyond

end DemoSigio
end IoAdvanced
end Tlpi
