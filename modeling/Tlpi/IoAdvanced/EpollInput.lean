import Mathlib.Data.PNat.Basic
import Tlpi.Foundations.Counting
import Tlpi.Foundations.Transition
import Tlpi.Lib.ErrorFunctions

namespace Tlpi
namespace IoAdvanced
namespace EpollInput

open CLibrary Foundations Lib

/-!
# Reading any number of inputs through `epoll`

The program opens its arguments, which are pipes or FIFOs, and adds each to the
interest list of an epoll instance.  It then serves at most `MAX_EVENTS` ready
descriptors a round: it reads from a descriptor that was reported with
`EPOLLIN`, and closes one that was reported only with `EPOLLHUP` or `EPOLLERR`.

The writers work independently of all this.  Each may write at any time until it
closes its side, which it does not open again.  While `epoll_wait` collects its
events, and between the collection of an event and the moment it is dealt with,
any number of writes and closes may happen.
-/

def MAX_BUF : Nat := 1000

def MAX_EVENTS : Nat := 5

/-- One input: what was ever written to it, what of that has not been read, and
the chunks that the program has read. -/
structure Input where
  written : List Byte
  unread : List Byte
  chunks : List (List Byte)
  writerClosed : Bool
  accounted : chunks.flatten ++ unread = written
deriving DecidableEq, Repr

namespace Input

/-- An input that nothing has been written to. -/
def fresh : Input where
  written := []
  unread := []
  chunks := []
  writerClosed := false
  accounted := rfl

def write (input : Input) (bytes : List Byte) : Input where
  written := input.written ++ bytes
  unread := input.unread ++ bytes
  chunks := input.chunks
  writerClosed := input.writerClosed
  accounted := by rw [← List.append_assoc, input.accounted]

def closeWriter (input : Input) : Input := { input with writerClosed := true }

/-- `read(fd, buf, count)` of what there is. -/
def read (input : Input) (count : Nat) : Input where
  written := input.written
  unread := input.unread.drop count
  chunks := input.chunks ++ [input.unread.take count]
  writerClosed := input.writerClosed
  accounted := by
    rw [List.flatten_append, List.flatten_singleton, List.append_assoc, List.take_append_drop,
      input.accounted]

end Input

/-- What has become of an argument of the program. -/
inductive Status where
  | unopened
  | opened
  | monitored
  | closed
deriving DecidableEq, Repr

/-- `struct epoll_event` as `epoll_wait` fills it in. -/
structure Event (numFiles : Nat) where
  fd : Fin numFiles
  EPOLLIN : Bool
  EPOLLHUP : Bool
  EPOLLERR : Bool
deriving DecidableEq, Repr

inductive Ending where
  | success
  | failure (failure : Failure)
deriving DecidableEq, Repr

/-- The positions of the program.  In `epoll_wait` the kernel collects events;
afterwards the position holds the events still to be dealt with. -/
inductive Pc (numFiles : Nat) where
  | creating
  | opening (j : Nat)
  | adding (j : Fin numFiles)
  | testing
  | collecting (evlist : List (Event numFiles))
  | handling (evlist : List (Event numFiles))
  | decrementing (evlist : List (Event numFiles))
  | leftLoop
  | ended (ending : Ending)
deriving DecidableEq, Repr

/-- The inputs, the descriptors and the program.  `closeCalls` counts the
successful calls of `close` on each descriptor; the program does not hold it. -/
structure State (numFiles : Nat) where
  input : Fin numFiles -> Input
  status : Fin numFiles -> Status
  closeCalls : Fin numFiles -> Nat
  pc : Pc numFiles
  numOpenFds : Int

/-- A writer writes or closes, the kernel adds an event to those it will return,
the program makes its next call, `epoll_wait` is interrupted, or a call fails.
A `read` moves no more than the given number of bytes. -/
inductive Action (numFiles : Nat) where
  | write (idx : Fin numFiles) (bytes : List Byte)
  | closeWriter (idx : Fin numFiles)
  | collect (idx : Fin numFiles)
  | call (limit : PNat)
  | interrupt
  | fail (errno : Errno)
deriving DecidableEq, Repr

variable {numFiles : Nat}

/-- The program before its first call.  `numOpenFds` has no value yet. -/
def start (numFiles : Nat) : State numFiles where
  input := fun _ => Input.fresh
  status := fun _ => .unopened
  closeCalls := fun _ => 0
  pc := .creating
  numOpenFds := 0

namespace State

def moveTo (state : State numFiles) (pc : Pc numFiles) : State numFiles := { state with pc := pc }

def setInput (state : State numFiles) (idx : Fin numFiles) (input : Input) : State numFiles :=
  { state with input := Function.update state.input idx input }

def setStatus (state : State numFiles) (idx : Fin numFiles) (status : Status) : State numFiles :=
  { state with status := Function.update state.status idx status }

def closeFd (state : State numFiles) (idx : Fin numFiles) : State numFiles :=
  { state.setStatus idx .closed with
    closeCalls := Function.update state.closeCalls idx (state.closeCalls idx + 1) }

/-- A write is possible until the writer has closed. -/
def writeStep (state : State numFiles) (idx : Fin numFiles) (bytes : List Byte) :
    Option (State numFiles) :=
  if (state.input idx).writerClosed then none
  else some (state.setInput idx ((state.input idx).write bytes))

def closeWriterStep (state : State numFiles) (idx : Fin numFiles) : Option (State numFiles) :=
  some (state.setInput idx (state.input idx).closeWriter)

/-- The events that the kernel reports for a descriptor at this moment. -/
def poll (state : State numFiles) (idx : Fin numFiles) : Event numFiles where
  fd := idx
  EPOLLIN := !(state.input idx).unread.isEmpty
  EPOLLHUP := (state.input idx).writerClosed
  EPOLLERR := false

/-- The kernel adds a ready descriptor of the interest list, which is not among
those that it has collected already, while there is room in `evlist`. -/
def collect (state : State numFiles) (idx : Fin numFiles) : Option (State numFiles) :=
  match state.pc with
  | .collecting evlist =>
      if state.status idx = .monitored ∧ ((state.poll idx).EPOLLIN ∨ (state.poll idx).EPOLLHUP) ∧
          idx ∉ evlist.map Event.fd ∧ evlist.length < MAX_EVENTS then
        some (state.moveTo (.collecting (evlist ++ [state.poll idx])))
      else none
  | _ => none

/-- The next call of the program.  `epoll_wait` returns once it has an event, and
`read` blocks on a descriptor that has neither data nor end of file. -/
def callStep (state : State numFiles) (limit : PNat) : Option (State numFiles) :=
  match state.pc with
  | .creating => some (state.moveTo (.opening 0))
  | .opening j =>
      if within : j < numFiles then
        some ((state.setStatus ⟨j, within⟩ .opened).moveTo (.adding ⟨j, within⟩))
      else some ({ state with numOpenFds := numFiles }.moveTo .testing)
  | .adding j => some ((state.setStatus j .monitored).moveTo (.opening (j.val + 1)))
  | .testing => some (state.moveTo (if state.numOpenFds > 0 then .collecting [] else .leftLoop))
  | .collecting [] => none
  | .collecting evlist => some (state.moveTo (.handling evlist))
  | .handling [] => some (state.moveTo .testing)
  | .handling (event :: rest) =>
      if event.EPOLLIN then
        if (state.input event.fd).unread = [] ∧ (state.input event.fd).writerClosed = false then none
        else
          some ((state.setInput event.fd
            ((state.input event.fd).read (min limit MAX_BUF))).moveTo (.handling rest))
      else if event.EPOLLHUP || event.EPOLLERR then
        some ((state.closeFd event.fd).moveTo (.decrementing rest))
      else some (state.moveTo (.handling rest))
  | .decrementing rest =>
      some ({ state with numOpenFds := state.numOpenFds - 1 }.moveTo (.handling rest))
  | .leftLoop => some (state.moveTo (.ended .success))
  | .ended _ => none

/-- `epoll_wait` fails with `EINTR`. -/
def interrupt (state : State numFiles) : Option (State numFiles) :=
  match state.pc with
  | .collecting [] => some (state.moveTo .testing)
  | _ => none

/-- A call fails with another error, which ends the process. -/
def fail (dumpcore : Option String) (state : State numFiles) (errno : Errno) :
    Option (State numFiles) :=
  let ending (call : String) := some (state.moveTo (.ended (.failure (errExit dumpcore errno call))))
  match state.pc with
  | .creating => ending "epoll_create"
  | .opening j => if j < numFiles then ending "open" else none
  | .adding _ => ending "epoll_ctl"
  | .collecting [] => if errno = .EINTR then none else ending "epoll_wait"
  | .handling (event :: _) =>
      if event.EPOLLIN then ending "read"
      else if event.EPOLLHUP || event.EPOLLERR then ending "close"
      else none
  | _ => none

def step (dumpcore : Option String) (state : State numFiles) :
    Action numFiles -> Option (State numFiles)
  | .write idx bytes => state.writeStep idx bytes
  | .closeWriter idx => state.closeWriterStep idx
  | .collect idx => state.collect idx
  | .call limit => state.callStep limit
  | .interrupt => state.interrupt
  | .fail errno => state.fail dumpcore errno

end State

/-- The program with a given number of arguments, and its writers. -/
def process (dumpcore : Option String) (numFiles : Nat) :
    Machine (State numFiles) (Action numFiles) where
  Initial := fun state => state = start numFiles
  step := State.step dumpcore

/-! ## What holds throughout -/

namespace Pc

/-- The events that have been collected and not yet been dealt with. -/
def evlist : Pc numFiles -> List (Event numFiles)
  | .collecting evlist | .handling evlist | .decrementing evlist => evlist
  | _ => []

/-- All arguments have been opened and added, and the program has not ended. -/
def inLoop : Pc numFiles -> Bool
  | .testing | .collecting _ | .handling _ | .decrementing _ | .leftLoop => true
  | _ => false

/-- A descriptor has been closed and not yet been subtracted. -/
def owed : Pc numFiles -> Nat
  | .decrementing _ => 1
  | _ => 0

/-- The status of an argument while the program opens its arguments. -/
def setUp : Pc numFiles -> Fin numFiles -> Option Status
  | .creating, _ => some .unopened
  | .opening j, idx => some (if idx.val < j then .monitored else .unopened)
  | .adding j, idx =>
      some (if idx < j then .monitored else if idx = j then .opened else .unopened)
  | _, _ => none

end Pc

namespace State

/-- The number of monitored descriptors that are open. -/
def numMonitored (state : State numFiles) : Nat :=
  countWhere (fun status => status = Status.monitored) state.status

end State

/-- An event that has been collected still says the truth when it is dealt with:
there is something to read, or there is nothing and never will be. -/
structure Event.Current (event : Event numFiles) (status : Fin numFiles -> Status)
    (input : Fin numFiles -> Input) : Prop where
  monitored : status event.fd = .monitored
  readable : event.EPOLLIN = true -> (input event.fd).unread ≠ []
  exhausted : event.EPOLLIN = false ->
    (input event.fd).unread = [] ∧ (input event.fd).writerClosed = true ∧ event.EPOLLHUP = true

structure Invariant (state : State numFiles) : Prop where
  settingUp : forall idx status, state.pc.setUp idx = some status -> state.status idx = status
  looping : state.pc.inLoop = true ->
    forall idx, state.status idx = .monitored ∨ state.status idx = .closed
  counted : state.pc.inLoop = true -> state.numOpenFds = state.numMonitored + state.pc.owed
  left : state.pc = .leftLoop ∨ state.pc = .ended .success ->
    forall idx, state.status idx = .closed
  calls : forall idx, state.closeCalls idx = if state.status idx = .closed then 1 else 0
  exhausted : forall idx, state.status idx = .closed ->
    (state.input idx).unread = [] ∧ (state.input idx).writerClosed = true
  current : forall event, event ∈ state.pc.evlist -> event.Current state.status state.input
  distinct : (state.pc.evlist.map Event.fd).Nodup

theorem start_invariant : Invariant (start numFiles) where
  settingUp := by
    intro idx status expected
    exact Option.some.inj expected
  looping := by
    intro impossible
    cases impossible
  counted := by
    intro impossible
    cases impossible
  left := by
    rintro (impossible | impossible) <;> cases impossible
  calls _ := rfl
  exhausted := by
    intro idx impossible
    cases impossible
  current := by
    intro event impossible
    cases impossible
  distinct := List.nodup_nil

/-- A change to an input that keeps what is known of it: data reported by an event
stay until they are read, and after the writer has closed nothing is added. -/
theorem Invariant.setInput {state : State numFiles} (holds : Invariant state) (idx : Fin numFiles)
    (input : Input) (kept : idx ∈ state.pc.evlist.map Event.fd ->
      (state.input idx).unread ≠ [] -> input.unread ≠ [])
    (final : (state.input idx).unread = [] -> (state.input idx).writerClosed = true ->
      input.unread = [] ∧ input.writerClosed = true) : Invariant (state.setInput idx input) where
  settingUp := holds.settingUp
  looping := holds.looping
  counted := holds.counted
  left := holds.left
  calls := holds.calls
  distinct := holds.distinct
  exhausted := by
    intro other closed
    have before := holds.exhausted other closed
    by_cases same : other = idx
    · subst same
      simpa [State.setInput] using final before.1 before.2
    · simpa [State.setInput, same] using before
  current := by
    intro event member
    have before := holds.current event member
    by_cases same : event.fd = idx
    · subst same
      refine ⟨before.monitored, ?_, ?_⟩
      · intro readable
        have reported : event.fd ∈ state.pc.evlist.map Event.fd := List.mem_map_of_mem member
        simpa [State.setInput] using kept reported (before.readable readable)
      · intro unreadable
        rcases before.exhausted unreadable with ⟨empty, closed, hup⟩
        have after := final empty closed
        simpa [State.setInput, hup] using after
    · refine ⟨before.monitored, ?_, ?_⟩
      · simpa [State.setInput, same] using before.readable
      · simpa [State.setInput, same] using before.exhausted

theorem write_preserves {state next : State numFiles} {idx : Fin numFiles} {bytes : List Byte}
    (holds : Invariant state) (stepped : state.writeStep idx bytes = some next) :
    Invariant next := by
  unfold State.writeStep at stepped
  split at stepped
  · cases stepped
  · rename_i writing
    cases stepped
    apply holds.setInput
    · intro _ nonempty
      simp [Input.write, nonempty]
    · intro _ closed
      exact absurd closed writing

theorem closeWriter_preserves {state next : State numFiles} {idx : Fin numFiles}
    (holds : Invariant state) (stepped : state.closeWriterStep idx = some next) :
    Invariant next := by
  cases stepped
  apply holds.setInput
  · intro _ nonempty
    exact nonempty
  · intro empty _
    exact ⟨empty, rfl⟩

theorem Pc.setUp_eq_none {pc : Pc numFiles} (inLoop : pc.inLoop = true) (idx : Fin numFiles) :
    pc.setUp idx = none := by
  cases pc <;> first | rfl | cases inLoop

theorem Pc.evlist_eq_nil {pc : Pc numFiles} (notInLoop : pc.inLoop = false) : pc.evlist = [] := by
  cases pc <;> first | rfl | cases notInLoop

/-- A move within the loop, with some of the events dealt with. -/
theorem Invariant.moveInLoop {state : State numFiles} (holds : Invariant state)
    (looping : state.pc.inLoop = true) {pc : Pc numFiles} (inLoop : pc.inLoop = true)
    (notLeft : pc ≠ .leftLoop) (owed : pc.owed = state.pc.owed)
    (events : pc.evlist.Sublist state.pc.evlist) : Invariant (state.moveTo pc) where
  settingUp := by
    intro idx status expected
    simp only [State.moveTo, Pc.setUp_eq_none inLoop] at expected
    cases expected
  looping _ := holds.looping looping
  counted := by
    intro _
    simp only [State.moveTo, owed]
    exact holds.counted looping
  left := by
    rintro (impossible | impossible)
    · exact absurd impossible notLeft
    · simp only [State.moveTo] at impossible
      rw [impossible] at inLoop
      cases inLoop
  calls := holds.calls
  exhausted := holds.exhausted
  current event member := holds.current event (events.subset member)
  distinct := (events.map Event.fd).nodup holds.distinct

theorem Invariant.fail {state : State numFiles} (holds : Invariant state) (failure : Failure) :
    Invariant (state.moveTo (.ended (.failure failure))) where
  settingUp _ _ impossible := by cases impossible
  looping impossible := by cases impossible
  counted impossible := by cases impossible
  left := by rintro (impossible | impossible) <;> cases impossible
  calls := holds.calls
  exhausted := holds.exhausted
  current _ impossible := by cases impossible
  distinct := List.nodup_nil

/-- What the kernel reports is true at that moment. -/
theorem State.current_poll {state : State numFiles} {idx : Fin numFiles}
    (monitored : state.status idx = .monitored)
    (ready : (state.poll idx).EPOLLIN ∨ (state.poll idx).EPOLLHUP) :
    (state.poll idx).Current state.status state.input where
  monitored := monitored
  readable := by simp [State.poll]
  exhausted := by
    intro unreadable
    rw [unreadable] at ready
    have closed : (state.input idx).writerClosed = true := by simpa [State.poll] using ready
    exact ⟨by simpa [State.poll] using unreadable, closed, closed⟩

theorem collect_preserves {state next : State numFiles} {idx : Fin numFiles}
    (holds : Invariant state) (stepped : state.collect idx = some next) : Invariant next := by
  unfold State.collect at stepped
  split at stepped
  · rename_i evlist position
    split at stepped
    · rename_i accepted
      rcases accepted with ⟨monitored, ready, fresh, -⟩
      cases stepped
      have looping := holds.looping (by rw [position]; rfl)
      have counted := holds.counted (by rw [position]; rfl)
      have current := holds.current
      have distinct := holds.distinct
      rw [position] at counted current distinct
      refine
        { settingUp := fun _ _ impossible => by cases impossible
          looping := fun _ => looping
          counted := fun _ => counted
          left := by rintro (impossible | impossible) <;> cases impossible
          calls := holds.calls
          exhausted := holds.exhausted
          current := ?_
          distinct := ?_ }
      · intro event member
        rcases List.mem_append.mp member with earlier | new
        · exact current event earlier
        · rw [List.mem_singleton.mp new]
          exact State.current_poll monitored ready
      · simp only [State.moveTo, Pc.evlist, List.map_append, List.map_singleton]
        apply distinct.append (List.nodup_singleton _)
        rw [List.disjoint_singleton]
        exact fresh
    · cases stepped
  · cases stepped

theorem interrupt_preserves {state next : State numFiles} (holds : Invariant state)
    (stepped : state.interrupt = some next) : Invariant next := by
  unfold State.interrupt at stepped
  split at stepped
  · rename_i position
    cases stepped
    apply holds.moveInLoop <;> simp [position, Pc.inLoop, Pc.owed, Pc.evlist]
  · cases stepped

theorem fail_preserves {dumpcore : Option String} {state next : State numFiles} {errno : Errno}
    (holds : Invariant state) (stepped : state.fail dumpcore errno = some next) :
    Invariant next := by
  unfold State.fail at stepped
  split at stepped
  case h_1 =>
      cases stepped
      exact holds.fail _
  case h_2 =>
      split at stepped
      · cases stepped
        exact holds.fail _
      · cases stepped
  case h_3 =>
      cases stepped
      exact holds.fail _
  case h_4 =>
      split at stepped
      · cases stepped
      · cases stepped
        exact holds.fail _
  case h_5 =>
      split at stepped
      · cases stepped
        exact holds.fail _
      · split at stepped
        · cases stepped
          exact holds.fail _
        · cases stepped
  case h_6 => cases stepped

theorem Invariant.setUpStep {state next : State numFiles} (holds : Invariant state)
    (calls : next.closeCalls = state.closeCalls)
    (notClosed : forall idx, state.status idx ≠ .closed ∧ next.status idx ≠ .closed)
    (inLoop : next.pc.inLoop = false) (notEnded : next.pc ≠ .ended .success)
    (settingUp : forall idx status, next.pc.setUp idx = some status -> next.status idx = status) :
    Invariant next where
  settingUp := settingUp
  looping := by
    rw [inLoop]
    intro impossible
    cases impossible
  counted := by
    rw [inLoop]
    intro impossible
    cases impossible
  left := by
    rintro (left | ended)
    · rw [left] at inLoop
      cases inLoop
    · exact absurd ended notEnded
  calls := by
    intro idx
    rw [calls, holds.calls, if_neg (notClosed idx).1, if_neg (notClosed idx).2]
  exhausted idx closed := absurd closed (notClosed idx).2
  current := by
    intro event member
    rw [Pc.evlist_eq_nil inLoop] at member
    cases member
  distinct := by
    rw [Pc.evlist_eq_nil inLoop]
    exact List.nodup_nil

theorem opening_preserves {state : State numFiles} {j : Nat} (holds : Invariant state)
    (position : state.pc = .opening j) (within : j < numFiles) :
    Invariant ((state.setStatus ⟨j, within⟩ .opened).moveTo (.adding ⟨j, within⟩)) := by
  have before : forall idx : Fin numFiles,
      state.status idx = if idx.val < j then .monitored else .unopened := by
    intro idx
    exact holds.settingUp idx _ (by rw [position]; rfl)
  refine holds.setUpStep rfl ?_ rfl (by simp [State.moveTo]) ?_
  · intro idx
    by_cases same : idx = ⟨j, within⟩
    · simp [State.moveTo, State.setStatus, before, same]
    · simp only [State.moveTo, State.setStatus, Function.update_of_ne same, before]
      split <;> simp
  · intro idx status expected
    cases expected
    by_cases same : idx = ⟨j, within⟩
    · simp [State.moveTo, State.setStatus, same]
    · simp [State.moveTo, State.setStatus, same, before, Fin.lt_def]

theorem adding_preserves {state : State numFiles} {j : Fin numFiles} (holds : Invariant state)
    (position : state.pc = .adding j) :
    Invariant ((state.setStatus j .monitored).moveTo (.opening (j.val + 1))) := by
  have before : forall idx : Fin numFiles,
      state.status idx = if idx < j then .monitored else if idx = j then .opened else .unopened := by
    intro idx
    exact holds.settingUp idx _ (by rw [position]; rfl)
  refine holds.setUpStep rfl ?_ rfl (by simp [State.moveTo]) ?_
  · intro idx
    by_cases same : idx = j
    · simp [State.moveTo, State.setStatus, before, same]
    · simp only [State.moveTo, State.setStatus, Function.update_of_ne same, before]
      split <;> simp
  · intro idx status expected
    cases expected
    by_cases same : idx = j
    · simp [State.moveTo, State.setStatus, same]
    · have order : idx < j <-> idx.val < j.val + 1 := by
        have different : idx.val ≠ j.val := fun equal => same (Fin.ext equal)
        omega
      simp [State.moveTo, State.setStatus, same, before, order]

/-- All arguments are open when the loop begins. -/
theorem opened_preserves {state : State numFiles} {j : Nat} (holds : Invariant state)
    (position : state.pc = .opening j) (done : ¬ j < numFiles) :
    Invariant ({ state with numOpenFds := numFiles }.moveTo .testing) := by
  have monitored : forall idx, state.status idx = .monitored := by
    intro idx
    have before := holds.settingUp idx _ (by rw [position]; rfl)
    rwa [if_pos (by omega)] at before
  have count : countWhere (fun status => status = Status.monitored) state.status = numFiles := by
    rw [countWhere_eq_card monitored, Fintype.card_fin]
  exact
    { settingUp := fun _ _ impossible => by cases impossible
      looping := fun _ idx => .inl (monitored idx)
      counted := fun _ => by simp [State.moveTo, State.numMonitored, Pc.owed, count]
      left := by rintro (impossible | impossible) <;> cases impossible
      calls := holds.calls
      exhausted := holds.exhausted
      current := fun _ impossible => by cases impossible
      distinct := List.nodup_nil }

/-- The loop ends when no descriptor is open any more. -/
theorem leaving_preserves {state : State numFiles} (holds : Invariant state)
    (position : state.pc = .testing) (done : ¬ state.numOpenFds > 0) :
    Invariant (state.moveTo .leftLoop) := by
  have looping := holds.looping (by rw [position]; rfl)
  have counted := holds.counted (by rw [position]; rfl)
  rw [position] at counted
  have none : state.numMonitored = 0 := by
    simp only [Pc.owed] at counted
    omega
  refine
    { settingUp := fun _ _ impossible => by cases impossible
      looping := fun _ => looping
      counted := fun _ => counted
      left := ?_
      calls := holds.calls
      exhausted := holds.exhausted
      current := fun _ impossible => by cases impossible
      distinct := List.nodup_nil }
  intro _ idx
  exact (looping idx).resolve_left (countWhere_eq_zero_iff.mp none idx)

section

variable {state : State numFiles} {event : Event numFiles} {rest : List (Event numFiles)}

/-- The events behind the first one are about other descriptors. -/
theorem Invariant.not_mem_rest (holds : Invariant state)
    (position : state.pc = .handling (event :: rest)) : event.fd ∉ rest.map Event.fd := by
  have distinct := holds.distinct
  rw [position] at distinct
  exact (List.nodup_cons.mp distinct).1

theorem Invariant.skip (holds : Invariant state)
    (position : state.pc = .handling (event :: rest)) :
    Invariant (state.moveTo (.handling rest)) := by
  apply holds.moveInLoop <;> simp [position, Pc.inLoop, Pc.owed, Pc.evlist]

theorem read_preserves (holds : Invariant state) (position : state.pc = .handling (event :: rest))
    (count : Nat) :
    Invariant ((state.setInput event.fd ((state.input event.fd).read count)).moveTo
      (.handling rest)) := by
  apply (holds.skip position).setInput
  · intro reported
    exact absurd reported (holds.not_mem_rest position)
  · intro empty closed
    have before : (state.input event.fd).unread = [] := empty
    exact ⟨by simp [Input.read, before], closed⟩

theorem close_preserves (holds : Invariant state) (position : state.pc = .handling (event :: rest))
    (unreadable : event.EPOLLIN = false) :
    Invariant ((state.closeFd event.fd).moveTo (.decrementing rest)) := by
  have inLoop : state.pc.inLoop = true := by rw [position]; rfl
  have here : event.Current state.status state.input :=
    holds.current event (by rw [position]; exact List.mem_cons_self)
  have count : countWhere (fun status => status = Status.monitored)
      (Function.update state.status event.fd Status.closed) + 1 = state.numMonitored :=
    countWhere_update_loss here.monitored (by simp)
  refine
    { settingUp := fun _ _ impossible => by cases impossible
      looping := ?_
      counted := ?_
      left := by rintro (impossible | impossible) <;> cases impossible
      calls := ?_
      exhausted := ?_
      current := ?_
      distinct := (holds.skip position).distinct }
  · intro _ idx
    by_cases same : idx = event.fd
    · simp [State.moveTo, State.closeFd, State.setStatus, same]
    · simpa [State.moveTo, State.closeFd, State.setStatus, same] using holds.looping inLoop idx
  · intro _
    have counted := holds.counted inLoop
    rw [position] at counted
    simp only [State.moveTo, State.closeFd, State.setStatus, State.numMonitored, Pc.owed] at counted ⊢
    simp only [State.numMonitored] at count
    omega
  · intro idx
    by_cases same : idx = event.fd
    · subst same
      simp [State.moveTo, State.closeFd, State.setStatus, holds.calls, here.monitored]
    · simpa [State.moveTo, State.closeFd, State.setStatus, same] using holds.calls idx
  · intro idx closed
    by_cases same : idx = event.fd
    · subst same
      have final := here.exhausted unreadable
      exact ⟨final.1, final.2.1⟩
    · apply holds.exhausted idx
      simpa [State.moveTo, State.closeFd, State.setStatus, same] using closed
  · intro other member
    have current := (holds.skip position).current other member
    have different : other.fd ≠ event.fd := by
      intro same
      apply holds.not_mem_rest position
      rw [← same]
      exact List.mem_map_of_mem member
    refine ⟨?_, current.readable, current.exhausted⟩
    simpa [State.moveTo, State.closeFd, State.setStatus, different] using current.monitored

theorem decrement_preserves (holds : Invariant state) (position : state.pc = .decrementing rest) :
    Invariant ({ state with numOpenFds := state.numOpenFds - 1 }.moveTo (.handling rest)) := by
  have inLoop : state.pc.inLoop = true := by rw [position]; rfl
  have counted := holds.counted inLoop
  have current := holds.current
  have distinct := holds.distinct
  rw [position] at counted current distinct
  refine
    { settingUp := fun _ _ impossible => by cases impossible
      looping := fun _ => holds.looping inLoop
      counted := ?_
      left := by rintro (impossible | impossible) <;> cases impossible
      calls := holds.calls
      exhausted := holds.exhausted
      current := current
      distinct := distinct }
  intro _
  simp only [State.moveTo, State.numMonitored, Pc.owed] at counted ⊢
  omega

end

theorem call_preserves {state next : State numFiles} {limit : PNat} (holds : Invariant state)
    (stepped : state.callStep limit = some next) : Invariant next := by
  unfold State.callStep at stepped
  split at stepped
  · rename_i position
    cases stepped
    have before : forall idx, state.status idx = .unopened := by
      intro idx
      exact holds.settingUp idx _ (by rw [position]; rfl)
    refine holds.setUpStep rfl ?_ rfl (by simp [State.moveTo]) ?_
    · intro idx
      simp [State.moveTo, before]
    · intro idx status expected
      cases expected
      simp [State.moveTo, before]
  · rename_i j position
    split at stepped
    · cases stepped
      exact opening_preserves holds position _
    · cases stepped
      exact opened_preserves holds position ‹_›
  · rename_i j position
    cases stepped
    exact adding_preserves holds position
  · rename_i position
    cases stepped
    split
    · apply holds.moveInLoop <;> simp [position, Pc.inLoop, Pc.owed, Pc.evlist]
    · exact leaving_preserves holds position ‹_›
  · cases stepped
  · rename_i evlist _ position
    cases stepped
    apply holds.moveInLoop <;> simp [position, Pc.inLoop, Pc.owed, Pc.evlist]
  · rename_i position
    cases stepped
    apply holds.moveInLoop <;> simp [position, Pc.inLoop, Pc.owed, Pc.evlist]
  · rename_i event rest position
    split at stepped
    · split at stepped
      · cases stepped
      · cases stepped
        exact read_preserves holds position _
    · split at stepped
      · cases stepped
        exact close_preserves holds position (Bool.eq_false_iff.mpr ‹_›)
      · cases stepped
        exact holds.skip position
  · rename_i rest position
    cases stepped
    exact decrement_preserves holds position
  · rename_i position
    cases stepped
    exact
      { settingUp := fun _ _ impossible => by cases impossible
        looping := fun impossible => by cases impossible
        counted := fun impossible => by cases impossible
        left := fun _ => holds.left (.inl position)
        calls := holds.calls
        exhausted := holds.exhausted
        current := fun _ impossible => by cases impossible
        distinct := List.nodup_nil }
  · cases stepped

theorem reachable_invariant {dumpcore : Option String} {state : State numFiles}
    (reachable : (process dumpcore numFiles).Reachable state) : Invariant state := by
  refine Machine.Reachable.invariant ?_ ?_ reachable
  · intro state initial
    cases initial
    exact start_invariant
  · intro state action next holds stepped
    cases action with
    | write idx bytes => exact write_preserves holds stepped
    | closeWriter idx => exact closeWriter_preserves holds stepped
    | collect idx => exact collect_preserves holds stepped
    | call limit => exact call_preserves holds stepped
    | interrupt => exact interrupt_preserves holds stepped
    | fail errno => exact fail_preserves holds stepped

/-- A closed descriptor has been read to its end. -/
theorem Invariant.flatten_chunks {state : State numFiles} (holds : Invariant state)
    {idx : Fin numFiles} (closed : state.status idx = .closed) :
    (state.input idx).chunks.flatten = (state.input idx).written := by
  have accounted := (state.input idx).accounted
  rwa [(holds.exhausted idx closed).1, List.append_nil] at accounted

/-- No input is lost.  `numOpenFds` is right at every test of the loop.  A
descriptor is closed at most once and, from then on, all that was ever written to
it has been read.  When the program ends normally, it has read from each input
what was written to it, in order. -/
theorem input_not_lost (dumpcore : Option String) {state : State numFiles}
    (reachable : (process dumpcore numFiles).Reachable state) :
    (state.pc = .testing -> state.numOpenFds = state.numMonitored) ∧
    (forall idx, state.closeCalls idx ≤ 1 ∧
      (state.closeCalls idx = 1 ->
        (state.input idx).chunks.flatten = (state.input idx).written)) ∧
    (state.pc = .ended .success -> forall idx,
      (state.input idx).chunks.flatten = (state.input idx).written) := by
  have holds := reachable_invariant reachable
  refine ⟨?_, ?_, ?_⟩
  · intro position
    have counted := holds.counted (by rw [position]; rfl)
    rw [position] at counted
    simpa [Pc.owed] using counted
  · intro idx
    rw [holds.calls]
    split
    · rename_i closed
      exact ⟨Nat.le_refl 1, fun _ => holds.flatten_chunks closed⟩
    · exact ⟨Nat.zero_le 1, fun impossible => by cases impossible⟩
  · intro position idx
    exact holds.flatten_chunks (holds.left (.inr position) idx)

/-- Two writers.  The first writes and closes while its first event waits to be
dealt with; the second closes without having written anything. -/
def twoWriters : List (Action 2) :=
  let first : Fin 2 := ⟨0, Nat.two_pos⟩
  let second : Fin 2 := ⟨1, Nat.one_lt_two⟩
  let call : Action 2 := .call ⟨1, Nat.one_pos⟩
  List.flatten
    [List.replicate 7 call,
      [.interrupt, call, .write first [104, 105], .collect first, .closeWriter second,
        .collect second, .write first [106], call, .call ⟨2, Nat.two_pos⟩, .closeWriter first],
      List.replicate 4 call, [.collect first], List.replicate 4 call, [.collect first],
      List.replicate 6 call]

def twoWritersState : State 2 :=
  ((process none 2).exec (start 2) twoWriters).get (by decide +kernel)

theorem input_not_lost_two_writers :
    twoWritersState.pc = .ended .success ∧
      (twoWritersState.input 0).chunks = [[104, 105], [106]] ∧
      (twoWritersState.input 0).chunks.flatten = (twoWritersState.input 0).written := by
  have executed : (process none 2).exec (start 2) twoWriters = some twoWritersState :=
    (Option.some_get _).symm
  have reachable : (process none 2).Reachable twoWritersState :=
    Machine.reachable_of_exec rfl executed
  have ended : twoWritersState.pc = .ended .success := by decide +kernel
  exact ⟨ended, by decide +kernel, (input_not_lost none reachable).2.2 ended 0⟩

end EpollInput
end IoAdvanced
end Tlpi
