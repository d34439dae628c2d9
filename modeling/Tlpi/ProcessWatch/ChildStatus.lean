import Tlpi.Foundations.Transition
import Tlpi.Lib.PrintWaitStatus
import Tlpi.Lib.ProgramEnd

namespace Tlpi
namespace ProcessWatch
namespace ChildStatus

open CLibrary Foundations Lib

/-!
# Waiting for everything that happens to a child

A child exits with the status that the command line gives, or waits for signals, which
may stop it, continue it and kill it.  The parent waits with `WUNTRACED` and
`WCONTINUED`, prints each status that it gets, and leaves when the child has terminated.

The kernel keeps one change for the parent to collect: a change that has not been
collected when the next one happens is lost.  The parent may therefore miss stops and
continuations, but never the end, and it never mistakes one change for another.
-/

/-- The child, as the kernel sees it. -/
inductive Life where
  | absent
  | running
  | stopped
  | zombie
  | reaped
deriving DecidableEq, Repr

/-- The positions of the parent, each named after what it does next. -/
inductive ParentPc where
  | starting
  | forking
  | waiting
  | printing (status : BitVec 32)
  | deciding (status : BitVec 32)
  | ended (result : ProgramEnd)
deriving DecidableEq, Repr

/-- How the program is started; `childPid` is the process ID that the child gets, and
`strsignal` describes the signals. -/
structure Setup where
  program : List Byte
  argument : Option (List Byte)
  dumpcore : Option String
  childPid : Int
  strsignal : Nat -> List Byte

/-- The parent, with what it has written, and the child with the change that has not been
collected.  `history` is everything that has happened to the child, and `collected` what
the parent has got to know of it. -/
structure State where
  parent : ParentPc
  output : List Byte
  life : Life
  report : Option StatusChange
  history : List StatusChange
  collected : List StatusChange

inductive Outcome where
  | succeeds
  | fails (errno : Errno)
deriving DecidableEq, Repr

/-- A step of the parent, the exit of the child, or a signal that arrives at the child. -/
inductive Action where
  | parent (outcome : Outcome)
  | childExits
  | kill (signal : SignalNumber) (core : Bool)
  | stop (signal : SignalNumber)
  | resume
deriving DecidableEq, Repr

/-- The status that the child exits with: `exit` keeps the low byte of the number, and
`getInt` ends the child itself when it refuses the argument. -/
def exitStatus (argument : List Byte) : Byte :=
  match getInt (some argument) 0 (some "exit-status") with
  | .ok value => UInt8.ofNat (value % 256).toNat
  | .error _ => 1

/-- The text of `%04x`. -/
def renderHex4 (value : Nat) : List Byte :=
  List.replicate (4 - (renderHex value).length) 48 ++ renderHex value

/-- What the parent prints of a status. -/
def statusText (setup : Setup) (status : BitVec 32) : List Byte :=
  ascii "waitpid() returned: PID=" ++ renderInt setup.childPid ++ ascii "; status=0x" ++
    renderHex4 status.toNat ++ ascii " (" ++ renderInt (status.sshiftRight 8).toInt ++ ascii "," ++
    renderInt (status &&& 0xff#32).toInt ++ ascii ")" ++ [newline] ++
    printWaitStatus setup.strsignal none status

def State.change (state : State) (life : Life) (change : StatusChange) : State :=
  { state with life := life, report := some change, history := state.history ++ [change] }

/-- `waitpid(-1, &status, WUNTRACED | WCONTINUED)`, if it does not block. -/
def State.wait (setup : Setup) (state : State) : Option State :=
  match state.report with
  | some change =>
      some { state with
        parent := .printing change.waitStatus
        life := if state.life = .zombie then .reaped else state.life
        report := none
        collected := state.collected ++ [change] }
  | none =>
      match state.life with
      | .absent | .reaped =>
          some { state with parent := .ended (.failed (errExit setup.dumpcore .ECHILD "waitpid")) }
      | .running | .stopped | .zombie => none

def parentStep (setup : Setup) (state : State) (outcome : Outcome) : Option State :=
  match state.parent with
  | .starting =>
      if setup.argument = some (ascii "--help") then
        some { state with parent := .ended (usageErr (setup.program ++ ascii " [exit-status]")) }
      else some { state with parent := .forking }
  | .forking =>
      match outcome with
      | .succeeds => some { state with parent := .waiting, life := .running }
      | .fails errno => some { state with parent := .ended (.failed (errExit setup.dumpcore errno "fork")) }
  | .waiting =>
      match outcome with
      | .succeeds => state.wait setup
      | .fails errno =>
          some { state with parent := .ended (.failed (errExit setup.dumpcore errno "waitpid")) }
  | .printing status =>
      some { state with parent := .deciding status, output := state.output ++ statusText setup status }
  | .deciding status =>
      if WIFEXITED status || WIFSIGNALED status then some { state with parent := .ended .success }
      else some { state with parent := .waiting }
  | .ended _ => none

def step (setup : Setup) (state : State) : Action -> Option State
  | .parent outcome => parentStep setup state outcome
  | .childExits =>
      match state.life, setup.argument with
      | .running, some argument => some (state.change .zombie (.exited (exitStatus argument)))
      | _, _ => none
  | .kill signal core =>
      match state.life with
      | .running | .stopped => some (state.change .zombie (.killed signal core))
      | .absent | .zombie | .reaped => none
  | .stop signal =>
      match state.life with
      | .running => some (state.change .stopped (.stopped signal))
      | .absent | .stopped | .zombie | .reaped => none
  | .resume =>
      match state.life with
      | .stopped => some (state.change .running .continued)
      | .absent | .running | .zombie | .reaped => none

def start : State where
  parent := .starting
  output := []
  life := .absent
  report := none
  history := []
  collected := []

def machine (setup : Setup) : Machine State Action where
  Initial state := state = start
  step := step setup

/-!
## What the parent gets to know
-/

/-- The child has terminated with this change. -/
def Terminates : StatusChange -> Prop
  | .exited _ | .killed _ _ => True
  | .stopped _ | .continued => False

/-- The test that the parent makes. -/
theorem terminates_iff (change : StatusChange) :
    (WIFEXITED change.waitStatus || WIFSIGNALED change.waitStatus) = true <-> Terminates change := by
  rw [Bool.or_eq_true]
  cases change with
  | exited status => exact iff_of_true (Or.inl (waitStatus_exited status).1) trivial
  | killed signal core => exact iff_of_true (Or.inr (waitStatus_killed signal core).2.1) trivial
  | stopped signal =>
      rcases waitStatus_stopped signal with ⟨notExited, notKilled, _⟩
      rw [notExited, notKilled]
      exact iff_of_false (by decide) id
  | continued =>
      rcases waitStatus_continued with ⟨notExited, notKilled, _⟩
      rw [notExited, notKilled]
      exact iff_of_false (by decide) id

/-- The child has come to its end. -/
def Life.Over : Life -> Prop
  | .zombie | .reaped => True
  | .absent | .running | .stopped => False

/-- What has happened last is the end of the child, or nothing that has happened is. -/
def Recorded (life : Life) (history : List StatusChange) : Prop :=
  (life.Over -> Exists fun earlier => Exists fun last => history = earlier ++ [last] ∧
    Terminates last ∧ forall change, change ∈ earlier -> ¬ Terminates change) ∧
  (¬ life.Over -> forall change, change ∈ history -> ¬ Terminates change)

/-- The parent has collected a change last, and has not yet looked at what it is. -/
structure Collects (state : State) (status : BitVec 32) (earlier : List StatusChange)
    (change : StatusChange) : Prop where
  collected : state.collected = earlier ++ [change]
  status : status = change.waitStatus
  before : forall other, other ∈ earlier -> ¬ Terminates other
  gone : Terminates change <-> state.life = .reaped
  present : state.life ≠ .absent

/-- What the parent writes of several changes. -/
def report (setup : Setup) (changes : List StatusChange) : List Byte :=
  changes.flatMap (fun change => statusText setup change.waitStatus)

/-- What is known while the parent is at a position. -/
def ParentKnown (setup : Setup) (state : State) : Prop :=
  match state.parent with
  | .starting | .forking => state.life = .absent ∧ state.collected = [] ∧ state.output = []
  | .waiting =>
      state.life ≠ .absent ∧ state.life ≠ .reaped ∧
        (forall change, change ∈ state.collected -> ¬ Terminates change) ∧
        state.output = report setup state.collected
  | .printing status =>
      Exists fun earlier => Exists fun change => Collects state status earlier change ∧
        state.output = report setup earlier
  | .deciding status =>
      Exists fun earlier => Exists fun change => Collects state status earlier change ∧
        state.output = report setup state.collected
  | .ended .success =>
      state.life = .reaped ∧ state.output = report setup state.collected ∧
        Exists fun earlier => Exists fun change => state.collected = earlier ++ [change] ∧
          Terminates change
  | .ended _ => True

structure Invariant (setup : Setup) (state : State) : Prop where
  absent : state.life = .absent -> state.report = none
  zombie : state.life = .zombie -> state.report ≠ none
  reaped : state.life = .reaped -> state.report = none
  sublist : (state.collected ++ state.report.toList).Sublist state.history
  last : (state.collected ++ state.report.toList).getLast? = state.history.getLast?
  recorded : Recorded state.life state.history
  exits : forall status, StatusChange.exited status ∈ state.history ->
    Exists fun argument => setup.argument = some argument ∧ status = exitStatus argument
  parent : ParentKnown setup state

/-- A child that lives may be at one of two positions. -/
def Life.Alive (life : Life) : Prop := life = .running ∨ life = .stopped

theorem Life.Alive.not_over {life : Life} (alive : life.Alive) : ¬ life.Over := by
  rcases alive with running | stopped
  · rw [running]
    exact id
  · rw [stopped]
    exact id

theorem Life.Alive.ne {life other : Life} (alive : life.Alive)
    (different : other ≠ .running ∧ other ≠ .stopped) : life ≠ other := by
  intro same
  rw [same] at alive
  exact alive.elim different.1 different.2

/-- What the parent knows does not depend on what happens to a child that lives. -/
theorem ParentKnown.changes {setup : Setup} {state : State} (known : ParentKnown setup state)
    (alive : state.life.Alive) {life : Life} (stays : life ≠ .absent ∧ life ≠ .reaped)
    (change : StatusChange) : ParentKnown setup (state.change life change) := by
  have notReaped : state.life ≠ .reaped := alive.ne ⟨Life.noConfusion, Life.noConfusion⟩
  have notAbsent : state.life ≠ .absent := alive.ne ⟨Life.noConfusion, Life.noConfusion⟩
  have collects : forall {status earlier last}, Collects state status earlier last ->
      Collects (state.change life change) status earlier last := by
    intro status earlier last before
    refine ⟨before.collected, before.status, before.before, ?_, stays.1⟩
    exact iff_of_false (fun terminates => notReaped (before.gone.mp terminates)) stays.2
  rcases state with ⟨parent, output, former, pending, history, collected⟩
  cases parent with
  | starting | forking => exact absurd known.1 notAbsent
  | waiting => exact ⟨stays.1, stays.2, known.2.2⟩
  | printing status =>
      rcases known with ⟨earlier, last, before, written⟩
      exact ⟨earlier, last, collects before, written⟩
  | deciding status =>
      rcases known with ⟨earlier, last, before, written⟩
      exact ⟨earlier, last, collects before, written⟩
  | ended result =>
      cases result with
      | success => exact absurd known.1 notReaped
      | badArguments _ | failed _ => trivial

theorem Invariant.changes {setup : Setup} {state : State} (holds : Invariant setup state)
    (alive : state.life.Alive) {life : Life} (stays : life ≠ .absent ∧ life ≠ .reaped)
    {change : StatusChange} (gone : life.Over <-> Terminates change)
    (exits : forall status, change = .exited status ->
      Exists fun argument => setup.argument = some argument ∧ status = exitStatus argument) :
    Invariant setup (state.change life change) := by
  have before := holds.recorded.2 alive.not_over
  constructor
  case absent => exact fun absent => absurd absent stays.1
  case zombie => exact fun _ => Option.some_ne_none _
  case reaped => exact fun reaped => absurd reaped stays.2
  case sublist =>
    have known := (List.sublist_append_left _ _).trans holds.sublist
    exact known.append (List.Sublist.refl [change])
  case last =>
    have mine : (state.collected ++ [change]).getLast? = some change := List.getLast?_concat
    have whole : (state.history ++ [change]).getLast? = some change := List.getLast?_concat
    exact mine.trans whole.symm
  case recorded =>
    constructor
    · exact fun isOver => ⟨state.history, change, rfl, gone.mp isOver, before⟩
    · intro notOver other member
      rcases List.mem_append.mp member with earlier | now
      · exact before other earlier
      · rw [List.mem_singleton.mp now]
        exact fun terminates => notOver (gone.mpr terminates)
  case exits =>
    intro status member
    rcases List.mem_append.mp member with earlier | now
    · exact holds.exits status earlier
    · exact exits status (List.mem_singleton.mp now).symm
  case parent => exact holds.parent.changes alive stays change

/-- The change that has not been collected is the last that has happened; it is the end
exactly when the child is over. -/
theorem Invariant.terminates_iff {setup : Setup} {state : State} (holds : Invariant setup state)
    {change : StatusChange} (pending : state.report = some change) :
    Terminates change <-> state.life.Over := by
  have last := holds.last
  rw [pending] at last
  have isLast : state.history.getLast? = some change := by
    rw [← last]
    exact List.getLast?_concat
  by_cases gone : state.life.Over
  · rcases holds.recorded.1 gone with ⟨earlier, end', history, terminates, _⟩
    rw [history, List.getLast?_concat] at isLast
    cases isLast
    exact iff_of_true terminates gone
  · exact iff_of_false (holds.recorded.2 gone change (List.mem_of_getLast? isLast)) gone

theorem Invariant.collects {setup : Setup} {state : State} (holds : Invariant setup state)
    (waiting : state.parent = .waiting) {change : StatusChange} (pending : state.report = some change) :
    Invariant setup { state with
      parent := .printing change.waitStatus
      life := if state.life = .zombie then .reaped else state.life
      report := none
      collected := state.collected ++ [change] } := by
  have known := holds.parent
  unfold ParentKnown at known
  rw [waiting] at known
  rcases known with ⟨notAbsent, notReaped, before, written⟩
  have terminates := holds.terminates_iff pending
  have gone : (if state.life = .zombie then Life.reaped else state.life).Over <-> state.life.Over := by
    split
    · rename_i zombie
      rw [zombie]
      exact Iff.rfl
    · exact Iff.rfl
  have sublist := holds.sublist
  have last := holds.last
  rw [pending] at sublist last
  constructor
  case absent => exact fun _ => rfl
  case zombie =>
    intro zombie
    change (if state.life = .zombie then Life.reaped else state.life) = .zombie at zombie
    split at zombie
    · cases zombie
    · exact absurd zombie ‹_›
  case reaped => exact fun _ => rfl
  case sublist =>
    change (state.collected ++ [change] ++ []).Sublist state.history
    rw [List.append_nil]
    exact sublist
  case last =>
    change (state.collected ++ [change] ++ []).getLast? = state.history.getLast?
    rw [List.append_nil]
    exact last
  case recorded =>
    refine ⟨fun isOver => holds.recorded.1 (gone.mp isOver), fun notOver => ?_⟩
    exact holds.recorded.2 (fun isOver => notOver (gone.mpr isOver))
  case exits => exact holds.exits
  case parent =>
    refine ⟨state.collected, change, ⟨rfl, rfl, before, ?_, ?_⟩, written⟩
    · rw [terminates]
      change _ <-> (if state.life = .zombie then Life.reaped else state.life) = .reaped
      cases life : state.life with
      | absent => exact absurd life notAbsent
      | reaped => exact absurd life notReaped
      | running | stopped => exact iff_of_false id (by decide)
      | zombie => exact iff_of_true trivial rfl
    · change (if state.life = .zombie then Life.reaped else state.life) ≠ .absent
      split
      · exact Life.noConfusion
      · exact notAbsent

/-- The parent goes to another position without touching what is known of the child. -/
theorem Invariant.parentMoves {setup : Setup} {state : State} (holds : Invariant setup state)
    (parent : ParentPc) (output : List Byte)
    (known : ParentKnown setup { state with parent, output }) :
    Invariant setup { state with parent, output } :=
  ⟨holds.absent, holds.zombie, holds.reaped, holds.sublist, holds.last, holds.recorded, holds.exits,
    known⟩

theorem parentStep_preserves {setup : Setup} {state next : State} {outcome : Outcome}
    (holds : Invariant setup state) (stepped : parentStep setup state outcome = some next) :
    Invariant setup next := by
  have known := holds.parent
  have moves := holds.parentMoves
  unfold ParentKnown at known
  unfold parentStep at stepped
  cases position : state.parent with
  | starting =>
      rw [position] at stepped known
      simp only at stepped
      split at stepped
      · cases stepped
        exact moves _ state.output trivial
      · cases stepped
        exact moves _ state.output known
  | forking =>
      rw [position] at stepped known
      cases outcome with
      | succeeds =>
          cases stepped
          rcases known with ⟨absent, empty, written⟩
          have recorded := holds.recorded
          rw [absent] at recorded
          refine ⟨Life.noConfusion, Life.noConfusion, Life.noConfusion, holds.sublist, holds.last, ?_,
            holds.exits, ?_⟩
          · exact ⟨fun impossible => impossible.elim, fun _ => recorded.2 id⟩
          · refine ⟨Life.noConfusion, Life.noConfusion, ?_, ?_⟩
            · intro change member
              rw [show state.collected = [] from empty] at member
              cases member
            · change state.output = report setup state.collected
              rw [written, empty]
              rfl
      | fails errno =>
          cases stepped
          exact moves _ state.output trivial
  | waiting =>
      rw [position] at stepped known
      cases outcome with
      | fails errno =>
          cases stepped
          exact moves _ state.output trivial
      | succeeds =>
          change state.wait setup = some next at stepped
          unfold State.wait at stepped
          cases pending : state.report with
          | some change =>
              rw [pending] at stepped
              cases stepped
              exact holds.collects position pending
          | none =>
              rw [pending] at stepped
              cases life : state.life with
              | absent => exact absurd life known.1
              | reaped => exact absurd life known.2.1
              | running | stopped | zombie =>
                  rw [life] at stepped
                  cases stepped
  | printing status =>
      rw [position] at stepped known
      cases stepped
      rcases known with ⟨earlier, change, last, written⟩
      refine moves _ _ ⟨earlier, change, ⟨last.collected, last.status, last.before, last.gone,
        last.present⟩, ?_⟩
      change state.output ++ statusText setup status = report setup state.collected
      rw [last.collected, written, last.status]
      unfold report
      rw [List.flatMap_append, List.flatMap_singleton]
  | deciding status =>
      rw [position] at stepped known
      rcases known with ⟨earlier, change, last, written⟩
      have tested := ChildStatus.terminates_iff change
      simp only at stepped
      rw [last.status] at stepped
      by_cases terminates : Terminates change
      · rw [if_pos (tested.mpr terminates)] at stepped
        cases stepped
        exact moves _ state.output ⟨last.gone.mp terminates, written, earlier, change, last.collected,
          terminates⟩
      · rw [if_neg (fun test => terminates (tested.mp test))] at stepped
        cases stepped
        refine moves _ state.output ⟨last.present, ?_, ?_, written⟩
        · exact fun reaped => terminates (last.gone.mpr reaped)
        · intro other member
          change other ∈ state.collected at member
          rw [last.collected] at member
          rcases List.mem_append.mp member with before | now
          · exact last.before other before
          · rw [List.mem_singleton.mp now]
            exact terminates
  | ended _ =>
      rw [position] at stepped
      cases stepped

theorem step_preserves {setup : Setup} {state next : State} {action : Action}
    (holds : Invariant setup state) (stepped : step setup state action = some next) :
    Invariant setup next := by
  have signals : forall {life : Life} {change : StatusChange}, state.life.Alive ->
      life ≠ .absent ∧ life ≠ .reaped -> (life.Over <-> Terminates change) ->
      (forall status, change ≠ .exited status) -> Invariant setup (state.change life change) :=
    fun alive stays gone notExit => holds.changes alive stays gone
      (fun status exited => absurd exited (notExit status))
  have stays : (forall life : Life, life = .running ∨ life = .stopped ∨ life = .zombie ->
      life ≠ .absent ∧ life ≠ .reaped) := by
    rintro life (same | same | same) <;> rw [same] <;> exact ⟨Life.noConfusion, Life.noConfusion⟩
  cases action with
  | parent outcome => exact parentStep_preserves holds stepped
  | childExits =>
      unfold step at stepped
      simp only at stepped
      split at stepped
      · rename_i argument running given
        cases stepped
        refine holds.changes (Or.inl running) (stays _ (Or.inr (Or.inr rfl))) Iff.rfl ?_
        intro status same
        cases same
        exact ⟨argument, given, rfl⟩
      · cases stepped
  | kill signal core =>
      unfold step at stepped
      cases life : state.life with
      | absent | zombie | reaped =>
          rw [life] at stepped
          cases stepped
      | running =>
          rw [life] at stepped
          cases stepped
          exact signals (Or.inl life) (stays _ (Or.inr (Or.inr rfl))) Iff.rfl
            (fun _ => StatusChange.noConfusion)
      | stopped =>
          rw [life] at stepped
          cases stepped
          exact signals (Or.inr life) (stays _ (Or.inr (Or.inr rfl))) Iff.rfl
            (fun _ => StatusChange.noConfusion)
  | stop signal =>
      unfold step at stepped
      cases life : state.life with
      | absent | stopped | zombie | reaped =>
          rw [life] at stepped
          cases stepped
      | running =>
          rw [life] at stepped
          cases stepped
          exact signals (Or.inl life) (stays _ (Or.inr (Or.inl rfl))) Iff.rfl
            (fun _ => StatusChange.noConfusion)
  | resume =>
      unfold step at stepped
      cases life : state.life with
      | absent | running | zombie | reaped =>
          rw [life] at stepped
          cases stepped
      | stopped =>
          rw [life] at stepped
          cases stepped
          exact signals (Or.inr life) (stays _ (Or.inl rfl)) Iff.rfl (fun _ => StatusChange.noConfusion)

theorem start_invariant (setup : Setup) : Invariant setup start where
  absent _ := rfl
  zombie impossible := by cases impossible
  reaped _ := rfl
  sublist := List.Sublist.refl []
  last := rfl
  recorded := ⟨fun impossible => impossible.elim, fun _ _ member => absurd member List.not_mem_nil⟩
  exits _ member := absurd member List.not_mem_nil
  parent := ⟨rfl, rfl, rfl⟩

theorem reachable_invariant {setup : Setup} {state : State}
    (reachable : (machine setup).Reachable state) : Invariant setup state := by
  refine Machine.Reachable.invariant ?_ ?_ reachable
  · intro first initial
    rw [show first = start from initial]
    exact start_invariant setup
  · intro current action next holds stepped
    exact step_preserves holds stepped

/-- What the parent gets to know is true: it is told of some of the changes, in their
order, and each as what it was.  The parent waits in vain only as long as the child lives
and nothing more has happened to it.  When it exits, the last change that it has been told
of is the one by which the child terminated, after which nothing has happened, and the
lines that it has written are those of the changes that it has been told of; a child that
was not killed has exited with the status asked for. -/
structure Truthful (setup : Setup) (state : State) : Prop where
  sublist : state.collected.Sublist state.history
  waits : state.parent = .waiting -> state.report = none -> state.life.Alive ∧
    state.collected.getLast? = state.history.getLast?
  exits : state.parent = .ended .success ->
    state.output = report setup state.collected ∧ Exists fun last => Terminates last ∧
      state.collected.getLast? = some last ∧ state.history.getLast? = some last ∧
      (forall change, change ∈ state.history.dropLast -> ¬ Terminates change) ∧
      forall status, last = .exited status ->
        Exists fun argument => setup.argument = some argument ∧ status = exitStatus argument

theorem Invariant.truthful {setup : Setup} {state : State} (holds : Invariant setup state) :
    Truthful setup state := by
  have known := holds.parent
  unfold ParentKnown at known
  constructor
  case sublist => exact (List.sublist_append_left _ _).trans holds.sublist
  case waits =>
    intro waiting nothing
    rw [waiting] at known
    have last := holds.last
    rw [nothing] at last
    constructor
    · cases life : state.life with
      | absent => exact absurd life known.1
      | reaped => exact absurd life known.2.1
      | running => exact Or.inl rfl
      | stopped => exact Or.inr rfl
      | zombie => exact absurd nothing (holds.zombie life)
    · exact (congrArg List.getLast? (List.append_nil state.collected)).symm.trans last
  case exits =>
    intro exited
    rw [exited] at known
    rcases known with ⟨reaped, written, earlier, change, collected, terminates⟩
    have gone : state.life.Over := by
      rw [reaped]
      trivial
    rcases holds.recorded.1 gone with ⟨before, last, history, lastTerminates, others⟩
    have same := holds.last
    rw [holds.reaped reaped, Option.toList_none, List.append_nil, collected, history,
      List.getLast?_concat, List.getLast?_concat] at same
    cases same
    refine ⟨written, change, terminates, ?_, ?_, ?_, ?_⟩
    · rw [collected]
      exact List.getLast?_concat
    · rw [history]
      exact List.getLast?_concat
    · rw [history, List.dropLast_concat]
      exact others
    · intro status isExit
      apply holds.exits
      rw [history, isExit]
      exact List.mem_append_right _ (List.mem_singleton_self _)

/-- Whatever happens to the child, and however the changes fall between the calls of the
parent. -/
theorem child_status_truthful (setup : Setup) : forall state, (machine setup).Reachable state ->
    Truthful setup state :=
  fun _ reachable => (reachable_invariant reachable).truthful

def signalledSetup : Setup where
  program := ascii "child_status"
  argument := none
  dumpcore := none
  childPid := 7
  strsignal := fun _ => ascii "?"

/-- The stop is lost because the child is continued before the parent waits. -/
def signalledActions : List Action :=
  [.parent .succeeds, .parent .succeeds, .stop ⟨19, by decide, by decide⟩, .resume,
    .parent .succeeds, .kill ⟨15, by decide, by decide⟩ false] ++ List.replicate 5 (.parent .succeeds)

def signalledFinal : State :=
  ((machine signalledSetup).exec start signalledActions).get (by decide +kernel)

theorem child_status_truthful_signalled :
    (signalledFinal.parent = .ended .success ∧ signalledFinal.history.length = 3 ∧
      signalledFinal.collected = [.continued, .killed ⟨15, by decide, by decide⟩ false]) ∧
        Truthful signalledSetup signalledFinal := by
  have executed : (machine signalledSetup).exec start signalledActions = some signalledFinal :=
    (Option.some_get _).symm
  exact ⟨by decide +kernel, child_status_truthful _ _ (Machine.reachable_of_exec rfl executed)⟩

end ChildStatus
end ProcessWatch
end Tlpi
