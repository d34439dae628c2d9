import Tlpi.IpcPipeFifo.PipeSync

namespace Tlpi
namespace IpcPipeFifo
namespace PipeLsWc

open CLibrary Foundations Lib
open PipeSync (File)

/-!
# Two programs joined by a pipe

The parent creates a pipe and forks two children.  One makes its standard output the end
for writing and becomes `ls`, the other makes its standard input the end for reading and
becomes `wc`; the parent closes both ends and waits for the two.

The ends of a new pipe take the lowest free descriptors, so that an end may already be
where a child wants it when the program is started with its standard input or output
closed.  Each child checks for that.  The tables of the three processes are kept here
call by call, since it is the ends that are left open in some table that decide whether
`wc` ever comes to the end of its input, and whether `ls` can go on writing when nobody
reads.

Of the two programs nothing more is known than that `ls` writes some bytes and exits, and
that `wc` reads to the end of its input and exits.  The parent has no other children.
-/

/-- How the program is started.  Standard input and output may be closed, but diagnostics
go to a file; no file is an end of a pipe that does not exist yet. -/
structure Setup where
  inherited : Slots File
  dumpcore : Option String
  capacity : Nat
  listing : List Byte
  positive : 0 < capacity
  diagnostics : inherited.get 2 ≠ none
  foreign : forall fd, inherited.get fd ≠ some .readEnd ∧ inherited.get fd ≠ some .writeEnd

inductive Child where
  | ls
  | wc
deriving DecidableEq, Repr

inductive Ending where
  | exited
  | failed (failure : Failure)
  | killed
deriving DecidableEq, Repr

/-- The positions of the parent, each named after what it does next.  The second call of
`wait` comes after one child has been reaped. -/
inductive ParentPc where
  | piping
  | forking (child : Child)
  | closingRead
  | closingWrite
  | waiting
  | waitingAgain (reaped : Child)
  | exiting
  | ended (ending : Ending)
deriving DecidableEq, Repr

/-- The positions of a child; once it is `running` it executes another program. -/
inductive ChildPc where
  | absent
  | closingUnused
  | duplicating
  | closingOwn
  | executing
  | running
  | ended (ending : Ending)
deriving DecidableEq, Repr

inductive Party where
  | parent
  | child (child : Child)
deriving DecidableEq, Repr

/-- The processes with their descriptors and the pipe.  `unwritten` is what `ls` has yet
to write, and `received` what `wc` has read. -/
structure State where
  parent : ParentPc
  child : Child -> ChildPc
  descriptors : Party -> Slots File
  pfd : Nat × Nat
  pipe : List Byte
  unwritten : List Byte
  received : List Byte

/-- What a child does with the ends of the pipe: which one it closes, which one it moves
where, and what it says of a call that fails. -/
structure Plumbing where
  unused : Nat
  own : Nat
  standard : Nat
  closeUnused : String
  duplicate : String
  closeOwn : String
  execute : String

/-- The first child: 1 is to be the end for writing. -/
def ls (pfd : Nat × Nat) : Plumbing where
  unused := pfd.1
  own := pfd.2
  standard := 1
  closeUnused := "close 1"
  duplicate := "dup2 1"
  closeOwn := "close 2"
  execute := "execlp ls"

/-- The second child: 0 is to be the end for reading. -/
def wc (pfd : Nat × Nat) : Plumbing where
  unused := pfd.2
  own := pfd.1
  standard := 0
  closeUnused := "close 3"
  duplicate := "dup2 2"
  closeOwn := "close 4"
  execute := "execlp wc"

def plumbing (pfd : Nat × Nat) : Child -> Plumbing
  | .ls => ls pfd
  | .wc => wc pfd

inductive Outcome where
  | succeeds
  | fails (errno : Errno)
deriving DecidableEq, Repr

/-- What the scheduler and the environment choose: a process makes its next call, `wait`
finds a child, or one of the two other programs transfers some bytes or exits. -/
inductive Action where
  | parent (outcome : Outcome)
  | reap (child : Child)
  | child (child : Child) (outcome : Outcome)
  | write (count : Nat)
  | lsExits
  | read (count : Nat)
  | wcExits
deriving DecidableEq, Repr

namespace State

def moveParent (state : State) (pc : ParentPc) (table : Slots File) : State :=
  { state with parent := pc, descriptors := Function.update state.descriptors .parent table }

def moveChild (state : State) (child : Child) (pc : ChildPc) (table : Slots File) : State :=
  { state with
    child := Function.update state.child child pc
    descriptors := Function.update state.descriptors (.child child) table }

theorem descriptors_moveParent (state : State) (pc : ParentPc) (table : Slots File) :
    (state.moveParent pc table).descriptors .parent = table := by
  simp [moveParent]

theorem descriptors_moveParent_child (state : State) (pc : ParentPc) (table : Slots File)
    (child : Child) :
    (state.moveParent pc table).descriptors (.child child) = state.descriptors (.child child) := by
  simp [moveParent]

theorem child_moveParent (state : State) (pc : ParentPc) (table : Slots File) :
    (state.moveParent pc table).child = state.child := rfl

theorem child_moveChild (state : State) (child : Child) (pc : ChildPc) (table : Slots File) :
    (state.moveChild child pc table).child child = pc := by
  simp [moveChild]

theorem child_moveChild_of_ne (state : State) {child other : Child} (different : other ≠ child)
    (pc : ChildPc) (table : Slots File) :
    (state.moveChild child pc table).child other = state.child other := by
  simp [moveChild, different]

theorem descriptors_moveChild (state : State) (child : Child) (pc : ChildPc) (table : Slots File) :
    (state.moveChild child pc table).descriptors (.child child) = table := by
  simp [moveChild]

theorem descriptors_moveChild_of_ne (state : State) {child : Child} {party : Party}
    (different : party ≠ .child child) (pc : ChildPc) (table : Slots File) :
    (state.moveChild child pc table).descriptors party = state.descriptors party := by
  simp [moveChild, different]

def isOpen (state : State) (file : File) : Bool :=
  [Party.parent, .child .ls, .child .wc].any
    (fun party => (state.descriptors party).places.contains (some file))

/-- A call of the parent, whose failure ends it. -/
def parentCall (setup : Setup) (state : State) (outcome : Outcome) (call : String) (next : State) :
    State :=
  match outcome with
  | .succeeds => next
  | .fails errno => state.moveParent (.ended (.failed (errExit setup.dumpcore errno call))) ⟨[]⟩

/-- A call of a child, whose failure ends it. -/
def childCall (setup : Setup) (state : State) (child : Child) (outcome : Outcome) (call : String)
    (next : State) : State :=
  match outcome with
  | .succeeds => next
  | .fails errno => state.moveChild child (.ended (.failed (errExit setup.dumpcore errno call))) ⟨[]⟩

/-- One step of the parent, other than that `wait` succeeds. -/
def parentStep (setup : Setup) (state : State) (outcome : Outcome) : Option State :=
  let table := state.descriptors .parent
  match state.parent with
  | .piping =>
      let opened := table.acquire .readEnd
      some (state.parentCall setup outcome "pipe"
        ({ state with pfd := (table.lowestFree, opened.lowestFree) }.moveParent (.forking .ls)
          (opened.acquire .writeEnd)))
  | .forking child =>
      let following := match child with
        | .ls => ParentPc.forking .wc
        | .wc => ParentPc.closingRead
      some (state.parentCall setup outcome "fork"
        ((state.moveChild child .closingUnused table).moveParent following table))
  | .closingRead =>
      some (state.parentCall setup outcome "close 5"
        (state.moveParent .closingWrite (table.release state.pfd.1)))
  | .closingWrite =>
      some (state.parentCall setup outcome "close 6"
        (state.moveParent .waiting (table.release state.pfd.2)))
  | .waiting =>
      match outcome with
      | .succeeds => none
      | .fails _ => some (state.parentCall setup outcome "wait 1" state)
  | .waitingAgain _ =>
      match outcome with
      | .succeeds => none
      | .fails _ => some (state.parentCall setup outcome "wait 2" state)
  | .exiting => some (state.moveParent (.ended .exited) ⟨[]⟩)
  | .ended _ => none

/-- `wait(NULL)` finds a child that has ended and has not been reaped. -/
def reapStep (state : State) (child : Child) : Option State :=
  let table := state.descriptors .parent
  match state.child child with
  | .ended _ =>
      match state.parent with
      | .waiting => some (state.moveParent (.waitingAgain child) table)
      | .waitingAgain reaped =>
          if child ≠ reaped then some (state.moveParent .exiting table) else none
      | _ => none
  | _ => none

/-- One step of a child before it executes another program. -/
def childStep (setup : Setup) (state : State) (child : Child) (outcome : Outcome) : Option State :=
  let table := state.descriptors (.child child)
  let plumbing := plumbing state.pfd child
  match state.child child with
  | .closingUnused =>
      some (state.childCall setup child outcome plumbing.closeUnused
        (state.moveChild child
          (if plumbing.own ≠ plumbing.standard then .duplicating else .executing)
          (table.release plumbing.unused)))
  | .duplicating =>
      some (state.childCall setup child outcome plumbing.duplicate
        (state.moveChild child .closingOwn (table.copy plumbing.own plumbing.standard)))
  | .closingOwn =>
      some (state.childCall setup child outcome plumbing.closeOwn
        (state.moveChild child .executing (table.release plumbing.own)))
  | .executing =>
      some (state.childCall setup child outcome plumbing.execute (state.moveChild child .running table))
  | .absent | .running | .ended _ => none

/-- `ls` writes to its standard output.  A write waits for room in the pipe, and when
nobody has the other end open, it ends the process. -/
def writeStep (setup : Setup) (state : State) (count : Nat) : Option State :=
  if state.child .ls = .running ∧ (state.descriptors (.child .ls)).get 1 = some .writeEnd ∧
      0 < count ∧ count ≤ state.unwritten.length then
    if state.isOpen .readEnd then
      if state.pipe.length + count ≤ setup.capacity then
        some { state with
          pipe := state.pipe ++ state.unwritten.take count
          unwritten := state.unwritten.drop count }
      else none
    else some (state.moveChild .ls (.ended .killed) ⟨[]⟩)
  else none

def lsExitStep (state : State) : Option State :=
  if state.child .ls = .running ∧ state.unwritten = [] then
    some (state.moveChild .ls (.ended .exited) ⟨[]⟩)
  else none

/-- `wc` reads from its standard input. -/
def readStep (state : State) (count : Nat) : Option State :=
  if state.child .wc = .running ∧ (state.descriptors (.child .wc)).get 0 = some .readEnd ∧
      0 < count ∧ count ≤ state.pipe.length then
    some { state with
      pipe := state.pipe.drop count
      received := state.received ++ state.pipe.take count }
  else none

/-- `wc` comes to the end of its input: the pipe is empty, and nobody can write to it. -/
def wcExitStep (state : State) : Option State :=
  if state.child .wc = .running ∧ (state.descriptors (.child .wc)).get 0 = some .readEnd ∧
      state.pipe = [] ∧ state.isOpen .writeEnd = false then
    some (state.moveChild .wc (.ended .exited) ⟨[]⟩)
  else none

def step (setup : Setup) (state : State) : Action -> Option State
  | .parent outcome => state.parentStep setup outcome
  | .reap child => state.reapStep child
  | .child child outcome => state.childStep setup child outcome
  | .write count => state.writeStep setup count
  | .lsExits => state.lsExitStep
  | .read count => state.readStep count
  | .wcExits => state.wcExitStep

end State

def start (setup : Setup) : State where
  parent := .piping
  child := fun _ => .absent
  descriptors := Function.update (fun _ => ⟨[]⟩) .parent setup.inherited
  pfd := (0, 0)
  pipe := []
  unwritten := setup.listing
  received := []

def machine (setup : Setup) : Machine State Action where
  Initial state := state = start setup
  step := State.step setup

/-!
## What each table holds
-/

def Child.file : Child -> File
  | .ls => .writeEnd
  | .wc => .readEnd

/-- The table that has both ends of the pipe. -/
def bothEnds (setup : Setup) (pfd : Nat × Nat) (fd : Nat) : Option File :=
  if fd = pfd.1 then some .readEnd else if fd = pfd.2 then some .writeEnd else setup.inherited.get fd

/-- What the parent has at each position. -/
def parentTable (setup : Setup) (pfd : Nat × Nat) (fd : Nat) : ParentPc -> Option File
  | .piping | .waiting | .waitingAgain _ | .exiting => setup.inherited.get fd
  | .forking _ | .closingRead => bothEnds setup pfd fd
  | .closingWrite => if fd = pfd.2 then some .writeEnd else setup.inherited.get fd
  | .ended _ => none

/-- What a child has at each position. -/
def childTable (setup : Setup) (pfd : Nat × Nat) (child : Child) (fd : Nat) : ChildPc -> Option File
  | .absent | .ended _ => none
  | .closingUnused => bothEnds setup pfd fd
  | .duplicating => if fd = (plumbing pfd child).own then some child.file else setup.inherited.get fd
  | .closingOwn =>
      if fd = (plumbing pfd child).own ∨ fd = (plumbing pfd child).standard then some child.file
      else setup.inherited.get fd
  | .executing | .running =>
      if fd = (plumbing pfd child).standard then some child.file else setup.inherited.get fd

/-- The descriptors of the pipe were free when it was created. -/
structure FreshPair (setup : Setup) (pfd : Nat × Nat) : Prop where
  first : setup.inherited.get pfd.1 = none
  second : setup.inherited.get pfd.2 = none
  different : pfd.1 ≠ pfd.2

def Unpiped (state : State) : Prop :=
  (forall child, state.child child = .absent) ∧
    (state.parent = .piping ∨ Exists fun failure => state.parent = .ended (.failed failure))

/-- What is known of the children while the parent is at a position. -/
def Forked (state : State) : Prop :=
  match state.parent with
  | .piping | .forking .ls => forall child, state.child child = .absent
  | .forking .wc => state.child .ls ≠ .absent ∧ state.child .wc = .absent
  | .closingRead | .closingWrite | .waiting => forall child, state.child child ≠ .absent
  | .waitingAgain reaped =>
      (forall child, state.child child ≠ .absent) ∧
        Exists fun ending => state.child reaped = .ended ending
  | .exiting | .ended .exited => forall child, Exists fun ending => state.child child = .ended ending
  | .ended _ => True

structure Invariant (setup : Setup) (state : State) : Prop where
  pfd : FreshPair setup state.pfd ∨ Unpiped state
  parent : forall fd, (state.descriptors .parent).get fd = parentTable setup state.pfd fd state.parent
  child : forall child fd, (state.descriptors (.child child)).get fd =
    childTable setup state.pfd child fd (state.child child)
  forked : Forked state
  order : state.child .ls = .absent -> state.child .wc = .absent
  moving : forall child, state.child child = .duplicating ∨ state.child child = .closingOwn ->
    (plumbing state.pfd child).own ≠ (plumbing state.pfd child).standard
  flow : setup.listing = state.received ++ state.pipe ++ state.unwritten
  lsDone : state.child .ls = .ended .exited -> state.unwritten = []
  wcDone : state.child .wc = .ended .exited ->
    state.pipe = [] ∧ Exists fun ending => state.child .ls = .ended ending

theorem get_pipe (setup : Setup) {table : Slots File}
    (same : forall fd, table.get fd = setup.inherited.get fd) (fd : Nat) :
    ((table.acquire .readEnd).acquire .writeEnd).get fd =
      bothEnds setup (table.lowestFree, (table.acquire .readEnd).lowestFree) fd := by
  unfold bothEnds
  rw [Slots.get_acquire, Slots.get_acquire]
  by_cases first : fd = table.lowestFree
  · have notSecond : fd ≠ (table.acquire .readEnd).lowestFree := by
      intro second
      have free := Slots.get_lowestFree (table.acquire .readEnd)
      rw [← second, Slots.get_acquire, if_pos first] at free
      cases free
    rw [if_neg notSecond, if_pos first, if_pos first]
  · rw [if_neg first, if_neg first, same]

theorem freshPair_pipe (setup : Setup) {table : Slots File}
    (same : forall fd, table.get fd = setup.inherited.get fd) :
    FreshPair setup (table.lowestFree, (table.acquire .readEnd).lowestFree) := by
  have free := Slots.get_lowestFree (table.acquire .readEnd)
  rw [Slots.get_acquire] at free
  have different : (table.acquire .readEnd).lowestFree ≠ table.lowestFree := by
    intro equal
    rw [if_pos equal] at free
    cases free
  rw [if_neg different, same] at free
  have firstFree := Slots.get_lowestFree table
  rw [same] at firstFree
  exact ⟨firstFree, free, different.symm⟩

/-- The two children keep different ends. -/
theorem bothEnds_eq (setup : Setup) {pfd : Nat × Nat} (child : Child) (fd : Nat)
    (used : fd ≠ (plumbing pfd child).unused) :
    bothEnds setup pfd fd =
      if fd = (plumbing pfd child).own then some child.file else setup.inherited.get fd := by
  unfold bothEnds
  cases child with
  | ls => exact if_neg used
  | wc =>
      change fd ≠ pfd.2 at used
      rw [if_neg used]
      rfl

/-- The end that a child closes leaves its place free, as it was. -/
theorem FreshPair.unused_free {setup : Setup} {pfd : Nat × Nat} (fresh : FreshPair setup pfd)
    (child : Child) : setup.inherited.get (plumbing pfd child).unused = none ∧
      setup.inherited.get (plumbing pfd child).own = none ∧
      (plumbing pfd child).unused ≠ (plumbing pfd child).own := by
  cases child with
  | ls => exact ⟨fresh.first, fresh.second, fresh.different⟩
  | wc => exact ⟨fresh.second, fresh.first, fresh.different.symm⟩

theorem FreshPair.get_closeUnused {setup : Setup} {pfd : Nat × Nat} (fresh : FreshPair setup pfd)
    {table : Slots File} (child : Child) (before : forall fd, table.get fd = bothEnds setup pfd fd)
    (fd : Nat) :
    (table.release (plumbing pfd child).unused).get fd =
      if fd = (plumbing pfd child).own then some child.file else setup.inherited.get fd := by
  rw [Slots.get_release]
  rcases fresh.unused_free child with ⟨free, _, different⟩
  by_cases used : fd = (plumbing pfd child).unused
  · rw [if_pos used, used, if_neg different, free]
  · rw [if_neg used, before, bothEnds_eq setup child fd used]

theorem FreshPair.get_duplicate {setup : Setup} {pfd : Nat × Nat} {table : Slots File} (child : Child)
    (before : forall fd, table.get fd = childTable setup pfd child fd .duplicating) (fd : Nat) :
    (table.copy (plumbing pfd child).own (plumbing pfd child).standard).get fd =
      childTable setup pfd child fd .closingOwn := by
  have own : table.get (plumbing pfd child).own = some child.file :=
    (before _).trans (if_pos rfl)
  rw [Slots.get_copy own, before]
  unfold childTable
  by_cases standard : fd = (plumbing pfd child).standard
  · rw [if_pos standard, if_pos (Or.inr standard)]
  · rw [if_neg standard]
    by_cases same : fd = (plumbing pfd child).own
    · rw [if_pos same, if_pos (Or.inl same)]
    · rw [if_neg same, if_neg (not_or.mpr ⟨same, standard⟩)]

/-- Closing the place that the end was moved from. -/
theorem FreshPair.get_closeOwn {setup : Setup} {pfd : Nat × Nat} (fresh : FreshPair setup pfd)
    {table : Slots File} (child : Child)
    (moved : (plumbing pfd child).own ≠ (plumbing pfd child).standard)
    (before : forall fd, table.get fd = childTable setup pfd child fd .closingOwn) (fd : Nat) :
    (table.release (plumbing pfd child).own).get fd = childTable setup pfd child fd .executing := by
  rw [Slots.get_release, before]
  unfold childTable
  by_cases same : fd = (plumbing pfd child).own
  · rw [if_pos same, same, if_neg moved, (fresh.unused_free child).2.1]
  · rw [if_neg same]
    by_cases standard : fd = (plumbing pfd child).standard
    · rw [if_pos standard, if_pos (Or.inr standard)]
    · rw [if_neg standard, if_neg (not_or.mpr ⟨same, standard⟩)]

/-!
## Every step keeps the tables
-/

/-- A child that is there and has not ended. -/
def ChildPc.Live : ChildPc -> Prop
  | .absent | .ended _ => False
  | _ => True

theorem ChildPc.Live.not_absent {pc : ChildPc} (live : pc.Live) : pc ≠ .absent := by
  intro absent
  rw [absent] at live
  exact live

theorem ChildPc.Live.not_ended {pc : ChildPc} (live : pc.Live) (ending : Ending) :
    pc ≠ .ended ending := by
  intro ended
  rw [ended] at live
  exact live

/-- A child lives only when the pipe exists. -/
theorem Invariant.fresh {setup : Setup} {state : State} (holds : Invariant setup state) {child : Child}
    (live : (state.child child).Live) : FreshPair setup state.pfd := by
  rcases holds.pfd with fresh | unpiped
  · exact fresh
  · exact absurd (unpiped.1 child) live.not_absent

/-- What the parent knows of its children stays true when one of them moves. -/
theorem Forked.moved {state : State} (forked : Forked state) {child : Child}
    (live : (state.child child).Live) {pc : ChildPc} (stays : pc ≠ .absent) (table : Slots File) :
    Forked (state.moveChild child pc table) := by
  have present : forall other, state.child other ≠ .absent ->
      (state.moveChild child pc table).child other ≠ .absent := by
    intro other here
    by_cases equal : other = child
    · rw [equal, State.child_moveChild]
      exact stays
    · rw [State.child_moveChild_of_ne _ equal]
      exact here
  have untouched : forall other, other ≠ child ->
      (state.moveChild child pc table).child other = state.child other :=
    fun other different => state.child_moveChild_of_ne different pc table
  unfold Forked at forked ⊢
  have sameParent : (state.moveChild child pc table).parent = state.parent := rfl
  rw [sameParent]
  cases position : state.parent with
  | piping =>
      rw [position] at forked
      exact absurd (forked child) live.not_absent
  | forking created =>
      rw [position] at forked
      cases created with
      | ls => exact absurd (forked child) live.not_absent
      | wc =>
          rcases forked with ⟨there, absent⟩
          refine ⟨present .ls there, (untouched .wc ?_).trans absent⟩
          intro equal
          rw [equal] at absent
          exact live.not_absent absent
  | closingRead | closingWrite | waiting =>
      rw [position] at forked
      exact fun other => present other (forked other)
  | waitingAgain reaped =>
      rw [position] at forked
      rcases forked with ⟨there, ending, ended⟩
      refine ⟨fun other => present other (there other), ending, (untouched reaped ?_).trans ended⟩
      intro equal
      rw [equal] at ended
      exact live.not_ended ending ended
  | exiting =>
      rw [position] at forked
      rcases forked child with ⟨ending, ended⟩
      exact absurd ended (live.not_ended ending)
  | ended ending =>
      rw [position] at forked
      cases ending with
      | exited =>
          rcases forked child with ⟨other, ended⟩
          exact absurd ended (live.not_ended other)
      | failed _ | killed => trivial

/-- A child moves: what has to be shown of the position that it goes to. -/
theorem Invariant.childMoves {setup : Setup} {state : State} (holds : Invariant setup state)
    {child : Child} (live : (state.child child).Live) {pc : ChildPc} {table : Slots File}
    (stays : pc ≠ .absent)
    (holdsTable : forall fd, table.get fd = childTable setup state.pfd child fd pc)
    (moving : pc = .duplicating ∨ pc = .closingOwn ->
      (plumbing state.pfd child).own ≠ (plumbing state.pfd child).standard)
    (lsDone : child = .ls -> pc = .ended .exited -> state.unwritten = [])
    (wcDone : child = .wc -> pc = .ended .exited ->
      state.pipe = [] ∧ Exists fun ending => state.child .ls = .ended ending) :
    Invariant setup (state.moveChild child pc table) := by
  have here := state.child_moveChild child pc table
  have untouched : forall other, other ≠ child ->
      (state.moveChild child pc table).child other = state.child other :=
    fun other different => state.child_moveChild_of_ne different pc table
  constructor
  case pfd => exact Or.inl (holds.fresh live)
  case parent =>
    intro fd
    rw [State.descriptors_moveChild_of_ne _ Party.noConfusion]
    exact holds.parent fd
  case child =>
    intro other fd
    by_cases equal : other = child
    · rw [equal, State.descriptors_moveChild, here]
      exact holdsTable fd
    · have different : Party.child other ≠ .child child := fun same => equal (Party.child.inj same)
      rw [State.descriptors_moveChild_of_ne _ different, untouched other equal]
      exact holds.child other fd
  case forked => exact holds.forked.moved live stays table
  case order =>
    intro absent
    have lsAbsent : state.child .ls = .absent := by
      by_cases equal : Child.ls = child
      · rw [equal, here] at absent
        exact absurd absent stays
      · rw [untouched .ls equal] at absent
        exact absent
    have wcAbsent := holds.order lsAbsent
    refine (untouched .wc ?_).trans wcAbsent
    intro equal
    rw [equal] at wcAbsent
    exact live.not_absent wcAbsent
  case moving =>
    intro other
    by_cases equal : other = child
    · rw [equal, here]
      exact moving
    · rw [untouched other equal]
      exact holds.moving other
  case flow => exact holds.flow
  case lsDone =>
    by_cases equal : Child.ls = child
    · intro done
      rw [equal, here] at done
      exact lsDone equal.symm done
    · rw [untouched .ls equal]
      exact holds.lsDone
  case wcDone =>
    intro done
    have before : state.pipe = [] ∧ Exists fun ending => state.child .ls = .ended ending := by
      by_cases equal : Child.wc = child
      · rw [equal, here] at done
        exact wcDone equal.symm done
      · rw [untouched .wc equal] at done
        exact holds.wcDone done
    rcases before with ⟨empty, ending, ended⟩
    refine ⟨empty, ending, (untouched .ls ?_).trans ended⟩
    intro equal
    rw [equal] at ended
    exact live.not_ended ending ended

theorem Invariant.childEnds {setup : Setup} {state : State} (holds : Invariant setup state)
    {child : Child} (live : (state.child child).Live) (ending : Ending)
    (lsDone : child = .ls -> ending = .exited -> state.unwritten = [])
    (wcDone : child = .wc -> ending = .exited ->
      state.pipe = [] ∧ Exists fun other => state.child .ls = .ended other) :
    Invariant setup (state.moveChild child (.ended ending) ⟨[]⟩) := by
  refine holds.childMoves live ChildPc.noConfusion (fun _ => rfl) ?_ ?_ ?_
  · rintro (impossible | impossible) <;> cases impossible
  · exact fun same done => lsDone same (ChildPc.ended.inj done)
  · exact fun same done => wcDone same (ChildPc.ended.inj done)

theorem Invariant.childCall {setup : Setup} {state : State} (holds : Invariant setup state)
    (child : Child) (live : (state.child child).Live) {pc : ChildPc} {table : Slots File}
    (outcome : Outcome) (call : String) (goes : pc.Live)
    (holdsTable : forall fd, table.get fd = childTable setup state.pfd child fd pc)
    (moving : pc = .duplicating ∨ pc = .closingOwn ->
      (plumbing state.pfd child).own ≠ (plumbing state.pfd child).standard) :
    Invariant setup (state.childCall setup child outcome call (state.moveChild child pc table)) := by
  cases outcome with
  | succeeds =>
      exact holds.childMoves live goes.not_absent holdsTable moving
        (fun _ ended => absurd ended (goes.not_ended _)) (fun _ ended => absurd ended (goes.not_ended _))
  | fails errno =>
      exact holds.childEnds live _ (fun _ impossible => by cases impossible)
        (fun _ impossible => by cases impossible)

theorem childStep_preserves {setup : Setup} {state next : State} {child : Child} {outcome : Outcome}
    (holds : Invariant setup state) (stepped : state.childStep setup child outcome = some next) :
    Invariant setup next := by
  have table := holds.child child
  have moving := holds.moving child
  have fresh : (state.child child).Live -> FreshPair setup state.pfd := holds.fresh
  have calls := holds.childCall child
  unfold State.childStep at stepped
  cases position : state.child child with
  | absent | running | ended _ =>
      rw [position] at stepped
      cases stepped
  | closingUnused =>
      rw [position] at stepped table fresh calls
      cases stepped
      have released := (fresh trivial).get_closeUnused child table
      by_cases moved : (plumbing state.pfd child).own ≠ (plumbing state.pfd child).standard
      · rw [if_pos moved]
        exact calls trivial outcome _ trivial released (fun _ => moved)
      · rw [if_neg moved]
        refine calls trivial outcome _ trivial ?_ ?_
        · intro fd
          rw [released, not_not.mp moved]
          rfl
        · rintro (impossible | impossible) <;> cases impossible
  | duplicating =>
      rw [position] at stepped table calls moving
      cases stepped
      exact calls trivial outcome _ trivial (FreshPair.get_duplicate child table)
        (fun _ => moving (Or.inl rfl))
  | closingOwn =>
      rw [position] at stepped table calls moving fresh
      cases stepped
      refine calls trivial outcome _ trivial
        ((fresh trivial).get_closeOwn child (moving (Or.inr rfl)) table) ?_
      rintro (impossible | impossible) <;> cases impossible
  | executing =>
      rw [position] at stepped table calls
      cases stepped
      refine calls trivial outcome _ trivial table ?_
      rintro (impossible | impossible) <;> cases impossible

/-- The parent moves: what has to be shown of the position that it goes to. -/
theorem Invariant.parentMoves {setup : Setup} {state : State} (holds : Invariant setup state)
    {pc : ParentPc} {table : Slots File}
    (pfd : FreshPair setup state.pfd ∨ Unpiped (state.moveParent pc table))
    (holdsTable : forall fd, table.get fd = parentTable setup state.pfd fd pc)
    (forked : Forked (state.moveParent pc table)) : Invariant setup (state.moveParent pc table) := by
  constructor
  case pfd => exact pfd
  case parent =>
    intro fd
    rw [State.descriptors_moveParent]
    exact holdsTable fd
  case child =>
    intro child fd
    rw [State.descriptors_moveParent_child]
    exact holds.child child fd
  case forked => exact forked
  case order => exact holds.order
  case moving => exact holds.moving
  case flow => exact holds.flow
  case lsDone => exact holds.lsDone
  case wcDone => exact holds.wcDone

theorem Invariant.parentCall {setup : Setup} {state next : State} (holds : Invariant setup state)
    (outcome : Outcome) (call : String) (succeeds : Invariant setup next) :
    Invariant setup (state.parentCall setup outcome call next) := by
  cases outcome with
  | succeeds => exact succeeds
  | fails errno =>
      have pfd := holds.pfd.imp_right
        (fun unpiped => (⟨unpiped.1, Or.inr ⟨_, rfl⟩⟩ : Unpiped (state.moveParent
          (.ended (.failed (errExit setup.dumpcore errno call))) ⟨[]⟩)))
      exact holds.parentMoves pfd (fun _ => rfl) trivial

/-- The parent is past the creation of the pipe. -/
theorem Invariant.piped {setup : Setup} {state : State} (holds : Invariant setup state)
    (notPiping : state.parent ≠ .piping) (notEnded : forall ending, state.parent ≠ .ended ending) :
    FreshPair setup state.pfd := by
  rcases holds.pfd with fresh | ⟨_, piping | ⟨failure, ended⟩⟩
  · exact fresh
  · exact absurd piping notPiping
  · exact absurd ended (notEnded _)

theorem Invariant.forks {setup : Setup} {state : State} (holds : Invariant setup state)
    {child : Child} (forking : state.parent = .forking child) (following : ParentPc)
    (same : forall fd, parentTable setup state.pfd fd following = bothEnds setup state.pfd fd)
    (forked : Forked ((state.moveChild child .closingUnused (state.descriptors .parent)).moveParent
      following (state.descriptors .parent))) :
    Invariant setup ((state.moveChild child .closingUnused (state.descriptors .parent)).moveParent
      following (state.descriptors .parent)) := by
  have table := holds.parent
  rw [forking] at table
  have fresh := holds.piped (by rw [forking]; exact ParentPc.noConfusion)
    (by rw [forking]; exact fun _ => ParentPc.noConfusion)
  have absent : state.child child = .absent := by
    have known := holds.forked
    unfold Forked at known
    rw [forking] at known
    cases child with
    | ls => exact known .ls
    | wc => exact known.2
  have here := state.child_moveChild child .closingUnused (state.descriptors .parent)
  have untouched : forall other, other ≠ child ->
      (state.moveChild child .closingUnused (state.descriptors .parent)).child other =
        state.child other :=
    fun other different => state.child_moveChild_of_ne different _ _
  constructor
  case pfd => exact Or.inl fresh
  case parent =>
    intro fd
    rw [State.descriptors_moveParent, table]
    exact (same fd).symm
  case child =>
    intro other fd
    rw [State.descriptors_moveParent_child, State.child_moveParent]
    by_cases equal : other = child
    · rw [equal, State.descriptors_moveChild, here, table]
      rfl
    · have different : Party.child other ≠ .child child := fun same => equal (Party.child.inj same)
      rw [State.descriptors_moveChild_of_ne _ different, untouched other equal]
      exact holds.child other fd
  case forked => exact forked
  case order =>
    rw [State.child_moveParent]
    cases child with
    | ls =>
        intro impossible
        rw [State.child_moveChild] at impossible
        cases impossible
    | wc =>
        have known := holds.forked
        unfold Forked at known
        rw [forking] at known
        intro impossible
        rw [State.child_moveChild_of_ne _ Child.noConfusion] at impossible
        exact absurd impossible known.1
  case moving =>
    intro other
    rw [State.child_moveParent]
    by_cases equal : other = child
    · rw [equal, here]
      rintro (impossible | impossible) <;> cases impossible
    · rw [untouched other equal]
      exact holds.moving other
  case flow => exact holds.flow
  case lsDone =>
    intro done
    rw [State.child_moveParent] at done
    by_cases equal : Child.ls = child
    · rw [equal, here] at done
      cases done
    · rw [untouched .ls equal] at done
      exact holds.lsDone done
  case wcDone =>
    intro done
    rw [State.child_moveParent] at done ⊢
    by_cases equal : Child.wc = child
    · rw [equal, here] at done
      cases done
    · rw [untouched .wc equal] at done
      rcases holds.wcDone done with ⟨empty, ending, ended⟩
      refine ⟨empty, ending, (untouched .ls ?_).trans ended⟩
      intro same
      rw [← same, ended] at absent
      cases absent

theorem Invariant.pipes {setup : Setup} {state : State} (holds : Invariant setup state)
    (piping : state.parent = .piping) :
    Invariant setup ({ state with
      pfd := ((state.descriptors .parent).lowestFree,
        ((state.descriptors .parent).acquire .readEnd).lowestFree) }.moveParent (.forking .ls)
      (((state.descriptors .parent).acquire .readEnd).acquire .writeEnd)) := by
  have table := holds.parent
  have absent := holds.forked
  unfold Forked at absent
  rw [piping] at table absent
  constructor
  case pfd => exact Or.inl (freshPair_pipe setup table)
  case parent =>
    intro fd
    rw [State.descriptors_moveParent]
    exact get_pipe setup table fd
  case child =>
    intro child fd
    have before := holds.child child fd
    rw [absent child] at before
    rw [State.descriptors_moveParent_child, State.child_moveParent, absent child]
    exact before
  case forked => exact absent
  case order => exact fun _ => absent .wc
  case moving =>
    intro child
    rw [State.child_moveParent, absent child]
    rintro (impossible | impossible) <;> cases impossible
  case flow => exact holds.flow
  case lsDone => exact holds.lsDone
  case wcDone => exact holds.wcDone

theorem parentStep_preserves {setup : Setup} {state next : State} {outcome : Outcome}
    (holds : Invariant setup state) (stepped : state.parentStep setup outcome = some next) :
    Invariant setup next := by
  have table := holds.parent
  have forked := holds.forked
  have piped := holds.piped
  have pipes := holds.pipes
  unfold Forked at forked
  unfold State.parentStep at stepped
  cases position : state.parent with
  | piping =>
      rw [position] at stepped
      cases stepped
      exact holds.parentCall outcome "pipe" (pipes position)
  | forking child =>
      rw [position] at stepped forked
      cases stepped
      apply holds.parentCall
      cases child with
      | ls =>
          apply holds.forks position _ (fun _ => rfl)
          refine ⟨?_, ?_⟩
          · rw [State.child_moveParent, State.child_moveChild]
            exact ChildPc.noConfusion
          · rw [State.child_moveParent, State.child_moveChild_of_ne _ Child.noConfusion]
            exact forked .wc
      | wc =>
          apply holds.forks position _ (fun _ => rfl)
          intro other
          rw [State.child_moveParent]
          cases other with
          | ls =>
              rw [State.child_moveChild_of_ne _ Child.noConfusion]
              exact forked.1
          | wc =>
              rw [State.child_moveChild]
              exact ChildPc.noConfusion
  | closingRead =>
      rw [position] at stepped table forked piped
      cases stepped
      apply holds.parentCall
      have fresh := piped ParentPc.noConfusion (fun _ => ParentPc.noConfusion)
      refine holds.parentMoves (Or.inl fresh) ?_ forked
      intro fd
      rw [Slots.get_release, table]
      change _ = if fd = state.pfd.2 then some .writeEnd else setup.inherited.get fd
      unfold parentTable bothEnds
      by_cases first : fd = state.pfd.1
      · rw [if_pos first, first, if_neg fresh.different, fresh.first]
      · rw [if_neg first, if_neg first]
  | closingWrite =>
      rw [position] at stepped table forked piped
      cases stepped
      apply holds.parentCall
      have fresh := piped ParentPc.noConfusion (fun _ => ParentPc.noConfusion)
      refine holds.parentMoves (Or.inl fresh) ?_ forked
      intro fd
      rw [Slots.get_release, table]
      change _ = setup.inherited.get fd
      unfold parentTable
      by_cases second : fd = state.pfd.2
      · rw [if_pos second, second, fresh.second]
      · rw [if_neg second, if_neg second]
  | waiting | waitingAgain _ =>
      rw [position] at stepped
      cases outcome with
      | succeeds => cases stepped
      | fails errno =>
          cases stepped
          exact holds.parentCall _ _ holds
  | exiting =>
      rw [position] at stepped forked piped
      cases stepped
      exact holds.parentMoves (Or.inl (piped ParentPc.noConfusion (fun _ => ParentPc.noConfusion)))
        (fun _ => rfl) forked
  | ended _ =>
      rw [position] at stepped
      cases stepped

theorem reapStep_preserves {setup : Setup} {state next : State} {child : Child}
    (holds : Invariant setup state) (stepped : state.reapStep child = some next) :
    Invariant setup next := by
  have table := holds.parent
  have forked := holds.forked
  have piped := holds.piped
  unfold Forked at forked
  unfold State.reapStep at stepped
  cases there : state.child child with
  | absent | closingUnused | duplicating | closingOwn | executing | running =>
      rw [there] at stepped
      cases stepped
  | ended ending =>
      rw [there] at stepped
      cases position : state.parent with
      | piping | forking _ | closingRead | closingWrite | exiting | ended _ =>
          rw [position] at stepped
          cases stepped
      | waiting =>
          rw [position] at stepped table forked piped
          cases stepped
          exact holds.parentMoves (Or.inl (piped ParentPc.noConfusion (fun _ => ParentPc.noConfusion)))
            table ⟨forked, ending, there⟩
      | waitingAgain reaped =>
          rw [position] at stepped table forked piped
          simp only at stepped
          split at stepped
          · rename_i different
            cases stepped
            refine holds.parentMoves
              (Or.inl (piped ParentPc.noConfusion (fun _ => ParentPc.noConfusion))) table ?_
            intro other
            rcases forked.2 with ⟨first, firstEnded⟩
            by_cases same : other = child
            · exact ⟨ending, same ▸ there⟩
            · have isReaped : other = reaped := by
                cases other <;> cases child <;> cases reaped <;>
                  first | rfl | exact absurd rfl same | exact absurd rfl different
              exact ⟨first, isReaped ▸ firstEnded⟩
          · cases stepped

theorem writeStep_preserves {setup : Setup} {state next : State} {count : Nat}
    (holds : Invariant setup state) (stepped : state.writeStep setup count = some next) :
    Invariant setup next := by
  unfold State.writeStep at stepped
  split at stepped
  · rename_i guard
    rcases guard with ⟨running, _, _, _⟩
    have live : (state.child .ls).Live := by
      rw [running]
      trivial
    split at stepped
    · split at stepped
      · cases stepped
        constructor
        case pfd => exact holds.pfd
        case parent => exact holds.parent
        case child => exact holds.child
        case forked => exact holds.forked
        case order => exact holds.order
        case moving => exact holds.moving
        case flow =>
          rw [holds.flow, List.append_assoc, List.append_assoc, List.append_assoc,
            List.take_append_drop]
        case lsDone => exact fun done => absurd done (live.not_ended _)
        case wcDone =>
          intro done
          rcases (holds.wcDone done).2 with ⟨ending, ended⟩
          exact absurd ended (live.not_ended ending)
      · cases stepped
    · cases stepped
      exact holds.childEnds live _ (fun _ impossible => by cases impossible)
        (fun impossible => by cases impossible)
  · cases stepped

theorem lsExitStep_preserves {setup : Setup} {state next : State} (holds : Invariant setup state)
    (stepped : state.lsExitStep = some next) : Invariant setup next := by
  unfold State.lsExitStep at stepped
  split at stepped
  · rename_i guard
    cases stepped
    refine holds.childEnds ?_ _ (fun _ _ => guard.2) (fun impossible => by cases impossible)
    rw [guard.1]
    trivial
  · cases stepped

theorem readStep_preserves {setup : Setup} {state next : State} {count : Nat}
    (holds : Invariant setup state) (stepped : state.readStep count = some next) :
    Invariant setup next := by
  unfold State.readStep at stepped
  split at stepped
  · rename_i guard
    rcases guard with ⟨running, _, _, _⟩
    cases stepped
    constructor
    case pfd => exact holds.pfd
    case parent => exact holds.parent
    case child => exact holds.child
    case forked => exact holds.forked
    case order => exact holds.order
    case moving => exact holds.moving
    case flow =>
      have split : state.received ++ state.pipe.take count ++ state.pipe.drop count =
          state.received ++ state.pipe := by
        rw [List.append_assoc, List.take_append_drop]
      rw [holds.flow, ← split]
    case lsDone => exact holds.lsDone
    case wcDone =>
      intro done
      rw [running] at done
      cases done
  · cases stepped

/-- Who has an end of the pipe open can be read off the tables. -/
theorem isOpen_iff (state : State) (file : File) :
    state.isOpen file = true <-> Exists fun party => Exists fun fd =>
      (state.descriptors party).get fd = some file := by
  have contains : forall slots : Slots File, slots.places.contains (some file) = true <->
      Exists fun fd => slots.get fd = some file := by
    intro slots
    rw [List.contains_iff_mem]
    constructor
    · intro member
      rcases List.getElem?_of_mem member with ⟨fd, there⟩
      exact ⟨fd, Option.join_eq_some_iff.mpr there⟩
    · rintro ⟨fd, there⟩
      exact Slots.mem_places_of_get there
  unfold State.isOpen
  rw [List.any_eq_true]
  constructor
  · rintro ⟨party, _, found⟩
    exact ⟨party, (contains _).mp found⟩
  · rintro ⟨party, there⟩
    refine ⟨party, ?_, (contains _).mpr there⟩
    cases party with
    | parent => exact List.mem_cons_self
    | child child => cases child <;> simp

/-- A child that lives has the end of the pipe that it is to use. -/
theorem Invariant.live_holds {setup : Setup} {state : State} (holds : Invariant setup state)
    {child : Child} (live : (state.child child).Live) :
    Exists fun fd => (state.descriptors (.child child)).get fd = some child.file := by
  have table := holds.child child
  have fresh := holds.fresh live
  cases position : state.child child with
  | absent =>
      rw [position] at live
      exact live.elim
  | ended _ =>
      rw [position] at live
      exact live.elim
  | closingUnused =>
      rw [position] at table
      have own := bothEnds_eq setup child (plumbing state.pfd child).own
        (fresh.unused_free child).2.2.symm
      exact ⟨_, (table _).trans (own.trans (if_pos rfl))⟩
  | duplicating =>
      rw [position] at table
      exact ⟨_, (table _).trans (if_pos rfl)⟩
  | closingOwn =>
      rw [position] at table
      exact ⟨_, (table _).trans (if_pos (Or.inl rfl))⟩
  | executing | running =>
      rw [position] at table
      exact ⟨_, (table _).trans (if_pos rfl)⟩

/-- What a program finds when it is executed. -/
theorem Invariant.running_get {setup : Setup} {state : State} (holds : Invariant setup state)
    {child : Child} (running : state.child child = .running) (fd : Nat) :
    (state.descriptors (.child child)).get fd =
      if fd = (plumbing state.pfd child).standard then some child.file
      else setup.inherited.get fd := by
  have table := holds.child child fd
  rw [running] at table
  exact table

theorem wcExitStep_preserves {setup : Setup} {state next : State} (holds : Invariant setup state)
    (stepped : state.wcExitStep = some next) : Invariant setup next := by
  unfold State.wcExitStep at stepped
  split at stepped
  · rename_i guard
    rcases guard with ⟨running, _, empty, closed⟩
    have live : (state.child .wc).Live := by
      rw [running]
      trivial
    have present : state.child .ls ≠ .absent := fun absent => live.not_absent (holds.order absent)
    have dead : ¬ (state.child .ls).Live := by
      intro lsLive
      rcases holds.live_holds lsLive with ⟨fd, there⟩
      have isOpen := (isOpen_iff state .writeEnd).mpr ⟨_, fd, there⟩
      rw [closed] at isOpen
      cases isOpen
    have ended : Exists fun ending => state.child .ls = .ended ending := by
      cases there : state.child .ls with
      | absent => exact absurd there present
      | ended ending => exact ⟨ending, rfl⟩
      | closingUnused | duplicating | closingOwn | executing | running =>
          rw [there] at dead
          exact absurd trivial dead
    cases stepped
    exact holds.childEnds live _ (fun impossible => by cases impossible) (fun _ _ => ⟨empty, ended⟩)
  · cases stepped

theorem step_preserves {setup : Setup} {state next : State} {action : Action}
    (holds : Invariant setup state) (stepped : state.step setup action = some next) :
    Invariant setup next := by
  cases action with
  | parent outcome => exact parentStep_preserves holds stepped
  | reap child => exact reapStep_preserves holds stepped
  | child child outcome => exact childStep_preserves holds stepped
  | write count => exact writeStep_preserves holds stepped
  | lsExits => exact lsExitStep_preserves holds stepped
  | read count => exact readStep_preserves holds stepped
  | wcExits => exact wcExitStep_preserves holds stepped

theorem start_invariant (setup : Setup) : Invariant setup (start setup) where
  pfd := Or.inr ⟨fun _ => rfl, Or.inl rfl⟩
  parent _ := rfl
  child _ _ := rfl
  forked _ := rfl
  order _ := rfl
  moving _ impossible := by rcases impossible with impossible | impossible <;> cases impossible
  flow := rfl
  lsDone impossible := by cases impossible
  wcDone impossible := by cases impossible

theorem reachable_invariant {setup : Setup} {state : State}
    (reachable : (machine setup).Reachable state) : Invariant setup state := by
  refine Machine.Reachable.invariant ?_ ?_ reachable
  · intro first initial
    rw [show first = start setup from initial]
    exact start_invariant setup
  · intro current action next holds stepped
    exact step_preserves holds stepped

/-!
## The programs find the pipe where they look for it
-/

/-- Whatever the program was started with, `ls` has the end for writing as its standard
output and nothing else of the pipe, `wc` likewise the end for reading as its standard
input, and the parent that waits has neither; all other files are as they were.  When the
two programs have exited, everything that was written has been read. -/
structure Plumbed (setup : Setup) (state : State) : Prop where
  ls : state.child .ls = .running -> forall fd, (state.descriptors (.child .ls)).get fd =
    if fd = 1 then some .writeEnd else setup.inherited.get fd
  wc : state.child .wc = .running -> forall fd, (state.descriptors (.child .wc)).get fd =
    if fd = 0 then some .readEnd else setup.inherited.get fd
  parent : state.parent = .waiting -> forall fd,
    (state.descriptors .parent).get fd = setup.inherited.get fd
  reaped : state.parent = .ended .exited -> forall child,
    Exists fun ending => state.child child = .ended ending
  complete : state.child .ls = .ended .exited -> state.child .wc = .ended .exited ->
    state.received = setup.listing

theorem Invariant.plumbed {setup : Setup} {state : State} (holds : Invariant setup state) :
    Plumbed setup state where
  ls running := holds.running_get running
  wc running := holds.running_get running
  parent waiting := by
    have table := holds.parent
    rw [waiting] at table
    exact table
  reaped exited := by
    have forked := holds.forked
    unfold Forked at forked
    rw [exited] at forked
    exact forked
  complete lsExited wcExited := by
    have flow := holds.flow
    rw [holds.lsDone lsExited, (holds.wcDone wcExited).1, List.append_nil, List.append_nil] at flow
    exact flow.symm

/-- The plumbing is right under every schedule and for every table to begin with. -/
theorem pipeline_plumbed (setup : Setup) : forall state, (machine setup).Reachable state ->
    Plumbed setup state :=
  fun _ reachable => (reachable_invariant reachable).plumbed

/-- The program is started with its standard input and output closed. -/
def closedSetup : Setup where
  inherited := ⟨[none, none, some (.other 2)]⟩
  dumpcore := none
  capacity := 4
  listing := ascii "a\nbc\n"
  positive := by decide
  diagnostics := by decide
  foreign := by
    intro fd
    match fd with
    | 0 | 1 | 2 => decide
    | more + 3 => exact ⟨(fun has => by cases has), (fun has => by cases has)⟩

/-- Neither child has to move its end, and `wc` reads while `ls` still writes. -/
def closedActions : List Action :=
  List.replicate 5 (.parent .succeeds) ++ List.replicate 2 (.child .wc .succeeds) ++
    List.replicate 2 (.child .ls .succeeds) ++
    [.write 3, .read 1, .write 2, .lsExits, .reap .ls, .read 4, .wcExits, .reap .wc, .parent .succeeds]

def closedFinal : State :=
  ((machine closedSetup).exec (start closedSetup) closedActions).get (by decide +kernel)

theorem pipeline_plumbed_closed :
    (closedFinal.pfd = (0, 1) ∧ closedFinal.parent = .ended .exited ∧
      closedFinal.received = ascii "a\nbc\n") ∧ Plumbed closedSetup closedFinal := by
  have executed : (machine closedSetup).exec (start closedSetup) closedActions = some closedFinal :=
    (Option.some_get _).symm
  exact ⟨by decide +kernel, pipeline_plumbed _ _ (Machine.reachable_of_exec rfl executed)⟩

/-!
## The pipeline comes to its end
-/

theorem Invariant.running_holds {setup : Setup} {state : State} (holds : Invariant setup state)
    {child : Child} (running : state.child child = .running) {fd : Nat} {file : File}
    (there : (state.descriptors (.child child)).get fd = some file)
    (isEnd : file = .readEnd ∨ file = .writeEnd) : file = child.file := by
  rw [holds.running_get running] at there
  split at there
  · exact (Option.some.inj there).symm
  · rcases isEnd with read | write
    · rw [read] at there
      exact absurd there (setup.foreign fd).1
    · rw [write] at there
      exact absurd there (setup.foreign fd).2

/-- The parent has done what it does before it waits. -/
def ParentPc.Waits : ParentPc -> Prop
  | .waiting | .waitingAgain _ | .ended _ => True
  | _ => False

theorem Invariant.parent_holds {setup : Setup} {state : State} (holds : Invariant setup state)
    (waits : state.parent.Waits) (fd : Nat) :
    (state.descriptors .parent).get fd ≠ some .readEnd ∧
      (state.descriptors .parent).get fd ≠ some .writeEnd := by
  rw [holds.parent]
  cases position : state.parent with
  | waiting | waitingAgain _ => exact setup.foreign fd
  | ended _ =>
      constructor <;>
        · intro impossible
          cases impossible
  | piping | forking _ | closingRead | closingWrite | exiting =>
      rw [position] at waits
      exact waits.elim

theorem Invariant.dead_holds {setup : Setup} {state : State} (holds : Invariant setup state)
    {child : Child} (dead : ¬ (state.child child).Live) (fd : Nat) :
    (state.descriptors (.child child)).get fd = none := by
  rw [holds.child]
  cases position : state.child child with
  | absent | ended _ => rfl
  | closingUnused | duplicating | closingOwn | executing | running =>
      rw [position] at dead
      exact absurd trivial dead

def Action.Fails : Action -> Prop
  | .parent (.fails _) | .child _ (.fails _) => True
  | _ => False

/-- Some step can be taken in which nothing fails. -/
def Enabled (setup : Setup) (state : State) : Prop :=
  Exists fun action : Action => ¬ action.Fails ∧
    Exists fun next => state.step setup action = some next

def Finished (state : State) : Prop :=
  (Exists fun ending => state.parent = .ended ending) ∧ forall child, ¬ (state.child child).Live

/-- `ls` can go on: someone reads, or no one ever will. -/
theorem Invariant.enabled_ls {setup : Setup} {state : State} (holds : Invariant setup state)
    (waits : state.parent.Waits) (running : state.child .ls = .running)
    (other : (state.child .wc).Live -> state.child .wc = .running) : Enabled setup state := by
  have standard : (state.descriptors (.child .ls)).get 1 = some .writeEnd :=
    (holds.running_get running 1).trans (if_pos rfl)
  cases unwritten : state.unwritten with
  | nil => exact ⟨.lsExits, id, _, if_pos ⟨running, unwritten⟩⟩
  | cons byte rest =>
      have more : 1 ≤ state.unwritten.length := by
        rw [unwritten]
        exact Nat.succ_pos _
      have guard : state.child .ls = .running ∧
          (state.descriptors (.child .ls)).get 1 = some .writeEnd ∧ 0 < 1 ∧
            1 ≤ state.unwritten.length := ⟨running, standard, Nat.one_pos, more⟩
      cases readers : state.isOpen .readEnd with
      | false =>
          refine ⟨.write 1, id, state.moveChild .ls (.ended .killed) ⟨[]⟩, ?_⟩
          simp [State.step, State.writeStep, guard, readers]
      | true =>
          by_cases room : state.pipe.length + 1 ≤ setup.capacity
          · refine ⟨.write 1, id, { state with
              pipe := state.pipe ++ state.unwritten.take 1, unwritten := state.unwritten.drop 1 }, ?_⟩
            simp [State.step, State.writeStep, guard, readers, room]
          · -- the pipe is full, and only `wc` can have the other end
            have full : 1 ≤ state.pipe.length := by
              have positive := setup.positive
              omega
            rcases (isOpen_iff state .readEnd).mp readers with ⟨party, fd, there⟩
            have wcRunning : state.child .wc = .running := by
              cases party with
              | parent => exact absurd there (holds.parent_holds waits fd).1
              | child child =>
                  cases child with
                  | ls =>
                      have mine := holds.running_holds running there (Or.inl rfl)
                      cases mine
                  | wc =>
                      by_cases live : (state.child .wc).Live
                      · exact other live
                      · rw [holds.dead_holds live fd] at there
                        cases there
            have input : (state.descriptors (.child .wc)).get 0 = some .readEnd :=
              (holds.running_get wcRunning 0).trans (if_pos rfl)
            exact ⟨.read 1, id, _, if_pos ⟨wcRunning, input, Nat.one_pos, full⟩⟩

/-- `wc` can go on: there is something to read, or the end of its input. -/
theorem Invariant.enabled_wc {setup : Setup} {state : State} (holds : Invariant setup state)
    (waits : state.parent.Waits) (running : state.child .wc = .running)
    (dead : ¬ (state.child .ls).Live) : Enabled setup state := by
  have input : (state.descriptors (.child .wc)).get 0 = some .readEnd :=
    (holds.running_get running 0).trans (if_pos rfl)
  cases bytes : state.pipe with
  | cons byte rest =>
      have some : 1 ≤ state.pipe.length := by
        rw [bytes]
        exact Nat.succ_pos _
      exact ⟨.read 1, id, _, if_pos ⟨running, input, Nat.one_pos, some⟩⟩
  | nil =>
      have closed : state.isOpen .writeEnd = false := by
        rw [Bool.eq_false_iff]
        intro writers
        rcases (isOpen_iff state .writeEnd).mp writers with ⟨party, fd, there⟩
        cases party with
        | parent => exact (holds.parent_holds waits fd).2 there
        | child child =>
            cases child with
            | ls =>
                rw [holds.dead_holds dead fd] at there
                cases there
            | wc =>
                have mine := holds.running_holds running there (Or.inr rfl)
                cases mine
      exact ⟨.wcExits, id, _, if_pos ⟨running, input, bytes, closed⟩⟩

/-- The parent that waits finds a child once the children have ended. -/
theorem Invariant.enabled_reap {setup : Setup} {state : State} (holds : Invariant setup state)
    (waits : state.parent.Waits) (dead : forall child, ¬ (state.child child).Live) :
    Enabled setup state ∨ Finished state := by
  have forked := holds.forked
  unfold Forked at forked
  have ended : (forall child, state.child child ≠ .absent) ->
      forall child, Exists fun ending => state.child child = .ended ending := by
    intro present child
    have notLive := dead child
    cases position : state.child child with
    | absent => exact absurd position (present child)
    | ended ending => exact ⟨ending, rfl⟩
    | closingUnused | duplicating | closingOwn | executing | running =>
        rw [position] at notLive
        exact absurd trivial notLive
  cases position : state.parent with
  | waiting =>
      rw [position] at forked
      rcases ended forked .ls with ⟨ending, lsEnded⟩
      refine Or.inl ⟨.reap .ls, id, state.moveParent (.waitingAgain .ls) (state.descriptors .parent), ?_⟩
      simp [State.step, State.reapStep, position, lsEnded]
  | waitingAgain reaped =>
      rw [position] at forked
      obtain ⟨other, different⟩ : Exists fun other : Child => other ≠ reaped := by
        cases reaped with
        | ls => exact ⟨.wc, Child.noConfusion⟩
        | wc => exact ⟨.ls, Child.noConfusion⟩
      rcases ended forked.1 other with ⟨ending, otherEnded⟩
      refine Or.inl ⟨.reap other, id, state.moveParent .exiting (state.descriptors .parent), ?_⟩
      simp [State.step, State.reapStep, position, otherEnded, different]
  | ended ending => exact Or.inr ⟨⟨ending, position⟩, dead⟩
  | piping | forking _ | closingRead | closingWrite | exiting =>
      rw [position] at waits
      exact waits.elim

theorem Invariant.enabled {setup : Setup} {state : State} (holds : Invariant setup state) :
    Enabled setup state ∨ Finished state := by
  by_cases waits : state.parent.Waits
  · by_cases preparing : Exists fun child =>
      (state.child child).Live ∧ state.child child ≠ .running
    · rcases preparing with ⟨child, live, notRunning⟩
      refine Or.inl ⟨.child child .succeeds, id, ?_⟩
      change Exists fun next => state.childStep setup child .succeeds = some next
      unfold State.childStep
      cases position : state.child child with
      | absent =>
          rw [position] at live
          exact live.elim
      | ended _ =>
          rw [position] at live
          exact live.elim
      | running => exact absurd position notRunning
      | closingUnused | duplicating | closingOwn | executing => exact ⟨_, rfl⟩
    · have runs : forall child, (state.child child).Live -> state.child child = .running := by
        intro child live
        by_contra notRunning
        exact preparing ⟨child, live, notRunning⟩
      by_cases lsLive : (state.child .ls).Live
      · exact Or.inl (holds.enabled_ls waits (runs .ls lsLive) (runs .wc))
      · by_cases wcLive : (state.child .wc).Live
        · exact Or.inl (holds.enabled_wc waits (runs .wc wcLive) lsLive)
        · exact holds.enabled_reap waits (fun child => by cases child <;> assumption)
  · refine Or.inl ⟨.parent .succeeds, id, ?_⟩
    change Exists fun next => state.parentStep setup .succeeds = some next
    unfold State.parentStep
    cases position : state.parent with
    | waiting | waitingAgain _ | ended _ =>
        rw [position] at waits
        exact absurd trivial waits
    | piping | forking _ | closingRead | closingWrite | exiting => exact ⟨_, rfl⟩

/-- How far the parent is from its end. -/
def ParentPc.rank : ParentPc -> Nat
  | .piping => 8
  | .forking .ls => 7
  | .forking .wc => 6
  | .closingRead => 5
  | .closingWrite => 4
  | .waiting => 3
  | .waitingAgain _ => 2
  | .exiting => 1
  | .ended _ => 0

/-- How far a child is from its end. -/
def ChildPc.rank : ChildPc -> Nat
  | .absent => 6
  | .closingUnused => 5
  | .duplicating => 4
  | .closingOwn => 3
  | .executing => 2
  | .running => 1
  | .ended _ => 0

/-- What each step uses up; a byte is written and read. -/
def State.budget (state : State) : Nat :=
  state.parent.rank + (state.child .ls).rank + (state.child .wc).rank + 2 * state.unwritten.length +
    state.pipe.length

theorem budget_child_lt {state : State} {child : Child} (pc : ChildPc) (table : Slots File)
    (lower : pc.rank < (state.child child).rank) :
    (state.moveChild child pc table).budget < state.budget := by
  have same : (state.moveChild child pc table).parent = state.parent ∧
      (state.moveChild child pc table).unwritten = state.unwritten ∧
      (state.moveChild child pc table).pipe = state.pipe := ⟨rfl, rfl, rfl⟩
  unfold State.budget
  rw [same.1, same.2.1, same.2.2]
  cases child with
  | ls =>
      rw [State.child_moveChild, State.child_moveChild_of_ne _ Child.noConfusion]
      omega
  | wc =>
      rw [State.child_moveChild, State.child_moveChild_of_ne _ Child.noConfusion]
      omega

theorem budget_parent_lt (state : State) (pc : ParentPc) (table : Slots File)
    (lower : pc.rank < state.parent.rank) : (state.moveParent pc table).budget < state.budget := by
  have same : (state.moveParent pc table).parent = pc ∧
      (state.moveParent pc table).child = state.child ∧
      (state.moveParent pc table).unwritten = state.unwritten ∧
      (state.moveParent pc table).pipe = state.pipe := ⟨rfl, rfl, rfl, rfl⟩
  unfold State.budget
  rw [same.1, same.2.1, same.2.2.1, same.2.2.2]
  omega

/-- A call that fails ends the parent. -/
theorem budget_parentCall (setup : Setup) (state next : State) (outcome : Outcome) (call : String)
    (positive : 0 < state.parent.rank) (succeeds : next.budget < state.budget) :
    (state.parentCall setup outcome call next).budget < state.budget := by
  cases outcome with
  | succeeds => exact succeeds
  | fails errno => exact budget_parent_lt state _ _ positive

theorem budget_childCall (setup : Setup) (state : State) (child : Child) (pc : ChildPc)
    (table : Slots File) (outcome : Outcome) (call : String)
    (lower : pc.rank < (state.child child).rank) :
    (state.childCall setup child outcome call (state.moveChild child pc table)).budget <
      state.budget := by
  cases outcome with
  | succeeds => exact budget_child_lt pc table lower
  | fails errno => exact budget_child_lt _ _ (Nat.lt_of_le_of_lt (Nat.zero_le _) lower)

theorem parentStep_budget {setup : Setup} {state next : State} {outcome : Outcome}
    (holds : Invariant setup state) (stepped : state.parentStep setup outcome = some next) :
    next.budget < state.budget := by
  have forked := holds.forked
  have calls := fun next => budget_parentCall setup state next outcome
  have lower := budget_parent_lt state
  unfold Forked at forked
  unfold State.parentStep at stepped
  cases position : state.parent with
  | piping =>
      rw [position] at stepped calls
      cases stepped
      apply calls _ _ (show 0 < 8 by decide)
      simp only [State.budget, State.moveParent, position, ParentPc.rank]
      omega
  | forking child =>
      rw [position] at stepped calls forked
      cases stepped
      have absent : state.child child = .absent := by
        cases child with
        | ls => exact forked .ls
        | wc => exact forked.2
      have copied : (state.moveChild child .closingUnused (state.descriptors .parent)).budget <
          state.budget := by
        apply budget_child_lt
        rw [absent]
        decide
      have position' : (state.moveChild child .closingUnused (state.descriptors .parent)).parent =
          .forking child := position
      have positive : 0 < (ParentPc.forking child).rank := by cases child <;> decide
      apply calls _ _ positive
      refine lt_trans (budget_parent_lt _ _ _ ?_) copied
      rw [position']
      cases child <;> decide
  | closingRead =>
      rw [position] at stepped calls lower
      cases stepped
      exact calls _ _ (show 0 < 5 by decide) (lower .closingWrite _ (show 4 < 5 by decide))
  | closingWrite =>
      rw [position] at stepped calls lower
      cases stepped
      exact calls _ _ (show 0 < 4 by decide) (lower .waiting _ (show 3 < 4 by decide))
  | waiting =>
      rw [position] at stepped lower
      cases outcome with
      | succeeds => cases stepped
      | fails errno =>
          cases stepped
          exact lower _ _ (show 0 < 3 by decide)
  | waitingAgain _ =>
      rw [position] at stepped lower
      cases outcome with
      | succeeds => cases stepped
      | fails errno =>
          cases stepped
          exact lower _ _ (show 0 < 2 by decide)
  | exiting =>
      rw [position] at stepped lower
      cases stepped
      exact lower _ _ (show 0 < 1 by decide)
  | ended _ =>
      rw [position] at stepped
      cases stepped

theorem childStep_budget {setup : Setup} {state next : State} {child : Child} {outcome : Outcome}
    (stepped : state.childStep setup child outcome = some next) : next.budget < state.budget := by
  have calls := fun pc table => budget_childCall setup state child pc table outcome
  unfold State.childStep at stepped
  cases position : state.child child with
  | absent | running | ended _ =>
      rw [position] at stepped
      cases stepped
  | closingUnused =>
      rw [position] at stepped calls
      cases stepped
      by_cases moved : (plumbing state.pfd child).own ≠ (plumbing state.pfd child).standard
      · rw [if_pos moved]
        exact calls _ _ _ (show 4 < 5 by decide)
      · rw [if_neg moved]
        exact calls _ _ _ (show 2 < 5 by decide)
  | duplicating =>
      rw [position] at stepped calls
      cases stepped
      exact calls _ _ _ (show 3 < 4 by decide)
  | closingOwn =>
      rw [position] at stepped calls
      cases stepped
      exact calls _ _ _ (show 2 < 3 by decide)
  | executing =>
      rw [position] at stepped calls
      cases stepped
      exact calls _ _ _ (show 1 < 2 by decide)

theorem step_budget {setup : Setup} {state next : State} {action : Action}
    (holds : Invariant setup state) (stepped : state.step setup action = some next) :
    next.budget < state.budget := by
  cases action with
  | parent outcome => exact parentStep_budget holds stepped
  | child child outcome => exact childStep_budget stepped
  | reap child =>
      change state.reapStep child = some next at stepped
      unfold State.reapStep at stepped
      split at stepped
      · split at stepped
        · rename_i waiting
          cases stepped
          apply budget_parent_lt
          rw [waiting]
          exact (show 2 < 3 by decide)
        · rename_i waiting
          split at stepped
          · cases stepped
            apply budget_parent_lt
            rw [waiting]
            exact (show 1 < 2 by decide)
          · cases stepped
        · cases stepped
      · cases stepped
  | write count =>
      change state.writeStep setup count = some next at stepped
      unfold State.writeStep at stepped
      split at stepped
      · rename_i guard
        rcases guard with ⟨running, _, positive, enough⟩
        split at stepped
        · split at stepped
          · cases stepped
            simp only [State.budget, List.length_append, List.length_take, List.length_drop]
            omega
          · cases stepped
        · cases stepped
          apply budget_child_lt
          rw [running]
          exact (show 0 < 1 by decide)
      · cases stepped
  | lsExits =>
      change state.lsExitStep = some next at stepped
      unfold State.lsExitStep at stepped
      split at stepped
      · rename_i guard
        cases stepped
        apply budget_child_lt
        rw [guard.1]
        exact (show 0 < 1 by decide)
      · cases stepped
  | read count =>
      change state.readStep count = some next at stepped
      unfold State.readStep at stepped
      split at stepped
      · rename_i guard
        rcases guard with ⟨_, _, positive, enough⟩
        cases stepped
        simp only [State.budget, List.length_drop]
        omega
      · cases stepped
  | wcExits =>
      change state.wcExitStep = some next at stepped
      unfold State.wcExitStep at stepped
      split at stepped
      · rename_i guard
        cases stepped
        apply budget_child_lt
        rw [guard.1]
        exact (show 0 < 1 by decide)
      · cases stepped

/-- A run uses up one unit of the budget in each step. -/
theorem exec_budget {setup : Setup} {state final : State} {actions : List Action}
    (holds : Invariant setup state) (executed : (machine setup).exec state actions = some final) :
    final.budget + actions.length ≤ state.budget := by
  induction actions generalizing state with
  | nil =>
      cases executed
      exact Nat.le_refl _
  | cons action rest inductionHypothesis =>
      rcases Option.bind_eq_some_iff.mp executed with ⟨next, stepped, continued⟩
      have here := step_budget holds stepped
      have there := inductionHypothesis (step_preserves holds stepped) continued
      rw [List.length_cons]
      omega

/-- The pipeline comes to its end under every schedule, and even if calls fail: no run is
longer than its budget, and one that cannot go on has ended all processes. -/
theorem pipeline_ends (setup : Setup) :
    (forall actions final, (machine setup).exec (start setup) actions = some final ->
      actions.length ≤ 20 + 2 * setup.listing.length) ∧
    (forall state, (machine setup).Reachable state -> Enabled setup state ∨ Finished state) := by
  constructor
  · intro actions final executed
    have bounded := exec_budget (start_invariant setup) executed
    have first : (start setup).budget = 20 + 2 * setup.listing.length := by
      change 8 + 6 + 6 + 2 * setup.listing.length + 0 = _
      omega
    omega
  · intro state reachable
    exact (reachable_invariant reachable).enabled

end PipeLsWc
end IpcPipeFifo
end Tlpi
