import Mathlib.Logic.Function.Basic
import Tlpi.Foundations.Slots
import Tlpi.Foundations.Transition
import Tlpi.Lib.ErrorFunctions
import Tlpi.Lib.GetNum

namespace Tlpi
namespace IpcPipeFifo
namespace PipeSync

open CLibrary Foundations Lib

/-!
# Waiting for all children at the end of a pipe

The parent creates a pipe and forks one child for each argument.  Every process has both
ends of the pipe then.  A child closes the end for writing when it has done its work, the
parent at once, and a read of the parent that returns nothing tells it that all children
are done: there is no end for writing left, in any process.

The descriptors of each process are a table of its own, which a fork copies and the end
of a process empties.  What a process writes to its standard output or error goes to
whatever its table has there, which is the pipe if the program was started with standard
descriptors closed and the end for writing got the number of one of them.  What is written
to an end that nobody reads is lost; whether `SIGPIPE` also kills the process is for the
environment to say.  One step is one call, any process may be killed at any time, and every
call that is checked may fail.
-/

/-- What a descriptor may refer to: an end of the pipe, or another file. -/
inductive File where
  | readEnd
  | writeEnd
  | other (number : Nat)
deriving DecidableEq, Repr

/-- How the program is started.  Any descriptors may be open, but no file is an end of a
pipe that does not exist yet.  `outputError` is the text of a diagnostic, and `getpid`
the process ID of each child. -/
structure Setup where
  program : List Byte
  arguments : List (List Byte)
  inherited : Slots File
  dumpcore : Option String
  outputError : Failure -> List Byte
  getpid : Nat -> Int
  foreign : forall fd, inherited.get fd ≠ some .readEnd ∧ inherited.get fd ≠ some .writeEnd

/-- At most one of the standard descriptors is closed at the start. -/
def Setup.Spare (setup : Setup) : Prop :=
  forall fd other, fd ≤ 2 -> other ≤ 2 -> setup.inherited.get fd = none ->
    setup.inherited.get other = none -> fd = other

/-- The positions of the parent, each named after what it does next, with the values of
`pfd` and `j`.  The loop variable counts from zero here. -/
inductive ParentPc where
  | starting
  | announcing
  | piping
  | forking (pfd : Nat × Nat) (j : Nat)
  | closing (pfd : Nat × Nat)
  | reading (pfd : Nat × Nat)
  | ready
  | exiting
  | ended
deriving DecidableEq, Repr

inductive ChildPc where
  | absent
  | closingRead (pfd : Nat × Nat)
  | working (pfd : Nat × Nat)
  | announcing (pfd : Nat × Nat)
  | closingWrite (pfd : Nat × Nat)
  | exiting
  | terminated
deriving DecidableEq, Repr

inductive Party where
  | parent
  | child (j : Nat)
deriving DecidableEq, Repr

/-- The processes with their descriptors, the bytes in the pipe, and what the parent's
`read` has returned. -/
structure State where
  parent : ParentPc
  child : Nat -> ChildPc
  descriptors : Party -> Slots File
  pipe : List Byte
  read : Option (Except Errno Nat)

/-- A process makes its next call, at a time that `currTime` may be asked for, or the
call fails, or the process is killed. -/
inductive Action where
  | call (party : Party) (time : List Byte)
  | fail (party : Party) (errno : Errno)
  | kill (party : Party)
deriving DecidableEq, Repr

namespace State

/-- The parent goes to another position, and its table changes. -/
def moveParent (state : State) (pc : ParentPc) (table : Slots File) : State :=
  { state with parent := pc, descriptors := Function.update state.descriptors .parent table }

/-- A child goes to another position, and its table changes. -/
def moveChild (state : State) (j : Nat) (pc : ChildPc) (table : Slots File) : State :=
  { state with
    child := Function.update state.child j pc
    descriptors := Function.update state.descriptors (.child j) table }

theorem descriptors_moveParent (state : State) (pc : ParentPc) (table : Slots File) :
    (state.moveParent pc table).descriptors .parent = table := by
  simp [moveParent]

theorem descriptors_moveParent_child (state : State) (pc : ParentPc) (table : Slots File) (j : Nat) :
    (state.moveParent pc table).descriptors (.child j) = state.descriptors (.child j) := by
  simp [moveParent]

theorem child_moveChild (state : State) (j : Nat) (pc : ChildPc) (table : Slots File) :
    (state.moveChild j pc table).child j = pc := by
  simp [moveChild]

theorem child_moveChild_of_ne (state : State) {j other : Nat} (different : other ≠ j) (pc : ChildPc)
    (table : Slots File) : (state.moveChild j pc table).child other = state.child other := by
  simp [moveChild, different]

theorem descriptors_moveChild (state : State) (j : Nat) (pc : ChildPc) (table : Slots File) :
    (state.moveChild j pc table).descriptors (.child j) = table := by
  simp [moveChild]

theorem descriptors_moveChild_of_ne (state : State) {j : Nat} {party : Party}
    (different : party ≠ .child j) (pc : ChildPc) (table : Slots File) :
    (state.moveChild j pc table).descriptors party = state.descriptors party := by
  simp [moveChild, different]

def terminate (state : State) : Party -> State
  | .parent => state.moveParent .ended ⟨[]⟩
  | .child j => state.moveChild j .terminated ⟨[]⟩

/-- The processes that there may be. -/
def parties (setup : Setup) : List Party :=
  .parent :: (List.range setup.arguments.length).map .child

def isOpen (setup : Setup) (state : State) (file : File) : Bool :=
  (parties setup).any (fun party => (state.descriptors party).places.contains (some file))

/-- A process writes to one of its descriptors. -/
def emit (setup : Setup) (state : State) (party : Party) (fd : Nat) (text : List Byte) : State :=
  match (state.descriptors party).get fd with
  | some .writeEnd =>
      if state.isOpen setup .readEnd then { state with pipe := state.pipe ++ text } else state
  | _ => state

def die (setup : Setup) (state : State) (party : Party) (failure : Failure) : State :=
  (state.emit setup party 2 (setup.outputError failure)).terminate party

/-- What `read(fd, &dummy, 1)` returns to the parent, if it does not wait.  A descriptor
that is not open for reading is refused with `EBADF`. -/
def readAnswer (setup : Setup) (state : State) (fd : Nat) : Option (Except Errno Nat) :=
  match (state.descriptors .parent).get fd with
  | some .readEnd =>
      if state.pipe ≠ [] then some (.ok 1)
      else if state.isOpen setup .writeEnd then none
      else some (.ok 0)
  | _ => some (.error (.other 9))

def afterRead (setup : Setup) (state : State) (answer : Except Errno Nat) : State :=
  let returned : State := { state with read := some answer, pipe := state.pipe.drop 1 }
  match answer with
  | .ok 0 => returned.moveParent .ready (returned.descriptors .parent)
  | _ => returned.die setup .parent (fatal setup.dumpcore "parent didn't get EOF")

def parentStep (setup : Setup) (state : State) (time : List Byte) : Option State :=
  let table := state.descriptors .parent
  match state.parent with
  | .starting =>
      match setup.arguments with
      | [] => some (usage.terminate .parent)
      | first :: _ =>
          if first = ascii "--help" then some (usage.terminate .parent)
          else some (state.moveParent .announcing table)
  | .announcing =>
      some ((state.emit setup .parent 1 (time ++ ascii "  Parent started" ++ [newline])).moveParent .piping table)
  | .piping =>
      let opened := table.acquire .readEnd
      some (state.moveParent (.forking (table.lowestFree, opened.lowestFree) 0) (opened.acquire .writeEnd))
  | .forking pfd j =>
      if j < setup.arguments.length then
        some ((state.moveChild j (.closingRead pfd) table).moveParent (.forking pfd (j + 1)) table)
      else some (state.moveParent (.closing pfd) table)
  | .closing pfd => some (state.moveParent (.reading pfd) (table.release pfd.2))
  | .reading pfd => (state.readAnswer setup pfd.1).map (state.afterRead setup)
  | .ready =>
      some ((state.emit setup .parent 1 (time ++ ascii "  Parent ready to go" ++ [newline])).moveParent .exiting
        table)
  | .exiting => some (state.terminate .parent)
  | .ended => none
where
  usage : State :=
    state.emit setup .parent 2
      (ascii "Usage: " ++ setup.program ++ ascii " sleep-time..." ++ [newline])

def childStep (setup : Setup) (state : State) (j : Nat) (time : List Byte) : Option State :=
  let table := state.descriptors (.child j)
  match state.child j with
  | .absent => none
  | .closingRead pfd => some (state.moveChild j (.working pfd) (table.release pfd.1))
  | .working pfd =>
      match getInt setup.arguments[j]? GN_NONNEG (some "sleep-time") with
      | .error diagnostic => some ((state.emit setup (.child j) 2 diagnostic).terminate (.child j))
      | .ok _ => some (state.moveChild j (.announcing pfd) table)
  | .announcing pfd =>
      some ((state.emit setup (.child j) 1 closingText).moveChild j (.closingWrite pfd) table)
  | .closingWrite pfd => some (state.moveChild j .exiting (table.release pfd.2))
  | .exiting => some (state.terminate (.child j))
  | .terminated => none
where
  closingText : List Byte :=
    time ++ ascii "  Child " ++ renderNat (j + 1) ++ ascii " (PID=" ++ renderInt (setup.getpid j) ++
      ascii ") closing pipe" ++ [newline]

def failStep (setup : Setup) (state : State) (party : Party) (errno : Errno) : Option State :=
  match party with
  | .parent =>
      match state.parent with
      | .piping => some (failing "pipe")
      | .forking _ j => if j < setup.arguments.length then some (failing s!"fork {j + 1}") else none
      | .closing _ => some (failing "close")
      | .reading _ => some (state.afterRead setup (.error errno))
      | .starting | .announcing | .ready | .exiting | .ended => none
  | .child j =>
      match state.child j with
      | .closingRead _ | .closingWrite _ => some (failing "close")
      | .absent | .working _ | .announcing _ | .exiting | .terminated => none
where
  failing (call : String) : State :=
    state.die setup party (errExit setup.dumpcore errno call)

/-- A process is there to be killed. -/
def Lives (state : State) : Party -> Prop
  | .parent => state.parent ≠ .ended
  | .child j => state.child j ≠ .absent ∧ state.child j ≠ .terminated

instance (state : State) : DecidablePred state.Lives := fun party =>
  match party with
  | .parent => inferInstanceAs (Decidable (state.parent ≠ .ended))
  | .child j => inferInstanceAs (Decidable (state.child j ≠ .absent ∧ state.child j ≠ .terminated))

def step (setup : Setup) (state : State) : Action -> Option State
  | .call .parent time => state.parentStep setup time
  | .call (.child j) time => state.childStep setup j time
  | .fail party errno => state.failStep setup party errno
  | .kill party => if state.Lives party then some (state.terminate party) else none

end State

def start (setup : Setup) : State where
  parent := .starting
  child := fun _ => .absent
  descriptors := Function.update (fun _ => ⟨[]⟩) .parent setup.inherited
  pipe := []
  read := none

def machine (setup : Setup) : Machine State Action where
  Initial state := state = start setup
  step := State.step setup

/-!
## Who has the end for writing
-/

/-- The descriptors of the pipe, while the parent has not closed the end for writing. -/
def ParentPc.writeEnd : ParentPc -> Option (Nat × Nat)
  | .forking pfd _ | .closing pfd => some pfd
  | _ => none

def ParentPc.beforePipe : ParentPc -> Bool
  | .starting | .announcing | .piping => true
  | _ => false

/-- The children that the parent has forked, as far as its position tells. -/
def ParentPc.forked (arguments : Nat) : ParentPc -> Nat
  | .forking _ j => j
  | .closing _ | .reading _ => arguments
  | _ => 0

def ParentPc.hasRead : ParentPc -> Bool
  | .ready | .exiting | .ended => true
  | _ => false

/-- The descriptors of the pipe, while the child has not closed the end for writing. -/
def ChildPc.writeEnd : ChildPc -> Option (Nat × Nat)
  | .closingRead pfd | .working pfd | .announcing pfd | .closingWrite pfd => some pfd
  | _ => none

/-- The child has closed the end for writing, or terminated. -/
def ChildPc.released : ChildPc -> Bool
  | .exiting | .terminated => true
  | _ => false

/-- A table that has the end for writing where `pfd` says, and the other end elsewhere. -/
def HasWriteEnd (table : Slots File) (pfd : Nat × Nat) : Prop :=
  pfd.1 ≠ pfd.2 ∧ table.get pfd.2 = some .writeEnd

/-- Every end for writing in the second table is in the first. -/
def NoNewEnd (before after : Slots File) : Prop :=
  forall fd, after.get fd = some .writeEnd -> before.get fd = some .writeEnd

theorem NoNewEnd.refl (table : Slots File) : NoNewEnd table table := fun _ => id

theorem NoNewEnd.release (table : Slots File) (released : Nat) :
    NoNewEnd table (table.release released) := by
  intro fd has
  rw [Slots.get_release] at has
  split at has
  · cases has
  · exact has

theorem NoNewEnd.empty (table : Slots File) : NoNewEnd table ⟨[]⟩ := by
  intro fd has
  cases has

theorem HasWriteEnd.release {table : Slots File} {pfd : Nat × Nat} (has : HasWriteEnd table pfd) :
    HasWriteEnd (table.release pfd.1) pfd := by
  refine ⟨has.1, ?_⟩
  rw [Slots.get_release, if_neg has.1.symm]
  exact has.2

/-- What is known of every state that a run reaches. -/
structure Invariant (setup : Setup) (state : State) : Prop where
  pipe : setup.Spare -> state.pipe = []
  standard : setup.Spare -> forall party fd, fd = 1 ∨ fd = 2 ->
    (state.descriptors party).get fd ≠ some .writeEnd
  inherited : state.parent.beforePipe = true -> state.descriptors .parent = setup.inherited
  parentEnd : forall pfd, state.parent.writeEnd = some pfd ->
    HasWriteEnd (state.descriptors .parent) pfd
  childEnd : forall j pfd, (state.child j).writeEnd = some pfd ->
    HasWriteEnd (state.descriptors (.child j)) pfd
  absent : forall j, state.child j = .absent -> state.descriptors (.child j) = ⟨[]⟩
  forked : forall j, j < state.parent.forked setup.arguments.length -> state.child j ≠ .absent
  within : forall j, state.child j ≠ .absent -> j < setup.arguments.length
  unread : state.parent.hasRead = false -> state.read = none
  released : state.read = some (.ok 0) ->
    (forall j, j < setup.arguments.length -> (state.child j).released = true) ∧
      forall party fd, (state.descriptors party).get fd ≠ some .writeEnd

variable {setup : Setup} {state next : State}

/-- Writing to a standard descriptor changes at most what is in the pipe. -/
theorem Invariant.emit (holds : Invariant setup state) (party : Party) {fd : Nat}
    (output : fd = 1 ∨ fd = 2) (text : List Byte) : Exists fun pipe =>
      state.emit setup party fd text = { state with pipe := pipe } ∧
        Invariant setup { state with pipe := pipe } := by
  unfold State.emit
  split
  · rename_i written
    split
    · refine ⟨_, rfl, { holds with pipe := ?_ }⟩
      intro spare
      exact absurd written (holds.standard spare party fd output)
    · exact ⟨state.pipe, rfl, holds⟩
  · exact ⟨state.pipe, rfl, holds⟩

theorem Invariant.putParent (holds : Invariant setup state) {pc : ParentPc} {table : Slots File}
    (standard : setup.Spare -> forall fd, fd = 1 ∨ fd = 2 -> table.get fd ≠ some .writeEnd)
    (inherited : pc.beforePipe = true -> table = setup.inherited)
    (ends : forall pfd, pc.writeEnd = some pfd -> HasWriteEnd table pfd)
    (forked : forall j, j < pc.forked setup.arguments.length -> state.child j ≠ .absent)
    (unread : pc.hasRead = false -> state.read = none)
    (released : state.read = some (.ok 0) -> forall fd, table.get fd ≠ some .writeEnd) :
    Invariant setup (state.moveParent pc table) := by
  have own := state.descriptors_moveParent pc table
  have others := state.descriptors_moveParent_child pc table
  constructor
  case pipe => exact holds.pipe
  case standard =>
    intro spare party fd output
    cases party with
    | parent =>
        rw [own]
        exact standard spare fd output
    | child j =>
        rw [others]
        exact holds.standard spare _ fd output
  case inherited =>
    intro before
    rw [own]
    exact inherited before
  case parentEnd =>
    intro pfd has
    rw [own]
    exact ends pfd has
  case childEnd =>
    intro j pfd has
    rw [others]
    exact holds.childEnd j pfd has
  case absent =>
    intro j isAbsent
    rw [others]
    exact holds.absent j isAbsent
  case forked => exact forked
  case within => exact holds.within
  case unread => exact unread
  case released =>
    intro read
    refine ⟨(holds.released read).1, ?_⟩
    intro party fd
    cases party with
    | parent =>
        rw [own]
        exact released read fd
    | child j =>
        rw [others]
        exact (holds.released read).2 _ fd

theorem Invariant.moveParent (holds : Invariant setup state) {pc : ParentPc} {table : Slots File}
    (noNew : NoNewEnd (state.descriptors .parent) table)
    (inherited : pc.beforePipe = true -> table = setup.inherited)
    (ends : forall pfd, pc.writeEnd = some pfd -> HasWriteEnd table pfd)
    (forked : forall j, j < pc.forked setup.arguments.length -> state.child j ≠ .absent)
    (unread : pc.hasRead = false -> state.read = none) :
    Invariant setup (state.moveParent pc table) := by
  apply holds.putParent _ inherited ends forked unread
  · intro read fd has
    exact (holds.released read).2 .parent fd (noNew fd has)
  · intro spare fd output has
    exact holds.standard spare .parent fd output (noNew fd has)

/-- The parent goes on before it creates the pipe. -/
theorem Invariant.parentEarly (holds : Invariant setup state) {pc : ParentPc}
    (before : state.parent.beforePipe = true) (early : pc.beforePipe = true) :
    Invariant setup (state.moveParent pc (state.descriptors .parent)) := by
  have unread : state.read = none := by
    apply holds.unread
    cases here : state.parent with
    | starting | announcing | piping => rfl
    | _ =>
        rw [here] at before
        cases before
  cases pc with
  | starting | announcing | piping =>
      apply holds.moveParent (NoNewEnd.refl _)
      · exact fun _ => holds.inherited before
      · intro pfd has
        cases has
      · intro j forked
        cases forked
      · exact fun _ => unread
  | _ => cases early

/-- The parent goes on when its `read` is behind it, or ends. -/
theorem Invariant.parentLater (holds : Invariant setup state) {pc : ParentPc} {table : Slots File}
    (noNew : NoNewEnd (state.descriptors .parent) table) (later : pc.hasRead = true) :
    Invariant setup (state.moveParent pc table) := by
  cases pc with
  | ready | exiting | ended =>
      apply holds.moveParent noNew
      · intro before
        cases before
      · intro pfd has
        cases has
      · intro j forked
        cases forked
      · intro unread
        cases unread
  | _ => cases later

/-- A child goes on, or begins, with another table. -/
theorem Invariant.putChild (holds : Invariant setup state) {j : Nat} {pc : ChildPc}
    {table : Slots File} (inside : j < setup.arguments.length) (present : pc ≠ .absent)
    (standard : setup.Spare -> forall fd, fd = 1 ∨ fd = 2 -> table.get fd ≠ some .writeEnd)
    (ends : forall pfd, pc.writeEnd = some pfd -> HasWriteEnd table pfd)
    (released : state.read = some (.ok 0) ->
      pc.released = true ∧ forall fd, table.get fd ≠ some .writeEnd) :
    Invariant setup (state.moveChild j pc table) := by
  have own := state.descriptors_moveChild j pc table
  have ownPc := state.child_moveChild j pc table
  have othersPc : forall other, other ≠ j -> (state.moveChild j pc table).child other =
      state.child other := fun _ different => state.child_moveChild_of_ne different pc table
  have others : forall party, party ≠ .child j -> (state.moveChild j pc table).descriptors party =
      state.descriptors party := fun _ different => state.descriptors_moveChild_of_ne different pc table
  have childNe : forall {other}, other ≠ j -> Party.child other ≠ .child j :=
    fun different same => different (Party.child.inj same)
  constructor
  case pipe => exact holds.pipe
  case standard =>
    intro spare party fd output
    by_cases same : party = .child j
    · rw [same, own]
      exact standard spare fd output
    · rw [others party same]
      exact holds.standard spare party fd output
  case inherited =>
    intro beforePipe
    rw [others .parent Party.noConfusion]
    exact holds.inherited beforePipe
  case parentEnd =>
    intro pfd has
    rw [others .parent Party.noConfusion]
    exact holds.parentEnd pfd has
  case childEnd =>
    intro other pfd has
    by_cases same : other = j
    · rw [same, ownPc] at has
      rw [same, own]
      exact ends pfd has
    · rw [othersPc other same] at has
      rw [others _ (childNe same)]
      exact holds.childEnd other pfd has
  case absent =>
    intro other isAbsent
    by_cases same : other = j
    · rw [same, ownPc] at isAbsent
      exact absurd isAbsent present
    · rw [othersPc other same] at isAbsent
      rw [others _ (childNe same)]
      exact holds.absent other isAbsent
  case forked =>
    intro other early
    by_cases same : other = j
    · rw [same, ownPc]
      exact present
    · rw [othersPc other same]
      exact holds.forked other early
  case within =>
    intro other isPresent
    by_cases same : other = j
    · rw [same]
      exact inside
    · rw [othersPc other same] at isPresent
      exact holds.within other isPresent
  case unread => exact holds.unread
  case released =>
    intro read
    constructor
    · intro other within
      by_cases same : other = j
      · rw [same, ownPc]
        exact (released read).1
      · rw [othersPc other same]
        exact (holds.released read).1 other within
    · intro party fd
      by_cases same : party = .child j
      · rw [same, own]
        exact (released read).2 fd
      · rw [others party same]
        exact (holds.released read).2 party fd

theorem Invariant.moveChild (holds : Invariant setup state) {j : Nat} {before pc : ChildPc}
    {table : Slots File} (here : state.child j = before) (present : before ≠ .absent)
    (stays : pc ≠ .absent) (noNew : NoNewEnd (state.descriptors (.child j)) table)
    (ends : forall pfd, pc.writeEnd = some pfd -> HasWriteEnd table pfd)
    (released : before.released = true -> pc.released = true) :
    Invariant setup (state.moveChild j pc table) := by
  have inside : j < setup.arguments.length := by
    apply holds.within j
    rw [here]
    exact present
  apply holds.putChild inside stays _ ends
  · intro read
    rcases holds.released read with ⟨children, tables⟩
    constructor
    · apply released
      rw [← here]
      exact children j inside
    · exact fun fd has => tables (.child j) fd (noNew fd has)
  · intro spare fd output has
    exact holds.standard spare (.child j) fd output (noNew fd has)

theorem Invariant.terminate (holds : Invariant setup state) (party : Party)
    (there : forall j, party = .child j -> state.child j ≠ .absent) :
    Invariant setup (state.terminate party) := by
  cases party with
  | parent => exact holds.parentLater (NoNewEnd.empty _) rfl
  | child j =>
      apply holds.moveChild rfl (there j rfl) ChildPc.noConfusion (NoNewEnd.empty _)
      · intro pfd has
        cases has
      · exact fun _ => rfl

theorem Invariant.die (holds : Invariant setup state) {party : Party}
    (there : forall j, party = .child j -> state.child j ≠ .absent) (failure : Failure) :
    Invariant setup (state.die setup party failure) := by
  unfold State.die
  rcases holds.emit party (Or.inr rfl) (setup.outputError failure) with ⟨pipe, same, kept⟩
  rw [same]
  exact kept.terminate party there

theorem childStep_preserves (holds : Invariant setup state) {j : Nat} {time : List Byte}
    (stepped : state.childStep setup j time = some next) : Invariant setup next := by
  have ends := holds.childEnd j
  unfold State.childStep at stepped
  cases here : state.child j with
  | absent | terminated =>
      rw [here] at stepped
      cases stepped
  | closingRead pfd =>
      rw [here] at stepped ends
      cases stepped
      apply holds.moveChild here ChildPc.noConfusion ChildPc.noConfusion (NoNewEnd.release _ _)
      · intro other same
        cases same
        exact (ends pfd rfl).release
      · exact id
  | working pfd =>
      rw [here] at stepped ends
      simp only at stepped
      split at stepped
      · rename_i diagnostic _
        cases stepped
        rcases holds.emit (.child j) (Or.inr rfl) diagnostic with ⟨pipe, same, kept⟩
        rw [same]
        apply kept.terminate
        intro other same
        cases same
        exact fun isAbsent => ChildPc.noConfusion (here.symm.trans isAbsent)
      · cases stepped
        exact holds.moveChild here ChildPc.noConfusion ChildPc.noConfusion (NoNewEnd.refl _) ends id
  | announcing pfd =>
      rw [here] at stepped ends
      cases stepped
      rcases holds.emit (.child j) (Or.inl rfl) (State.childStep.closingText setup j time) with
        ⟨pipe, same, kept⟩
      rw [same]
      exact kept.moveChild here ChildPc.noConfusion ChildPc.noConfusion (NoNewEnd.refl _) ends id
  | closingWrite pfd =>
      rw [here] at stepped
      cases stepped
      apply holds.moveChild here ChildPc.noConfusion ChildPc.noConfusion (NoNewEnd.release _ _)
      · intro other has
        cases has
      · exact fun _ => rfl
  | exiting =>
      rw [here] at stepped
      cases stepped
      apply holds.terminate
      intro other same
      cases same
      rw [here]
      exact ChildPc.noConfusion

/-- The two ends of a new pipe stand where nothing stood, so the second is no standard file
if there was room for one end only. -/
theorem ends_of_pipe (setup : Setup) :
    HasWriteEnd ((setup.inherited.acquire .readEnd).acquire .writeEnd)
        (setup.inherited.lowestFree, (setup.inherited.acquire .readEnd).lowestFree) ∧
      (setup.Spare -> forall fd, fd = 1 ∨ fd = 2 ->
        ((setup.inherited.acquire .readEnd).acquire .writeEnd).get fd ≠ some .writeEnd) := by
  have free := (setup.inherited.acquire .readEnd).get_lowestFree
  rw [Slots.get_acquire] at free
  have different : (setup.inherited.acquire .readEnd).lowestFree ≠ setup.inherited.lowestFree := by
    intro same
    rw [if_pos same] at free
    cases free
  rw [if_neg different] at free
  constructor
  · exact ⟨different.symm, by rw [Slots.get_acquire, if_pos rfl]⟩
  · intro spare fd output has
    have above := setup.inherited.lowestFree_le free
    rw [Slots.get_acquire] at has
    split at has
    · have within : (setup.inherited.acquire .readEnd).lowestFree ≤ 2 := by omega
      exact different (spare _ _ within (le_trans above within) free setup.inherited.get_lowestFree)
    · rw [Slots.get_acquire] at has
      split at has
      · cases has
      · exact (setup.foreign fd).2 has

/-- When no process has the end for writing, every child that was forked is done. -/
theorem Invariant.atEnd (holds : Invariant setup state) (closed : state.isOpen setup .writeEnd = false) :
    (forall party fd, (state.descriptors party).get fd ≠ some .writeEnd) ∧
      forall j, state.child j ≠ .absent -> (state.child j).released = true := by
  have tables : forall party, party ∈ State.parties setup -> forall fd,
      (state.descriptors party).get fd ≠ some .writeEnd := by
    intro party member fd has
    have absent := List.any_eq_false.mp closed party member
    exact absent (List.contains_iff_mem.mpr (Slots.mem_places_of_get has))
  have child : forall j, state.child j ≠ .absent -> Party.child j ∈ State.parties setup := by
    intro j present
    exact List.mem_cons_of_mem _ (List.mem_map_of_mem (List.mem_range.mpr (holds.within j present)))
  constructor
  · intro party fd
    cases party with
    | parent => exact tables .parent List.mem_cons_self fd
    | child j =>
        by_cases present : state.child j = .absent
        · rw [holds.absent j present]
          exact fun has => by cases has
        · exact tables _ (child j present) fd
  · intro j present
    have ends := holds.childEnd j
    cases pc : state.child j with
    | absent => exact absurd pc present
    | closingRead pfd | working pfd | announcing pfd | closingWrite pfd =>
        rw [pc] at ends
        exact absurd (ends pfd rfl).2 (tables _ (child j present) pfd.2)
    | exiting | terminated => rfl

/-- The result of `read` is recorded when the parent has gone on. -/
theorem Invariant.setRead (holds : Invariant setup state) (hasRead : state.parent.hasRead = true)
    {answer : Except Errno Nat} (done : answer = .ok 0 ->
      (forall j, j < setup.arguments.length -> (state.child j).released = true) ∧
        forall party fd, (state.descriptors party).get fd ≠ some .writeEnd) :
    Invariant setup { state with read := some answer, pipe := state.pipe.drop 1 } where
  pipe := by
    intro spare
    change state.pipe.drop 1 = []
    rw [holds.pipe spare]
    rfl
  standard := holds.standard
  inherited := holds.inherited
  parentEnd := holds.parentEnd
  childEnd := holds.childEnd
  absent := holds.absent
  forked := holds.forked
  within := holds.within
  unread := by
    intro hasNot
    change state.parent.hasRead = false at hasNot
    rw [hasRead] at hasNot
    cases hasNot
  released := fun read => done (Option.some.inj read)

/-- The parent reads, and goes on or ends. -/
theorem Invariant.afterRead (holds : Invariant setup state) {pfd : Nat × Nat}
    (here : state.parent = .reading pfd) {answer : Except Errno Nat}
    (closed : answer = .ok 0 -> state.isOpen setup .writeEnd = false) :
    Invariant setup (state.afterRead setup answer) := by
  have ended : answer ≠ .ok 0 ->
      Invariant setup (({ state with read := some answer, pipe := state.pipe.drop 1 } : State).die setup
        .parent (fatal setup.dumpcore "parent didn't get EOF")) := by
    intro other
    have gone := (holds.terminate .parent (fun _ same => by cases same)).setRead rfl
      (fun same => absurd same other)
    unfold State.die State.emit
    split
    · rename_i written
      split
      · refine { gone with pipe := ?_ }
        intro spare
        exact absurd written (holds.standard spare .parent 2 (Or.inr rfl))
      · exact gone
    · exact gone
  unfold State.afterRead
  split
  · have going : Invariant setup (state.moveParent .ready (state.descriptors .parent)) :=
      holds.parentLater (NoNewEnd.refl _) rfl
    refine going.setRead rfl ?_
    intro _
    rcases holds.atEnd (closed rfl) with ⟨tables, children⟩
    constructor
    · intro j inside
      apply children j
      apply holds.forked j
      rw [here]
      exact inside
    · intro party fd
      cases party with
      | parent =>
          rw [State.descriptors_moveParent]
          exact tables .parent fd
      | child j =>
          rw [State.descriptors_moveParent_child]
          exact tables (.child j) fd
  · exact ended (by assumption)

theorem State.readAnswer_end {fd : Nat} (answered : state.readAnswer setup fd = some (.ok 0)) :
    state.isOpen setup .writeEnd = false := by
  unfold State.readAnswer at answered
  split at answered
  · split at answered
    · cases answered
    · split at answered
      · cases answered
      · exact Bool.eq_false_iff.mpr ‹_›
  · cases answered

theorem starting_preserves (holds : Invariant setup state) (here : state.parent = .starting)
    {time : List Byte} (stepped : state.parentStep setup time = some next) : Invariant setup next := by
  have before : state.parent.beforePipe = true := by
    rw [here]
    rfl
  have usage : Invariant setup ((State.parentStep.usage setup state).terminate .parent) := by
    unfold State.parentStep.usage
    rcases holds.emit .parent (Or.inr rfl)
      (ascii "Usage: " ++ setup.program ++ ascii " sleep-time..." ++ [newline]) with ⟨pipe, same, kept⟩
    rw [same]
    exact kept.terminate .parent (fun _ same => by cases same)
  unfold State.parentStep at stepped
  rw [here] at stepped
  simp only at stepped
  split at stepped
  · cases stepped
    exact usage
  · split at stepped
    · cases stepped
      exact usage
    · cases stepped
      exact holds.parentEarly before rfl

theorem piping_preserves (holds : Invariant setup state) (here : state.parent = .piping) :
    Invariant setup (state.moveParent
      (.forking ((state.descriptors .parent).lowestFree,
        ((state.descriptors .parent).acquire .readEnd).lowestFree) 0)
      (((state.descriptors .parent).acquire .readEnd).acquire .writeEnd)) := by
  have unread := holds.unread (by rw [here]; rfl)
  rw [holds.inherited (by rw [here]; rfl)]
  rcases ends_of_pipe setup with ⟨has, standard⟩
  apply holds.putParent standard
  · intro before
    cases before
  · intro pfd same
    cases same
    exact has
  · intro j early
    cases early
  · exact fun _ => unread
  · intro read
    rw [unread] at read
    cases read

theorem fork_preserves (holds : Invariant setup state) {pfd : Nat × Nat} {j : Nat}
    (here : state.parent = .forking pfd j) (inside : j < setup.arguments.length) :
    Invariant setup ((state.moveChild j (.closingRead pfd) (state.descriptors .parent)).moveParent
      (.forking pfd (j + 1)) (state.descriptors .parent)) := by
  have ends := holds.parentEnd
  have forked := holds.forked
  have unread := holds.unread
  rw [here] at ends forked unread
  have forkedChild : Invariant setup
      (state.moveChild j (.closingRead pfd) (state.descriptors .parent)) := by
    apply holds.putChild inside ChildPc.noConfusion (fun spare => holds.standard spare .parent)
    · intro other same
      cases same
      exact ends pfd rfl
    · intro read
      rw [unread rfl] at read
      cases read
  have same : (state.moveChild j (.closingRead pfd) (state.descriptors .parent)).descriptors .parent =
      state.descriptors .parent := state.descriptors_moveChild_of_ne Party.noConfusion _ _
  apply forkedChild.moveParent
  · rw [same]
    exact NoNewEnd.refl _
  · intro before
    cases before
  · exact ends
  · intro other early
    by_cases newest : other = j
    · rw [newest, State.child_moveChild]
      exact ChildPc.noConfusion
    · rw [State.child_moveChild_of_ne _ newest]
      apply forked other
      change other < j + 1 at early
      change other < j
      omega
  · exact unread

theorem forked_preserves (holds : Invariant setup state) {pfd : Nat × Nat} {j : Nat}
    (here : state.parent = .forking pfd j) (all : ¬ j < setup.arguments.length) :
    Invariant setup (state.moveParent (.closing pfd) (state.descriptors .parent)) := by
  have ends := holds.parentEnd
  have forked := holds.forked
  have unread := holds.unread
  rw [here] at ends forked unread
  apply holds.moveParent (NoNewEnd.refl _)
  · intro before
    cases before
  · exact ends
  · intro other early
    change other < setup.arguments.length at early
    apply forked other
    change other < j
    omega
  · exact unread

theorem closing_preserves (holds : Invariant setup state) {pfd : Nat × Nat}
    (here : state.parent = .closing pfd) :
    Invariant setup (state.moveParent (.reading pfd) ((state.descriptors .parent).release pfd.2)) := by
  have forked := holds.forked
  have unread := holds.unread
  rw [here] at forked unread
  apply holds.moveParent (NoNewEnd.release _ _)
  · intro before
    cases before
  · intro other has
    cases has
  · exact forked
  · exact unread

theorem parentStep_preserves (holds : Invariant setup state) {time : List Byte}
    (stepped : state.parentStep setup time = some next) : Invariant setup next := by
  cases here : state.parent with
  | starting => exact starting_preserves holds here stepped
  | announcing =>
      unfold State.parentStep at stepped
      rw [here] at stepped
      cases stepped
      rcases holds.emit .parent (Or.inl rfl) (time ++ ascii "  Parent started" ++ [newline]) with
        ⟨pipe, same, kept⟩
      rw [same]
      exact kept.parentEarly (by change state.parent.beforePipe = true; rw [here]; rfl) rfl
  | piping =>
      unfold State.parentStep at stepped
      rw [here] at stepped
      cases stepped
      exact piping_preserves holds here
  | forking pfd j =>
      unfold State.parentStep at stepped
      rw [here] at stepped
      simp only at stepped
      split at stepped
      · cases stepped
        exact fork_preserves holds here ‹_›
      · cases stepped
        exact forked_preserves holds here ‹_›
  | closing pfd =>
      unfold State.parentStep at stepped
      rw [here] at stepped
      cases stepped
      exact closing_preserves holds here
  | reading pfd =>
      unfold State.parentStep at stepped
      rw [here] at stepped
      rcases Option.map_eq_some_iff.mp stepped with ⟨answer, answered, after⟩
      cases after
      apply holds.afterRead here
      intro same
      rw [same] at answered
      exact State.readAnswer_end answered
  | ready =>
      unfold State.parentStep at stepped
      rw [here] at stepped
      cases stepped
      rcases holds.emit .parent (Or.inl rfl) (time ++ ascii "  Parent ready to go" ++ [newline]) with
        ⟨pipe, same, kept⟩
      rw [same]
      exact kept.parentLater (NoNewEnd.refl _) rfl
  | exiting =>
      unfold State.parentStep at stepped
      rw [here] at stepped
      cases stepped
      exact holds.terminate .parent (fun _ same => by cases same)
  | ended =>
      unfold State.parentStep at stepped
      rw [here] at stepped
      cases stepped

theorem failStep_preserves (holds : Invariant setup state) {party : Party} {errno : Errno}
    (stepped : state.failStep setup party errno = some next) : Invariant setup next := by
  unfold State.failStep at stepped
  cases party with
  | parent =>
      have failing : forall call, Invariant setup (State.failStep.failing setup state .parent errno call) :=
        fun call => holds.die (fun _ same => by cases same) _
      cases here : state.parent with
      | piping | closing _ =>
          simp only [here] at stepped
          cases stepped
          exact failing _
      | forking _ j =>
          simp only [here] at stepped
          split at stepped
          · cases stepped
            exact failing _
          · cases stepped
      | reading pfd =>
          simp only [here] at stepped
          cases stepped
          exact holds.afterRead here (fun same => by cases same)
      | starting | announcing | ready | exiting | ended =>
          simp only [here] at stepped
          cases stepped
  | child j =>
      have failing : forall call, state.child j ≠ .absent ->
          Invariant setup (State.failStep.failing setup state (.child j) errno call) := by
        intro call present
        apply holds.die
        intro other same
        cases same
        exact present
      cases here : state.child j with
      | closingRead _ | closingWrite _ =>
          simp only [here] at stepped
          cases stepped
          apply failing
          rw [here]
          exact ChildPc.noConfusion
      | absent | working _ | announcing _ | exiting | terminated =>
          simp only [here] at stepped
          cases stepped

theorem start_invariant (setup : Setup) : Invariant setup (start setup) := by
  have parent : (start setup).descriptors .parent = setup.inherited := by simp [start]
  have children : forall j, (start setup).descriptors (.child j) = ⟨[]⟩ := by
    intro j
    simp [start]
  constructor
  case standard =>
    intro _ party fd _
    cases party with
    | parent =>
        rw [parent]
        exact (setup.foreign fd).2
    | child j =>
        rw [children]
        exact fun has => by cases has
  case inherited => exact fun _ => parent
  case absent => exact fun j _ => children j
  case pipe | unread => first | rfl | exact fun _ => rfl
  case parentEnd | childEnd | forked => intros; contradiction
  case within => exact fun j present => absurd rfl present
  case released => exact fun read => by cases read

theorem invariant_of_reachable (reachable : (machine setup).Reachable state) :
    Invariant setup state := by
  apply Machine.Reachable.invariant _ _ reachable
  · intro state initial
    cases initial
    exact start_invariant setup
  · intro state action next holds stepped
    cases action with
    | call party time =>
        cases party with
        | parent => exact parentStep_preserves holds stepped
        | child j => exact childStep_preserves holds stepped
    | fail party errno => exact failStep_preserves holds stepped
    | kill party =>
        change (if state.Lives party then some (state.terminate party) else none) = some next at stepped
        split at stepped
        · rename_i lives
          cases stepped
          apply holds.terminate
          intro j same
          cases same
          exact lives.1
        · cases stepped

/-- What the pipe tells the parent: when `read` has returned zero, every child has been
forked and has closed the end for writing or terminated, and no process, the parent
included, has that end.  Nothing is ever in the pipe, if at most one of the standard
descriptors was closed at the start. -/
structure Synchronised (setup : Setup) (state : State) : Prop where
  empty : setup.Spare -> state.pipe = []
  released : state.read = some (.ok 0) ->
    (forall j, j < setup.arguments.length -> (state.child j).released = true) ∧
      forall party fd, (state.descriptors party).get fd ≠ some .writeEnd

theorem read_returns_after_all (setup : Setup) (state : State)
    (reachable : (machine setup).Reachable state) : Synchronised setup state :=
  have holds := invariant_of_reachable reachable
  ⟨holds.pipe, holds.released⟩

/-- Two children, the second with an argument that is not a number. -/
def twoChildren : Setup where
  program := ascii "pipe_sync"
  arguments := [[49], [120]]
  inherited := ⟨[some (.other 0), some (.other 1), some (.other 2)]⟩
  dumpcore := none
  outputError := fun _ => ascii "ERROR"
  getpid := fun j => 100 + j
  foreign := by
    intro fd
    match fd with
    | 0 | 1 | 2 => decide
    | more + 3 => exact ⟨(fun has => by cases has), (fun has => by cases has)⟩

/-- The second child is rejected while the first still works, and the parent reads when
both are done. -/
def twoChildrenRun : List Action :=
  List.replicate 4 (.call .parent []) ++ [.call (.child 0) [], .call .parent []] ++
    List.replicate 2 (.call (.child 1) []) ++ List.replicate 2 (.call .parent []) ++
    List.replicate 4 (.call (.child 0) []) ++ [.call .parent []]

def twoChildrenFinal : State :=
  ((machine twoChildren).exec (start twoChildren) twoChildrenRun).get (by decide +kernel)

theorem twoChildren_spare : twoChildren.Spare := by
  intro fd other within _ free _
  interval_cases fd <;> cases free

theorem twoChildren_synchronised :
    (twoChildrenFinal.read = some (.ok 0) ∧ twoChildren.Spare) ∧
      Synchronised twoChildren twoChildrenFinal :=
  ⟨⟨by decide +kernel, twoChildren_spare⟩, read_returns_after_all twoChildren twoChildrenFinal
    (Machine.reachable_of_exec rfl (Option.some_get _).symm)⟩

/-- One child, and a start without standard input and output. -/
def closedOutput : Setup where
  program := ascii "pipe_sync"
  arguments := [[48]]
  inherited := ⟨[none, none, some (.other 0)]⟩
  dumpcore := none
  outputError := fun _ => ascii "ERROR"
  getpid := fun j => 100 + j
  foreign := by
    intro fd
    match fd with
    | 0 | 1 | 2 => decide
    | more + 3 => exact ⟨(fun has => by cases has), (fun has => by cases has)⟩

/-- The child prints its line, while the parent waits in `read`. -/
def closedOutputRun : List Action :=
  List.replicate 6 (.call .parent (ascii "12:00:00")) ++
    List.replicate 3 (.call (.child 0) (ascii "12:00:02"))

def closedOutputFinal : State :=
  ((machine closedOutput).exec (start closedOutput) closedOutputRun).get (by decide +kernel)

/-- The line is in the pipe, whose end for writing is the standard output of the child. -/
theorem closedOutput_fills_pipe : (machine closedOutput).Reachable closedOutputFinal ∧
    closedOutputFinal.parent = .reading (0, 1) ∧ closedOutputFinal.read = none ∧
      closedOutputFinal.pipe = ascii "12:00:02  Child 1 (PID=100) closing pipe\n" :=
  ⟨Machine.reachable_of_exec rfl (Option.some_get _).symm, by decide +kernel⟩

end PipeSync
end IpcPipeFifo
end Tlpi
