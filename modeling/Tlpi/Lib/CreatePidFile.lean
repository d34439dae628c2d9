import Mathlib.Logic.Function.Basic
import Tlpi.CLibrary.Strtol
import Tlpi.Foundations.Transition
import Tlpi.Lib.ErrorFunctions
import Tlpi.Lib.RegionLocking

namespace Tlpi
namespace Lib

open CLibrary Foundations

universe u

/-!
# One instance through a PID file

Processes that call `createPidFile` on one path open the file the path names,
creating it if there is none, and take a write lock on all of it.  A process
that returns from the call works, deletes the path just before it terminates,
and exits, which releases its lock.

The lock belongs to a file while the processes meet at a path.  The world below
therefore keeps the two apart: the path names at most one file, deleting the
path leaves the file to whoever has it open, and creating the path anew makes
another file.  Every system call is one step and may fail.
-/

/-- The size of the buffer the PID is formatted in. -/
def BUF_SIZE : Nat := 100

/-- The flag that asks for close-on-exec. -/
def CPF_CLOEXEC : Nat := 1

/-- What the processes bring to their calls: the name of the program and of the
file, and each process's flags, PID and value of `EF_DUMPCORE`. -/
structure PidFileSetup (Process : Type u) where
  progName : String
  pidFile : String
  flags : Process -> Nat
  getpid : Process -> Int
  dumpcore : Process -> Option String

/-- The position of a process, with the file it has open.  A position in the
call is named after the system call that comes next. -/
inductive Phase where
  | opening
  | fetchingFlags (inode : Nat)
  | updatingFlags (inode : Nat)
  | locking (inode : Nat)
  | truncating (inode : Nat)
  | writing (inode : Nat)
  | working (inode : Nat)
  | deleted (inode : Nat)
  | exited (failure : Option Failure)
deriving DecidableEq, Repr

/-- The file system as far as one path is concerned, the lock table, and the
positions of all processes. -/
structure PidFileWorld (Process : Type u) where
  path : Option Nat
  content : Nat -> List Byte
  nextInode : Nat
  locks : LockTable Process Nat
  phase : Process -> Phase

/-- What the kernel answers to the next call of a process. -/
inductive CallOutcome where
  | success
  | failure (errno : Errno)
  | short (count : Nat)
deriving DecidableEq, Repr

/-- A process makes its next call, or terminates.  Termination may come at any
time, by `exit` or by a signal. -/
inductive PidFileAction (Process : Type u) where
  | call (process : Process) (outcome : CallOutcome)
  | terminate (process : Process)
deriving DecidableEq, Repr

variable {Process : Type u} [DecidableEq Process]

def pidText (pid : Int) : List Byte := snprintf BUF_SIZE (renderInt pid ++ [newline])

namespace PidFileWorld

def move (world : PidFileWorld Process) (process : Process) (phase : Phase) :
    PidFileWorld Process :=
  { world with phase := Function.update world.phase process phase }

def store (world : PidFileWorld Process) (inode : Nat) (bytes : List Byte) :
    PidFileWorld Process :=
  { world with content := Function.update world.content inode bytes }

/-- The end of a process releases its locks. -/
def exit (world : PidFileWorld Process) (process : Process) (failure : Option Failure) :
    PidFileWorld Process :=
  { world with locks := world.locks.release process }.move process (.exited failure)

/-- The file that `open` with `O_CREAT` gives, and the world after it. -/
def openPath (world : PidFileWorld Process) : Nat × PidFileWorld Process :=
  match world.path with
  | some inode => (inode, world)
  | none =>
      (world.nextInode,
        { world.store world.nextInode [] with
          path := some world.nextInode
          nextInode := world.nextInode + 1 })

/-- The descriptor of a file that has just been opened. -/
def descriptor (world : PidFileWorld Process) (inode : Nat) : OpenFile Nat :=
  ⟨inode, 0, (world.content inode).length⟩

variable (setup : PidFileSetup Process)

/-- The lock step of `createPidFile`. -/
def lock (world : PidFileWorld Process) (process : Process) (inode : Nat) :
    Option (PidFileWorld Process) :=
  match lockRegion world.locks process (world.descriptor inode) .F_WRLCK .SEEK_SET 0 0 with
  | .granted table => some ({ world with locks := table }.move process (.truncating inode))
  | .blocked => none
  | .failed errno => some (world.exit process (some (lockFailure errno)))
where
  lockFailure (errno : Errno) : Failure :=
    if errno = .EAGAIN ∨ errno = .EACCES then
      fatal (setup.dumpcore process)
        s!"PID file '{setup.pidFile}' is locked; probably '{setup.progName}' is already running"
    else errExit (setup.dumpcore process) errno s!"Unable to lock PID file '{setup.pidFile}'"

/-- The next call of a process: those of `createPidFile`, and then `unlink`. -/
def call (world : PidFileWorld Process) (process : Process) (outcome : CallOutcome) :
    Option (PidFileWorld Process) :=
  let failing (errno : Errno) (message : String) :=
    some (world.exit process (some (errExit (setup.dumpcore process) errno message)))
  match world.phase process, outcome with
  | .opening, .success =>
      let opened := world.openPath
      let next := if setup.flags process &&& CPF_CLOEXEC ≠ 0 then .fetchingFlags opened.1
        else .locking opened.1
      some (opened.2.move process next)
  | .opening, .failure errno => failing errno s!"Could not open PID file {setup.pidFile}"
  | .fetchingFlags inode, .success => some (world.move process (.updatingFlags inode))
  | .fetchingFlags _, .failure errno =>
      failing errno s!"Could not get flags for PID file {setup.pidFile}"
  | .updatingFlags inode, .success => some (world.move process (.locking inode))
  | .updatingFlags _, .failure errno =>
      failing errno s!"Could not set flags for PID file {setup.pidFile}"
  | .locking inode, .success => world.lock setup process inode
  | .locking _, .failure errno =>
      some (world.exit process (some (lock.lockFailure setup process errno)))
  | .truncating inode, .success => some ((world.store inode []).move process (.writing inode))
  | .truncating _, .failure errno =>
      failing errno s!"Could not truncate PID file '{setup.pidFile}'"
  | .writing inode, .success =>
      some ((world.store inode (written inode (pidText (setup.getpid process)))).move process
        (.working inode))
  | .writing inode, .short count =>
      if count < (pidText (setup.getpid process)).length then
        some ((world.store inode (written inode ((pidText (setup.getpid process)).take count))).exit
          process (some writeFailure))
      else none
  | .writing _, .failure _ => some (world.exit process (some writeFailure))
  | .working inode, .success => some ({ world with path := none }.move process (.deleted inode))
  | .working inode, .failure _ => some (world.move process (.deleted inode))
  | _, _ => none
where
  /-- The file after a `write` at offset zero. -/
  written (inode : Nat) (bytes : List Byte) : List Byte :=
    bytes ++ (world.content inode).drop bytes.length
  writeFailure : Failure :=
    fatal (setup.dumpcore process) s!"Writing to PID file '{setup.pidFile}'"

def step (world : PidFileWorld Process) (action : PidFileAction Process) :
    Option (PidFileWorld Process) :=
  match action with
  | .call process outcome => world.call setup process outcome
  | .terminate process =>
      match world.phase process with
      | .exited _ => none
      | _ => some (world.exit process none)

end PidFileWorld

/-- Any number of processes that run the same program.  At the start none has
begun its call and the path may name a file with any content. -/
def pidFileMachine (setup : PidFileSetup Process) :
    Machine (PidFileWorld Process) (PidFileAction Process) where
  Initial := fun world =>
    world.locks = LockTable.empty ∧ (forall process, world.phase process = .opening) ∧
      forall inode, world.path = some inode -> inode < world.nextInode
  step := PidFileWorld.step setup

/-! ## Calls that fail -/

namespace PidFileWorld

variable {setup : PidFileSetup Process} {world next : PidFileWorld Process} {process : Process}

/-- A failing call ends the process.  Only a failing `unlink` does not, and
leaves the path. -/
theorem call_failure {errno : Errno}
    (called : world.call setup process (.failure errno) = some next) :
    (Exists fun failure => next = world.exit process (some failure)) ∨
      Exists fun inode =>
        world.phase process = .working inode ∧ next = world.move process (.deleted inode) := by
  cases phase : world.phase process with
  | opening | fetchingFlags inode | updatingFlags inode | locking inode | truncating inode
  | writing inode =>
      simp only [PidFileWorld.call, phase, Option.some.injEq] at called
      exact Or.inl ⟨_, called.symm⟩
  | working inode =>
      simp only [PidFileWorld.call, phase, Option.some.injEq] at called
      exact Or.inr ⟨inode, rfl, called.symm⟩
  | deleted inode | exited failure => simp [PidFileWorld.call, phase] at called

/-- A short `write` leaves part of the text and ends the process. -/
theorem call_short {count : Nat} (called : world.call setup process (.short count) = some next) :
    Exists fun inode => Exists fun bytes => Exists fun failure =>
      world.phase process = .writing inode ∧
        next = (world.store inode bytes).exit process (some failure) := by
  cases phase : world.phase process with
  | writing inode =>
      simp only [PidFileWorld.call, phase] at called
      split at called
      · exact ⟨inode, _, _, rfl, (Option.some.inj called).symm⟩
      · cases called
  | _ => simp [PidFileWorld.call, phase] at called

end PidFileWorld

/-! ## At most one instance -/

/-- The file of a process that has been granted the lock and has not yet begun
to delete the path. -/
def Phase.guarded : Phase -> Option Nat
  | .truncating inode | .writing inode | .working inode => some inode
  | _ => none

/-- The process has returned from `createPidFile` and has not yet begun to
delete the path. -/
def Phase.isWorking : Phase -> Bool
  | .working _ => true
  | _ => false

/-- No two processes work at once. -/
def AtMostOneInstance (world : PidFileWorld Process) : Prop :=
  forall left right, (world.phase left).isWorking = true -> (world.phase right).isWorking = true ->
    left = right

/-- A process about to be granted the lock on a file finds the path still naming
that file. -/
def LockNamed (world : PidFileWorld Process) (process : Process) : Phase -> Prop
  | .locking inode =>
      (forall held, held ∈ world.locks.locks ->
        ¬ held.Conflicts ⟨process, inode, true, Region.whole⟩) -> world.path = some inode
  | _ => True

instance (world : PidFileWorld Process) (process : Process) :
    DecidablePred (LockNamed world process) := fun phase =>
  match phase with
  | .locking _ => inferInstanceAs (Decidable (_ -> _))
  | .opening | .fetchingFlags _ | .updatingFlags _ | .truncating _ | .writing _ | .working _
  | .deleted _ | .exited _ => isTrue trivial

/-- A step that is granted the lock on a file finds the path still naming it. -/
def LocksNamedFile (world : PidFileWorld Process) : PidFileAction Process -> Prop
  | .call process .success => LockNamed world process (world.phase process)
  | _ => True

instance (world : PidFileWorld Process) : DecidablePred (LocksNamedFile world) := fun action =>
  match action with
  | .call process .success => inferInstanceAs (Decidable (LockNamed world process _))
  | .call _ (.failure _) | .call _ (.short _) | .terminate _ => isTrue trivial

namespace PidFileWorld

/-- Whoever has been granted the lock holds it on the file that the path names. -/
def Guarded (world : PidFileWorld Process) : Prop :=
  forall process inode, (world.phase process).guarded = some inode ->
    world.locks.HoldsWhole process inode ∧ world.path = some inode

variable {world : PidFileWorld Process}

omit [DecidableEq Process] in
/-- Two guarded processes would hold the same file exclusively. -/
theorem Guarded.unique (guarded : world.Guarded) {left right : Process} {first second : Nat}
    (leftGuarded : (world.phase left).guarded = some first)
    (rightGuarded : (world.phase right).guarded = some second) : left = right := by
  rcases guarded left first leftGuarded with ⟨leftHolds, leftPath⟩
  rcases guarded right second rightGuarded with ⟨rightHolds, rightPath⟩
  have same : first = second := Option.some.inj (leftPath.symm.trans rightPath)
  subst same
  exact leftHolds.owner_unique rightHolds

/-- One process moves; the others keep their locks and the path. -/
theorem Guarded.of_move (process : Process) {phase : Phase}
    (own : forall inode, phase.guarded = some inode ->
      world.locks.HoldsWhole process inode ∧ world.path = some inode)
    (others : forall other inode, other ≠ process -> (world.phase other).guarded = some inode ->
      world.locks.HoldsWhole other inode ∧ world.path = some inode) :
    (world.move process phase).Guarded := by
  intro other inode within
  rcases eq_or_ne other process with same | different
  · subst same
    exact own inode (by simpa [move] using within)
  · exact others other inode different (by simpa [move, different] using within)

/-- A move that claims no new file keeps the invariant. -/
theorem Guarded.move (guarded : world.Guarded) (process : Process) {phase : Phase}
    (same : phase.guarded = none ∨ phase.guarded = (world.phase process).guarded) :
    (world.move process phase).Guarded := by
  refine Guarded.of_move process ?_ (fun other inode _ within => guarded other inode within)
  intro inode within
  rcases same with none | same
  · rw [none] at within
    cases within
  · exact guarded process inode (same ▸ within)

theorem Guarded.exit (guarded : world.Guarded) (process : Process) (failure : Option Failure) :
    (world.exit process failure).Guarded := by
  refine Guarded.of_move process (by simp [Phase.guarded]) ?_
  intro other inode different within
  rcases guarded other inode within with ⟨holds, path⟩
  exact ⟨holds.release different, path⟩

omit [DecidableEq Process] in
theorem Guarded.store (guarded : world.Guarded) (inode : Nat) (bytes : List Byte) :
    (world.store inode bytes).Guarded :=
  guarded

omit [DecidableEq Process] in
/-- A path that names nothing is free to be created, as no process is guarded. -/
theorem Guarded.openPath (guarded : world.Guarded) : world.openPath.2.Guarded := by
  unfold PidFileWorld.openPath
  split
  · exact guarded
  · rename_i absent
    intro process inode within
    have named := (guarded process inode within).2
    rw [absent] at named
    cases named

/-- The lock step, when a granted lock is on the file that the path names. -/
theorem Guarded.lock (guarded : world.Guarded) (setup : PidFileSetup Process) {process : Process}
    {inode : Nat} {next : PidFileWorld Process} (named : LockNamed world process (.locking inode))
    (locked : world.lock setup process inode = some next) : next.Guarded := by
  unfold PidFileWorld.lock at locked
  rw [lockRegion_whole] at locked
  cases acquired : world.locks.acquire ⟨process, inode, true, Region.whole⟩ with
  | none =>
      simp only [PidFileWorld.descriptor, acquired, Option.some.injEq] at locked
      subst locked
      exact guarded.exit process _
  | some table =>
      simp only [PidFileWorld.descriptor, acquired, Option.some.injEq] at locked
      subst locked
      refine Guarded.of_move process ?_ ?_
      · intro other within
        cases within
        exact ⟨LockTable.mem_acquire acquired, named (LockTable.free_of_acquire acquired)⟩
      · intro other held different within
        rcases guarded other held within with ⟨holds, path⟩
        exact ⟨holds.acquire acquired different, path⟩

/-- Deleting the path leaves no guarded process behind: the one that deletes it
was the only one. -/
theorem Guarded.unlink (guarded : world.Guarded) {process : Process} {inode : Nat}
    (working : world.phase process = .working inode) :
    ({ world with path := none }.move process (.deleted inode)).Guarded := by
  refine Guarded.of_move process (by simp [Phase.guarded]) ?_
  intro other held different within
  have own : (world.phase process).guarded = some inode := by rw [working]; rfl
  exact absurd (guarded.unique within own) different

theorem Guarded.call (guarded : world.Guarded) (setup : PidFileSetup Process) {process : Process}
    {outcome : CallOutcome} {next : PidFileWorld Process}
    (named : LocksNamedFile world (.call process outcome))
    (called : world.call setup process outcome = some next) : next.Guarded := by
  cases outcome with
  | failure errno =>
      rcases call_failure called with ⟨failure, rfl⟩ | ⟨inode, -, rfl⟩
      · exact guarded.exit process _
      · exact guarded.move process (Or.inl rfl)
  | short count =>
      rcases call_short called with ⟨inode, bytes, failure, -, rfl⟩
      exact (guarded.store inode bytes).exit process _
  | success =>
      cases phase : world.phase process with
      | opening =>
          simp only [PidFileWorld.call, phase, Option.some.injEq] at called
          subst called
          refine guarded.openPath.move process (Or.inl ?_)
          split <;> rfl
      | fetchingFlags inode | updatingFlags inode =>
          simp only [PidFileWorld.call, phase, Option.some.injEq] at called
          subst called
          exact guarded.move process (Or.inl rfl)
      | locking inode =>
          simp only [PidFileWorld.call, phase] at called
          simp only [LocksNamedFile, phase] at named
          exact guarded.lock setup named called
      | truncating inode | writing inode =>
          simp only [PidFileWorld.call, phase, Option.some.injEq] at called
          subst called
          refine (guarded.store inode _).move process (Or.inr ?_)
          rw [PidFileWorld.store, phase]
          rfl
      | working inode =>
          simp only [PidFileWorld.call, phase, Option.some.injEq] at called
          subst called
          exact guarded.unlink phase
      | deleted inode | exited failure => simp [PidFileWorld.call, phase] at called

theorem Guarded.step (guarded : world.Guarded) (setup : PidFileSetup Process)
    {action : PidFileAction Process} {next : PidFileWorld Process}
    (named : LocksNamedFile world action) (stepped : world.step setup action = some next) :
    next.Guarded := by
  cases action with
  | call process outcome => exact guarded.call setup named stepped
  | terminate process =>
      simp only [PidFileWorld.step] at stepped
      split at stepped
      · cases stepped
      · cases stepped
        exact guarded.exit process none

end PidFileWorld

/-- As long as every lock is granted on the file that the path still names, no
two processes ever work at once. -/
theorem createPidFile_at_most_one_instance (setup : PidFileSetup Process)
    (world : PidFileWorld Process)
    (reachable : (pidFileMachine setup).ReachableUnder LocksNamedFile world) :
    AtMostOneInstance world := by
  have guarded : world.Guarded := by
    refine Machine.ReachableUnder.invariant ?_ ?_ reachable
    · rintro start ⟨-, opening, -⟩ process inode within
      rw [opening process] at within
      cases within
    · intro state action next guarded named stepped
      exact guarded.step setup named stepped
  intro left right leftWorking rightWorking
  cases leftPhase : world.phase left with
  | working first =>
      cases rightPhase : world.phase right with
      | working second =>
          exact guarded.unique (by rw [leftPhase]; rfl) (by rw [rightPhase]; rfl)
      | _ => simp [rightPhase, Phase.isWorking] at rightWorking
  | _ => simp [leftPhase, Phase.isWorking] at leftWorking

/-- A number of daemons that ask for no flag. -/
def daemons (count : Nat) : PidFileSetup (Fin count) where
  progName := "daemon"
  pidFile := "daemon.pid"
  flags := fun _ => 0
  getpid := fun process => 100 + process.val
  dumpcore := fun _ => none

/-- The world before any call, without the file. -/
def noFile (count : Nat) : PidFileWorld (Fin count) :=
  ⟨none, fun _ => [], 0, LockTable.empty, fun _ => .opening⟩

theorem noFile_initial (count : Nat) : (pidFileMachine (daemons count)).Initial (noFile count) :=
  ⟨rfl, fun _ => rfl, by simp [noFile]⟩

/-- One process works, deletes the path and exits, and a second one follows it
in a file of its own. -/
theorem createPidFile_at_most_one_instance_in_turn :
    Exists fun world : PidFileWorld (Fin 2) =>
      (pidFileMachine (daemons 2)).execUnder LocksNamedFile (noFile 2)
        (List.replicate 5 (.call 0 .success) ++ [.terminate 0] ++
          List.replicate 4 (.call 1 .success)) = some world ∧
      world.phase 1 = .working 1 ∧ AtMostOneInstance world := by
  refine ⟨Option.get _ (by decide), (Option.some_get (by decide)).symm, by decide, ?_⟩
  exact createPidFile_at_most_one_instance (daemons 2) _
    (Machine.ReachableUnder.execUnder (.initial (noFile_initial 2))
      (Option.some_get (by decide)).symm)

/-- The second process opens the file of the first before the first deletes the
path, and is granted the lock when the first exits.  The third finds no path,
creates another file, and is granted the lock on that one. -/
def staleLockRun : List (PidFileAction (Fin 3)) :=
  List.replicate 4 (PidFileAction.call 0 .success) ++
    [PidFileAction.call 1 .success, PidFileAction.call 0 .success, PidFileAction.terminate 0] ++
    List.replicate 3 (PidFileAction.call 1 .success) ++
    List.replicate 4 (PidFileAction.call 2 .success)

/-- Of three processes two may work at once. -/
theorem createPidFile_two_instances :
    ¬ forall world, (pidFileMachine (daemons 3)).Reachable world -> AtMostOneInstance world := by
  intro always
  have executed : (pidFileMachine (daemons 3)).exec (noFile 3) staleLockRun =
      some (Option.get ((pidFileMachine (daemons 3)).exec (noFile 3) staleLockRun) (by decide)) :=
    (Option.some_get (by decide)).symm
  have reachable := Machine.reachable_of_exec (noFile_initial 3) executed
  exact absurd (always _ reachable 1 2 (by decide) (by decide)) (by decide)

end Lib
end Tlpi
