import Tlpi.CLibrary.Integers
import Tlpi.Lib.CreatePidFile

namespace Tlpi
namespace Lib

open CLibrary Foundations

universe u

/-!
# What the PID file says

The file is opened by every process that calls `createPidFile`, and truncated and
written only under the lock.  As long as nobody deletes the path, all processes meet at
one file, whose content is then an affair of the process that holds the lock: empty when
that process is about to write, and its PID from then on.  A process that ends in between
leaves part of its text, which the next one to get the lock truncates.
-/

variable {Process : Type u} [DecidableEq Process]

def Phase.file : Phase -> Option Nat
  | .fetchingFlags inode | .updatingFlags inode | .locking inode | .truncating inode
  | .writing inode | .working inode | .deleted inode => some inode
  | .opening | .exited _ => none

/-- The process has been granted the lock and has not ended. -/
def Phase.holdsLock : Phase -> Bool
  | .truncating _ | .writing _ | .working _ | .deleted _ => true
  | _ => false

/-- The process has returned from `createPidFile` and has not ended. -/
def Phase.returned : Phase -> Bool
  | .working _ | .deleted _ => true
  | _ => false

/-- The step does not delete the path. -/
def KeepsPath (world : PidFileWorld Process) : PidFileAction Process -> Prop
  | .call process .success => (world.phase process).isWorking = false
  | _ => True

instance (world : PidFileWorld Process) : DecidablePred (KeepsPath world) := fun action =>
  match action with
  | .call process .success => inferInstanceAs (Decidable ((world.phase process).isWorking = false))
  | .call _ (.failure _) | .call _ (.short _) | .terminate _ => isTrue trivial

/-- The process that takes a step. -/
def PidFileAction.process : PidFileAction Process -> Process
  | .call process _ | .terminate process => process

/-- A process ID is an `int`. -/
def PidFileSetup.PidsAreInts (setup : PidFileSetup Process) : Prop :=
  forall process, INT_MIN ≤ setup.getpid process ∧ setup.getpid process ≤ INT_MAX

/-- The decimal number and the newline fit into the buffer. -/
theorem pidText_eq {pid : Int} (low : INT_MIN ≤ pid) (high : pid ≤ INT_MAX) :
    pidText pid = renderInt pid ++ [newline] := by
  unfold INT_MIN at low
  unfold INT_MAX at high
  have bounded : pid.natAbs < 10 ^ 10 := by omega
  have short := renderInt_length_le (by decide) bounded
  unfold pidText snprintf
  apply List.take_of_length_le
  rw [List.length_append, List.length_singleton, BUF_SIZE]
  omega

/-- What the file holds, from the point of view of the process at a position. -/
def Phase.Written (content : Nat -> List Byte) (pid : Int) : Phase -> Prop
  | .writing inode => content inode = []
  | .working inode | .deleted inode => content inode = renderInt pid ++ [newline]
  | _ => True

namespace PidFileWorld

/-- Every process has the file open that the path names, whoever has been granted the lock
holds it, and the file holds what that process has written. -/
structure Kept (setup : PidFileSetup Process) (world : PidFileWorld Process) : Prop where
  named : forall process inode, (world.phase process).file = some inode -> world.path = some inode
  locked : forall process inode, (world.phase process).file = some inode ->
    (world.phase process).holdsLock = true -> world.locks.HoldsWhole process inode
  written : forall process, (world.phase process).Written world.content (setup.getpid process)

variable {setup : PidFileSetup Process} {world next : PidFileWorld Process} {process : Process}

omit [DecidableEq Process] in
/-- A process without the lock says nothing about the content. -/
theorem written_of_not_holdsLock {phase : Phase} (free : phase.holdsLock = false)
    (content : Nat -> List Byte) (pid : Int) : phase.Written content pid := by
  cases phase with
  | truncating _ | writing _ | working _ | deleted _ => cases free
  | _ => trivial

omit [DecidableEq Process] in
theorem file_of_holdsLock {phase : Phase} (holds : phase.holdsLock = true) :
    Exists fun inode => phase.file = some inode := by
  cases phase with
  | truncating inode | writing inode | working inode | deleted inode => exact ⟨inode, rfl⟩
  | _ => cases holds

omit [DecidableEq Process] in
theorem Kept.unique (kept : Kept setup world) {left right : Process}
    (leftHolds : (world.phase left).holdsLock = true)
    (rightHolds : (world.phase right).holdsLock = true) : left = right := by
  rcases file_of_holdsLock leftHolds with ⟨first, leftFile⟩
  rcases file_of_holdsLock rightHolds with ⟨second, rightFile⟩
  have same : first = second :=
    Option.some.inj ((kept.named left first leftFile).symm.trans (kept.named right second rightFile))
  subst same
  exact (kept.locked left first leftFile leftHolds).owner_unique
    (kept.locked right first rightFile rightHolds)

/-- One process moves.  The others keep the file and their locks, and the content changes
only while none of them holds the lock. -/
theorem Kept.move (kept : Kept setup world) (between : PidFileWorld Process)
    (samePhases : between.phase = world.phase) {phase : Phase}
    (path : forall inode, world.path = some inode -> between.path = some inode)
    (locks : forall other inode, other ≠ process -> world.locks.HoldsWhole other inode ->
      between.locks.HoldsWhole other inode)
    (content : between.content = world.content ∨
      forall other, other ≠ process -> (world.phase other).holdsLock = false)
    (named : forall inode, phase.file = some inode -> between.path = some inode)
    (locked : forall inode, phase.file = some inode -> phase.holdsLock = true ->
      between.locks.HoldsWhole process inode)
    (written : phase.Written between.content (setup.getpid process)) :
    Kept setup (between.move process phase) := by
  have own : (between.move process phase).phase process = phase := Function.update_self _ _ _
  have others : forall other, other ≠ process ->
      (between.move process phase).phase other = world.phase other := by
    intro other different
    rw [← samePhases]
    exact Function.update_of_ne different _ _
  constructor
  case named =>
    intro other inode file
    rcases eq_or_ne other process with same | different
    · rw [same, own] at file
      exact named inode file
    · rw [others other different] at file
      exact path inode (kept.named other inode file)
  case locked =>
    intro other inode file holds
    rcases eq_or_ne other process with same | different
    · subst same
      rw [own] at file holds
      exact locked inode file holds
    · rw [others other different] at file holds
      exact locks other inode different (kept.locked other inode file holds)
  case written =>
    intro other
    rcases eq_or_ne other process with same | different
    · subst same
      rw [own]
      exact written
    · rw [others other different]
      change (world.phase other).Written between.content (setup.getpid other)
      rcases content with same | free
      · rw [same]
        exact kept.written other
      · exact written_of_not_holdsLock (free other different) _ _

/-- A process goes on with the same file and changes nothing but its position. -/
theorem Kept.moveAlone (kept : Kept setup world) {before phase : Phase}
    (here : world.phase process = before) (sameFile : phase.file = before.file)
    (sameLock : phase.holdsLock = before.holdsLock)
    (written : phase.Written world.content (setup.getpid process)) :
    Kept setup (world.move process phase) := by
  rw [← here] at sameFile sameLock
  apply kept.move world rfl (fun _ named => named) (fun _ _ _ holds => holds) (Or.inl rfl) _ _ written
  · intro inode file
    exact kept.named process inode (sameFile ▸ file)
  · intro inode file holds
    exact kept.locked process inode (sameFile ▸ file) (sameLock ▸ holds)

/-- The holder of the lock writes to the file. -/
theorem Kept.store (kept : Kept setup world) {inode : Nat} {bytes : List Byte} {before phase : Phase}
    (here : world.phase process = before) (holds : before.holdsLock = true)
    (sameFile : phase.file = before.file)
    (written : phase.Written (world.store inode bytes).content (setup.getpid process)) :
    Kept setup ((world.store inode bytes).move process phase) := by
  rw [← here] at sameFile holds
  apply kept.move (world.store inode bytes) rfl (fun _ named => named) (fun _ _ _ holds => holds) _ _ _
    written
  · refine Or.inr ?_
    intro other different
    exact Bool.eq_false_iff.mpr (fun otherHolds => different (kept.unique otherHolds holds))
  · intro file fileIs
    exact kept.named process file (sameFile ▸ fileIs)
  · intro file fileIs _
    exact kept.locked process file (sameFile ▸ fileIs) holds

/-- The end of a process, which may have stored a part of its text. -/
theorem Kept.exit (kept : Kept setup world) (between : PidFileWorld Process)
    (samePhases : between.phase = world.phase) (samePath : between.path = world.path)
    (sameLocks : between.locks = world.locks)
    (content : between.content = world.content ∨
      forall other, other ≠ process -> (world.phase other).holdsLock = false)
    (failure : Option Failure) : Kept setup (between.exit process failure) := by
  unfold PidFileWorld.exit
  apply kept.move { between with locks := between.locks.release process } samePhases _ _ content
  · intro inode file
    cases file
  · intro inode file
    cases file
  · trivial
  · intro inode named
    exact samePath.trans named
  · intro other inode different holds
    change (between.locks.release process).HoldsWhole other inode
    rw [sameLocks]
    exact holds.release different

/-- The file is opened under the path, or created when nobody has it open. -/
theorem Kept.openPath (kept : Kept setup world) {phase : Phase}
    (file : phase.file = some world.openPath.1) (free : phase.holdsLock = false) :
    Kept setup (world.openPath.2.move process phase) := by
  have written := written_of_not_holdsLock free world.openPath.2.content (setup.getpid process)
  have unlocked : phase.holdsLock ≠ true := Bool.eq_false_iff.mp free
  unfold PidFileWorld.openPath at file written ⊢
  cases path : world.path with
  | some inode =>
      simp only [path] at file written ⊢
      refine kept.move world rfl (fun _ named => named) (fun _ _ _ holds => holds) (Or.inl rfl) ?_
        (fun _ _ holds => absurd holds unlocked) written
      intro other fileIs
      rw [← fileIs, file]
      exact path
  | none =>
      simp only [path] at file written ⊢
      have nobody : forall other, (world.phase other).holdsLock = false := by
        intro other
        apply Bool.eq_false_iff.mpr
        intro holds
        rcases file_of_holdsLock holds with ⟨inode, fileIs⟩
        have named := kept.named other inode fileIs
        rw [path] at named
        cases named
      refine kept.move
        { world.store world.nextInode [] with
          path := some world.nextInode
          nextInode := world.nextInode + 1 }
        rfl ?_ (fun _ _ _ holds => holds) (Or.inr (fun other _ => nobody other)) ?_
        (fun _ _ holds => absurd holds unlocked) written
      · intro inode named
        rw [path] at named
        cases named
      · intro inode fileIs
        exact file.symm.trans fileIs

/-- The lock step gives the process the lock or ends it. -/
theorem Kept.lock (kept : Kept setup world) {inode : Nat} (phase : world.phase process = .locking inode)
    (stepped : world.lock setup process inode = some next) : Kept setup next := by
  unfold PidFileWorld.lock at stepped
  rw [lockRegion_whole] at stepped
  cases acquired : world.locks.acquire ⟨process, inode, true, Region.whole⟩ with
  | none =>
      simp only [PidFileWorld.descriptor, acquired, Option.some.injEq] at stepped
      subst stepped
      exact kept.exit world rfl rfl rfl (Or.inl rfl) _
  | some table =>
      simp only [PidFileWorld.descriptor, acquired, Option.some.injEq] at stepped
      subst stepped
      refine kept.move { world with locks := table } rfl (fun _ named => named) ?_ (Or.inl rfl) ?_ ?_ trivial
      · intro other file different holds
        exact holds.acquire acquired different
      · intro file fileIs
        exact kept.named process file (by rw [phase]; exact fileIs)
      · intro file fileIs _
        cases fileIs
        exact LockTable.mem_acquire acquired

/-- Every call but a successful `unlink`. -/
theorem Kept.call (kept : Kept setup world) (pids : setup.PidsAreInts) {outcome : CallOutcome}
    (keeps : KeepsPath world (.call process outcome))
    (called : world.call setup process outcome = some next) : Kept setup next := by
  cases outcome with
  | failure errno =>
      rcases call_failure called with ⟨failure, rfl⟩ | ⟨inode, phase, rfl⟩
      · exact kept.exit world rfl rfl rfl (Or.inl rfl) _
      · have written := kept.written process
        rw [phase] at written
        exact kept.moveAlone phase rfl rfl written
  | short count =>
      rcases call_short called with ⟨inode, bytes, failure, phase, rfl⟩
      refine kept.exit (world.store inode bytes) rfl rfl rfl (Or.inr ?_) _
      intro other different
      have holds : (world.phase process).holdsLock = true := by
        rw [phase]
        rfl
      exact Bool.eq_false_iff.mpr (fun otherHolds => different (kept.unique otherHolds holds))
  | success =>
      cases phase : world.phase process with
      | opening =>
          simp only [PidFileWorld.call, phase, Option.some.injEq] at called
          subst called
          apply kept.openPath <;> split <;> rfl
      | fetchingFlags inode | updatingFlags inode =>
          simp only [PidFileWorld.call, phase, Option.some.injEq] at called
          subst called
          exact kept.moveAlone phase rfl rfl trivial
      | locking inode =>
          simp only [PidFileWorld.call, phase] at called
          exact kept.lock phase called
      | truncating inode =>
          simp only [PidFileWorld.call, phase, Option.some.injEq] at called
          subst called
          exact kept.store phase rfl rfl (Function.update_self _ _ _)
      | writing inode =>
          have empty : world.content inode = [] := by
            have written := kept.written process
            rw [phase] at written
            exact written
          simp only [PidFileWorld.call, phase, Option.some.injEq] at called
          subst called
          refine kept.store phase rfl rfl ?_
          change Function.update _ inode _ inode = _
          rw [Function.update_self, PidFileWorld.call.written, empty, List.drop_nil, List.append_nil]
          exact pidText_eq (pids process).1 (pids process).2
      | working inode =>
          simp only [KeepsPath, phase] at keeps
          cases keeps
      | deleted inode | exited failure => simp [PidFileWorld.call, phase] at called

theorem Kept.step (kept : Kept setup world) (pids : setup.PidsAreInts) {action : PidFileAction Process}
    (keeps : KeepsPath world action) (stepped : world.step setup action = some next) :
    Kept setup next := by
  cases action with
  | call process outcome => exact kept.call pids keeps stepped
  | terminate process =>
      simp only [PidFileWorld.step] at stepped
      split at stepped
      · cases stepped
      · cases stepped
        exact kept.exit world rfl rfl rfl (Or.inl rfl) _

/-- Only the holder of the lock changes the content of the file or deletes the path. -/
theorem untouched {action : PidFileAction Process} (free : (world.phase action.process).holdsLock = false)
    (stepped : world.step setup action = some next) {inode : Nat} (named : world.path = some inode) :
    next.path = some inode ∧ next.content inode = world.content inode := by
  cases action with
  | terminate process =>
      simp only [PidFileWorld.step] at stepped
      split at stepped
      · cases stepped
      · cases stepped
        exact ⟨named, rfl⟩
  | call process outcome =>
      change (world.phase process).holdsLock = false at free
      change world.call setup process outcome = some next at stepped
      cases outcome with
      | failure errno =>
          rcases call_failure stepped with ⟨failure, rfl⟩ | ⟨_, _, rfl⟩
          · exact ⟨named, rfl⟩
          · exact ⟨named, rfl⟩
      | short count =>
          rcases call_short stepped with ⟨_, _, _, phase, _⟩
          rw [phase] at free
          cases free
      | success =>
          cases phase : world.phase process with
          | opening =>
              simp only [PidFileWorld.call, phase, PidFileWorld.openPath, named,
                Option.some.injEq] at stepped
              subst stepped
              exact ⟨named, rfl⟩
          | fetchingFlags _ | updatingFlags _ =>
              simp only [PidFileWorld.call, phase, Option.some.injEq] at stepped
              subst stepped
              exact ⟨named, rfl⟩
          | locking file =>
              simp only [PidFileWorld.call, phase] at stepped
              unfold PidFileWorld.lock at stepped
              split at stepped
              · cases stepped
                exact ⟨named, rfl⟩
              · cases stepped
              · cases stepped
                exact ⟨named, rfl⟩
          | exited _ => simp [PidFileWorld.call, phase] at stepped
          | truncating _ | writing _ | working _ | deleted _ =>
              rw [phase] at free
              cases free

end PidFileWorld

/-- As long as nobody deletes the path, the file holds the PID of any process that has
returned from `createPidFile` and not ended, and a process without the lock does not
change the content. -/
theorem pidFile_names_holder (setup : PidFileSetup Process) (pids : setup.PidsAreInts)
    (world : PidFileWorld Process) (reachable : (pidFileMachine setup).ReachableUnder KeepsPath world) :
    (forall process, (world.phase process).returned = true -> Exists fun inode =>
      world.path = some inode ∧
        world.content inode = renderInt (setup.getpid process) ++ [newline]) ∧
    (forall action next, world.step setup action = some next ->
      (world.phase action.process).holdsLock = false -> forall inode, world.path = some inode ->
        next.path = some inode ∧ next.content inode = world.content inode) := by
  have kept : PidFileWorld.Kept setup world := by
    refine Machine.ReachableUnder.invariant ?_ ?_ reachable
    · rintro start ⟨_, opening, _⟩
      constructor
      · intro process inode file
        rw [opening process] at file
        cases file
      · intro process inode file
        rw [opening process] at file
        cases file
      · intro process
        rw [opening process]
        trivial
    · intro state action next kept keeps stepped
      exact kept.step pids keeps stepped
  constructor
  · intro process returned
    have written := kept.written process
    have named := kept.named process
    cases phase : world.phase process with
    | working inode | deleted inode =>
        rw [phase] at written named
        exact ⟨inode, named inode rfl, written⟩
    | _ =>
        rw [phase] at returned
        cases returned
  · intro action next stepped free inode named
    exact PidFileWorld.untouched free stepped named

/-- A first process ends between truncation and write, in a file that held a longer
number; a second gets the lock and writes; a third is refused. -/
def takenOver : List (PidFileAction (Fin 3)) :=
  (List.finRange 3).flatMap fun process =>
    match process.val with
    | 0 => List.replicate 3 (.call process .success) ++ [.terminate process]
    | 1 => List.replicate 4 (.call process .success)
    | _ => List.replicate 2 (.call process .success)

def oldFile : PidFileWorld (Fin 3) :=
  ⟨some 0, fun _ => [57, 57, 57, 57, 57, 10], 1, LockTable.empty, fun _ => .opening⟩

def takenOverFinal : PidFileWorld (Fin 3) :=
  ((pidFileMachine (daemons 3)).execUnder KeepsPath oldFile takenOver).get (by decide)

theorem takenOver_names_holder :
    (Exists fun inode => takenOverFinal.path = some inode ∧
      takenOverFinal.content inode = renderInt 101 ++ [newline]) ∧
    (takenOverFinal.phase 2).returned = false := by
  have pids : (daemons 3).PidsAreInts := by
    intro process
    revert process
    decide
  have initial : (pidFileMachine (daemons 3)).Initial oldFile :=
    ⟨rfl, fun _ => rfl, by simp [oldFile]⟩
  have reachable : (pidFileMachine (daemons 3)).ReachableUnder KeepsPath takenOverFinal :=
    Machine.ReachableUnder.execUnder (.initial initial) (Option.some_get _).symm
  exact ⟨(pidFile_names_holder (daemons 3) pids takenOverFinal reachable).1 1 (by decide), by decide⟩

end Lib
end Tlpi
