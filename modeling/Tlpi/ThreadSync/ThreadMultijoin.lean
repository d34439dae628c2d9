import Tlpi.Foundations.Counting
import Tlpi.Foundations.Transition

namespace Tlpi
namespace ThreadSync
namespace ThreadMultijoin

open Foundations

/-!
# Joining any thread that terminates

The main thread starts a number of threads and then joins whichever of them has
terminated.  POSIX offers no call that joins *any* thread, so the program keeps a
table of thread states and two counters under `threadMutex`, and the terminating
threads announce themselves through the condition variable `threadDied`.

The machine below takes one step per access to the shared variables or call of a
`pthread` function.  Only `pthread_cond_wait` is split: it releases the mutex and
blocks in one step, is woken by a signal or spuriously, and then competes for
the mutex again.  Every call whose return value the program checks may also
fail, and `getInt` may refuse the argument of the thread that is created next.
Either ends the whole process.
-/

inductive Tstate where
  | TS_ALIVE
  | TS_TERMINATED
  | TS_JOINED
deriving DecidableEq, Repr

/-- The positions of a thread in `threadFunc`, each named after what the thread
does next. -/
inductive ThreadPc where
  | notCreated
  | sleeping
  | locking
  | incrementing
  | marking
  | unlocking
  | signalling
  | finished
deriving DecidableEq, Repr

/-- The positions of the main thread.  The loops that walk the table carry their
index, and the body of the joining loop the thread it is about. -/
inductive MainPc (totThreads : Nat) where
  | creating (idx : Nat)
  | spawning (idx : Fin totThreads)
  | testingLive
  | locking
  | testingUnjoined
  | waiting
  | woken
  | scanning (idx : Nat)
  | joining (idx : Fin totThreads)
  | recording (idx : Fin totThreads)
  | countingLive (idx : Fin totThreads)
  | countingUnjoined (idx : Fin totThreads)
  | unlocking
  | leftLoop
deriving DecidableEq, Repr

/-- Who may own the mutex. -/
inductive Party (totThreads : Nat) where
  | main
  | thread (idx : Fin totThreads)
deriving DecidableEq, Repr

inductive ExitStatus where
  | success
  | failure
deriving DecidableEq, Repr

/-- The shared variables, the mutex, and every thread's position.  `joinCalls`
counts the calls of `pthread_join` on each thread; the program does not hold it. -/
structure State (totThreads : Nat) where
  threadPc : Fin totThreads -> ThreadPc
  main : MainPc totThreads
  state : Fin totThreads -> Tstate
  numLive : Int
  numUnjoined : Int
  owner : Option (Party totThreads)
  joinCalls : Fin totThreads -> Nat
  exitStatus : Option ExitStatus

inductive Action (totThreads : Nat) where
  | thread (idx : Fin totThreads)
  | main
  | spuriousWakeup
  | fail (party : Party totThreads)
deriving DecidableEq, Repr

variable {totThreads : Nat}

/-- The state in which `main` reaches its creation loop.  The table comes from
`calloc`, so every entry is `TS_ALIVE`. -/
def start (totThreads : Nat) : State totThreads where
  threadPc := fun _ => .notCreated
  main := .creating 0
  state := fun _ => .TS_ALIVE
  numLive := totThreads
  numUnjoined := 0
  owner := none
  joinCalls := fun _ => 0
  exitStatus := none

namespace State

def moveThread (current : State totThreads) (idx : Fin totThreads) (pc : ThreadPc) :
    State totThreads :=
  { current with threadPc := Function.update current.threadPc idx pc }

def moveMain (current : State totThreads) (pc : MainPc totThreads) : State totThreads :=
  { current with main := pc }

/-- `thread[idx].state = value`. -/
def setState (current : State totThreads) (idx : Fin totThreads) (value : Tstate) :
    State totThreads :=
  { current with state := Function.update current.state idx value }

/-- A party obtains a free mutex; on a mutex that is held it blocks. -/
def mutexLock (current : State totThreads) (party : Party totThreads) :
    Option (State totThreads) :=
  if current.owner = none then some { current with owner := some party } else none

theorem mutexLock_eq_some {current next : State totThreads} {party : Party totThreads}
    (locked : current.mutexLock party = some next) :
    current.owner = none ∧ next = { current with owner := some party } := by
  unfold mutexLock at locked
  split at locked
  · exact ⟨‹_›, (Option.some.inj locked).symm⟩
  · cases locked

def mutexUnlock (current : State totThreads) : State totThreads :=
  { current with owner := none }

/-- `pthread_cond_signal` wakes the main thread if it is blocked, and is
otherwise without effect. -/
def condSignal (current : State totThreads) : State totThreads :=
  if current.main = .waiting then current.moveMain .woken else current

@[simp]
theorem condSignal_threadPc (current : State totThreads) :
    current.condSignal.threadPc = current.threadPc := by
  unfold condSignal
  split <;> rfl

@[simp]
theorem condSignal_owner (current : State totThreads) :
    current.condSignal.owner = current.owner := by
  unfold condSignal
  split <;> rfl

def threadStep (current : State totThreads) (idx : Fin totThreads) :
    Option (State totThreads) :=
  match current.threadPc idx with
  | .notCreated => none
  | .sleeping => some (current.moveThread idx .locking)
  | .locking => (current.mutexLock (.thread idx)).map (fun next => next.moveThread idx .incrementing)
  | .incrementing =>
      some ({ current with numUnjoined := current.numUnjoined + 1 }.moveThread idx .marking)
  | .marking => some ((current.setState idx .TS_TERMINATED).moveThread idx .unlocking)
  | .unlocking => some (current.mutexUnlock.moveThread idx .signalling)
  | .signalling => some (current.condSignal.moveThread idx .finished)
  | .finished => none

def mainStep (current : State totThreads) : Option (State totThreads) :=
  match current.main with
  | .creating idx =>
      if within : idx < totThreads then
        some ((current.setState ⟨idx, within⟩ .TS_ALIVE).moveMain (.spawning ⟨idx, within⟩))
      else some (current.moveMain .testingLive)
  | .spawning idx =>
      some ((current.moveThread idx .sleeping).moveMain (.creating (idx.val + 1)))
  | .testingLive => some (current.moveMain (if current.numLive > 0 then .locking else .leftLoop))
  | .locking => (current.mutexLock .main).map (fun next => next.moveMain .testingUnjoined)
  | .testingUnjoined =>
      if current.numUnjoined = 0 then some (current.mutexUnlock.moveMain .waiting)
      else some (current.moveMain (.scanning 0))
  | .waiting => none
  | .woken => (current.mutexLock .main).map (fun next => next.moveMain .testingUnjoined)
  | .scanning idx =>
      if within : idx < totThreads then
        if current.state ⟨idx, within⟩ = .TS_TERMINATED then
          some ({ current with
            joinCalls := Function.update current.joinCalls ⟨idx, within⟩
              (current.joinCalls ⟨idx, within⟩ + 1) }.moveMain (.joining ⟨idx, within⟩))
        else some (current.moveMain (.scanning (idx + 1)))
      else some (current.moveMain .unlocking)
  | .joining idx =>
      if current.threadPc idx = .finished then some (current.moveMain (.recording idx)) else none
  | .recording idx => some ((current.setState idx .TS_JOINED).moveMain (.countingLive idx))
  | .countingLive idx =>
      some ({ current with numLive := current.numLive - 1 }.moveMain (.countingUnjoined idx))
  | .countingUnjoined idx =>
      some ({ current with numUnjoined := current.numUnjoined - 1 }.moveMain
        (.scanning (idx.val + 1)))
  | .unlocking => some (current.mutexUnlock.moveMain .testingLive)
  | .leftLoop => some { current with exitStatus := some .success }

/-- Whether a party is at a call whose error return it checks, or that ends the process
itself. -/
def atCheckedCall (current : State totThreads) : Party totThreads -> Bool
  | .main =>
      match current.main with
      | .creating idx => decide (idx < totThreads)
      | .spawning _ | .locking | .waiting | .woken | .joining _ | .unlocking => true
      | _ => false
  | .thread idx =>
      match current.threadPc idx with
      | .locking | .unlocking | .signalling => true
      | _ => false

/-- `errExitEN` ends the process, whichever thread calls it. -/
def fail (current : State totThreads) (party : Party totThreads) : Option (State totThreads) :=
  if current.atCheckedCall party then some { current with exitStatus := some .failure } else none

/-- One step of the process.  A process that has ended takes no step. -/
def step (current : State totThreads) (action : Action totThreads) :
    Option (State totThreads) :=
  match current.exitStatus with
  | some _ => none
  | none =>
      match action with
      | .thread idx => current.threadStep idx
      | .main => current.mainStep
      | .spuriousWakeup => if current.main = .waiting then some (current.moveMain .woken) else none
      | .fail party => current.fail party

end State

/-- The program with a given number of arguments, as a machine. -/
def process (totThreads : Nat) : Machine (State totThreads) (Action totThreads) where
  Initial := fun state => state = start totThreads
  step := State.step

/-! ## What each position has done and still owes -/

namespace ThreadPc

/-- The thread is between taking and releasing the mutex. -/
def critical : ThreadPc -> Bool
  | .incrementing | .marking | .unlocking => true
  | _ => false

/-- The thread has not yet set its state to `TS_TERMINATED`. -/
def unmarked : ThreadPc -> Bool
  | .notCreated | .sleeping | .locking | .incrementing | .marking => true
  | _ => false

/-- The thread has counted itself as unjoined and has still to issue its signal. -/
def owesSignal : ThreadPc -> Bool
  | .marking | .unlocking | .signalling => true
  | _ => false

end ThreadPc

namespace MainPc

/-- The main thread is between obtaining and releasing the mutex. -/
def critical : MainPc totThreads -> Bool
  | .testingUnjoined | .scanning _ | .joining _ | .recording _ | .countingLive _
  | .countingUnjoined _ | .unlocking => true
  | _ => false

/-- Decrements of `numLive` still due for a thread already marked as joined. -/
def owedLive : MainPc totThreads -> Nat
  | .countingLive _ => 1
  | _ => 0

/-- Decrements of `numUnjoined` still due for a thread already marked as joined. -/
def owedUnjoined : MainPc totThreads -> Nat
  | .countingLive _ | .countingUnjoined _ => 1
  | _ => 0

/-- The thread has been passed to `pthread_join` and is not yet marked as joined. -/
def inJoin : MainPc totThreads -> Fin totThreads -> Bool
  | .joining target, idx | .recording target, idx => target = idx
  | _, _ => false

/-- The positions owe the same decrements and have the same thread in
`pthread_join`. -/
structure SameDuties (first second : MainPc totThreads) : Prop where
  unjoined : first.owedUnjoined = second.owedUnjoined
  live : first.owedLive = second.owedLive
  join : first.inJoin = second.inJoin

/-- The creation loop has yet to start the thread. -/
def yetToSpawn : MainPc totThreads -> Fin totThreads -> Bool
  | .creating next, idx => next ≤ idx.val
  | .spawning next, idx => next ≤ idx
  | _, _ => false

end MainPc

namespace State

/-- The number of `TS_TERMINATED` entries. -/
def terminatedEntries (current : State totThreads) : Nat :=
  countWhere (fun entry => entry = Tstate.TS_TERMINATED) current.state

/-- The number of entries that are not `TS_JOINED`. -/
def unjoinedEntries (current : State totThreads) : Nat :=
  countWhere (fun entry => entry ≠ Tstate.TS_JOINED) current.state

/-- The number of threads that have counted themselves and not yet set their
state.  The mutex admits one at a time, but the count needs no such bound. -/
def markingThreads (current : State totThreads) : Nat :=
  countWhere (fun pc => pc = ThreadPc.marking) current.threadPc

end State

structure Invariant (current : State totThreads) : Prop where
  threadOwns : forall idx, (current.threadPc idx).critical = true <->
    current.owner = some (.thread idx)
  mainOwns : current.main.critical = true <-> current.owner = some .main
  alive_iff : forall idx, current.state idx = .TS_ALIVE <->
    (current.threadPc idx).unmarked = true
  unjoined : current.numUnjoined =
    current.terminatedEntries + current.markingThreads + current.main.owedUnjoined
  live : current.numLive = current.unjoinedEntries + current.main.owedLive
  joined : forall idx, current.joinCalls idx =
    if current.state idx = .TS_JOINED ∨ current.main.inJoin idx = true then 1 else 0
  joinTarget : forall idx, current.main.inJoin idx = true -> current.state idx = .TS_TERMINATED
  fresh : forall idx, current.main.yetToSpawn idx = true -> current.threadPc idx = .notCreated
  left : current.main = .leftLoop -> forall idx, current.state idx = .TS_JOINED
  wakeup : current.main = .waiting -> 0 < current.numUnjoined ->
    Exists fun idx => (current.threadPc idx).owesSignal = true

theorem start_invariant (totThreads : Nat) : Invariant (start totThreads) := by
  have noneTerminated : (start totThreads).terminatedEntries = 0 :=
    countWhere_eq_zero_iff.mpr (fun _ => by simp [start])
  have noneMarking : (start totThreads).markingThreads = 0 :=
    countWhere_eq_zero_iff.mpr (fun _ => by simp [start])
  have allUnjoined : (start totThreads).unjoinedEntries = totThreads := by
    have all : (start totThreads).unjoinedEntries = Fintype.card (Fin totThreads) :=
      countWhere_eq_card (fun _ => by simp [start])
    rw [all, Fintype.card_fin]
  refine ⟨?_, ?_, ?_, ?_, ?_, ?_, ?_, ?_, ?_, ?_⟩
  · simp [start, ThreadPc.critical]
  · simp [start, MainPc.critical]
  · simp [start, ThreadPc.unmarked]
  · rw [noneTerminated, noneMarking]
    rfl
  · rw [allUnjoined]
    rfl
  · simp [start, MainPc.inJoin]
  · simp [start, MainPc.inJoin]
  · simp [start]
  · simp [start]
  · simp [start]

namespace Invariant

variable {current : State totThreads}

/-- The main thread may move, and take or release the mutex on the way, as long
as the move changes none of its debts and calls no `pthread_join`. -/
theorem moveMain (invariant : Invariant current) {pc : MainPc totThreads}
    {owner : Option (Party totThreads)}
    (owns : pc.critical = true <-> owner = some .main)
    (others : forall idx, owner = some (.thread idx) <-> current.owner = some (.thread idx))
    (same : pc.SameDuties current.main)
    (fresh : forall idx, pc.yetToSpawn idx = true -> current.threadPc idx = .notCreated)
    (left : pc = .leftLoop -> forall idx, current.state idx = .TS_JOINED)
    (wakeup : pc = .waiting -> 0 < current.numUnjoined ->
      Exists fun idx => (current.threadPc idx).owesSignal = true) :
    Invariant { current with main := pc, owner := owner } where
  threadOwns idx := (invariant.threadOwns idx).trans (others idx).symm
  mainOwns := owns
  alive_iff := invariant.alive_iff
  unjoined := by
    have before := invariant.unjoined
    rw [← same.unjoined] at before
    exact before
  live := by
    have before := invariant.live
    rw [← same.live] at before
    exact before
  joined := by
    have before := invariant.joined
    rw [← same.join] at before
    exact before
  joinTarget := by
    have before := invariant.joinTarget
    rw [← same.join] at before
    exact before
  fresh := fresh
  left := left
  wakeup := wakeup

/-- A thread may move, and take or release the mutex on the way, as long as it
neither counts nor marks itself and keeps its promise to signal. -/
theorem moveThread (invariant : Invariant current) {idx : Fin totThreads} {pc : ThreadPc}
    {owner : Option (Party totThreads)}
    (owns : pc.critical = true <-> owner = some (.thread idx))
    (others : forall party, party ≠ .thread idx ->
      (owner = some party <-> current.owner = some party))
    (sameUnmarked : pc.unmarked = (current.threadPc idx).unmarked)
    (sameMarking : pc = .marking <-> current.threadPc idx = .marking)
    (spawned : current.main.yetToSpawn idx = false)
    (promise : current.main = .waiting -> (current.threadPc idx).owesSignal = true ->
      pc.owesSignal = true) :
    Invariant
      { current with threadPc := Function.update current.threadPc idx pc, owner := owner } where
  threadOwns other := by
    rcases eq_or_ne other idx with same | different
    · subst same
      simpa using owns
    · have elsewhere : Party.thread other ≠ Party.thread idx := fun equal => different (by cases equal; rfl)
      simpa [different] using (invariant.threadOwns other).trans (others _ elsewhere).symm
  mainOwns := invariant.mainOwns.trans (others .main (by simp)).symm
  alive_iff other := by
    rcases eq_or_ne other idx with same | different
    · subst same
      simpa [sameUnmarked] using invariant.alive_iff other
    · simpa [different] using invariant.alive_iff other
  unjoined := by
    have count : countWhere (fun pc => pc = ThreadPc.marking)
        (Function.update current.threadPc idx pc) = current.markingThreads :=
      countWhere_update_of_iff sameMarking
    have before := invariant.unjoined
    rw [← count] at before
    exact before
  live := invariant.live
  joined := invariant.joined
  joinTarget := invariant.joinTarget
  fresh other pending := by
    have different : other ≠ idx := by
      intro same
      subst same
      exact absurd pending (by simp [spawned])
    simpa [different] using invariant.fresh other pending
  left := invariant.left
  wakeup waiting positive := by
    rcases invariant.wakeup waiting positive with ⟨other, owes⟩
    refine ⟨other, ?_⟩
    rcases eq_or_ne other idx with same | different
    · subst same
      simpa using promise waiting owes
    · simpa [different] using owes

theorem spawned (invariant : Invariant current) {idx : Fin totThreads}
    (running : current.threadPc idx ≠ .notCreated) : current.main.yetToSpawn idx = false := by
  rw [← Bool.not_eq_true]
  exact fun pending => running (invariant.fresh idx pending)

/-- A thread that has still to mark itself is recorded as alive. -/
theorem alive (invariant : Invariant current) {idx : Fin totThreads}
    (unmarked : (current.threadPc idx).unmarked = true) : current.state idx = .TS_ALIVE :=
  (invariant.alive_iff idx).mpr unmarked

/-- Waking the main thread, by a signal or spuriously. -/
theorem wake (invariant : Invariant current) (asleep : current.main = .waiting) :
    Invariant (current.moveMain .woken) := by
  have owns := invariant.mainOwns
  rw [asleep] at owns
  exact invariant.moveMain owns (fun _ => Iff.rfl) (by rw [asleep]; exact ⟨rfl, rfl, rfl⟩)
    (by simp [MainPc.yetToSpawn]) (by simp) (by simp)

/-- After a signal the main thread is not asleep. -/
theorem condSignal (invariant : Invariant current) :
    Invariant current.condSignal ∧ current.condSignal.main ≠ .waiting := by
  unfold State.condSignal
  split
  · exact ⟨invariant.wake ‹_›, by simp [State.moveMain]⟩
  · exact ⟨invariant, ‹_›⟩

/-- The end of the process changes nothing the invariant speaks of. -/
theorem ended (invariant : Invariant current) (status : Option ExitStatus) :
    Invariant { current with exitStatus := status } := by
  rcases invariant with ⟨threadOwns, mainOwns, alive_iff, unjoined, live, joined, joinTarget,
    fresh, left, wakeup⟩
  exact ⟨threadOwns, mainOwns, alive_iff, unjoined, live, joined, joinTarget, fresh, left, wakeup⟩

/-! ### The steps of a thread -/

theorem threadIncrement (invariant : Invariant current) {idx : Fin totThreads}
    (pc : current.threadPc idx = .incrementing) :
    Invariant ({ current with numUnjoined := current.numUnjoined + 1 }.moveThread idx .marking) where
  threadOwns other := by
    rcases eq_or_ne other idx with same | different
    · subst same
      simpa [State.moveThread, pc, ThreadPc.critical] using invariant.threadOwns other
    · simpa [State.moveThread, different] using invariant.threadOwns other
  mainOwns := invariant.mainOwns
  alive_iff other := by
    rcases eq_or_ne other idx with same | different
    · subst same
      simpa [State.moveThread, pc, ThreadPc.unmarked] using invariant.alive_iff other
    · simpa [State.moveThread, different] using invariant.alive_iff other
  unjoined := by
    have marking : countWhere (fun pc => pc = ThreadPc.marking)
        (Function.update current.threadPc idx .marking) = current.markingThreads + 1 :=
      countWhere_update_gain (by simp [pc]) rfl
    have before := invariant.unjoined
    simp only [State.moveThread, State.terminatedEntries, State.markingThreads] at *
    omega
  live := invariant.live
  joined := invariant.joined
  joinTarget := invariant.joinTarget
  fresh other pending := by
    have different : other ≠ idx := by
      rintro rfl
      exact absurd (invariant.fresh other pending) (by simp [pc])
    simpa [State.moveThread, different] using invariant.fresh other pending
  left := invariant.left
  wakeup _ _ := ⟨idx, by simp [State.moveThread, ThreadPc.owesSignal]⟩

theorem threadMark (invariant : Invariant current) {idx : Fin totThreads}
    (pc : current.threadPc idx = .marking) :
    Invariant ((current.setState idx .TS_TERMINATED).moveThread idx .unlocking) := by
  have alive : current.state idx = .TS_ALIVE := invariant.alive (by simp [pc, ThreadPc.unmarked])
  have notInJoin : current.main.inJoin idx = false := by
    rw [← Bool.not_eq_true]
    intro inJoin
    exact absurd (invariant.joinTarget idx inJoin) (by simp [alive])
  refine ⟨?_, invariant.mainOwns, ?_, ?_, ?_, ?_, ?_, ?_, ?_, ?_⟩
  · intro other
    rcases eq_or_ne other idx with same | different
    · subst same
      simpa [State.moveThread, State.setState, pc, ThreadPc.critical] using
        invariant.threadOwns other
    · simpa [State.moveThread, State.setState, different] using invariant.threadOwns other
  · intro other
    rcases eq_or_ne other idx with same | different
    · subst same
      simp [State.moveThread, State.setState, ThreadPc.unmarked]
    · simpa [State.moveThread, State.setState, different] using invariant.alive_iff other
  · have marking : countWhere (fun pc => pc = ThreadPc.marking)
        (Function.update current.threadPc idx .unlocking) + 1 = current.markingThreads :=
      countWhere_update_loss pc (by simp)
    have terminated : countWhere (fun entry => entry = Tstate.TS_TERMINATED)
        (Function.update current.state idx .TS_TERMINATED) = current.terminatedEntries + 1 :=
      countWhere_update_gain (by simp [alive]) rfl
    have before := invariant.unjoined
    simp only [State.moveThread, State.setState, State.terminatedEntries,
      State.markingThreads] at *
    omega
  · have count : countWhere (fun entry => entry ≠ Tstate.TS_JOINED)
        (Function.update current.state idx .TS_TERMINATED) = current.unjoinedEntries :=
      countWhere_update_of_iff (by simp [alive])
    have before := invariant.live
    rw [← count] at before
    exact before
  · intro other
    rcases eq_or_ne other idx with same | different
    · subst same
      simpa [State.moveThread, State.setState, alive, notInJoin] using invariant.joined other
    · simpa [State.moveThread, State.setState, different] using invariant.joined other
  · intro other inJoin
    have different : other ≠ idx := by
      rintro rfl
      exact absurd inJoin (by simp [State.moveThread, State.setState, notInJoin])
    simpa [State.moveThread, State.setState, different] using invariant.joinTarget other inJoin
  · intro other pending
    have different : other ≠ idx := by
      rintro rfl
      exact absurd (invariant.fresh other pending) (by simp [pc])
    simpa [State.moveThread, State.setState, different] using invariant.fresh other pending
  · intro left
    exact absurd (invariant.left left idx) (by simp [alive])
  · exact fun _ _ => ⟨idx, by simp [State.moveThread, ThreadPc.owesSignal]⟩

theorem threadStep (invariant : Invariant current) {idx : Fin totThreads}
    {next : State totThreads} (stepped : current.threadStep idx = some next) :
    Invariant next := by
  have owns := invariant.threadOwns idx
  have running : current.threadPc idx ≠ .notCreated := by
    intro pc
    simp [State.threadStep, pc] at stepped
  have spawned := invariant.spawned running
  cases pc : current.threadPc idx with
  | notCreated => exact absurd pc running
  | finished => simp [State.threadStep, pc] at stepped
  | sleeping =>
      simp only [State.threadStep, pc, Option.some.injEq] at stepped
      subst stepped
      rw [pc] at owns
      exact invariant.moveThread owns (fun _ _ => Iff.rfl) (by rw [pc]; rfl) (by simp [pc]) spawned
        (by simp [pc, ThreadPc.owesSignal])
  | locking =>
      simp only [State.threadStep, pc, Option.map_eq_some_iff] at stepped
      rcases stepped with ⟨locked, lock, rfl⟩
      rcases State.mutexLock_eq_some lock with ⟨free, rfl⟩
      refine invariant.moveThread (by simp [ThreadPc.critical]) ?_ (by rw [pc]; rfl) (by simp [pc])
        spawned (by simp [pc, ThreadPc.owesSignal])
      intro party different
      simp [free, different.symm]
  | incrementing =>
      simp only [State.threadStep, pc, Option.some.injEq] at stepped
      subst stepped
      exact invariant.threadIncrement pc
  | marking =>
      simp only [State.threadStep, pc, Option.some.injEq] at stepped
      subst stepped
      exact invariant.threadMark pc
  | unlocking =>
      simp only [State.threadStep, pc, Option.some.injEq] at stepped
      subst stepped
      have owned : current.owner = some (.thread idx) := owns.mp (by rw [pc]; rfl)
      refine invariant.moveThread (by simp [ThreadPc.critical, State.mutexUnlock]) ?_
        (by rw [pc]; rfl) (by simp [pc]) spawned (fun _ _ => rfl)
      intro party different
      simp [State.mutexUnlock, owned, different.symm]
  | signalling =>
      simp only [State.threadStep, pc, Option.some.injEq] at stepped
      subst stepped
      rw [pc, ← State.condSignal_owner] at owns
      rw [← State.condSignal_threadPc] at pc running
      rcases invariant.condSignal with ⟨signalled, awake⟩
      exact signalled.moveThread owns (fun _ _ => Iff.rfl) (by rw [pc]; rfl) (by simp [pc])
        (signalled.spawned running) (fun asleep => absurd asleep awake)

/-! ### The steps of the main thread -/

theorem mainJoin (invariant : Invariant current) {next : Nat} {idx : Fin totThreads}
    (pc : current.main = .scanning next) (terminated : current.state idx = .TS_TERMINATED) :
    Invariant ({ current with
      joinCalls := Function.update current.joinCalls idx (current.joinCalls idx + 1) }.moveMain
        (.joining idx)) := by
  rcases invariant with ⟨threadOwns, mainOwns, alive_iff, unjoined, live, joined, -, -, -, -⟩
  rw [pc] at mainOwns unjoined live joined
  refine ⟨threadOwns, mainOwns, alive_iff, unjoined, live, ?_, ?_, ?_, ?_, ?_⟩
  · intro other
    rcases eq_or_ne other idx with same | different
    · subst same
      simp [State.moveMain, joined, terminated, MainPc.inJoin]
    · simp [State.moveMain, joined, different, different.symm, MainPc.inJoin]
  · intro other inJoin
    have same : idx = other := by simpa [State.moveMain, MainPc.inJoin] using inJoin
    exact same ▸ terminated
  · simp [State.moveMain, MainPc.yetToSpawn]
  · simp [State.moveMain]
  · simp [State.moveMain]

/-- `thread[idx].state = TS_JOINED`, which leaves both counters to be lowered. -/
theorem mainRecord (invariant : Invariant current) {idx : Fin totThreads}
    (pc : current.main = .recording idx) :
    Invariant ((current.setState idx .TS_JOINED).moveMain (.countingLive idx)) := by
  have terminated : current.state idx = .TS_TERMINATED :=
    invariant.joinTarget idx (by simp [pc, MainPc.inJoin])
  refine ⟨invariant.threadOwns, ?_, ?_, ?_, ?_, ?_, ?_, ?_, ?_, ?_⟩
  · simpa [State.moveMain, State.setState, pc, MainPc.critical] using invariant.mainOwns
  · intro other
    rcases eq_or_ne other idx with same | different
    · subst same
      simpa [State.moveMain, State.setState, terminated] using invariant.alive_iff other
    · simpa [State.moveMain, State.setState, different] using invariant.alive_iff other
  · have count : countWhere (fun entry => entry = Tstate.TS_TERMINATED)
        (Function.update current.state idx .TS_JOINED) + 1 = current.terminatedEntries :=
      countWhere_update_loss terminated (by simp)
    have before := invariant.unjoined
    simp only [State.moveMain, State.setState, State.terminatedEntries, State.markingThreads,
      MainPc.owedUnjoined, pc] at *
    omega
  · have count : countWhere (fun entry => entry ≠ Tstate.TS_JOINED)
        (Function.update current.state idx .TS_JOINED) + 1 = current.unjoinedEntries :=
      countWhere_update_loss (by simp [terminated]) (by simp)
    have before := invariant.live
    simp only [State.moveMain, State.setState, State.unjoinedEntries, MainPc.owedLive, pc] at *
    omega
  · intro other
    rcases eq_or_ne other idx with same | different
    · subst same
      simpa [State.moveMain, State.setState, MainPc.inJoin, pc] using invariant.joined other
    · simpa [State.moveMain, State.setState, MainPc.inJoin, pc, different, different.symm] using
        invariant.joined other
  · simp [State.moveMain, MainPc.inJoin]
  · simp [State.moveMain, MainPc.yetToSpawn]
  · simp [State.moveMain]
  · simp [State.moveMain]

theorem mainCountLive (invariant : Invariant current) {idx : Fin totThreads}
    (pc : current.main = .countingLive idx) :
    Invariant ({ current with numLive := current.numLive - 1 }.moveMain
      (.countingUnjoined idx)) := by
  rcases invariant with ⟨threadOwns, mainOwns, alive_iff, unjoined, live, joined, -, -, -, -⟩
  rw [pc] at mainOwns unjoined live joined
  have lowered : current.numLive - 1 = current.unjoinedEntries + (0 : Nat) := by
    rw [live]
    simp [MainPc.owedLive]
  refine ⟨threadOwns, mainOwns, alive_iff, unjoined, lowered, joined, ?_, ?_, ?_, ?_⟩
  · simp [State.moveMain, MainPc.inJoin]
  · simp [State.moveMain, MainPc.yetToSpawn]
  · simp [State.moveMain]
  · simp [State.moveMain]

theorem mainCountUnjoined (invariant : Invariant current) {idx : Fin totThreads}
    (pc : current.main = .countingUnjoined idx) (next : Nat) :
    Invariant ({ current with numUnjoined := current.numUnjoined - 1 }.moveMain
      (.scanning next)) := by
  rcases invariant with ⟨threadOwns, mainOwns, alive_iff, unjoined, live, joined, -, -, -, -⟩
  rw [pc] at mainOwns unjoined live joined
  have lowered : current.numUnjoined - 1 =
      current.terminatedEntries + current.markingThreads + (0 : Nat) := by
    rw [unjoined]
    simp [MainPc.owedUnjoined]
  refine ⟨threadOwns, mainOwns, alive_iff, lowered, live, joined, ?_, ?_, ?_, ?_⟩
  · simp [State.moveMain, MainPc.inJoin]
  · simp [State.moveMain, MainPc.yetToSpawn]
  · simp [State.moveMain]
  · simp [State.moveMain]

/-- The main thread obtains the mutex, in its loop or on its way out of
`pthread_cond_wait`. -/
theorem mainLock (invariant : Invariant current) {next : State totThreads}
    (lock : (current.mutexLock .main).map (fun locked => locked.moveMain .testingUnjoined) =
      some next)
    (same : MainPc.testingUnjoined.SameDuties current.main) : Invariant next := by
  rcases Option.map_eq_some_iff.mp lock with ⟨locked, obtained, rfl⟩
  rcases State.mutexLock_eq_some obtained with ⟨free, rfl⟩
  refine invariant.moveMain (by simp [MainPc.critical]) ?_ same
    (by simp [MainPc.yetToSpawn]) (by simp) (by simp)
  simp [free]

theorem mainUnlock (invariant : Invariant current) {pc : MainPc totThreads}
    (critical : current.main.critical = true) (outside : pc.critical = false)
    (same : pc.SameDuties current.main)
    (fresh : pc.yetToSpawn = fun _ => false) (within : pc ≠ .leftLoop)
    (wakeup : pc = .waiting -> current.numUnjoined = 0) :
    Invariant (current.mutexUnlock.moveMain pc) := by
  have owned : current.owner = some .main := invariant.mainOwns.mp critical
  refine invariant.moveMain (by simp [outside, State.mutexUnlock])
    (by simp [owned, State.mutexUnlock]) same
    (by simp [fresh]) (fun left => absurd left within) ?_
  intro waiting positive
  exact absurd (wakeup waiting) (by omega)

/-- The main thread moves on, past the creation loop, without touching anything. -/
theorem advanceMain (invariant : Invariant current) {pc : MainPc totThreads}
    (critical : pc.critical = current.main.critical)
    (same : pc.SameDuties current.main)
    (fresh : pc.yetToSpawn = fun _ => false) (within : pc ≠ .leftLoop) (awake : pc ≠ .waiting) :
    Invariant (current.moveMain pc) :=
  invariant.moveMain (by rw [critical]; exact invariant.mainOwns) (fun _ => Iff.rfl) same
    (by simp [fresh]) (fun left => absurd left within) (fun asleep => absurd asleep awake)

/-- The creation loop tests its index. -/
theorem mainCreate (invariant : Invariant current) {idx : Nat} {next : State totThreads}
    (pc : current.main = .creating idx) (stepped : current.mainStep = some next) : Invariant next := by
  have owns := invariant.mainOwns
  rw [pc] at owns
  unfold State.mainStep at stepped
  rw [pc] at stepped
  dsimp only at stepped
  split at stepped
  · rename_i within
    cases stepped
    have notCreated := invariant.fresh ⟨idx, within⟩ (by simp [pc, MainPc.yetToSpawn])
    have alive : current.state ⟨idx, within⟩ = .TS_ALIVE :=
      invariant.alive (by rw [notCreated]; rfl)
    have unchanged : current.setState ⟨idx, within⟩ .TS_ALIVE = current := by
      rw [State.setState, ← alive, Function.update_eq_self]
    rw [unchanged]
    refine invariant.moveMain owns (fun _ => Iff.rfl) (by rw [pc]; exact ⟨rfl, rfl, rfl⟩)
      ?_ (by simp) (by simp)
    intro other pending
    exact invariant.fresh other (by rw [pc]; exact pending)
  · cases stepped
    exact invariant.advanceMain (by rw [pc]; rfl) (by rw [pc]; exact ⟨rfl, rfl, rfl⟩)
      rfl (by simp) (by simp)

/-- A thread is created. -/
theorem mainSpawn (invariant : Invariant current) {idx : Fin totThreads} {next : State totThreads}
    (pc : current.main = .spawning idx) (stepped : current.mainStep = some next) : Invariant next := by
  have owns := invariant.mainOwns
  rw [pc] at owns
  unfold State.mainStep at stepped
  rw [pc] at stepped
  cases stepped
  have notCreated := invariant.fresh idx (by simp [pc, MainPc.yetToSpawn])
  have idle := invariant.threadOwns idx
  rw [notCreated] at idle
  have moved : Invariant (current.moveMain (.creating (idx.val + 1))) := by
    refine invariant.moveMain owns (fun _ => Iff.rfl) (by rw [pc]; exact ⟨rfl, rfl, rfl⟩)
      ?_ (by simp) (by simp)
    intro other pending
    refine invariant.fresh other ?_
    simp only [pc, MainPc.yetToSpawn, decide_eq_true_eq] at pending ⊢
    exact Fin.le_def.mpr (Nat.le_of_succ_le pending)
  refine moved.moveThread idle (fun _ _ => Iff.rfl) ?_ ?_ ?_ ?_
  · rw [State.moveMain, notCreated]
    rfl
  · simp [State.moveMain, notCreated]
  · simp [State.moveMain, MainPc.yetToSpawn]
  · simp [State.moveMain]

/-- The joining loop tests `numLive`. -/
theorem mainTestLive (invariant : Invariant current) {next : State totThreads}
    (pc : current.main = .testingLive) (stepped : current.mainStep = some next) : Invariant next := by
  have owns := invariant.mainOwns
  rw [pc] at owns
  unfold State.mainStep at stepped
  rw [pc] at stepped
  cases stepped
  split
  · exact invariant.advanceMain (by rw [pc]; rfl) (by rw [pc]; exact ⟨rfl, rfl, rfl⟩)
      rfl (by simp) (by simp)
  · rename_i exhausted
    refine invariant.moveMain owns (fun _ => Iff.rfl) (by rw [pc]; exact ⟨rfl, rfl, rfl⟩)
      (by simp [MainPc.yetToSpawn]) (fun _ => ?_) (by simp)
    have live := invariant.live
    rw [pc] at live
    have none : current.unjoinedEntries = 0 := by
      simp only [MainPc.owedLive] at live
      omega
    intro idx
    exact not_not.mp (countWhere_eq_zero_iff.mp none idx)

theorem mainStep (invariant : Invariant current) {next : State totThreads}
    (stepped : current.mainStep = some next) : Invariant next := by
  cases pc : current.main with
  | creating idx => exact invariant.mainCreate pc stepped
  | spawning idx => exact invariant.mainSpawn pc stepped
  | testingLive => exact invariant.mainTestLive pc stepped
  | locking =>
      simp only [State.mainStep, pc] at stepped
      exact invariant.mainLock stepped (by rw [pc]; exact ⟨rfl, rfl, rfl⟩)
  | testingUnjoined =>
      simp only [State.mainStep, pc] at stepped
      split at stepped
      · rename_i zero
        cases stepped
        exact invariant.mainUnlock (by rw [pc]; rfl) rfl (by rw [pc]; exact ⟨rfl, rfl, rfl⟩)
          rfl (by simp) (fun _ => zero)
      · cases stepped
        exact invariant.advanceMain (by rw [pc]; rfl) (by rw [pc]; exact ⟨rfl, rfl, rfl⟩)
          rfl (by simp) (by simp)
  | waiting => simp [State.mainStep, pc] at stepped
  | woken =>
      simp only [State.mainStep, pc] at stepped
      exact invariant.mainLock stepped (by rw [pc]; exact ⟨rfl, rfl, rfl⟩)
  | scanning idx =>
      simp only [State.mainStep, pc] at stepped
      split at stepped
      · rename_i within
        split at stepped
        · rename_i terminated
          cases stepped
          exact invariant.mainJoin pc terminated
        · cases stepped
          exact invariant.advanceMain (by rw [pc]; rfl) (by rw [pc]; exact ⟨rfl, rfl, rfl⟩)
            rfl (by simp) (by simp)
      · cases stepped
        exact invariant.advanceMain (by rw [pc]; rfl) (by rw [pc]; exact ⟨rfl, rfl, rfl⟩)
          rfl (by simp) (by simp)
  | joining idx =>
      simp only [State.mainStep, pc] at stepped
      split at stepped
      · cases stepped
        exact invariant.advanceMain (by rw [pc]; rfl) (by rw [pc]; exact ⟨rfl, rfl, rfl⟩)
          rfl (by simp) (by simp)
      · cases stepped
  | recording idx =>
      simp only [State.mainStep, pc, Option.some.injEq] at stepped
      subst stepped
      exact invariant.mainRecord pc
  | countingLive idx =>
      simp only [State.mainStep, pc, Option.some.injEq] at stepped
      subst stepped
      exact invariant.mainCountLive pc
  | countingUnjoined idx =>
      simp only [State.mainStep, pc, Option.some.injEq] at stepped
      subst stepped
      exact invariant.mainCountUnjoined pc _
  | unlocking =>
      simp only [State.mainStep, pc, Option.some.injEq] at stepped
      subst stepped
      exact invariant.mainUnlock (by rw [pc]; rfl) rfl (by rw [pc]; exact ⟨rfl, rfl, rfl⟩)
        rfl (by simp) (by simp)
  | leftLoop =>
      simp only [State.mainStep, pc, Option.some.injEq] at stepped
      subst stepped
      have ended := invariant.ended (some .success)
      rw [pc] at ended
      exact ended

theorem step (invariant : Invariant current) {action : Action totThreads}
    {next : State totThreads} (stepped : current.step action = some next) : Invariant next := by
  unfold State.step at stepped
  split at stepped
  · cases stepped
  · split at stepped
    · exact invariant.threadStep stepped
    · exact invariant.mainStep stepped
    · split at stepped
      · cases stepped
        exact invariant.wake ‹_›
      · cases stepped
    · unfold State.fail at stepped
      split at stepped
      · cases stepped
        exact invariant.ended _
      · cases stepped

theorem of_reachable (reachable : (process totThreads).Reachable current) : Invariant current := by
  refine Machine.Reachable.invariant ?_ ?_ reachable
  · rintro state rfl
    exact start_invariant totThreads
  · intro state action next invariant stepped
    exact invariant.step stepped

end Invariant

/-! ## The calls of `pthread_join` -/

theorem threadStep_joinCalls {current next : State totThreads} {idx : Fin totThreads}
    (stepped : current.threadStep idx = some next) : next.joinCalls = current.joinCalls := by
  cases pc : current.threadPc idx with
  | notCreated | finished => simp [State.threadStep, pc] at stepped
  | locking =>
      simp only [State.threadStep, pc, Option.map_eq_some_iff] at stepped
      rcases stepped with ⟨locked, lock, rfl⟩
      rcases State.mutexLock_eq_some lock with ⟨-, rfl⟩
      rfl
  | signalling =>
      simp only [State.threadStep, pc, Option.some.injEq] at stepped
      subst stepped
      unfold State.condSignal
      split <;> rfl
  | sleeping | incrementing | marking | unlocking =>
      simp only [State.threadStep, pc, Option.some.injEq] at stepped
      subst stepped
      rfl

/-- The main thread calls `pthread_join` only on an entry it has just read as
`TS_TERMINATED`, and then once. -/
theorem mainStep_joinCalls {current next : State totThreads}
    (stepped : current.mainStep = some next) :
    next.joinCalls = current.joinCalls ∨ Exists fun idx =>
      current.state idx = .TS_TERMINATED ∧
        next.joinCalls = Function.update current.joinCalls idx (current.joinCalls idx + 1) := by
  cases pc : current.main with
  | scanning idx =>
      simp only [State.mainStep, pc] at stepped
      split at stepped
      · split at stepped
        · rename_i within terminated
          cases stepped
          exact Or.inr ⟨_, terminated, rfl⟩
        · cases stepped
          exact Or.inl rfl
      · cases stepped
        exact Or.inl rfl
  | locking | woken =>
      simp only [State.mainStep, pc, Option.map_eq_some_iff] at stepped
      rcases stepped with ⟨locked, lock, rfl⟩
      rcases State.mutexLock_eq_some lock with ⟨-, rfl⟩
      exact Or.inl rfl
  | creating idx | testingUnjoined =>
      simp only [State.mainStep, pc] at stepped
      split at stepped
      all_goals
        cases stepped
        exact Or.inl rfl
  | joining idx =>
      simp only [State.mainStep, pc] at stepped
      split at stepped
      · cases stepped
        exact Or.inl rfl
      · cases stepped
  | waiting => simp [State.mainStep, pc] at stepped
  | spawning idx | testingLive | recording idx | countingLive idx | countingUnjoined idx
  | unlocking | leftLoop =>
      simp only [State.mainStep, pc, Option.some.injEq] at stepped
      subst stepped
      exact Or.inl rfl

/-- A step that adds a call of `pthread_join` on a thread finds its entry at
`TS_TERMINATED`. -/
theorem step_joinCalls {current next : State totThreads} {action : Action totThreads}
    (stepped : current.step action = some next) {idx : Fin totThreads}
    (called : current.joinCalls idx < next.joinCalls idx) :
    current.state idx = .TS_TERMINATED := by
  have unchanged : next.joinCalls ≠ current.joinCalls := by
    intro same
    rw [same] at called
    exact lt_irrefl _ called
  unfold State.step at stepped
  split at stepped
  · cases stepped
  · split at stepped
    · exact absurd (threadStep_joinCalls stepped) unchanged
    · rcases mainStep_joinCalls stepped with same | ⟨target, terminated, added⟩
      · exact absurd same unchanged
      · rcases eq_or_ne idx target with rfl | different
        · exact terminated
        · rw [added, Function.update_of_ne different] at called
          exact absurd called (lt_irrefl _)
    · split at stepped
      · cases stepped
        exact absurd rfl unchanged
      · cases stepped
    · unfold State.fail at stepped
      split at stepped
      · cases stepped
        exact absurd rfl unchanged
      · cases stepped

/-! ## The joining protocol -/

/-- What the program promises of a state: its counters agree with its table
whenever the mutex is free, no thread is joined twice or before it has marked
itself, the loop is left only when every thread has been joined, and the main
thread does not sleep through a termination. -/
structure JoinsEachOnce (current : State totThreads) : Prop where
  numUnjoined_eq : current.owner = none -> current.numUnjoined = current.terminatedEntries
  numLive_eq : current.owner = none -> current.numLive = current.unjoinedEntries
  joined_at_most_once : forall idx, current.joinCalls idx ≤ 1
  joined_after_marking : forall idx, 0 < current.joinCalls idx ->
    (current.threadPc idx).unmarked = false
  joins_only_terminated : forall action next idx, current.step action = some next ->
    current.joinCalls idx < next.joinCalls idx -> current.state idx = .TS_TERMINATED
  left_when_all_joined : current.main = .leftLoop -> forall idx,
    current.state idx = .TS_JOINED ∧ current.joinCalls idx = 1
  no_missed_wakeup : current.main = .waiting -> 0 < current.numUnjoined ->
    Exists fun idx => (current.threadPc idx).owesSignal = true

namespace Invariant

variable {current : State totThreads}

/-- With the mutex free, no thread is between counting and marking itself. -/
theorem markingThreads_eq_zero (invariant : Invariant current) (free : current.owner = none) :
    current.markingThreads = 0 := by
  refine countWhere_eq_zero_iff.mpr ?_
  intro idx marking
  have owned := (invariant.threadOwns idx).mp (by rw [marking]; rfl)
  rw [free] at owned
  cases owned

/-- With the mutex free, the main thread owes neither counter anything. -/
theorem owed_eq_zero (invariant : Invariant current) (free : current.owner = none) :
    current.main.owedUnjoined = 0 ∧ current.main.owedLive = 0 := by
  have outside : current.main.critical = false := by
    rw [← Bool.not_eq_true, invariant.mainOwns, free]
    simp
  cases pc : current.main with
  | countingLive idx | countingUnjoined idx =>
      rw [pc] at outside
      cases outside
  | _ => exact ⟨rfl, rfl⟩

/-- A thread on which `pthread_join` has been called has marked itself. -/
theorem marked_of_joined (invariant : Invariant current) {idx : Fin totThreads}
    (called : 0 < current.joinCalls idx) : (current.threadPc idx).unmarked = false := by
  rw [← Bool.not_eq_true]
  intro unmarked
  have alive := invariant.alive unmarked
  rw [invariant.joined idx] at called
  split at called
  · rename_i joined
    rcases joined with recorded | inJoin
    · rw [alive] at recorded
      cases recorded
    · have terminated := invariant.joinTarget idx inJoin
      rw [alive] at terminated
      cases terminated
  · exact absurd called (lt_irrefl 0)

end Invariant

/-- In every reachable state of the program, for any number of threads and any
schedule, the counters agree with the table, each thread is joined once and in
time, and no wake-up is missed. -/
theorem multijoin_joins_each_once (totThreads : Nat) (current : State totThreads)
    (reachable : (process totThreads).Reachable current) : JoinsEachOnce current := by
  have invariant := Invariant.of_reachable reachable
  refine ⟨?_, ?_, ?_, ?_, ?_, ?_, invariant.wakeup⟩
  · intro free
    rw [invariant.unjoined, invariant.markingThreads_eq_zero free, (invariant.owed_eq_zero free).1]
    simp
  · intro free
    rw [invariant.live, (invariant.owed_eq_zero free).2]
    simp
  · intro idx
    rw [invariant.joined idx]
    split <;> decide
  · intro idx called
    exact invariant.marked_of_joined called
  · intro action next idx stepped called
    exact step_joinCalls stepped called
  · intro left idx
    have recorded := invariant.left left idx
    rw [invariant.joined idx]
    exact ⟨recorded, if_pos (Or.inl recorded)⟩

/-- Two threads terminate while the main thread sleeps, the second to mark
itself issues the only effective signal, and one wake-up serves both. -/
theorem multijoin_joins_each_once_one_wakeup :
    Exists fun final : State 2 =>
      (process 2).exec (start 2)
        (List.replicate 8 .main ++ List.replicate 5 (.thread 0) ++ List.replicate 6 (.thread 1) ++
          [.thread 0] ++ List.replicate 15 .main) = some final ∧
      final.main = .leftLoop ∧ JoinsEachOnce final := by
  refine ⟨Option.get _ (by decide), (Option.some_get (by decide)).symm, by decide, ?_⟩
  exact multijoin_joins_each_once 2 _
    (Machine.reachable_of_exec rfl (Option.some_get (by decide)).symm)

end ThreadMultijoin
end ThreadSync
end Tlpi
