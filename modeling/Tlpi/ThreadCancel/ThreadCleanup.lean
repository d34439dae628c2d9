import Tlpi.CLibrary.Locks
import Tlpi.Foundations.Transition
import Tlpi.Lib.ErrorFunctions

namespace Tlpi
namespace ThreadCancel
namespace ThreadCleanup

open CLibrary Foundations Lib

/-!
# A cancelled thread cleans up after itself

A thread allocates a block, locks a mutex and waits on a condition variable.  `main`
either cancels it or sets the variable that it waits for, depending on the command line.
A cleanup handler, pushed while the mutex is held, frees the block and unlocks the
mutex; it is run by the cancellation or, when the wait is over, by the pop.

One step is one call.  A cancellation is deferred: it takes effect when the thread waits
on the condition variable, where it must, and at a `printf`, where it may.  A cancelled
wait comes back with the mutex locked, and a thread that is being cancelled is not
cancelled again.  A `printf` inside the handler is therefore a danger only when the
handler is run by the pop, since it has then already been taken off the stack; that no
cancellation comes then is proved, not assumed.
-/

inductive Party where
  | main
  | thread
deriving DecidableEq, Repr

/-- What runs the cleanup handler. -/
inductive Cause where
  | cancelled
  | popped
deriving DecidableEq, Repr

/-- What `pthread_join` finds. -/
inductive Result where
  | canceled
  | normal
deriving DecidableEq, Repr

/-- The positions of `threadFunc` and of `cleanupHandler`, each named after what is done
next.  A thread that is `waiting` is asleep, and `woken` or `cancelWoken` it has yet to
get the mutex back. -/
inductive ThreadPc where
  | absent
  | allocating
  | announcing
  | locking
  | testing
  | waiting
  | woken
  | cancelWoken
  | completing
  | announcingFree (cause : Cause)
  | freeing (cause : Cause)
  | announcingUnlock (cause : Cause)
  | unlocking (cause : Cause)
  | ended (result : Result)
  | failing (errno : Errno) (call : String)
deriving DecidableEq, Repr

inductive MainPc where
  | creating
  | branching
  | cancelling
  | locking
  | setting
  | unlocking
  | signalling
  | joining
  | reporting (result : Result)
  | exiting
  | failing (errno : Errno) (call : String)
deriving DecidableEq, Repr

/-- Whether the process runs, and if not, how it has ended. -/
inductive Status where
  | running
  | exited
  | failed (failure : Failure)
deriving DecidableEq, Repr

/-- The process.  `buf` is the thread's variable, which is also the argument of its
handler; `block` is the memory allocated and `freed` what has been given to `free`.  The
program does not hold `entered`, which records that the thread has had the mutex. -/
structure State where
  main : MainPc
  thread : ThreadPc
  glob : Int
  mtx : Option Party
  buf : Option Nat
  block : Option Nat
  freed : List Nat
  entered : Bool
  cancelRequested : Bool
  output : List String
  status : Status

structure Setup where
  dumpcore : Option String
  argc : Nat

inductive Outcome where
  | succeeds
  | fails (errno : Errno)
deriving DecidableEq, Repr

inductive Action where
  | main (outcome : Outcome)
  | thread (outcome : Outcome)
  | allocate (address : Option Nat)
  | actOnCancel (written : Bool)
  | spuriousWakeup
deriving DecidableEq, Repr

/-- What `%p` writes. -/
def pointerText : Option Nat -> String
  | none => "(nil)"
  | some address => "0x" ++ String.ofList (Nat.toDigits 16 address)

namespace State

def say (state : State) (line : String) : State :=
  { state with output := state.output ++ [line] }

def moveThread (state : State) (thread : ThreadPc) : State :=
  { state with thread := thread }

def moveMain (state : State) (main : MainPc) : State :=
  { state with main := main }

/-- `free(arg)`, which does nothing when the argument is a null pointer. -/
def free (state : State) : State :=
  { state with
    block := if state.block = state.buf then none else state.block
    freed := state.freed ++ state.buf.toList }

/-- A `printf` that is cancelled may have written its line. -/
def sayIf (state : State) (written : Bool) (line : String) : State :=
  { state with output := if written then state.output ++ [line] else state.output }

/-- A call of the thread, whose failure ends the process. -/
def threadCall (state : State) (outcome : Outcome) (call : String) (next : Option State) :
    Option State :=
  match outcome with
  | .succeeds => next
  | .fails errno => some (state.moveThread (.failing errno call))

/-- A call of `main`, whose failure ends the process. -/
def mainCall (state : State) (outcome : Outcome) (call : String) (next : Option State) :
    Option State :=
  match outcome with
  | .succeeds => next
  | .fails errno => some (state.moveMain (.failing errno call))

/-- Take the mutex, once it is free. -/
def lock (state : State) (party : Party) : Option State :=
  (mutex.acquire state.mtx party).map (fun mtx => { state with mtx := mtx })

def unlock (state : State) (party : Party) : Option State :=
  (mutex.release state.mtx party).map (fun mtx => { state with mtx := mtx })

end State

def allocatedLine (buf : Option Nat) : String :=
  "thread: allocated memory at " ++ pointerText buf ++ "\n"

def completedLine : String := "thread: condition wait loop completed\n"

def freeingLine (buf : Option Nat) : String :=
  "cleanup: freeing block at " ++ pointerText buf ++ "\n"

def unlockingLine : String := "cleanup: unlocking mutex\n"

/-- The result with which a thread ends after its handler. -/
def Cause.result : Cause -> Result
  | .cancelled => .canceled
  | .popped => .normal

def threadStep (setup : Setup) (state : State) (outcome : Outcome) : Option State :=
  match state.thread with
  | .absent | .allocating => none
  | .announcing => some ((state.say (allocatedLine state.buf)).moveThread .locking)
  | .locking =>
      state.threadCall outcome "pthread_mutex_lock"
        ((state.lock .thread).map (fun next => { next with entered := true }.moveThread .testing))
  | .testing =>
      if state.glob = 0 then
        state.threadCall outcome "pthread_cond_wait"
          ((state.unlock .thread).map (fun next => next.moveThread .waiting))
      else some (state.moveThread .completing)
  | .waiting => none
  | .woken => (state.lock .thread).map (fun next => next.moveThread .testing)
  | .cancelWoken => (state.lock .thread).map (fun next => next.moveThread (.announcingFree .cancelled))
  | .completing => some ((state.say completedLine).moveThread (.announcingFree .popped))
  | .announcingFree cause => some ((state.say (freeingLine state.buf)).moveThread (.freeing cause))
  | .freeing cause => some (state.free.moveThread (.announcingUnlock cause))
  | .announcingUnlock cause =>
      some ((state.say unlockingLine).moveThread (.unlocking cause))
  | .unlocking cause =>
      state.threadCall outcome "pthread_mutex_unlock"
        ((state.unlock .thread).map (fun next => next.moveThread (.ended cause.result)))
  | .ended _ => none
  | .failing errno call => some { state with status := .failed (errExit setup.dumpcore errno call) }

/-- `malloc(0x10000)`, whose result the program does not look at. -/
def allocate (state : State) (address : Option Nat) : Option State :=
  match state.thread with
  | .allocating => some ({ state with buf := address, block := address }.moveThread .announcing)
  | _ => none

/-- A cancellation that has been requested takes effect: handlers that are on the stack
are run, after which the thread ends. -/
def actOnCancel (state : State) (written : Bool) : Option State :=
  if state.cancelRequested then
    match state.thread with
    | .announcing =>
        some ((state.sayIf written (allocatedLine state.buf)).moveThread (.ended .canceled))
    | .waiting => some (state.moveThread .cancelWoken)
    | .completing => some ((state.sayIf written completedLine).moveThread (.announcingFree .cancelled))
    | .announcingFree .popped =>
        some ((state.sayIf written (freeingLine state.buf)).moveThread (.ended .canceled))
    | .announcingUnlock .popped =>
        some ((state.sayIf written unlockingLine).moveThread (.ended .canceled))
    | _ => none
  else none

/-- `pthread_cond_signal` wakes the thread if it is asleep. -/
def State.condSignal (state : State) : State :=
  match state.thread with
  | .waiting => state.moveThread .woken
  | _ => state

/-- The last line of `main`. -/
def Result.report : Result -> String
  | .canceled => "main: thread was canceled\n"
  | .normal => "main: thread terminated normally\n"

def mainStep (setup : Setup) (state : State) (outcome : Outcome) : Option State :=
  match state.main with
  | .creating =>
      state.mainCall outcome "pthread_create" (some ((state.moveThread .allocating).moveMain .branching))
  | .branching =>
      if setup.argc = 1 then some ((state.say "main: about to cancel thread\n").moveMain .cancelling)
      else some ((state.say "main: about to signal condition variable\n").moveMain .locking)
  | .cancelling =>
      state.mainCall outcome "pthread_cancel"
        (some ({ state with cancelRequested := true }.moveMain .joining))
  | .locking =>
      state.mainCall outcome "pthread_mutex_lock"
        ((state.lock .main).map (fun next => next.moveMain .setting))
  | .setting => some ({ state with glob := 1 }.moveMain .unlocking)
  | .unlocking =>
      state.mainCall outcome "pthread_mutex_unlock"
        ((state.unlock .main).map (fun next => next.moveMain .signalling))
  | .signalling =>
      state.mainCall outcome "pthread_cond_signal" (some (state.condSignal.moveMain .joining))
  | .joining =>
      match state.thread with
      | .ended result => state.mainCall outcome "pthread_join" (some (state.moveMain (.reporting result)))
      | _ => none
  | .reporting result => some ((state.say result.report).moveMain .exiting)
  | .exiting => some { state with status := .exited }
  | .failing errno call => some { state with status := .failed (errExit setup.dumpcore errno call) }

def step (setup : Setup) (state : State) (action : Action) : Option State :=
  if state.status = .running then
    match action with
    | .main outcome => mainStep setup state outcome
    | .thread outcome => threadStep setup state outcome
    | .allocate address => allocate state address
    | .actOnCancel written => actOnCancel state written
    | .spuriousWakeup =>
        match state.thread with
        | .waiting => some (state.moveThread .woken)
        | _ => none
  else none

def start : State where
  main := .creating
  thread := .absent
  glob := 0
  mtx := none
  buf := none
  block := none
  freed := []
  entered := false
  cancelRequested := false
  output := []
  status := .running

def machine (setup : Setup) : Machine State Action where
  Initial state := state = start
  step := step setup

/-!
## What is known at each position
-/

/-- The thread holds the mutex. -/
def ThreadPc.Inside : ThreadPc -> Prop
  | .testing | .completing | .announcingFree _ | .freeing _ | .announcingUnlock _ | .unlocking _ => True
  | .failing _ call => call ≠ "pthread_mutex_lock"
  | _ => False

/-- `main` holds the mutex. -/
def MainPc.Inside : MainPc -> Prop
  | .setting | .unlocking => True
  | .failing _ call => call = "pthread_mutex_unlock"
  | _ => False

def State.Inside (state : State) : Party -> Prop
  | .main => state.main.Inside
  | .thread => state.thread.Inside

/-- `main` has neither cancelled the thread nor set the variable. -/
def State.Quiet (state : State) : Prop :=
  state.cancelRequested = false ∧ state.glob = 0

/-- `main` has done the one of the two that the command line asks for. -/
def State.Turned (setup : Setup) (state : State) : Prop :=
  (setup.argc = 1 ∧ state.cancelRequested = true ∧ state.glob = 0) ∨
    (setup.argc ≠ 1 ∧ state.cancelRequested = false ∧ state.glob = 1)

/-- What is known while `main` is at a position. -/
def MainKnown (setup : Setup) (state : State) : Prop :=
  match state.main with
  | .creating => state.thread = .absent ∧ state.Quiet
  | .branching => state.thread ≠ .absent ∧ state.Quiet
  | .cancelling => state.thread ≠ .absent ∧ setup.argc = 1 ∧ state.Quiet
  | .locking | .setting => state.thread ≠ .absent ∧ setup.argc ≠ 1 ∧ state.Quiet
  | .unlocking | .signalling =>
      state.thread ≠ .absent ∧ setup.argc ≠ 1 ∧ state.cancelRequested = false ∧ state.glob = 1
  | .joining => state.thread ≠ .absent ∧ state.Turned setup
  | .reporting result => state.thread = .ended result ∧ state.Turned setup
  | .exiting =>
      state.Turned setup ∧ Exists fun result =>
        state.thread = .ended result ∧ state.output.getLast? = some result.report
  | .failing _ _ => state.Quiet ∨ state.Turned setup

/-- The block is still there. -/
def State.Holding (state : State) : Prop :=
  state.block = state.buf ∧ state.freed = []

/-- The block has been freed, once. -/
def State.Freed (state : State) : Prop :=
  state.block = none ∧ state.freed = state.buf.toList

/-- Why the thread ends as it does: it has been cancelled, or its wait is over. -/
def State.Justified (state : State) : Result -> Prop
  | .canceled => state.cancelRequested = true
  | .normal => state.glob ≠ 0

/-- What is known while the thread is at a position. -/
def ThreadKnown (state : State) : Prop :=
  match state.thread with
  | .absent | .allocating => state.buf = none ∧ state.Holding ∧ state.entered = false
  | .announcing | .locking => state.Holding ∧ state.entered = false
  | .testing | .woken => state.Holding ∧ state.entered = true
  | .waiting =>
      state.Holding ∧ state.entered = true ∧ (state.glob ≠ 0 -> state.main ≠ .joining)
  | .cancelWoken => state.Holding ∧ state.entered = true ∧ state.cancelRequested = true
  | .completing => state.Holding ∧ state.entered = true ∧ state.glob ≠ 0
  | .announcingFree cause | .freeing cause =>
      state.Holding ∧ state.entered = true ∧ state.Justified cause.result
  | .announcingUnlock cause | .unlocking cause =>
      state.Freed ∧ state.entered = true ∧ state.Justified cause.result
  | .ended result =>
      state.Justified result ∧
        ((state.entered = true ∧ state.Freed) ∨
          (state.entered = false ∧ result = .canceled ∧ state.Holding))
  | .failing _ _ => state.Holding ∨ state.Freed

structure Invariant (setup : Setup) (state : State) : Prop where
  guards : mutex.Guards state.mtx state.Inside
  main : MainKnown setup state
  thread : ThreadKnown state

/-- The cancellation and the variable exclude each other. -/
theorem MainKnown.exclusive {setup : Setup} {state : State} (known : MainKnown setup state)
    (set : state.glob ≠ 0) : state.cancelRequested = false := by
  have settled : state.Quiet ∨ state.Turned setup ∨
      (state.cancelRequested = false ∧ state.glob = 1) := by
    unfold MainKnown at known
    split at known
    case h_1 | h_2 => exact Or.inl known.2
    case h_3 | h_4 | h_5 => exact Or.inl known.2.2
    case h_6 | h_7 => exact Or.inr (Or.inr known.2.2)
    case h_8 | h_9 => exact Or.inr (Or.inl known.2)
    case h_10 => exact Or.inr (Or.inl known.1)
    case h_11 => exact known.imp_right Or.inl
  rcases settled with quiet | (cancelled | released) | released
  · exact quiet.1
  · exact absurd cancelled.2.2 set
  · exact released.2.1
  · exact released.1

/-- A thread that neither has still to be created nor has ended. -/
def ThreadPc.Live : ThreadPc -> Prop
  | .absent | .ended _ => False
  | _ => True

/-- What `main` knows stays true when the thread moves. -/
theorem MainKnown.moved {setup : Setup} {state next : State} (known : MainKnown setup state)
    (live : state.thread.Live) (stays : next.thread ≠ .absent) (main : next.main = state.main)
    (glob : next.glob = state.glob) (cancel : next.cancelRequested = state.cancelRequested) :
    MainKnown setup next := by
  have unended : forall result, state.thread ≠ .ended result := by
    intro result ended
    rw [ended] at live
    exact live
  unfold MainKnown State.Quiet State.Turned at known ⊢
  rw [main, glob, cancel]
  cases position : state.main with
  | creating =>
      rw [position] at known
      rw [known.1] at live
      exact live.elim
  | reporting result =>
      rw [position] at known
      exact absurd known.1 (unended result)
  | exiting =>
      rw [position] at known
      rcases known.2 with ⟨result, ended, _⟩
      exact absurd ended (unended result)
  | branching | cancelling | locking | setting | unlocking | signalling | joining =>
      rw [position] at known
      exact ⟨stays, known.2⟩
  | failing _ _ =>
      rw [position] at known
      exact known

/-- The thread moves: what has to be shown of the state that it leaves. -/
theorem Invariant.ofThread {setup : Setup} {state next : State} (holds : Invariant setup state)
    (live : state.thread.Live) (stays : next.thread ≠ .absent) (main : next.main = state.main)
    (glob : next.glob = state.glob) (cancel : next.cancelRequested = state.cancelRequested)
    (guards : mutex.Guards next.mtx next.Inside) (known : ThreadKnown next) : Invariant setup next :=
  ⟨guards, holds.main.moved live stays main glob cancel, known⟩

/-- A step that neither takes nor releases the mutex. -/
theorem Invariant.guards_same {setup : Setup} {state next : State} (holds : Invariant setup state)
    (mtx : next.mtx = state.mtx) (main : next.main.Inside <-> state.main.Inside)
    (thread : next.thread.Inside <-> state.thread.Inside) : mutex.Guards next.mtx next.Inside := by
  rw [mtx]
  apply holds.guards.congr
  intro party
  cases party with
  | main => exact main
  | thread => exact thread

/-- The mutex knows who is inside. -/
theorem Invariant.inside_iff {setup : Setup} {state : State} (holds : Invariant setup state)
    (party : Party) : state.Inside party <-> state.mtx = some party := by
  rcases holds.guards with ⟨holder, admits, same⟩
  rw [show state.mtx = holder from admits]
  exact same party

theorem threadCall_eq_some {state next : State} {outcome : Outcome} {call : String}
    {after : Option State} (called : state.threadCall outcome call after = some next) :
    after = some next ∨ Exists fun errno => next = state.moveThread (.failing errno call) := by
  cases outcome with
  | succeeds => exact Or.inl called
  | fails errno => exact Or.inr ⟨errno, (Option.some.inj called).symm⟩

theorem mainCall_eq_some {state next : State} {outcome : Outcome} {call : String}
    {after : Option State} (called : state.mainCall outcome call after = some next) :
    after = some next ∨ Exists fun errno => next = state.moveMain (.failing errno call) := by
  cases outcome with
  | succeeds => exact Or.inl called
  | fails errno => exact Or.inr ⟨errno, (Option.some.inj called).symm⟩

theorem Invariant.threadMoves {setup : Setup} {state : State} (holds : Invariant setup state)
    (live : state.thread.Live) (thread : ThreadPc) (stays : thread ≠ .absent)
    (same : thread.Inside <-> state.thread.Inside) (buf block : Option Nat) (freed : List Nat)
    (output : List String)
    (known : ThreadKnown { state with thread, buf, block, freed, output }) :
    Invariant setup { state with thread, buf, block, freed, output } :=
  holds.ofThread live stays rfl rfl rfl (holds.guards_same rfl Iff.rfl same) known

theorem Invariant.threadFails {setup : Setup} {state : State} (holds : Invariant setup state)
    (live : state.thread.Live) {call : String} (errno : Errno)
    (inside : call ≠ "pthread_mutex_lock" <-> state.thread.Inside)
    (block : state.Holding ∨ state.Freed) :
    Invariant setup (state.moveThread (.failing errno call)) :=
  holds.threadMoves live (.failing errno call) ThreadPc.noConfusion inside state.buf state.block state.freed state.output
    block

theorem Invariant.threadLocks {setup : Setup} {state locked : State} (holds : Invariant setup state)
    (live : state.thread.Live) (taken : state.lock .thread = some locked) (thread : ThreadPc)
    (enters : thread.Inside) (entered : Bool)
    (known : ThreadKnown { locked with thread, entered }) :
    Invariant setup { locked with thread, entered } := by
  rcases Option.map_eq_some_iff.mp taken with ⟨mtx, acquired, moved⟩
  cases moved
  have stays : thread ≠ .absent := by
    intro absent
    rw [absent] at enters
    exact enters
  refine holds.ofThread live stays rfl rfl rfl ?_ known
  have entersNext : { state with mtx, thread, entered }.Inside .thread := enters
  refine (holds.guards.acquire acquired entersNext ?_).2
  intro other different isInside
  cases other with
  | main => exact isInside
  | thread => exact absurd rfl different

theorem Invariant.threadUnlocks {setup : Setup} {state unlocked : State}
    (holds : Invariant setup state) (live : state.thread.Live) (isInside : state.thread.Inside)
    (given : state.unlock .thread = some unlocked) (thread : ThreadPc) (leaves : ¬ thread.Inside)
    (stays : thread ≠ .absent) (known : ThreadKnown { unlocked with thread }) :
    Invariant setup { unlocked with thread } := by
  rcases Option.map_eq_some_iff.mp given with ⟨mtx, released, moved⟩
  cases moved
  refine holds.ofThread live stays rfl rfl rfl ?_ known
  have inside : state.Inside .thread := isInside
  refine (holds.guards.release inside released leaves ?_).2
  intro other different otherInside
  cases other with
  | main => exact otherInside
  | thread => exact absurd rfl different

/-- What the lock leaves as it was. -/
theorem lock_same {state locked : State} {party : Party} (taken : state.lock party = some locked) :
    locked = { state with mtx := locked.mtx } := by
  rcases Option.map_eq_some_iff.mp taken with ⟨mtx, _, moved⟩
  cases moved
  rfl

theorem unlock_same {state unlocked : State} {party : Party}
    (given : state.unlock party = some unlocked) : unlocked = { state with mtx := unlocked.mtx } := by
  rcases Option.map_eq_some_iff.mp given with ⟨mtx, _, moved⟩
  cases moved
  rfl

theorem threadStep_preserves {setup : Setup} {state next : State} {outcome : Outcome}
    (holds : Invariant setup state) (stepped : threadStep setup state outcome = some next) :
    Invariant setup next := by
  rcases state with ⟨main, thread, glob, mtx, buf, block, freed, entered, cancelRequested, output, status⟩
  have known := holds.thread
  cases thread with
  | absent | allocating | waiting | ended _ => cases stepped
  | announcing =>
      cases stepped
      exact holds.threadMoves trivial .locking ThreadPc.noConfusion Iff.rfl buf block freed _ known
  | locking =>
      rcases threadCall_eq_some stepped with called | ⟨errno, failed⟩
      · rcases Option.map_eq_some_iff.mp called with ⟨locked, taken, moved⟩
        cases moved
        apply holds.threadLocks trivial taken .testing trivial true
        rw [lock_same taken]
        exact ⟨known.1, rfl⟩
      · rw [failed]
        exact holds.threadFails trivial errno (iff_of_false (fun different => different rfl) id)
          (Or.inl known.1)
  | testing =>
      unfold threadStep at stepped
      simp only at stepped
      split at stepped
      · rename_i unset
        rcases threadCall_eq_some stepped with called | ⟨errno, failed⟩
        · rcases Option.map_eq_some_iff.mp called with ⟨unlocked, given, moved⟩
          cases moved
          apply holds.threadUnlocks trivial trivial given .waiting id ThreadPc.noConfusion
          rw [unlock_same given]
          exact ⟨known.1, known.2, fun set => absurd unset set⟩
        · rw [failed]
          exact holds.threadFails trivial errno (iff_of_true (by decide) trivial) (Or.inl known.1)
      · rename_i set
        cases stepped
        exact holds.threadMoves trivial .completing ThreadPc.noConfusion Iff.rfl buf block freed output
          ⟨known.1, known.2, set⟩
  | woken =>
      rcases Option.map_eq_some_iff.mp stepped with ⟨locked, taken, moved⟩
      cases moved
      apply holds.threadLocks trivial taken .testing trivial locked.entered
      rw [lock_same taken]
      exact known
  | cancelWoken =>
      rcases Option.map_eq_some_iff.mp stepped with ⟨locked, taken, moved⟩
      cases moved
      apply holds.threadLocks trivial taken (.announcingFree .cancelled) trivial locked.entered
      rw [lock_same taken]
      exact known
  | completing =>
      cases stepped
      exact holds.threadMoves trivial (.announcingFree .popped) ThreadPc.noConfusion Iff.rfl buf block freed _ known
  | announcingFree cause =>
      cases stepped
      exact holds.threadMoves trivial (.freeing cause) ThreadPc.noConfusion Iff.rfl buf block freed _ known
  | freeing cause =>
      cases stepped
      rcases known with ⟨⟨sameBlock, none⟩, isEntered, justified⟩
      refine holds.threadMoves trivial (.announcingUnlock cause) ThreadPc.noConfusion Iff.rfl buf _ _ output
        ⟨⟨if_pos sameBlock, ?_⟩, isEntered, justified⟩
      change freed ++ buf.toList = buf.toList
      rw [show freed = [] from none]
      rfl
  | announcingUnlock cause =>
      cases stepped
      exact holds.threadMoves trivial (.unlocking cause) ThreadPc.noConfusion Iff.rfl buf block freed _ known
  | unlocking cause =>
      rcases threadCall_eq_some stepped with called | ⟨errno, failed⟩
      · rcases Option.map_eq_some_iff.mp called with ⟨unlocked, given, moved⟩
        cases moved
        apply holds.threadUnlocks trivial trivial given (.ended cause.result) id ThreadPc.noConfusion
        rw [unlock_same given]
        exact ⟨known.2.2, Or.inl ⟨known.2.1, known.1⟩⟩
      · rw [failed]
        exact holds.threadFails trivial errno (iff_of_true (by decide) trivial) (Or.inr known.1)
  | failing errno call =>
      cases stepped
      exact ⟨holds.guards, holds.main, holds.thread⟩

theorem allocate_preserves {setup : Setup} {state next : State} {address : Option Nat}
    (holds : Invariant setup state) (stepped : allocate state address = some next) :
    Invariant setup next := by
  rcases state with ⟨main, thread, glob, mtx, buf, block, freed, entered, cancelRequested, output, status⟩
  have known := holds.thread
  cases thread with
  | allocating =>
      cases stepped
      rcases known with ⟨_, ⟨_, none⟩, notEntered⟩
      exact holds.threadMoves trivial .announcing ThreadPc.noConfusion Iff.rfl address address freed
        output
        ⟨⟨rfl, none⟩, notEntered⟩
  | _ => cases stepped

/-- A cancellation meets the thread while its handler is on the stack, or before the
handler is of any use. -/
theorem actOnCancel_preserves {setup : Setup} {state next : State} {written : Bool}
    (holds : Invariant setup state) (stepped : actOnCancel state written = some next) :
    Invariant setup next := by
  rcases state with ⟨main, thread, glob, mtx, buf, block, freed, entered, cancelRequested, output, status⟩
  have known := holds.thread
  have exclusive := holds.main.exclusive
  unfold actOnCancel at stepped
  split at stepped
  · rename_i requested
    have unset : ¬ glob ≠ 0 := by
      intro set
      have never := exclusive set
      rw [requested] at never
      cases never
    cases thread with
    | announcing =>
        cases stepped
        exact holds.threadMoves trivial (.ended .canceled) ThreadPc.noConfusion (iff_of_false id id) buf
          block freed _ ⟨requested, Or.inr ⟨known.2, rfl, known.1⟩⟩
    | waiting =>
        cases stepped
        exact holds.threadMoves trivial .cancelWoken ThreadPc.noConfusion Iff.rfl buf block freed output
          ⟨known.1, known.2.1, requested⟩
    | completing => exact absurd known.2.2 unset
    | announcingFree cause =>
        cases cause with
        | cancelled => cases stepped
        | popped => exact absurd known.2.2 unset
    | announcingUnlock cause =>
        cases cause with
        | cancelled => cases stepped
        | popped => exact absurd known.2.2 unset
    | _ => cases stepped
  · cases stepped

/-- `main` moves: what the thread has to find as before. -/
theorem Invariant.mainMoves {setup : Setup} {state next : State} (holds : Invariant setup state)
    (mtx : next.mtx = state.mtx) (main : next.main.Inside <-> state.main.Inside)
    (thread : next.thread.Inside <-> state.thread.Inside) (mainKnown : MainKnown setup next)
    (threadKnown : ThreadKnown next) : Invariant setup next :=
  ⟨holds.guards_same mtx main thread, mainKnown, threadKnown⟩

/-- The thread knows less of `main` than that it is elsewhere. -/
theorem ThreadKnown.elsewhere {state : State} (known : ThreadKnown state) {main : MainPc}
    (notJoining : main ≠ .joining) : ThreadKnown (state.moveMain main) := by
  rcases state with ⟨main, thread, glob, mtx, buf, block, freed, entered, cancelRequested, output, status⟩
  cases thread with
  | waiting => exact ⟨known.1, known.2.1, fun _ => notJoining⟩
  | _ => exact known

theorem Invariant.mainFails {setup : Setup} {state : State} (holds : Invariant setup state)
    {call : String} (errno : Errno) (inside : call = "pthread_mutex_unlock" <-> state.main.Inside)
    (turned : state.Quiet ∨ state.Turned setup) :
    Invariant setup (state.moveMain (.failing errno call)) :=
  holds.mainMoves rfl inside Iff.rfl turned (holds.thread.elsewhere MainPc.noConfusion)

theorem Invariant.guards_mainLocks {setup : Setup} {state locked : State}
    (holds : Invariant setup state) (taken : state.lock .main = some locked) {main : MainPc}
    (enters : main.Inside) :
    mutex.Guards (locked.moveMain main).mtx (locked.moveMain main).Inside := by
  rcases Option.map_eq_some_iff.mp taken with ⟨mtx, acquired, moved⟩
  cases moved
  have entersNext : ({ state with mtx }.moveMain main).Inside .main := enters
  refine (holds.guards.acquire acquired entersNext ?_).2
  intro other different isInside
  cases other with
  | main => exact absurd rfl different
  | thread => exact isInside

theorem Invariant.guards_mainUnlocks {setup : Setup} {state unlocked : State}
    (holds : Invariant setup state) (isInside : state.main.Inside)
    (given : state.unlock .main = some unlocked) {main : MainPc} (leaves : ¬ main.Inside) :
    mutex.Guards (unlocked.moveMain main).mtx (unlocked.moveMain main).Inside := by
  rcases Option.map_eq_some_iff.mp given with ⟨mtx, released, moved⟩
  cases moved
  have inside : state.Inside .main := isInside
  refine (holds.guards.release inside released leaves ?_).2
  intro other different otherInside
  cases other with
  | main => exact absurd rfl different
  | thread => exact otherInside

/-- The one thing that `main` does may have been foreseen: a handler that runs, and a wait
that is over, stay justified. -/
theorem ThreadKnown.turned {state : State} (known : ThreadKnown state) (quiet : state.Quiet)
    (main : MainPc) (glob : Int) (cancelRequested : Bool)
    (asleep : glob ≠ 0 -> main ≠ .joining) :
    ThreadKnown { state with main, glob, cancelRequested } := by
  rcases state with ⟨_, thread, _, mtx, buf, block, freed, entered, _, output, status⟩
  rcases quiet with ⟨notRequested, unset⟩
  cases notRequested
  cases unset
  cases thread with
  | waiting => exact ⟨known.1, known.2.1, asleep⟩
  | cancelWoken => exact absurd known.2.2 Bool.false_ne_true
  | completing => exact absurd rfl known.2.2
  | announcingFree cause | freeing cause | announcingUnlock cause | unlocking cause =>
      cases cause with
      | cancelled => exact absurd known.2.2 Bool.false_ne_true
      | popped => exact absurd rfl known.2.2
  | ended result =>
      cases result with
      | canceled => exact absurd known.1 Bool.false_ne_true
      | normal => exact absurd rfl known.1
  | _ => exact known

theorem mainStep_preserves {setup : Setup} {state next : State} {outcome : Outcome}
    (holds : Invariant setup state) (stepped : mainStep setup state outcome = some next) :
    Invariant setup next := by
  rcases state with ⟨main, thread, glob, mtx, buf, block, freed, entered, cancelRequested, output, status⟩
  have known := holds.main
  cases main with
  | creating =>
      rcases mainCall_eq_some stepped with called | ⟨errno, failed⟩
      · cases called
        rcases known with ⟨absent, quiet⟩
        cases absent
        exact holds.mainMoves rfl Iff.rfl Iff.rfl ⟨ThreadPc.noConfusion, quiet⟩ holds.thread
      · rw [failed]
        exact holds.mainFails errno (iff_of_false (by decide) id) (Or.inl known.2)
  | branching =>
      unfold mainStep at stepped
      simp only at stepped
      split at stepped
      · rename_i alone
        cases stepped
        exact holds.mainMoves rfl Iff.rfl Iff.rfl ⟨known.1, alone, known.2⟩
          (holds.thread.elsewhere MainPc.noConfusion)
      · rename_i several
        cases stepped
        exact holds.mainMoves rfl Iff.rfl Iff.rfl ⟨known.1, several, known.2⟩
          (holds.thread.elsewhere MainPc.noConfusion)
  | cancelling =>
      rcases mainCall_eq_some stepped with called | ⟨errno, failed⟩
      · cases called
        have turned := holds.thread.turned known.2.2 .joining glob true (fun set => absurd known.2.2.2 set)
        exact holds.mainMoves rfl Iff.rfl Iff.rfl
          ⟨known.1, Or.inl ⟨known.2.1, rfl, known.2.2.2⟩⟩ turned
      · rw [failed]
        exact holds.mainFails errno (iff_of_false (by decide) id) (Or.inl known.2.2)
  | locking =>
      rcases mainCall_eq_some stepped with called | ⟨errno, failed⟩
      · rcases Option.map_eq_some_iff.mp called with ⟨locked, taken, moved⟩
        cases moved
        refine ⟨holds.guards_mainLocks taken trivial, ?_, ?_⟩
        · rw [lock_same taken]
          exact known
        · rw [lock_same taken]
          exact holds.thread.elsewhere MainPc.noConfusion
      · rw [failed]
        exact holds.mainFails errno (iff_of_false (by decide) id) (Or.inl known.2.2)
  | setting =>
      cases stepped
      have turned := holds.thread.turned known.2.2 .unlocking 1 cancelRequested (fun _ => MainPc.noConfusion)
      exact holds.mainMoves rfl Iff.rfl Iff.rfl ⟨known.1, known.2.1, known.2.2.1, rfl⟩ turned
  | unlocking =>
      rcases mainCall_eq_some stepped with called | ⟨errno, failed⟩
      · rcases Option.map_eq_some_iff.mp called with ⟨unlocked, given, moved⟩
        cases moved
        refine ⟨holds.guards_mainUnlocks trivial given id, ?_, ?_⟩
        · rw [unlock_same given]
          exact known
        · rw [unlock_same given]
          exact holds.thread.elsewhere MainPc.noConfusion
      · rw [failed]
        exact holds.mainFails errno (iff_of_true (by decide) trivial) (Or.inr (Or.inr known.2))
  | signalling =>
      rcases mainCall_eq_some stepped with called | ⟨errno, failed⟩
      · cases called
        have threadKnown := holds.thread
        rcases known with ⟨present, turned⟩
        cases thread with
        | waiting =>
            exact holds.mainMoves rfl Iff.rfl Iff.rfl ⟨ThreadPc.noConfusion, Or.inr turned⟩
              ⟨threadKnown.1, threadKnown.2.1⟩
        | _ => exact holds.mainMoves rfl Iff.rfl Iff.rfl ⟨present, Or.inr turned⟩ threadKnown
      · rw [failed]
        exact holds.mainFails errno (iff_of_false (by decide) id) (Or.inr (Or.inr known.2))
  | joining =>
      cases thread with
      | ended result =>
          rcases mainCall_eq_some stepped with called | ⟨errno, failed⟩
          · cases called
            exact holds.mainMoves rfl Iff.rfl Iff.rfl ⟨rfl, known.2⟩ holds.thread
          · rw [failed]
            exact holds.mainFails errno (iff_of_false (by decide) id) (Or.inr known.2)
      | _ => cases stepped
  | reporting result =>
      cases stepped
      have last : (output ++ [result.report]).getLast? = some result.report := List.getLast?_concat
      exact holds.mainMoves rfl Iff.rfl Iff.rfl ⟨known.2, result, known.1, last⟩
        (holds.thread.elsewhere MainPc.noConfusion)
  | exiting | failing _ _ =>
      cases stepped
      exact ⟨holds.guards, holds.main, holds.thread⟩

theorem step_preserves {setup : Setup} {state next : State} {action : Action}
    (holds : Invariant setup state) (stepped : step setup state action = some next) :
    Invariant setup next := by
  unfold step at stepped
  split at stepped
  · cases action with
    | main outcome => exact mainStep_preserves holds stepped
    | thread outcome => exact threadStep_preserves holds stepped
    | allocate address => exact allocate_preserves holds stepped
    | actOnCancel written => exact actOnCancel_preserves holds stepped
    | spuriousWakeup =>
        rcases state with
          ⟨main, thread, glob, mtx, buf, block, freed, entered, cancelRequested, output, status⟩
        have known := holds.thread
        cases thread with
        | waiting =>
            cases stepped
            exact holds.threadMoves trivial .woken ThreadPc.noConfusion Iff.rfl buf block freed output
              ⟨known.1, known.2.1⟩
        | _ => cases stepped
  · cases stepped

theorem start_invariant (setup : Setup) : Invariant setup start where
  guards := .initial (fun party => by cases party <;> exact id)
  main := ⟨rfl, rfl, rfl⟩
  thread := ⟨rfl, ⟨rfl, rfl⟩, rfl⟩

theorem reachable_invariant {setup : Setup} {state : State}
    (reachable : (machine setup).Reachable state) : Invariant setup state := by
  refine Machine.Reachable.invariant ?_ ?_ reachable
  · intro first initial
    rw [show first = start from initial]
    exact start_invariant setup
  · intro current action next holds stepped
    exact step_preserves holds stepped

/-!
## What is left behind
-/

/-- The block is given back at most once; a thread that has ended does not leave the mutex
locked, and leaves the block only when it has been cancelled before it had the mutex; and
the last line of a process that has exited says what the command line asked for. -/
structure Clean (setup : Setup) (state : State) : Prop where
  once : state.freed = [] ∨ (state.freed = state.buf.toList ∧ state.block = none)
  unlocked : forall result, state.thread = .ended result -> state.mtx ≠ some .thread
  freed : forall result, state.thread = .ended result -> state.entered = true ->
    state.freed = state.buf.toList ∧ state.block = none
  leaked : forall result, state.thread = .ended result -> state.entered = false ->
    result = .canceled ∧ state.block = state.buf
  result : forall result, state.thread = .ended result -> state.main = .joining ->
    (result = .canceled <-> setup.argc = 1)
  exited : state.main = .exiting -> state.mtx = none ∧
    state.output.getLast? = some (if setup.argc = 1 then Result.canceled.report else Result.normal.report)

/-- The thread ends as the command line asks. -/
theorem result_iff {setup : Setup} {state : State} (turned : state.Turned setup) {result : Result}
    (justified : state.Justified result) : result = .canceled <-> setup.argc = 1 := by
  rcases turned with ⟨alone, requested, unset⟩ | ⟨several, notRequested, set⟩
  · refine iff_of_true ?_ alone
    cases result with
    | canceled => rfl
    | normal => exact absurd unset justified
  · refine iff_of_false ?_ several
    intro canceled
    rw [canceled] at justified
    exact Bool.false_ne_true (notRequested.symm.trans justified)

theorem Invariant.clean {setup : Setup} {state : State} (holds : Invariant setup state) :
    Clean setup state := by
  have outside : forall result, state.thread = .ended result -> state.mtx ≠ some .thread := by
    intro result ended held
    have inside : state.thread.Inside := (holds.inside_iff .thread).mpr held
    rw [ended] at inside
    exact inside
  have threadKnown : forall result, state.thread = .ended result ->
      state.Justified result ∧ ((state.entered = true ∧ state.Freed) ∨
        (state.entered = false ∧ result = .canceled ∧ state.Holding)) := by
    intro result ended
    have known := holds.thread
    unfold ThreadKnown at known
    rw [ended] at known
    exact known
  have mainKnown := holds.main
  unfold MainKnown at mainKnown
  constructor
  case once =>
    have known := holds.thread
    rcases state with
      ⟨main, thread, glob, mtx, buf, block, freed, entered, cancelRequested, output, status⟩
    cases thread with
    | absent | allocating => exact Or.inl known.2.1.2
    | announcing | locking | testing | woken | waiting | cancelWoken | completing
    | announcingFree _ | freeing _ => exact Or.inl known.1.2
    | announcingUnlock _ | unlocking _ => exact Or.inr known.1.symm
    | ended _ =>
        rcases known.2 with given | kept
        · exact Or.inr given.2.symm
        · exact Or.inl kept.2.2.2
    | failing _ _ =>
        rcases known with kept | given
        · exact Or.inl kept.2
        · exact Or.inr given.symm
  case unlocked => exact outside
  case freed =>
    intro result ended isEntered
    rcases (threadKnown result ended).2 with given | kept
    · exact given.2.symm
    · rw [isEntered] at kept
      cases kept.1
  case leaked =>
    intro result ended notEntered
    rcases (threadKnown result ended).2 with given | kept
    · rw [notEntered] at given
      cases given.1
    · exact ⟨kept.2.1, kept.2.2.1⟩
  case result =>
    intro result ended joining
    rw [joining] at mainKnown
    exact result_iff mainKnown.2 (threadKnown result ended).1
  case exited =>
    intro exiting
    rw [exiting] at mainKnown
    rcases mainKnown with ⟨turned, result, ended, last⟩
    constructor
    · cases held : state.mtx with
      | none => rfl
      | some party =>
          have inside := (holds.inside_iff party).mpr held
          cases party with
          | main =>
              change state.main.Inside at inside
              rw [exiting] at inside
              exact inside.elim
          | thread => exact absurd held (outside result ended)
    · rw [last]
      have asked := result_iff turned (threadKnown result ended).1
      by_cases alone : setup.argc = 1
      · rw [if_pos alone, asked.mpr alone]
      · rw [if_neg alone]
        cases result with
        | canceled => exact absurd (asked.mp rfl) alone
        | normal => rfl

/-- In every state that the program reaches, whatever the order of the steps and whenever
the cancellation takes effect, nothing has been left that should not be. -/
theorem cleanup_complete (setup : Setup) : forall state, (machine setup).Reachable state ->
    Clean setup state :=
  fun _ reachable => (reachable_invariant reachable).clean

/-- The thread is cancelled in its wait, after a wake-up without a signal. -/
def cancelledActions : List Action :=
  [.main .succeeds, .allocate (some 4096), .thread .succeeds, .thread .succeeds, .thread .succeeds,
    .spuriousWakeup, .main .succeeds, .thread .succeeds, .thread .succeeds, .main .succeeds,
    .actOnCancel false] ++ List.replicate 5 (.thread .succeeds) ++ List.replicate 3 (.main .succeeds)

def cancelledFinal : State :=
  ((machine ⟨none, 1⟩).exec start cancelledActions).get (by decide +kernel)

theorem cleanup_complete_cancelled :
    (cancelledFinal.status = .exited ∧ cancelledFinal.freed = [4096] ∧
      cancelledFinal.output.getLast? = some "main: thread was canceled\n") ∧
        Clean ⟨none, 1⟩ cancelledFinal := by
  have executed : (machine ⟨none, 1⟩).exec start cancelledActions = some cancelledFinal :=
    (Option.some_get _).symm
  exact ⟨by decide +kernel, cleanup_complete _ _ (Machine.reachable_of_exec rfl executed)⟩

/-!
## The process comes to its end
-/

/-- How far the thread is from its end. -/
def ThreadPc.rank : ThreadPc -> Nat
  | .absent => 16
  | .allocating => 15
  | .announcing => 14
  | .locking => 13
  | .woken => 12
  | .testing => 11
  | .waiting => 10
  | .cancelWoken => 9
  | .completing => 9
  | .announcingFree _ => 8
  | .freeing _ => 7
  | .announcingUnlock _ => 6
  | .unlocking _ => 5
  | .failing _ _ => 1
  | .ended _ => 0

/-- How far `main` is from its end; a signal may send the thread two positions back. -/
def MainPc.rank : MainPc -> Nat
  | .creating => 12
  | .branching => 11
  | .cancelling => 10
  | .locking => 10
  | .setting => 9
  | .unlocking => 8
  | .signalling => 7
  | .joining => 4
  | .reporting _ => 3
  | .exiting => 2
  | .failing _ _ => 1

/-- What each step uses up. -/
def State.budget (state : State) : Nat :=
  state.main.rank + state.thread.rank + if state.status = .running then 1 else 0

/-- What a step may add: only a wake-up for which there is no reason sends a thread back. -/
def Action.cost : Action -> Nat
  | .spuriousWakeup => 3
  | _ => 0

theorem threadStep_budget {setup : Setup} {state next : State} {outcome : Outcome}
    (running : state.status = .running) (stepped : threadStep setup state outcome = some next) :
    next.budget < state.budget := by
  rcases state with ⟨main, thread, glob, mtx, buf, block, freed, entered, cancelRequested, output, status⟩
  cases running
  have falls : forall {final : State}, final.main = main -> final.status = .running ->
      final.thread.rank < thread.rank -> final.budget < main.rank + thread.rank + 1 := by
    intro final sameMain sameStatus lower
    unfold State.budget
    rw [sameMain, sameStatus, if_pos rfl]
    omega
  cases thread with
  | absent | allocating | waiting | ended _ => cases stepped
  | announcing | completing | announcingFree _ | freeing _ | announcingUnlock _ =>
      cases stepped
      apply falls rfl rfl
      exact Nat.lt_succ_self _
  | locking =>
      rcases threadCall_eq_some stepped with called | ⟨errno, failed⟩
      · rcases Option.map_eq_some_iff.mp called with ⟨locked, taken, moved⟩
        cases moved
        rw [lock_same taken]
        exact falls rfl rfl (show 11 < 13 by decide)
      · rw [failed]
        exact falls rfl rfl (show 1 < 13 by decide)
  | testing =>
      unfold threadStep at stepped
      simp only at stepped
      split at stepped
      · rcases threadCall_eq_some stepped with called | ⟨errno, failed⟩
        · rcases Option.map_eq_some_iff.mp called with ⟨unlocked, given, moved⟩
          cases moved
          rw [unlock_same given]
          exact falls rfl rfl (show 10 < 11 by decide)
        · rw [failed]
          exact falls rfl rfl (show 1 < 11 by decide)
      · cases stepped
        exact falls rfl rfl (show 9 < 11 by decide)
  | woken =>
      rcases Option.map_eq_some_iff.mp stepped with ⟨locked, taken, moved⟩
      cases moved
      rw [lock_same taken]
      exact falls rfl rfl (show 11 < 12 by decide)
  | cancelWoken =>
      rcases Option.map_eq_some_iff.mp stepped with ⟨locked, taken, moved⟩
      cases moved
      rw [lock_same taken]
      exact falls rfl rfl (show 8 < 9 by decide)
  | unlocking cause =>
      rcases threadCall_eq_some stepped with called | ⟨errno, failed⟩
      · rcases Option.map_eq_some_iff.mp called with ⟨unlocked, given, moved⟩
        cases moved
        rw [unlock_same given]
        exact falls rfl rfl (show 0 < 5 by decide)
      · rw [failed]
        exact falls rfl rfl (show 1 < 5 by decide)
  | failing errno call =>
      cases stepped
      exact Nat.lt_succ_self _

theorem mainStep_budget {setup : Setup} {state next : State} {outcome : Outcome}
    (holds : Invariant setup state) (running : state.status = .running)
    (stepped : mainStep setup state outcome = some next) : next.budget < state.budget := by
  have known := holds.main
  rcases state with ⟨main, thread, glob, mtx, buf, block, freed, entered, cancelRequested, output, status⟩
  cases running
  have falls : forall {final : State}, final.status = .running ->
      final.main.rank + final.thread.rank < main.rank + thread.rank ->
      final.budget < main.rank + thread.rank + 1 := by
    intro final sameStatus lower
    unfold State.budget
    rw [sameStatus, if_pos rfl]
    omega
  have fails : forall {errno : Errno} {call : String}, 1 < main.rank ->
      (State.moveMain ⟨main, thread, glob, mtx, buf, block, freed, entered, cancelRequested, output,
        .running⟩ (.failing errno call)).budget < main.rank + thread.rank + 1 :=
    fun above => falls rfl (Nat.add_lt_add_right above _)
  cases main with
  | creating =>
      rcases mainCall_eq_some stepped with called | ⟨errno, failed⟩
      · cases called
        cases (show thread = .absent from known.1)
        exact falls rfl (show 11 + 15 < 12 + 16 by decide)
      · rw [failed]
        exact fails (show 1 < 12 by decide)
  | branching =>
      unfold mainStep at stepped
      simp only at stepped
      split at stepped
      · cases stepped
        exact falls rfl (Nat.add_lt_add_right (show 10 < 11 by decide) _)
      · cases stepped
        exact falls rfl (Nat.add_lt_add_right (show 10 < 11 by decide) _)
  | cancelling =>
      rcases mainCall_eq_some stepped with called | ⟨errno, failed⟩
      · cases called
        exact falls rfl (Nat.add_lt_add_right (show 4 < 10 by decide) _)
      · rw [failed]
        exact fails (show 1 < 10 by decide)
  | locking =>
      rcases mainCall_eq_some stepped with called | ⟨errno, failed⟩
      · rcases Option.map_eq_some_iff.mp called with ⟨locked, taken, moved⟩
        cases moved
        rw [lock_same taken]
        exact falls rfl (Nat.add_lt_add_right (show 9 < 10 by decide) _)
      · rw [failed]
        exact fails (show 1 < 10 by decide)
  | setting =>
      cases stepped
      exact falls rfl (Nat.add_lt_add_right (show 8 < 9 by decide) _)
  | unlocking =>
      rcases mainCall_eq_some stepped with called | ⟨errno, failed⟩
      · rcases Option.map_eq_some_iff.mp called with ⟨unlocked, given, moved⟩
        cases moved
        rw [unlock_same given]
        exact falls rfl (Nat.add_lt_add_right (show 7 < 8 by decide) _)
      · rw [failed]
        exact fails (show 1 < 8 by decide)
  | signalling =>
      rcases mainCall_eq_some stepped with called | ⟨errno, failed⟩
      · cases called
        cases thread with
        | waiting => exact falls rfl (show 4 + 12 < 7 + 10 by decide)
        | _ => exact falls rfl (Nat.add_lt_add_right (show 4 < 7 by decide) _)
      · rw [failed]
        exact fails (show 1 < 7 by decide)
  | joining =>
      cases thread with
      | ended result =>
          rcases mainCall_eq_some stepped with called | ⟨errno, failed⟩
          · cases called
            exact falls rfl (show 3 + 0 < 4 + 0 by decide)
          · rw [failed]
            exact fails (show 1 < 4 by decide)
      | _ => cases stepped
  | reporting result =>
      cases stepped
      exact falls rfl (Nat.add_lt_add_right (show 2 < 3 by decide) _)
  | exiting | failing _ _ =>
      cases stepped
      exact Nat.lt_succ_self _

/-- Every step but a wake-up without a reason uses up some of the budget. -/
theorem step_budget {setup : Setup} {state next : State} {action : Action}
    (holds : Invariant setup state) (stepped : step setup state action = some next) :
    next.budget + 1 ≤ state.budget + action.cost := by
  unfold step at stepped
  split at stepped
  · rename_i running
    cases action with
    | main outcome => exact mainStep_budget holds running stepped
    | thread outcome => exact threadStep_budget running stepped
    | allocate address =>
        rcases state with
          ⟨main, thread, glob, mtx, buf, block, freed, entered, cancelRequested, output, status⟩
        cases running
        cases thread with
        | allocating =>
            cases stepped
            simp [State.budget, State.moveThread, ThreadPc.rank, Action.cost]
        | _ => cases stepped
    | actOnCancel written =>
        rcases state with
          ⟨main, thread, glob, mtx, buf, block, freed, entered, cancelRequested, output, status⟩
        have known := holds.thread
        have lower : forall {other : ThreadPc} {line : List String}, other.rank < thread.rank ->
            (State.mk main other glob mtx buf block freed entered cancelRequested line status).budget + 1 ≤
              (State.mk main thread glob mtx buf block freed entered cancelRequested output
                status).budget := by
          intro other line below
          unfold State.budget
          simp only
          omega
        change actOnCancel _ written = some next at stepped
        unfold actOnCancel at stepped
        split at stepped
        · cases thread with
          | announcing =>
              cases stepped
              exact lower (show 0 < 14 by decide)
          | waiting =>
              cases stepped
              exact lower (show 9 < 10 by decide)
          | completing =>
              cases stepped
              exact lower (show 8 < 9 by decide)
          | announcingFree cause =>
              cases cause with
              | cancelled => cases stepped
              | popped =>
                  cases stepped
                  exact lower (show 0 < 8 by decide)
          | announcingUnlock cause =>
              cases cause with
              | cancelled => cases stepped
              | popped =>
                  cases stepped
                  exact lower (show 0 < 6 by decide)
          | _ => cases stepped
        · cases stepped
    | spuriousWakeup =>
        rcases state with
          ⟨main, thread, glob, mtx, buf, block, freed, entered, cancelRequested, output, status⟩
        cases running
        cases thread with
        | waiting =>
            cases stepped
            simp [State.budget, State.moveThread, ThreadPc.rank, Action.cost]
        | _ => cases stepped
  · cases stepped

/-- A run is no longer than its budget and what its spurious wake-ups add. -/
theorem exec_budget {setup : Setup} {state final : State} {actions : List Action}
    (holds : Invariant setup state) (executed : (machine setup).exec state actions = some final) :
    final.budget + actions.length ≤ state.budget + (actions.map Action.cost).sum := by
  induction actions generalizing state with
  | nil =>
      cases executed
      exact le_refl _
  | cons action rest inductionHypothesis =>
      rcases Option.bind_eq_some_iff.mp executed with ⟨next, stepped, continued⟩
      have here := step_budget holds stepped
      have there := inductionHypothesis (step_preserves holds stepped) continued
      simp only [List.length_cons, List.map_cons, List.sum_cons]
      omega

/-- Whoever is outside finds the mutex free when the other is outside too. -/
theorem Invariant.lock_enabled {setup : Setup} {state : State} (holds : Invariant setup state)
    (mainOutside : ¬ state.main.Inside) (threadOutside : ¬ state.thread.Inside) (party : Party) :
    Exists fun locked => state.lock party = some locked := by
  have free : state.mtx = none := by
    cases held : state.mtx with
    | none => rfl
    | some owner =>
        have inside := (holds.inside_iff owner).mpr held
        cases owner with
        | main => exact absurd inside mainOutside
        | thread => exact absurd inside threadOutside
  refine ⟨{ state with mtx := some party }, ?_⟩
  unfold State.lock
  rw [free]
  rfl

/-- Whoever is inside can leave. -/
theorem Invariant.unlock_enabled {setup : Setup} {state : State} (holds : Invariant setup state)
    (party : Party) (inside : state.Inside party) :
    Exists fun unlocked => state.unlock party = some unlocked := by
  refine ⟨{ state with mtx := none }, ?_⟩
  have released : mutex.release (some party) party = some none := if_pos rfl
  unfold State.unlock
  rw [(holds.inside_iff party).mp inside, released]
  rfl

/-- A step in which no call fails, and which is no wake-up without a reason. -/
def Action.Regular : Action -> Prop
  | .main .succeeds | .thread .succeeds | .allocate (some _) | .actOnCancel _ => True
  | .main (.fails _) | .thread (.fails _) | .allocate none | .spuriousWakeup => False

/-- Some step can be taken in which nothing fails. -/
def Enabled (setup : Setup) (state : State) : Prop :=
  Exists fun action : Action => action.Regular ∧
    Exists fun next => step setup state action = some next

/-- A thread that holds the mutex is never held up. -/
theorem Invariant.enabled_of_inside {setup : Setup} {state : State} (holds : Invariant setup state)
    (running : state.status = .running) (inside : state.thread.Inside) : Enabled setup state := by
  have unlocked := holds.unlock_enabled .thread inside
  rcases state with ⟨main, thread, glob, mtx, buf, block, freed, entered, cancelRequested, output, status⟩
  cases running
  refine ⟨.thread .succeeds, trivial, ?_⟩
  cases thread with
  | testing =>
      by_cases unset : glob = 0
      · cases unset
        rcases unlocked with ⟨next, given⟩
        refine ⟨next.moveThread .waiting, ?_⟩
        simp [step, threadStep, State.threadCall, given]
      · exact ⟨_, if_neg unset⟩
  | completing | announcingFree _ | freeing _ | announcingUnlock _ => exact ⟨_, rfl⟩
  | unlocking cause =>
      rcases unlocked with ⟨next, given⟩
      refine ⟨next.moveThread (.ended cause.result), ?_⟩
      simp [step, threadStep, State.threadCall, given]
  | failing _ _ => exact ⟨_, rfl⟩
  | _ => exact inside.elim

/-- While `main` waits for the thread, one of the two can go on. -/
theorem Invariant.enabled_joining {setup : Setup} {state : State} (holds : Invariant setup state)
    (running : state.status = .running) (joining : state.main = .joining) : Enabled setup state := by
  have outside : ¬ state.main.Inside := by
    rw [joining]
    exact id
  have locked := fun threadOutside => holds.lock_enabled outside threadOutside .thread
  have inside := holds.enabled_of_inside running
  have mainKnown := holds.main
  have known := holds.thread
  rcases state with ⟨main, thread, glob, mtx, buf, block, freed, entered, cancelRequested, output, status⟩
  cases running
  cases joining
  cases thread with
  | absent => exact absurd rfl mainKnown.1
  | allocating => exact ⟨.allocate (some 4096), trivial, _, rfl⟩
  | announcing => exact ⟨.thread .succeeds, trivial, _, rfl⟩
  | locking =>
      rcases locked id with ⟨next, taken⟩
      refine ⟨.thread .succeeds, trivial, { next with entered := true }.moveThread .testing, ?_⟩
      simp [step, threadStep, State.threadCall, taken]
  | woken =>
      rcases locked id with ⟨next, taken⟩
      refine ⟨.thread .succeeds, trivial, next.moveThread .testing, ?_⟩
      simp [step, threadStep, taken]
  | cancelWoken =>
      rcases locked id with ⟨next, taken⟩
      refine ⟨.thread .succeeds, trivial, next.moveThread (.announcingFree .cancelled), ?_⟩
      simp [step, threadStep, taken]
  | waiting =>
      -- a thread that sleeps on has been cancelled, or else the signal is still to come
      rcases mainKnown.2 with ⟨_, requested, _⟩ | ⟨_, _, set⟩
      · exact ⟨.actOnCancel false, trivial, _, if_pos requested⟩
      · refine absurd rfl (known.2.2 ?_)
        cases set
        exact one_ne_zero
  | ended result => exact ⟨.main .succeeds, trivial, _, rfl⟩
  | failing _ _ => exact ⟨.thread .succeeds, trivial, _, rfl⟩
  | testing | completing | announcingFree _ | freeing _ | announcingUnlock _ | unlocking _ =>
      exact inside trivial

/-- A process that runs is never stuck. -/
theorem Invariant.enabled {setup : Setup} {state : State} (holds : Invariant setup state)
    (running : state.status = .running) : Enabled setup state := by
  have locked := fun mainOutside threadOutside => holds.lock_enabled mainOutside threadOutside .main
  have unlocked := holds.unlock_enabled .main
  have inside := holds.enabled_of_inside running
  have joins := holds.enabled_joining running
  rcases state with ⟨main, thread, glob, mtx, buf, block, freed, entered, cancelRequested, output, status⟩
  cases running
  cases main with
  | joining => exact joins rfl
  | locking =>
      by_cases threadInside : thread.Inside
      · exact inside threadInside
      · rcases locked id threadInside with ⟨next, taken⟩
        refine ⟨.main .succeeds, trivial, next.moveMain .setting, ?_⟩
        simp [step, mainStep, State.mainCall, taken]
  | unlocking =>
      rcases unlocked trivial with ⟨next, given⟩
      refine ⟨.main .succeeds, trivial, next.moveMain .signalling, ?_⟩
      simp [step, mainStep, State.mainCall, given]
  | branching =>
      refine ⟨.main .succeeds, trivial, ?_⟩
      by_cases alone : setup.argc = 1
      · exact ⟨_, if_pos alone⟩
      · exact ⟨_, if_neg alone⟩
  | creating | cancelling | setting | signalling | reporting _ | exiting | failing _ _ =>
      exact ⟨.main .succeeds, trivial, _, rfl⟩

/-- The program comes to its end under every schedule: a run is bounded in length, apart
from the spurious wake-ups, and until the process has ended there is a step in which no call
fails. -/
theorem cleanup_ends (setup : Setup) :
    (forall actions final, (machine setup).exec start actions = some final ->
      actions.length ≤ 29 + 3 * actions.count .spuriousWakeup) ∧
    (forall state, (machine setup).Reachable state -> state.status = .running -> Enabled setup state) := by
  constructor
  · intro actions final executed
    have bounded := exec_budget (start_invariant setup) executed
    have costs : (actions.map Action.cost).sum = 3 * actions.count .spuriousWakeup := by
      clear executed bounded
      induction actions with
      | nil => rfl
      | cons action rest inductionHypothesis =>
          rw [List.map_cons, List.sum_cons, inductionHypothesis]
          cases action with
          | spuriousWakeup =>
              rw [List.count_cons_self]
              change 3 + _ = _
              omega
          | _ =>
              rw [List.count_cons_of_ne Action.noConfusion]
              exact Nat.zero_add _
    have first : start.budget = 29 := rfl
    omega
  · intro state reachable running
    exact (reachable_invariant reachable).enabled running

end ThreadCleanup
end ThreadCancel
end Tlpi
