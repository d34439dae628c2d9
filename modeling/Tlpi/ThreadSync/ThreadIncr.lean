import Mathlib.Logic.Function.Basic
import Mathlib.Tactic.Ring
import Tlpi.CLibrary.Locks
import Tlpi.Foundations.Transition
import Tlpi.Lib.ErrorFunctions
import Tlpi.Lib.GetNum

namespace Tlpi
namespace ThreadSync
namespace ThreadIncr

open CLibrary Foundations Lib

/-!
# Two threads that count under a lock

Three programs have two threads add one to a global variable, each as many times as the
argument says, in three statements: copy the variable, add one to the copy, store the
copy.  Each program keeps the other thread out with another primitive.  They are one
machine, which takes the primitive, the names of the functions that it calls and the
moments of initialisation from the program.

One step is one call of the library or one statement.  Any call may fail; the thread
that made it then ends the process with a diagnostic, and until it has done so the
others go on.
-/

/-- The two threads. -/
inductive Worker where
  | t1
  | t2
deriving DecidableEq, Repr

/-- What tells the programs apart.  A program that has to initialise its lock does so
before or after it looks at its argument; `unset` is what the variable holds at the
start. -/
structure Program (Lock : Type) where
  lock : ExclusiveLock Lock Worker
  unset : Lock
  initEarly : Option String
  initLate : Option String
  destroy : Option String
  lockName : String
  unlockName : String
  initialised : initEarly.isSome = true ∨ initLate.isSome = true ∨ unset = lock.initial

/-- `thread_incr_mutex`, whose mutex has a static initialiser. -/
def thread_incr_mutex : Program (Option Worker) where
  lock := mutex
  unset := none
  initEarly := none
  initLate := none
  destroy := none
  lockName := "pthread_mutex_lock"
  unlockName := "pthread_mutex_unlock"
  initialised := Or.inr (Or.inr rfl)

/-- `thread_incr_psem`, which initialises its semaphore with one. -/
def thread_incr_psem : Program Nat where
  lock := semaphore
  unset := 0
  initEarly := none
  initLate := some "sem_init"
  destroy := some "sem_destroy"
  lockName := "sem_wait"
  unlockName := "sem_post"
  initialised := Or.inr (Or.inl rfl)

/-- `thread_incr_spinlock`. -/
def thread_incr_spinlock : Program Bool where
  lock := spinlock
  unset := false
  initEarly := some "pthread_spin_init"
  initLate := none
  destroy := none
  lockName := "pthread_spin_lock"
  unlockName := "pthread_spin_unlock"
  initialised := Or.inl rfl

/-- The positions of `threadFunc`, each named after what it does next, with the values
of `j` and `loc`; `absent` before the thread is created, and two positions for a call
that has failed. -/
inductive Phase where
  | absent
  | testing (j : Int)
  | locking (j : Int)
  | lockFailed (j : Int) (errno : Errno)
  | reading (j : Int)
  | incrementing (j loc : Int)
  | writing (j loc : Int)
  | unlocking (j : Int)
  | unlockFailed (j : Int) (errno : Errno)
  | finished (j : Int)
deriving DecidableEq, Repr

inductive MainPc where
  | initialisingEarly
  | parsing
  | initialisingLate
  | creating (worker : Worker)
  | joining (worker : Worker)
  | printing
  | destroying
  | exiting
  | failing (errno : Errno) (call : String)
deriving DecidableEq, Repr

/-- Whether the process runs, and if not, how it has ended. -/
inductive Status where
  | running
  | exited
  | rejected (diagnostic : List Byte)
  | failed (failure : Failure)
deriving DecidableEq, Repr

/-- The process.  The program does not hold `joined`, which is the library's record of
the threads joined, nor `sections`, which counts the locks released. -/
structure State (Lock : Type) where
  main : MainPc
  loops : Int
  glob : Int
  lock : Lock
  threads : Worker -> Phase
  joined : Worker -> Bool
  sections : Nat
  printed : List Int
  status : Status

/-- How the program is started: the variable that `terminate` looks at, and `argv[1]`. -/
structure Setup where
  dumpcore : Option String
  argument : Option (List Byte)

/-- Who moves. -/
inductive Party where
  | main
  | worker (worker : Worker)
deriving DecidableEq, Repr

inductive Outcome where
  | succeeds
  | fails (errno : Errno)
deriving DecidableEq, Repr

variable {Lock : Type}

/-- Go on after a call of `main`, or turn to reporting its failure. -/
def State.after (state next : State Lock) (outcome : Outcome) (call : String) : State Lock :=
  match outcome with
  | .succeeds => next
  | .fails errno => { state with main := .failing errno call }

/-- Go on after a call that the program may or may not make. -/
def State.afterOptional (state next : State Lock) (outcome : Outcome) (call : Option String)
    (skipped : State Lock) : State Lock :=
  match call with
  | none => skipped
  | some call => state.after next outcome call

/-- `(argc > 1) ? getInt(argv[1], GN_GT_0, "num_loops") : 10000000`. -/
def numLoops (setup : Setup) : Except (List Byte) Int :=
  match setup.argument with
  | none => .ok 10000000
  | some argument => getInt (some argument) GN_GT_0 (some "num_loops")

def State.moveThread (state : State Lock) (worker : Worker) (phase : Phase) : State Lock :=
  { state with threads := Function.update state.threads worker phase }

def mainStep (program : Program Lock) (setup : Setup) (state : State Lock) (outcome : Outcome) :
    Option (State Lock) :=
  match state.main with
  | .initialisingEarly =>
      let next : State Lock := { state with main := .parsing }
      some (state.afterOptional { next with lock := program.lock.initial } outcome
        program.initEarly next)
  | .parsing =>
      match numLoops setup with
      | .error diagnostic => some { state with status := .rejected diagnostic }
      | .ok loops => some { state with main := .initialisingLate, loops := loops }
  | .initialisingLate =>
      let next : State Lock := { state with main := .creating .t1 }
      some (state.afterOptional { next with lock := program.lock.initial } outcome
        program.initLate next)
  | .creating worker =>
      let following := match worker with
        | .t1 => MainPc.creating .t2
        | .t2 => MainPc.joining .t1
      some (state.after ({ state with main := following }.moveThread worker (.testing 0))
        outcome "pthread_create")
  | .joining worker =>
      match state.threads worker with
      | .finished _ =>
          let following := match worker with
            | .t1 => MainPc.joining .t2
            | .t2 => MainPc.printing
          some (state.after
            { state with main := following, joined := Function.update state.joined worker true }
            outcome "pthread_join")
      | _ => none
  | .printing => some { state with main := .destroying, printed := state.printed ++ [state.glob] }
  | .destroying =>
      let next : State Lock := { state with main := .exiting }
      some (state.afterOptional next outcome program.destroy next)
  | .exiting => some { state with status := .exited }
  | .failing errno call => some { state with status := .failed (errExit setup.dumpcore errno call) }

/-- One step of `threadFunc`.  A call to lock that would wait is not enabled. -/
def threadStep (program : Program Lock) (setup : Setup) (state : State Lock) (worker : Worker)
    (outcome : Outcome) : Option (State Lock) :=
  match state.threads worker with
  | .absent => none
  | .testing j =>
      some (state.moveThread worker (if j < state.loops then .locking j else .finished j))
  | .locking j =>
      match outcome with
      | .fails errno => some (state.moveThread worker (.lockFailed j errno))
      | .succeeds =>
          (program.lock.acquire state.lock worker).map
            (fun lock => { state with lock := lock }.moveThread worker (.reading j))
  | .reading j => some (state.moveThread worker (.incrementing j state.glob))
  | .incrementing j loc => some (state.moveThread worker (.writing j (toInt (loc + 1))))
  | .writing j loc => some ({ state with glob := loc }.moveThread worker (.unlocking j))
  | .unlocking j =>
      match outcome with
      | .fails errno => some (state.moveThread worker (.unlockFailed j errno))
      | .succeeds =>
          (program.lock.release state.lock worker).map
            (fun lock => { state with lock := lock, sections := state.sections + 1 }.moveThread worker
              (.testing (j + 1)))
  | .lockFailed _ errno =>
      some { state with status := .failed (errExit setup.dumpcore errno program.lockName) }
  | .unlockFailed _ errno =>
      some { state with status := .failed (errExit setup.dumpcore errno program.unlockName) }
  | .finished _ => none

def step (program : Program Lock) (setup : Setup) (state : State Lock) (action : Party × Outcome) :
    Option (State Lock) :=
  if state.status = .running then
    match action.1 with
    | .main => mainStep program setup state action.2
    | .worker worker => threadStep program setup state worker action.2
  else none

def start (program : Program Lock) : State Lock where
  main := .initialisingEarly
  loops := 0
  glob := 0
  lock := program.unset
  threads := fun _ => .absent
  joined := fun _ => false
  sections := 0
  printed := []
  status := .running

def machine (program : Program Lock) (setup : Setup) : Machine (State Lock) (Party × Outcome) where
  Initial state := state = start program
  step := step program setup

/-!
## What the lock keeps apart
-/

/-- The thread is between its lock and its unlock. -/
def Phase.Inside : Phase -> Prop
  | .reading _ | .incrementing _ _ | .writing _ _ | .unlocking _ | .unlockFailed _ _ => True
  | _ => False

/-- The increment of the passage that is not completed yet is in the variable. -/
def Phase.stored : Phase -> Int
  | .unlocking _ | .unlockFailed _ _ => 1
  | _ => 0

def Phase.completed : Phase -> Int
  | .absent => 0
  | .testing j | .locking j | .lockFailed j _ | .reading j | .incrementing j _ | .writing j _
  | .unlocking j | .unlockFailed j _ | .finished j => j

/-- What holds of the local variables at each position. -/
def Phase.Ok (glob loops : Int) : Phase -> Prop
  | .absent => True
  | .testing j => j ≤ loops
  | .locking j | .lockFailed j _ | .reading j | .unlocking j | .unlockFailed j _ => j < loops
  | .incrementing j loc => j < loops ∧ loc = glob
  | .writing j loc => j < loops ∧ loc = toInt (glob + 1)
  | .finished j => j = loops

/-- A quantity of both threads together. -/
def total (quantity : Phase -> Int) (threads : Worker -> Phase) : Int :=
  quantity (threads .t1) + quantity (threads .t2)

theorem total_update (quantity : Phase -> Int) (threads : Worker -> Phase) (worker : Worker)
    (phase : Phase) :
    total quantity (Function.update threads worker phase) =
      total quantity threads - quantity (threads worker) + quantity phase := by
  unfold total
  cases worker with
  | t1 =>
      have other : Function.update threads .t1 phase .t2 = threads .t2 :=
        Function.update_of_ne Worker.noConfusion _ _
      rw [Function.update_self, other]
      ring
  | t2 =>
      have other : Function.update threads .t2 phase .t1 = threads .t1 :=
        Function.update_of_ne Worker.noConfusion _ _
      rw [Function.update_self, other]
      ring

/-- What is known while `main` is at a position: which threads exist, and that the lock
is initialised before they do. -/
def Setting (program : Program Lock) (state : State Lock) : Prop :=
  match state.main with
  | .initialisingEarly => (forall worker, state.threads worker = .absent) ∧ state.lock = program.unset
  | .parsing | .initialisingLate =>
      (forall worker, state.threads worker = .absent) ∧
        state.lock = if program.initEarly.isSome then program.lock.initial else program.unset
  | .creating .t1 => (forall worker, state.threads worker = .absent) ∧ state.lock = program.lock.initial
  | .creating .t2 => state.threads .t1 ≠ .absent ∧ state.threads .t2 = .absent
  | _ => True

structure Invariant (program : Program Lock) (state : State Lock) : Prop where
  guards : (forall worker, state.threads worker = .absent) ∨
    program.lock.Guards state.lock (fun worker => (state.threads worker).Inside)
  glob : state.glob = toInt (state.sections + total Phase.stored state.threads)
  sections : (state.sections : Int) = total Phase.completed state.threads
  phases : forall worker, (state.threads worker).Ok state.glob state.loops
  loops : 0 ≤ state.loops
  joined : forall worker, state.joined worker = true ->
    Exists fun j => state.threads worker = .finished j
  setting : Setting program state

/-- What `main` knows stays true when an existing thread moves. -/
theorem Setting.moved {program : Program Lock} {state next : State Lock}
    (setting : Setting program state) {worker : Worker} {phase : Phase}
    (present : state.threads worker ≠ .absent) (stays : phase ≠ .absent)
    (sameMain : next.main = state.main)
    (threads : next.threads = Function.update state.threads worker phase) :
    Setting program next := by
  unfold Setting at setting ⊢
  rw [sameMain]
  cases position : state.main with
  | initialisingEarly | parsing | initialisingLate =>
      rw [position] at setting
      exact absurd (setting.1 worker) present
  | creating created =>
      rw [position] at setting
      cases created with
      | t1 => exact absurd (setting.1 worker) present
      | t2 =>
          rcases setting with ⟨firstPresent, secondAbsent⟩
          cases worker with
          | t2 => exact absurd secondAbsent present
          | t1 =>
              rw [threads]
              constructor
              · rw [Function.update_self]
                exact stays
              · rw [Function.update_of_ne Worker.noConfusion]
                exact secondAbsent
  | joining _ | printing | destroying | exiting | failing _ _ => trivial

/-- Whoever is outside does not look at the variable. -/
theorem Phase.Ok.of_outside {phase : Phase} {glob other loops : Int} (ok : phase.Ok glob loops)
    (outside : ¬ phase.Inside) : phase.Ok other loops := by
  cases phase with
  | incrementing _ _ | writing _ _ => exact absurd trivial outside
  | _ => exact ok

/-- The thread has been created and has not left its loop. -/
def Phase.Runs : Phase -> Prop
  | .absent | .finished _ => False
  | _ => True

/-- A thread that is joined has finished, whatever another thread does. -/
theorem Invariant.joined_update {program : Program Lock} {state : State Lock}
    (holds : Invariant program state) {worker : Worker}
    (unfinished : forall j, state.threads worker ≠ .finished j) (phase : Phase) {party : Worker}
    (isJoined : state.joined party = true) :
    Exists fun j => Function.update state.threads worker phase party = .finished j := by
  rcases holds.joined party isJoined with ⟨j, finished⟩
  have different : party ≠ worker := by
    intro equal
    rw [equal] at finished
    exact unfinished j finished
  refine ⟨j, ?_⟩
  rw [Function.update_of_ne different]
  exact finished

/-- A thread moves to another position, and with it the variable, the lock and the count
of the passages. -/
theorem Invariant.moved {program : Program Lock} {state : State Lock}
    (holds : Invariant program state) {worker : Worker} {before phase : Phase}
    (here : state.threads worker = before) (runs : before.Runs) (stays : phase ≠ .absent)
    (glob : Int) (lock : Lock) (sections : Nat)
    (guards : program.lock.Guards state.lock (fun party => (state.threads party).Inside) ->
      program.lock.Guards lock (fun party => (Function.update state.threads worker phase party).Inside))
    (balance : glob = toInt (sections + (total Phase.stored state.threads - before.stored + phase.stored)))
    (completed : (sections : Int) - phase.completed = state.sections - before.completed)
    (ok : phase.Ok glob state.loops)
    (others : glob = state.glob ∨ forall other, other ≠ worker -> ¬ (state.threads other).Inside) :
    Invariant program
      ({ state with lock := lock, glob := glob, sections := sections }.moveThread worker phase) := by
  have present : state.threads worker ≠ .absent := by
    intro absent
    rw [← here, absent] at runs
    exact runs
  constructor
  case guards =>
    refine Or.inr (guards ?_)
    rcases holds.guards with absent | before
    · exact absurd (absent worker) present
    · exact before
  case glob =>
    change glob = toInt (sections + total Phase.stored (Function.update state.threads worker phase))
    rw [total_update, here]
    exact balance
  case sections =>
    change (sections : Int) = total Phase.completed (Function.update state.threads worker phase)
    rw [total_update, here, ← holds.sections]
    omega
  case phases =>
    intro party
    change (Function.update state.threads worker phase party).Ok glob state.loops
    by_cases equal : party = worker
    · rw [equal, Function.update_self]
      exact ok
    · rw [Function.update_of_ne equal]
      rcases others with same | outside
      · rw [same]
        exact holds.phases party
      · exact (holds.phases party).of_outside (outside party equal)
  case loops => exact holds.loops
  case joined =>
    intro party
    apply holds.joined_update
    intro j finished
    rw [← here, finished] at runs
    exact runs
  case setting => exact holds.setting.moved present stays rfl rfl

/-- A step that takes the thread neither in nor out. -/
theorem guards_same {program : Program Lock} {state : State Lock} {worker : Worker} {phase : Phase}
    (same : phase.Inside <-> (state.threads worker).Inside)
    (guards : program.lock.Guards state.lock (fun party => (state.threads party).Inside)) :
    program.lock.Guards state.lock
      (fun party => (Function.update state.threads worker phase party).Inside) := by
  refine guards.congr ?_
  intro party
  by_cases equal : party = worker
  · rw [equal, Function.update_self]
    exact same
  · rw [Function.update_of_ne equal]

/-- A thread that moves without touching the variable or the lock. -/
theorem Invariant.moved_alone {program : Program Lock} {state : State Lock}
    (holds : Invariant program state) {worker : Worker} {before phase : Phase}
    (here : state.threads worker = before) (runs : before.Runs) (stays : phase ≠ .absent)
    (inside : phase.Inside <-> before.Inside) (stored : phase.stored = before.stored)
    (completed : phase.completed = before.completed) (ok : phase.Ok state.glob state.loops) :
    Invariant program (state.moveThread worker phase) := by
  refine holds.moved here runs stays state.glob state.lock state.sections ?_ ?_ ?_ ok (Or.inl rfl)
  · apply guards_same
    rw [here]
    exact inside
  · rw [stored, sub_add_cancel]
    exact holds.glob
  · rw [completed]

/-- A step that only ends the process. -/
theorem Invariant.ended {program : Program Lock} {state : State Lock}
    (holds : Invariant program state) (status : Status) :
    Invariant program { state with status := status } :=
  ⟨holds.guards, holds.glob, holds.sections, holds.phases, holds.loops, holds.joined, holds.setting⟩

/-- Nobody else is inside with the thread that is. -/
theorem Invariant.alone {program : Program Lock} {state : State Lock}
    (holds : Invariant program state) {first second : Worker} (firstInside : (state.threads first).Inside)
    (secondInside : (state.threads second).Inside) : first = second := by
  rcases holds.guards with absent | guards
  · rw [absent first] at firstInside
    cases firstInside
  · exact guards.unique firstInside secondInside

theorem threadStep_preserves {program : Program Lock} {setup : Setup} {state next : State Lock}
    {worker : Worker} {outcome : Outcome} (holds : Invariant program state)
    (stepped : threadStep program setup state worker outcome = some next) :
    Invariant program next := by
  have ok := holds.phases worker
  have others : forall {phase : Phase} (other : Worker), other ≠ worker ->
      (Function.update state.threads worker phase other).Inside -> (state.threads other).Inside := by
    intro phase other different isInside
    rw [Function.update_of_ne different] at isInside
    exact isInside
  unfold threadStep at stepped
  cases here : state.threads worker with
  | absent | finished _ =>
      rw [here] at stepped
      cases stepped
  | lockFailed _ _ | unlockFailed _ _ =>
      rw [here] at stepped
      cases stepped
      exact holds.ended _
  | testing j =>
      rw [here] at stepped ok
      cases stepped
      by_cases more : j < state.loops
      · rw [if_pos more]
        exact holds.moved_alone here trivial Phase.noConfusion Iff.rfl rfl rfl more
      · rw [if_neg more]
        exact holds.moved_alone here trivial Phase.noConfusion Iff.rfl rfl rfl
          (le_antisymm ok (not_lt.mp more))
  | locking j =>
      rw [here] at stepped ok
      cases outcome with
      | fails errno =>
          cases stepped
          exact holds.moved_alone here trivial Phase.noConfusion Iff.rfl rfl rfl ok
      | succeeds =>
          rcases Option.map_eq_some_iff.mp stepped with ⟨lock, acquired, moved⟩
          cases moved
          refine holds.moved here trivial Phase.noConfusion state.glob lock state.sections ?_ ?_ rfl ok
            (Or.inl rfl)
          · intro guards
            refine (guards.acquire acquired ?_ others).2
            rw [Function.update_self]
            trivial
          · change state.glob = toInt (state.sections + (total Phase.stored state.threads - 0 + 0))
            rw [sub_zero, add_zero]
            exact holds.glob
  | reading j =>
      rw [here] at stepped ok
      cases stepped
      exact holds.moved_alone here trivial Phase.noConfusion Iff.rfl rfl rfl ⟨ok, rfl⟩
  | incrementing j loc =>
      rw [here] at stepped ok
      cases stepped
      rcases ok with ⟨within, copied⟩
      refine holds.moved_alone here trivial Phase.noConfusion Iff.rfl rfl rfl ⟨within, ?_⟩
      rw [copied]
  | writing j loc =>
      rw [here] at stepped ok
      cases stepped
      rcases ok with ⟨within, incremented⟩
      have isInside : (state.threads worker).Inside := by
        rw [here]
        trivial
      refine holds.moved here trivial Phase.noConfusion loc state.lock state.sections ?_ ?_ rfl within ?_
      · exact guards_same (iff_of_true trivial isInside)
      · change loc = toInt (state.sections + (total Phase.stored state.threads - 0 + 1))
        rw [incremented, holds.glob, toInt_toInt_add, sub_zero, add_assoc]
      · exact Or.inr (fun other different otherInside => different (holds.alone otherInside isInside))
  | unlocking j =>
      rw [here] at stepped ok
      cases outcome with
      | fails errno =>
          cases stepped
          exact holds.moved_alone here trivial Phase.noConfusion Iff.rfl rfl rfl ok
      | succeeds =>
          rcases Option.map_eq_some_iff.mp stepped with ⟨lock, released, moved⟩
          cases moved
          have isInside : (state.threads worker).Inside := by
            rw [here]
            trivial
          refine holds.moved here trivial Phase.noConfusion state.glob lock (state.sections + 1) ?_ ?_ ?_
            ok (Or.inl rfl)
          · intro guards
            refine (guards.release isInside released ?_ others).2
            rw [Function.update_self]
            exact id
          · change state.glob = toInt (((state.sections + 1 : Nat) : Int) +
              (total Phase.stored state.threads - 1 + 0))
            rw [holds.glob]
            congr 1
            push_cast
            ring
          · change ((state.sections + 1 : Nat) : Int) - (j + 1) = state.sections - j
            push_cast
            ring

/-- The number of passages that `main` accepts is not negative. -/
theorem numLoops_nonneg {setup : Setup} {loops : Int} (accepted : numLoops setup = .ok loops) :
    0 ≤ loops := by
  unfold numLoops at accepted
  split at accepted
  · cases accepted
    decide
  · exact le_of_lt ((getInt_ok accepted).2.2 (by decide))

theorem Invariant.goes {program : Program Lock} {state : State Lock}
    (holds : Invariant program state) {main : MainPc}
    (setting : Setting program { state with main := main }) :
    Invariant program { state with main := main } :=
  ⟨holds.guards, holds.glob, holds.sections, holds.phases, holds.loops, holds.joined, setting⟩

theorem Invariant.after {program : Program Lock} {state next : State Lock}
    (holds : Invariant program state) (nextHolds : Invariant program next) (outcome : Outcome)
    (call : String) : Invariant program (state.after next outcome call) := by
  cases outcome with
  | succeeds => exact nextHolds
  | fails errno => exact holds.goes trivial

/-- A call of `main` that some programs make. -/
theorem Invariant.afterOptional {program : Program Lock} {state next skipped : State Lock}
    {call : Option String} (holds : Invariant program state) (outcome : Outcome)
    (called : call.isSome = true -> Invariant program next)
    (notCalled : call = none -> Invariant program skipped) :
    Invariant program (state.afterOptional next outcome call skipped) := by
  cases call with
  | none => exact notCalled rfl
  | some call => exact holds.after (called rfl) outcome call

/-- Before the threads exist, the lock may be set to anything. -/
theorem Invariant.prepared {program : Program Lock} {state : State Lock}
    (holds : Invariant program state) (absent : forall worker, state.threads worker = .absent)
    {main : MainPc} {loops : Int} {lock : Lock} (nonneg : 0 ≤ loops)
    (setting : Setting program { state with main := main, loops := loops, lock := lock }) :
    Invariant program { state with main := main, loops := loops, lock := lock } where
  guards := Or.inl absent
  glob := holds.glob
  sections := holds.sections
  phases := by
    intro worker
    change (state.threads worker).Ok state.glob loops
    rw [absent worker]
    trivial
  loops := nonneg
  joined := holds.joined
  setting := setting

/-- A thread that is created has yet to make its first test. -/
theorem Invariant.created {program : Program Lock} {state : State Lock}
    (holds : Invariant program state) {worker : Worker} (absent : state.threads worker = .absent)
    {main : MainPc}
    (guards : program.lock.Guards state.lock
      (fun party => (Function.update state.threads worker (.testing 0) party).Inside))
    (setting : Setting program ({ state with main := main }.moveThread worker (.testing 0))) :
    Invariant program ({ state with main := main }.moveThread worker (.testing 0)) := by
  constructor
  case guards => exact Or.inr guards
  case glob =>
    change state.glob =
      toInt (state.sections + total Phase.stored (Function.update state.threads worker (.testing 0)))
    rw [total_update, absent]
    change state.glob = toInt (state.sections + (total Phase.stored state.threads - 0 + 0))
    rw [sub_zero, add_zero]
    exact holds.glob
  case sections =>
    change (state.sections : Int) =
      total Phase.completed (Function.update state.threads worker (.testing 0))
    rw [total_update, absent]
    change (state.sections : Int) = total Phase.completed state.threads - 0 + 0
    rw [sub_zero, add_zero]
    exact holds.sections
  case phases =>
    intro party
    change (Function.update state.threads worker (.testing 0) party).Ok state.glob state.loops
    by_cases equal : party = worker
    · rw [equal, Function.update_self]
      exact holds.loops
    · rw [Function.update_of_ne equal]
      exact holds.phases party
  case loops => exact holds.loops
  case joined =>
    intro party
    apply holds.joined_update
    intro j finished
    rw [absent] at finished
    cases finished
  case setting => exact setting

/-- The first thread is created, and the lock is free. -/
theorem Invariant.createsFirst {program : Program Lock} {state : State Lock}
    (holds : Invariant program state) (absent : forall worker, state.threads worker = .absent)
    (initialised : state.lock = program.lock.initial) :
    Invariant program ({ state with main := .creating .t2 }.moveThread .t1 (.testing 0)) := by
  have untouched : forall party, party ≠ Worker.t1 ->
      Function.update state.threads .t1 (.testing 0) party = .absent := by
    intro party different
    rw [Function.update_of_ne different]
    exact absent party
  apply holds.created (absent .t1)
  · rw [initialised]
    apply ExclusiveLock.Guards.initial
    intro party isInside
    by_cases equal : party = .t1
    · rw [equal, Function.update_self] at isInside
      exact isInside
    · rw [untouched party equal] at isInside
      exact isInside
  · constructor
    · change Function.update state.threads .t1 (.testing 0) .t1 ≠ .absent
      rw [Function.update_self]
      exact Phase.noConfusion
    · exact untouched .t2 Worker.noConfusion

/-- The second thread is created beside the first. -/
theorem Invariant.createsSecond {program : Program Lock} {state : State Lock}
    (holds : Invariant program state) (present : state.threads .t1 ≠ .absent)
    (absent : state.threads .t2 = .absent) :
    Invariant program ({ state with main := .joining .t1 }.moveThread .t2 (.testing 0)) := by
  refine holds.created absent ?_ trivial
  apply guards_same
  · rw [absent]
    exact Iff.rfl
  · rcases holds.guards with allAbsent | guards
    · exact absurd (allAbsent .t1) present
    · exact guards

theorem Invariant.join {program : Program Lock} {state : State Lock}
    (holds : Invariant program state) {worker : Worker} {j : Int}
    (finished : state.threads worker = .finished j) {main : MainPc}
    (setting : Setting program { state with main := main }) :
    Invariant program
      { state with main := main, joined := Function.update state.joined worker true } where
  guards := holds.guards
  glob := holds.glob
  sections := holds.sections
  phases := holds.phases
  loops := holds.loops
  joined := by
    intro party isJoined
    by_cases equal : party = worker
    · rw [equal]
      exact ⟨j, finished⟩
    · change Function.update state.joined worker true party = true at isJoined
      rw [Function.update_of_ne equal] at isJoined
      exact holds.joined party isJoined
  setting := setting

theorem mainStep_preserves {program : Program Lock} {setup : Setup} {state next : State Lock}
    {outcome : Outcome} (holds : Invariant program state)
    (stepped : mainStep program setup state outcome = some next) : Invariant program next := by
  have setting := holds.setting
  unfold Setting at setting
  unfold mainStep at stepped
  cases position : state.main with
  | initialisingEarly =>
      rw [position] at stepped setting
      cases stepped
      rcases setting with ⟨absent, unset⟩
      apply holds.afterOptional
      · intro called
        exact holds.prepared absent holds.loops ⟨absent, (if_pos called).symm⟩
      · intro skipped
        refine holds.goes ⟨absent, ?_⟩
        rw [skipped]
        exact unset
  | parsing =>
      rw [position] at stepped setting
      rcases setting with ⟨absent, lock⟩
      simp only at stepped
      split at stepped
      · cases stepped
        rw [← position]
        exact holds.ended _
      · rename_i loops accepted
        cases stepped
        exact holds.prepared absent (numLoops_nonneg accepted) ⟨absent, lock⟩
  | initialisingLate =>
      rw [position] at stepped setting
      cases stepped
      rcases setting with ⟨absent, lock⟩
      apply holds.afterOptional
      · intro _
        exact holds.prepared absent holds.loops ⟨absent, rfl⟩
      · intro skipped
        refine holds.goes ⟨absent, ?_⟩
        change state.lock = program.lock.initial
        rw [lock]
        split
        · rfl
        · rename_i notEarly
          rcases program.initialised with early | late | same
          · exact absurd early notEarly
          · rw [skipped] at late
            cases late
          · exact same
  | creating worker =>
      rw [position] at stepped setting
      cases stepped
      apply holds.after
      cases worker with
      | t1 => exact holds.createsFirst setting.1 setting.2
      | t2 => exact holds.createsSecond setting.1 setting.2
  | joining worker =>
      rw [position] at stepped
      simp only at stepped
      split at stepped
      · rename_i j finished
        cases stepped
        apply holds.after
        cases worker <;> exact holds.join finished trivial
      · cases stepped
  | printing =>
      rw [position] at stepped setting
      cases stepped
      exact ⟨holds.guards, holds.glob, holds.sections, holds.phases, holds.loops, holds.joined, trivial⟩
  | destroying =>
      rw [position] at stepped setting
      cases stepped
      exact holds.afterOptional _ (fun _ => holds.goes trivial) (fun _ => holds.goes trivial)
  | exiting =>
      rw [position] at stepped setting
      cases stepped
      rw [← position]
      exact holds.ended _
  | failing errno call =>
      rw [position] at stepped setting
      cases stepped
      rw [← position]
      exact holds.ended _

/-!
## The counter
-/

theorem start_invariant (program : Program Lock) : Invariant program (start program) where
  guards := Or.inl (fun _ => rfl)
  glob := by
    change (0 : Int) = toInt 0
    decide
  sections := rfl
  phases := fun _ => trivial
  loops := le_refl 0
  joined := fun _ isJoined => by cases isJoined
  setting := ⟨fun _ => rfl, rfl⟩

theorem invariant_of_reachable {program : Program Lock} {setup : Setup} {state : State Lock}
    (reachable : (machine program setup).Reachable state) : Invariant program state := by
  apply Machine.Reachable.invariant _ _ reachable
  · intro state initial
    cases initial
    exact start_invariant program
  · intro state action next holds stepped
    change step program setup state action = some next at stepped
    unfold step at stepped
    split at stepped
    · split at stepped
      · exact mainStep_preserves holds stepped
      · exact threadStep_preserves holds stepped
    · cases stepped

/-- What the counter is worth: one thread at a time is inside, the variable is the number
of completed passages whenever nobody is, and twice the argument after both joins. -/
structure Exact (state : State Lock) : Prop where
  exclusive : forall first second, (state.threads first).Inside -> (state.threads second).Inside ->
    first = second
  counted : (forall worker, ¬ (state.threads worker).Inside) -> state.glob = toInt state.sections
  final : state.joined .t1 = true -> state.joined .t2 = true -> state.glob = toInt (2 * state.loops)

/-- Whoever is outside has nothing stored beyond its completed passages. -/
theorem stored_of_outside {phase : Phase} (outside : ¬ phase.Inside) : phase.stored = 0 := by
  cases phase with
  | unlocking _ | unlockFailed _ _ => exact absurd trivial outside
  | _ => rfl

theorem Invariant.exact {program : Program Lock} {state : State Lock}
    (holds : Invariant program state) : Exact state := by
  have counted : (forall worker, ¬ (state.threads worker).Inside) -> state.glob = toInt state.sections := by
    intro outside
    rw [holds.glob]
    unfold total
    rw [stored_of_outside (outside .t1), stored_of_outside (outside .t2), add_zero, add_zero]
  refine ⟨fun first second => holds.alone, counted, ?_⟩
  intro firstJoined secondJoined
  rcases holds.joined .t1 firstJoined with ⟨firstCount, firstFinished⟩
  rcases holds.joined .t2 secondJoined with ⟨secondCount, secondFinished⟩
  have firstAll : firstCount = state.loops := by
    have ok := holds.phases .t1
    rw [firstFinished] at ok
    exact ok
  have secondAll : secondCount = state.loops := by
    have ok := holds.phases .t2
    rw [secondFinished] at ok
    exact ok
  have passages : (state.sections : Int) = 2 * state.loops := by
    rw [holds.sections]
    unfold total
    rw [firstFinished, secondFinished, firstAll, secondAll]
    exact (two_mul state.loops).symm
  rw [← passages]
  apply counted
  intro worker
  cases worker with
  | t1 =>
      rw [firstFinished]
      exact id
  | t2 =>
      rw [secondFinished]
      exact id

/-- No increment is lost, in any of the three programs. -/
theorem increments_exact (setup : Setup) :
    (forall state, (machine thread_incr_mutex setup).Reachable state -> Exact state) ∧
      (forall state, (machine thread_incr_psem setup).Reachable state -> Exact state) ∧
        (forall state, (machine thread_incr_spinlock setup).Reachable state -> Exact state) :=
  ⟨fun _ reachable => (invariant_of_reachable reachable).exact,
    fun _ reachable => (invariant_of_reachable reachable).exact,
    fun _ reachable => (invariant_of_reachable reachable).exact⟩

/-- Two threads with one passage each; the second comes to the lock while the first is
inside. -/
def onceEach : List (Party × Outcome) :=
  [.main, .main, .main, .main, .main, .worker .t1, .worker .t1, .worker .t1, .worker .t2,
    .worker .t1, .worker .t1, .worker .t1, .worker .t2, .worker .t2, .worker .t2, .worker .t2,
    .worker .t2, .worker .t1, .worker .t2, .main, .main, .main].map (fun party => (party, .succeeds))

def onceSetup : Setup where
  dumpcore := none
  argument := some [49]

def mutexFinal : State (Option Worker) :=
  ((machine thread_incr_mutex onceSetup).exec (start thread_incr_mutex) onceEach).get
    (by decide +kernel)

def psemFinal : State Nat :=
  ((machine thread_incr_psem onceSetup).exec (start thread_incr_psem) onceEach).get
    (by decide +kernel)

def spinlockFinal : State Bool :=
  ((machine thread_incr_spinlock onceSetup).exec (start thread_incr_spinlock) onceEach).get
    (by decide +kernel)

theorem onceEach_exact : Exact mutexFinal ∧ Exact psemFinal ∧ Exact spinlockFinal ∧
    mutexFinal.printed = [2] ∧ psemFinal.printed = [2] ∧ spinlockFinal.printed = [2] :=
  ⟨(increments_exact onceSetup).1 _ (Machine.reachable_of_exec rfl (Option.some_get _).symm),
    (increments_exact onceSetup).2.1 _ (Machine.reachable_of_exec rfl (Option.some_get _).symm),
    (increments_exact onceSetup).2.2 _ (Machine.reachable_of_exec rfl (Option.some_get _).symm),
    by decide +kernel, by decide +kernel, by decide +kernel⟩

end ThreadIncr
end ThreadSync
end Tlpi
