import Tlpi.ThreadSync.ThreadIncr

namespace Tlpi
namespace ThreadSync
namespace ThreadIncrRace

open CLibrary Foundations Lib
open ThreadIncr (Worker Setup Status Party Outcome numLoops)

/-!
# Two threads that count without a lock

`thread_incr.c` is the counter of the locked programs with nothing around the three
statements `loc = glob; loc++; glob = loc`.  Each statement is one step here, so one
thread may store a value that it read before any number of passages of the other.

The program is there to show that increments are lost.  How many can be lost is settled
below: with `n` passages in each thread the program prints some value between
`min n 2` and `2 * n`, and it prints each of them under some schedule.  One passage of
one thread can undo all but one of the other thread's, and the last store of the other
can then undo everything since.
-/

/-- The positions of `threadFunc`, each named after what it does next, with the values
of `j` and `loc`; `absent` before the thread is created. -/
inductive Phase where
  | absent
  | testing (j : Int)
  | reading (j : Int)
  | incrementing (j loc : Int)
  | writing (j loc : Int)
  | finished (j : Int)
deriving DecidableEq, Repr

inductive MainPc where
  | parsing
  | creating (worker : Worker)
  | joining (worker : Worker)
  | printing
  | exiting
  | failing (errno : Errno) (call : String)
deriving DecidableEq, Repr

/-- The process. -/
structure State where
  main : MainPc
  loops : Int
  glob : Int
  threads : Worker -> Phase
  printed : List Int
  status : Status

/-- Go on after a call of `main`, or turn to reporting its failure. -/
def State.after (state next : State) (outcome : Outcome) (call : String) : State :=
  match outcome with
  | .succeeds => next
  | .fails errno => { state with main := .failing errno call }

def State.moveThread (state : State) (worker : Worker) (phase : Phase) : State :=
  { state with threads := Function.update state.threads worker phase }

def mainStep (setup : Setup) (state : State) (outcome : Outcome) : Option State :=
  match state.main with
  | .parsing =>
      match numLoops setup with
      | .error diagnostic => some { state with status := .rejected diagnostic }
      | .ok loops => some { state with main := .creating .t1, loops := loops }
  | .creating worker =>
      let following := match worker with
        | .t1 => MainPc.creating .t2
        | .t2 => MainPc.joining .t1
      some (state.after ({ state with main := following }.moveThread worker (.testing 0))
        outcome "pthread_create")
  | .joining worker =>
      match state.threads worker with
      | .finished _ =>
          let following := match worker with
            | .t1 => MainPc.joining .t2
            | .t2 => MainPc.printing
          some (state.after { state with main := following } outcome "pthread_join")
      | _ => none
  | .printing => some { state with main := .exiting, printed := state.printed ++ [state.glob] }
  | .exiting => some { state with status := .exited }
  | .failing errno call => some { state with status := .failed (errExit setup.dumpcore errno call) }

def threadStep (state : State) (worker : Worker) : Option State :=
  match state.threads worker with
  | .absent => none
  | .testing j =>
      some (state.moveThread worker (if j < state.loops then .reading j else .finished j))
  | .reading j => some (state.moveThread worker (.incrementing j state.glob))
  | .incrementing j loc => some (state.moveThread worker (.writing j (toInt (loc + 1))))
  | .writing j loc => some ({ state with glob := loc }.moveThread worker (.testing (j + 1)))
  | .finished _ => none

def step (setup : Setup) (state : State) (action : Party × Outcome) : Option State :=
  if state.status = .running then
    match action.1 with
    | .main => mainStep setup state action.2
    | .worker worker => threadStep state worker
  else none

def start : State where
  main := .parsing
  loops := 0
  glob := 0
  threads := fun _ => .absent
  printed := []
  status := .running

def machine (setup : Setup) : Machine State (Party × Outcome) where
  Initial state := state = start
  step := step setup

/-!
## What is printed lies within the bounds
-/

def Phase.completed : Phase -> Int
  | .absent => 0
  | .testing j | .reading j | .incrementing j _ | .writing j _ | .finished j => j

/-- What holds of the local variables at each position, after `stores` stores of both
threads together.  From its second passage on, a thread has read what a store left. -/
def Phase.Ok (loops stores : Int) : Phase -> Prop
  | .absent => True
  | .testing j => 0 ≤ j ∧ j ≤ loops
  | .reading j => 0 ≤ j ∧ j < loops
  | .incrementing j loc => 0 ≤ j ∧ j < loops ∧ 0 ≤ loc ∧ loc ≤ stores ∧ (1 ≤ j -> 1 ≤ loc)
  | .writing j loc => 0 ≤ j ∧ j < loops ∧ 1 ≤ loc ∧ loc ≤ stores + 1 ∧ (1 ≤ j -> 2 ≤ loc)
  | .finished j => j = loops

/-- The stores of both threads. -/
def stores (threads : Worker -> Phase) : Int :=
  (threads .t1).completed + (threads .t2).completed

theorem stores_update (threads : Worker -> Phase) (worker : Worker) (phase : Phase) :
    stores (Function.update threads worker phase) =
      stores threads + (phase.completed - (threads worker).completed) := by
  unfold stores
  cases worker with
  | t1 =>
      have other : Function.update threads .t1 phase .t2 = threads .t2 :=
        Function.update_of_ne Worker.noConfusion _ _
      rw [Function.update_self, other]
      ring
  | t2 =>
      have other : Function.update threads .t2 phase .t1 = threads .t1 :=
        Function.update_of_ne Worker.noConfusion _ _
      rw [Function.update_self, other]
      ring

/-- A thread that waits is not affected by the stores of the other. -/
theorem Phase.Ok.mono {phase : Phase} {loops fewer more : Int} (ok : phase.Ok loops fewer)
    (grows : fewer ≤ more) : phase.Ok loops more := by
  cases phase with
  | absent | testing _ | reading _ | finished _ => exact ok
  | incrementing j loc =>
      rcases ok with ⟨nonneg, within, low, high, second⟩
      exact ⟨nonneg, within, low, le_trans high grows, second⟩
  | writing j loc =>
      rcases ok with ⟨nonneg, within, low, high, second⟩
      exact ⟨nonneg, within, low, by omega, second⟩

theorem Phase.Ok.completed {phase : Phase} {loops stores : Int} (ok : phase.Ok loops stores)
    (nonneg : 0 ≤ loops) : 0 ≤ phase.completed ∧ phase.completed ≤ loops := by
  cases phase with
  | absent => exact ⟨le_refl 0, nonneg⟩
  | testing _ => exact ok
  | reading _ => exact ⟨ok.1, le_of_lt ok.2⟩
  | incrementing _ _ | writing _ _ => exact ⟨ok.1, le_of_lt ok.2.1⟩
  | finished j =>
      cases ok
      exact ⟨nonneg, le_refl _⟩

/-- What the variable can hold while the threads are where they are. -/
structure Credible (threads : Worker -> Phase) (glob : Int) : Prop where
  nonneg : 0 ≤ glob
  atMost : glob ≤ stores threads
  once : 1 ≤ stores threads -> 1 ≤ glob
  twice : (forall worker, 2 ≤ (threads worker).completed) -> 2 ≤ glob

/-- What is known while `main` is at a position. -/
def Setting (state : State) : Prop :=
  match state.main with
  | .parsing | .creating .t1 => forall worker, state.threads worker = .absent
  | .creating .t2 => state.threads .t2 = .absent
  | .joining .t2 => Exists fun j => state.threads .t1 = .finished j
  | .printing => forall worker, Exists fun j => state.threads worker = .finished j
  | _ => True

structure Invariant (loops : Int) (state : State) : Prop where
  parsed : state.main = .parsing ∨ state.loops = loops
  phases : forall worker, (state.threads worker).Ok loops (stores state.threads)
  glob : Credible state.threads state.glob
  setting : Setting state
  printed : forall value, value ∈ state.printed -> min loops 2 ≤ value ∧ value ≤ 2 * loops

/-- A thread that moves is neither missing nor at the end of its loop. -/
def Phase.Runs : Phase -> Prop
  | .absent | .finished _ => False
  | _ => True

/-- What `main` knows stays true when a thread moves. -/
theorem Setting.moved {state next : State} (setting : Setting state) {worker : Worker}
    {phase : Phase} (runs : (state.threads worker).Runs) (sameMain : next.main = state.main)
    (threads : next.threads = Function.update state.threads worker phase) : Setting next := by
  have unfinished : forall j, state.threads worker ≠ .finished j := by
    intro j finished
    rw [finished] at runs
    exact runs
  have present : state.threads worker ≠ .absent := by
    intro absent
    rw [absent] at runs
    exact runs
  have others : forall party : Worker, (state.threads party = .absent ∨
      Exists fun j => state.threads party = .finished j) -> next.threads party = state.threads party := by
    intro party settled
    rw [threads]
    apply Function.update_of_ne
    intro equal
    rw [equal] at settled
    rcases settled with absent | ⟨j, finished⟩
    · exact present absent
    · exact unfinished j finished
  unfold Setting at setting ⊢
  rw [sameMain]
  cases position : state.main with
  | parsing =>
      rw [position] at setting
      exact absurd (setting worker) present
  | creating created =>
      rw [position] at setting
      cases created with
      | t1 => exact absurd (setting worker) present
      | t2 => exact (others .t2 (Or.inl setting)).trans setting
  | joining joined =>
      rw [position] at setting
      cases joined with
      | t1 => trivial
      | t2 =>
          rcases setting with ⟨j, finished⟩
          exact ⟨j, (others .t1 (Or.inr ⟨j, finished⟩)).trans finished⟩
  | printing =>
      rw [position] at setting
      rcases setting worker with ⟨j, finished⟩
      exact absurd finished (unfinished j)
  | exiting | failing _ _ => trivial

/-- A thread moves to another position, and with it the variable. -/
theorem Invariant.moved {loops : Int} {state : State} (holds : Invariant loops state)
    {worker : Worker} {phase : Phase} (runs : (state.threads worker).Runs)
    (grows : (state.threads worker).completed ≤ phase.completed) {glob : Int}
    (ok : phase.Ok loops
      (stores state.threads + (phase.completed - (state.threads worker).completed)))
    (credible : Credible (Function.update state.threads worker phase) glob) :
    Invariant loops ({ state with glob := glob }.moveThread worker phase) := by
  constructor
  case parsed => exact holds.parsed
  case phases =>
    intro party
    change (Function.update state.threads worker phase party).Ok loops
      (stores (Function.update state.threads worker phase))
    rw [stores_update]
    by_cases equal : party = worker
    · rw [equal, Function.update_self]
      exact ok
    · rw [Function.update_of_ne equal]
      exact (holds.phases party).mono (by omega)
  case glob => exact credible
  case setting => exact holds.setting.moved runs rfl rfl
  case printed => exact holds.printed

/-- A move that stores nothing leaves the variable credible. -/
theorem Credible.kept {threads : Worker -> Phase} {glob : Int} (credible : Credible threads glob)
    {worker : Worker} {phase : Phase} (same : phase.completed = (threads worker).completed) :
    Credible (Function.update threads worker phase) glob := by
  have sameStores : stores (Function.update threads worker phase) = stores threads := by
    rw [stores_update, same, sub_self, add_zero]
  have sameCompleted : forall party,
      (Function.update threads worker phase party).completed = (threads party).completed := by
    intro party
    by_cases equal : party = worker
    · rw [equal, Function.update_self]
      exact same
    · rw [Function.update_of_ne equal]
  constructor
  case nonneg => exact credible.nonneg
  case atMost =>
    rw [sameStores]
    exact credible.atMost
  case once =>
    rw [sameStores]
    exact credible.once
  case twice =>
    intro both
    apply credible.twice
    intro party
    rw [← sameCompleted party]
    exact both party

/-- What a store leaves in the variable. -/
theorem Credible.stored {threads : Worker -> Phase} {worker : Worker} {j loc : Int}
    (here : threads worker = .writing j loc) {loops : Int}
    (ok : (Phase.writing j loc).Ok loops (stores threads)) :
    Credible (Function.update threads worker (.testing (j + 1))) loc := by
  rcases ok with ⟨nonneg, _, low, high, second⟩
  have counted : stores (Function.update threads worker (.testing (j + 1))) = stores threads + 1 := by
    rw [stores_update, here]
    change stores threads + (j + 1 - j) = stores threads + 1
    ring
  constructor
  case nonneg => exact le_trans zero_le_one low
  case atMost =>
    rw [counted]
    exact high
  case once => exact fun _ => low
  case twice =>
    intro both
    have mine := both worker
    rw [Function.update_self] at mine
    change 2 ≤ j + 1 at mine
    apply second
    omega

/-- A move within a passage. -/
theorem Invariant.moved_alone {loops : Int} {state : State} (holds : Invariant loops state)
    {worker : Worker} {phase : Phase} (runs : (state.threads worker).Runs)
    (same : phase.completed = (state.threads worker).completed)
    (ok : phase.Ok loops (stores state.threads)) :
    Invariant loops (state.moveThread worker phase) := by
  apply holds.moved runs (le_of_eq same.symm)
  · rw [same, sub_self, add_zero]
    exact ok
  · exact holds.glob.kept same

/-- Before a thread has ended its loop, fewer than `2 * loops` stores have been made. -/
theorem Invariant.stores_lt {loops : Int} {state : State} (holds : Invariant loops state)
    (nonneg : 0 ≤ loops) (worker : Worker) (within : (state.threads worker).completed < loops) :
    stores state.threads < 2 * loops := by
  have first := ((holds.phases .t1).completed nonneg).2
  have second := ((holds.phases .t2).completed nonneg).2
  unfold stores
  cases worker <;> omega

theorem threadStep_preserves {loops : Int} {state next : State} {worker : Worker}
    (nonneg : 0 ≤ loops) (fits : 2 * loops ≤ INT_MAX) (holds : Invariant loops state)
    (stepped : threadStep state worker = some next) : Invariant loops next := by
  have ok := holds.phases worker
  unfold threadStep at stepped
  cases here : state.threads worker with
  | absent | finished _ =>
      rw [here] at stepped
      cases stepped
  | testing j =>
      have known : state.loops = loops := by
        rcases holds.parsed with parsing | known
        · have setting := holds.setting
          unfold Setting at setting
          rw [parsing] at setting
          rw [setting worker] at here
          cases here
        · exact known
      rw [here] at stepped ok
      cases stepped
      have runs : (state.threads worker).Runs := by
        rw [here]
        trivial
      by_cases more : j < state.loops
      · rw [if_pos more]
        apply holds.moved_alone runs
        · rw [here]
          rfl
        · exact ⟨ok.1, known ▸ more⟩
      · rw [if_neg more]
        apply holds.moved_alone runs
        · rw [here]
          rfl
        · rw [known] at more
          exact le_antisymm ok.2 (not_lt.mp more)
  | reading j =>
      rw [here] at stepped ok
      cases stepped
      apply holds.moved_alone
      · rw [here]
        trivial
      · rw [here]
        rfl
      · refine ⟨ok.1, ok.2, holds.glob.nonneg, holds.glob.atMost, ?_⟩
        intro later
        apply holds.glob.once
        have mine : (state.threads worker).completed = j := by
          rw [here]
          rfl
        have first := ((holds.phases .t1).completed nonneg).1
        have second := ((holds.phases .t2).completed nonneg).1
        unfold stores
        cases worker <;> omega
  | incrementing j loc =>
      have bounded := holds.stores_lt nonneg worker
      rw [here] at stepped ok bounded
      cases stepped
      rcases ok with ⟨low, within, locLow, locHigh, later⟩
      have few := bounded within
      have exactly : toInt (loc + 1) = loc + 1 := by
        apply toInt_of_range
        · unfold INT_MIN
          omega
        · omega
      apply holds.moved_alone
      · rw [here]
        trivial
      · rw [here]
        rfl
      · rw [exactly]
        refine ⟨low, within, by omega, by omega, ?_⟩
        intro second
        have read := later second
        omega
  | writing j loc =>
      have runs : (state.threads worker).Runs := by
        rw [here]
        trivial
      have writes : (Phase.writing j loc).Ok loops (stores state.threads) := here ▸ ok
      have stored : Credible _ loc := Credible.stored here writes
      rw [here] at stepped ok
      cases stepped
      apply holds.moved runs
      · rw [here]
        change j ≤ j + 1
        omega
      · exact ⟨by have := ok.1; omega, ok.2.1⟩
      · exact stored

theorem Invariant.goes {loops : Int} {state : State} (holds : Invariant loops state) {main : MainPc}
    (known : state.loops = loops) (setting : Setting { state with main := main }) :
    Invariant loops { state with main := main } :=
  ⟨Or.inr known, holds.phases, holds.glob, setting, holds.printed⟩

theorem Invariant.after {loops : Int} {state next : State} (holds : Invariant loops state)
    (known : state.loops = loops) (nextHolds : Invariant loops next) (outcome : Outcome)
    (call : String) : Invariant loops (state.after next outcome call) := by
  cases outcome with
  | succeeds => exact nextHolds
  | fails errno => exact holds.goes known trivial

/-- A thread that is created has yet to make its first test. -/
theorem Invariant.created {loops : Int} {state : State} (holds : Invariant loops state)
    (nonneg : 0 ≤ loops) (known : state.loops = loops) {worker : Worker}
    (absent : state.threads worker = .absent) {main : MainPc}
    (setting : Setting ({ state with main := main }.moveThread worker (.testing 0))) :
    Invariant loops ({ state with main := main }.moveThread worker (.testing 0)) := by
  have same : (Phase.testing 0).completed = (state.threads worker).completed := by
    rw [absent]
    rfl
  constructor
  case parsed => exact Or.inr known
  case phases =>
    intro party
    change (Function.update state.threads worker (.testing 0) party).Ok loops
      (stores (Function.update state.threads worker (.testing 0)))
    rw [stores_update, same, sub_self, add_zero]
    by_cases equal : party = worker
    · rw [equal, Function.update_self]
      exact ⟨le_refl 0, nonneg⟩
    · rw [Function.update_of_ne equal]
      exact holds.phases party
  case glob => exact holds.glob.kept same
  case setting => exact setting
  case printed => exact holds.printed

/-- When both threads have finished, the variable lies within the bounds. -/
theorem Invariant.bounds {loops : Int} {state : State} (holds : Invariant loops state)
    (finished : forall worker, Exists fun j => state.threads worker = .finished j) :
    min loops 2 ≤ state.glob ∧ state.glob ≤ 2 * loops := by
  have all : forall worker, (state.threads worker).completed = loops := by
    intro worker
    rcases finished worker with ⟨j, here⟩
    have ok := holds.phases worker
    rw [here] at ok ⊢
    exact ok
  have counted : stores state.threads = 2 * loops := by
    unfold stores
    rw [all .t1, all .t2]
    ring
  have nonneg := holds.glob.nonneg
  have once := holds.glob.once
  have atMost := holds.glob.atMost
  rw [counted] at once atMost
  refine ⟨?_, atMost⟩
  by_cases many : 2 ≤ loops
  · have twice := holds.glob.twice (fun worker => by rw [all worker]; exact many)
    exact le_trans (min_le_right _ _) twice
  · apply le_trans (min_le_left _ _)
    by_cases some : 1 ≤ loops
    · have positive := once (by omega)
      omega
    · omega

theorem mainStep_preserves {setup : Setup} {loops : Int} {state next : State} {outcome : Outcome}
    (accepted : numLoops setup = .ok loops) (holds : Invariant loops state)
    (stepped : mainStep setup state outcome = some next) : Invariant loops next := by
  have nonneg := ThreadIncr.numLoops_nonneg accepted
  have setting := holds.setting
  have known := holds.parsed
  unfold Setting at setting
  unfold mainStep at stepped
  cases position : state.main with
  | parsing =>
      rw [position] at stepped setting
      rw [accepted] at stepped
      cases stepped
      exact ⟨Or.inr rfl, holds.phases, holds.glob, setting, holds.printed⟩
  | creating worker =>
      rw [position] at stepped setting known
      have settled := known.resolve_left MainPc.noConfusion
      cases stepped
      apply holds.after settled
      cases worker with
      | t1 =>
          apply holds.created nonneg settled (setting .t1)
          have other : Function.update state.threads .t1 (.testing 0) .t2 = state.threads .t2 :=
            Function.update_of_ne Worker.noConfusion _ _
          exact other.trans (setting .t2)
      | t2 => exact holds.created nonneg settled setting trivial
  | joining worker =>
      rw [position] at stepped setting known
      have settled := known.resolve_left MainPc.noConfusion
      simp only at stepped
      cases here : state.threads worker with
      | absent | testing _ | reading _ | incrementing _ _ | writing _ _ =>
          rw [here] at stepped
          cases stepped
      | finished j =>
          rw [here] at stepped
          cases stepped
          apply holds.after settled
          apply holds.goes settled
          cases worker with
          | t1 => exact ⟨j, here⟩
          | t2 =>
              intro party
              cases party with
              | t1 => exact setting
              | t2 => exact ⟨j, here⟩
  | printing =>
      rw [position] at stepped setting known
      have settled := known.resolve_left MainPc.noConfusion
      cases stepped
      refine ⟨Or.inr settled, holds.phases, holds.glob, trivial, ?_⟩
      intro value member
      rcases List.mem_append.mp member with earlier | now
      · exact holds.printed value earlier
      · rw [List.mem_singleton.mp now]
        exact holds.bounds setting
  | exiting | failing _ _ =>
      rw [position] at stepped known
      have settled := known.resolve_left MainPc.noConfusion
      cases stepped
      exact ⟨Or.inr settled, holds.phases, holds.glob, trivial, holds.printed⟩

theorem step_preserves {setup : Setup} {loops : Int} (accepted : numLoops setup = .ok loops)
    (fits : 2 * loops ≤ INT_MAX) {state next : State} {action : Party × Outcome}
    (holds : Invariant loops state) (stepped : step setup state action = some next) :
    Invariant loops next := by
  unfold step at stepped
  split at stepped
  · split at stepped
    · exact mainStep_preserves accepted holds stepped
    · exact threadStep_preserves (ThreadIncr.numLoops_nonneg accepted) fits holds stepped
  · cases stepped

theorem start_invariant (loops : Int) : Invariant loops start where
  parsed := Or.inl rfl
  phases _ := trivial
  glob := ⟨le_refl 0, le_refl 0, fun impossible => absurd impossible (by decide),
    fun impossible => absurd (impossible .t1) (by decide)⟩
  setting _ := rfl
  printed _ member := absurd member List.not_mem_nil

theorem reachable_invariant {setup : Setup} {loops : Int} (accepted : numLoops setup = .ok loops)
    (fits : 2 * loops ≤ INT_MAX) {state : State} (reachable : (machine setup).Reachable state) :
    Invariant loops state := by
  refine Machine.Reachable.invariant ?_ ?_ reachable
  · intro first initial
    rw [show first = start from initial]
    exact start_invariant loops
  · intro current action next holds stepped
    exact step_preserves accepted fits holds stepped

/-!
## Every value within the bounds is printed
-/

/-- The threads when one is at `mine` and the other at `other`. -/
def place (worker : Worker) (mine other : Phase) : Worker -> Phase :=
  fun party => if party = worker then mine else other

theorem place_self (worker : Worker) (mine other : Phase) : place worker mine other worker = mine :=
  if_pos rfl

theorem update_place (worker : Worker) (mine other moved : Phase) :
    Function.update (place worker mine other) worker moved = place worker moved other := by
  funext party
  by_cases equal : party = worker
  · rw [equal, Function.update_self, place_self]
  · rw [Function.update_of_ne equal]
    exact (if_neg equal).trans (if_neg equal).symm

theorem place_swap (first second : Phase) : place .t1 first second = place .t2 second first := by
  funext party
  cases party <;> rfl

/-- Both threads exist, and `main` waits for the first. -/
def racing (loops glob : Int) (threads : Worker -> Phase) : State where
  main := .joining .t1
  loops := loops
  glob := glob
  threads := threads
  printed := []
  status := .running

/-- A thread may take its next step at any time. -/
theorem reach_step {setup : Setup} {loops glob : Int} {worker : Worker} {mine other : Phase}
    (reachable : (machine setup).Reachable (racing loops glob (place worker mine other)))
    {stored : Int} {moved : Phase}
    (stepped : threadStep (racing loops glob (place worker mine other)) worker =
      some ({ racing loops glob (place worker mine other) with glob := stored }.moveThread worker
        moved)) :
    (machine setup).Reachable (racing loops stored (place worker moved other)) := by
  have taken : (machine setup).step (racing loops glob (place worker mine other))
      (.worker worker, .succeeds) = some (racing loops stored (place worker moved other)) := by
    refine stepped.trans ?_
    unfold State.moveThread racing
    rw [update_place]
  exact .step reachable trivial taken

theorem reach_read {setup : Setup} {loops glob : Int} {worker : Worker} {j : Int} {other : Phase}
    (reachable : (machine setup).Reachable (racing loops glob (place worker (.testing j) other)))
    (more : j < loops) :
    (machine setup).Reachable (racing loops glob (place worker (.incrementing j glob) other)) := by
  have tested : (machine setup).Reachable (racing loops glob (place worker (.reading j) other)) := by
    apply reach_step reachable
    unfold threadStep racing
    simp only [place_self, if_pos more]
  apply reach_step tested
  unfold threadStep racing
  simp only [place_self]

/-- A thread stores what it read, increased by one, whatever has happened since. -/
theorem reach_store {setup : Setup} {loops glob : Int} {worker : Worker} {j loc : Int} {other : Phase}
    (reachable : (machine setup).Reachable
      (racing loops glob (place worker (.incrementing j loc) other)))
    (low : 0 ≤ loc) (high : loc + 1 ≤ INT_MAX) :
    (machine setup).Reachable (racing loops (loc + 1) (place worker (.testing (j + 1)) other)) := by
  have exactly : toInt (loc + 1) = loc + 1 := by
    apply toInt_of_range _ high
    unfold INT_MIN
    omega
  have incremented : (machine setup).Reachable
      (racing loops glob (place worker (.writing j (loc + 1)) other)) := by
    apply reach_step reachable
    unfold threadStep racing
    simp only [place_self, exactly]
  apply reach_step incremented
  unfold threadStep racing
  simp only [place_self]

/-- A thread that is left alone for some passages adds one in each. -/
theorem reach_passages {setup : Setup} {loops glob : Int} {worker : Worker} {j : Int} {other : Phase}
    (reachable : (machine setup).Reachable (racing loops glob (place worker (.testing j) other)))
    (low : 0 ≤ glob) (passages : Nat) (within : j + passages ≤ loops)
    (fits : glob + passages ≤ INT_MAX) :
    (machine setup).Reachable
      (racing loops (glob + passages) (place worker (.testing (j + passages)) other)) := by
  induction passages with
  | zero => simpa using reachable
  | succ passages inductionHypothesis =>
      push_cast at within fits ⊢
      have before := inductionHypothesis (by omega) (by omega)
      have read := reach_read before (by omega)
      have stored := reach_store read (by omega) (by omega)
      rw [← add_assoc, ← add_assoc]
      exact stored

/-- The threads can be brought to the start of their loops. -/
theorem reach_racing {setup : Setup} {loops : Int} (accepted : numLoops setup = .ok loops) :
    (machine setup).Reachable (racing loops 0 (place .t1 (.testing 0) (.testing 0))) := by
  have threads : Function.update (Function.update (fun _ => Phase.absent) Worker.t1 (.testing 0))
      .t2 (.testing 0) = place .t1 (.testing 0) (.testing 0) := by
    funext party
    cases party <;> rfl
  have executed : (machine setup).exec start (List.replicate 3 (.main, .succeeds)) =
      some (racing loops 0 (place .t1 (.testing 0) (.testing 0))) := by
    unfold racing
    rw [← threads]
    simp only [List.replicate, Machine.exec, machine, step, mainStep, start, accepted, if_true,
      Option.bind_some, State.after, State.moveThread]
  exact Machine.reachable_of_exec rfl executed

/-- Once both threads have made all their passages, the value of the variable is printed. -/
theorem reach_printed {setup : Setup} (loops : Int) {glob : Int}
    (reachable : (machine setup).Reachable
      (racing loops glob (place .t1 (.testing loops) (.testing loops)))) :
    Exists fun final => (machine setup).Reachable final ∧ final.status = .exited ∧
      final.printed = [glob] := by
  have firstEnds : (machine setup).Reachable
      (racing loops glob (place .t1 (.finished loops) (.testing loops))) := by
    apply reach_step reachable
    unfold threadStep racing
    simp only [place_self, lt_self_iff_false, if_false]
  rw [place_swap] at firstEnds
  have bothEnd : (machine setup).Reachable
      (racing loops glob (place .t2 (.finished loops) (.finished loops))) := by
    apply reach_step firstEnds
    unfold threadStep racing
    simp only [place_self, lt_self_iff_false, if_false]
  have executed : (machine setup).exec
      (racing loops glob (place .t2 (.finished loops) (.finished loops)))
      (List.replicate 4 (.main, .succeeds)) =
        some { racing loops glob (place .t2 (.finished loops) (.finished loops)) with
          main := .exiting, printed := [glob], status := .exited } := rfl
  exact ⟨_, bothEnd.exec executed, rfl, rfl⟩

/-- The most that can be lost in one stroke: a thread that read the variable before
`undone` passages of the other stores over them. -/
theorem reach_overwritten {setup : Setup} {loops : Int} (accepted : numLoops setup = .ok loops)
    (fits : 2 * loops ≤ INT_MAX) (undone : Nat) (within : undone ≤ loops) (some : 1 ≤ loops) :
    (machine setup).Reachable
      (racing loops 1 (place .t1 (.testing 1) (.testing undone))) := by
  have read := reach_read (reach_racing accepted) (by omega)
  rw [place_swap] at read
  have undone := reach_passages read (le_refl 0) undone (by omega) (by omega)
  rw [← place_swap, zero_add] at undone
  have stored := reach_store undone (le_refl 0) (by decide)
  exact stored

/-- The values from `loops` on: one stroke, and then the threads in turn. -/
theorem reach_high {setup : Setup} {loops : Int} (accepted : numLoops setup = .ok loops)
    (fits : 2 * loops ≤ INT_MAX) (some : 1 ≤ loops) {value : Int} (low : loops ≤ value)
    (high : value ≤ 2 * loops) :
    (machine setup).Reachable
      (racing loops value (place .t1 (.testing loops) (.testing loops))) := by
  obtain ⟨undone, lost⟩ : Exists fun undone : Nat => (undone : Int) = 2 * loops - value :=
    ⟨(2 * loops - value).toNat, Int.toNat_of_nonneg (by omega)⟩
  obtain ⟨rest, others⟩ : Exists fun rest : Nat => (rest : Int) = loops - 1 :=
    ⟨(loops - 1).toNat, Int.toNat_of_nonneg (by omega)⟩
  obtain ⟨last, remaining⟩ : Exists fun last : Nat => (last : Int) = loops - undone :=
    ⟨(loops - undone).toNat, Int.toNat_of_nonneg (by omega)⟩
  have stroke := reach_overwritten accepted fits undone (by omega) some
  have first := reach_passages stroke (by omega) rest (by omega) (by omega)
  rw [place_swap] at first
  have second := reach_passages first (by omega) last (by omega) (by omega)
  rw [← place_swap] at second
  have firstDone : 1 + (rest : Int) = loops := by omega
  have secondDone : (undone : Int) + last = loops := by omega
  have counted : loops + (last : Int) = value := by omega
  rw [firstDone, secondDone, counted] at second
  exact second

/-- The values from two on: after a first stroke the other thread, in its last passage,
reads what little there is and stores over the rest of the first thread's passages. -/
theorem reach_low {setup : Setup} {loops : Int} (accepted : numLoops setup = .ok loops)
    (fits : 2 * loops ≤ INT_MAX) {value : Int} (low : 2 ≤ value) (high : value ≤ loops + 1) :
    (machine setup).Reachable
      (racing loops value (place .t1 (.testing loops) (.testing loops))) := by
  obtain ⟨undone, others⟩ : Exists fun undone : Nat => (undone : Int) = loops - 1 :=
    ⟨(loops - 1).toNat, Int.toNat_of_nonneg (by omega)⟩
  obtain ⟨kept, before⟩ : Exists fun kept : Nat => (kept : Int) = value - 2 :=
    ⟨(value - 2).toNat, Int.toNat_of_nonneg (by omega)⟩
  obtain ⟨rest, remaining⟩ : Exists fun rest : Nat => (rest : Int) = loops - 1 - kept :=
    ⟨(loops - 1 - kept).toNat, Int.toNat_of_nonneg (by omega)⟩
  have stroke := reach_overwritten accepted fits undone (by omega) (by omega)
  have some := reach_passages stroke (by omega) kept (by omega) (by omega)
  rw [place_swap] at some
  have read := reach_read some (by omega)
  rw [← place_swap] at read
  have others := reach_passages read (by omega) rest (by omega) (by omega)
  rw [place_swap] at others
  have stored := reach_store others (by omega) (by omega)
  rw [← place_swap] at stored
  have firstDone : 1 + (kept : Int) + rest = loops := by omega
  have secondDone : (undone : Int) + 1 = loops := by omega
  have counted : 1 + (kept : Int) + 1 = value := by omega
  rw [firstDone, secondDone, counted] at stored
  exact stored

theorem numLoops_pos {setup : Setup} {loops : Int} (accepted : numLoops setup = .ok loops) :
    1 ≤ loops := by
  unfold numLoops at accepted
  split at accepted
  · cases accepted
    decide
  · exact (getInt_ok accepted).2.2 (by decide)

/-- Without a lock, the values that the program can print are those between
`min loops 2` and `2 * loops`, each of them under some schedule. -/
theorem glob_printed_iff (setup : Setup) {loops : Int} (accepted : numLoops setup = .ok loops)
    (fits : 2 * loops ≤ INT_MAX) (value : Int) :
    (Exists fun final => (machine setup).Reachable final ∧ final.status = .exited ∧
      final.printed = [value]) <-> min loops 2 ≤ value ∧ value ≤ 2 * loops := by
  constructor
  · rintro ⟨final, reachable, _, printed⟩
    apply (reachable_invariant accepted fits reachable).printed
    rw [printed]
    exact List.mem_singleton_self value
  · rintro ⟨low, high⟩
    have some := numLoops_pos accepted
    apply reach_printed loops
    by_cases many : loops ≤ value
    · exact reach_high accepted fits some many high
    · apply reach_low accepted fits
      · omega
      · omega

/-- Two threads of ten passages can print as little as two. -/
theorem glob_printed_two_of_ten :
    Exists fun final => (machine ⟨none, some [49, 48]⟩).Reachable final ∧
      final.status = .exited ∧ final.printed = [2] := by
  have accepted : numLoops ⟨none, some [49, 48]⟩ = .ok 10 := by decide
  exact (glob_printed_iff ⟨none, some [49, 48]⟩ accepted (by decide) 2).mpr (by decide)

end ThreadIncrRace
end ThreadSync
end Tlpi
