import Mathlib.Algebra.BigOperators.Ring.Finset
import Mathlib.Algebra.Order.BigOperators.Group.Finset
import Tlpi.CLibrary.Strtol
import Tlpi.Foundations.Counting
import Tlpi.ThreadSync.ThreadMultijoin

namespace Tlpi
namespace ThreadSync
namespace ProdCondvar

open CLibrary Foundations
open ThreadMultijoin (Party ExitStatus)

/-!
# Producers and one consumer

Every argument of the command line starts a producer that makes the number of
units that `atoi` reads from it, one `avail++` under the mutex for each.  The main
thread adds the numbers up in `totRequired`, consumes whatever is available, and
leaves when it has consumed that many.  `prod_condvar` sleeps on a condition
variable while nothing is available and its producers signal after each unit;
`prod_no_condvar` polls instead.  The two programs are otherwise the same text, so
they are one machine with the program as a parameter.

The machine takes one step per access to `avail` or to the counters that go with
it, and per call of a `pthread` function.  A test of a local variable belongs to
the step before it.  As in `ThreadMultijoin`, only `pthread_cond_wait` is split,
and every call whose return value is checked may fail, which ends the process.
-/

/-- The two programs. -/
inductive Program where
  | prod_condvar
  | prod_no_condvar
deriving DecidableEq, Repr

/-- The positions in `producer`, with the loop variable `j`. -/
inductive ProducerPc where
  | notCreated
  | sleeping (j : Nat)
  | locking (j : Nat)
  | incrementing (j : Nat)
  | unlocking (j : Nat)
  | signalling (j : Nat)
  | finished
deriving DecidableEq, Repr

/-- The positions in `main`.  The creation loop carries its index, and the loop
that consumes all available units has one position for each of its statements. -/
inductive MainPc where
  | creating (j : Nat)
  | locking
  | testingAvail
  | waiting
  | woken
  | draining
  | consuming
  | taking
  | deciding
  | unlocking
  | leftLoop
deriving DecidableEq, Repr

/-- The variables, the mutex, and every thread's position.  The program does not
hold `performed`, the increments that each producer has made, nor `consumed`, the
units that `main` has counted; its own counters are reduced to the range of
`int`. -/
structure State (threads : Nat) where
  producerPc : Fin threads -> ProducerPc
  main : MainPc
  avail : Int
  numConsumed : Int
  totRequired : Int
  done : Bool
  owner : Option (Party threads)
  performed : Fin threads -> Nat
  consumed : Nat
  exitStatus : Option ExitStatus

inductive Action (threads : Nat) where
  | producer (idx : Fin threads)
  | main
  | spuriousWakeup
  | fail (party : Party threads)
deriving DecidableEq, Repr

variable {threads : Nat}

/-- The state in which `main` reaches its creation loop. -/
def start (threads : Nat) : State threads where
  producerPc := fun _ => .notCreated
  main := .creating 0
  avail := 0
  numConsumed := 0
  totRequired := 0
  done := false
  owner := none
  performed := fun _ => 0
  consumed := 0
  exitStatus := none

/-- The test `j < cnt` of the producer's loop. -/
def ProducerPc.loopTest (cnt : Int) (j : Nat) : ProducerPc :=
  if (j : Int) < cnt then .sleeping j else .finished

namespace State

def moveProducer (current : State threads) (idx : Fin threads) (pc : ProducerPc) : State threads :=
  { current with producerPc := Function.update current.producerPc idx pc }

def moveMain (current : State threads) (pc : MainPc) : State threads :=
  { current with main := pc }

/-- A party obtains a free mutex; on a mutex that is held it blocks. -/
def mutexLock (current : State threads) (party : Party threads) : Option (State threads) :=
  if current.owner = none then some { current with owner := some party } else none

theorem mutexLock_eq_some {current next : State threads} {party : Party threads}
    (locked : current.mutexLock party = some next) :
    current.owner = none ∧ next = { current with owner := some party } := by
  unfold mutexLock at locked
  split at locked
  · exact ⟨‹_›, (Option.some.inj locked).symm⟩
  · cases locked

def mutexUnlock (current : State threads) : State threads :=
  { current with owner := none }

/-- `pthread_cond_signal` wakes the main thread if it is blocked, and is
otherwise without effect. -/
def condSignal (current : State threads) : State threads :=
  if current.main = .waiting then current.moveMain .woken else current

def producerStep (program : Program) (argv : Fin threads -> List Byte) (current : State threads)
    (idx : Fin threads) : Option (State threads) :=
  let cnt := atoi (argv idx)
  match current.producerPc idx with
  | .notCreated => none
  | .sleeping j => some (current.moveProducer idx (.locking j))
  | .locking j =>
      (current.mutexLock (.thread idx)).map (fun next => next.moveProducer idx (.incrementing j))
  | .incrementing j =>
      some ({ current with
        avail := toInt (current.avail + 1)
        performed := Function.update current.performed idx (current.performed idx + 1)
      }.moveProducer idx (.unlocking j))
  | .unlocking j =>
      some (current.mutexUnlock.moveProducer idx
        (match program with
        | .prod_condvar => .signalling j
        | .prod_no_condvar => .loopTest cnt (j + 1)))
  | .signalling j => some (current.condSignal.moveProducer idx (.loopTest cnt (j + 1)))
  | .finished => none

def mainStep (program : Program) (argv : Fin threads -> List Byte) (current : State threads) :
    Option (State threads) :=
  match current.main with
  | .creating j =>
      if within : j < threads then
        let cnt := atoi (argv ⟨j, within⟩)
        some (({ current with totRequired := toInt (current.totRequired + cnt) }.moveProducer
          ⟨j, within⟩ (.loopTest cnt 0)).moveMain (.creating (j + 1)))
      else some (current.moveMain .locking)
  | .locking =>
      (current.mutexLock .main).map (fun next => next.moveMain
        (match program with
        | .prod_condvar => .testingAvail
        | .prod_no_condvar => .draining))
  | .testingAvail =>
      if current.avail = 0 then some (current.mutexUnlock.moveMain .waiting)
      else some (current.moveMain .draining)
  | .waiting => none
  | .woken => (current.mutexLock .main).map (fun next => next.moveMain .testingAvail)
  | .draining => some (current.moveMain (if current.avail > 0 then .consuming else .unlocking))
  | .consuming =>
      some ({ current with
        numConsumed := toInt (current.numConsumed + 1)
        consumed := current.consumed + 1 }.moveMain .taking)
  | .taking => some ({ current with avail := toInt (current.avail - 1) }.moveMain .deciding)
  | .deciding =>
      some ({ current with
        done := decide (current.numConsumed ≥ current.totRequired) }.moveMain .draining)
  | .unlocking =>
      some (current.mutexUnlock.moveMain (if current.done then .leftLoop else .locking))
  | .leftLoop => some { current with exitStatus := some .success }

/-- Whether a party is at a call whose error return it checks. -/
def atCheckedCall (current : State threads) : Party threads -> Bool
  | .main =>
      match current.main with
      | .creating j => j < threads
      | .locking | .waiting | .woken | .unlocking => true
      | _ => false
  | .thread idx =>
      match current.producerPc idx with
      | .locking _ | .unlocking _ | .signalling _ => true
      | _ => false

/-- `errExitEN` ends the process, whichever thread calls it. -/
def fail (current : State threads) (party : Party threads) : Option (State threads) :=
  if current.atCheckedCall party then some { current with exitStatus := some .failure } else none

/-- One step of the process.  A process that has ended takes no step. -/
def step (program : Program) (argv : Fin threads -> List Byte) (current : State threads)
    (action : Action threads) : Option (State threads) :=
  match current.exitStatus with
  | some _ => none
  | none =>
      match action with
      | .producer idx => current.producerStep program argv idx
      | .main => current.mainStep program argv
      | .spuriousWakeup => if current.main = .waiting then some (current.moveMain .woken) else none
      | .fail party => current.fail party

end State

/-- The program with its arguments, as a machine. -/
def process (program : Program) (argv : Fin threads -> List Byte) :
    Machine (State threads) (Action threads) where
  Initial := fun state => state = start threads
  step := State.step program argv

/-! ## What each position has done and still owes -/

namespace ProducerPc

/-- The producer is between taking and releasing the mutex. -/
def critical : ProducerPc -> Bool
  | .incrementing _ | .unlocking _ => true
  | _ => false

/-- The producer has made a unit and has still to issue the signal for it. -/
def owesSignal : ProducerPc -> Bool
  | .unlocking _ | .signalling _ => true
  | _ => false

/-- The increments that a producer has made by the time it is at a position. -/
def Progress (cnt : Int) (performed : Nat) : ProducerPc -> Prop
  | .notCreated => performed = 0
  | .sleeping j | .locking j | .incrementing j => performed = j ∧ (j : Int) < cnt
  | .unlocking j | .signalling j => performed = j + 1 ∧ (j : Int) < cnt
  | .finished => performed = cnt.toNat

/-- The loop test leads to a position with the same progress. -/
theorem progress_loopTest {cnt : Int} {j : Nat} (within : (j : Int) ≤ max cnt 0) :
    (loopTest cnt j).Progress cnt j := by
  unfold loopTest
  split
  · exact ⟨rfl, ‹_›⟩
  · change j = cnt.toNat
    omega

theorem loopTest_critical (cnt : Int) (j : Nat) : (loopTest cnt j).critical = false := by
  unfold loopTest
  split <;> rfl

/-- No producer makes more units than its argument says. -/
theorem Progress.le {cnt : Int} {performed : Nat} {pc : ProducerPc}
    (progress : pc.Progress cnt performed) : performed ≤ cnt.toNat := by
  cases pc with
  | notCreated =>
      rw [show performed = 0 from progress]
      exact Nat.zero_le _
  | sleeping j | locking j | incrementing j | unlocking j | signalling j =>
      rcases progress with ⟨equal, within⟩
      omega
  | finished => exact le_of_eq progress

end ProducerPc

namespace MainPc

/-- The main thread is between obtaining and releasing the mutex. -/
def critical : MainPc -> Bool
  | .testingAvail | .draining | .consuming | .taking | .deciding | .unlocking => true
  | _ => false

/-- Units that are counted as consumed and not yet taken from `avail`. -/
def owed : MainPc -> Nat
  | .taking => 1
  | _ => 0

/-- `done` has still to be computed for the last unit counted. -/
def undecided : MainPc -> Bool
  | .taking | .deciding => true
  | _ => false

theorem owed_of_decided {pc : MainPc} (decided : pc.undecided = false) : pc.owed = 0 := by
  cases pc with
  | taking => cases decided
  | _ => rfl

/-- The creation loop has yet to start the producer. -/
def yetToCreate : MainPc -> Fin threads -> Bool
  | .creating j, idx => j ≤ idx.val
  | _, _ => false

/-- The main thread is inside its consumer loop. -/
def inLoop : MainPc -> Bool
  | .creating _ | .leftLoop => false
  | _ => true

end MainPc

section Totals

variable (argv : Fin threads -> List Byte)

/-- The sum of the counts. -/
def total : Int := ∑ idx, atoi (argv idx)

/-- The sum of the counts of the first arguments. -/
def partialTotal (j : Nat) : Int := ∑ idx with idx.val < j, atoi (argv idx)

/-- The number of units that the producers make together.  A negative count
makes none. -/
def units : Nat := ∑ idx, (atoi (argv idx)).toNat

theorem partialTotal_zero : partialTotal argv 0 = 0 := by
  simp [partialTotal]

theorem partialTotal_succ {j : Nat} (within : j < threads) :
    partialTotal argv (j + 1) = partialTotal argv j + atoi (argv ⟨j, within⟩) := by
  have grown : Finset.univ.filter (fun idx : Fin threads => idx.val < j + 1) =
      insert ⟨j, within⟩ (Finset.univ.filter (fun idx : Fin threads => idx.val < j)) := by
    ext idx
    simp only [Finset.mem_filter, Finset.mem_univ, true_and, Finset.mem_insert, Fin.ext_iff]
    omega
  rw [partialTotal, grown, Finset.sum_insert (by simp), add_comm]
  rfl

theorem partialTotal_threads : partialTotal argv threads = total argv := by
  rw [partialTotal, Finset.filter_true_of_mem (fun idx _ => idx.isLt)]
  rfl

end Totals

/-- What the position of `main` says about its counters.  While at most one unit
is required, the first units consumed are the last: their number, with those
still available, stays in the range of `int`. -/
def MainPc.Holds (program : Program) (argv : Fin threads -> List Byte) (totRequired avail : Int)
    (consumed : Nat) (done : Bool) : MainPc -> Prop
  | .creating j => j ≤ threads ∧ totRequired = toInt (partialTotal argv j) ∧ consumed = 0
  | .locking => totRequired = toInt (total argv) ∧ done = false ∧ (totRequired ≤ 1 -> consumed = 0)
  | .testingAvail | .waiting | .woken =>
      totRequired = toInt (total argv) ∧ done = false ∧ (totRequired ≤ 1 -> consumed = 0) ∧
        program = .prod_condvar
  | .draining =>
      totRequired = toInt (total argv) ∧ (totRequired ≤ 1 -> consumed + max avail 0 ≤ INT_MAX)
  | .consuming =>
      totRequired = toInt (total argv) ∧ 0 < avail ∧
        (totRequired ≤ 1 -> consumed + avail ≤ INT_MAX)
  | .taking =>
      totRequired = toInt (total argv) ∧ 0 < avail ∧ 0 < consumed ∧
        (totRequired ≤ 1 -> consumed + avail ≤ INT_MAX + 1)
  | .deciding =>
      totRequired = toInt (total argv) ∧ 0 < consumed ∧
        (totRequired ≤ 1 -> consumed + max avail 0 ≤ INT_MAX)
  | .unlocking =>
      totRequired = toInt (total argv) ∧ (totRequired ≤ 1 -> consumed = 0 ∨ done = true)
  | .leftLoop => totRequired = toInt (total argv) ∧ done = true

/-- The number of increments that the producers have performed. -/
def State.produced (current : State threads) : Nat := ∑ idx, current.performed idx

structure Invariant (program : Program) (argv : Fin threads -> List Byte)
    (current : State threads) : Prop where
  producerOwns : forall idx, (current.producerPc idx).critical = true <->
    current.owner = some (.thread idx)
  mainOwns : current.main.critical = true <-> current.owner = some .main
  fresh : forall idx, current.main.yetToCreate idx = true -> current.producerPc idx = .notCreated
  progress : forall idx,
    (current.producerPc idx).Progress (atoi (argv idx)) (current.performed idx)
  available : current.avail = toInt (current.produced - current.consumed + current.main.owed)
  consumed_le : current.consumed ≤ current.produced
  counted : current.numConsumed = toInt current.consumed
  decided : current.main.undecided = false ->
    (current.done = true <-> 0 < current.consumed ∧ current.totRequired ≤ current.numConsumed)
  position : current.main.Holds program argv current.totRequired current.avail current.consumed
    current.done
  wakeup : current.main = .waiting -> current.avail ≠ 0 ->
    Exists fun idx => (current.producerPc idx).owesSignal = true
  exited : current.exitStatus = some .success -> current.main = .leftLoop

theorem start_invariant (program : Program) (argv : Fin threads -> List Byte) :
    Invariant program argv (start threads) where
  producerOwns := by simp [start, ProducerPc.critical]
  mainOwns := by simp [start, MainPc.critical]
  fresh := by simp [start]
  progress _ := rfl
  available := by simp [start, State.produced, MainPc.owed, toInt]
  consumed_le := Nat.zero_le _
  counted := by simp [start, toInt]
  decided := by simp [start]
  position := by
    refine ⟨Nat.zero_le threads, ?_, rfl⟩
    rw [partialTotal_zero]
    rfl
  wakeup := by simp [start]
  exited := by simp [start]

namespace Invariant

variable {program : Program} {argv : Fin threads -> List Byte} {current : State threads}

/-- The main thread may move, and take or release the mutex on the way, as long
as it has no unit in its hands. -/
theorem moveMain (invariant : Invariant program argv current) (running : current.exitStatus = none)
    {pc : MainPc} {owner : Option (Party threads)}
    (owns : pc.critical = true <-> owner = some .main)
    (others : forall idx, owner = some (.thread idx) <-> current.owner = some (.thread idx))
    (fresh : forall idx : Fin threads, pc.yetToCreate idx = false)
    (before : current.main.undecided = false) (after : pc.undecided = false)
    (position : pc.Holds program argv current.totRequired current.avail current.consumed
      current.done)
    (wakeup : pc = .waiting -> current.avail = 0) :
    Invariant program argv { current with main := pc, owner := owner } where
  producerOwns idx := (invariant.producerOwns idx).trans (others idx).symm
  mainOwns := owns
  fresh idx pending := absurd pending (by rw [fresh idx]; exact Bool.false_ne_true)
  progress := invariant.progress
  available := by
    have available := invariant.available
    rw [MainPc.owed_of_decided before, ← MainPc.owed_of_decided after] at available
    exact available
  consumed_le := invariant.consumed_le
  counted := invariant.counted
  decided _ := invariant.decided before
  position := position
  wakeup asleep unavailable := absurd (wakeup asleep) unavailable
  exited ended := by
    change current.exitStatus = _ at ended
    rw [running] at ended
    cases ended

/-- A producer may move, and take or release the mutex on the way, as long as it
makes no unit and keeps its promise to signal. -/
theorem moveProducer (invariant : Invariant program argv current) {idx : Fin threads}
    {pc : ProducerPc} {owner : Option (Party threads)}
    (owns : pc.critical = true <-> owner = some (.thread idx))
    (others : forall party, party ≠ .thread idx ->
      (owner = some party <-> current.owner = some party))
    (created : current.main.yetToCreate idx = false)
    (progress : pc.Progress (atoi (argv idx)) (current.performed idx))
    (promise : current.main = .waiting -> (current.producerPc idx).owesSignal = true ->
      pc.owesSignal = true) :
    Invariant program argv
      { current with producerPc := Function.update current.producerPc idx pc, owner := owner } where
  producerOwns other := by
    rcases eq_or_ne other idx with same | different
    · subst same
      simpa using owns
    · have elsewhere : Party.thread other ≠ Party.thread idx := fun equal =>
        different (by cases equal; rfl)
      simpa [different] using (invariant.producerOwns other).trans (others _ elsewhere).symm
  mainOwns := invariant.mainOwns.trans (others .main (by simp)).symm
  fresh other pending := by
    have different : other ≠ idx := by
      rintro rfl
      exact absurd pending (by simp [created])
    simpa [different] using invariant.fresh other pending
  progress other := by
    rcases eq_or_ne other idx with same | different
    · subst same
      simpa using progress
    · simpa [different] using invariant.progress other
  available := invariant.available
  consumed_le := invariant.consumed_le
  counted := invariant.counted
  decided := invariant.decided
  position := invariant.position
  wakeup asleep unavailable := by
    rcases invariant.wakeup asleep unavailable with ⟨other, owes⟩
    refine ⟨other, ?_⟩
    rcases eq_or_ne other idx with same | different
    · subst same
      simpa using promise asleep owes
    · simpa [different] using owes
  exited := invariant.exited

theorem created (invariant : Invariant program argv current) {idx : Fin threads}
    (running : current.producerPc idx ≠ .notCreated) : current.main.yetToCreate idx = false := by
  rw [← Bool.not_eq_true]
  exact fun pending => running (invariant.fresh idx pending)

/-- The holder of the mutex is alone inside it. -/
theorem main_outside (invariant : Invariant program argv current) (idx : Fin threads)
    (inside : (current.producerPc idx).critical = true) : current.main.critical = false := by
  have owned := (invariant.producerOwns idx).mp inside
  rw [← Bool.not_eq_true, invariant.mainOwns, owned]
  simp

theorem wake (invariant : Invariant program argv current) (running : current.exitStatus = none)
    (asleep : current.main = .waiting) : Invariant program argv (current.moveMain .woken) := by
  have owns := invariant.mainOwns
  have position := invariant.position
  rw [asleep] at owns position
  exact invariant.moveMain running owns (fun _ => Iff.rfl) (fun _ => rfl) (by rw [asleep]; rfl)
    rfl position (by simp)

/-- After a signal the main thread is not asleep, and nothing else has changed. -/
theorem condSignal (invariant : Invariant program argv current)
    (running : current.exitStatus = none) :
    Invariant program argv current.condSignal ∧ current.condSignal.main ≠ .waiting ∧
      current.condSignal.producerPc = current.producerPc ∧
      current.condSignal.performed = current.performed := by
  unfold State.condSignal
  split
  · exact ⟨invariant.wake running ‹_›, by simp [State.moveMain], rfl, rfl⟩
  · exact ⟨invariant, ‹_›, rfl, rfl⟩

/-- The end of the process changes nothing else the invariant speaks of. -/
theorem ended (invariant : Invariant program argv current) (status : Option ExitStatus)
    (left : status = some .success -> current.main = .leftLoop) :
    Invariant program argv { current with exitStatus := status } where
  producerOwns := invariant.producerOwns
  mainOwns := invariant.mainOwns
  fresh := invariant.fresh
  progress := invariant.progress
  available := invariant.available
  consumed_le := invariant.consumed_le
  counted := invariant.counted
  decided := invariant.decided
  position := invariant.position
  wakeup := invariant.wakeup
  exited := left

/-! ### The steps of a producer -/

theorem increment (invariant : Invariant program argv current) {idx : Fin threads} {j : Nat}
    (pc : current.producerPc idx = .incrementing j) :
    Invariant program argv
      ({ current with
        avail := toInt (current.avail + 1)
        performed := Function.update current.performed idx (current.performed idx + 1)
      }.moveProducer idx (.unlocking j)) where
  producerOwns other := by
    rcases eq_or_ne other idx with same | different
    · subst same
      simpa [State.moveProducer, pc, ProducerPc.critical] using invariant.producerOwns other
    · simpa [State.moveProducer, different] using invariant.producerOwns other
  mainOwns := invariant.mainOwns
  fresh other pending := by
    have different : other ≠ idx := by
      rintro rfl
      exact absurd (invariant.fresh other pending) (by simp [pc])
    simpa [State.moveProducer, different] using invariant.fresh other pending
  progress other := by
    rcases eq_or_ne other idx with same | different
    · subst same
      have progress := invariant.progress other
      rw [pc] at progress
      simpa [State.moveProducer, ProducerPc.Progress] using progress
    · simpa [State.moveProducer, different] using invariant.progress other
  available := by
    have raised : (current.produced : Int) + 1 = ((_ : Nat) : Int) :=
      congrArg Nat.cast (sum_update_succ current.performed idx).symm
    have before := invariant.available
    simp only [State.moveProducer, State.produced] at raised before ⊢
    rw [before, toInt_toInt_add, ← raised]
    congr 1
    omega
  consumed_le := by
    have raised := sum_update_succ current.performed idx
    have before := invariant.consumed_le
    simp only [State.moveProducer, State.produced] at before ⊢
    omega
  counted := invariant.counted
  decided := invariant.decided
  position := by
    have outside := invariant.main_outside idx (by rw [pc]; rfl)
    have position := invariant.position
    change current.main.Holds _ _ _ _ _ _
    cases main : current.main with
    | testingAvail | draining | consuming | taking | deciding | unlocking =>
        rw [main] at outside
        cases outside
    | creating j | locking | woken | waiting | leftLoop =>
        rw [main] at position
        exact position
  wakeup _ _ := ⟨idx, by simp [State.moveProducer, ProducerPc.owesSignal]⟩
  exited := invariant.exited

theorem producerStep (invariant : Invariant program argv current)
    (running : current.exitStatus = none) {idx : Fin threads} {next : State threads}
    (stepped : current.producerStep program argv idx = some next) :
    Invariant program argv next := by
  have owns := invariant.producerOwns idx
  have progress := invariant.progress idx
  cases pc : current.producerPc idx with
  | notCreated | finished => simp [State.producerStep, pc] at stepped
  | sleeping j =>
      rw [pc] at owns progress
      simp only [State.producerStep, pc, Option.some.injEq] at stepped
      subst stepped
      exact invariant.moveProducer owns (fun _ _ => Iff.rfl) (invariant.created (by simp [pc]))
        progress (by simp [pc, ProducerPc.owesSignal])
  | locking j =>
      rw [pc] at progress
      simp only [State.producerStep, pc, Option.map_eq_some_iff] at stepped
      rcases stepped with ⟨locked, lock, rfl⟩
      rcases State.mutexLock_eq_some lock with ⟨free, rfl⟩
      refine invariant.moveProducer (by simp [ProducerPc.critical]) ?_
        (invariant.created (by simp [pc])) progress (by simp [pc, ProducerPc.owesSignal])
      intro party different
      simp [free, different.symm]
  | incrementing j =>
      simp only [State.producerStep, pc, Option.some.injEq] at stepped
      subst stepped
      exact invariant.increment pc
  | unlocking j =>
      rw [pc] at owns progress
      have owned := owns.mp rfl
      simp only [State.producerStep, pc, Option.some.injEq] at stepped
      subst stepped
      have released : forall party : Party threads, party ≠ .thread idx ->
          (none = some party <-> current.owner = some party) := by
        intro party different
        simp [owned, different.symm]
      cases program with
      | prod_condvar =>
          exact invariant.moveProducer (by simp [State.mutexUnlock, ProducerPc.critical]) released
            (invariant.created (by simp [pc])) progress (fun _ _ => rfl)
      | prod_no_condvar =>
          rcases progress with ⟨performed, within⟩
          refine invariant.moveProducer (by simp [State.mutexUnlock, ProducerPc.loopTest_critical])
            released (invariant.created (by simp [pc])) ?_ ?_
          · rw [performed]
            exact ProducerPc.progress_loopTest (by omega)
          · intro asleep
            have position := invariant.position
            rw [asleep] at position
            cases position.2.2.2
  | signalling j =>
      rw [pc] at owns progress
      simp only [State.producerStep, pc, Option.some.injEq] at stepped
      subst stepped
      rcases progress with ⟨performed, within⟩
      rcases invariant.condSignal running with ⟨signalled, awake, samePc, samePerformed⟩
      have idle := signalled.producerOwns idx
      rw [samePc, pc] at idle
      refine signalled.moveProducer ?_ (fun _ _ => Iff.rfl)
        (signalled.created (by simp [samePc, pc])) ?_ (fun asleep => absurd asleep awake)
      · rw [ProducerPc.loopTest_critical]
        exact idle
      · rw [samePerformed, performed]
        exact ProducerPc.progress_loopTest (by omega)

/-! ### The steps of the main thread -/

theorem mainLock (invariant : Invariant program argv current) (running : current.exitStatus = none)
    {pc : MainPc} {next : State threads}
    (locked : (current.mutexLock .main).map (fun held => held.moveMain pc) = some next)
    (inside : pc.critical = true) (fresh : forall idx : Fin threads, pc.yetToCreate idx = false)
    (before : current.main.undecided = false) (after : pc.undecided = false)
    (position : pc.Holds program argv current.totRequired current.avail current.consumed
      current.done) : Invariant program argv next := by
  rcases Option.map_eq_some_iff.mp locked with ⟨held, lock, rfl⟩
  rcases State.mutexLock_eq_some lock with ⟨free, rfl⟩
  refine invariant.moveMain running (by simp [inside]) (by simp [free]) fresh before after
    position ?_
  rintro rfl
  cases inside

theorem mainUnlock (invariant : Invariant program argv current)
    (running : current.exitStatus = none) {pc : MainPc}
    (inside : current.main.critical = true) (outside : pc.critical = false)
    (fresh : forall idx : Fin threads, pc.yetToCreate idx = false)
    (before : current.main.undecided = false) (after : pc.undecided = false)
    (position : pc.Holds program argv current.totRequired current.avail current.consumed
      current.done)
    (wakeup : pc = .waiting -> current.avail = 0) :
    Invariant program argv (current.mutexUnlock.moveMain pc) := by
  have owned := invariant.mainOwns.mp inside
  exact invariant.moveMain running (by simp [State.mutexUnlock, outside])
    (by simp [State.mutexUnlock, owned]) fresh before after position wakeup

/-- One round of the creation loop. -/
theorem create (invariant : Invariant program argv current) {j : Nat}
    (pc : current.main = .creating j) (within : j < threads)
    (running : current.exitStatus = none) :
    Invariant program argv
      (({ current with
        totRequired := toInt (current.totRequired + atoi (argv ⟨j, within⟩))
      }.moveProducer ⟨j, within⟩ (.loopTest (atoi (argv ⟨j, within⟩)) 0)).moveMain
        (.creating (j + 1))) := by
  have owns := invariant.mainOwns
  have position := invariant.position
  have available := invariant.available
  have decided := invariant.decided
  rw [pc] at owns position available decided
  rcases position with ⟨-, required, unconsumed⟩
  have notCreated := invariant.fresh ⟨j, within⟩ (by simp [pc, MainPc.yetToCreate])
  have undone : current.done = false := by
    rw [← Bool.not_eq_true, decided rfl, unconsumed]
    simp
  have advanced : Invariant program argv
      { current with
        totRequired := toInt (current.totRequired + atoi (argv ⟨j, within⟩))
        main := .creating (j + 1) } :=
    { producerOwns := invariant.producerOwns
      mainOwns := owns
      fresh := by
        intro idx pending
        refine invariant.fresh idx ?_
        simp only [pc, MainPc.yetToCreate, decide_eq_true_eq] at pending ⊢
        exact Nat.le_of_succ_le pending
      progress := invariant.progress
      available := available
      consumed_le := invariant.consumed_le
      counted := invariant.counted
      decided := by simp [undone, unconsumed]
      position := by
        refine ⟨within, ?_, unconsumed⟩
        rw [partialTotal_succ argv within, required, toInt_toInt_add]
      wakeup := by simp
      exited := by simp [running] }
  have idle := invariant.producerOwns ⟨j, within⟩
  have progress := invariant.progress ⟨j, within⟩
  rw [notCreated] at idle progress
  refine advanced.moveProducer ?_ (fun _ _ => Iff.rfl) ?_ ?_ (by simp)
  · rw [ProducerPc.loopTest_critical]
    exact idle
  · simp [MainPc.yetToCreate]
  · change ProducerPc.Progress _ (current.performed _) _
    rw [show current.performed ⟨j, within⟩ = 0 from progress]
    exact ProducerPc.progress_loopTest (by omega)

theorem consume (invariant : Invariant program argv current) (running : current.exitStatus = none)
    (pc : current.main = .consuming) :
    Invariant program argv
      ({ current with
        numConsumed := toInt (current.numConsumed + 1)
        consumed := current.consumed + 1 }.moveMain .taking) := by
  have owns := invariant.mainOwns
  have position := invariant.position
  have available := invariant.available
  have bounded := invariant.consumed_le
  rw [pc] at owns position available
  rcases position with ⟨required, positive, first⟩
  have fewer : current.consumed < current.produced := by
    refine lt_of_le_of_ne bounded ?_
    intro same
    rw [available, same] at positive
    simp [MainPc.owed, toInt] at positive
  exact
    { producerOwns := invariant.producerOwns
      mainOwns := owns
      fresh := by simp [State.moveMain, MainPc.yetToCreate]
      progress := invariant.progress
      available := by
        change current.avail = toInt (current.produced - (current.consumed + 1 : Nat) + (1 : Nat))
        rw [available]
        simp only [MainPc.owed]
        congr 1
        omega
      consumed_le := fewer
      counted := by
        change toInt (current.numConsumed + 1) = toInt (current.consumed + 1 : Nat)
        rw [invariant.counted, toInt_toInt_add, Nat.cast_succ]
      decided := by simp [State.moveMain, MainPc.undecided]
      position := by
        refine ⟨required, positive, Nat.succ_pos _, ?_⟩
        intro small
        have bound := first small
        change ((current.consumed + 1 : Nat) : Int) + current.avail ≤ INT_MAX + 1
        omega
      wakeup := by simp [State.moveMain]
      exited := by simp [State.moveMain, running] }

theorem take (invariant : Invariant program argv current) (running : current.exitStatus = none)
    (pc : current.main = .taking) :
    Invariant program argv
      ({ current with avail := toInt (current.avail - 1) }.moveMain .deciding) := by
  have owns := invariant.mainOwns
  have position := invariant.position
  have available := invariant.available
  rw [pc] at owns position available
  rcases position with ⟨required, positive, counted, first⟩
  have inRange : toInt (current.avail - 1) = current.avail - 1 := by
    have range := toInt_range (current.produced - current.consumed + MainPc.taking.owed)
    rw [← available] at range
    apply toInt_of_range
    · unfold INT_MIN
      omega
    · omega
  exact
    { producerOwns := invariant.producerOwns
      mainOwns := owns
      fresh := by simp [State.moveMain, MainPc.yetToCreate]
      progress := invariant.progress
      available := by
        change toInt (current.avail + -1) = toInt (current.produced - current.consumed + (0 : Nat))
        rw [available, toInt_toInt_add]
        simp only [MainPc.owed]
        congr 1
        omega
      consumed_le := invariant.consumed_le
      counted := invariant.counted
      decided := by simp [State.moveMain, MainPc.undecided]
      position := by
        refine ⟨required, counted, ?_⟩
        intro small
        have bound := first small
        change (current.consumed : Int) + max (toInt (current.avail - 1)) 0 ≤ INT_MAX
        rw [inRange]
        omega
      wakeup := by simp [State.moveMain]
      exited := by simp [State.moveMain, running] }

theorem decideDone (invariant : Invariant program argv current)
    (running : current.exitStatus = none) (pc : current.main = .deciding) :
    Invariant program argv
      ({ current with
        done := decide (current.numConsumed ≥ current.totRequired) }.moveMain .draining) := by
  have owns := invariant.mainOwns
  have position := invariant.position
  have available := invariant.available
  rw [pc] at owns position available
  rcases position with ⟨required, counted, first⟩
  exact
    { producerOwns := invariant.producerOwns
      mainOwns := owns
      fresh := by simp [State.moveMain, MainPc.yetToCreate]
      progress := invariant.progress
      available := available
      consumed_le := invariant.consumed_le
      counted := invariant.counted
      decided := by simp [State.moveMain, counted]
      position := ⟨required, first⟩
      wakeup := by simp [State.moveMain]
      exited := by simp [State.moveMain, running] }

/-- Units that stay in the range of `int` are counted exactly. -/
theorem numConsumed_of_le (invariant : Invariant program argv current)
    (inRange : (current.consumed : Int) ≤ INT_MAX) : current.numConsumed = current.consumed := by
  rw [invariant.counted]
  apply toInt_of_range
  · unfold INT_MIN
    omega
  · exact inRange

/-- `avail` is in the range of `int`. -/
theorem max_avail_le (invariant : Invariant program argv current) :
    max current.avail 0 ≤ INT_MAX := by
  have range := toInt_range (current.produced - current.consumed + current.main.owed)
  rw [← invariant.available] at range
  unfold INT_MAX at *
  omega

/-- The first units are consumed from what is available when the loop begins. -/
theorem drain_bound (invariant : Invariant program argv current)
    (first : current.totRequired ≤ 1 -> current.consumed = 0) (small : current.totRequired ≤ 1) :
    (current.consumed : Int) + max current.avail 0 ≤ INT_MAX := by
  rw [first small, Nat.cast_zero, zero_add]
  exact invariant.max_avail_le

/-- The test `avail > 0` of the inner loop. -/
theorem testDrain (invariant : Invariant program argv current)
    (running : current.exitStatus = none) (pc : current.main = .draining) :
    Invariant program argv
      (current.moveMain (if current.avail > 0 then .consuming else .unlocking)) := by
  have owns := invariant.mainOwns
  have position := invariant.position
  rw [pc] at owns position
  rcases position with ⟨required, first⟩
  split
  · rename_i positive
    refine invariant.moveMain running owns (fun _ => Iff.rfl) (fun _ => rfl) (by rw [pc]; rfl)
      rfl ⟨required, positive, ?_⟩ (by simp)
    intro small
    have bound := first small
    rwa [max_eq_left (le_of_lt positive)] at bound
  · refine invariant.moveMain running owns (fun _ => Iff.rfl) (fun _ => rfl) (by rw [pc]; rfl)
      rfl ⟨required, ?_⟩ (by simp)
    intro small
    have bound := first small
    have counted := invariant.numConsumed_of_le (by omega)
    rcases Nat.eq_zero_or_pos current.consumed with none | some
    · exact Or.inl none
    · refine Or.inr ((invariant.decided (by rw [pc]; rfl)).mpr ⟨some, ?_⟩)
      omega

/-- `main` releases the mutex and tests `done`. -/
theorem testDone (invariant : Invariant program argv current)
    (running : current.exitStatus = none) (pc : current.main = .unlocking) :
    Invariant program argv
      (current.mutexUnlock.moveMain (if current.done then .leftLoop else .locking)) := by
  have position := invariant.position
  rw [pc] at position
  rcases position with ⟨required, first⟩
  split
  · rename_i done
    exact invariant.mainUnlock running (by rw [pc]; rfl) rfl (fun _ => rfl) (by rw [pc]; rfl)
      rfl ⟨required, done⟩ (by simp)
  · rename_i undone
    refine invariant.mainUnlock running (by rw [pc]; rfl) rfl (fun _ => rfl) (by rw [pc]; rfl)
      rfl ⟨required, Bool.not_eq_true _ ▸ undone, ?_⟩ (by simp)
    intro small
    exact (first small).resolve_right undone

theorem mainStep (invariant : Invariant program argv current)
    (running : current.exitStatus = none) {next : State threads}
    (stepped : current.mainStep program argv = some next) : Invariant program argv next := by
  have owns := invariant.mainOwns
  have position := invariant.position
  cases pc : current.main with
  | creating j =>
      rw [pc] at owns position
      rcases position with ⟨bounded, required, unconsumed⟩
      simp only [State.mainStep, pc] at stepped
      split at stepped
      · rename_i within
        cases stepped
        exact invariant.create pc within running
      · rename_i beyond
        cases stepped
        have decided := invariant.decided (by rw [pc]; rfl)
        have exhausted : j = threads := le_antisymm bounded (not_lt.mp beyond)
        refine invariant.moveMain running owns (fun _ => Iff.rfl) (fun _ => rfl) (by rw [pc]; rfl)
          rfl ⟨?_, ?_, fun _ => unconsumed⟩ (by simp)
        · rw [required, exhausted, partialTotal_threads]
        · rw [← Bool.not_eq_true, decided, unconsumed]
          simp
  | locking =>
      rw [pc] at position
      rcases position with ⟨required, undone, first⟩
      simp only [State.mainStep, pc] at stepped
      cases program with
      | prod_condvar =>
          exact invariant.mainLock running stepped rfl (fun _ => rfl) (by rw [pc]; rfl)
            rfl ⟨required, undone, first, rfl⟩
      | prod_no_condvar =>
          exact invariant.mainLock running stepped rfl (fun _ => rfl) (by rw [pc]; rfl)
            rfl ⟨required, invariant.drain_bound first⟩
  | testingAvail =>
      rw [pc] at owns position
      rcases position with ⟨required, undone, first, tested⟩
      simp only [State.mainStep, pc] at stepped
      split at stepped
      · rename_i zero
        cases stepped
        exact invariant.mainUnlock running (by rw [pc]; rfl) rfl (fun _ => rfl) (by rw [pc]; rfl)
          rfl ⟨required, undone, first, tested⟩ (fun _ => zero)
      · cases stepped
        exact invariant.moveMain running owns (fun _ => Iff.rfl) (fun _ => rfl) (by rw [pc]; rfl)
          rfl ⟨required, invariant.drain_bound first⟩ (by simp)
  | waiting => simp [State.mainStep, pc] at stepped
  | woken =>
      rw [pc] at position
      simp only [State.mainStep, pc] at stepped
      exact invariant.mainLock running stepped rfl (fun _ => rfl) (by rw [pc]; rfl)
        rfl position
  | draining =>
      simp only [State.mainStep, pc, Option.some.injEq] at stepped
      subst stepped
      exact invariant.testDrain running pc
  | consuming =>
      simp only [State.mainStep, pc, Option.some.injEq] at stepped
      subst stepped
      exact invariant.consume running pc
  | taking =>
      simp only [State.mainStep, pc, Option.some.injEq] at stepped
      subst stepped
      exact invariant.take running pc
  | deciding =>
      simp only [State.mainStep, pc, Option.some.injEq] at stepped
      subst stepped
      exact invariant.decideDone running pc
  | unlocking =>
      simp only [State.mainStep, pc, Option.some.injEq] at stepped
      subst stepped
      exact invariant.testDone running pc
  | leftLoop =>
      simp only [State.mainStep, pc, Option.some.injEq] at stepped
      subst stepped
      have ended := invariant.ended (some .success) (fun _ => pc)
      rw [pc] at ended
      exact ended

theorem step (invariant : Invariant program argv current) {action : Action threads}
    {next : State threads} (stepped : current.step program argv action = some next) :
    Invariant program argv next := by
  unfold State.step at stepped
  split at stepped
  · cases stepped
  · rename_i running
    cases action with
    | producer idx => exact invariant.producerStep running stepped
    | main => exact invariant.mainStep running stepped
    | spuriousWakeup =>
        simp only at stepped
        split at stepped
        · cases stepped
          exact invariant.wake running ‹_›
        · cases stepped
    | fail party =>
        simp only [State.fail] at stepped
        split at stepped
        · cases stepped
          exact invariant.ended (some .failure) (by simp)
        · cases stepped

theorem of_reachable (reachable : (process program argv).Reachable current) :
    Invariant program argv current := by
  refine Machine.Reachable.invariant ?_ ?_ reachable
  · rintro state rfl
    exact start_invariant program argv
  · intro state action next invariant stepped
    exact invariant.step stepped

/-- The producers together have made at most the units of their arguments. -/
theorem produced_le_units (invariant : Invariant program argv current) :
    current.produced ≤ units argv :=
  Finset.sum_le_sum (fun idx _ => (invariant.progress idx).le)

end Invariant

/-! ## Nothing is lost or made up -/

/-- What the programs promise of a state: the units made are those consumed and
those available, `main` leaves with all of them consumed, and does not sleep
through one. -/
structure Conserves (program : Program) (argv : Fin threads -> List Byte)
    (current : State threads) : Prop where
  conserved : current.owner = none ->
    current.numConsumed + current.avail = current.produced
  exits_complete : current.main = .leftLoop ∨ current.exitStatus = some .success ->
    current.numConsumed = total argv ∧ current.avail = 0 ∧
      forall idx, (current.performed idx : Int) = atoi (argv idx)
  no_missed_wakeup : program = .prod_condvar -> current.main = .waiting -> 0 < current.avail ->
    Exists fun idx => (current.producerPc idx).owesSignal = true

section Nonnegative

variable {program : Program} {argv : Fin threads -> List Byte} {current : State threads}

/-- Without negative counts the units made are what the counts add up to. -/
theorem units_eq_total (nonnegative : forall idx, 0 ≤ atoi (argv idx)) :
    (units argv : Int) = total argv := by
  rw [units, total, Nat.cast_sum]
  apply Finset.sum_congr rfl
  intro idx _
  exact Int.toNat_of_nonneg (nonnegative idx)

/-- Once all units are made, every producer has made its own. -/
theorem Invariant.all_performed (invariant : Invariant program argv current)
    (all : units argv ≤ current.produced) (idx : Fin threads) :
    current.performed idx = (atoi (argv idx)).toNat := by
  have equal : current.produced = units argv := le_antisymm invariant.produced_le_units all
  have each := (Finset.sum_eq_sum_iff_of_le
    (fun idx _ => (invariant.progress idx).le)).mp equal
  exact each idx (Finset.mem_univ idx)

end Nonnegative

/-- For every list of counts that are not negative and add up to at least one
and at most `INT_MAX`, and every schedule, the units are conserved. -/
theorem units_conserved (program : Program) (argv : Fin threads -> List Byte)
    (nonnegative : forall idx, 0 ≤ atoi (argv idx)) (least : 1 ≤ total argv)
    (most : total argv ≤ INT_MAX) (current : State threads)
    (reachable : (process program argv).Reachable current) : Conserves program argv current := by
  have invariant := Invariant.of_reachable reachable
  have sum := units_eq_total nonnegative
  have made := invariant.produced_le_units
  have counted := invariant.consumed_le
  have numConsumed := invariant.numConsumed_of_le (by omega)
  have available : current.main.critical = false ∨ current.main = .leftLoop ->
      current.avail = current.produced - current.consumed := by
    intro outside
    have nothingOwed : current.main.owed = 0 := by
      cases pc : current.main with
      | taking => simp [pc, MainPc.critical] at outside
      | _ => rfl
    rw [invariant.available, nothingOwed, Nat.cast_zero, add_zero]
    apply toInt_of_range
    · unfold INT_MIN
      omega
    · omega
  refine ⟨?_, ?_, ?_⟩
  · intro free
    have outside : current.main.critical = false := by
      rw [← Bool.not_eq_true, invariant.mainOwns, free]
      simp
    rw [numConsumed, available (Or.inl outside)]
    omega
  · intro exits
    have left : current.main = .leftLoop := exits.elim id invariant.exited
    have position := invariant.position
    rw [left] at position
    rcases position with ⟨required, done⟩
    have enough := ((invariant.decided (by rw [left]; rfl)).mp done).2
    have inRange : toInt (total argv) = total argv := by
      apply toInt_of_range
      · unfold INT_MIN
        omega
      · exact most
    rw [required, inRange, numConsumed] at enough
    have availability := available (Or.inr left)
    refine ⟨by omega, by omega, ?_⟩
    intro idx
    rw [invariant.all_performed (by omega) idx]
    exact Int.toNat_of_nonneg (nonnegative idx)
  · intro _ asleep positive
    exact invariant.wakeup asleep (by omega)

/-- The arguments of `prod_condvar 1 2`. -/
def oneAndTwo : Fin 2 -> List Byte := fun idx => if idx.val = 0 then ascii "1" else ascii "2"

/-- `main` sleeps until each producer has made a unit, sleeps again, and leaves
after the third. -/
def oneAndTwoRun : List (Action 2) :=
  let first := Action.producer ⟨0, Nat.two_pos⟩
  let second := Action.producer ⟨1, Nat.one_lt_two⟩
  List.flatten
    [List.replicate 5 .main, List.replicate 4 first, List.replicate 4 second, [first],
      List.replicate 12 .main, [second], List.replicate 2 .main, List.replicate 5 second,
      List.replicate 8 .main]

def oneAndTwoFinal : State 2 :=
  ((process .prod_condvar oneAndTwo).exec (start 2) oneAndTwoRun).get (by decide +kernel)

/-- The run ends outside the loop with three units consumed. -/
theorem units_conserved_three_units :
    (process .prod_condvar oneAndTwo).exec (start 2) oneAndTwoRun = some oneAndTwoFinal ∧
      oneAndTwoFinal.main = .leftLoop ∧ oneAndTwoFinal.numConsumed = 3 ∧
      Conserves .prod_condvar oneAndTwo oneAndTwoFinal := by
  have executed : (process .prod_condvar oneAndTwo).exec (start 2) oneAndTwoRun =
      some oneAndTwoFinal := (Option.some_get _).symm
  refine ⟨executed, by decide +kernel, by decide +kernel, ?_⟩
  exact units_conserved .prod_condvar oneAndTwo (by decide +kernel) (by decide +kernel)
    (by decide +kernel) _ (Machine.reachable_of_exec rfl executed)

end ProdCondvar
end ThreadSync
end Tlpi
