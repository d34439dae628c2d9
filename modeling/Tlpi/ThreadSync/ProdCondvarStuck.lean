import Tlpi.ThreadSync.ProdCondvar

namespace Tlpi
namespace ThreadSync
namespace ProdCondvar

open CLibrary Foundations
open ThreadMultijoin (Party ExitStatus)

/-!
# A consumer that is never served

`main` computes `done` only after it has consumed a unit, and compares two counters
that may leave the range of `int`.  Its arguments therefore decide whether it can be
left waiting for units that nobody will make.  This module finds the exact condition
on the arguments.  That it is enough follows from the invariant; that it is needed is
shown by runs in which the producers first make a chosen number of units and `main`
then takes them all.
-/

variable {threads : Nat}

/-- Every producer has finished and nothing is available, while `main` is asleep,
or still in its loop with `done` never to be set. -/
structure Stuck (program : Program) (argv : Fin threads -> List Byte) (current : State threads) :
    Prop where
  running : current.exitStatus = none
  finished : forall idx, current.producerPc idx = .finished
  unavailable : current.avail = 0
  caught : current.main = .waiting ∨ (current.main.inLoop = true ∧
    forall actions next, (process program argv).exec current actions = some next ->
      next.done = false)

/-- The arguments make some units, as `avail` counts them, and either require at
most one or no more than they make, as `totRequired` and `numConsumed` count
them. -/
def Served (argv : Fin threads -> List Byte) : Prop :=
  toInt (units argv) ≠ 0 ∧
    (toInt (total argv) ≤ 1 ∨ toInt (total argv) ≤ toInt (units argv))

instance (argv : Fin threads -> List Byte) : Decidable (Served argv) :=
  inferInstanceAs (Decidable (_ ∧ _))

section Served

variable {program : Program} {argv : Fin threads -> List Byte} {current : State threads}

/-- As long as no sum leaves the range of `int`, the consumer is served exactly
when some count is positive. -/
theorem served_iff_positive (most : (units argv : Int) ≤ INT_MAX)
    (least : INT_MIN ≤ total argv) :
    Served argv <-> Exists fun idx => 0 < atoi (argv idx) := by
  have below : total argv ≤ units argv := by
    rw [units, total, Nat.cast_sum]
    exact Finset.sum_le_sum (fun _ _ => Int.self_le_toNat _)
  have units_eq : toInt (units argv) = units argv := by
    apply toInt_of_range
    · unfold INT_MIN
      omega
    · exact most
  have total_eq : toInt (total argv) = total argv := toInt_of_range least (le_trans below most)
  rw [Served, units_eq, total_eq]
  constructor
  · rintro ⟨some, -⟩
    by_contra nothing
    have none : units argv = 0 := by
      apply Finset.sum_eq_zero
      intro idx _
      exact Int.toNat_of_nonpos (not_lt.mp (fun positive => nothing ⟨idx, positive⟩))
    rw [none] at some
    exact some rfl
  · rintro ⟨idx, positive⟩
    have one : (atoi (argv idx)).toNat ≤ units argv :=
      Finset.single_le_sum (f := fun idx => (atoi (argv idx)).toNat) (fun _ _ => Nat.zero_le _)
        (Finset.mem_univ idx)
    exact ⟨by omega, Or.inr below⟩

/-- When all units are made and none is available, the consumer has counted them
all, as far as its counter can tell. -/
theorem Invariant.all_counted (invariant : Invariant program argv current)
    (finished : forall idx, current.producerPc idx = .finished) (unavailable : current.avail = 0)
    (settled : current.main.owed = 0) : current.numConsumed = toInt (units argv) := by
  have made : current.produced = units argv := by
    apply Finset.sum_congr rfl
    intro idx _
    have progress := invariant.progress idx
    rw [finished idx] at progress
    exact progress
  have zero := invariant.available.symm.trans unavailable
  rw [made, settled, Nat.cast_zero, add_zero] at zero
  rw [invariant.counted, toInt_eq_of_sub_eq_zero zero]

/-- When the counter has reached the units made, something has been consumed and
satisfied the requirement. -/
theorem Invariant.satisfied (invariant : Invariant program argv current) (served : Served argv)
    (required : current.totRequired = toInt (total argv))
    (counted : current.numConsumed = toInt (units argv)) :
    0 < current.consumed ∧
      (current.totRequired ≤ 1 ∨ current.totRequired ≤ current.numConsumed) := by
  refine ⟨?_, ?_⟩
  · apply Nat.pos_of_ne_zero
    intro none
    have zero := invariant.counted
    rw [none, counted] at zero
    exact served.1 zero
  · rw [required, counted]
    exact served.2

/-- Where `main` has decided about a first unit, it is done. -/
theorem Invariant.done_of_served (invariant : Invariant program argv current)
    (served : Served argv) (required : current.totRequired = toInt (total argv))
    (counted : current.numConsumed = toInt (units argv))
    (decided : current.main.undecided = false)
    (first : current.totRequired ≤ 1 -> current.consumed = 0 ∨ current.done = true) :
    current.done = true := by
  rcases invariant.satisfied served required counted with ⟨some, small | enough⟩
  · exact (first small).resolve_left (Nat.ne_of_gt some)
  · exact (invariant.decided decided).mpr ⟨some, enough⟩

/-- While `main` is in its inner loop, its counter has the required value. -/
theorem Invariant.enough_of_served (invariant : Invariant program argv current)
    (served : Served argv) (required : current.totRequired = toInt (total argv))
    (counted : current.numConsumed = toInt (units argv))
    (bound : current.totRequired ≤ 1 -> (current.consumed : Int) + max current.avail 0 ≤ INT_MAX) :
    0 < current.consumed ∧ current.totRequired ≤ current.numConsumed := by
  rcases invariant.satisfied served required counted with ⟨some, small | enough⟩
  · have inRange := bound small
    have exactly := invariant.numConsumed_of_le (by omega)
    omega
  · exact ⟨some, enough⟩

end Served

/-- Arguments that serve the consumer never leave it stuck, in either program and
under every schedule. -/
theorem not_stuck_of_served (program : Program) (argv : Fin threads -> List Byte)
    (served : Served argv) (current : State threads)
    (reachable : (process program argv).Reachable current) : ¬ Stuck program argv current := by
  intro stuck
  have invariant := Invariant.of_reachable reachable
  have position := invariant.position
  have counted := invariant.all_counted stuck.finished stuck.unavailable
  have unavailable := stuck.unavailable
  have caught := stuck.caught
  cases pc : current.main with
  | creating j | leftLoop => simp [pc, MainPc.inLoop] at caught
  | consuming | taking =>
      rw [pc] at position
      have positive := position.2.1
      omega
  | locking =>
      rw [pc] at position counted
      rcases position with ⟨required, undone, first⟩
      have done := invariant.done_of_served served required (counted rfl) (by rw [pc]; rfl)
        (fun small => Or.inl (first small))
      simp [undone] at done
  | testingAvail | waiting | woken =>
      rw [pc] at position counted
      rcases position with ⟨required, undone, first, -⟩
      have done := invariant.done_of_served served required (counted rfl) (by rw [pc]; rfl)
        (fun small => Or.inl (first small))
      simp [undone] at done
  | unlocking =>
      rw [pc] at position counted
      rcases position with ⟨required, first⟩
      have done := invariant.done_of_served served required (counted rfl) (by rw [pc]; rfl) first
      have undone := (caught.resolve_left (by simp [pc])).2 [] current rfl
      simp [undone] at done
  | draining =>
      rw [pc] at position counted
      rcases position with ⟨required, bound⟩
      have enough := invariant.enough_of_served served required (counted rfl) bound
      have done := (invariant.decided (by rw [pc]; rfl)).mpr enough
      have undone := (caught.resolve_left (by simp [pc])).2 [] current rfl
      simp [undone] at done
  | deciding =>
      rw [pc] at position counted
      rcases position with ⟨required, -, bound⟩
      have enough := invariant.enough_of_served served required (counted rfl) bound
      have stepped : (process program argv).exec current [.main] =
          some ({ current with
            done := decide (current.numConsumed ≥ current.totRequired) }.moveMain .draining) := by
        simp only [Machine.exec, process, State.step, stuck.running, State.mainStep, pc,
          Option.bind_some]
      have undone := (caught.resolve_left (by simp [pc])).2 [.main] _ stepped
      simp [State.moveMain, enough.2] at undone

/-- The positions between which `main` moves as long as nothing is available. -/
def MainPc.idling : MainPc -> Bool
  | .locking | .testingAvail | .waiting | .woken | .draining | .unlocking => true
  | _ => false

/-- Nothing is left to be made or taken, and `main` has not noticed. -/
structure Idle (current : State threads) : Prop where
  finished : forall idx, current.producerPc idx = .finished
  unavailable : current.avail = 0
  undone : current.done = false
  idling : current.main.idling = true

namespace Idle

variable {program : Program} {argv : Fin threads -> List Byte} {current next : State threads}

/-- No step leads out of this. -/
theorem step (idle : Idle current) {action : Action threads}
    (stepped : current.step program argv action = some next) : Idle next := by
  rcases idle with ⟨finished, unavailable, undone, idling⟩
  unfold State.step at stepped
  split at stepped
  · cases stepped
  · cases action with
    | producer idx => simp [State.producerStep, finished idx] at stepped
    | spuriousWakeup =>
        simp only at stepped
        split at stepped
        · cases stepped
          exact ⟨finished, unavailable, undone, rfl⟩
        · cases stepped
    | fail party =>
        simp only [State.fail] at stepped
        split at stepped
        · cases stepped
          exact ⟨finished, unavailable, undone, idling⟩
        · cases stepped
    | main =>
        cases pc : current.main with
        | creating j | consuming | taking | deciding | leftLoop =>
            rw [pc] at idling
            cases idling
        | waiting => simp [State.mainStep, pc] at stepped
        | locking | woken =>
            simp only [State.mainStep, pc, Option.map_eq_some_iff] at stepped
            rcases stepped with ⟨held, lock, rfl⟩
            rcases State.mutexLock_eq_some lock with ⟨-, rfl⟩
            refine ⟨finished, unavailable, undone, ?_⟩
            cases program <;> rfl
        | testingAvail =>
            simp only [State.mainStep, pc, unavailable, if_true, Option.some.injEq] at stepped
            subst stepped
            exact ⟨finished, unavailable, undone, rfl⟩
        | draining | unlocking =>
            simp only [State.mainStep, pc, unavailable, undone, gt_iff_lt, lt_self_iff_false,
              Bool.false_eq_true, if_false, Option.some.injEq] at stepped
            subst stepped
            exact ⟨finished, unavailable, undone, rfl⟩

/-- No run leads out of this. -/
theorem exec (idle : Idle current) {actions : List (Action threads)}
    (executed : (process program argv).exec current actions = some next) : Idle next := by
  induction actions generalizing current with
  | nil =>
      cases executed
      exact idle
  | cons action rest inductionHypothesis =>
      rcases Option.bind_eq_some_iff.mp executed with ⟨middle, stepped, continued⟩
      exact inductionHypothesis (idle.step stepped) continued

/-- A process that idles before it has ended is stuck. -/
theorem stuck (idle : Idle current) (running : current.exitStatus = none) :
    Stuck program argv current where
  running := running
  finished := idle.finished
  unavailable := idle.unavailable
  caught := by
    refine Or.inr ⟨?_, fun _ _ executed => (idle.exec executed).undone⟩
    have idling := idle.idling
    cases pc : current.main with
    | creating j | leftLoop =>
        rw [pc] at idling
        cases idling
    | _ => rfl

end Idle

/-- Nobody is inside the mutex, each producer is between two units, and `main` is
about to look whether something is available. -/
structure AtRest (argv : Fin threads -> List Byte) (current : State threads) : Prop where
  running : current.exitStatus = none
  free : current.owner = none
  locking : current.main = .locking
  undone : current.done = false
  between : forall idx,
    current.producerPc idx = .loopTest (atoi (argv idx)) (current.performed idx)

section AtRest

variable {program : Program} {argv : Fin threads -> List Byte} {current : State threads}

/-- The creation loop leaves the producers it has started before their first unit. -/
theorem created_at_rest (j : Nat) (within : j ≤ threads) :
    Exists fun current : State threads => (process program argv).Reachable current ∧
      current.main = .creating j ∧ current.exitStatus = none ∧ current.owner = none ∧
      current.done = false ∧ current.consumed = 0 ∧ current.performed = (fun _ => 0) ∧
      forall idx, idx.val < j -> current.producerPc idx = .loopTest (atoi (argv idx)) 0 := by
  induction j with
  | zero => exact ⟨start threads, .initial rfl, rfl, rfl, rfl, rfl, rfl, rfl, by simp⟩
  | succ j inductionHypothesis =>
      rcases inductionHypothesis (Nat.le_of_succ_le within) with
        ⟨current, reachable, pc, running, free, undone, unconsumed, unperformed, started⟩
      have stepped : (process program argv).step current .main =
          some (({ current with
            totRequired := toInt (current.totRequired + atoi (argv ⟨j, within⟩)) }.moveProducer
              ⟨j, within⟩ (.loopTest (atoi (argv ⟨j, within⟩)) 0)).moveMain (.creating (j + 1))) := by
        simp [process, State.step, running, State.mainStep, pc, Nat.lt_of_succ_le within]
      refine ⟨_, .step reachable trivial stepped, rfl, running, free, undone, unconsumed,
        unperformed, ?_⟩
      intro idx earlier
      change Function.update current.producerPc ⟨j, within⟩ _ idx = _
      rcases eq_or_ne idx ⟨j, within⟩ with same | different
      · rw [same, Function.update_self]
      · rw [Function.update_of_ne different]
        refine started idx (lt_of_le_of_ne (Nat.le_of_lt_succ earlier) ?_)
        exact fun same => different (Fin.ext same)

/-- `main` may reach its loop before any unit is made. -/
theorem rest_at_start (program : Program) (argv : Fin threads -> List Byte) :
    Exists fun current : State threads => (process program argv).Reachable current ∧
      AtRest argv current ∧ current.consumed = 0 ∧ current.produced = 0 := by
  rcases created_at_rest threads le_rfl with
    ⟨current, reachable, pc, running, free, undone, unconsumed, unperformed, started⟩
  have stepped : (process program argv).step current .main = some (current.moveMain .locking) := by
    simp [process, State.step, running, State.mainStep, pc]
  refine ⟨_, .step reachable trivial stepped, ⟨running, free, rfl, undone, ?_⟩, unconsumed, ?_⟩
  · intro idx
    change current.producerPc idx = .loopTest (atoi (argv idx)) (current.performed idx)
    rw [started idx idx.isLt, unperformed]
  · change ∑ idx, current.performed idx = 0
    simp [unperformed]

namespace AtRest

/-- At rest `avail` is what has been made and not consumed. -/
theorem avail_eq (rest : AtRest argv current) (reachable : (process program argv).Reachable current) :
    current.avail = toInt (current.produced - current.consumed) := by
  have available := (Invariant.of_reachable reachable).available
  rw [rest.locking] at available
  simpa [MainPc.owed] using available

/-- A producer that has units left makes one. -/
theorem produce (rest : AtRest argv current) (reachable : (process program argv).Reachable current)
    (left : current.produced < units argv) :
    Exists fun next : State threads => (process program argv).Reachable next ∧ AtRest argv next ∧
      next.consumed = current.consumed ∧ next.produced = current.produced + 1 := by
  rcases Finset.exists_lt_of_sum_lt left with ⟨idx, -, fewer⟩
  have within : (current.performed idx : Int) < atoi (argv idx) := by omega
  have pc : current.producerPc idx = .sleeping (current.performed idx) := by
    rw [rest.between idx, ProducerPc.loopTest, if_pos within]
  have executed : (process program argv).exec current
      (match program with
      | .prod_condvar => List.replicate 5 (.producer idx)
      | .prod_no_condvar => List.replicate 4 (.producer idx)) =
        some { current with
          avail := toInt (current.avail + 1)
          performed := Function.update current.performed idx (current.performed idx + 1)
          owner := none
          producerPc := Function.update current.producerPc idx
            (.loopTest (atoi (argv idx)) (current.performed idx + 1)) } := by
    cases program <;>
      simp [List.replicate, Machine.exec, process, State.step, State.producerStep,
        State.moveProducer, State.mutexLock, State.mutexUnlock, State.condSignal, rest.running, pc,
        rest.free, rest.locking]
  refine ⟨_, Machine.Reachable.exec reachable executed, ?_, rfl,
    sum_update_succ current.performed idx⟩
  refine ⟨rest.running, rfl, rest.locking, rest.undone, ?_⟩
  intro other
  change Function.update current.producerPc idx _ other =
    .loopTest _ (Function.update current.performed idx _ other)
  rcases eq_or_ne other idx with same | different
  · rw [same, Function.update_self, Function.update_self]
  · rw [Function.update_of_ne different, Function.update_of_ne different]
    exact rest.between other

/-- The producers make any number of the units that are left. -/
theorem produce_many (rest : AtRest argv current)
    (reachable : (process program argv).Reachable current) (more : Nat)
    (left : current.produced + more ≤ units argv) :
    Exists fun next : State threads => (process program argv).Reachable next ∧ AtRest argv next ∧
      next.consumed = current.consumed ∧ next.produced = current.produced + more := by
  induction more with
  | zero => exact ⟨current, reachable, rest, rfl, rfl⟩
  | succ more inductionHypothesis =>
      rcases inductionHypothesis (by omega) with ⟨next, nextReachable, nextRest, same, made⟩
      rcases nextRest.produce nextReachable (by omega) with ⟨last, lastReachable, lastRest, also, one⟩
      exact ⟨last, lastReachable, lastRest, also.trans same, by omega⟩

end AtRest

/-- The inner loop takes all that is available. -/
theorem drain_all (reachable : (process program argv).Reachable current)
    (running : current.exitStatus = none) (pc : current.main = .draining) (amount : Nat)
    (available : current.avail = amount) :
    Exists fun next : State threads => (process program argv).Reachable next ∧
      next.exitStatus = none ∧ next.main = .draining ∧ next.avail = 0 ∧
      next.producerPc = current.producerPc ∧ next.performed = current.performed ∧
      next.consumed = current.consumed + amount := by
  induction amount generalizing current with
  | zero => exact ⟨current, reachable, running, pc, available, rfl, rfl, rfl⟩
  | succ amount inductionHypothesis =>
      have bounded := (Invariant.of_reachable reachable).max_avail_le
      have taken : toInt (current.avail - 1) = amount := by
        rw [available, Nat.cast_succ, add_sub_cancel_right]
        apply toInt_of_range
        · unfold INT_MIN
          omega
        · omega
      have positive : 0 < current.avail := by omega
      have executed : (process program argv).exec current (List.replicate 4 .main) =
          some { current with
            main := .draining
            avail := toInt (current.avail - 1)
            numConsumed := toInt (current.numConsumed + 1)
            consumed := current.consumed + 1
            done := decide (toInt (current.numConsumed + 1) ≥ current.totRequired) } := by
        simp [List.replicate, Machine.exec, process, State.step, State.mainStep, State.moveMain,
          running, pc, positive]
      have advanced := Machine.Reachable.exec reachable executed
      rcases inductionHypothesis advanced running rfl taken with
        ⟨next, nextReachable, nextRunning, nextPc, empty, samePc, samePerformed, consumed⟩
      refine ⟨next, nextReachable, nextRunning, nextPc, empty, samePc, samePerformed, ?_⟩
      rw [consumed, add_assoc, add_comm 1 amount]

namespace AtRest

/-- One round of the consumer loop that takes all that is available and is not
satisfied by it. -/
theorem consume (rest : AtRest argv current) (reachable : (process program argv).Reachable current)
    {amount : Nat} (positive : 0 < amount) (available : current.avail = amount)
    (unsatisfied : toInt (current.consumed + amount : Nat) < toInt (total argv)) :
    Exists fun next : State threads => (process program argv).Reachable next ∧ AtRest argv next ∧
      next.consumed = current.consumed + amount ∧ next.produced = current.produced := by
  have nonzero : current.avail ≠ 0 := by omega
  have entered : (process program argv).exec current
      (match program with
      | .prod_condvar => List.replicate 2 .main
      | .prod_no_condvar => List.replicate 1 .main) =
        some { current with owner := some .main, main := .draining } := by
    cases program <;>
      simp [List.replicate, Machine.exec, process, State.step, State.mainStep, State.moveMain,
        State.mutexLock, rest.running, rest.locking, rest.free, nonzero]
  have inside := Machine.Reachable.exec reachable entered
  rcases drain_all inside rest.running rfl amount available with
    ⟨next, nextReachable, running, pc, empty, samePc, samePerformed, consumed⟩
  have invariant := Invariant.of_reachable nextReachable
  have undone : next.done = false := by
    have position := invariant.position
    rw [pc] at position
    rw [← Bool.not_eq_true, invariant.decided (by rw [pc]; rfl), position.1, invariant.counted,
      consumed]
    exact fun satisfied => absurd satisfied.2 (not_le.mpr unsatisfied)
  have left : (process program argv).exec next (List.replicate 2 .main) =
      some { next with owner := none, main := .locking } := by
    simp [List.replicate, Machine.exec, process, State.step, State.mainStep, State.moveMain,
      State.mutexUnlock, running, pc, empty, undone]
  refine ⟨_, Machine.Reachable.exec nextReachable left,
    ⟨running, rfl, rfl, undone, ?_⟩, consumed, ?_⟩
  · intro idx
    change next.producerPc idx = .loopTest _ (next.performed idx)
    rw [samePc, samePerformed]
    exact rest.between idx
  · change ∑ idx, next.performed idx = ∑ idx, current.performed idx
    rw [samePerformed]

/-- When every unit is made and none is available, `main` is stuck. -/
theorem stuck (rest : AtRest argv current) (reachable : (process program argv).Reachable current)
    (all : current.produced = units argv) (unavailable : current.avail = 0) :
    Stuck program argv current := by
  have invariant := Invariant.of_reachable reachable
  refine Idle.stuck ⟨?_, unavailable, rest.undone, by rw [rest.locking]; rfl⟩ rest.running
  intro idx
  rw [rest.between idx, invariant.all_performed (le_of_eq all.symm) idx, ProducerPc.loopTest,
    if_neg (by omega)]

end AtRest

/-- A number of units that stays below a requirement of more than one is reached
from a smaller such number in one step of at most `INT_MAX`. -/
theorem exists_previous_below {amount : Nat} {required : Int} (positive : 0 < amount)
    (wanted : 1 < toInt required) (below : toInt amount < toInt required) :
    Exists fun before : Nat => before < amount ∧ toInt before < toInt required ∧
      ((amount - before : Nat) : Int) ≤ INT_MAX := by
  have range := toInt_range required
  unfold INT_MAX at *
  by_cases one : toInt ((amount - 1 : Nat) : Int) < toInt required
  · exact ⟨amount - 1, by omega, one, by omega⟩
  · have wraps : (amount : Int) % 4294967296 = 2147483648 := by
      rw [toInt_eq] at one below
      omega
    refine ⟨amount - (2147483649 - toInt required).toNat, by omega, ?_, by omega⟩
    rw [toInt_eq]
    omega

/-- Where more than one unit is required, `main` may consume any number of units
that does not satisfy it: one at a time, and in one round of up to `INT_MAX` units
from the last number below the requirement to the first that counts as negative. -/
theorem rest_at (wanted : 1 < toInt (total argv)) (amount : Nat) (enough : amount ≤ units argv)
    (unsatisfied : toInt amount < toInt (total argv)) :
    Exists fun current : State threads => (process program argv).Reachable current ∧
      AtRest argv current ∧ current.consumed = amount ∧ current.produced = amount := by
  induction amount using Nat.strong_induction_on with
  | h amount inductionHypothesis =>
      rcases Nat.eq_zero_or_pos amount with none | some
      · rw [none]
        exact rest_at_start program argv
      · rcases exists_previous_below some wanted unsatisfied with ⟨before, fewer, below, step⟩
        rcases inductionHypothesis before fewer (by omega) below with
          ⟨state, reachable, rest, consumed, produced⟩
        rcases rest.produce_many reachable (amount - before) (by omega) with
          ⟨made, madeReachable, madeRest, madeConsumed, madeProduced⟩
        have available : made.avail = ((amount - before : Nat) : Int) := by
          rw [madeRest.avail_eq madeReachable, madeProduced, madeConsumed, consumed, produced]
          rw [show ((before + (amount - before) : Nat) : Int) - before =
            ((amount - before : Nat) : Int) by omega]
          apply toInt_of_range
          · unfold INT_MIN
            omega
          · exact step
        have reached : made.consumed + (amount - before) = amount := by omega
        rcases madeRest.consume madeReachable (by omega) available (by rw [reached]; exact unsatisfied)
          with ⟨final, finalReachable, finalRest, finalConsumed, finalProduced⟩
        exact ⟨final, finalReachable, finalRest, by omega, by omega⟩

/-- Arguments that do not serve the consumer leave it stuck in some run of either
program. -/
theorem stuck_of_not_served (unserved : ¬ Served argv) :
    Exists fun current : State threads =>
      (process program argv).Reachable current ∧ Stuck program argv current := by
  by_cases nothing : toInt (units argv) = 0
  · rcases rest_at_start program argv with ⟨state, reachable, rest, consumed, produced⟩
    rcases rest.produce_many reachable (units argv) (by omega) with
      ⟨made, madeReachable, madeRest, madeConsumed, madeProduced⟩
    have all : made.produced = units argv := by omega
    refine ⟨made, madeReachable, madeRest.stuck madeReachable all ?_⟩
    rw [madeRest.avail_eq madeReachable, all, madeConsumed, consumed, Nat.cast_zero, sub_zero]
    exact nothing
  · have more : 1 < toInt (total argv) ∧ toInt (units argv) < toInt (total argv) := by
      unfold Served at unserved
      omega
    rcases rest_at more.1 (units argv) le_rfl more.2 with
      ⟨state, reachable, rest, consumed, produced⟩
    refine ⟨state, reachable, rest.stuck reachable produced ?_⟩
    rw [rest.avail_eq reachable, consumed, produced, sub_self]
    rfl

end AtRest

/-- Neither program ever gets stuck exactly when its arguments serve the
consumer. -/
theorem consumer_never_stuck_iff (program : Program) (argv : Fin threads -> List Byte) :
    (forall current, (process program argv).Reachable current -> ¬ Stuck program argv current) <->
      Served argv := by
  constructor
  · intro never
    by_contra unserved
    rcases stuck_of_not_served unserved with ⟨current, reachable, stuck⟩
    exact never current reachable stuck
  · intro served current reachable
    exact not_stuck_of_served program argv served current reachable

def onlyZero : Fin 1 -> List Byte := fun _ => ascii "0"

/-- With the single argument `0` the one program sleeps and the other polls
forever. -/
theorem consumer_stuck_zero :
    (Exists fun current => (process .prod_condvar onlyZero).Reachable current ∧
      current.main = .waiting ∧ Stuck .prod_condvar onlyZero current) ∧
    (Exists fun current => (process .prod_no_condvar onlyZero).Reachable current ∧
      Stuck .prod_no_condvar onlyZero current) := by
  refine ⟨?_, stuck_of_not_served (by decide +kernel)⟩
  have executed := Option.some_get (x :=
    (process .prod_condvar onlyZero).exec (start 1) (List.replicate 4 .main)) (by decide +kernel)
  refine ⟨_, Machine.reachable_of_exec rfl executed.symm, by decide +kernel, ?_⟩
  exact ⟨by decide +kernel, by decide +kernel, by decide +kernel, Or.inl (by decide +kernel)⟩

end ProdCondvar
end ThreadSync
end Tlpi
