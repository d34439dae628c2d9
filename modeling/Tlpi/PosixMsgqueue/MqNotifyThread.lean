import Tlpi.CLibrary.MessageQueue
import Tlpi.Foundations.Counting
import Tlpi.Foundations.Transition
import Tlpi.Lib.ErrorFunctions

namespace Tlpi
namespace PosixMsgqueue
namespace MqNotifyThread

open CLibrary Foundations Lib

/-!
# Message notification through a thread

The main thread registers for notification and pauses.  Each notification starts
one more thread in `threadFunc`, which registers again and then empties the queue.
A thread may be overtaken by the one that the next notification starts, so any
number of instances may run at a time, each at its own position.

The machine takes one step per call.  Messages are sent by other processes, which
may also take messages off the queue, between any two steps.
-/

/-- The positions of an instance of `threadFunc`, each named after the call that
comes next. -/
inductive InstancePc where
  | gettingAttributes
  | allocating
  | registering
  | draining
  | freeing
  | finished
deriving DecidableEq, Repr

inductive MainPc where
  | opening
  | registering
  | pausing
deriving DecidableEq, Repr

namespace InstancePc

/-- The instance has not yet called `notifySetup`. -/
def beforeSetup : InstancePc -> Bool
  | .gettingAttributes | .allocating | .registering => true
  | .draining | .freeing | .finished => false

/-- The instance has not yet received `EAGAIN`. -/
def beforeEmpty : InstancePc -> Bool
  | .gettingAttributes | .allocating | .registering | .draining => true
  | .freeing | .finished => false

end InstancePc

/-- The queue and the threads of the process, in the order of the notifications
that started them, with the values of `numRead` printed so far. -/
structure State where
  queue : MessageQueue
  main : MainPc
  instances : List InstancePc
  printed : List Nat
  failure : Option Failure
deriving DecidableEq, Repr

/-- Who makes a call. -/
inductive Party where
  | main
  | thread (number : Nat)
deriving DecidableEq, Repr

/-- A message arrives, another process takes one, a thread makes its next call,
or the call fails for a reason of its own. -/
inductive Action where
  | arrive (message : Message)
  | taken
  | call (party : Party)
  | fail (party : Party) (errno : Errno)
deriving DecidableEq, Repr

namespace State

/-- A message arrives; a notification starts a thread. -/
def arrive (state : State) (message : Message) : Option State :=
  (state.queue.send message).map (fun (notified, queue) =>
    { state with
      queue := queue
      instances := if notified then state.instances ++ [.gettingAttributes] else state.instances })

/-- Another process takes a message. -/
def taken (state : State) : Option State :=
  match state.queue.receive with
  | .error _ => none
  | .ok (_, queue) => some { state with queue := queue }

def move (state : State) (number : Nat) (pc : InstancePc) : State :=
  { state with instances := state.instances.set number pc }

/-- `errExit` ends the process, whichever thread calls it. -/
def exit (dumpcore : Option String) (state : State) (errno : Errno) (call : String) : State :=
  { state with failure := some (errExit dumpcore errno call) }

/-- `notifySetup(mqdp)`: the process ends, or is registered. -/
def notifySetup (dumpcore : Option String) (state : State) : Except State State :=
  match state.queue.notify with
  | .error errno => .error (state.exit dumpcore errno "mq_notify")
  | .ok queue => .ok { state with queue := queue }

/-- The next call of an instance of `threadFunc`. -/
def threadFunc (dumpcore : Option String) (state : State) (number : Nat) : Option State :=
  match state.instances[number]? with
  | none => none
  | some .gettingAttributes => some (state.move number .allocating)
  | some .allocating => some (state.move number .registering)
  | some .registering =>
      match state.notifySetup dumpcore with
      | .error ended => some ended
      | .ok registered => some (registered.move number .draining)
  | some .draining =>
      match state.queue.receive with
      | .ok (message, queue) =>
          some { state with queue := queue, printed := state.printed ++ [message.text.length] }
      | .error errno =>
          if errno ≠ .EAGAIN then some (state.exit dumpcore errno "mq_receive")
          else some (state.move number .freeing)
  | some .freeing => some (state.move number .finished)
  | some .finished => none

/-- The next call of the main thread.  `pause` does not return. -/
def mainStep (dumpcore : Option String) (state : State) : Option State :=
  match state.main with
  | .opening => some { state with main := .registering }
  | .registering =>
      match state.notifySetup dumpcore with
      | .error ended => some ended
      | .ok registered => some { registered with main := .pausing }
  | .pausing => none

/-- The call of a thread that is checked for an error, if its next call is. -/
def checkedCall (state : State) : Party -> Option String
  | .main =>
      match state.main with
      | .opening => some "mq_open"
      | .registering => some "mq_notify"
      | .pausing => none
  | .thread number =>
      match state.instances[number]? with
      | some .gettingAttributes => some "mq_getattr"
      | some .allocating => some "malloc"
      | some .registering => some "mq_notify"
      | some .draining => some "mq_receive"
      | _ => none

/-- A call fails otherwise than by the rules of the queue. -/
def fail (dumpcore : Option String) (state : State) (party : Party) (errno : Errno) :
    Option State :=
  match state.checkedCall party with
  | none => none
  | some call =>
      if errno = .EBUSY ∧ call = "mq_notify" ∨ errno = .EAGAIN ∧ call = "mq_receive" then none
      else some (state.exit dumpcore errno call)

/-- One step.  A process that has ended takes no step. -/
def step (dumpcore : Option String) (state : State) (action : Action) : Option State :=
  match state.failure with
  | some _ => none
  | none =>
      match action with
      | .arrive message => state.arrive message
      | .taken => state.taken
      | .call .main => state.mainStep dumpcore
      | .call (.thread number) => state.threadFunc dumpcore number
      | .fail party errno => state.fail dumpcore party errno

end State

/-- The program starts on any queue to which nobody is registered. -/
def process (dumpcore : Option String) : Machine State Action where
  Initial := fun state => state.main = .opening ∧ state.queue.registered = false ∧
    state.instances = [] ∧ state.failure = none
  step := State.step dumpcore

/-- The queue is empty when the main thread calls `mq_notify`. -/
def EmptyAtFirstNotify (state : State) (action : Action) : Prop :=
  state.main = .registering -> action = .call .main -> state.queue.messages = []

instance (state : State) : DecidablePred (EmptyAtFirstNotify state) := fun action =>
  inferInstanceAs (Decidable (state.main = .registering -> action = .call .main ->
    state.queue.messages = []))

/-! ## One registration, one thread on its way to it -/

/-- The registrations and the instances that have not yet called `notifySetup`. -/
def State.setups (state : State) : Nat :=
  state.queue.registered.toNat + state.instances.countP InstancePc.beforeSetup

/-- The instances that have not yet received `EAGAIN`. -/
def State.drainers (state : State) : Nat := state.instances.countP InstancePc.beforeEmpty

structure Invariant (dumpcore : Option String) (state : State) : Prop where
  unset : state.main ≠ .pausing -> state.setups = 0
  setups : state.main = .pausing -> state.setups = 1
  drained : state.main = .pausing -> state.queue.messages ≠ [] -> 0 < state.drainers
  notBusy : state.failure ≠ some (errExit dumpcore .EBUSY "mq_notify")

/-- An instance that has not yet called `notifySetup` has still to empty the
queue. -/
theorem State.countP_beforeSetup_le (state : State) :
    state.instances.countP InstancePc.beforeSetup ≤ state.drainers := by
  apply List.countP_mono_left
  intro pc _ before
  cases pc <;> first | rfl | cases before

/-- A step that keeps the sum of registrations and instances before their set-up
has only to see to the drainers. -/
theorem Invariant.of_setups {dumpcore : Option String} {state next : State}
    (holds : Invariant dumpcore state) (main : next.main = state.main)
    (failure : next.failure = state.failure) (setups : next.setups = state.setups)
    (drained : state.main = .pausing -> next.queue.messages ≠ [] -> 0 < next.drainers) :
    Invariant dumpcore next where
  unset := by
    rw [main, setups]
    exact holds.unset
  setups := by
    rw [main, setups]
    exact holds.setups
  drained := by
    rw [main]
    exact drained
  notBusy := by
    rw [failure]
    exact holds.notBusy

theorem arrive_preserves {dumpcore : Option String} {state next : State} {message : Message}
    (holds : Invariant dumpcore state) (stepped : state.arrive message = some next) :
    Invariant dumpcore next := by
  rcases Option.map_eq_some_iff.mp stepped with ⟨⟨notified, queue⟩, sent, rfl⟩
  rcases MessageQueue.send_eq_some sent with ⟨-, news | none⟩
  · rcases news with ⟨empty, registered, rfl, used⟩
    refine holds.of_setups rfl rfl ?_ ?_
    · simp [State.setups, List.countP_append, InstancePc.beforeSetup, used, registered, Nat.add_comm]
    · intro _ _
      simp [State.drainers, InstancePc.beforeEmpty]
  · rcases none with ⟨silent, rfl, kept⟩
    refine holds.of_setups rfl rfl ?_ ?_
    · simp [State.setups, kept]
    · intro pausing _
      rcases silent with nonempty | unregistered
      · exact holds.drained pausing nonempty
      · have waiting := state.countP_beforeSetup_le
        have setups := holds.setups pausing
        rw [State.setups, unregistered, Bool.toNat_false, Nat.zero_add] at setups
        exact Nat.lt_of_lt_of_le (by omega) waiting

/-- A message that is taken from the queue leaves the registrations and the drainers alone. -/
theorem Invariant.receive {dumpcore : Option String} {state : State} {message : Message}
    {queue : MessageQueue} (holds : Invariant dumpcore state)
    (received : state.queue.receive = .ok (message, queue)) (printed : List Nat) :
    Invariant dumpcore { state with queue := queue, printed := printed } := by
  rcases MessageQueue.receive_eq_ok received with ⟨nonempty, kept⟩
  refine holds.of_setups rfl rfl ?_ ?_
  · simp [State.setups, kept]
  · intro pausing _
    exact holds.drained pausing nonempty

theorem taken_preserves {dumpcore : Option String} {state next : State}
    (holds : Invariant dumpcore state) (stepped : state.taken = some next) :
    Invariant dumpcore next := by
  unfold State.taken at stepped
  split at stepped
  · cases stepped
  · rename_i message queue received
    cases stepped
    exact holds.receive received state.printed

/-- A failure of another kind than `EBUSY` in `mq_notify` keeps the invariant. -/
theorem Invariant.exit {dumpcore : Option String} {state : State} {errno : Errno} {call : String}
    (holds : Invariant dumpcore state) (other : ¬ (errno = .EBUSY ∧ call = "mq_notify")) :
    Invariant dumpcore (state.exit dumpcore errno call) where
  unset := holds.unset
  setups := holds.setups
  drained := holds.drained
  notBusy := by
    intro same
    apply other
    simpa [State.exit, errExit] using same

/-- Moving an instance on changes the two counts by what its position
contributes. -/
theorem State.move_counts {state : State} {number : Nat} {old : InstancePc}
    (found : state.instances[number]? = some old) (new : InstancePc) :
    (state.move number new).setups + old.beforeSetup.toNat = state.setups + new.beforeSetup.toNat ∧
      (state.move number new).drainers + old.beforeEmpty.toNat =
        state.drainers + new.beforeEmpty.toNat := by
  have setups := countP_set_balance InstancePc.beforeSetup found new
  have drainers := countP_set_balance InstancePc.beforeEmpty found new
  simp only [State.setups, State.drainers, State.move]
  omega

/-- A move that changes neither count keeps the invariant. -/
theorem Invariant.move {dumpcore : Option String} {state : State} {number : Nat}
    {old new : InstancePc} (holds : Invariant dumpcore state)
    (found : state.instances[number]? = some old)
    (setup : new.beforeSetup = old.beforeSetup) (empty : new.beforeEmpty = old.beforeEmpty) :
    Invariant dumpcore (state.move number new) := by
  rcases State.move_counts found new with ⟨setups, drainers⟩
  rw [setup] at setups
  rw [empty] at drainers
  refine holds.of_setups rfl rfl ?_ ?_
  · exact Nat.add_right_cancel setups
  · intro pausing nonempty
    rw [Nat.add_right_cancel drainers]
    exact holds.drained pausing nonempty

/-- While an instance is on its way to `notifySetup` there is no registration,
so its call of `mq_notify` succeeds. -/
theorem notifySetup_of_unregistered {dumpcore : Option String} {state : State}
    (unregistered : state.queue.registered = false) :
    state.notifySetup dumpcore = .ok { state with queue := { state.queue with registered := true } } := by
  simp [State.notifySetup, MessageQueue.notify, unregistered]

theorem Invariant.unregistered {dumpcore : Option String} {state : State} {number : Nat}
    {pc : InstancePc} (holds : Invariant dumpcore state)
    (found : state.instances[number]? = some pc) (before : pc.beforeSetup = true) :
    state.main = .pausing ∧ state.queue.registered = false := by
  have positive : 0 < state.instances.countP InstancePc.beforeSetup :=
    List.countP_pos_iff.mpr ⟨pc, List.mem_of_getElem? found, before⟩
  by_cases pausing : state.main = .pausing
  · have setups := holds.setups pausing
    refine ⟨pausing, ?_⟩
    cases registered : state.queue.registered with
    | false => rfl
    | true =>
        rw [State.setups, registered, Bool.toNat_true] at setups
        omega
  · have setups := holds.unset pausing
    rw [State.setups] at setups
    omega

theorem thread_preserves {dumpcore : Option String} {state next : State} {number : Nat}
    (holds : Invariant dumpcore state) (stepped : state.threadFunc dumpcore number = some next) :
    Invariant dumpcore next := by
  unfold State.threadFunc at stepped
  split at stepped
  · cases stepped
  · rename_i found
    cases stepped
    exact holds.move found rfl rfl
  · rename_i found
    cases stepped
    exact holds.move found rfl rfl
  · rename_i found
    rcases holds.unregistered found rfl with ⟨pausing, unregistered⟩
    rw [notifySetup_of_unregistered unregistered] at stepped
    cases stepped
    -- The thread hands its place in the sum over to the registration.
    rcases State.move_counts found .draining with ⟨setups, drainers⟩
    simp only [InstancePc.beforeSetup, InstancePc.beforeEmpty, Bool.toNat_true,
      Bool.toNat_false] at setups drainers
    refine holds.of_setups rfl rfl ?_ ?_
    · simp only [State.setups, State.move, unregistered, Bool.toNat_true,
        Bool.toNat_false] at setups ⊢
      omega
    · intro _ nonempty
      have positive := holds.drained pausing nonempty
      simp only [State.drainers, State.move] at drainers positive ⊢
      omega
  · rename_i found
    split at stepped
    · rename_i message queue received
      cases stepped
      exact holds.receive received _
    · rename_i errno failed
      rcases MessageQueue.receive_eq_error failed with ⟨rfl, empty⟩
      rw [if_neg (not_not_intro rfl)] at stepped
      cases stepped
      rcases State.move_counts found .freeing with ⟨setups, -⟩
      refine holds.of_setups rfl rfl ?_ ?_
      · exact Nat.add_right_cancel setups
      · intro _ nonempty
        exact absurd empty nonempty
  · rename_i found
    cases stepped
    exact holds.move found rfl rfl
  · cases stepped

theorem main_preserves {dumpcore : Option String} {state next : State}
    (holds : Invariant dumpcore state)
    (condition : state.main = .registering -> state.queue.messages = [])
    (stepped : state.mainStep dumpcore = some next) : Invariant dumpcore next := by
  unfold State.mainStep at stepped
  split at stepped
  · rename_i opening
    cases stepped
    have unset := holds.unset (by simp [opening])
    refine ⟨fun _ => unset, ?_, ?_, holds.notBusy⟩
    · intro impossible
      cases impossible
    · intro impossible
      cases impossible
  · rename_i registering
    have unset := holds.unset (by simp [registering])
    rw [State.setups, Nat.add_eq_zero_iff, Bool.toNat_eq_zero] at unset
    rw [notifySetup_of_unregistered unset.1] at stepped
    cases stepped
    refine ⟨fun notPausing => absurd rfl notPausing, ?_, ?_, holds.notBusy⟩
    · intro _
      simp [State.setups, unset.2]
    · intro _ nonempty
      exact absurd (condition registering) nonempty
  · cases stepped

theorem fail_preserves {dumpcore : Option String} {state next : State} {party : Party}
    {errno : Errno} (holds : Invariant dumpcore state)
    (stepped : state.fail dumpcore party errno = some next) : Invariant dumpcore next := by
  unfold State.fail at stepped
  split at stepped
  · cases stepped
  · split at stepped
    · cases stepped
    · rename_i other
      cases stepped
      apply holds.exit
      intro busy
      exact other (Or.inl busy)

theorem reachable_invariant {dumpcore : Option String} {state : State}
    (reachable : (process dumpcore).ReachableUnder EmptyAtFirstNotify state) :
    Invariant dumpcore state := by
  refine Machine.ReachableUnder.invariant ?_ ?_ reachable
  · rintro state ⟨opening, unregistered, none, running⟩
    refine ⟨?_, ?_, ?_, ?_⟩
    · intro _
      simp [State.setups, unregistered, none]
    · rw [opening]
      intro impossible
      cases impossible
    · rw [opening]
      intro impossible
      cases impossible
    · rw [running]
      simp
  · intro state action next holds condition stepped
    simp only [process, State.step] at stepped
    split at stepped
    · cases stepped
    · cases action with
      | arrive message => exact arrive_preserves holds stepped
      | taken => exact taken_preserves holds stepped
      | call party =>
          cases party with
          | main => exact main_preserves holds (fun position => condition position rfl) stepped
          | thread number => exact thread_preserves holds stepped
      | fail party errno => exact fail_preserves holds stepped

/-- No message is stranded.  Once the main thread has registered, the
registrations and the instances on their way to `notifySetup` are one together,
so that `mq_notify` never finds the process registered.  While there is a message
on the queue some instance has still to see the queue empty. -/
theorem message_not_stranded (dumpcore : Option String) {state : State}
    (reachable : (process dumpcore).ReachableUnder EmptyAtFirstNotify state) :
    (state.main = .pausing ->
      state.queue.registered.toNat + state.instances.countP InstancePc.beforeSetup = 1 ∧
      (state.queue.messages ≠ [] -> Exists fun number : Nat => Exists fun pc : InstancePc =>
        state.instances[number]? = some pc ∧ pc.beforeEmpty = true)) ∧
    (forall number : Nat, state.instances[number]? = some .registering ->
      state.queue.notify ≠ .error .EBUSY) ∧
    state.failure ≠ some (errExit dumpcore .EBUSY "mq_notify") := by
  have holds := reachable_invariant reachable
  refine ⟨?_, ?_, holds.notBusy⟩
  · intro pausing
    refine ⟨holds.setups pausing, ?_⟩
    intro nonempty
    have positive := holds.drained pausing nonempty
    rcases List.countP_pos_iff.mp positive with ⟨pc, member, before⟩
    rcases List.mem_iff_getElem?.mp member with ⟨number, found⟩
    exact ⟨number, pc, found, before⟩
  · intro number found busy
    rcases MessageQueue.notify_eq_error busy with ⟨registered, -⟩
    rw [(holds.unregistered found rfl).2] at registered
    cases registered

/-- A queue for ten messages with nothing on it, before the program starts. -/
def idleState : State where
  queue := { mq_maxmsg := 10, messages := [], registered := false }
  main := .opening
  instances := []
  printed := []
  failure := none

/-- The first instance empties the queue, is overtaken by a second message before
it sees `EAGAIN`, and two instances drain at a time. -/
def overlap : List Action :=
  [.call .main, .call .main, .arrive ⟨0, [104]⟩, .call (.thread 0), .call (.thread 0),
    .call (.thread 0), .call (.thread 0), .arrive ⟨0, [105]⟩, .call (.thread 1), .call (.thread 1),
    .call (.thread 1)]

def overlapState : State :=
  ((process none).execUnder EmptyAtFirstNotify idleState overlap).get (by decide +kernel)

theorem message_not_stranded_overlap :
    overlapState.instances = [.draining, .draining] ∧ overlapState.queue.messages ≠ [] ∧
      overlapState.queue.registered.toNat +
        overlapState.instances.countP InstancePc.beforeSetup = 1 := by
  have initial : (process none).Initial idleState := ⟨rfl, rfl, rfl, rfl⟩
  have executed : (process none).execUnder EmptyAtFirstNotify idleState overlap =
      some overlapState := (Option.some_get _).symm
  have reachable := Machine.ReachableUnder.execUnder
    (.initial initial : (process none).ReachableUnder EmptyAtFirstNotify idleState) executed
  have pausing : overlapState.main = .pausing := by decide +kernel
  exact ⟨by decide +kernel, by decide +kernel,
    ((message_not_stranded none reachable).1 pausing).1⟩

end MqNotifyThread
end PosixMsgqueue
end Tlpi
