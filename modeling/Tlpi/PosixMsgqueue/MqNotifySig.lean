import Tlpi.CLibrary.MessageQueue
import Tlpi.Foundations.Transition
import Tlpi.Lib.ErrorFunctions

namespace Tlpi
namespace PosixMsgqueue
namespace MqNotifySig

open CLibrary Foundations Lib

/-!
# Message notification through a signal

The program registers for notification, waits for the signal in `sigsuspend`,
registers again, and only then empties the queue.  Between any two of its calls
other processes may send messages to the queue and take messages off it.

The machine takes one step per call.  `NOTIFY_SIG` is sent by nothing but the
queue.  It stays pending while it is blocked, and a second one that arrives then
is not queued.  `sigsuspend` is split into its entry, which replaces the mask,
and the delivery that ends it and puts the mask back.
-/

/-- The positions of the program, each named after the call that comes next. -/
inductive Pc where
  | opening
  | gettingAttributes
  | allocating
  | blocking
  | establishing
  | registering
  | entering
  | suspended
  | reregistering
  | draining
  | failed (failure : Failure)
  | killed
deriving DecidableEq, Repr

def Pc.ended : Pc -> Bool
  | .failed _ | .killed => true
  | _ => false

/-- The queue, what the kernel keeps about `NOTIFY_SIG` for the process, and the
values of `numRead` that the program has printed. -/
structure State where
  pc : Pc
  queue : MessageQueue
  pending : Bool
  blocked : Bool
  handled : Bool
  printed : List Nat
deriving DecidableEq, Repr

/-- A message arrives, another process takes one, the program makes its next
call, the call fails for a reason of its own, or the signal is delivered. -/
inductive Action where
  | arrive (message : Message)
  | taken
  | program
  | fail (errno : Errno)
  | deliver
deriving DecidableEq, Repr

namespace State

/-- A message arrives; a notification makes the signal pending. -/
def arrive (state : State) (message : Message) : Option State :=
  (state.queue.send message).map (fun (notified, queue) =>
    { state with queue := queue, pending := state.pending || notified })

/-- Another process takes a message. -/
def taken (state : State) : Option State :=
  match state.queue.receive with
  | .error _ => none
  | .ok (_, queue) => some { state with queue := queue }

/-- `mq_notify(mqd, &sev)`, and `errExit` if it fails. -/
def mqNotify (dumpcore : Option String) (state : State) (next : Pc) : State :=
  match state.queue.notify with
  | .error errno => { state with pc := .failed (errExit dumpcore errno "mq_notify") }
  | .ok queue => { state with queue := queue, pc := next }

/-- One turn of the `mq_receive` loop, with what follows it. -/
def mqReceive (dumpcore : Option String) (state : State) : State :=
  match state.queue.receive with
  | .ok (message, queue) =>
      { state with queue := queue, printed := state.printed ++ [message.text.length] }
  | .error errno =>
      if errno ≠ .EAGAIN then
        { state with pc := .failed (errExit dumpcore errno "mq_receive") }
      else { state with pc := .entering }

/-- The program makes its next call.  In `sigsuspend` it makes none. -/
def programStep (dumpcore : Option String) (state : State) : Option State :=
  match state.pc with
  | .opening => some { state with pc := .gettingAttributes }
  | .gettingAttributes => some { state with pc := .allocating }
  | .allocating => some { state with pc := .blocking }
  | .blocking => some { state with pc := .establishing, blocked := true }
  | .establishing => some { state with pc := .registering, handled := true }
  | .registering => some (state.mqNotify dumpcore .entering)
  | .entering => some { state with pc := .suspended, blocked := false }
  | .suspended => none
  | .reregistering => some (state.mqNotify dumpcore .draining)
  | .draining => some (state.mqReceive dumpcore)
  | .failed _ | .killed => none

/-- A call fails otherwise than by the rules of the queue. -/
def failStep (dumpcore : Option String) (state : State) (errno : Errno) : Option State :=
  let ending (call : String) := some { state with pc := .failed (errExit dumpcore errno call) }
  match state.pc with
  | .opening => ending "mq_open"
  | .gettingAttributes => ending "mq_getattr"
  | .allocating => ending "malloc"
  | .blocking => ending "sigprocmask"
  | .establishing => ending "sigaction"
  | .registering | .reregistering => if errno = .EBUSY then none else ending "mq_notify"
  | .draining => if errno = .EAGAIN then none else ending "mq_receive"
  | .entering | .suspended | .failed _ | .killed => none

/-- The delivery of a pending signal that is not blocked.  The handler does
nothing; when it returns, so does `sigsuspend`, with the old mask.  Without a
handler the signal ends the process. -/
def deliver (state : State) : Option State :=
  if state.pending ∧ state.blocked = false ∧ state.pc.ended = false then
    if state.handled then
      match state.pc with
      | .suspended => some { state with pending := false, blocked := true, pc := .reregistering }
      | _ => some { state with pending := false }
    else some { state with pending := false, pc := .killed }
  else none

def step (dumpcore : Option String) (state : State) : Action -> Option State
  | .arrive message => state.arrive message
  | .taken => state.taken
  | .program => state.programStep dumpcore
  | .fail errno => state.failStep dumpcore errno
  | .deliver => state.deliver

end State

/-- The program starts on any queue to which nobody is registered. -/
def process (dumpcore : Option String) : Machine State Action where
  Initial := fun state => state.pc = .opening ∧ state.queue.registered = false ∧
    state.pending = false
  step := State.step dumpcore

/-- The queue is empty when the first `mq_notify` is called. -/
def EmptyAtFirstNotify (state : State) (action : Action) : Prop :=
  state.pc = .registering -> action = .program -> state.queue.messages = []

instance (state : State) : DecidablePred (EmptyAtFirstNotify state) := fun action =>
  inferInstanceAs (Decidable (state.pc = .registering -> action = .program ->
    state.queue.messages = []))

/-! ## What holds at each position -/

namespace State

/-- Exactly one of the registration and the pending signal is there. -/
def Exclusive (state : State) : Prop :=
  (state.queue.registered = true ∧ state.pending = false) ∨
    (state.queue.registered = false ∧ state.pending = true)

/-- A queue that is not empty has made the signal pending. -/
def Noticed (state : State) : Prop := state.queue.messages ≠ [] -> state.pending = true

/-- There is neither a registration nor a pending signal. -/
def Idle (state : State) : Prop := state.queue.registered = false ∧ state.pending = false

end State

/-- What holds at each position of the program. -/
def Invariant (dumpcore : Option String) (state : State) : Prop :=
  match state.pc with
  | .opening | .gettingAttributes | .allocating | .blocking => state.Idle
  | .establishing => state.Idle ∧ state.blocked = true
  | .registering => state.Idle ∧ state.blocked = true ∧ state.handled = true
  | .entering =>
      state.Exclusive ∧ state.Noticed ∧ state.blocked = true ∧ state.handled = true
  | .suspended => state.Exclusive ∧ state.Noticed ∧ state.handled = true
  | .reregistering => state.Idle ∧ state.blocked = true ∧ state.handled = true
  | .draining => state.Exclusive ∧ state.blocked = true ∧ state.handled = true
  | .failed failure => failure ≠ errExit dumpcore .EBUSY "mq_notify"
  | .killed => False

/-- A step of another process preserves the invariant if it preserves what the
invariant is made of. -/
theorem Invariant.frame {dumpcore : Option String} {state next : State}
    (holds : Invariant dumpcore state) (pc : next.pc = state.pc)
    (blocked : next.blocked = state.blocked) (handled : next.handled = state.handled)
    (idle : state.Idle -> next.Idle) (exclusive : state.Exclusive -> next.Exclusive)
    (noticed : state.Exclusive -> state.Noticed -> next.Noticed) : Invariant dumpcore next := by
  unfold Invariant at holds ⊢
  rw [pc]
  cases position : state.pc <;> simp only [position, blocked, handled] at holds ⊢
  case opening => exact idle holds
  case gettingAttributes => exact idle holds
  case allocating => exact idle holds
  case blocking => exact idle holds
  case establishing => exact ⟨idle holds.1, holds.2⟩
  case registering => exact ⟨idle holds.1, holds.2⟩
  case entering => exact ⟨exclusive holds.1, noticed holds.1 holds.2.1, holds.2.2⟩
  case suspended => exact ⟨exclusive holds.1, noticed holds.1 holds.2.1, holds.2.2⟩
  case reregistering => exact ⟨idle holds.1, holds.2⟩
  case draining => exact ⟨exclusive holds.1, holds.2⟩
  case failed => exact holds

theorem arrive_preserves {dumpcore : Option String} {state next : State} {message : Message}
    (holds : Invariant dumpcore state) (stepped : state.arrive message = some next) :
    Invariant dumpcore next := by
  rcases Option.map_eq_some_iff.mp stepped with ⟨⟨notified, queue⟩, sent, rfl⟩
  rcases MessageQueue.send_eq_some sent with ⟨nonempty, news | none⟩
  · rcases news with ⟨empty, registered, rfl, used⟩
    refine holds.frame rfl rfl rfl ?_ ?_ ?_
    · intro idle
      rw [idle.1] at registered
      cases registered
    · intro _
      exact .inr ⟨used, Bool.or_true _⟩
    · intro _ _ _
      exact Bool.or_true _
  · rcases none with ⟨silent, rfl, kept⟩
    refine holds.frame rfl rfl rfl ?_ ?_ ?_
    · intro idle
      exact ⟨kept.trans idle.1, by simp [idle.2]⟩
    · intro exclusive
      simpa [State.Exclusive, kept] using exclusive
    · intro exclusive noticed _
      have pending : state.pending = true := by
        rcases exclusive with ⟨registered, -⟩ | ⟨-, pending⟩
        · apply noticed
          rcases silent with nonempty | unregistered
          · exact nonempty
          · rw [unregistered] at registered
            cases registered
        · exact pending
      simp [pending]

theorem taken_preserves {dumpcore : Option String} {state next : State}
    (holds : Invariant dumpcore state) (stepped : state.taken = some next) :
    Invariant dumpcore next := by
  unfold State.taken at stepped
  split at stepped
  · cases stepped
  · rename_i message queue received
    cases stepped
    rcases MessageQueue.receive_eq_ok received with ⟨nonempty, kept⟩
    refine holds.frame rfl rfl rfl ?_ ?_ ?_
    · intro idle
      exact ⟨kept.trans idle.1, idle.2⟩
    · intro exclusive
      simpa [State.Exclusive, kept] using exclusive
    · intro _ noticed _
      exact noticed nonempty

/-- A registration that is called for while there is none succeeds, and is then
the only one of the two. -/
theorem mqNotify_of_idle {dumpcore : Option String} {state : State} {next : Pc}
    (idle : state.Idle) :
    (state.mqNotify dumpcore next).pc = next ∧
      (state.mqNotify dumpcore next).queue.messages = state.queue.messages ∧
      (state.mqNotify dumpcore next).blocked = state.blocked ∧
      (state.mqNotify dumpcore next).handled = state.handled ∧
      (state.mqNotify dumpcore next).Exclusive := by
  simp [State.mqNotify, MessageQueue.notify, State.Exclusive, idle.1, idle.2]

theorem mqReceive_preserves {dumpcore : Option String} {state : State}
    (position : state.pc = .draining)
    (holds : state.Exclusive ∧ state.blocked = true ∧ state.handled = true) :
    Invariant dumpcore (state.mqReceive dumpcore) := by
  unfold State.mqReceive
  split
  · rename_i message queue received
    rcases MessageQueue.receive_eq_ok received with ⟨-, kept⟩
    simpa [Invariant, position, State.Exclusive, kept] using holds
  · rename_i errno failed
    rcases MessageQueue.receive_eq_error failed with ⟨rfl, empty⟩
    rw [if_neg (not_not_intro rfl)]
    exact ⟨holds.1, fun nonempty => absurd empty nonempty, holds.2⟩

theorem program_preserves {dumpcore : Option String} {state next : State}
    (holds : Invariant dumpcore state)
    (condition : state.pc = .registering -> state.queue.messages = [])
    (stepped : state.programStep dumpcore = some next) : Invariant dumpcore next := by
  unfold State.programStep at stepped
  unfold Invariant at holds
  cases position : state.pc <;> simp only [position] at stepped holds condition <;> cases stepped
  case opening => exact holds
  case gettingAttributes => exact holds
  case allocating => exact holds
  case blocking => exact ⟨holds, rfl⟩
  case establishing => exact ⟨holds.1, holds.2, rfl⟩
  case registering =>
      rcases holds with ⟨idle, blocked, handled⟩
      rcases mqNotify_of_idle idle with ⟨pc, messages, sameBlocked, sameHandled, exclusive⟩
      unfold Invariant
      rw [pc]
      refine ⟨exclusive, ?_, sameBlocked.trans blocked, sameHandled.trans handled⟩
      intro nonempty
      exact absurd (messages.trans (condition trivial)) nonempty
  case entering => exact ⟨holds.1, holds.2.1, holds.2.2.2⟩
  case reregistering =>
      rcases holds with ⟨idle, blocked, handled⟩
      rcases mqNotify_of_idle idle with ⟨pc, -, sameBlocked, sameHandled, exclusive⟩
      unfold Invariant
      rw [pc]
      exact ⟨exclusive, sameBlocked.trans blocked, sameHandled.trans handled⟩
  case draining => exact mqReceive_preserves position holds

theorem fail_preserves {dumpcore : Option String} {state next : State} {errno : Errno}
    (stepped : state.failStep dumpcore errno = some next) : Invariant dumpcore next := by
  unfold State.failStep at stepped
  cases position : state.pc <;> simp only [position] at stepped
  case registering | reregistering =>
      split at stepped
      · cases stepped
      · cases stepped
        simpa [Invariant, errExit] using ‹¬ errno = .EBUSY›
  case draining =>
      split at stepped
      · cases stepped
      · cases stepped
        simp [Invariant, errExit]
  all_goals
    cases stepped
    try simp [Invariant, errExit]

theorem deliver_preserves {dumpcore : Option String} {state next : State}
    (holds : Invariant dumpcore state) (stepped : state.deliver = some next) :
    Invariant dumpcore next := by
  unfold State.deliver at stepped
  split at stepped
  · rename_i deliverable
    rcases deliverable with ⟨pending, unblocked, running⟩
    unfold Invariant at holds
    cases position : state.pc <;>
      simp only [position, State.Idle, pending, unblocked] at stepped holds
    case suspended =>
        rcases holds with ⟨exclusive, -, handled⟩
        rw [if_pos handled] at stepped
        cases stepped
        have unregistered : state.queue.registered = false := by
          simpa [State.Exclusive, pending] using exclusive
        exact ⟨⟨unregistered, rfl⟩, rfl, handled⟩
    case failed => simp [Pc.ended, position] at running
    all_goals simp at holds
  · cases stepped

theorem reachable_invariant {dumpcore : Option String} {state : State}
    (reachable : (process dumpcore).ReachableUnder EmptyAtFirstNotify state) :
    Invariant dumpcore state := by
  refine Machine.ReachableUnder.invariant ?_ ?_ reachable
  · rintro state ⟨opening, unregistered, quiet⟩
    unfold Invariant
    rw [opening]
    exact ⟨unregistered, quiet⟩
  · intro state action next holds condition stepped
    cases action with
    | arrive message => exact arrive_preserves holds stepped
    | taken => exact taken_preserves holds stepped
    | program =>
        exact program_preserves holds (fun position => condition position rfl) stepped
    | fail errno => exact fail_preserves stepped
    | deliver => exact deliver_preserves holds stepped

/-- A signal that is pending when `sigsuspend` is called ends it at once. -/
theorem sigsuspend_returns {dumpcore : Option String} {state : State}
    (position : state.pc = .entering) (pending : state.pending = true)
    (handled : state.handled = true) :
    (process dumpcore).exec state [.program, .deliver] =
      some { state with pc := .reregistering, pending := false, blocked := true } := by
  simp [Machine.exec, process, State.step, State.programStep, State.deliver, Pc.ended, position,
    pending, handled]

/-- No notification is lost.  Whenever the program is about to call `sigsuspend`
it is registered or the signal is pending, and not both.  If there is a message
on the queue then the signal is pending, so that `sigsuspend` returns.  The call
of `mq_notify` in the loop never finds the program still registered. -/
theorem notification_not_lost (dumpcore : Option String) {state : State}
    (reachable : (process dumpcore).ReachableUnder EmptyAtFirstNotify state) :
    (state.pc = .entering -> state.Exclusive ∧
      (state.queue.messages ≠ [] -> state.pending = true ∧
        (process dumpcore).exec state [.program, .deliver] =
          some { state with pc := .reregistering, pending := false, blocked := true })) ∧
    (state.pc = .suspended -> state.queue.messages ≠ [] -> state.pending = true) ∧
    (state.pc = .reregistering -> state.queue.notify ≠ .error .EBUSY) ∧
    state.pc ≠ .failed (errExit dumpcore .EBUSY "mq_notify") ∧ state.pc ≠ .killed := by
  have holds := reachable_invariant reachable
  unfold Invariant at holds
  refine ⟨?_, ?_, ?_, ?_, ?_⟩
  · intro position
    rw [position] at holds
    rcases holds with ⟨exclusive, noticed, -, handled⟩
    refine ⟨exclusive, ?_⟩
    intro nonempty
    have pending : state.pending = true := noticed nonempty
    exact ⟨pending, sigsuspend_returns position pending handled⟩
  · intro position
    rw [position] at holds
    exact holds.2.1
  · intro position busy
    rw [position] at holds
    rcases MessageQueue.notify_eq_error busy with ⟨registered, -⟩
    rw [holds.1.1] at registered
    cases registered
  · intro position
    rw [position] at holds
    exact holds rfl
  · intro position
    rw [position] at holds
    exact holds

/-- A queue for ten messages with nothing on it, before the program starts. -/
def idleState : State where
  pc := .opening
  queue := { mq_maxmsg := 10, messages := [], registered := false }
  pending := false
  blocked := false
  handled := false
  printed := []

/-- A message arrives after the program has registered, a second one while it
drains the queue of the first, and a third one after the queue was empty. -/
def threeMessages : List Action :=
  [.program, .program, .program, .program, .program, .program, .arrive ⟨0, [104]⟩, .program,
    .deliver, .program, .arrive ⟨1, [105]⟩, .program, .program, .program, .arrive ⟨0, [106]⟩]

/-- The program after that run, about to call `sigsuspend`. -/
def threeMessagesState : State :=
  ((process none).execUnder EmptyAtFirstNotify idleState threeMessages).get (by decide +kernel)

theorem notification_not_lost_three_messages :
    threeMessagesState.pc = .entering ∧ threeMessagesState.printed = [1, 1] ∧
      threeMessagesState.queue.messages ≠ [] ∧ threeMessagesState.pending = true := by
  have initial : (process none).Initial idleState := ⟨rfl, rfl, rfl⟩
  have executed : (process none).execUnder EmptyAtFirstNotify idleState threeMessages =
      some threeMessagesState := (Option.some_get _).symm
  have reachable := Machine.ReachableUnder.execUnder
    (.initial initial : (process none).ReachableUnder EmptyAtFirstNotify idleState) executed
  have position : threeMessagesState.pc = .entering := by decide +kernel
  have nonempty : threeMessagesState.queue.messages ≠ [] := by decide +kernel
  have lost := (notification_not_lost none reachable).1 position
  exact ⟨position, by decide +kernel, nonempty, (lost.2 nonempty).1⟩

end MqNotifySig
end PosixMsgqueue
end Tlpi
