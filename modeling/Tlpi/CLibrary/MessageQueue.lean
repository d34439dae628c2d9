import Tlpi.CLibrary.Descriptor

namespace Tlpi
namespace CLibrary

/-!
# POSIX message queues with notification

A queue holds messages in the order in which they will be received: higher
priorities first, and messages of one priority as they came.  One process may be
registered to be told when a message arrives on the queue while it is empty.
The registration is used up by the notification.

A message sent while some process is blocked in `mq_receive` goes to that process
directly.  It is never on the queue and causes no notification, so it is no event
of the queue here.
-/

structure Message where
  priority : Nat
  text : List Byte
deriving DecidableEq, Repr

structure MessageQueue where
  mq_maxmsg : Nat
  messages : List Message
  registered : Bool
deriving DecidableEq, Repr

namespace MessageQueue

/-- Put a message behind those of its priority. -/
def insertMessage (message : Message) : List Message -> List Message
  | [] => [message]
  | head :: rest =>
      if head.priority < message.priority then message :: head :: rest
      else head :: insertMessage message rest

/-- `mq_send`, when it does not have to wait for room: whether a notification is
issued, and the queue afterwards. -/
def send (queue : MessageQueue) (message : Message) : Option (Bool × MessageQueue) :=
  if queue.messages.length < queue.mq_maxmsg then
    let notified := queue.messages.isEmpty && queue.registered
    some (notified,
      { queue with
        messages := insertMessage message queue.messages
        registered := queue.registered && !notified })
  else none

/-- `mq_receive` on a descriptor with `O_NONBLOCK`. -/
def receive (queue : MessageQueue) : Except Errno (Message × MessageQueue) :=
  match queue.messages with
  | [] => .error .EAGAIN
  | message :: rest => .ok (message, { queue with messages := rest })

/-- `mq_notify` with a notification request. -/
def notify (queue : MessageQueue) : Except Errno MessageQueue :=
  if queue.registered then .error .EBUSY else .ok { queue with registered := true }

theorem insertMessage_ne_nil (message : Message) (messages : List Message) :
    insertMessage message messages ≠ [] := by
  cases messages with
  | nil => simp [insertMessage]
  | cons head rest =>
      unfold insertMessage
      split <;> simp

variable {queue after : MessageQueue} {message : Message} {notified : Bool}

/-- A sent message is on the queue.  It issues a notification, and uses up the
registration, exactly when it finds the queue empty and a process registered. -/
theorem send_eq_some (sent : queue.send message = some (notified, after)) :
    after.messages ≠ [] ∧
      ((queue.messages = [] ∧ queue.registered = true ∧ notified = true ∧
          after.registered = false) ∨
        ((queue.messages ≠ [] ∨ queue.registered = false) ∧ notified = false ∧
          after.registered = queue.registered)) := by
  unfold send at sent
  split at sent
  · cases sent
    refine ⟨insertMessage_ne_nil message queue.messages, ?_⟩
    cases queue.messages <;> cases queue.registered <;> simp
  · cases sent

theorem receive_eq_ok (received : queue.receive = .ok (message, after)) :
    queue.messages ≠ [] ∧ after.registered = queue.registered := by
  unfold receive at received
  split at received
  · cases received
  · rename_i head rest found
    cases received
    exact ⟨by simp [found], rfl⟩

theorem receive_eq_error {errno : Errno} (failed : queue.receive = .error errno) :
    errno = .EAGAIN ∧ queue.messages = [] := by
  unfold receive at failed
  split at failed
  · cases failed
    exact ⟨rfl, ‹_›⟩
  · cases failed

theorem notify_eq_error {errno : Errno} (failed : queue.notify = .error errno) :
    queue.registered = true ∧ errno = .EBUSY := by
  unfold notify at failed
  split at failed
  · cases failed
    exact ⟨‹_›, rfl⟩
  · cases failed

/-!
### The order of the messages
-/

/-- The messages of one priority. -/
def ofPriority (priority : Nat) (messages : List Message) : List Message :=
  messages.filter (fun message => message.priority = priority)

/-- Higher priorities come first. -/
def Ordered (messages : List Message) : Prop :=
  messages.Pairwise (fun first second => second.priority ≤ first.priority)

theorem mem_insertMessage {message other : Message} {messages : List Message} :
    other ∈ insertMessage message messages <-> other = message ∨ other ∈ messages := by
  induction messages with
  | nil => simp [insertMessage]
  | cons head rest inductionHypothesis =>
      unfold insertMessage
      split
      · exact List.mem_cons
      · rw [List.mem_cons, inductionHypothesis, List.mem_cons]
        exact or_left_comm

theorem Ordered.insertMessage {messages : List Message} (ordered : Ordered messages)
    (message : Message) : Ordered (MessageQueue.insertMessage message messages) := by
  induction messages with
  | nil => exact List.pairwise_singleton _ _
  | cons head rest inductionHypothesis =>
      rcases List.pairwise_cons.mp ordered with ⟨first, others⟩
      unfold MessageQueue.insertMessage
      split
      · rename_i lower
        refine List.pairwise_cons.mpr ⟨?_, ordered⟩
        intro other member
        rcases List.mem_cons.mp member with here | there
        · rw [here]
          exact le_of_lt lower
        · exact le_trans (first other there) (le_of_lt lower)
      · rename_i notLower
        refine List.pairwise_cons.mpr ⟨?_, inductionHypothesis others⟩
        intro other member
        rcases mem_insertMessage.mp member with here | there
        · rw [here]
          exact not_lt.mp notLower
        · exact first other there

/-- A message goes behind those of its priority, and past none of another. -/
theorem ofPriority_insertMessage {messages : List Message} (ordered : Ordered messages)
    (message : Message) (priority : Nat) :
    ofPriority priority (insertMessage message messages) =
      ofPriority priority messages ++ ofPriority priority [message] := by
  induction messages with
  | nil => rfl
  | cons head rest inductionHypothesis =>
      rcases List.pairwise_cons.mp ordered with ⟨first, others⟩
      unfold insertMessage
      split
      · rename_i lower
        by_cases same : message.priority = priority
        · have none : ofPriority priority (head :: rest) = [] := by
            apply List.filter_eq_nil_iff.mpr
            intro other member
            have below : other.priority ≤ head.priority := by
              rcases List.mem_cons.mp member with here | there
              · rw [here]
              · exact first other there
            rw [decide_eq_true_eq]
            omega
          rw [none, List.nil_append]
          unfold ofPriority at none ⊢
          rw [List.filter_cons_of_pos (by simp [same]), none]
          simp [same]
        · unfold ofPriority
          rw [List.filter_cons_of_neg (by simp [same])]
          simp [same]
      · have there := inductionHypothesis others
        unfold ofPriority at there ⊢
        by_cases same : head.priority = priority
        · rw [List.filter_cons_of_pos (by simp [same]), List.filter_cons_of_pos (by simp [same]), there]
          rfl
        · rw [List.filter_cons_of_neg (by simp [same]), List.filter_cons_of_neg (by simp [same]), there]

theorem ofPriority_append (priority : Nat) (first second : List Message) :
    ofPriority priority (first ++ second) = ofPriority priority first ++ ofPriority priority second :=
  List.filter_append ..

theorem length_insertMessage (message : Message) (messages : List Message) :
    (insertMessage message messages).length = messages.length + 1 := by
  induction messages with
  | nil => rfl
  | cons head rest inductionHypothesis =>
      unfold insertMessage
      split
      · rfl
      · rw [List.length_cons, inductionHypothesis, List.length_cons]

theorem messages_of_send (sent : queue.send message = some (notified, after)) :
    queue.messages.length < queue.mq_maxmsg ∧ after.mq_maxmsg = queue.mq_maxmsg ∧
      after.messages = insertMessage message queue.messages := by
  unfold send at sent
  split at sent
  · rename_i room
    cases sent
    exact ⟨room, rfl, rfl⟩
  · cases sent

theorem messages_of_receive (received : queue.receive = .ok (message, after)) :
    queue.messages = message :: after.messages ∧ after.mq_maxmsg = queue.mq_maxmsg := by
  unfold receive at received
  split at received
  · cases received
  · rename_i there
    cases received
    exact ⟨there, rfl⟩

end MessageQueue

end CLibrary
end Tlpi
