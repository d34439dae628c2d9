import Mathlib.Data.List.Nodup
import Mathlib.Logic.Function.Basic
import Tlpi.CLibrary.Getopt
import Tlpi.CLibrary.MessageQueue
import Tlpi.Foundations.Transition
import Tlpi.Lib.ProgramEnd

namespace Tlpi
namespace PosixMsgqueue
namespace PmsgTransfer

universe u

open CLibrary Foundations Lib
open MessageQueue (Ordered ofPriority ofPriority_insertMessage ofPriority_append length_insertMessage)

/-!
# Sending and receiving through a message queue

`pmsg_send` puts one message on a queue, and `pmsg_receive` takes one from it and prints
it.  Any number of both commands run at the same time on a queue that exists; with `-n`
they fail instead of waiting.  Processes are told apart by an index of any type.

The text of a message is written with `write`, which may take a part of it only; the
program looks no further than whether it failed.  The line before the text goes through the
buffer of the standard output: on a terminal the buffer is written at the end of the
line, elsewhere when the process exits, and then the line comes last.  What is written out
of the buffer is taken whole.

The model keeps three records that no program holds: the messages that have been sent
and those that have been received, with the processes that did so, and how much of its text
each process has written.
-/

/-- The queue of all commands. -/
structure Setup where
  posixlyCorrect : Bool
  dumpcore : Option String
  name : List Byte
  mq_maxmsg : Nat
  mq_msgsize : Nat

/-- A command, with its words behind the name of the program. -/
inductive Command where
  | send (program : List Byte) (words : List (List Byte))
  | receive (program : List Byte) (words : List (List Byte)) (terminal : Bool)

structure SendArguments where
  nonblock : Bool
  name : List Byte
  message : Message
deriving DecidableEq, Repr

/-- What `pmsg_receive` reads from its command line. -/
structure ReceiveArguments where
  nonblock : Bool
  name : List Byte
deriving DecidableEq, Repr

/-- The option string `"n"`. -/
def optionN (letter : Byte) : Option Bool := if letter = 110 then some false else none

def usageError (program operands : List Byte) : ProgramEnd :=
  .badArguments (ascii "Usage: " ++ program ++ ascii " [-n] mq-name" ++ operands ++ [newline] ++
    ascii "    -n           Use O_NONBLOCK flag" ++ [newline])

/-- The options and operands of `pmsg_send`. -/
def sendArguments (posixlyCorrect : Bool) (program : List Byte) (words : List (List Byte)) :
    Except ProgramEnd SendArguments :=
  let scanned := Getopt.scan optionN posixlyCorrect none words
  let usage := usageError program (ascii " msg [prio]")
  match scanned.refused, scanned.operands with
  | none, name :: text :: rest =>
      .ok ⟨!scanned.options.isEmpty, name, toUnsigned ((rest.head?.map atoi).getD 0), text⟩
  | _, _ => .error usage

/-- The options and operands of `pmsg_receive`. -/
def receiveArguments (posixlyCorrect : Bool) (program : List Byte) (words : List (List Byte)) :
    Except ProgramEnd ReceiveArguments :=
  let scanned := Getopt.scan optionN posixlyCorrect none words
  match scanned.refused, scanned.operands with
  | none, name :: _ => .ok ⟨!scanned.options.isEmpty, name⟩
  | _, _ => .error (usageError program [])

/-- The positions of a process, each named after what it does next. -/
inductive Pc where
  | starting
  | openingToSend (arguments : SendArguments)
  | sending (arguments : SendArguments)
  | openingToReceive (arguments : ReceiveArguments)
  | gettingAttributes (arguments : ReceiveArguments)
  | allocating (arguments : ReceiveArguments)
  | receiving (arguments : ReceiveArguments)
  | printing (message : Message)
  | writing (message : Message)
  | writingNewline (message : Message)
  | exiting (buffered : List Byte)
  | ended (result : ProgramEnd)

variable {Process : Type u} [DecidableEq Process]

/-- The queue, the processes with what they have written, and the three records. -/
structure State (Process : Type u) where
  queue : MessageQueue
  pc : Process -> Pc
  output : Process -> List Byte
  sent : List (Process × Message)
  received : List (Process × Message)
  wrote : Process -> Option Nat

/-- How a call ends that may fail, or write less than it was given. -/
inductive Outcome where
  | succeeds
  | writes (count : Nat)
  | fails (errno : Errno)
deriving DecidableEq, Repr

namespace State

def move (state : State Process) (process : Process) (pc : Pc) : State Process :=
  { state with pc := Function.update state.pc process pc }

def emit (state : State Process) (process : Process) (text : List Byte) : State Process :=
  { state with output := Function.update state.output process (state.output process ++ text) }

/-- A `write` has taken the first bytes of a text. -/
def write (state : State Process) (process : Process) (text : List Byte) (count : Nat) : State Process :=
  { state.emit process (text.take count) with
    wrote := Function.update state.wrote process (some count) }

def fail (setup : Setup) (state : State Process) (process : Process) (errno : Errno) (call : String) :
    State Process :=
  state.move process (.ended (.failed (errExit setup.dumpcore errno call)))

end State

def MQ_PRIO_MAX : Nat := 32768

/-- `mq_send`, which refuses a priority or a message that is too large, and waits while
the queue is full, unless it has been told not to. -/
def sendStep (setup : Setup) (state : State Process) (process : Process) (arguments : SendArguments) :
    Option (State Process) :=
  if MQ_PRIO_MAX ≤ arguments.message.priority then
    some (state.fail setup process .EINVAL "mq_send")
  else if setup.mq_msgsize < arguments.message.text.length then
    some (state.fail setup process (.other 90) "mq_send")
  else
    match state.queue.send arguments.message with
    | some (_, queue) =>
        some ({ state with queue := queue, sent := state.sent ++ [(process, arguments.message)] }.move
          process (.exiting []))
    | none => if arguments.nonblock then some (state.fail setup process .EAGAIN "mq_send") else none

/-- `mq_receive`, which waits while the queue is empty, unless it has been told not to. -/
def receiveStep (setup : Setup) (state : State Process) (process : Process)
    (arguments : ReceiveArguments) : Option (State Process) :=
  match state.queue.receive with
  | .ok (message, queue) =>
      some ({ state with queue := queue, received := state.received ++ [(process, message)] }.move
        process (.printing message))
  | .error _ =>
      if arguments.nonblock then some (state.fail setup process .EAGAIN "mq_receive") else none

/-- The line that `pmsg_receive` prints. -/
def readLine (message : Message) : List Byte :=
  ascii "Read " ++ renderNat message.text.length ++ ascii " bytes; priority = " ++
    renderNat message.priority ++ [newline]

/-- The standard output is a terminal. -/
def Command.terminal : Command -> Bool
  | .send _ _ => false
  | .receive _ _ terminal => terminal

/-- One step of a process.  A call that may fail does so with the error that the
environment gives. -/
def step (setup : Setup) (command : Process -> Command) (state : State Process)
    (action : Process × Outcome) : Option (State Process) :=
  let process := action.1
  let call := fun (name : String) (next : Option (State Process)) =>
    match action.2 with
    | .succeeds => next
    | .writes _ => none
    | .fails errno => some (state.fail setup process errno name)
  match state.pc process with
  | .starting =>
      match command process with
      | .send program words =>
          match sendArguments setup.posixlyCorrect program words with
          | .ok arguments => some (state.move process (.openingToSend arguments))
          | .error usage => some (state.move process (.ended usage))
      | .receive program words _ =>
          match receiveArguments setup.posixlyCorrect program words with
          | .ok arguments => some (state.move process (.openingToReceive arguments))
          | .error usage => some (state.move process (.ended usage))
  | .openingToSend arguments =>
      call "mq_open"
        (if arguments.name = setup.name then some (state.move process (.sending arguments))
        else some (state.fail setup process .ENOENT "mq_open"))
  | .sending arguments => call "mq_send" (sendStep setup state process arguments)
  | .openingToReceive arguments =>
      call "mq_open"
        (if arguments.name = setup.name then some (state.move process (.gettingAttributes arguments))
        else some (state.fail setup process .ENOENT "mq_open"))
  | .gettingAttributes arguments => call "mq_getattr" (some (state.move process (.allocating arguments)))
  | .allocating arguments => call "malloc" (some (state.move process (.receiving arguments)))
  | .receiving arguments => call "mq_receive" (receiveStep setup state process arguments)
  | .printing message =>
      if (command process).terminal then
        some ((state.emit process (readLine message)).move process (.writing message))
      else some (state.move process (.writing message))
  | .writing message =>
      match action.2 with
      | .succeeds =>
          some ((state.write process message.text message.text.length).move process
            (.writingNewline message))
      | .writes count =>
          if 0 < count ∧ count < message.text.length then
            some ((state.write process message.text count).move process (.writingNewline message))
          else none
      | .fails errno =>
          -- a process that fails writes out its buffer first
          some ((state.emit process
            (if (command process).terminal then [] else readLine message)).fail setup process errno "write")
  | .writingNewline message =>
      -- the result of this call is not looked at
      let buffered := if (command process).terminal then [] else readLine message
      match action.2 with
      | .succeeds => some ((state.emit process [newline]).move process (.exiting buffered))
      | .writes _ => none
      | .fails _ => some (state.move process (.exiting buffered))
  | .exiting buffered => some ((state.emit process buffered).move process (.ended .success))
  | .ended _ => none

def start (setup : Setup) : State Process where
  queue := ⟨setup.mq_maxmsg, [], false⟩
  pc := fun _ => .starting
  output := fun _ => []
  sent := []
  received := []
  wrote := fun _ => none

def machine (setup : Setup) (command : Process -> Command) :
    Machine (State Process) (Process × Outcome) where
  Initial state := state = start setup
  step := step setup command

/-! ## What is known of each process -/

/-- How many bytes of a text a `write` may take without failing. -/
def Taken (text : List Byte) (count : Nat) : Prop :=
  count ≤ text.length ∧ (text ≠ [] -> 0 < count)

/-- What `pmsg_receive` has written when it exits: the line, and as much of the text as was
taken, in the order that the kind of its standard output brings about, with or without the
last newline. -/
def Printed (terminal : Bool) (message : Message) (count : Nat) (output : List Byte) : Prop :=
  Taken message.text count ∧
    Exists fun ending : List Byte => (ending = [newline] ∨ ending = []) ∧
      output = if terminal then readLine message ++ message.text.take count ++ ending
        else message.text.take count ++ ending ++ readLine message

/-- What has been printed before the text. -/
def before (terminal : Bool) (message : Message) : List Byte :=
  if terminal then readLine message else []

/-- The process is a `pmsg_send` with these arguments, for this queue. -/
def Sends (setup : Setup) (command : Process -> Command) (process : Process)
    (arguments : SendArguments) : Prop :=
  Exists fun program => Exists fun words => command process = .send program words ∧
    sendArguments setup.posixlyCorrect program words = .ok arguments

def Receives (command : Process -> Command) (process : Process) : Prop :=
  Exists fun program => Exists fun words => Exists fun terminal =>
    command process = .receive program words terminal

/-- The process has neither sent nor received, nor written anything. -/
structure Fresh (state : State Process) (process : Process) : Prop where
  sent : forall message, (process, message) ∉ state.sent
  received : forall message, (process, message) ∉ state.received
  output : state.output process = []

/-- A process that was not successful has sent nothing.  If it has received a message, it has
printed the line about it and nothing of its text. -/
structure Spoiled (state : State Process) (process : Process) : Prop where
  sent : forall message, (process, message) ∉ state.sent
  received : (forall message, (process, message) ∉ state.received) ∨
    Exists fun message => (process, message) ∈ state.received ∧
      state.output process = readLine message

/-- A process that was successful has sent its message, or received one and printed it. -/
def Successful (setup : Setup) (command : Process -> Command) (state : State Process)
    (process : Process) (output : List Byte) : Prop :=
  (Exists fun arguments => Sends setup command process arguments ∧
    (process, arguments.message) ∈ state.sent) ∨
  (Receives command process ∧ Exists fun message => Exists fun count =>
    (process, message) ∈ state.received ∧ state.wrote process = some count ∧
      Printed (command process).terminal message count output)

/-- What is known of a process at its position. -/
def Known (setup : Setup) (command : Process -> Command) (state : State Process)
    (process : Process) : Prop :=
  match state.pc process with
  | .starting => Fresh state process
  | .openingToSend arguments => Fresh state process ∧ Sends setup command process arguments
  | .sending arguments =>
      Fresh state process ∧ Sends setup command process arguments ∧ arguments.name = setup.name
  | .openingToReceive _ | .gettingAttributes _ | .allocating _ | .receiving _ =>
      Fresh state process ∧ Receives command process
  | .printing message =>
      (process, message) ∈ state.received ∧ Receives command process ∧ state.output process = []
  | .writing message =>
      (process, message) ∈ state.received ∧ Receives command process ∧
        state.output process = before (command process).terminal message
  | .writingNewline message =>
      (process, message) ∈ state.received ∧ Receives command process ∧
        Exists fun count => state.wrote process = some count ∧ Taken message.text count ∧
          state.output process = before (command process).terminal message ++ message.text.take count
  | .exiting buffered => Successful setup command state process (state.output process ++ buffered)
  | .ended .success => Successful setup command state process (state.output process)
  | .ended _ => Spoiled state process

structure Invariant (setup : Setup) (command : Process -> Command) (state : State Process) : Prop where
  maxmsg : state.queue.mq_maxmsg = setup.mq_maxmsg
  ordered : Ordered state.queue.messages
  bounded : state.queue.messages.length ≤ setup.mq_maxmsg
  fifo : forall priority, ofPriority priority (state.sent.map Prod.snd) =
    ofPriority priority (state.received.map Prod.snd) ++ ofPriority priority state.queue.messages
  sentOnce : (state.sent.map Prod.fst).Nodup
  receivedOnce : (state.received.map Prod.fst).Nodup
  senders : forall process message, (process, message) ∈ state.sent ->
    Exists fun arguments => Sends setup command process arguments ∧ arguments.name = setup.name ∧
      message = arguments.message
  receivers : forall process message, (process, message) ∈ state.received -> Receives command process
  known : forall process, Known setup command state process

variable {setup : Setup} {command : Process -> Command} {state next : State Process} {process : Process}

omit [DecidableEq Process] in
/-- What is known of a process depends on it alone. -/
theorem Known.unmoved (known : Known setup command state process)
    (pc : next.pc process = state.pc process) (output : next.output process = state.output process)
    (wrote : next.wrote process = state.wrote process)
    (sent : forall message, (process, message) ∈ next.sent <-> (process, message) ∈ state.sent)
    (received : forall message, (process, message) ∈ next.received <->
      (process, message) ∈ state.received) : Known setup command next process := by
  have fresh : Fresh state process -> Fresh next process := by
    intro isFresh
    refine ⟨fun message => ?_, fun message => ?_, output.trans isFresh.output⟩
    · rw [sent]
      exact isFresh.sent message
    · rw [received]
      exact isFresh.received message
  have spoiled : Spoiled state process -> Spoiled next process := by
    intro isSpoiled
    constructor
    · simpa only [sent] using isSpoiled.sent
    · simpa only [received, output] using isSpoiled.received
  unfold Known at known ⊢
  rw [pc, output]
  unfold Successful at known ⊢
  simp only [sent, received, wrote]
  cases position : state.pc process with
  | starting =>
      rw [position] at known
      exact fresh known
  | openingToSend _ | sending _ | openingToReceive _ | gettingAttributes _ | allocating _ | receiving _ =>
      rw [position] at known
      exact known.imp_left fresh
  | printing _ | writing _ | writingNewline _ | exiting _ =>
      rw [position] at known
      exact known
  | ended result =>
      rw [position] at known
      cases result with
      | success => exact known
      | badArguments _ => exact spoiled known
      | failed _ => exact spoiled known

theorem Invariant.moved (holds : Invariant setup command state) (queue : next.queue = state.queue)
    (sent : next.sent = state.sent) (received : next.received = state.received)
    (others : forall other, other ≠ process -> next.pc other = state.pc other ∧
      next.output other = state.output other ∧ next.wrote other = state.wrote other)
    (known : Known setup command next process) : Invariant setup command next := by
  constructor
  case maxmsg =>
    rw [queue]
    exact holds.maxmsg
  case ordered =>
    rw [queue]
    exact holds.ordered
  case bounded =>
    rw [queue]
    exact holds.bounded
  case fifo =>
    rw [queue, sent, received]
    exact holds.fifo
  case sentOnce =>
    rw [sent]
    exact holds.sentOnce
  case receivedOnce =>
    rw [received]
    exact holds.receivedOnce
  case senders =>
    rw [sent]
    exact holds.senders
  case receivers =>
    rw [received]
    exact holds.receivers
  case known =>
    intro other
    by_cases same : other = process
    · rw [same]
      exact known
    · rcases others other same with ⟨pc, output, wrote⟩
      apply (holds.known other).unmoved pc output wrote
      · intro message
        rw [sent]
      · intro message
        rw [received]

theorem move_self (state : State Process) (process : Process) (pc : Pc) :
    (state.move process pc).pc process = pc := Function.update_self _ _ _

theorem emit_move_self (state : State Process) (process : Process) (text : List Byte) (pc : Pc) :
    ((state.emit process text).move process pc).pc process = pc ∧
      ((state.emit process text).move process pc).output process = state.output process ++ text :=
  ⟨Function.update_self _ _ _, Function.update_self _ _ _⟩

theorem Invariant.moves (holds : Invariant setup command state) (pc : Pc)
    (known : Known setup command (state.move process pc) process) :
    Invariant setup command (state.move process pc) := by
  refine holds.moved rfl rfl rfl ?_ known
  intro other different
  exact ⟨Function.update_of_ne different _ _, rfl, rfl⟩

/-- A process writes out its buffer, or a newline, and goes on. -/
theorem Invariant.emits (holds : Invariant setup command state) (text : List Byte) (pc : Pc)
    (known : Known setup command ((state.emit process text).move process pc) process) :
    Invariant setup command ((state.emit process text).move process pc) := by
  refine holds.moved rfl rfl rfl ?_ known
  intro other different
  exact ⟨Function.update_of_ne different _ _, Function.update_of_ne different _ _, rfl⟩

/-- A process writes a text, of which some bytes are taken. -/
theorem Invariant.writes (holds : Invariant setup command state) {message : Message} {count : Nat}
    (received : (process, message) ∈ state.received) (receives : Receives command process)
    (output : state.output process = before (command process).terminal message)
    (taken : Taken message.text count) :
    Invariant setup command
      ((state.write process message.text count).move process (.writingNewline message)) := by
  have known : Known setup command
      ((state.write process message.text count).move process (.writingNewline message)) process := by
    unfold Known
    rw [move_self]
    refine ⟨received, receives, count, Function.update_self _ _ _, taken, ?_⟩
    refine (Function.update_self _ _ _).trans ?_
    rw [output]
  refine holds.moved rfl rfl rfl ?_ known
  intro other different
  exact ⟨Function.update_of_ne different _ _, Function.update_of_ne different _ _,
    Function.update_of_ne different _ _⟩

theorem Invariant.ends (holds : Invariant setup command state) {result : ProgramEnd}
    (unsuccessful : result ≠ .success)
    (spoiled : Spoiled (state.move process (.ended result)) process) :
    Invariant setup command (state.move process (.ended result)) := by
  apply holds.moves
  unfold Known
  rw [move_self]
  cases result with
  | success => exact absurd rfl unsuccessful
  | badArguments _ => exact spoiled
  | failed _ => exact spoiled

theorem Fresh.moved (fresh : Fresh state process) (pc : Pc) : Fresh (state.move process pc) process :=
  ⟨fresh.sent, fresh.received, fresh.output⟩

omit [DecidableEq Process] in
theorem Fresh.spoiled (fresh : Fresh state process) : Spoiled state process :=
  ⟨fresh.sent, .inl fresh.received⟩

theorem Invariant.fails (holds : Invariant setup command state) (fresh : Fresh state process)
    (errno : Errno) (call : String) : Invariant setup command (state.fail setup process errno call) :=
  holds.ends nofun (fresh.moved _).spoiled

theorem sendArguments_error {posixlyCorrect : Bool} {program : List Byte} {words : List (List Byte)}
    {usage : ProgramEnd} (refused : sendArguments posixlyCorrect program words = .error usage) :
    usage ≠ .success := by
  unfold sendArguments at refused
  dsimp only at refused
  split at refused
  · cases refused
  · cases refused
    exact nofun

theorem receiveArguments_error {posixlyCorrect : Bool} {program : List Byte} {words : List (List Byte)}
    {usage : ProgramEnd} (refused : receiveArguments posixlyCorrect program words = .error usage) :
    usage ≠ .success := by
  unfold receiveArguments at refused
  dsimp only at refused
  split at refused
  · cases refused
  · cases refused
    exact nofun

theorem Invariant.sends (holds : Invariant setup command state) {arguments : SendArguments}
    (fresh : Fresh state process) (sends : Sends setup command process arguments)
    (named : arguments.name = setup.name) {notified : Bool} {queue : MessageQueue}
    (sent : state.queue.send arguments.message = some (notified, queue)) :
    Invariant setup command
      ({ state with queue := queue, sent := state.sent ++ [(process, arguments.message)] }.move process
        (.exiting [])) := by
  rcases MessageQueue.messages_of_send sent with ⟨room, maxmsg, messages⟩
  have notYet : process ∉ state.sent.map Prod.fst := by
    intro member
    rcases List.mem_map.mp member with ⟨⟨_, message⟩, there, same⟩
    cases same
    exact fresh.sent message there
  constructor
  case maxmsg => exact maxmsg.trans holds.maxmsg
  case ordered =>
    change Ordered queue.messages
    rw [messages]
    exact holds.ordered.insertMessage _
  case bounded =>
    change queue.messages.length ≤ setup.mq_maxmsg
    rw [messages, length_insertMessage, ← holds.maxmsg]
    exact room
  case fifo =>
    intro priority
    change ofPriority priority ((state.sent ++ [(process, arguments.message)]).map Prod.snd) =
      ofPriority priority (state.received.map Prod.snd) ++ ofPriority priority queue.messages
    rw [messages, ofPriority_insertMessage holds.ordered, ← List.append_assoc, ← holds.fifo,
      List.map_append, ofPriority_append]
    rfl
  case sentOnce =>
    change ((state.sent ++ [(process, arguments.message)]).map Prod.fst).Nodup
    rw [List.map_append, List.map_singleton, ← List.concat_eq_append]
    exact holds.sentOnce.concat notYet
  case receivedOnce => exact holds.receivedOnce
  case senders =>
    intro other message member
    rcases List.mem_append.mp member with earlier | now
    · exact holds.senders other message earlier
    · cases List.mem_singleton.mp now
      exact ⟨arguments, sends, named, rfl⟩
  case receivers => exact holds.receivers
  case known =>
    intro other
    by_cases same : other = process
    · rw [same]
      unfold Known
      rw [move_self]
      exact Or.inl ⟨arguments, sends, List.mem_append_right _ (List.mem_singleton_self _)⟩
    · refine (holds.known other).unmoved (Function.update_of_ne same _ _) rfl rfl ?_ (fun _ => Iff.rfl)
      · intro message
        change (other, message) ∈ state.sent ++ [(process, arguments.message)] <-> _
        rw [List.mem_append, List.mem_singleton, Prod.mk.injEq]
        exact or_iff_left (fun both => same both.1)


theorem Invariant.receives (holds : Invariant setup command state)
    (fresh : Fresh state process) (receives : Receives command process) {message : Message}
    {queue : MessageQueue} (received : state.queue.receive = .ok (message, queue)) :
    Invariant setup command
      ({ state with queue := queue, received := state.received ++ [(process, message)] }.move process
        (.printing message)) := by
  rcases MessageQueue.messages_of_receive received with ⟨messages, maxmsg⟩
  have ordered : Ordered (message :: queue.messages) := by
    rw [← messages]
    exact holds.ordered
  have notYet : process ∉ state.received.map Prod.fst := by
    intro member
    rcases List.mem_map.mp member with ⟨⟨_, other⟩, there, same⟩
    cases same
    exact fresh.received other there
  constructor
  case maxmsg => exact maxmsg.trans holds.maxmsg
  case ordered => exact (List.pairwise_cons.mp ordered).2
  case bounded =>
    have before := holds.bounded
    rw [messages, List.length_cons] at before
    exact Nat.le_of_succ_le before
  case fifo =>
    intro priority
    change ofPriority priority (state.sent.map Prod.snd) =
      ofPriority priority ((state.received ++ [(process, message)]).map Prod.snd) ++
        ofPriority priority queue.messages
    rw [holds.fifo, messages, List.map_append, ofPriority_append, List.append_assoc]
    exact congrArg _ (ofPriority_append priority [message] queue.messages)
  case sentOnce => exact holds.sentOnce
  case receivedOnce =>
    change ((state.received ++ [(process, message)]).map Prod.fst).Nodup
    rw [List.map_append, List.map_singleton, ← List.concat_eq_append]
    exact holds.receivedOnce.concat notYet
  case senders => exact holds.senders
  case receivers =>
    intro other its member
    rcases List.mem_append.mp member with earlier | now
    · exact holds.receivers other its earlier
    · cases List.mem_singleton.mp now
      exact receives
  case known =>
    intro other
    by_cases same : other = process
    · rw [same]
      unfold Known
      rw [move_self]
      exact ⟨List.mem_append_right _ (List.mem_singleton_self _), receives, fresh.output⟩
    · refine (holds.known other).unmoved (Function.update_of_ne same _ _) rfl rfl (fun _ => Iff.rfl) ?_
      intro its
      change (other, its) ∈ state.received ++ [(process, message)] <-> _
      rw [List.mem_append, List.mem_singleton, Prod.mk.injEq]
      exact or_iff_left (fun both => same both.1)

/-- What the last write leaves to be done at the exit completes what is printed. -/
theorem printed_after (terminal : Bool) {message : Message} {count : Nat} {ending : List Byte}
    (taken : Taken message.text count) (written : ending = [newline] ∨ ending = []) :
    Printed terminal message count (before terminal message ++ message.text.take count ++ ending ++
      if terminal then [] else readLine message) := by
  refine ⟨taken, ending, written, ?_⟩
  unfold before
  cases terminal with
  | false => exact congrArg (fun text => text ++ ending ++ readLine message) (List.nil_append _)
  | true => exact List.append_nil _

omit [DecidableEq Process] in
theorem Invariant.not_sent (holds : Invariant setup command state) (receives : Receives command process)
    (message : Message) : (process, message) ∉ state.sent := by
  intro sent
  rcases holds.senders process message sent with ⟨_, ⟨_, _, sends, _⟩, _⟩
  rcases receives with ⟨_, _, _, role⟩
  rw [sends] at role
  cases role

/-! A step is taken at each position. -/

variable {outcome : Outcome}

theorem starting_preserves (holds : Invariant setup command state)
    (position : state.pc process = .starting)
    (taken : step setup command state (process, outcome) = some next) :
    Invariant setup command next := by
  have fresh := holds.known process
  unfold Known at fresh
  rw [position] at fresh
  unfold step at taken
  dsimp only at taken
  rw [position] at taken
  dsimp only at taken
  cases role : command process with
  | send program words =>
      rw [role] at taken
      dsimp only at taken
      cases read : sendArguments setup.posixlyCorrect program words with
      | ok arguments =>
          rw [read] at taken
          cases taken
          apply holds.moves
          unfold Known
          rw [move_self]
          exact ⟨Fresh.moved fresh _, program, words, role, read⟩
      | error usage =>
          rw [read] at taken
          cases taken
          exact holds.ends (sendArguments_error read) (Fresh.moved fresh _).spoiled
  | receive program words terminal =>
      rw [role] at taken
      dsimp only at taken
      cases read : receiveArguments setup.posixlyCorrect program words with
      | ok arguments =>
          rw [read] at taken
          cases taken
          apply holds.moves
          unfold Known
          rw [move_self]
          exact ⟨Fresh.moved fresh _, program, words, terminal, role⟩
      | error usage =>
          rw [read] at taken
          cases taken
          exact holds.ends (receiveArguments_error read) (Fresh.moved fresh _).spoiled

theorem openingToSend_preserves (holds : Invariant setup command state) {arguments : SendArguments}
    (position : state.pc process = .openingToSend arguments)
    (taken : step setup command state (process, outcome) = some next) :
    Invariant setup command next := by
  have known := holds.known process
  unfold Known at known
  rw [position] at known
  rcases known with ⟨fresh, sends⟩
  unfold step at taken
  dsimp only at taken
  rw [position] at taken
  cases outcome with
  | succeeds =>
      dsimp only at taken
      split at taken
      · rename_i named
        cases taken
        apply holds.moves
        unfold Known
        rw [move_self]
        exact ⟨fresh.moved _, sends, named⟩
      · cases taken
        exact holds.fails fresh _ _
  | writes _ => cases taken
  | fails errno =>
      cases taken
      exact holds.fails fresh _ _

theorem sending_preserves (holds : Invariant setup command state) {arguments : SendArguments}
    (position : state.pc process = .sending arguments)
    (taken : step setup command state (process, outcome) = some next) :
    Invariant setup command next := by
  have known := holds.known process
  unfold Known at known
  rw [position] at known
  rcases known with ⟨fresh, sends, named⟩
  unfold step at taken
  dsimp only at taken
  rw [position] at taken
  cases outcome with
  | succeeds =>
      dsimp only at taken
      unfold sendStep at taken
      split at taken
      · cases taken
        exact holds.fails fresh _ _
      · split at taken
        · cases taken
          exact holds.fails fresh _ _
        · split at taken
          · rename_i notified queue sent
            cases taken
            exact holds.sends fresh sends named sent
          · split at taken
            · cases taken
              exact holds.fails fresh _ _
            · cases taken
  | writes _ => cases taken
  | fails errno =>
      cases taken
      exact holds.fails fresh _ _

theorem openingToReceive_preserves (holds : Invariant setup command state)
    {arguments : ReceiveArguments} (position : state.pc process = .openingToReceive arguments)
    (taken : step setup command state (process, outcome) = some next) :
    Invariant setup command next := by
  have known := holds.known process
  unfold Known at known
  rw [position] at known
  rcases known with ⟨fresh, receives⟩
  unfold step at taken
  dsimp only at taken
  rw [position] at taken
  cases outcome with
  | succeeds =>
      dsimp only at taken
      split at taken
      · cases taken
        apply holds.moves
        unfold Known
        rw [move_self]
        exact ⟨fresh.moved _, receives⟩
      · cases taken
        exact holds.fails fresh _ _
  | writes _ => cases taken
  | fails errno =>
      cases taken
      exact holds.fails fresh _ _

/-- The calls between the opening of the queue and the receiving. -/
theorem preparing_preserves (holds : Invariant setup command state) {arguments : ReceiveArguments}
    (position : state.pc process = .gettingAttributes arguments ∨
      state.pc process = .allocating arguments)
    (taken : step setup command state (process, outcome) = some next) :
    Invariant setup command next := by
  have known := holds.known process
  unfold Known at known
  unfold step at taken
  dsimp only at taken
  rcases position with position | position <;>
  · rw [position] at known taken
    rcases known with ⟨fresh, receives⟩
    cases outcome with
    | succeeds =>
        cases taken
        apply holds.moves
        unfold Known
        rw [move_self]
        exact ⟨fresh.moved _, receives⟩
    | writes _ => cases taken
    | fails errno =>
        cases taken
        exact holds.fails fresh _ _

theorem receiving_preserves (holds : Invariant setup command state) {arguments : ReceiveArguments}
    (position : state.pc process = .receiving arguments)
    (taken : step setup command state (process, outcome) = some next) :
    Invariant setup command next := by
  have known := holds.known process
  unfold Known at known
  rw [position] at known
  rcases known with ⟨fresh, receives⟩
  unfold step at taken
  dsimp only at taken
  rw [position] at taken
  cases outcome with
  | succeeds =>
      dsimp only at taken
      unfold receiveStep at taken
      split at taken
      · rename_i message queue received
        cases taken
        exact holds.receives fresh receives received
      · split at taken
        · cases taken
          exact holds.fails fresh _ _
        · cases taken
  | writes _ => cases taken
  | fails errno =>
      cases taken
      exact holds.fails fresh _ _

theorem printing_preserves (holds : Invariant setup command state) {message : Message}
    (position : state.pc process = .printing message)
    (taken : step setup command state (process, outcome) = some next) :
    Invariant setup command next := by
  have known := holds.known process
  unfold Known at known
  rw [position] at known
  rcases known with ⟨received, receives, output⟩
  unfold step at taken
  dsimp only at taken
  rw [position] at taken
  dsimp only at taken
  split at taken
  · rename_i terminal
    cases taken
    apply holds.emits
    unfold Known
    rw [(emit_move_self state process _ _).1]
    refine ⟨received, receives, (emit_move_self state process _ _).2.trans ?_⟩
    rw [output, before, if_pos terminal]
    rfl
  · rename_i elsewhere
    cases taken
    apply holds.moves
    unfold Known
    rw [move_self]
    refine ⟨received, receives, output.trans ?_⟩
    rw [before, if_neg elsewhere]

theorem writing_preserves (holds : Invariant setup command state) {message : Message}
    (position : state.pc process = .writing message)
    (taken : step setup command state (process, outcome) = some next) :
    Invariant setup command next := by
  have known := holds.known process
  unfold Known at known
  rw [position] at known
  rcases known with ⟨received, receives, output⟩
  unfold step at taken
  dsimp only at taken
  rw [position] at taken
  cases outcome with
  | succeeds =>
      cases taken
      exact holds.writes received receives output ⟨le_refl _, List.length_pos_of_ne_nil⟩
  | writes count =>
      dsimp only at taken
      split at taken
      · rename_i short
        cases taken
        exact holds.writes received receives output ⟨le_of_lt short.2, fun _ => short.1⟩
      · cases taken
  | fails errno =>
      cases taken
      -- the message has been received, and only the line about it is printed
      apply holds.emits
      unfold Known
      rw [(emit_move_self state process _ _).1]
      refine ⟨holds.not_sent receives, .inr ⟨message, received, ?_⟩⟩
      rw [(emit_move_self state process _ _).2, output]
      unfold before
      cases (command process).terminal with
      | false => exact List.nil_append _
      | true => exact List.append_nil _

theorem writingNewline_preserves (holds : Invariant setup command state) {message : Message}
    (position : state.pc process = .writingNewline message)
    (taken : step setup command state (process, outcome) = some next) :
    Invariant setup command next := by
  have known := holds.known process
  unfold Known at known
  rw [position] at known
  rcases known with ⟨received, receives, count, wrote, fits, output⟩
  unfold step at taken
  dsimp only at taken
  rw [position] at taken
  cases outcome with
  | succeeds =>
      cases taken
      apply holds.emits
      unfold Known
      rw [(emit_move_self state process _ _).1]
      refine .inr ⟨receives, message, count, received, wrote, ?_⟩
      rw [(emit_move_self state process _ _).2, output]
      exact printed_after _ fits (.inl rfl)
  | writes _ => cases taken
  | fails errno =>
      cases taken
      apply holds.moves
      unfold Known
      rw [move_self]
      refine .inr ⟨receives, message, count, received, wrote, ?_⟩
      have printed := printed_after (command process).terminal fits (.inr rfl)
      rw [List.append_nil, ← output] at printed
      exact printed

theorem step_preserves (action : Process × Outcome) (holds : Invariant setup command state)
    (taken : step setup command state action = some next) : Invariant setup command next := by
  rcases action with ⟨process, outcome⟩
  cases position : state.pc process with
  | starting => exact starting_preserves holds position taken
  | openingToSend _ => exact openingToSend_preserves holds position taken
  | sending _ => exact sending_preserves holds position taken
  | openingToReceive _ => exact openingToReceive_preserves holds position taken
  | gettingAttributes _ => exact preparing_preserves holds (.inl position) taken
  | allocating _ => exact preparing_preserves holds (.inr position) taken
  | receiving _ => exact receiving_preserves holds position taken
  | printing _ => exact printing_preserves holds position taken
  | writing _ => exact writing_preserves holds position taken
  | writingNewline _ => exact writingNewline_preserves holds position taken
  | exiting buffered =>
      have known := holds.known process
      unfold Known at known
      unfold step at taken
      dsimp only at taken
      rw [position] at known taken
      cases taken
      apply holds.emits
      unfold Known
      rw [(emit_move_self state process _ _).1]
      dsimp only
      rw [(emit_move_self state process _ _).2]
      exact known
  | ended result =>
      unfold step at taken
      dsimp only at taken
      rw [position] at taken
      cases taken

omit [DecidableEq Process] in
theorem start_invariant (setup : Setup) (command : Process -> Command) :
    Invariant setup command (start setup) where
  maxmsg := rfl
  ordered := List.Pairwise.nil
  bounded := Nat.zero_le _
  fifo _ := rfl
  sentOnce := List.nodup_nil
  receivedOnce := List.nodup_nil
  senders _ _ := nofun
  receivers _ _ := nofun
  known _ := ⟨fun _ => nofun, fun _ => nofun, rfl⟩

theorem reachable_invariant (reached : (machine setup command).Reachable state) :
    Invariant setup command state := by
  refine reached.invariant ?_ ?_
  · rintro _ rfl
    exact start_invariant setup command
  · intro before action after holds taken
    exact step_preserves action holds taken

/-!
## What the commands achieve
-/

/-- The process sleeps in its call. -/
def Waits (setup : Setup) (command : Process -> Command) (state : State Process) (process : Process) :
    Prop :=
  step setup command state (process, .succeeds) = none

/-- What the commands have done so far. -/
structure Transferred (setup : Setup) (command : Process -> Command) (state : State Process) : Prop where
  /-- Nothing is lost or doubled, and the messages of one priority stay in order. -/
  fifo : forall priority, ofPriority priority (state.sent.map Prod.snd) =
    ofPriority priority (state.received.map Prod.snd) ++ ofPriority priority state.queue.messages
  ordered : Ordered state.queue.messages
  bounded : state.queue.messages.length ≤ setup.mq_maxmsg
  /-- No process sends or receives a second message. -/
  once : (state.sent.map Prod.fst).Nodup ∧ (state.received.map Prod.fst).Nodup
  /-- A message that has been sent is the one of a command line. -/
  senders : forall process message, (process, message) ∈ state.sent ->
    Exists fun arguments => Sends setup command process arguments ∧ arguments.name = setup.name ∧
      message = arguments.message
  /-- A sender that ends has sent its message if and only if it is successful. -/
  sender : forall process program words result, command process = .send program words ->
    state.pc process = .ended result ->
      (result = .success <-> Exists fun message => (process, message) ∈ state.sent)
  /-- A receiver that is successful has received a message and printed as much of it as its
  `write` has taken. -/
  receiver : forall process program words terminal, command process = .receive program words terminal ->
    state.pc process = .ended .success -> Exists fun message => Exists fun count =>
      (process, message) ∈ state.received ∧ state.wrote process = some count ∧
        Printed terminal message count (state.output process)
  /-- A process that ends without success has sent nothing.  A receiver among them may have
  used up a message, of which it has then printed nothing but the line about it. -/
  spoiled : forall process result, state.pc process = .ended result -> result ≠ .success ->
    Spoiled state process
  /-- A sender and a receiver do not wait at the same time. -/
  apart : 0 < setup.mq_maxmsg -> forall process other arguments others,
    state.pc process = .sending arguments -> state.pc other = .receiving others ->
      ¬ (Waits setup command state process ∧ Waits setup command state other)

omit [DecidableEq Process] in
theorem not_sends_of_receives (receives : Receives command process) {program : List Byte}
    {words : List (List Byte)} (role : command process = .send program words) : False := by
  rcases receives with ⟨_, _, _, other⟩
  rw [role] at other
  cases other

omit [DecidableEq Process] in
theorem not_receives_of_sends {arguments : SendArguments} (sends : Sends setup command process arguments)
    {program : List Byte} {words : List (List Byte)} {terminal : Bool}
    (role : command process = .receive program words terminal) : False := by
  rcases sends with ⟨_, _, other, _⟩
  rw [role] at other
  cases other

omit [DecidableEq Process] in
theorem Invariant.spoiled (holds : Invariant setup command state) {result : ProgramEnd}
    (ended : state.pc process = .ended result) (unsuccessful : result ≠ .success) :
    Spoiled state process := by
  have known := holds.known process
  unfold Known at known
  rw [ended] at known
  cases result with
  | success => exact absurd rfl unsuccessful
  | badArguments _ => exact known
  | failed _ => exact known

omit [DecidableEq Process] in
theorem Invariant.successful (holds : Invariant setup command state)
    (ended : state.pc process = .ended .success) :
    Successful setup command state process (state.output process) := by
  have known := holds.known process
  unfold Known at known
  rw [ended] at known
  exact known

omit [DecidableEq Process] in
theorem Invariant.sender (holds : Invariant setup command state) {program : List Byte}
    {words : List (List Byte)} (role : command process = .send program words) {result : ProgramEnd}
    (ended : state.pc process = .ended result) :
    result = .success <-> Exists fun message => (process, message) ∈ state.sent := by
  constructor
  · rintro rfl
    rcases holds.successful ended with ⟨arguments, _, sent⟩ | ⟨receives, _⟩
    · exact ⟨_, sent⟩
    · exact (not_sends_of_receives receives role).elim
  · rintro ⟨message, sent⟩
    by_contra unsuccessful
    exact (holds.spoiled ended unsuccessful).sent message sent

omit [DecidableEq Process] in
theorem Invariant.receiver (holds : Invariant setup command state) {program : List Byte}
    {words : List (List Byte)} {terminal : Bool}
    (role : command process = .receive program words terminal)
    (ended : state.pc process = .ended .success) : Exists fun message => Exists fun count =>
      (process, message) ∈ state.received ∧ state.wrote process = some count ∧
        Printed terminal message count (state.output process) := by
  rcases holds.successful ended with ⟨_, sends, _⟩ | ⟨_, message, count, received, wrote, printed⟩
  · exact (not_receives_of_sends sends role).elim
  · rw [role] at printed
    exact ⟨message, count, received, wrote, printed⟩

theorem full_of_waits {arguments : SendArguments} (sending : state.pc process = .sending arguments)
    (waits : Waits setup command state process) :
    state.queue.mq_maxmsg ≤ state.queue.messages.length := by
  unfold Waits step at waits
  dsimp only at waits
  rw [sending] at waits
  dsimp only at waits
  unfold sendStep at waits
  by_contra room
  unfold MessageQueue.send at waits
  rw [if_pos (not_le.mp room)] at waits
  split at waits
  · cases waits
  · split at waits <;> cases waits

theorem empty_of_waits {arguments : ReceiveArguments}
    (receiving : state.pc process = .receiving arguments)
    (waits : Waits setup command state process) : state.queue.messages = [] := by
  unfold Waits step at waits
  dsimp only at waits
  rw [receiving] at waits
  dsimp only at waits
  unfold receiveStep MessageQueue.receive at waits
  cases there : state.queue.messages with
  | nil => rfl
  | cons message rest =>
      rw [there] at waits
      cases waits

theorem Invariant.transferred (holds : Invariant setup command state) :
    Transferred setup command state where
  fifo := holds.fifo
  ordered := holds.ordered
  bounded := holds.bounded
  once := ⟨holds.sentOnce, holds.receivedOnce⟩
  senders := holds.senders
  sender _ _ _ _ role ended := holds.sender role ended
  receiver _ _ _ _ role ended := holds.receiver role ended
  spoiled _ _ ended unsuccessful := holds.spoiled ended unsuccessful
  apart := by
    rintro positive process other arguments others sending receiving ⟨full, empty⟩
    have length := full_of_waits sending full
    rw [empty_of_waits receiving empty, holds.maxmsg] at length
    exact absurd length (not_le.mpr positive)

/-- Any number of senders and receivers share the queue. -/
theorem pmsg_transferred (setup : Setup) (command : Process -> Command) :
    forall state, (machine setup command).Reachable state -> Transferred setup command state :=
  fun _ reached => (reachable_invariant reached).transferred

/-! Two messages are sent; the more urgent of them is received first, and of the other only
a part is written. -/

def fourSetup : Setup where
  posixlyCorrect := false
  dumpcore := none
  name := ascii "/q"
  mq_maxmsg := 10
  mq_msgsize := 8192

/-- Two senders, and two receivers, of which the first writes to a terminal. -/
def fourCommands : Bool × Bool -> Command
  | (false, false) => .send (ascii "pmsg_send") [ascii "/q", ascii "slow"]
  | (false, true) => .send (ascii "pmsg_send") [ascii "/q", ascii "-n", ascii "fast", ascii "7"]
  | (true, false) => .receive (ascii "pmsg_receive") [ascii "/q"] true
  | (true, true) => .receive (ascii "pmsg_receive") [ascii "/q"] false

/-- The first sender runs to its end, then the second, then the two receivers. -/
def fourSteps : List ((Bool × Bool) × Outcome) :=
  List.replicate 4 ((false, false), .succeeds) ++ List.replicate 4 ((false, true), .succeeds) ++
    List.replicate 9 ((true, false), .succeeds) ++ List.replicate 6 ((true, true), .succeeds) ++
    [((true, true), .writes 3)] ++ List.replicate 2 ((true, true), .succeeds)

def fourFinal : State (Bool × Bool) :=
  ((machine fourSetup fourCommands).exec (start fourSetup) fourSteps).get (by decide +kernel)

theorem pmsg_transferred_four :
    fourFinal.output (true, false) = ascii "Read 4 bytes; priority = 7\nfast\n" ∧
      fourFinal.output (true, true) = ascii "slo\nRead 4 bytes; priority = 0\n" ∧
        fourFinal.queue.messages = [] ∧ Transferred fourSetup fourCommands fourFinal := by
  have executed : (machine fourSetup fourCommands).exec (start fourSetup) fourSteps =
      some fourFinal := (Option.some_get _).symm
  exact ⟨by decide +kernel, by decide +kernel, by decide +kernel,
    pmsg_transferred fourSetup fourCommands _ (Machine.reachable_of_exec rfl executed)⟩

end PmsgTransfer
end PosixMsgqueue
end Tlpi
