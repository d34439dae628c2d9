import Mathlib.Data.List.TakeWhile
import Mathlib.Logic.Function.Basic
import Tlpi.Foundations.Counting
import Tlpi.Foundations.Numerals
import Tlpi.Foundations.Transition
import Tlpi.Lib.ProgramEnd

namespace Tlpi
namespace SocketDesign
namespace IdEcho

universe u

open CLibrary Foundations Lib

/-!
# The echo service over UDP

A client sends each of its arguments as a datagram and prints what comes back before it
sends the next.  The server returns each datagram to its sender.  Both read at most
`BUF_SIZE` bytes of a datagram.

The network may lose a datagram, deliver it twice, or let others overtake it, and it has any
number of clients.  Their addresses are distinct: a datagram names its client, where the
server has `claddr`, and none comes for a client that used the same address before.
Neither program can tell to which message an answer belongs, nor does either of them send
anything again.  The number of its message, which a datagram carries here, is seen by no
program; nor is the record of the messages that a client has been answered.
-/

def BUF_SIZE : Nat := 500

/-- A client: what it is started with. -/
structure Arguments where
  program : List Byte
  words : List (List Byte)
  strings : forall word, word ∈ words -> (0 : Byte) ∉ word

structure Setup (Client : Type u) where
  dumpcore : Option String
  client : Client -> Arguments

/-- The messages are the arguments behind the name of the host. -/
def Arguments.messages (arguments : Arguments) : List (List Byte) := arguments.words.tail

/-- A datagram on its way from a client, or back to it. -/
structure Datagram (Client : Type u) where
  client : Client
  answer : Bool
  number : Nat
  text : List Byte
deriving DecidableEq, Repr

/-- The positions of a client, each named after what it does next, with its variables. -/
inductive ClientPc where
  | starting
  | connecting
  | writing (j : Nat)
  | reading (j : Nat)
  | printing (j : Nat) (number : Nat) (buf : List Byte)
  | ended (result : ProgramEnd)
deriving DecidableEq, Repr

/-- The positions of the server, with the datagram that is in its buffer. -/
inductive ServerPc (Client : Type u) where
  | binding
  | receiving
  | sending (client : Client) (number : Nat) (buf : List Byte)
  | failed
deriving DecidableEq, Repr

/-- The programs and the datagrams on their way.  The counts say how many datagrams of a
client have been lost, and how many have been doubled. -/
structure State (Client : Type u) where
  pc : Client -> ClientPc
  output : Client -> List Byte
  server : ServerPc Client
  flight : List (Datagram Client)
  lost : Client -> Nat
  doubled : Client -> Nat
  answered : Client -> List Nat

inductive Outcome where
  | succeeds
  | fails (errno : Errno)
deriving DecidableEq, Repr

/-- A call of a client or of the server; a client or the server receives a datagram; or the
network loses a datagram or doubles it. -/
inductive Action (Client : Type u) where
  | client (client : Client) (outcome : Outcome)
  | read (client : Client) (position : Nat)
  | server (outcome : Outcome)
  | receive (position : Nat)
  | lose (position : Nat)
  | double (position : Nat)

/-- The text of `%.*s`. -/
def printfString (size : Nat) (buf : List Byte) : List Byte := (buf.take size).takeWhile (fun byte => byte ≠ 0)

/-- The line that a client prints of an answer. -/
def answerLine (buf : List Byte) : List Byte :=
  ascii "[" ++ renderNat buf.length ++ ascii " bytes] " ++ printfString buf.length buf ++ [newline]

variable {Client : Type u} [DecidableEq Client]

namespace State

def move (state : State Client) (client : Client) (pc : ClientPc) : State Client :=
  { state with pc := Function.update state.pc client pc }

def fail (state : State Client) (client : Client) (failure : Failure) : State Client :=
  state.move client (.ended (.failed failure))

end State

/-- A call of a client, other than that it receives an answer. -/
def clientStep (setup : Setup Client) (state : State Client) (client : Client) (outcome : Outcome) :
    Option (State Client) :=
  let arguments := setup.client client
  match state.pc client, outcome with
  | .starting, _ =>
      let usage := usageErr (arguments.program ++ ascii " host msg...")
      match arguments.words with
      | [] => some (state.move client (.ended usage))
      | host :: _ =>
          if host = ascii "--help" then some (state.move client (.ended usage))
          else some (state.move client .connecting)
  | .connecting, .succeeds => some (state.move client (.writing 0))
  | .connecting, .fails _ =>
      some (state.fail client (fatal setup.dumpcore "Could not connect to server socket"))
  | .writing j, outcome =>
      match arguments.messages[j]?, outcome with
      | none, _ => some (state.move client (.ended .success))
      | some message, .succeeds =>
          some ({ state with flight := state.flight ++ [Datagram.mk client false j message] }.move client
            (.reading j))
      | some _, .fails _ => some (state.fail client (fatal setup.dumpcore "partial/failed write"))
  | .reading _, .fails errno => some (state.fail client (errExit setup.dumpcore errno "read"))
  | .reading _, .succeeds => none
  | .printing j number buf, _ =>
      some ({ state with
        output := Function.update state.output client (state.output client ++ answerLine buf)
        answered := Function.update state.answered client (state.answered client ++ [number]) }.move
          client (.writing (j + 1)))
  | .ended _, _ => none

/-- `read` returns a datagram that has come from the server. -/
def readStep (state : State Client) (client : Client) (position : Nat) : Option (State Client) :=
  match state.pc client, state.flight[position]? with
  | .reading j, some datagram =>
      if datagram.client = client ∧ datagram.answer = true then
        some ({ state with flight := state.flight.eraseIdx position }.move client
          (.printing j datagram.number (datagram.text.take BUF_SIZE)))
      else none
  | _, _ => none

/-- A call of the server, other than that it receives a datagram.  An answer that cannot be
sent is reported in the log, and is lost. -/
def serverStep (state : State Client) (outcome : Outcome) : Option (State Client) :=
  match state.server, outcome with
  | .binding, .succeeds => some { state with server := .receiving }
  | .binding, .fails _ => some { state with server := .failed }
  | .receiving, .fails _ => some { state with server := .failed }
  | .receiving, .succeeds => none
  | .sending client number buf, .succeeds =>
      some { state with server := .receiving, flight := state.flight ++ [⟨client, true, number, buf⟩] }
  | .sending client _ _, .fails _ =>
      some { state with
        server := .receiving
        lost := Function.update state.lost client (state.lost client + 1) }
  | .failed, _ => none

/-- `recvfrom` returns a datagram of some client. -/
def receiveStep (state : State Client) (position : Nat) : Option (State Client) :=
  match state.server, state.flight[position]? with
  | .receiving, some datagram =>
      if datagram.answer = false then
        some { state with
          server := .sending datagram.client datagram.number (datagram.text.take BUF_SIZE)
          flight := state.flight.eraseIdx position }
      else none
  | _, _ => none

def step (setup : Setup Client) (state : State Client) : Action Client -> Option (State Client)
  | .client client outcome => clientStep setup state client outcome
  | .read client position => readStep state client position
  | .server outcome => serverStep state outcome
  | .receive position => receiveStep state position
  | .lose position =>
      (state.flight[position]?).map (fun datagram =>
        { state with
          flight := state.flight.eraseIdx position
          lost := Function.update state.lost datagram.client (state.lost datagram.client + 1) })
  | .double position =>
      (state.flight[position]?).map (fun datagram =>
        { state with
          flight := state.flight ++ [datagram]
          doubled := Function.update state.doubled datagram.client (state.doubled datagram.client + 1) })

def start : State Client where
  pc := fun _ => .starting
  output := fun _ => []
  server := .binding
  flight := []
  lost := fun _ => 0
  doubled := fun _ => 0
  answered := fun _ => []

def machine (setup : Setup Client) : Machine (State Client) (Action Client) where
  Initial state := state = start
  step := step setup

/-!
## What is on its way
-/

/-- The server is about to answer the client. -/
def ServerPc.due (server : ServerPc Client) (client : Client) : Nat :=
  match server with
  | .sending other _ _ => if other = client then 1 else 0
  | .binding | .receiving | .failed => 0

/-- How many datagrams of a client are on their way. -/
def flightDue (flight : List (Datagram Client)) (client : Client) : Nat :=
  flight.countP (fun datagram => decide (datagram.client = client))

/-- How many answers a client may still get. -/
def State.due (state : State Client) (client : Client) : Nat :=
  state.server.due client + flightDue state.flight client

theorem flightDue_concat (flight : List (Datagram Client)) (datagram : Datagram Client)
    (client : Client) : flightDue (flight ++ [datagram]) client =
      flightDue flight client + if datagram.client = client then 1 else 0 := by
  unfold flightDue
  rw [List.countP_append, List.countP_singleton]
  simp only [decide_eq_true_eq]

theorem flightDue_eraseIdx {flight : List (Datagram Client)} {position : Nat}
    {datagram : Datagram Client} (there : flight[position]? = some datagram) (client : Client) :
    (flightDue (flight.eraseIdx position) client + if datagram.client = client then 1 else 0) =
      flightDue flight client := by
  have balance := countP_eraseIdx_balance (fun datagram => decide (datagram.client = client)) there
  unfold flightDue
  rw [← balance]
  by_cases mine : datagram.client = client <;> simp [mine]

/-- A client may still get an answer to the message of this number. -/
def State.Due (state : State Client) (client : Client) (number : Nat) : Prop :=
  (Exists fun buf => state.server = .sending client number buf) ∨
    Exists fun datagram => datagram ∈ state.flight ∧ datagram.client = client ∧ datagram.number = number

theorem due_pos {state : State Client} {client : Client} {number : Nat} (due : state.Due client number) :
    0 < state.due client := by
  unfold State.due
  rcases due with ⟨buf, sending⟩ | ⟨datagram, member, mine, _⟩
  · rw [sending]
    simp [ServerPc.due]
  · have counted : 0 < flightDue state.flight client :=
      List.countP_pos_iff.mpr ⟨datagram, member, decide_eq_true mine⟩
    exact Nat.lt_of_lt_of_le counted (Nat.le_add_left _ _)

/-- A client has sent one message more than it has been answered. -/
def ClientPc.awaits : ClientPc -> Nat
  | .reading _ => 1
  | _ => 0

/-- A datagram carries its message, or what the server has read of it. -/
def Carries (setup : Setup Client) (client : Client) (answer : Bool) (number : Nat)
    (text : List Byte) : Prop :=
  Exists fun message => (setup.client client).messages[number]? = some message ∧
    text = if answer then message.take BUF_SIZE else message

/-- The numbers of the messages that a client has sent. -/
def ClientPc.Sent (pc : ClientPc) (number : Nat) : Prop :=
  match pc with
  | .starting | .connecting => False
  | .writing j => number < j
  | .reading j | .printing j _ _ => number ≤ j
  | .ended _ => True

/-- What a client has printed of the messages with these numbers. -/
def answers (setup : Setup Client) (client : Client) (numbers : List Nat) : List Byte :=
  numbers.flatMap (fun number =>
    answerLine (((setup.client client).messages[number]?.getD []).take BUF_SIZE))

/-- How many answers a client has printed. -/
def ClientPc.Printed (arguments : Arguments) (pc : ClientPc) (count : Nat) : Prop :=
  match pc with
  | .starting | .connecting => count = 0
  | .writing j => count = j ∧ j ≤ arguments.messages.length
  | .reading j | .printing j _ _ => count = j ∧ j < arguments.messages.length
  | .ended .success => count = arguments.messages.length
  | .ended _ => count ≤ arguments.messages.length

/-- What is known of a client. -/
structure Known (setup : Setup Client) (state : State Client) (client : Client) : Prop where
  balance : (forall result, state.pc client ≠ .ended result) ->
    state.due client + state.lost client = (state.pc client).awaits + state.doubled client
  sent : forall number, state.Due client number -> (state.pc client).Sent number
  current : forall j number, state.doubled client = 0 -> state.pc client = .reading j ->
    state.Due client number -> number = j
  printing : forall j number buf, state.pc client = .printing j number buf ->
    number ≤ j ∧ Carries setup client true number buf ∧ (state.doubled client = 0 -> number = j)
  output : state.output client = answers setup client (state.answered client)
  printed : (state.pc client).Printed (setup.client client) (state.answered client).length
  answered : forall position number : Nat, (state.answered client)[position]? = some number ->
    number ≤ position ∧ (state.doubled client = 0 -> number = position)

structure Invariant (setup : Setup Client) (state : State Client) : Prop where
  flight : forall datagram, datagram ∈ state.flight ->
    Carries setup datagram.client datagram.answer datagram.number datagram.text
  held : forall client number buf, state.server = .sending client number buf ->
    Carries setup client true number buf
  known : forall client, Known setup state client

variable {setup : Setup Client} {state next : State Client} {client : Client}

/-- Datagrams move, get lost or are doubled. -/
theorem Known.traffic (known : Known setup state client)
    (pc : next.pc client = state.pc client) (output : next.output client = state.output client)
    (answered : next.answered client = state.answered client)
    (fewer : forall number, next.Due client number -> state.Due client number)
    (balance : next.due client + next.lost client + state.doubled client =
      state.due client + state.lost client + next.doubled client)
    (doubled : next.doubled client = 0 -> state.doubled client = 0) : Known setup next client := by
  constructor
  case balance =>
    rw [pc]
    intro running
    have before := known.balance running
    omega
  case sent =>
    rw [pc]
    exact fun number due => known.sent number (fewer number due)
  case current =>
    rw [pc]
    exact fun j number once reading due => known.current j number (doubled once) reading (fewer number due)
  case printing =>
    rw [pc]
    intro j number buf printing
    rcases known.printing j number buf printing with ⟨before, carries, same⟩
    exact ⟨before, carries, fun once => same (doubled once)⟩
  case output =>
    rw [output, answered]
    exact known.output
  case printed =>
    rw [pc, answered]
    exact known.printed
  case answered =>
    rw [answered]
    exact fun position number found => (known.answered position number found).imp_right
      (fun same once => same (doubled once))

theorem Known.unmoved (known : Known setup state client)
    (pc : next.pc client = state.pc client) (output : next.output client = state.output client)
    (answered : next.answered client = state.answered client)
    (due : next.due client = state.due client)
    (fewer : forall number, next.Due client number -> state.Due client number)
    (lost : next.lost = state.lost) (doubled : next.doubled = state.doubled) : Known setup next client :=
  known.traffic pc output answered fewer (by rw [due, lost, doubled]) (by rw [doubled]; exact id)

/-- An action of a client, which may take a datagram from the network or give it one. -/
theorem Invariant.acts (holds : Invariant setup state) (client : Client)
    (others : forall other, other ≠ client -> next.pc other = state.pc other ∧
      next.output other = state.output other ∧ next.answered other = state.answered other)
    (server : next.server = state.server) (lost : next.lost = state.lost)
    (doubled : next.doubled = state.doubled)
    (due : forall other, other ≠ client -> flightDue next.flight other = flightDue state.flight other)
    (flight : forall datagram, datagram ∈ next.flight -> datagram ∈ state.flight ∨
      (datagram.client = client ∧
        Carries setup datagram.client datagram.answer datagram.number datagram.text))
    (known : Known setup next client) : Invariant setup next where
  flight datagram member := by
    rcases flight datagram member with before | ⟨_, carries⟩
    · exact holds.flight datagram before
    · exact carries
  held := by
    rw [server]
    exact holds.held
  known other := by
    by_cases same : other = client
    · rw [same]
      exact known
    · rcases others other same with ⟨pc, output, answered⟩
      refine (holds.known other).unmoved pc output answered ?_ ?_ lost doubled
      · unfold State.due
        rw [server, due other same]
      · rintro number (⟨buf, sending⟩ | ⟨datagram, member, mine, its⟩)
        · exact .inl ⟨buf, by rw [← server]; exact sending⟩
        · rcases flight datagram member with before | ⟨notMine, _⟩
          · exact .inr ⟨datagram, before, mine, its⟩
          · exact absurd (mine.symm.trans notMine) same

theorem move_others (state : State Client) (client : Client) (pc : ClientPc) (other : Client)
    (different : other ≠ client) : (state.move client pc).pc other = state.pc other ∧
      (state.move client pc).output other = state.output other ∧
        (state.move client pc).answered other = state.answered other :=
  ⟨Function.update_of_ne different _ _, rfl, rfl⟩

theorem move_self (state : State Client) (client : Client) (pc : ClientPc) :
    (state.move client pc).pc client = pc := Function.update_self _ _ _

/-- A client goes on; what it awaits does not change. -/
theorem Invariant.moves (holds : Invariant setup state) (pc : ClientPc)
    (awaits : (forall result, pc ≠ .ended result) -> pc.awaits = (state.pc client).awaits ∧
      forall result, state.pc client ≠ .ended result)
    (sent : forall number, (state.pc client).Sent number -> pc.Sent number)
    (notReading : forall j, pc ≠ .reading j) (notPrinting : forall j number buf, pc ≠ .printing j number buf)
    (printed : pc.Printed (setup.client client) (state.answered client).length) :
    Invariant setup (state.move client pc) := by
  have known := holds.known client
  refine holds.acts client (move_others state client pc) rfl rfl rfl (fun _ _ => rfl)
    (fun _ member => .inl member) ?_
  constructor
  case balance =>
    rw [move_self]
    intro running
    rcases awaits running with ⟨same, before⟩
    rw [same]
    exact known.balance before
  case sent =>
    rw [move_self]
    exact fun number due => sent number (known.sent number due)
  case current =>
    rw [move_self]
    exact fun j _ _ reading => absurd reading (notReading j)
  case printing =>
    rw [move_self]
    exact fun j number buf printing => absurd printing (notPrinting j number buf)
  case output => exact known.output
  case printed =>
    rw [move_self]
    exact printed
  case answered => exact known.answered

theorem Invariant.ends (holds : Invariant setup state) {result : ProgramEnd}
    (unsuccessful : result ≠ .success)
    (few : (state.answered client).length ≤ (setup.client client).messages.length) :
    Invariant setup (state.move client (.ended result)) := by
  apply holds.moves
  · exact fun running => absurd rfl (running result)
  · exact fun _ _ => trivial
  · exact nofun
  · exact nofun
  · cases result with
    | success => exact absurd rfl unsuccessful
    | badArguments _ => exact few
    | failed _ => exact few

theorem Known.few (known : Known setup state client) :
    (state.answered client).length ≤ (setup.client client).messages.length := by
  have printed := known.printed
  unfold ClientPc.Printed at printed
  split at printed <;> omega

/-- Nothing is on its way for a client that awaits nothing, if nothing has been doubled. -/
theorem Known.not_due (known : Known setup state client) (once : state.doubled client = 0)
    (running : forall result, state.pc client ≠ .ended result) (rests : (state.pc client).awaits = 0)
    (number : Nat) : ¬ state.Due client number := by
  intro due
  have positive := due_pos due
  have balance := known.balance running
  rw [once, rests] at balance
  omega

theorem Invariant.writes (holds : Invariant setup state) {j : Nat} {message : List Byte}
    (position : state.pc client = .writing j)
    (its : (setup.client client).messages[j]? = some message) :
    Invariant setup ({ state with flight := state.flight ++ [Datagram.mk client false j message] }.move
      client (.reading j)) := by
  have known := holds.known client
  have running : forall result, state.pc client ≠ .ended result := by
    intro result ended
    rw [position] at ended
    cases ended
  have rests : (state.pc client).awaits = 0 := by
    rw [position]
    rfl
  have dueAfter : forall number,
      ({ state with flight := state.flight ++ [Datagram.mk client false j message] }.move client
        (.reading j)).Due client number -> state.Due client number ∨ number = j := by
    rintro number (held | ⟨datagram, member, mine, its⟩)
    · exact .inl (.inl held)
    · rcases List.mem_append.mp member with before | now
      · exact .inl (.inr ⟨datagram, before, mine, its⟩)
      · rw [List.mem_singleton.mp now] at its
        exact .inr its.symm
  refine holds.acts client (move_others _ client _) rfl rfl rfl ?_ ?_ ?_
  · intro other different
    exact (flightDue_concat _ _ other).trans (by rw [if_neg (Ne.symm different)]; rfl)
  · intro datagram member
    rcases List.mem_append.mp member with before | now
    · exact .inl before
    · rw [List.mem_singleton.mp now]
      exact .inr ⟨rfl, message, its, rfl⟩
  constructor
  case balance =>
    intro _
    rw [move_self]
    have before := known.balance running
    rw [rests] at before
    have grown := flightDue_concat state.flight (Datagram.mk client false j message) client
    rw [if_pos rfl] at grown
    change state.server.due client + flightDue (state.flight ++ [Datagram.mk client false j message]) client +
      state.lost client = 1 + state.doubled client
    unfold State.due at before
    omega
  case sent =>
    rw [move_self]
    intro number due
    rcases dueAfter number due with before | now
    · have sent := known.sent number before
      rw [position] at sent
      exact Nat.le_of_lt sent
    · exact Nat.le_of_eq now
  case current =>
    rw [move_self]
    intro other number once reading due
    cases reading
    rcases dueAfter number due with before | now
    · exact absurd before (known.not_due once running rests number)
    · exact now
  case printing =>
    rw [move_self]
    exact nofun
  case output => exact known.output
  case printed =>
    rw [move_self]
    have printed := known.printed
    rw [position] at printed
    exact ⟨printed.1, (List.getElem?_eq_some_iff.mp its).1⟩
  case answered => exact known.answered

theorem Invariant.reads (holds : Invariant setup state) {j place : Nat} {datagram : Datagram Client}
    (position : state.pc client = .reading j) (there : state.flight[place]? = some datagram)
    (mine : datagram.client = client) (isAnswer : datagram.answer = true) :
    Invariant setup ({ state with flight := state.flight.eraseIdx place }.move client
      (.printing j datagram.number (datagram.text.take BUF_SIZE))) := by
  have known := holds.known client
  have member := List.mem_of_getElem? there
  have due : state.Due client datagram.number := .inr ⟨datagram, member, mine, rfl⟩
  have shrunk := flightDue_eraseIdx there
  refine holds.acts client (move_others _ client _) rfl rfl rfl ?_ ?_ ?_
  · intro other different
    have same := shrunk other
    rw [if_neg (by rw [mine]; exact Ne.symm different)] at same
    exact same
  · exact fun other stays => .inl (List.mem_of_mem_eraseIdx stays)
  constructor
  case balance =>
    intro _
    rw [move_self]
    have before := known.balance (by rw [position]; exact nofun)
    rw [position] at before
    have less := shrunk client
    rw [if_pos mine] at less
    change state.server.due client + flightDue (state.flight.eraseIdx place) client + state.lost client =
      0 + state.doubled client
    unfold State.due at before
    change _ = 1 + state.doubled client at before
    omega
  case sent =>
    rw [move_self]
    intro number stillDue
    have sent := known.sent number (by
      rcases stillDue with held | ⟨other, stays, its⟩
      · exact .inl held
      · exact .inr ⟨other, List.mem_of_mem_eraseIdx stays, its⟩)
    rw [position] at sent
    exact sent
  case current =>
    rw [move_self]
    exact nofun
  case printing =>
    rw [move_self]
    intro other number buf printing
    cases printing
    have sent := known.sent datagram.number due
    rw [position] at sent
    refine ⟨sent, ?_, fun once => known.current j _ once position due⟩
    rcases holds.flight datagram member with ⟨message, its, text⟩
    rw [mine] at its
    rw [isAnswer, if_pos rfl] at text
    refine ⟨message, its, ?_⟩
    rw [text, if_pos rfl, List.take_take, Nat.min_self]
  case output => exact known.output
  case printed =>
    rw [move_self]
    have printed := known.printed
    rw [position] at printed
    exact printed
  case answered => exact known.answered

theorem Invariant.prints (holds : Invariant setup state) {j number : Nat} {buf : List Byte}
    (position : state.pc client = .printing j number buf) :
    Invariant setup ({ state with
      output := Function.update state.output client (state.output client ++ answerLine buf)
      answered := Function.update state.answered client (state.answered client ++ [number]) }.move client
        (.writing (j + 1))) := by
  have known := holds.known client
  rcases known.printing j number buf position with ⟨before, ⟨message, its, text⟩, same⟩
  have printed := known.printed
  rw [position] at printed
  refine holds.acts client ?_ rfl rfl rfl (fun _ _ => rfl) (fun _ member => .inl member) ?_
  · exact fun other different => ⟨Function.update_of_ne different _ _, Function.update_of_ne different _ _,
      Function.update_of_ne different _ _⟩
  constructor
  case balance =>
    rw [move_self]
    intro _
    have balance := known.balance (by rw [position]; exact nofun)
    rw [position] at balance
    exact balance
  case sent =>
    rw [move_self]
    intro other due
    have sent := known.sent other due
    rw [position] at sent
    exact Nat.lt_succ_of_le sent
  case current =>
    rw [move_self]
    exact nofun
  case printing =>
    rw [move_self]
    exact nofun
  case output =>
    refine (Function.update_self _ _ _).trans ?_
    change _ = answers setup client (Function.update state.answered client
      (state.answered client ++ [number]) client)
    rw [Function.update_self, known.output]
    unfold answers
    rw [List.flatMap_append, List.flatMap_singleton, its, Option.getD_some, text, if_pos rfl]
  case printed =>
    rw [move_self]
    change ClientPc.Printed _ _ (Function.update state.answered client
      (state.answered client ++ [number]) client).length
    rw [Function.update_self, List.length_append]
    exact ⟨congrArg (fun count => count + 1) printed.1, printed.2⟩
  case answered =>
    change forall place other : Nat, (Function.update state.answered client
      (state.answered client ++ [number]) client)[place]? = some other -> _
    rw [Function.update_self]
    intro place other found
    rw [List.getElem?_append] at found
    split at found
    · exact known.answered place other found
    · rename_i outside
      rw [List.getElem?_singleton] at found
      split at found
      · cases found
        have here : place = j := by
          rw [← printed.1]
          omega
        rw [here]
        exact ⟨before, same⟩
      · cases found

/-- Datagrams move, get lost or are doubled. -/
theorem Invariant.traffic (holds : Invariant setup state) (pc : next.pc = state.pc)
    (output : next.output = state.output) (answered : next.answered = state.answered)
    (flight : forall datagram, datagram ∈ next.flight ->
      Carries setup datagram.client datagram.answer datagram.number datagram.text)
    (held : forall client number buf, next.server = .sending client number buf ->
      Carries setup client true number buf)
    (fewer : forall client number, next.Due client number -> state.Due client number)
    (balance : forall client, next.due client + next.lost client + state.doubled client =
      state.due client + state.lost client + next.doubled client)
    (doubled : forall client, next.doubled client = 0 -> state.doubled client = 0) :
    Invariant setup next where
  flight := flight
  held := held
  known client := (holds.known client).traffic (by rw [pc]) (by rw [output]) (by rw [answered])
    (fewer client) (balance client) (doubled client)

theorem update_succ (counts : Client -> Nat) (client other : Client) :
    Function.update counts client (counts client + 1) other =
      counts other + if client = other then 1 else 0 := by
  by_cases same : client = other
  · rw [same, Function.update_self, if_pos rfl]
  · rw [Function.update_of_ne (Ne.symm same), if_neg same]
    rfl

/-- The server goes from one position to another at which it holds no datagram. -/
theorem Invariant.serverMoves (holds : Invariant setup state) {server : ServerPc Client}
    (empty : forall client number buf, server ≠ .sending client number buf)
    (wasEmpty : forall client number buf, state.server ≠ .sending client number buf) :
    Invariant setup { state with server := server } := by
  have none : forall {server : ServerPc Client}, (forall client number buf,
      server ≠ .sending client number buf) -> forall client, server.due client = 0 := by
    intro server notSending client
    unfold ServerPc.due
    split
    · exact absurd rfl (notSending _ _ _)
    · rfl
    · rfl
    · rfl
  refine holds.traffic rfl rfl rfl holds.flight ?_ ?_ ?_ (fun _ => id)
  · exact fun client number buf sending => absurd sending (empty client number buf)
  · rintro client number (⟨buf, sending⟩ | flying)
    · exact absurd sending (empty client number buf)
    · exact .inr flying
  · intro client
    change server.due client + flightDue state.flight client + _ + _ = state.server.due client +
      flightDue state.flight client + _ + _
    rw [none empty, none wasEmpty]

theorem due_of_sending {number : Nat} {buf : List Byte} (position : state.server = .sending client number buf)
    (other : Client) : state.server.due other = if client = other then 1 else 0 := by
  rw [position]
  rfl

/-- The server sends the answer that it holds. -/
theorem Invariant.answers (holds : Invariant setup state) {number : Nat} {buf : List Byte}
    (position : state.server = .sending client number buf) :
    Invariant setup { state with
      server := .receiving, flight := state.flight ++ [⟨client, true, number, buf⟩] } := by
  have held := holds.held client number buf position
  refine holds.traffic rfl rfl rfl ?_ nofun ?_ ?_ (fun _ => id)
  · intro datagram member
    rcases List.mem_append.mp member with before | now
    · exact holds.flight datagram before
    · rw [List.mem_singleton.mp now]
      exact held
  · rintro other its (⟨_, never⟩ | ⟨datagram, member, who, which⟩)
    · cases never
    · rcases List.mem_append.mp member with before | now
      · exact .inr ⟨datagram, before, who, which⟩
      · rw [List.mem_singleton.mp now] at who which
        cases who
        cases which
        exact .inl ⟨buf, position⟩
  · intro other
    have grown := flightDue_concat state.flight (Datagram.mk client true number buf) other
    have server := due_of_sending position other
    change 0 + flightDue (state.flight ++ [Datagram.mk client true number buf]) other +
      state.lost other + state.doubled other = state.server.due other +
        flightDue state.flight other + state.lost other + state.doubled other
    dsimp only at grown
    omega

/-- The answer that the server holds cannot be sent. -/
theorem Invariant.dropsAnswer (holds : Invariant setup state) {number : Nat} {buf : List Byte}
    (position : state.server = .sending client number buf) :
    Invariant setup { state with
      server := .receiving
      lost := Function.update state.lost client (state.lost client + 1) } := by
  refine holds.traffic rfl rfl rfl holds.flight nofun ?_ ?_ (fun _ => id)
  · rintro other its (⟨_, never⟩ | flying)
    · cases never
    · exact .inr flying
  · intro other
    have server := due_of_sending position other
    have more := update_succ state.lost client other
    change 0 + flightDue state.flight other +
      Function.update state.lost client (state.lost client + 1) other + state.doubled other =
        state.server.due other + flightDue state.flight other + state.lost other +
          state.doubled other
    omega

theorem serverStep_preserves (holds : Invariant setup state) {outcome : Outcome}
    (taken : serverStep state outcome = some next) : Invariant setup next := by
  unfold serverStep at taken
  cases position : state.server with
  | binding =>
      rw [position] at taken
      have empty : forall client number buf, state.server ≠ .sending client number buf := by
        rw [position]
        exact nofun
      cases outcome with
      | succeeds =>
          cases taken
          exact holds.serverMoves nofun empty
      | fails errno =>
          cases taken
          exact holds.serverMoves nofun empty
  | receiving =>
      rw [position] at taken
      cases outcome with
      | succeeds => cases taken
      | fails errno =>
          cases taken
          apply holds.serverMoves
          · exact nofun
          · rw [position]
            exact nofun
  | failed =>
      rw [position] at taken
      cases taken
  | sending client number buf =>
      rw [position] at taken
      cases outcome with
      | succeeds =>
          cases taken
          exact holds.answers position
      | fails errno =>
          cases taken
          exact holds.dropsAnswer position

theorem receiveStep_preserves (holds : Invariant setup state) {place : Nat}
    (taken : receiveStep state place = some next) : Invariant setup next := by
  unfold receiveStep at taken
  split at taken
  · rename_i datagram position there
    split at taken
    · rename_i request
      cases taken
      have member := List.mem_of_getElem? there
      refine holds.traffic rfl rfl rfl ?_ ?_ ?_ ?_ (fun _ => id)
      · exact fun other stays => holds.flight other (List.mem_of_mem_eraseIdx stays)
      · intro client number buf sending
        cases sending
        rcases holds.flight datagram member with ⟨message, its, text⟩
        rw [request, if_neg Bool.false_ne_true] at text
        exact ⟨message, its, by rw [text, if_pos rfl]⟩
      · rintro client number (⟨buf, sending⟩ | ⟨other, stays, its⟩)
        · cases sending
          exact .inr ⟨datagram, member, rfl, rfl⟩
        · exact .inr ⟨other, List.mem_of_mem_eraseIdx stays, its⟩
      · intro client
        have shrunk := flightDue_eraseIdx there client
        have server : state.server.due client = 0 := by
          rw [position]
          rfl
        change (if datagram.client = client then 1 else 0) + flightDue (state.flight.eraseIdx place) client +
          state.lost client + state.doubled client = state.server.due client +
            flightDue state.flight client + state.lost client + state.doubled client
        omega
    · cases taken
  · cases taken

theorem clientStep_preserves (holds : Invariant setup state) {outcome : Outcome}
    (taken : clientStep setup state client outcome = some next) : Invariant setup next := by
  have known := holds.known client
  have fails : forall failure, Invariant setup (state.fail client failure) :=
    fun failure => holds.ends nofun known.few
  have printed := known.printed
  unfold clientStep at taken
  dsimp only at taken
  cases position : state.pc client with
  | starting =>
      rw [position] at taken printed
      dsimp only at taken
      split at taken
      · cases taken
        exact holds.ends nofun known.few
      · split at taken
        · cases taken
          exact holds.ends nofun known.few
        · cases taken
          apply holds.moves
          · rw [position]
            exact fun _ => ⟨rfl, nofun⟩
          · rw [position]
            exact fun _ => id
          · exact nofun
          · exact nofun
          · exact printed
  | connecting =>
      rw [position] at taken printed
      cases outcome with
      | succeeds =>
          cases taken
          apply holds.moves
          · rw [position]
            exact fun _ => ⟨rfl, nofun⟩
          · rw [position]
            exact fun _ => False.elim
          · exact nofun
          · exact nofun
          · exact ⟨printed, Nat.zero_le _⟩
      | fails errno =>
          cases taken
          exact fails _
  | writing j =>
      rw [position] at taken printed
      dsimp only at taken
      split at taken
      · rename_i past
        cases taken
        have all := List.getElem?_eq_none_iff.mp past
        apply holds.moves
        · exact fun running => absurd rfl (running .success)
        · exact fun _ _ => trivial
        · exact nofun
        · exact nofun
        · change (state.answered client).length = _
          rw [printed.1]
          exact le_antisymm printed.2 all
      · rename_i message its
        cases taken
        exact holds.writes position its
      · cases taken
        exact fails _
  | reading j =>
      rw [position] at taken
      cases outcome with
      | succeeds => cases taken
      | fails errno =>
          cases taken
          exact fails _
  | printing j number buf =>
      rw [position] at taken
      cases taken
      exact holds.prints position
  | ended result =>
      rw [position] at taken
      cases taken

theorem step_preserves (action : Action Client) (holds : Invariant setup state)
    (taken : step setup state action = some next) : Invariant setup next := by
  cases action with
  | client client outcome => exact clientStep_preserves holds taken
  | read client place =>
      change readStep state client place = some next at taken
      unfold readStep at taken
      split at taken
      · rename_i j datagram position there
        split at taken
        · rename_i both
          cases taken
          exact holds.reads position there both.1 both.2
        · cases taken
      · cases taken
  | server outcome => exact serverStep_preserves holds taken
  | receive place => exact receiveStep_preserves holds taken
  | lose place =>
      rcases Option.map_eq_some_iff.mp taken with ⟨datagram, there, rfl⟩
      refine holds.traffic rfl rfl rfl ?_ holds.held ?_ ?_ (fun _ => id)
      · exact fun other stays => holds.flight other (List.mem_of_mem_eraseIdx stays)
      · rintro client number (held | ⟨other, stays, its⟩)
        · exact .inl held
        · exact .inr ⟨other, List.mem_of_mem_eraseIdx stays, its⟩
      · intro client
        have shrunk := flightDue_eraseIdx there client
        have more := update_succ state.lost datagram.client client
        change state.server.due client + flightDue (state.flight.eraseIdx place) client +
          Function.update state.lost datagram.client (state.lost datagram.client + 1) client +
            state.doubled client = state.server.due client + flightDue state.flight client +
              state.lost client + state.doubled client
        omega
  | double place =>
      rcases Option.map_eq_some_iff.mp taken with ⟨datagram, there, rfl⟩
      have member := List.mem_of_getElem? there
      have isThere : forall other, other ∈ state.flight ++ [datagram] -> other ∈ state.flight := by
        intro other stays
        rcases List.mem_append.mp stays with before | now
        · exact before
        · rw [List.mem_singleton.mp now]
          exact member
      refine holds.traffic rfl rfl rfl ?_ holds.held ?_ ?_ ?_
      · exact fun other stays => holds.flight other (isThere other stays)
      · rintro client number (held | ⟨other, stays, its⟩)
        · exact .inl held
        · exact .inr ⟨other, isThere other stays, its⟩
      · intro client
        have grown := flightDue_concat state.flight datagram client
        have more := update_succ state.doubled datagram.client client
        change state.server.due client + flightDue (state.flight ++ [datagram]) client +
          state.lost client + state.doubled client = state.server.due client +
            flightDue state.flight client + state.lost client +
              Function.update state.doubled datagram.client (state.doubled datagram.client + 1) client
        omega
      · intro client
        have more := update_succ state.doubled datagram.client client
        change Function.update state.doubled datagram.client (state.doubled datagram.client + 1) client = 0 -> _
        omega

theorem start_invariant (setup : Setup Client) : Invariant setup start where
  flight _ := nofun
  held _ _ _ := nofun
  known client :=
    { balance := fun _ => rfl
      sent := by
        rintro number (⟨_, never⟩ | ⟨_, never, _⟩) <;> cases never
      current := nofun
      printing := nofun
      output := rfl
      printed := rfl
      answered := nofun }

theorem reachable_invariant (reached : (machine setup).Reachable state) : Invariant setup state := by
  refine reached.invariant ?_ ?_
  · rintro _ rfl
    exact start_invariant setup
  · intro before action after holds taken
    exact step_preserves action holds taken

/-!
## What the clients get
-/

/-- The line that a message should give. -/
def echoLine (message : List Byte) : List Byte :=
  ascii "[" ++ renderNat (min BUF_SIZE message.length) ++ ascii " bytes] " ++ message.take BUF_SIZE ++
    [newline]

omit [DecidableEq Client] in
theorem Arguments.string (arguments : Arguments) {message : List Byte}
    (its : message ∈ arguments.messages) : (0 : Byte) ∉ message :=
  arguments.strings message (List.mem_of_mem_tail its)

theorem answerLine_take {message : List Byte} (string : (0 : Byte) ∉ message) :
    answerLine (message.take BUF_SIZE) = echoLine message := by
  have whole : (message.take BUF_SIZE).takeWhile (fun byte => decide (byte ≠ 0)) = message.take BUF_SIZE := by
    apply List.takeWhile_eq_self_iff.mpr
    intro byte member
    apply decide_eq_true
    rintro rfl
    exact string (List.mem_of_mem_take member)
  unfold answerLine echoLine printfString
  rw [List.take_length, whole, List.length_take]

omit [DecidableEq Client] in
theorem answers_eq (setup : Setup Client) (client : Client) (numbers : List Nat) :
    answers setup client numbers =
      numbers.flatMap (fun number => echoLine ((setup.client client).messages[number]?.getD [])) := by
  unfold answers
  congr 1
  funext number
  apply answerLine_take
  cases found : (setup.client client).messages[number]? with
  | none => exact List.not_mem_nil
  | some message => exact (setup.client client).string (List.mem_of_getElem? found)

/-- The messages in their order are what their numbers in order stand for. -/
theorem flatMap_range_getD (messages : List (List Byte)) {count : Nat} (few : count ≤ messages.length) :
    (List.range count).flatMap (fun number => echoLine (messages[number]?.getD [])) =
      (messages.take count).flatMap echoLine := by
  induction count with
  | zero => rfl
  | succ count inductionHypothesis =>
      have inside : count < messages.length := few
      rw [List.range_succ, List.flatMap_append, inductionHypothesis (Nat.le_of_lt inside),
        List.take_succ_eq_append_getElem inside, List.flatMap_append, List.flatMap_singleton,
        List.flatMap_singleton, List.getElem?_eq_getElem inside, Option.getD_some]

/-- The server goes on, or the client reads an answer. -/
def Action.Serves (client : Client) : Action Client -> Prop
  | .server .succeeds | .receive _ => True
  | .read other _ => other = client
  | .server (.fails _) | .client _ _ | .lose _ | .double _ => False

/-- The client gets an answer after at most so many steps of the server and its own, none of
which loses anything for it. -/
def Served (setup : Setup Client) (client : Client) (count : Nat) (state : State Client) : Prop :=
  Exists fun actions : List (Action Client) => Exists fun next =>
    (actions.length ≤ count ∧ forall action, action ∈ actions -> action.Serves client) ∧
      (machine setup).exec state actions = some next ∧ next.lost client = state.lost client ∧
        Exists fun j => Exists fun number => Exists fun buf => next.pc client = .printing j number buf

/-- One step more, on the way to an answer. -/
theorem Served.after {action : Action Client} {count : Nat}
    (taken : step setup state action = some next) (serves : action.Serves client)
    (lost : next.lost client = state.lost client) (served : Served setup client count next) : Served setup client (count + 1) state := by
  rcases served with ⟨actions, final, ⟨few, all⟩, executed, same, position⟩
  refine ⟨action :: actions, final, ⟨Nat.succ_le_succ few, ?_⟩, ?_, same.trans lost, position⟩
  · intro other member
    rcases List.mem_cons.mp member with rfl | later
    · exact serves
    · exact all other later
  · exact Option.bind_eq_some_iff.mpr ⟨next, taken, executed⟩

theorem Served.mono {count more : Nat} (served : Served setup client count state) (le : count ≤ more) :
    Served setup client more state := by
  rcases served with ⟨actions, final, ⟨few, all⟩, rest⟩
  exact ⟨actions, final, ⟨few.trans le, all⟩, rest⟩

theorem served_of_answer {j : Nat} {datagram : Datagram Client} (reading : state.pc client = .reading j)
    (member : datagram ∈ state.flight) (mine : datagram.client = client)
    (answer : datagram.answer = true) : Served setup client 1 state := by
  rcases List.getElem?_of_mem member with ⟨place, there⟩
  have taken : step setup state (.read client place) =
      some ({ state with flight := state.flight.eraseIdx place }.move client
        (.printing j datagram.number (datagram.text.take BUF_SIZE))) := by
    change readStep state client place = _
    unfold readStep
    rw [reading, there]
    exact if_pos ⟨mine, answer⟩
  apply Served.after taken rfl rfl
  exact ⟨[], _, ⟨Nat.le_refl 0, nofun⟩, rfl, rfl, j, _, _, move_self _ _ _⟩

theorem served_of_sending {j number : Nat} {buf : List Byte} (reading : state.pc client = .reading j)
    (sending : state.server = .sending client number buf) : Served setup client 2 state := by
  have taken : step setup state (.server .succeeds) = some { state with
      server := .receiving, flight := state.flight ++ [⟨client, true, number, buf⟩] } := by
    change serverStep state .succeeds = _
    unfold serverStep
    rw [sending]
  apply Served.after taken trivial rfl
  exact served_of_answer reading (List.mem_append_right _ List.mem_cons_self) rfl rfl

theorem served_of_request {j : Nat} {datagram : Datagram Client} (reading : state.pc client = .reading j)
    (receiving : state.server = .receiving) (member : datagram ∈ state.flight)
    (mine : datagram.client = client) (request : datagram.answer = false) :
    Served setup client 3 state := by
  rcases List.getElem?_of_mem member with ⟨place, there⟩
  have taken : step setup state (.receive place) = some { state with
      server := .sending client datagram.number (datagram.text.take BUF_SIZE)
      flight := state.flight.eraseIdx place } := by
    change receiveStep state place = _
    unfold receiveStep
    rw [receiving, there, ← mine]
    exact if_pos request
  apply Served.after taken trivial rfl
  exact served_of_sending reading rfl

/-- The server gets to a request from wherever it is. -/
theorem served_of_flight {j : Nat} {datagram : Datagram Client} (reading : state.pc client = .reading j)
    (working : state.server ≠ .failed) (member : datagram ∈ state.flight)
    (mine : datagram.client = client) (request : datagram.answer = false) :
    Served setup client 4 state := by
  cases position : state.server with
  | failed => exact absurd position working
  | receiving =>
      exact (served_of_request reading position member mine request).mono (Nat.le_succ 3)
  | binding =>
      have taken : step setup state (.server .succeeds) = some { state with server := .receiving } := by
        change serverStep state .succeeds = _
        unfold serverStep
        rw [position]
      apply Served.after taken trivial rfl
      exact served_of_request reading rfl member mine request
  | sending other number buf =>
      have taken : step setup state (.server .succeeds) = some { state with
          server := .receiving, flight := state.flight ++ [⟨other, true, number, buf⟩] } := by
        change serverStep state .succeeds = _
        unfold serverStep
        rw [position]
      apply Served.after taken trivial rfl
      exact served_of_request reading rfl (List.mem_append_left _ member) mine request

/-- What the network and the programs make of the messages. -/
structure Echoed (setup : Setup Client) (state : State Client) : Prop where
  /-- Whatever the network does, a client prints echoes of its own messages, each of which
  it has sent by then. -/
  own : forall client, Exists fun numbers : List Nat =>
    (forall position number : Nat, numbers[position]? = some number -> number ≤ position) ∧
      numbers.length ≤ (setup.client client).messages.length ∧ state.output client =
        numbers.flatMap (fun number => echoLine ((setup.client client).messages[number]?.getD []))
  /-- If none of its datagrams is doubled, they are in order and without gaps. -/
  ordered : forall client, state.doubled client = 0 -> Exists fun count : Nat =>
    count ≤ (setup.client client).messages.length ∧
      state.output client = ((setup.client client).messages.take count).flatMap echoLine
  /-- A client that is successful has got an answer for each message. -/
  complete : forall client, state.pc client = .ended .success -> state.doubled client = 0 ->
    state.output client = (setup.client client).messages.flatMap echoLine
  /-- A client for which nothing has been lost does not wait in vain, unless the server has
  failed. -/
  served : forall client j, state.pc client = .reading j -> state.lost client = 0 ->
    state.server ≠ .failed -> Served setup client 4 state

omit [DecidableEq Client] in
/-- A list in which every entry is its own position. -/
theorem eq_range {numbers : List Nat}
    (same : forall position number : Nat, numbers[position]? = some number -> number = position) :
    numbers = List.range numbers.length := by
  apply List.ext_getElem
  · rw [List.length_range]
  · intro position inside _
    rw [List.getElem_range]
    exact same position _ (List.getElem?_eq_getElem inside)

theorem Known.ordered (known : Known setup state client) (once : state.doubled client = 0) :
    state.output client =
      ((setup.client client).messages.take (state.answered client).length).flatMap echoLine := by
  rw [known.output, answers_eq, eq_range (fun position number found =>
    (known.answered position number found).2 once), List.length_range,
    flatMap_range_getD _ known.few]

theorem exists_due (positive : 0 < state.due client) : Exists fun number => state.Due client number := by
  unfold State.due at positive
  by_cases flying : 0 < flightDue state.flight client
  · rcases List.countP_pos_iff.mp flying with ⟨datagram, member, mine⟩
    exact ⟨datagram.number, .inr ⟨datagram, member, of_decide_eq_true mine, rfl⟩⟩
  · have held : 0 < state.server.due client := by omega
    unfold ServerPc.due at held
    split at held
    · rename_i other number buf sending
      split at held
      · rename_i same
        exact ⟨number, .inl ⟨buf, by rw [sending, same]⟩⟩
      · omega
    · omega
    · omega
    · omega

theorem Invariant.echoed (holds : Invariant setup state) : Echoed setup state where
  own client :=
    ⟨state.answered client,
      fun position number found => ((holds.known client).answered position number found).1,
      (holds.known client).few, (holds.known client).output.trans (answers_eq setup client _)⟩
  ordered client once := ⟨_, (holds.known client).few, (holds.known client).ordered once⟩
  complete client success once := by
    have printed := (holds.known client).printed
    rw [success] at printed
    rw [(holds.known client).ordered once, printed, List.take_length]
  served client j reading nothing working := by
    have balance := (holds.known client).balance (by rw [reading]; exact nofun)
    rw [reading, nothing] at balance
    change _ = 1 + _ at balance
    have due : 0 < state.due client := by omega
    rcases exists_due due with ⟨number, ⟨buf, sending⟩ | ⟨datagram, member, mine, _⟩⟩
    · exact (served_of_sending reading sending).mono (by decide)
    · cases kind : datagram.answer with
      | true => exact (served_of_answer reading member mine kind).mono (by decide)
      | false => exact served_of_flight reading working member mine kind

/-- Any number of clients use the server over a network that is not reliable. -/
theorem id_echo_echoed (setup : Setup Client) : forall state, (machine setup).Reachable state ->
    Echoed setup state :=
  fun _ reached => (reachable_invariant reached).echoed

/-! The first message of a client is doubled by the network, and its second answer is taken
for that to the second message; the other client is not concerned. -/

def doubledSetup : Setup Bool where
  dumpcore := none
  client
    | false => ⟨ascii "id_echo_cl", [ascii "host", ascii "ab", ascii "c"], by decide⟩
    | true => ⟨ascii "id_echo_cl", [ascii "host", ascii "xyz"], by decide⟩

def doubledActions : List (Action Bool) :=
  List.replicate 3 (.client false .succeeds) ++
    [.double 0, .server .succeeds, .receive 0, .server .succeeds, .read false 1] ++
    List.replicate 2 (.client false .succeeds) ++ List.replicate 3 (.client true .succeeds) ++
    [.receive 2, .server .succeeds, .read true 2, .receive 0, .server .succeeds, .read false 1] ++
    List.replicate 2 (.client false .succeeds) ++ List.replicate 2 (.client true .succeeds)

def doubledFinal : State Bool :=
  ((machine doubledSetup).exec start doubledActions).get (by decide +kernel)

theorem id_echo_echoed_doubled :
    (doubledFinal.output false = ascii "[2 bytes] ab\n[2 bytes] ab\n" ∧
      doubledFinal.output true = ascii "[3 bytes] xyz\n" ∧ doubledFinal.pc false = .ended .success) ∧
        Echoed doubledSetup doubledFinal := by
  have executed : (machine doubledSetup).exec start doubledActions = some doubledFinal :=
    (Option.some_get _).symm
  exact ⟨by decide +kernel, id_echo_echoed _ _ (Machine.reachable_of_exec rfl executed)⟩

end IdEcho
end SocketDesign
end Tlpi
