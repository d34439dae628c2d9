import Mathlib.Logic.Function.Basic
import Tlpi.CLibrary.Strings
import Tlpi.Foundations.Transition

namespace Tlpi
namespace SocketUnix
namespace Ucase

universe u

open CLibrary Foundations

/-!
# The datagram service that converts to upper case

A client sends each of its arguments as a datagram and waits for the answer before
it sends the next.  The server receives datagrams from any client into one buffer,
converts the bytes that it received in place, and sends them back.  Buffers are
small: a datagram that is longer is cut, and a shorter one leaves old bytes behind
it.

There are two pairs of programs, for UNIX domain and for Internet sockets, with the
same loops.  In the second pair the first argument of a client is the address of
the server, so that its messages start one argument later and are numbered by
`j - 1`.  Datagrams arrive, in the order in which their sender sent them; among the
senders the server may receive from any.
-/

def BUF_SIZE : Nat := 10

/-! ## Buffers -/

/-- `toupper((unsigned char) byte)` in the C locale. -/
def toupper (byte : Byte) : Byte := if 97 ≤ byte ∧ byte ≤ 122 then byte - 32 else byte

/-- The result of `recvfrom`: a longer datagram is cut. -/
def received (size : Nat) (datagram : List Byte) : Nat := min datagram.length size

/-- `buf[j] = toupper((unsigned char) buf[j])`. -/
def convertAt {size : Nat} (buf : Vector Byte size) (j : Nat) : Vector Byte size :=
  Vector.ofFn (fun index => if index.val = j then toupper (buf.get index) else buf.get index)

/-- The loop of the server over the first `numBytes` bytes of its buffer. -/
def convert {size : Nat} (buf : Vector Byte size) : Nat -> Vector Byte size
  | 0 => buf
  | j + 1 => convertAt (convert buf j) j

theorem toupper_ne_zero {byte : Byte} (nonzero : byte ≠ 0) : toupper byte ≠ 0 := by
  unfold toupper
  split
  · rename_i lower
    rcases lower with ⟨low, high⟩
    rw [UInt8.le_iff_toNat_le] at low high
    intro zero
    have value := congrArg UInt8.toNat zero
    rw [UInt8.toNat_sub_of_le _ _ (by rw [UInt8.le_iff_toNat_le]; exact Nat.le_trans (by decide) low)]
      at value
    change byte.toNat - 32 = 0 at value
    change 97 ≤ byte.toNat at low
    omega
  · exact nonzero

theorem get_convert {size : Nat} (buf : Vector Byte size) (numBytes : Nat) (index : Fin size) :
    (convert buf numBytes).get index =
      if index.val < numBytes then toupper (buf.get index) else buf.get index := by
  induction numBytes with
  | zero => simp [convert]
  | succ j inductionHypothesis =>
      have here : (convert buf (j + 1)).get index =
          if index.val = j then toupper ((convert buf j).get index)
          else (convert buf j).get index :=
        Vector.getElem_ofFn index.isLt
      rw [here, inductionHypothesis]
      split_ifs <;> first | rfl | omega

theorem contents_convert {size : Nat} (buf : Vector Byte size) (numBytes : Nat) :
    contents (convert buf numBytes) numBytes = (contents buf numBytes).map toupper := by
  apply List.ext_getElem
  · simp [contents]
  · intro index inConverted inBuffer
    have bounds : index < numBytes ∧ index < size := by
      simp only [contents, List.length_take, Vector.length_toList] at inConverted
      omega
    have converted := get_convert buf numBytes ⟨index, bounds.2⟩
    rw [if_pos bounds.1] at converted
    simpa [contents, Vector.get] using converted

/-! ## The programs -/

/-- The two pairs of programs. -/
inductive Program where
  | ud
  | i6d
deriving DecidableEq, Repr

namespace Program

/-- The argument that has the first message. -/
def first : Program -> Nat
  | .ud => 1
  | .i6d => 2

/-- The number that a client prints with the answer to argument `j`. -/
def number (j : Nat) : Program -> Nat
  | .ud => j
  | .i6d => j - 1

/-- The clients number their messages from 1 on. -/
theorem number_eq (program : Program) (index : Nat) :
    program.number (program.first + index) = index + 1 := by
  cases program <;> simp only [first, number] <;> omega

end Program

/-- The positions of a client, each named after what it does next. -/
inductive ClientPc where
  | sending (j : Nat)
  | receiving (j : Nat)
  | printing (j : Nat) (numBytes : Nat)
  | exited
deriving DecidableEq, Repr

/-- A client, with the datagrams on their way from it and to it, and the responses
that it has printed, each with its number. -/
structure Client where
  argv : List CString
  pc : ClientPc
  resp : Vector Byte BUF_SIZE
  outgoing : List (List Byte)
  inbox : List (List Byte)
  printed : List (Nat × List Byte)

/-- The positions of the server.  A position inside the loop has the sender and
the length of the datagram. -/
inductive ServerPc (Name : Type u) where
  | receiving
  | converting (claddr : Name) (numBytes : Nat)
  | sending (claddr : Name) (numBytes : Nat)
deriving DecidableEq, Repr

structure State (Name : Type u) where
  clients : Name -> Client
  server : ServerPc Name
  buf : Vector Byte BUF_SIZE

/-- A client goes on, the server receives the next datagram of a client, or the
server goes on. -/
inductive Action (Name : Type u) where
  | client (name : Name)
  | receive (name : Name)
  | server
deriving DecidableEq, Repr

def Client.step (program : Program) (client : Client) : Option Client :=
  match client.pc with
  | .sending j =>
      match client.argv[j]? with
      | none => some { client with pc := .exited }
      | some message =>
          some { client with pc := .receiving j, outgoing := client.outgoing ++ [message.bytes] }
  | .receiving j =>
      match client.inbox with
      | [] => none
      | datagram :: rest =>
          some { client with
            pc := .printing j (received BUF_SIZE datagram)
            resp := fill client.resp datagram
            inbox := rest }
  | .printing j numBytes =>
      let response := (program.number j, cString (contents client.resp numBytes))
      some { client with pc := .sending (j + 1), printed := client.printed ++ [response] }
  | .exited => none

variable {Name : Type u} [DecidableEq Name]

namespace State

def setClient (state : State Name) (name : Name) (client : Client) : State Name :=
  { state with clients := Function.update state.clients name client }

/-- `recvfrom` in the server. -/
def receive (state : State Name) (name : Name) : Option (State Name) :=
  match state.server, (state.clients name).outgoing with
  | .receiving, datagram :: rest =>
      some { state.setClient name { state.clients name with outgoing := rest } with
        server := .converting name (received BUF_SIZE datagram)
        buf := fill state.buf datagram }
  | _, _ => none

/-- The loop over the buffer, and `sendto`. -/
def serverStep (state : State Name) : Option (State Name) :=
  match state.server with
  | .receiving => none
  | .converting claddr numBytes =>
      some { state with server := .sending claddr numBytes, buf := convert state.buf numBytes }
  | .sending claddr numBytes =>
      let client := state.clients claddr
      let sent := { client with inbox := client.inbox ++ [contents state.buf numBytes] }
      some { state.setClient claddr sent with server := .receiving }

def step (program : Program) (state : State Name) : Action Name -> Option (State Name)
  | .client name => ((state.clients name).step program).map (state.setClient name)
  | .receive name => state.receive name
  | .server => state.serverStep

end State

/-- Clients with the given arguments in front of their loops, and the server in
front of its loop.  The buffers hold anything. -/
def service (program : Program) (argv : Name -> List CString) : Machine (State Name) (Action Name) where
  Initial := fun state => state.server = .receiving ∧ forall name,
    (state.clients name).argv = argv name ∧ (state.clients name).pc = .sending program.first ∧
      (state.clients name).outgoing = [] ∧ (state.clients name).inbox = [] ∧
      (state.clients name).printed = []
  step := State.step program

/-! ## What the clients should print -/

/-- The answer to a message. -/
def answer (message : CString) : List Byte := (message.bytes.take BUF_SIZE).map toupper

/-- The responses to all messages of a client, numbered from 1 on. -/
def responses (program : Program) (argv : List CString) : List (Nat × List Byte) :=
  (argv.drop program.first).mapIdx (fun index message => (index + 1, answer message))

theorem answer_nullFree (message : CString) : cString (answer message) = answer message := by
  apply List.takeWhile_eq_self_iff.mpr
  intro byte member
  rcases List.mem_map.mp member with ⟨original, inMessage, rfl⟩
  apply bne_iff_ne.mpr
  exact toupper_ne_zero (message.nullFree original (List.mem_of_mem_take inMessage))

/-- The response to the message in argument `j`. -/
theorem responses_getElem? {program : Program} {argv : List CString} {j : Nat} {message : CString}
    (later : program.first ≤ j) (found : argv[j]? = some message) :
    (responses program argv)[j - program.first]? = some (program.number j, answer message) := by
  have numbered := program.number_eq (j - program.first)
  have position : program.first + (j - program.first) = j := by omega
  rw [position] at numbered
  rw [responses, List.getElem?_mapIdx, List.getElem?_drop, position, found, numbered]
  rfl

/-- All responses have been taken when the arguments are used up. -/
theorem responses_take {program : Program} {argv : List CString} {j : Nat}
    (later : program.first ≤ j) (exhausted : argv[j]? = none) :
    (responses program argv).take (j - program.first) = responses program argv := by
  apply List.take_of_length_le
  rw [responses, List.length_mapIdx, List.length_drop]
  have bound := List.getElem?_eq_none_iff.mp exhausted
  omega

/-! ## The conversation with one client -/

namespace ServerPc

/-- The client whose datagram the server works on. -/
def claddr : ServerPc Name -> Option Name
  | .receiving => none
  | .converting claddr _ => some claddr
  | .sending claddr _ => some claddr

/-- The server works on a message: it has received the message, or converted it. -/
def WorksOn (buf : Vector Byte BUF_SIZE) (name : Name) (message : CString) : ServerPc Name -> Prop
  | .receiving => False
  | .converting claddr numBytes =>
      claddr = name ∧ contents buf numBytes = message.bytes.take BUF_SIZE
  | .sending claddr numBytes => claddr = name ∧ contents buf numBytes = answer message

end ServerPc

/-- Nothing is on its way between a client and the server. -/
structure Quiet (server : ServerPc Name) (name : Name) (client : Client) : Prop where
  outgoing : client.outgoing = []
  inbox : client.inbox = []
  free : server.claddr ≠ some name

/-- A message of a client is on its way, is worked on, or its answer is on its
way. -/
inductive Exchange (server : ServerPc Name) (buf : Vector Byte BUF_SIZE) (name : Name)
    (client : Client) (message : CString) : Prop
  | requested : client.outgoing = [message.bytes] -> client.inbox = [] ->
      server.claddr ≠ some name -> Exchange server buf name client message
  | served : client.outgoing = [] -> client.inbox = [] -> server.WorksOn buf name message ->
      Exchange server buf name client message
  | answered : client.outgoing = [] -> client.inbox = [answer message] ->
      server.claddr ≠ some name -> Exchange server buf name client message

/-- A client in front of argument `j` has printed the responses to the earlier
ones. -/
structure Progress (program : Program) (argv : List CString) (client : Client) (j : Nat) : Prop where
  arguments : client.argv = argv
  later : program.first ≤ j
  printed : client.printed = (responses program argv).take (j - program.first)

/-- What the position of a client tells about its messages. -/
inductive Talk (program : Program) (argv : List CString) (server : ServerPc Name)
    (buf : Vector Byte BUF_SIZE) (name : Name) (client : Client) : Prop
  | sending {j : Nat} : client.pc = .sending j -> Progress program argv client j ->
      Quiet server name client -> Talk program argv server buf name client
  | receiving {j : Nat} {message : CString} : client.pc = .receiving j ->
      Progress program argv client j -> argv[j]? = some message ->
      Exchange server buf name client message -> Talk program argv server buf name client
  | printing {j numBytes : Nat} {message : CString} : client.pc = .printing j numBytes ->
      Progress program argv client j -> argv[j]? = some message ->
      contents client.resp numBytes = answer message -> Quiet server name client ->
      Talk program argv server buf name client
  | exited : client.pc = .exited -> client.argv = argv ->
      client.printed = responses program argv -> Quiet server name client ->
      Talk program argv server buf name client

section

variable {program : Program} {argv : List CString} {server next : ServerPc Name}
  {buf other : Vector Byte BUF_SIZE} {name : Name} {client moved : Client}

omit [DecidableEq Name] in
/-- A client that the server does not work for is not affected by the server. -/
theorem Talk.frame (talk : Talk program argv server buf name client)
    (free : server.claddr ≠ some name) (freeAfter : next.claddr ≠ some name) :
    Talk program argv next other name client := by
  cases talk with
  | sending position progress quiet =>
      exact .sending position progress ⟨quiet.outgoing, quiet.inbox, freeAfter⟩
  | receiving position progress found exchange =>
      refine .receiving position progress found ?_
      cases exchange with
      | requested outgoing inbox _ => exact .requested outgoing inbox freeAfter
      | served outgoing inbox works =>
          cases server with
          | receiving => exact works.elim
          | converting claddr numBytes => exact absurd (congrArg some works.1) free
          | sending claddr numBytes => exact absurd (congrArg some works.1) free
      | answered outgoing inbox _ => exact .answered outgoing inbox freeAfter
  | printing position progress found copied quiet =>
      exact .printing position progress found copied ⟨quiet.outgoing, quiet.inbox, freeAfter⟩
  | exited position arguments printed quiet =>
      exact .exited position arguments printed ⟨quiet.outgoing, quiet.inbox, freeAfter⟩

omit [DecidableEq Name] in
/-- Only a client that waits for an answer has sent a datagram. -/
theorem Talk.of_outgoing {datagram : List Byte} {rest : List (List Byte)}
    (talk : Talk program argv server buf name client) (sent : client.outgoing = datagram :: rest) :
    Exists fun j => Exists fun message : CString => client.pc = .receiving j ∧
      Progress program argv client j ∧ argv[j]? = some message ∧
      datagram = message.bytes ∧ rest = [] ∧ client.inbox = [] := by
  cases talk with
  | sending position progress quiet =>
      rw [quiet.outgoing] at sent
      cases sent
  | @receiving j message position progress found exchange =>
      cases exchange with
      | requested outgoing inbox _ =>
          rw [outgoing] at sent
          cases sent
          exact ⟨j, message, position, progress, found, rfl, rfl, inbox⟩
      | served outgoing inbox works =>
          rw [outgoing] at sent
          cases sent
      | answered outgoing inbox _ =>
          rw [outgoing] at sent
          cases sent
  | printing position progress found copied quiet =>
      rw [quiet.outgoing] at sent
      cases sent
  | exited position arguments printed quiet =>
      rw [quiet.outgoing] at sent
      cases sent

omit [DecidableEq Name] in
/-- The client that the server works for waits for the answer. -/
theorem Talk.of_served (talk : Talk program argv server buf name client)
    (serving : server.claddr = some name) :
    Exists fun j => Exists fun message : CString => client.pc = .receiving j ∧
      Progress program argv client j ∧ argv[j]? = some message ∧
      client.outgoing = [] ∧ client.inbox = [] ∧ server.WorksOn buf name message := by
  cases talk with
  | sending position progress quiet => exact absurd serving quiet.free
  | @receiving j message position progress found exchange =>
      cases exchange with
      | requested outgoing inbox free => exact absurd serving free
      | served outgoing inbox works =>
          exact ⟨j, message, position, progress, found, outgoing, inbox, works⟩
      | answered outgoing inbox free => exact absurd serving free
  | printing position progress found copied quiet => exact absurd serving quiet.free
  | exited position arguments printed quiet => exact absurd serving quiet.free

/-- An answer fits the buffer of a client. -/
theorem contents_answer (resp : Vector Byte BUF_SIZE) (message : CString) :
    contents (fill resp (answer message)) (received BUF_SIZE (answer message)) =
      answer message := by
  rw [received, contents_fill]
  apply List.take_of_length_le
  rw [answer, List.length_map, List.length_take]
  exact Nat.min_le_left _ _

omit [DecidableEq Name] in
theorem client_talk (talk : Talk program argv server buf name client)
    (stepped : client.step program = some moved) : Talk program argv server buf name moved := by
  unfold Client.step at stepped
  cases talk with
  | @sending j position progress quiet =>
      rw [position] at stepped
      simp only at stepped
      split at stepped
      · rename_i exhausted
        cases stepped
        rw [progress.arguments] at exhausted
        have printed := progress.printed
        rw [responses_take progress.later exhausted] at printed
        exact .exited rfl progress.arguments printed ⟨quiet.outgoing, quiet.inbox, quiet.free⟩
      · rename_i message found
        cases stepped
        rw [progress.arguments] at found
        have outgoing : client.outgoing ++ [message.bytes] = [message.bytes] := by
          rw [quiet.outgoing, List.nil_append]
        exact .receiving rfl ⟨progress.arguments, progress.later, progress.printed⟩ found
          (.requested outgoing quiet.inbox quiet.free)
  | @receiving j message position progress found exchange =>
      rw [position] at stepped
      simp only at stepped
      split at stepped
      · cases stepped
      · rename_i datagram rest arrived
        cases stepped
        cases exchange with
        | requested outgoing inbox _ =>
            rw [inbox] at arrived
            cases arrived
        | served outgoing inbox _ =>
            rw [inbox] at arrived
            cases arrived
        | answered outgoing inbox free =>
            rw [inbox] at arrived
            cases arrived
            exact .printing rfl ⟨progress.arguments, progress.later, progress.printed⟩ found
              (contents_answer client.resp message) ⟨outgoing, rfl, free⟩
  | @printing j numBytes message position progress found copied quiet =>
      rw [position] at stepped
      cases stepped
      have advanced : j + 1 - program.first = j - program.first + 1 :=
        Nat.sub_add_comm progress.later
      refine .sending rfl ⟨progress.arguments, Nat.le_succ_of_le progress.later, ?_⟩
        ⟨quiet.outgoing, quiet.inbox, quiet.free⟩
      rw [advanced, List.take_add_one, responses_getElem? progress.later found, ← progress.printed,
        copied, answer_nullFree]
      rfl
  | exited position arguments printed quiet =>
      rw [position] at stepped
      cases stepped

end

/-! ## All clients -/

section

variable {program : Program} {argv : Name -> List CString} {state next : State Name} {name : Name}
  {client : Client}

def Invariant (program : Program) (argv : Name -> List CString) (state : State Name) : Prop :=
  forall name, Talk program (argv name) state.server state.buf name (state.clients name)

theorem setClient_self : (state.setClient name client).clients name = client := by
  change Function.update state.clients name client name = client
  exact Function.update_self name client state.clients

theorem setClient_of_ne {other : Name} (different : other ≠ name) :
    (state.setClient name client).clients other = state.clients other := by
  change Function.update state.clients name client other = state.clients other
  exact Function.update_of_ne different client state.clients

/-- A change of one client, and of the server for that client only. -/
theorem setClient_preserves {server : ServerPc Name} {buf : Vector Byte BUF_SIZE}
    (holds : Invariant program argv state)
    (own : Talk program (argv name) server buf name client)
    (others : forall other, other ≠ name ->
      state.server.claddr ≠ some other ∧ server.claddr ≠ some other) :
    Invariant program argv { state.setClient name client with server := server, buf := buf } := by
  intro other
  by_cases same : other = name
  · rw [same]
    change Talk program (argv name) server buf name ((state.setClient name client).clients name)
    rw [setClient_self]
    exact own
  · change Talk program (argv other) server buf other ((state.setClient name client).clients other)
    rw [setClient_of_ne same]
    exact (holds other).frame (others other same).1 (others other same).2

theorem client_preserves (holds : Invariant program argv state)
    (stepped : (state.clients name).step program = some client) :
    Invariant program argv (state.setClient name client) := by
  intro other
  have talk := holds other
  by_cases same : other = name
  · rw [same] at talk ⊢
    rw [setClient_self]
    exact client_talk talk stepped
  · rw [setClient_of_ne same]
    exact talk

theorem receive_preserves (holds : Invariant program argv state)
    (stepped : state.receive name = some next) : Invariant program argv next := by
  unfold State.receive at stepped
  split at stepped
  · rename_i datagram rest idle sent
    cases stepped
    obtain ⟨j, message, position, progress, found, rfl, rfl, inbox⟩ := (holds name).of_outgoing sent
    apply setClient_preserves holds
    · refine .receiving position ⟨progress.arguments, progress.later, progress.printed⟩ found
        (.served rfl inbox ⟨rfl, ?_⟩)
      exact contents_fill state.buf message.bytes
    · intro other different
      rw [idle]
      exact ⟨(fun impossible => by cases impossible),
        (fun same => different (Option.some.inj same).symm)⟩
  · cases stepped

omit [DecidableEq Name] in
theorem converting_preserves {numBytes : Nat} (holds : Invariant program argv state)
    (position : state.server = .converting name numBytes) :
    Invariant program argv
      { state with server := .sending name numBytes, buf := convert state.buf numBytes } := by
  have serving : state.server.claddr = some name := by rw [position]; rfl
  intro other
  by_cases same : other = name
  · subst same
    obtain ⟨j, message, waits, progress, found, outgoing, inbox, works⟩ :=
      (holds other).of_served serving
    rw [position] at works
    refine .receiving waits progress found (.served outgoing inbox ⟨rfl, ?_⟩)
    rw [contents_convert, works.2]
    rfl
  · apply (holds other).frame
    · rw [serving]
      exact fun claimed => same (Option.some.inj claimed).symm
    · exact fun claimed => same (Option.some.inj claimed).symm

theorem sending_preserves {numBytes : Nat} (holds : Invariant program argv state)
    (position : state.server = .sending name numBytes) :
    Invariant program argv
      { state.setClient name
          { state.clients name with
            inbox := (state.clients name).inbox ++ [contents state.buf numBytes] } with
        server := .receiving } := by
  have serving : state.server.claddr = some name := by rw [position]; rfl
  obtain ⟨j, message, waits, progress, found, outgoing, inbox, works⟩ :=
    (holds name).of_served serving
  rw [position] at works
  apply setClient_preserves holds
  · refine .receiving waits ⟨progress.arguments, progress.later, progress.printed⟩ found
      (.answered outgoing ?_ (fun impossible => by cases impossible))
    rw [inbox, works.2]
    rfl
  · intro other different
    rw [serving]
    exact ⟨fun same => different (Option.some.inj same).symm, fun impossible => by cases impossible⟩

theorem step_preserves {action : Action Name} (holds : Invariant program argv state)
    (stepped : state.step program action = some next) : Invariant program argv next := by
  cases action with
  | client name =>
      rcases Option.map_eq_some_iff.mp stepped with ⟨client, moved, rfl⟩
      exact client_preserves holds moved
  | receive name => exact receive_preserves holds stepped
  | server =>
      change state.serverStep = some next at stepped
      unfold State.serverStep at stepped
      cases position : state.server with
      | receiving =>
          rw [position] at stepped
          cases stepped
      | converting claddr numBytes =>
          rw [position] at stepped
          cases stepped
          exact converting_preserves holds position
      | sending claddr numBytes =>
          rw [position] at stepped
          cases stepped
          exact sending_preserves holds position

theorem invariant (reachable : (service program argv).Reachable state) :
    Invariant program argv state := by
  refine Machine.Reachable.invariant ?_ ?_ reachable
  · rintro state ⟨idle, clients⟩ name
    obtain ⟨arguments, position, outgoing, inbox, printed⟩ := clients name
    refine .sending position ⟨arguments, Nat.le_refl _, ?_⟩ ⟨outgoing, inbox, ?_⟩
    · rw [printed, Nat.sub_self, List.take_zero]
    · rw [idle]
      exact fun impossible => by cases impossible
  · intro state action next holds stepped
    exact step_preserves holds stepped

end

/-- The responses that a client has printed are the answers to its own messages,
in order and numbered from 1 on, whatever the other clients send.  A client that
has terminated has printed all of them. -/
theorem responses_in_order {program : Program} {argv : Name -> List CString} {state : State Name}
    (reachable : (service program argv).Reachable state) (name : Name) :
    (state.clients name).printed <+: responses program (argv name) ∧
      ((state.clients name).pc = .exited ->
        (state.clients name).printed = responses program (argv name)) := by
  cases invariant reachable name with
  | sending position progress _ =>
      rw [position, progress.printed]
      exact ⟨List.take_prefix _ _, fun impossible => by cases impossible⟩
  | receiving position progress _ _ =>
      rw [position, progress.printed]
      exact ⟨List.take_prefix _ _, fun impossible => by cases impossible⟩
  | printing position progress _ _ _ =>
      rw [position, progress.printed]
      exact ⟨List.take_prefix _ _, fun impossible => by cases impossible⟩
  | exited position _ printed _ =>
      rw [printed]
      exact ⟨List.prefix_refl _, fun _ => rfl⟩

/-- Two clients: one sends a message that is too long and one that is short, the
other an empty one. -/
def arguments : Nat -> List CString
  | 0 => [⟨[117], nullFree_of_all rfl⟩,
      ⟨[97, 98, 99, 100, 101, 102, 103, 104, 105, 106, 107], nullFree_of_all rfl⟩,
      ⟨[104, 105], nullFree_of_all rfl⟩]
  | 1 => [⟨[117], nullFree_of_all rfl⟩, ⟨[], nullFree_of_all rfl⟩]
  | _ => []

/-- The programs with these arguments and cleared buffers. -/
def started : State Nat where
  clients := fun name =>
    { argv := arguments name
      pc := .sending 1
      resp := Vector.replicate BUF_SIZE 0
      outgoing := []
      inbox := []
      printed := [] }
  server := .receiving
  buf := Vector.replicate BUF_SIZE 0

/-- The messages of the two clients interleave at the server. -/
def interleaved : List (Action Nat) :=
  List.flatten [[.client 0, .client 1, .receive 0, .server, .server, .receive 1, .server],
    [.client 0, .client 0, .client 0, .server, .client 1, .receive 0, .client 1, .client 1],
    [.server, .server, .client 0, .client 0, .client 0]]

def interleavedFinal : State Nat :=
  ((service .ud arguments).exec started interleaved).get (by decide +kernel)

/-- Both clients have terminated with their own responses. -/
theorem responses_interleaved :
    ((interleavedFinal.clients 0).pc = .exited ∧ (interleavedFinal.clients 1).pc = .exited) ∧
      (interleavedFinal.clients 0).printed = responses .ud (arguments 0) ∧
      (interleavedFinal.clients 1).printed = responses .ud (arguments 1) := by
  have executed : (service .ud arguments).exec started interleaved = some interleavedFinal :=
    (Option.some_get _).symm
  have initial : (service .ud arguments).Initial started :=
    ⟨rfl, fun _ => ⟨rfl, rfl, rfl, rfl, rfl⟩⟩
  have reachable := Machine.reachable_of_exec initial executed
  have ended : (interleavedFinal.clients 0).pc = .exited ∧
      (interleavedFinal.clients 1).pc = .exited := by decide +kernel
  exact ⟨ended, (responses_in_order reachable 0).2 ended.1, (responses_in_order reachable 1).2 ended.2⟩

end Ucase
end SocketUnix
end Tlpi
