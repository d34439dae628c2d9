import Mathlib.Data.List.Nodup
import Mathlib.Logic.Function.Basic
import Tlpi.CLibrary.Memory
import Tlpi.Foundations.CopyLoop
import Tlpi.Foundations.Transition

namespace Tlpi
namespace SocketUnix
namespace UsXfr

universe u

open CLibrary Foundations

/-!
# Transfers to an iterative server

Each client connects, copies its standard input to the connection, and exits,
which closes the connection.  The server accepts one connection at a time and
copies what it reads from it to standard output until the end.  Clients whose
connections are waiting go on writing; the kernel keeps what they write.

Any number of clients run, connect and write in any order.  The invariant follows
the input of each client: the part that is not yet read by the server is, in order,
in the connection, in the buffer of the client, and on its standard input.
-/

/-- The size of the buffers of clients and server. -/
def BUF_SIZE : Nat := 100

inductive ClientPc where
  | connecting
  | copying (pc : CopyPc Byte)
  | exited
deriving DecidableEq, Repr

namespace ClientPc

def held : ClientPc -> List Byte
  | .copying pc => pc.held
  | .connecting | .exited => []

/-- The client has left its loop. -/
def done : ClientPc -> Bool
  | .copying .finished | .exited => true
  | .connecting | .copying .reading | .copying (.writing _) => false

end ClientPc

/-- A client and its connection to the server. -/
structure Client where
  stdin : Channel Byte
  pc : ClientPc
  connection : Channel Byte
deriving DecidableEq, Repr

namespace Client

/-- A client that has not connected, with the given bytes on standard input. -/
def start (input : List Byte) : Client := ⟨⟨input, true⟩, .connecting, ⟨[], false⟩⟩

/-- The bytes that the server has not read. -/
def remaining (client : Client) : List Byte :=
  client.connection.contents ++ client.pc.held ++ client.stdin.contents

def connect (client : Client) : Client := { client with pc := .copying .reading }

/-- The next step of a connected client.  Its exit closes the connection. -/
def copy (client : Client) (amount : Nat) : Option Client :=
  match client.pc with
  | .copying .finished => some { client with pc := .exited, connection := client.connection.close }
  | .copying pc =>
      (pc.step BUF_SIZE client.stdin amount).map (fun moved =>
        ⟨moved.source, .copying moved.pc, client.connection.write moved.written⟩)
  | .connecting | .exited => none

/-- The server has read from the connection. -/
def readTo (client : Client) (connection : Channel Byte) : Client :=
  { client with connection := connection }

/-- A client closes its connection behind its loop, and its loop ends when its
input has ended. -/
structure Sound (client : Client) : Prop where
  shut : client.connection.closed = true -> client.pc.done = true
  read : client.pc.done = true -> client.stdin.contents = []

end Client

inductive ServerPc (Name : Type u) where
  | accepting
  | copying (name : Name) (pc : CopyPc Byte)
deriving DecidableEq, Repr

/-- The clients, the connections that wait to be accepted, the server, the
connections that it has accepted, in order, and what it has written. -/
structure State (Name : Type u) where
  clients : Name -> Client
  queue : List Name
  server : ServerPc Name
  accepted : List Name
  stdout : List Byte

inductive Action (Name : Type u) where
  | connect (name : Name)
  | client (name : Name) (amount : Nat)
  | accept
  | server (amount : Nat)
deriving DecidableEq, Repr

variable {Name : Type u} [DecidableEq Name]

namespace State

def setClient (state : State Name) (name : Name) (client : Client) : State Name :=
  { state with clients := Function.update state.clients name client }

def connect (state : State Name) (name : Name) : Option (State Name) :=
  if (state.clients name).pc = .connecting then
    some { state.setClient name (state.clients name).connect with queue := state.queue ++ [name] }
  else none

def accept (state : State Name) : Option (State Name) :=
  match state.server, state.queue with
  | .accepting, name :: rest =>
      some { state with
        queue := rest
        server := .copying name .reading
        accepted := state.accepted ++ [name] }
  | _, _ => none

/-- The next step of the server with a connection.  Behind its loop it closes the
connection. -/
def serverStep (state : State Name) (amount : Nat) : Option (State Name) :=
  match state.server with
  | .accepting => none
  | .copying _ .finished => some { state with server := .accepting }
  | .copying name pc =>
      (pc.step BUF_SIZE (state.clients name).connection amount).map (fun moved =>
        { state.setClient name ((state.clients name).readTo moved.source) with
          server := .copying name moved.pc
          stdout := state.stdout ++ moved.written })

def step (state : State Name) : Action Name -> Option (State Name)
  | .connect name => state.connect name
  | .client name amount => ((state.clients name).copy amount).map (state.setClient name)
  | .accept => state.accept
  | .server amount => state.serverStep amount

end State

/-- The clients before they connect, and the server in front of its first
`accept`. -/
def start (input : Name -> List Byte) : State Name where
  clients := fun name => .start (input name)
  queue := []
  server := .accepting
  accepted := []
  stdout := []

def transfer (input : Name -> List Byte) : Machine (State Name) (Action Name) where
  Initial := fun state => state = start input
  step := State.step

/-! ## The clients -/

namespace Client

variable {client next : Client} {amount : Nat}

theorem copy_cases (stepped : client.copy amount = some next) :
    (client.pc = .copying .finished ∧
      next = { client with pc := .exited, connection := client.connection.close }) ∨
    (Exists fun pc => Exists fun moved => client.pc = .copying pc ∧
      pc.step BUF_SIZE client.stdin amount = some moved ∧
      next = ⟨moved.source, .copying moved.pc, client.connection.write moved.written⟩) := by
  unfold copy at stepped
  split at stepped
  · rename_i finished
    cases stepped
    exact .inl ⟨finished, rfl⟩
  · rename_i pc _ copying
    rcases Option.map_eq_some_iff.mp stepped with ⟨moved, copied, rfl⟩
    exact .inr ⟨pc, moved, copying, copied, rfl⟩
  · cases stepped
  · cases stepped

/-- A client neither loses nor reorders a byte. -/
theorem copy_remaining (stepped : client.copy amount = some next) :
    next.remaining = client.remaining := by
  rcases copy_cases stepped with ⟨finished, rfl⟩ | ⟨pc, moved, copying, copied, rfl⟩
  · simp only [remaining, finished]
    rfl
  · have conserved := CopyPc.step_conserves copied
    simp only [remaining, copying, ClientPc.held, Channel.write_contents, List.append_assoc]
      at conserved ⊢
    rw [conserved]

theorem copy_connected (stepped : client.copy amount = some next) :
    client.pc ≠ .connecting ∧ next.pc ≠ .connecting := by
  rcases copy_cases stepped with ⟨finished, rfl⟩ | ⟨pc, moved, copying, -, rfl⟩
  · rw [finished]
    exact ⟨by simp, by simp⟩
  · rw [copying]
    exact ⟨by simp, by simp⟩

/-- A client that takes a step does not take back the end of its connection. -/
theorem copy_sound (sound : client.Sound) (stepped : client.copy amount = some next) :
    next.Sound := by
  rcases copy_cases stepped with ⟨finished, rfl⟩ | ⟨pc, moved, copying, copied, rfl⟩
  · exact
      { shut := fun _ => rfl
        read := fun _ => sound.read (by rw [finished]; rfl) }
  · have unfinished : client.pc.done = false := by
      have running := CopyPc.step_running copied
      rw [copying]
      cases pc <;> first | rfl | exact absurd rfl running
    refine { shut := ?_, read := ?_ }
    · intro closed
      exact absurd (unfinished.symm.trans (sound.shut closed)) Bool.false_ne_true
    · intro done
      have finished : moved.pc = .finished := by
        cases after : moved.pc <;> simp only [after] at done <;> first | rfl | cases done
      exact (CopyPc.step_finished copied finished).1

/-- At the end of its connection nothing of a client's input remains. -/
theorem Sound.remaining_eq_nil (sound : client.Sound) (empty : client.connection.contents = [])
    (closed : client.connection.closed = true) : client.remaining = [] := by
  have done := sound.shut closed
  have read := sound.read done
  have held : client.pc.held = [] := by
    cases position : client.pc with
    | copying pc => cases pc <;> simp only [position] at done <;> first | rfl | cases done
    | _ => rfl
  rw [remaining, empty, held, read]
  rfl

end Client

/-! ## The server -/

/-- What the server has written: the inputs of the clients that it is done with,
and of the client that it serves all that it has read from the connection and does
not hold in its buffer. -/
def Served (input remaining : Name -> List Byte) (accepted : List Name) (stdout : List Byte) :
    ServerPc Name -> Prop
  | .accepting => stdout = (accepted.map input).flatten
  | .copying name pc => Exists fun earlier => Exists fun copied =>
      accepted = earlier ++ [name] ∧ stdout = (earlier.map input).flatten ++ copied ∧
        copied ++ pc.held ++ remaining name = input name ∧
        (pc = .finished -> remaining name = [])

/-- What of each client's input the server has not read. -/
def State.remaining (state : State Name) (name : Name) : List Byte := (state.clients name).remaining

structure Invariant (input : Name -> List Byte) (state : State Name) : Prop where
  sound : forall name, (state.clients name).Sound
  waiting : forall name, name ∉ state.accepted -> state.remaining name = input name
  connected : forall name,
    (state.clients name).pc = .connecting <-> name ∉ state.accepted ++ state.queue
  distinct : (state.accepted ++ state.queue).Nodup
  served : Served input state.remaining state.accepted state.stdout state.server

section

variable {input : Name -> List Byte} {state next : State Name} {name : Name} {client : Client}
  {amount : Nat}

theorem setClient_self : (state.setClient name client).clients name = client := by
  change Function.update state.clients name client name = client
  exact Function.update_self name client state.clients

theorem setClient_of_ne {other : Name} (different : other ≠ name) :
    (state.setClient name client).clients other = state.clients other := by
  change Function.update state.clients name client other = state.clients other
  exact Function.update_of_ne different client state.clients

/-- A step of a client that keeps its bytes does so for all clients. -/
theorem setClient_remaining (kept : client.remaining = (state.clients name).remaining) :
    (state.setClient name client).remaining = state.remaining := by
  funext other
  unfold State.remaining
  by_cases own : other = name
  · rw [own, setClient_self, kept]
  · rw [setClient_of_ne own]

theorem setClient_sound (sounds : forall name, (state.clients name).Sound) (sound : client.Sound)
    (other : Name) : ((state.setClient name client).clients other).Sound := by
  by_cases own : other = name
  · rw [own, setClient_self]
    exact sound
  · rw [setClient_of_ne own]
    exact sounds other

/-- Whether a client has connected depends on its own position. -/
theorem setClient_connecting {listed : List Name}
    (connected : forall other, other ≠ name ->
      ((state.clients other).pc = .connecting <-> other ∉ listed))
    (own : client.pc = .connecting <-> name ∉ listed) (other : Name) :
    ((state.setClient name client).clients other).pc = .connecting <-> other ∉ listed := by
  by_cases same : other = name
  · rw [same, setClient_self]
    exact own
  · rw [setClient_of_ne same]
    exact connected other same

theorem connect_preserves (holds : Invariant input state)
    (stepped : state.connect name = some next) : Invariant input next := by
  unfold State.connect at stepped
  split at stepped
  · rename_i connecting
    cases stepped
    have kept : (state.clients name).connect.remaining = (state.clients name).remaining := by
      simp only [Client.remaining, Client.connect, connecting]
      rfl
    have remaining := setClient_remaining kept
    have fresh := (holds.connected name).mp connecting
    have sound : (state.clients name).connect.Sound :=
      { shut := fun closed => by
          have done := (holds.sound name).shut closed
          rw [connecting] at done
          cases done
        read := fun impossible => by cases impossible }
    refine
      { sound := setClient_sound holds.sound sound
        waiting := ?_
        connected := ?_
        distinct := ?_
        served := ?_ }
    · intro other unaccepted
      exact (congrFun remaining other).trans (holds.waiting other unaccepted)
    · apply setClient_connecting
      · intro other different
        rw [holds.connected other]
        change _ <-> other ∉ state.accepted ++ (state.queue ++ [name])
        simp [different]
      · simp [Client.connect]
    · change (state.accepted ++ (state.queue ++ [name])).Nodup
      rw [← List.append_assoc, ← List.concat_eq_append]
      exact List.Nodup.concat fresh holds.distinct
    · exact remaining ▸ holds.served
  · cases stepped

theorem client_preserves (holds : Invariant input state)
    (stepped : (state.clients name).copy amount = some client) :
    Invariant input (state.setClient name client) := by
  have remaining := setClient_remaining (Client.copy_remaining stepped)
  have connected := Client.copy_connected stepped
  refine
    { sound := setClient_sound holds.sound (Client.copy_sound (holds.sound name) stepped)
      waiting := ?_
      connected := ?_
      distinct := holds.distinct
      served := remaining ▸ holds.served }
  · intro other unaccepted
    exact (congrFun remaining other).trans (holds.waiting other unaccepted)
  · apply setClient_connecting
    · intro other _
      exact holds.connected other
    · exact iff_of_false connected.2 (fun unlisted =>
        connected.1 ((holds.connected name).mpr unlisted))

omit [DecidableEq Name] in
theorem accept_preserves (holds : Invariant input state) (stepped : state.accept = some next) :
    Invariant input next := by
  unfold State.accept at stepped
  split at stepped
  · rename_i name rest idle queued
    cases stepped
    have regrouped : state.accepted ++ [name] ++ rest = state.accepted ++ state.queue := by
      rw [queued, List.append_assoc]
      rfl
    have distinct : (state.accepted ++ [name] ++ rest).Nodup := regrouped ▸ holds.distinct
    have unaccepted : name ∉ state.accepted := by
      have disjoint := (List.nodup_append.mp (List.nodup_append.mp distinct).1).2.2
      intro member
      exact disjoint name member name (List.mem_singleton_self name) rfl
    have served := holds.served
    rw [idle] at served
    refine
      { sound := holds.sound
        waiting := ?_
        connected := ?_
        distinct := distinct
        served := ?_ }
    · intro other outside
      apply holds.waiting other
      intro member
      exact outside (List.mem_append_left _ member)
    · intro other
      rw [regrouped]
      exact holds.connected other
    · refine ⟨state.accepted, [], rfl, ?_, ?_, fun impossible => by cases impossible⟩
      · rw [List.append_nil]
        exact served
      · exact holds.waiting name unaccepted
  · cases stepped

/-- The server has moved bytes from the connection of the client that it serves. -/
theorem moved_preserves {pc : CopyPc Byte} {moved : CopyPc.Moved Byte}
    (holds : Invariant input state) (serving : state.server = .copying name pc)
    (copied : pc.step BUF_SIZE (state.clients name).connection amount = some moved) :
    Invariant input
      { state.setClient name ((state.clients name).readTo moved.source) with
        server := .copying name moved.pc
        stdout := state.stdout ++ moved.written } := by
  have served := holds.served
  rw [serving] at served
  rcases served with ⟨earlier, part, accepted, stdout, whole, -⟩
  have member : name ∈ state.accepted := by
    rw [accepted]
    exact List.mem_append_right _ (List.mem_singleton_self name)
  have closed := CopyPc.step_closed copied
  have sound : ((state.clients name).readTo moved.source).Sound :=
    { shut := fun stillClosed => (holds.sound name).shut (closed.symm.trans stillClosed)
      read := (holds.sound name).read }
  have own : (state.setClient name ((state.clients name).readTo moved.source)).remaining name =
      ((state.clients name).readTo moved.source).remaining := by
    rw [State.remaining, setClient_self]
  have others : forall other, other ≠ name ->
      (state.setClient name ((state.clients name).readTo moved.source)).remaining other =
        state.remaining other := by
    intro other different
    rw [State.remaining, setClient_of_ne different]
    rfl
  refine
    { sound := setClient_sound holds.sound sound
      waiting := ?_
      connected := ?_
      distinct := holds.distinct
      served := ⟨earlier, part ++ moved.written, accepted, ?_, ?_, ?_⟩ }
  · intro other unaccepted
    have different : other ≠ name := by
      rintro rfl
      exact unaccepted member
    exact (others other different).trans (holds.waiting other unaccepted)
  · apply setClient_connecting
    · intro other _
      exact holds.connected other
    · exact holds.connected name
  · rw [stdout, List.append_assoc]
  · have conserved := CopyPc.step_conserves copied
    change part ++ moved.written ++ moved.pc.held ++
      (state.setClient name ((state.clients name).readTo moved.source)).remaining name = input name
    rw [own, ← whole]
    simp only [State.remaining, Client.remaining, Client.readTo, List.append_assoc] at conserved ⊢
    rw [← List.append_assoc moved.pc.held, ← List.append_assoc moved.written,
      ← List.append_assoc pc.held, ← conserved]
  · intro finished
    rcases CopyPc.step_finished copied finished with ⟨empty, ended, -⟩
    exact own.trans (sound.remaining_eq_nil empty ended)

theorem server_preserves (holds : Invariant input state)
    (stepped : state.serverStep amount = some next) : Invariant input next := by
  unfold State.serverStep at stepped
  split at stepped
  · cases stepped
  · rename_i name finished
    cases stepped
    have served := holds.served
    rw [finished] at served
    rcases served with ⟨earlier, part, accepted, stdout, whole, ended⟩
    refine { holds with served := ?_ }
    change state.stdout = (state.accepted.map input).flatten
    rw [stdout, accepted, List.map_append, List.flatten_append, List.map_singleton,
      List.flatten_singleton, ← whole, ended rfl]
    simp [CopyPc.held]
  · rename_i name pc _ serving
    rcases Option.map_eq_some_iff.mp stepped with ⟨moved, copied, rfl⟩
    exact moved_preserves holds serving copied

theorem step_preserves {action : Action Name} (holds : Invariant input state)
    (stepped : state.step action = some next) : Invariant input next := by
  cases action with
  | connect name => exact connect_preserves holds stepped
  | client name amount =>
      rcases Option.map_eq_some_iff.mp stepped with ⟨client, copied, rfl⟩
      exact client_preserves holds copied
  | accept => exact accept_preserves holds stepped
  | server amount => exact server_preserves holds stepped

theorem invariant (reachable : (transfer input).Reachable state) : Invariant input state := by
  refine Machine.Reachable.invariant ?_ ?_ reachable
  · rintro state rfl
    exact
      { sound := fun _ =>
          { shut := fun impossible => by cases impossible
            read := fun impossible => by cases impossible }
        waiting := fun _ _ => rfl
        connected := fun _ => by simp [start, Client.start]
        distinct := List.nodup_nil
        served := rfl }
  · intro state action next holds stepped
    exact step_preserves holds stepped

end

/-- What the server has written is at any time a prefix of the inputs of the
clients whose connections it has accepted, in the order in which it accepted them,
and all of them when it is back at `accept`.  No connection is accepted twice, and
every client that has connected is accepted or waits to be. -/
theorem transfer_in_order {input : Name -> List Byte} {state : State Name}
    (reachable : (transfer input).Reachable state) :
    state.stdout <+: (state.accepted.map input).flatten ∧
      (state.server = .accepting -> state.stdout = (state.accepted.map input).flatten) ∧
      state.accepted.Nodup ∧
      (forall name, (state.clients name).pc ≠ .connecting ->
        name ∈ state.accepted ∨ name ∈ state.queue) := by
  have holds := invariant reachable
  have served := holds.served
  refine ⟨?_, ?_, (List.nodup_append.mp holds.distinct).1, ?_⟩
  · cases position : state.server with
    | accepting =>
        rw [position] at served
        have whole : state.stdout = (state.accepted.map input).flatten := served
        exact ⟨[], (List.append_nil _).trans whole⟩
    | copying name pc =>
        rw [position] at served
        rcases served with ⟨earlier, part, accepted, stdout, whole, -⟩
        rw [stdout, accepted, List.map_append, List.flatten_append, List.map_singleton,
          List.flatten_singleton, ← whole, List.append_assoc]
        exact List.prefix_append_right_inj _ |>.mpr (List.prefix_append part _)
  · intro idle
    rw [idle] at served
    exact served
  · intro name connected
    have listed : name ∈ state.accepted ++ state.queue := by
      by_contra unlisted
      exact connected ((holds.connected name).mpr unlisted)
    exact List.mem_append.mp listed

/-- Two clients that have something to transfer, and any number that have not. -/
def twoInputs : Nat -> List Byte
  | 0 => [97, 98, 99]
  | 1 => [120, 121]
  | _ => []

/-- Client 1 connects first and client 0 writes first; the server is in the middle
of the second transfer. -/
def overlapping : List (Action Nat) :=
  List.flatten [[.connect 1, .connect 0, .client 0 3, .client 0 2, .client 1 1, .client 1 1, .accept],
    [.server 1, .client 0 1, .client 1 1, .server 1, .client 1 1, .server 1, .server 1],
    [.client 1 0, .client 1 0, .server 0, .server 0, .accept, .server 3, .server 1]]

def overlappingFinal : State Nat :=
  ((transfer twoInputs).exec (start twoInputs) overlapping).get (by decide +kernel)

/-- The output so far is the input of client 1 and the start of that of client 0. -/
theorem transfer_overlapping :
    (overlappingFinal.accepted = [1, 0] ∧ overlappingFinal.stdout = [120, 121, 97]) ∧
      overlappingFinal.stdout <+: (overlappingFinal.accepted.map twoInputs).flatten := by
  have executed : (transfer twoInputs).exec (start twoInputs) overlapping = some overlappingFinal :=
    (Option.some_get _).symm
  refine ⟨by decide +kernel, ?_⟩
  exact (transfer_in_order (Machine.reachable_of_exec rfl executed)).1

end UsXfr
end SocketUnix
end Tlpi
