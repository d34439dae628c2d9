import Tlpi.CLibrary.Strings
import Tlpi.Foundations.CopyLoop
import Tlpi.Foundations.Transition

namespace Tlpi
namespace SocketDesign
namespace IsEcho

open CLibrary Foundations

/-!
# The echo service and its client of two processes

The child of the server copies what it reads from its connection back to the
connection.  Seen from the client the service is a queue: whatever is sent comes
back, in order, and the end comes back after everything else.

The client `is_echo_cl` has two processes.  The parent copies standard input to
the connection and then shuts its side down; the child reads from the connection
and prints.  Reads and writes may move any number of bytes, and the three processes
run in any order.  The child prints with `printf("%.*s", ...)`, which takes the
bytes for a string and stops at a null byte.
-/

/-- The size of the buffer in `handleRequest`. -/
def SERVER_BUF_SIZE : Nat := 4096

/-- The size of the buffers in the clients. -/
def BUF_SIZE : Nat := 100

/-! ## The service -/

/-- The positions of the child of the server: in `handleRequest`, and terminated. -/
inductive ServerPc where
  | handling (pc : CopyPc Byte)
  | exited
deriving DecidableEq, Repr

namespace ServerPc

/-- The bytes that the server has read and not yet written. -/
def held : ServerPc -> List Byte
  | .handling pc => pc.held
  | .exited => []

/-- The server has seen the end of its input. -/
def done : ServerPc -> Bool
  | .handling .finished | .exited => true
  | .handling .reading | .handling (.writing _) => false

end ServerPc

/-- A connection, with the child of the server at its far end. -/
structure Service where
  toServer : Channel Byte
  server : ServerPc
  toClient : Channel Byte
deriving DecidableEq, Repr

namespace Service

def fresh : Service := ⟨⟨[], false⟩, .handling .reading, ⟨[], false⟩⟩

/-- The next step of the server.  Behind its loop it calls `_exit`, which closes
the connection. -/
def serverStep (service : Service) (amount : Nat) : Option Service :=
  match service.server with
  | .handling .finished =>
      some { service with server := .exited, toClient := service.toClient.close }
  | .handling pc =>
      (pc.step SERVER_BUF_SIZE service.toServer amount).map (fun moved =>
        ⟨moved.source, .handling moved.pc, service.toClient.write moved.written⟩)
  | .exited => none

/-- Bytes are written to the connection by the client. -/
def send (service : Service) (bytes : List Byte) : Service :=
  { service with toServer := service.toServer.write bytes }

/-- `shutdown(sfd, SHUT_WR)` by the client. -/
def shutdown (service : Service) : Service :=
  { service with toServer := service.toServer.close }

/-- A read from the connection by the client. -/
def receive (service : Service) (size amount : Nat) : Option (List Byte × Service) :=
  (service.toClient.read size amount).map (fun (chunk, toClient) =>
    (chunk, { service with toClient := toClient }))

/-- The bytes that were sent and have not come back, in the order in which they
will. -/
def outstanding (service : Service) : List Byte :=
  service.toClient.contents ++ service.server.held ++ service.toServer.contents

/-- The server ends when its input has ended, and the connection is closed when
the server has terminated. -/
structure Sound (service : Service) : Prop where
  drained : service.server.done = true ->
    service.toServer.contents = [] ∧ service.toServer.closed = true
  exited : service.toClient.closed = true -> service.server = .exited

theorem fresh_sound : fresh.Sound where
  drained impossible := by cases impossible
  exited impossible := by cases impossible

variable {service next : Service} {amount : Nat}

theorem serverStep_cases (stepped : service.serverStep amount = some next) :
    (service.server = .handling .finished ∧
      next = { service with server := .exited, toClient := service.toClient.close }) ∨
    (Exists fun pc => Exists fun moved => service.server = .handling pc ∧
      pc.step SERVER_BUF_SIZE service.toServer amount = some moved ∧
      next = ⟨moved.source, .handling moved.pc, service.toClient.write moved.written⟩) := by
  unfold serverStep at stepped
  split at stepped
  · rename_i finished
    cases stepped
    exact .inl ⟨finished, rfl⟩
  · rename_i pc _ handling
    rcases Option.map_eq_some_iff.mp stepped with ⟨moved, copied, rfl⟩
    exact .inr ⟨pc, moved, handling, copied, rfl⟩
  · cases stepped

/-- The server neither loses nor reorders a byte. -/
theorem serverStep_outstanding (stepped : service.serverStep amount = some next) :
    next.outstanding = service.outstanding := by
  rcases serverStep_cases stepped with ⟨finished, rfl⟩ | ⟨pc, moved, handling, copied, rfl⟩
  · simp only [outstanding, finished]
    rfl
  · have conserved := CopyPc.step_conserves copied
    simp only [outstanding, handling, ServerPc.held, Channel.write_contents, List.append_assoc]
      at conserved ⊢
    rw [conserved]

theorem serverStep_toServer_closed (stepped : service.serverStep amount = some next) :
    next.toServer.closed = service.toServer.closed := by
  rcases serverStep_cases stepped with ⟨-, rfl⟩ | ⟨pc, moved, -, copied, rfl⟩
  · rfl
  · exact CopyPc.step_closed copied

theorem serverStep_sound (sound : service.Sound) (stepped : service.serverStep amount = some next) :
    next.Sound := by
  rcases serverStep_cases stepped with ⟨finished, rfl⟩ | ⟨pc, moved, handling, copied, rfl⟩
  · exact
      { drained := fun _ => sound.drained (by rw [finished]; rfl)
        exited := fun _ => rfl }
  · refine { drained := ?_, exited := ?_ }
    · intro done
      have finished : moved.pc = .finished := by
        cases position : moved.pc <;> simp only [position] at done <;> first | rfl | cases done
      rcases CopyPc.step_finished copied finished with ⟨empty, closed, -⟩
      exact ⟨empty, closed⟩
    · intro closed
      have exited := sound.exited closed
      rw [handling] at exited
      cases exited

theorem send_outstanding (service : Service) (bytes : List Byte) :
    (service.send bytes).outstanding = service.outstanding ++ bytes := by
  simp only [outstanding, send, Channel.write_contents, List.append_assoc]

theorem send_sound (sound : service.Sound) (opened : service.toServer.closed = false)
    (bytes : List Byte) : (service.send bytes).Sound where
  drained done := by
    have closed := (sound.drained done).2
    rw [opened] at closed
    cases closed
  exited := sound.exited

theorem shutdown_sound (sound : service.Sound) : service.shutdown.Sound where
  drained done := ⟨(sound.drained done).1, rfl⟩
  exited := sound.exited

/-- The client reads the bytes that it has sent, in order. -/
theorem receive_outstanding {size : Nat} {chunk : List Byte}
    (received : service.receive size amount = some (chunk, next)) :
    service.outstanding = chunk ++ next.outstanding := by
  rcases Option.map_eq_some_iff.mp received with ⟨⟨found, toClient⟩, read, same⟩
  cases same
  simp only [outstanding, Channel.read_contents read, List.append_assoc]

/-- A read that is not at the end returns as many bytes as it was to return. -/
theorem length_receive {size : Nat} {chunk : List Byte}
    (received : service.receive size amount = some (chunk, next)) (nonempty : chunk ≠ []) :
    chunk.length = amount := by
  rcases Option.map_eq_some_iff.mp received with ⟨⟨found, toClient⟩, read, same⟩
  cases same
  rcases Channel.read_eq_some read with ⟨empty, -⟩ | ⟨-, length, -⟩
  · exact absurd empty nonempty
  · exact length

theorem receive_toServer {size : Nat} {chunk : List Byte}
    (received : service.receive size amount = some (chunk, next)) :
    next.toServer = service.toServer := by
  rcases Option.map_eq_some_iff.mp received with ⟨⟨found, toClient⟩, -, same⟩
  cases same
  rfl

theorem receive_sound {size : Nat} {chunk : List Byte} (sound : service.Sound)
    (received : service.receive size amount = some (chunk, next)) : next.Sound := by
  rcases Option.map_eq_some_iff.mp received with ⟨⟨found, toClient⟩, read, same⟩
  cases same
  refine { drained := sound.drained, exited := ?_ }
  rcases Channel.read_eq_some read with ⟨-, -, -, rfl⟩ | ⟨-, -, -, -, closed⟩
  · exact sound.exited
  · intro stillClosed
    exact sound.exited (closed.symm.trans stillClosed)

/-- The client finds the end only when it has sent the end and read everything
back. -/
theorem receive_end {size : Nat} (sound : service.Sound)
    (received : service.receive size amount = some ([], next)) :
    service.outstanding = [] ∧ service.toServer.closed = true := by
  rcases Option.map_eq_some_iff.mp received with ⟨⟨found, toClient⟩, read, same⟩
  cases same
  rcases Channel.read_eq_some read with ⟨-, empty, closed, -⟩ | ⟨nonempty, -⟩
  · have exited := sound.exited closed
    rcases sound.drained (by rw [exited]; rfl) with ⟨drained, ended⟩
    refine ⟨?_, ended⟩
    simp only [outstanding, empty, exited, drained]
    rfl
  · exact absurd rfl nonempty

end Service

/-! ## The client -/

/-- What `printf("%.*s", numRead, buf)` prints of the bytes that were read. -/
def formatted (chunk : List Byte) : List Byte := cString chunk

/-- The positions of the parent: in its loop, behind its call of `shutdown`, and
terminated. -/
inductive ParentPc where
  | copying (pc : CopyPc Byte)
  | exiting
  | exited
deriving DecidableEq, Repr

namespace ParentPc

def held : ParentPc -> List Byte
  | .copying pc => pc.held
  | .exiting | .exited => []

/-- The parent has left its loop. -/
def done : ParentPc -> Bool
  | .copying .finished | .exiting | .exited => true
  | .copying .reading | .copying (.writing _) => false

end ParentPc

inductive ChildPc where
  | reading
  | printing (chunk : List Byte)
  | exiting
  | exited
deriving DecidableEq, Repr

namespace ChildPc

/-- The bytes that the child has read and not yet printed. -/
def held : ChildPc -> List Byte
  | .printing chunk => chunk
  | .reading | .exiting | .exited => []

/-- The child has left its loop. -/
def done : ChildPc -> Bool
  | .exiting | .exited => true
  | .reading | .printing _ => false

end ChildPc

/-- The two processes of the client and the service.  `printed` has the chunks
that the child has handed to `printf`. -/
structure State where
  stdin : Channel Byte
  parent : ParentPc
  service : Service
  child : ChildPc
  printed : List (List Byte)
  stdout : List Byte
deriving DecidableEq, Repr

/-- The process that goes on, and how many bytes it moves if it reads or writes. -/
inductive Action where
  | parent (amount : Nat)
  | server (amount : Nat)
  | child (amount : Nat)
deriving DecidableEq, Repr

namespace State

def parentStep (state : State) (amount : Nat) : Option State :=
  match state.parent with
  | .copying .finished =>
      some { state with parent := .exiting, service := state.service.shutdown }
  | .copying pc =>
      (pc.step BUF_SIZE state.stdin amount).map (fun moved =>
        { state with
          stdin := moved.source
          parent := .copying moved.pc
          service := state.service.send moved.written })
  | .exiting => some { state with parent := .exited }
  | .exited => none

/-- The position of the child behind a read. -/
def afterRead (chunk : List Byte) : ChildPc :=
  if chunk.isEmpty then .exiting else .printing chunk

def childStep (state : State) (amount : Nat) : Option State :=
  match state.child with
  | .reading =>
      (state.service.receive BUF_SIZE amount).map (fun (chunk, service) =>
        { state with service := service, child := afterRead chunk })
  | .printing chunk =>
      some { state with
        child := .reading
        printed := state.printed ++ [chunk]
        stdout := state.stdout ++ formatted chunk }
  | .exiting => some { state with child := .exited }
  | .exited => none

def step (state : State) : Action -> Option State
  | .parent amount => state.parentStep amount
  | .server amount =>
      (state.service.serverStep amount).map (fun service => { state with service := service })
  | .child amount => state.childStep amount

end State

/-- The client behind its `fork`, with the given bytes on standard input. -/
def start (input : List Byte) : State where
  stdin := ⟨input, true⟩
  parent := .copying .reading
  service := .fresh
  child := .reading
  printed := []
  stdout := []

def client (input : List Byte) : Machine State Action where
  Initial := fun state => state = start input
  step := State.step

structure Invariant (input : List Byte) (state : State) : Prop where
  flow : state.printed.flatten ++ state.child.held ++ state.service.outstanding ++
    state.parent.held ++ state.stdin.contents = input
  output : state.stdout = (state.printed.map formatted).flatten
  sound : state.service.Sound
  shut : state.service.toServer.closed = true -> state.parent.done = true
  read : state.parent.done = true -> state.stdin.contents = []
  ended : state.child.done = true ->
    state.service.outstanding = [] ∧ state.service.toServer.closed = true

section

variable {input : List Byte} {state next : State} {amount : Nat}

theorem copying_preserves {pc : CopyPc Byte} {moved : CopyPc.Moved Byte}
    (holds : Invariant input state) (position : state.parent = .copying pc)
    (copied : pc.step BUF_SIZE state.stdin amount = some moved) :
    Invariant input
      { state with
        stdin := moved.source
        parent := .copying moved.pc
        service := state.service.send moved.written } := by
  have running : state.parent.done = false := by
    have unfinished := CopyPc.step_running copied
    rw [position]
    cases pc <;> first | rfl | exact absurd rfl unfinished
  have opened : state.service.toServer.closed = false := by
    cases closed : state.service.toServer.closed with
    | false => rfl
    | true =>
        rw [holds.shut closed] at running
        cases running
  refine
    { flow := ?_
      output := holds.output
      sound := Service.send_sound holds.sound opened _
      shut := ?_
      read := ?_
      ended := ?_ }
  · have conserved := CopyPc.step_conserves copied
    rw [← holds.flow, Service.send_outstanding, position]
    simp only [ParentPc.held, List.append_assoc] at conserved ⊢
    rw [conserved]
  · intro closed
    exact absurd (opened.symm.trans closed) Bool.false_ne_true
  · intro done
    have finished : moved.pc = .finished := by
      cases after : moved.pc <;> simp only [after] at done <;> first | rfl | cases done
    exact (CopyPc.step_finished copied finished).1
  · intro done
    have closed := (holds.ended done).2
    rw [opened] at closed
    cases closed

theorem parent_preserves (holds : Invariant input state)
    (stepped : state.parentStep amount = some next) : Invariant input next := by
  have flow := holds.flow
  unfold State.parentStep at stepped
  split at stepped
  · rename_i position
    cases stepped
    have done : state.parent.done = true := by rw [position]; rfl
    rw [position] at flow
    exact
      { flow := flow
        output := holds.output
        sound := Service.shutdown_sound holds.sound
        shut := fun _ => rfl
        read := fun _ => holds.read done
        ended := fun ended => ⟨(holds.ended ended).1, rfl⟩ }
  · rename_i pc _ position
    rcases Option.map_eq_some_iff.mp stepped with ⟨moved, copied, rfl⟩
    exact copying_preserves holds position copied
  · rename_i position
    cases stepped
    have done : state.parent.done = true := by rw [position]; rfl
    rw [position] at flow
    exact { holds with flow := flow, shut := fun _ => rfl, read := fun _ => holds.read done }
  · cases stepped

theorem server_preserves {service : Service} (holds : Invariant input state)
    (stepped : state.service.serverStep amount = some service) :
    Invariant input { state with service := service } := by
  have outstanding := Service.serverStep_outstanding stepped
  have closed := Service.serverStep_toServer_closed stepped
  refine
    { flow := ?_
      output := holds.output
      sound := Service.serverStep_sound holds.sound stepped
      shut := ?_
      read := holds.read
      ended := ?_ }
  · rw [outstanding]
    exact holds.flow
  · intro shut
    exact holds.shut (closed.symm.trans shut)
  · intro done
    rcases holds.ended done with ⟨empty, shut⟩
    exact ⟨outstanding.trans empty, closed.trans shut⟩

theorem receive_preserves {chunk : List Byte} {service : Service} (holds : Invariant input state)
    (position : state.child = .reading)
    (received : state.service.receive BUF_SIZE amount = some (chunk, service)) :
    Invariant input { state with service := service, child := State.afterRead chunk } := by
  have outstanding := Service.receive_outstanding received
  have same := Service.receive_toServer received
  have held : (State.afterRead chunk).held = chunk := by cases chunk <;> rfl
  refine
    { flow := ?_
      output := holds.output
      sound := Service.receive_sound holds.sound received
      shut := ?_
      read := holds.read
      ended := ?_ }
  · rw [← holds.flow, outstanding, position, held]
    simp [ChildPc.held]
  · rw [same]
    exact holds.shut
  · intro done
    cases chunk with
    | nil =>
        rcases Service.receive_end holds.sound received with ⟨empty, closed⟩
        rw [same]
        exact ⟨outstanding.symm.trans empty, closed⟩
    | cons first others => cases done

theorem child_preserves (holds : Invariant input state)
    (stepped : state.childStep amount = some next) : Invariant input next := by
  have flow := holds.flow
  unfold State.childStep at stepped
  split at stepped
  · rename_i position
    rcases Option.map_eq_some_iff.mp stepped with ⟨⟨chunk, service⟩, received, rfl⟩
    exact receive_preserves holds position received
  · rename_i chunk position
    cases stepped
    refine
      { holds with
        flow := ?_
        output := ?_
        ended := fun impossible => by cases impossible }
    · rw [← flow, position]
      simp [ChildPc.held]
    · rw [holds.output]
      simp
  · rename_i position
    cases stepped
    rw [position] at flow
    exact { holds with flow := flow, ended := fun _ => holds.ended (by rw [position]; rfl) }
  · cases stepped

theorem step_preserves {action : Action} (holds : Invariant input state)
    (stepped : state.step action = some next) : Invariant input next := by
  cases action with
  | parent amount => exact parent_preserves holds stepped
  | server amount =>
      rcases Option.map_eq_some_iff.mp stepped with ⟨service, served, rfl⟩
      exact server_preserves holds served
  | child amount => exact child_preserves holds stepped

theorem invariant (reachable : (client input).Reachable state) : Invariant input state := by
  refine Machine.Reachable.invariant ?_ ?_ reachable
  · rintro state rfl
    exact
      { flow := rfl
        output := rfl
        sound := Service.fresh_sound
        shut := fun impossible => by cases impossible
        read := fun impossible => by cases impossible
        ended := fun impossible => by cases impossible }
  · intro state action next holds stepped
    exact step_preserves holds stepped

end

/-- When both processes have terminated, the chunks that were printed make up the
input. -/
theorem printed_input {input : List Byte} {state : State}
    (reachable : (client input).Reachable state) (parent : state.parent = .exited)
    (child : state.child = .exited) : state.printed.flatten = input := by
  have holds := invariant reachable
  have flow := holds.flow
  have read := holds.read (by rw [parent]; rfl)
  have ended := holds.ended (by rw [child]; rfl)
  rw [parent, child, ended.1, read] at flow
  simpa [ParentPc.held, ChildPc.held] using flow

/-- Chunks without null bytes are printed as they are, and no others. -/
theorem formatted_flatten_iff (chunks : List (List Byte)) :
    (chunks.map formatted).flatten = chunks.flatten <-> 0 ∉ chunks.flatten := by
  constructor
  · intro same member
    rw [← same] at member
    rcases List.mem_flatten.mp member with ⟨line, lineMember, inLine⟩
    rcases List.mem_map.mp lineMember with ⟨chunk, -, rfl⟩
    exact cString_nullFree chunk 0 inLine rfl
  · intro nullFree
    have kept : forall chunk, chunk ∈ chunks -> formatted chunk = chunk := by
      intro chunk member
      apply List.takeWhile_eq_self_iff.mpr
      intro byte inChunk
      apply bne_iff_ne.mpr
      rintro rfl
      exact nullFree (List.mem_flatten.mpr ⟨chunk, member, inChunk⟩)
    rw [List.map_congr_left kept, List.map_id']

/-- When both processes of the client have terminated, standard output has what
was on standard input, in order, exactly when there was no null byte. -/
theorem echo_iff_nullFree {input : List Byte} {state : State}
    (reachable : (client input).Reachable state) (parent : state.parent = .exited)
    (child : state.child = .exited) : state.stdout = input <-> 0 ∉ input := by
  have complete := printed_input reachable parent child
  rw [(invariant reachable).output, ← complete]
  exact formatted_flatten_iff state.printed

/-- Three bytes make their way through the client and the server one or two at a
time. -/
def threeBytes : List Action :=
  [.parent 2, .parent 1, .server 1, .parent 1, .server 1, .child 1, .server 1, .child 0, .server 1,
    .parent 1, .parent 1, .child 1, .child 0, .parent 0, .parent 0, .server 1, .server 1,
    .parent 0, .server 0, .server 0, .child 1, .child 0, .child 0, .child 0]

/-- The state in which that run ends for the input `abc`. -/
def letters : State :=
  ((client [97, 98, 99]).exec (start [97, 98, 99]) threeBytes).get (by decide +kernel)

/-- The letters come back. -/
theorem echo_letters :
    (letters.parent = .exited ∧ letters.child = .exited ∧ letters.printed = [[97], [98], [99]]) ∧
      letters.stdout = [97, 98, 99] := by
  have executed : (client [97, 98, 99]).exec (start [97, 98, 99]) threeBytes = some letters :=
    (Option.some_get _).symm
  have ended : letters.parent = .exited ∧ letters.child = .exited ∧
      letters.printed = [[97], [98], [99]] := by decide +kernel
  refine ⟨ended, ?_⟩
  exact (echo_iff_nullFree (Machine.reachable_of_exec rfl executed) ended.1 ended.2.1).mpr (by decide)

/-- The state in which the same run ends when the second byte is null. -/
def withNull : State :=
  ((client [97, 0, 99]).exec (start [97, 0, 99]) threeBytes).get (by decide +kernel)

/-- A null byte does not come back. -/
theorem echo_loses_null :
    ¬ forall (input : List Byte) (state : State), (client input).Reachable state ->
      state.parent = .exited -> state.child = .exited -> state.stdout = input := by
  intro echoed
  have executed : (client [97, 0, 99]).exec (start [97, 0, 99]) threeBytes = some withNull :=
    (Option.some_get _).symm
  have ended : withNull.parent = .exited ∧ withNull.child = .exited ∧
      withNull.stdout = [97, 99] := by decide +kernel
  have same := echoed _ _ (Machine.reachable_of_exec rfl executed) ended.1 ended.2.1
  rw [ended.2.2] at same
  cases same

end IsEcho
end SocketDesign
end Tlpi
