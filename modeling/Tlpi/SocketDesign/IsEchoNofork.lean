import Tlpi.SocketDesign.IsEcho

namespace Tlpi
namespace SocketDesign
namespace IsEchoNofork

open CLibrary Foundations IsEcho

/-!
# The client of a single process

`is_echo_cl_nofork` does everything in one loop: it reads a chunk from standard
input, sends it, reads from the connection once, and prints what that read
returned.  A read need not return the whole chunk.  What it leaves is read in a
later pass, if there is one; at the end of standard input the client closes the
connection with whatever is still to come.
-/

/-- The positions of the client, each named after what it does next. -/
inductive ClientPc where
  | reading
  | sending (rest : List Byte)
  | receiving
  | printing (chunk : List Byte)
  | closing
  | exited
deriving DecidableEq, Repr

namespace ClientPc

/-- The bytes that the client has read from standard input and not yet sent. -/
def unsent : ClientPc -> List Byte
  | .sending rest => rest
  | _ => []

/-- The bytes that the client has received and not yet printed. -/
def unprinted : ClientPc -> List Byte
  | .printing chunk => chunk
  | _ => []

/-- The client has sent a chunk, or a part of it, and has not read the answer. -/
def awaiting : ClientPc -> Bool
  | .sending _ | .receiving => true
  | _ => false

/-- The client has left its loop. -/
def left : ClientPc -> Bool
  | .closing | .exited => true
  | _ => false

/-- The client has closed its connection. -/
def closed : ClientPc -> Bool
  | .exited => true
  | _ => false

end ClientPc

/-- The client and the service.  `sent` has the bytes that the client has written
to the connection, and `printed` the chunks that it has handed to `printf`. -/
structure State where
  stdin : Channel Byte
  client : ClientPc
  service : Service
  sent : List Byte
  printed : List (List Byte)
  stdout : List Byte
deriving DecidableEq, Repr

inductive Action where
  | client (amount : Nat)
  | server (amount : Nat)
deriving DecidableEq, Repr

namespace State

/-- The position behind a read from standard input. -/
def afterInput (chunk : List Byte) : ClientPc :=
  if chunk.isEmpty then .closing else .sending chunk

/-- The position behind a write. -/
def afterSend (rest : List Byte) : ClientPc :=
  if rest.isEmpty then .receiving else .sending rest

/-- The position behind a read from the connection. -/
def afterReceive (chunk : List Byte) : ClientPc :=
  if chunk.isEmpty then .closing else .printing chunk

def clientStep (state : State) (amount : Nat) : Option State :=
  match state.client with
  | .reading =>
      (state.stdin.read BUF_SIZE amount).map (fun (chunk, stdin) =>
        { state with stdin := stdin, client := afterInput chunk })
  | .sending rest =>
      if 0 < amount ∧ amount ≤ rest.length then
        some { state with
          client := afterSend (rest.drop amount)
          service := state.service.send (rest.take amount)
          sent := state.sent ++ rest.take amount }
      else none
  | .receiving =>
      (state.service.receive BUF_SIZE amount).map (fun (chunk, service) =>
        { state with service := service, client := afterReceive chunk })
  | .printing chunk =>
      some { state with
        client := .reading
        printed := state.printed ++ [chunk]
        stdout := state.stdout ++ formatted chunk }
  | .closing => some { state with client := .exited, service := state.service.shutdown }
  | .exited => none

def step (state : State) : Action -> Option State
  | .client amount => state.clientStep amount
  | .server amount =>
      (state.service.serverStep amount).map (fun service => { state with service := service })

end State

/-- The client behind its `inetConnect`, with the given bytes on standard input. -/
def start (input : List Byte) : State where
  stdin := ⟨input, true⟩
  client := .reading
  service := .fresh
  sent := []
  printed := []
  stdout := []

def client (input : List Byte) : Machine State Action where
  Initial := fun state => state = start input
  step := State.step

/-- A read from the connection returns all that was sent and has not come back, if
nothing is left on standard input. -/
def LastReplyWhole (state : State) : Action -> Prop
  | .client amount => state.client = .receiving -> state.stdin.contents = [] ->
      amount = state.service.outstanding.length
  | .server _ => True

/-- What holds in every reachable state.  Everything that was sent is printed, held
for printing, or outstanding. -/
structure Invariant (input : List Byte) (state : State) : Prop where
  input : state.sent ++ state.client.unsent ++ state.stdin.contents = input
  flow : state.printed.flatten ++ state.client.unprinted ++ state.service.outstanding = state.sent
  output : state.stdout = (state.printed.map formatted).flatten
  sound : state.service.Sound
  opened : state.client.closed = false -> state.service.toServer.closed = false
  drained : state.client.left = true -> state.stdin.contents = []

/-- When nothing is left on standard input, the client has read all that it sent,
or it waits for an answer. -/
def CaughtUp (state : State) : Prop :=
  state.stdin.contents = [] -> state.client.awaiting = false -> state.service.outstanding = []

section

variable {input : List Byte} {state next : State} {amount : Nat}

theorem input_preserves {chunk : List Byte} {stdin : Channel Byte} (holds : Invariant input state)
    (position : state.client = .reading)
    (received : state.stdin.read BUF_SIZE amount = some (chunk, stdin)) :
    Invariant input { state with stdin := stdin, client := State.afterInput chunk } := by
  have contents := Channel.read_contents received
  have unsent : (State.afterInput chunk).unsent = chunk := by cases chunk <;> rfl
  have unprinted : (State.afterInput chunk).unprinted = [] := by cases chunk <;> rfl
  have whole := holds.input
  have flow := holds.flow
  rw [position] at whole flow
  refine
    { holds with
      input := ?_
      flow := ?_
      opened := fun _ => holds.opened (by rw [position]; rfl)
      drained := ?_ }
  · rw [← whole, contents, unsent]
    simp [ClientPc.unsent]
  · rw [unprinted]
    exact flow
  · intro left
    rcases Channel.read_eq_some received with ⟨-, empty, -, rfl⟩ | ⟨nonempty, -⟩
    · exact empty
    · cases chunk with
      | nil => exact absurd rfl nonempty
      | cons first others => cases left

theorem send_preserves {piece rest : List Byte} (holds : Invariant input state)
    (position : state.client = .sending (piece ++ rest)) :
    Invariant input
      { state with
        client := State.afterSend rest
        service := state.service.send piece
        sent := state.sent ++ piece } := by
  have opened := holds.opened (by rw [position]; rfl)
  have unsent : (State.afterSend rest).unsent = rest := by cases rest <;> rfl
  have unprinted : (State.afterSend rest).unprinted = [] := by cases rest <;> rfl
  refine
    { input := ?_
      flow := ?_
      output := holds.output
      sound := Service.send_sound holds.sound opened piece
      opened := fun _ => opened
      drained := fun left => by cases rest <;> cases left }
  · rw [← holds.input, position, unsent]
    simp [ClientPc.unsent]
  · rw [← holds.flow, Service.send_outstanding, position, unprinted]
    simp [ClientPc.unprinted]

/-- The connection does not end while the client has not closed it. -/
theorem receive_nonempty {chunk : List Byte} {service : Service} (holds : Invariant input state)
    (position : state.client = .receiving)
    (received : state.service.receive BUF_SIZE amount = some (chunk, service)) : chunk ≠ [] := by
  rintro rfl
  have closed := (Service.receive_end holds.sound received).2
  rw [holds.opened (by rw [position]; rfl)] at closed
  cases closed

theorem receive_preserves {chunk : List Byte} {service : Service} (holds : Invariant input state)
    (position : state.client = .receiving)
    (received : state.service.receive BUF_SIZE amount = some (chunk, service)) :
    Invariant input { state with service := service, client := State.afterReceive chunk } := by
  have opened := holds.opened (by rw [position]; rfl)
  have unsent : (State.afterReceive chunk).unsent = [] := by cases chunk <;> rfl
  have unprinted : (State.afterReceive chunk).unprinted = chunk := by cases chunk <;> rfl
  have whole := holds.input
  rw [position] at whole
  refine
    { input := ?_
      flow := ?_
      output := holds.output
      sound := Service.receive_sound holds.sound received
      opened := ?_
      drained := ?_ }
  · rw [unsent]
    exact whole
  · rw [← holds.flow, Service.receive_outstanding received, position, unprinted]
    simp [ClientPc.unprinted]
  · intro _
    rw [Service.receive_toServer received]
    exact opened
  · intro left
    cases chunk with
    | nil => exact absurd rfl (receive_nonempty holds position received)
    | cons first others => cases left

theorem client_preserves (holds : Invariant input state)
    (stepped : state.clientStep amount = some next) : Invariant input next := by
  have whole := holds.input
  have flow := holds.flow
  unfold State.clientStep at stepped
  cases position : state.client <;> simp only [position] at stepped whole flow
  case reading =>
      rcases Option.map_eq_some_iff.mp stepped with ⟨⟨chunk, stdin⟩, received, rfl⟩
      exact input_preserves holds position received
  case sending rest =>
      split at stepped
      · cases stepped
        apply send_preserves holds
        rw [List.take_append_drop]
        exact position
      · cases stepped
  case receiving =>
      rcases Option.map_eq_some_iff.mp stepped with ⟨⟨chunk, service⟩, received, rfl⟩
      exact receive_preserves holds position received
  case printing chunk =>
      cases stepped
      refine
        { input := whole
          flow := ?_
          output := ?_
          sound := holds.sound
          opened := fun _ => holds.opened (by rw [position]; rfl)
          drained := fun impossible => by cases impossible }
      · rw [← flow]
        simp [ClientPc.unprinted]
      · rw [holds.output]
        simp
  case closing =>
      cases stepped
      exact
        { input := whole
          flow := flow
          output := holds.output
          sound := Service.shutdown_sound holds.sound
          opened := fun impossible => by cases impossible
          drained := fun _ => holds.drained (by rw [position]; rfl) }
  case exited => cases stepped

theorem server_preserves {service : Service} (holds : Invariant input state)
    (stepped : state.service.serverStep amount = some service) :
    Invariant input { state with service := service } := by
  refine
    { holds with
      flow := ?_
      sound := Service.serverStep_sound holds.sound stepped
      opened := ?_ }
  · rw [Service.serverStep_outstanding stepped]
    exact holds.flow
  · intro running
    rw [Service.serverStep_toServer_closed stepped]
    exact holds.opened running

theorem step_preserves {action : Action} (holds : Invariant input state)
    (stepped : state.step action = some next) : Invariant input next := by
  cases action with
  | client amount => exact client_preserves holds stepped
  | server amount =>
      rcases Option.map_eq_some_iff.mp stepped with ⟨service, served, rfl⟩
      exact server_preserves holds served

/-- A read of the last answer leaves nothing exactly if it returns as many bytes as
are outstanding. -/
theorem receive_caughtUp_iff {chunk : List Byte} {service : Service} (holds : Invariant input state)
    (position : state.client = .receiving)
    (received : state.service.receive BUF_SIZE amount = some (chunk, service)) :
    CaughtUp { state with service := service, client := State.afterReceive chunk } <->
      LastReplyWhole state (.client amount) := by
  have nonempty := receive_nonempty holds position received
  have answered : (State.afterReceive chunk).awaiting = false := by cases chunk <;> rfl
  have length := Service.length_receive received nonempty
  have total := congrArg List.length (Service.receive_outstanding received)
  rw [List.length_append, length] at total
  have none : service.outstanding = [] <-> amount = state.service.outstanding.length := by
    rw [← List.length_eq_zero_iff]
    omega
  constructor
  · intro caughtUp _ empty
    exact none.mp (caughtUp empty answered)
  · intro whole empty _
    exact none.mpr (whole position empty)

/-- At the other positions the client does not change what it has yet to read. -/
theorem client_caughtUp_iff (elsewhere : state.client ≠ .receiving)
    (stepped : state.clientStep amount = some next) : CaughtUp next <-> CaughtUp state := by
  unfold CaughtUp
  unfold State.clientStep at stepped
  cases position : state.client <;> simp only [position] at stepped
  case reading =>
      rcases Option.map_eq_some_iff.mp stepped with ⟨⟨chunk, stdin⟩, received, rfl⟩
      rcases Channel.read_eq_some received with ⟨rfl, -, -, rfl⟩ | ⟨nonempty, -, -, contents, -⟩
      · exact Iff.rfl
      · have sending : (State.afterInput chunk).awaiting = true := by
          cases chunk with
          | nil => exact absurd rfl nonempty
          | cons first others => rfl
        simp [sending, contents, nonempty]
  case sending rest =>
      split at stepped
      · cases stepped
        have awaiting : (State.afterSend (rest.drop amount)).awaiting = true := by
          cases rest.drop amount <;> rfl
        refine iff_of_true ?_ (fun _ impossible => by cases impossible)
        intro _ answered
        exact absurd (answered.symm.trans awaiting) Bool.false_ne_true
      · cases stepped
  case receiving => exact absurd position elsewhere
  case printing chunk =>
      cases stepped
      exact Iff.rfl
  case closing =>
      cases stepped
      exact Iff.rfl
  case exited => cases stepped

theorem server_caughtUp_iff {service : Service}
    (served : state.service.serverStep amount = some service) :
    CaughtUp { state with service := service } <-> CaughtUp state := by
  unfold CaughtUp
  rw [Service.serverStep_outstanding served]

/-- A step of a client that has caught up loses that exactly if it is a short read
of the last answer. -/
theorem caughtUp_iff_whole {action : Action} (holds : Invariant input state)
    (caughtUp : CaughtUp state) (stepped : state.step action = some next) :
    CaughtUp next <-> LastReplyWhole state action := by
  cases action with
  | client amount =>
      by_cases position : state.client = .receiving
      · change state.clientStep amount = some next at stepped
        simp only [State.clientStep, position] at stepped
        rcases Option.map_eq_some_iff.mp stepped with ⟨⟨chunk, service⟩, received, rfl⟩
        exact receive_caughtUp_iff holds position received
      · refine iff_of_true ((client_caughtUp_iff position stepped).mpr caughtUp) ?_
        intro receiving
        exact absurd receiving position
  | server amount =>
      rcases Option.map_eq_some_iff.mp stepped with ⟨service, served, rfl⟩
      exact iff_of_true ((server_caughtUp_iff served).mpr caughtUp) trivial

/-- What was left unread at the last answer stays so. -/
theorem behind_stays {action : Action} (behind : ¬ CaughtUp state)
    (stepped : state.step action = some next) : ¬ CaughtUp next := by
  cases action with
  | client amount =>
      have elsewhere : state.client ≠ .receiving := by
        intro position
        apply behind
        intro _ answered
        rw [position] at answered
        cases answered
      rw [client_caughtUp_iff elsewhere stepped]
      exact behind
  | server amount =>
      rcases Option.map_eq_some_iff.mp stepped with ⟨service, served, rfl⟩
      rw [server_caughtUp_iff served]
      exact behind

theorem start_holds (input : List Byte) : Invariant input (start input) where
  input := rfl
  flow := rfl
  output := rfl
  sound := Service.fresh_sound
  opened _ := rfl
  drained impossible := by cases impossible

/-- A client that has terminated has printed what it sent exactly if it has caught
up. -/
theorem printed_iff_caughtUp (nullFree : 0 ∉ input) (holds : Invariant input state)
    (ended : state.client = .exited) :
    state.stdout = state.sent ∧ state.service.outstanding = [] <-> CaughtUp state := by
  have flow := holds.flow
  rw [ended] at flow
  constructor
  · rintro ⟨-, outstanding⟩ _ _
    exact outstanding
  · intro caughtUp
    have outstanding := caughtUp (holds.drained (by rw [ended]; rfl)) (by rw [ended]; rfl)
    rw [outstanding] at flow
    have printed : state.printed.flatten = state.sent := by
      simpa [ClientPc.unprinted] using flow
    refine ⟨?_, outstanding⟩
    rw [holds.output, ← printed]
    apply (formatted_flatten_iff state.printed).mpr
    intro member
    apply nullFree
    rw [← holds.input, ← printed]
    exact List.mem_append_left _ (List.mem_append_left _ member)

end

/-- A client that terminates has printed what it sent and has left nothing unread
exactly if its last read from the connection, behind the last chunk of standard
input, returned all that was outstanding. -/
theorem echo_iff_last_reply_whole {input : List Byte} {actions : List Action} {final : State}
    (nullFree : 0 ∉ input) (executed : (client input).exec (start input) actions = some final)
    (ended : final.client = .exited) :
    final.stdout = final.sent ∧ final.service.outstanding = [] <->
      (client input).Along LastReplyWhole (start input) actions := by
  have preserved : forall state action next, Invariant input state ->
      (client input).step state action = some next -> Invariant input next :=
    fun _ _ _ holds stepped => step_preserves holds stepped
  have holds : Invariant input final := by
    refine Machine.Reachable.invariant ?_ preserved (Machine.reachable_of_exec rfl executed)
    rintro state rfl
    exact start_holds input
  rw [printed_iff_caughtUp nullFree holds ended]
  refine Machine.exec_live_iff_along_of_invariant preserved ?_ ?_ (start_holds input)
    (fun _ _ => rfl) executed
  · intro state action next holds caughtUp stepped
    exact caughtUp_iff_whole holds caughtUp stepped
  · intro state action next _ behind stepped
    exact behind_stays behind stepped

/-- The first read from the connection returns one byte of two, and the last one
the other together with the third. -/
def together : List Action :=
  [.client 2, .client 2, .server 2, .server 2, .client 1, .client 0, .client 1, .client 1,
    .server 1, .server 1, .client 2, .client 0, .client 0, .client 0]

def togetherFinal : State :=
  ((client [97, 98, 99]).exec (start [97, 98, 99]) together).get (by decide +kernel)

/-- The client has printed everything, and so its last read was whole. -/
theorem echo_together :
    (togetherFinal.client = .exited ∧ togetherFinal.stdout = togetherFinal.sent ∧
      togetherFinal.service.outstanding = []) ∧
      (client [97, 98, 99]).Along LastReplyWhole (start [97, 98, 99]) together := by
  have ended : togetherFinal.client = .exited ∧ togetherFinal.stdout = togetherFinal.sent ∧
      togetherFinal.service.outstanding = [] := by decide +kernel
  refine ⟨ended, ?_⟩
  exact (echo_iff_last_reply_whole (by decide) (Option.some_get _).symm ended.1).mp ended.2

/-- Two bytes are sent, and the read returns one. -/
def apart : List Action :=
  [.client 2, .client 2, .server 2, .server 2, .client 1, .client 0, .client 0, .client 0]

def apartFinal : State := ((client [97, 98]).exec (start [97, 98]) apart).get (by decide +kernel)

/-- The client has terminated without the second byte. -/
theorem short_reply_loses_byte :
    ¬ forall (input : List Byte) (state : State), 0 ∉ input -> (client input).Reachable state ->
      state.client = .exited -> state.stdout = state.sent ∧ state.service.outstanding = [] := by
  intro echoed
  have executed : (client [97, 98]).exec (start [97, 98]) apart = some apartFinal :=
    (Option.some_get _).symm
  have ended : apartFinal.client = .exited ∧ apartFinal.sent = [97, 98] ∧
      apartFinal.stdout = [97] := by decide +kernel
  have complete := echoed _ _ (by decide) (Machine.reachable_of_exec rfl executed) ended.1
  rw [ended.2.1, ended.2.2] at complete
  cases complete.1

end IsEchoNofork
end SocketDesign
end Tlpi
