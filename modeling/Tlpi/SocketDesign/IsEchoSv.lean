import Tlpi.CLibrary.Children
import Tlpi.Foundations.Slots
import Tlpi.Foundations.Transition
import Tlpi.Lib.ErrorFunctions

namespace Tlpi
namespace SocketDesign
namespace IsEchoSv

open CLibrary Foundations Lib

/-!
# The concurrent echo server

The server accepts connections in an endless loop and handles each in a child of
its own.  The parent has to close its copy of the connection whatever `fork`
returns, and the child its copy of the listening socket.  Dead children are reaped
by a handler for `SIGCHLD`, a signal that is not queued: any number of children may
die while one signal is pending or while the handler runs.

The machine takes one step per call.  Children die at any time, in any position,
and `SIGCHLD` may also be generated for another reason.  What a child does with its
connection is the subject of `IsEcho`; here it is one position.
-/

/-- What a descriptor refers to. -/
inductive File where
  | elsewhere (name : Nat)
  | listener
  | connection (number : Nat)
deriving DecidableEq, Repr

/-- The positions of `main`, each named after what it does next.  `stopping` is
the call of `stop`, which waits for a character on standard input. -/
inductive MainPc where
  | installing
  | listening
  | deferring
  | accepting
  | stopping (cfd : Nat)
  | forking (cfd : Nat)
  | givingUp (cfd : Nat)
  | closing (cfd : Nat)
  | ended (failure : Failure)
deriving DecidableEq, Repr

inductive HandlerPc where
  | saving
  | waiting
  | restoring
deriving DecidableEq, Repr

structure Frame where
  pc : HandlerPc
  savedErrno : Errno
deriving DecidableEq, Repr

/-- The positions of a child: in front of `close(lfd)`, and in `handleRequest`. -/
inductive WorkerPc where
  | closingListener
  | handling
deriving DecidableEq, Repr

/-- A child that has not terminated, with its own descriptors. -/
structure Worker where
  pid : Nat
  pc : WorkerPc
  cfd : Nat
  descriptors : Slots File
deriving DecidableEq, Repr

/-- `close(lfd)` in a child. -/
def Worker.closeListener (lfd : Nat) (worker : Worker) : Worker :=
  { worker with pc := .handling, descriptors := worker.descriptors.release lfd }

/-- The server and its children.  `children` has the children that have not been
waited for, `accepted` counts the connections, and `firstIteration` keeps the
descriptors that the parent had before its first pass of the loop. -/
structure State where
  main : MainPc
  handler : Option Frame
  established : Bool
  pending : Bool
  errno : Errno
  descriptors : Slots File
  lfd : Nat
  accepted : Nat
  children : List Child
  workers : List Worker
  firstIteration : Option (Slots File)
deriving DecidableEq, Repr

/-- A child terminates or makes its next step, `SIGCHLD` is generated for another
reason or delivered, the main program or the handler goes on, or a call of the
main program fails.  A fork gives the child the stated process ID, and a wait
takes the stated zombie. -/
inductive Action where
  | terminate (pid : Nat) (status : Int)
  | worker (pid : Nat)
  | raise
  | deliver
  | main (pid : Nat)
  | handler (chosen : Nat)
  | fail (errno : Errno)
deriving DecidableEq, Repr

namespace State

def moveTo (state : State) (main : MainPc) : State := { state with main := main }

/-- `SIGCHLD` is generated.  Before the handler is established it is discarded. -/
def generate (state : State) : State :=
  if state.established then { state with pending := true } else state

/-- A child terminates, and its descriptors are closed. -/
def terminate (state : State) (pid : Nat) (status : Int) : Option State :=
  (terminateChild state.children pid status).map (fun children =>
    { state with
      children := children
      workers := state.workers.filter (fun worker => worker.pid != pid) }.generate)

/-- The handler is called, with `SIGCHLD` blocked while it runs. -/
def deliver (state : State) : Option State :=
  if state.pending ∧ state.established ∧ state.handler = none then
    some { state with pending := false, handler := some ⟨.saving, state.errno⟩ }
  else none

/-- A child closes its copy of the listening socket. -/
def workerStep (state : State) (pid : Nat) : Option State :=
  if state.workers.any (fun worker => worker.pid = pid && worker.pc = .closingListener) then
    some { state with
      workers := state.workers.map (fun worker =>
        if worker.pid = pid then Worker.closeListener state.lfd worker else worker) }
  else none

/-- A successful `inetListen`, with its socket in `lfd`. -/
def listen (state : State) : State :=
  { state with
    lfd := state.descriptors.lowestFree
    descriptors := state.descriptors.acquire .listener }

def enterLoop (state : State) : State :=
  { state with firstIteration := some state.descriptors }

def accept (state : State) : State :=
  { state with
    descriptors := state.descriptors.acquire (.connection state.accepted)
    accepted := state.accepted + 1 }

/-- A successful `fork`: the child has copies of the descriptors. -/
def fork (state : State) (pid cfd : Nat) : State :=
  { state with
    children := state.children ++ [⟨pid, none⟩]
    workers := state.workers ++ [⟨pid, .closingListener, cfd, state.descriptors⟩] }

def close (state : State) (fd : Nat) : State :=
  { state with descriptors := state.descriptors.release fd }

def mainStep (state : State) (pid : Nat) : Option State :=
  match state.main with
  | .installing => some ({ state with established := true }.moveTo .listening)
  | .listening => some (state.listen.moveTo .deferring)
  | .deferring => some (state.enterLoop.moveTo .accepting)
  | .accepting => some (state.accept.moveTo (.stopping state.descriptors.lowestFree))
  | .stopping cfd => some (state.moveTo (.forking cfd))
  | .forking cfd =>
      if state.children.any (fun child => child.pid = pid) then none
      else some ((state.fork pid cfd).moveTo (.closing cfd))
  | .givingUp cfd => some ((state.close cfd).moveTo .accepting)
  | .closing cfd => some ((state.close cfd).moveTo .accepting)
  | .ended _ => none

def handlerStep (state : State) (frame : Frame) (chosen : Nat) : Option State :=
  match frame.pc with
  | .saving => some { state with handler := some ⟨.waiting, state.errno⟩ }
  | .waiting =>
      match waitpidAny state.children chosen with
      | none => none
      | some (.ok (some _), children) => some { state with children := children }
      | some (.ok none, _) => some { state with handler := some { frame with pc := .restoring } }
      | some (.error errno, _) =>
          some { state with errno := errno, handler := some { frame with pc := .restoring } }
  | .restoring => some { state with handler := none, errno := frame.savedErrno }

/-- A call of the main program fails.  Only a failed `fork` does not end the
process. -/
def fail (dumpcore : Option String) (state : State) (errno : Errno) : Option State :=
  let exiting (message : String) := some (state.moveTo (.ended ⟨some errno, message, .exit⟩))
  match state.main with
  | .installing => exiting "Error from sigaction()"
  | .listening => exiting "Could not create server socket"
  | .deferring => some (state.moveTo (.ended (errExit dumpcore errno "setsockopt")))
  | .accepting => exiting "Failure in accept()"
  | .forking cfd => some ({ state with errno := errno }.moveTo (.givingUp cfd))
  | .stopping _ | .givingUp _ | .closing _ | .ended _ => none

/-- One step.  The main program waits while the handler runs, and a process that
has ended takes no step. -/
def step (dumpcore : Option String) (state : State) (action : Action) : Option State :=
  match state.main, action with
  | .ended _, _ => none
  | _, .terminate pid status => state.terminate pid status
  | _, .worker pid => state.workerStep pid
  | _, .raise => some state.generate
  | _, .deliver => state.deliver
  | _, .main pid =>
      match state.handler with
      | none => state.mainStep pid
      | some _ => none
  | _, .handler chosen =>
      match state.handler with
      | none => none
      | some frame => state.handlerStep frame chosen
  | _, .fail errno =>
      match state.handler with
      | none => state.fail dumpcore errno
      | some _ => none

end State

/-- The server before its call of `sigaction`, with any descriptors open.  It has
no children yet. -/
def server (dumpcore : Option String) : Machine State Action where
  Initial := fun state => state.main = .installing ∧ state.handler = none ∧
    state.established = false ∧ state.pending = false ∧ state.children = [] ∧
    state.workers = [] ∧ state.firstIteration = none
  step := State.step dumpcore

/-! ## What holds throughout -/

/-- What the position of `main` tells about the descriptors of the parent: at the
top of the loop they are those before the first iteration, which include the
listening socket, and while a client is handled there is the connection more. -/
def Table (firstIteration : Option (Slots File)) (lfd : Nat) (descriptors : Slots File) :
    MainPc -> Prop
  | .installing | .listening => True
  | .deferring => descriptors.get lfd = some .listener
  | .accepting => Exists fun before => firstIteration = some before ∧
      before.get lfd = some .listener ∧ Slots.Same before descriptors
  | .stopping cfd | .forking cfd | .givingUp cfd | .closing cfd =>
      Exists fun before => Exists fun number => firstIteration = some before ∧
        before.get lfd = some .listener ∧ Slots.Added before descriptors cfd (.connection number)
  | .ended _ => True

/-- The descriptors of a child that handles its client: the connection, and the
listening socket no more. -/
def Worker.Separated (lfd : Nat) (worker : Worker) : Prop :=
  worker.cfd ≠ lfd ∧ (Exists fun number => worker.descriptors.get worker.cfd = some (.connection number)) ∧
    (worker.pc = .handling -> worker.descriptors.get lfd = none)

/-- The main program has established its handler and has not ended. -/
def MainPc.installed : MainPc -> Bool
  | .installing | .ended _ => false
  | _ => true

/-- The main program has not come to its loop. -/
def MainPc.preparing : MainPc -> Bool
  | .installing | .listening | .deferring => true
  | _ => false

/-- The handler has still to find that no child is dead. -/
def Frame.inLoop (frame : Frame) : Bool :=
  match frame.pc with
  | .saving | .waiting => true
  | .restoring => false

/-- A signal is pending, or the handler runs and will call `waitpid` again. -/
def Noticed (pending : Bool) (handler : Option Frame) : Prop :=
  pending = true ∨ Exists fun frame => handler = some frame ∧ frame.inLoop = true

structure Invariant (state : State) : Prop where
  table : Table state.firstIteration state.lfd state.descriptors state.main
  separated : forall worker, worker ∈ state.workers -> Worker.Separated state.lfd worker
  childless : state.main.preparing = true -> state.children = [] ∧ state.workers = []
  established : state.main.installed = true -> state.established = true
  noticed : forall child, child ∈ state.children -> child.zombie = true ->
    Noticed state.pending state.handler
  distinct : (state.children.map Child.pid).Nodup

section

variable {state next : State}

theorem generate_preserves (holds : Invariant state) : Invariant state.generate := by
  unfold State.generate
  split
  · exact { holds with noticed := fun _ _ _ => .inl rfl }
  · exact holds

/-- A server with children has established its handler. -/
theorem Invariant.established_of_children (holds : Invariant state)
    (running : forall failure, state.main ≠ .ended failure) (children : state.children ≠ []) :
    state.established = true := by
  apply holds.established
  cases position : state.main with
  | installing => exact absurd (holds.childless (by rw [position]; rfl)).1 children
  | ended failure => exact absurd position (running failure)
  | _ => rfl

theorem terminate_preserves {pid : Nat} {status : Int} (holds : Invariant state)
    (running : forall failure, state.main ≠ .ended failure)
    (stepped : state.terminate pid status = some next) : Invariant next := by
  rcases Option.map_eq_some_iff.mp stepped with ⟨children, terminated, rfl⟩
  have nonempty : state.children ≠ [] := by
    intro empty
    rw [empty] at terminated
    cases terminated
  have established := holds.established_of_children running nonempty
  rw [State.generate, if_pos established]
  refine
    { holds with
      separated := ?_
      childless := ?_
      noticed := fun _ _ _ => .inl rfl
      distinct := ?_ }
  · intro worker member
    exact holds.separated worker (List.mem_of_mem_filter member)
  · intro preparing
    exact absurd (holds.childless preparing).1 nonempty
  · change (children.map Child.pid).Nodup
    rw [map_pid_terminateChild terminated]
    exact holds.distinct

theorem deliver_preserves (holds : Invariant state) (stepped : state.deliver = some next) :
    Invariant next := by
  unfold State.deliver at stepped
  split at stepped
  · cases stepped
    exact { holds with noticed := fun _ _ _ => .inr ⟨_, rfl, rfl⟩ }
  · cases stepped

theorem closeListener_separated {lfd : Nat} {worker : Worker} (separated : worker.Separated lfd) :
    (Worker.closeListener lfd worker).Separated lfd := by
  rcases separated with ⟨different, ⟨number, held⟩, -⟩
  refine ⟨different, ⟨number, ?_⟩, ?_⟩
  · exact (Slots.get_release _ _ _).trans ((if_neg different).trans held)
  · intro _
    exact (Slots.get_release _ _ _).trans (if_pos rfl)

theorem worker_preserves {pid : Nat} (holds : Invariant state)
    (stepped : state.workerStep pid = some next) : Invariant next := by
  unfold State.workerStep at stepped
  split at stepped
  · cases stepped
    refine { holds with separated := ?_, childless := ?_ }
    · intro worker member
      rcases List.mem_map.mp member with ⟨old, oldMember, rfl⟩
      have separated := holds.separated old oldMember
      split
      · exact closeListener_separated separated
      · exact separated
    · intro preparing
      rcases holds.childless preparing with ⟨children, workers⟩
      exact ⟨children, by simp [workers]⟩
  · cases stepped

theorem handler_preserves {frame : Frame} {chosen : Nat} (holds : Invariant state)
    (running : state.handler = some frame)
    (stepped : state.handlerStep frame chosen = some next) : Invariant next := by
  unfold State.handlerStep at stepped
  cases position : frame.pc <;> simp only [position] at stepped
  case saving =>
      cases stepped
      exact { holds with noticed := fun _ _ _ => .inr ⟨_, rfl, rfl⟩ }
  case waiting =>
      cases waited : waitpidAny state.children chosen with
      | none =>
          rw [waited] at stepped
          cases stepped
      | some answer =>
          rcases answer with ⟨answer, children⟩
          rcases waitpidAny_eq_some waited with
            ⟨rfl, empty, rfl⟩ | ⟨rfl, alive, rfl⟩ | ⟨status, rfl, reaped⟩
          · simp only [waited] at stepped
            cases stepped
            refine { holds with noticed := ?_ }
            intro child member
            rw [empty] at member
            cases member
          · simp only [waited] at stepped
            cases stepped
            refine { holds with noticed := ?_ }
            intro child member zombie
            rw [alive child member] at zombie
            cases zombie
          · simp only [waited] at stepped
            cases stepped
            refine { holds with childless := ?_, noticed := ?_, distinct := ?_ }
            · intro preparing
              rcases holds.childless preparing with ⟨empty, -⟩
              rw [empty] at reaped
              cases reaped
            · intro child member zombie
              exact .inr ⟨frame, running, by rw [Frame.inLoop, position]⟩
            · exact ((reap_sublist reaped).map Child.pid).nodup holds.distinct
  case restoring =>
      cases stepped
      refine { holds with noticed := ?_ }
      intro child member zombie
      rcases holds.noticed child member zombie with pending | ⟨other, same, inLoop⟩
      · exact .inl pending
      · rw [running] at same
        cases same
        rw [Frame.inLoop, position] at inLoop
        cases inLoop

theorem Invariant.moveTo (holds : Invariant state) {main : MainPc}
    (installed : state.main.installed = true) (inLoop : main.preparing = false)
    (table : Table state.firstIteration state.lfd state.descriptors main) :
    Invariant (state.moveTo main) where
  table := table
  separated := holds.separated
  childless preparing := absurd (inLoop.symm.trans preparing) Bool.false_ne_true
  established _ := holds.established installed
  noticed := holds.noticed
  distinct := holds.distinct

theorem listen_preserves (holds : Invariant state) (position : state.main = .listening) :
    Invariant (state.listen.moveTo .deferring) := by
  rcases holds.childless (by rw [position]; rfl) with ⟨children, workers⟩
  refine
    { table := ?_
      separated := ?_
      childless := fun _ => ⟨children, workers⟩
      established := fun _ => holds.established (by rw [position]; rfl)
      noticed := holds.noticed
      distinct := holds.distinct }
  · exact ((Slots.Same.refl state.descriptors).acquire File.listener).held
  · intro worker member
    rw [show (state.listen.moveTo .deferring).workers = [] from workers] at member
    cases member

theorem enterLoop_preserves (holds : Invariant state) (position : state.main = .deferring) :
    Invariant (state.enterLoop.moveTo .accepting) := by
  have listener := holds.table
  rw [position] at listener
  exact
    { table := ⟨state.descriptors, rfl, listener, .refl _⟩
      separated := holds.separated
      childless := fun impossible => by cases impossible
      established := fun _ => holds.established (by rw [position]; rfl)
      noticed := holds.noticed
      distinct := holds.distinct }

theorem accept_preserves (holds : Invariant state) (position : state.main = .accepting) :
    Invariant (state.accept.moveTo (.stopping state.descriptors.lowestFree)) := by
  have table := holds.table
  rw [position] at table
  rcases table with ⟨before, first, listener, same⟩
  exact
    { table := ⟨before, state.accepted, first, listener, same.acquire _⟩
      separated := holds.separated
      childless := fun impossible => by cases impossible
      established := fun _ => holds.established (by rw [position]; rfl)
      noticed := holds.noticed
      distinct := holds.distinct }

theorem fork_preserves {cfd : Nat} (holds : Invariant state) (position : state.main = .forking cfd)
    {pid : Nat} (fresh : ¬ state.children.any (fun child => child.pid = pid) = true) :
    Invariant ((state.fork pid cfd).moveTo (.closing cfd)) := by
  have table := holds.table
  rw [position] at table
  have ⟨before, number, _, listener, added⟩ := table
  refine
    { table := table
      separated := ?_
      childless := fun impossible => by cases impossible
      established := fun _ => holds.established (by rw [position]; rfl)
      noticed := ?_
      distinct := ?_ }
  · intro worker member
    rcases List.mem_append.mp member with old | new
    · exact holds.separated worker old
    · rw [List.mem_singleton.mp new]
      refine ⟨?_, ⟨number, added.held⟩, fun impossible => by cases impossible⟩
      intro same
      change cfd = state.lfd at same
      have free := added.free
      rw [same, listener] at free
      cases free
  · intro child member zombie
    rcases List.mem_append.mp member with old | new
    · exact holds.noticed child old zombie
    · rw [List.mem_singleton.mp new] at zombie
      cases zombie
  · change ((state.children ++ [Child.mk pid none]).map Child.pid).Nodup
    rw [List.map_append, List.nodup_append]
    refine ⟨holds.distinct, by simp, ?_⟩
    intro old oldMember new newMember same
    rcases List.mem_map.mp oldMember with ⟨child, member, rfl⟩
    rw [List.mem_singleton.mp newMember] at same
    exact fresh (List.any_eq_true.mpr ⟨child, member, decide_eq_true same⟩)

theorem close_preserves {cfd : Nat} (holds : Invariant state)
    (installed : state.main.installed = true)
    (table : Table state.firstIteration state.lfd state.descriptors (.closing cfd)) :
    Invariant ((state.close cfd).moveTo .accepting) := by
  rcases table with ⟨before, number, first, listener, added⟩
  exact
    { table := ⟨before, first, listener, added.release⟩
      separated := holds.separated
      childless := fun impossible => by cases impossible
      established := fun _ => holds.established installed
      noticed := holds.noticed
      distinct := holds.distinct }

theorem main_preserves {pid : Nat} (holds : Invariant state)
    (stepped : state.mainStep pid = some next) : Invariant next := by
  have table := holds.table
  unfold State.mainStep at stepped
  cases position : state.main <;> simp only [position] at stepped table
  case installing =>
      cases stepped
      exact
        { table := trivial
          separated := holds.separated
          childless := fun _ => holds.childless (by rw [position]; rfl)
          established := fun _ => rfl
          noticed := holds.noticed
          distinct := holds.distinct }
  case listening =>
      cases stepped
      exact listen_preserves holds position
  case deferring =>
      cases stepped
      exact enterLoop_preserves holds position
  case accepting =>
      cases stepped
      exact accept_preserves holds position
  case stopping cfd =>
      cases stepped
      exact holds.moveTo (by rw [position]; rfl) rfl table
  case forking cfd =>
      split at stepped
      · cases stepped
      · cases stepped
        exact fork_preserves holds position ‹_›
  case givingUp cfd =>
      cases stepped
      exact close_preserves holds (by rw [position]; rfl) table
  case closing cfd =>
      cases stepped
      exact close_preserves holds (by rw [position]; rfl) table
  case ended failure => cases stepped

/-- A process that ends keeps what is said about its children. -/
theorem Invariant.end (holds : Invariant state) (failure : Failure) :
    Invariant (state.moveTo (.ended failure)) where
  table := trivial
  separated := holds.separated
  childless impossible := by cases impossible
  established impossible := by cases impossible
  noticed := holds.noticed
  distinct := holds.distinct

theorem fail_preserves {dumpcore : Option String} {errno : Errno} (holds : Invariant state)
    (stepped : state.fail dumpcore errno = some next) : Invariant next := by
  have table := holds.table
  unfold State.fail at stepped
  cases position : state.main <;> simp only [position] at stepped table <;> cases stepped
  case forking cfd =>
      have moved : Invariant (state.moveTo (.givingUp cfd)) :=
        holds.moveTo (by rw [position]; rfl) rfl table
      exact { moved with }
  all_goals exact holds.end _

end

theorem step_preserves {dumpcore : Option String} {state next : State} {action : Action}
    (holds : Invariant state) (stepped : state.step dumpcore action = some next) :
    Invariant next := by
  unfold State.step at stepped
  split at stepped
  · cases stepped
  · rename_i running
    exact terminate_preserves holds (fun failure ended => running failure ended) stepped
  · exact worker_preserves holds stepped
  · cases stepped
    exact generate_preserves holds
  · exact deliver_preserves holds stepped
  · split at stepped
    · exact main_preserves holds stepped
    · cases stepped
  · split at stepped
    · cases stepped
    · exact handler_preserves holds ‹_› stepped
  · split at stepped
    · exact fail_preserves holds stepped
    · cases stepped

theorem invariant {dumpcore : Option String} {state : State}
    (reachable : (server dumpcore).Reachable state) : Invariant state := by
  refine Machine.Reachable.invariant ?_ ?_ reachable
  · rintro state ⟨main, -, -, -, children, workers, -⟩
    exact
      { table := by rw [main]; trivial
        separated := by simp [workers]
        childless := fun _ => ⟨children, workers⟩
        established := fun installed => by rw [main] at installed; cases installed
        noticed := by simp [children]
        distinct := by simp [children] }
  · intro state action next holds stepped
    exact step_preserves holds stepped

/-! ## The handler returns -/

section

variable {dumpcore : Option String} {state : State} {frame : Frame}

/-- The steps that take the handler to its first call of `waitpid`. -/
def Frame.entry (frame : Frame) : List Action :=
  match frame.pc with
  | .saving => [.handler 0]
  | .waiting | .restoring => []

/-- What `errno` will be when the handler returns. -/
def Frame.restored (frame : Frame) (errno : Errno) : Errno :=
  match frame.pc with
  | .saving => errno
  | .waiting | .restoring => frame.savedErrno

/-- The handler's own steps take it through its calls of `waitpid` to its return, whichever
zombies the kernel chooses, and leave no zombie. -/
structure Returns (dumpcore : Option String) (state : State) (frame : Frame) : Prop where
  reaps : Exists fun chosen => Exists fun rest => ReapsAll state.children chosen rest
  returns : forall chosen rest, ReapsAll state.children chosen rest ->
    (forall child, child ∈ rest -> child.zombie = false) ∧
      (server dumpcore).exec state (frame.entry ++ chosen.map .handler ++ [.handler 0]) =
        some { state with handler := none, children := rest, errno := frame.restored state.errno }

theorem step_handler (dumpcore : Option String) (running : forall failure, state.main ≠ .ended failure)
    (handles : state.handler = some frame) (chosen : Nat) :
    state.step dumpcore (.handler chosen) = state.handlerStep frame chosen := by
  unfold State.step
  cases position : state.main with
  | ended failure => exact absurd position (running failure)
  | installing | listening | deferring | accepting | stopping _ | forking _ | givingUp _ | closing _ =>
      rw [handles]

theorem exec_handler (running : forall failure, state.main ≠ .ended failure)
    (handles : state.handler = some frame) {chosen : Nat} {next : State}
    (stepped : state.handlerStep frame chosen = some next) (rest : List Action) :
    (server dumpcore).exec state (.handler chosen :: rest) = (server dumpcore).exec next rest := by
  change ((state.step dumpcore (.handler chosen)).bind _) = _
  rw [step_handler dumpcore running handles, stepped]
  rfl

theorem exec_restoring {savedErrno : Errno} (running : forall failure, state.main ≠ .ended failure)
    (restores : state.handler = some ⟨.restoring, savedErrno⟩) :
    (server dumpcore).exec state [.handler 0] =
      some { state with handler := none, errno := savedErrno } := by
  have stepped : state.handlerStep ⟨.restoring, savedErrno⟩ 0 =
      some { state with handler := none, errno := savedErrno } := rfl
  rw [exec_handler running restores stepped]
  rfl

/-- The loop of the handler, and its return. -/
theorem exec_waiting {children rest : List Child} {chosen : List Nat} {savedErrno : Errno}
    (reaps : ReapsAll children chosen rest) (running : forall failure, state.main ≠ .ended failure)
    (waits : state.handler = some ⟨.waiting, savedErrno⟩) (same : state.children = children) :
    (server dumpcore).exec state (chosen.map .handler ++ [.handler 0]) =
      some { state with handler := none, children := rest, errno := savedErrno } := by
  induction reaps generalizing state with
  | @ends children rest answer chosen waited none =>
      have kept : rest = state.children := by
        rcases waitpidAny_eq_some waited with ⟨_, _, kept⟩ | ⟨_, _, kept⟩ | ⟨status, taken, _⟩
        · exact kept.trans same.symm
        · exact kept.trans same.symm
        · exact absurd taken (none _)
      rw [← same] at waited
      rw [List.map_singleton, List.singleton_append, kept]
      cases answer with
      | error errno =>
          have stepped : state.handlerStep ⟨.waiting, savedErrno⟩ chosen =
              some { state with errno := errno, handler := some ⟨.restoring, savedErrno⟩ } := by
            simp only [State.handlerStep, waited]
          rw [exec_handler running waits stepped]
          exact exec_restoring running rfl
      | ok taken =>
          cases taken with
          | some pair => exact absurd rfl (none pair)
          | none =>
              have stepped : state.handlerStep ⟨.waiting, savedErrno⟩ chosen =
                  some { state with handler := some ⟨.restoring, savedErrno⟩ } := by
                simp only [State.handlerStep, waited]
              rw [exec_handler running waits stepped]
              exact exec_restoring running rfl
  | @takes children others rest pid status chosen waited _ inductionHypothesis =>
      rw [← same] at waited
      have stepped : state.handlerStep ⟨.waiting, savedErrno⟩ pid =
          some { state with children := others } := by
        simp only [State.handlerStep, waited]
      rw [List.map_cons, List.cons_append, exec_handler running waits stepped]
      exact inductionHypothesis running waits rfl

/-- A handler that will call `waitpid` does so, and returns. -/
theorem Invariant.returns (holds : Invariant state) (dumpcore : Option String)
    (running : forall failure, state.main ≠ .ended failure) (handles : state.handler = some frame)
    (inLoop : frame.inLoop = true) : Returns dumpcore state frame where
  reaps := exists_reapsAll holds.distinct
  returns := by
    intro chosen rest reaps
    refine ⟨reaps.zombie_eq_false, ?_⟩
    rcases frame with ⟨pc, savedErrno⟩
    cases pc with
    | saving =>
        change (server dumpcore).exec state (.handler 0 :: (chosen.map .handler ++ [.handler 0])) = _
        rw [exec_handler running handles rfl]
        exact exec_waiting reaps running rfl rfl
    | waiting => exact exec_waiting reaps running handles rfl
    | restoring => cases inLoop

/-- A signal that is pending for a zombie is delivered as soon as no handler runs. -/
theorem Invariant.delivers (holds : Invariant state) (dumpcore : Option String)
    (running : forall failure, state.main ≠ .ended failure) (idle : state.handler = none)
    {child : Child} (member : child ∈ state.children) (zombie : child.zombie = true) :
    Exists fun next => state.step dumpcore .deliver = some next ∧ next.children = state.children ∧
      Exists fun frame => next.handler = some frame ∧ frame.inLoop = true := by
  have pending : state.pending = true := by
    rcases holds.noticed child member zombie with pending | ⟨frame, handles, _⟩
    · exact pending
    · rw [idle] at handles
      cases handles
  have established := holds.established_of_children running (List.ne_nil_of_mem member)
  have stepped : state.step dumpcore .deliver = state.deliver := by
    unfold State.step
    cases position : state.main with
    | ended failure => exact absurd position (running failure)
    | installing | listening | deferring | accepting | stopping _ | forking _ | givingUp _ | closing _ =>
        rfl
  refine ⟨_, stepped.trans (if_pos ⟨pending, established, idle⟩), rfl, _, rfl, rfl⟩

end

/-- At the top of its loop the server has the descriptors open that it had before
the first iteration, and a child that handles its client has closed the listening
socket.  A dead child that has not been reaped is noticed: a signal is pending, which is
delivered when no handler runs, or the handler will call `waitpid` again, until it finds no
zombie, and return.  So there are no zombies while the server is idle and no signal is
pending. -/
theorem server_keeps_resources {dumpcore : Option String} {state : State}
    (reachable : (server dumpcore).Reachable state) :
    (state.main = .accepting -> Exists fun before =>
      state.firstIteration = some before ∧ Slots.Same before state.descriptors) ∧
    (forall worker, worker ∈ state.workers -> worker.pc = .handling ->
      worker.descriptors.get state.lfd = none) ∧
    (forall child, child ∈ state.children -> child.zombie = true ->
      Noticed state.pending state.handler) ∧
    (state.handler = none -> state.pending = false ->
      forall child, child ∈ state.children -> child.zombie = false) ∧
    ((forall failure, state.main ≠ .ended failure) ->
      (forall frame, state.handler = some frame -> frame.inLoop = true -> Returns dumpcore state frame) ∧
      (state.handler = none -> forall child, child ∈ state.children -> child.zombie = true ->
        Exists fun next => state.step dumpcore .deliver = some next ∧ next.children = state.children ∧
          Exists fun frame => next.handler = some frame ∧ frame.inLoop = true)) := by
  have holds := invariant reachable
  refine ⟨?_, ?_, holds.noticed, ?_, ?_⟩
  · intro top
    have table := holds.table
    rw [top] at table
    rcases table with ⟨before, first, -, same⟩
    exact ⟨before, first, same⟩
  · intro worker member handling
    exact (holds.separated worker member).2.2 handling
  · intro idle quiet child member
    rw [Bool.eq_false_iff]
    intro zombie
    rcases holds.noticed child member zombie with pending | ⟨frame, running, -⟩
    · rw [quiet] at pending
      cases pending
    · rw [idle] at running
      cases running
  · intro running
    constructor
    · exact fun frame handles inLoop => holds.returns dumpcore running handles inLoop
    · exact fun idle child member zombie => holds.delivers dumpcore running idle member zombie

/-- The server with its standard descriptors open. -/
def started : State where
  main := .installing
  handler := none
  established := false
  pending := false
  errno := .other 0
  descriptors := ⟨[some (.elsewhere 0), some (.elsewhere 1), some (.elsewhere 2)]⟩
  lfd := 0
  accepted := 0
  children := []
  workers := []
  firstIteration := none

/-- Two clients get a child each, one of which dies; the `fork` for a third client
fails. -/
def threeClients : List Action :=
  List.flatten [List.replicate 5 (.main 0), [.main 100, .main 0, .worker 100],
    [.main 0, .main 0, .main 101, .main 0], [.terminate 100 0],
    [.main 0, .main 0, .fail .EAGAIN, .main 0]]

def threeClientsFinal : State := ((server none).exec started threeClients).get (by decide +kernel)

/-- The signal is delivered. -/
def threeClientsCaught : State :=
  ((server none).exec threeClientsFinal [.deliver]).get (by decide +kernel)

/-- After that run the server is at the top of its loop with its listening socket
alone, and the signal for its zombie is pending.  When it is delivered, the steps of the
handler take the zombie away. -/
theorem server_keeps_resources_after_three_clients :
    ((threeClientsFinal.main = .accepting ∧ threeClientsFinal.accepted = 3 ∧
      threeClientsFinal.children = [⟨100, some 0⟩, ⟨101, none⟩]) ∧
      Noticed threeClientsFinal.pending threeClientsFinal.handler) ∧
    (threeClientsCaught.handler = some ⟨.saving, .EAGAIN⟩ ∧
      Returns none threeClientsCaught ⟨.saving, .EAGAIN⟩) ∧
    ((server none).exec threeClientsCaught ([0, 100, 0, 0].map .handler)).map State.children =
      some [⟨101, none⟩] := by
  have executed : (server none).exec started threeClients = some threeClientsFinal :=
    (Option.some_get _).symm
  have initial : (server none).Initial started := ⟨rfl, rfl, rfl, rfl, rfl, rfl, rfl⟩
  have reachable := Machine.reachable_of_exec initial executed
  have kept := server_keeps_resources reachable
  have ended : threeClientsFinal.main = .accepting ∧ threeClientsFinal.accepted = 3 ∧
      threeClientsFinal.children = [⟨100, some 0⟩, ⟨101, none⟩] := by decide +kernel
  have caught : (server none).exec threeClientsFinal [.deliver] = some threeClientsCaught :=
    (Option.some_get _).symm
  have handles : threeClientsCaught.main = .accepting ∧
      threeClientsCaught.handler = some ⟨.saving, .EAGAIN⟩ := by decide +kernel
  have running : forall failure, threeClientsCaught.main ≠ .ended failure := by
    rw [handles.1]
    exact fun failure => MainPc.noConfusion
  refine ⟨⟨ended, kept.2.2.1 ⟨100, some 0⟩ ?_ rfl⟩, ⟨handles.2, ?_⟩, by decide +kernel⟩
  · rw [ended.2.2]
    exact List.mem_cons_self
  · exact ((server_keeps_resources (reachable.exec caught)).2.2.2.2 running).1 _ handles.2 rfl

end IsEchoSv
end SocketDesign
end Tlpi
