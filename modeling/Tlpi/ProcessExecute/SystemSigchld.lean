import Mathlib.Data.List.Nodup
import Tlpi.CLibrary.Children
import Tlpi.Foundations.Transition
import Tlpi.ProcessExecute.System

namespace Tlpi
namespace ProcessExecute
namespace SystemSigchld

open CLibrary Foundations

/-!
# `system` in a caller that reaps its children in a handler

The caller's handler for `SIGCHLD` waits for every child that it finds dead, as
`grimReaper` of `is_echo_sv.c` does.  It would take the status that `system` waits
for if it could run between `fork` and the end of the `waitpid` loop.

The machine takes the steps of `system` one call at a time, with the definitions
of `sigprocmask` and `sigaction` from the sequential model.  Between any two steps
children may terminate, a pending `SIGCHLD` that is not blocked may be delivered,
and a running handler goes on.  With `SA_NODEFER` the handler may even interrupt
itself, so the running handlers form a stack.
-/

/-- The flags of a disposition that matter for `SIGCHLD`, by bit number. -/
def SA_NOCLDWAIT : Nat := 1

def SA_NODEFER : Nat := 30

/-- The positions of `system`, each named after the call that comes next, and
behind the loop with the value of `status`. -/
inductive Pc where
  | blockingChld
  | ignoringInt
  | ignoringQuit
  | forking
  | waiting (childPid : Nat)
  | savingErrno (status : Int)
  | restoringMask (status : Int)
  | restoringInt (status : Int)
  | restoringQuit (status : Int)
  | restoringErrno (status : Int)
  | returned (status : Int)
deriving DecidableEq, Repr

inductive ReaperPc where
  | saving
  | reaping
  | restoring
deriving DecidableEq, Repr

/-- A running handler, with the mask to be restored when it returns. -/
structure Frame where
  pc : ReaperPc
  savedErrno : Errno
  maskBefore : SigSet

/-- The caller: its signal state and children, the local objects of `system`, and
the running handlers, the innermost first.  `own` and `ownStatus` record the child
that `system` has forked and what it terminated with; the program does not hold
them. -/
structure State where
  pc : Pc
  process : ProcessState
  pending : Bool
  frames : List Frame
  children : List Child
  origMask : SigSet
  saOrigInt : SigAction
  saOrigQuit : SigAction
  savedErrno : Errno
  own : Option Nat
  ownStatus : Option Int

/-- A child terminates, `SIGCHLD` is generated for another reason or delivered,
the handler goes on, or `system` goes on.  A fork succeeds with the stated process
ID or fails, and a wait may be interrupted by another signal. -/
inductive Action where
  | terminate (pid : Nat) (status : Int)
  | raise
  | deliver
  | handler (chosen : Nat)
  | call
  | fork (pid : Nat)
  | forkFails (errno : Errno)
  | interrupt
deriving DecidableEq, Repr

/-- The disposition of `SIGCHLD` makes the kernel forget children that terminate. -/
def SigAction.discardsChildren (action : SigAction) : Bool :=
  action.handler = .SIG_IGN || action.flags.testBit SA_NOCLDWAIT

/-- The mask while a handler runs. -/
def SigAction.maskDuring (action : SigAction) (mask : SigSet) : SigSet := fun signal =>
  mask signal || action.mask signal || (signal = .SIGCHLD && !action.flags.testBit SA_NODEFER)

namespace State

def moveTo (state : State) (pc : Pc) : State := { state with pc := pc }

def setErrno (state : State) (errno : Errno) : State :=
  { state with process := { state.process with errno := errno } }

/-- A child terminates: it becomes a zombie or is forgotten, and the parent is
sent `SIGCHLD`. -/
def terminate (state : State) (pid : Nat) (status : Int) : Option State :=
  (terminateChild state.children pid status).map (fun children =>
    { state with
      pending := true
      children :=
        if SigAction.discardsChildren (state.process.disposition .SIGCHLD) then
          children.filter (fun child => child.pid ≠ pid)
        else children
      ownStatus := if state.own = some pid then some status else state.ownStatus })

def deliver (state : State) : Option State :=
  if state.pending ∧ state.process.mask .SIGCHLD = false then
    let action := state.process.disposition .SIGCHLD
    some
      { state with
        pending := false
        frames := ⟨.saving, state.process.errno, state.process.mask⟩ :: state.frames
        process := { state.process with
          mask := SigAction.maskDuring action state.process.mask } }
  else none

def handlerStep (state : State) (chosen : Nat) : Option State :=
  match state.frames with
  | [] => none
  | frame :: outer =>
      match frame.pc with
      | .saving =>
          let saved : Frame := { frame with pc := .reaping, savedErrno := state.process.errno }
          some { state with frames := saved :: outer }
      | .reaping =>
          match waitpidAny state.children chosen with
          | none => none
          | some (.ok (some _), children) => some { state with children := children }
          | some (.ok none, _) => some { state with frames := { frame with pc := .restoring } :: outer }
          | some (.error errno, _) =>
              some ({ state with frames := { frame with pc := .restoring } :: outer }.setErrno errno)
      | .restoring =>
          some { state with
            frames := outer
            process := { state.process with mask := frame.maskBefore, errno := frame.savedErrno } }

/-- The disposition that `system` gives to `SIGINT` and `SIGQUIT`. -/
def saIgnore : SigAction := ⟨.SIG_IGN, 0, sigemptyset⟩

/-- The next call of `system`.  `waitpid` blocks while the child is running. -/
def callStep (kernel : Kernel) (state : State) : Option State :=
  match state.pc with
  | .blockingChld =>
      let (origMask, process) :=
        sigprocmask kernel .SIG_BLOCK (sigaddset sigemptyset .SIGCHLD) state.process
      some ({ state with origMask := origMask, process := process }.moveTo .ignoringInt)
  | .ignoringInt =>
      let (saOrigInt, process) := sigaction kernel .SIGINT saIgnore state.process
      some ({ state with saOrigInt := saOrigInt, process := process }.moveTo .ignoringQuit)
  | .ignoringQuit =>
      let (saOrigQuit, process) := sigaction kernel .SIGQUIT saIgnore state.process
      some ({ state with saOrigQuit := saOrigQuit, process := process }.moveTo .forking)
  | .forking => none
  | .waiting childPid =>
      match waitpid state.children childPid with
      | none => none
      | some (.ok status, children) =>
          some ({ state with children := children }.moveTo (.savingErrno status))
      | some (.error errno, _) =>
          if errno ≠ .EINTR then some ((state.setErrno errno).moveTo (.savingErrno (-1)))
          else some (state.setErrno errno)
  | .savingErrno status =>
      some ({ state with savedErrno := state.process.errno }.moveTo (.restoringMask status))
  | .restoringMask status =>
      let (_, process) := sigprocmask kernel .SIG_SETMASK state.origMask state.process
      some ({ state with process := process }.moveTo (.restoringInt status))
  | .restoringInt status =>
      let (_, process) := sigaction kernel .SIGINT state.saOrigInt state.process
      some ({ state with process := process }.moveTo (.restoringQuit status))
  | .restoringQuit status =>
      let (_, process) := sigaction kernel .SIGQUIT state.saOrigInt state.process
      some ({ state with process := process }.moveTo (.restoringErrno status))
  | .restoringErrno status => some ((state.setErrno state.savedErrno).moveTo (.returned status))
  | .returned _ => none

/-- `fork` succeeds with a process ID that is not in use. -/
def fork (state : State) (pid : Nat) : Option State :=
  if state.pc = .forking ∧ state.children.any (fun child => child.pid = pid) = false then
    some ({ state with
      children := state.children ++ [Child.mk pid none]
      own := some pid }.moveTo (.waiting pid))
  else none

def forkFails (state : State) (errno : Errno) : Option State :=
  if state.pc = .forking then some ((state.setErrno errno).moveTo (.savingErrno (-1))) else none

/-- `waitpid` is interrupted by another signal and tried again. -/
def interrupt (state : State) : Option State :=
  match state.pc with
  | .waiting _ => some (state.setErrno .EINTR)
  | _ => none

/-- One step.  `system` waits while a handler runs. -/
def step (kernel : Kernel) (state : State) : Action -> Option State
  | .terminate pid status => state.terminate pid status
  | .raise => some { state with pending := true }
  | .deliver => state.deliver
  | .handler chosen => state.handlerStep chosen
  | .call => if state.frames.isEmpty then state.callStep kernel else none
  | .fork pid => if state.frames.isEmpty then state.fork pid else none
  | .forkFails errno => if state.frames.isEmpty then state.forkFails errno else none
  | .interrupt => if state.frames.isEmpty then state.interrupt else none

end State

/-- A call of `system` in a process with any children, any signal mask, and a
handler for `SIGCHLD`. -/
def caller (kernel : Kernel) : Machine State Action where
  Initial := fun state => state.pc = .blockingChld ∧ state.frames = [] ∧
    (state.children.map Child.pid).Nodup ∧
    (Exists fun address => (state.process.disposition .SIGCHLD).handler = .function address) ∧
    (state.process.disposition .SIGCHLD).flags.testBit SA_NOCLDWAIT = false ∧
    state.own = none ∧ state.ownStatus = none
  step := State.step kernel

/-! ## What holds throughout -/

namespace Pc

/-- `SIGCHLD` has been blocked and the mask has not yet been restored. -/
def shielded : Pc -> Bool
  | .ignoringInt | .ignoringQuit | .forking | .waiting _ | .savingErrno _ | .restoringMask _ => true
  | _ => false

/-- The call has not yet come to its `fork`. -/
def beforeFork : Pc -> Bool
  | .blockingChld | .ignoringInt | .ignoringQuit | .forking => true
  | _ => false

/-- The value of `status`, once it is determined. -/
def status : Pc -> Option Int
  | .savingErrno status | .restoringMask status | .restoringInt status | .restoringQuit status
  | .restoringErrno status | .returned status => some status
  | _ => none

theorem beforeFork_of_status {pc : Pc} {status : Int} (decided : pc.status = some status) :
    pc.beforeFork = false := by
  cases pc <;> first | rfl | cases decided

end Pc

structure Invariant (state : State) : Prop where
  shielded : state.pc.shielded = true ->
    state.frames = [] ∧ state.process.mask .SIGCHLD = true
  keeps : SigAction.discardsChildren (state.process.disposition .SIGCHLD) = false
  distinct : (state.children.map Child.pid).Nodup
  unforked : state.pc.beforeFork = true -> state.own = none ∧ state.ownStatus = none
  waiting : forall childPid, state.pc = .waiting childPid ->
    state.own = some childPid ∧ Child.mk childPid state.ownStatus ∈ state.children
  determined : forall status pid, state.pc.status = some status -> state.own = some pid ->
    state.ownStatus = some status ∧ pid ∉ state.children.map Child.pid

theorem terminate_preserves {state next : State} {pid : Nat} {status : Int}
    (holds : Invariant state) (stepped : state.terminate pid status = some next) :
    Invariant next := by
  rcases Option.map_eq_some_iff.mp stepped with ⟨children, terminated, rfl⟩
  have pids := map_pid_terminateChild terminated
  simp only [holds.keeps]
  refine
    { shielded := holds.shielded
      keeps := holds.keeps
      distinct := ?_
      unforked := ?_
      waiting := ?_
      determined := ?_ }
  · simpa [pids] using holds.distinct
  · intro before
    have unforked := holds.unforked before
    simpa [unforked.1] using unforked.2
  · intro childPid position
    rcases holds.waiting childPid position with ⟨own, member⟩
    refine ⟨own, ?_⟩
    have after := mem_terminateChild terminated member
    by_cases same : childPid = pid
    · subst same
      simpa [own] using after
    · simpa [own, same] using after
  · intro result other decided own
    rcases holds.determined result other decided own with ⟨ended, gone⟩
    have different : other ≠ pid := by
      intro same
      rw [same] at gone
      exact gone (pid_mem_of_terminateChild terminated)
    have own' : state.own = some other := own
    refine ⟨?_, ?_⟩
    · simpa [own', different] using ended
    · simpa [pids] using gone

theorem deliver_preserves {state next : State} (holds : Invariant state)
    (stepped : state.deliver = some next) : Invariant next := by
  unfold State.deliver at stepped
  split at stepped
  · rename_i deliverable
    cases stepped
    refine { holds with shielded := ?_ }
    intro shielded
    have masked := (holds.shielded shielded).2
    rw [deliverable.2] at masked
    cases masked
  · cases stepped

/-- While a handler runs, `system` is not where it needs its child. -/
theorem Invariant.not_shielded {state : State} {frame : Frame} {outer : List Frame}
    (holds : Invariant state) (running : state.frames = frame :: outer) :
    state.pc.shielded = false := by
  cases shielded : state.pc.shielded with
  | false => rfl
  | true =>
      rw [(holds.shielded shielded).1] at running
      cases running

/-- A handler may reap any children while `system` is not where it needs its own. -/
theorem Invariant.reaping {state next : State} (holds : Invariant state)
    (open_ : state.pc.shielded = false) (pc : next.pc = state.pc)
    (disposition : next.process.disposition = state.process.disposition)
    (children : next.children.Sublist state.children) (own : next.own = state.own)
    (ownStatus : next.ownStatus = state.ownStatus) : Invariant next where
  shielded := by
    rw [pc, open_]
    intro impossible
    cases impossible
  keeps := by
    rw [disposition]
    exact holds.keeps
  distinct := (children.map Child.pid).nodup holds.distinct
  unforked := by
    rw [pc, own, ownStatus]
    exact holds.unforked
  waiting := by
    intro childPid position
    rw [← pc, position] at open_
    cases open_
  determined := by
    intro status pid decided forked
    rw [pc] at decided
    rw [own] at forked
    rw [ownStatus]
    rcases holds.determined status pid decided forked with ⟨ended, gone⟩
    exact ⟨ended, fun member => gone ((children.map Child.pid).subset member)⟩

theorem handler_preserves {state next : State} {chosen : Nat} (holds : Invariant state)
    (stepped : state.handlerStep chosen = some next) : Invariant next := by
  unfold State.handlerStep at stepped
  split at stepped
  · cases stepped
  · rename_i frame outer running
    have open_ := holds.not_shielded running
    split at stepped
    · cases stepped
      exact holds.reaping open_ rfl rfl (List.Sublist.refl _) rfl rfl
    · split at stepped
      · cases stepped
      · rename_i taken children waited
        cases stepped
        rcases waitpidAny_eq_some waited with ⟨impossible, -⟩ | ⟨impossible, -⟩ | ⟨status, -, reaped⟩
        · cases impossible
        · cases impossible
        · exact holds.reaping open_ rfl rfl (reap_sublist reaped) rfl rfl
      · cases stepped
        exact holds.reaping open_ rfl rfl (List.Sublist.refl _) rfl rfl
      · cases stepped
        exact holds.reaping open_ rfl rfl (List.Sublist.refl _) rfl rfl
    · cases stepped
      exact holds.reaping open_ rfl rfl (List.Sublist.refl _) rfl rfl

theorem Invariant.prepare {state next : State} (holds : Invariant state)
    (before : state.pc.beforeFork = true) (after : next.pc.beforeFork = true)
    (children : next.children = state.children) (own : next.own = state.own)
    (ownStatus : next.ownStatus = state.ownStatus)
    (disposition : next.process.disposition .SIGCHLD = state.process.disposition .SIGCHLD)
    (shielded : next.frames = [] ∧ next.process.mask .SIGCHLD = true) : Invariant next where
  shielded _ := shielded
  keeps := by
    rw [disposition]
    exact holds.keeps
  distinct := by
    rw [children]
    exact holds.distinct
  unforked _ := ⟨own.trans (holds.unforked before).1, ownStatus.trans (holds.unforked before).2⟩
  waiting := by
    intro childPid position
    rw [position] at after
    cases after
  determined := by
    intro status pid _ forked
    rw [own, (holds.unforked before).1] at forked
    cases forked

/-- A step of `system` with its `status` determined. -/
theorem Invariant.carry {state next : State} {status : Int} (holds : Invariant state)
    (before : state.pc.status = some status ∨ state.own = none)
    (after : next.pc.status = some status)
    (children : next.children = state.children) (own : next.own = state.own)
    (ownStatus : next.ownStatus = state.ownStatus)
    (disposition : next.process.disposition .SIGCHLD = state.process.disposition .SIGCHLD)
    (shielded : next.pc.shielded = true -> next.frames = [] ∧ next.process.mask .SIGCHLD = true) :
    Invariant next where
  shielded := shielded
  keeps := by
    rw [disposition]
    exact holds.keeps
  distinct := by
    rw [children]
    exact holds.distinct
  unforked := by
    rw [Pc.beforeFork_of_status after]
    intro impossible
    cases impossible
  waiting := by
    intro childPid position
    rw [position] at after
    cases after
  determined := by
    intro result pid decided forked
    cases after.symm.trans decided
    rw [own] at forked
    rw [ownStatus, children]
    rcases before with known | never
    · exact holds.determined status pid known forked
    · rw [never] at forked
      cases forked

/-- `waitpid` for the child that `system` has forked returns its status. -/
theorem Invariant.waitpid_own {state : State} {childPid : Nat} (holds : Invariant state)
    (position : state.pc = .waiting childPid) :
    waitpid state.children childPid =
      (reap childPid state.children).map (fun (status, rest) => (.ok status, rest)) :=
  waitpid_of_mem (holds.waiting childPid position).2 rfl

theorem waiting_preserves {state next : State} {kernel : Kernel} {childPid : Nat}
    (holds : Invariant state) (position : state.pc = .waiting childPid)
    (stepped : state.callStep kernel = some next) : Invariant next := by
  simp only [State.callStep, position, holds.waitpid_own position] at stepped
  rcases holds.waiting childPid position with ⟨own, member⟩
  cases reaped : reap childPid state.children with
  | none =>
      rw [reaped] at stepped
      cases stepped
  | some taken =>
      rcases taken with ⟨status, rest⟩
      rw [reaped] at stepped
      cases stepped
      have sublist := reap_sublist reaped
      rcases reap_unique holds.distinct reaped with ⟨unique, gone⟩
      refine
        { shielded := fun _ => holds.shielded (by rw [position]; rfl)
          keeps := holds.keeps
          distinct := (sublist.map Child.pid).nodup holds.distinct
          unforked := fun impossible => by cases impossible
          waiting := fun _ impossible => by cases impossible
          determined := ?_ }
      intro result pid decided forked
      cases decided
      cases own.symm.trans forked
      exact ⟨unique _ member, gone⟩

theorem call_preserves {state next : State} {kernel : Kernel} (holds : Invariant state)
    (idle : state.frames = []) (stepped : state.callStep kernel = some next) : Invariant next := by
  have shielded := holds.shielded
  cases position : state.pc <;> rw [position] at shielded
  case waiting childPid => exact waiting_preserves holds position stepped
  all_goals simp only [State.callStep, position] at stepped; cases stepped
  case blockingChld =>
      have masked : (sigprocmask kernel .SIG_BLOCK (sigaddset sigemptyset .SIGCHLD)
          state.process).2.mask .SIGCHLD = true := by
        simp [sigprocmask, sigaddset]
      exact holds.prepare (by rw [position]; rfl) rfl rfl rfl rfl rfl ⟨idle, masked⟩
  case ignoringInt =>
      exact holds.prepare (by rw [position]; rfl) rfl rfl rfl rfl rfl (shielded rfl)
  case ignoringQuit =>
      exact holds.prepare (by rw [position]; rfl) rfl rfl rfl rfl rfl (shielded rfl)
  case savingErrno status =>
      exact holds.carry (.inl (by rw [position]; rfl)) rfl rfl rfl rfl rfl (fun _ => shielded rfl)
  case restoringMask status =>
      exact holds.carry (.inl (by rw [position]; rfl)) rfl rfl rfl rfl rfl
        (fun impossible => by cases impossible)
  case restoringInt status =>
      exact holds.carry (.inl (by rw [position]; rfl)) rfl rfl rfl rfl rfl
        (fun impossible => by cases impossible)
  case restoringQuit status =>
      exact holds.carry (.inl (by rw [position]; rfl)) rfl rfl rfl rfl rfl
        (fun impossible => by cases impossible)
  case restoringErrno status =>
      exact holds.carry (.inl (by rw [position]; rfl)) rfl rfl rfl rfl rfl
        (fun impossible => by cases impossible)

theorem fork_preserves {state next : State} {pid : Nat} (holds : Invariant state)
    (stepped : state.fork pid = some next) : Invariant next := by
  unfold State.fork at stepped
  split at stepped
  · rename_i accepted
    rcases accepted with ⟨position, unused⟩
    cases stepped
    have fresh : pid ∉ state.children.map Child.pid := by
      intro member
      rcases List.mem_map.mp member with ⟨child, found, same⟩
      rw [List.any_eq_false] at unused
      exact unused child found (by simpa using same)
    refine
      { shielded := fun _ => holds.shielded (by rw [position]; rfl)
        keeps := holds.keeps
        distinct := ?_
        unforked := fun impossible => by cases impossible
        waiting := ?_
        determined := fun _ _ impossible => by cases impossible }
    · simp only [State.moveTo, List.map_append, List.map_singleton]
      apply holds.distinct.append (List.nodup_singleton _)
      rw [List.disjoint_singleton]
      exact fresh
    · intro childPid same
      cases same
      have none := (holds.unforked (by rw [position]; rfl)).2
      refine ⟨rfl, ?_⟩
      simp [State.moveTo, none]
  · cases stepped

theorem forkFails_preserves {state next : State} {errno : Errno} (holds : Invariant state)
    (stepped : state.forkFails errno = some next) : Invariant next := by
  unfold State.forkFails at stepped
  split at stepped
  · rename_i position
    cases stepped
    have unforked := (holds.unforked (by rw [position]; rfl)).1
    exact holds.carry (.inr unforked) rfl rfl rfl rfl rfl
      (fun _ => holds.shielded (by rw [position]; rfl))
  · cases stepped

theorem interrupt_preserves {state next : State} (holds : Invariant state)
    (stepped : state.interrupt = some next) : Invariant next := by
  unfold State.interrupt at stepped
  split at stepped
  · cases stepped
    exact { holds with }
  · cases stepped

theorem reachable_invariant {kernel : Kernel} {state : State}
    (reachable : (caller kernel).Reachable state) : Invariant state := by
  refine Machine.Reachable.invariant ?_ ?_ reachable
  · rintro state ⟨position, -, distinct, ⟨address, handled⟩, waits, own, ownStatus⟩
    refine
      { shielded := ?_
        keeps := ?_
        distinct := distinct
        unforked := fun _ => ⟨own, ownStatus⟩
        waiting := ?_
        determined := ?_ }
    · rw [position]
      intro impossible
      cases impossible
    · simp [SigAction.discardsChildren, handled, waits]
    · rw [position]
      intro _ impossible
      cases impossible
    · rw [position]
      intro _ _ impossible
      cases impossible
  · intro state action next holds stepped
    cases action <;> simp only [caller, State.step] at stepped
    case terminate pid status => exact terminate_preserves holds stepped
    case raise =>
        cases stepped
        exact { holds with }
    case deliver => exact deliver_preserves holds stepped
    case handler chosen => exact handler_preserves holds stepped
    all_goals
      split at stepped
      · rename_i idle
        first
          | exact call_preserves holds (List.isEmpty_iff.mp idle) stepped
          | exact fork_preserves holds stepped
          | exact forkFails_preserves holds stepped
          | exact interrupt_preserves holds stepped
      · cases stepped

/-- With its child dead, `system` has six calls to make. -/
def finishing : List Action := List.replicate 6 .call

/-- From the `waitpid` loop on, with the child dead and no handler called, the
rest of the call is the exit path of the sequential model. -/
theorem exec_finishing {kernel : Kernel} {state : State} {childPid : Nat} {status : Int}
    {rest : List Child} (idle : state.frames = []) (position : state.pc = .waiting childPid)
    (waited : waitpid state.children childPid = some (.ok status, rest)) :
    Exists fun final => (caller kernel).exec state finishing = some final ∧
      final.pc = .returned status ∧
      restoreAndReturn kernel state.origMask state.saOrigInt status state.process =
        .returned status final.process := by
  simp only [finishing, List.replicate, Machine.exec, caller, State.step, idle, State.callStep,
    position, waited, State.moveTo, State.setErrno, List.isEmpty_nil, if_true, Option.bind_some]
  exact ⟨_, rfl, rfl, rfl⟩

/-- Interruptions of `waitpid` are what the sequential model makes of them. -/
theorem exec_interrupts {kernel : Kernel} (interruptions : Nat) {state : State} {childPid : Nat}
    (status : Int) (idle : state.frames = []) (position : state.pc = .waiting childPid) :
    Exists fun process =>
      (caller kernel).exec state (List.replicate interruptions .interrupt) =
        some { state with process := process } ∧
      waitChild (List.replicate interruptions (.failed .EINTR) ++ [.reaped status]) state.process =
        some (status, process) := by
  induction interruptions generalizing state with
  | zero => exact ⟨state.process, rfl, rfl⟩
  | succ interruptions inductionHypothesis =>
      have stepped : (caller kernel).step state .interrupt = some (state.setErrno .EINTR) := by
        simp [caller, State.step, State.interrupt, idle, position]
      rcases inductionHypothesis (show (state.setErrno .EINTR).frames = [] from idle)
        (show (state.setErrno .EINTR).pc = .waiting childPid from position)
        with ⟨process, executed, waited⟩
      refine ⟨process, ?_, ?_⟩
      · simp only [List.replicate_succ, Machine.exec, stepped, Option.bind_some]
        exact executed
      · simp only [List.replicate_succ, List.cons_append, waitChild, ne_eq, not_true, if_false]
        exact waited

/-- Once the child has terminated, the call returns its status. -/
theorem Invariant.returns (kernel : Kernel) {state : State} {childPid : Nat} {status : Int}
    (holds : Invariant state) (position : state.pc = .waiting childPid)
    (terminated : state.ownStatus = some status) :
    Exists fun final => (caller kernel).exec state finishing = some final ∧
      final.pc = .returned status ∧
      restoreAndReturn kernel state.origMask state.saOrigInt status state.process =
        .returned status final.process := by
  have member := (holds.waiting childPid position).2
  rw [terminated] at member
  rcases reap_isSome holds.distinct member with ⟨rest, reaped⟩
  have waited : waitpid state.children childPid = some (.ok status, rest) := by
    rw [holds.waitpid_own position, reaped]
    rfl
  exact exec_finishing (holds.shielded (by rw [position]; rfl)).1 position waited

/-- The calls up to a successful `fork`, in front of which no handler runs. -/
theorem exec_forking (kernel : Kernel) {state : State} {pid : Nat}
    (position : state.pc = .blockingChld) (idle : state.frames = [])
    (unused : state.children.any (fun child => child.pid = pid) = false) :
    Exists fun next => (caller kernel).exec state [.call, .call, .call, .fork pid] = some next ∧
      next.pc = .waiting pid ∧ next.frames = [] ∧ next.own = some pid ∧
      next.children = state.children ++ [⟨pid, none⟩] ∧
      forall command waits, runCommand kernel command (.parent pid waits) state.process =
        match waitChild waits next.process with
        | none => .waiting next.process
        | some (status, process) =>
            restoreAndReturn kernel next.origMask next.saOrigInt status process := by
  simp only [Machine.exec, caller, State.step, State.callStep, State.fork, State.moveTo, position,
    idle, unused, List.isEmpty_nil, if_true, Option.bind_some, and_self]
  exact ⟨_, rfl, rfl, rfl, rfl, rfl, fun _ _ => rfl⟩

/-- A call during which no handler runs, with its `waitpid` interrupted any number
of times, leaves the process as the sequential model says. -/
theorem exec_eq_runCommand (kernel : Kernel) (command : String) {state : State} {pid : Nat}
    (initial : (caller kernel).Initial state)
    (unused : state.children.any (fun child => child.pid = pid) = false)
    (interruptions : Nat) (status : Int) :
    Exists fun final =>
      (caller kernel).exec state ([.call, .call, .call, .fork pid] ++
        (List.replicate interruptions .interrupt ++ ([.terminate pid status] ++ finishing))) =
          some final ∧
      final.pc = .returned status ∧
      runCommand kernel command
        (.parent pid (List.replicate interruptions (.failed .EINTR) ++ [.reaped status])) state.process =
          .returned status final.process := by
  rcases exec_forking kernel initial.1 initial.2.1 unused
    with ⟨forked, executed, position, idle, own, children, sequential⟩
  rcases exec_interrupts interruptions status idle position with ⟨process, interrupted, waited⟩
  -- The child is in the list of children and running, so it can terminate.
  have running : terminateChild forked.children pid status =
      some (forked.children.map
        (fun child => if child.pid = pid then ⟨pid, some status⟩ else child)) := by
    unfold terminateChild
    rw [if_pos]
    rw [children, List.any_append, Bool.or_eq_true]
    exact .inr (by simp [Child.zombie])
  have terminated : Exists fun next =>
      (caller kernel).exec { forked with process := process } [.terminate pid status] = some next ∧
        next.pc = .waiting pid ∧ next.ownStatus = some status ∧ next.process = process ∧
        next.origMask = forked.origMask ∧ next.saOrigInt = forked.saOrigInt := by
    simp only [Machine.exec, caller, State.step, State.terminate, running, Option.map_some,
      Option.bind_some, own, if_true]
    exact ⟨_, rfl, position, rfl, rfl, rfl, rfl⟩
  rcases terminated with ⟨next, killed, waiting, dead, sameProcess, sameMask, sameInt⟩
  have beginning : (caller kernel).exec state ([.call, .call, .call, .fork pid] ++
      (List.replicate interruptions .interrupt ++ [.terminate pid status])) = some next := by
    rw [Machine.exec_append, executed, Option.bind_some, Machine.exec_append, interrupted,
      Option.bind_some, killed]
  have holds := reachable_invariant (Machine.reachable_of_exec initial beginning)
  rcases holds.returns kernel waiting dead with ⟨final, finished, returned, exited⟩
  refine ⟨final, ?_, returned, ?_⟩
  · rw [Machine.exec_append, executed, Option.bind_some, Machine.exec_append, interrupted,
      Option.bind_some, Machine.exec_append, killed, Option.bind_some, finished]
  · rw [sequential, waited]
    rw [sameMask, sameInt, sameProcess] at exited
    exact exited

/-- Whatever children terminate and whenever the caller's handler runs, a call of
`system` that has forked returns the wait status of its own child.  Once the child
has terminated, nothing keeps the call from returning. -/
theorem system_returns_own_status (kernel : Kernel) {state : State}
    (reachable : (caller kernel).Reachable state) :
    (forall status pid, state.pc = .returned status -> state.own = some pid ->
      state.ownStatus = some status) ∧
    (forall childPid status, state.pc = .waiting childPid -> state.ownStatus = some status ->
      Exists fun final => (caller kernel).exec state finishing = some final ∧
        final.pc = .returned status) := by
  have holds := reachable_invariant reachable
  refine ⟨?_, ?_⟩
  · intro status pid position forked
    exact (holds.determined status pid (by rw [position]; rfl) forked).1
  · intro childPid status position terminated
    rcases holds.returns kernel position terminated with ⟨final, executed, returned, -⟩
    exact ⟨final, executed, returned⟩

/-- A kernel whose successful calls leave `errno` alone, and a caller with one
child of its own and a handler for `SIGCHLD`. -/
def quietKernel : Kernel := ⟨id⟩

def callerState : State where
  pc := .blockingChld
  process :=
    { mask := sigemptyset
      disposition := fun signal =>
        if signal = .SIGCHLD then ⟨.function 1, 0, sigemptyset⟩ else ⟨.SIG_DFL, 0, sigemptyset⟩
      errno := .other 0 }
  pending := false
  frames := []
  children := [⟨20, none⟩]
  origMask := sigemptyset
  saOrigInt := ⟨.SIG_DFL, 0, sigemptyset⟩
  saOrigQuit := ⟨.SIG_DFL, 0, sigemptyset⟩
  savedErrno := .other 0
  own := none
  ownStatus := none

/-- The handler reaps the other child before `SIGCHLD` is blocked, and is called
again as soon as the mask is restored. -/
def busyCall : List Action :=
  [.terminate 20 0, .deliver, .handler 0, .handler 20, .handler 0, .handler 0, .call, .call, .call,
    .fork 21, .interrupt, .terminate 21 256, .call, .call, .call, .deliver, .handler 0, .handler 0,
    .handler 0, .call, .call, .call]

def busyCallState : State :=
  ((caller quietKernel).exec callerState busyCall).get (by decide +kernel)

theorem system_returns_own_status_busy_call :
    busyCallState.pc = .returned 256 ∧ busyCallState.ownStatus = some 256 := by
  have initial : (caller quietKernel).Initial callerState :=
    ⟨rfl, rfl, by decide, ⟨1, rfl⟩, by decide, rfl, rfl⟩
  have executed : (caller quietKernel).exec callerState busyCall = some busyCallState :=
    (Option.some_get _).symm
  have reachable : (caller quietKernel).Reachable busyCallState :=
    Machine.reachable_of_exec initial executed
  have position : busyCallState.pc = .returned 256 := by decide +kernel
  have own : busyCallState.own = some 21 := by decide +kernel
  exact ⟨position, (system_returns_own_status quietKernel reachable).1 256 21 position own⟩

end SystemSigchld
end ProcessExecute
end Tlpi
