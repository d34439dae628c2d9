import Tlpi.CLibrary.Children
import Tlpi.Foundations.Transition
import Tlpi.Lib.ErrorFunctions

namespace Tlpi
namespace ProcessWatch
namespace MultiSigchld

open CLibrary Foundations Lib

/-!
# Reaping children in a handler for `SIGCHLD`

The parent blocks `SIGCHLD`, creates one child for each of its arguments, and waits
in `sigsuspend` until its counter says that all of them have been reaped.  The
handler reaps every child that it finds dead.  `SIGCHLD` is not queued: any number
of children may terminate while one signal is pending or while the handler runs.

The machine takes one step per call or access to `numLiveChildren`.  Children
terminate at any time and with any status.  `SIGCHLD` may also be generated for
another reason, such as a child that is stopped.  The handler is a frame of its
own that runs with `SIGCHLD` blocked and holds the main program up.
-/

/-- The positions of `main`, each named after what it does next.  In `sigsuspend`
the position keeps whether `SIGCHLD` was blocked before. -/
inductive MainPc where
  | installing
  | blocking
  | forking (j : Nat)
  | testing
  | suspending
  | suspended (blockedBefore : Bool)
  | counting
  | leftLoop
  | ended (failure : Option Failure)
deriving DecidableEq, Repr

inductive HandlerPc where
  | saving
  | waiting
  | decrementing
  | sleeping
  | restoring
deriving DecidableEq, Repr

/-- A running handler, with the mask to be restored when it returns. -/
structure Frame where
  pc : HandlerPc
  savedErrno : Errno
  blockedBefore : Bool
deriving DecidableEq, Repr

/-- The parent and its children.  `forked` counts the successful calls of `fork`,
and `reaped` has what the handler has printed about the children it reaped. -/
structure State where
  main : MainPc
  handler : Option Frame
  established : Bool
  blocked : Bool
  pending : Bool
  errno : Errno
  children : List Child
  numLiveChildren : Int
  sigCnt : Int
  forked : Nat
  reaped : List (Nat × Int)
deriving DecidableEq, Repr

/-- A child terminates, `SIGCHLD` is generated for another reason or delivered,
the main program or the handler goes on, or a call fails.  A fork gives the child
the stated process ID, and a wait takes the stated zombie. -/
inductive Action where
  | terminate (pid : Nat) (status : Int)
  | raise
  | deliver
  | main (pid : Nat)
  | handler (chosen : Nat)
  | fail (errno : Errno)
deriving DecidableEq, Repr

namespace State

/-- `SIGCHLD` is generated.  Before the handler is established, a signal that is
not blocked is discarded. -/
def generate (state : State) : State :=
  if state.established || state.blocked then { state with pending := true } else state

def terminate (state : State) (pid : Nat) (status : Int) : Option State :=
  (terminateChild state.children pid status).map (fun children =>
    { state with children := children }.generate)

/-- The handler is called, with `SIGCHLD` blocked while it runs. -/
def deliver (state : State) : Option State :=
  if state.pending ∧ state.established ∧ state.blocked = false then
    let blockedBefore :=
      match state.main with
      | .suspended blockedBefore => blockedBefore
      | _ => false
    some
      { state with
        pending := false
        blocked := true
        handler := some ⟨.saving, state.errno, blockedBefore⟩ }
  else none

def moveTo (state : State) (main : MainPc) : State := { state with main := main }

def addChild (state : State) (pid : Nat) : State :=
  { state with children := state.children ++ [⟨pid, none⟩], forked := state.forked + 1 }

def mainStep (numChildren : Nat) (state : State) (pid : Nat) : Option State :=
  match state.main with
  | .installing => some ({ state with established := true }.moveTo .blocking)
  | .blocking => some ({ state with blocked := true }.moveTo (.forking 0))
  | .forking j =>
      if j < numChildren then
        if state.children.any (fun child => child.pid = pid) then none
        else some ((state.addChild pid).moveTo (.forking (j + 1)))
      else some (state.moveTo .testing)
  | .testing => some (state.moveTo (if state.numLiveChildren > 0 then .suspending else .leftLoop))
  | .suspending => some ({ state with blocked := false }.moveTo (.suspended state.blocked))
  | .suspended _ => none
  | .counting => some ({ state with sigCnt := state.sigCnt + 1 }.moveTo .testing)
  | .leftLoop => some (state.moveTo (.ended none))
  | .ended _ => none

/-- The handler has returned.  A `sigsuspend` that it interrupted returns too. -/
def resume (state : State) : State :=
  match state.main with
  | .suspended _ => { state with errno := .EINTR }.moveTo .counting
  | _ => state

def handlerStep (state : State) (frame : Frame) (chosen : Nat) : Option State :=
  let goOn (state : State) (pc : HandlerPc) := { state with handler := some { frame with pc := pc } }
  match frame.pc with
  | .saving =>
      some { state with handler := some { frame with pc := .waiting, savedErrno := state.errno } }
  | .waiting =>
      match waitpidAny state.children chosen with
      | none => none
      | some (.ok (some (childPid, status)), children) =>
          some (goOn { state with
            children := children
            reaped := state.reaped ++ [(childPid, status)] } .decrementing)
      | some (.ok none, _) => some (goOn state .sleeping)
      | some (.error errno, _) => some (goOn { state with errno := errno } .sleeping)
  | .decrementing =>
      some (goOn { state with numLiveChildren := state.numLiveChildren - 1 } .waiting)
  | .sleeping => some (goOn state .restoring)
  | .restoring =>
      some { state with
        handler := none
        errno := frame.savedErrno
        blocked := frame.blockedBefore }.resume

/-- A call of the main program fails, which ends the process. -/
def fail (dumpcore : Option String) (numChildren : Nat) (state : State) (errno : Errno) :
    Option State :=
  let ending (call : String) := some (state.moveTo (.ended (some (errExit dumpcore errno call))))
  match state.main with
  | .installing => ending "sigaction"
  | .blocking => ending "sigprocmask"
  | .forking j => if j < numChildren then ending "fork" else none
  | .suspending => if errno = .EINTR then none else ending "sigsuspend"
  | _ => none

/-- One step.  The main program waits while the handler runs, and a process that
has ended takes no step. -/
def step (dumpcore : Option String) (numChildren : Nat) (state : State) (action : Action) :
    Option State :=
  match state.main, action with
  | .ended _, _ => none
  | _, .terminate pid status => state.terminate pid status
  | _, .raise => some state.generate
  | _, .deliver => state.deliver
  | _, .main pid =>
      match state.handler with
      | none => state.mainStep numChildren pid
      | some _ => none
  | _, .handler chosen =>
      match state.handler with
      | none => none
      | some frame => state.handlerStep frame chosen
  | _, .fail errno =>
      match state.handler with
      | none => state.fail dumpcore numChildren errno
      | some _ => none

end State

/-- The program with a given number of arguments, before its call of `sigaction`.
It has no children yet. -/
def process (dumpcore : Option String) (numChildren : Nat) : Machine State Action where
  Initial := fun state => state.main = .installing ∧ state.handler = none ∧
    state.established = false ∧ state.pending = false ∧ state.children = [] ∧
    state.numLiveChildren = numChildren ∧ state.sigCnt = 0 ∧ state.forked = 0 ∧ state.reaped = []
  step := State.step dumpcore numChildren

/-! ## What holds throughout -/

namespace MainPc

/-- The process has come to its end. -/
def atEnd : MainPc -> Bool
  | .ended _ => true
  | _ => false

theorem atEnd_eq_false {main : MainPc} (running : forall failure, main ≠ .ended failure) :
    main.atEnd = false := by
  cases main with
  | ended failure => exact absurd rfl (running failure)
  | _ => rfl

/-- The number of children forked, as far as the position tells. -/
def forkedSoFar (numChildren : Nat) : MainPc -> Option Nat
  | .installing | .blocking => some 0
  | .forking j => some j
  | .testing | .suspending | .suspended _ | .counting | .leftLoop => some numChildren
  | .ended _ => none

/-- The main program has blocked `SIGCHLD` and is not in `sigsuspend`. -/
def blocks : MainPc -> Bool
  | .forking _ | .testing | .suspending | .counting | .leftLoop => true
  | _ => false

end MainPc

namespace HandlerPc

/-- The handler has still to find that no child is dead. -/
def inLoop : HandlerPc -> Bool
  | .saving | .waiting | .decrementing => true
  | .sleeping | .restoring => false

end HandlerPc

namespace State

/-- Children that the handler has reaped and not yet subtracted. -/
def owed (state : State) : Nat :=
  match state.handler with
  | some ⟨.decrementing, _, _⟩ => 1
  | _ => 0

/-- The handler runs and has still to find that no child is dead. -/
def handlerInLoop (state : State) : Prop :=
  Exists fun frame => state.handler = some frame ∧ frame.pc.inLoop = true

end State

structure Invariant (numChildren : Nat) (state : State) : Prop where
  live : state.numLiveChildren =
    (numChildren : Int) - state.forked + state.children.length + state.owed
  accounted : state.forked = state.children.length + state.reaped.length
  progress : forall count, state.main.forkedSoFar numChildren = some count -> state.forked = count
  bound : state.forked ≤ numChildren
  fresh : state.main = .installing -> state.established = false
  established : state.main ≠ .installing -> state.main.atEnd = false -> state.established = true
  masked : state.main.blocks = true -> state.handler = none -> state.blocked = true
  saved : forall blockedBefore, state.main = .suspended blockedBefore -> blockedBefore = true
  frame : forall frame, state.handler = some frame -> state.blocked = true ∧
    ((state.main = .blocking ∧ frame.blockedBefore = false) ∨
      (state.main = .suspended true ∧ frame.blockedBefore = true))
  noticed : forall child, child ∈ state.children -> child.zombie = true ->
    state.pending = true ∨ state.handlerInLoop
  left : state.main = .leftLoop ∨ state.main = .ended none ->
    state.children = [] ∧ state.forked = numChildren

theorem generate_preserves {numChildren : Nat} {state : State} (holds : Invariant numChildren state) :
    Invariant numChildren state.generate := by
  unfold State.generate
  split
  · exact { holds with noticed := fun _ _ _ => .inl rfl }
  · exact holds

/-- A process with children has established its handler, until it ends. -/
theorem Invariant.established_of_children {numChildren : Nat} {state : State}
    (holds : Invariant numChildren state) (running : state.main.atEnd = false)
    (children : state.children ≠ []) : state.established = true := by
  apply holds.established _ running
  intro installing
  have none := holds.progress 0 (by rw [installing]; rfl)
  have accounted := holds.accounted
  have positive : 0 < state.children.length := List.length_pos_iff.mpr children
  omega

theorem terminate_preserves {numChildren : Nat} {state next : State} {pid : Nat} {status : Int}
    (holds : Invariant numChildren state) (running : state.main.atEnd = false)
    (stepped : state.terminate pid status = some next) : Invariant numChildren next := by
  rcases Option.map_eq_some_iff.mp stepped with ⟨children, terminated, rfl⟩
  have length := length_terminateChild terminated
  have nonempty : state.children ≠ [] := by
    intro empty
    rw [empty] at terminated
    cases terminated
  have established := holds.established_of_children running nonempty
  rw [State.generate, if_pos (by simp [established])]
  refine
    { holds with
      live := ?_
      accounted := ?_
      noticed := fun _ _ _ => .inl rfl
      left := ?_ }
  · simp only [length]
    exact holds.live
  · simp only [length]
    exact holds.accounted
  · intro left
    exact absurd (holds.left left).1 nonempty

theorem deliver_preserves {numChildren : Nat} {state next : State}
    (holds : Invariant numChildren state) (running : state.main.atEnd = false)
    (stepped : state.deliver = some next) : Invariant numChildren next := by
  unfold State.deliver at stepped
  split at stepped
  · rename_i deliverable
    rcases deliverable with ⟨-, established, unblocked⟩
    cases stepped
    have idle : state.handler = none := by
      cases handler : state.handler with
      | none => rfl
      | some frame =>
          rw [(holds.frame frame handler).1] at unblocked
          cases unblocked
    have owed : state.owed = 0 := by simp [State.owed, idle]
    refine
      { holds with
        live := ?_
        masked := ?_
        frame := ?_
        noticed := fun _ _ _ => .inr ⟨_, rfl, rfl⟩ }
    · have live := holds.live
      rw [owed] at live
      exact live
    · intro _ impossible
      cases impossible
    · intro frame same
      cases same
      refine ⟨rfl, ?_⟩
      -- Only in front of `sigprocmask` and in `sigsuspend` is the signal not blocked.
      cases position : state.main with
      | installing =>
          rw [holds.fresh position] at established
          cases established
      | blocking => exact .inl ⟨rfl, rfl⟩
      | suspended blockedBefore =>
          rw [holds.saved blockedBefore position]
          exact .inr ⟨rfl, rfl⟩
      | ended failure =>
          rw [position] at running
          cases running
      | _ =>
          have blocked := holds.masked (by rw [position]; rfl) idle
          rw [blocked] at unblocked
          cases unblocked
  · cases stepped

section

variable {numChildren : Nat} {state : State}

/-- While no handler runs, there is nothing to say about its frame. -/
theorem no_frame (idle : state.handler = none) {Property : Frame -> Prop} :
    forall frame, state.handler = some frame -> Property frame := by
  intro frame running
  rw [idle] at running
  cases running

/-- A move of the main program between positions at which it blocks the signal
and has forked all its children. -/
theorem Invariant.moveTo (holds : Invariant numChildren state) (idle : state.handler = none)
    (blocked : state.main.blocks = true) {main : MainPc} (blocks : main.blocks = true)
    (progress : forall count, main.forkedSoFar numChildren = some count -> state.forked = count)
    (left : main = .leftLoop -> state.children = [] ∧ state.forked = numChildren) :
    Invariant numChildren (state.moveTo main) := by
  have established : state.established = true := by
    apply holds.established
    · intro installing
      rw [installing] at blocked
      cases blocked
    · cases position : state.main <;> rw [position] at blocked <;> first | rfl | cases blocked
  refine
    { holds with
      progress := progress
      fresh := ?_
      established := fun _ _ => established
      masked := fun _ _ => holds.masked blocked idle
      saved := ?_
      frame := ?_
      left := ?_ }
  · intro installing
    cases (show main = .installing from installing)
    cases blocks
  · intro blockedBefore suspended
    cases (show main = .suspended blockedBefore from suspended)
    cases blocks
  · exact no_frame idle
  · rintro (leaving | ended)
    · exact left leaving
    · cases (show main = .ended none from ended)
      cases blocks

theorem installing_preserves (holds : Invariant numChildren state) (idle : state.handler = none)
    (position : state.main = .installing) :
    Invariant numChildren ({ state with established := true }.moveTo .blocking) where
  live := holds.live
  accounted := holds.accounted
  progress count same := holds.progress count (by rw [position]; exact same)
  bound := holds.bound
  fresh impossible := by cases impossible
  established _ _ := rfl
  masked impossible := by cases impossible
  saved _ impossible := by cases impossible
  frame := no_frame idle
  noticed := holds.noticed
  left := by rintro (impossible | impossible) <;> cases impossible

theorem blocking_preserves (holds : Invariant numChildren state) (idle : state.handler = none)
    (position : state.main = .blocking) :
    Invariant numChildren ({ state with blocked := true }.moveTo (.forking 0)) where
  live := holds.live
  accounted := holds.accounted
  progress count same := holds.progress count (by rw [position]; exact same)
  bound := holds.bound
  fresh impossible := by cases impossible
  established _ _ := holds.established (by simp [position]) (by rw [position]; rfl)
  masked _ _ := rfl
  saved _ impossible := by cases impossible
  frame := no_frame idle
  noticed := holds.noticed
  left := by rintro (impossible | impossible) <;> cases impossible

theorem fork_preserves {j : Nat} (holds : Invariant numChildren state)
    (idle : state.handler = none) (position : state.main = .forking j) (more : j < numChildren)
    (pid : Nat) : Invariant numChildren ((state.addChild pid).moveTo (.forking (j + 1))) := by
  have forked : state.forked = j := holds.progress j (by rw [position]; rfl)
  have accounted := holds.accounted
  have live := holds.live
  refine
    { live := ?_
      accounted := ?_
      progress := ?_
      bound := ?_
      fresh := fun impossible => by cases impossible
      established := fun _ _ => holds.established (by simp [position]) (by rw [position]; rfl)
      masked := fun _ => holds.masked (by rw [position]; rfl)
      saved := fun _ impossible => by cases impossible
      frame := ?_
      noticed := ?_
      left := by rintro (impossible | impossible) <;> cases impossible }
  · simp only [State.moveTo, State.addChild, State.owed, List.length_append, List.length_singleton]
      at live ⊢
    push_cast
    omega
  · simp only [State.moveTo, State.addChild, List.length_append, List.length_singleton]
    omega
  · intro count same
    cases same
    exact congrArg (· + 1) forked
  · simp only [State.moveTo, State.addChild]
    omega
  · exact no_frame idle
  · intro child member zombie
    rcases List.mem_append.mp member with old | new
    · exact holds.noticed child old zombie
    · rw [List.mem_singleton.mp new] at zombie
      cases zombie

theorem suspending_preserves (holds : Invariant numChildren state) (idle : state.handler = none)
    (position : state.main = .suspending) :
    Invariant numChildren ({ state with blocked := false }.moveTo (.suspended state.blocked)) where
  live := holds.live
  accounted := holds.accounted
  progress count same := holds.progress count (by rw [position]; exact same)
  bound := holds.bound
  fresh impossible := by cases impossible
  established _ _ := holds.established (by simp [position]) (by rw [position]; rfl)
  masked impossible := by cases impossible
  saved := by
    intro blockedBefore same
    cases same
    exact holds.masked (by rw [position]; rfl) idle
  frame := no_frame idle
  noticed := holds.noticed
  left := by rintro (impossible | impossible) <;> cases impossible

/-- The parent that leaves its loop has reaped all its children. -/
theorem Invariant.all_reaped (holds : Invariant numChildren state) (idle : state.handler = none)
    (position : state.main = .testing) (done : ¬ state.numLiveChildren > 0) :
    state.children = [] ∧ state.forked = numChildren := by
  have forked : state.forked = numChildren := holds.progress numChildren (by rw [position]; rfl)
  have live := holds.live
  refine ⟨List.length_eq_zero_iff.mp ?_, forked⟩
  simp only [State.owed, idle] at live
  omega

theorem main_preserves {next : State} {pid : Nat} (holds : Invariant numChildren state)
    (idle : state.handler = none) (stepped : state.mainStep numChildren pid = some next) :
    Invariant numChildren next := by
  unfold State.mainStep at stepped
  cases position : state.main <;> simp only [position] at stepped
  case installing =>
      cases stepped
      exact installing_preserves holds idle position
  case blocking =>
      cases stepped
      exact blocking_preserves holds idle position
  case forking j =>
      split at stepped
      · split at stepped
        · cases stepped
        · cases stepped
          exact fork_preserves holds idle position ‹_› pid
      · cases stepped
        have forked : state.forked = j := holds.progress j (by rw [position]; rfl)
        have bound := holds.bound
        apply holds.moveTo idle (by rw [position]; rfl) rfl
        · intro count same
          cases same
          omega
        · intro impossible
          cases impossible
  case testing =>
      cases stepped
      split
      · apply holds.moveTo idle (by rw [position]; rfl) rfl
        · intro count same
          exact holds.progress count (by rw [position]; exact same)
        · intro impossible
          cases impossible
      · apply holds.moveTo idle (by rw [position]; rfl) rfl
        · intro count same
          exact holds.progress count (by rw [position]; exact same)
        · intro _
          exact holds.all_reaped idle position ‹_›
  case suspending =>
      cases stepped
      exact suspending_preserves holds idle position
  case suspended => cases stepped
  case counting =>
      cases stepped
      have moved : Invariant numChildren (state.moveTo .testing) := by
        apply holds.moveTo idle (by rw [position]; rfl) rfl
        · intro count same
          exact holds.progress count (by rw [position]; exact same)
        · intro impossible
          cases impossible
      exact { moved with }
  case leftLoop =>
      cases stepped
      exact
        { holds with
          progress := fun _ impossible => by cases impossible
          fresh := fun impossible => by cases impossible
          established := fun _ impossible => by cases impossible
          masked := fun impossible => by cases impossible
          saved := fun _ impossible => by cases impossible
          frame := no_frame idle
          left := fun _ => holds.left (.inl position) }
  case ended => cases stepped

/-- A step of the handler that goes on to another position. -/
theorem Invariant.goOn {frame : Frame} (holds : Invariant numChildren state)
    (running : state.handler = some frame) {next : State} {after : Frame}
    (handler : next.handler = some after) (before : after.blockedBefore = frame.blockedBefore)
    (main : next.main = state.main) (established : next.established = state.established)
    (blocked : next.blocked = state.blocked) (forked : next.forked = state.forked)
    (live : next.numLiveChildren =
      (numChildren : Int) - state.forked + next.children.length + next.owed)
    (accounted : state.forked = next.children.length + next.reaped.length)
    (noticed : forall child, child ∈ next.children -> child.zombie = true ->
      next.pending = true ∨ after.pc.inLoop = true) : Invariant numChildren next where
  live := by rw [live, forked]
  accounted := by rw [forked, accounted]
  progress := by
    rw [main, forked]
    exact holds.progress
  bound := by
    rw [forked]
    exact holds.bound
  fresh := by
    rw [main, established]
    exact holds.fresh
  established := by
    rw [main, established]
    exact holds.established
  masked := by
    rw [handler]
    intro _ impossible
    cases impossible
  saved := by
    rw [main]
    exact holds.saved
  frame := by
    intro other same
    rw [handler] at same
    cases same
    rw [before, main, blocked]
    exact holds.frame frame running
  noticed := by
    intro child member zombie
    rcases noticed child member zombie with pending | inLoop
    · exact .inl pending
    · exact .inr ⟨after, handler, inLoop⟩
  left := by
    intro left
    rw [main] at left
    rcases (holds.frame frame running).2 with ⟨position, -⟩ | ⟨position, -⟩ <;>
      rw [position] at left <;> rcases left with impossible | impossible <;> cases impossible

/-- A zombie that the handler has still to find may be without a signal; behind
its loop there is none. -/
theorem Invariant.noticed_after {frame : Frame} (holds : Invariant numChildren state)
    (running : state.handler = some frame) (behind : frame.pc.inLoop = false) {child : Child}
    (member : child ∈ state.children) (zombie : child.zombie = true) : state.pending = true := by
  rcases holds.noticed child member zombie with pending | ⟨other, same, inLoop⟩
  · exact pending
  · rw [running] at same
    cases same
    rw [behind] at inLoop
    cases inLoop

/-- When the handler returns, the mask is again what it was before. -/
theorem restoring_preserves {frame : Frame} (holds : Invariant numChildren state)
    (running : state.handler = some frame) (position : frame.pc = .restoring) :
    Invariant numChildren { state with
      handler := none
      errno := frame.savedErrno
      blocked := frame.blockedBefore }.resume := by
  have live := holds.live
  have owed : state.owed = 0 := by
    rcases frame with ⟨pc, savedErrno, blockedBefore⟩
    cases position
    simp [State.owed, running]
  rw [owed] at live
  have pending : forall child, child ∈ state.children -> child.zombie = true ->
      state.pending = true := by
    intro child member zombie
    exact holds.noticed_after running (by rw [position]; rfl) member zombie
  rcases (holds.frame frame running).2 with ⟨main, before⟩ | ⟨main, before⟩
  · simp only [State.resume, main]
    exact
      { live := live
        accounted := holds.accounted
        progress := fun count same => holds.progress count (by rw [main]; exact same)
        bound := holds.bound
        fresh := fun impossible => by cases impossible
        established := fun _ _ => holds.established (by simp [main]) (by rw [main]; rfl)
        masked := fun impossible => by cases impossible
        saved := fun _ impossible => by cases impossible
        frame := fun _ impossible => by cases impossible
        noticed := fun child member zombie => .inl (pending child member zombie)
        left := by rintro (impossible | impossible) <;> cases impossible }
  · simp only [State.resume, main]
    exact
      { live := live
        accounted := holds.accounted
        progress := fun count same => holds.progress count (by rw [main]; exact same)
        bound := holds.bound
        fresh := fun impossible => by cases impossible
        established := fun _ _ => holds.established (by simp [main]) (by rw [main]; rfl)
        masked := fun _ _ => before
        saved := fun _ impossible => by cases impossible
        frame := fun _ impossible => by cases impossible
        noticed := fun child member zombie => .inl (pending child member zombie)
        left := by rintro (impossible | impossible) <;> cases impossible }

theorem handler_preserves {frame : Frame} {next : State} {chosen : Nat}
    (holds : Invariant numChildren state) (running : state.handler = some frame)
    (stepped : state.handlerStep frame chosen = some next) : Invariant numChildren next := by
  have live := holds.live
  have accounted := holds.accounted
  rcases frame with ⟨pc, savedErrno, blockedBefore⟩
  unfold State.handlerStep at stepped
  cases pc with
  | saving =>
      cases stepped
      refine holds.goOn running rfl rfl rfl rfl rfl rfl ?_ accounted (fun _ _ _ => .inr rfl)
      simpa [State.owed, running] using live
  | waiting =>
      simp only at stepped
      split at stepped
      · cases stepped
      · rename_i childPid status children waited
        cases stepped
        rcases waitpidAny_eq_some waited with ⟨impossible, -⟩ | ⟨impossible, -⟩ | ⟨taken, -, reaped⟩
        · cases impossible
        · cases impossible
        · have length := length_reap reaped
          refine holds.goOn running rfl rfl rfl rfl rfl rfl ?_ ?_ (fun _ _ _ => .inr rfl)
          · simp only [State.owed, running] at live ⊢
            omega
          · simp only [List.length_append, List.length_singleton]
            omega
      · rename_i children waited
        cases stepped
        rcases waitpidAny_eq_some waited with ⟨impossible, -⟩ | ⟨-, alive, -⟩ | ⟨taken, impossible, -⟩
        · cases impossible
        · refine holds.goOn running rfl rfl rfl rfl rfl rfl ?_ accounted ?_
          · simpa [State.owed, running] using live
          · intro child member zombie
            rw [alive child member] at zombie
            cases zombie
        · cases impossible
      · rename_i errno children waited
        cases stepped
        rcases waitpidAny_eq_some waited with ⟨-, empty, -⟩ | ⟨impossible, -⟩ | ⟨taken, impossible, -⟩
        · refine holds.goOn running rfl rfl rfl rfl rfl rfl ?_ accounted ?_
          · simpa [State.owed, running] using live
          · intro child member zombie
            rw [show state.children = [] from empty] at member
            cases member
        · cases impossible
        · cases impossible
  | decrementing =>
      cases stepped
      refine holds.goOn running rfl rfl rfl rfl rfl rfl ?_ accounted (fun _ _ _ => .inr rfl)
      simp only [State.owed, running] at live ⊢
      omega
  | sleeping =>
      cases stepped
      refine holds.goOn running rfl rfl rfl rfl rfl rfl ?_ accounted ?_
      · simpa [State.owed, running] using live
      · intro child member zombie
        exact .inl (holds.noticed_after running rfl member zombie)
  | restoring =>
      cases stepped
      exact restoring_preserves holds running rfl

theorem fail_preserves {dumpcore : Option String} {next : State} {errno : Errno}
    (holds : Invariant numChildren state) (idle : state.handler = none)
    (stepped : state.fail dumpcore numChildren errno = some next) : Invariant numChildren next := by
  have ending : forall failure, Invariant numChildren (state.moveTo (.ended (some failure))) := by
    intro failure
    exact
      { holds with
        progress := fun _ impossible => by cases impossible
        fresh := fun impossible => by cases impossible
        established := fun _ impossible => by cases impossible
        masked := fun impossible => by cases impossible
        saved := fun _ impossible => by cases impossible
        frame := no_frame idle
        left := by rintro (impossible | impossible) <;> cases impossible }
  unfold State.fail at stepped
  cases position : state.main <;> simp only [position] at stepped
  case installing | blocking =>
      cases stepped
      exact ending _
  case forking j =>
      split at stepped
      · cases stepped
        exact ending _
      · cases stepped
  case suspending =>
      split at stepped
      · cases stepped
      · cases stepped
        exact ending _
  all_goals cases stepped

end

theorem initial_invariant {dumpcore : Option String} {numChildren : Nat} {state : State}
    (initial : (process dumpcore numChildren).Initial state) : Invariant numChildren state := by
  rcases initial with ⟨installing, idle, fresh, -, none, live, -, forked, reaped⟩
  refine
    { live := ?_
      accounted := ?_
      progress := ?_
      bound := ?_
      fresh := fun _ => fresh
      established := fun different => absurd installing different
      masked := ?_
      saved := ?_
      frame := no_frame idle
      noticed := ?_
      left := ?_ }
  · simp [live, forked, none, State.owed, idle]
  · simp [forked, none, reaped]
  · intro count same
    rw [installing] at same
    cases same
    exact forked
  · rw [forked]
    exact Nat.zero_le numChildren
  · rw [installing]
    intro impossible
    cases impossible
  · rw [installing]
    intro _ impossible
    cases impossible
  · rw [none]
    intro child impossible
    cases impossible
  · rw [installing]
    rintro (impossible | impossible) <;> cases impossible

theorem reachable_invariant {dumpcore : Option String} {numChildren : Nat} {state : State}
    (reachable : (process dumpcore numChildren).Reachable state) :
    Invariant numChildren state := by
  refine Machine.Reachable.invariant ?_ ?_ reachable
  · intro state initial
    exact initial_invariant initial
  · intro state action next holds stepped
    simp only [process, State.step] at stepped
    split at stepped
    · cases stepped
    · rename_i running
      exact terminate_preserves holds (MainPc.atEnd_eq_false running) stepped
    · cases stepped
      exact generate_preserves holds
    · rename_i running
      exact deliver_preserves holds (MainPc.atEnd_eq_false running) stepped
    · split at stepped
      · exact main_preserves holds ‹_› stepped
      · cases stepped
    · split at stepped
      · cases stepped
      · exact handler_preserves holds ‹_› stepped
    · split at stepped
      · exact fail_preserves holds ‹_› stepped
      · cases stepped

/-- Every child is accounted for and the parent does not sleep for ever.  The
counter is right except where the handler is about to decrement it.  The parent
leaves its loop only when all children have been forked and reaped.  While it
sleeps with children left, one of them is running or `SIGCHLD` is pending. -/
theorem children_accounted (dumpcore : Option String) (numChildren : Nat) {state : State}
    (reachable : (process dumpcore numChildren).Reachable state) :
    ((forall frame, state.handler = some frame -> frame.pc ≠ .decrementing) ->
      state.numLiveChildren = ((numChildren - state.forked + state.children.length : Nat) : Int)) ∧
    (state.main = .leftLoop ∨ state.main = .ended none ->
      state.forked = numChildren ∧ state.children = [] ∧ state.reaped.length = numChildren) ∧
    (forall blockedBefore, state.main = .suspended blockedBefore -> state.handler = none ->
      0 < state.numLiveChildren ->
      (Exists fun child => child ∈ state.children ∧ child.zombie = false) ∨ state.pending = true) := by
  have holds := reachable_invariant reachable
  have live := holds.live
  have bound := holds.bound
  refine ⟨?_, ?_, ?_⟩
  · intro elsewhere
    have owed : state.owed = 0 := by
      unfold State.owed
      split
      · rename_i handler
        exact absurd rfl (elsewhere _ handler)
      · rfl
    omega
  · intro left
    rcases holds.left left with ⟨none, forked⟩
    have accounted := holds.accounted
    rw [none, List.length_nil] at accounted
    exact ⟨forked, none, by omega⟩
  · intro blockedBefore position idle positive
    have forked : state.forked = numChildren := holds.progress _ (by rw [position]; rfl)
    simp only [State.owed, idle] at live
    have nonempty : 0 < state.children.length := by omega
    rcases List.exists_mem_of_length_pos nonempty with ⟨child, member⟩
    cases zombie : child.zombie with
    | false => exact .inl ⟨child, member, zombie⟩
    | true =>
        rcases holds.noticed child member zombie with pending | ⟨frame, running, -⟩
        · exact .inr pending
        · rw [idle] at running
          cases running

/-- A parent with two arguments, before its first call. -/
def startState : State where
  main := .installing
  handler := none
  established := false
  blocked := false
  pending := false
  errno := .other 0
  children := []
  numLiveChildren := 2
  sigCnt := 0
  forked := 0
  reaped := []

/-- The first child terminates before the parent sleeps, the second one while the
handler, having found no more dead children, sleeps. -/
def twoChildren : List Action :=
  [.main 0, .main 0, .main 10, .main 11, .terminate 10 0, .main 0, .main 0, .main 0, .deliver,
    .handler 0, .handler 10, .handler 0, .handler 0, .terminate 11 256, .handler 0, .handler 0,
    .main 0, .main 0, .main 0]

/-- The parent after that run, in `sigsuspend` for the second time. -/
def twoChildrenState : State :=
  ((process none 2).exec startState twoChildren).get (by decide +kernel)

theorem children_accounted_two_children :
    twoChildrenState.main = .suspended true ∧ twoChildrenState.reaped = [(10, 0)] ∧
      twoChildrenState.numLiveChildren = 1 ∧
      ((Exists fun child => child ∈ twoChildrenState.children ∧ child.zombie = false) ∨
        twoChildrenState.pending = true) := by
  have initial : (process none 2).Initial startState :=
    ⟨rfl, rfl, rfl, rfl, rfl, rfl, rfl, rfl, rfl⟩
  have executed : (process none 2).exec startState twoChildren = some twoChildrenState :=
    (Option.some_get _).symm
  have reachable : (process none 2).Reachable twoChildrenState :=
    Machine.reachable_of_exec initial executed
  have position : twoChildrenState.main = .suspended true := by decide +kernel
  have awake := (children_accounted none 2 reachable).2.2 true position (by decide +kernel)
    (by decide +kernel)
  exact ⟨position, by decide +kernel, by decide +kernel, awake⟩

end MultiSigchld
end ProcessWatch
end Tlpi
