import Tlpi.CLibrary.Integers
import Tlpi.CLibrary.SignalQueue
import Tlpi.Foundations.History
import Tlpi.Foundations.Transition
import Tlpi.Lib.ProgramEnd
import Tlpi.Lib.SignalFunctions

namespace Tlpi
namespace SignalBasic
namespace SigReceiver

open CLibrary Foundations Lib

/-!
# Counting the signals that are caught

`sig_receiver` establishes one handler for all signals, which counts them.  With an
argument it first blocks all signals, sleeps, shows which signals are pending, and unblocks
them.  Then it waits for `SIGINT`, and shows how often each of the other signals was caught.

The handler may be interrupted by any signal except its own, also between reading a count
and writing it back.  A signal that can be delivered is delivered before the process takes
another step.  The reads of a count for its line are one step, and so are asking which
signals are pending and showing them.

The user's limit `RLIMIT_SIGPENDING` on queued signals is not reached.  Beyond it the kernel
merges realtime signals too that are sent with `kill`.

The model keeps a history that the program does not have: what was sent, what became of it,
and what was printed, in order.
-/

structure Setup where
  dumpcore : Option String
  argv : List (List Byte)
  pid : Int
  strsignal : Nat -> List Byte

def Setup.name (setup : Setup) : List Byte := setup.argv.headD []

/-- The positions of `main`, each named after what it does next. -/
inductive Pc where
  | announcing
  | installing (sig : Nat)
  | parsing
  | blocking (numSecs : Int)
  | telling (numSecs : Int)
  | sleeping
  | examining
  | unblocking
  | spinning
  | reporting (sig : Nat)
deriving DecidableEq, Repr

/-- The positions of `handler`; at `storing` it has read the count. -/
inductive HandlerPc where
  | testing
  | loading
  | storing (value : Int)
  | returning
deriving DecidableEq, Repr

/-- A call of the handler, with the mask that is put back when it returns. -/
structure Frame where
  sig : Nat
  pc : HandlerPc
  savedMask : SignalMask

/-- What happens. -/
inductive Event where
  | sent (sig : Nat)
  | caught (sig : Nat)
  | discarded (sig : Nat)
  | printed (text : List Byte)
deriving DecidableEq, Repr

inductive Status where
  | running
  | stopped
  | exited (ending : ProgramEnd)
  | killed (sig : Nat)
deriving DecidableEq, Repr

/-- The process.  The innermost call of the handler is the first of `frames`. -/
structure State where
  pc : Pc
  frames : List Frame
  status : Status
  mask : SignalMask
  pending : Pending
  disposition : Nat -> Disposition
  sigCnt : Nat -> Int
  gotSigint : Bool
  history : List Event

inductive Action where
  | main
  | handler
  | fail (errno : Errno)
  | generate (info : Siginfo)
  | deliver (sig : Nat)
deriving DecidableEq, Repr

/-! ## What is printed -/

def pidLine (setup : Setup) : List Byte :=
  setup.name ++ ascii ": PID is " ++ renderInt setup.pid ++ [newline]

def sleepingLine (setup : Setup) (numSecs : Int) : List Byte :=
  setup.name ++ ascii ": sleeping for " ++ renderInt numSecs ++ ascii " seconds" ++ [newline]

def pendingLines (setup : Setup) (pendingMask : Sigset) : List Byte :=
  setup.name ++ ascii ": pending signals are: \n" ++
    printSigset setup.strsignal (ascii "\t\t") pendingMask

def caughtLine (setup : Setup) (sig : Nat) (count : Int) : List Byte :=
  setup.name ++ ascii ": signal " ++ renderNat sig ++ ascii " caught " ++ renderInt count ++
    ascii " time" ++ (if count = 1 then [] else ascii "s") ++ [newline]

namespace State

def moveTo (state : State) (pc : Pc) : State := { state with pc := pc }

def record (state : State) (event : Event) : State :=
  { state with history := state.history ++ [event] }

def print (state : State) (text : List Byte) : State := state.record (.printed text)

def exit (state : State) (ending : ProgramEnd) : State := { state with status := .exited ending }

/-- `signal(sig, handler)`, whose result is ignored. -/
def signal (state : State) (sig : Nat) : State :=
  if catchable sig then { state with disposition := Function.update state.disposition sig .handler }
  else state

/-- What `sigpending` returns: the blocked signals that are pending. -/
def sigpending (state : State) : Sigset := fun sig =>
  state.pending.any (fun info => info.si_signo = sig) && state.mask.blocks sig

def mainStep (setup : Setup) (state : State) : State :=
  match state.pc with
  | .announcing => (state.print (pidLine setup)).moveTo (.installing 1)
  | .installing sig =>
      if sig < NSIG then (state.signal sig).moveTo (.installing (sig + 1))
      else state.moveTo (if 1 < setup.argv.length then .parsing else .spinning)
  | .parsing =>
      match getInt setup.argv[1]? GN_GT_0 none with
      | .error diagnostic => state.exit (.badArguments diagnostic)
      | .ok numSecs => state.moveTo (.blocking numSecs)
  | .blocking numSecs => { state with mask := .install sigfillset }.moveTo (.telling numSecs)
  | .telling numSecs => (state.print (sleepingLine setup numSecs)).moveTo .sleeping
  | .sleeping => state.moveTo .examining
  | .examining => (state.print (pendingLines setup state.sigpending)).moveTo .unblocking
  | .unblocking => { state with mask := .install (fun _ => false) }.moveTo .spinning
  | .spinning => if state.gotSigint then state.moveTo (.reporting 1) else state
  | .reporting sig =>
      if sig < NSIG then
        (if state.sigCnt sig ≠ 0 then state.print (caughtLine setup sig (state.sigCnt sig))
          else state).moveTo (.reporting (sig + 1))
      else state.exit .success

/-- A call fails whose result is tested. -/
def mainFails (setup : Setup) (state : State) (errno : Errno) : Option State :=
  match state.pc with
  | .blocking _ | .unblocking => some (state.exit (.failed (errExit setup.dumpcore errno "sigprocmask")))
  | .examining => some (state.exit (.failed (errExit setup.dumpcore errno "sigpending")))
  | _ => none

/-- The next step of the innermost call of the handler. -/
def handlerStep (state : State) (frame : Frame) (rest : List Frame) : State :=
  match frame.pc with
  | .testing =>
      if frame.sig = SIGINT then
        { state with gotSigint := true, frames := { frame with pc := .returning } :: rest }
      else { state with frames := { frame with pc := .loading } :: rest }
  | .loading =>
      { state with frames := { frame with pc := .storing (state.sigCnt frame.sig) } :: rest }
  | .storing value =>
      { state with
        sigCnt := Function.update state.sigCnt frame.sig (toInt (value + 1))
        frames := { frame with pc := .returning } :: rest }
  | .returning => { state with frames := rest, mask := frame.savedMask }

/-- A signal is sent.  `SIGCONT` also resumes a stopped process. -/
def generate (state : State) (info : Siginfo) : State :=
  { state.record (.sent info.si_signo) with
    pending := state.pending.generate info
    status := if info.si_signo = SIGCONT then .running else state.status }

/-- The default action. -/
def byDefault (state : State) (sig : Nat) : State :=
  match defaultAction sig with
  | .terminate => { state with status := .killed sig }
  | .ignore => state
  | .stop => { state with status := .stopped }

/-- The first pending signal of the number is delivered.  While its handler runs, the
signal is blocked. -/
def deliver (state : State) (sig : Nat) : Option State :=
  if state.mask.blocks sig then none
  else
    (state.pending.take sig).map (fun (_, rest) =>
      let taken := { state with pending := rest }
      match state.disposition sig with
      | .SIG_IGN => taken.record (.discarded sig)
      | .SIG_DFL => (taken.record (.discarded sig)).byDefault sig
      | .handler =>
          { taken.record (.caught sig) with
            frames := ⟨sig, .testing, state.mask⟩ :: state.frames
            mask := state.mask.during sig (fun _ => false) })

/-- Nothing that is pending can be delivered. -/
def settled (state : State) : Bool :=
  state.pending.all (fun info => state.mask.blocks info.si_signo)

def step (setup : Setup) (state : State) (action : Action) : Option State :=
  match state.status, action with
  | .running, .main =>
      if state.settled ∧ state.frames = [] then some (state.mainStep setup) else none
  | .running, .fail errno =>
      if state.settled ∧ state.frames = [] then state.mainFails setup errno else none
  | .running, .handler =>
      match state.frames with
      | [] => none
      | frame :: rest => if state.settled then some (state.handlerStep frame rest) else none
  | .running, .deliver sig => state.deliver sig
  | .stopped, .deliver sig => if sig = SIGKILL then state.deliver sig else none
  | .running, .generate info | .stopped, .generate info =>
      if 1 ≤ info.si_signo ∧ info.si_signo < NSIG then some (state.generate info) else none
  | _, _ => none

end State

section

variable {setup : Setup} {state next : State} {action : Action}

theorem alive_of_step (stepped : state.step setup action = some next) (ending : ProgramEnd) :
    state.status ≠ .exited ending := by
  intro ended
  unfold State.step at stepped
  rw [ended] at stepped
  cases action <;> cases stepped

theorem step_cases (stepped : state.step setup action = some next) :
    (state.settled = true ∧ state.frames = [] ∧ next = state.mainStep setup) ∨
    (Exists fun errno => state.mainFails setup errno = some next) ∨
    (Exists fun frame => Exists fun rest => state.frames = frame :: rest ∧
      next = state.handlerStep frame rest) ∨
    (Exists fun sig => state.deliver sig = some next) ∨
    (Exists fun info => next = state.generate info) := by
  unfold State.step at stepped
  split at stepped
  · rcases Option.ite_none_right_eq_some.mp stepped with ⟨⟨settled, idle⟩, result⟩
    cases result
    exact .inl ⟨settled, idle, rfl⟩
  · rcases Option.ite_none_right_eq_some.mp stepped with ⟨-, result⟩
    exact .inr (.inl ⟨_, result⟩)
  · split at stepped
    · cases stepped
    · rename_i frame rest frames
      rcases Option.ite_none_right_eq_some.mp stepped with ⟨-, result⟩
      cases result
      exact .inr (.inr (.inl ⟨frame, rest, frames, rfl⟩))
  · exact .inr (.inr (.inr (.inl ⟨_, stepped⟩)))
  · rcases Option.ite_none_right_eq_some.mp stepped with ⟨-, result⟩
    exact .inr (.inr (.inr (.inl ⟨_, result⟩)))
  · rcases Option.ite_none_right_eq_some.mp stepped with ⟨-, result⟩
    cases result
    exact .inr (.inr (.inr (.inr ⟨_, rfl⟩)))
  · rcases Option.ite_none_right_eq_some.mp stepped with ⟨-, result⟩
    cases result
    exact .inr (.inr (.inr (.inr ⟨_, rfl⟩)))
  · cases stepped

/-- A delivery calls the handler, or discards the signal. -/
theorem deliver_cases {sig : Nat} (alive : state.status ≠ .exited .success)
    (delivered : state.deliver sig = some next) :
    Exists fun info => Exists fun rest => state.pending.take sig = some (info, rest) ∧
      state.mask.blocks sig = false ∧
      ((state.disposition sig = .handler ∧ next =
          { { state with pending := rest }.record (.caught sig) with
            frames := ⟨sig, .testing, state.mask⟩ :: state.frames
            mask := state.mask.during sig (fun _ => false) }) ∨
        (Exists fun status => status ≠ .exited .success ∧ next =
          { { state with pending := rest }.record (.discarded sig) with status := status })) := by
  unfold State.deliver at delivered
  split at delivered
  · cases delivered
  · rename_i unblocked
    rcases Option.map_eq_some_iff.mp delivered with ⟨⟨info, rest⟩, taken, result⟩
    refine ⟨info, rest, taken, Bool.eq_false_iff.mpr unblocked, ?_⟩
    dsimp only at result
    split at result
    · cases result
      exact .inr ⟨state.status, alive, rfl⟩
    · cases result
      right
      unfold State.byDefault
      split
      · exact ⟨.killed sig, nofun, rfl⟩
      · exact ⟨state.status, alive, rfl⟩
      · exact ⟨.stopped, nofun, rfl⟩
    · rename_i isHandler
      exact .inl ⟨isHandler, result.symm⟩

end

/-! ## Handlers that interrupt each other -/

/-- Each call of the handler blocks its own signal and those of the calls that it has
interrupted. -/
def Nested : SignalMask -> List Frame -> Prop
  | _, [] => True
  | mask, frame :: rest =>
      mask.blocks frame.sig = true ∧ frame.savedMask.blocks frame.sig = false ∧
        (forall sig, frame.savedMask.blocks sig = true -> mask.blocks sig = true) ∧
        Nested frame.savedMask rest

theorem Nested.blocks {mask : SignalMask} {frames : List Frame} (nested : Nested mask frames)
    {frame : Frame} (member : frame ∈ frames) : mask.blocks frame.sig = true := by
  induction frames generalizing mask with
  | nil => cases member
  | cons first rest inductionHypothesis =>
      rcases nested with ⟨blocked, _, more, inner⟩
      rcases List.mem_cons.mp member with same | later
      · rw [same]
        exact blocked
      · exact more frame.sig (inductionHypothesis inner later)

/-- The innermost call is for another signal than those that it has interrupted. -/
theorem Nested.different {mask : SignalMask} {first : Frame} {rest : List Frame}
    (nested : Nested mask (first :: rest)) {frame : Frame} (member : frame ∈ rest) :
    frame.sig ≠ first.sig := by
  intro same
  have blocked := Nested.blocks nested.2.2.2 member
  rw [same, nested.2.1] at blocked
  cases blocked

theorem Nested.during {mask : SignalMask} {frames : List Frame} (nested : Nested mask frames)
    {sig : Nat} (unblocked : mask.blocks sig = false) (catches : catchable sig = true) (pc : HandlerPc) :
    Nested (mask.during sig (fun _ => false)) (⟨sig, pc, mask⟩ :: frames) := by
  refine ⟨?_, unblocked, ?_, nested⟩
  · simp only [catchable, decide_eq_true_eq, Bool.not_eq_true'] at catches
    rcases catches with ⟨-, -, notSovereign, -⟩
    simp [SignalMask.during, notSovereign]
  · intro other blocked
    have notSovereign : sovereign other = false := by
      refine Bool.eq_false_iff.mpr ?_
      intro isSovereign
      rw [mask.unblockable other isSovereign] at blocked
      cases blocked
    have blockedBefore : mask.blocks other = true := blocked
    simp [SignalMask.during, blockedBefore, notSovereign]

/-- The calls of the handler that have yet to count their signal. -/
def awaiting (sig : Nat) (frames : List Frame) : Nat :=
  frames.countP (fun frame => frame.sig = sig ∧ frame.pc ≠ .returning)

theorem awaiting_cons (sig : Nat) (frame : Frame) (rest : List Frame) :
    awaiting sig (frame :: rest) =
      awaiting sig rest + if frame.sig = sig ∧ frame.pc ≠ .returning then 1 else 0 := by
  unfold awaiting
  rw [List.countP_cons]
  simp only [decide_eq_true_eq]

/-- What a call of the handler has read is still so. -/
def Loaded (sigCnt : Nat -> Int) (frame : Frame) : Prop :=
  match frame.pc with
  | .testing | .returning => True
  | .loading => frame.sig ≠ SIGINT
  | .storing value => frame.sig ≠ SIGINT ∧ value = sigCnt frame.sig

/-- The counts are those of the calls of the handler, but for the ones that still run. -/
structure Counts (state : State) : Prop where
  catches : forall sig, state.disposition sig = .handler -> catchable sig = true
  nested : Nested state.mask state.frames
  entered : forall frame, frame ∈ state.frames -> .caught frame.sig ∈ state.history
  loaded : forall frame, frame ∈ state.frames -> Loaded state.sigCnt frame
  told : state.gotSigint = true -> .caught SIGINT ∈ state.history
  uncounted : state.sigCnt SIGINT = 0
  tally : forall sig, sig ≠ SIGINT -> Exists fun stored : Nat => state.sigCnt sig = toInt stored ∧
    state.history.count (.caught sig) = stored + awaiting sig state.frames

section

variable {setup : Setup} {state next : State} {frame : Frame} {rest : List Frame}

/-- The innermost call goes on; `awaited` says whether its signal is counted from now on. -/
theorem Counts.advance (counts : Counts state) (running : state.frames = frame :: rest)
    {pc : HandlerPc} {gotSigint : Bool} {sigCnt : Nat -> Int}
    (loads : Loaded sigCnt { frame with pc := pc })
    (told : gotSigint = true -> state.gotSigint = true ∨ frame.sig = SIGINT)
    (others : forall sig, sig ≠ frame.sig -> sigCnt sig = state.sigCnt sig)
    (uncounted : sigCnt SIGINT = 0)
    (counted : frame.sig ≠ SIGINT -> forall stored : Nat, state.sigCnt frame.sig = toInt stored ->
      Exists fun after : Nat => sigCnt frame.sig = toInt after ∧
        after + (if pc ≠ .returning then 1 else 0) = stored + (if frame.pc ≠ .returning then 1 else 0)) :
    Counts { state with
      frames := { frame with pc := pc } :: rest, gotSigint := gotSigint, sigCnt := sigCnt } where
  catches := counts.catches
  nested := by
    have nested := counts.nested
    rw [running] at nested
    exact nested
  entered := by
    intro other member
    rcases List.mem_cons.mp member with same | later
    · rw [same]
      exact counts.entered frame (by rw [running]; exact List.mem_cons_self)
    · exact counts.entered other (by rw [running]; exact List.mem_cons_of_mem _ later)
  loaded := by
    intro other member
    rcases List.mem_cons.mp member with same | later
    · rw [same]
      exact loads
    · have nested := counts.nested
      rw [running] at nested
      have keeps := others other.sig (nested.different later)
      have before := counts.loaded other (by rw [running]; exact List.mem_cons_of_mem _ later)
      unfold Loaded at before ⊢
      change match other.pc with
        | .testing | .returning => True
        | .loading => other.sig ≠ SIGINT
        | .storing value => other.sig ≠ SIGINT ∧ value = sigCnt other.sig
      rw [keeps]
      exact before
  told := by
    intro got
    rcases told got with before | isSigint
    · exact counts.told before
    · rw [← isSigint]
      exact counts.entered frame (by rw [running]; exact List.mem_cons_self)
  uncounted := uncounted
  tally := by
    intro sig notSigint
    rcases counts.tally sig notSigint with ⟨stored, value, total⟩
    rw [running, awaiting_cons] at total
    change Exists fun stored : Nat => sigCnt sig = toInt stored ∧
      state.history.count (.caught sig) = stored + awaiting sig ({ frame with pc := pc } :: rest)
    by_cases same : sig = frame.sig
    · subst same
      rcases counted notSigint stored value with ⟨after, result, balance⟩
      refine ⟨after, result, ?_⟩
      rw [awaiting_cons]
      simp only [true_and] at total ⊢
      omega
    · refine ⟨stored, (others sig same).trans value, ?_⟩
      rw [awaiting_cons, total]
      simp [Ne.symm same]

theorem Counts.handlerStep (counts : Counts state) (running : state.frames = frame :: rest) :
    Counts (state.handlerStep frame rest) := by
  have loaded := counts.loaded frame (by rw [running]; exact List.mem_cons_self)
  have unchanged : forall sig, sig ≠ frame.sig -> state.sigCnt sig = state.sigCnt sig :=
    fun _ _ => rfl
  unfold State.handlerStep
  cases position : frame.pc with
  | testing =>
      dsimp only
      split
      · rename_i isSigint
        refine counts.advance running trivial (fun _ => .inr isSigint) unchanged counts.uncounted ?_
        intro notSigint
        exact absurd isSigint notSigint
      · rename_i notSigint
        refine counts.advance running notSigint .inl unchanged counts.uncounted ?_
        intro _ stored value
        exact ⟨stored, value, by simp [position]⟩
  | loading =>
      unfold Loaded at loaded
      rw [position] at loaded
      refine counts.advance running ⟨loaded, rfl⟩ .inl unchanged counts.uncounted ?_
      intro _ stored value
      exact ⟨stored, value, by simp [position]⟩
  | storing value =>
      unfold Loaded at loaded
      rw [position] at loaded
      rcases loaded with ⟨notSigint, current⟩
      refine counts.advance running trivial .inl ?_ ?_ ?_
      · intro sig different
        exact Function.update_of_ne different _ _
      · rw [Function.update_of_ne (Ne.symm notSigint)]
        exact counts.uncounted
      · intro _ stored before
        refine ⟨stored + 1, ?_, by simp [position]⟩
        rw [Function.update_self, current, before, toInt_toInt_add]
        rfl
  | returning =>
      have nested := counts.nested
      rw [running] at nested
      refine ⟨counts.catches, nested.2.2.2, ?_, ?_, counts.told, counts.uncounted, ?_⟩
      · intro other member
        exact counts.entered other (by rw [running]; exact List.mem_cons_of_mem _ member)
      · intro other member
        exact counts.loaded other (by rw [running]; exact List.mem_cons_of_mem _ member)
      · intro sig notSigint
        rcases counts.tally sig notSigint with ⟨stored, value, total⟩
        refine ⟨stored, value, ?_⟩
        rw [running, awaiting_cons] at total
        simpa [position] using total

/-- A step that does not touch what the handler counts. -/
theorem Counts.keep (counts : Counts state)
    (catches : forall sig, next.disposition sig = .handler ->
      state.disposition sig = .handler ∨ catchable sig = true)
    (nested : Nested next.mask next.frames) (frames : next.frames = state.frames)
    (sigCnt : next.sigCnt = state.sigCnt) (gotSigint : next.gotSigint = state.gotSigint)
    {events : List Event} (history : next.history = state.history ++ events)
    (quiet : forall sig, .caught sig ∉ events) : Counts next where
  catches := by
    intro sig handled
    rcases catches sig handled with before | now
    · exact counts.catches sig before
    · exact now
  nested := nested
  entered := by
    intro frame member
    rw [frames] at member
    rw [history]
    exact List.mem_append_left _ (counts.entered frame member)
  loaded := by
    rw [frames, sigCnt]
    exact counts.loaded
  told := by
    intro got
    rw [gotSigint] at got
    rw [history]
    exact List.mem_append_left _ (counts.told got)
  uncounted := by
    rw [sigCnt]
    exact counts.uncounted
  tally := by
    intro sig notSigint
    rw [history, frames, sigCnt, List.count_append, List.count_eq_zero_of_not_mem (quiet sig)]
    exact counts.tally sig notSigint

theorem Counts.enter (counts : Counts state) {sig : Nat} (unblocked : state.mask.blocks sig = false)
    (handled : state.disposition sig = .handler) (pending : Pending) :
    Counts { { state with pending := pending }.record (.caught sig) with
      frames := ⟨sig, .testing, state.mask⟩ :: state.frames
      mask := state.mask.during sig (fun _ => false) } where
  catches := counts.catches
  nested := counts.nested.during unblocked (counts.catches sig handled) .testing
  entered := by
    intro frame member
    rcases List.mem_cons.mp member with same | earlier
    · rw [same]
      exact List.mem_append_right _ (List.mem_singleton.mpr rfl)
    · exact List.mem_append_left _ (counts.entered frame earlier)
  loaded := by
    intro frame member
    rcases List.mem_cons.mp member with same | earlier
    · rw [same]
      trivial
    · exact counts.loaded frame earlier
  told := fun got => List.mem_append_left _ (counts.told got)
  uncounted := counts.uncounted
  tally := by
    intro other notSigint
    rcases counts.tally other notSigint with ⟨stored, value, total⟩
    refine ⟨stored, value, ?_⟩
    change (state.history ++ [Event.caught sig]).count (.caught other) =
      stored + awaiting other (⟨sig, .testing, state.mask⟩ :: state.frames)
    rw [List.count_append, total, awaiting_cons, List.count_singleton]
    by_cases same : sig = other
    · simp [same, Nat.add_assoc]
    · simp [same]

theorem Counts.exact (counts : Counts state) (idle : state.frames = []) {sig : Nat}
    (notSigint : sig ≠ SIGINT) : state.sigCnt sig = toInt (state.history.count (.caught sig)) := by
  rcases counts.tally sig notSigint with ⟨stored, value, total⟩
  rw [idle] at total
  rw [value, total]
  rfl

end

/-! ## What the history tells -/

/-- How often a signal is pending after an event. -/
def afterEvent (sig count : Nat) : Event -> Nat
  | .sent other => afterSending sig count other
  | .caught other | .discarded other => if other = sig then count - 1 else count
  | .printed _ => count

/-- How often a signal has to be delivered yet. -/
def outstanding (sig : Nat) (history : List Event) : Nat := history.foldl (afterEvent sig) 0

theorem outstanding_concat (sig : Nat) (history : List Event) (event : Event) :
    outstanding sig (history ++ [event]) = afterEvent sig (outstanding sig history) event :=
  List.foldl_concat _ _ _ _

/-- A signal that is not queued is outstanding once. -/
theorem outstanding_le_one {sig : Nat} (standard : realtime sig = false) (history : List Event) :
    outstanding sig history ≤ 1 := by
  induction history using List.reverseRecOn with
  | nil => exact Nat.zero_le 1
  | append_singleton before event inductionHypothesis =>
      rw [outstanding_concat]
      cases event with
      | sent other =>
          change afterSending sig _ other ≤ 1
          unfold afterSending
          rw [standard, if_neg Bool.false_ne_true]
          split_ifs <;> omega
      | caught other | discarded other =>
          change (if other = sig then _ else _) ≤ 1
          split_ifs <;> omega
      | printed text => exact inductionHypothesis

/-- A line that is true when it is printed. -/
inductive Explained (setup : Setup) (before : List Event) : List Byte -> Prop
  | pid : Explained setup before (pidLine setup)
  | sleeping {numSecs : Int} : getInt setup.argv[1]? GN_GT_0 none = .ok numSecs ->
      Explained setup before (sleepingLine setup numSecs)
  | pending :
      Explained setup before (pendingLines setup (fun sig => decide (0 < outstanding sig before)))
  | caught {sig : Nat} : 1 ≤ sig -> sig < NSIG -> sig ≠ SIGINT -> .caught SIGINT ∈ before ->
      toInt (before.count (.caught sig)) ≠ 0 ->
      Explained setup before (caughtLine setup sig (toInt (before.count (.caught sig))))

/-- A signal is delivered when it is outstanding, and what is printed is true. -/
def Fits (setup : Setup) (before : List Event) : Event -> Prop
  | .sent _ => True
  | .caught sig | .discarded sig => 0 < outstanding sig before
  | .printed text => Explained setup before text

/-- Every signal below the limit has had its turn: the number of times that it was caught
was printed, unless it is zero. -/
def Reported (setup : Setup) (limit : Nat) (history : List Event) : Prop :=
  forall sig, 1 ≤ sig -> sig < limit -> sig ≠ SIGINT ->
    Exists fun before => before <+: history ∧ .caught SIGINT ∈ before ∧
      (toInt (before.count (.caught sig)) ≠ 0 ->
        .printed (caughtLine setup sig (toInt (before.count (.caught sig)))) ∈ history)

theorem Reported.append {setup : Setup} {limit : Nat} {history : List Event}
    (reported : Reported setup limit history) (events : List Event) :
    Reported setup limit (history ++ events) := by
  intro sig positive below notSigint
  rcases reported sig positive below notSigint with ⟨before, isPrefix, told, printed⟩
  exact ⟨before, isPrefix.trans (List.prefix_append _ _), told,
    fun nonzero => List.mem_append_left _ (printed nonzero)⟩

/-- The program keeps its books. -/
structure Truthful (setup : Setup) (state : State) : Prop where
  counts : Counts state
  pends : forall sig, state.pending.amount sig = outstanding sig state.history
  lawful : Throughout (Fits setup) state.history
  asked : forall numSecs, state.pc = .blocking numSecs ∨ state.pc = .telling numSecs ->
    getInt setup.argv[1]? GN_GT_0 none = .ok numSecs
  spun : forall sig, state.pc = .reporting sig ->
    1 ≤ sig ∧ .caught SIGINT ∈ state.history ∧ Reported setup sig state.history
  ended : state.status = .exited .success ->
    .caught SIGINT ∈ state.history ∧ Reported setup NSIG state.history

section

variable {setup : Setup} {state next : State}

theorem Truthful.prints (holds : Truthful setup state) {text : List Byte}
    (explained : Explained setup state.history text) : Truthful setup (state.print text) where
  counts := holds.counts.keep (fun _ => .inl) holds.counts.nested rfl rfl rfl rfl (by simp)
  pends := by
    intro sig
    refine (holds.pends sig).trans ?_
    exact (outstanding_concat sig state.history (.printed text)).symm
  lawful := throughout_concat.mpr ⟨holds.lawful, explained⟩
  asked := holds.asked
  spun := by
    intro sig position
    rcases holds.spun sig position with ⟨positive, told, reported⟩
    exact ⟨positive, List.mem_append_left _ told, reported.append _⟩
  ended := by
    intro ended
    rcases holds.ended ended with ⟨told, reported⟩
    exact ⟨List.mem_append_left _ told, reported.append _⟩

/-- `main` goes on, and may change the mask when no handler runs, or establish the handler. -/
theorem Truthful.goes (holds : Truthful setup state) {pc : Pc} {mask : SignalMask}
    {disposition : Nat -> Disposition}
    (catches : forall sig, disposition sig = .handler ->
      state.disposition sig = .handler ∨ catchable sig = true)
    (nested : Nested mask state.frames)
    (asked : forall numSecs, pc = .blocking numSecs ∨ pc = .telling numSecs ->
      getInt setup.argv[1]? GN_GT_0 none = .ok numSecs)
    (spun : forall sig, pc = .reporting sig ->
      1 ≤ sig ∧ .caught SIGINT ∈ state.history ∧ Reported setup sig state.history) :
    Truthful setup { state with pc := pc, mask := mask, disposition := disposition } where
  counts := holds.counts.keep catches nested rfl rfl rfl (List.append_nil _).symm
    (fun _ => List.not_mem_nil)
  pends := holds.pends
  lawful := holds.lawful
  asked := asked
  spun := spun
  ended := holds.ended

theorem Truthful.moves (holds : Truthful setup state) {pc : Pc}
    (asked : forall numSecs, pc = .blocking numSecs ∨ pc = .telling numSecs ->
      getInt setup.argv[1]? GN_GT_0 none = .ok numSecs)
    (spun : forall sig, pc = .reporting sig ->
      1 ≤ sig ∧ .caught SIGINT ∈ state.history ∧ Reported setup sig state.history) :
    Truthful setup (state.moveTo pc) :=
  holds.goes (fun _ => .inl) holds.counts.nested asked spun

theorem Truthful.exits (holds : Truthful setup state) {ending : ProgramEnd}
    (succeeded : ending = .success ->
      .caught SIGINT ∈ state.history ∧ Reported setup NSIG state.history) :
    Truthful setup (state.exit ending) where
  counts := holds.counts.keep (fun _ => .inl) holds.counts.nested rfl rfl rfl
    (List.append_nil _).symm (fun _ => List.not_mem_nil)
  pends := holds.pends
  lawful := holds.lawful
  asked := holds.asked
  spun := holds.spun
  ended := by
    intro ended
    exact succeeded (Status.exited.inj ended)

theorem Truthful.sigpending (holds : Truthful setup state) (settled : state.settled = true) :
    state.sigpending = fun sig => decide (0 < outstanding sig state.history) := by
  funext sig
  rw [← holds.pends sig]
  unfold State.sigpending
  by_cases present : state.pending.any (fun info => info.si_signo = sig) = true
  · rcases List.any_eq_true.mp present with ⟨info, member, isSig⟩
    have blocked := List.all_eq_true.mp settled info member
    rw [of_decide_eq_true isSig] at blocked
    rw [present, blocked]
    exact (decide_eq_true (Pending.any_iff_amount_pos.mp present)).symm
  · rw [Bool.eq_false_iff.mpr present]
    symm
    refine decide_eq_false ?_
    intro positive
    exact present (Pending.any_iff_amount_pos.mpr positive)

/-- The report goes on to the next signal. -/
theorem Truthful.turn (holds : Truthful setup state) {sig : Nat} (told : .caught SIGINT ∈ state.history)
    (reported : Reported setup sig state.history)
    (now : sig ≠ SIGINT -> Exists fun before => before <+: state.history ∧ .caught SIGINT ∈ before ∧
      (toInt (before.count (.caught sig)) ≠ 0 ->
        .printed (caughtLine setup sig (toInt (before.count (.caught sig)))) ∈ state.history)) :
    Truthful setup (state.moveTo (.reporting (sig + 1))) := by
  refine holds.moves nofun ?_
  intro next same
  cases same
  refine ⟨Nat.le_add_left 1 sig, told, ?_⟩
  intro other positive below notSigint
  by_cases equal : other = sig
  · rw [equal]
    exact now (equal ▸ notSigint)
  · exact reported other positive (by omega) notSigint

theorem Truthful.reports (holds : Truthful setup state) (idle : state.frames = []) {sig : Nat}
    (position : state.pc = .reporting sig) (below : sig < NSIG) :
    Truthful setup ((if state.sigCnt sig ≠ 0 then
      state.print (caughtLine setup sig (state.sigCnt sig)) else state).moveTo (.reporting (sig + 1))) := by
  rcases holds.spun sig position with ⟨positive, told, reported⟩
  by_cases nonzero : state.sigCnt sig ≠ 0
  · rw [if_pos nonzero]
    have notSigint : sig ≠ SIGINT := by
      intro isSigint
      rw [isSigint] at nonzero
      exact nonzero holds.counts.uncounted
    have exact := holds.counts.exact idle notSigint
    rw [exact] at nonzero ⊢
    have printed := holds.prints (.caught positive below notSigint told nonzero)
    refine printed.turn (List.mem_append_left _ told) (reported.append _) ?_
    intro _
    refine ⟨state.history, List.prefix_append _ _, told, ?_⟩
    intro _
    exact List.mem_append_right _ (List.mem_singleton.mpr rfl)
  · rw [if_neg nonzero]
    refine holds.turn told reported ?_
    intro notSigint
    refine ⟨state.history, List.prefix_rfl, told, ?_⟩
    intro counted
    rw [← holds.counts.exact idle notSigint] at counted
    exact absurd counted nonzero

theorem Truthful.mainStep (holds : Truthful setup state) (settled : state.settled = true)
    (idle : state.frames = []) : Truthful setup (state.mainStep setup) := by
  have anyMask : forall mask, Nested mask state.frames := by
    intro mask
    rw [idle]
    trivial
  unfold State.mainStep
  cases position : state.pc with
  | announcing => exact (holds.prints .pid).moves nofun nofun
  | installing sig =>
      dsimp only
      split
      · unfold State.signal
        split
        · rename_i catches
          refine holds.goes ?_ holds.counts.nested nofun nofun
          intro other handled
          by_cases same : other = sig
          · rw [same]
            exact .inr catches
          · change Function.update state.disposition sig .handler other = .handler at handled
            rw [Function.update_of_ne same] at handled
            exact .inl handled
        · exact holds.moves nofun nofun
      · split
        · exact holds.moves nofun nofun
        · exact holds.moves nofun nofun
  | parsing =>
      dsimp only
      split
      · exact holds.exits nofun
      · rename_i numSecs parsed
        refine holds.moves ?_ nofun
        rintro other (same | same)
        · cases same
          exact parsed
        · cases same
  | blocking numSecs =>
      refine holds.goes (fun _ => .inl) (anyMask _) ?_ nofun
      rintro other (same | same)
      · cases same
      · cases same
        exact holds.asked numSecs (.inl position)
  | telling numSecs => exact (holds.prints (.sleeping (holds.asked numSecs (.inr position)))).moves nofun nofun
  | sleeping => exact holds.moves nofun nofun
  | examining =>
      dsimp only
      rw [holds.sigpending settled]
      exact (holds.prints .pending).moves nofun nofun
  | unblocking => exact holds.goes (fun _ => .inl) (anyMask _) nofun nofun
  | spinning =>
      dsimp only
      split
      · rename_i got
        refine holds.moves nofun ?_
        intro sig same
        cases same
        refine ⟨Nat.le_refl 1, holds.counts.told got, ?_⟩
        intro other positive below
        omega
      · exact holds
  | reporting sig =>
      dsimp only
      rcases holds.spun sig position with ⟨_, told, reported⟩
      split
      · rename_i below
        exact holds.reports idle position below
      · rename_i beyond
        refine holds.exits ?_
        intro _
        refine ⟨told, ?_⟩
        intro other positive below
        exact reported other positive (by omega)

theorem Truthful.mainFails (holds : Truthful setup state) {errno : Errno}
    (failed : state.mainFails setup errno = some next) : Truthful setup next := by
  unfold State.mainFails at failed
  split at failed <;> cases failed <;> exact holds.exits nofun

theorem Truthful.handlerStep (holds : Truthful setup state) {frame : Frame} {rest : List Frame}
    (running : state.frames = frame :: rest) : Truthful setup (state.handlerStep frame rest) := by
  have counts := holds.counts.handlerStep running
  have same : (state.handlerStep frame rest).pending = state.pending ∧
      (state.handlerStep frame rest).history = state.history ∧
      (state.handlerStep frame rest).pc = state.pc ∧
      (state.handlerStep frame rest).status = state.status := by
    unfold State.handlerStep
    cases frame.pc with
    | testing =>
        dsimp only
        split <;> exact ⟨rfl, rfl, rfl, rfl⟩
    | loading | storing value | returning => exact ⟨rfl, rfl, rfl, rfl⟩
  rcases same with ⟨pending, history, pc, status⟩
  refine ⟨counts, ?_, ?_, ?_, ?_, ?_⟩
  · rw [pending, history]
    exact holds.pends
  · rw [history]
    exact holds.lawful
  · rw [pc]
    exact holds.asked
  · rw [pc, history]
    exact holds.spun
  · rw [status, history]
    exact holds.ended

theorem Truthful.extend (holds : Truthful setup state) (event : Event) (counts : Counts next)
    (pc : next.pc = state.pc) (history : next.history = state.history ++ [event])
    (pends : forall sig, next.pending.amount sig = afterEvent sig (state.pending.amount sig) event)
    (fits : Fits setup state.history event) (alive : next.status ≠ .exited .success) :
    Truthful setup next where
  counts := counts
  pends := by
    intro sig
    rw [history, outstanding_concat, ← holds.pends sig]
    exact pends sig
  lawful := by
    rw [history]
    exact throughout_concat.mpr ⟨holds.lawful, fits⟩
  asked := by
    rw [pc]
    exact holds.asked
  spun := by
    intro sig position
    rw [pc] at position
    rcases holds.spun sig position with ⟨positive, told, reported⟩
    rw [history]
    exact ⟨positive, List.mem_append_left _ told, reported.append _⟩
  ended := fun ended => absurd ended alive

theorem Truthful.generate (holds : Truthful setup state) (alive : state.status ≠ .exited .success)
    (info : Siginfo) : Truthful setup (state.generate info) := by
  refine holds.extend (.sent info.si_signo) ?_ rfl rfl ?_ trivial ?_
  · exact holds.counts.keep (fun _ => .inl) holds.counts.nested rfl rfl rfl rfl (by simp)
  · intro sig
    refine Pending.amount_generate ?_ info
    intro standard
    rw [holds.pends sig]
    exact outstanding_le_one standard state.history
  · unfold State.generate
    dsimp only
    split
    · exact nofun
    · exact alive

theorem Truthful.deliver (holds : Truthful setup state) (alive : state.status ≠ .exited .success)
    {sig : Nat} (delivered : state.deliver sig = some next) : Truthful setup next := by
  rcases deliver_cases alive delivered with ⟨info, rest, taken, unblocked, caught | discarded⟩
  · rcases caught with ⟨handled, rfl⟩
    refine holds.extend (.caught sig) (holds.counts.enter unblocked handled rest) rfl rfl ?_ ?_ alive
    · intro other
      exact (Pending.amount_take taken other).2
    · rw [Fits, ← holds.pends sig]
      exact (Pending.amount_take taken sig).1
  · rcases discarded with ⟨status, notSuccess, rfl⟩
    refine holds.extend (.discarded sig) ?_ rfl rfl ?_ ?_ notSuccess
    · exact holds.counts.keep (fun _ => .inl) holds.counts.nested rfl rfl rfl rfl (by simp)
    · intro other
      exact (Pending.amount_take taken other).2
    · rw [Fits, ← holds.pends sig]
      exact (Pending.amount_take taken sig).1

theorem Truthful.step (holds : Truthful setup state) {action : Action}
    (stepped : state.step setup action = some next) : Truthful setup next := by
  have alive := alive_of_step stepped .success
  rcases step_cases stepped with ⟨settled, idle, rfl⟩ | ⟨errno, failed⟩ | ⟨frame, rest, running, rfl⟩ |
    ⟨sig, delivered⟩ | ⟨info, rfl⟩
  · exact holds.mainStep settled idle
  · exact holds.mainFails failed
  · exact holds.handlerStep running
  · exact holds.deliver alive delivered
  · exact holds.generate alive info

end

/-! ## The balance of the signals -/

section

variable {setup : Setup} {history : List Event}

end

/-- What becomes of the signals that are sent, and what the program says of it. -/
structure Accounted (setup : Setup) (state : State) : Prop where
  lawful : Throughout (Fits setup) state.history
  queued : forall sig, realtime sig = true -> state.history.count (.sent sig) =
    state.history.count (.caught sig) + state.history.count (.discarded sig) + state.pending.amount sig
  merged : forall sig, realtime sig = false -> state.pending.amount sig ≤ 1 ∧
    state.history.count (.caught sig) + state.history.count (.discarded sig) +
      state.pending.amount sig ≤ state.history.count (.sent sig)
  kept : forall sig, stopSignal sig = false -> sig ≠ SIGCONT -> .sent sig ∈ state.history ->
    .caught sig ∈ state.history ∨ .discarded sig ∈ state.history ∨ 0 < state.pending.amount sig
  counted : state.frames = [] -> forall sig, sig ≠ SIGINT ->
    state.sigCnt sig = toInt (state.history.count (.caught sig))
  reported : state.status = .exited .success ->
    .caught SIGINT ∈ state.history ∧ Reported setup NSIG state.history

def plain (sig : Nat) : Action := .generate ⟨sig, SI_USER, 0, 200, 1000⟩

end SigReceiver
end SignalBasic
end Tlpi
