import Mathlib.Logic.Function.Basic
import Tlpi.CLibrary.Strings
import Tlpi.Foundations.History
import Tlpi.Foundations.LockTable
import Tlpi.Foundations.Transition
import Tlpi.Lib.ProgramEnd

namespace Tlpi
namespace FileLock
namespace TFlock

universe u

open CLibrary Foundations Lib

/-!
# Locks on whole files

Each process runs `main` once: it opens a file, requests a shared or an exclusive lock on
it with `flock`, holds the lock while it sleeps, and releases it.  Any number of processes
run at the same time.  Which file a path leads to is decided when it is opened, so two
processes may name one file differently.

What the processes print is one history, without the times of day.  A process may be killed
at any moment, and the end of a process closes the file and drops its lock.  The ends of
processes are entries of the history that only the model makes.
-/

/-- What a process is started with.  When the word for the lock is empty, its second
character lies behind the end of the string and may be anything. -/
structure Invocation where
  program : List Byte
  words : List (List Byte)
  getpid : Int
  beyond : Byte
deriving DecidableEq, Repr

/-- What the word for the lock asks for. -/
structure Mode where
  exclusive : Bool
  nonblocking : Bool
deriving DecidableEq, Repr

structure Request extends Mode where
  file : Nat
deriving DecidableEq, Repr

/-- A typographic apostrophe. -/
def apostrophe : List Byte := [0xE2, 0x80, 0x99]

def usage (program : List Byte) : ProgramEnd :=
  usageErr (program ++ ascii " file lock [sleep-time]" ++ [newline] ++
    ascii " " ++ apostrophe ++ ascii "lock" ++ apostrophe ++ ascii " is " ++
      apostrophe ++ ascii "s" ++ apostrophe ++ ascii " (shared) or " ++
      apostrophe ++ ascii "x" ++ apostrophe ++ ascii " (exclusive)" ++ [newline] ++
    ascii " optionally followed by " ++ apostrophe ++ ascii "n" ++ apostrophe ++
      ascii " (nonblocking)" ++ [newline] ++
    ascii " " ++ apostrophe ++ ascii "sleep-time" ++ apostrophe ++
      ascii " specifies time to hold lock" ++ [newline])

/-- The first two characters of the word for the lock. -/
def letters (beyond : Byte) : List Byte -> Byte × Byte
  | [] => (0, beyond)
  | [first] => (first, 0)
  | first :: second :: _ => (first, second)

/-- What the command line asks for. -/
def Invocation.mode (invocation : Invocation) : Except ProgramEnd Mode :=
  match invocation.words with
  | path :: lock :: _ =>
      if path = ascii "--help" ∨ strchr (ascii "sx") (letters invocation.beyond lock).1 = none then
        .error (usage invocation.program)
      else
        .ok ⟨(letters invocation.beyond lock).1 ≠ 115, (letters invocation.beyond lock).2 = 110⟩
  | _ => .error (usage invocation.program)

/-- How long the lock is to be held. -/
def Invocation.sleepTime (invocation : Invocation) : Except (List Byte) Int :=
  match invocation.words[2]? with
  | none => .ok 10
  | some word => getInt (some word) GN_NONNEG (some "sleep-time")

/-- The positions of a process, each named after what it does next. -/
inductive Pc where
  | checking
  | opening (mode : Mode)
  | requesting (request : Request)
  | locking (request : Request)
  | announcing (request : Request)
  | sleeping (request : Request)
  | releasing (request : Request)
  | unlocking (request : Request)
  | finishing (request : Request)
  | ended (result : Option ProgramEnd)
deriving DecidableEq, Repr

/-- An entry of the history: one of the three lines that a process prints, or its end.  A
process that was killed has no result. -/
inductive Event where
  | requesting (request : Request)
  | granted (request : Request)
  | releasing (request : Request)
  | ended (result : Option ProgramEnd)
deriving DecidableEq, Repr

/-- What happens to a process: it goes on, its `open` leads to a file, a call of it fails, or
it is killed. -/
inductive Happening where
  | proceeds
  | opens (file : Nat)
  | fails (errno : Errno)
  | killed
deriving DecidableEq, Repr

variable {Process : Type u} [DecidableEq Process]

structure Setup (Process : Type u) where
  dumpcore : Option String
  invocation : Process -> Invocation

structure State (Process : Type u) where
  table : LockTable Process Nat
  pc : Process -> Pc
  history : List (Process × Event)

namespace State

def move (state : State Process) (process : Process) (pc : Pc) : State Process :=
  { state with pc := Function.update state.pc process pc }

def record (state : State Process) (process : Process) (event : Event) : State Process :=
  { state with history := state.history ++ [(process, event)] }

def finish (state : State Process) (process : Process) (result : Option ProgramEnd) : State Process :=
  { state.record process (.ended result) with table := state.table.release process }.move process
    (.ended result)

end State

/-- The lock of a process on a whole file. -/
def lockOf (process : Process) (request : Request) : Lock Process Nat :=
  ⟨process, request.file, request.exclusive, Region.whole⟩

/-- The end of a process whose call has failed. -/
def failure (setup : Setup Process) (errno : Errno) (call : String) : Option ProgramEnd :=
  some (.failed (errExit setup.dumpcore errno call))

/-- The end of a process that was not willing to wait. -/
def alreadyLocked (setup : Setup Process) (process : Process) : Option ProgramEnd :=
  some (.failed (fatal setup.dumpcore
    s!"PID {(setup.invocation process).getpid}: already locked - bye!"))

/-- The first call of `flock`.  While the lock cannot be granted, a process that is willing
to wait does not return from it. -/
def flock (setup : Setup Process) (state : State Process) (process : Process) (request : Request) :
    Option (State Process) :=
  match state.table.acquire (lockOf process request) with
  | some table => some ({ state with table := table }.move process (.announcing request))
  | none =>
      if request.nonblocking then some (state.finish process (alreadyLocked setup process)) else none

def step (setup : Setup Process) (state : State Process) (action : Process × Happening) :
    Option (State Process) :=
  let process := action.1
  match state.pc process, action.2 with
  | .ended _, _ => none
  | _, .killed => some (state.finish process none)
  | .checking, .proceeds =>
      match (setup.invocation process).mode with
      | .error usage => some (state.finish process (some usage))
      | .ok mode => some (state.move process (.opening mode))
  | .opening mode, .opens file => some (state.move process (.requesting ⟨mode, file⟩))
  | .opening _, .fails errno => some (state.finish process (failure setup errno "open"))
  | .requesting request, .proceeds =>
      some ((state.record process (.requesting request)).move process (.locking request))
  | .locking request, .proceeds => flock setup state process request
  | .locking _, .fails errno =>
      if errno = .EAGAIN then none
      else some (state.finish process
        (failure setup errno s!"flock (PID={(setup.invocation process).getpid})"))
  | .announcing request, .proceeds =>
      some ((state.record process (.granted request)).move process (.sleeping request))
  | .sleeping request, .proceeds =>
      match (setup.invocation process).sleepTime with
      | .error diagnostic => some (state.finish process (some (.badArguments diagnostic)))
      | .ok _ => some (state.move process (.releasing request))
  | .releasing request, .proceeds =>
      some ((state.record process (.releasing request)).move process (.unlocking request))
  | .unlocking request, .proceeds =>
      some ({ state with table := state.table.release process }.move process (.finishing request))
  | .unlocking _, .fails errno => some (state.finish process (failure setup errno "flock"))
  | .finishing _, .proceeds => some (state.finish process (some .success))
  | _, _ => none

def start : State Process where
  table := LockTable.empty
  pc := fun _ => .checking
  history := []

def machine (setup : Setup Process) : Machine (State Process) (Process × Happening) where
  Initial state := state = start
  step := step setup

/-!
## Which locks are held
-/

/-- The lock that a process at this position holds. -/
def Pc.holding : Pc -> Option Request
  | .announcing request | .sleeping request | .releasing request | .unlocking request => some request
  | .checking | .opening _ | .requesting _ | .locking _ | .finishing _ | .ended _ => none

/-- The table has the lock of each process that holds one. -/
def Held (table : LockTable Process Nat) (pc : Process -> Pc) : Prop :=
  forall lock, lock ∈ table.locks <->
    Exists fun request => (pc lock.owner).holding = some request ∧ lock = lockOf lock.owner request

variable {table next : LockTable Process Nat} {pc : Process -> Pc} {process other : Process}
  {request its : Request}

omit [DecidableEq Process] in
theorem Held.mem (held : Held table pc) (holds : (pc process).holding = some request) :
    lockOf process request ∈ table.locks :=
  (held (lockOf process request)).mpr ⟨request, holds, rfl⟩

/-- The locks of two requests can be held at once. -/
def Compatible (request its : Request) : Prop :=
  request.file = its.file -> request.exclusive = false ∧ its.exclusive = false

omit [DecidableEq Process] in
theorem conflicts_iff (different : process ≠ other) :
    (lockOf process request).Conflicts (lockOf other its) <-> ¬ Compatible request its := by
  constructor
  · rintro ⟨same, _, exclusive, _⟩ compatible
    rcases compatible same with ⟨mine, others⟩
    rcases exclusive with exclusive | exclusive
    · exact Bool.false_ne_true (mine.symm.trans exclusive)
    · exact Bool.false_ne_true (others.symm.trans exclusive)
  · intro incompatible
    unfold Compatible at incompatible
    push Not at incompatible
    rcases incompatible with ⟨same, exclusive⟩
    refine ⟨same, different, ?_, Region.whole_overlaps_whole⟩
    cases mine : request.exclusive with
    | true => exact .inl mine
    | false => exact .inr (Bool.eq_true_of_not_eq_false (exclusive mine))

omit [DecidableEq Process] in
theorem Held.compatible (held : Held table pc) (different : process ≠ other)
    (holds : (pc process).holding = some request) (others : (pc other).holding = some its) :
    Compatible request its := by
  by_contra incompatible
  exact table.compatible _ (held.mem holds) _ (held.mem others)
    ((conflicts_iff different).mpr incompatible)

/-- A process goes on with the lock that it has, or without one. -/
theorem Held.keeps (held : Held table pc) {position : Pc}
    (same : position.holding = (pc process).holding) :
    Held table (Function.update pc process position) := by
  intro lock
  rw [held lock]
  by_cases mine : lock.owner = process
  · rw [mine, Function.update_self, same]
  · rw [Function.update_of_ne mine]

theorem Held.acquires (held : Held table pc) (nothing : (pc process).holding = none)
    (acquired : table.acquire (lockOf process request) = some next) {position : Pc}
    (holds : position.holding = some request) :
    Held next (Function.update pc process position) := by
  have notOwner : forall lock, lock ∈ table.locks -> lock.owner ≠ process := by
    intro lock member mine
    rcases (held lock).mp member with ⟨_, there, _⟩
    rw [mine, nothing] at there
    cases there
  intro lock
  rw [LockTable.mem_acquire_iff acquired notOwner]
  by_cases mine : lock.owner = process
  · rw [mine, Function.update_self, holds]
    constructor
    · rintro (new | member)
      · exact ⟨request, rfl, new⟩
      · exact absurd mine (notOwner lock member)
    · rintro ⟨_, its, new⟩
      cases its
      exact .inl new
  · rw [Function.update_of_ne mine, ← held lock]
    constructor
    · rintro (new | member)
      · exact absurd (congrArg Lock.owner new) mine
      · exact member
    · exact .inr

theorem Held.releases (held : Held table pc) {position : Pc} (nothing : position.holding = none) :
    Held (table.release process) (Function.update pc process position) := by
  intro lock
  rw [LockTable.mem_release, held lock]
  by_cases mine : lock.owner = process
  · rw [mine, Function.update_self, nothing]
    constructor
    · exact fun both => absurd rfl both.2
    · rintro ⟨_, there, _⟩
      cases there
  · rw [Function.update_of_ne mine]
    exact and_iff_left mine

/-!
## What the processes print
-/

/-- By what it has printed, a process holds a lock. -/
structure Shows (process : Process) (request : Request) (history : List (Process × Event)) : Prop where
  granted : (process, .granted request) ∈ history
  kept : forall request, (process, .releasing request) ∉ history
  lives : forall result, (process, .ended result) ∉ history

/-- A process has requested a lock and lives. -/
structure Asks (process : Process) (request : Request) (history : List (Process × Event)) : Prop where
  requested : (process, .requesting request) ∈ history
  lives : forall result, (process, .ended result) ∉ history

/-- What was printed before an entry can be made.  A lock is granted only where it is
compatible with all those shown, and refused only for the sake of another process. -/
def Fits (setup : Setup Process) (history : List (Process × Event)) : Process × Event -> Prop
  | (process, .requesting request) => (setup.invocation process).mode = .ok request.toMode
  | (process, .granted request) =>
      forall other its, other ≠ process -> Shows other its history -> Compatible request its
  | (process, .releasing request) => Shows process request history
  | (process, .ended result) =>
      result = alreadyLocked setup process ->
        Exists fun request => (process, .requesting request) ∈ history ∧ request.nonblocking = true ∧
          Exists fun other => Exists fun its => other ≠ process ∧ Asks other its history ∧
            ¬ Compatible request its

/-- What a process has printed when it ends with a result, or is killed. -/
def Finished (invocation : Invocation) (printed : List Event) : Option ProgramEnd -> Prop
  | some .success =>
      Exists fun request => invocation.mode = .ok request.toMode ∧
        printed = [.requesting request, .granted request, .releasing request]
  | some (.badArguments text) =>
      (invocation.mode = .error (.badArguments text) ∧ printed = []) ∨
        (invocation.sleepTime = .error text ∧ Exists fun request =>
          invocation.mode = .ok request.toMode ∧ printed = [.requesting request, .granted request])
  | some (.failed _) | none =>
      printed = [] ∨ Exists fun request => invocation.mode = .ok request.toMode ∧
        printed <+: [.requesting request, .granted request, .releasing request]

/-- What a process has printed when it comes to a position. -/
def Known (invocation : Invocation) (entries : List Event) : Pc -> Prop
  | .checking => entries = []
  | .opening mode => entries = [] ∧ invocation.mode = .ok mode
  | .requesting request => entries = [] ∧ invocation.mode = .ok request.toMode
  | .locking request | .announcing request =>
      entries = [.requesting request] ∧ invocation.mode = .ok request.toMode
  | .sleeping request | .releasing request =>
      entries = [.requesting request, .granted request] ∧ invocation.mode = .ok request.toMode
  | .unlocking request | .finishing request =>
      entries = [.requesting request, .granted request, .releasing request] ∧
        invocation.mode = .ok request.toMode
  | .ended result =>
      Exists fun printed => entries = printed ++ [.ended result] ∧ Finished invocation printed result

variable {setup : Setup Process} {state after : State Process} {history : List (Process × Event)}
  {invocation : Invocation} {position : Pc}

/-- A process that shows a lock holds it. -/
theorem Known.holding (known : Known invocation (entriesOf process history) position)
    (shows : Shows process request history) : position.holding = some request := by
  have granted := mem_entriesOf.mpr shows.granted
  have kept : forall request, .releasing request ∉ entriesOf process history :=
    fun request member => shows.kept request (mem_entriesOf.mp member)
  have lives : forall result, .ended result ∉ entriesOf process history :=
    fun result member => shows.lives result (mem_entriesOf.mp member)
  cases position with
  | checking =>
      rw [show entriesOf process history = [] from known] at granted
      cases granted
  | opening mode | requesting its =>
      rw [known.1] at granted
      cases granted
  | locking its | announcing its =>
      rw [known.1, List.mem_singleton] at granted
      cases granted
  | sleeping its | releasing its =>
      rw [known.1] at granted
      simp only [List.mem_cons, reduceCtorEq, Event.granted.injEq, List.not_mem_nil, or_false,
        false_or] at granted
      rw [granted, Pc.holding]
  | unlocking its | finishing its =>
      rw [known.1] at kept
      exact absurd (List.mem_cons_of_mem _ (List.mem_cons_of_mem _ (List.mem_singleton_self _))) (kept its)
  | ended result =>
      rcases known with ⟨printed, entries, _⟩
      rw [entries] at lives
      exact absurd (List.mem_append_right _ (List.mem_singleton_self _)) (lives result)

/-- A process that holds a lock has asked for it. -/
theorem Known.asks (known : Known invocation (entriesOf process history) position)
    (holds : position.holding = some request) : Asks process request history := by
  have asked : .requesting request ∈ entriesOf process history ∧
      forall result, .ended result ∉ entriesOf process history := by
    cases position with
    | checking | opening _ | requesting _ | locking _ | finishing _ | ended _ => cases holds
    | announcing its | sleeping its | releasing its | unlocking its =>
        cases holds
        rw [known.1]
        simp
  exact ⟨mem_entriesOf.mp asked.1, fun result member => asked.2 result (mem_entriesOf.mpr member)⟩

structure Invariant (setup : Setup Process) (state : State Process) : Prop where
  rule : Throughout (Fits setup) state.history
  held : Held state.table state.pc
  known : forall process, Known (setup.invocation process) (entriesOf process state.history) (state.pc process)

namespace Invariant

theorem moves (holds : Invariant setup state) (process : Process) {table : LockTable Process Nat}
    (held : Held table (Function.update state.pc process position))
    (known : Known (setup.invocation process) (entriesOf process state.history) position) :
    Invariant setup ({ state with table := table }.move process position) where
  rule := holds.rule
  held := held
  known other := by
    change Known _ _ (Function.update state.pc process position other)
    by_cases same : other = process
    · rw [same, Function.update_self]
      exact known
    · rw [Function.update_of_ne same]
      exact holds.known other

theorem records (holds : Invariant setup state) (process : Process) {table : LockTable Process Nat}
    (held : Held table (Function.update state.pc process position)) {event : Event}
    (fits : Fits setup state.history (process, event))
    (known : Known (setup.invocation process) (entriesOf process state.history ++ [event]) position) :
    Invariant setup ({ state.record process event with table := table }.move process position) where
  rule := throughout_concat.mpr ⟨holds.rule, fits⟩
  held := held
  known other := by
    change Known _ (entriesOf other (state.history ++ [(process, event)]))
      (Function.update state.pc process position other)
    by_cases same : other = process
    · rw [same, Function.update_self, entriesOf_concat_self]
      exact known
    · rw [Function.update_of_ne same, entriesOf_concat_of_ne same]
      exact holds.known other

/-- A process ends, and drops the lock that it may hold. -/
theorem finishes (holds : Invariant setup state) (process : Process) {result : Option ProgramEnd}
    (fits : Fits setup state.history (process, .ended result))
    (finished : Finished (setup.invocation process) (entriesOf process state.history) result) :
    Invariant setup (state.finish process result) :=
  holds.records process (holds.held.releases rfl) fits ⟨_, rfl, finished⟩

end Invariant

/-!
## Every step keeps the invariant
-/

theorem mode_error {refusal : ProgramEnd} (refused : invocation.mode = .error refusal) :
    refusal = usage invocation.program := by
  unfold Invocation.mode at refused
  split at refused
  · split at refused
    · exact (Except.error.inj refused).symm
    · cases refused
  · exact (Except.error.inj refused).symm

omit [DecidableEq Process] in
/-- No other end is taken for that of a process that was not willing to wait. -/
theorem failure_ne_alreadyLocked (setup : Setup Process) (errno : Errno) (call : String)
    (process : Process) : failure setup errno call ≠ alreadyLocked setup process := by
  intro same
  unfold failure alreadyLocked errExit fatal at same
  injection same with same
  injection same with same
  injection same with same
  cases same

variable {happening : Happening}

namespace Invariant

theorem leaves (holds : Invariant setup state) (process : Process) {result : Option ProgramEnd}
    (different : result ≠ alreadyLocked setup process)
    (finished : Finished (setup.invocation process) (entriesOf process state.history) result) :
    Invariant setup (state.finish process result) :=
  holds.finishes process (fun same => absurd same different) finished

theorem killed (holds : Invariant setup state)
    (lives : forall result, state.pc process ≠ .ended result) :
    Finished (setup.invocation process) (entriesOf process state.history) none := by
  have known := holds.known process
  cases position : state.pc process with
  | checking =>
      rw [position] at known
      exact .inl known
  | opening mode | requesting request =>
      rw [position] at known
      exact .inl known.1
  | locking request | announcing request =>
      rw [position] at known
      exact .inr ⟨request, known.2, by rw [known.1]; exact ⟨_, rfl⟩⟩
  | sleeping request | releasing request =>
      rw [position] at known
      exact .inr ⟨request, known.2, by rw [known.1]; exact ⟨_, rfl⟩⟩
  | unlocking request | finishing request =>
      rw [position] at known
      exact .inr ⟨request, known.2, [], (List.append_nil _).trans known.1⟩
  | ended result => exact absurd position (lives result)

theorem flocks (holds : Invariant setup state) (position : state.pc process = .locking request)
    (taken : flock setup state process request = some after) : Invariant setup after := by
  have known := holds.known process
  rw [position] at known
  rcases known with ⟨entries, asked⟩
  unfold flock at taken
  split at taken
  · rename_i table acquired
    cases taken
    exact holds.moves process (holds.held.acquires (by rw [position]; rfl) acquired rfl) ⟨entries, asked⟩
  · rename_i refused
    split at taken
    · rename_i nonblocking
      cases taken
      apply holds.finishes process
      · intro _
        rcases LockTable.acquire_eq_none refused with ⟨lock, member, conflicts⟩
        rcases (holds.held lock).mp member with ⟨its, has, same⟩
        have different : lock.owner ≠ process := conflicts.2.1
        rw [same] at conflicts
        refine ⟨request, mem_entriesOf.mp (by rw [entries]; exact List.mem_singleton_self _),
          nonblocking, lock.owner, its, different, (holds.known lock.owner).asks has, ?_⟩
        exact (conflicts_iff different.symm).mp conflicts.symm
      · exact .inr ⟨request, asked, by rw [entries]; exact ⟨_, rfl⟩⟩
    · cases taken

/-- One step of a process that goes on. -/
theorem proceeds (holds : Invariant setup state)
    (taken : step setup state (process, .proceeds) = some after) : Invariant setup after := by
  have known := holds.known process
  unfold step at taken
  dsimp only at taken
  cases position : state.pc process with
  | checking =>
      rw [position] at known taken
      dsimp only at taken
      split at taken
      · rename_i refusal refused
        cases taken
        cases mode_error refused
        exact holds.leaves process nofun (.inl ⟨refused, known⟩)
      · rename_i mode asked
        cases taken
        exact holds.moves process (holds.held.keeps (by rw [position]; rfl)) ⟨known, asked⟩
  | opening mode =>
      rw [position] at taken
      cases taken
  | requesting request =>
      rw [position] at known taken
      cases taken
      refine holds.records process (holds.held.keeps (by rw [position]; rfl)) known.2 ?_
      rw [known.1]
      exact ⟨rfl, known.2⟩
  | locking request =>
      rw [position] at taken
      exact holds.flocks position taken
  | announcing request =>
      rw [position] at known taken
      cases taken
      apply holds.records process (holds.held.keeps (by rw [position]; rfl))
      · intro other its different shows
        have others := (holds.known other).holding shows
        exact holds.held.compatible different.symm (by rw [position]; rfl) others
      · rw [known.1]
        exact ⟨rfl, known.2⟩
  | sleeping request =>
      rw [position] at known taken
      dsimp only at taken
      split at taken
      · rename_i diagnostic refused
        cases taken
        exact holds.leaves process nofun (.inr ⟨refused, request, known.2, known.1⟩)
      · cases taken
        exact holds.moves process (holds.held.keeps (by rw [position]; rfl)) known
  | releasing request =>
      rw [position] at known taken
      cases taken
      apply holds.records process (holds.held.keeps (by rw [position]; rfl))
      · refine ⟨mem_entriesOf.mp ?_, ?_, ?_⟩
        · rw [known.1]
          exact List.mem_cons_of_mem _ (List.mem_singleton_self _)
        · intro its member
          have listed := mem_entriesOf.mpr member
          rw [known.1] at listed
          simp at listed
        · intro result member
          have listed := mem_entriesOf.mpr member
          rw [known.1] at listed
          simp at listed
      · rw [known.1]
        exact ⟨rfl, known.2⟩
  | unlocking request =>
      rw [position] at known taken
      cases taken
      exact holds.moves process (holds.held.releases rfl) known
  | finishing request =>
      rw [position] at known taken
      cases taken
      exact holds.leaves process nofun ⟨request, known.2, known.1⟩
  | ended result =>
      rw [position] at taken
      cases taken

theorem fails (holds : Invariant setup state) {errno : Errno}
    (taken : step setup state (process, .fails errno) = some after) : Invariant setup after := by
  have known := holds.known process
  unfold step at taken
  dsimp only at taken
  cases position : state.pc process with
  | opening mode =>
      rw [position] at known taken
      cases taken
      exact holds.leaves process (failure_ne_alreadyLocked _ _ _ _) (.inl known.1)
  | locking request =>
      rw [position] at known taken
      dsimp only at taken
      split at taken
      · cases taken
      · cases taken
        refine holds.leaves process (failure_ne_alreadyLocked _ _ _ _) (.inr ⟨request, known.2, ?_⟩)
        rw [known.1]
        exact ⟨_, rfl⟩
  | unlocking request =>
      rw [position] at known taken
      cases taken
      exact holds.leaves process (failure_ne_alreadyLocked _ _ _ _)
        (.inr ⟨request, known.2, [], (List.append_nil _).trans known.1⟩)
  | checking | requesting _ | announcing _ | sleeping _ | releasing _ | finishing _ | ended _ =>
      rw [position] at taken
      cases taken

end Invariant

theorem step_preserves (action : Process × Happening) (holds : Invariant setup state)
    (taken : step setup state action = some after) : Invariant setup after := by
  rcases action with ⟨process, happening⟩
  cases happening with
  | proceeds => exact holds.proceeds taken
  | fails errno => exact holds.fails taken
  | opens file =>
      have known := holds.known process
      unfold step at taken
      dsimp only at taken
      cases position : state.pc process with
      | opening mode =>
          rw [position] at known taken
          cases taken
          exact holds.moves process (holds.held.keeps (by rw [position]; rfl)) known
      | checking | requesting _ | locking _ | announcing _ | sleeping _ | releasing _ | unlocking _
      | finishing _ | ended _ =>
          rw [position] at taken
          cases taken
  | killed =>
      have lives : forall result, state.pc process ≠ .ended result := by
        intro result position
        unfold step at taken
        dsimp only at taken
        rw [position] at taken
        cases taken
      have finished := holds.killed lives
      have same : state.finish process none = after := by
        unfold step at taken
        dsimp only at taken
        cases position : state.pc process with
        | ended result => exact absurd position (lives result)
        | checking | opening _ | requesting _ | locking _ | announcing _ | sleeping _ | releasing _
        | unlocking _ | finishing _ =>
            rw [position] at taken
            exact Option.some.inj taken
      rw [← same]
      exact holds.leaves process nofun finished

theorem start_invariant (setup : Setup Process) : Invariant setup start where
  rule := throughout_nil
  held lock := by
    constructor
    · intro member
      cases member
    · rintro ⟨_, nothing, _⟩
      cases nothing
  known _ := rfl

theorem reachable_invariant (reached : (machine setup).Reachable state) : Invariant setup state := by
  apply reached.invariant
  · rintro _ rfl
    exact start_invariant setup
  · intro before action after holds taken
    exact step_preserves action holds taken

/-!
## What the locks achieve
-/

/-- The lock on a file guards it, whatever the processes do and whenever they are killed. -/
structure Guarded (setup : Setup Process) (state : State Process) : Prop where
  /-- Each line and each end fits what was printed before. -/
  rule : Throughout (Fits setup) state.history
  /-- Between the two calls of `flock`, a process shares the file with no other, or all of
  them only share it. -/
  exclusion : forall process other request its, process ≠ other ->
    (state.pc process).holding = some request -> (state.pc other).holding = some its ->
      Compatible request its
  finished : forall process result, state.pc process = .ended result ->
    Exists fun printed => entriesOf process state.history = printed ++ [.ended result] ∧
      Finished (setup.invocation process) printed result
  /-- A process waits only if it is willing to, and for another one that can go on. -/
  waits : forall process request, state.pc process = .locking request ->
    step setup state (process, .proceeds) = none ->
      request.nonblocking = false ∧ Exists fun other => Exists fun its => other ≠ process ∧
        (state.pc other).holding = some its ∧ ¬ Compatible request its ∧
          (step setup state (other, .proceeds)).isSome = true

/-- No process that holds a lock is kept from going on. -/
theorem step_isSome_of_holding (holds : (state.pc process).holding = some request) :
    (step setup state (process, .proceeds)).isSome = true := by
  unfold step
  dsimp only
  cases position : state.pc process with
  | announcing its | releasing its | unlocking its => rfl
  | sleeping its =>
      dsimp only
      split <;> rfl
  | checking | opening _ | requesting _ | locking _ | finishing _ | ended _ =>
      rw [position] at holds
      cases holds

theorem Invariant.waits (holds : Invariant setup state) (position : state.pc process = .locking request)
    (waiting : step setup state (process, .proceeds) = none) :
    request.nonblocking = false ∧ Exists fun other => Exists fun its => other ≠ process ∧
      (state.pc other).holding = some its ∧ ¬ Compatible request its ∧
        (step setup state (other, .proceeds)).isSome = true := by
  unfold step at waiting
  dsimp only at waiting
  rw [position] at waiting
  dsimp only at waiting
  unfold flock at waiting
  split at waiting
  · cases waiting
  · rename_i refused
    split at waiting
    · cases waiting
    · rename_i willing
      rcases LockTable.acquire_eq_none refused with ⟨lock, member, conflicts⟩
      rcases (holds.held lock).mp member with ⟨its, has, same⟩
      have different : lock.owner ≠ process := conflicts.2.1
      rw [same] at conflicts
      exact ⟨Bool.eq_false_iff.mpr willing, lock.owner, its, different, has,
        (conflicts_iff different.symm).mp conflicts.symm, step_isSome_of_holding has⟩

/-- Any number of processes run at the same time, on any files. -/
theorem files_guarded (setup : Setup Process) :
    forall state, (machine setup).Reachable state -> Guarded setup state := by
  intro state reached
  have holds := reachable_invariant reached
  exact {
    rule := holds.rule
    exclusion := fun _ _ _ _ different mine others => holds.held.compatible different mine others
    finished := by
      intro process result ended
      have known := holds.known process
      rw [ended] at known
      exact known
    waits := fun _ _ position waiting => holds.waits position waiting }

/-! Two processes share a file, one will not wait for it, and one that waits is granted its
lock when one of the two has gone on and the other was killed. -/

def sharedSetup : Setup (Fin 4) where
  dumpcore := none
  invocation process :=
    { program := ascii "t_flock"
      words := [ascii "tfile", [ascii "s", ascii "s", ascii "xn", []].getD process [], ascii "60"]
      getpid := 1000 + process.val
      beyond := 54 }

def sharedSteps : List (Fin 4 × Happening) :=
  let arrives (process : Fin 4) : List (Fin 4 × Happening) :=
    [(process, .proceeds), (process, .opens 7), (process, .proceeds)]
  let proceeds (process : Fin 4) (steps : Nat) : List (Fin 4 × Happening) :=
    List.replicate steps (process, .proceeds)
  arrives 0 ++ arrives 1 ++ arrives 2 ++ arrives 3 ++ proceeds 0 2 ++ proceeds 1 2 ++ proceeds 2 1 ++
    proceeds 0 4 ++ [(1, .killed)] ++ proceeds 3 2

def sharedFinal : State (Fin 4) := ((machine sharedSetup).exec start sharedSteps).get (by decide +kernel)

theorem files_guarded_shared :
    (sharedFinal.pc 0 = .ended (some .success) ∧ sharedFinal.pc 1 = .ended none ∧
      sharedFinal.pc 2 = .ended (alreadyLocked sharedSetup 2) ∧
        sharedFinal.pc 3 = .sleeping ⟨⟨true, false⟩, 7⟩) ∧
      Guarded sharedSetup sharedFinal := by
  have executed : (machine sharedSetup).exec start sharedSteps = some sharedFinal :=
    (Option.some_get _).symm
  exact ⟨by decide +kernel, files_guarded _ _ (Machine.reachable_of_exec rfl executed)⟩

end TFlock
end FileLock
end Tlpi
