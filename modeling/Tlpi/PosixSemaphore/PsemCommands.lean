import Mathlib.Logic.Function.Basic
import Tlpi.CLibrary.Getopt
import Tlpi.CLibrary.NamedSemaphore
import Tlpi.Foundations.Transition
import Tlpi.Lib.ProgramEnd

namespace Tlpi
namespace PosixSemaphore
namespace PsemCommands

universe u

open CLibrary Foundations Lib NamedSemaphore

/-!
# The commands for named semaphores

`psem_create`, `psem_post`, `psem_wait`, `psem_getvalue` and `psem_unlink` each do one thing
to a semaphore that the command line names.  Any number of them run at the same time, on
any names; processes are told apart by an index of any type.

Which file a name stands for, and which names are refused, is left to the system; several
names may stand for one file.  Permissions are not checked here, but any call may be refused.
The history of what has been done is a record of the model.
-/

structure Setup where
  posixlyCorrect : Bool
  dumpcore : Option String
  fileName : List Byte -> Except Errno (List Byte)

/-- A command with its words behind the name of the program. -/
inductive Command where
  | psem_create (program : List Byte) (words : List (List Byte))
  | psem_post (program : List Byte) (words : List (List Byte))
  | psem_wait (getpid : Int) (program : List Byte) (words : List (List Byte))
  | psem_getvalue (program : List Byte) (words : List (List Byte))
  | psem_unlink (program : List Byte) (words : List (List Byte))

/-- What is done to a semaphore that has been opened. -/
inductive Act where
  | post
  | wait (getpid : Int)
  | getvalue
deriving DecidableEq, Repr

/-- What a command line asks for. -/
inductive Task where
  | create (name : List Byte) (creates exclusive : Bool) (perms value : Nat)
  | act (name : List Byte) (act : Act)
  | unlink (name : List Byte)
deriving DecidableEq, Repr

/-- The option string `"cx"`. -/
def optionsCx (letter : Byte) : Option Bool :=
  if letter = 99 then some false else if letter = 120 then some false else none

/-- `usageError` of `psem_create`. -/
def usageError (program : List Byte) : ProgramEnd :=
  .badArguments (ascii "Usage: " ++ program ++ ascii " [-cx] name [octal-perms [value]]" ++ [newline] ++
    ascii "    -c   Create semaphore (O_CREAT)" ++ [newline] ++
    ascii "    -x   Create exclusively (O_EXCL)" ++ [newline])

/-- An operand that may be missing. -/
def optionalInt (operand : Option (List Byte)) (flags : Nat) (name : String) (default : Nat) :
    Except ProgramEnd Nat :=
  match operand with
  | none => .ok default
  | some text =>
      match getInt (some text) flags (some name) with
      | .ok value => .ok (toUnsigned value)
      | .error diagnostic => .error (.badArguments diagnostic)

/-- The command line of `psem_create`. -/
def createTask (posixlyCorrect : Bool) (program : List Byte) (words : List (List Byte)) :
    Except ProgramEnd Task :=
  let scanned := Getopt.scan optionsCx posixlyCorrect none words
  match scanned.refused, scanned.operands with
  | none, name :: rest =>
      match optionalInt rest.head? GN_BASE_8 "octal-perms" 0o600, optionalInt rest[1]? 0 "value" 0 with
      | .ok perms, .ok value =>
          .ok (.create name (scanned.options.contains ⟨99, none⟩) (scanned.options.contains ⟨120, none⟩)
            perms value)
      | .error refusal, _ => .error refusal
      | .ok _, .error refusal => .error refusal
  | _, _ => .error (usageError program)

/-- The usage of the other commands. -/
def semName (program : List Byte) : ProgramEnd := usageErr (program ++ ascii " sem-name")

/-- What a command reads from its command line. -/
def Command.task (setup : Setup) : Command -> Except ProgramEnd Task
  | .psem_create program words => createTask setup.posixlyCorrect program words
  | .psem_post program words =>
      match words with
      | [name] => .ok (.act name .post)
      | _ => .error (semName program)
  | .psem_wait getpid program words =>
      match words with
      | [] => .error (semName program)
      | name :: _ => if name = ascii "--help" then .error (semName program) else .ok (.act name (.wait getpid))
  | .psem_getvalue program words =>
      match words with
      | [name] => .ok (.act name .getvalue)
      | _ => .error (semName program)
  | .psem_unlink program words =>
      match words with
      | [name] => if name = ascii "--help" then .error (semName program) else .ok (.unlink name)
      | _ => .error (semName program)

/-- The positions of a process, each named after what it does next. -/
inductive Pc where
  | starting
  | calling (task : Task)
  | acting (act : Act) (index : Nat)
  | exiting (text : List Byte)
  | ended (result : ProgramEnd)
deriving DecidableEq, Repr

variable {Process : Type u} [DecidableEq Process]

structure State (Process : Type u) where
  semaphores : List NamedSemaphore
  pc : Process -> Pc
  output : Process -> List Byte
  history : List (Process × Done)

/-- How a call ends that may fail. -/
inductive Outcome where
  | succeeds
  | fails (errno : Errno)
deriving DecidableEq, Repr

namespace State

def move (state : State Process) (process : Process) (pc : Pc) : State Process :=
  { state with pc := Function.update state.pc process pc }

/-- The semaphores after a call, and its entry in the history. -/
def record (state : State Process) (process : Process) (done : Done)
    (semaphores : List NamedSemaphore) : State Process :=
  { state with semaphores := semaphores, history := state.history ++ [(process, done)] }

/-- The end of a process whose call has failed. -/
def fail (setup : Setup) (state : State Process) (process : Process) (errno : Errno) (call : String) :
    State Process :=
  state.move process (.ended (.failed (errExit setup.dumpcore errno call)))

end State

/-- The call of `sem_open` or of `sem_unlink`.  A semaphore that is new has the number of
those that were there. -/
def callStep (setup : Setup) (state : State Process) (process : Process) : Task -> State Process
  | .create name creates exclusive perms value =>
      match setup.fileName name with
      | .error errno => state.fail setup process errno "sem_open"
      | .ok file =>
          match semOpen state.semaphores file creates exclusive perms value with
          | .error errno => state.fail setup process errno "sem_open"
          | .ok (index, semaphores) =>
              let done := if index < state.semaphores.length then Done.opened index file
                else Done.created index file value
              (state.record process done semaphores).move process (.exiting [])
  | .act name act =>
      match setup.fileName name with
      | .error errno => state.fail setup process errno "sem_open"
      | .ok file =>
          match semOpen state.semaphores file false false 0 0 with
          | .error errno => state.fail setup process errno "sem_open"
          | .ok (index, semaphores) =>
              (state.record process (.opened index file) semaphores).move process (.acting act index)
  | .unlink name =>
      match setup.fileName name with
      | .error _ => state.fail setup process .ENOENT "sem_unlink"
      | .ok file =>
          match semUnlink state.semaphores file with
          | .error errno => state.fail setup process errno "sem_unlink"
          | .ok (index, semaphores) =>
              (state.record process (.unlinked index file) semaphores).move process (.exiting [])

def Act.call : Act -> String
  | .post => "sem_post"
  | .wait _ => "sem_wait"
  | .getvalue => "sem_getvalue"

/-- The line that `psem_wait` prints. -/
def waitLine (getpid : Int) : List Byte := renderInt getpid ++ ascii " sem_wait() succeeded" ++ [newline]

/-- The call on the semaphore; `sem_wait` sleeps while the value is zero. -/
def actStep (setup : Setup) (state : State Process) (process : Process) (index : Nat) :
    Act -> Option (State Process)
  | .post =>
      match semPost state.semaphores index with
      | .error errno => some (state.fail setup process errno "sem_post")
      | .ok semaphores => some ((state.record process (.posted index) semaphores).move process (.exiting []))
  | .wait getpid =>
      match semWait state.semaphores index with
      | none => none
      | some semaphores =>
          some ((state.record process (.waited index) semaphores).move process (.exiting (waitLine getpid)))
  | .getvalue =>
      match state.semaphores[index]? with
      | none => some (state.fail setup process .EINVAL "sem_getvalue")
      | some semaphore =>
          some ((state.record process (.read index semaphore.value) state.semaphores).move process
            (.exiting (renderNat semaphore.value ++ [newline])))

/-- One step of a process.  A call may be refused with the error that the environment
gives. -/
def step (setup : Setup) (command : Process -> Command) (state : State Process)
    (action : Process × Outcome) : Option (State Process) :=
  let process := action.1
  match state.pc process, action.2 with
  | .starting, _ =>
      match (command process).task setup with
      | .ok task => some (state.move process (.calling task))
      | .error usage => some (state.move process (.ended usage))
  | .calling task, .succeeds => some (callStep setup state process task)
  | .calling (.unlink _), .fails errno => some (state.fail setup process errno "sem_unlink")
  | .calling (.create _ _ _ _ _), .fails errno | .calling (.act _ _), .fails errno =>
      some (state.fail setup process errno "sem_open")
  | .acting act index, .succeeds => actStep setup state process index act
  | .acting act _, .fails errno => some (state.fail setup process errno act.call)
  | .exiting text, _ =>
      some ({ state with output := Function.update state.output process (state.output process ++ text) }.move
        process (.ended .success))
  | .ended _, _ => none

def start : State Process where
  semaphores := []
  pc := fun _ => .starting
  output := fun _ => []
  history := []

def machine (setup : Setup) (command : Process -> Command) :
    Machine (State Process) (Process × Outcome) where
  Initial state := state = start
  step := step setup command

/-!
## What each process has done
-/

/-- What a command that was successful has done, and what it has printed. -/
def Complete (setup : Setup) (task : Task) (entries : List Done) (output : List Byte) : Prop :=
  match task with
  | .create name creates exclusive _ value =>
      output = [] ∧ Exists fun file => setup.fileName name = .ok file ∧ Exists fun index =>
        (creates = true ∧ entries = [.created index file value]) ∨
          ((creates && exclusive) = false ∧ entries = [.opened index file])
  | .act name act =>
      Exists fun file => setup.fileName name = .ok file ∧ Exists fun index =>
        match act with
        | .post => output = [] ∧ entries = [.opened index file, .posted index]
        | .wait getpid => output = waitLine getpid ∧ entries = [.opened index file, .waited index]
        | .getvalue => Exists fun value =>
            output = renderNat value ++ [newline] ∧ entries = [.opened index file, .read index value]
  | .unlink name =>
      output = [] ∧ Exists fun file => setup.fileName name = .ok file ∧ Exists fun index =>
        entries = [.unlinked index file]

/-- A command that failed has changed nothing; at most it has opened a semaphore that it
was going to use. -/
def Harmless (task : Except ProgramEnd Task) (entries : List Done) : Prop :=
  entries = [] ∨ Exists fun name => Exists fun act => task = .ok (.act name act) ∧
    Exists fun index => Exists fun file => entries = [.opened index file]

/-- What is known of a process at its position. -/
def Known (setup : Setup) (task : Except ProgramEnd Task) (pc : Pc) (output : List Byte)
    (entries : List Done) : Prop :=
  match pc with
  | .starting => output = [] ∧ entries = []
  | .calling its => output = [] ∧ entries = [] ∧ task = .ok its
  | .acting act index =>
      output = [] ∧ Exists fun name => Exists fun file => task = .ok (.act name act) ∧
        setup.fileName name = .ok file ∧ entries = [.opened index file]
  | .exiting text =>
      output = [] ∧ Exists fun its => task = .ok its ∧ Complete setup its entries text
  | .ended .success => Exists fun its => task = .ok its ∧ Complete setup its entries output
  | .ended _ => output = [] ∧ Harmless task entries

structure Invariant (setup : Setup) (command : Process -> Command) (state : State Process) : Prop where
  rule : Throughout Fits state.history
  recorded : Recorded state.history state.semaphores
  known : forall process, Known setup ((command process).task setup) (state.pc process)
    (state.output process) (entriesOf process state.history)

variable {setup : Setup} {command : Process -> Command} {state next : State Process} {process : Process}

theorem Invariant.moves (holds : Invariant setup command state) (output : List Byte) (pc : Pc)
    (known : Known setup ((command process).task setup) pc output (entriesOf process state.history)) :
    Invariant setup command
      ({ state with output := Function.update state.output process output }.move process pc) where
  rule := holds.rule
  recorded := holds.recorded
  known other := by
    change Known setup _ (Function.update state.pc process pc other)
      (Function.update state.output process output other) _
    by_cases same : other = process
    · rw [same, Function.update_self, Function.update_self]
      exact known
    · rw [Function.update_of_ne same, Function.update_of_ne same]
      exact holds.known other

theorem Invariant.ends (holds : Invariant setup command state) (silent : state.output process = [])
    (harmless : Harmless ((command process).task setup) (entriesOf process state.history))
    {result : ProgramEnd} (unsuccessful : result ≠ .success) :
    Invariant setup command (state.move process (.ended result)) := by
  have known : Known setup ((command process).task setup) (.ended result) (state.output process)
      (entriesOf process state.history) := by
    cases result with
    | success => exact absurd rfl unsuccessful
    | badArguments _ => exact ⟨silent, harmless⟩
    | failed _ => exact ⟨silent, harmless⟩
  have moved := holds.moves _ _ known
  rw [Function.update_eq_self] at moved
  exact moved

theorem Invariant.does (holds : Invariant setup command state) {done : Done}
    {semaphores : List NamedSemaphore}
    (both : Fits state.history (process, done) ∧
      Recorded (state.history ++ [(process, done)]) semaphores) (pc : Pc)
    (known : Known setup ((command process).task setup) pc (state.output process)
      (entriesOf process state.history ++ [done])) :
    Invariant setup command ((state.record process done semaphores).move process pc) where
  rule := throughout_concat.mpr ⟨holds.rule, both.1⟩
  recorded := both.2
  known other := by
    change Known setup _ (Function.update state.pc process pc other) _
      (entriesOf other (state.history ++ [(process, done)]))
    by_cases same : other = process
    · rw [same, Function.update_self, entriesOf_concat_self]
      exact known
    · rw [Function.update_of_ne same, entriesOf_concat_of_ne same]
      exact holds.known other

/-- The result of `sem_open` is either an old semaphore or a new one. -/
theorem semOpen_eq_ok {semaphores after : List NamedSemaphore} {file : List Byte}
    {creates exclusive : Bool} {perms value index : Nat}
    (opened : semOpen semaphores file creates exclusive perms value = .ok (index, after)) :
    (creates = true ∧ create semaphores file perms value = .ok (index, after)) ∨
      ((creates && exclusive) = false ∧ find semaphores file = some index ∧ after = semaphores) := by
  unfold semOpen at opened
  split at opened
  · rename_i both
    exact .inl ⟨(Bool.and_eq_true_iff.mp both).1, opened⟩
  · rename_i notBoth
    split at opened
    · rename_i found
      cases opened
      exact .inr ⟨Bool.eq_false_iff.mpr notBoth, found, rfl⟩
    · split at opened
      · rename_i creates
        exact .inl ⟨creates, opened⟩
      · cases opened

theorem callStep_preserves (holds : Invariant setup command state) {task : Task}
    (position : state.pc process = .calling task) :
    Invariant setup command (callStep setup state process task) := by
  have known := holds.known process
  rw [position] at known
  rcases known with ⟨silent, nothing, asked⟩
  have fails : forall errno call, Invariant setup command (state.fail setup process errno call) :=
    fun errno call => holds.ends silent (.inl nothing) nofun
  cases task with
  | create name creates exclusive perms value =>
      unfold callStep
      dsimp only
      split
      · exact fails _ _
      · rename_i file named
        split
        · exact fails _ _
        · rename_i index semaphores opened
          rcases semOpen_eq_ok opened with ⟨creating, created⟩ | ⟨plain, found, rfl⟩
          · rcases holds.recorded.creates holds.rule process created with ⟨new, both⟩
            rw [if_neg (by omega)]
            apply holds.does both
            rw [silent, nothing]
            exact ⟨rfl, _, asked, rfl, file, named, index, .inl ⟨creating, rfl⟩⟩
          · rcases find_eq_some found with ⟨_, there, _⟩
            rw [if_pos (List.getElem?_eq_some_iff.mp there).1]
            apply holds.does (holds.recorded.opens process found)
            rw [silent, nothing]
            exact ⟨rfl, _, asked, rfl, file, named, index, .inr ⟨plain, rfl⟩⟩
  | act name act =>
      unfold callStep
      dsimp only
      split
      · exact fails _ _
      · rename_i file named
        split
        · exact fails _ _
        · rename_i index semaphores opened
          rcases semOpen_eq_ok opened with ⟨never, _⟩ | ⟨_, found, rfl⟩
          · cases never
          · apply holds.does (holds.recorded.opens process found)
            rw [silent, nothing]
            exact ⟨rfl, name, file, asked, named, rfl⟩
  | unlink name =>
      unfold callStep
      dsimp only
      split
      · exact fails _ _
      · rename_i file named
        split
        · exact fails _ _
        · rename_i index semaphores unlinked
          apply holds.does (holds.recorded.unlinks process unlinked)
          rw [silent, nothing]
          exact ⟨rfl, _, asked, rfl, file, named, index, rfl⟩

theorem actStep_preserves (holds : Invariant setup command state) {act : Act} {index : Nat}
    (position : state.pc process = .acting act index)
    (taken : actStep setup state process index act = some next) : Invariant setup command next := by
  have known := holds.known process
  rw [position] at known
  rcases known with ⟨silent, name, file, asked, named, entries⟩
  have opened : Exists fun file => (process, Done.opened index file) ∈ state.history :=
    ⟨file, mem_entriesOf.mp (by rw [entries]; exact List.mem_singleton_self _)⟩
  have fails : forall errno call, Invariant setup command (state.fail setup process errno call) :=
    fun errno call => holds.ends silent (.inr ⟨name, act, asked, index, file, entries⟩) nofun
  cases act with
  | post =>
      unfold actStep at taken
      dsimp only at taken
      split at taken
      · cases taken
        exact fails _ _
      · rename_i semaphores posted
        cases taken
        apply holds.does (holds.recorded.posts opened posted)
        rw [silent, entries]
        exact ⟨rfl, _, asked, file, named, index, rfl, rfl⟩
  | wait getpid =>
      unfold actStep at taken
      dsimp only at taken
      split at taken
      · cases taken
      · rename_i semaphores waited
        cases taken
        apply holds.does (holds.recorded.waits opened waited)
        rw [silent, entries]
        exact ⟨rfl, _, asked, file, named, index, rfl, rfl⟩
  | getvalue =>
      unfold actStep at taken
      dsimp only at taken
      split at taken
      · cases taken
        exact fails _ _
      · rename_i semaphore there
        cases taken
        apply holds.does (holds.recorded.reads there opened)
        rw [silent, entries]
        exact ⟨rfl, _, asked, file, named, index, semaphore.value, rfl, rfl⟩

theorem optionalInt_error {operand : Option (List Byte)} {flags : Nat} {name : String} {default : Nat}
    {refusal : ProgramEnd} (refused : optionalInt operand flags name default = .error refusal) :
    refusal ≠ .success := by
  unfold optionalInt at refused
  split at refused
  · cases refused
  · split at refused
    · cases refused
    · cases refused
      exact nofun

/-- A command line that is refused is no success. -/
theorem task_error {command : Command} {usage : ProgramEnd} (refused : command.task setup = .error usage) :
    usage ≠ .success := by
  cases command with
  | psem_create program words =>
      unfold Command.task createTask at refused
      dsimp only at refused
      split at refused
      · split at refused
        · cases refused
        · rename_i bad
          cases refused
          exact optionalInt_error bad
        · rename_i bad
          cases refused
          exact optionalInt_error bad
      · cases refused
        exact nofun
  | psem_post program words | psem_getvalue program words =>
      unfold Command.task at refused
      dsimp only at refused
      split at refused
      · cases refused
      · cases refused
        exact nofun
  | psem_wait getpid program words =>
      unfold Command.task at refused
      dsimp only at refused
      split at refused
      · cases refused
        exact nofun
      · split at refused
        · cases refused
          exact nofun
        · cases refused
  | psem_unlink program words =>
      unfold Command.task at refused
      dsimp only at refused
      split at refused
      · split at refused
        · cases refused
          exact nofun
        · cases refused
      · cases refused
        exact nofun

theorem step_preserves (action : Process × Outcome) (holds : Invariant setup command state)
    (taken : step setup command state action = some next) : Invariant setup command next := by
  rcases action with ⟨process, outcome⟩
  have known := holds.known process
  unfold step at taken
  dsimp only at taken
  cases position : state.pc process with
  | starting =>
      rw [position] at known taken
      rcases known with ⟨silent, nothing⟩
      dsimp only at taken
      cases asked : (command process).task setup with
      | ok task =>
          rw [asked] at taken
          cases taken
          have moved := holds.moves (state.output process) (.calling task) ⟨silent, nothing, asked⟩
          rw [Function.update_eq_self] at moved
          exact moved
      | error usage =>
          rw [asked] at taken
          cases taken
          exact holds.ends silent (.inl nothing) (task_error asked)
  | calling task =>
      rw [position] at known taken
      rcases known with ⟨silent, nothing, asked⟩
      cases outcome with
      | succeeds =>
          cases taken
          exact callStep_preserves holds position
      | fails errno =>
          cases task with
          | create _ _ _ _ _ | act _ _ | unlink _ =>
              cases taken
              exact holds.ends silent (.inl nothing) nofun
  | acting act index =>
      rw [position] at known taken
      rcases known with ⟨silent, name, file, asked, named, entries⟩
      cases outcome with
      | succeeds => exact actStep_preserves holds position taken
      | fails errno =>
          cases taken
          exact holds.ends silent (.inr ⟨name, act, asked, index, file, entries⟩) nofun
  | exiting text =>
      rw [position] at known taken
      rcases known with ⟨silent, complete⟩
      cases taken
      apply holds.moves
      rw [silent]
      exact complete
  | ended result =>
      rw [position] at taken
      cases taken

omit [DecidableEq Process] in
theorem recorded_start (Process : Type u) : Recorded ([] : List (Process × Done)) [] where
  linked index file := by
    constructor
    · rintro ⟨⟨_, _, member⟩, _⟩
      cases member
    · rintro ⟨_, there, _⟩
      cases there
  created _ _ _ _ := nofun
  conserved _ _ := nofun
  absent _ _ := ⟨rfl, rfl⟩
  unique := by
    rintro _ _ _ ⟨⟨_, _, member⟩, _⟩
    cases member

theorem start_invariant (setup : Setup) (command : Process -> Command) :
    Invariant setup command start where
  rule := throughout_nil
  recorded := recorded_start Process
  known _ := ⟨rfl, rfl⟩

theorem reachable_invariant (reached : (machine setup command).Reachable state) :
    Invariant setup command state := by
  refine reached.invariant ?_ ?_
  · rintro _ rfl
    exact start_invariant setup command
  · intro before action after holds taken
    exact step_preserves action holds taken

/-!
## What the commands achieve
-/

/-- The commands that have run so far are accounted for. -/
structure Accounted (setup : Setup) (command : Process -> Command) (state : State Process) : Prop where
  /-- Each entry fits what has happened before. -/
  rule : Throughout Fits state.history
  /-- The value of a semaphore is what its history makes of it. -/
  conserved : forall index semaphore, state.semaphores[index]? = some semaphore ->
    semaphore.value + debits index state.history = credits index state.history ∧
      semaphore.value ≤ SEM_VALUE_MAX
  /-- A name stands for the semaphore that was created under it and not removed since. -/
  named : forall file index, find state.semaphores file = some index <->
    LinkedAs index file state.history
  successful : forall process, state.pc process = .ended .success ->
    Exists fun task => (command process).task setup = .ok task ∧
      Complete setup task (entriesOf process state.history) (state.output process)
  unsuccessful : forall process result, state.pc process = .ended result -> result ≠ .success ->
    state.output process = [] ∧
      Harmless ((command process).task setup) (entriesOf process state.history)
  /-- A process sleeps only while everything put into its semaphore has been taken. -/
  asleep : forall process act index, state.pc process = .acting act index ->
    step setup command state (process, .succeeds) = none ->
      debits index state.history = credits index state.history

theorem Invariant.named (holds : Invariant setup command state) (file : List Byte) (index : Nat) :
    find state.semaphores file = some index <-> LinkedAs index file state.history := by
  constructor
  · exact fun found => (holds.recorded.linked index file).mpr (find_eq_some found)
  · intro linked
    cases found : find state.semaphores file with
    | none =>
        rcases (holds.recorded.linked index file).mp linked with ⟨semaphore, there, link, name⟩
        exact absurd name (find_eq_none found there link)
    | some other =>
        have its := (holds.recorded.linked other file).mpr (find_eq_some found)
        rw [holds.recorded.unique other index file its linked]

theorem Invariant.asleep (holds : Invariant setup command state) {act : Act} {index : Nat}
    (position : state.pc process = .acting act index)
    (sleeps : step setup command state (process, .succeeds) = none) :
    debits index state.history = credits index state.history := by
  unfold step at sleeps
  dsimp only at sleeps
  rw [position] at sleeps
  dsimp only at sleeps
  cases act with
  | post =>
      unfold actStep at sleeps
      dsimp only at sleeps
      split at sleeps <;> cases sleeps
  | getvalue =>
      unfold actStep at sleeps
      dsimp only at sleeps
      split at sleeps <;> cases sleeps
  | wait getpid =>
      unfold actStep at sleeps
      dsimp only at sleeps
      split at sleeps
      · rename_i waits
        unfold semWait at waits
        cases there : state.semaphores[index]? with
        | none =>
            rcases holds.recorded.absent index there with ⟨noDebits, noCredits⟩
            rw [noDebits, noCredits]
        | some semaphore =>
            rw [there] at waits
            dsimp only at waits
            split at waits
            · rename_i zero
              have balance := (holds.recorded.conserved index semaphore there).1
              omega
            · cases waits
      · cases sleeps

theorem Invariant.accounted (holds : Invariant setup command state) : Accounted setup command state where
  rule := holds.rule
  conserved := holds.recorded.conserved
  named := holds.named
  successful process ended := by
    have known := holds.known process
    rw [ended] at known
    exact known
  unsuccessful process result ended unsuccessful := by
    have known := holds.known process
    rw [ended] at known
    cases result with
    | success => exact absurd rfl unsuccessful
    | badArguments _ => exact known
    | failed _ => exact known
  asleep _ _ _ position sleeps := holds.asleep position sleeps

/-- Any number of commands run at the same time, on any names. -/
theorem psem_accounted (setup : Setup) (command : Process -> Command) :
    forall state, (machine setup command).Reachable state -> Accounted setup command state :=
  fun _ reached => (reachable_invariant reached).accounted

/-! A semaphore whose name has been removed is still waited for, while the name stands for
a new one. -/

def renamedSetup : Setup where
  posixlyCorrect := false
  dumpcore := none
  fileName := .ok

def renamedCommands : Fin 6 -> Command
  | 0 => .psem_create (ascii "psem_create") [ascii "/s", ascii "-c"]
  | 1 => .psem_wait 77 (ascii "psem_wait") [ascii "/s"]
  | 2 => .psem_post (ascii "psem_post") [ascii "/s"]
  | 3 => .psem_unlink (ascii "psem_unlink") [ascii "/s"]
  | 4 => .psem_create (ascii "psem_create") [ascii "-cx", ascii "/s", ascii "600", ascii "5"]
  | 5 => .psem_getvalue (ascii "psem_getvalue") [ascii "/s"]

/-- The waiting and the posting process have the old semaphore open when it is removed. -/
def renamedSteps : List (Fin 6 × Outcome) :=
  [0, 0, 0, 1, 1, 2, 2, 3, 3, 3, 4, 4, 4, 5, 5, 5, 5, 2, 2, 1, 1].map (fun process => (process, .succeeds))

def renamedFinal : State (Fin 6) :=
  ((machine renamedSetup renamedCommands).exec start renamedSteps).get (by decide +kernel)

theorem psem_accounted_renamed :
    (renamedFinal.output 1 = ascii "77 sem_wait() succeeded\n" ∧ renamedFinal.output 5 = ascii "5\n" ∧
      find renamedFinal.semaphores (ascii "/s") = some 1) ∧
        Accounted renamedSetup renamedCommands renamedFinal := by
  have executed : (machine renamedSetup renamedCommands).exec start renamedSteps = some renamedFinal :=
    (Option.some_get _).symm
  exact ⟨by decide +kernel, psem_accounted _ _ _ (Machine.reachable_of_exec rfl executed)⟩

end PsemCommands
end PosixSemaphore
end Tlpi
