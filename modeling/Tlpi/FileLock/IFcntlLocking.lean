import Tlpi.CLibrary.RecordLock
import Tlpi.CLibrary.Scanf
import Tlpi.CLibrary.Stdio
import Tlpi.Foundations.Transition
import Tlpi.Lib.ErrorFunctions

namespace Tlpi
namespace FileLock
namespace IFcntlLocking

open CLibrary Foundations Lib

/-!
# Interactive record locks

The program reads commands from its standard input and makes the `fcntl` request
that each names.  It reads with `fgets` into a buffer of 100 bytes, replaces the last
character by a null byte whether or not it is a newline, and takes the rest apart
with `sscanf` into variables that keep their values from one command to the next.

One step of the machine is one turn of the loop.  The label says what `fcntl` and
`fstat` answer, if the turn calls them.
-/

def MAX_LINE : Nat := 100

/-- The values of `cmd`. -/
inductive LockCmd where
  | F_GETLK
  | F_SETLK
  | F_SETLKW
  | F_OFD_GETLK
  | F_OFD_SETLK
  | F_OFD_SETLKW
deriving DecidableEq, Repr

/-- The arguments of `fcntl`. -/
structure Request where
  fd : Nat
  cmd : LockCmd
  fl : Flock
  l_pid : Int
deriving DecidableEq, Repr

/-- The files of the command line, which are open, each with its descriptor.  There
is at least one, and `argc` is an `int`. -/
structure Setup where
  dumpcore : Option String
  pid : Int
  files : List (List Byte × Nat)
  named : files ≠ []
  fits : (files.length : Int) + 1 ≤ INT_MAX

def Setup.argc (setup : Setup) : Int := setup.files.length + 1

/-- `fdList[fileNum]`. -/
def Setup.fdList (setup : Setup) (fileNum : Int) : Nat :=
  ((setup.files[(fileNum - 1).toNat]?).map Prod.snd).getD 0

inductive FcntlAnswer where
  | failed (errno : Errno)
  | done (fl : Flock) (l_pid : Int)
deriving DecidableEq, Repr

/-- What the calls of one turn answer: `fcntl`, and `fstat` for each descriptor, with
the mode of the file. -/
structure Answer where
  fcntl : FcntlAnswer
  fstat : Nat -> Except Errno Nat

/-- What the program prints. -/
inductive Line where
  | prompt (pid : Int)
  | format (fileNum : Bool)
  | fileNumHint
  | file (fileNum : Nat) (name : List Byte) (mandatory : Bool)
  | legend
  | fileNumRange (last : Int)
  | invalidCommand
  | canBePlaced (pid : Int)
  | denied (pid : Int) (read : Bool) (start len holder : Int)
  | unlocked (pid : Int)
  | gotLock (pid : Int)
  | incompatible (pid : Int)
  | deadlock (pid : Int)
  | errMsg (errno : Errno) (message : String)
deriving DecidableEq, Repr

/-- The variables that the conversions store into. -/
structure Locals where
  fileNum : Int
  cmdCh : Byte
  lock : Byte
  st : Int
  len : Int
  whence : Byte
deriving DecidableEq, Repr

/-- A program that has stored a byte outside its buffer has no further behaviour. -/
inductive Status where
  | running
  | exited
  | failed (failure : Failure)
  | outside
deriving DecidableEq, Repr

structure State where
  locals : Locals
  line : Vector Byte MAX_LINE
  stdin : List Byte
  requests : List Request
  printed : List Line
  status : Status

def S_ISGID : Nat := 0o2000

def S_IXGRP : Nat := 0o10

/-- `mandLockingEnabled(fd)`, from the mode that `fstat` stores. -/
def mandLockingEnabled (st_mode : Nat) : Bool :=
  st_mode &&& S_ISGID != 0 && st_mode &&& S_IXGRP == 0

/-- The list of files in the help text, up to a failure of `fstat`. -/
def displayFiles (dumpcore : Option String) (fstat : Nat -> Except Errno Nat) :
    Nat -> List (List Byte × Nat) -> List Line × Option Failure
  | _, [] => ([], none)
  | j, (name, fd) :: others =>
      match fstat fd with
      | .error errno => ([], some (errExit dumpcore errno "stat"))
      | .ok mode =>
          let later := displayFiles dumpcore fstat (j + 1) others
          (.file j name (mandLockingEnabled mode) :: later.1, later.2)

/-- `displayCmdFmt(argc, argv, fdList)`. -/
def displayCmdFmt (setup : Setup) (fstat : Nat -> Except Errno Nat) : List Line × Option Failure :=
  if setup.argc = 2 then ([.format false, .legend], none)
  else
    let listed := displayFiles setup.dumpcore fstat 1 setup.files
    ([.format (2 < setup.argc), .fileNumHint] ++ listed.1 ++
      (if listed.2.isNone then [.legend] else []), listed.2)

/-- The two formats.  The second reads a file number first. -/
def format (argc : Int) : List Directive :=
  if argc = 2 then
    [.blank, .char, .blank, .char, .blank, .longLong, .blank, .longLong, .blank, .char]
  else
    [.int, .blank, .char, .blank, .char, .blank, .longLong, .blank, .longLong, .blank, .char]

/-- The variables that the conversions of a format store into, in order. -/
def targets (argc : Int) : List (Locals -> Value -> Locals) :=
  let others : List (Locals -> Value -> Locals) :=
    [fun locals value => { locals with cmdCh := value.toByte },
      fun locals value => { locals with lock := value.toByte },
      fun locals value => { locals with st := value.toNumber },
      fun locals value => { locals with len := value.toNumber },
      fun locals value => { locals with whence := value.toByte }]
  if argc = 2 then others
  else (fun locals value => { locals with fileNum := value.toNumber }) :: others

def assign : List (Locals -> Value -> Locals) -> List Value -> Locals -> Locals
  | target :: targets, value :: values, locals => assign targets values (target locals value)
  | _, _, locals => locals

def scanned (argc : Int) (locals : Locals) (text : List Byte) : Locals :=
  let prepared := { locals with whence := 115, fileNum := if argc = 2 then 1 else locals.fileNum }
  assign (targets argc) (sscanf (format argc) text).values prepared

/-- The checks on what was scanned. -/
def isInvalid (argc numRead : Int) (locals : Locals) : Prop :=
  ¬ ((4 ≤ numRead ∧ argc = 2) ∨ (5 ≤ numRead ∧ 2 < argc)) ∨
    strchr (ascii "gswGSW") locals.cmdCh = none ∨ strchr (ascii "rwu") locals.lock = none ∨
    strchr (ascii "sce") locals.whence = none

instance (argc numRead : Int) (locals : Locals) : Decidable (isInvalid argc numRead locals) :=
  inferInstanceAs (Decidable (_ ∨ _))

def requestFor (setup : Setup) (locals : Locals) : Request where
  fd := setup.fdList locals.fileNum
  cmd :=
    if locals.cmdCh = 71 then .F_OFD_GETLK
    else if locals.cmdCh = 83 then .F_OFD_SETLK
    else if locals.cmdCh = 87 then .F_OFD_SETLKW
    else if locals.cmdCh = 103 then .F_GETLK
    else if locals.cmdCh = 115 then .F_SETLK
    else .F_SETLKW
  fl :=
    { l_type := if locals.lock = 114 then .F_RDLCK else if locals.lock = 119 then .F_WRLCK else .F_UNLCK
      l_whence :=
        if locals.whence = 99 then .SEEK_CUR else if locals.whence = 101 then .SEEK_END else .SEEK_SET
      l_start := locals.st
      l_len := locals.len }
  l_pid := 0

/-- What a line that is neither empty nor a call for help leads to: a message, or a
request. -/
def interpret (setup : Setup) (locals : Locals) (text : List Byte) : Except Line Request :=
  let numRead := (sscanf (format setup.argc) text).numRead
  let locals := scanned setup.argc locals text
  if locals.fileNum < 1 ∨ setup.argc ≤ locals.fileNum then .error (.fileNumRange (setup.argc - 1))
  else if isInvalid setup.argc numRead locals then .error .invalidCommand
  else .ok (requestFor setup locals)

/-- What is printed of the answer to a request. -/
def report (setup : Setup) (lock : Byte) (cmd : LockCmd) (answer : FcntlAnswer) : Line :=
  if cmd = .F_GETLK ∨ cmd = .F_OFD_GETLK then
    match answer with
    | .failed errno => .errMsg errno "fcntl"
    | .done fl holder =>
        if fl.l_type = .F_UNLCK then .canBePlaced setup.pid
        else .denied setup.pid (fl.l_type = .F_RDLCK) fl.l_start fl.l_len holder
  else
    match answer with
    | .done _ _ => if lock = 117 then .unlocked setup.pid else .gotLock setup.pid
    | .failed errno =>
        if errno = .EAGAIN ∨ errno = .EACCES then .incompatible setup.pid
        else if errno = .EDEADLK then .deadlock setup.pid
        else .errMsg errno "fcntl"

/-- The turn of the loop after the last character was replaced. -/
def execute (setup : Setup) (state : State) (answer : Answer) : State :=
  let text := (stringIn state.line).bytes
  match text with
  | [] => state
  | 63 :: _ =>
      let help := displayCmdFmt setup answer.fstat
      { state with
        printed := state.printed ++ help.1
        status := match help.2 with
          | none => .running
          | some failure => .failed failure }
  | _ =>
      let locals := scanned setup.argc state.locals text
      match interpret setup state.locals text with
      | .error message => { state with locals := locals, printed := state.printed ++ [message] }
      | .ok request =>
          { state with
            locals := locals
            requests := state.requests ++ [request]
            printed := state.printed ++ [report setup locals.lock request.cmd answer.fcntl] }

/-- One turn of the loop. -/
def step (setup : Setup) (state : State) (answer : Answer) : Option State :=
  if state.status = .running then
    let prompted : State := { state with printed := state.printed ++ [.prompt setup.pid] }
    match fgets state.line state.stdin with
    | none => some { prompted with status := .exited }
    | some (line, stdin) =>
        let index := lastIndex line
        if index < MAX_LINE then
          some (execute setup
            { prompted with line := line.setIfInBounds index 0, stdin := stdin } answer)
        else some { prompted with line := line, stdin := stdin, status := .outside }
  else none

/-- The start of the loop on an input; the variables and the buffer may hold anything. -/
def start (locals : Locals) (line : Vector Byte MAX_LINE) (input : List Byte) : State :=
  ⟨locals, line, input, [], [], .running⟩

def machine (setup : Setup) : Machine State Answer where
  Initial state :=
    Exists fun locals => Exists fun line => Exists fun input => state = start locals line input
  step := step setup

/-!
## The format that the program prints

A command is a line of fields between blanks: the number of the file, if there is
more than one to choose from, the letter of the command, the letter of the lock, the
start and the length, and, where it is given, the letter of the whence.
-/

def single (field : List Byte) : Option Byte :=
  match field with
  | [byte] => some byte
  | _ => none

def lockCmd (letter : Byte) : Option LockCmd :=
  match letter with
  | 103 => some .F_GETLK
  | 115 => some .F_SETLK
  | 119 => some .F_SETLKW
  | 71 => some .F_OFD_GETLK
  | 83 => some .F_OFD_SETLK
  | 87 => some .F_OFD_SETLKW
  | _ => none

def lockType (letter : Byte) : Option LockType :=
  match letter with
  | 114 => some .F_RDLCK
  | 119 => some .F_WRLCK
  | 117 => some .F_UNLCK
  | _ => none

def whenceOf (letter : Byte) : Option Whence :=
  match letter with
  | 115 => some .SEEK_SET
  | 99 => some .SEEK_CUR
  | 101 => some .SEEK_END
  | _ => none

/-- The whence of a command, from what follows the length. -/
def givenWhence (more : List (List Byte)) : Option Whence :=
  match more with
  | [] => some .SEEK_SET
  | [field] => (single field).bind whenceOf
  | _ => none

/-- The request for a descriptor that the fields behind the file number ask for. -/
def commandOf (fd : Nat) (words : List (List Byte)) : Option Request :=
  match words with
  | cmd :: lock :: start :: length :: more =>
      (single cmd).bind fun cmdCh =>
      (lockCmd cmdCh).bind fun cmd =>
      (single lock).bind fun lockCh =>
      (lockType lockCh).bind fun type =>
      (longLong start).bind fun start =>
      (longLong length).bind fun length =>
      (givenWhence more).map fun whence => ⟨fd, cmd, ⟨type, whence, start, length⟩, 0⟩
  | _ => none

/-- The request that a line asks for. -/
def requestOf (setup : Setup) (line : List Byte) : Option Request :=
  match fields isSpace line with
  | [] => none
  | first :: others =>
      if setup.files.length = 1 then commandOf (setup.fdList 1) (first :: others)
      else (signedDecimal first).bind fun fileNum =>
        if 1 ≤ fileNum ∧ fileNum ≤ setup.files.length then commandOf (setup.fdList fileNum) others
        else none

/-- The lines typed, without their newlines. -/
def lineText (segment : List Byte) : List Byte :=
  if segment.getLast? = some newline then segment.dropLast else segment

def typedLines (input : List Byte) : List (List Byte) :=
  (segments endsLine input).map lineText

/-- The checks pass the letters that the format names. -/
structure LettersPass (cmdCh lock whence : Byte) : Prop where
  cmdCh : strchr (ascii "gswGSW") cmdCh ≠ none
  lock : strchr (ascii "rwu") lock ≠ none
  whence : strchr (ascii "sce") whence ≠ none

/-- The values converted are those of a command: a file number where one is read, two
letters, two numbers, and perhaps the letter of the whence, which is `'s'` otherwise. -/
def Gives (argc : Int) (values : List Value) (command : Locals) : Prop :=
  (values = (if argc = 2 then [] else [.number command.fileNum]) ++
      [.char command.cmdCh, .char command.lock, .number command.st, .number command.len] ∧
    command.whence = 115) ∨
  values = (if argc = 2 then [] else [.number command.fileNum]) ++
    [.char command.cmdCh, .char command.lock, .number command.st, .number command.len,
      .char command.whence]

/-- The conversions of a line give all that a command needs: a file number in range,
and letters that pass the checks. -/
def Accepted (argc : Int) (values : List Value) : Prop :=
  Exists fun command : Locals => Gives argc values command ∧
    (argc = 2 ∨ 1 ≤ command.fileNum ∧ command.fileNum < argc) ∧
    LettersPass command.cmdCh command.lock command.whence

/-- A line on which `sscanf` finds all that it is asked for although the line is not
a command of the format: its fields run together, something follows them, or a
number is out of range. -/
def Misread (setup : Setup) (line : List Byte) : Prop :=
  line.head? ≠ some 63 ∧ Accepted setup.argc (sscanf (format setup.argc) line).values ∧
    requestOf setup line = none

theorem Setup.two_le_argc (setup : Setup) : 2 ≤ setup.argc := by
  have positive := List.length_pos_iff.mpr setup.named
  unfold Setup.argc
  omega

/-- The variables after the conversions of a command hold the command, whatever they
held before. -/
theorem scanned_of_gives {argc : Int} {text : List Byte} {command : Locals}
    (gives : Gives argc (sscanf (format argc) text).values command) (locals : Locals) :
    scanned argc locals text = { command with fileNum := if argc = 2 then 1 else command.fileNum } := by
  unfold scanned targets
  by_cases one : argc = 2
  · rcases gives with ⟨values, default⟩ | values
    · rw [values, if_pos one, if_pos one, if_pos one, if_pos one, ← default]
      rfl
    · rw [values, if_pos one, if_pos one, if_pos one, if_pos one]
      rfl
  · rcases gives with ⟨values, default⟩ | values
    · rw [values, if_neg one, if_neg one, if_neg one, if_neg one, ← default]
      rfl
    · rw [values, if_neg one, if_neg one, if_neg one, if_neg one]
      rfl

/-- A line whose conversions are accepted leads to its request, whatever the variables
held before. -/
theorem interpret_of_gives {setup : Setup} {text : List Byte} {command : Locals} (locals : Locals)
    (gives : Gives setup.argc (sscanf (format setup.argc) text).values command)
    (range : setup.argc = 2 ∨ 1 ≤ command.fileNum ∧ command.fileNum < setup.argc)
    (letters : LettersPass command.cmdCh command.lock command.whence) :
    interpret setup locals text =
      .ok (requestFor setup
        { command with fileNum := if setup.argc = 2 then 1 else command.fileNum }) := by
  have least := setup.two_le_argc
  have stored := scanned_of_gives gives locals
  have enough : (4 ≤ (sscanf (format setup.argc) text).numRead ∧ setup.argc = 2) ∨
      (5 ≤ (sscanf (format setup.argc) text).numRead ∧ 2 < setup.argc) := by
    unfold Scanned.numRead
    unfold Gives at gives
    by_cases one : setup.argc = 2
    · rw [if_pos one] at gives
      rcases gives with ⟨values, _⟩ | values <;> rw [values] <;> simp [one]
    · rw [if_neg one] at gives
      rcases gives with ⟨values, _⟩ | values <;> rw [values] <;> simp <;> omega
  have inRange : ¬ ((if setup.argc = 2 then 1 else command.fileNum) < 1 ∨
      setup.argc ≤ if setup.argc = 2 then 1 else command.fileNum) := by
    split <;> omega
  unfold interpret
  simp only [stored]
  rw [if_neg inRange, if_neg]
  rintro (few | noCmd | noLock | noWhence)
  · exact few enough
  · exact letters.cmdCh noCmd
  · exact letters.lock noLock
  · exact letters.whence noWhence

/-- The values behind the file number, when there are enough of them. -/
theorem command_values {values : List Value}
    (kinds : values.map Value.isChar <+: [true, true, false, false, true]) (enough : 4 ≤ values.length) :
    Exists fun cmdCh => Exists fun lock => Exists fun st => Exists fun len => Exists fun whence =>
      (values = [.char cmdCh, .char lock, .number st, .number len] ∧ whence = 115) ∨
        values = [.char cmdCh, .char lock, .number st, .number len, .char whence] := by
  rcases values with _ | ⟨first, _ | ⟨second, _ | ⟨third, _ | ⟨fourth, more⟩⟩⟩⟩
  · exact absurd enough (by decide)
  · exact absurd enough (by simp)
  · exact absurd enough (by simp)
  · exact absurd enough (by simp)
  · simp only [List.map_cons, List.cons_prefix_cons] at kinds
    rcases kinds with ⟨isCmd, isLock, isStart, isLength, others⟩
    rcases Value.eq_char isCmd with ⟨cmdCh, rfl⟩
    rcases Value.eq_char isLock with ⟨lock, rfl⟩
    rcases Value.eq_number isStart with ⟨st, rfl⟩
    rcases Value.eq_number isLength with ⟨len, rfl⟩
    refine ⟨cmdCh, lock, st, len, ?_⟩
    rcases more with _ | ⟨fifth, more⟩
    · exact ⟨115, Or.inl ⟨rfl, rfl⟩⟩
    · rw [List.map_cons, List.cons_prefix_cons] at others
      rcases Value.eq_char others.1 with ⟨whence, rfl⟩
      have none : more = [] := List.map_eq_nil_iff.mp (List.prefix_nil.mp others.2)
      rw [none]
      exact ⟨whence, Or.inr rfl⟩

/-- Enough conversions are those of a command. -/
theorem exists_gives {argc : Int} {text : List Byte}
    (enough : (4 ≤ (sscanf (format argc) text).numRead ∧ argc = 2) ∨
      (5 ≤ (sscanf (format argc) text).numRead ∧ 2 < argc)) :
    Exists fun command => Gives argc (sscanf (format argc) text).values command := by
  have kinds := sscanf_kinds (format argc) text
  have count : (sscanf (format argc) text).numRead ≤ (sscanf (format argc) text).values.length := by
    unfold Scanned.numRead
    split <;> omega
  unfold Gives
  generalize (sscanf (format argc) text).values = values at kinds count
  unfold format at kinds
  by_cases one : argc = 2
  · rw [if_pos one] at kinds
    rcases command_values kinds (by omega) with ⟨cmdCh, lock, st, len, whence, given⟩
    refine ⟨⟨0, cmdCh, lock, st, len, whence⟩, ?_⟩
    rw [if_pos one]
    exact given
  · rw [if_neg one] at kinds
    cases values with
    | nil =>
        rw [List.length_nil] at count
        omega
    | cons first others =>
        rw [List.length_cons] at count
        have parts := List.cons_prefix_cons.mp kinds
        rcases Value.eq_number parts.1 with ⟨fileNum, rfl⟩
        rcases command_values parts.2 (by omega) with ⟨cmdCh, lock, st, len, whence, given⟩
        refine ⟨⟨fileNum, cmdCh, lock, st, len, whence⟩, ?_⟩
        rw [if_neg one]
        rcases given with ⟨values, default⟩ | values
        · exact Or.inl ⟨by rw [values]; rfl, default⟩
        · exact Or.inr (by rw [values]; rfl)

/-- The program makes a request for a line only if it accepts the conversions. -/
theorem accepted_of_interpret {setup : Setup} {locals : Locals} {text : List Byte} {request : Request}
    (made : interpret setup locals text = .ok request) :
    Accepted setup.argc (sscanf (format setup.argc) text).values := by
  unfold interpret at made
  dsimp only at made
  split at made
  · cases made
  · rename_i inRange
    split at made
    · cases made
    · rename_i valid
      have enough := not_not.mp (fun few => valid (Or.inl few))
      rcases exists_gives enough with ⟨command, gives⟩
      have stored := scanned_of_gives gives locals
      unfold isInvalid at valid
      rw [stored] at valid inRange
      refine ⟨command, gives, ?_, ⟨fun none => valid (Or.inr (Or.inl none)),
        fun none => valid (Or.inr (Or.inr (Or.inl none))),
        fun none => valid (Or.inr (Or.inr (Or.inr none)))⟩⟩
      by_cases one : setup.argc = 2
      · exact Or.inl one
      · dsimp only at inRange
        rw [if_neg one] at inRange
        omega

theorem single_eq_some {field : List Byte} {byte : Byte} (found : single field = some byte) :
    field = [byte] := by
  unfold single at found
  split at found <;> cases found
  rfl

theorem lockCmd_eq_some {letter : Byte} {cmd : LockCmd} (found : lockCmd letter = some cmd) :
    strchr (ascii "gswGSW") letter ≠ none ∧
      (if letter = 71 then LockCmd.F_OFD_GETLK
        else if letter = 83 then .F_OFD_SETLK
        else if letter = 87 then .F_OFD_SETLKW
        else if letter = 103 then .F_GETLK
        else if letter = 115 then .F_SETLK
        else .F_SETLKW) = cmd := by
  unfold lockCmd at found
  split at found <;> cases found <;> exact ⟨by decide, rfl⟩

theorem lockType_eq_some {letter : Byte} {type : LockType} (found : lockType letter = some type) :
    strchr (ascii "rwu") letter ≠ none ∧
      (if letter = 114 then LockType.F_RDLCK else if letter = 119 then .F_WRLCK else .F_UNLCK) = type := by
  unfold lockType at found
  split at found <;> cases found <;> exact ⟨by decide, rfl⟩

theorem whenceOf_eq_some {letter : Byte} {whence : Whence} (found : whenceOf letter = some whence) :
    strchr (ascii "sce") letter ≠ none ∧
      (if letter = 99 then Whence.SEEK_CUR else if letter = 101 then .SEEK_END else .SEEK_SET) = whence := by
  unfold whenceOf at found
  split at found <;> cases found <;> exact ⟨by decide, rfl⟩

/-- The letter of the whence: the one given, or the default. -/
theorem givenWhence_eq_some {more : List (List Byte)} {whence : Whence}
    (found : givenWhence more = some whence) :
    Exists fun letter => (more = [] ∧ letter = 115 ∨ more = [[letter]]) ∧
      whenceOf letter = some whence := by
  unfold givenWhence at found
  split at found
  · cases found
    exact ⟨115, Or.inl ⟨rfl, rfl⟩, rfl⟩
  · rcases Option.bind_eq_some_iff.mp found with ⟨letter, isSingle, isWhence⟩
    rw [single_eq_some isSingle]
    exact ⟨letter, Or.inr rfl, isWhence⟩
  · cases found

theorem commandOf_eq_some {fd : Nat} {words : List (List Byte)} {request : Request}
    (found : commandOf fd words = some request) :
    Exists fun cmdCh => Exists fun lock => Exists fun start => Exists fun length =>
      Exists fun more => words = [cmdCh] :: [lock] :: start :: length :: more ∧
      lockCmd cmdCh = some request.cmd ∧ lockType lock = some request.fl.l_type ∧
      longLong start = some request.fl.l_start ∧ longLong length = some request.fl.l_len ∧
      givenWhence more = some request.fl.l_whence ∧ request.fd = fd ∧ request.l_pid = 0 := by
  unfold commandOf at found
  split at found
  · rename_i cmdField lockField start length more
    rcases Option.bind_eq_some_iff.mp found with ⟨cmdCh, isCmdCh, found⟩
    rcases Option.bind_eq_some_iff.mp found with ⟨cmd, isCmd, found⟩
    rcases Option.bind_eq_some_iff.mp found with ⟨lock, isLock, found⟩
    rcases Option.bind_eq_some_iff.mp found with ⟨type, isType, found⟩
    rcases Option.bind_eq_some_iff.mp found with ⟨st, isStart, found⟩
    rcases Option.bind_eq_some_iff.mp found with ⟨len, isLength, found⟩
    rcases Option.map_eq_some_iff.mp found with ⟨whence, isWhence, same⟩
    subst same
    rw [single_eq_some isCmdCh, single_eq_some isLock]
    exact ⟨cmdCh, lock, start, length, more, rfl, isCmd, isType, isStart, isLength, isWhence, rfl, rfl⟩
  · cases found

/-- What `sscanf` converts of the fields of a command. -/
theorem sscanf_command {text : List Byte} {cmdCh lock whence : Byte} {start length : List Byte}
    {more : List (List Byte)} {st len : Int}
    (words : fields isSpace text = [cmdCh] :: [lock] :: start :: length :: more)
    (isStart : longLong start = some st) (isLength : longLong length = some len)
    (given : more = [] ∧ whence = 115 ∨ more = [[whence]]) :
    ((sscanf [.blank, .char, .blank, .char, .blank, .longLong, .blank, .longLong, .blank, .char]
          text).values = [.char cmdCh, .char lock, .number st, .number len] ∧ whence = 115) ∨
      (sscanf [.blank, .char, .blank, .char, .blank, .longLong, .blank, .longLong, .blank, .char]
          text).values = [.char cmdCh, .char lock, .number st, .number len, .char whence] := by
  rcases fields_eq_cons words with ⟨front, rest, parts, blanks, _, noBlank, _, words⟩
  have isCmd := noBlank cmdCh (List.mem_singleton_self cmdCh)
  rw [parts, sscanf_char_field blanks isCmd]
  rcases fields_eq_cons words with ⟨front, rest, parts, blanks, _, noBlank, _, words⟩
  have isLock := noBlank lock (List.mem_singleton_self lock)
  rw [parts, sscanf_char_field blanks isLock]
  rcases fields_eq_cons words with ⟨front, rest, parts, blanks, nonempty, noBlank, ends, words⟩
  rw [parts, sscanf_longLong_field blanks nonempty noBlank ends isStart]
  rcases fields_eq_cons words with ⟨front, rest, parts, blanks, nonempty, noBlank, ends, words⟩
  rw [parts, sscanf_longLong_field blanks nonempty noBlank ends isLength]
  rcases given with ⟨none, default⟩ | one
  · rw [none] at words
    rw [sscanf_char_blanks (blank_of_fields_eq_nil words)]
    exact Or.inl ⟨rfl, default⟩
  · rw [one] at words
    rcases fields_eq_cons words with ⟨front, rest, parts, blanks, _, noBlank, _, _⟩
    have isWhence := noBlank whence (List.mem_singleton_self whence)
    rw [parts, sscanf_char_field blanks isWhence]
    exact Or.inr rfl

/-- The fields of a command, converted, are the command that asks for the request. -/
theorem sscanf_of_commandOf {setup : Setup} {fileNum : Int} {text : List Byte} {request : Request}
    (asked : commandOf (setup.fdList fileNum) (fields isSpace text) = some request) :
    Exists fun command : Locals => command.fileNum = fileNum ∧
      LettersPass command.cmdCh command.lock command.whence ∧ requestFor setup command = request ∧
      (((sscanf [.blank, .char, .blank, .char, .blank, .longLong, .blank, .longLong, .blank, .char]
            text).values =
          [.char command.cmdCh, .char command.lock, .number command.st, .number command.len] ∧
          command.whence = 115) ∨
        (sscanf [.blank, .char, .blank, .char, .blank, .longLong, .blank, .longLong, .blank, .char]
            text).values =
          [.char command.cmdCh, .char command.lock, .number command.st, .number command.len,
            .char command.whence]) := by
  rcases commandOf_eq_some asked with
    ⟨cmdCh, lock, start, length, more, words, isCmd, isType, isStart, isLength, isWhence, fd, pid⟩
  rcases givenWhence_eq_some isWhence with ⟨whence, given, isWhence⟩
  have cmdPasses := lockCmd_eq_some isCmd
  have lockPasses := lockType_eq_some isType
  have whencePasses := whenceOf_eq_some isWhence
  have converted := sscanf_command words isStart isLength given
  refine ⟨⟨fileNum, cmdCh, lock, request.fl.l_start, request.fl.l_len, whence⟩, rfl,
    ⟨cmdPasses.1, lockPasses.1, whencePasses.1⟩, ?_, converted⟩
  unfold requestFor
  dsimp only
  rw [cmdPasses.2, lockPasses.2, whencePasses.2, ← fd, ← pid]

/-- A command of the format is accepted, and leads to the request that it asks for. -/
theorem interpret_of_requestOf {setup : Setup} {text : List Byte} {request : Request}
    (asked : requestOf setup text = some request) (locals : Locals) :
    interpret setup locals text = .ok request := by
  have argcEq : setup.argc = setup.files.length + 1 := rfl
  unfold requestOf at asked
  split at asked
  · cases asked
  · rename_i first others words
    split at asked
    · rename_i alone
      have one : setup.argc = 2 := by omega
      rw [← words] at asked
      rcases sscanf_of_commandOf asked with ⟨command, fileNum, letters, same, converted⟩
      have gives : Gives setup.argc (sscanf (format setup.argc) text).values command := by
        unfold Gives format
        rw [if_pos one, if_pos one]
        exact converted
      rw [interpret_of_gives locals gives (Or.inl one) letters, if_pos one, ← fileNum]
      exact congrArg Except.ok same
    · rename_i many
      have notOne : setup.argc ≠ 2 := by omega
      rcases Option.bind_eq_some_iff.mp asked with ⟨fileNum, isNumber, asked⟩
      split at asked
      · rename_i range
        have fits := setup.fits
        have low : INT_MIN ≤ fileNum := by
          unfold INT_MIN
          omega
        have inLong : longLong first = some fileNum := by
          unfold longLong
          rw [isNumber, Option.filter_some, if_pos]
          unfold LONG_MIN LONG_MAX
          unfold INT_MAX at fits
          simp only [decide_eq_true_eq]
          omega
        rcases fields_eq_cons words with ⟨front, rest, parts, blanks, nonempty, noBlank, ends, words⟩
        rw [← words] at asked
        rcases sscanf_of_commandOf asked with ⟨command, sameNumber, letters, same, converted⟩
        have values : (sscanf (format setup.argc) text).values = .number fileNum :: (sscanf
            [.blank, .char, .blank, .char, .blank, .longLong, .blank, .longLong, .blank, .char]
            rest).values := by
          unfold format
          rw [if_neg notOne, parts, sscanf_int_field blanks nonempty noBlank ends inLong,
            toInt_of_range low (by omega)]
          rfl
        have gives : Gives setup.argc (sscanf (format setup.argc) text).values command := by
          unfold Gives
          rw [if_neg notOne, values, sameNumber]
          rcases converted with ⟨four, default⟩ | five
          · exact Or.inl ⟨by rw [four]; rfl, default⟩
          · exact Or.inr (by rw [five]; rfl)
        rw [interpret_of_gives locals gives (Or.inr (by omega)) letters, if_neg notOne]
        exact congrArg Except.ok same
      · cases asked

/-!
## The requests of a run
-/

def unset : Locals := ⟨0, 0, 0, 0, 0, 0⟩

/-- The request that the program makes for the text of a line. -/
def textRequest (setup : Setup) (text : List Byte) : Option Request :=
  match text with
  | [] => none
  | 63 :: _ => none
  | _ => (interpret setup unset text).toOption

/-- The request that the program makes for a piece of its input. -/
def pieceRequest (setup : Setup) (piece : List Byte) : Option Request :=
  textRequest setup (cString piece).dropLast

/-- What the variables held before does not matter. -/
theorem interpret_toOption (setup : Setup) (locals other : Locals) (text : List Byte) :
    (interpret setup locals text).toOption = (interpret setup other text).toOption := by
  by_cases accepted : Accepted setup.argc (sscanf (format setup.argc) text).values
  · rcases accepted with ⟨command, gives, range, letters⟩
    rw [interpret_of_gives locals gives range letters, interpret_of_gives other gives range letters]
  · have refused : forall locals, (interpret setup locals text).toOption = none := by
      intro locals
      cases made : interpret setup locals text with
      | error message => rfl
      | ok request => exact absurd (accepted_of_interpret made) accepted
    rw [refused locals, refused other]

/-- The requests of a turn, and whether it ends the program. -/
theorem execute_spec (setup : Setup) (state : State) (answer : Answer) :
    (execute setup state answer).requests =
        state.requests ++ (textRequest setup (stringIn state.line).bytes).toList ∧
      (execute setup state answer).stdin = state.stdin ∧
      (state.status = .running -> (execute setup state answer).status ≠ .exited ∧
        (execute setup state answer).status ≠ .outside) := by
  unfold execute textRequest
  dsimp only
  split
  · refine ⟨(List.append_nil _).symm, rfl, ?_⟩
    intro running
    rw [running]
    exact ⟨by decide, by decide⟩
  · refine ⟨(List.append_nil _).symm, rfl, ?_⟩
    intro _
    dsimp only
    split
    · exact ⟨by decide, by decide⟩
    · exact ⟨(fun same => by cases same), (fun same => by cases same)⟩
  · have independent := interpret_toOption setup unset state.locals (stringIn state.line).bytes
    rw [independent]
    cases made : interpret setup state.locals (stringIn state.line).bytes with
    | error message =>
        refine ⟨(List.append_nil _).symm, rfl, ?_⟩
        intro running
        change state.status ≠ _ ∧ state.status ≠ _
        rw [running]
        exact ⟨by decide, by decide⟩
    | ok request =>
        refine ⟨rfl, rfl, ?_⟩
        intro running
        change state.status ≠ _ ∧ state.status ≠ _
        rw [running]
        exact ⟨by decide, by decide⟩

/-- One turn takes one piece of the input.  If the piece begins with a null byte, the
program stores outside its buffer; otherwise it makes the request of the piece. -/
theorem step_cases {setup : Setup} {state next : State} {answer : Answer}
    (stepped : step setup state answer = some next) :
    (state.stdin = [] ∧ next.stdin = [] ∧ next.requests = state.requests ∧ next.status = .exited) ∨
      Exists fun piece => fgetsLines MAX_LINE state.stdin = piece :: fgetsLines MAX_LINE next.stdin ∧
        ((piece.head? = some 0 ∧ next.requests = state.requests ∧ next.status = .outside) ∨
          (piece.head? ≠ some 0 ∧
            next.requests = state.requests ++ (pieceRequest setup piece).toList ∧
            next.status ≠ .exited ∧ next.status ≠ .outside)) := by
  unfold step at stepped
  split at stepped
  · rename_i running
    dsimp only at stepped
    split at stepped
    · rename_i ended
      cases stepped
      unfold fgets at ended
      split at ended
      · rename_i empty
        exact Or.inl ⟨empty, empty, rfl, rfl⟩
      · cases ended
    · rename_i line stdin read
      right
      have readable : 2 ≤ MAX_LINE := by decide
      have fits : MAX_LINE ≤ SSIZE_MAX := by decide
      rcases fgets_eq_some (by decide) read with ⟨nonempty, string, rest⟩
      have positive := strlen_fgets_pos_iff readable read
      rw [← fgetsBytes_head? readable] at positive
      refine ⟨fgetsBytes MAX_LINE state.stdin, ?_⟩
      split at stepped
      · rename_i inside
        cases stepped
        have notEmpty := (lastIndex_lt_iff fits).mp inside
        have spec := execute_spec setup
          { state with
            printed := state.printed ++ [.prompt setup.pid]
            line := line.setIfInBounds (lastIndex line) 0
            stdin := stdin } answer
        have stripped : (stringIn (line.setIfInBounds (lastIndex line) 0)).bytes =
            (cString (fgetsBytes MAX_LINE state.stdin)).dropLast := by
          rw [stringIn_setIfInBounds, lastIndex_of_pos fits notEmpty, List.dropLast_eq_take]
          unfold CString.strlen
          rw [string]
        have requests := spec.1
        dsimp only at requests
        rw [stripped] at requests
        refine ⟨?_, Or.inr ⟨positive.mp notEmpty, requests, spec.2.2 running⟩⟩
        rw [fgetsLines_cons readable nonempty, spec.2.1, rest]
      · rename_i outside
        cases stepped
        have isNull : (fgetsBytes MAX_LINE state.stdin).head? = some 0 := by
          by_contra notNull
          exact outside ((lastIndex_lt_iff fits).mpr (positive.mpr notNull))
        refine ⟨?_, Or.inl ⟨isNull, rfl, rfl⟩⟩
        rw [fgetsLines_cons readable nonempty, rest]
  · cases stepped

/-- A program that has stopped takes no more turns. -/
theorem exec_stopped {setup : Setup} {state final : State} {answers : List Answer}
    (stopped : state.status ≠ .running) (executed : (machine setup).exec state answers = some final) :
    final = state := by
  cases answers with
  | nil => exact (Option.some.inj executed).symm
  | cons answer rest =>
      rcases Option.bind_eq_some_iff.mp executed with ⟨next, stepped, _⟩
      change step setup state answer = some next at stepped
      unfold step at stepped
      rw [if_neg stopped] at stepped
      cases stepped

/-- A run has read pieces of its input in order.  While none of them began with a null
byte, it has made their requests and no others. -/
theorem exec_pieces {setup : Setup} {state final : State} {answers : List Answer}
    (executed : (machine setup).exec state answers = some final) :
    Exists fun read => fgetsLines MAX_LINE state.stdin = read ++ fgetsLines MAX_LINE final.stdin ∧
      (final.status = .exited -> state.status = .exited ∨ final.stdin = []) ∧
      (final.status = .outside ->
        state.status = .outside ∨ Exists fun piece => piece ∈ read ∧ piece.head? = some 0) ∧
      (final.status ≠ .outside ->
        (forall piece, piece ∈ read -> piece.head? ≠ some 0) ∧
          final.requests = state.requests ++ read.filterMap (pieceRequest setup)) := by
  induction answers generalizing state with
  | nil =>
      cases executed
      exact ⟨[], rfl, Or.inl, Or.inl, fun _ =>
        ⟨fun piece member => absurd member List.not_mem_nil, (List.append_nil _).symm⟩⟩
  | cons answer rest inductionHypothesis =>
      rcases Option.bind_eq_some_iff.mp executed with ⟨next, stepped, continued⟩
      rcases inductionHypothesis continued with ⟨read, pieces, exited, outside, kept⟩
      rcases step_cases stepped with
        ⟨empty, nextEmpty, requests, status⟩ | ⟨piece, front, ⟨isNull, requests, status⟩ |
          ⟨notNull, requests, notExited, notOutside⟩⟩
      · have same : final = next :=
          exec_stopped (by rw [status]; exact Status.noConfusion) continued
        subst same
        refine ⟨[], by rw [empty, nextEmpty]; rfl, fun _ => Or.inr nextEmpty, ?_, fun _ => ?_⟩
        · intro isOutside
          rw [status] at isOutside
          cases isOutside
        · exact ⟨fun piece member => absurd member List.not_mem_nil,
            requests.trans (List.append_nil _).symm⟩
      · have same : final = next :=
          exec_stopped (by rw [status]; exact Status.noConfusion) continued
        subst same
        refine ⟨[piece], front, ?_, fun _ => Or.inr ⟨piece, List.mem_singleton_self piece, isNull⟩, ?_⟩
        · intro isExited
          rw [status] at isExited
          cases isExited
        · intro notOutside
          exact absurd status notOutside
      · refine ⟨piece :: read, by rw [front, pieces]; rfl, ?_, ?_, ?_⟩
        · intro isExited
          exact Or.inr ((exited isExited).resolve_left notExited)
        · intro isOutside
          rcases (outside isOutside).resolve_left notOutside with ⟨later, member, isNull⟩
          exact Or.inr ⟨later, List.mem_cons_of_mem piece member, isNull⟩
        · intro stillInside
          have keptInside := kept stillInside
          constructor
          · intro other member
            rcases List.mem_cons.mp member with same | later
            · rw [same]
              exact notNull
            · exact keptInside.1 other later
          · rw [keptInside.2, requests, List.append_assoc, List.filterMap_cons]
            cases pieceRequest setup piece <;> rfl

/-- A line that the program reads whole, and whose last character is the newline that
it removes. -/
structure Fits (segment : List Byte) : Prop where
  ended : segment.getLast? = some newline
  short : segment.length ≤ MAX_LINE - 1
  nullFree : forall byte, byte ∈ segment -> byte ≠ 0

theorem Fits.head?_ne {segment : List Byte} (fits : Fits segment) : segment.head? ≠ some 0 := by
  intro isNull
  exact fits.nullFree 0 (List.mem_of_head? isNull) rfl

/-- What the program scans of a line that fits is the line. -/
theorem Fits.pieceRequest_eq {segment : List Byte} (fits : Fits segment) (setup : Setup) :
    pieceRequest setup segment = textRequest setup (lineText segment) := by
  have whole : cString segment = segment := by
    apply List.takeWhile_eq_self_iff.mpr
    intro byte member
    exact bne_iff_ne.mpr (fits.nullFree byte member)
  unfold pieceRequest lineText
  rw [whole, if_pos fits.ended]

theorem requestOf_question (setup : Setup) (rest : List Byte) : requestOf setup (63 :: rest) = none := by
  unfold requestOf
  cases words : fields isSpace (63 :: rest) with
  | nil => rfl
  | cons first others =>
      have begins : Exists fun more => first = 63 :: more := by
        rcases fields_eq_cons words with ⟨front, after, parts, blanks, nonempty, _⟩
        cases front with
        | nil =>
            cases first with
            | nil => exact absurd rfl nonempty
            | cons byte more => exact ⟨more, by rw [(List.cons.inj parts).1]⟩
        | cons byte front =>
            have isBlank := blanks byte List.mem_cons_self
            rw [← (List.cons.inj parts).1] at isBlank
            cases isBlank
      rcases begins with ⟨more, rfl⟩
      have noNumber : signedDecimal (63 :: more) = none := by
        have notNumeral : ¬ IsNumeral 10 (63 :: more) := by
          intro isNumeral
          exact absurd (isNumeral.2 63 List.mem_cons_self) (by decide)
        change (if IsNumeral 10 (63 :: more) then some (numeralValue 10 (63 :: more) : Int) else none) = none
        rw [if_neg notNumeral]
      have noCommand : commandOf (setup.fdList 1) ((63 :: more) :: others) = none := by
        cases asked : commandOf (setup.fdList 1) ((63 :: more) :: others) with
        | none => rfl
        | some request =>
            rcases commandOf_eq_some asked with ⟨cmdCh, _, _, _, _, fieldsEq, isCmd, _⟩
            have letter : 63 = cmdCh := (List.cons.inj (List.cons.inj fieldsEq).1).1
            rw [← letter] at isCmd
            cases isCmd
      dsimp only
      rw [noNumber, noCommand]
      split <;> rfl

/-- For a command of the format the program makes the request that it asks for. -/
theorem textRequest_of_requestOf {setup : Setup} {text : List Byte} {request : Request}
    (asked : requestOf setup text = some request) : textRequest setup text = some request := by
  unfold textRequest
  split
  · cases asked
  · rw [requestOf_question] at asked
    cases asked
  · rw [interpret_of_requestOf asked unset]
    rfl

theorem not_accepted_nil (argc : Int) : ¬ Accepted argc (sscanf (format argc) []).values := by
  have nothing : (sscanf (format argc) []).values = [] := by
    unfold format
    split <;> rfl
  rintro ⟨command, gives, _⟩
  rw [nothing] at gives
  rcases gives with ⟨values, _⟩ | values
  · exact absurd (List.append_eq_nil_iff.mp values.symm).2 (List.cons_ne_nil _ _)
  · exact absurd (List.append_eq_nil_iff.mp values.symm).2 (List.cons_ne_nil _ _)

/-- For a line that is no command the program makes a request exactly if it misreads
the line. -/
theorem textRequest_eq_none_iff {setup : Setup} {text : List Byte}
    (notAsked : requestOf setup text = none) :
    textRequest setup text = none <-> ¬ Misread setup text := by
  unfold textRequest Misread
  split
  · exact ⟨fun _ misread => not_accepted_nil _ misread.2.1, fun _ => rfl⟩
  · exact ⟨fun _ misread => misread.1 rfl, fun _ => rfl⟩
  · rename_i notEmpty notQuestion
    have noQuestion : text.head? ≠ some 63 := by
      intro isQuestion
      rcases List.head?_eq_some_iff.mp isQuestion with ⟨rest, same⟩
      exact notQuestion rest same
    constructor
    · rintro noRequest ⟨_, ⟨command, gives, range, letters⟩, _⟩
      rw [interpret_of_gives unset gives range letters] at noRequest
      cases noRequest
    · intro notMisread
      cases made : interpret setup unset text with
      | error message => rfl
      | ok request => exact absurd ⟨noQuestion, accepted_of_interpret made, notAsked⟩ notMisread

/-- Two ways to pick from a list, one of which picks all that the other does and the
same for it, pick the same exactly if neither picks more. -/
theorem filterMap_eq_iff {Element Picked : Type} {first second : Element -> Option Picked}
    {list : List Element}
    (agree : forall element picked, second element = some picked -> first element = some picked) :
    list.filterMap first = list.filterMap second <->
      forall element, element ∈ list -> second element = none -> first element = none := by
  have atLeast : forall list : List Element,
      (list.filterMap second).length ≤ (list.filterMap first).length := by
    intro list
    induction list with
    | nil => exact Nat.le_refl _
    | cons head tail inductionHypothesis =>
        cases picked : second head with
        | none =>
            rw [List.filterMap_cons_none picked]
            cases more : first head with
            | none => rwa [List.filterMap_cons_none more]
            | some value =>
                rw [List.filterMap_cons_some more, List.length_cons]
                omega
        | some value =>
            rw [List.filterMap_cons_some picked, List.filterMap_cons_some (agree head value picked),
              List.length_cons, List.length_cons]
            omega
  induction list with
  | nil => simp
  | cons head tail inductionHypothesis =>
      rw [List.forall_mem_cons]
      cases picked : second head with
      | some value =>
          rw [List.filterMap_cons_some picked, List.filterMap_cons_some (agree head value picked),
            List.cons.injEq]
          exact ⟨fun later => ⟨(fun none => by cases none), inductionHypothesis.mp later.2⟩,
            fun later => ⟨rfl, inductionHypothesis.mpr later.2⟩⟩
      | none =>
          rw [List.filterMap_cons_none picked]
          cases more : first head with
          | none =>
              rw [List.filterMap_cons_none more]
              exact ⟨fun same => ⟨fun _ => rfl, inductionHypothesis.mp same⟩,
                fun later => inductionHypothesis.mpr later.2⟩
          | some value =>
              rw [List.filterMap_cons_some more]
              constructor
              · intro same
                have lengths := congrArg List.length same
                have bound := atLeast tail
                rw [List.length_cons] at lengths
                omega
              · intro both
                cases both.1 rfl

/-- On an input all of whose lines fit, the program makes exactly the requests that
the lines read ask for, one for each command and in their order, if and only if it
has misread none of the lines. -/
theorem requests_iff_not_misread {setup : Setup} {locals : Locals} {line : Vector Byte MAX_LINE}
    {input : List Byte} {answers : List Answer} {final : State}
    (fits : forall segment, segment ∈ segments endsLine input -> Fits segment)
    (executed : (machine setup).exec (start locals line input) answers = some final) :
    Exists fun read => Exists fun rest => typedLines input = read ++ rest ∧
      (final.status = .exited -> rest = []) ∧
      (final.requests = read.filterMap (requestOf setup) <->
        forall text, text ∈ read -> ¬ Misread setup text) := by
  have whole : fgetsLines MAX_LINE input = segments endsLine input :=
    fgetsLines_eq_segments (by decide) (fun segment member => (fits segment member).short)
  rcases exec_pieces executed with ⟨read, pieces, exited, outside, kept⟩
  change fgetsLines MAX_LINE input = _ at pieces
  rw [whole] at pieces
  have readFits : forall piece, piece ∈ read -> Fits piece := by
    intro piece member
    exact fits piece (by rw [pieces]; exact List.mem_append_left _ member)
  have stillInside : final.status ≠ .outside := by
    intro isOutside
    rcases outside isOutside with before | ⟨piece, member, isNull⟩
    · cases before
    · exact (readFits piece member).head?_ne isNull
  have requests : final.requests = (read.map lineText).filterMap (textRequest setup) := by
    rw [(kept stillInside).2, List.filterMap_map]
    apply List.filterMap_congr
    intro piece member
    exact (readFits piece member).pieceRequest_eq setup
  refine ⟨read.map lineText, (fgetsLines MAX_LINE final.stdin).map lineText, ?_, ?_, ?_⟩
  · unfold typedLines
    rw [pieces, List.map_append]
  · intro isExited
    rcases exited isExited with before | empty
    · cases before
    · rw [empty]
      rfl
  · rw [requests, filterMap_eq_iff (fun _ _ => textRequest_of_requestOf)]
    constructor
    · intro none text member misread
      exact (textRequest_eq_none_iff misread.2.2).mp (none text member misread.2.2) misread
    · intro notMisread text member notAsked
      exact (textRequest_eq_none_iff notAsked).mpr (notMisread text member)

def oneFile : Setup := ⟨none, 100, [(ascii "tfile", 3)], by decide, by decide⟩

/-- Two lines that fit: a command and a question mark. -/
def twoLines : List Byte := ascii "s r 0 10\n?\n"

def calm : Answer := ⟨.done ⟨.F_RDLCK, .SEEK_SET, 0, 0⟩ 0, fun _ => .ok 0⟩

def twoLinesFinal : State :=
  ((machine oneFile).exec (start unset (Vector.replicate MAX_LINE 0) twoLines)
    [calm, calm, calm]).get (by decide +kernel)

theorem twoLines_requests :
    twoLinesFinal.requests = [⟨3, .F_SETLK, ⟨.F_RDLCK, .SEEK_SET, 0, 10⟩, 0⟩] ∧
      Exists fun read => Exists fun rest => typedLines twoLines = read ++ rest ∧
        (twoLinesFinal.status = .exited -> rest = []) ∧
        (twoLinesFinal.requests = read.filterMap (requestOf oneFile) <->
          forall text, text ∈ read -> ¬ Misread oneFile text) := by
  have executed : (machine oneFile).exec (start unset (Vector.replicate MAX_LINE 0) twoLines)
      [calm, calm, calm] = some twoLinesFinal := (Option.some_get _).symm
  have fits : forall segment, segment ∈ segments endsLine twoLines -> Fits segment := by
    intro segment member
    have cut : segments endsLine twoLines = [ascii "s r 0 10\n", ascii "?\n"] := by decide
    rw [cut] at member
    rcases List.mem_cons.mp member with same | later
    · rw [same]
      exact ⟨by decide, by decide, nullFree_of_all (by decide)⟩
    · rw [List.mem_singleton.mp later]
      exact ⟨by decide, by decide, nullFree_of_all (by decide)⟩
  exact ⟨by decide +kernel, requests_iff_not_misread fits executed⟩

/-- A last line without a newline loses its last digit, and a shorter region is locked
than the line asks for. -/
theorem unterminated_line_misread :
    ¬ (forall (setup : Setup) (locals : Locals) (line : Vector Byte MAX_LINE) (input : List Byte)
        (answers : List Answer) (final : State),
      (machine setup).exec (start locals line input) answers = some final ->
      final.status = .exited ->
      final.requests = (typedLines input).filterMap (requestOf setup)) := by
  intro claim
  have executed : (((machine oneFile).exec (start unset (Vector.replicate MAX_LINE 0)
      (ascii "s r 0 10")) [calm, calm]).map (fun final => (final.status, final.requests))) =
        some (.exited, [⟨3, .F_SETLK, ⟨.F_RDLCK, .SEEK_SET, 0, 1⟩, 0⟩]) := by
    decide +kernel
  rcases Option.map_eq_some_iff.mp executed with ⟨final, run, seen⟩
  have requests := claim oneFile unset _ _ _ final run (congrArg Prod.fst seen)
  have asked : (typedLines (ascii "s r 0 10")).filterMap (requestOf oneFile) =
      [⟨3, .F_SETLK, ⟨.F_RDLCK, .SEEK_SET, 0, 10⟩, 0⟩] := by
    decide +kernel
  have made : final.requests = [⟨3, .F_SETLK, ⟨.F_RDLCK, .SEEK_SET, 0, 1⟩, 0⟩] := congrArg Prod.snd seen
  rw [asked, made] at requests
  exact absurd requests (by decide)

/-!
## The index of the last character
-/

theorem displayFiles_calm (dumpcore : Option String) (j : Nat) (files : List (List Byte × Nat)) :
    (displayFiles dumpcore calm.fstat j files).2 = none := by
  induction files generalizing j with
  | nil => rfl
  | cons file others inductionHypothesis => exact inductionHypothesis (j + 1)

/-- If no call fails, the program goes on until the end of its input, unless it stores
outside its buffer. -/
theorem step_calm (setup : Setup) {state : State} (running : state.status = .running) :
    Exists fun next => step setup state calm = some next ∧
      forall failure, next.status ≠ .failed failure := by
  have helped : (displayCmdFmt setup calm.fstat).2 = none := by
    unfold displayCmdFmt
    split
    · rfl
    · exact displayFiles_calm setup.dumpcore 1 setup.files
  unfold step
  rw [if_pos running]
  dsimp only
  split
  · exact ⟨_, rfl, fun failure same => by cases same⟩
  · split
    · refine ⟨_, rfl, ?_⟩
      unfold execute
      dsimp only
      intro failure
      split
      · rw [running]
        exact Status.noConfusion
      · dsimp only
        rw [helped]
        exact Status.noConfusion
      · split
        · rw [running]
          exact Status.noConfusion
        · rw [running]
          exact Status.noConfusion
    · exact ⟨_, rfl, fun failure same => by cases same⟩

/-- A piece that begins with a null byte, if there is one, makes the program store
outside its buffer. -/
theorem reaches_outside (setup : Setup) {pieces : List (List Byte)} {state : State}
    (running : state.status = .running) (left : fgetsLines MAX_LINE state.stdin = pieces)
    (null : Exists fun piece => piece ∈ pieces ∧ piece.head? = some 0) :
    Exists fun answers => Exists fun final =>
      (machine setup).exec state answers = some final ∧ final.status = .outside := by
  induction pieces generalizing state with
  | nil =>
      rcases null with ⟨piece, member, _⟩
      cases member
  | cons first others inductionHypothesis =>
      rcases step_calm setup running with ⟨next, stepped, notFailed⟩
      rcases step_cases stepped with ⟨empty, _⟩ | ⟨piece, front, turn⟩
      · rw [empty] at left
        cases left
      · rw [left] at front
        rcases List.cons.inj front with ⟨same, remaining⟩
        rcases turn with ⟨_, _, outside⟩ | ⟨notNull, _, notExited, notOutside⟩
        · refine ⟨[calm], next, ?_, outside⟩
          change (step setup state calm).bind _ = _
          rw [stepped]
          rfl
        · have nextRunning : next.status = .running := by
            cases status : next.status with
            | running => rfl
            | exited => exact absurd status notExited
            | failed failure => exact absurd status (notFailed failure)
            | outside => exact absurd status notOutside
          have nullLeft : Exists fun piece => piece ∈ others ∧ piece.head? = some 0 := by
            rcases null with ⟨other, member, isNull⟩
            rcases List.mem_cons.mp member with isFirst | later
            · rw [isFirst, same] at isNull
              exact absurd isNull notNull
            · exact ⟨other, later, isNull⟩
          rcases inductionHypothesis nextRunning remaining.symm nullLeft with
            ⟨answers, final, executed, outside⟩
          refine ⟨calm :: answers, final, ?_, outside⟩
          change (step setup state calm).bind _ = _
          rw [stepped]
          exact executed

/-- The index of the last character is valid in every turn of every run on an input
exactly if no piece that the program reads begins with a null byte. -/
theorem never_outside_iff (setup : Setup) (locals : Locals) (line : Vector Byte MAX_LINE)
    (input : List Byte) :
    (forall answers final, (machine setup).exec (start locals line input) answers = some final ->
      final.status ≠ .outside) <->
    forall piece, piece ∈ fgetsLines MAX_LINE input -> piece.head? ≠ some 0 := by
  constructor
  · intro never piece member isNull
    rcases @reaches_outside setup _ (start locals line input) rfl rfl ⟨piece, member, isNull⟩ with
      ⟨answers, final, executed, outside⟩
    exact never answers final executed outside
  · intro noNull answers final executed isOutside
    rcases exec_pieces executed with ⟨read, pieces, _, outside, _⟩
    rcases outside isOutside with before | ⟨piece, member, isNull⟩
    · cases before
    · change fgetsLines MAX_LINE input = _ at pieces
      exact noNull piece (by rw [pieces]; exact List.mem_append_left _ member) isNull

end IFcntlLocking
end FileLock
end Tlpi
