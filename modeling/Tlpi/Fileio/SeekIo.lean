import Tlpi.CLibrary.Files
import Tlpi.Lib.GetNumGrammar
import Tlpi.Lib.ProgramEnd

namespace Tlpi
namespace Fileio

open CLibrary Foundations Lib

/-!
# An interpreter of file operations

`seek_io` opens a file and performs the operations that its arguments name, one after the
other.  What it should do is described by a file that consists of an image and an offset.
-/

/-- The answers to the calls of `seek_io`.  `malloc` says for which sizes there is memory,
and `call` is what the call for an argument fails with, if it does. -/
structure SeekAnswers where
  openFile : Option Errno
  malloc : Nat -> Bool
  call : Nat -> Option Errno
  close : Option Errno

/-- The file, with its place in the file system. -/
structure SeekState where
  fs : FileSystem
  fd : OpenDescription

/-- What comes of one argument: its line of output, the end of the program, or behaviour
that the language leaves undefined. -/
inductive Turn where
  | printed (text : List Byte) (next : SeekState)
  | ended (programEnd : ProgramEnd)
  | undefined

/-- `isprint` in the C locale. -/
def isPrint (byte : Byte) : Bool := 32 ≤ byte && byte ≤ 126

def hexDigit (value : Byte) : Byte := if value < 10 then 48 + value else 87 + value

/-- A byte in the output of `R`, or of `r`. -/
def shown (hex : Bool) (byte : Byte) : List Byte :=
  if hex then [hexDigit (byte / 16), hexDigit (byte % 16), 32]
  else [if isPrint byte then byte else 63]

/-- The loop that displays a buffer.  The index is an `int` and has no successor at its
greatest value. -/
def display (hex : Bool) : Int -> List Byte -> Option (List Byte)
  | _, [] => some []
  | j, byte :: rest =>
      if j = INT_MAX then none
      else (display hex (j + 1) rest).map (fun text => shown hex byte ++ text)

/-- The commands `r` and `R`. -/
def readTurn (dumpcore : Option String) (answers : SeekAnswers) (ap : Nat) (hex : Bool)
    (argument digits : List Byte) (state : SeekState) : Turn :=
  match getLong (some digits) GN_ANY_BASE (some (textOf argument)) with
  | .error diagnostic => .ended (.badArguments diagnostic)
  | .ok value =>
      let len := toSizeT value
      if answers.malloc len = false then .ended (.failed (errExit dumpcore .ENOMEM "malloc"))
      else
        match answers.call ap with
        | some errno => .ended (.failed (errExit dumpcore errno "read"))
        | none =>
            let received := state.fs.read state.fd len
            if received.1 = [] then
              .printed (argument ++ ascii ": end-of-file" ++ [newline]) ⟨state.fs, received.2⟩
            else
              match display hex 0 received.1 with
              | none => .undefined
              | some text =>
                  .printed (argument ++ ascii ": " ++ text ++ [newline]) ⟨state.fs, received.2⟩

/-- The command `w`. -/
def writeTurn (dumpcore : Option String) (answers : SeekAnswers) (ap : Nat)
    (argument string : List Byte) (state : SeekState) : Turn :=
  match answers.call ap with
  | some errno => .ended (.failed (errExit dumpcore errno "write"))
  | none =>
      let sent := state.fs.write state.fd string
      .printed (argument ++ ascii ": wrote " ++ renderNat string.length ++ ascii " bytes" ++ [newline])
        ⟨sent.2, sent.1⟩

/-- The command `s`. -/
def seekTurn (dumpcore : Option String) (answers : SeekAnswers) (ap : Nat)
    (argument digits : List Byte) (state : SeekState) : Turn :=
  match getLong (some digits) GN_ANY_BASE (some (textOf argument)) with
  | .error diagnostic => .ended (.badArguments diagnostic)
  | .ok offset =>
      match answers.call ap with
      | some errno => .ended (.failed (errExit dumpcore errno "lseek"))
      | none =>
          if offset < 0 then .ended (.failed (errExit dumpcore .EINVAL "lseek"))
          else
            .printed (argument ++ ascii ": seek succeeded" ++ [newline])
              ⟨state.fs, { state.fd with offset := offset.toNat }⟩

/-- One turn of the loop over the arguments. -/
def commandTurn (dumpcore : Option String) (answers : SeekAnswers) (ap : Nat)
    (argument : List Byte) (state : SeekState) : Turn :=
  match argument with
  | 114 :: digits => readTurn dumpcore answers ap false argument digits state
  | 82 :: digits => readTurn dumpcore answers ap true argument digits state
  | 119 :: string => writeTurn dumpcore answers ap argument string state
  | 115 :: digits => seekTurn dumpcore answers ap argument digits state
  | _ => .ended (cmdLineErr (ascii "Argument must start with [rRws]: " ++ argument))

/-- What a run of `seek_io` has displayed, how it ended, and the file system it leaves. -/
structure SeekRun where
  printed : List (List Byte)
  ended : ProgramEnd
  fs : FileSystem

/-- The loop over the arguments and the part behind it.  There is no result if the
behaviour is undefined. -/
def seekLoop (dumpcore : Option String) (answers : SeekAnswers) :
    Nat -> List (List Byte) -> SeekState -> Option SeekRun
  | _, [], state =>
      match answers.close with
      | some errno => some ⟨[], .failed (errExit dumpcore errno "close"), state.fs⟩
      | none => some ⟨[], .success, state.fs⟩
  | ap, argument :: rest, state =>
      match commandTurn dumpcore answers ap argument state with
      | .undefined => none
      | .ended programEnd => some ⟨[], programEnd, state.fs⟩
      | .printed text next =>
          (seekLoop dumpcore answers (ap + 1) rest next).map (fun run =>
            { run with printed := text :: run.printed })

def seekIo (dumpcore : Option String) (answers : SeekAnswers) (argv : List (List Byte))
    (fs : FileSystem) : Option SeekRun :=
  let usage (program : List Byte) : Option SeekRun :=
    some ⟨[], usageErr (program ++ ascii " file \x7br<length>|R<length>|w<string>|s<offset>\x7d..."), fs⟩
  match argv with
  | program :: file :: first :: rest =>
      if file = ascii "--help" then usage program
      else
        match fs.openFile answers.openFile file ⟨true, false⟩ with
        | .error errno => some ⟨[], .failed (errExit dumpcore errno "open"), fs⟩
        | .ok (fd, opened) => seekLoop dumpcore answers 2 (first :: rest) ⟨opened, fd⟩
  | program :: _ => usage program
  | [] => usage []

/-! ## The reference file -/

/-- A file with the offset of its only user. -/
structure Reference where
  image : Image (0 : Byte)
  offset : Nat

inductive Command where
  | read (hex : Bool) (length : Nat)
  | write (bytes : List Byte)
  | seek (offset : Nat)
deriving DecidableEq, Repr

/-- An argument that names a command.  Its number is not negative and fits in a `long`. -/
inductive Spells : List Byte -> Command -> Prop where
  | text {digits : List Byte} {length : Nat} (number : NumberText 0 digits length)
      (fits : (length : Int) ≤ LONG_MAX) : Spells (114 :: digits) (.read false length)
  | hex {digits : List Byte} {length : Nat} (number : NumberText 0 digits length)
      (fits : (length : Int) ≤ LONG_MAX) : Spells (82 :: digits) (.read true length)
  | write (bytes : List Byte) : Spells (119 :: bytes) (.write bytes)
  | seek {digits : List Byte} {offset : Nat} (number : NumberText 0 digits offset)
      (fits : (offset : Int) ≤ LONG_MAX) : Spells (115 :: digits) (.seek offset)

/-- A command, as an argument names it. -/
structure SpelledCommand where
  argument : List Byte
  command : Command
  spells : Spells argument command

/-- What a command displays and does. -/
def Command.perform (argument : List Byte) (reference : Reference) :
    Command -> List Byte × Reference
  | .read hex length =>
      if reference.image.size ≤ reference.offset then
        (argument ++ ascii ": end-of-file" ++ [newline], reference)
      else
        let bytes := reference.image.between reference.offset (reference.offset + length)
        (argument ++ ascii ": " ++ bytes.flatMap (shown hex) ++ [newline],
          { reference with offset := reference.offset + bytes.length })
  | .write bytes =>
      (argument ++ ascii ": wrote " ++ renderNat bytes.length ++ ascii " bytes" ++ [newline],
        ⟨reference.image.write reference.offset bytes, reference.offset + bytes.length⟩)
  | .seek offset =>
      (argument ++ ascii ": seek succeeded" ++ [newline], { reference with offset := offset })

/-- What a sequence of commands displays and does. -/
def interpret : List SpelledCommand -> Reference -> List (List Byte) × Reference
  | [], reference => ([], reference)
  | spelled :: rest, reference =>
      let performed := spelled.command.perform spelled.argument reference
      let later := interpret rest performed.2
      (performed.1 :: later.1, later.2)

/-- A run displays what the commands display, succeeds, and leaves the file as they do. -/
def Interprets (file : List Byte) (commands : List SpelledCommand) (reference : Reference)
    (run : Option SeekRun) : Prop :=
  Exists fun after => run = some ⟨(interpret commands reference).1, .success, after⟩ ∧
    Exists fun contents => after.contentAt file = some contents ∧
      Image.ofList 0 contents = (interpret commands reference).2.image

/-- What a command needs: memory for what it is to read, something to display in front of
the end of the file, and no more of it than an `int` can count. -/
def Harmless (malloc : Nat -> Bool) (reference : Reference) : Command -> Prop
  | .read _ length =>
      malloc length = true ∧ (0 < length ∨ reference.image.size ≤ reference.offset) ∧
        (min length (reference.image.size - reference.offset) : Nat) ≤ INT_MAX
  | .write _ | .seek _ => True

/-- Every command finds what it needs when its turn comes. -/
def EachHarmless (malloc : Nat -> Bool) : List SpelledCommand -> Reference -> Prop
  | [], _ => True
  | spelled :: rest, reference =>
      Harmless malloc reference spelled.command ∧
        EachHarmless malloc rest (spelled.command.perform spelled.argument reference).2

/-! ## Displaying what was read -/

theorem display_fits {hex : Bool} {j : Int} {bytes : List Byte}
    (fits : j + bytes.length ≤ INT_MAX) : display hex j bytes = some (bytes.flatMap (shown hex)) := by
  induction bytes generalizing j with
  | nil => rfl
  | cons byte rest inductionHypothesis =>
      rw [List.length_cons] at fits
      have before : j ≠ INT_MAX := by omega
      rw [display, if_neg before, inductionHypothesis (by omega)]
      rfl

theorem display_overflow {hex : Bool} {j : Int} {bytes : List Byte} (start : j ≤ INT_MAX)
    (long : INT_MAX < j + bytes.length) : display hex j bytes = none := by
  induction bytes generalizing j with
  | nil =>
      rw [List.length_nil] at long
      omega
  | cons byte rest inductionHypothesis =>
      rw [List.length_cons] at long
      rw [display]
      split
      · rfl
      · rw [inductionHypothesis (by omega) (by omega)]
        rfl

/-! ## The turns -/

/-- The open file is the reference file. -/
structure Matches (file : List Byte) (state : SeekState) (reference : Reference) : Prop where
  image : Image.ofList 0 (state.fs.contents state.fd.inode) = reference.image
  offset : state.fd.offset = reference.offset
  named : state.fs.inodeOf file = some state.fd.inode

/-- A turn that shows the line of the command, and leaves a state that matches. -/
def Faithful (file : List Byte) (expected : List Byte × Reference) (turn : Turn) : Prop :=
  Exists fun next => turn = .printed expected.1 next ∧ Matches file next expected.2

/-- A turn that does not show the line of the command. -/
def Unfaithful (expected : List Byte) : Turn -> Prop
  | .printed text _ => text ≠ expected
  | .ended programEnd => programEnd ≠ .success
  | .undefined => True

section

variable {dumpcore : Option String} {malloc : Nat -> Bool} {ap : Nat} {file argument : List Byte}
  {state : SeekState} {reference : Reference}

/-- Every call succeeds but for the memory that there is. -/
def granting (malloc : Nat -> Bool) : SeekAnswers := ⟨none, malloc, fun _ => none, none⟩

theorem getLong_spelled {digits : List Byte} {value : Nat} (number : NumberText 0 digits value)
    (fits : (value : Int) ≤ LONG_MAX) (name : Option String) :
    getLong (some digits) GN_ANY_BASE name = .ok (value : Int) := by
  have low : LONG_MIN ≤ (value : Int) := by
    unfold LONG_MIN
    omega
  refine getNum_ok_iff.mpr ⟨digits, rfl, number, ⟨low, fits⟩, ⟨fun set => ?_, fun set => ?_⟩⟩
  · exact Int.natCast_nonneg value
  · exact absurd set (by decide)

theorem toSizeT_spelled {value : Nat} (fits : (value : Int) ≤ LONG_MAX) :
    toSizeT value = value := by
  unfold toSizeT
  unfold LONG_MAX at fits
  omega

theorem Matches.read_bytes (matched : Matches file state reference) (len : Nat) :
    (state.fs.read state.fd len).1 =
      reference.image.between reference.offset (reference.offset + len) := by
  rw [← matched.image, ← matched.offset, Image.between_ofList]
  rfl

theorem Matches.advance (matched : Matches file state reference) (count : Nat) :
    Matches file ⟨state.fs, { state.fd with offset := state.fd.offset + count }⟩
      { reference with offset := reference.offset + count } where
  image := matched.image
  offset := congrArg (· + count) matched.offset
  named := matched.named

/-- What `r` and `R` do with a number, in terms of what there is to read. -/
theorem readTurn_eq {hex : Bool} {digits : List Byte} {length : Nat}
    (number : NumberText 0 digits length) (fits : (length : Int) ≤ LONG_MAX)
    (matched : Matches file state reference) {bytes : List Byte}
    (available : reference.image.between reference.offset (reference.offset + length) = bytes) :
    readTurn dumpcore (granting malloc) ap hex argument digits state =
      if malloc length = false then .ended (.failed (errExit dumpcore .ENOMEM "malloc"))
      else
        let next : SeekState :=
          ⟨state.fs, { state.fd with offset := state.fd.offset + bytes.length }⟩
        if bytes = [] then .printed (argument ++ ascii ": end-of-file" ++ [newline]) next
        else
          match display hex 0 bytes with
          | none => .undefined
          | some text => .printed (argument ++ ascii ": " ++ text ++ [newline]) next := by
  have received := matched.read_bytes length
  rw [available] at received
  have after : (state.fs.read state.fd length).2 =
      { state.fd with offset := state.fd.offset + bytes.length } := by
    rw [← received]
    rfl
  unfold readTurn
  rw [getLong_spelled number fits]
  dsimp only [granting]
  rw [toSizeT_spelled fits, received, after]
  rfl

/-- At the end of the file, both report it. -/
theorem readTurn_atEnd {hex : Bool} {digits : List Byte} {length : Nat}
    (number : NumberText 0 digits length) (fits : (length : Int) ≤ LONG_MAX)
    (matched : Matches file state reference) (memory : malloc length = true)
    (atEnd : reference.image.size ≤ reference.offset) :
    Faithful file (Command.perform argument reference (.read hex length))
      (readTurn dumpcore (granting malloc) ap hex argument digits state) := by
  have none : reference.image.between reference.offset (reference.offset + length) = [] := by
    rw [← List.length_eq_zero_iff, Image.length_between]
    omega
  rw [readTurn_eq number fits matched none, if_neg (by rw [memory]; decide)]
  dsimp only
  rw [if_pos rfl]
  unfold Command.perform
  dsimp only
  rw [if_pos atEnd]
  exact ⟨_, rfl, matched.advance 0⟩

/-- In front of the end, `r` and `R` show what there is to read. -/
theorem readTurn_inside {hex : Bool} {digits : List Byte} {length : Nat}
    (number : NumberText 0 digits length) (fits : (length : Int) ≤ LONG_MAX)
    (matched : Matches file state reference) (memory : malloc length = true)
    (positive : 0 < length) (inside : reference.offset < reference.image.size)
    (counted : (min length (reference.image.size - reference.offset) : Nat) ≤ INT_MAX) :
    Faithful file (Command.perform argument reference (.read hex length))
      (readTurn dumpcore (granting malloc) ap hex argument digits state) := by
  have size := reference.image.length_between reference.offset (reference.offset + length)
  unfold Command.perform
  dsimp only
  rw [if_neg (Nat.not_le.mpr inside)]
  generalize available :
    reference.image.between reference.offset (reference.offset + length) = bytes at size
  have some : bytes ≠ [] := by
    rintro rfl
    rw [List.length_nil] at size
    omega
  have shows : display hex 0 bytes = .some (bytes.flatMap (shown hex)) := by
    apply display_fits
    omega
  rw [readTurn_eq number fits matched available, if_neg (by rw [memory]; decide)]
  dsimp only
  rw [if_neg some, shows]
  exact ⟨_, rfl, matched.advance bytes.length⟩

/-- Without memory, without anything to display in front of the end, or with more of it
than an `int` can count, `r` and `R` do not show the line of the command. -/
theorem readTurn_unfaithful {hex : Bool} {digits : List Byte} {length : Nat}
    (number : NumberText 0 digits length) (fits : (length : Int) ≤ LONG_MAX)
    (matched : Matches file state reference)
    (harmful : ¬ Harmless malloc reference (.read hex length)) :
    Unfaithful (Command.perform argument reference (.read hex length)).1
      (readTurn dumpcore (granting malloc) ap hex argument digits state) := by
  have size := reference.image.length_between reference.offset (reference.offset + length)
  generalize available :
    reference.image.between reference.offset (reference.offset + length) = bytes at size
  rw [readTurn_eq number fits matched available]
  by_cases memory : malloc length = false
  · rw [if_pos memory]
    exact fun same => by cases same
  · rw [if_neg memory]
    have granted : malloc length = true := Bool.eq_true_of_not_eq_false memory
    have inside : reference.offset < reference.image.size := by
      by_contra atEnd
      refine harmful ⟨granted, Or.inr (Nat.le_of_not_lt atEnd), ?_⟩
      unfold INT_MAX
      omega
    unfold Command.perform
    dsimp only
    rw [if_neg (Nat.not_le.mpr inside), available]
    by_cases none : bytes = []
    · rw [if_pos none, none]
      intro same
      have lengths := congrArg List.length same
      simp only [List.length_append, List.flatMap_nil, List.length_nil] at lengths
      exact absurd lengths (by simp [ascii])
    · rw [if_neg none]
      have long : INT_MAX < 0 + (bytes.length : Int) := by
        by_contra short
        have some := List.length_pos_iff.mpr none
        exact harmful ⟨granted, Or.inl (by omega), by omega⟩
      rw [display_overflow (by decide) long]
      trivial

theorem writeTurn_faithful (string : List Byte) (matched : Matches file state reference) :
    Faithful file (Command.perform argument reference (.write string))
      (writeTurn dumpcore (granting malloc) ap argument string state) := by
  refine ⟨_, rfl, ?_, ?_, matched.named⟩
  · have stored : (state.fs.write state.fd string).2.contents state.fd.inode =
        overwrite 0 (state.fs.contents state.fd.inode) state.fd.offset string :=
      FileSystem.store_contents_self _ _ _
    refine (congrArg (Image.ofList 0) stored).trans ?_
    rw [Image.ofList_overwrite, matched.image, matched.offset]
    rfl
  · exact congrArg (· + string.length) matched.offset

theorem seekTurn_faithful {digits : List Byte} {offset : Nat} (number : NumberText 0 digits offset)
    (fits : (offset : Int) ≤ LONG_MAX) (matched : Matches file state reference) :
    Faithful file (Command.perform argument reference (.seek offset))
      (seekTurn dumpcore (granting malloc) ap argument digits state) := by
  unfold seekTurn
  rw [getLong_spelled number fits]
  dsimp only [granting]
  rw [if_neg (Int.not_lt.mpr (Int.natCast_nonneg offset)), Int.toNat_natCast]
  exact ⟨_, rfl, matched.image, rfl, matched.named⟩

/-- A command that has what it needs is performed. -/
theorem commandTurn_faithful (spelled : SpelledCommand) (matched : Matches file state reference)
    (harmless : Harmless malloc reference spelled.command) :
    Faithful file (spelled.command.perform spelled.argument reference)
      (commandTurn dumpcore (granting malloc) ap spelled.argument state) := by
  rcases spelled with ⟨argument, command, spells⟩
  have reading : forall {hex : Bool} {digits : List Byte} {length : Nat},
      NumberText 0 digits length -> (length : Int) ≤ LONG_MAX ->
        Harmless malloc reference (.read hex length) ->
        Faithful file (Command.perform argument reference (.read hex length))
          (readTurn dumpcore (granting malloc) ap hex argument digits state) := by
    rintro hex digits length number fits ⟨memory, some, counted⟩
    rcases Nat.lt_or_ge reference.offset reference.image.size with inside | atEnd
    · exact readTurn_inside number fits matched memory (by omega) inside counted
    · exact readTurn_atEnd number fits matched memory atEnd
  cases spells with
  | text number fits => exact reading number fits harmless
  | hex number fits => exact reading number fits harmless
  | write bytes =>
      change Faithful file _ (writeTurn dumpcore (granting malloc) ap (119 :: bytes) bytes state)
      exact writeTurn_faithful bytes matched
  | @seek digits offset number fits =>
      change Faithful file _ (seekTurn dumpcore (granting malloc) ap (115 :: digits) digits state)
      exact seekTurn_faithful number fits matched

/-- A command that does not is not. -/
theorem commandTurn_unfaithful (spelled : SpelledCommand) (matched : Matches file state reference)
    (harmful : ¬ Harmless malloc reference spelled.command) :
    Unfaithful (spelled.command.perform spelled.argument reference).1
      (commandTurn dumpcore (granting malloc) ap spelled.argument state) := by
  rcases spelled with ⟨argument, command, spells⟩
  cases spells with
  | @text digits length number fits =>
      change Unfaithful _ (readTurn dumpcore (granting malloc) ap false (114 :: digits) digits state)
      exact readTurn_unfaithful number fits matched harmful
  | @hex digits length number fits =>
      change Unfaithful _ (readTurn dumpcore (granting malloc) ap true (82 :: digits) digits state)
      exact readTurn_unfaithful number fits matched harmful
  | write bytes => exact absurd trivial harmful
  | seek number fits => exact absurd trivial harmful

/-- The line of a command is in front of what the rest displays. -/
theorem interprets_cons_iff {spelled : SpelledCommand} {rest : List SpelledCommand}
    {text : List Byte} {run : Option SeekRun} :
    Interprets file (spelled :: rest) reference
        (run.map (fun run => { run with printed := text :: run.printed })) <->
      text = (spelled.command.perform spelled.argument reference).1 ∧
        Interprets file rest (spelled.command.perform spelled.argument reference).2 run := by
  constructor
  · rintro ⟨after, ran, left⟩
    rcases Option.map_eq_some_iff.mp ran with ⟨later, found, same⟩
    rcases later with ⟨printed, ended, fs⟩
    rcases SeekRun.mk.inj same with ⟨lines, rfl, rfl⟩
    rcases List.cons.inj lines with ⟨first, others⟩
    refine ⟨first, fs, ?_, left⟩
    dsimp only at others
    rw [found, others]
  · rintro ⟨rfl, after, ran, left⟩
    refine ⟨after, ?_, left⟩
    rw [ran]
    rfl

/-- From any state that matches, the rest of the commands is interpreted exactly if each
finds what it needs. -/
theorem seekLoop_interprets_iff {commands : List SpelledCommand}
    (matched : Matches file state reference) :
    Interprets file commands reference
        (seekLoop dumpcore (granting malloc) ap (commands.map SpelledCommand.argument) state) <->
      EachHarmless malloc commands reference := by
  induction commands generalizing ap state reference with
  | nil =>
      constructor
      · intro _
        trivial
      · intro _
        exact ⟨state.fs, rfl, _, FileSystem.contentAt_of_inodeOf matched.named, matched.image⟩
  | cons spelled rest inductionHypothesis =>
      rw [List.map_cons, seekLoop, EachHarmless]
      by_cases harmless : Harmless malloc reference spelled.command
      · have faithful : Faithful file (spelled.command.perform spelled.argument reference)
            (commandTurn dumpcore (granting malloc) ap spelled.argument state) :=
          commandTurn_faithful spelled matched harmless
        rcases faithful with ⟨next, turn, later⟩
        rw [turn]
        dsimp only
        rw [interprets_cons_iff, inductionHypothesis later]
        exact ⟨fun both => ⟨harmless, both.2⟩, fun both => ⟨rfl, both.2⟩⟩
      · have unfaithful : Unfaithful (spelled.command.perform spelled.argument reference).1
            (commandTurn dumpcore (granting malloc) ap spelled.argument state) :=
          commandTurn_unfaithful spelled matched harmless
        refine ⟨fun interpreted => ?_, fun both => absurd both.1 harmless⟩
        exfalso
        cases turn : commandTurn dumpcore (granting malloc) ap spelled.argument state with
        | undefined =>
            rw [turn] at interpreted
            rcases interpreted with ⟨after, ran, _⟩
            cases ran
        | ended programEnd =>
            rw [turn] at interpreted unfaithful
            rcases interpreted with ⟨after, ran, _⟩
            cases ran
        | printed text next =>
            rw [turn] at interpreted unfaithful
            exact unfaithful (interprets_cons_iff.mp interpreted).1

end

/-! ## The whole program -/

/-- The file that `seek_io` opens: what is in it, or nothing if it is new. -/
def initialReference (fs : FileSystem) (file : List Byte) : Reference :=
  ⟨Image.ofList 0 ((fs.contentAt file).getD []), 0⟩

theorem openFile_matches (fs : FileSystem) (file : List Byte) :
    Exists fun fd => Exists fun opened =>
      fs.openFile none file ⟨true, false⟩ = .ok (fd, opened) ∧
        Matches file ⟨opened, fd⟩ (initialReference fs file) := by
  unfold FileSystem.openFile initialReference FileSystem.contentAt
  cases found : fs.inodeOf file with
  | some inode => exact ⟨_, _, rfl, rfl, rfl, found⟩
  | none =>
      refine ⟨_, _, rfl, ?_, rfl, FileSystem.create_inodeOf_self fs file⟩
      exact congrArg (Image.ofList 0) (FileSystem.create_contents_self fs file)

/-- `seek_io` interprets a sequence of commands as the reference file does exactly if there
are commands, the file is not named `--help`, and each command finds what it needs when
its turn comes. -/
theorem seekIo_interprets_iff (dumpcore : Option String) (malloc : Nat -> Bool)
    (program file : List Byte) (commands : List SpelledCommand) (fs : FileSystem) :
    Interprets file commands (initialReference fs file)
        (seekIo dumpcore (granting malloc)
          (program :: file :: commands.map SpelledCommand.argument) fs) <->
      commands ≠ [] ∧ file ≠ ascii "--help" ∧
        EachHarmless malloc commands (initialReference fs file) := by
  cases commands with
  | nil =>
      refine ⟨fun interpreted => ?_, fun all => absurd rfl all.1⟩
      rcases interpreted with ⟨after, ran, _⟩
      cases ran
  | cons first rest =>
      by_cases help : file = ascii "--help"
      · refine ⟨fun interpreted => ?_, fun all => absurd help all.2.1⟩
        rcases interpreted with ⟨after, ran, _⟩
        rw [List.map_cons] at ran
        unfold seekIo at ran
        dsimp only at ran
        rw [if_pos help] at ran
        cases ran
      · rcases openFile_matches fs file with ⟨fd, opened, ready, matched⟩
        have started : seekIo dumpcore (granting malloc)
            (program :: file :: (first :: rest).map SpelledCommand.argument) fs =
          seekLoop dumpcore (granting malloc) 2 ((first :: rest).map SpelledCommand.argument)
            ⟨opened, fd⟩ := by
          rw [List.map_cons]
          unfold seekIo granting
          dsimp only
          rw [if_neg help, ready]
        rw [started, seekLoop_interprets_iff matched]
        exact ⟨fun each => ⟨List.cons_ne_nil _ _, help, each⟩, fun all => all.2.2⟩

/-- The command `r0`. -/
def readNothing : SpelledCommand where
  argument := ascii "r0"
  command := .read false 0
  spells := by
    have zero : IsNumeral 8 [48] := by
      refine ⟨List.cons_ne_nil _ _, ?_⟩
      intro byte member
      rw [List.mem_singleton.mp member]
      rfl
    have number : NumberText 0 ([] ++ [48]) (numeralValue 8 [48] : Nat) :=
      .unsigned (fun byte member => absurd member List.not_mem_nil) (.octal zero)
    exact .text number (by decide)

/-- At the start of a file that is not empty, `r0` reports the end of the file. -/
theorem readNothing_reports_end :
    ¬ Interprets (ascii "f") [readNothing] (initialReference (.oneFile [120]) (ascii "f"))
      (seekIo none (granting fun _ => true) [ascii "seek_io", ascii "f", ascii "r0"] (.oneFile [120])) := by
  rintro ⟨after, ran, _⟩
  have shown : (seekIo none (granting fun _ => true) [ascii "seek_io", ascii "f", ascii "r0"]
      (.oneFile [120])).map SeekRun.printed = some [ascii "r0: end-of-file" ++ [newline]] := by
    decide +kernel
  rw [ran] at shown
  have expected : (interpret [readNothing] (initialReference (.oneFile [120]) (ascii "f"))).1 =
      [ascii "r0: end-of-file" ++ [newline]] := Option.some.inj shown
  exact absurd expected (by decide +kernel)

end Fileio
end Tlpi
