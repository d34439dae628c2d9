import Tlpi.CLibrary.Stdio
import Tlpi.CLibrary.Strtol
import Tlpi.Foundations.Transition

namespace Tlpi
namespace IpcPipeFifo
namespace PopenGlob

open CLibrary Foundations

/-!
# Globbing through a shell

The program reads a pattern, checks each of its characters and hands a command that
contains it to `popen`, which passes it to a shell.  The check runs over as many
characters as the line had before its newline was replaced by a null byte, so the
last of them may be that null byte, which `strchr` finds in any string.

One step of the machine is one turn of the loop.  The label says what `popen` and
`pclose` answer, if the turn gets that far.
-/

def POPEN_FMT : List Byte := ascii "/bin/ls -d %s 2> /dev/null"

def PAT_SIZE : Nat := 50

def PCMD_BUF_SIZE : Nat := (POPEN_FMT.length + 1) + PAT_SIZE

def PATH_MAX : Nat := 4096

/-- The text that a format with one `%s` gives. -/
def formatString : List Byte -> List Byte -> List Byte
  | 37 :: 115 :: rest, argument => argument ++ rest
  | byte :: rest, argument => byte :: formatString rest argument
  | [], _ => []

/-- `isalnum` in the C locale. -/
def isalnum (byte : Byte) : Bool :=
  (48 ≤ byte && byte ≤ 57) || (65 ≤ byte && byte ≤ 90) || (97 ≤ byte && byte ≤ 122)

/-- The test that makes a pattern bad. -/
def isBad (byte : Byte) : Bool := !isalnum byte && (strchr (ascii "/_*?[^-].") byte).isNone

/-- What `popen` answers: a failure, or a stream with the output of the command, and
the status that `pclose` returns at its end. -/
inductive Answer where
  | failed
  | opened (output : List Byte) (status : Int)
deriving DecidableEq, Repr

inductive Line where
  | prompt
  | badCharacter (character : Byte)
  | openFailed
  | pathname (text : List Byte)
  | matching (fileCnt : Nat)
  | pcloseStatus (status : Int)
  | waitStatus (status : Int)
deriving DecidableEq, Repr

structure State where
  pat : Vector Byte PAT_SIZE
  stdin : List Byte
  commands : List (List Byte)
  printed : List Line
  exited : Bool

/-- `if (pat[len - 1] == '\n') pat[len - 1] = '\0'`. -/
def stripNewline (pat : Vector Byte PAT_SIZE) (len : Nat) : Vector Byte PAT_SIZE :=
  if pat[len - 1]? = some newline then pat.setIfInBounds (len - 1) 0 else pat

/-- The first position below `len` with a bad character. -/
def badPattern (pat : Vector Byte PAT_SIZE) (len : Nat) : Option Nat :=
  (List.range len).find? (fun j => isBad (pat[j]?.getD 0))

/-- What is printed of the result of a command. -/
def listing (answer : Answer) : List Line :=
  match answer with
  | .failed => [.openFailed]
  | .opened output status =>
      let pathnames := fgetsLines PATH_MAX output
      pathnames.map (fun pathname => .pathname (cString pathname)) ++
        [.matching pathnames.length, .pcloseStatus status] ++
        (if status ≠ -1 then [.waitStatus status] else [])

/-- The turn of the loop after a pattern was read. -/
def glob (state : State) (answer : Answer) : State :=
  let len := (stringIn state.pat).strlen
  if len ≤ 1 then state
  else
    let pat := stripNewline state.pat len
    match badPattern pat len with
    | some j =>
        { state with
          pat := pat,
          printed := state.printed ++ [.badCharacter (pat[j]?.getD 0)] }
    | none =>
        let popenCmd := snprintf PCMD_BUF_SIZE (formatString POPEN_FMT (stringIn pat).bytes)
        { state with
          pat := pat,
          commands := state.commands ++ [popenCmd],
          printed := state.printed ++ listing answer }

def step (state : State) (answer : Answer) : Option State :=
  if state.exited then none
  else
    let prompted : State := { state with printed := state.printed ++ [.prompt] }
    match fgets state.pat state.stdin with
    | none => some { prompted with exited := true }
    | some (pat, stdin) => some (glob { prompted with pat := pat, stdin := stdin } answer)

/-- The start on an input; the buffer may hold anything. -/
def start (pat : Vector Byte PAT_SIZE) (input : List Byte) : State := ⟨pat, input, [], [], false⟩

def machine : Machine State Answer where
  Initial state := Exists fun pat => Exists fun input => state = start pat input
  step := step

/-!
## What reaches the shell
-/

/-- The characters that a pattern may have. -/
def PatternByte (byte : Byte) : Prop :=
  (48 ≤ byte ∧ byte ≤ 57) ∨ (65 ≤ byte ∧ byte ≤ 90) ∨ (97 ≤ byte ∧ byte ≤ 122) ∨
    byte ∈ ascii "/_*?[^-]."

instance : DecidablePred PatternByte := fun _ => inferInstanceAs (Decidable (_ ∨ _))

/-- Every character of a pattern is one that it may have. -/
def Allowed (pattern : List Byte) : Prop := forall byte, byte ∈ pattern -> PatternByte byte

instance : DecidablePred Allowed := fun pattern => List.decidableBAll PatternByte pattern

/-- A pattern that is safe to put into the command. -/
structure Harmless (pattern : List Byte) : Prop where
  nonempty : pattern ≠ []
  short : pattern.length ≤ PAT_SIZE - 1
  allowed : Allowed pattern

/-- The pattern in what was read: the string in it, without its newline. -/
def patternOf (piece : List Byte) : List Byte :=
  if (cString piece).getLast? = some newline then (cString piece).dropLast else cString piece

def commandFor (pattern : List Byte) : List Byte :=
  ascii "/bin/ls -d " ++ pattern ++ ascii " 2> /dev/null"

/-- The command that a piece of the input gives: none if it holds an empty line or
any character that a pattern may not have. -/
def commandOf (piece : List Byte) : Option (List Byte) :=
  if 2 ≤ (cString piece).length ∧ Allowed (patternOf piece) then
    some (commandFor (patternOf piece))
  else none

theorem isBad_eq_false_iff (byte : Byte) : isBad byte = false <-> byte = 0 ∨ PatternByte byte := by
  unfold isBad PatternByte
  rw [Bool.and_eq_false_iff, Bool.not_eq_false', ← Bool.not_eq_true, Option.isNone_iff_eq_none,
    strchr_eq_none_iff]
  simp only [isalnum, Bool.or_eq_true, Bool.and_eq_true, decide_eq_true_eq]
  tauto

/-- The format and the room for it fit every pattern that the buffer can hold. -/
theorem snprintf_command {pattern : List Byte} (short : pattern.length ≤ PAT_SIZE - 1) :
    snprintf PCMD_BUF_SIZE (formatString POPEN_FMT pattern) = commandFor pattern := by
  have formatted : formatString POPEN_FMT pattern = commandFor pattern := by
    simp [POPEN_FMT, commandFor, ascii, formatString]
  have room : (commandFor pattern).length ≤ PCMD_BUF_SIZE - 1 := by
    have sizes : (ascii "/bin/ls -d ").length = 11 ∧ (ascii " 2> /dev/null").length = 13 ∧
        PCMD_BUF_SIZE = 77 ∧ PAT_SIZE = 50 := by decide
    unfold commandFor
    rw [List.length_append, List.length_append]
    omega
  rw [formatted, snprintf, List.take_of_length_le room]

/-- Replacing the newline by a null byte leaves the pattern as the string. -/
theorem stringIn_stripNewline {pat : Vector Byte PAT_SIZE} {piece : List Byte}
    (read : (stringIn pat).bytes = cString piece) (nonempty : 0 < (stringIn pat).strlen) :
    (stringIn (stripNewline pat (stringIn pat).strlen)).bytes = patternOf piece := by
  have last : pat[(stringIn pat).strlen - 1]? = (cString piece).getLast? := by
    rw [getElem?_of_lt_strlen (Nat.sub_lt nonempty Nat.one_pos), List.getLast?_eq_getElem?, ← read]
    rfl
  unfold stripNewline patternOf
  rw [last]
  split
  · rw [stringIn_setIfInBounds, read, List.dropLast_eq_take]
    unfold CString.strlen
    rw [read]
  · exact read

/-- The check passes exactly the patterns without a bad character, whether or not it
also looks at the null byte that replaced the newline. -/
theorem badPattern_eq_none_iff {pat : Vector Byte PAT_SIZE} {len : Nat}
    (atMost : len ≤ (stringIn pat).strlen + 1) (atLeast : (stringIn pat).strlen ≤ len)
    (room : (stringIn pat).strlen < PAT_SIZE) :
    badPattern pat len = none <-> Allowed (stringIn pat).bytes := by
  unfold badPattern
  rw [List.find?_eq_none]
  simp only [List.mem_range, Bool.not_eq_true]
  constructor
  · intro passed byte member
    rcases List.mem_iff_getElem?.mp member with ⟨index, found⟩
    have inside : index < (stringIn pat).strlen := (List.getElem?_eq_some_iff.mp found).1
    have good := passed index (Nat.lt_of_lt_of_le inside atLeast)
    rw [getElem?_of_lt_strlen inside, found, Option.getD_some] at good
    rcases (isBad_eq_false_iff byte).mp good with zero | allowed
    · exact absurd zero ((stringIn pat).nullFree byte member)
    · exact allowed
  · intro allowed index bound
    rcases Nat.lt_or_ge index (stringIn pat).strlen with inside | last
    · rw [getElem?_of_lt_strlen inside, List.getElem?_eq_getElem inside, Option.getD_some]
      exact (isBad_eq_false_iff _).mpr (Or.inr (allowed _ (List.getElem_mem inside)))
    · have same : index = (stringIn pat).strlen := by omega
      rw [same, getElem?_strlen room]
      exact (isBad_eq_false_iff 0).mpr (Or.inl rfl)

/-- The pattern is what is left of the string, or that and the newline. -/
theorem patternOf_length (piece : List Byte) :
    (patternOf piece).length ≤ (cString piece).length ∧
      (cString piece).length ≤ (patternOf piece).length + 1 := by
  unfold patternOf
  split
  · rw [List.length_dropLast]
    omega
  · omega

/-- The turn after a piece was read gives the command of that piece, if it has one. -/
theorem glob_commands {state : State} {piece : List Byte} (answer : Answer)
    (read : (stringIn state.pat).bytes = cString piece)
    (short : (cString piece).length ≤ PAT_SIZE - 1) :
    (glob state answer).commands = state.commands ++ (commandOf piece).toList ∧
      (glob state answer).stdin = state.stdin ∧ (glob state answer).exited = state.exited := by
  have length : (stringIn state.pat).strlen = (cString piece).length := congrArg List.length read
  have bounds := patternOf_length piece
  unfold glob commandOf
  dsimp only
  by_cases empty : (stringIn state.pat).strlen ≤ 1
  · rw [if_pos empty, if_neg (by omega)]
    exact ⟨(List.append_nil _).symm, rfl, rfl⟩
  · rw [if_neg empty]
    have stripped := stringIn_stripNewline read (by omega)
    have strippedLength : (stringIn (stripNewline state.pat (stringIn state.pat).strlen)).strlen =
        (patternOf piece).length := congrArg List.length stripped
    have room : PAT_SIZE - 1 < PAT_SIZE := by decide
    have checked : badPattern (stripNewline state.pat (stringIn state.pat).strlen)
        (stringIn state.pat).strlen = none <-> _ :=
      badPattern_eq_none_iff (by omega) (by omega) (by omega)
    rw [stripped] at checked
    cases scan : badPattern (stripNewline state.pat (stringIn state.pat).strlen)
        (stringIn state.pat).strlen with
    | some j =>
        have bad : ¬ Allowed (patternOf piece) := by
          intro allowed
          rw [checked.mpr allowed] at scan
          cases scan
        rw [if_neg (fun both => bad both.2)]
        exact ⟨(List.append_nil _).symm, rfl, rfl⟩
    | none =>
        have allowed := checked.mp scan
        rw [if_pos ⟨by omega, allowed⟩]
        refine ⟨?_, rfl, rfl⟩
        rw [stripped, snprintf_command (by omega)]
        rfl

/-- One turn takes one piece of the input and gives its command, or ends the program
at the end of the input. -/
theorem step_cases {state next : State} {answer : Answer} (stepped : step state answer = some next) :
    (next.commands = state.commands ∧ next.stdin = state.stdin) ∨
      (Exists fun piece => fgetsLines PAT_SIZE state.stdin = piece :: fgetsLines PAT_SIZE next.stdin ∧
        next.commands = state.commands ++ (commandOf piece).toList) := by
  unfold step at stepped
  split at stepped
  · cases stepped
  · dsimp only at stepped
    split at stepped
    · cases stepped
      exact Or.inl ⟨rfl, rfl⟩
    · rename_i pat stdin read
      cases stepped
      rcases fgets_eq_some (by decide) read with ⟨nonempty, string, rest⟩
      have short : (cString (fgetsBytes PAT_SIZE state.stdin)).length ≤ PAT_SIZE - 1 :=
        Nat.le_trans (List.takeWhile_prefix _).length_le (fgetsBytes_length_le _ _)
      have turned := @glob_commands
        { state with printed := state.printed ++ [.prompt], pat := pat, stdin := stdin } _ answer string short
      refine Or.inr ⟨fgetsBytes PAT_SIZE state.stdin, ?_, turned.1⟩
      rw [fgetsLines_cons (by decide) nonempty, turned.2.1, rest]

/-- A run has given the commands of the pieces that it has read, in their order. -/
theorem exec_commands {state final : State} {answers : List Answer}
    (executed : machine.exec state answers = some final) :
    Exists fun read => fgetsLines PAT_SIZE state.stdin = read ++ fgetsLines PAT_SIZE final.stdin ∧
      final.commands = state.commands ++ read.filterMap commandOf := by
  induction answers generalizing state with
  | nil =>
      cases executed
      exact ⟨[], rfl, (List.append_nil _).symm⟩
  | cons answer rest inductionHypothesis =>
      rcases Option.bind_eq_some_iff.mp executed with ⟨next, stepped, continued⟩
      rcases inductionHypothesis continued with ⟨read, pieces, commands⟩
      rcases step_cases stepped with ⟨sameCommands, sameInput⟩ | ⟨piece, front, given⟩
      · rw [sameInput] at pieces
        rw [sameCommands] at commands
        exact ⟨read, pieces, commands⟩
      · refine ⟨piece :: read, ?_, ?_⟩
        · rw [front, pieces]
          rfl
        · rw [commands, given, List.append_assoc, List.filterMap_cons]
          cases commandOf piece <;> rfl

/-- A piece of the input that has a command has a harmless pattern. -/
theorem harmless_of_commandOf {piece command : List Byte}
    (short : piece.length ≤ PAT_SIZE - 1) (given : commandOf piece = some command) :
    command = commandFor (patternOf piece) ∧ Harmless (patternOf piece) := by
  unfold commandOf at given
  split at given
  · rename_i accepted
    cases given
    have bounds := patternOf_length piece
    have stringLength := (List.takeWhile_prefix (p := fun byte => byte != 0) (l := piece)).length_le
    unfold cString at bounds accepted
    refine ⟨rfl, ⟨?_, by omega, accepted.2⟩⟩
    apply List.ne_nil_of_length_pos
    omega
  · cases given

/-- Whatever the input, every command that reaches the shell is the fixed command
with a harmless pattern in it, complete, and no line with any other character in its
pattern gives a command. -/
theorem popen_harmless {pat : Vector Byte PAT_SIZE} {input : List Byte} {answers : List Answer}
    {final : State} (executed : machine.exec (start pat input) answers = some final) :
    (forall command, command ∈ final.commands ->
      Exists fun pattern => Harmless pattern ∧ command = commandFor pattern) ∧
    Exists fun read => read <+: fgetsLines PAT_SIZE input ∧
      final.commands = read.filterMap commandOf := by
  rcases exec_commands executed with ⟨read, pieces, commands⟩
  have front : read <+: fgetsLines PAT_SIZE input := ⟨_, pieces.symm⟩
  have given : final.commands = read.filterMap commandOf := commands
  refine ⟨?_, read, front, given⟩
  intro command member
  rw [given] at member
  rcases List.mem_filterMap.mp member with ⟨piece, inRead, isCommand⟩
  have short := length_le_of_mem_fgetsLines (front.subset inRead)
  have both := harmless_of_commandOf short isCommand
  exact ⟨patternOf piece, both.2, both.1⟩

/-- A run on two lines, the second of which asks for another command. -/
def twoLinesFinal : State :=
  (machine.exec (start (Vector.replicate PAT_SIZE 0) (ascii "a*\nb;c\n"))
    [.opened (ascii "a1\n") 0, .failed, .failed]).get (by decide +kernel)

theorem twoLines_harmless :
    twoLinesFinal.commands = [ascii "/bin/ls -d a* 2> /dev/null"] ∧ twoLinesFinal.exited = true ∧
      (forall command, command ∈ twoLinesFinal.commands ->
        Exists fun pattern => Harmless pattern ∧ command = commandFor pattern) ∧
      Exists fun read => read <+: fgetsLines PAT_SIZE (ascii "a*\nb;c\n") ∧
        twoLinesFinal.commands = read.filterMap commandOf := by
  have executed : machine.exec (start (Vector.replicate PAT_SIZE 0) (ascii "a*\nb;c\n"))
      [.opened (ascii "a1\n") 0, .failed, .failed] = some twoLinesFinal :=
    (Option.some_get _).symm
  exact ⟨by decide +kernel, by decide +kernel, popen_harmless executed⟩

end PopenGlob
end IpcPipeFifo
end Tlpi
