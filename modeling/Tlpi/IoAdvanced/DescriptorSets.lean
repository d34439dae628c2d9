import Tlpi.CLibrary.Scanf
import Tlpi.CLibrary.Strings
import Tlpi.IoAdvanced.SelfPipe
import Tlpi.Lib.ProgramEnd

namespace Tlpi
namespace IoAdvanced
namespace DescriptorSets

open CLibrary Lib

/-!
# The descriptor sets of `t_select` and `self_pipe`

Both programs put the descriptors that are named on the command line into the sets that
`select` is called with, and keep the number `nfds` that `select` wants besides.  A set has
room for `FD_SETSIZE` descriptors; the macros that work on it do not check their argument.
The programs check the numbers on the command line against the upper end of a set only.
`self_pipe` adds the read end of a pipe, whatever its number.
-/

def FD_SETSIZE : Int := 1024

/-- What is passed to `select`: the descriptors that were put into the two sets, in the order
in which that was done, and `nfds`. -/
structure Sets where
  nfds : Int
  readfds : List Int
  writefds : List Int
deriving DecidableEq, Repr

namespace Sets

def zero : Sets := ⟨0, [], []⟩

/-- Record a descriptor in `nfds`, and put it into the sets that the letters name. -/
def monitor (sets : Sets) (fd : Int) (letters : List Byte) : Sets where
  nfds := if sets.nfds ≤ fd then fd + 1 else sets.nfds
  readfds := if strchr letters 114 ≠ none then sets.readfds ++ [fd] else sets.readfds
  writefds := if strchr letters 119 ≠ none then sets.writefds ++ [fd] else sets.writefds

/-- The descriptors put into one of the sets. -/
def members (sets : Sets) : List Int := sets.readfds ++ sets.writefds

end Sets

/-- An argument is read to a descriptor and the letters of its sets, or ends the program. -/
abbrev ReadOperand := List Byte -> Except ProgramEnd (Int × List Byte)

/-- The loop over the arguments that name descriptors. -/
def readOperands (readOperand : ReadOperand) : List (List Byte) -> Sets -> Except ProgramEnd Sets
  | [], sets => .ok sets
  | arg :: rest, sets =>
      match readOperand arg with
      | .error ended => .error ended
      | .ok (fd, letters) =>
          if FD_SETSIZE ≤ fd then
            .error (cmdLineErr (ascii "file descriptor exceeds limit (1024)"))
          else readOperands readOperand rest (sets.monitor fd letters)

/-- The timeout, or none if `select` is to wait for ever. -/
def readTimeout (arg : List Byte) : Except ProgramEnd (Option Int) :=
  if arg = ascii "-" then .ok none
  else
    match getLong (some arg) 0 (some "timeout") with
    | .error diagnostic => .error (.badArguments diagnostic)
    | .ok seconds => .ok (some seconds)

/-- What the command line gives: the timeout, and the sets. -/
structure Given where
  timeout : Option Int
  sets : Sets
deriving DecidableEq, Repr

/-- The part of either `main` that reads the command line. -/
def readCommandLine (usage : List Byte -> ProgramEnd) (readOperand : List Byte -> ReadOperand)
    (argv : List (List Byte)) : Except ProgramEnd Given :=
  match argv with
  | program :: timeoutArg :: operands =>
      if timeoutArg = ascii "--help" then .error (usage program)
      else
        match readTimeout timeoutArg with
        | .error ended => .error ended
        | .ok timeout =>
            match readOperands (readOperand program) operands .zero with
            | .error ended => .error ended
            | .ok sets => .ok ⟨timeout, sets⟩
  | program :: _ => .error (usage program)
  | [] => .error (usage [])

/-- What `select` leaves, if it succeeds: its value, the two sets, and what it has left of
the timeout, in seconds and microseconds. -/
structure Selected where
  ready : Int
  isReadable : Int -> Bool
  isWritable : Int -> Bool
  remaining : Int × Int

/-- The lines of the output. -/
inductive Line where
  | ready (count : Int)
  | descriptor (fd : Int) (readable writable : Bool)
  | caught
  | readEnd (fd : Int) (readable : Bool)
  | timeout (seconds milliseconds : Int)
deriving DecidableEq, Repr

/-- What a program has done: the sets, the arguments of the calls of `FD_ISSET`, and the
output. -/
structure Outcome where
  sets : Sets
  tested : List Int
  printed : List Line
  ended : ProgramEnd
deriving DecidableEq, Repr

def timeoutLine (timeout : Option Int) (remaining : Int × Int) : List Line :=
  match timeout with
  | none => []
  | some _ => [.timeout remaining.1 (remaining.2.tdiv 1000)]

/-! ## `t_select` -/

namespace TSelect

/-- `sscanf(arg, "%d%2[rw]", &fd, buf)`, if it makes both conversions. -/
def scanDescriptor (arg : List Byte) : Option (Int × List Byte) :=
  match scanInteger arg with
  | none => none
  | some (value, rest) =>
      match (rest.take 2).takeWhile (fun byte => byte == 114 || byte == 119) with
      | [] => none
      | letters => some (toInt value, letters)

/-- `usageErr(argv[0])` ends the program unless both conversions are made. -/
def readOperand (program : List Byte) : ReadOperand := fun arg =>
  match scanDescriptor arg with
  | none => .error (.badArguments (ascii "Usage: " ++ program))
  | some operand => .ok operand

def usageError (progName : List Byte) : ProgramEnd :=
  .badArguments (ascii "Usage: " ++ progName ++ ascii " \x7btimeout|-\x7d fd-num[rw]...\n" ++
    ascii " - means infinite timeout; \n" ++ ascii " r = monitor for read\n" ++
    ascii " w = monitor for write\n\n" ++ ascii " e.g.: " ++ progName ++ ascii " - 0rw 1w\n")

def main (dumpcore : Option String) (select : Except Errno Selected) (argv : List (List Byte)) :
    Outcome :=
  match readCommandLine usageError readOperand argv with
  | .error ended => ⟨.zero, [], [], ended⟩
  | .ok given =>
      match select with
      | .error errno => ⟨given.sets, [], [], .failed (errExit dumpcore errno "exit")⟩
      | .ok selected =>
          let fds := (List.range given.sets.nfds.toNat).map (fun fd : Nat => (fd : Int))
          let lines := fds.map (fun fd =>
            Line.descriptor fd (selected.isReadable fd) (selected.isWritable fd))
          ⟨given.sets, fds,
            [.ready selected.ready] ++ lines ++ timeoutLine given.timeout selected.remaining,
            .success⟩

end TSelect

/-! ## `self_pipe` -/

namespace SelfPipe

/-- `getInt(arg, 0, "fd")`.  Every descriptor is for reading. -/
def readOperand : ReadOperand := fun arg =>
  match getInt (some arg) 0 (some "fd") with
  | .error diagnostic => .error (.badArguments diagnostic)
  | .ok fd => .ok (fd, ascii "r")

def usage (program : List Byte) : ProgramEnd :=
  usageErr (program ++ ascii " \x7btimeout|-\x7d fd...\n\t\t('-' means infinite timeout)")

/-- The answers to the calls: the descriptors of the pipe; the failure of a call between
`pipe` and `select`, if one fails; and an error other than `EAGAIN`, if a read of the pipe
ends with one. -/
structure Answers where
  pipe : Except Errno (Nat × Nat)
  prepare : Option (Errno × String)
  select : Except Errno Selected
  drain : Option Errno

/-- `FD_SET(pfd[0], &readfds); nfds = max(nfds, pfd[0] + 1);`. -/
def addPipe (sets : Sets) (pfd0 : Nat) : Sets :=
  { sets with
    readfds := sets.readfds ++ [(pfd0 : Int)]
    nfds := if (pfd0 : Int) + 1 < sets.nfds then sets.nfds else pfd0 + 1 }

/-- The part of `main` behind the `select`. -/
def examine (dumpcore : Option String) (answers : Answers) (given : Given) (sets : Sets)
    (pfd0 : Int) (selected : Selected) : Outcome :=
  let caught := if selected.isReadable pfd0 then [Line.caught] else []
  match (if selected.isReadable pfd0 then answers.drain else none) with
  | some errno => ⟨sets, [pfd0], caught, .failed (errExit dumpcore errno "read")⟩
  | none =>
      let fds := given.sets.readfds
      let lines := fds.map (fun fd => Line.descriptor fd (selected.isReadable fd) false)
      ⟨sets, [pfd0] ++ fds ++ [pfd0],
        caught ++ [.ready selected.ready] ++ lines ++ [.readEnd pfd0 (selected.isReadable pfd0)] ++
          timeoutLine given.timeout selected.remaining,
        .success⟩

def main (dumpcore : Option String) (answers : Answers) (argv : List (List Byte)) : Outcome :=
  match readCommandLine usage (fun _ => readOperand) argv with
  | .error ended => ⟨.zero, [], [], ended⟩
  | .ok given =>
      match answers.pipe with
      | .error errno => ⟨given.sets, [], [], .failed (errExit dumpcore errno "pipe")⟩
      | .ok (pfd0, _) =>
          let sets := addPipe given.sets pfd0
          match answers.prepare, answers.select with
          | some (errno, call), _ => ⟨sets, [], [], .failed (errExit dumpcore errno call)⟩
          | none, .error errno => ⟨sets, [], [], .failed (errExit dumpcore errno "select")⟩
          | none, .ok selected => examine dumpcore answers given sets pfd0 selected

end SelfPipe

/-! ## What sets are sound -/

/-- A number is one more than the largest of some descriptors, and zero if there are none. -/
structure Covers (nfds : Int) (members : List Int) : Prop where
  below : forall fd, fd ∈ members -> fd < nfds
  tight : (members = [] ∧ nfds = 0) ∨ nfds - 1 ∈ members

/-- No descriptor is outside of a set, and `nfds` is right for the sets. -/
structure SetsSound (outcome : Outcome) : Prop where
  inside : forall fd, fd ∈ outcome.sets.members ++ outcome.tested -> 0 ≤ fd ∧ fd < FD_SETSIZE
  covers : Covers outcome.sets.nfds outcome.sets.members

/-- Some letter names a set. -/
def NamesSet (letters : List Byte) : Prop := strchr letters 114 ≠ none ∨ strchr letters 119 ≠ none

section

variable {sets built : Sets} {fd : Int} {letters : List Byte} {readOperand : ReadOperand}
  {operands : List (List Byte)}

theorem mem_monitor (names : NamesSet letters) (other : Int) :
    other ∈ (sets.monitor fd letters).members <-> other ∈ sets.members ∨ other = fd := by
  unfold Sets.members Sets.monitor
  dsimp only
  by_cases reads : strchr letters 114 ≠ none
  · rw [if_pos reads]
    by_cases writes : strchr letters 119 ≠ none
    · rw [if_pos writes]
      simp only [List.mem_append, List.mem_singleton]
      tauto
    · rw [if_neg writes]
      simp only [List.mem_append, List.mem_singleton]
      tauto
  · have writes := names.resolve_left reads
    rw [if_neg reads, if_pos writes]
    simp only [List.mem_append, List.mem_singleton]
    tauto

theorem Covers.congr {nfds : Int} {first second : List Int}
    (same : forall fd, fd ∈ first <-> fd ∈ second) (covers : Covers nfds first) :
    Covers nfds second where
  below fd member := covers.below fd ((same fd).mpr member)
  tight := by
    rcases covers.tight with ⟨empty, zero⟩ | largest
    · refine Or.inl ⟨List.eq_nil_iff_forall_not_mem.mpr ?_, zero⟩
      intro fd member
      rw [← same fd, empty] at member
      exact absurd member List.not_mem_nil
    · exact Or.inr ((same _).mp largest)

theorem Covers.add {nfds fd : Int} {members : List Int} (covers : Covers nfds members)
    (nonneg : 0 ≤ fd) : Covers (if nfds ≤ fd then fd + 1 else nfds) (members ++ [fd]) := by
  constructor
  case below =>
    intro other member
    rcases List.mem_append.mp member with old | new
    · have less := covers.below other old
      split
      · omega
      · exact less
    · rw [List.mem_singleton.mp new]
      split
      · omega
      · omega
  case tight =>
    refine Or.inr (List.mem_append.mpr ?_)
    split
    · exact Or.inr (List.mem_singleton.mpr (by omega))
    · rename_i inside
      rcases covers.tight with ⟨_, zero⟩ | largest
      · omega
      · exact Or.inl largest

theorem Covers.monitor (covers : Covers sets.nfds sets.members) (names : NamesSet letters)
    (nonneg : 0 ≤ fd) :
    Covers (sets.monitor fd letters).nfds (sets.monitor fd letters).members := by
  refine (covers.add nonneg).congr ?_
  intro other
  rw [mem_monitor names, List.mem_append, List.mem_singleton]

/-- Every argument names a descriptor that is not negative, as far as it names one. -/
def NonnegOperands (readOperand : ReadOperand) (operands : List (List Byte)) : Prop :=
  forall arg, arg ∈ operands -> forall fd letters, readOperand arg = .ok (fd, letters) -> 0 ≤ fd

/-- The loop leaves in the sets what the arguments name, all of it below the upper end. -/
theorem mem_readOperands
    (names : forall arg fd letters, readOperand arg = .ok (fd, letters) -> NamesSet letters)
    (accepted : readOperands readOperand operands sets = .ok built) (fd : Int) :
    fd ∈ built.members <-> fd ∈ sets.members ∨
      fd < FD_SETSIZE ∧ Exists fun arg => arg ∈ operands ∧
        Exists fun letters => readOperand arg = .ok (fd, letters) := by
  induction operands generalizing sets with
  | nil =>
      cases accepted
      simp
  | cons arg rest inductionHypothesis =>
      unfold readOperands at accepted
      split at accepted
      · cases accepted
      · next first letters read =>
          split at accepted
          · cases accepted
          · next small =>
              rw [inductionHypothesis accepted, mem_monitor (names arg first letters read)]
              constructor
              · rintro ((old | rfl) | ⟨less, other, member, found⟩)
                · exact Or.inl old
                · exact Or.inr ⟨not_le.mp small, arg, List.mem_cons_self, letters, read⟩
                · exact Or.inr ⟨less, other, List.mem_cons_of_mem _ member, found⟩
              · rintro (old | ⟨less, other, member, otherLetters, found⟩)
                · exact Or.inl (Or.inl old)
                · rcases List.mem_cons.mp member with rfl | later
                  · rw [read] at found
                    cases found
                    exact Or.inl (Or.inr rfl)
                  · exact Or.inr ⟨less, other, later, otherLetters, found⟩

theorem readOperands_covers
    (names : forall arg fd letters, readOperand arg = .ok (fd, letters) -> NamesSet letters)
    (nonneg : NonnegOperands readOperand operands) (covers : Covers sets.nfds sets.members)
    (accepted : readOperands readOperand operands sets = .ok built) :
    Covers built.nfds built.members := by
  induction operands generalizing sets with
  | nil =>
      cases accepted
      exact covers
  | cons arg rest inductionHypothesis =>
      unfold readOperands at accepted
      split at accepted
      · cases accepted
      · next first letters read =>
          split at accepted
          · cases accepted
          · have positive := nonneg arg List.mem_cons_self first letters read
            exact inductionHypothesis (fun other member => nonneg other (List.mem_cons_of_mem _ member))
              (covers.monitor (names arg first letters read) positive) accepted

theorem covers_zero : Covers Sets.zero.nfds Sets.zero.members where
  below _ member := absurd member List.not_mem_nil
  tight := Or.inl ⟨rfl, rfl⟩

/-- The sets that the loop leaves are within their bounds exactly if no argument names a
negative descriptor. -/
theorem members_inside_iff
    (names : forall arg fd letters, readOperand arg = .ok (fd, letters) -> NamesSet letters)
    (accepted : readOperands readOperand operands .zero = .ok built) :
    (forall fd, fd ∈ built.members -> 0 ≤ fd ∧ fd < FD_SETSIZE) <->
      NonnegOperands readOperand operands := by
  have members := mem_readOperands names accepted
  constructor
  · intro inside arg member fd letters read
    by_contra negative
    have less : fd < FD_SETSIZE := by
      unfold FD_SETSIZE
      omega
    have put := (members fd).mpr (Or.inr ⟨less, arg, member, letters, read⟩)
    exact negative (inside fd put).1
  · intro nonneg fd put
    rcases (members fd).mp put with old | ⟨less, arg, member, letters, read⟩
    · exact absurd old List.not_mem_nil
    · exact ⟨nonneg arg member fd letters read, less⟩

theorem Covers.le_size {nfds : Int} {members : List Int} (covers : Covers nfds members)
    (inside : forall fd, fd ∈ members -> 0 ≤ fd ∧ fd < FD_SETSIZE) : 0 ≤ nfds ∧ nfds ≤ FD_SETSIZE := by
  rcases covers.tight with ⟨_, zero⟩ | largest
  · rw [zero]
    decide
  · have range := inside _ largest
    omega

theorem Covers.unique {first second : Int} {members : List Int} (left : Covers first members)
    (right : Covers second members) : first = second := by
  rcases left.tight with ⟨empty, zero⟩ | largest
  · rcases right.tight with ⟨_, alsoZero⟩ | member
    · exact zero.trans alsoZero.symm
    · rw [empty] at member
      exact absurd member List.not_mem_nil
  · have below := right.below _ largest
    rcases right.tight with ⟨empty, _⟩ | member
    · rw [empty] at largest
      exact absurd largest List.not_mem_nil
    · have above := left.below _ member
      omega

theorem readCommandLine_ok {usage : List Byte -> ProgramEnd} {readOperand : List Byte -> ReadOperand}
    {argv : List (List Byte)} {given : Given}
    (accepted : readCommandLine usage readOperand argv = .ok given) :
    Exists fun program => readOperands (readOperand program) (argv.drop 2) .zero = .ok given.sets := by
  unfold readCommandLine at accepted
  split at accepted
  · next program timeoutArg operands =>
      split at accepted
      · cases accepted
      · split at accepted
        · cases accepted
        · split at accepted
          · cases accepted
          · next sets read =>
              cases accepted
              exact ⟨program, read⟩
  · cases accepted
  · cases accepted

end

theorem strchr_ne_none {string : List Byte} {c : Byte} (member : c ∈ string) :
    strchr string c ≠ none := fun none => ((strchr_eq_none_iff string c).mp none).1 member

namespace TSelect

theorem scanDescriptor_names {arg letters : List Byte} {fd : Int}
    (scanned : scanDescriptor arg = some (fd, letters)) : NamesSet letters := by
  unfold scanDescriptor at scanned
  split at scanned
  · cases scanned
  · next value rest _ =>
      split at scanned
      · cases scanned
      · next matched =>
          cases scanned
          rcases List.exists_mem_of_ne_nil _ matched with ⟨letter, member⟩
          have named := List.mem_takeWhile_imp member
          rw [Bool.or_eq_true, beq_iff_eq, beq_iff_eq] at named
          rcases named with rfl | rfl
          · exact Or.inl (strchr_ne_none member)
          · exact Or.inr (strchr_ne_none member)

theorem readOperand_eq_ok {program arg letters : List Byte} {fd : Int} :
    readOperand program arg = .ok (fd, letters) <-> scanDescriptor arg = some (fd, letters) := by
  unfold readOperand
  cases scanDescriptor arg with
  | none => exact iff_of_false (fun same => by cases same) (fun same => by cases same)
  | some operand =>
      constructor
      · intro same
        exact congrArg some (Except.ok.inj same)
      · intro same
        rw [Option.some.inj same]

/-- The sets of `t_select` are sound exactly if no argument names a negative descriptor. -/
theorem main_sound_iff (dumpcore : Option String) (select : Except Errno Selected)
    {argv : List (List Byte)} {given : Given}
    (accepted : readCommandLine usageError readOperand argv = .ok given) :
    SetsSound (main dumpcore select argv) <->
      forall arg, arg ∈ argv.drop 2 -> forall fd letters,
        scanDescriptor arg = some (fd, letters) -> 0 ≤ fd := by
  rcases readCommandLine_ok accepted with ⟨program, read⟩
  have names : forall arg fd letters, readOperand program arg = .ok (fd, letters) -> NamesSet letters :=
    fun arg fd letters same => scanDescriptor_names (readOperand_eq_ok.mp same)
  have condition : NonnegOperands (readOperand program) (argv.drop 2) <->
      forall arg, arg ∈ argv.drop 2 -> forall fd letters,
        scanDescriptor arg = some (fd, letters) -> 0 ≤ fd := by
    unfold NonnegOperands
    simp only [readOperand_eq_ok]
  rw [← condition, ← members_inside_iff names read]
  have sets : (main dumpcore select argv).sets = given.sets := by
    unfold main
    rw [accepted]
    cases select <;> rfl
  constructor
  · intro sound fd member
    exact sound.inside fd (by rw [sets]; exact List.mem_append_left _ member)
  · intro inside
    have nonneg := (members_inside_iff names read).mp inside
    have covers := readOperands_covers names nonneg covers_zero read
    refine ⟨?_, by rw [sets]; exact covers⟩
    rw [sets]
    intro fd member
    rcases List.mem_append.mp member with put | tested
    · exact inside fd put
    · have size := covers.le_size inside
      unfold main at tested
      rw [accepted] at tested
      cases select with
      | error errno => exact absurd tested List.not_mem_nil
      | ok selected =>
          rcases List.mem_map.mp tested with ⟨index, inRange, rfl⟩
          have less := List.mem_range.mp inRange
          omega

end TSelect

namespace SelfPipe

theorem readOperand_names {arg letters : List Byte} {fd : Int}
    (read : readOperand arg = .ok (fd, letters)) : NamesSet letters := by
  unfold readOperand at read
  split at read
  · cases read
  · cases read
    exact Or.inl (strchr_ne_none (by decide))

/-- The pipe is one more descriptor for reading. -/
theorem addPipe_eq_monitor (sets : Sets) (pfd0 : Nat) :
    addPipe sets pfd0 = sets.monitor pfd0 (ascii "r") := by
  have reads : strchr (ascii "r") 114 ≠ none := by decide
  have writes : ¬ strchr (ascii "r") 119 ≠ none := by decide
  unfold addPipe Sets.monitor
  rw [if_pos reads, if_neg writes]
  congr 1
  split <;> split <;> omega

variable {answers : Answers} {argv : List (List Byte)} {given : Given}

/-- Without a pipe the sets are those of the command line, and nothing is tested. -/
theorem main_noPipe (dumpcore : Option String) {errno : Errno}
    (accepted : readCommandLine usage (fun _ => readOperand) argv = .ok given)
    (failed : answers.pipe = .error errno) :
    (main dumpcore answers argv).sets = given.sets ∧ (main dumpcore answers argv).tested = [] := by
  unfold main
  rw [accepted]
  dsimp only
  rw [failed]
  exact ⟨rfl, rfl⟩

/-- With a pipe its read end is in the set besides, and nothing is tested that is not. -/
theorem main_pipe (dumpcore : Option String) {pfd0 pfd1 : Nat}
    (accepted : readCommandLine usage (fun _ => readOperand) argv = .ok given)
    (created : answers.pipe = .ok (pfd0, pfd1)) :
    (main dumpcore answers argv).sets = addPipe given.sets pfd0 ∧
      forall fd, fd ∈ (main dumpcore answers argv).tested ->
        fd ∈ given.sets.members ∨ fd = pfd0 := by
  unfold main
  rw [accepted]
  dsimp only
  rw [created]
  dsimp only
  split
  · exact ⟨rfl, fun fd member => absurd member List.not_mem_nil⟩
  · exact ⟨rfl, fun fd member => absurd member List.not_mem_nil⟩
  · unfold examine
    dsimp only
    split
    · exact ⟨rfl, fun fd member => Or.inr (List.mem_singleton.mp member)⟩
    · refine ⟨rfl, fun fd member => ?_⟩
      rcases List.mem_append.mp member with early | last
      · rcases List.mem_append.mp early with first | argument
        · exact Or.inr (List.mem_singleton.mp first)
        · exact Or.inl (List.mem_append_left _ argument)
      · exact Or.inr (List.mem_singleton.mp last)

/-- The set of `self_pipe` is sound exactly if no argument is negative, and the read end of
the pipe, if there is one, is below the upper end of a set. -/
theorem main_sound_iff (dumpcore : Option String) (answers : Answers)
    {argv : List (List Byte)} {given : Given}
    (accepted : readCommandLine usage (fun _ => readOperand) argv = .ok given) :
    SetsSound (main dumpcore answers argv) <->
      (forall arg, arg ∈ argv.drop 2 -> forall fd, getInt (some arg) 0 (some "fd") = .ok fd -> 0 ≤ fd) ∧
        forall pfd0 pfd1, answers.pipe = .ok (pfd0, pfd1) -> (pfd0 : Int) < FD_SETSIZE := by
  rcases readCommandLine_ok accepted with ⟨_, read⟩
  have names : forall arg fd letters, readOperand arg = .ok (fd, letters) -> NamesSet letters :=
    fun arg fd letters => readOperand_names
  have condition : NonnegOperands readOperand (argv.drop 2) <->
      forall arg, arg ∈ argv.drop 2 -> forall fd, getInt (some arg) 0 (some "fd") = .ok fd -> 0 ≤ fd := by
    constructor
    · intro nonneg arg member fd parsed
      refine nonneg arg member fd (ascii "r") ?_
      unfold readOperand
      rw [parsed]
    · intro nonneg arg member fd letters same
      unfold readOperand at same
      split at same
      · cases same
      · next parsed =>
          cases same
          exact nonneg arg member fd parsed
  rw [← condition]
  cases created : answers.pipe with
  | error errno =>
      rcases main_noPipe dumpcore accepted created with ⟨sets, tested⟩
      constructor
      · intro sound
        refine ⟨(members_inside_iff names read).mp ?_, fun _ _ impossible => by cases impossible⟩
        intro fd member
        exact sound.inside fd (by rw [sets]; exact List.mem_append_left _ member)
      · rintro ⟨nonneg, _⟩
        refine ⟨?_, by rw [sets]; exact readOperands_covers names nonneg covers_zero read⟩
        rw [sets, tested, List.append_nil]
        exact (members_inside_iff names read).mpr nonneg
  | ok descriptors =>
      rcases descriptors with ⟨pfd0, pfd1⟩
      rcases main_pipe dumpcore accepted created with ⟨sets, tested⟩
      have isRead : NamesSet (ascii "r") := by
        unfold NamesSet
        decide
      have members : forall fd, fd ∈ (main dumpcore answers argv).sets.members <->
          fd ∈ given.sets.members ∨ fd = pfd0 := by
        intro fd
        rw [sets, addPipe_eq_monitor]
        exact mem_monitor isRead fd
      constructor
      · intro sound
        constructor
        · refine (members_inside_iff names read).mp ?_
          intro fd member
          exact sound.inside fd (List.mem_append_left _ ((members fd).mpr (Or.inl member)))
        · intro first second same
          cases same
          exact (sound.inside pfd0 (List.mem_append_left _ ((members pfd0).mpr (Or.inr rfl)))).2
      · rintro ⟨nonneg, small⟩
        have inside := (members_inside_iff names read).mpr nonneg
        have readEnd := small pfd0 pfd1 rfl
        have either : forall fd, fd ∈ given.sets.members ∨ fd = pfd0 -> 0 ≤ fd ∧ fd < FD_SETSIZE := by
          rintro fd (named | rfl)
          · exact inside fd named
          · exact ⟨Int.natCast_nonneg pfd0, readEnd⟩
        constructor
        case inside =>
          intro fd member
          rcases List.mem_append.mp member with put | isTested
          · exact either fd ((members fd).mp put)
          · exact either fd (tested fd isTested)
        case covers =>
          rw [sets, addPipe_eq_monitor]
          exact (readOperands_covers names nonneg covers_zero read).monitor isRead
            (Int.natCast_nonneg pfd0)

/-! ### The machine that waits -/

/-- The scan with which the machine of the self-pipe begins, on descriptors that are not
negative. -/
theorem scanDescriptors_covers (fds : List Nat) :
    (forall fd, (IoAdvanced.SelfPipe.scanDescriptors fds).1 fd = true <-> fd ∈ fds) ∧
      Covers (IoAdvanced.SelfPipe.scanDescriptors fds).2 (fds.map (fun fd : Nat => (fd : Int))) := by
  induction fds using List.reverseRecOn with
  | nil => exact ⟨fun fd => iff_of_false Bool.false_ne_true List.not_mem_nil, covers_zero⟩
  | append_singleton fds last inductionHypothesis =>
      have scanned : IoAdvanced.SelfPipe.scanDescriptors (fds ++ [last]) =
          (Function.update (IoAdvanced.SelfPipe.scanDescriptors fds).1 last true,
            if last ≥ (IoAdvanced.SelfPipe.scanDescriptors fds).2 then last + 1
            else (IoAdvanced.SelfPipe.scanDescriptors fds).2) := by
        unfold IoAdvanced.SelfPipe.scanDescriptors
        rw [List.foldl_append]
        rfl
      rcases inductionHypothesis with ⟨isSet, covers⟩
      rw [scanned]
      constructor
      · intro fd
        rw [List.mem_append, List.mem_singleton]
        dsimp only
        by_cases same : fd = last
        · rw [same, Function.update_self]
          exact iff_of_true rfl (Or.inr rfl)
        · rw [Function.update_of_ne same, isSet fd, or_iff_left same]
      · have added := covers.add (Int.natCast_nonneg last)
        rw [List.map_append, List.map_singleton]
        convert added using 1
        split <;> split <;> omega

/-- For descriptors that are not negative, the machine starts with the set and the bound that
are read from the command line. -/
theorem start_eq_commandLine {argv : List (List Byte)} {given : Given}
    (accepted : readCommandLine usage (fun _ => readOperand) argv = .ok given)
    (setup : IoAdvanced.SelfPipe.Setup)
    (named : given.sets.members = setup.fds.map (fun fd : Nat => (fd : Int))) :
    ((IoAdvanced.SelfPipe.start setup).nfds : Int) = given.sets.nfds ∧
      forall fd : Nat, (IoAdvanced.SelfPipe.start setup).readfds fd = true <->
        (fd : Int) ∈ given.sets.members := by
  rcases readCommandLine_ok accepted with ⟨_, read⟩
  have names : forall arg fd letters, readOperand arg = .ok (fd, letters) -> NamesSet letters :=
    fun arg fd letters => readOperand_names
  have inside : forall fd, fd ∈ given.sets.members -> 0 ≤ fd ∧ fd < FD_SETSIZE := by
    intro fd member
    rcases (mem_readOperands names read fd).mp member with old | ⟨less, _⟩
    · exact absurd old List.not_mem_nil
    · rw [named] at member
      rcases List.mem_map.mp member with ⟨_, _, rfl⟩
      exact ⟨Int.natCast_nonneg _, less⟩
  have covers := readOperands_covers names ((members_inside_iff names read).mp inside) covers_zero read
  rcases scanDescriptors_covers setup.fds with ⟨isSet, scanned⟩
  rw [named] at covers
  refine ⟨scanned.unique covers, ?_⟩
  intro fd
  rw [named]
  refine (isSet fd).trans ?_
  rw [List.mem_map]
  simp

end SelfPipe

/-! ## Both programs -/

/-- The descriptor sets are sound exactly if no argument names a negative descriptor and, in
`self_pipe`, the read end of the pipe is below the upper end of a set. -/
theorem descriptorSets_sound_iff (dumpcore : Option String) (argv : List (List Byte)) :
    (forall given, readCommandLine TSelect.usageError TSelect.readOperand argv = .ok given ->
      forall select : Except Errno Selected,
        (SetsSound (TSelect.main dumpcore select argv) <->
          forall arg, arg ∈ argv.drop 2 -> forall fd letters,
            TSelect.scanDescriptor arg = some (fd, letters) -> 0 ≤ fd)) ∧
      forall given, readCommandLine SelfPipe.usage (fun _ => SelfPipe.readOperand) argv = .ok given ->
        forall answers : SelfPipe.Answers,
          (SetsSound (SelfPipe.main dumpcore answers argv) <->
            (forall arg, arg ∈ argv.drop 2 -> forall fd,
              getInt (some arg) 0 (some "fd") = .ok fd -> 0 ≤ fd) ∧
              forall pfd0 pfd1, answers.pipe = .ok (pfd0, pfd1) -> (pfd0 : Int) < FD_SETSIZE) :=
  ⟨fun _ accepted select => TSelect.main_sound_iff dumpcore select accepted,
    fun _ accepted answers => SelfPipe.main_sound_iff dumpcore answers accepted⟩

/-- A terminal is monitored for reading and writing. -/
theorem standardInput_sound :
    SetsSound (TSelect.main none (.error .EINTR) [ascii "t_select", ascii "-", ascii "0rw"]) <->
      forall arg, arg ∈ [ascii "0rw"] -> forall fd letters,
        TSelect.scanDescriptor arg = some (fd, letters) -> 0 ≤ fd :=
  (descriptorSets_sound_iff none [ascii "t_select", ascii "-", ascii "0rw"]).1
    ⟨none, ⟨1, [0], [0]⟩⟩ (by decide +kernel) (.error .EINTR)

/-- The check lets the number -1 pass. -/
theorem negativeDescriptor_unsound :
    let argv := [ascii "t_select", ascii "-", ascii "-1r"]
    readCommandLine TSelect.usageError TSelect.readOperand argv = .ok ⟨none, ⟨0, [-1], []⟩⟩ ∧
      ¬ SetsSound (TSelect.main none (.error .EINTR) argv) := by
  intro argv
  refine ⟨by decide +kernel, ?_⟩
  intro sound
  have member : -1 ∈ (TSelect.main none (.error .EINTR) argv).sets.members := by decide +kernel
  exact absurd (sound.inside (-1) (List.mem_append_left _ member)).1 (by decide)

end DescriptorSets
end IoAdvanced
end Tlpi
