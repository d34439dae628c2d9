import Mathlib.Data.List.TakeDrop
import Tlpi.CLibrary.Strings
import Tlpi.CLibrary.Strtol
import Tlpi.Foundations.Numerals
import Tlpi.Foundations.Transition
import Tlpi.Lib.ErrorFunctions

namespace Tlpi
namespace PosixSharedmem
namespace Pshm

open CLibrary Foundations Lib

/-!
# Writing and reading a shared memory object

One program puts its argument into a shared memory object, and the other shows what is
in the object.  Nothing but the size of the object says how long the string in it is:
the writer sets the size, maps that many bytes and copies the string there, and the
reader maps and shows as many bytes as the size says.

The programs run one after another.  A mapping of no bytes is refused with `EINVAL`;
`ftruncate` and any other mapping succeed.  The remaining calls may fail, and the
reader does not look at what `write` returns.
-/

/-- A shared memory object: its bytes, as many as its size. -/
abbrev SharedObject := List Byte

/-- `ftruncate`: cut the object off, or fill it up with null bytes. -/
def ftruncate (content : SharedObject) (length : Nat) : SharedObject :=
  content.take length ++ List.replicate (length - content.length) 0

/-- `mmap`, as far as it depends on the length. -/
def mmap (length : Nat) : Option Errno := if length = 0 then some .EINVAL else none

/-- `memcpy` to the start of a shared mapping. -/
def memcpy (content bytes : SharedObject) : SharedObject := bytes ++ content.drop bytes.length

theorem length_ftruncate (content : SharedObject) (length : Nat) :
    (ftruncate content length).length = length := by
  unfold ftruncate
  rw [List.length_append, List.length_take, List.length_replicate]
  omega

/-- Nothing is lost exactly if the size stays. -/
theorem ftruncate_eq_self_iff (content : SharedObject) (length : Nat) :
    ftruncate content length = content <-> length = content.length := by
  constructor
  · intro same
    have lengths := congrArg List.length same
    rw [length_ftruncate] at lengths
    exact lengths
  · intro equal
    unfold ftruncate
    rw [equal, List.take_length, Nat.sub_self, List.replicate_zero, List.append_nil]

/-- What is copied over the whole object is all that it then holds. -/
theorem memcpy_ftruncate (content bytes : SharedObject) :
    memcpy (ftruncate content bytes.length) bytes = bytes := by
  unfold memcpy
  rw [List.drop_of_length_le (le_of_eq (length_ftruncate content bytes.length)), List.append_nil]

/-- How a program ends. -/
inductive Ending where
  | usage (text : List Byte)
  | failed (failure : Failure)
  | success
deriving DecidableEq, Repr

/-- A run of a program: the object it leaves, what it has written to the standard
output, and its end. -/
structure Result where
  content : SharedObject
  stdout : List Byte
  ending : Ending
deriving DecidableEq, Repr

/-- The calls of `pshm_write` that may fail. -/
structure WriteCalls where
  shm_open : Option Errno
  close : Option Errno

/-- The calls of `pshm_read` that may fail, and what `write` is answered. -/
structure ReadCalls where
  shm_open : Option Errno
  fstat : Option Errno
  close : Option Errno
  write : List Response

/-- `usageErr("%s " ... "\n", argv[0])`. -/
def usageErr (program : CString) (arguments : String) : Ending :=
  .usage (ascii "Usage: " ++ program.bytes ++ ascii arguments ++ [newline])

/-- `main` of `pshm_write`, for `argv[0]` and the arguments behind it. -/
def pshm_write (dumpcore : Option String) (program : CString) (arguments : List CString)
    (calls : WriteCalls) (content : SharedObject) : Result :=
  match arguments with
  | [name, string] =>
      if name.bytes = ascii "--help" then ⟨content, [], usageErr program " shm-name string"⟩
      else
        match calls.shm_open with
        | some errno => ⟨content, [], .failed (errExit dumpcore errno "shm_open")⟩
        | none =>
            let len := string.strlen
            let resized := ftruncate content len
            let stdout := ascii "Resized to " ++ renderNat len ++ ascii " bytes" ++ [newline]
            match mmap len with
            | some errno => ⟨resized, stdout, .failed (errExit dumpcore errno "mmap")⟩
            | none =>
                match calls.close with
                | some errno => ⟨resized, stdout, .failed (errExit dumpcore errno "close")⟩
                | none =>
                    ⟨memcpy resized string.bytes,
                      stdout ++ ascii "copying " ++ renderNat len ++ ascii " bytes" ++ [newline],
                      .success⟩
  | _ => ⟨content, [], usageErr program " shm-name string"⟩

/-- `main` of `pshm_read`. -/
def pshm_read (dumpcore : Option String) (program : CString) (arguments : List CString)
    (calls : ReadCalls) (content : SharedObject) : Result :=
  match arguments with
  | [name] =>
      if name.bytes = ascii "--help" then ⟨content, [], usageErr program " shm-name"⟩
      else
        match calls.shm_open with
        | some errno => ⟨content, [], .failed (errExit dumpcore errno "shm_open")⟩
        | none =>
            match calls.fstat with
            | some errno => ⟨content, [], .failed (errExit dumpcore errno "fstat")⟩
            | none =>
                match mmap content.length with
                | some errno => ⟨content, [], .failed (errExit dumpcore errno "mmap")⟩
                | none =>
                    match calls.close with
                    | some errno => ⟨content, [], .failed (errExit dumpcore errno "close")⟩
                    | none => ⟨content, (write ⟨calls.write, []⟩ content).2.received, .success⟩
  | _ => ⟨content, [], usageErr program " shm-name"⟩

/-!
## Runs one after another
-/

/-- What the runs have in common: the variable that `terminate` looks at, and the name
of the object. -/
structure Setup where
  dumpcore : Option String
  name : CString

/-- A run of one of the programs on the object. -/
inductive Run where
  | write (program string : CString) (calls : WriteCalls)
  | read (program : CString) (calls : ReadCalls)

/-- The object, and the string given to the most recent `pshm_write` that reported
success, which the programs do not know. -/
structure State where
  content : SharedObject
  stored : Option CString

def Setup.result (setup : Setup) (content : SharedObject) : Run -> Result
  | .write program string calls =>
      pshm_write setup.dumpcore program [setup.name, string] calls content
  | .read program calls => pshm_read setup.dumpcore program [setup.name] calls content

def Setup.step (setup : Setup) (state : State) (run : Run) : Option State :=
  let result := setup.result state.content run
  match run with
  | .write _ string _ =>
      some ⟨result.content, if result.ending = .success then some string else state.stored⟩
  | .read _ _ => some ⟨result.content, state.stored⟩

def machine (setup : Setup) : Machine State Run where
  Initial state := state.stored = none
  step := setup.step

/-- What is wanted of a run: a writer that reports failure has left the object as it
was, and a reader shows the string that was stored. -/
def Setup.Faithful (setup : Setup) (state : State) (run : Run) : Prop :=
  let result := setup.result state.content run
  match run with
  | .write _ _ _ => result.ending ≠ .success -> result.content = state.content
  | .read _ _ => forall string, state.stored = some string -> result.stdout = string.bytes

/-- The one call of `write` takes all the bytes. -/
def TakesAll (responses : List Response) (content : SharedObject) : Prop :=
  match responses with
  | [] => True
  | .failed _ :: _ => content = []
  | .transfer limit :: _ => content.length ≤ limit

/-- The run does no harm.  A writer that opens the object is given a string that is not
empty, and closes the object, or the string is as long as the object already.  A
reader's calls succeed, once there is something to read. -/
def Setup.Harmless (setup : Setup) (state : State) : Run -> Prop
  | .write _ string calls =>
      setup.name.bytes = ascii "--help" ∨ calls.shm_open.isSome = true ∨
        (string.bytes ≠ [] ∧ calls.close = none) ∨ string.strlen = state.content.length
  | .read _ calls =>
      state.stored = none ∨
        (setup.name.bytes ≠ ascii "--help" ∧ calls.shm_open = none ∧ calls.fstat = none ∧
          calls.close = none ∧ TakesAll calls.write state.content)

/-- The object holds the string that was stored last, which is not empty. -/
def Consistent (state : State) : Prop :=
  forall string, state.stored = some string -> state.content = string.bytes ∧ string.bytes ≠ []

section Programs

variable {dumpcore : Option String} {program name string : CString} {content : SharedObject}

theorem mmap_eq_none_iff (length : Nat) : mmap length = none <-> length ≠ 0 := by
  unfold mmap
  split
  · exact iff_of_false (fun same => by cases same) (fun notZero => notZero ‹_›)
  · exact iff_of_true rfl ‹_›

/-- A writer that does not get to the object leaves it as it is. -/
theorem pshm_write_unopened {calls : WriteCalls}
    (unopened : name.bytes = ascii "--help" ∨ calls.shm_open.isSome = true) :
    (pshm_write dumpcore program [name, string] calls content).content = content ∧
      (pshm_write dumpcore program [name, string] calls content).ending ≠ .success := by
  unfold pshm_write
  dsimp only
  split
  · exact ⟨rfl, Ending.noConfusion⟩
  · rename_i notHelp
    split
    · exact ⟨rfl, Ending.noConfusion⟩
    · rename_i opened
      rcases unopened with help | failed
      · exact absurd help notHelp
      · rw [opened] at failed
        cases failed

/-- A writer whose calls succeed leaves its string, and nothing else, in the object. -/
theorem pshm_write_stores {calls : WriteCalls} (notHelp : name.bytes ≠ ascii "--help")
    (opened : calls.shm_open = none) (nonempty : string.bytes ≠ []) (closed : calls.close = none) :
    (pshm_write dumpcore program [name, string] calls content).content = string.bytes ∧
      (pshm_write dumpcore program [name, string] calls content).ending = .success := by
  have mapped : mmap string.strlen = none :=
    (mmap_eq_none_iff _).mpr (fun zero => nonempty (List.length_eq_zero_iff.mp zero))
  unfold pshm_write
  dsimp only
  rw [if_neg notHelp, opened, mapped, closed]
  exact ⟨memcpy_ftruncate content string.bytes, rfl⟩

/-- A writer that opens the object and then fails has set its size. -/
theorem pshm_write_resizes {calls : WriteCalls} (notHelp : name.bytes ≠ ascii "--help")
    (opened : calls.shm_open = none) (fails : string.bytes = [] ∨ calls.close ≠ none) :
    (pshm_write dumpcore program [name, string] calls content).content =
        ftruncate content string.strlen ∧
      (pshm_write dumpcore program [name, string] calls content).ending ≠ .success := by
  unfold pshm_write
  dsimp only
  rw [if_neg notHelp, opened]
  dsimp only
  split
  · exact ⟨rfl, Ending.noConfusion⟩
  · rename_i mapped
    split
    · exact ⟨rfl, Ending.noConfusion⟩
    · rename_i closed
      rcases fails with empty | unclosed
      · have zero : string.strlen = 0 := List.length_eq_zero_iff.mpr empty
        exact absurd zero ((mmap_eq_none_iff _).mp mapped)
      · exact absurd closed unclosed

/-- A writer does not open the object, or all its calls succeed, or it fails behind
`ftruncate`. -/
theorem pshm_write_cases (name string : CString) (calls : WriteCalls) :
    (name.bytes = ascii "--help" ∨ calls.shm_open.isSome = true) ∨
      (name.bytes ≠ ascii "--help" ∧ calls.shm_open = none) ∧
        ((string.bytes ≠ [] ∧ calls.close = none) ∨ (string.bytes = [] ∨ calls.close ≠ none)) := by
  by_cases unopened : name.bytes = ascii "--help" ∨ calls.shm_open.isSome = true
  · exact Or.inl unopened
  · push Not at unopened
    refine Or.inr ⟨⟨unopened.1, Option.not_isSome_iff_eq_none.mp unopened.2⟩, ?_⟩
    by_cases succeeds : string.bytes ≠ [] ∧ calls.close = none
    · exact Or.inl succeeds
    · rw [not_and_or, not_not] at succeeds
      exact Or.inr succeeds

theorem pshm_read_content {calls : ReadCalls} :
    (pshm_read dumpcore program [name] calls content).content = content := by
  unfold pshm_read
  dsimp only
  repeat' split
  all_goals rfl

theorem write_takes_all_iff (responses : List Response) (content : SharedObject) :
    (write ⟨responses, []⟩ content).2.received = content <-> TakesAll responses content := by
  unfold write TakesAll
  cases responses with
  | nil => exact iff_of_true rfl trivial
  | cons response rest =>
      cases response with
      | failed errno => exact eq_comm
      | transfer limit =>
          change content.take (min limit content.length) = content <-> content.length ≤ limit
          rw [List.take_eq_self_iff]
          omega

/-- What it takes for a reader to show an object that is not empty. -/
theorem pshm_read_shows_iff {calls : ReadCalls} (nonempty : content ≠ []) :
    (pshm_read dumpcore program [name] calls content).stdout = content <->
      name.bytes ≠ ascii "--help" ∧ calls.shm_open = none ∧ calls.fstat = none ∧
        calls.close = none ∧ TakesAll calls.write content := by
  have mapped : mmap content.length = none :=
    (mmap_eq_none_iff _).mpr (fun zero => nonempty (List.length_eq_zero_iff.mp zero))
  have silent : ¬ ([] = content) := fun empty => nonempty empty.symm
  unfold pshm_read
  dsimp only
  split
  · rename_i help
    exact iff_of_false silent (fun shown => shown.1 help)
  · rename_i notHelp
    cases opened : calls.shm_open with
    | some errno => exact iff_of_false silent (fun shown => by cases shown.2.1)
    | none =>
        cases sized : calls.fstat with
        | some errno => exact iff_of_false silent (fun shown => by cases shown.2.2.1)
        | none =>
            rw [mapped]
            cases closed : calls.close with
            | some errno => exact iff_of_false silent (fun shown => by cases shown.2.2.2.1)
            | none =>
                dsimp only
                rw [write_takes_all_iff]
                exact ⟨fun all => ⟨notHelp, rfl, rfl, rfl, all⟩, fun shown => shown.2.2.2.2⟩

end Programs

variable {setup : Setup} {state next : State}

/-- While the object holds the string stored last, a run does what is wanted of it
exactly if it is harmless. -/
theorem faithful_iff (consistent : Consistent state) (run : Run) :
    setup.Faithful state run <-> setup.Harmless state run := by
  cases run with
  | write program string calls =>
      rcases pshm_write_cases setup.name string calls with unopened | ⟨⟨notHelp, opened⟩, succeeds | fails⟩
      · refine iff_of_true (fun _ => (pshm_write_unopened unopened).1) ?_
        rcases unopened with help | failed
        · exact Or.inl help
        · exact Or.inr (Or.inl failed)
      · refine iff_of_true ?_ (Or.inr (Or.inr (Or.inl succeeds)))
        intro failed
        exact absurd (pshm_write_stores notHelp opened succeeds.1 succeeds.2).2 failed
      · have resizes : (setup.result state.content (.write program string calls)).content =
              ftruncate state.content string.strlen ∧
            (setup.result state.content (.write program string calls)).ending ≠ .success :=
          pshm_write_resizes notHelp opened fails
        rcases resizes with ⟨resized, failed⟩
        constructor
        · intro faithful
          have same := resized.symm.trans (faithful failed)
          exact Or.inr (Or.inr (Or.inr ((ftruncate_eq_self_iff _ _).mp same)))
        · rintro (help | unopened | stores | equal) _
          · exact absurd help notHelp
          · rw [opened] at unopened
            cases unopened
          · rcases fails with empty | unclosed
            · exact absurd empty stores.1
            · exact absurd stores.2 unclosed
          · exact resized.trans ((ftruncate_eq_self_iff _ _).mpr equal)
  | read program calls =>
      cases stored : state.stored with
      | none =>
          refine iff_of_true ?_ (Or.inl stored)
          intro string same
          rw [stored] at same
          cases same
      | some string =>
          rcases consistent string stored with ⟨holds, nonempty⟩
          have shows : (setup.result state.content (.read program calls)).stdout = state.content <-> _ :=
            pshm_read_shows_iff (by rwa [holds])
          constructor
          · intro faithful
            refine Or.inr (shows.mp ?_)
            rw [faithful string stored, holds]
          · rintro (unstored | reads) other same
            · rw [stored] at unstored
              cases unstored
            · rw [stored] at same
              rw [← Option.some.inj same, ← holds]
              exact shows.mpr reads

/-- A harmless run keeps the last string stored in the object. -/
theorem Consistent.step (consistent : Consistent state) {run : Run}
    (harmless : setup.Harmless state run) (stepped : setup.step state run = some next) :
    Consistent next := by
  cases run with
  | write program string calls =>
      cases stepped
      have faithful := (faithful_iff consistent _).mpr harmless
      intro other stored
      dsimp only at stored ⊢
      split at stored
      · rename_i succeeded
        cases stored
        rcases pshm_write_cases setup.name string calls with
          unopened | ⟨⟨notHelp, opened⟩, stores | fails⟩
        · exact absurd succeeded (pshm_write_unopened unopened).2
        · exact ⟨(pshm_write_stores notHelp opened stores.1 stores.2).1, stores.1⟩
        · exact absurd succeeded (pshm_write_resizes notHelp opened fails).2
      · rename_i failed
        rw [faithful failed]
        exact consistent other stored
  | read program calls =>
      cases stepped
      intro other stored
      have same : (setup.result state.content (.read program calls)).content = state.content :=
        pshm_read_content
      rw [same]
      exact consistent other stored

/-- In a sequence of runs every reader shows what was stored and every writer that fails
leaves the object as it was exactly if all the runs are harmless. -/
theorem round_trip_iff (setup : Setup) (content : SharedObject) (runs : List Run) :
    (machine setup).Along setup.Faithful ⟨content, none⟩ runs <->
      (machine setup).Along setup.Harmless ⟨content, none⟩ runs := by
  have initially : Consistent ⟨content, none⟩ := by
    intro string stored
    cases stored
  apply Machine.along_congr _ _ initially
  · intro state run consistent
    exact faithful_iff consistent run
  · intro state run next consistent harmless stepped
    exact consistent.step harmless stepped

/-- A writer that is given the empty string empties the object and then fails. -/
theorem empty_string_truncates :
    ¬ forall (setup : Setup) (content : SharedObject) (runs : List Run),
      (machine setup).Along setup.Faithful ⟨content, none⟩ runs := by
  intro always
  have faithful := (always ⟨none, ⟨[97], nullFree_of_all (by decide)⟩⟩ [98]
    [.write ⟨[], nullFree_of_all (by decide)⟩ ⟨[], nullFree_of_all (by decide)⟩ ⟨none, none⟩]).1
  have same := faithful (by decide)
  cases same

end Pshm
end PosixSharedmem
end Tlpi
