import Tlpi.Foundations.BoundedLoop
import Tlpi.Foundations.Progression
import Tlpi.Lib.ProgramEnd

namespace Tlpi
namespace MemoryAllocate
namespace FreeAndSbrk

open CLibrary Foundations Lib

/-!
# Freeing some of the allocated blocks

The program allocates a number of blocks and frees those whose indices a `for` loop
visits: from a first index on, in steps of a given size, below a last one.  The checks of
the arguments bound the last index by the number of blocks.  They do not bound the step,
and the loop adds it once more than it frees a block.
-/

def MAX_ALLOCS : Int := 1000000

/-- The arguments, as far as they have been checked. -/
structure Arguments where
  numAllocs : PositiveInt
  blockSize : PositiveInt
  freeStep : PositiveInt
  freeMin : PositiveInt
  freeMax : PositiveInt
  withinArray : numAllocs.value ≤ MAX_ALLOCS
  withinAllocated : freeMax.value ≤ numAllocs.value
deriving DecidableEq

/-- An argument that may be left out. -/
def getOptional (arg : Option (List Byte)) (absent : PositiveInt) (name : String) :
    Except (List Byte) PositiveInt :=
  match arg with
  | none => .ok absent
  | some arg => getPositive arg 0 (by decide) name

def readArguments (argv : List (List Byte)) : Except ProgramEnd Arguments :=
  let usage (program : List Byte) : ProgramEnd :=
    usageErr (program ++ ascii " num-allocs block-size [step [min [max]]]")
  match argv with
  | program :: numArg :: sizeArg :: others =>
      if numArg = ascii "--help" then .error (usage program)
      else do
        let numAllocs <- refused (getPositive numArg 0 (by decide) "num-allocs")
        if tooMany : MAX_ALLOCS < numAllocs.value then
          .error (cmdLineErr (ascii "num-allocs > 1000000"))
        else
          let blockSize <- refused (getPositive sizeArg GN_ANY_BASE (by decide) "block-size")
          let freeStep <- refused (getOptional others[0]? one "step")
          let freeMin <- refused (getOptional others[1]? one "min")
          let freeMax <- refused (getOptional others[2]? numAllocs "max")
          if beyond : numAllocs.value < freeMax.value then
            .error (cmdLineErr (ascii "free-max > num-allocs"))
          else
            return ⟨numAllocs, blockSize, freeStep, freeMin, freeMax, not_lt.mp tooMany,
              not_lt.mp beyond⟩
  | program :: _ => .error (usage program)
  | [] => .error (usage [])
where
  one : PositiveInt := ⟨1, by decide, by decide⟩
  refused {Value : Type} : Except (List Byte) Value -> Except ProgramEnd Value
    | .error diagnostic => .error (.badArguments diagnostic)
    | .ok value => .ok value

/-- The blocks that the calls of `malloc` from number `j` on return. -/
def allocate (malloc : Nat -> Except Errno Nat) : Nat -> Nat -> Except Errno (List Nat)
  | _, 0 => .ok []
  | j, more + 1 => do
      let block <- malloc j
      let blocks <- allocate malloc (j + 1) more
      return block :: blocks

/-- The loop variable, and the values of it with which `free(ptr[j])` has been called. -/
structure FreeState where
  j : Int
  freed : List Int
deriving DecidableEq, Repr

/-- What the loop has freed when it ends, and whether it ended with an addition whose
sum is no `int`, behind which the program has no defined behaviour. -/
structure Freed where
  freed : List Int
  overflowed : Bool
deriving DecidableEq, Repr

/-- One turn of `for (j = freeMin - 1; j < freeMax; j += freeStep)`. -/
def freeTurn (freeMax freeStep : PositiveInt) (state : FreeState) : Control FreeState Freed :=
  if state.j < freeMax.value then
    let freed := state.freed ++ [state.j]
    if state.j + freeStep.value ≤ INT_MAX then .again ⟨state.j + freeStep.value, freed⟩
    else .done ⟨freed, true⟩
  else .done ⟨state.freed, false⟩

def freeLoop (freeMax freeStep : PositiveInt) : BoundedLoop FreeState Freed where
  body := freeTurn freeMax freeStep
  variant state := (freeMax.value - state.j).toNat
  decreases := by
    intro state next again
    have positive := freeStep.positive
    unfold freeTurn at again
    split at again
    · split at again
      · cases again
        dsimp only
        omega
      · cases again
    · cases again

/-- The lines of the output; the addresses are those of the program break. -/
inductive Line where
  | empty
  | initialBreak (address : Nat)
  | allocating (numAllocs blockSize : Int)
  | breakNow (address : Nat)
  | freeing (freeMin freeMax freeStep : Int)
  | breakAfter (address : Nat)
deriving DecidableEq, Repr

inductive Ending where
  | exited (ended : ProgramEnd)
  | overflow
deriving DecidableEq, Repr

/-- What the program leaves: the blocks in `ptr`, the indices of those that it has freed,
and its output. -/
structure Outcome where
  ptr : List Nat
  freed : List Int
  printed : List Line
  ended : Ending
deriving DecidableEq, Repr

/-- `main`, with what the calls of `malloc` and `sbrk` return. -/
def main (dumpcore : Option String) (argv : List (List Byte)) (malloc : Nat -> Except Errno Nat)
    (sbrk : Nat -> Nat) : Outcome :=
  match readArguments argv with
  | .error ended => ⟨[], [], [.empty], .exited ended⟩
  | .ok given =>
      let allocating := [.empty, .initialBreak (sbrk 0),
        .allocating given.numAllocs.value given.blockSize.value]
      match allocate malloc 0 given.numAllocs.value.toNat with
      | .error errno => ⟨[], [], allocating, .exited (.failed (errExit dumpcore errno "malloc"))⟩
      | .ok ptr =>
          let freeing := allocating ++ [.breakNow (sbrk 1),
            .freeing given.freeMin.value given.freeMax.value given.freeStep.value]
          let left := (freeLoop given.freeMax given.freeStep).run ⟨given.freeMin.value - 1, []⟩
          if left.overflowed then ⟨ptr, left.freed, freeing, .overflow⟩
          else ⟨ptr, left.freed, freeing ++ [.breakAfter (sbrk 2)], .exited .success⟩

/-! ## Which blocks are freed -/

/-- The blocks that the arguments name are freed, each once and none that was not
allocated, and the loop ends without an overflow. -/
structure FreesNamed (given : Arguments) (outcome : Outcome) : Prop where
  named : outcome.freed =
    Progression.below (given.freeMin.value - 1) given.freeStep.value given.freeMax.value
  allocated : forall j, j ∈ outcome.freed ->
    0 ≤ j ∧ j < given.numAllocs.value ∧ Exists fun block => outcome.ptr[j.toNat]? = some block
  once : outcome.freed.Nodup
  ended : outcome.ended = .exited .success

theorem allocate_length {malloc : Nat -> Except Errno Nat} {more j : Nat} {ptr : List Nat}
    (allocated : allocate malloc j more = .ok ptr) : ptr.length = more := by
  induction more generalizing j ptr with
  | zero =>
      cases allocated
      rfl
  | succ more inductionHypothesis =>
      unfold allocate at allocated
      cases first : malloc j with
      | error errno =>
          rw [first] at allocated
          cases allocated
      | ok block =>
          rw [first] at allocated
          cases rest : allocate malloc (j + 1) more with
          | error errno =>
              simp only [rest] at allocated
              cases allocated
          | ok blocks =>
              simp only [rest] at allocated
              cases allocated
              rw [List.length_cons, inductionHypothesis rest]

/-- The loop visits the progression, and overflows exactly if the first term behind it is
no `int`. -/
theorem freeLoop_run (freeMax freeStep : PositiveInt) (state : FreeState) (fits : state.j ≤ INT_MAX) :
    ((freeLoop freeMax freeStep).run state).freed =
        state.freed ++ Progression.below state.j freeStep.value freeMax.value ∧
      (((freeLoop freeMax freeStep).run state).overflowed = true <->
        INT_MAX < Progression.beyond state.j freeStep.value freeMax.value) := by
  have positive := freeStep.positive
  refine (freeLoop freeMax freeStep).run_relation
    (motive := fun state result => state.j ≤ INT_MAX ->
      result.freed = state.freed ++ Progression.below state.j freeStep.value freeMax.value ∧
        (result.overflowed = true <->
          INT_MAX < Progression.beyond state.j freeStep.value freeMax.value)) ?_ ?_ state fits
  · intro state result delivered fits
    change freeTurn freeMax freeStep state = .done result at delivered
    unfold freeTurn at delivered
    split at delivered
    · rename_i less
      split at delivered
      · cases delivered
      · rename_i overflow
        cases delivered
        have reached : freeMax.value ≤ state.j + freeStep.value := by
          have bound := freeMax.fits
          omega
        rw [Progression.below_of_lt positive less, Progression.below_of_le positive reached,
          Progression.beyond_of_lt positive less, Progression.beyond_of_le positive reached]
        exact ⟨rfl, iff_of_true rfl (not_le.mp overflow)⟩
    · rename_i reached
      cases delivered
      rw [Progression.below_of_le positive (not_lt.mp reached),
        Progression.beyond_of_le positive (not_lt.mp reached)]
      exact ⟨(List.append_nil _).symm, iff_of_false Bool.false_ne_true (not_lt.mpr fits)⟩
  · intro state next result again inductionHypothesis fits
    change freeTurn freeMax freeStep state = .again next at again
    unfold freeTurn at again
    split at again
    · rename_i less
      split at again
      · rename_i sumFits
        cases again
        rcases inductionHypothesis sumFits with ⟨freed, overflowed⟩
        rw [Progression.below_of_lt positive less, Progression.beyond_of_lt positive less]
        exact ⟨by rw [freed, List.append_assoc, List.singleton_append], overflowed⟩
      · cases again
    · cases again

/-- The program frees the blocks that were named exactly if the first of the numbers
`min - 1`, `min - 1 + step`, ... that is not below `max` is an `int`. -/
theorem frees_named_iff (dumpcore : Option String) (argv : List (List Byte))
    (malloc : Nat -> Except Errno Nat) (sbrk : Nat -> Nat) (given : Arguments) (ptr : List Nat)
    (accepted : readArguments argv = .ok given)
    (allocated : allocate malloc 0 given.numAllocs.value.toNat = .ok ptr) :
    FreesNamed given (main dumpcore argv malloc sbrk) <->
      Progression.beyond (given.freeMin.value - 1) given.freeStep.value given.freeMax.value ≤ INT_MAX := by
  have positive := given.freeStep.positive
  have minPositive := given.freeMin.positive
  have minFits := given.freeMin.fits
  have within := given.withinAllocated
  have length := allocate_length allocated
  have run := freeLoop_run given.freeMax given.freeStep ⟨given.freeMin.value - 1, []⟩ (by dsimp only; omega)
  rw [List.nil_append] at run
  unfold main
  rw [accepted]
  dsimp only
  rw [allocated]
  dsimp only
  split
  · rename_i overflowed
    have tooLarge := run.2.mp overflowed
    refine iff_of_false ?_ (not_le.mpr tooLarge)
    intro frees
    cases frees.ended
  · rename_i notOverflowed
    refine iff_of_true ?_ (not_lt.mp (fun tooLarge => notOverflowed (run.2.mpr tooLarge)))
    constructor
    case named => exact run.1
    case allocated =>
      intro j member
      change j ∈ ((freeLoop given.freeMax given.freeStep).run _).freed at member
      rw [run.1] at member
      have range := Progression.mem_below positive member
      dsimp only at range
      refine ⟨by omega, by omega, _, List.getElem?_eq_getElem ?_⟩
      change j.toNat < ptr.length
      rw [length]
      omega
    case once =>
      change ((freeLoop given.freeMax given.freeStep).run _).freed.Nodup
      rw [run.1]
      exact Progression.nodup_below positive
    case ended => rfl

/-- Two blocks, of which the second is freed, in steps of the largest `int`. -/
def largestStep : Arguments where
  numAllocs := ⟨2, by decide, by decide⟩
  blockSize := ⟨1, by decide, by decide⟩
  freeStep := ⟨2147483647, by decide, by decide⟩
  freeMin := ⟨2, by decide, by decide⟩
  freeMax := ⟨2, by decide, by decide⟩
  withinArray := by decide
  withinAllocated := by decide

def largestStepArgv : List (List Byte) :=
  [ascii "free_and_sbrk", ascii "2", ascii "1", ascii "2147483647", ascii "2", ascii "2"]

/-- The addition behind the only turn of the loop overflows. -/
theorem largestStep_overflows :
    readArguments largestStepArgv = .ok largestStep ∧
      (main none largestStepArgv (fun j => .ok (4096 + 16 * j)) (fun _ => 8192)).ended = .overflow ∧
      ¬ FreesNamed largestStep
        (main none largestStepArgv (fun j => .ok (4096 + 16 * j)) (fun _ => 8192)) := by
  have ended : (main none largestStepArgv (fun j => .ok (4096 + 16 * j)) (fun _ => 8192)).ended =
      .overflow := by
    decide +kernel
  refine ⟨by decide +kernel, ended, ?_⟩
  intro frees
  have success := frees.ended
  rw [ended] at success
  cases success

/-- Of ten blocks every third is freed. -/
def everyThird : Arguments where
  numAllocs := ⟨10, by decide, by decide⟩
  blockSize := ⟨16, by decide, by decide⟩
  freeStep := ⟨3, by decide, by decide⟩
  freeMin := ⟨1, by decide, by decide⟩
  freeMax := ⟨10, by decide, by decide⟩
  withinArray := by decide
  withinAllocated := by decide

theorem everyThird_frees :
    FreesNamed everyThird (main none [ascii "free_and_sbrk", ascii "10", ascii "0x10", ascii "3"]
      (fun j => .ok (4096 + 16 * j)) (fun _ => 8192)) :=
  (frees_named_iff none [ascii "free_and_sbrk", ascii "10", ascii "0x10", ascii "3"]
    (fun j => .ok (4096 + 16 * j)) (fun _ => 8192) everyThird
    ((List.range 10).map (fun j => 4096 + 16 * j)) (by decide +kernel) (by decide +kernel)).mpr
    (by decide +kernel)

end FreeAndSbrk
end MemoryAllocate
end Tlpi
