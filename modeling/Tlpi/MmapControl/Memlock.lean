import Tlpi.CLibrary.Operations
import Tlpi.Foundations.BoundedLoop
import Tlpi.Lib.ProgramEnd

namespace Tlpi
namespace MmapControl
namespace Memlock

open CLibrary Foundations Lib

/-!
# Locking some of the pages of a mapping

The program maps a number of pages and locks ranges of them: a `for` loop goes through the
mapping in steps of some pages and locks some pages from there on, as long as these are all
in the mapping.  Before and after it prints which pages are resident.  All numbers of pages
are multiplied by the size of a page first; the loop variable is a `long`, and what it is
compared with a `size_t`.

Every product and sum that the program makes is listed, beside what it does.
-/

/-- The size of a page. -/
structure PageSize where
  exponent : Nat
  bounded : exponent ≤ 16
deriving DecidableEq

def PageSize.bytes (pageSize : PageSize) : Nat := 2 ^ pageSize.exponent

structure Arguments where
  numPages : PositiveInt
  stepPages : PositiveInt
  lockPages : PositiveInt
deriving DecidableEq

/-- A mapping of a number of bytes, as `mmap` returns it. -/
structure Mapping (pageSize length : Nat) where
  address : Nat
  aligned : pageSize ∣ address
  within : address + length ≤ 18446744073709551616

/-- The addresses that a call of `mlock` is given. -/
structure Range where
  start : Nat
  length : Nat
deriving DecidableEq, Repr

/-- The answers to the calls.  A call of `mlock` is known by its number; the calls of
`malloc` and `mincore`, and what these leave in `vec`, by the call of `displayMincore`. -/
structure Answers where
  sysconf : Except Errno PageSize
  mmap : forall pageSize length : Nat, Except Errno (Mapping pageSize length)
  malloc : Nat -> Option Errno
  mincore : Nat -> Except Errno (Nat -> Byte)
  mlock : Nat -> Option Errno
  mlockall : Option Errno

/-- What `displayMincore` prints: the address at the start of a line, with a newline in front
unless it is the first, and the mark of a page. -/
inductive Item where
  | lineStart (again : Bool) (address : Nat)
  | mark (resident : Bool)
deriving DecidableEq, Repr

def Item.isMark : Item -> Bool
  | .lineStart _ _ => false
  | .mark _ => true

/-- A call of `displayMincore`: the bytes in `vec`, the indices with which it was read, and
the output. -/
structure Display where
  vec : List Byte
  indices : List Nat
  items : List Item
deriving DecidableEq, Repr

inductive Line where
  | allocated (length address : Nat)
  | heading (text : String)
  | residency (display : Display)
deriving DecidableEq, Repr

/-- How the loop ends: by its test, by a call of `mlock` that fails, or with a sum that is no
`long`, behind which the program has no defined behaviour. -/
inductive LockEnd where
  | completed
  | failed (errno : Errno)
  | overflow
deriving DecidableEq, Repr

/-- What the loop has done. -/
structure Locking where
  operations : List Operation
  ranges : List Range
  ended : LockEnd
deriving DecidableEq, Repr

/-- The loop variable, and what the loop has done so far. -/
structure LockState where
  j : Int
  operations : List Operation
  ranges : List Range
deriving DecidableEq, Repr

/-- One turn of `for (j = 0; j + lockLen <= len; j += stepSize)`. -/
def lockTurn (answers : Answers) (addr len lockLen : Nat) (stepSize : Int) (state : LockState) :
    Control LockState Locking :=
  let test := Operation.addSizeT (toSizeT state.j) lockLen
  let operations := state.operations ++ [test]
  if test.toSize ≤ len then
    let start := Operation.addSizeT addr (toSizeT state.j)
    let ranges := state.ranges ++ [⟨start.toSize, lockLen⟩]
    match answers.mlock state.ranges.length with
    | some errno => .done ⟨operations ++ [start], ranges, .failed errno⟩
    | none =>
        let update := Operation.addLong state.j stepSize
        if update.Fits then .again ⟨state.j + stepSize, operations ++ [start, update], ranges⟩
        else .done ⟨operations ++ [start, update], ranges, .overflow⟩
  else .done ⟨operations, state.ranges, .completed⟩

/-- A positive step takes the loop variable nearer to the largest `long`. -/
def lockLoop (answers : Answers) (addr len lockLen : Nat) (stepSize : Int)
    (positive : 0 < stepSize) : BoundedLoop LockState Locking where
  body := lockTurn answers addr len lockLen stepSize
  variant state := (LONG_MAX - state.j).toNat
  decreases := by
    intro state next again
    unfold lockTurn at again
    dsimp only at again
    split at again
    · split at again
      · cases again
      · split at again
        · next fits =>
            cases again
            have high : state.j + stepSize ≤ LONG_MAX := fits.2
            dsimp only
            omega
        · cases again
    · cases again

/-- What the program has done: its operations, the ranges that it has passed to `mlock`, how
the loop has ended, if it was reached, and the output. -/
structure Outcome where
  operations : List Operation
  ranges : List Range
  lockEnd : Option LockEnd
  printed : List Line
  ended : Option ProgramEnd
deriving DecidableEq, Repr

namespace Outcome

def failing (dumpcore : Option String) (errno : Errno) (call : String) : Outcome :=
  ⟨[], [], none, [], some (.failed (errExit dumpcore errno call))⟩

/-- What comes before the rest of a run. -/
def after (operations : List Operation) (printed : List Line) (rest : Outcome) : Outcome :=
  { rest with operations := operations ++ rest.operations, printed := printed ++ rest.printed }

end Outcome

/-- The number of pages of a length: the operations, and the value of `numPages`. -/
def countPages (pageSize length : Nat) : List Operation × Nat :=
  let sum := Operation.addSizeT length pageSize
  let less := Operation.subSizeT sum.toSize 1
  ([sum, less], less.toSize / pageSize)

/-- One turn of the loop in `displayMincore`. -/
def displayTurn (pageSize addr : Nat) (vec : List Byte) (j : Nat) : List Operation × List Item :=
  let mark := Item.mark ((vec.getD j 0) &&& 1 != 0)
  if j % 64 = 0 then
    let offset := Operation.mulLong j pageSize
    let address := Operation.addSizeT addr (toSizeT offset.toLong)
    ([offset, address], [.lineStart (j != 0) address.toSize, mark])
  else ([], [mark])

/-- `displayMincore(addr, length)`, and the rest of the run.  The calls of it are numbered. -/
def displayMincore (dumpcore : Option String) (answers : Answers) (pageSize addr length : Nat)
    (number : Nat) (rest : Outcome) : Outcome :=
  let counted := countPages pageSize length
  match answers.malloc number, answers.mincore number with
  | some errno, _ => (Outcome.failing dumpcore errno "malloc").after counted.1 []
  | none, .error errno => (Outcome.failing dumpcore errno "mincore").after counted.1 []
  | none, .ok residency =>
      let vec := (List.range counted.2).map residency
      let indices := List.range counted.2
      let turns := indices.map (displayTurn pageSize addr vec)
      rest.after (counted.1 ++ turns.flatMap Prod.fst)
        [.residency ⟨vec, indices, turns.flatMap Prod.snd⟩]

def readArguments (dumpcore : Option String) (answers : Answers) (argv : List (List Byte)) :
    Except ProgramEnd (PageSize × Arguments) :=
  let usage (program : List Byte) : ProgramEnd :=
    usageErr (program ++ ascii " num-pages lock-page-step lock-page-len")
  match argv with
  | [program, pagesArg, stepArg, lockArg] =>
      if pagesArg = ascii "--help" then .error (usage program)
      else
        match answers.sysconf with
        | .error errno => .error (.failed (errExit dumpcore errno "sysconf(_SC_PAGESIZE)"))
        | .ok pageSize =>
            match getPositive pagesArg 0 positive_flagged "num-pages",
              getPositive stepArg 0 positive_flagged "lock-page-step",
              getPositive lockArg 0 positive_flagged "lock-page-len" with
            | .error diagnostic, _, _ => .error (.badArguments diagnostic)
            | .ok _, .error diagnostic, _ => .error (.badArguments diagnostic)
            | .ok _, .ok _, .error diagnostic => .error (.badArguments diagnostic)
            | .ok numPages, .ok stepPages, .ok lockPages =>
                .ok (pageSize, ⟨numPages, stepPages, lockPages⟩)
  | program :: _ => .error (usage program)
  | [] => .error (usage [])

/-- A number of pages, in bytes. -/
def inBytes (pages : PositiveInt) (pageSize : PageSize) : Operation :=
  .mulLong pages.value pageSize.bytes

section

variable (pages : PositiveInt) (pageSize : PageSize)

theorem bytes_pos : 0 < pageSize.bytes := Nat.two_pow_pos pageSize.exponent

theorem bytes_le : pageSize.bytes ≤ 65536 :=
  Nat.pow_le_pow_right (by decide) pageSize.bounded

theorem product_bounds : 0 < pages.value.toNat * pageSize.bytes ∧
    pages.value.toNat * pageSize.bytes ≤ 140737488355328 := by
  have positive := pages.positive
  have fits := pages.fits
  unfold INT_MAX at fits
  constructor
  · exact Nat.mul_pos (by omega) (bytes_pos pageSize)
  · calc pages.value.toNat * pageSize.bytes ≤ 2147483648 * 65536 :=
          Nat.mul_le_mul (by omega) (bytes_le pageSize)
      _ = 140737488355328 := rfl

theorem inBytes_eq :
    inBytes pages pageSize = .mulLong (pages.value.toNat : Nat) (pageSize.bytes : Nat) := by
  have positive := pages.positive
  unfold inBytes
  rw [Int.toNat_of_nonneg (by omega)]

theorem inBytes_fits : (inBytes pages pageSize).Fits := by
  have bounds := product_bounds pages pageSize
  rw [inBytes_eq]
  exact Operation.mulLong_fits (by omega)

theorem inBytes_toLong :
    (inBytes pages pageSize).toLong = ((pages.value.toNat * pageSize.bytes : Nat) : Int) := by
  have bounds := product_bounds pages pageSize
  rw [inBytes_eq]
  exact Operation.mulLong_toLong (by omega)

theorem stepSize_pos : 0 < (inBytes pages pageSize).toLong := by
  have bounds := product_bounds pages pageSize
  rw [inBytes_toLong]
  omega

/-- The product, converted to `size_t`. -/
def sizeInBytes : Nat := toSizeT (inBytes pages pageSize).toLong

theorem sizeInBytes_eq : sizeInBytes pages pageSize = pages.value.toNat * pageSize.bytes := by
  have bounds := product_bounds pages pageSize
  unfold sizeInBytes toSizeT
  rw [inBytes_toLong]
  omega

end

/-- The part of `main` behind the loop. -/
def afterLocking (dumpcore : Option String) (answers : Answers) (pageSize addr len : Nat) : Outcome :=
  (displayMincore dumpcore answers pageSize addr len 1
    (match answers.mlockall with
    | some errno => Outcome.failing dumpcore errno "mlockall"
    | none =>
        (displayMincore dumpcore answers pageSize addr len 2
          ⟨[], [], none, [], some .success⟩).after [] [.heading "After mlockall:"])).after
    [] [.heading "After mlock:"]

/-- The part of `main` from the loop on. -/
def lockAndDisplay (dumpcore : Option String) (answers : Answers) (pageSize addr len : Nat)
    (locking : Locking) : Outcome :=
  match locking.ended with
  | .overflow => ⟨locking.operations, locking.ranges, some .overflow, [], none⟩
  | .failed errno =>
      { Outcome.failing dumpcore errno "mlock" with
        operations := locking.operations
        ranges := locking.ranges
        lockEnd := some (.failed errno) }
  | .completed =>
      let rest := afterLocking dumpcore answers pageSize addr len
      { rest with
        operations := locking.operations ++ rest.operations
        ranges := locking.ranges
        lockEnd := some .completed }

/-- The `for` loop of `main`, for a mapping at an address. -/
def lock (answers : Answers) (pageSize : PageSize) (given : Arguments) (addr : Nat) : Locking :=
  let len := sizeInBytes given.numPages pageSize
  let stepSize := (inBytes given.stepPages pageSize).toLong
  let lockLen := sizeInBytes given.lockPages pageSize
  (lockLoop answers addr len lockLen stepSize (stepSize_pos given.stepPages pageSize)).run ⟨0, [], []⟩

def runMapped (dumpcore : Option String) (answers : Answers) (pageSize : PageSize)
    (given : Arguments) (addr : Nat) : Outcome :=
  let len := sizeInBytes given.numPages pageSize
  (displayMincore dumpcore answers pageSize.bytes addr len 0
    (lockAndDisplay dumpcore answers pageSize.bytes addr len (lock answers pageSize given addr))).after
    [] [.allocated len addr, .heading "Before mlock:"]

def main (dumpcore : Option String) (answers : Answers) (argv : List (List Byte)) : Outcome :=
  match readArguments dumpcore answers argv with
  | .error ended => ⟨[], [], none, [], some ended⟩
  | .ok (pageSize, given) =>
      let products := [inBytes given.numPages pageSize, inBytes given.stepPages pageSize,
        inBytes given.lockPages pageSize]
      match answers.mmap pageSize.bytes (sizeInBytes given.numPages pageSize) with
      | .error errno => (Outcome.failing dumpcore errno "mmap").after products []
      | .ok mapping => (runMapped dumpcore answers pageSize given mapping.address).after products []

/-! ## The loop -/

/-- The range that a turn of the loop passes to `mlock`. -/
def turnRange (addr lockLen step turn : Nat) : Range := ⟨addr + turn * step, lockLen⟩

/-- What the loop does from its turn of a given number on: all its operations fit, it ends by
its test or by the failure of a call, and it passes to `mlock` the ranges that begin a
multiple of the step further on and end in the mapping, one after the other. -/
structure LocksFrom (answers : Answers) (addr len lockLen step turn : Nat) (before : LockState)
    (after : Locking) : Prop where
  fits : forall operation, operation ∈ after.operations ->
    operation ∈ before.operations ∨ operation.Fits
  ended : after.ended = .completed ∨ Exists fun number => Exists fun errno =>
    answers.mlock number = some errno ∧ after.ended = .failed errno
  made : forall range, range ∈ after.ranges -> range ∈ before.ranges ∨
    Exists fun k => k * step + lockLen ≤ len ∧ range = ⟨addr + k * step, lockLen⟩
  kept : forall range, range ∈ before.ranges -> range ∈ after.ranges
  complete : after.ended = .completed -> forall k, turn ≤ k -> k * step + lockLen ≤ len ->
    ⟨addr + k * step, lockLen⟩ ∈ after.ranges
  listed : Exists fun count =>
    after.ranges = before.ranges ++ (List.range' turn count).map (turnRange addr lockLen step)

section

variable {answers : Answers} {addr len lockLen step turn : Nat} {state next : LockState}
  {result : Locking}

/-- The sizes that the arguments can lead to, and the place of the mapping. -/
structure Sizes (addr len lockLen step : Nat) : Prop where
  length : len ≤ 140737488355328
  lock : 0 < lockLen ∧ lockLen ≤ 140737488355328
  step : 0 < step ∧ step ≤ 140737488355328
  within : addr + len ≤ 18446744073709551616

/-- The loop variable in the turn of a given number. -/
structure AtTurn (len step turn : Nat) (state : LockState) : Prop where
  offset : state.j = ((turn * step : Nat) : Int)
  reached : turn * step ≤ len + step

theorem toSizeT_natCast {value : Nat} (bound : value < 18446744073709551616) :
    toSizeT (value : Int) = value := by
  unfold toSizeT
  omega

/-- The operations of a turn that calls `mlock`. -/
def turnOperations (addr lockLen step turn : Nat) : List Operation :=
  [.addSizeT (turn * step) lockLen, .addSizeT addr (turn * step),
    .addLong (turn * step : Nat) step]

theorem turnOperations_fit (sizes : Sizes addr len lockLen step)
    (inside : turn * step + lockLen ≤ len) (operation : Operation)
    (member : operation ∈ turnOperations addr lockLen step turn) : operation.Fits := by
  rcases sizes with ⟨lengthBound, lockBound, stepBound, within⟩
  rcases List.mem_cons.mp member with rfl | rest
  · exact Operation.addSizeT_fits (by omega)
  · rcases List.mem_cons.mp rest with rfl | last
    · exact Operation.addSizeT_fits (by omega)
    · rw [List.mem_singleton.mp last]
      exact Operation.addLong_fits (by omega)

/-- One turn, without the conversions.  The range is passed to `mlock` if it ends in the
mapping. -/
theorem lockTurn_eq (sizes : Sizes addr len lockLen step) (here : AtTurn len step turn state) :
    lockTurn answers addr len lockLen (step : Int) state =
      if turn * step + lockLen ≤ len then
        match answers.mlock state.ranges.length with
        | some errno =>
            .done ⟨state.operations ++ (turnOperations addr lockLen step turn).take 2,
              state.ranges ++ [⟨addr + turn * step, lockLen⟩], .failed errno⟩
        | none =>
            .again ⟨((turn + 1) * step : Nat), state.operations ++ turnOperations addr lockLen step turn,
              state.ranges ++ [⟨addr + turn * step, lockLen⟩]⟩
      else
        .done ⟨state.operations ++ (turnOperations addr lockLen step turn).take 1, state.ranges,
          .completed⟩ := by
  have fits : turn * step + lockLen ≤ len -> forall operation,
      operation ∈ turnOperations addr lockLen step turn -> operation.Fits := turnOperations_fit sizes
  rcases sizes with ⟨lengthBound, lockBound, stepBound, within⟩
  rcases here with ⟨offset, reached⟩
  have converted : toSizeT state.j = turn * step := by
    rw [offset, toSizeT_natCast (by omega)]
  have test : (Operation.addSizeT (turn * step) lockLen).toSize = turn * step + lockLen :=
    Operation.addSizeT_toSize (by omega)
  unfold lockTurn
  dsimp only
  rw [converted, test]
  split
  · next inside =>
      have start : (Operation.addSizeT addr (turn * step)).toSize = addr + turn * step :=
        Operation.addSizeT_toSize (by omega)
      have update : (Operation.addLong state.j step).Fits := by
        rw [offset]
        exact fits inside _ (by simp [turnOperations])
      have moved : state.j + step = (((turn + 1) * step : Nat) : Int) := by
        rw [offset, Nat.succ_mul, Nat.cast_add]
      rw [start, if_pos update, moved, List.append_assoc, offset]
      cases answers.mlock state.ranges.length with
      | some errno => simp [turnOperations]
      | none => simp [turnOperations]
  · rfl

theorem LocksFrom.of_done (sizes : Sizes addr len lockLen step) (here : AtTurn len step turn state)
    (delivered : lockTurn answers addr len lockLen (step : Int) state = .done result) :
    LocksFrom answers addr len lockLen step turn state result := by
  rw [lockTurn_eq sizes here] at delivered
  split at delivered
  · next inside =>
      have fits := turnOperations_fit sizes inside
      split at delivered
      · next errno failed =>
          cases delivered
          constructor
          case fits =>
            intro operation member
            exact (List.mem_append.mp member).imp id
              (fun new => fits operation (List.mem_of_mem_take new))
          case ended => exact Or.inr ⟨_, errno, failed, rfl⟩
          case made =>
            intro range member
            exact (List.mem_append.mp member).imp id
              (fun new => ⟨turn, inside, List.mem_singleton.mp new⟩)
          case kept => exact fun range member => List.mem_append_left _ member
          case complete => exact fun impossible => by cases impossible
          case listed => exact ⟨1, rfl⟩
      · cases delivered
  · next beyond =>
      cases delivered
      constructor
      case fits =>
        intro operation member
        refine (List.mem_append.mp member).imp id (fun new => ?_)
        rw [List.mem_singleton.mp new]
        have reached := here.reached
        rcases sizes with ⟨lengthBound, lockBound, stepBound, _⟩
        exact Operation.addSizeT_fits (by omega)
      case ended => exact Or.inl rfl
      case made => exact fun range member => Or.inl member
      case kept => exact fun range member => member
      case complete =>
        intro _ k later inside
        have multiple : turn * step ≤ k * step := Nat.mul_le_mul_right step later
        omega
      case listed => exact ⟨0, (List.append_nil _).symm⟩

/-- A turn that goes round again locks the range of its number, and leaves the larger ones. -/
theorem LocksFrom.of_again (sizes : Sizes addr len lockLen step) (here : AtTurn len step turn state)
    (again : lockTurn answers addr len lockLen (step : Int) state = .again next) :
    AtTurn len step (turn + 1) next ∧
      (LocksFrom answers addr len lockLen step (turn + 1) next result ->
        LocksFrom answers addr len lockLen step turn state result) := by
  rw [lockTurn_eq sizes here] at again
  split at again
  · next inside =>
      split at again
      · cases again
      · cases again
        refine ⟨⟨rfl, ?_⟩, ?_⟩
        · rw [Nat.succ_mul]
          omega
        · intro later
          constructor
          case fits =>
            intro operation member
            rcases later.fits operation member with before | fits
            · exact (List.mem_append.mp before).imp id (turnOperations_fit sizes inside operation)
            · exact Or.inr fits
          case ended => exact later.ended
          case made =>
            intro range member
            rcases later.made range member with before | multiple
            · exact (List.mem_append.mp before).imp id
                (fun new => ⟨turn, inside, List.mem_singleton.mp new⟩)
            · exact Or.inr multiple
          case kept => exact fun range member => later.kept range (List.mem_append_left _ member)
          case complete =>
            intro completed k from_turn ends
            rcases Nat.eq_or_lt_of_le from_turn with rfl | beyond
            · exact later.kept _ (List.mem_append_right _ List.mem_cons_self)
            · exact later.complete completed k beyond ends
          case listed =>
            rcases later.listed with ⟨count, ranges⟩
            refine ⟨count + 1, ranges.trans ?_⟩
            rw [List.range'_succ, List.map_cons, List.append_assoc]
            rfl
  · cases again

theorem lockLoop_run (sizes : Sizes addr len lockLen step) {stepSize : Int}
    (same : stepSize = (step : Int)) (positive : 0 < stepSize) :
    LocksFrom answers addr len lockLen step 0 ⟨0, [], []⟩
      ((lockLoop answers addr len lockLen stepSize positive).run ⟨0, [], []⟩) := by
  subst same
  refine (lockLoop answers addr len lockLen step positive).run_relation
    (motive := fun state result => forall turn, AtTurn len step turn state ->
      LocksFrom answers addr len lockLen step turn state result) ?_ ?_ ⟨0, [], []⟩ 0 ?_
  · intro state result delivered turn here
    exact .of_done sizes here delivered
  · intro state next result again inductionHypothesis turn here
    rcases LocksFrom.of_again sizes here again with ⟨there, extended⟩
    exact extended (inductionHypothesis (turn + 1) there)
  · refine ⟨?_, ?_⟩
    · rw [Nat.zero_mul]
      rfl
    · omega

end

/-! ## The displays -/

/-- A display has a mark for every page, and reads `vec` inside its bounds. -/
structure SoundDisplay (numPages : Nat) (shown : Display) : Prop where
  marks : shown.items.countP Item.isMark = numPages
  inside : forall index, index ∈ shown.indices -> index < shown.vec.length

/-- All operations fit, and all displays are sound. -/
structure SoundOutput (numPages : Nat) (outcome : Outcome) : Prop where
  exact : forall operation, operation ∈ outcome.operations -> operation.Fits
  displays : forall shown, .residency shown ∈ outcome.printed -> SoundDisplay numPages shown

section

variable {dumpcore : Option String} {answers : Answers} {pageSize addr numPages : Nat}
  {rest : Outcome}

theorem fits_of_none (operation : Operation) (member : operation ∈ []) : operation.Fits :=
  absurd member List.not_mem_nil

theorem sound_of_none (shown : Display) (member : Line.residency shown ∈ []) :
    SoundDisplay numPages shown :=
  absurd member List.not_mem_nil

theorem SoundOutput.failing (errno : Errno) (call : String) :
    SoundOutput numPages (Outcome.failing dumpcore errno call) :=
  ⟨fits_of_none, sound_of_none⟩

theorem SoundOutput.after (sound : SoundOutput numPages rest) {operations : List Operation}
    {printed : List Line} (fit : forall operation, operation ∈ operations -> operation.Fits)
    (shows : forall shown, .residency shown ∈ printed -> SoundDisplay numPages shown) :
    SoundOutput numPages (rest.after operations printed) where
  exact operation member := (List.mem_append.mp member).elim (fit operation) (sound.exact operation)
  displays shown member := (List.mem_append.mp member).elim (shows shown) (sound.displays shown)

/-- What `displayMincore` relies on: a mapping of whole pages. -/
structure WholePages (pageSize addr numPages : Nat) : Prop where
  positive : 0 < pageSize ∧ pageSize ≤ 65536
  length : numPages * pageSize ≤ 140737488355328
  within : addr + numPages * pageSize ≤ 18446744073709551616

theorem countPages_eq (whole : WholePages pageSize addr numPages) :
    (countPages pageSize (numPages * pageSize)).2 = numPages := by
  rcases whole with ⟨positive, length, _⟩
  have sum : (Operation.addSizeT (numPages * pageSize) pageSize).toSize =
      numPages * pageSize + pageSize := Operation.addSizeT_toSize (by omega)
  have less : (Operation.subSizeT (numPages * pageSize + pageSize) 1).toSize =
      numPages * pageSize + pageSize - 1 := Operation.subSizeT_toSize (by omega) (by omega)
  have behind : numPages * pageSize + pageSize - 1 = (pageSize - 1) + numPages * pageSize := by omega
  unfold countPages
  dsimp only
  rw [sum, less, behind, Nat.add_mul_div_right _ _ positive.1, Nat.div_eq_of_lt (by omega), Nat.zero_add]

theorem countPages_fit (whole : WholePages pageSize addr numPages) (operation : Operation)
    (member : operation ∈ (countPages pageSize (numPages * pageSize)).1) : operation.Fits := by
  rcases whole with ⟨positive, length, _⟩
  have sum : (Operation.addSizeT (numPages * pageSize) pageSize).toSize =
      numPages * pageSize + pageSize := Operation.addSizeT_toSize (by omega)
  unfold countPages at member
  dsimp only at member
  rw [sum] at member
  rcases List.mem_cons.mp member with rfl | last
  · exact Operation.addSizeT_fits (by omega)
  · rw [List.mem_singleton.mp last]
    exact Operation.subSizeT_fits (by omega) (by omega)

theorem displayTurn_marks (vec : List Byte) (j : Nat) :
    (displayTurn pageSize addr vec j).2.countP Item.isMark = 1 := by
  unfold displayTurn
  dsimp only
  split <;> rfl

theorem displayTurn_fit (whole : WholePages pageSize addr numPages) {vec : List Byte} {j : Nat}
    (inside : j < numPages) (operation : Operation)
    (member : operation ∈ (displayTurn pageSize addr vec j).1) : operation.Fits := by
  rcases whole with ⟨positive, length, within⟩
  have offset : j * pageSize + pageSize ≤ numPages * pageSize := by
    rw [← Nat.succ_mul]
    exact Nat.mul_le_mul_right pageSize inside
  have product : (Operation.mulLong j pageSize).toLong = ((j * pageSize : Nat) : Int) :=
    Operation.mulLong_toLong (by omega)
  unfold displayTurn at member
  dsimp only at member
  split at member
  · rw [product, toSizeT_natCast (by omega)] at member
    rcases List.mem_cons.mp member with rfl | last
    · exact Operation.mulLong_fits (by omega)
    · rw [List.mem_singleton.mp last]
      exact Operation.addSizeT_fits (by omega)
  · exact absurd member List.not_mem_nil

theorem displayMincore_sound (whole : WholePages pageSize addr numPages) (number : Nat)
    (sound : SoundOutput numPages rest) :
    SoundOutput numPages
      (displayMincore dumpcore answers pageSize addr (numPages * pageSize) number rest) := by
  have counted := countPages_fit whole
  unfold displayMincore
  dsimp only
  split
  · exact (SoundOutput.failing _ _).after counted sound_of_none
  · exact (SoundOutput.failing _ _).after counted sound_of_none
  · next residency _ _ =>
      rw [countPages_eq whole]
      refine sound.after ?_ ?_
      · intro operation member
        rcases List.mem_append.mp member with count | turn
        · exact counted operation count
        · rcases List.mem_flatMap.mp turn with ⟨_, isTurn, made⟩
          rcases List.mem_map.mp isTurn with ⟨j, inRange, rfl⟩
          exact displayTurn_fit whole (List.mem_range.mp inRange) operation made
      · intro shown member
        cases List.mem_singleton.mp member
        constructor
        case marks =>
          have ones : (List.countP Item.isMark ∘ Prod.snd) ∘
              displayTurn pageSize addr ((List.range numPages).map residency) = fun _ => 1 := by
            funext j
            exact displayTurn_marks _ j
          dsimp only
          rw [List.countP_flatMap, List.map_map, ones, List.map_const', List.length_range,
            List.sum_replicate_nat, Nat.mul_one]
        case inside =>
          intro index inRange
          dsimp only at inRange ⊢
          rw [List.length_map, List.length_range]
          exact List.mem_range.mp inRange

/-- A display for which the calls are granted. -/
theorem displayMincore_granted (dumpcore : Option String) {number : Nat} {residency : Nat -> Byte}
    (allocated : answers.malloc number = none) (told : answers.mincore number = .ok residency)
    (pageSize addr length : Nat) (rest : Outcome) : Exists fun operations => Exists fun shown =>
      displayMincore dumpcore answers pageSize addr length number rest =
        rest.after operations [.residency shown] := by
  unfold displayMincore
  dsimp only
  rw [allocated, told]
  exact ⟨_, _, rfl⟩

theorem displayMincore_locking (dumpcore : Option String) (answers : Answers)
    (pageSize addr length number : Nat) (rest : Outcome) :
    let outcome := displayMincore dumpcore answers pageSize addr length number rest
    (outcome.ranges = rest.ranges ∧ outcome.lockEnd = rest.lockEnd) ∨
      (outcome.ranges = [] ∧ outcome.lockEnd = none) := by
  unfold displayMincore
  dsimp only
  split
  · exact Or.inr ⟨rfl, rfl⟩
  · exact Or.inr ⟨rfl, rfl⟩
  · exact Or.inl ⟨rfl, rfl⟩

end

/-! ## The program -/

/-- A page of the mapping, known by its index, is locked: some byte of it is in a range. -/
def Locked (pageSize address : Nat) (ranges : List Range) (page : Nat) : Prop :=
  Exists fun range => range ∈ ranges ∧ range.start < address + (page + 1) * pageSize ∧
    address + page * pageSize < range.start + range.length

/-- No call behind the `mmap` is refused, up to the second display. -/
structure Answers.Granted (answers : Answers) : Prop where
  malloc : forall number, answers.malloc number = none
  mincore : forall number, Exists fun residency => answers.mincore number = .ok residency
  mlock : forall number, answers.mlock number = none

/-- The lines of a run that is not refused anything: the displays before and after the loop,
and the last one. -/
def Printed (len address : Nat) (mlockall : Option Errno) (outcome : Outcome) : Prop :=
  Exists fun first => Exists fun second => Exists fun rest =>
    outcome.printed = [.allocated len address, .heading "Before mlock:", .residency first,
      .heading "After mlock:", .residency second] ++ rest ∧
    (mlockall = none -> outcome.ended = some .success ∧ Exists fun last =>
      rest = [.heading "After mlockall:", .residency last])

/-- What the arguments ask for. -/
structure LocksIntended (answers : Answers) (pageSize : PageSize) (given : Arguments)
    (outcome : Outcome) : Prop where
  exact : forall operation, operation ∈ outcome.operations -> operation.Fits
  ends : outcome.lockEnd = none ∨ outcome.lockEnd = some .completed ∨
    Exists fun number => Exists fun errno =>
      answers.mlock number = some errno ∧ outcome.lockEnd = some (.failed errno)
  inside : forall range, range ∈ outcome.ranges -> Exists fun mapping =>
    answers.mmap pageSize.bytes (sizeInBytes given.numPages pageSize) = .ok mapping ∧
      mapping.address ≤ range.start ∧
      range.start + range.length ≤ mapping.address + given.numPages.value.toNat * pageSize.bytes ∧
      pageSize.bytes ∣ range.start ∧ pageSize.bytes ∣ range.length
  locked : outcome.lockEnd = some .completed -> Exists fun mapping =>
    answers.mmap pageSize.bytes (sizeInBytes given.numPages pageSize) = .ok mapping ∧
      forall page : Nat, Locked pageSize.bytes mapping.address outcome.ranges page <->
        Exists fun k : Nat => k * given.stepPages.value ≤ page ∧
          page < k * given.stepPages.value + given.lockPages.value ∧
          k * given.stepPages.value + given.lockPages.value ≤ given.numPages.value
  displays : forall shown, .residency shown ∈ outcome.printed ->
    SoundDisplay given.numPages.value.toNat shown
  listed : outcome.ranges = [] ∨ Exists fun mapping => Exists fun count =>
    answers.mmap pageSize.bytes (sizeInBytes given.numPages pageSize) = .ok mapping ∧
      outcome.ranges = (List.range count).map (turnRange mapping.address
        (given.lockPages.value.toNat * pageSize.bytes) (given.stepPages.value.toNat * pageSize.bytes))
  completes : forall mapping,
    answers.mmap pageSize.bytes (sizeInBytes given.numPages pageSize) = .ok mapping ->
      answers.Granted -> outcome.lockEnd = some .completed ∧
        Printed (given.numPages.value.toNat * pageSize.bytes) mapping.address answers.mlockall outcome

section

variable {dumpcore : Option String} {answers : Answers} {pageSize addr numPages : Nat}

theorem afterLocking_sound (whole : WholePages pageSize addr numPages) :
    SoundOutput numPages (afterLocking dumpcore answers pageSize addr (numPages * pageSize)) := by
  have heading : forall text shown, Line.residency shown ∈ [Line.heading text] ->
      SoundDisplay numPages shown := by
    intro text shown member
    cases List.mem_singleton.mp member
  have end_of_run : SoundOutput numPages ⟨[], [], none, [], some .success⟩ :=
    ⟨fits_of_none, sound_of_none⟩
  unfold afterLocking
  refine (displayMincore_sound whole 1 ?_).after fits_of_none (heading _)
  split
  · exact .failing _ _
  · exact (displayMincore_sound whole 2 end_of_run).after fits_of_none (heading _)

theorem lockAndDisplay_sound (whole : WholePages pageSize addr numPages) {locking : Locking}
    (fit : forall operation, operation ∈ locking.operations -> operation.Fits) :
    SoundOutput numPages
      (lockAndDisplay dumpcore answers pageSize addr (numPages * pageSize) locking) := by
  unfold lockAndDisplay
  split
  · exact ⟨fit, sound_of_none⟩
  · exact ⟨fit, sound_of_none⟩
  · have rest : SoundOutput numPages
        (afterLocking dumpcore answers pageSize addr (numPages * pageSize)) :=
      afterLocking_sound whole
    refine ⟨?_, rest.displays⟩
    intro operation member
    exact (List.mem_append.mp member).elim (fit operation) (rest.exact operation)

theorem lockAndDisplay_locking (dumpcore : Option String) (answers : Answers)
    (pageSize addr len : Nat) (locking : Locking) :
    let outcome := lockAndDisplay dumpcore answers pageSize addr len locking
    outcome.ranges = locking.ranges ∧ outcome.lockEnd = some locking.ended := by
  unfold lockAndDisplay
  dsimp only
  split
  · next ended => exact ⟨rfl, congrArg some ended.symm⟩
  · next ended => exact ⟨rfl, congrArg some ended.symm⟩
  · next ended => exact ⟨rfl, congrArg some ended.symm⟩

/-- The part of the run behind a loop that has ended by its test. -/
theorem lockAndDisplay_printed (dumpcore : Option String) (granted : answers.Granted)
    (pageSize addr len : Nat) {locking : Locking} (completed : locking.ended = .completed) : Exists fun shown => Exists fun rest =>
      (lockAndDisplay dumpcore answers pageSize addr len locking).printed =
        [.heading "After mlock:", .residency shown] ++ rest ∧
      (answers.mlockall = none ->
        (lockAndDisplay dumpcore answers pageSize addr len locking).ended = some .success ∧
          Exists fun last => rest = [.heading "After mlockall:", .residency last]) := by
  rcases granted.mincore 1 with ⟨residency, told⟩
  unfold lockAndDisplay
  rw [completed]
  dsimp only
  unfold afterLocking
  rcases displayMincore_granted dumpcore (granted.malloc 1) told pageSize addr len _ with
    ⟨operations, shown, made⟩
  rw [made]
  refine ⟨shown, _, rfl, ?_⟩
  intro allowed
  rcases granted.mincore 2 with ⟨lastResidency, lastTold⟩
  rw [allowed]
  dsimp only
  rcases displayMincore_granted dumpcore (granted.malloc 2) lastTold pageSize addr len _ with
    ⟨lastOperations, last, lastMade⟩
  rw [lastMade]
  exact ⟨rfl, last, rfl⟩

/-- The arguments lead to sizes with which the loop is right. -/
theorem sizes_of_mapping (pageSize : PageSize) (given : Arguments)
    (mapping : Mapping pageSize.bytes (sizeInBytes given.numPages pageSize)) :
    Sizes mapping.address (sizeInBytes given.numPages pageSize)
      (sizeInBytes given.lockPages pageSize) (given.stepPages.value.toNat * pageSize.bytes) where
  length := by
    rw [sizeInBytes_eq]
    exact (product_bounds given.numPages pageSize).2
  lock := by
    rw [sizeInBytes_eq]
    exact product_bounds given.lockPages pageSize
  step := product_bounds given.stepPages pageSize
  within := mapping.within

theorem wholePages_of_mapping (pageSize : PageSize) (given : Arguments)
    (mapping : Mapping pageSize.bytes (sizeInBytes given.numPages pageSize)) :
    WholePages pageSize.bytes mapping.address given.numPages.value.toNat where
  positive := ⟨bytes_pos pageSize, bytes_le pageSize⟩
  length := (product_bounds given.numPages pageSize).2
  within := by
    have within := mapping.within
    have length := sizeInBytes_eq given.numPages pageSize
    omega

section

variable {bytes address pages step lock : Nat}

/-- In pages instead of bytes. -/
theorem range_inside_iff (positive : 0 < bytes) (k : Nat) :
    k * (step * bytes) + lock * bytes ≤ pages * bytes <-> k * step + lock ≤ pages := by
  rw [← Nat.mul_assoc, ← Nat.add_mul]
  exact Nat.mul_le_mul_right_iff positive

theorem range_covers_iff (positive : 0 < bytes) (k page : Nat) :
    (address + k * (step * bytes) < address + (page + 1) * bytes ∧
        address + page * bytes < address + k * (step * bytes) + lock * bytes) <->
      k * step ≤ page ∧ page < k * step + lock := by
  have first : address + k * (step * bytes) < address + (page + 1) * bytes <-> k * step < page + 1 := by
    rw [Nat.add_lt_add_iff_left, ← Nat.mul_assoc]
    exact Nat.mul_lt_mul_right positive
  have second : address + page * bytes < address + k * (step * bytes) + lock * bytes <->
      page < k * step + lock := by
    rw [Nat.add_assoc, Nat.add_lt_add_iff_left, ← Nat.mul_assoc, ← Nat.add_mul]
    exact Nat.mul_lt_mul_right positive
  rw [first, second, Nat.lt_succ_iff]

/-- The pages that a completed loop has locked. -/
theorem locked_iff (positive : 0 < bytes) {answers : Answers} {locking : Locking}
    (locks : LocksFrom answers address (pages * bytes) (lock * bytes) (step * bytes) 0 ⟨0, [], []⟩ locking)
    (completed : locking.ended = .completed) (page : Nat) :
    Locked bytes address locking.ranges page <->
      Exists fun k => k * step ≤ page ∧ page < k * step + lock ∧ k * step + lock ≤ pages := by
  constructor
  · rintro ⟨range, member, covers⟩
    rcases locks.made range member with none | ⟨k, inside, rfl⟩
    · exact absurd none List.not_mem_nil
    · rcases (range_covers_iff positive k page).mp covers with ⟨low, high⟩
      exact ⟨k, low, high, (range_inside_iff positive k).mp inside⟩
  · rintro ⟨k, low, high, inside⟩
    exact ⟨_, locks.complete completed k (Nat.zero_le k) ((range_inside_iff positive k).mpr inside),
      (range_covers_iff positive k page).mpr ⟨low, high⟩⟩

/-- The run from the first display on. -/
theorem run_sound {len : Nat} (whole : WholePages pageSize addr numPages)
    (same : len = numPages * pageSize) {locking : Locking}
    (fit : forall operation, operation ∈ locking.operations -> operation.Fits) :
    SoundOutput numPages (displayMincore dumpcore answers pageSize addr len 0
      (lockAndDisplay dumpcore answers pageSize addr len locking)) := by
  subst same
  exact displayMincore_sound whole 0 (lockAndDisplay_sound whole fit)

theorem run_locking (dumpcore : Option String) (answers : Answers) (pageSize addr len : Nat)
    (locking : Locking) :
    let outcome := displayMincore dumpcore answers pageSize addr len 0
      (lockAndDisplay dumpcore answers pageSize addr len locking)
    (outcome.ranges = locking.ranges ∧ outcome.lockEnd = some locking.ended) ∨
      (outcome.ranges = [] ∧ outcome.lockEnd = none) := by
  rcases lockAndDisplay_locking dumpcore answers pageSize addr len locking with ⟨ranges, ended⟩
  rcases displayMincore_locking dumpcore answers pageSize addr len 0
    (lockAndDisplay dumpcore answers pageSize addr len locking) with
    ⟨sameRanges, sameEnd⟩ | ⟨noRange, noEnd⟩
  · exact Or.inl ⟨sameRanges.trans ranges, sameEnd.trans ended⟩
  · exact Or.inr ⟨noRange, noEnd⟩

end

section

variable {pageSize : PageSize} {given : Arguments}
  {mapping : Mapping pageSize.bytes (sizeInBytes given.numPages pageSize)}

theorem lock_locksFrom : LocksFrom answers mapping.address
    (given.numPages.value.toNat * pageSize.bytes) (given.lockPages.value.toNat * pageSize.bytes)
    (given.stepPages.value.toNat * pageSize.bytes) 0 ⟨0, [], []⟩
    (lock answers pageSize given mapping.address) := by
  rw [← sizeInBytes_eq given.numPages, ← sizeInBytes_eq given.lockPages]
  exact lockLoop_run (sizes_of_mapping pageSize given mapping)
    (inBytes_toLong given.stepPages pageSize) (stepSize_pos given.stepPages pageSize)

/-- Every range that the loop passes to `mlock` is in the mapping and begins and ends with a
page. -/
theorem lock_inside {range : Range}
    (member : range ∈ (lock answers pageSize given mapping.address).ranges) :
    mapping.address ≤ range.start ∧
      range.start + range.length ≤ mapping.address + given.numPages.value.toNat * pageSize.bytes ∧
      pageSize.bytes ∣ range.start ∧ pageSize.bytes ∣ range.length := by
  rcases lock_locksFrom.made range member with none | ⟨k, inside, rfl⟩
  · exact absurd none List.not_mem_nil
  · refine ⟨Nat.le_add_right _ _, ?_, ?_, Nat.dvd_mul_left _ _⟩
    · dsimp only
      omega
    · exact Nat.dvd_add mapping.aligned (Nat.dvd_mul_left_of_dvd (Nat.dvd_mul_left _ _) k)

/-- The pages that the loop has locked when it ends by its test. -/
theorem lock_pages (completed : (lock answers pageSize given mapping.address).ended = .completed)
    (page : Nat) :
    Locked pageSize.bytes mapping.address (lock answers pageSize given mapping.address).ranges page <->
      Exists fun k : Nat => k * given.stepPages.value ≤ page ∧
        page < k * given.stepPages.value + given.lockPages.value ∧
        k * given.stepPages.value + given.lockPages.value ≤ given.numPages.value := by
  refine (locked_iff (bytes_pos pageSize) lock_locksFrom completed page).trans (exists_congr ?_)
  intro k
  have numPages := Int.toNat_of_nonneg (Int.le_of_lt given.numPages.positive)
  have stepPages := Int.toNat_of_nonneg (Int.le_of_lt given.stepPages.positive)
  have lockPages := Int.toNat_of_nonneg (Int.le_of_lt given.lockPages.positive)
  have product : ((k * given.stepPages.value.toNat : Nat) : Int) = k * given.stepPages.value := by
    rw [Nat.cast_mul, stepPages]
  rw [← product]
  omega

theorem lock_listed : Exists fun count =>
    (lock answers pageSize given mapping.address).ranges =
      (List.range count).map (turnRange mapping.address
        (given.lockPages.value.toNat * pageSize.bytes) (given.stepPages.value.toNat * pageSize.bytes)) := by
  have locks : LocksFrom answers _ _ _ _ _ _ (lock answers pageSize given mapping.address) :=
    lock_locksFrom
  rcases locks.listed with ⟨count, ranges⟩
  refine ⟨count, ?_⟩
  rw [List.range_eq_range']
  exact ranges

/-- A run that is not refused anything. -/
theorem runMapped_completes (granted : answers.Granted) :
    (runMapped dumpcore answers pageSize given mapping.address).lockEnd = some .completed ∧
      Printed (given.numPages.value.toNat * pageSize.bytes) mapping.address answers.mlockall
        (runMapped dumpcore answers pageSize given mapping.address) := by
  have locks : LocksFrom answers _ _ _ _ _ _ (lock answers pageSize given mapping.address) :=
    lock_locksFrom
  have completed : (lock answers pageSize given mapping.address).ended = .completed := by
    rcases locks.ended with completed | ⟨number, errno, failed, _⟩
    · exact completed
    · rw [granted.mlock number] at failed
      cases failed
  rcases lockAndDisplay_printed dumpcore granted pageSize.bytes mapping.address
    (sizeInBytes given.numPages pageSize) completed with
    ⟨second, rest, printed, finished⟩
  rcases granted.mincore 0 with ⟨residency, told⟩
  unfold runMapped
  dsimp only
  rcases displayMincore_granted dumpcore (granted.malloc 0) told pageSize.bytes mapping.address
    (sizeInBytes given.numPages pageSize)
    (lockAndDisplay dumpcore answers pageSize.bytes mapping.address
      (sizeInBytes given.numPages pageSize) (lock answers pageSize given mapping.address)) with
    ⟨operations, first, made⟩
  rw [made]
  constructor
  · exact (lockAndDisplay_locking _ _ _ _ _ _).2.trans (congrArg some completed)
  · refine ⟨first, second, rest, ?_, finished⟩
    rw [← sizeInBytes_eq]
    unfold Outcome.after
    rw [printed]
    rfl

/-- The part of `main` behind the `mmap`. -/
theorem runMapped_locksIntended
    (mapped : answers.mmap pageSize.bytes (sizeInBytes given.numPages pageSize) = .ok mapping) :
    LocksIntended answers pageSize given
      (runMapped dumpcore answers pageSize given mapping.address) := by
  have locks : LocksFrom answers _ _ _ _ _ _ (lock answers pageSize given mapping.address) :=
    lock_locksFrom
  have fit : forall operation, operation ∈ (lock answers pageSize given mapping.address).operations ->
      operation.Fits :=
    fun operation member => (locks.fits operation member).resolve_left List.not_mem_nil
  have output : SoundOutput given.numPages.value.toNat
      (runMapped dumpcore answers pageSize given mapping.address) := by
    refine SoundOutput.after (run_sound (wholePages_of_mapping pageSize given mapping)
      (sizeInBytes_eq given.numPages pageSize) fit) fits_of_none ?_
    intro shown member
    simp at member
  have locking := run_locking dumpcore answers pageSize.bytes mapping.address
    (sizeInBytes given.numPages pageSize) (lock answers pageSize given mapping.address)
  change ((runMapped dumpcore answers pageSize given mapping.address).ranges = _ ∧
    (runMapped dumpcore answers pageSize given mapping.address).lockEnd = _) ∨
      ((runMapped dumpcore answers pageSize given mapping.address).ranges = _ ∧
        (runMapped dumpcore answers pageSize given mapping.address).lockEnd = _) at locking
  have completes : forall other,
      answers.mmap pageSize.bytes (sizeInBytes given.numPages pageSize) = .ok other ->
        answers.Granted ->
          (runMapped dumpcore answers pageSize given mapping.address).lockEnd = some .completed ∧
            Printed (given.numPages.value.toNat * pageSize.bytes) other.address answers.mlockall
              (runMapped dumpcore answers pageSize given mapping.address) := by
    intro other same granted
    cases mapped.symm.trans same
    exact runMapped_completes granted
  rcases locking with ⟨ranges, ended⟩ | ⟨noRange, noEnd⟩
  · constructor
    case exact => exact output.exact
    case ends =>
      rw [ended]
      rcases locks.ended with completed | ⟨number, errno, failed, stopped⟩
      · exact Or.inr (Or.inl (congrArg some completed))
      · exact Or.inr (Or.inr ⟨number, errno, failed, congrArg some stopped⟩)
    case inside =>
      rw [ranges]
      exact fun range member => ⟨mapping, mapped, lock_inside member⟩
    case locked =>
      rw [ended, ranges]
      exact fun completed => ⟨mapping, mapped, lock_pages (Option.some.inj completed)⟩
    case displays => exact output.displays
    case listed =>
      rw [ranges]
      rcases lock_listed with ⟨count, list⟩
      exact Or.inr ⟨mapping, count, mapped, list⟩
    case completes => exact completes
  · constructor
    case exact => exact output.exact
    case ends => exact Or.inl noEnd
    case inside =>
      rw [noRange]
      exact fun range member => absurd member List.not_mem_nil
    case locked =>
      rw [noEnd]
      exact fun impossible => by cases impossible
    case displays => exact output.displays
    case listed => exact Or.inl noRange
    case completes => exact completes

end

/-- `memlock` locks the pages that its arguments name. -/
theorem main_locksIntended (dumpcore : Option String) (answers : Answers) (argv : List (List Byte))
    {pageSize : PageSize} {given : Arguments}
    (accepted : readArguments dumpcore answers argv = .ok (pageSize, given)) :
    LocksIntended answers pageSize given (main dumpcore answers argv) := by
  have productsFit : forall operation, operation ∈ [inBytes given.numPages pageSize,
      inBytes given.stepPages pageSize, inBytes given.lockPages pageSize] -> operation.Fits := by
    intro operation member
    simp only [List.mem_cons, List.not_mem_nil, or_false] at member
    rcases member with rfl | rfl | rfl <;> exact inBytes_fits _ _
  unfold main
  rw [accepted]
  dsimp only
  split
  · next errno refused =>
    have failed : SoundOutput given.numPages.value.toNat
        ((Outcome.failing dumpcore errno "mmap").after _ []) :=
      SoundOutput.after (.failing errno "mmap") productsFit sound_of_none
    exact ⟨failed.exact, Or.inl rfl, fun range member => absurd member List.not_mem_nil,
      fun impossible => (by cases impossible), failed.displays, Or.inl rfl,
      fun mapping same => (by rw [refused] at same; cases same)⟩
  · next mapping mapped =>
      have intended : LocksIntended answers pageSize given
          (runMapped dumpcore answers pageSize given mapping.address) := runMapped_locksIntended mapped
      have output := SoundOutput.after ⟨intended.exact, intended.displays⟩ productsFit sound_of_none
      exact ⟨output.exact, intended.ends, intended.inside, intended.locked, output.displays,
        intended.listed, intended.completes⟩

end

/-- Pages of 4096 bytes, a mapping at the sixteenth of them, and no failure. -/
def eightPages : Answers where
  sysconf := .ok ⟨12, by decide⟩
  mmap pageSize length :=
    if within : 16 * pageSize + length ≤ 18446744073709551616 then
      .ok ⟨16 * pageSize, Nat.dvd_mul_left _ _, within⟩
    else .error .ENOMEM
  malloc _ := none
  mincore _ := .ok (fun _ => 1)
  mlock _ := none
  mlockall := none

def eightPagesArgv : List (List Byte) := [ascii "memlock", ascii "8", ascii "3", ascii "2"]

theorem eightPages_granted : eightPages.Granted where
  malloc _ := rfl
  mincore _ := ⟨_, rfl⟩
  mlock _ := rfl

/-- Of eight pages two out of three are locked. -/
theorem eightPages_locksIntended :
    ((main none eightPages eightPagesArgv).ranges =
        [⟨65536, 8192⟩, ⟨77824, 8192⟩, ⟨90112, 8192⟩] ∧
      (main none eightPages eightPagesArgv).lockEnd = some .completed ∧
        (main none eightPages eightPagesArgv).ended = some .success ∧ eightPages.Granted) ∧
    LocksIntended eightPages ⟨12, by decide⟩
      ⟨⟨8, by decide, by decide⟩, ⟨3, by decide, by decide⟩, ⟨2, by decide, by decide⟩⟩
      (main none eightPages eightPagesArgv) := by
  refine ⟨⟨by decide +kernel, by decide +kernel, by decide +kernel, eightPages_granted⟩, ?_⟩
  exact main_locksIntended none eightPages eightPagesArgv (by decide +kernel)

end Memlock
end MmapControl
end Tlpi
