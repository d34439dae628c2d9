import Mathlib.Data.List.Count
import Mathlib.Tactic.Linarith
import Tlpi.CLibrary.Awk
import Tlpi.Foundations.Transition
import Tlpi.Lib.ErrorFunctions
import Tlpi.Lib.GetNum

namespace Tlpi
namespace ProcessCreate
namespace ForkWhosOnFirst

open CLibrary Foundations Lib

/-!
# Who prints first after a fork

The program forks a number of children, one after another.  Parent and child each print
a line with the number of the child and their own name, in whatever order they are
scheduled, and the parent waits for the child before it forks the next.  The standard
output is unbuffered, so that a line is printed at once.

A program in `awk` then counts, over the lines, how often the first of a pair came from
the parent and how often from the child.  It takes a line for the first of a pair when
its number differs from that of the line before.
-/

inductive Racer where
  | parent
  | child
deriving DecidableEq, Repr

namespace Racer

def name : Racer -> List Byte
  | .parent => ascii "parent"
  | .child => ascii "child"

def other : Racer -> Racer
  | .parent => .child
  | .child => .parent

end Racer

/-- `printf("%d parent\n", j)`, and the same for the child. -/
def line (racer : Racer) (j : Nat) : List Byte :=
  renderNat j ++ (32 :: racer.name) ++ [newline]

/-- The positions of the parent, each named after what it does next, with the value of
`j`. -/
inductive ParentPc where
  | starting
  | forking (j : Nat)
  | printing (j : Nat)
  | waiting (j : Nat)
  | exiting
  | exited
  | usage
  | rejected (diagnostic : List Byte)
  | failed (failure : Failure)
deriving DecidableEq, Repr

/-- The positions of the child that has been forked last. -/
inductive ChildPc where
  | absent
  | printing (j : Nat)
  | exiting
  | zombie
deriving DecidableEq, Repr

/-- The processes and what they have printed.  They do not hold `first`, which records
for each pair of lines who printed first. -/
structure State where
  numChildren : Int
  parent : ParentPc
  child : ChildPc
  stdout : List Byte
  first : List Racer
deriving DecidableEq, Repr

/-- How the program is started. -/
structure Setup where
  dumpcore : Option String
  argument : Option (List Byte)

inductive Action where
  | parent
  | child
  | forkFails (errno : Errno)
deriving DecidableEq, Repr

/-- `(argc > 1) ? getInt(argv[1], GN_GT_0, "num-children") : 1`. -/
def numChildren (setup : Setup) : Except (List Byte) Int :=
  match setup.argument with
  | none => .ok 1
  | some argument => getInt (some argument) GN_GT_0 (some "num-children")

/-- A racer prints its line, as the first if the other has yet to print. -/
def State.print (state : State) (racer : Racer) (j : Nat) (isFirst : Prop) [Decidable isFirst] : State :=
  { state with
    stdout := state.stdout ++ line racer j
    first := if isFirst then state.first ++ [racer] else state.first }

/-- One step of the parent.  `wait` returns when the child has terminated. -/
def parentStep (setup : Setup) (state : State) : Option State :=
  match state.parent with
  | .starting =>
      if setup.argument = some (ascii "--help") then some { state with parent := .usage }
      else
        match numChildren setup with
        | .error diagnostic => some { state with parent := .rejected diagnostic }
        | .ok number => some { state with parent := .forking 0, numChildren := number }
  | .forking j =>
      if (j : Int) < state.numChildren then
        some { state with parent := .printing j, child := .printing j }
      else some { state with parent := .exiting }
  | .printing j =>
      some { state.print .parent j (state.child = .printing j) with parent := .waiting j }
  | .waiting j =>
      if state.child = .zombie then some { state with parent := .forking (j + 1), child := .absent }
      else none
  | .exiting => some { state with parent := .exited }
  | .exited | .usage | .rejected _ | .failed _ => none

def childStep (state : State) : Option State :=
  match state.child with
  | .absent | .zombie => none
  | .printing j => some { state.print .child j (state.parent = .printing j) with child := .exiting }
  | .exiting => some { state with child := .zombie }

def step (setup : Setup) (state : State) : Action -> Option State
  | .parent => parentStep setup state
  | .child => childStep state
  | .forkFails errno =>
      match state.parent with
      | .forking j =>
          if (j : Int) < state.numChildren then
            some { state with parent := .failed (errExit setup.dumpcore errno "fork") }
          else none
      | _ => none

def start : State where
  numChildren := 0
  parent := .starting
  child := .absent
  stdout := []
  first := []

def machine (setup : Setup) : Machine State Action where
  Initial state := state = start
  step := step setup

/-!
## The counting program
-/

/-- What the program prints about its counts: after a number of lines, in a progress
message with half that number, or at the end.  The percentages are left to the reader. -/
structure Report where
  children : Option Nat
  cat : Awk.Counters (List Byte)
  tot : Nat
deriving DecidableEq, Repr

/-- The variables of the program, and what it has printed. -/
structure Counts where
  last : Awk.Value
  cat : Awk.Counters (List Byte)
  tot : Nat
  NR : Nat
  printed : List Report
deriving DecidableEq

namespace Counts

def begin : Counts where
  last := Awk.Value.ofInt (-1)
  cat := []
  tot := 0
  NR := 0
  printed := []

/-- The rule that counts the first line of each pair. -/
def count (counts : Counts) (fields : List (List Byte)) : Counts :=
  let counted :=
    if (Awk.Value.field fields 1).same counts.last then counts
    else
      { counts with
        cat := Awk.Counters.increment (Awk.Value.field fields 2).text counts.cat
        tot := counts.tot + 1 }
  { counted with last := Awk.Value.field fields 1 }

/-- The rule for the progress message. -/
def progress (counts : Counts) : Counts :=
  if counts.NR % 200000 = 0 then
    { counts with printed := counts.printed ++ [⟨some (counts.NR / 2), counts.cat, counts.tot⟩] }
  else counts

/-- All rules, for one record. -/
def record (counts : Counts) (text : List Byte) : Counts :=
  ({ counts with NR := counts.NR + 1 }.count (fields Awk.isBlank text)).progress

def finish (counts : Counts) : Counts :=
  { counts with printed := counts.printed ++ [⟨none, counts.cat, counts.tot⟩] }

end Counts

/-- The program `fork_whos_on_first.count.awk` on an input. -/
def countLines (input : List Byte) : Counts :=
  ((Awk.records input).foldl Counts.record Counts.begin).finish

/-!
## The lines in pairs
-/

/-- The lines of several races, numbered from `j` on, each with who printed first. -/
def pairs (j : Nat) : List Racer -> List Byte
  | [] => []
  | racer :: rest => line racer j ++ line racer.other j ++ pairs (j + 1) rest

theorem pairs_append (j : Nat) (early late : List Racer) :
    pairs j (early ++ late) = pairs j early ++ pairs (j + early.length) late := by
  induction early generalizing j with
  | nil => rfl
  | cons racer rest inductionHypothesis =>
      rw [List.cons_append, pairs, pairs, inductionHypothesis, List.length_cons,
        Nat.add_right_comm, Nat.add_assoc]
      simp only [List.append_assoc]

/-- The output after one more race. -/
theorem pairs_concat (early : List Racer) (racer : Racer) :
    pairs 0 (early ++ [racer]) =
      pairs 0 early ++ line racer early.length ++ line racer.other early.length := by
  rw [pairs_append, pairs, pairs, List.append_nil, Nat.zero_add, List.append_assoc]

/-- One of the two has printed in race `j`, and the other has not. -/
def HalfWay (state : State) (racer : Racer) (j : Nat) : Prop :=
  Exists fun early => early.length = j ∧ state.first = early ++ [racer] ∧
    state.stdout = pairs 0 early ++ line racer j

/-- All races before the one numbered `j` are complete. -/
def Complete (state : State) (j : Nat) : Prop :=
  state.first.length = j ∧ state.stdout = pairs 0 state.first

/-- What has been printed, at each position of the two. -/
def Printed (state : State) : Prop :=
  match state.parent with
  | .usage | .rejected _ | .failed _ => True
  | .starting => state.child = .absent ∧ Complete state 0
  | .forking j => state.child = .absent ∧ Complete state j ∧ (j : Int) ≤ state.numChildren
  | .printing j =>
      (j : Int) < state.numChildren ∧
        match state.child with
        | .printing number => number = j ∧ Complete state j
        | _ => HalfWay state .child j
  | .waiting j =>
      (j : Int) < state.numChildren ∧
        match state.child with
        | .printing number => number = j ∧ HalfWay state .parent j
        | _ => Complete state (j + 1)
  | .exiting | .exited =>
      state.child = .absent ∧ Exists fun j : Nat => Complete state j ∧ (j : Int) = state.numChildren

/-- The number of children is the one that the program was given. -/
def Counted (setup : Setup) (state : State) : Prop :=
  match state.parent with
  | .starting | .usage | .rejected _ | .failed _ => True
  | _ => numChildren setup = .ok state.numChildren

/-- The second to print completes the race. -/
theorem HalfWay.complete {state next : State} {racer : Racer} {j : Nat}
    (half : HalfWay state racer j) (sameFirst : next.first = state.first)
    (stdout : next.stdout = state.stdout ++ line racer.other j) : Complete next (j + 1) := by
  rcases half with ⟨early, length, first, printed⟩
  constructor
  · rw [sameFirst, first, List.length_append, length, List.length_singleton]
  · rw [stdout, printed, sameFirst, first, pairs_concat, length]

theorem Complete.half {state next : State} {racer : Racer} {j : Nat} (complete : Complete state j)
    (first : next.first = state.first ++ [racer])
    (stdout : next.stdout = state.stdout ++ line racer j) : HalfWay next racer j := by
  refine ⟨state.first, complete.1, first, ?_⟩
  rw [stdout, complete.2]

variable {setup : Setup} {state next : State} {j : Nat}

theorem Printed.childFirst (parent : state.parent = .printing j)
    (child : forall number, state.child ≠ .printing number) (more : (j : Int) < state.numChildren)
    (half : HalfWay state .child j) : Printed state := by
  unfold Printed
  rw [parent]
  refine ⟨more, ?_⟩
  cases here : state.child with
  | printing number => exact absurd here (child number)
  | absent | exiting | zombie => exact half

theorem Printed.parentFirst (parent : state.parent = .waiting j) (child : state.child = .printing j)
    (more : (j : Int) < state.numChildren) (half : HalfWay state .parent j) : Printed state := by
  unfold Printed
  rw [parent]
  refine ⟨more, ?_⟩
  rw [child]
  exact ⟨rfl, half⟩

theorem Printed.bothPrinted (parent : state.parent = .waiting j)
    (child : forall number, state.child ≠ .printing number) (more : (j : Int) < state.numChildren)
    (complete : Complete state (j + 1)) : Printed state := by
  unfold Printed
  rw [parent]
  refine ⟨more, ?_⟩
  cases here : state.child with
  | printing number => exact absurd here (child number)
  | absent | exiting | zombie => exact complete

theorem numChildren_pos {number : Int} (accepted : numChildren setup = .ok number) : 0 < number := by
  unfold numChildren at accepted
  split at accepted
  · cases accepted
    decide
  · exact (getInt_ok accepted).2.2 (by decide)

theorem parentStep_preserves (printed : Printed state) (counted : Counted setup state)
    (stepped : parentStep setup state = some next) : Printed next ∧ Counted setup next := by
  unfold Printed at printed
  unfold Counted at counted
  unfold parentStep at stepped
  cases here : state.parent with
  | exited | usage | rejected _ | failed _ =>
      rw [here] at stepped
      cases stepped
  | starting =>
      rw [here] at stepped printed
      simp only at stepped
      split at stepped
      · cases stepped
        exact ⟨trivial, trivial⟩
      · split at stepped
        · cases stepped
          exact ⟨trivial, trivial⟩
        · rename_i number accepted
          cases stepped
          exact ⟨⟨printed.1, printed.2, le_of_lt (numChildren_pos accepted)⟩, accepted⟩
  | forking j =>
      rw [here] at stepped printed counted
      rcases printed with ⟨absent, complete, within⟩
      simp only at stepped
      split at stepped
      · rename_i more
        cases stepped
        exact ⟨⟨more, rfl, complete⟩, counted⟩
      · rename_i all
        cases stepped
        exact ⟨⟨absent, j, complete, le_antisymm within (not_lt.mp all)⟩, counted⟩
  | printing j =>
      rw [here] at stepped printed counted
      cases stepped
      rcases printed with ⟨more, races⟩
      refine ⟨?_, counted⟩
      by_cases child : state.child = .printing j
      · rw [child] at races
        exact Printed.parentFirst rfl child more (races.2.half (if_pos child) rfl)
      · have half : HalfWay state .child j ∧ forall number, state.child ≠ .printing number := by
          cases other : state.child with
          | printing number =>
              rw [other] at races child
              exact absurd (congrArg ChildPc.printing races.1) child
          | absent | exiting | zombie =>
              rw [other] at races
              exact ⟨races, fun _ => ChildPc.noConfusion⟩
        exact Printed.bothPrinted rfl half.2 more (half.1.complete (if_neg child) rfl)
  | waiting j =>
      rw [here] at stepped printed counted
      simp only at stepped
      split at stepped
      · rename_i done
        cases stepped
        rw [done] at printed
        exact ⟨⟨rfl, printed.2, by have := printed.1; push_cast; omega⟩, counted⟩
      · cases stepped
  | exiting =>
      rw [here] at stepped printed counted
      cases stepped
      exact ⟨printed, counted⟩

/-- A child that has printed makes no difference to what has been printed. -/
theorem Printed.of_child (printed : Printed state) (parent : next.parent = state.parent)
    (number : next.numChildren = state.numChildren) (stdout : next.stdout = state.stdout)
    (first : next.first = state.first) (before : state.child = .exiting) (after : next.child = .zombie) :
    Printed next := by
  unfold Printed HalfWay Complete at printed ⊢
  rw [parent, number, stdout, first, after]
  rw [before] at printed
  cases here : state.parent with
  | starting | forking _ | exiting | exited =>
      rw [here] at printed
      cases printed.1
  | usage | rejected _ | failed _ => trivial
  | printing j | waiting j =>
      rw [here] at printed
      exact printed

/-- A child prints, first if the parent has yet to print. -/
theorem Printed.of_print (printed : Printed state) {number : Nat} (parent : next.parent = state.parent)
    (same : next.numChildren = state.numChildren)
    (stdout : next.stdout = state.stdout ++ line .child number)
    (first : next.first =
      if state.parent = .printing number then state.first ++ [.child] else state.first)
    (before : state.child = .printing number) (after : next.child = .exiting) : Printed next := by
  have notPrinting : forall other, next.child ≠ .printing other := by
    intro other isPrinting
    cases after.symm.trans isPrinting
  unfold Printed at printed
  cases here : state.parent with
  | usage | rejected _ | failed _ =>
      unfold Printed
      rw [parent, here]
      trivial
  | starting | forking _ | exiting | exited =>
      rw [here, before] at printed
      cases printed.1
  | printing j =>
      rw [here, before] at printed
      rcases printed with ⟨more, rfl, complete⟩
      rw [if_pos here] at first
      exact Printed.childFirst (parent.trans here) notPrinting (by rwa [same]) (complete.half first stdout)
  | waiting j =>
      rw [here, before] at printed
      rcases printed with ⟨more, rfl, half⟩
      have notFirst : state.parent ≠ .printing number := by
        rw [here]
        exact ParentPc.noConfusion
      rw [if_neg notFirst] at first
      exact Printed.bothPrinted (parent.trans here) notPrinting (by rwa [same]) (half.complete first stdout)

theorem childStep_preserves (printed : Printed state) (counted : Counted setup state)
    (stepped : childStep state = some next) : Printed next ∧ Counted setup next := by
  unfold childStep at stepped
  cases here : state.child with
  | absent | zombie =>
      rw [here] at stepped
      cases stepped
  | printing number =>
      rw [here] at stepped
      cases stepped
      exact ⟨printed.of_print rfl rfl rfl rfl here rfl, counted⟩
  | exiting =>
      rw [here] at stepped
      cases stepped
      exact ⟨printed.of_child rfl rfl rfl rfl here rfl, counted⟩

theorem history_of_reachable (reachable : (machine setup).Reachable state) :
    Printed state ∧ Counted setup state := by
  apply Machine.Reachable.invariant _ _ reachable
  · intro state initial
    cases initial
    exact ⟨⟨rfl, rfl, rfl⟩, trivial⟩
  · intro state action next holds stepped
    rcases holds with ⟨printed, counted⟩
    cases action with
    | parent => exact parentStep_preserves printed counted stepped
    | child => exact childStep_preserves printed counted stepped
    | forkFails errno =>
        change (match state.parent with | .forking j => _ | _ => _) = _ at stepped
        split at stepped
        · split at stepped
          · cases stepped
            exact ⟨trivial, trivial⟩
          · cases stepped
        · cases stepped

/-!
## Counting the pairs
-/

/-- A line without its newline. -/
def lineText (racer : Racer) (j : Nat) : List Byte := renderNat j ++ (32 :: racer.name)

theorem not_blank_of_isDigit {byte : Byte} (digit : isDigit 10 byte = true) :
    Awk.isBlank byte = false ∧ byte ≠ newline := by
  have differs : forall other : Byte, isDigit 10 other = false -> byte ≠ other := by
    intro other noDigit same
    rw [same, noDigit] at digit
    cases digit
  refine ⟨?_, differs newline (by decide)⟩
  unfold Awk.isBlank
  rw [beq_eq_false_iff_ne.mpr (differs 32 (by decide)), beq_eq_false_iff_ne.mpr (differs 9 (by decide)),
    beq_eq_false_iff_ne.mpr (differs newline (by decide))]
  rfl

theorem not_blank_of_mem_name {racer : Racer} {byte : Byte} (member : byte ∈ racer.name) :
    Awk.isBlank byte = false ∧ byte ≠ newline := by
  have checked : racer.name.all (fun byte => !Awk.isBlank byte && byte != newline) = true := by
    cases racer <;> decide
  have both := List.all_eq_true.mp checked byte member
  rw [Bool.and_eq_true, Bool.not_eq_true', bne_iff_ne] at both
  exact both

theorem records_line (racer : Racer) (j : Nat) (rest : List Byte) :
    Awk.records (line racer j ++ rest) = lineText racer j :: Awk.records rest := by
  have noNewline : forall byte, byte ∈ lineText racer j -> byte ≠ newline := by
    intro byte member
    rcases List.mem_append.mp member with digit | later
    · exact (not_blank_of_isDigit ((renderNat_isNumeral j).2 byte digit)).2
    · rcases List.mem_cons.mp later with space | letter
      · rw [space]
        decide
      · exact (not_blank_of_mem_name letter).2
  unfold line
  rw [List.append_assoc, List.singleton_append]
  exact Awk.records_line noNewline rest

theorem fields_lineText (racer : Racer) (j : Nat) :
    fields Awk.isBlank (lineText racer j) = [renderNat j, racer.name] := by
  have numeral : forall byte, byte ∈ renderNat j -> Awk.isBlank byte = false :=
    fun byte member => (not_blank_of_isDigit ((renderNat_isNumeral j).2 byte member)).1
  have name : forall byte, byte ∈ racer.name -> Awk.isBlank byte = false :=
    fun byte member => (not_blank_of_mem_name member).1
  have nonempty : racer.name ≠ [] := by
    cases racer <;> decide
  have space : forall byte, byte ∈ [(32 : Byte)] -> Awk.isBlank byte = true := by
    intro byte member
    rw [List.mem_singleton.mp member]
    rfl
  have later : fields Awk.isBlank (32 :: racer.name) = [racer.name] := by
    rw [← List.singleton_append, fields_append_of_blank space, fields_of_not_blank nonempty name]
  unfold lineText
  rw [fields_append_of_not_blank (renderNat_isNumeral j).1 numeral (by rfl), later]

namespace Counts

variable {counts : Counts}

/-- A progress message changes no variable. -/
theorem progress_spec (counts : Counts) : counts.progress.last = counts.last ∧
    counts.progress.cat = counts.cat ∧ counts.progress.tot = counts.tot := by
  unfold progress
  split <;> exact ⟨rfl, rfl, rfl⟩

theorem number_field (racer : Racer) (j : Nat) :
    (Awk.Value.field (fields Awk.isBlank (lineText racer j)) 1).number = some (j : Rat) := by
  rw [fields_lineText]
  exact Awk.number_renderNat j

/-- The number of a line becomes the last one, and the line is counted for its racer if
the last one differed. -/
theorem record_spec (racer : Racer) (j : Nat) {last : Rat} (lastIs : counts.last.number = some last) :
    (counts.record (lineText racer j)).last.number = some (j : Rat) ∧
      (counts.record (lineText racer j)).cat =
          (if (j : Rat) = last then counts.cat else Awk.Counters.increment racer.name counts.cat) ∧
        (counts.record (lineText racer j)).tot =
          if (j : Rat) = last then counts.tot else counts.tot + 1 := by
  have compared : (Awk.Value.field (fields Awk.isBlank (lineText racer j)) 1).same counts.last =
      decide ((j : Rat) = last) := Awk.Value.same_of_numbers (number_field racer j) lastIs
  have name : (Awk.Value.field (fields Awk.isBlank (lineText racer j)) 2).text = racer.name := by
    rw [fields_lineText]
    rfl
  unfold record
  rcases progress_spec ({ counts with NR := counts.NR + 1 }.count (fields Awk.isBlank (lineText racer j)))
    with ⟨lastKept, catKept, totKept⟩
  rw [lastKept, catKept, totKept]
  unfold count
  dsimp only
  rw [compared, name]
  by_cases equal : (j : Rat) = last
  · rw [decide_eq_true equal, if_pos rfl, if_pos equal, if_pos equal]
    exact ⟨number_field racer j, rfl, rfl⟩
  · rw [decide_eq_false equal, if_neg Bool.false_ne_true, if_neg equal, if_neg equal]
    exact ⟨number_field racer j, rfl, rfl⟩

/-- The lines of several races, when the last number was that of the race before. -/
theorem records_pairs (racers : List Racer) {j : Nat} {counts : Counts}
    (lastIs : counts.last.number = some ((j : Rat) - 1)) :
    ((Awk.records (pairs j racers)).foldl record counts).tot = counts.tot + racers.length ∧
      forall racer : Racer,
        Awk.Counters.value ((Awk.records (pairs j racers)).foldl record counts).cat racer.name =
          Awk.Counters.value counts.cat racer.name + racers.count racer := by
  induction racers generalizing j counts with
  | nil => exact ⟨rfl, fun _ => rfl⟩
  | cons first rest inductionHypothesis =>
      have differs : (j : Rat) ≠ (j : Rat) - 1 := by
        intro same
        linarith
      rcases record_spec first j lastIs with ⟨firstLast, firstCat, firstTot⟩
      rw [if_neg differs] at firstCat firstTot
      rcases record_spec first.other j firstLast with ⟨secondLast, secondCat, secondTot⟩
      rw [if_pos rfl] at secondCat secondTot
      have nextIs : ((counts.record (lineText first j)).record (lineText first.other j)).last.number =
          some (((j + 1 : Nat) : Rat) - 1) := by
        rw [secondLast]
        congr 1
        push_cast
        ring
      rcases inductionHypothesis nextIs with ⟨tot, cat⟩
      rw [pairs, List.append_assoc, records_line, records_line, List.foldl_cons, List.foldl_cons]
      constructor
      · rw [tot, secondTot, firstTot, List.length_cons]
        omega
      · intro racer
        have names : (first.name = racer.name) <-> first = racer := by
          cases first <;> cases racer <;> decide
        rw [cat, secondCat, firstCat, Awk.Counters.value_increment, List.count_cons]
        simp only [names, beq_iff_eq]
        omega

end Counts

theorem count_parent_add_count_child (racers : List Racer) :
    racers.count .parent + racers.count .child = racers.length := by
  induction racers with
  | nil => rfl
  | cons racer rest inductionHypothesis =>
      rw [List.count_cons, List.count_cons, List.length_cons]
      cases racer <;> simp <;> omega

/-- The counts after a complete run: every child is counted once, and for the one that
printed first. -/
theorem counts_exact (setup : Setup) (number : Int) (accepted : numChildren setup = .ok number)
    (state : State) (reachable : (machine setup).Reachable state) (exited : state.parent = .exited) :
    ((countLines state.stdout).tot : Int) = number ∧
      (Awk.Counters.value (countLines state.stdout).cat Racer.parent.name : Int) +
        Awk.Counters.value (countLines state.stdout).cat Racer.child.name = number ∧
      forall racer : Racer, Awk.Counters.value (countLines state.stdout).cat racer.name =
        state.first.count racer := by
  rcases history_of_reachable reachable with ⟨printed, counted⟩
  unfold Printed at printed
  unfold Counted at counted
  rw [exited] at printed counted
  rcases printed with ⟨_, j, ⟨length, stdout⟩, all⟩
  have same : state.numChildren = number := Except.ok.inj (counted.symm.trans accepted)
  have initially : Counts.begin.last.number = some (((0 : Nat) : Rat) - 1) := by
    change some ((-1 : Int) : Rat) = some (((0 : Nat) : Rat) - 1)
    norm_num
  rcases Counts.records_pairs state.first initially with ⟨tot, cat⟩
  rw [← stdout] at tot cat
  have total : (countLines state.stdout).tot = state.first.length := by
    refine tot.trans ?_
    exact Nat.zero_add _
  have each : forall racer : Racer, Awk.Counters.value (countLines state.stdout).cat racer.name =
      state.first.count racer := by
    intro racer
    refine (cat racer).trans ?_
    exact Nat.zero_add _
  have together := count_parent_add_count_child state.first
  refine ⟨?_, ?_, each⟩
  · rw [total, length, all, same]
  · rw [each, each, ← same, ← all, ← length, ← together]
    push_cast
    rfl

/-- Two races: the child prints first in one, the parent in the other. -/
def twoRaces : List Action :=
  [.parent, .parent, .child, .parent, .child, .parent, .parent, .parent, .child, .child, .parent,
    .parent, .parent]

def twoRacesSetup : Setup where
  dumpcore := none
  argument := some [50]

def twoRacesFinal : State :=
  ((machine twoRacesSetup).exec start twoRaces).get (by decide +kernel)

theorem twoRaces_counted : ((countLines twoRacesFinal.stdout).tot : Int) = 2 ∧
    (Awk.Counters.value (countLines twoRacesFinal.stdout).cat Racer.parent.name : Int) +
      Awk.Counters.value (countLines twoRacesFinal.stdout).cat Racer.child.name = 2 ∧
    forall racer : Racer, Awk.Counters.value (countLines twoRacesFinal.stdout).cat racer.name =
      twoRacesFinal.first.count racer :=
  counts_exact twoRacesSetup 2 (by decide +kernel) twoRacesFinal
    (Machine.reachable_of_exec rfl (Option.some_get _).symm) (by decide +kernel)

end ForkWhosOnFirst
end ProcessCreate
end Tlpi
