import Tlpi.CLibrary.Descriptor

namespace Tlpi
namespace CLibrary
namespace Getopt

/-!
# Command-line options

`getopt` goes through the words of a command line.  A word that begins with a hyphen and
has more to it is a group of option letters; a letter that takes an argument finds it in
the rest of its word, or else in the next word.  Other words are operands, which are set
aside until all options have been seen, unless the environment asks for the rule of POSIX
that the first operand ends the options.  The word `--` ends them in any case.

A program sees the options one after the other, and finds the operands when there are no
more.  It may be told of a letter that is no option, or that lacks its argument.
-/

/-- What a call reports: the option letter, with its argument if it takes one. -/
structure Found where
  letter : Byte
  argument : Option (List Byte)
deriving DecidableEq, Repr

/-- How a group of option letters ends. -/
inductive GroupEnd where
  | complete
  | awaiting (letter : Byte)
  | refused (letter : Byte)
deriving DecidableEq, Repr

/-- A group of option letters.  `takes` says which letters are options, and which of them
take an argument. -/
def group (takes : Byte -> Option Bool) : List Byte -> List Found × GroupEnd
  | [] => ([], .complete)
  | letter :: rest =>
      match takes letter with
      | none => ([], .refused letter)
      | some false => (⟨letter, none⟩ :: (group takes rest).1, (group takes rest).2)
      | some true =>
          match rest with
          | [] => ([], .awaiting letter)
          | first :: others => ([⟨letter, some (first :: others)⟩], .complete)

/-- What the calls of a program report: the options up to the first that is refused, and
the operands. -/
structure Scanned where
  options : List Found
  refused : Option Byte
  operands : List (List Byte)
deriving DecidableEq, Repr

def Scanned.after (scanned : Scanned) (found : List Found) : Scanned :=
  { scanned with options := found ++ scanned.options }

def Scanned.aside (scanned : Scanned) (operand : List Byte) : Scanned :=
  { scanned with operands := operand :: scanned.operands }

/-- The words of a command line behind the name of the program; `awaited` is an option
whose argument the next word is. -/
def scan (takes : Byte -> Option Bool) (posixly : Bool) : Option Byte -> List (List Byte) -> Scanned
  | none, [] => ⟨[], none, []⟩
  | some awaited, [] => ⟨[], some awaited, []⟩
  | some awaited, word :: rest => (scan takes posixly none rest).after [⟨awaited, some word⟩]
  | none, word :: rest =>
      match word with
      | [45, 45] => ⟨[], none, rest⟩
      | 45 :: first :: letters =>
          let found := group takes (first :: letters)
          match found.2 with
          | .complete => (scan takes posixly none rest).after found.1
          | .awaiting letter => (scan takes posixly (some letter) rest).after found.1
          | .refused letter => ⟨found.1, some letter, []⟩
      | _ =>
          if posixly then ⟨[], none, word :: rest⟩
          else (scan takes posixly none rest).aside word

/-!
## Command lines in their parts

A command line that is put together from options and operands is taken apart into the
same options and operands, however they are arranged.
-/

/-- A part of a command line: an operand, a group of letters without arguments, or a group
that ends with a letter whose argument is attached to it or is the next word. -/
inductive Part where
  | operand (word : List Byte)
  | flags (first : Byte) (others : List Byte)
  | attached (before : List Byte) (letter first : Byte) (others : List Byte)
  | separate (before : List Byte) (letter : Byte) (argument : List Byte)

def Part.words : Part -> List (List Byte)
  | .operand word => [word]
  | .flags first others => [45 :: first :: others]
  | .attached before letter first others => [45 :: (before ++ letter :: first :: others)]
  | .separate before letter argument => [45 :: (before ++ [letter]), argument]

/-- The letters of a group that take no argument. -/
def flagsFound (letters : List Byte) : List Found := letters.map (fun letter => ⟨letter, none⟩)

def Part.options : Part -> List Found
  | .operand _ => []
  | .flags first others => flagsFound (first :: others)
  | .attached before letter first others => flagsFound before ++ [⟨letter, some (first :: others)⟩]
  | .separate before letter argument => flagsFound before ++ [⟨letter, some argument⟩]

def Part.operands : Part -> List (List Byte)
  | .operand word => [word]
  | .flags _ _ | .attached _ _ _ _ | .separate _ _ _ => []

/-- The letters are options of the kind that the part makes of them; an operand does not
look like an option. -/
def Part.Fits (takes : Byte -> Option Bool) : Part -> Prop
  | .operand word => forall first others, word ≠ 45 :: first :: others
  | .flags first others => forall letter, letter ∈ first :: others -> takes letter = some false
  | .attached before letter _ _ | .separate before letter _ =>
      (forall other, other ∈ before -> takes other = some false) ∧ takes letter = some true

theorem group_append {takes : Byte -> Option Bool} {letters : List Byte}
    (flags : forall letter, letter ∈ letters -> takes letter = some false) (rest : List Byte) :
    group takes (letters ++ rest) = (flagsFound letters ++ (group takes rest).1, (group takes rest).2) := by
  induction letters with
  | nil => rfl
  | cons letter others inductionHypothesis =>
      have here := flags letter List.mem_cons_self
      have there := inductionHypothesis (fun other member => flags other (List.mem_cons_of_mem _ member))
      rw [List.cons_append, group.eq_def]
      simp only [here, there]
      rfl

theorem scan_group (takes : Byte -> Option Bool) (posixly : Bool) {first : Byte} (others : List Byte)
    (isOption : first ≠ 45) (rest : List (List Byte)) :
    scan takes posixly none ((45 :: first :: others) :: rest) =
      match (group takes (first :: others)).2 with
      | .complete => (scan takes posixly none rest).after (group takes (first :: others)).1
      | .awaiting letter =>
          (scan takes posixly (some letter) rest).after (group takes (first :: others)).1
      | .refused letter => ⟨(group takes (first :: others)).1, some letter, []⟩ := by
  rw [scan.eq_def]
  simp only
  split
  · rename_i same
    exact absurd (List.cons.inj (List.cons.inj same).2).1 isOption
  · rename_i same
    cases same
    rfl
  · rename_i notGroup
    exact absurd rfl (notGroup first others)

/-- A word that is an operand is set aside. -/
theorem scan_operand (takes : Byte -> Option Bool) {word : List Byte}
    (plain : forall first others, word ≠ 45 :: first :: others) (rest : List (List Byte)) :
    scan takes false none (word :: rest) = (scan takes false none rest).aside word := by
  rw [scan.eq_def]
  simp only
  split
  · exact absurd rfl (plain 45 [])
  · exact absurd rfl (plain _ _)
  · rfl

theorem ne_hyphen {takes : Byte -> Option Bool} (proper : takes 45 = none) {letter : Byte}
    {valued : Bool} (isOption : takes letter = some valued) : letter ≠ 45 := by
  intro hyphen
  rw [hyphen, proper] at isOption
  cases isOption

theorem scan_part {takes : Byte -> Option Bool} (proper : takes 45 = none) {part : Part}
    (fits : part.Fits takes) (rest : List (List Byte)) :
    scan takes false none (part.words ++ rest) =
      ⟨part.options ++ (scan takes false none rest).options, (scan takes false none rest).refused,
        part.operands ++ (scan takes false none rest).operands⟩ := by
  cases part with
  | operand word => exact scan_operand takes fits rest
  | flags first others =>
      have isOption := ne_hyphen proper (fits first List.mem_cons_self)
      have grouped := group_append fits []
      rw [List.append_nil] at grouped
      change scan takes false none ((45 :: first :: others) :: rest) = _
      rw [scan_group takes false others isOption, grouped]
      simp only [group, List.append_nil, Scanned.after]
      rfl
  | attached before letter first others =>
      rcases fits with ⟨flags, valued⟩
      have last : group takes (letter :: first :: others) =
          ([⟨letter, some (first :: others)⟩], .complete) := by
        rw [group.eq_def]
        simp only [valued]
      have grouped := group_append flags (letter :: first :: others)
      rw [last] at grouped
      change scan takes false none ((45 :: (before ++ letter :: first :: others)) :: rest) = _
      cases before with
      | nil =>
          change scan takes false none ((45 :: letter :: first :: others) :: rest) = _
          rw [scan_group takes false _ (ne_hyphen proper valued), last]
          rfl
      | cons head tail =>
          have isOption := ne_hyphen proper (flags head List.mem_cons_self)
          change scan takes false none ((45 :: head :: (tail ++ letter :: first :: others)) :: rest) = _
          change group takes (head :: (tail ++ letter :: first :: others)) = _ at grouped
          rw [scan_group takes false _ isOption, grouped]
          rfl
  | separate before letter argument =>
      rcases fits with ⟨flags, valued⟩
      have last : group takes [letter] = ([], .awaiting letter) := by
        rw [group.eq_def]
        simp only [valued]
      have grouped := group_append flags [letter]
      rw [last] at grouped
      change scan takes false none ((45 :: (before ++ [letter])) :: argument :: rest) = _
      cases before with
      | nil =>
          change scan takes false none ([45, letter] :: argument :: rest) = _
          rw [scan_group takes false _ (ne_hyphen proper valued), last]
          rfl
      | cons head tail =>
          have isOption := ne_hyphen proper (flags head List.mem_cons_self)
          change scan takes false none ((45 :: head :: (tail ++ [letter])) :: argument :: rest) = _
          change group takes (head :: (tail ++ [letter])) = _ at grouped
          rw [scan_group takes false _ isOption, grouped]
          simp only [Scanned.after, scan, Part.options, Part.operands, List.append_nil, List.append_assoc]
          rfl

/-- The options and the operands of a command line do not depend on how they are arranged
among each other. -/
theorem scan_parts {takes : Byte -> Option Bool} (proper : takes 45 = none) {parts : List Part}
    (fit : forall part, part ∈ parts -> part.Fits takes) :
    scan takes false none (parts.flatMap Part.words) =
      ⟨parts.flatMap Part.options, none, parts.flatMap Part.operands⟩ := by
  induction parts with
  | nil => rfl
  | cons part rest inductionHypothesis =>
      rw [List.flatMap_cons, scan_part proper (fit part List.mem_cons_self),
        inductionHypothesis (fun other member => fit other (List.mem_cons_of_mem _ member))]
      rfl

end Getopt
end CLibrary
end Tlpi
