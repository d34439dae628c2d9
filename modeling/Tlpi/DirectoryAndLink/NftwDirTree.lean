import Tlpi.CLibrary.Getopt
import Tlpi.Foundations.Forest
import Tlpi.Foundations.Numerals
import Tlpi.Foundations.Segments
import Tlpi.Lib.ProgramEnd

namespace Tlpi
namespace DirectoryAndLink
namespace NftwDirTree

open CLibrary Foundations Lib

/-!
# A directory tree, line by line

`nftw` goes through a directory tree and calls `dirTree` for each entry, which prints a
line: the type of the file, what `nftw` says of it, its i-node number, and its name,
indented by its level.  With `-d` a directory comes after what is in it.

Which entries there are depends on the other two options and is left to `nftw`: whether
symbolic links are followed, and whether other file systems are entered.  What it finds is
a tree, in which only a directory that can be read has entries.

The listing determines the tree, in either order, as long as no name begins with a blank or
has a newline in it.
-/

inductive FileType where
  | S_IFREG
  | S_IFDIR
  | S_IFCHR
  | S_IFBLK
  | S_IFLNK
  | S_IFIFO
  | S_IFSOCK
  | other
deriving DecidableEq, Repr

inductive Typeflag where
  | FTW_D
  | FTW_DNR
  | FTW_DP
  | FTW_F
  | FTW_SL
  | FTW_SLN
  | FTW_NS
deriving DecidableEq, Repr

/-- A call of `dirTree`.  The i-node number is the `long` that is printed; an entry without
status has neither type nor number. -/
structure Call where
  pathname : List Byte
  sbuf : Option (FileType × Int)
  type : Typeflag
  base : Nat
  level : Nat
deriving DecidableEq, Repr

/-- An entry with nothing under it. -/
inductive Found where
  | file (mode : FileType) (ino : Int)
  | unreadable (ino : Int)
  | link (ino : Int)
  | dangling (ino : Int)
  | unstatable
deriving DecidableEq, Repr

/-- What `nftw` finds in a directory, entry by entry. -/
inductive Files where
  | none
  | leaf (name : List Byte) (found : Found) (rest : Files)
  | directory (name : List Byte) (ino : Int) (children rest : Files)
deriving DecidableEq, Repr

def Found.type : Found -> Typeflag
  | .file _ _ => .FTW_F
  | .unreadable _ => .FTW_DNR
  | .link _ => .FTW_SL
  | .dangling _ => .FTW_SLN
  | .unstatable => .FTW_NS

def Found.sbuf : Found -> Option (FileType × Int)
  | .file mode ino => some (mode, ino)
  | .unreadable ino => some (.S_IFDIR, ino)
  | .link ino | .dangling ino => some (.S_IFLNK, ino)
  | .unstatable => .none

/-- The calls that `nftw` makes; `depth` is the flag `FTW_DEPTH`. -/
def calls (depth : Bool) (path : List Byte) (level : Nat) : Files -> List Call
  | .none => []
  | .leaf name found rest =>
      ⟨path ++ name, found.sbuf, found.type, path.length, level⟩ :: calls depth path level rest
  | .directory name ino children rest =>
      let call := fun type => Call.mk (path ++ name) (some (.S_IFDIR, ino)) type path.length level
      let inside := calls depth (path ++ name ++ ascii "/") (level + 1) children
      (if depth then inside ++ [call .FTW_DP] else call .FTW_D :: inside) ++ calls depth path level rest

def FileType.letter : FileType -> List Byte
  | .S_IFREG => ascii "-"
  | .S_IFDIR => ascii "d"
  | .S_IFCHR => ascii "c"
  | .S_IFBLK => ascii "b"
  | .S_IFLNK => ascii "l"
  | .S_IFIFO => ascii "p"
  | .S_IFSOCK => ascii "s"
  | .other => ascii "?"

def Typeflag.text : Typeflag -> List Byte
  | .FTW_D => ascii "D  "
  | .FTW_DNR => ascii "DNR"
  | .FTW_DP => ascii "DP "
  | .FTW_F => ascii "F  "
  | .FTW_SL => ascii "SL "
  | .FTW_SLN => ascii "SLN"
  | .FTW_NS => ascii "NS "

def blanks (count : Nat) : List Byte := List.replicate count 32

/-- The text of `%7ld`. -/
def sevenWide (value : Int) : List Byte := blanks (7 - (renderInt value).length) ++ renderInt value

/-- What `dirTree` prints.  It always tells `nftw` to go on. -/
def dirTree (call : Call) : List Byte :=
  (match call.sbuf with
    | .none => ascii "?"
    | some (mode, _) => mode.letter) ++
  ascii " " ++ call.type.text ++ ascii "  " ++
  (match call.sbuf with
    | .none => blanks 8
    | some (_, ino) => sevenWide ino ++ ascii " ") ++
  ascii " " ++ blanks (4 * call.level) ++ call.pathname.drop call.base ++ [newline]

def listing (depth : Bool) (path : List Byte) (files : Files) : List Byte :=
  (calls depth path 0 files).flatMap dirTree

/-! ## The program -/

structure Arguments where
  depth : Bool
  mount : Bool
  phys : Bool
  path : List Byte
deriving DecidableEq, Repr

/-- The option string `"dmp"`. -/
def optionsDmp (letter : Byte) : Option Bool :=
  if letter = 100 ∨ letter = 109 ∨ letter = 112 then some false else .none

/-- `usageError(progName, NULL)`. -/
def usageError (progName : List Byte) : ProgramEnd :=
  .badArguments (ascii "Usage: " ++ progName ++ ascii " [-d] [-m] [-p] [directory-path]\n" ++
    ascii "\t-d Use FTW_DEPTH flag\n" ++ ascii "\t-m Use FTW_MOUNT flag\n" ++
    ascii "\t-p Use FTW_PHYS flag\n")

def readArguments (posixlyCorrect : Bool) (progName : List Byte) (words : List (List Byte)) :
    Except ProgramEnd Arguments :=
  let scanned := Getopt.scan optionsDmp posixlyCorrect .none words
  let flag := fun letter => scanned.options.contains ⟨letter, .none⟩
  match scanned.refused, scanned.operands with
  | .none, [] => .ok ⟨flag 100, flag 109, flag 112, ascii "."⟩
  | .none, [path] => .ok ⟨flag 100, flag 109, flag 112, path⟩
  | _, _ => .error (usageError progName)

/-- What `nftw` does when it is called: the path that leads to the directory, what is found
there, and the calls after which `nftw` itself fails, if it does. -/
structure Walk where
  before : List Byte
  files : Files
  failure : Option (Nat × Errno)
deriving DecidableEq, Repr

/-- What the program prints, and how it ends. -/
def main (posixlyCorrect : Bool) (progName : List Byte) (words : List (List Byte))
    (nftw : Arguments -> Walk) : List Byte × ProgramEnd :=
  match readArguments posixlyCorrect progName words with
  | .error usage => ([], usage)
  | .ok arguments =>
      let walk := nftw arguments
      match walk.failure with
      | .none => (listing arguments.depth walk.before walk.files, .success)
      | some (made, errno) =>
          (((calls arguments.depth walk.before 0 walk.files).take made).flatMap dirTree,
            .failed ⟨some errno, "nftw", .exit⟩)

/-- The letters may be grouped, and may stand before and behind the directory. -/
theorem readArguments_parts (progName : List Byte) {parts : List Getopt.Part}
    (fit : forall part, part ∈ parts -> part.Fits optionsDmp) :
    readArguments false progName (parts.flatMap Getopt.Part.words) =
      let options := parts.flatMap Getopt.Part.options
      let flag := fun letter => options.contains ⟨letter, .none⟩
      match parts.flatMap Getopt.Part.operands with
      | [] => .ok ⟨flag 100, flag 109, flag 112, ascii "."⟩
      | [path] => .ok ⟨flag 100, flag 109, flag 112, path⟩
      | _ => .error (usageError progName) := by
  unfold readArguments
  rw [Getopt.scan_parts (by decide) fit]
  dsimp only
  cases parts.flatMap Getopt.Part.operands with
  | nil => rfl
  | cons path more => cases more <;> rfl

/-!
## From the lines to the tree
-/

/-- What a line tells of an entry. -/
inductive Entry where
  | leaf (name : List Byte) (found : Found)
  | directory (name : List Byte) (ino : Int)
deriving DecidableEq, Repr

def Entry.name : Entry -> List Byte
  | .leaf name _ | .directory name _ => name

def Files.forest : Files -> Forest Entry
  | .none => .empty
  | .leaf name found rest => .tree (.leaf name found) .empty rest.forest
  | .directory name ino children rest => .tree (.directory name ino) children.forest rest.forest

theorem forest_injective : Function.Injective Files.forest := by
  intro first
  induction first with
  | none =>
      intro second same
      cases second with
      | none => rfl
      | leaf _ _ _ | directory _ _ _ _ => cases same
  | leaf name found rest inductionHypothesis =>
      intro second same
      cases second with
      | none | directory _ _ _ _ => cases same
      | leaf other its others =>
          rcases Forest.tree.inj same with ⟨labels, _, rests⟩
          cases labels
          rw [inductionHypothesis rests]
  | directory name ino children rest childrenHypothesis restHypothesis =>
      intro second same
      cases second with
      | none | leaf _ _ _ => cases same
      | directory other its others follow =>
          rcases Forest.tree.inj same with ⟨labels, inside, rests⟩
          cases labels
          rw [childrenHypothesis inside, restHypothesis rests]

def Entry.call (depth : Bool) (level : Nat) : Entry -> Call
  | .leaf name found => ⟨name, found.sbuf, found.type, 0, level⟩
  | .directory name ino =>
      ⟨name, some (.S_IFDIR, ino), if depth then .FTW_DP else .FTW_D, 0, level⟩

theorem dirTree_path (path name : List Byte) (sbuf : Option (FileType × Int)) (type : Typeflag)
    (level : Nat) :
    dirTree ⟨path ++ name, sbuf, type, path.length, level⟩ = dirTree ⟨name, sbuf, type, 0, level⟩ := by
  unfold dirTree
  rw [List.drop_left, List.drop_zero]

/-- The order that the flag asks for. -/
def order (depth : Bool) (level : Nat) (forest : Forest Entry) : List (Nat × Entry) :=
  if depth then forest.postorder level else forest.preorder level

theorem order_injective (depth : Bool) (level : Nat) : Function.Injective (order depth level) := by
  cases depth with
  | false => exact Forest.preorder_injective level
  | true => exact Forest.postorder_injective level

def lineOf (depth : Bool) (entry : Nat × Entry) : List Byte := dirTree (entry.2.call depth entry.1)

theorem map_dirTree_calls (depth : Bool) (path : List Byte) (level : Nat) (files : Files) :
    (calls depth path level files).map dirTree =
      (order depth level files.forest).map (lineOf depth) := by
  induction files generalizing path level with
  | none => cases depth <;> rfl
  | leaf name found rest inductionHypothesis =>
      have here := dirTree_path path name found.sbuf found.type level
      have there := inductionHypothesis path level
      cases depth with
      | false => exact congrArg₂ List.cons here there
      | true => exact congrArg₂ List.cons here there
  | directory name ino children rest childrenHypothesis restHypothesis =>
      have inside := childrenHypothesis (path ++ name ++ ascii "/") (level + 1)
      have there := restHypothesis path level
      unfold calls
      dsimp only
      cases depth with
      | false =>
          rw [if_neg Bool.false_ne_true, List.map_append, List.map_cons, inside, there, dirTree_path]
          change _ = List.map (lineOf false) (((level, Entry.directory name ino) ::
            children.forest.preorder (level + 1)) ++ rest.forest.preorder level)
          rw [List.map_append]
          rfl
      | true =>
          rw [if_pos rfl, List.map_append, List.map_append, inside, there, List.map_singleton,
            dirTree_path, List.append_assoc]
          change _ = List.map (lineOf true) (children.forest.postorder (level + 1) ++
            (level, Entry.directory name ino) :: rest.forest.postorder level)
          rw [List.map_append]
          rfl

theorem listing_eq (depth : Bool) (path : List Byte) (files : Files) :
    listing depth path files = (order depth 0 files.forest).flatMap (lineOf depth) := by
  unfold listing
  rw [List.flatMap_def, List.flatMap_def, map_dirTree_calls]

/-! ### One line -/

/-- A name that can be told in a line: it does not begin with a blank, and has no newline. -/
structure Plain (name : List Byte) : Prop where
  begins : name.head? ≠ some 32
  oneLine : newline ∉ name

def isBlank (byte : Byte) : Bool := byte = 32

theorem dropWhile_blanks (count : Nat) {rest : List Byte} (begins : rest.head? ≠ some 32) :
    (blanks count ++ rest).dropWhile isBlank = rest := by
  induction count with
  | zero =>
      cases rest with
      | nil => rfl
      | cons head tail =>
          refine List.dropWhile_cons_of_neg ?_
          intro blank
          exact begins (congrArg some (of_decide_eq_true blank))
  | succ count inductionHypothesis =>
      rw [blanks, List.replicate_succ, List.cons_append, List.dropWhile_cons_of_pos (by decide)]
      exact inductionHypothesis

/-- Blanks before something else can be counted. -/
theorem blanks_append_inj {count other : Nat} {rest following : List Byte}
    (begins : rest.head? ≠ some 32) (starts : following.head? ≠ some 32)
    (same : blanks count ++ rest = blanks other ++ following) : count = other ∧ rest = following := by
  have rests := congrArg (List.dropWhile isBlank) same
  rw [dropWhile_blanks count begins, dropWhile_blanks other starts] at rests
  refine ⟨?_, rests⟩
  have lengths := congrArg List.length same
  rw [rests, List.length_append, List.length_append, blanks, blanks, List.length_replicate,
    List.length_replicate] at lengths
  omega

theorem isBlank_renderInt (value : Int) (byte : Byte) (member : byte ∈ renderInt value) :
    isBlank byte = false := by
  refine decide_eq_false ?_
  intro blank
  rw [blank] at member
  rcases mem_renderInt member with minus | digit
  · cases minus
  · exact absurd digit (by decide)

theorem head_renderInt (value : Int) (rest : List Byte) :
    (renderInt value ++ rest).head? ≠ some 32 := by
  intro head
  cases numeral : renderInt value with
  | nil =>
      have denoted := denotedInt_renderInt value
      rw [numeral] at denoted
      cases denoted
  | cons first others =>
      rw [numeral] at head
      have member : first ∈ renderInt value := by
        rw [numeral]
        exact List.mem_cons_self
      have blank : first = 32 := Option.some.inj head
      exact absurd blank (of_decide_eq_false (isBlank_renderInt value first member))

/-- A number in its field can be read back, with what follows the field. -/
theorem sevenWide_append_inj {value other : Int} {rest following : List Byte}
    (same : sevenWide value ++ 32 :: rest = sevenWide other ++ 32 :: following) :
    value = other ∧ rest = following := by
  unfold sevenWide at same
  rw [List.append_assoc, List.append_assoc] at same
  have stripped := (blanks_append_inj (head_renderInt value _) (head_renderInt other _) same).2
  rcases append_cons_inj (isBlank_renderInt value) (isBlank_renderInt other) rfl stripped
    with ⟨numerals, following⟩
  exact ⟨renderInt_injective numerals, following⟩

theorem Plain.head_line {name : List Byte} (plain : Plain name) :
    (name ++ [newline]).head? ≠ some 32 := by
  cases name with
  | nil => decide
  | cons first others => exact plain.begins

/-- The end of a line tells the level and the name. -/
theorem indented_inj {level other : Nat} {name its : List Byte} (plain : Plain name)
    (also : Plain its)
    (same : blanks (4 * level) ++ (name ++ [newline]) = blanks (4 * other) ++ (its ++ [newline])) :
    level = other ∧ name = its := by
  rcases blanks_append_inj plain.head_line also.head_line same with ⟨counts, names⟩
  exact ⟨by omega, List.append_cancel_right names⟩

theorem FileType.letter_injective : Function.Injective FileType.letter := by
  intro first second same
  cases first <;> cases second <;> first | rfl | exact absurd same (by decide)

theorem Typeflag.text_injective : Function.Injective Typeflag.text := by
  intro first second same
  cases first <;> cases second <;> first | rfl | exact absurd same (by decide)

theorem FileType.length_letter (mode : FileType) : mode.letter.length = 1 := by
  cases mode <;> rfl

theorem Typeflag.length_text (type : Typeflag) : type.text.length = 3 := by
  cases type <;> rfl

/-- A call whose line tells all of it. -/
structure Told (call : Call) : Prop where
  plain : Plain call.pathname
  whole : call.base = 0
  unstatable : call.sbuf = .none <-> call.type = .FTW_NS

theorem dirTree_statted {name : List Byte} {mode : FileType} {ino : Int} {type : Typeflag}
    {level : Nat} : dirTree ⟨name, some (mode, ino), type, 0, level⟩ =
      mode.letter ++ (ascii " " ++ (type.text ++ (ascii "  " ++ (sevenWide ino ++ 32 ::
        (32 :: (blanks (4 * level) ++ (name ++ [newline]))))))) := by
  unfold dirTree
  rw [List.drop_zero]
  simp only [List.append_assoc]
  rfl

theorem dirTree_unstatable {name : List Byte} {type : Typeflag} {level : Nat} :
    dirTree ⟨name, .none, type, 0, level⟩ =
      FileType.other.letter ++ (ascii " " ++ (type.text ++ (ascii "  " ++ (blanks 9 ++
        (blanks (4 * level) ++ (name ++ [newline])))))) := by
  unfold dirTree
  rw [List.drop_zero]
  simp only [List.append_assoc]
  rfl

/-- The front of a line has a fixed width. -/
theorem front_inj {mode its : FileType} {type flag : Typeflag} {rest following : List Byte}
    (same : mode.letter ++ (ascii " " ++ (type.text ++ (ascii "  " ++ rest))) =
      its.letter ++ (ascii " " ++ (flag.text ++ (ascii "  " ++ following)))) :
    mode = its ∧ type = flag ∧ rest = following := by
  rcases List.append_inj same (mode.length_letter.trans its.length_letter.symm)
    with ⟨letters, afterLetter⟩
  rcases List.append_inj (List.append_cancel_left afterLetter)
    (type.length_text.trans flag.length_text.symm) with ⟨texts, afterText⟩
  exact ⟨FileType.letter_injective letters, Typeflag.text_injective texts,
    List.append_cancel_left afterText⟩

theorem dirTree_inj {call other : Call} (told : Told call) (also : Told other)
    (same : dirTree call = dirTree other) : call = other := by
  rcases call with ⟨name, sbuf, type, base, level⟩
  rcases other with ⟨its, status, flag, offset, depth⟩
  rcases told with ⟨plain, whole, unstatable⟩
  rcases also with ⟨clean, entire, statless⟩
  dsimp only at plain whole unstatable clean entire statless
  subst whole
  subst entire
  cases sbuf with
  | none =>
      cases status with
      | none =>
          rw [dirTree_unstatable, dirTree_unstatable] at same
          rcases front_inj same with ⟨_, types, ends⟩
          rcases indented_inj plain clean (List.append_cancel_left ends) with ⟨levels, names⟩
          rw [types, levels, names]
      | some status =>
          rw [dirTree_unstatable, dirTree_statted] at same
          rcases front_inj same with ⟨_, types, _⟩
          exact absurd (statless.mpr (types ▸ unstatable.mp rfl)) (Option.some_ne_none status)
  | some sbuf =>
      cases status with
      | none =>
          rw [dirTree_unstatable, dirTree_statted] at same
          rcases front_inj same with ⟨_, types, _⟩
          exact absurd (unstatable.mpr (types ▸ statless.mp rfl)) (Option.some_ne_none sbuf)
      | some status =>
          rw [dirTree_statted, dirTree_statted] at same
          rcases front_inj same with ⟨modes, types, numbers⟩
          rcases sevenWide_append_inj numbers with ⟨inos, ends⟩
          rcases indented_inj plain clean (List.cons.inj ends).2 with ⟨levels, names⟩
          rw [Prod.ext modes inos, types, levels, names]

theorem told_call (depth : Bool) (level : Nat) {entry : Entry} (plain : Plain entry.name) :
    Told (entry.call depth level) := by
  cases entry with
  | leaf name found =>
      refine ⟨plain, rfl, ?_⟩
      cases found <;> simp [Entry.call, Found.sbuf, Found.type]
  | directory name ino =>
      refine ⟨plain, rfl, ?_⟩
      cases depth <;> simp [Entry.call]

theorem Found.eq_of_status {first second : Found} (statuses : first.sbuf = second.sbuf)
    (types : first.type = second.type) : first = second := by
  cases first <;> cases second <;> simp_all [Found.sbuf, Found.type]

theorem call_inj (depth : Bool) {level other : Nat} {entry its : Entry}
    (same : entry.call depth level = its.call depth other) : (level, entry) = (other, its) := by
  cases entry with
  | leaf name found =>
      cases its with
      | leaf second status =>
          rcases Call.mk.inj same with ⟨names, statuses, types, _, levels⟩
          rw [names, levels, Found.eq_of_status statuses types]
      | directory second ino =>
          have types := congrArg Call.type same
          cases depth <;> cases found <;> cases types
  | directory name ino =>
      cases its with
      | leaf second found =>
          have types := congrArg Call.type same
          cases depth <;> cases found <;> cases types
      | directory second number =>
          rcases Call.mk.inj same with ⟨names, statuses, _, _, levels⟩
          rw [names, levels, (Prod.mk.inj (Option.some.inj statuses)).2]

/-! ### All lines -/

def isNewline (byte : Byte) : Bool := byte = newline

theorem newline_blanks (count : Nat) : newline ∉ blanks count := by
  intro member
  exact absurd (List.eq_of_mem_replicate member) (by decide)

theorem newline_sevenWide (value : Int) : newline ∉ sevenWide value := by
  intro member
  rcases List.mem_append.mp member with blank | numeral
  · exact newline_blanks _ blank
  · rcases mem_renderInt numeral with minus | digit
    · cases minus
    · exact absurd digit (by decide)

theorem FileType.newline_letter (mode : FileType) : newline ∉ mode.letter := by
  cases mode <;> decide

theorem Typeflag.newline_text (type : Typeflag) : newline ∉ type.text := by
  cases type <;> decide

/-- The newline of a line is at its end. -/
theorem dirTree_oneLine {call : Call} (told : Told call) : Exists fun line =>
    dirTree call = line ++ [newline] ∧ newline ∉ line := by
  rcases call with ⟨name, sbuf, type, base, level⟩
  rcases told with ⟨plain, whole, _⟩
  dsimp only at plain whole
  subst whole
  have inside := newline_blanks (4 * level)
  have text := type.newline_text
  cases sbuf with
  | none =>
      refine ⟨FileType.other.letter ++ (ascii " " ++ (type.text ++ (ascii "  " ++ (blanks 9 ++
        (blanks (4 * level) ++ name))))), ?_, ?_⟩
      · rw [dirTree_unstatable]
        simp only [List.append_assoc]
      · have letter := FileType.newline_letter .other
        have empty := newline_blanks 9
        simp only [List.mem_append, not_or]
        exact ⟨letter, by decide, text, by decide, empty, inside, plain.oneLine⟩
  | some status =>
      rcases status with ⟨mode, ino⟩
      refine ⟨mode.letter ++ (ascii " " ++ (type.text ++ (ascii "  " ++ (sevenWide ino ++ 32 ::
        (32 :: (blanks (4 * level) ++ name)))))), ?_, ?_⟩
      · rw [dirTree_statted]
        simp only [List.append_assoc, List.cons_append]
      · have letter := mode.newline_letter
        have number := newline_sevenWide ino
        simp only [List.mem_append, List.mem_cons, not_or]
        exact ⟨letter, by decide, text, by decide, number, by decide, by decide, inside, plain.oneLine⟩

/-- Entries whose lines tell all of them. -/
def AllPlain (entries : List (Nat × Entry)) : Prop :=
  forall entry, entry ∈ entries -> Plain entry.2.name

/-- The listing, cut after each newline. -/
theorem segments_lines (depth : Bool) {entries : List (Nat × Entry)} (plain : AllPlain entries) :
    segments isNewline (entries.flatMap (lineOf depth)) = entries.map (lineOf depth) := by
  induction entries with
  | nil => rfl
  | cons entry others inductionHypothesis =>
      have later := inductionHypothesis (fun other member =>
        plain other (List.mem_cons_of_mem entry member))
      have told := told_call depth entry.1 (plain entry List.mem_cons_self)
      rcases dirTree_oneLine told with ⟨line, ends, free⟩
      have noStop : forall byte, byte ∈ line -> isNewline byte = false := by
        intro byte member
        refine decide_eq_false ?_
        intro same
        exact free (same ▸ member)
      rw [List.flatMap_cons, List.map_cons, lineOf, ends, List.append_assoc, List.singleton_append,
        segments_append_cons noStop rfl, later]

theorem lineOf_inj (depth : Bool) {entry other : Nat × Entry} (plain : Plain entry.2.name)
    (clean : Plain other.2.name) (same : lineOf depth entry = lineOf depth other) : entry = other :=
  call_inj depth (dirTree_inj (told_call depth entry.1 plain) (told_call depth other.1 clean) same)

theorem lines_inj (depth : Bool) {entries others : List (Nat × Entry)} (plain : AllPlain entries)
    (clean : AllPlain others) (same : entries.map (lineOf depth) = others.map (lineOf depth)) :
    entries = others := by
  induction entries generalizing others with
  | nil => exact (List.map_eq_nil_iff.mp same.symm).symm
  | cons entry rest inductionHypothesis =>
      cases others with
      | nil => cases same
      | cons other following =>
          rcases List.cons.inj same with ⟨heads, tails⟩
          rw [lineOf_inj depth (plain entry List.mem_cons_self) (clean other List.mem_cons_self) heads,
            inductionHypothesis
              (fun entry member => plain entry (List.mem_cons_of_mem _ member))
              (fun entry member => clean entry (List.mem_cons_of_mem _ member)) tails]

/-- A tree whose names can all be told. -/
def Files.Plainly : Files -> Prop
  | .none => True
  | .leaf name _ rest => Plain name ∧ rest.Plainly
  | .directory name _ children rest => Plain name ∧ children.Plainly ∧ rest.Plainly

theorem mem_order_tree {depth : Bool} {level : Nat} {label : Entry} {children rest : Forest Entry}
    {entry : Nat × Entry} (member : entry ∈ order depth level (.tree label children rest)) :
    entry.2 = label ∨ entry ∈ order depth (level + 1) children ∨ entry ∈ order depth level rest := by
  cases depth with
  | false =>
      rcases List.mem_append.mp member with first | later
      · rcases List.mem_cons.mp first with here | inside
        · exact Or.inl (congrArg Prod.snd here)
        · exact Or.inr (Or.inl inside)
      · exact Or.inr (Or.inr later)
  | true =>
      rcases List.mem_append.mp member with inside | first
      · exact Or.inr (Or.inl inside)
      · rcases List.mem_cons.mp first with here | later
        · exact Or.inl (congrArg Prod.snd here)
        · exact Or.inr (Or.inr later)

theorem allPlain_order (depth : Bool) (level : Nat) {files : Files} (plain : files.Plainly) :
    AllPlain (order depth level files.forest) := by
  induction files generalizing level with
  | none =>
      intro entry member
      cases depth <;> cases member
  | leaf name found rest inductionHypothesis =>
      intro entry member
      rcases mem_order_tree member with here | inside | later
      · rw [here]
        exact plain.1
      · cases depth <;> cases inside
      · exact inductionHypothesis level plain.2 entry later
  | directory name ino children rest childrenHypothesis restHypothesis =>
      intro entry member
      rcases mem_order_tree member with here | inside | later
      · rw [here]
        exact plain.1
      · exact childrenHypothesis (level + 1) plain.2.1 entry inside
      · exact restHypothesis level plain.2.2 entry later

/-- What `nftw` finds, with the names that files mostly have. -/
structure PlainFiles where
  files : Files
  plain : files.Plainly

/-- Whichever order the listing is in, it tells the tree. -/
theorem listing_injective (depth : Bool) (path : List Byte) :
    Function.Injective (fun tree : PlainFiles => listing depth path tree.files) := by
  intro first second same
  rcases first with ⟨files, plain⟩
  rcases second with ⟨others, clean⟩
  change listing depth path files = listing depth path others at same
  rw [listing_eq, listing_eq] at same
  have plainly := allPlain_order depth 0 plain
  have cleanly := allPlain_order depth 0 clean
  have lines := congrArg (segments isNewline) same
  rw [segments_lines depth plainly, segments_lines depth cleanly] at lines
  have trees := order_injective depth 0 (lines_inj depth plainly cleanly lines)
  cases forest_injective trees
  rfl

/-- A name that begins with blanks looks like one that stands deeper. -/
example :
    listing false [] (.directory (ascii "d") 1 (.leaf (ascii "f") (.link 2) .none) .none) =
      listing false [] (.directory (ascii "d") 1 .none (.leaf (ascii "    f") (.link 2) .none)) := by
  decide

/-- What is printed tells the tree that was found. -/
theorem printed_tree_told {posixlyCorrect : Bool} {progName : List Byte} {words : List (List Byte)}
    {arguments : Arguments} (accepted : readArguments posixlyCorrect progName words = .ok arguments)
    (before : List Byte) :
    Function.Injective (fun tree : PlainFiles =>
      main posixlyCorrect progName words (fun _ => ⟨before, tree.files, .none⟩)) := by
  intro first second same
  dsimp only at same
  unfold main at same
  rw [accepted] at same
  exact listing_injective arguments.depth before (Prod.mk.inj same).1

/-- The directory behind its option. -/
theorem printed_tree_told_depth :
    readArguments false (ascii "nftw_dir_tree") [ascii "-pd", ascii "dir"] =
      .ok ⟨true, false, true, ascii "dir"⟩ ∧
    Function.Injective (fun tree : PlainFiles =>
      main false (ascii "nftw_dir_tree") [ascii "-pd", ascii "dir"]
        (fun _ => ⟨[], tree.files, .none⟩)) := by
  have accepted : readArguments false (ascii "nftw_dir_tree") [ascii "-pd", ascii "dir"] =
      .ok ⟨true, false, true, ascii "dir"⟩ := by decide +kernel
  exact ⟨accepted, printed_tree_told accepted []⟩

end NftwDirTree
end DirectoryAndLink
end Tlpi
