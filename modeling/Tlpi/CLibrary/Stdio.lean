import Tlpi.CLibrary.Integers
import Tlpi.CLibrary.Strings
import Tlpi.Foundations.Segments

namespace Tlpi
namespace CLibrary

open Foundations

/-!
# Lines read from a stream

`fgets` takes bytes through the next newline, but no more than fit before a null
byte, and reports the end of the stream only when it has taken nothing.  A line
that does not fit therefore comes in pieces, and each call sees one piece.  A null
byte among the bytes is taken like any other, so that the string that the caller
finds in its buffer may be shorter than what was read.
-/

/-- The byte that ends a line. -/
def endsLine (byte : Byte) : Bool := byte == newline

/-- What `fgets` with a limit of `n` takes from the front of a stream. -/
def fgetsBytes (n : Nat) (stream : List Byte) : List Byte :=
  throughFirst endsLine (stream.take (n - 1))

/-- What it leaves. -/
def fgetsRest (n : Nat) (stream : List Byte) : List Byte :=
  stream.drop (fgetsBytes n stream).length

/-- `fgets(buffer, n, stream)` for a buffer of `n` bytes: the buffer and the stream
after it, or nothing at the end of the stream. -/
def fgets {size : Nat} (buffer : Vector Byte size) (stream : List Byte) :
    Option (Vector Byte size × List Byte) :=
  if stream = [] then none
  else some (fill buffer (fgetsBytes size stream ++ [0]), fgetsRest size stream)

/-- The pieces that repeated calls take, for at most so many calls. -/
def fgetsPieces (n : Nat) : Nat -> List Byte -> List (List Byte)
  | 0, _ => []
  | calls + 1, stream =>
      if stream = [] then [] else fgetsBytes n stream :: fgetsPieces n calls (fgetsRest n stream)

/-- The pieces in which repeated calls take a whole stream. -/
def fgetsLines (n : Nat) (stream : List Byte) : List (List Byte) :=
  fgetsPieces n stream.length stream

/-- `strlen(buffer) - 1`, computed in `size_t`. -/
def lastIndex {size : Nat} (buffer : Vector Byte size) : Nat :=
  toSizeT (((stringIn buffer).strlen : Int) - 1)

variable {n : Nat} {stream : List Byte}

theorem fgetsBytes_length_le (n : Nat) (stream : List Byte) :
    (fgetsBytes n stream).length ≤ n - 1 := by
  have together := throughFirst_append_afterFirst endsLine (stream.take (n - 1))
  have lengths := congrArg List.length together
  rw [List.length_append, List.length_take] at lengths
  unfold fgetsBytes
  omega

/-- Nothing is lost between what is taken and what is left. -/
theorem fgetsBytes_append_fgetsRest (n : Nat) (stream : List Byte) :
    fgetsBytes n stream ++ fgetsRest n stream = stream := by
  have together := throughFirst_append_afterFirst endsLine (stream.take (n - 1))
  have isPrefix : fgetsBytes n stream <+: stream :=
    (List.prefix_iff_eq_append.mpr (by rw [← together]; simp [fgetsBytes])).trans
      (List.take_prefix _ _)
  unfold fgetsRest
  exact List.prefix_iff_eq_append.mp isPrefix

theorem fgetsBytes_ne_nil (readable : 2 ≤ n) (nonempty : stream ≠ []) : fgetsBytes n stream ≠ [] := by
  apply throughFirst_ne_nil
  intro empty
  rcases List.take_eq_nil_iff.mp empty with zero | none
  · omega
  · exact nonempty none

theorem fgetsRest_length_lt (readable : 2 ≤ n) (nonempty : stream ≠ []) :
    (fgetsRest n stream).length < stream.length := by
  have taken := List.length_pos_iff.mpr (fgetsBytes_ne_nil readable nonempty)
  have lengths := congrArg List.length (fgetsBytes_append_fgetsRest n stream)
  rw [List.length_append] at lengths
  omega

/-- A call that reads something leaves what it took as a string in the buffer. -/
theorem fgets_eq_some {size : Nat} {buffer filled : Vector Byte size} {stream rest : List Byte}
    (positive : 0 < size) (read : fgets buffer stream = some (filled, rest)) :
    stream ≠ [] ∧ (stringIn filled).bytes = cString (fgetsBytes size stream) ∧
      rest = fgetsRest size stream := by
  unfold fgets at read
  split at read
  · cases read
  · rename_i nonempty
    cases read
    have short := fgetsBytes_length_le size stream
    exact ⟨nonempty, stringIn_fill buffer (by omega), rfl⟩

theorem fgetsPieces_of_le (readable : 2 ≤ n) {calls : Nat} {stream : List Byte}
    (enough : stream.length ≤ calls) : fgetsPieces n calls stream = fgetsLines n stream := by
  have both : forall length calls other stream, stream.length ≤ length -> stream.length ≤ calls ->
      stream.length ≤ other -> fgetsPieces n calls stream = fgetsPieces n other stream := by
    intro length
    induction length with
    | zero =>
        intro calls other stream short _ _
        have empty : stream = [] := List.length_eq_zero_iff.mp (by omega)
        subst empty
        cases calls <;> cases other <;> simp [fgetsPieces]
    | succ length inductionHypothesis =>
        intro calls other stream short first second
        by_cases empty : stream = []
        · subst empty
          cases calls <;> cases other <;> simp [fgetsPieces]
        · have left := fgetsRest_length_lt readable empty
          cases calls with
          | zero => omega
          | succ calls =>
              cases other with
              | zero => omega
              | succ other =>
                  have later := inductionHypothesis calls other (fgetsRest n stream)
                    (by omega) (by omega) (by omega)
                  simp only [fgetsPieces, if_neg empty, later]
  exact both stream.length calls stream.length stream (Nat.le_refl _) enough (Nat.le_refl _)

@[simp] theorem fgetsLines_nil (n : Nat) : fgetsLines n [] = [] := rfl

theorem fgetsLines_cons (readable : 2 ≤ n) (nonempty : stream ≠ []) :
    fgetsLines n stream = fgetsBytes n stream :: fgetsLines n (fgetsRest n stream) := by
  have shorter := fgetsRest_length_lt readable nonempty
  rw [← fgetsPieces_of_le readable (Nat.le_succ stream.length), fgetsPieces, if_neg nonempty,
    fgetsPieces_of_le readable (Nat.le_of_lt shorter)]

theorem length_le_of_mem_fgetsLines {piece : List Byte} (member : piece ∈ fgetsLines n stream) :
    piece.length ≤ n - 1 := by
  unfold fgetsLines at member
  generalize stream.length = calls at member
  induction calls generalizing stream with
  | zero => cases member
  | succ calls inductionHypothesis =>
      unfold fgetsPieces at member
      split at member
      · cases member
      · rcases List.mem_cons.mp member with same | later
        · rw [same]
          exact fgetsBytes_length_le n stream
        · exact inductionHypothesis later

/-- Lines that all fit come whole. -/
theorem fgetsLines_eq_segments (readable : 2 ≤ n)
    (short : forall line, line ∈ segments endsLine stream -> line.length ≤ n - 1) :
    fgetsLines n stream = segments endsLine stream := by
  generalize bound : stream.length = length
  induction length using Nat.strong_induction_on generalizing stream with
  | _ length inductionHypothesis =>
      by_cases empty : stream = []
      · rw [empty]
        rfl
      · rw [segments_eq_cons endsLine empty] at short ⊢
        have fits := short _ List.mem_cons_self
        have whole : fgetsBytes n stream = throughFirst endsLine stream := by
          unfold fgetsBytes
          rw [throughFirst_take, List.take_of_length_le fits]
        have left : fgetsRest n stream = afterFirst endsLine stream := by
          have together := throughFirst_append_afterFirst endsLine stream
          unfold fgetsRest
          rw [whole]
          nth_rewrite 2 [← together]
          exact List.drop_left
        have shorter := fgetsRest_length_lt readable empty
        rw [fgetsLines_cons readable empty, whole, left]
        rw [left] at shorter
        congr 1
        exact inductionHypothesis _ (bound ▸ shorter)
          (fun line member => short line (List.mem_cons_of_mem _ member)) rfl

theorem fgetsBytes_head? (readable : 2 ≤ n) : (fgetsBytes n stream).head? = stream.head? := by
  by_cases empty : stream = []
  · simp [empty, fgetsBytes]
  · have nonempty := fgetsBytes_ne_nil readable empty
    have together := congrArg List.head? (fgetsBytes_append_fgetsRest n stream)
    rw [List.head?_append_of_ne_nil _ nonempty] at together
    exact together

theorem strlen_fgets_pos_iff {size : Nat} {buffer filled : Vector Byte size} {stream rest : List Byte}
    (readable : 2 ≤ size) (read : fgets buffer stream = some (filled, rest)) :
    0 < (stringIn filled).strlen <-> stream.head? ≠ some 0 := by
  rcases fgets_eq_some (by omega) read with ⟨nonempty, string, _⟩
  unfold CString.strlen
  rw [string, ← fgetsBytes_head? readable]
  cases taken : fgetsBytes size stream with
  | nil => exact absurd taken (fgetsBytes_ne_nil readable nonempty)
  | cons first others =>
      unfold cString
      rw [List.takeWhile_cons, List.head?_cons]
      by_cases zero : first = 0
      · simp [zero]
      · simp [zero]

theorem strlen_le_size {size : Nat} (buffer : Vector Byte size) : (stringIn buffer).strlen ≤ size := by
  have within := (List.takeWhile_prefix (p := fun byte => byte != 0) (l := buffer.toList)).length_le
  rw [Vector.length_toList] at within
  exact within

theorem lastIndex_of_pos {size : Nat} {buffer : Vector Byte size} (fits : size ≤ SSIZE_MAX)
    (nonempty : 0 < (stringIn buffer).strlen) :
    lastIndex buffer = (stringIn buffer).strlen - 1 := by
  have short := strlen_le_size buffer
  have converted : (toSizeT (((stringIn buffer).strlen : Int) - 1) : Int) = _ :=
    toSizeT_of_range (by omega) (by omega)
  unfold lastIndex
  omega

/-- The index lies in the buffer exactly if there is a character.  For an empty string
the subtraction wraps around. -/
theorem lastIndex_lt_iff {size : Nat} {buffer : Vector Byte size} (fits : size ≤ SSIZE_MAX) :
    lastIndex buffer < size <-> 0 < (stringIn buffer).strlen := by
  constructor
  · intro inside
    by_contra empty
    have zero : (stringIn buffer).strlen = 0 := by omega
    unfold lastIndex at inside
    rw [zero] at inside
    have wrapped : toSizeT (((0 : Nat) : Int) - 1) = 18446744073709551615 := by decide
    unfold SSIZE_MAX at fits
    omega
  · intro nonempty
    have short := strlen_le_size buffer
    rw [lastIndex_of_pos fits nonempty]
    omega

end CLibrary
end Tlpi
