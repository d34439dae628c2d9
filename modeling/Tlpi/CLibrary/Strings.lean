import Mathlib.Data.List.TakeWhile
import Tlpi.CLibrary.Memory

namespace Tlpi
namespace CLibrary

/-!
# Strings and the buffers that they are copied into

A C string is a sequence of bytes none of which is null; the null byte that ends
it is not part of it.  A buffer has a fixed size and may hold anything.  What a
caller wants of a buffer that was filled for it is that a given string stands at
its start with the terminating null byte behind it: the whole string, and an end.
-/

structure CString where
  bytes : List Byte
  nullFree : forall byte, byte ∈ bytes -> byte ≠ 0
deriving DecidableEq

namespace CString

def strlen (string : CString) : Nat := string.bytes.length

@[ext] theorem ext {first second : CString} (same : first.bytes = second.bytes) :
    first = second := by
  cases first
  cases second
  cases same
  rfl

end CString

/-- `strncpy(dest, src, n)` for `n` not above the size of the buffer: as much of
the string as goes into `n` bytes, and null bytes behind it up to `n` bytes. -/
def strncpy {size : Nat} (dest : Vector Byte size) (src : CString) (n : Nat) :
    Vector Byte size :=
  Vector.ofFn (fun index =>
    if index.val < n then (src.bytes[index.val]?).getD 0 else dest.get index)

theorem nullFree_of_all {bytes : List Byte} (checked : bytes.all (fun byte => byte != 0) = true) :
    forall byte, byte ∈ bytes -> byte ≠ 0 := by
  intro byte member
  exact bne_iff_ne.mp (List.all_eq_true.mp checked byte member)

theorem cString_nullFree (bytes : List Byte) (byte : Byte) (member : byte ∈ cString bytes) :
    byte ≠ 0 := by
  unfold cString at member
  have kept := List.mem_takeWhile_imp member
  exact bne_iff_ne.mp kept

/-- The string that starts a buffer.  The buffer has to hold a null byte for the
functions of the C library to see the same. -/
def stringIn {size : Nat} (buffer : Vector Byte size) : CString :=
  ⟨cString buffer.toList, cString_nullFree buffer.toList⟩

/-- A buffer starts with the complete string and its terminating null byte. -/
def Holds {size : Nat} (buffer : Vector Byte size) (string : CString) : Prop :=
  string.bytes ++ [0] <+: buffer.toList

/-- The buffer after a read has put bytes at its start.  Bytes that do not fit are
lost, and behind a short read the old ones stay. -/
@[irreducible] def fill {size : Nat} (buffer : Vector Byte size) (bytes : List Byte) : Vector Byte size :=
  Vector.ofFn (fun index => (bytes[index.val]?).getD (buffer.get index))

def contents {size : Nat} (buffer : Vector Byte size) (count : Nat) : List Byte :=
  buffer.toList.take count

/-- `strchr(string, c)`: where the character first stands.  The terminating null
byte counts as part of the string. -/
def strchr (string : List Byte) (c : Byte) : Option Nat :=
  (string ++ [0]).findIdx? (fun byte => byte == c)

theorem strchr_eq_none_iff (string : List Byte) (c : Byte) :
    strchr string c = none <-> c ∉ string ∧ c ≠ 0 := by
  unfold strchr
  rw [List.findIdx?_eq_none_iff]
  constructor
  · intro absent
    constructor
    · intro member
      have differs := absent c (List.mem_append_left _ member)
      exact absurd differs (by simp)
    · intro zero
      have differs := absent 0 (List.mem_append_right _ (List.mem_singleton_self 0))
      exact absurd differs (by simp [zero])
  · rintro ⟨absent, notZero⟩ byte member
    rcases List.mem_append.mp member with inside | last
    · exact beq_eq_false_iff_ne.mpr (fun same => absent (same ▸ inside))
    · rw [List.mem_singleton.mp last]
      exact beq_eq_false_iff_ne.mpr notZero.symm

theorem cString_append_zero (bytes rest : List Byte) :
    cString (bytes ++ 0 :: rest) = cString bytes := by
  unfold cString
  rw [List.takeWhile_append]
  split
  · rename_i complete
    rw [(List.takeWhile_prefix _).eq_of_length complete]
    simp
  · rfl

theorem cString_set_zero (bytes : List Byte) (index : Nat) :
    cString (bytes.set index 0) = (cString bytes).take index := by
  induction bytes generalizing index with
  | nil => simp [cString]
  | cons head tail inductionHypothesis =>
      unfold cString at inductionHypothesis ⊢
      cases index with
      | zero => simp
      | succ index =>
          rw [List.set_cons_succ, List.takeWhile_cons, List.takeWhile_cons]
          split
          · rw [List.take_succ_cons, inductionHypothesis]
          · rfl

variable {size : Nat} {buffer : Vector Byte size} {string : CString}

theorem contents_fill (buffer : Vector Byte size) (bytes : List Byte) :
    contents (fill buffer bytes) (min bytes.length size) = bytes.take size := by
  unfold contents fill
  rw [Vector.toList_ofFn]
  apply List.ext_getElem
  · simp [Nat.min_comm]
  · intro index inBuffer inBytes
    have bound : index < bytes.length := by
      rw [List.length_take] at inBytes
      omega
    simp [bound]

theorem contents_fill_of_le (buffer : Vector Byte size) {bytes : List Byte}
    (fits : bytes.length ≤ size) : contents (fill buffer bytes) bytes.length = bytes := by
  have filled := contents_fill buffer bytes
  rw [Nat.min_eq_left fits, List.take_of_length_le fits] at filled
  exact filled

/-- Bytes that fit stand at the start of the buffer that they were read into. -/
theorem prefix_fill (buffer : Vector Byte size) {bytes : List Byte} (fits : bytes.length ≤ size) :
    bytes <+: (fill buffer bytes).toList := by
  have start : contents (fill buffer bytes) bytes.length <+: (fill buffer bytes).toList :=
    List.take_prefix _ _
  rw [contents_fill_of_le buffer fits] at start
  exact start

/-- A buffer that bytes and a null byte were read into starts with those bytes, up
to the first null byte among them. -/
theorem stringIn_fill (buffer : Vector Byte size) {bytes : List Byte} (fits : bytes.length < size) :
    (stringIn (fill buffer (bytes ++ [0]))).bytes = cString bytes := by
  have length : (bytes ++ [0]).length = bytes.length + 1 := List.length_append
  have start : bytes ++ [0] <+: (fill buffer (bytes ++ [0])).toList := prefix_fill buffer (by omega)
  rcases start with ⟨rest, split⟩
  change cString _ = _
  rw [← split, List.append_assoc, List.singleton_append, cString_append_zero]

/-- Inside the string, the buffer holds the bytes of the string. -/
theorem getElem?_of_lt_strlen {index : Nat} (inside : index < (stringIn buffer).strlen) :
    buffer[index]? = (stringIn buffer).bytes[index]? := by
  have isPrefix : (stringIn buffer).bytes <+: buffer.toList := List.takeWhile_prefix _
  have same := List.prefix_iff_getElem?.mp isPrefix index inside
  rw [Vector.getElem?_toList] at same
  rw [same]
  exact (List.getElem?_eq_getElem inside).symm

/-- Behind a string that ends before its buffer stands a null byte. -/
theorem getElem?_strlen (room : (stringIn buffer).strlen < size) :
    buffer[(stringIn buffer).strlen]? = some 0 := by
  have isFirst : (stringIn buffer).strlen = buffer.toList.findIdx (fun byte => !(byte != 0)) := by
    have cut : buffer.toList.takeWhile (fun byte => byte != 0) = _ := List.takeWhile_eq_take_findIdx_not
    have taken := congrArg List.length cut
    have bound : buffer.toList.findIdx (fun byte => !(byte != 0)) ≤ buffer.toList.length :=
      List.findIdx_le_length
    rw [List.length_take, Nat.min_eq_left bound] at taken
    exact taken
  have inside : buffer.toList.findIdx (fun byte => !(byte != 0)) < buffer.toList.length := by
    rw [← isFirst, Vector.length_toList]
    exact room
  have stops := List.findIdx_getElem (w := inside)
  rw [isFirst, ← Vector.getElem?_toList, List.getElem?_eq_getElem inside]
  simpa using stops

/-- A null byte stored in a buffer ends the string there. -/
theorem stringIn_setIfInBounds (buffer : Vector Byte size) (index : Nat) :
    (stringIn (buffer.setIfInBounds index 0)).bytes = (stringIn buffer).bytes.take index := by
  change cString _ = (cString _).take index
  rw [Vector.toList_setIfInBounds, cString_set_zero]

/-- The string that starts a buffer is the one that the buffer holds. -/
theorem Holds.stringIn_eq (holds : Holds buffer string) : stringIn buffer = string := by
  rcases holds with ⟨rest, contents⟩
  have kept : forall byte, byte ∈ string.bytes -> (byte != 0) = true := by
    intro byte member
    exact bne_iff_ne.mpr (string.nullFree byte member)
  ext1
  change cString buffer.toList = string.bytes
  rw [← contents, cString, List.append_assoc, List.takeWhile_append_of_pos kept]
  simp

/-- A copy of all bytes that a buffer has room for holds the string, if the
string fits. -/
theorem holds_strncpy (dest : Vector Byte size) (fits : string.strlen < size) :
    Holds (strncpy dest string size) string := by
  apply List.prefix_iff_getElem?.mpr
  intro index inside
  have bound : index < size := by
    rw [List.length_append] at inside
    exact Nat.lt_of_lt_of_le inside fits
  rw [List.getElem?_eq_getElem (by simpa using bound)]
  simp only [strncpy, Vector.getElem_toList, Vector.getElem_ofFn, if_pos bound, List.getElem_append]
  split
  · rename_i early
    rw [List.getElem?_eq_getElem early, Option.getD_some]
  · rename_i late
    rw [List.getElem?_eq_none (Nat.le_of_not_lt late), Option.getD_none]
    simp

/-- A copy into all but the last byte of a cleared buffer is a copy into the
whole buffer, if the string fits. -/
theorem strncpy_cleared (fits : string.strlen < size) :
    strncpy (Vector.replicate size 0) string (size - 1) =
      strncpy (Vector.replicate size 0) string size := by
  unfold strncpy
  congr 1
  funext index
  rw [if_pos index.isLt]
  split
  · rfl
  · rename_i last
    have beyond : string.bytes.length ≤ index.val := by
      unfold CString.strlen at fits
      omega
    rw [List.getElem?_eq_none beyond, Option.getD_none]
    simp [Vector.get]

end CLibrary
end Tlpi
