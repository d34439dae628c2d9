import Tlpi.CLibrary.Strings
import Tlpi.CLibrary.Strtol

namespace Tlpi
namespace ThreadSafeSpecific

open CLibrary Foundations

/-!
# `strerror` with one static buffer

The function copies the message for an error number into a buffer and returns the
buffer.  A number without a message gets a text with the number in it.  The versions
for several threads have the same text and differ in where the buffer comes from.
-/

def MAX_ERROR_LEN : Nat := 256

/-- The values of type `int`. -/
abbrev CInt := { value : Int // INT_MIN ≤ value ∧ value ≤ INT_MAX }

/-- `_sys_errlist`, which has `_sys_nerr` entries, some of them null. -/
structure ErrorTable where
  sys_errlist : List (Option CString)
deriving DecidableEq

def ErrorTable.sys_nerr (table : ErrorTable) : Int := table.sys_errlist.length

/-- The entry for an error number, unless the number is out of range or the entry is
null. -/
def ErrorTable.message (table : ErrorTable) (err : CInt) : Option CString :=
  if err.val < 0 ∨ table.sys_nerr ≤ err.val then none
  else (table.sys_errlist[err.val.toNat]?).join

abbrev Buffer := Vector Byte MAX_ERROR_LEN

/-- `snprintf(buf, MAX_ERROR_LEN, "Unknown error %d", err)`. -/
def unknownError (buf : Buffer) (err : CInt) : Buffer :=
  fill buf (snprintf MAX_ERROR_LEN (ascii "Unknown error " ++ renderInt err.val) ++ [0])

/-- `strncpy(buf, msg, MAX_ERROR_LEN - 1)`. -/
def copyMessage (buf : Buffer) (msg : CString) : Buffer := strncpy buf msg (MAX_ERROR_LEN - 1)

/-- `buf[MAX_ERROR_LEN - 1] = '\0'`. -/
def terminateMessage (buf : Buffer) : Buffer := buf.setIfInBounds (MAX_ERROR_LEN - 1) 0

/-- `strerror(err)`: what it leaves in the buffer that it returns. -/
def strerror (table : ErrorTable) (buf : Buffer) (err : CInt) : Buffer :=
  match table.message err with
  | none => unknownError buf err
  | some msg => terminateMessage (copyMessage buf msg)

/-- The text for a number without a message. -/
def unknownText (err : CInt) : CString where
  bytes := ascii "Unknown error " ++ renderInt err.val
  nullFree := by
    intro byte member
    rcases List.mem_append.mp member with label | number
    · have checked : (ascii "Unknown error ").all (fun byte => byte != 0) = true := by decide
      exact nullFree_of_all checked byte label
    · rcases mem_renderInt number with minus | digit
      · rw [minus]
        decide
      · intro zero
        rw [zero] at digit
        exact absurd digit (by decide)

/-- A message, cut to what a buffer has room for. -/
def cutText (msg : CString) : CString where
  bytes := msg.bytes.take (MAX_ERROR_LEN - 1)
  nullFree := fun byte member => msg.nullFree byte (List.mem_of_mem_take member)

/-- The string for an error number. -/
def messageFor (table : ErrorTable) (err : CInt) : CString :=
  match table.message err with
  | none => unknownText err
  | some msg => cutText msg

/-- The text for a number without a message fits. -/
theorem unknownText_length (err : CInt) : (unknownText err).bytes.length < MAX_ERROR_LEN := by
  have range := err.property
  have bounded : err.val.natAbs < 10 ^ 10 := by
    unfold INT_MIN INT_MAX at range
    omega
  have digits := renderInt_length_le (by decide) bounded
  have label : (ascii "Unknown error ").length = 14 := by decide
  change (ascii "Unknown error " ++ renderInt err.val).length < 256
  rw [List.length_append]
  omega

theorem holds_unknownError (buf : Buffer) (err : CInt) :
    Holds (unknownError buf err) (unknownText err) := by
  have fits := unknownText_length err
  have uncut : snprintf MAX_ERROR_LEN (ascii "Unknown error " ++ renderInt err.val) =
      (unknownText err).bytes := by
    apply List.take_of_length_le
    change (unknownText err).bytes.length ≤ _
    omega
  unfold unknownError
  rw [uncut]
  exact prefix_fill buf (by rw [List.length_append]; exact fits)

/-- A copied message whose last byte is made null is the cut message. -/
theorem holds_terminateMessage (buf : Buffer) (msg : CString) :
    Holds (terminateMessage (copyMessage buf msg)) (cutText msg) := by
  have size : MAX_ERROR_LEN = 256 := rfl
  apply List.prefix_iff_getElem?.mpr
  intro index inside
  have bound : index < MAX_ERROR_LEN := by
    have short : (msg.bytes.take (MAX_ERROR_LEN - 1)).length ≤ MAX_ERROR_LEN - 1 := List.length_take_le _ _
    rw [List.length_append] at inside
    change index < (msg.bytes.take (MAX_ERROR_LEN - 1)).length + 1 at inside
    omega
  rw [Vector.getElem?_toList]
  unfold terminateMessage
  by_cases last : index = MAX_ERROR_LEN - 1
  · have full : (cutText msg).bytes.length = index := by
      have short : (cutText msg).bytes.length ≤ MAX_ERROR_LEN - 1 := List.length_take_le _ _
      rw [List.length_append, List.length_singleton] at inside
      omega
    subst last
    rw [Vector.getElem?_setIfInBounds_self_of_lt (by omega), List.getElem_append_right (by omega)]
    simp
  · have early : index < MAX_ERROR_LEN - 1 := by omega
    rw [Vector.getElem?_setIfInBounds_ne (Ne.symm last), Vector.getElem?_eq_getElem bound]
    simp only [copyMessage, strncpy, Vector.getElem_ofFn, if_pos early, List.getElem_append]
    split
    · rename_i inText
      have inMessage : index < msg.bytes.length := by
        unfold cutText at inText
        rw [List.length_take] at inText
        omega
      rw [List.getElem?_eq_getElem inMessage, Option.getD_some]
      simp [cutText]
    · rename_i behind
      have outside : msg.bytes.length ≤ index := by
        unfold cutText at behind
        rw [List.length_take] at behind
        omega
      rw [List.getElem?_eq_none outside, Option.getD_none]
      simp

/-- Whatever the buffer held before, afterwards it holds the string for the number. -/
theorem holds_strerror (table : ErrorTable) (buf : Buffer) (err : CInt) :
    Holds (strerror table buf err) (messageFor table err) := by
  unfold strerror messageFor
  cases table.message err with
  | none => exact holds_unknownError buf err
  | some msg => exact holds_terminateMessage buf msg

end ThreadSafeSpecific
end Tlpi
