import Mathlib.Data.List.Basic

namespace Tlpi
namespace CLibrary

/-!
# Byte-addressed memory

A C object is a range of a byte-addressed memory.  A function that fills a
caller's buffer returns the memory it leaves, so that a statement can say both
what the buffer holds and that every other address is as before.
-/

abbrev Byte := UInt8

abbrev Memory := Nat -> Byte

/-- The byte `'\n'`. -/
def newline : Byte := 10

/-- Write consecutive bytes from an address on. -/
def store (memory : Memory) (address : Nat) (bytes : List Byte) : Memory :=
  fun location =>
    if address ≤ location then (bytes[location - address]?).getD (memory location)
    else memory location

/-- Read consecutive bytes from an address on. -/
def load (memory : Memory) (address count : Nat) : List Byte :=
  (List.range count).map (fun offset => memory (address + offset))

/-- The C string in a buffer: its bytes before the first null byte. -/
def cString (bytes : List Byte) : List Byte :=
  bytes.takeWhile (fun byte => byte != 0)

@[simp] theorem load_length (memory : Memory) (address count : Nat) :
    (load memory address count).length = count := by
  simp [load]

theorem load_append (memory : Memory) (address first second : Nat) :
    load memory address (first + second) =
      load memory address first ++ load memory (address + first) second := by
  unfold load
  rw [List.range_add, List.map_append, List.map_map]
  congr 1
  apply List.map_congr_left
  intro offset _
  simp only [Function.comp_apply, Nat.add_assoc]

theorem load_take (memory : Memory) (address count amount : Nat) (within : amount ≤ count) :
    (load memory address count).take amount = load memory address amount := by
  have split : count = amount + (count - amount) := by omega
  rw [split, load_append, List.take_left' (load_length memory address amount)]

@[simp] theorem store_nil (memory : Memory) (address : Nat) : store memory address [] = memory := by
  funext location
  simp [store]

/-- The frame of a store: every address outside the written range is unchanged. -/
theorem store_outside (memory : Memory) (address : Nat) (bytes : List Byte) (location : Nat)
    (outside : location < address ∨ address + bytes.length ≤ location) :
    store memory address bytes location = memory location := by
  unfold store
  split
  · rename_i above
    have beyond : bytes.length ≤ location - address := by omega
    rw [List.getElem?_eq_none beyond, Option.getD_none]
  · rfl

theorem store_inside (memory : Memory) (address : Nat) (bytes : List Byte) (offset : Nat)
    (inside : offset < bytes.length) :
    store memory address bytes (address + offset) = bytes[offset] := by
  unfold store
  rw [if_pos (Nat.le_add_right address offset), Nat.add_sub_cancel_left,
    List.getElem?_eq_getElem inside, Option.getD_some]

theorem store_append (memory : Memory) (address : Nat) (first second : List Byte) :
    store (store memory address first) (address + first.length) second =
      store memory address (first ++ second) := by
  funext location
  by_cases below : location < address
  · rw [store_outside _ _ _ _ (Or.inl (by omega)), store_outside _ _ _ _ (Or.inl below),
      store_outside _ _ _ _ (Or.inl below)]
  · by_cases early : location < address + first.length
    · have split : location = address + (location - address) := by omega
      rw [store_outside _ _ _ _ (Or.inl early), split,
        store_inside _ _ _ _ (by omega), store_inside _ _ _ _ (by rw [List.length_append]; omega),
        List.getElem_append_left (by omega)]
    · by_cases late : address + first.length + second.length ≤ location
      · rw [store_outside _ _ _ _ (Or.inr late), store_outside _ _ _ _ (Or.inr (by omega)),
          store_outside _ _ _ _ (Or.inr (by rw [List.length_append]; omega))]
      · have split : location = address + first.length + (location - address - first.length) := by
          omega
        rw [split, store_inside _ _ _ _ (by omega), Nat.add_assoc,
          store_inside _ _ _ _ (by rw [List.length_append]; omega),
          List.getElem_append_right (by omega)]
        congr 1
        omega

/-- Loading from a store's own address returns the stored bytes, in order. -/
theorem load_store (memory : Memory) (address count : Nat) (bytes : List Byte)
    (fits : count ≤ bytes.length) :
    load (store memory address bytes) address count = bytes.take count := by
  apply List.ext_getElem
  · simp [fits]
  · intro index inLoad inBytes
    have inside : index < bytes.length := by
      rw [load_length] at inLoad
      omega
    simp only [load, List.getElem_map, List.getElem_range, List.getElem_take]
    exact store_inside memory address bytes index inside

/-- The string in a buffer into which null-free bytes and a null byte were
stored is those bytes. -/
theorem cString_load_store (memory : Memory) (address count : Nat) (bytes : List Byte)
    (fits : bytes.length < count) (nullFree : forall byte, byte ∈ bytes -> byte ≠ 0) :
    cString (load (store memory address (bytes ++ [0])) address count) = bytes := by
  have length : (bytes ++ [0]).length = bytes.length + 1 := List.length_append
  have split : count = (bytes ++ [0]).length + (count - (bytes.length + 1)) := by omega
  have kept : forall byte, byte ∈ bytes -> (byte != 0) = true := by
    intro byte member
    exact bne_iff_ne.mpr (nullFree byte member)
  rw [split, load_append, load_store _ _ _ _ (Nat.le_refl _), List.take_length, List.append_assoc,
    cString, List.takeWhile_append_of_pos kept, List.singleton_append, List.takeWhile_cons]
  simp

end CLibrary
end Tlpi
