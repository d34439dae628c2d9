import Tlpi.CLibrary.Strings

namespace Tlpi
namespace CLibrary

/-!
# Strings in memory

A pointer to a string is an address in a block with some room from there on.  A string is
taken apart in place by writing null bytes over the characters that separate its parts.
Each part is then a string of its own.
-/

/-- The string that starts at an address with some room behind it. -/
def stringAt (memory : Memory) (address room : Nat) : List Byte :=
  cString (load memory address room)

/-- `ptr = strchr(address, mark); if (ptr != NULL) *ptr = '\0';`, with the place of the
mark in the string. -/
def cutAt (memory : Memory) (address room : Nat) (mark : Byte) : Option Nat × Memory :=
  match strchr (stringAt memory address room) mark with
  | some offset => (some offset, store memory (address + offset) [0])
  | none => (none, memory)

/-- A string and its terminating null byte are in memory from an address on. -/
structure HasString (memory : Memory) (address : Nat) (bytes : List Byte) : Prop where
  nullFree : forall byte, byte ∈ bytes -> byte ≠ 0
  placed : load memory address (bytes.length + 1) = bytes ++ [0]

theorem load_congr {before after : Memory} {address count : Nat}
    (same : forall location, address ≤ location -> location < address + count ->
      after location = before location) : load after address count = load before address count := by
  apply List.map_congr_left
  intro offset member
  have below := List.mem_range.mp member
  exact same (address + offset) (by omega) (by omega)

/-- A character that is not in the first part of a string is found behind it. -/
theorem strchr_append {front : List Byte} {mark : Byte} (absent : mark ∉ front)
    (rest : List Byte) : strchr (front ++ mark :: rest) mark = some front.length := by
  have notFound : front.findIdx? (fun byte => byte == mark) = none := by
    rw [List.findIdx?_eq_none_iff]
    intro byte member
    exact beq_eq_false_iff_ne.mpr (fun same => absent (same ▸ member))
  unfold strchr
  rw [List.append_assoc, List.findIdx?_append, notFound, List.cons_append, List.findIdx?_cons]
  simp

namespace HasString

variable {memory after : Memory} {address room : Nat} {bytes front rest : List Byte} {mark : Byte}

theorem of_store (memory : Memory) (address : Nat) {bytes : List Byte}
    (nullFree : forall byte, byte ∈ bytes -> byte ≠ 0) :
    HasString (store memory address (bytes ++ [0])) address bytes := by
  refine ⟨nullFree, ?_⟩
  have length : bytes.length + 1 = (bytes ++ [0]).length := by
    rw [List.length_append, List.length_singleton]
  rw [length, load_store memory address _ _ (Nat.le_refl _), List.take_length]

/-- The functions of the C library see the string. -/
theorem stringAt_eq (has : HasString memory address bytes) (fits : bytes.length < room) :
    stringAt memory address room = bytes := by
  have split : room = bytes.length + 1 + (room - (bytes.length + 1)) := by omega
  have kept : forall byte, byte ∈ bytes -> (byte != 0) = true := by
    intro byte member
    exact bne_iff_ne.mpr (has.nullFree byte member)
  unfold stringAt
  rw [split, load_append, has.placed, List.append_assoc, List.singleton_append, cString_append_zero]
  exact List.takeWhile_eq_self_iff.mpr kept

/-- The frame of a string: nothing else in memory matters to it. -/
theorem frame (has : HasString memory address bytes)
    (same : forall location, address ≤ location -> location < address + (bytes.length + 1) ->
      after location = memory location) : HasString after address bytes :=
  ⟨has.nullFree, (load_congr same).trans has.placed⟩

/-- The part of a string behind a character. -/
theorem behind (has : HasString memory address (front ++ mark :: rest)) :
    HasString memory (address + front.length + 1) rest := by
  refine ⟨fun byte member => has.nullFree byte (by simp [member]), ?_⟩
  have placed := has.placed
  have length : (front ++ mark :: rest).length + 1 = (front.length + 1) + (rest.length + 1) := by
    rw [List.length_append, List.length_cons]
    omega
  have parts : front ++ mark :: rest ++ [0] = (front ++ [mark]) ++ (rest ++ [0]) := by simp
  rw [length, load_append, parts] at placed
  exact (List.append_inj placed (by simp)).2

/-- The part of a string in front of a character that is overwritten. -/
theorem inFront (has : HasString memory address (front ++ mark :: rest)) :
    HasString (store memory (address + front.length) [0]) address front := by
  refine ⟨fun byte member => has.nullFree byte (List.mem_append_left _ member), ?_⟩
  have placed := has.placed
  have length : (front ++ mark :: rest).length + 1 = front.length + (rest.length + 2) := by
    rw [List.length_append, List.length_cons]
    omega
  rw [length, load_append, List.append_assoc] at placed
  have first := (List.append_inj placed (by simp)).1
  have kept : load (store memory (address + front.length) [0]) address front.length = front := by
    refine Eq.trans (load_congr ?_) first
    intro location _ below
    exact store_outside memory _ _ _ (Or.inl below)
  rw [load_append, kept, load_store memory _ _ _ (Nat.le_refl 1)]
  rfl

/-- Cutting a string at a character that is in it. -/
theorem cutAt_mark (has : HasString memory address (front ++ mark :: rest)) (absent : mark ∉ front)
    (fits : (front ++ mark :: rest).length < room) :
    cutAt memory address room mark =
      (some front.length, store memory (address + front.length) [0]) := by
  unfold cutAt
  rw [has.stringAt_eq fits, strchr_append absent]

theorem cutAt_absent (has : HasString memory address bytes) (absent : mark ∉ bytes)
    (notNull : mark ≠ 0) (fits : bytes.length < room) :
    cutAt memory address room mark = (none, memory) := by
  unfold cutAt
  rw [has.stringAt_eq fits, (strchr_eq_none_iff bytes mark).mpr ⟨absent, notNull⟩]

end HasString

end CLibrary
end Tlpi
