import Mathlib.Data.List.Basic

namespace Tlpi
namespace Foundations

universe u

/-!
# Streams, and loops that copy one stream to another

A stream holds the items that have been written to it and not yet read, in order,
and whether its writing end has been closed.  A read returns some of the items,
from one up to the size of the buffer, waits while there are none, and returns
nothing at the end.  A copying loop reads what it can into a buffer, writes the
buffer out in pieces of any size, and stops at the end of its source.

The order in which items leave a chain of such loops is the order in which they
entered it.  What is written, held in a buffer, and not yet read is one list that
no step of the loop changes.
-/

/-- A stream: the items not yet read, and whether the writing end is closed. -/
structure Channel (Item : Type u) where
  contents : List Item
  closed : Bool
deriving DecidableEq, Repr

namespace Channel

variable {Item : Type u}

/-- A read of up to `size` items, of which `amount` are returned.  It returns
nothing at the end of the stream and has no answer while it waits. -/
def read (channel : Channel Item) (size amount : Nat) : Option (List Item × Channel Item) :=
  match channel.contents with
  | [] => if channel.closed then some ([], channel) else none
  | _ :: _ =>
      if 0 < amount ∧ amount ≤ size ∧ amount ≤ channel.contents.length then
        some (channel.contents.take amount, { channel with contents := channel.contents.drop amount })
      else none

def write (channel : Channel Item) (items : List Item) : Channel Item :=
  { channel with contents := channel.contents ++ items }

def close (channel : Channel Item) : Channel Item := { channel with closed := true }

@[simp] theorem write_contents (channel : Channel Item) (items : List Item) :
    (channel.write items).contents = channel.contents ++ items := rfl

/-- What a read can return: the end of a closed stream, or some items from its
front. -/
theorem read_eq_some {channel rest : Channel Item} {size amount : Nat} {chunk : List Item}
    (received : channel.read size amount = some (chunk, rest)) :
    (chunk = [] ∧ channel.contents = [] ∧ channel.closed = true ∧ rest = channel) ∨
      (chunk ≠ [] ∧ chunk.length = amount ∧ amount ≤ size ∧
        channel.contents = chunk ++ rest.contents ∧ rest.closed = channel.closed) := by
  unfold read at received
  split at received
  · rename_i empty
    split at received
    · rename_i closed
      cases received
      exact .inl ⟨rfl, empty, closed, rfl⟩
    · cases received
  · split at received
    · rename_i bounds
      rcases bounds with ⟨positive, fits, available⟩
      cases received
      have length : (channel.contents.take amount).length = amount :=
        List.length_take_of_le available
      refine .inr ⟨?_, length, fits, (List.take_append_drop amount channel.contents).symm, rfl⟩
      intro empty
      rw [empty] at length
      exact absurd length (Nat.ne_of_lt positive)
    · cases received

/-- What a read returns, followed by what it leaves, is what there was. -/
theorem read_contents {channel rest : Channel Item} {size amount : Nat} {chunk : List Item}
    (received : channel.read size amount = some (chunk, rest)) :
    channel.contents = chunk ++ rest.contents := by
  rcases read_eq_some received with ⟨rfl, -, -, rfl⟩ | ⟨-, -, -, contents, -⟩
  · rfl
  · exact contents

end Channel

/-- The positions of a copying loop: in front of a read, with a rest of the buffer
to be written, and behind the loop. -/
inductive CopyPc (Item : Type u) where
  | reading
  | writing (rest : List Item)
  | finished
deriving DecidableEq, Repr

namespace CopyPc

variable {Item : Type u}

/-- The items in the buffer that have not been written. -/
def held : CopyPc Item -> List Item
  | .reading => []
  | .writing rest => rest
  | .finished => []

/-- The position behind a read. -/
def received (chunk : List Item) : CopyPc Item :=
  if chunk.isEmpty then .finished else .writing chunk

/-- The position behind a write. -/
def remaining (rest : List Item) : CopyPc Item :=
  if rest.isEmpty then .reading else .writing rest

@[simp] theorem held_remaining (rest : List Item) : (remaining rest).held = rest := by
  cases rest <;> rfl

theorem remaining_ne_finished (rest : List Item) : remaining rest ≠ .finished := by
  cases rest <;> exact fun impossible => by cases impossible

/-- What one step of a loop leaves: its position, its source, and the items that
it has written. -/
structure Moved (Item : Type u) where
  pc : CopyPc Item
  source : Channel Item
  written : List Item
deriving DecidableEq, Repr

/-- One step of a loop with a buffer of a given size. -/
def step (size : Nat) (pc : CopyPc Item) (source : Channel Item) (amount : Nat) :
    Option (Moved Item) :=
  match pc with
  | .reading =>
      (source.read size amount).map (fun (chunk, source) => ⟨received chunk, source, []⟩)
  | .writing rest =>
      if 0 < amount ∧ amount ≤ rest.length then
        some ⟨remaining (rest.drop amount), source, rest.take amount⟩
      else none
  | .finished => none

variable {size amount : Nat} {pc : CopyPc Item} {source : Channel Item} {moved : Moved Item}

/-- What a step can do: find the end of the source, read from its front, or write
the front of the buffer. -/
theorem step_cases (stepped : pc.step size source amount = some moved) :
    (pc = .reading ∧ source.contents = [] ∧ source.closed = true ∧
      moved = ⟨.finished, source, []⟩) ∨
    (Exists fun chunk => Exists fun rest : Channel Item => pc = .reading ∧
      source.contents = chunk ++ rest.contents ∧ rest.closed = source.closed ∧
      moved = ⟨.writing chunk, rest, []⟩) ∨
    (Exists fun piece => Exists fun rest => pc = .writing (piece ++ rest) ∧
      moved = ⟨remaining rest, source, piece⟩) := by
  cases pc with
  | reading =>
      rcases Option.map_eq_some_iff.mp stepped with ⟨⟨chunk, rest⟩, found, rfl⟩
      rcases Channel.read_eq_some found with
        ⟨rfl, empty, closed, rfl⟩ | ⟨nonempty, -, -, contents, closed⟩
      · exact .inl ⟨rfl, empty, closed, rfl⟩
      · cases chunk with
        | nil => exact absurd rfl nonempty
        | cons first others => exact .inr (.inl ⟨first :: others, rest, rfl, contents, closed, rfl⟩)
  | writing rest =>
      simp only [step] at stepped
      split at stepped
      · cases stepped
        refine .inr (.inr ⟨rest.take amount, rest.drop amount, ?_, rfl⟩)
        rw [List.take_append_drop]
      · cases stepped
  | finished => cases stepped

/-- A step moves items along and keeps their order. -/
theorem step_conserves (stepped : pc.step size source amount = some moved) :
    moved.written ++ moved.pc.held ++ moved.source.contents = pc.held ++ source.contents := by
  rcases step_cases stepped with
    ⟨rfl, -, -, rfl⟩ | ⟨chunk, rest, rfl, contents, -, rfl⟩ | ⟨piece, rest, rfl, rfl⟩
  · rfl
  · rw [contents]
    rfl
  · rw [held_remaining]
    rfl

theorem step_closed (stepped : pc.step size source amount = some moved) :
    moved.source.closed = source.closed := by
  rcases step_cases stepped with ⟨-, -, -, rfl⟩ | ⟨_, _, -, -, closed, rfl⟩ | ⟨_, _, -, rfl⟩
  · rfl
  · exact closed
  · rfl

/-- A loop that finishes has found the end of its source, and has written
nothing more. -/
theorem step_finished (stepped : pc.step size source amount = some moved)
    (finished : moved.pc = .finished) :
    moved.source.contents = [] ∧ moved.source.closed = true ∧ moved.written = [] := by
  rcases step_cases stepped with ⟨-, empty, closed, rfl⟩ | ⟨_, _, -, -, -, rfl⟩ | ⟨_, _, -, rfl⟩
  · exact ⟨empty, closed, rfl⟩
  · cases finished
  · exact absurd finished (remaining_ne_finished _)

theorem step_running (stepped : pc.step size source amount = some moved) : pc ≠ .finished := by
  rintro rfl
  cases stepped

end CopyPc

end Foundations
end Tlpi
