import Mathlib.Data.List.Basic

namespace Tlpi
namespace CLibrary

universe u

/-!
# FIFOs

A FIFO has a read end and a write end, each of which any number of processes may
hold.  Opening one end blocks until the other is opened: the opener is counted
from the moment it calls `open`, and goes on when the other end is held, or has
been opened in the meantime and closed again.  The kernel keeps a count of the
opens of each end for that purpose.  What is written stays until it is read, or
until neither end is held.
-/

/-- A FIFO that carries items of one size, each written and read whole. -/
structure Fifo (Item : Type u) where
  data : List Item
  readers : Nat
  writers : Nat
  readerOpens : Nat
  writerOpens : Nat
deriving DecidableEq, Repr

namespace Fifo

variable {Item : Type u}

/-- A FIFO just made. -/
def empty : Fifo Item := ⟨[], 0, 0, 0, 0⟩

/-- Register an opener of the read end. -/
def openReader (fifo : Fifo Item) : Fifo Item :=
  { fifo with readers := fifo.readers + 1, readerOpens := fifo.readerOpens + 1 }

/-- Register an opener of the write end. -/
def openWriter (fifo : Fifo Item) : Fifo Item :=
  { fifo with writers := fifo.writers + 1, writerOpens := fifo.writerOpens + 1 }

/-- An opener of the read end, which saw a count of opens of the write end when
it called, need not wait. -/
def readerReady (fifo : Fifo Item) (seen : Nat) : Bool :=
  0 < fifo.writers || fifo.writerOpens != seen

/-- An opener of the write end need not wait. -/
def writerReady (fifo : Fifo Item) (seen : Nat) : Bool :=
  0 < fifo.readers || fifo.readerOpens != seen

/-- The items that stay after a close. -/
def settle (fifo : Fifo Item) : Fifo Item :=
  if fifo.readers = 0 ∧ fifo.writers = 0 then { fifo with data := [] } else fifo

/-- Close the read end once. -/
def closeReader (fifo : Fifo Item) : Fifo Item :=
  { fifo with readers := fifo.readers - 1 }.settle

/-- Close the write end once. -/
def closeWriter (fifo : Fifo Item) : Fifo Item :=
  { fifo with writers := fifo.writers - 1 }.settle

def push (fifo : Fifo Item) (item : Item) : Fifo Item := { fifo with data := fifo.data ++ [item] }

/-- Remove what has been read. -/
def pop (fifo : Fifo Item) : Fifo Item := { fifo with data := fifo.data.tail }

@[simp]
theorem settle_writers (fifo : Fifo Item) : fifo.settle.writers = fifo.writers := by
  unfold settle
  split <;> rfl

@[simp]
theorem settle_writerOpens (fifo : Fifo Item) : fifo.settle.writerOpens = fifo.writerOpens := by
  unfold settle
  split <;> rfl

/-- A close may lose items and adds none. -/
theorem settle_data (fifo : Fifo Item) : fifo.settle.data = [] ∨ fifo.settle.data = fifo.data := by
  unfold settle
  split
  · exact Or.inl rfl
  · exact Or.inr rfl

end Fifo

end CLibrary
end Tlpi
