import Tlpi.CLibrary.Descriptor
import Tlpi.Foundations.Slots

namespace Tlpi
namespace CLibrary

universe u

open Foundations

/-!
# Calls that open a file, work on it, and give it up again

A function that returns a descriptor opens a file, makes some calls on it, and
closes it again when one of them fails.  The caller sees the descriptor table and
`errno`.  Whether a call fails is decided outside, so a call takes the error that
it fails with, if it does.  A `close` always frees the descriptor, whatever it
returns, and it may change `errno`.

The outcome of such a function is compared with the list of its steps, each with
the error that it fails with: either a step failed, the table is as before and
`errno` is the error of the first step that did, or no step failed and exactly one
descriptor was added.
-/

/-- The part of a process that such a function works on. -/
structure Caller (Object : Type u) where
  descriptors : Slots Object
  errno : Errno
deriving DecidableEq, Repr

namespace Caller

variable {Object : Type u}

def setErrno (process : Caller Object) (errno : Errno) : Caller Object :=
  { process with errno := errno }

def openFile (process : Caller Object) (failure : Option Errno) (object : Object) :
    Option Nat × Caller Object :=
  match failure with
  | some errno => (none, process.setErrno errno)
  | none =>
      (some process.descriptors.lowestFree,
        { process with descriptors := process.descriptors.acquire object })

/-- A call on the file behind a descriptor. -/
def onFile (process : Caller Object) (failure : Option Errno) (fd : Nat)
    (change : Object -> Object) : Bool × Caller Object :=
  match failure with
  | some errno => (false, process.setErrno errno)
  | none => (true, { process with descriptors := process.descriptors.modify fd change })

/-- `close(fd)`, with what it leaves in `errno` if it changes it. -/
def close (process : Caller Object) (changed : Option Errno) (fd : Nat) : Caller Object where
  descriptors := process.descriptors.release fd
  errno := changed.getD process.errno

/-- `savedErrno = errno; close(fd); errno = savedErrno;` -/
def closeKeepingErrno (process : Caller Object) (changed : Option Errno) (fd : Nat) :
    Caller Object :=
  (process.close changed fd).setErrno process.errno

end Caller

def firstError (steps : List (Option Errno)) : Option Errno := steps.findSome? id

@[simp] theorem firstError_failed (errno : Errno) (steps : List (Option Errno)) :
    firstError (some errno :: steps) = some errno := rfl

@[simp] theorem firstError_passed (steps : List (Option Errno)) :
    firstError (none :: steps) = firstError steps := rfl

theorem firstError_append_of_none {first : List (Option Errno)} (passed : firstError first = none)
    (second : List (Option Errno)) : firstError (first ++ second) = firstError second := by
  unfold firstError at *
  rw [List.findSome?_append, passed, Option.none_or]

theorem firstError_append_of_some {first : List (Option Errno)} {errno : Errno}
    (failed : firstError first = some errno) (second : List (Option Errno)) :
    firstError (first ++ second) = some errno := by
  unfold firstError at *
  rw [List.findSome?_append, failed, Option.some_or]

section

variable {Object : Type u} (steps : List (Option Errno)) (before after : Caller Object)

/-- A step failed: no descriptor was added or lost, and `errno` says which error
stopped the function. -/
structure Refused : Prop where
  same : Slots.Same before.descriptors after.descriptors
  errno : firstError steps = some after.errno

/-- No step failed: exactly one descriptor was added. -/
structure Opened (fd : Nat) (object : Object) : Prop where
  added : Slots.Added before.descriptors after.descriptors fd object
  passed : firstError steps = none

end

section

variable {Object : Type u} {steps : List (Option Errno)} {before process : Caller Object}
  {fd : Nat} {object : Object}

/-- Closing the added file for an error that `errno` shows, and keeping it. -/
theorem Refused.closeKeepingErrno
    (added : Slots.Added before.descriptors process.descriptors fd object)
    (errno : firstError steps = some process.errno) (changed : Option Errno) :
    Refused steps before (process.closeKeepingErrno changed fd) where
  same := added.release
  errno := errno

theorem Refused.close (added : Slots.Added before.descriptors process.descriptors fd object)
    {errno : Errno} (failed : firstError steps = some errno) (changed : Option Errno) :
    Refused steps before ((process.close changed fd).setErrno errno) where
  same := added.release
  errno := failed

end

end CLibrary
end Tlpi
