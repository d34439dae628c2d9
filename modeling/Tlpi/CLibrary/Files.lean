import Mathlib.Logic.Function.Basic
import Tlpi.CLibrary.Descriptor
import Tlpi.Foundations.FileImage

namespace Tlpi
namespace CLibrary

open Foundations

/-!
# Regular files and their names

A pathname leads to a directory entry, and different pathnames may lead to the same one.
An entry refers to a file, and different entries may refer to the same one.  Opening a
file gives a description of its own with the offset 0; what is read and written through
it is the file's.
-/

/-- A file system of regular files, each with a number. -/
structure FileSystem where
  locate : List Byte -> Nat
  entries : Nat -> Option Nat
  contents : Nat -> List Byte
  next : Nat
  bound : forall entry inode, entries entry = some inode -> inode < next

/-- An open file description: the file and the offset. -/
structure OpenDescription where
  inode : Nat
  offset : Nat
deriving DecidableEq, Repr

/-- The flags of `open` that matter for what is in a file. -/
structure OpenFlags where
  O_CREAT : Bool
  O_TRUNC : Bool
deriving DecidableEq, Repr

namespace FileSystem

/-- The file that a pathname resolves to. -/
def inodeOf (fs : FileSystem) (path : List Byte) : Option Nat := fs.entries (fs.locate path)

/-- What is in the file that a pathname resolves to. -/
def contentAt (fs : FileSystem) (path : List Byte) : Option (List Byte) :=
  (fs.inodeOf path).map fs.contents

/-- Replace what is in a file. -/
def store (fs : FileSystem) (inode : Nat) (bytes : List Byte) : FileSystem :=
  { fs with contents := Function.update fs.contents inode bytes }

/-- Make an empty file with a new number. -/
def create (fs : FileSystem) (path : List Byte) : FileSystem where
  locate := fs.locate
  entries := Function.update fs.entries (fs.locate path) (some fs.next)
  contents := Function.update fs.contents fs.next []
  next := fs.next + 1
  bound := by
    intro entry inode refers
    by_cases here : entry = fs.locate path
    · rw [here, Function.update_self] at refers
      cases refers
      exact Nat.lt_succ_self _
    · rw [Function.update_of_ne here] at refers
      exact Nat.lt_succ_of_lt (fs.bound entry inode refers)

/-- `open(path, flags, mode)`, which may fail for a reason of its own. -/
def openFile (fs : FileSystem) (failure : Option Errno) (path : List Byte) (flags : OpenFlags) :
    Except Errno (OpenDescription × FileSystem) :=
  match failure with
  | some errno => .error errno
  | none =>
      match fs.inodeOf path with
      | some inode => .ok (⟨inode, 0⟩, if flags.O_TRUNC then fs.store inode [] else fs)
      | none => if flags.O_CREAT then .ok (⟨fs.next, 0⟩, fs.create path) else .error .ENOENT

/-- `read(fd, buf, count)`, without interruption. -/
def read (fs : FileSystem) (file : OpenDescription) (count : Nat) : List Byte × OpenDescription :=
  let bytes := ((fs.contents file.inode).drop file.offset).take count
  (bytes, { file with offset := file.offset + bytes.length })

/-- `write(fd, buf, count)` of the bytes in the buffer, in full. -/
def write (fs : FileSystem) (file : OpenDescription) (bytes : List Byte) :
    OpenDescription × FileSystem :=
  ({ file with offset := file.offset + bytes.length },
    fs.store file.inode (overwrite 0 (fs.contents file.inode) file.offset bytes))

/-- The file system with one file, which every pathname leads to. -/
def oneFile (bytes : List Byte) : FileSystem where
  locate _ := 0
  entries _ := some 0
  contents _ := bytes
  next := 1
  bound := by
    intro entry inode refers
    cases refers
    exact Nat.lt_succ_self 0

variable {fs : FileSystem} {path : List Byte} {inode : Nat} {bytes : List Byte}

@[simp] theorem store_contents_self (fs : FileSystem) (inode : Nat) (bytes : List Byte) :
    (fs.store inode bytes).contents inode = bytes := by
  unfold store
  dsimp only
  rw [Function.update_self]

theorem store_contents_of_ne {other : Nat} (different : other ≠ inode) :
    (fs.store inode bytes).contents other = fs.contents other := by
  unfold store
  dsimp only
  rw [Function.update_of_ne different]

@[simp] theorem create_inodeOf_self (fs : FileSystem) (path : List Byte) :
    (fs.create path).inodeOf path = some fs.next := by
  unfold inodeOf create
  dsimp only
  rw [Function.update_self]

@[simp] theorem create_contents_self (fs : FileSystem) (path : List Byte) :
    (fs.create path).contents fs.next = [] := by
  unfold create
  dsimp only
  rw [Function.update_self]

theorem create_contents_of_lt (old : inode < fs.next) :
    (fs.create path).contents inode = fs.contents inode := by
  unfold create
  dsimp only
  rw [Function.update_of_ne (Nat.ne_of_lt old)]

theorem contentAt_of_inodeOf (found : fs.inodeOf path = some inode) :
    fs.contentAt path = some (fs.contents inode) := by
  rw [contentAt, found, Option.map_some]

end FileSystem

end CLibrary
end Tlpi
