import Tlpi.CLibrary.Descriptor
import Tlpi.Foundations.LockTable

namespace Tlpi
namespace CLibrary

open Foundations

universe u v w x

/-!
# Record locks of `fcntl`

The kernel keeps one table of record locks.  A request names its region relative
to the start of the file, the current offset or the end of the file; a length of
zero reaches to the end of the file however far it grows, and a negative length
names the bytes before the start.
-/

inductive LockType where
  | F_RDLCK
  | F_WRLCK
  | F_UNLCK
deriving DecidableEq, Repr

inductive Whence where
  | SEEK_SET
  | SEEK_CUR
  | SEEK_END
deriving DecidableEq, Repr

/-- The two commands that change the table. -/
inductive LockCommand where
  | F_SETLK
  | F_SETLKW
deriving DecidableEq, Repr

/-- The fields of `struct flock` that a request fills in. -/
structure Flock where
  l_type : LockType
  l_whence : Whence
  l_start : Int
  l_len : Int
deriving DecidableEq, Repr

/-- A descriptor open on a file: the file, its offset, and the file's size. -/
structure OpenFile (Inode : Type v) where
  inode : Inode
  offset : Nat
  size : Nat
deriving DecidableEq, Repr

variable {Owner : Type u} {Inode : Type v}

/-- The position a region is counted from. -/
def Whence.base (whence : Whence) (file : OpenFile Inode) : Int :=
  match whence with
  | .SEEK_SET => 0
  | .SEEK_CUR => file.offset
  | .SEEK_END => file.size

/-- The region a request names; one that would begin before the file is invalid. -/
def Flock.region (fl : Flock) (file : OpenFile Inode) : Except Errno Region :=
  let start := fl.l_whence.base file + fl.l_start
  let first := if fl.l_len < 0 then start + fl.l_len else start
  if first < 0 then .error .EINVAL
  else if fl.l_len = 0 then .ok ⟨first.toNat, none⟩
  else .ok ⟨first.toNat, some (if fl.l_len < 0 then start.toNat else (start + fl.l_len).toNat)⟩

/-- What `fcntl` answers to a locking request.  A blocked request has no answer
yet. -/
inductive LockAnswer (Owner : Type u) (Inode : Type v) where
  | granted (table : LockTable Owner Inode)
  | failed (errno : Errno)
  | blocked

/-- `fcntl(fd, cmd, &fl)` for the two locking commands. -/
def fcntlLock [DecidableEq Owner] [DecidableEq Inode] (table : LockTable Owner Inode)
    (owner : Owner) (file : OpenFile Inode) (cmd : LockCommand) (fl : Flock) :
    LockAnswer Owner Inode :=
  match fl.region file with
  | .error errno => .failed errno
  | .ok region =>
      match fl.l_type with
      | .F_UNLCK => .granted (table.unlock owner file.inode region)
      | .F_RDLCK | .F_WRLCK =>
          match table.acquire ⟨owner, file.inode, fl.l_type = .F_WRLCK, region⟩ with
          | some next => .granted next
          | none =>
              match cmd with
              | .F_SETLK => .failed .EAGAIN
              | .F_SETLKW => .blocked

/-!
## Asking who holds a lock

A traditional lock is held by a process, an open file description lock by an open file
description.  `F_GETLK` reports the first lock that stands in the way.  Its `l_pid` is the
holder's process ID as the caller sees it: no process outside the caller's PID namespace
has one, nor has an open file description.
-/

inductive LockOwner (Process : Type w) (Description : Type x) where
  | process (holder : Process)
  | description (holder : Description)
deriving DecidableEq, Repr

variable {Process : Type w} {Description : Type x}

/-- The `l_pid` of a lock, where `pidOf` gives the processes that the caller can see
their IDs. -/
def LockOwner.pid (pidOf : Process -> Option PNat) : LockOwner Process Description -> Int
  | .process holder =>
      match pidOf holder with
      | some pid => (pid : Nat)
      | none => 0
  | .description _ => -1

/-- The lock that a request is about.  `F_GETLK` does not take `F_UNLCK`. -/
def Flock.request (fl : Flock) (owner : Owner) (file : OpenFile Inode) :
    Except Errno (Lock Owner Inode) :=
  match fl.l_type with
  | .F_UNLCK => .error .EINVAL
  | .F_RDLCK | .F_WRLCK =>
      match fl.region file with
      | .error errno => .error errno
      | .ok region => .ok ⟨owner, file.inode, fl.l_type = .F_WRLCK, region⟩

/-- The fields of `struct flock` that tell the holder of a lock. -/
structure LockHolder where
  l_type : LockType
  l_pid : Int
deriving DecidableEq, Repr

/-- The first lock of the table that conflicts with a request. -/
def firstConflict [DecidableEq Owner] [DecidableEq Inode] (table : LockTable Owner Inode)
    (request : Lock Owner Inode) : Option (Lock Owner Inode) :=
  table.locks.find? (fun held => decide (held.Conflicts request))

/-- `fcntl(fd, F_GETLK, &fl)`, which may fail for a reason of its own.  When nothing
stands in the way `l_pid` keeps the value it had. -/
def fcntlGetlk [DecidableEq Process] [DecidableEq Description] [DecidableEq Inode]
    (failure : Option Errno) (pidOf : Process -> Option PNat)
    (table : LockTable (LockOwner Process Description) Inode) (caller : Process)
    (file : OpenFile Inode) (fl : Flock) (l_pid : Int) : Except Errno LockHolder :=
  match failure with
  | some errno => .error errno
  | none =>
      match fl.request (.process caller) file with
      | .error errno => .error errno
      | .ok request =>
          match firstConflict table request with
          | none => .ok ⟨.F_UNLCK, l_pid⟩
          | some held =>
              .ok ⟨if held.exclusive then .F_WRLCK else .F_RDLCK, held.owner.pid pidOf⟩

end CLibrary
end Tlpi
