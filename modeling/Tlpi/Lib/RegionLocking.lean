import Tlpi.CLibrary.RecordLock

namespace Tlpi
namespace Lib

open CLibrary Foundations

universe u v

/-! # The region-locking functions -/

variable {Owner : Type u} {Inode : Type v} [DecidableEq Owner] [DecidableEq Inode]

def lockReg (table : LockTable Owner Inode) (owner : Owner) (fd : OpenFile Inode)
    (cmd : LockCommand) (type : LockType) (whence : Whence) (start len : Int) :
    LockAnswer Owner Inode :=
  fcntlLock table owner fd cmd ⟨type, whence, start, len⟩

/-- Lock a file region using nonblocking `F_SETLK`. -/
def lockRegion (table : LockTable Owner Inode) (owner : Owner) (fd : OpenFile Inode)
    (type : LockType) (whence : Whence) (start len : Int) : LockAnswer Owner Inode :=
  lockReg table owner fd .F_SETLK type whence start len

def lockRegionWait (table : LockTable Owner Inode) (owner : Owner) (fd : OpenFile Inode)
    (type : LockType) (whence : Whence) (start len : Int) : LockAnswer Owner Inode :=
  lockReg table owner fd .F_SETLKW type whence start len

/-- A write lock on the whole file is granted as an exclusive lock on every
position, and refused with `EAGAIN`. -/
theorem lockRegion_whole (table : LockTable Owner Inode) (owner : Owner) (fd : OpenFile Inode) :
    lockRegion table owner fd .F_WRLCK .SEEK_SET 0 0 =
      match table.acquire ⟨owner, fd.inode, true, Region.whole⟩ with
      | some next => .granted next
      | none => .failed .EAGAIN := by
  rfl

end Lib
end Tlpi
