import Tlpi.CLibrary.OpenFiles
import Tlpi.CLibrary.Strings

namespace Tlpi
namespace Lib

open CLibrary Foundations

/-!
# UNIX domain socket helpers

`unixConnect` and `unixBind` build an address from a path, create a socket, and
connect or bind it.  They differ in the last call only.  A path may be a null
pointer and may be longer than the address has room for.
-/

def AF_UNIX : Int := 1

/-- The size of `sun_path`. -/
def SUN_PATH_SIZE : Nat := 108

structure SockaddrUn where
  sun_family : Int
  sun_path : Vector Byte SUN_PATH_SIZE
deriving DecidableEq

/-- What `unixBuildAddress` leaves: its result, the structure behind `addr` unless
that is null, and `errno`. -/
structure BuiltAddress where
  result : Int
  addr : Option SockaddrUn
  errno : Errno
deriving DecidableEq

/-- The structure after `memset` and with its family set. -/
def SockaddrUn.cleared : SockaddrUn := ⟨AF_UNIX, Vector.replicate SUN_PATH_SIZE 0⟩

/-- `unixBuildAddress(path, addr)`.  A null pointer is `none`. -/
def unixBuildAddress (path : Option CString) (addr : Option SockaddrUn) (errno : Errno) :
    BuiltAddress :=
  match addr, path with
  | none, _ => ⟨-1, none, .EINVAL⟩
  | some addr, none => ⟨-1, some addr, .EINVAL⟩
  | some _, some path =>
      let addr := SockaddrUn.cleared
      if path.strlen < SUN_PATH_SIZE then
        ⟨0, some { addr with sun_path := strncpy addr.sun_path path (SUN_PATH_SIZE - 1) }, errno⟩
      else ⟨-1, some addr, .ENAMETOOLONG⟩

/-- A UNIX domain socket and what has been done to it. -/
structure UnixSocket where
  type : Int
  peer : Option SockaddrUn
  name : Option SockaddrUn
deriving DecidableEq

/-- What a descriptor refers to. -/
inductive UnixFile where
  | elsewhere (name : Nat)
  | socket (socket : UnixSocket)
deriving DecidableEq

def UnixFile.onSocket (change : UnixSocket -> UnixSocket) : UnixFile -> UnixFile
  | .elsewhere name => .elsewhere name
  | .socket made => .socket (change made)

/-- The errors that the calls fail with, if they do.  `attach` is the call of
`connect` or `bind`; `close` is what a `close` leaves in `errno`, if it changes
it. -/
structure UnixAnswers where
  socket : Option Errno
  attach : Option Errno
  close : Option Errno
deriving DecidableEq, Repr

/-- The common text of `unixConnect` and `unixBind`.  The structure `addr` is the
local variable with whatever is in it at first; `attach` is what the last call
does to the socket. -/
def unixOpen (attach : SockaddrUn -> UnixSocket -> UnixSocket) (path : Option CString) (type : Int)
    (answers : UnixAnswers) (addr : SockaddrUn) (process : Caller UnixFile) :
    Option Nat × Caller UnixFile :=
  let built := unixBuildAddress path (some addr) process.errno
  if built.result = -1 then (none, process.setErrno built.errno)
  else
    let addr := built.addr.getD addr
    match process.openFile answers.socket (.socket ⟨type, none, none⟩) with
    | (none, process) => (none, process)
    | (some sd, process) =>
        match process.onFile answers.attach sd (.onSocket (attach addr)) with
        | (false, process) => (none, process.closeKeepingErrno answers.close sd)
        | (true, process) => (some sd, process)

def UnixSocket.connected (addr : SockaddrUn) (socket : UnixSocket) : UnixSocket :=
  { socket with peer := some addr }

def UnixSocket.bound (addr : SockaddrUn) (socket : UnixSocket) : UnixSocket :=
  { socket with name := some addr }

/-- `unixConnect(path, type)`.  The result -1 is `none`. -/
def unixConnect : Option CString -> Int -> UnixAnswers -> SockaddrUn -> Caller UnixFile ->
    Option Nat × Caller UnixFile :=
  unixOpen UnixSocket.connected

/-- `unixBind(path, type)`.  The result -1 is `none`. -/
def unixBind : Option CString -> Int -> UnixAnswers -> SockaddrUn -> Caller UnixFile ->
    Option Nat × Caller UnixFile :=
  unixOpen UnixSocket.bound

/-- What is wrong with a path. -/
def pathError : Option CString -> Option Errno
  | none => some .EINVAL
  | some path => if path.strlen < SUN_PATH_SIZE then none else some .ENAMETOOLONG

/-- The steps of `unixConnect` and `unixBind`, with the error that each fails
with. -/
def unixSteps (path : Option CString) (answers : UnixAnswers) : List (Option Errno) :=
  [pathError path, answers.socket, answers.attach]

/-- The address of a path: the family, and the complete path. -/
structure SockaddrUn.AddressOf (addr : SockaddrUn) (path : CString) : Prop where
  family : addr.sun_family = AF_UNIX
  holds : Holds addr.sun_path path

/-- Either the path is refused, and `errno` says why, or the structure is the
address of the path and `errno` is untouched. -/
theorem unixBuildAddress_spec (path : Option CString) (addr : SockaddrUn) (errno : Errno) :
    (Exists fun failure => pathError path = some failure ∧
      (unixBuildAddress path (some addr) errno).result = -1 ∧
      (unixBuildAddress path (some addr) errno).errno = failure) ∨
    (Exists fun given => Exists fun filled : SockaddrUn => path = some given ∧
      pathError path = none ∧ filled.AddressOf given ∧
      unixBuildAddress path (some addr) errno = ⟨0, some filled, errno⟩) := by
  cases path with
  | none => exact Or.inl ⟨.EINVAL, rfl, rfl, rfl⟩
  | some given =>
      by_cases fits : given.strlen < SUN_PATH_SIZE
      · let filled : SockaddrUn :=
          ⟨AF_UNIX, strncpy SockaddrUn.cleared.sun_path given (SUN_PATH_SIZE - 1)⟩
        have copied : Holds filled.sun_path given := by
          change Holds (strncpy (Vector.replicate SUN_PATH_SIZE 0) given (SUN_PATH_SIZE - 1)) given
          rw [strncpy_cleared fits]
          exact holds_strncpy _ fits
        refine Or.inr ⟨given, filled, rfl, ?_, ⟨rfl, copied⟩, ?_⟩
        · simp [pathError, fits]
        · simp only [unixBuildAddress, fits, if_true]
          rfl
      · refine Or.inl ⟨.ENAMETOOLONG, ?_, ?_, ?_⟩
        · simp [pathError, fits]
        · simp [unixBuildAddress, fits]
        · simp [unixBuildAddress, fits]

/-- What the functions do: fail at a step and leave no trace, or add one socket,
attached to the complete path. -/
structure CleanOpen (attach : SockaddrUn -> UnixSocket -> UnixSocket) (path : Option CString)
    (type : Int) (answers : UnixAnswers) (before : Caller UnixFile)
    (outcome : Option Nat × Caller UnixFile) : Prop where
  refused : outcome.1 = none -> Refused (unixSteps path answers) before outcome.2
  opened : forall sd, outcome.1 = some sd -> Exists fun given => Exists fun addr : SockaddrUn =>
    path = some given ∧ addr.AddressOf given ∧
      Opened (unixSteps path answers) before outcome.2 sd (.socket (attach addr ⟨type, none, none⟩))

section

variable {attach : SockaddrUn -> UnixSocket -> UnixSocket} {path : Option CString} {type : Int}
  {answers : UnixAnswers} {before after : Caller UnixFile}

theorem CleanOpen.refusal (refused : Refused (unixSteps path answers) before after) :
    CleanOpen attach path type answers before (none, after) where
  refused _ := refused
  opened _ impossible := by cases impossible

theorem CleanOpen.success {sd : Nat} {given : CString} {addr : SockaddrUn}
    (isGiven : path = some given) (isAddress : addr.AddressOf given)
    (opened : Opened (unixSteps path answers) before after sd
      (.socket (attach addr ⟨type, none, none⟩))) :
    CleanOpen attach path type answers before (some sd, after) where
  refused impossible := by cases impossible
  opened other returned := by
    cases returned
    exact ⟨given, addr, isGiven, isAddress, opened⟩

end

theorem unixOpen_clean (attach : SockaddrUn -> UnixSocket -> UnixSocket) (path : Option CString)
    (type : Int) (answers : UnixAnswers) (addr : SockaddrUn) (process : Caller UnixFile) :
    CleanOpen attach path type answers process
      (unixOpen attach path type answers addr process) := by
  unfold unixOpen
  rcases unixBuildAddress_spec path addr process.errno with
    ⟨failure, wrong, result, errno⟩ | ⟨given, filled, isGiven, right, isAddress, built⟩
  · simp only [result, errno, if_true]
    have failed : firstError (unixSteps path answers) = some failure := by
      rw [unixSteps, wrong, firstError_failed]
    exact .refusal ⟨.refl _, failed⟩
  · rw [built]
    simp only [reduceCtorEq, if_false, Option.getD_some]
    have steps : firstError (unixSteps path answers) =
        firstError [answers.socket, answers.attach] := by
      rw [unixSteps, right, firstError_passed]
    cases created : answers.socket with
    | some failure =>
        simp only [Caller.openFile]
        rw [created, firstError_failed] at steps
        exact .refusal ⟨.refl _, steps⟩
    | none =>
        have added := (Slots.Same.refl process.descriptors).acquire
          (UnixFile.socket ⟨type, none, none⟩)
        rw [created, firstError_passed] at steps
        cases attached : answers.attach with
        | some failure =>
            simp only [Caller.openFile, Caller.onFile]
            rw [attached, firstError_failed] at steps
            exact .refusal (.closeKeepingErrno added steps answers.close)
        | none =>
            simp only [Caller.openFile, Caller.onFile]
            rw [attached, firstError_passed] at steps
            exact .success isGiven isAddress ⟨added.modify _, steps⟩

end Lib
end Tlpi
