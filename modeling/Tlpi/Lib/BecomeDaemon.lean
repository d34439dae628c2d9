import Tlpi.CLibrary.Descriptor
import Tlpi.CLibrary.Integers
import Tlpi.Foundations.Slots

namespace Tlpi
namespace Lib

open CLibrary Foundations

universe u

/-!
# Becoming a daemon

`becomeDaemon` forks twice and leaves the rest of its work to the last child.  What it
does is described for the process in which it returns or ends: each `fork` answers to
that process that it failed, that it is the parent, or that it is a child with a new
process ID.
-/

/-- The attributes of a process that `becomeDaemon` changes. -/
structure DaemonProcess (File : Type u) where
  pid : Nat
  pgid : Nat
  sid : Nat
  umask : Nat
  cwd : String
  descriptors : Slots File
deriving DecidableEq, Repr

/-- The numbers that are in use because of the process. -/
def DaemonProcess.ids {File : Type u} (process : DaemonProcess File) : List Nat :=
  [process.pid, process.pgid, process.sid]

/-- The answer of `fork` to the process that goes on.  A child gets a number that is not
in use for a process, a process group or a session. -/
inductive Forked (inUse : List Nat) where
  | failed (errno : Errno)
  | parent
  | child (pid : Nat) (fresh : pid ∉ inUse)

/-- The answers to the calls of `becomeDaemon`, each with the error that it fails with
if it does.  `others` are the numbers in use elsewhere when it is called. -/
structure DaemonAnswers {File : Type u} (process : DaemonProcess File) (others : List Nat) where
  background : Forked (process.ids ++ others)
  setsid : Option Errno
  surviving : forall leader : DaemonProcess File, Forked leader.ids
  chdir : Option Errno
  sysconf : Int
  openNull : Option Errno
  dup2 : Nat -> Option Errno

def BD_NO_CHDIR : BitVec 32 := 1
def BD_NO_CLOSE_FILES : BitVec 32 := 2
def BD_NO_REOPEN_STD_FDS : BitVec 32 := 4
def BD_NO_UMASK0 : BitVec 32 := 8

def BD_MAX_CLOSE : Int := 8192

/-- `flags & flag`, as a condition. -/
def flagged (flags flag : BitVec 32) : Bool := flags &&& flag != 0

/-- What becomes of a process that calls `becomeDaemon`. -/
inductive DaemonEnd (File : Type u) where
  | exited
  | returned (value : Int) (process : DaemonProcess File)

variable {File : Type u}

/-- `setsid()`, which fails in the leader of a process group. -/
def setsid (failure : Option Errno) (process : DaemonProcess File) :
    Option (DaemonProcess File) :=
  match failure with
  | some _ => none
  | none =>
      if process.pgid = process.pid then none
      else some { process with pgid := process.pid, sid := process.pid }

/-- `chdir(path)`, whose error is not looked at. -/
def chdir (failure : Option Errno) (path : String) (process : DaemonProcess File) :
    DaemonProcess File :=
  match failure with
  | some _ => process
  | none => { process with cwd := path }

/-- The variable `maxfd`, an `int`. -/
def maxfd (sysconf : Int) : Int := if toInt sysconf = -1 then BD_MAX_CLOSE else toInt sysconf

/-- Reopen the standard descriptors to `/dev/null`. -/
def reopenStandard (devNull : File) (openNull : Option Errno) (dup2 : Nat -> Option Errno)
    (process : DaemonProcess File) : DaemonEnd File :=
  let closed := process.descriptors.release 0
  match openNull with
  | some _ => .returned (-1) { process with descriptors := closed }
  | none =>
      let opened := closed.acquire devNull
      if closed.lowestFree ≠ 0 then .returned (-1) { process with descriptors := opened }
      else
        match dup2 1 with
        | some _ => .returned (-1) { process with descriptors := opened }
        | none =>
            match dup2 2 with
            | some _ => .returned (-1) { process with descriptors := opened.copy 0 1 }
            | none => .returned 0 { process with descriptors := (opened.copy 0 1).copy 0 2 }

/-- Clear the mask, change the directory and close the files, each unless a flag says not
to. -/
def prepare (flags : BitVec 32) (chdirFailure : Option Errno) (sysconf : Int)
    (process : DaemonProcess File) : DaemonProcess File :=
  let process := if flagged flags BD_NO_UMASK0 then process else { process with umask := 0 }
  let process := if flagged flags BD_NO_CHDIR then process else chdir chdirFailure "/" process
  if flagged flags BD_NO_CLOSE_FILES then process
  else { process with descriptors := process.descriptors.releaseBelow (maxfd sysconf).toNat }

/-- The part of `becomeDaemon` behind the second `fork`. -/
def settle (devNull : File) (flags : BitVec 32) (chdirFailure : Option Errno) (sysconf : Int)
    (openNull : Option Errno) (dup2 : Nat -> Option Errno) (process : DaemonProcess File) :
    DaemonEnd File :=
  let process := prepare flags chdirFailure sysconf process
  if flagged flags BD_NO_REOPEN_STD_FDS then .returned 0 process
  else reopenStandard devNull openNull dup2 process

def becomeDaemon (devNull : File) (flags : BitVec 32) {process : DaemonProcess File}
    {others : List Nat} (answers : DaemonAnswers process others) : DaemonEnd File :=
  match answers.background with
  | .failed _ => .returned (-1) process
  | .parent => .exited
  | .child pid _ =>
      match setsid answers.setsid { process with pid := pid } with
      | none => .returned (-1) { process with pid := pid }
      | some leader =>
          match answers.surviving leader with
          | .failed _ => .returned (-1) leader
          | .parent => .exited
          | .child pid _ =>
              settle devNull flags answers.chdir answers.sysconf answers.openNull answers.dup2
                { leader with pid := pid }

/-! ## What a daemon has -/

/-- A daemon has `/dev/null` for its standard descriptors, none of the other descriptors,
no file mode creation mask, and a session that it does not lead, except for what the
flags say. -/
structure Daemon (devNull : File) (flags : BitVec 32) (inUse : List Nat)
    (before after : DaemonProcess File) : Prop where
  standard : flagged flags BD_NO_REOPEN_STD_FDS = false -> forall fd, fd ≤ 2 ->
    after.descriptors.get fd = some devNull
  notReopened : flagged flags BD_NO_REOPEN_STD_FDS = true -> forall fd, fd ≤ 2 ->
    after.descriptors.get fd =
      if flagged flags BD_NO_CLOSE_FILES then before.descriptors.get fd else none
  others : forall fd, 3 ≤ fd -> after.descriptors.get fd =
    if flagged flags BD_NO_CLOSE_FILES then before.descriptors.get fd else none
  umask : after.umask = if flagged flags BD_NO_UMASK0 then before.umask else 0
  newSession : after.sid ∉ inUse
  notLeader : after.sid ≠ after.pid

theorem setsid_some {failure : Option Errno} {process leader : DaemonProcess File}
    (led : setsid failure process = some leader) :
    leader = { process with pgid := process.pid, sid := process.pid } := by
  unfold setsid at led
  split at led
  · cases led
  · split at led
    · cases led
    · cases led
      rfl

/-- The standard descriptors are reopened, and the others are left alone. -/
theorem reopenStandard_zero {devNull : File} {openNull : Option Errno}
    {dup2 : Nat -> Option Errno} {process after : DaemonProcess File}
    (returned : reopenStandard devNull openNull dup2 process = .returned 0 after) :
    Exists fun descriptors => after = { process with descriptors := descriptors } ∧
      forall fd, descriptors.get fd =
        if fd ≤ 2 then some devNull else process.descriptors.get fd := by
  unfold reopenStandard at returned
  have lowest := process.descriptors.lowestFree_release_zero
  have opened := (process.descriptors.release 0).get_acquire devNull
  rw [lowest] at opened
  dsimp only at returned
  split at returned
  · cases returned
  · rw [if_neg (not_not.mpr lowest)] at returned
    split at returned
    · cases returned
    · split at returned
      · cases returned
      · cases returned
        refine ⟨_, rfl, ?_⟩
        intro fd
        have first := Slots.get_copy ((opened 0).trans (if_pos rfl)) 1
        have second := Slots.get_copy ((first 0).trans ((opened 0).trans (if_pos rfl))) 2
        rw [second, first, opened, Slots.get_release]
        split_ifs <;> first | rfl | omega

/-- With every open descriptor below the limit, the loop leaves none of them. -/
theorem get_releaseBelow_all {descriptors : Slots File} {limit : Int}
    (below : forall fd file, descriptors.get fd = some file -> (fd : Int) < limit) (fd : Nat) :
    (descriptors.releaseBelow limit.toNat).get fd = none := by
  rw [Slots.get_releaseBelow]
  split
  · rfl
  · next beyond =>
      cases held : descriptors.get fd with
      | none => rfl
      | some file =>
          have low := below fd file held
          omega

theorem chdir_eq (failure : Option Errno) (path : String) (process : DaemonProcess File) :
    Exists fun cwd => chdir failure path process = { process with cwd := cwd } := by
  unfold chdir
  split
  · exact ⟨process.cwd, rfl⟩
  · exact ⟨path, rfl⟩

theorem prepare_eq (flags : BitVec 32) (chdirFailure : Option Errno) {sysconf : Int}
    {process : DaemonProcess File}
    (below : forall fd file, process.descriptors.get fd = some file ->
      (fd : Int) < maxfd sysconf) :
    Exists fun cwd => Exists fun descriptors =>
      prepare flags chdirFailure sysconf process =
        { process with
          umask := if flagged flags BD_NO_UMASK0 then process.umask else 0
          cwd := cwd
          descriptors := descriptors } ∧
      forall fd, descriptors.get fd =
        if flagged flags BD_NO_CLOSE_FILES then process.descriptors.get fd else none := by
  have masked : (if flagged flags BD_NO_UMASK0 then process else { process with umask := 0 }) =
      { process with umask := if flagged flags BD_NO_UMASK0 then process.umask else 0 } := by
    split <;> rfl
  unfold prepare
  rw [masked]
  dsimp only
  generalize (if flagged flags BD_NO_UMASK0 then process.umask else 0) = umask
  have moved : Exists fun cwd =>
      (if flagged flags BD_NO_CHDIR then { process with umask := umask }
        else chdir chdirFailure "/" { process with umask := umask }) =
      { process with umask := umask, cwd := cwd } := by
    split
    · exact ⟨process.cwd, rfl⟩
    · exact chdir_eq chdirFailure "/" { process with umask := umask }
  rcases moved with ⟨cwd, moved⟩
  refine ⟨cwd, ?_⟩
  rw [moved]
  by_cases keeping : flagged flags BD_NO_CLOSE_FILES = true
  · refine ⟨process.descriptors, ?_, fun fd => ?_⟩
    · rw [if_pos keeping]
    · rw [if_pos keeping]
  · refine ⟨process.descriptors.releaseBelow (maxfd sysconf).toNat, ?_, fun fd => ?_⟩
    · rw [if_neg keeping]
    · rw [if_neg keeping]
      exact get_releaseBelow_all below fd

theorem settle_zero {devNull : File} {flags : BitVec 32} {chdirFailure : Option Errno}
    {sysconf : Int} {openNull : Option Errno} {dup2 : Nat -> Option Errno}
    {process after : DaemonProcess File} {inUse : List Nat}
    (returned : settle devNull flags chdirFailure sysconf openNull dup2 process =
      .returned 0 after)
    (below : forall fd file, process.descriptors.get fd = some file -> (fd : Int) < maxfd sysconf)
    (newSession : process.sid ∉ inUse) (notLeader : process.sid ≠ process.pid) :
    Daemon devNull flags inUse process after := by
  rcases prepare_eq flags chdirFailure below with ⟨cwd, closed, prepared, table⟩
  unfold settle at returned
  rw [prepared] at returned
  dsimp only at returned
  split at returned
  · next keeping =>
      cases returned
      refine ⟨fun reopening => ?_, fun _ fd _ => table fd, fun fd _ => table fd, rfl, newSession,
        notLeader⟩
      rw [reopening] at keeping
      cases keeping
  · next reopening =>
      rcases reopenStandard_zero returned with ⟨descriptors, rfl, opened⟩
      refine ⟨fun _ fd low => ?_, fun keeping => absurd keeping reopening, fun fd high => ?_, rfl,
        newSession, notLeader⟩
      · exact (opened fd).trans (if_pos low)
      · rw [opened fd, if_neg (by omega)]
        exact table fd

/-- When `becomeDaemon` returns 0 in the process that survives, and every open descriptor
was below `maxfd`, that process has what a daemon has. -/
theorem becomeDaemon_daemon (devNull : File) (flags : BitVec 32) (process : DaemonProcess File)
    (others : List Nat) (answers : DaemonAnswers process others) (after : DaemonProcess File)
    (below : forall fd file, process.descriptors.get fd = some file ->
      (fd : Int) < maxfd answers.sysconf)
    (returned : becomeDaemon devNull flags answers = .returned 0 after) :
    Daemon devNull flags (process.ids ++ others) process after := by
  unfold becomeDaemon at returned
  split at returned
  · cases returned
  · cases returned
  · next first fresh _ =>
      split at returned
      · cases returned
      · next leader led =>
          cases setsid_some led
          dsimp only at returned
          split at returned
          · cases returned
          · cases returned
          · next second distinct _ =>
              have other : first ≠ second := by
                rintro rfl
                exact distinct (List.mem_cons_self)
              have done := settle_zero returned below fresh other
              exact ⟨done.standard, done.notReopened, done.others, done.umask, done.newSession,
                done.notLeader⟩

/-- A process with its standard output closed and a file at descriptor 5. -/
def interactive : DaemonProcess String :=
  ⟨40, 40, 12, 18, "/home", ⟨[some "/dev/tty", none, some "/dev/tty", none, none, some "log"]⟩⟩

/-- Every call succeeds, and the limit for descriptors is 16. -/
def granting : DaemonAnswers interactive [1, 2] where
  background := .child 101 (by decide)
  setsid := none
  surviving leader := .child (leader.pid + leader.pgid + leader.sid + 1) (by
    simp only [DaemonProcess.ids, List.mem_cons, List.not_mem_nil, or_false]
    omega)
  chdir := none
  sysconf := 16
  openNull := none
  dup2 _ := none

theorem interactive_daemon :
    Daemon "/dev/null" 0 (interactive.ids ++ [1, 2]) interactive
      ⟨304, 101, 101, 0, "/",
        ⟨[some "/dev/null", some "/dev/null", some "/dev/null", none, none, none]⟩⟩ := by
  refine becomeDaemon_daemon "/dev/null" 0 interactive [1, 2] granting _ ?_ (by rfl)
  intro fd file held
  have low : fd < 6 := Slots.lt_length_of_get held
  have limit : maxfd granting.sysconf = 16 := by decide
  omega

end Lib
end Tlpi
