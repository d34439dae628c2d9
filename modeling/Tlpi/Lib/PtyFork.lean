import Tlpi.CLibrary.OpenFiles
import Tlpi.CLibrary.Strings
import Tlpi.Lib.ErrorFunctions
import Tlpi.Lib.TtyFunctions
import Tlpi.Lib.UnixSockets

namespace Tlpi
namespace Lib

open CLibrary Foundations

/-!
# Opening a pseudoterminal, with a child at its other end

`ptyMasterOpen` opens a pseudoterminal master and copies the name of the slave to
the caller's buffer.  `ptyFork` does so with a buffer of its own, copies the name
to the caller's buffer if there is one, and forks.  The parent gets the master;
the child makes the slave its standard input, output and error.

A buffer carries its size in its type, so that it is as large as the caller says.
-/

/-- The members of `struct winsize`. -/
structure Winsize where
  ws_row : UInt16
  ws_col : UInt16
  ws_xpixel : UInt16
  ws_ypixel : UInt16
deriving DecidableEq, Repr

/-- A slave, with the attributes and the window size that were set on it, if any. -/
structure PtySlave where
  name : CString
  termios : Option Termios
  winsize : Option Winsize
deriving DecidableEq

inductive PtyFile where
  | elsewhere (name : Nat)
  | master
  | slave (slave : PtySlave)
deriving DecidableEq

/-- The answers to the calls of `ptyMasterOpen`.  `close` is what a `close` leaves
in `errno`, if it changes it. -/
structure PtyAnswers where
  posix_openpt : Option Errno
  grantpt : Option Errno
  unlockpt : Option Errno
  ptsname : Except Errno CString
  close : Option Errno

/-- What `ptyMasterOpen` leaves: its result, where -1 is `none`, the caller's
buffer, and the process. -/
structure MasterOutcome (snLen : Nat) where
  returned : Option Nat
  slaveName : Vector Byte snLen
  process : Caller PtyFile

/-- The end of a call that gives the master up and keeps the error. -/
def abandon {snLen : Nat} (answers : PtyAnswers) (masterFd : Nat) (slaveName : Vector Byte snLen)
    (process : Caller PtyFile) : MasterOutcome snLen :=
  ⟨none, slaveName, process.closeKeepingErrno answers.close masterFd⟩

/-- The part of `ptyMasterOpen` behind `unlockpt`. -/
def takeName {snLen : Nat} (answers : PtyAnswers) (masterFd : Nat) (slaveName : Vector Byte snLen)
    (process : Caller PtyFile) : MasterOutcome snLen :=
  match answers.ptsname with
  | .error errno => abandon answers masterFd slaveName (process.setErrno errno)
  | .ok p =>
      if p.strlen < snLen then ⟨some masterFd, strncpy slaveName p snLen, process⟩
      else ⟨none, slaveName, (process.close answers.close masterFd).setErrno .EOVERFLOW⟩

/-- `ptyMasterOpen(slaveName, snLen)`. -/
def ptyMasterOpen {snLen : Nat} (answers : PtyAnswers) (slaveName : Vector Byte snLen)
    (process : Caller PtyFile) : MasterOutcome snLen :=
  match process.openFile answers.posix_openpt .master with
  | (none, process) => ⟨none, slaveName, process⟩
  | (some masterFd, process) =>
      match process.onFile answers.grantpt masterFd id with
      | (false, process) => abandon answers masterFd slaveName process
      | (true, process) =>
          match process.onFile answers.unlockpt masterFd id with
          | (false, process) => abandon answers masterFd slaveName process
          | (true, process) => takeName answers masterFd slaveName process

def MAX_SNAME : Nat := 1000

/-- What `fork` returns to a process: an error, the process ID of the child, or 0
in the child. -/
inductive ForkAnswer where
  | failed (errno : Errno)
  | parent (childPid : PNat)
  | child
deriving DecidableEq, Repr

/-- The errors that the calls of the child fail with, if they do. -/
structure ChildAnswers where
  setsid : Option Errno
  openSlave : Option Errno
  setControllingTerminal : Option Errno
  tcsetattr : Option Errno
  setWindowSize : Option Errno
  dup2 : Nat -> Option Errno

/-- A call of the child that must not fail. -/
def required (dumpcore : Option String) (failure : Option Errno) (message : String) :
    Except Failure Unit :=
  match failure with
  | some errno => .error (err_exit dumpcore errno message)
  | none => .ok ()

/-- `dup2(oldfd, newfd)` for an open `oldfd`. -/
def duplicate (descriptors : Slots PtyFile) (oldfd newfd : Nat) : Slots PtyFile :=
  match descriptors.get oldfd with
  | some object => descriptors.put newfd object
  | none => descriptors

def PtyFile.onSlave (change : PtySlave -> PtySlave) : PtyFile -> PtyFile
  | .elsewhere name => .elsewhere name
  | .master => .master
  | .slave opened => .slave (change opened)

/-- A setting of the slave that is made if the caller asks for it. -/
def configure {Setting : Type} (dumpcore : Option String) (failure : Option Errno)
    (message : String) (setting : Option Setting) (install : Setting -> PtySlave -> PtySlave)
    (slaveFd : Nat) (descriptors : Slots PtyFile) : Except Failure (Slots PtyFile) :=
  match setting with
  | none => .ok descriptors
  | some setting => do
      required dumpcore failure message
      return descriptors.modify slaveFd (.onSlave (install setting))

/-- The part of `ptyFork` that the child executes, up to its `return 0`. -/
def ptyForkChild (dumpcore : Option String) (answers : ChildAnswers) (mfd : Nat) (slname : CString)
    (slaveTermios : Option Termios) (slaveWS : Option Winsize) (descriptors : Slots PtyFile) :
    Except Failure (Slots PtyFile) := do
  required dumpcore answers.setsid "ptyFork:setsid"
  let descriptors := descriptors.release mfd
  required dumpcore answers.openSlave "ptyFork:open-slave"
  let slaveFd := descriptors.lowestFree
  let descriptors := descriptors.acquire (.slave ⟨slname, none, none⟩)
  required dumpcore answers.setControllingTerminal "ptyFork:ioctl-TIOCSCTTY"
  let descriptors <- configure dumpcore answers.tcsetattr "ptyFork:tcsetattr" slaveTermios
    (fun termios slave => { slave with termios := some termios }) slaveFd descriptors
  let descriptors <- configure dumpcore answers.setWindowSize "ptyFork:ioctl-TIOCSWINSZ" slaveWS
    (fun winsize slave => { slave with winsize := some winsize }) slaveFd descriptors
  required dumpcore (answers.dup2 0) "ptyFork:dup2-STDIN_FILENO"
  let descriptors := duplicate descriptors slaveFd 0
  required dumpcore (answers.dup2 1) "ptyFork:dup2-STDOUT_FILENO"
  let descriptors := duplicate descriptors slaveFd 1
  required dumpcore (answers.dup2 2) "ptyFork:dup2-STDERR_FILENO"
  let descriptors := duplicate descriptors slaveFd 2
  return if slaveFd > 2 then descriptors.release slaveFd else descriptors

/-- What `ptyFork` leaves: its result, the object behind `masterFd`, the caller's
buffer unless it is null, and the process. -/
structure ForkOutcome (snLen : Nat) where
  result : Int
  masterFd : Int
  slaveName : Option (Vector Byte snLen)
  process : Caller PtyFile

/-- The copy of the name to the caller's buffer, unless that is null; `none` if
the buffer is too small. -/
def returnName {snLen : Nat} (slaveName : Option (Vector Byte snLen)) (slname : CString) :
    Option (Option (Vector Byte snLen)) :=
  match slaveName with
  | none => some none
  | some buffer =>
      if slname.strlen < snLen then some (some (strncpy buffer slname snLen)) else none

/-- `ptyFork(masterFd, slaveName, snLen, slaveTermios, slaveWS)`, in the process to
which `fork` gives the answer `fork`.  The vector `slname` is the local buffer
with whatever is in it at first.  Only the child can terminate. -/
def ptyFork {snLen : Nat} (dumpcore : Option String) (answers : PtyAnswers) (fork : ForkAnswer)
    (child : ChildAnswers) (masterFd : Int) (slaveName : Option (Vector Byte snLen))
    (slaveTermios : Option Termios) (slaveWS : Option Winsize) (slname : Vector Byte MAX_SNAME)
    (process : Caller PtyFile) : Except Failure (ForkOutcome snLen) :=
  let opened := ptyMasterOpen answers slname process
  match opened.returned with
  | none => .ok ⟨-1, masterFd, slaveName, opened.process⟩
  | some mfd =>
      let slname := stringIn opened.slaveName
      match returnName slaveName slname with
      | none =>
          .ok ⟨-1, masterFd, slaveName, (opened.process.close answers.close mfd).setErrno .EOVERFLOW⟩
      | some slaveName =>
          match fork with
          | .failed errno =>
              .ok ⟨-1, masterFd, slaveName,
                (opened.process.setErrno errno).closeKeepingErrno answers.close mfd⟩
          | .parent childPid => .ok ⟨childPid.val, mfd, slaveName, opened.process⟩
          | .child => do
              let descriptors <- ptyForkChild dumpcore child mfd slname slaveTermios slaveWS
                opened.process.descriptors
              return ⟨0, masterFd, slaveName, { opened.process with descriptors := descriptors }⟩

/-! ## What the functions should do -/

/-- What is wrong with the name that `ptsname` returns, for a buffer of a given
size or for none. -/
def nameError (ptsname : Except Errno CString) (room : Option Nat) : Option Errno :=
  match ptsname, room with
  | .error errno, _ => some errno
  | .ok _, none => none
  | .ok name, some size => if name.strlen < size then none else some .EOVERFLOW

/-- The steps of `ptyMasterOpen`, with the error that each fails with. -/
def masterSteps (answers : PtyAnswers) (snLen : Nat) : List (Option Errno) :=
  [answers.posix_openpt, answers.grantpt, answers.unlockpt, nameError answers.ptsname (some snLen)]

def ForkAnswer.error : ForkAnswer -> Option Errno
  | .failed errno => some errno
  | .parent _ | .child => none

/-- The steps of `ptyFork` in the caller, with the error that each fails with. -/
def forkSteps (answers : PtyAnswers) (room : Option Nat) (fork : ForkAnswer) :
    List (Option Errno) :=
  masterSteps answers MAX_SNAME ++ [nameError answers.ptsname room, fork.error]

/-- `ptyMasterOpen` fails at a step and leaves no trace, or adds the master and
hands out the complete name. -/
structure CleanMaster {snLen : Nat} (answers : PtyAnswers) (before : Caller PtyFile)
    (outcome : MasterOutcome snLen) : Prop where
  refused : outcome.returned = none -> Refused (masterSteps answers snLen) before outcome.process
  opened : forall masterFd, outcome.returned = some masterFd -> Exists fun name =>
    answers.ptsname = .ok name ∧ Holds outcome.slaveName name ∧
      Opened (masterSteps answers snLen) before outcome.process masterFd .master

/-- The descriptors of a child: the slave three times, and otherwise what the
caller had open. -/
def ChildTable (before after : Slots PtyFile) (slave : PtySlave) : Prop :=
  forall fd, after.get fd = if fd ≤ 2 then some (.slave slave) else before.get fd

/-- `ptyFork` returns to the caller.  It fails at a step and leaves no trace, or
adds the master and hands out the complete name.  If it returns to the child,
the child has the slave for its standard descriptors and the master no more. -/
structure CleanFork {snLen : Nat} (answers : PtyAnswers) (fork : ForkAnswer)
    (room : Option Nat) (slaveTermios : Option Termios) (slaveWS : Option Winsize)
    (before : Caller PtyFile) (result : Except Failure (ForkOutcome snLen)) : Prop where
  returns : fork ≠ .child -> Exists fun outcome => result = .ok outcome
  refused : forall outcome, result = .ok outcome -> outcome.result = -1 ->
    Refused (forkSteps answers room fork) before outcome.process
  opened : forall outcome, result = .ok outcome -> 0 < outcome.result ->
    Exists fun mfd : Nat => Exists fun name : CString =>
      outcome.masterFd = mfd ∧ answers.ptsname = .ok name ∧
        (forall buffer, outcome.slaveName = some buffer -> Holds buffer name) ∧
        Opened (forkSteps answers room fork) before outcome.process mfd .master
  child : forall outcome, result = .ok outcome -> outcome.result = 0 ->
    Exists fun name : CString => answers.ptsname = .ok name ∧
      ChildTable before.descriptors outcome.process.descriptors ⟨name, slaveTermios, slaveWS⟩

/-! ## The master -/

section

variable {snLen : Nat} {answers : PtyAnswers} {before process : Caller PtyFile}
  {slaveName : Vector Byte snLen} {masterFd : Nat}

theorem CleanMaster.refusal
    (refused : Refused (masterSteps answers snLen) before process) :
    CleanMaster answers before ⟨none, slaveName, process⟩ where
  refused _ := refused
  opened _ impossible := by cases impossible

theorem CleanMaster.success {name : CString} (named : answers.ptsname = .ok name)
    (holds : Holds slaveName name)
    (opened : Opened (masterSteps answers snLen) before process masterFd .master) :
    CleanMaster answers before ⟨some masterFd, slaveName, process⟩ where
  refused impossible := by cases impossible
  opened other returned := by
    cases returned
    exact ⟨name, named, holds, opened⟩

theorem takeName_clean
    (added : Slots.Added before.descriptors process.descriptors masterFd .master)
    (steps : firstError (masterSteps answers snLen) =
      firstError [nameError answers.ptsname (some snLen)]) :
    CleanMaster answers before (takeName answers masterFd slaveName process) := by
  unfold takeName
  cases named : answers.ptsname with
  | error errno =>
      have kept : Slots.Added before.descriptors (process.setErrno errno).descriptors masterFd
          .master := added
      rw [named, nameError, firstError_failed] at steps
      exact .refusal (.closeKeepingErrno kept steps answers.close)
  | ok name =>
      simp only
      by_cases fits : name.strlen < snLen
      · rw [if_pos fits]
        rw [named, nameError, if_pos fits, firstError_passed] at steps
        exact .success named (holds_strncpy slaveName fits) ⟨added, steps⟩
      · rw [if_neg fits]
        rw [named, nameError, if_neg fits, firstError_failed] at steps
        exact .refusal (.close added steps answers.close)

end

theorem ptyMasterOpen_clean {snLen : Nat} (answers : PtyAnswers) (slaveName : Vector Byte snLen)
    (process : Caller PtyFile) :
    CleanMaster answers process (ptyMasterOpen answers slaveName process) := by
  have steps : firstError (masterSteps answers snLen) =
      firstError [answers.posix_openpt, answers.grantpt, answers.unlockpt,
        nameError answers.ptsname (some snLen)] := rfl
  unfold ptyMasterOpen
  cases opened : answers.posix_openpt with
  | some failure =>
      simp only [Caller.openFile]
      rw [opened, firstError_failed] at steps
      exact .refusal ⟨.refl _, steps⟩
  | none =>
      have added := (Slots.Same.refl process.descriptors).acquire PtyFile.master
      rw [opened, firstError_passed] at steps
      cases granted : answers.grantpt with
      | some failure =>
          simp only [Caller.openFile, Caller.onFile]
          rw [granted, firstError_failed] at steps
          exact .refusal (.closeKeepingErrno added steps answers.close)
      | none =>
          have kept := added.modify id
          rw [granted, firstError_passed] at steps
          cases unlocked : answers.unlockpt with
          | some failure =>
              simp only [Caller.openFile, Caller.onFile]
              rw [unlocked, firstError_failed] at steps
              exact .refusal (.closeKeepingErrno kept steps answers.close)
          | none =>
              simp only [Caller.openFile, Caller.onFile]
              rw [unlocked, firstError_passed] at steps
              exact takeName_clean (kept.modify id) steps

/-! ## The child -/

theorem required_bind {Value : Type} {dumpcore : Option String} {failure : Option Errno}
    {message : String} {rest : Unit -> Except Failure Value} {value : Value}
    (returned : (required dumpcore failure message >>= rest) = .ok value) :
    rest () = .ok value := by
  cases failure with
  | some errno => cases returned
  | none => exact returned

theorem configure_bind {Setting Value : Type} {dumpcore : Option String} {failure : Option Errno}
    {message : String} {setting : Option Setting} {install : Setting -> PtySlave -> PtySlave}
    {slaveFd : Nat} {before descriptors : Slots PtyFile} {slave : PtySlave}
    {rest : Slots PtyFile -> Except Failure Value} {value : Value}
    (added : Slots.Added before descriptors slaveFd (.slave slave))
    (returned : (configure dumpcore failure message setting install slaveFd descriptors >>= rest) =
      .ok value) :
    Exists fun configured : Slots PtyFile =>
      Slots.Added before configured slaveFd
          (.slave (setting.elim slave (fun chosen => install chosen slave))) ∧
        rest configured = .ok value := by
  cases setting with
  | none => exact ⟨descriptors, added, returned⟩
  | some chosen =>
      unfold configure at returned
      rw [bind_assoc] at returned
      have passed := required_bind returned
      exact ⟨_, added.modify _, passed⟩

theorem get_duplicate {descriptors : Slots PtyFile} {oldfd : Nat} {object : PtyFile}
    (held : descriptors.get oldfd = some object) (newfd fd : Nat) :
    (duplicate descriptors oldfd newfd).get fd =
      if fd = newfd then some object else descriptors.get fd := by
  unfold duplicate
  rw [held]
  exact Slots.get_put descriptors newfd fd object

/-- The last part of the child: with the slave at the three standard places and
at no other new place, the table is the one of a child. -/
theorem closeSpare_standard {before configured : Slots PtyFile} {slaveFd : Nat} {slave : PtySlave}
    (opened : Slots.Added before configured slaveFd (.slave slave)) :
    ChildTable before
      (if slaveFd > 2 then
        (duplicate (duplicate (duplicate configured slaveFd 0) slaveFd 1) slaveFd 2).release slaveFd
      else duplicate (duplicate (duplicate configured slaveFd 0) slaveFd 1) slaveFd 2) slave := by
  have first := get_duplicate opened.held 0
  have held : (duplicate configured slaveFd 0).get slaveFd = some (.slave slave) := by
    rw [first, opened.held, ite_self]
  have second := get_duplicate held 1
  have heldAgain : (duplicate (duplicate configured slaveFd 0) slaveFd 1).get slaveFd =
      some (.slave slave) := by
    rw [second, held, ite_self]
  have third := get_duplicate heldAgain 2
  intro fd
  have standard : (duplicate (duplicate (duplicate configured slaveFd 0) slaveFd 1) slaveFd 2).get fd =
      if fd ≤ 2 then some (.slave slave) else configured.get fd := by
    rw [third, second, first]
    split_ifs <;> first | rfl | omega
  split
  · rename_i spare
    rw [Slots.get_release, standard]
    by_cases closed : fd = slaveFd
    · rw [if_pos closed, if_neg (by omega), closed, opened.free]
    · rw [if_neg closed, opened.others fd closed]
  · rename_i kept
    rw [standard]
    by_cases low : fd ≤ 2
    · rw [if_pos low, if_pos low]
    · rw [if_neg low, if_neg low, opened.others fd (by omega)]

theorem ptyForkChild_table {dumpcore : Option String} {answers : ChildAnswers} {mfd : Nat}
    {slname : CString} {slaveTermios : Option Termios} {slaveWS : Option Winsize}
    {before descriptors after : Slots PtyFile}
    (added : Slots.Added before descriptors mfd .master)
    (returned : ptyForkChild dumpcore answers mfd slname slaveTermios slaveWS descriptors =
      .ok after) :
    ChildTable before after ⟨slname, slaveTermios, slaveWS⟩ := by
  unfold ptyForkChild at returned
  have returned := required_bind returned
  have returned := required_bind returned
  have returned := required_bind returned
  have opened := added.release.acquire (PtyFile.slave ⟨slname, none, none⟩)
  obtain ⟨withTermios, opened, returned⟩ := configure_bind opened returned
  obtain ⟨configured, opened, returned⟩ := configure_bind opened returned
  have returned := required_bind returned
  have returned := required_bind returned
  have returned := required_bind returned
  generalize (descriptors.release mfd).lowestFree = slaveFd at opened returned
  cases returned
  apply closeSpare_standard
  cases slaveTermios <;> cases slaveWS <;> exact opened

/-! ## The caller -/

section

variable {snLen : Nat} {answers : PtyAnswers} {fork : ForkAnswer} {room : Option Nat}
  {slaveTermios : Option Termios} {slaveWS : Option Winsize} {before process : Caller PtyFile}
  {masterFd : Int} {slaveName : Option (Vector Byte snLen)}

theorem CleanFork.refusal (refused : Refused (forkSteps answers room fork) before process) :
    CleanFork answers fork room slaveTermios slaveWS before
      (.ok ⟨-1, masterFd, slaveName, process⟩) where
  returns _ := ⟨_, rfl⟩
  refused outcome returned _ := by
    cases returned
    exact refused
  opened outcome returned positive := by
    cases returned
    cases positive
  child outcome returned zero := by
    cases returned
    cases zero

theorem CleanFork.success {mfd : Nat} {name : CString} {childPid : PNat}
    (named : answers.ptsname = .ok name)
    (holds : forall buffer, slaveName = some buffer -> Holds buffer name)
    (opened : Opened (forkSteps answers room fork) before process mfd .master) :
    CleanFork answers fork room slaveTermios slaveWS before
      (.ok ⟨childPid.val, mfd, slaveName, process⟩) where
  returns _ := ⟨_, rfl⟩
  refused outcome returned negative := by
    cases returned
    cases negative
  opened outcome returned _ := by
    cases returned
    exact ⟨mfd, name, rfl, named, holds, opened⟩
  child outcome returned zero := by
    cases returned
    exact absurd (Int.ofNat_eq_zero.mp zero) childPid.pos.ne'

theorem CleanFork.started {name : CString} {table : Except Failure (Slots PtyFile)}
    (named : answers.ptsname = .ok name)
    (standard : forall descriptors, table = .ok descriptors ->
      ChildTable before.descriptors descriptors ⟨name, slaveTermios, slaveWS⟩) :
    CleanFork answers .child room slaveTermios slaveWS before (do
      let descriptors <- table
      return ⟨0, masterFd, slaveName, { process with descriptors := descriptors }⟩) where
  returns caller := absurd rfl caller
  refused outcome returned negative := by
    cases table <;> cases returned
    cases negative
  opened outcome returned positive := by
    cases table <;> cases returned
    cases positive
  child outcome returned _ := by
    cases table with
    | error failure => cases returned
    | ok descriptors =>
        cases returned
        exact ⟨name, named, standard descriptors rfl⟩

/-- Either the name fits the caller's buffer, and the buffer holds it afterwards,
or it does not. -/
theorem returnName_spec (slaveName : Option (Vector Byte snLen)) (name : CString) :
    (returnName slaveName name = none ∧
      nameError (.ok name) (slaveName.map fun _ => snLen) = some .EOVERFLOW) ∨
    (Exists fun filled => returnName slaveName name = some filled ∧
      nameError (.ok name) (slaveName.map fun _ => snLen) = none ∧
      forall buffer, filled = some buffer -> Holds buffer name) := by
  cases slaveName with
  | none =>
      refine Or.inr ⟨none, rfl, rfl, ?_⟩
      intro buffer impossible
      cases impossible
  | some given =>
      by_cases fits : name.strlen < snLen
      · refine Or.inr ⟨some (strncpy given name snLen), ?_, ?_, ?_⟩
        · simp only [returnName, if_pos fits]
        · simp only [Option.map_some, nameError, if_pos fits]
        · intro buffer filled
          cases filled
          exact holds_strncpy given fits
      · refine Or.inl ⟨?_, ?_⟩
        · simp only [returnName, if_neg fits]
        · simp only [Option.map_some, nameError, if_neg fits]

end

theorem ptyFork_clean {snLen : Nat} (dumpcore : Option String) (answers : PtyAnswers)
    (fork : ForkAnswer) (child : ChildAnswers) (masterFd : Int)
    (slaveName : Option (Vector Byte snLen)) (slaveTermios : Option Termios)
    (slaveWS : Option Winsize) (slname : Vector Byte MAX_SNAME) (process : Caller PtyFile) :
    CleanFork answers fork (slaveName.map fun _ => snLen) slaveTermios slaveWS process
      (ptyFork dumpcore answers fork child masterFd slaveName slaveTermios slaveWS slname
        process) := by
  have master := ptyMasterOpen_clean answers slname process
  unfold ptyFork
  generalize ptyMasterOpen answers slname process = opened at master
  rcases opened with ⟨returned, filled, opened⟩
  cases returned with
  | none =>
      have refused := master.refused rfl
      exact .refusal ⟨refused.same, firstError_append_of_some refused.errno _⟩
  | some mfd =>
      obtain ⟨name, named, holds, ⟨added, passed⟩⟩ := master.opened mfd rfl
      have steps : firstError (forkSteps answers (slaveName.map fun _ => snLen) fork) =
          firstError [nameError answers.ptsname (slaveName.map fun _ => snLen), fork.error] :=
        firstError_append_of_none passed _
      simp only [holds.stringIn_eq]
      rcases returnName_spec slaveName name with ⟨copied, wrong⟩ | ⟨buffer, copied, right, given⟩
      · rw [copied]
        rw [named, wrong, firstError_failed] at steps
        exact .refusal (.close added steps answers.close)
      · rw [copied]
        rw [named, right, firstError_passed] at steps
        cases fork with
        | failed errno =>
            have kept : Slots.Added process.descriptors (opened.setErrno errno).descriptors mfd
                .master := added
            exact .refusal (.closeKeepingErrno kept steps answers.close)
        | parent childPid => exact .success named given ⟨added, steps⟩
        | child =>
            apply CleanFork.started named
            intro descriptors table
            exact ptyForkChild_table added table

/-- The helpers that return a new descriptor, of a UNIX domain socket or of a
pseudoterminal master, leave no trace when they fail, whatever a `close` does to
`errno`.  When they succeed they add one descriptor and the names they store are
complete. -/
theorem descriptor_helpers_clean {snLen : Nat} (path : Option CString) (type : Int)
    (unixAnswers : UnixAnswers) (addr : SockaddrUn) (sockets : Caller UnixFile)
    (dumpcore : Option String) (answers : PtyAnswers) (fork : ForkAnswer) (child : ChildAnswers)
    (masterFd : Int) (slaveName : Vector Byte snLen) (nameToReturn : Option (Vector Byte snLen))
    (slaveTermios : Option Termios) (slaveWS : Option Winsize) (slname : Vector Byte MAX_SNAME)
    (process : Caller PtyFile) :
    CleanOpen UnixSocket.connected path type unixAnswers sockets
        (unixConnect path type unixAnswers addr sockets) ∧
      CleanOpen UnixSocket.bound path type unixAnswers sockets
        (unixBind path type unixAnswers addr sockets) ∧
      CleanMaster answers process (ptyMasterOpen answers slaveName process) ∧
      CleanFork answers fork (nameToReturn.map fun _ => snLen) slaveTermios slaveWS process
        (ptyFork dumpcore answers fork child masterFd nameToReturn slaveTermios slaveWS slname
          process) :=
  ⟨unixOpen_clean UnixSocket.connected path type unixAnswers addr sockets,
    unixOpen_clean UnixSocket.bound path type unixAnswers addr sockets,
    ptyMasterOpen_clean answers slaveName process,
    ptyFork_clean dumpcore answers fork child masterFd nameToReturn slaveTermios slaveWS slname
      process⟩

end Lib
end Tlpi
