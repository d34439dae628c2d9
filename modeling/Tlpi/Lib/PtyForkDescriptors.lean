import Tlpi.CLibrary.Strtol
import Tlpi.Lib.PtyFork

namespace Tlpi
namespace Lib

open CLibrary Foundations

/-!
# The descriptors on both sides of `ptyFork`

The caller may start with any descriptors open, the standard ones included or not.  The
pseudoterminal is new, so none of them refers to either end of it.
-/

/-- A caller with some files open. -/
def ptyCaller (files : Slots Nat) (errno : Errno) : Caller PtyFile :=
  ⟨files.map .elsewhere, errno⟩

theorem get_ptyCaller (files : Slots Nat) (errno : Errno) (fd : Nat) :
    (ptyCaller files errno).descriptors.get fd = (files.get fd).map .elsewhere :=
  Slots.get_map PtyFile.elsewhere files fd

/-- A child with its standard descriptors at the slave, neither end at any other place,
and the other files where they were. -/
structure ConnectedChild (files : Slots Nat) (slave : PtySlave) (after : Slots PtyFile) : Prop where
  standard : forall fd, fd ≤ 2 -> after.get fd = some (.slave slave)
  noMaster : forall fd, after.get fd ≠ some .master
  noOther : forall fd other, after.get fd = some (.slave other) -> fd ≤ 2
  unchanged : forall fd, 2 < fd -> after.get fd = (files.get fd).map .elsewhere

/-- A parent with the master at a new place, and the other files where they were. -/
structure ConnectedParent (files : Slots Nat) (masterFd : Nat) (after : Slots PtyFile) : Prop where
  master : after.get masterFd = some .master
  unchanged : forall fd, fd ≠ masterFd -> after.get fd = (files.get fd).map .elsewhere

theorem ChildTable.connected {files : Slots Nat} {errno : Errno} {slave : PtySlave}
    {after : Slots PtyFile} (table : ChildTable (ptyCaller files errno).descriptors after slave) :
    ConnectedChild files slave after := by
  have low : forall fd, fd ≤ 2 -> after.get fd = some (.slave slave) := by
    intro fd below
    exact (table fd).trans (if_pos below)
  have high : forall fd, 2 < fd -> after.get fd = (files.get fd).map .elsewhere := by
    intro fd above
    rw [table fd, if_neg (Nat.not_le.mpr above), get_ptyCaller]
  refine ⟨low, ?_, ?_, high⟩
  · intro fd held
    rcases Nat.lt_or_ge 2 fd with above | below
    · rw [high fd above] at held
      cases file : files.get fd <;> rw [file] at held <;> cases held
    · rw [low fd below] at held
      cases held
  · intro fd other held
    by_contra above
    rw [high fd (Nat.lt_of_not_le above)] at held
    cases file : files.get fd <;> rw [file] at held <;> cases held

/-- `ptyFork` connects its child to the slave and its caller to the master, from every
starting table and for every choice of what the caller asks for. -/
theorem ptyFork_connects {snLen : Nat} (dumpcore : Option String) (answers : PtyAnswers)
    (fork : ForkAnswer) (child : ChildAnswers) (masterFd : Int)
    (slaveName : Option (Vector Byte snLen)) (slaveTermios : Option Termios)
    (slaveWS : Option Winsize) (slname : Vector Byte MAX_SNAME) (files : Slots Nat)
    (errno : Errno) (outcome : ForkOutcome snLen)
    (returned : ptyFork dumpcore answers fork child masterFd slaveName slaveTermios slaveWS slname
      (ptyCaller files errno) = .ok outcome) :
    (outcome.result = 0 -> Exists fun slave => answers.ptsname = .ok slave.name ∧
      ConnectedChild files slave outcome.process.descriptors) ∧
    (0 < outcome.result -> Exists fun mfd : Nat => outcome.masterFd = mfd ∧
      ConnectedParent files mfd outcome.process.descriptors) := by
  have clean := ptyFork_clean dumpcore answers fork child masterFd slaveName slaveTermios slaveWS
    slname (ptyCaller files errno)
  constructor
  · intro inChild
    rcases clean.child outcome returned inChild with ⟨name, named, table⟩
    exact ⟨_, named, table.connected⟩
  · intro inParent
    rcases clean.opened outcome returned inParent with ⟨mfd, _, stored, _, _, opened⟩
    refine ⟨mfd, stored, opened.added.held, ?_⟩
    intro fd different
    rw [opened.added.others fd different, get_ptyCaller]

/-- Every call succeeds, and the slave has a name. -/
def newPty : PtyAnswers :=
  ⟨none, none, none, .ok ⟨ascii "/dev/pts/3", nullFree_of_all (by decide)⟩, none⟩

/-- A caller whose standard input and output are closed. -/
def closedStandard : Slots Nat := ⟨[none, none, some 7, some 8]⟩

theorem ptyFork_connects_closedStandard : Exists fun outcome : ForkOutcome 0 =>
    ptyFork none newPty .child ⟨none, none, none, none, none, fun _ => none⟩ (-1) none none none
        (Vector.replicate MAX_SNAME 0) (ptyCaller closedStandard (.other 0)) = .ok outcome ∧
      Exists fun slave => newPty.ptsname = .ok slave.name ∧
        ConnectedChild closedStandard slave outcome.process.descriptors :=
  ⟨_, rfl, (ptyFork_connects none newPty .child ⟨none, none, none, none, none, fun _ => none⟩ (-1)
    none none none (Vector.replicate MAX_SNAME 0) closedStandard (.other 0) _ rfl).1 rfl⟩

end Lib
end Tlpi
