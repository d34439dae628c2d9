import Tlpi.CLibrary.RecordLock

namespace Tlpi
namespace Lib

open CLibrary Foundations

universe u v w

/-!
# Testing whether a region is locked

`regionIsLocked` answers with one number: `-1` for an error, `0` for a region that is
free, and the holder's process ID otherwise.  The last comes from `fcntl`, whose `l_pid`
need not be a process ID.
-/

variable {Process : Type u} {Description : Type v} {Inode : Type w}
variable [DecidableEq Process] [DecidableEq Description] [DecidableEq Inode]

/-- Test if a file region is lockable.  The structure's `l_pid` starts uninitialised. -/
def regionIsLocked (failure : Option Errno) (pidOf : Process -> Option PNat)
    (table : LockTable (LockOwner Process Description) Inode) (caller : Process)
    (fd : OpenFile Inode) (type : LockType) (whence : Whence) (start len uninitialised : Int) :
    Int :=
  match fcntlGetlk failure pidOf table caller fd ⟨type, whence, start, len⟩ uninitialised with
  | .error _ => -1
  | .ok fl => if fl.l_type = .F_UNLCK then 0 else fl.l_pid

/-- A lock of another owner conflicts with the one asked about. -/
def Contended (table : LockTable (LockOwner Process Description) Inode) (caller : Process)
    (fd : OpenFile Inode) (fl : Flock) : Prop :=
  Exists fun region => fl.region fd = .ok region ∧ Exists fun held =>
    held ∈ table.locks ∧
      held.Conflicts ⟨.process caller, fd.inode, fl.l_type = .F_WRLCK, region⟩

/-- The three answers are told apart: by `outcome`, what `fcntl` says, and by whether the
region is contended. -/
structure TellsApart (answer : Int) (outcome : Except Errno LockHolder) (contended : Prop) :
    Prop where
  error : answer = -1 <-> Exists fun errno => outcome = .error errno
  free : forall fl, outcome = .ok fl -> ¬ contended -> answer = 0
  held : forall fl, outcome = .ok fl -> contended -> 0 < answer

/-- The owner is a process that the caller can see. -/
def VisibleProcess (pidOf : Process -> Option PNat) (owner : LockOwner Process Description) :
    Prop :=
  Exists fun holder => owner = .process holder ∧ pidOf holder ≠ none

variable {failure : Option Errno} {pidOf : Process -> Option PNat}
variable {table : LockTable (LockOwner Process Description) Inode} {caller : Process}
variable {fd : OpenFile Inode} {fl : Flock}

omit [DecidableEq Process] [DecidableEq Description] [DecidableEq Inode] in
/-- A request that is taken is for the region and the type that were asked for. -/
theorem contended_iff {request : Lock (LockOwner Process Description) Inode}
    (taken : fl.request (.process caller) fd = .ok request) :
    Contended table caller fd fl <->
      Exists fun held => held ∈ table.locks ∧ held.Conflicts request := by
  have named : Exists fun region => fl.region fd = .ok region ∧
      request = ⟨.process caller, fd.inode, fl.l_type = .F_WRLCK, region⟩ := by
    unfold Flock.request at taken
    split at taken
    · cases taken
    all_goals
      split at taken
      · cases taken
      · next region found =>
          cases taken
          exact ⟨region, found, rfl⟩
  rcases named with ⟨region, found, rfl⟩
  constructor
  · rintro ⟨other, same, held, member, conflicts⟩
    rw [found] at same
    cases same
    exact ⟨held, member, conflicts⟩
  · rintro ⟨held, member, conflicts⟩
    exact ⟨region, found, held, member, conflicts⟩

theorem not_contended_of_none {request : Lock (LockOwner Process Description) Inode}
    (taken : fl.request (.process caller) fd = .ok request)
    (clear : firstConflict table request = none) : ¬ Contended table caller fd fl := by
  rw [contended_iff taken]
  rintro ⟨held, member, conflicts⟩
  exact of_decide_eq_false (by simpa using List.find?_eq_none.mp clear held member) conflicts

theorem contended_of_some {request held : Lock (LockOwner Process Description) Inode}
    (taken : fl.request (.process caller) fd = .ok request)
    (first : firstConflict table request = some held) : Contended table caller fd fl :=
  (contended_iff taken).mpr
    ⟨held, List.mem_of_find?_eq_some first, by simpa using List.find?_some first⟩

omit [DecidableEq Process] [DecidableEq Description] in
/-- Only a process that the caller can see has a positive `l_pid`. -/
theorem pid_pos_iff (owner : LockOwner Process Description) :
    0 < owner.pid pidOf <-> VisibleProcess pidOf owner := by
  cases owner with
  | description holder =>
      constructor
      · intro positive
        cases positive
      · rintro ⟨holder, same, _⟩
        cases same
  | process holder =>
      cases seen : pidOf holder with
      | none =>
          have zero : (LockOwner.process holder : LockOwner Process Description).pid pidOf = 0 := by
            simp only [LockOwner.pid, seen]
          rw [zero]
          constructor
          · intro positive
            exact absurd positive (by decide)
          · rintro ⟨other, same, visible⟩
            cases same
            exact absurd seen visible
      | some pid =>
          have value : (LockOwner.process holder : LockOwner Process Description).pid pidOf =
              ((pid : Nat) : Int) := by
            simp only [LockOwner.pid, seen]
          rw [value]
          constructor
          · intro _
            exact ⟨holder, rfl, by rw [seen]; exact Option.some_ne_none pid⟩
          · intro _
            exact_mod_cast pid.pos

/-- Whether `fcntl` fails shows in the answer, and nothing is asked of the table. -/
theorem tellsApart_of_error {outcome : Except Errno LockHolder} {errno : Errno}
    (failed : outcome = .error errno) (contended : Prop) : TellsApart (-1) outcome contended := by
  refine ⟨⟨fun _ => ⟨errno, failed⟩, fun _ => rfl⟩, ?_, ?_⟩
  all_goals
    intro fl same
    rw [failed] at same
    cases same

/-- With a lock in the way, the answers are told apart just when the number is positive. -/
theorem tellsApart_held_iff {answer : Int} {outcome : Except Errno LockHolder} {fl : LockHolder}
    {contended : Prop} (answered : outcome = .ok fl) (held : contended) :
    TellsApart answer outcome contended <-> 0 < answer := by
  subst answered
  constructor
  · intro apart
    exact apart.held fl rfl held
  · intro positive
    refine ⟨⟨fun negative => ?_, fun failed => ?_⟩, fun _ _ clear => absurd held clear,
      fun _ _ _ => positive⟩
    · omega
    · rcases failed with ⟨errno, same⟩
      cases same

theorem tellsApart_free {outcome : Except Errno LockHolder} {fl : LockHolder} {contended : Prop}
    (answered : outcome = .ok fl) (clear : ¬ contended) : TellsApart 0 outcome contended := by
  subst answered
  refine ⟨⟨fun negative => ?_, fun failed => ?_⟩, fun _ _ _ => rfl,
    fun _ _ held => absurd held clear⟩
  · cases negative
  · rcases failed with ⟨errno, same⟩
    cases same

/-- `regionIsLocked` tells its three answers apart exactly when `fcntl` fails, or the first
lock in the way, if there is one, is held by a process that the caller can see. -/
theorem regionIsLocked_apart_iff (failure : Option Errno) (pidOf : Process -> Option PNat)
    (table : LockTable (LockOwner Process Description) Inode) (caller : Process)
    (fd : OpenFile Inode) (type : LockType) (whence : Whence) (start len uninitialised : Int) :
    TellsApart (regionIsLocked failure pidOf table caller fd type whence start len uninitialised)
        (fcntlGetlk failure pidOf table caller fd ⟨type, whence, start, len⟩ uninitialised)
        (Contended table caller fd ⟨type, whence, start, len⟩) <->
      (failure = none -> forall request,
        Flock.request ⟨type, whence, start, len⟩ (.process caller) fd = .ok request ->
          forall held, firstConflict table request = some held ->
            VisibleProcess pidOf held.owner) := by
  unfold regionIsLocked
  cases why : failure with
  | some errno =>
      have failed : fcntlGetlk (some errno) pidOf table caller fd ⟨type, whence, start, len⟩
          uninitialised = .error errno := rfl
      rw [failed]
      constructor
      · intro _ none
        cases none
      · intro _
        exact tellsApart_of_error rfl _
  | none =>
      cases taken : Flock.request ⟨type, whence, start, len⟩ (LockOwner.process caller) fd with
      | error errno =>
          have failed : fcntlGetlk none pidOf table caller fd ⟨type, whence, start, len⟩
              uninitialised = .error errno := by
            simp only [fcntlGetlk, taken]
          rw [failed]
          constructor
          · intro _ _ request same
            cases same
          · intro _
            exact tellsApart_of_error rfl _
      | ok request =>
          cases first : firstConflict table request with
          | none =>
              have free : fcntlGetlk none pidOf table caller fd ⟨type, whence, start, len⟩
                  uninitialised = .ok ⟨.F_UNLCK, uninitialised⟩ := by
                simp only [fcntlGetlk, taken, first]
              rw [free]
              constructor
              · intro _ _ other same held found
                cases same
                rw [first] at found
                cases found
              · intro _
                exact tellsApart_free rfl (not_contended_of_none taken first)
          | some held =>
              have answered : fcntlGetlk none pidOf table caller fd ⟨type, whence, start, len⟩
                  uninitialised =
                    .ok ⟨if held.exclusive then .F_WRLCK else .F_RDLCK, held.owner.pid pidOf⟩ := by
                simp only [fcntlGetlk, taken, first]
              have kind : (if held.exclusive then LockType.F_WRLCK else .F_RDLCK) ≠ .F_UNLCK := by
                split <;> decide
              rw [answered]
              dsimp only
              rw [if_neg kind, tellsApart_held_iff rfl (contended_of_some taken first), pid_pos_iff]
              constructor
              · intro visible _ other same found located
                cases same
                rw [first] at located
                cases located
                exact visible
              · intro visible
                exact visible rfl request rfl held first

/-- The table in which one owner holds an exclusive lock on the whole of file 0. -/
def heldBy (owner : LockOwner Nat Nat) : LockTable (LockOwner Nat Nat) Nat where
  locks := [⟨owner, 0, true, Region.whole⟩]
  compatible := by
    intro left leftMember right rightMember conflicts
    rw [List.mem_singleton] at leftMember rightMember
    subst leftMember rightMember
    exact conflicts.2.1 rfl

/-- The caller, process 1, sees itself only. -/
def aloneInNamespace (process : Nat) : Option PNat := if process = 1 then some ⟨1, Nat.one_pos⟩ else none

/-- A file locked through an open file description gives the answer for an error, and one
locked by a process of another PID namespace the answer for a free region. -/
theorem regionIsLocked_confuses :
    ¬ TellsApart
        (regionIsLocked none aloneInNamespace (heldBy (.description 0)) 1 ⟨0, 0, 0⟩ .F_WRLCK
          .SEEK_SET 0 0 0)
        (fcntlGetlk none aloneInNamespace (heldBy (.description 0)) 1 ⟨0, 0, 0⟩
          ⟨.F_WRLCK, .SEEK_SET, 0, 0⟩ 0)
        (Contended (heldBy (.description 0)) 1 ⟨0, 0, 0⟩ ⟨.F_WRLCK, .SEEK_SET, 0, 0⟩) ∧
      ¬ TellsApart
        (regionIsLocked none aloneInNamespace (heldBy (.process 2)) 1 ⟨0, 0, 0⟩ .F_WRLCK
          .SEEK_SET 0 0 0)
        (fcntlGetlk none aloneInNamespace (heldBy (.process 2)) 1 ⟨0, 0, 0⟩
          ⟨.F_WRLCK, .SEEK_SET, 0, 0⟩ 0)
        (Contended (heldBy (.process 2)) 1 ⟨0, 0, 0⟩ ⟨.F_WRLCK, .SEEK_SET, 0, 0⟩) := by
  constructor
  · intro apart
    have negative : regionIsLocked none aloneInNamespace (heldBy (.description 0)) 1 ⟨0, 0, 0⟩
        .F_WRLCK .SEEK_SET 0 0 0 = -1 := by
      decide
    rcases apart.error.mp negative with ⟨errno, failed⟩
    cases failed
  · intro apart
    have contended : Contended (heldBy (.process 2)) 1 (⟨0, 0, 0⟩ : OpenFile Nat)
        ⟨.F_WRLCK, .SEEK_SET, 0, 0⟩ :=
      ⟨Region.whole, rfl, _, List.mem_singleton_self _, by decide⟩
    have answer : regionIsLocked none aloneInNamespace (heldBy (.process 2)) 1 ⟨0, 0, 0⟩
        .F_WRLCK .SEEK_SET 0 0 0 = 0 := by
      decide
    have positive := apart.held ⟨.F_WRLCK, 0⟩ rfl contended
    rw [answer] at positive
    exact absurd positive (by decide)

end Lib
end Tlpi
