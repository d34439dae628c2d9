import Tlpi.Foundations.Exclusion

namespace Tlpi
namespace CLibrary

open Foundations

universe u

/-!
# Mutexes, semaphores and spinlocks

Three primitives that keep others out.  A mutex and a spinlock know whether they are
held, and the mutex also by whom; a semaphore is a number that a wait takes one from and
a post adds one to, and keeps others out only if it starts at one.
-/

variable {Thread : Type u}

/-- A mutex: the thread that holds it. -/
def mutex [DecidableEq Thread] : ExclusiveLock (Option Thread) Thread where
  initial := none
  acquire owner thread := if owner = none then some (some thread) else none
  release owner thread := if owner = some thread then some none else none
  Admits owner holder := owner = holder
  initially := rfl
  acquired := by
    intro state next holder thread same acquired
    split at acquired
    · rename_i free
      cases acquired
      exact ⟨same.symm.trans free, rfl⟩
    · cases acquired
  released := by
    intro state next thread held released
    rw [if_pos held] at released
    exact (Option.some.inj released).symm

/-- A semaphore with the initial value one: its value. -/
def semaphore : ExclusiveLock Nat Thread where
  initial := 1
  acquire value _ := if 0 < value then some (value - 1) else none
  release value _ := some (value + 1)
  Admits value holder := value = if holder.isNone then 1 else 0
  initially := rfl
  acquired := by
    intro value next holder thread same acquired
    split at acquired
    · rename_i positive
      cases acquired
      cases holder with
      | none =>
          rw [same]
          exact ⟨rfl, rfl⟩
      | some other =>
          rw [same] at positive
          cases positive
    · cases acquired
  released := by
    intro value next thread same released
    cases released
    rw [same]
    rfl

/-- A spinlock: whether it is held. -/
def spinlock : ExclusiveLock Bool Thread where
  initial := false
  acquire held _ := if held then none else some true
  release _ _ := some false
  Admits held holder := held = holder.isSome
  initially := rfl
  acquired := by
    intro held next holder thread same acquired
    split at acquired
    · cases acquired
    · rename_i free
      cases acquired
      cases holder with
      | none => exact ⟨rfl, rfl⟩
      | some other =>
          rw [same] at free
          exact absurd rfl free
  released := by
    intro held next thread _ released
    cases released
    rfl

end CLibrary
end Tlpi
