import Mathlib.Tactic.ByContra

namespace Tlpi
namespace Foundations

universe u v

/-!
# Locks that admit one party

A lock has a state, which the parties change by acquiring and releasing it.  A party
that cannot acquire it waits.  What makes such a thing a lock is a relation between its
state and the party that it admits: a party can acquire it only when nobody is
admitted, and is then the one admitted, until it releases the lock.  The state need not
know the party: a counter that starts at one is a lock in this sense.
-/

/-- A lock with the relation between its states and the party it admits. -/
structure ExclusiveLock (State : Type u) (Party : Type v) where
  initial : State
  acquire : State -> Party -> Option State
  release : State -> Party -> Option State
  Admits : State -> Option Party -> Prop
  initially : Admits initial none
  acquired : forall {state next holder party}, Admits state holder ->
    acquire state party = some next -> holder = none ∧ Admits next (some party)
  released : forall {state next party}, Admits state (some party) ->
    release state party = some next -> Admits next none

namespace ExclusiveLock

variable {State : Type u} {Party : Type v} (lock : ExclusiveLock State Party)

/-- The lock admits exactly the party that is inside. -/
def Guards (state : State) (inside : Party -> Prop) : Prop :=
  Exists fun holder => lock.Admits state holder ∧ forall party, inside party <-> holder = some party

variable {lock} {state next : State} {inside : Party -> Prop}

theorem Guards.unique (guards : lock.Guards state inside) {first second : Party}
    (firstInside : inside first) (secondInside : inside second) : first = second := by
  rcases guards with ⟨holder, _, same⟩
  exact Option.some.inj (((same first).mp firstInside).symm.trans ((same second).mp secondInside))

theorem Guards.initial (nobody : forall party, ¬ inside party) : lock.Guards lock.initial inside :=
  ⟨none, lock.initially, fun party => iff_of_false (nobody party) (fun same => by cases same)⟩

theorem Guards.acquire (guards : lock.Guards state inside) {party : Party}
    (acquired : lock.acquire state party = some next) {insideNext : Party -> Prop}
    (enters : insideNext party) (others : forall other, other ≠ party -> insideNext other -> inside other) :
    (forall other, ¬ inside other) ∧ lock.Guards next insideNext := by
  rcases guards with ⟨holder, admits, same⟩
  rcases lock.acquired admits acquired with ⟨free, admitsNext⟩
  have nobody : forall other, ¬ inside other := by
    intro other isInside
    have holds := (same other).mp isInside
    rw [free] at holds
    cases holds
  refine ⟨nobody, some party, admitsNext, ?_⟩
  intro other
  constructor
  · intro isInside
    by_contra different
    have notParty : other ≠ party := fun equal => different (congrArg some equal.symm)
    exact nobody other (others other notParty isInside)
  · intro equal
    rw [← Option.some.inj equal]
    exact enters

theorem Guards.release (guards : lock.Guards state inside) {party : Party} (isInside : inside party)
    (released : lock.release state party = some next) {insideNext : Party -> Prop}
    (leaves : ¬ insideNext party) (others : forall other, other ≠ party -> insideNext other -> inside other) :
    (forall other, ¬ insideNext other) ∧ lock.Guards next insideNext := by
  have alone : forall other, inside other -> other = party :=
    fun other otherInside => guards.unique otherInside isInside
  rcases guards with ⟨holder, admits, same⟩
  rw [(same party).mp isInside] at admits
  have nobody : forall other, ¬ insideNext other := by
    intro other otherInside
    by_cases equal : other = party
    · rw [equal] at otherInside
      exact leaves otherInside
    · exact equal (alone other (others other equal otherInside))
  exact ⟨nobody, none, lock.released admits released,
    fun other => iff_of_false (nobody other) (fun equal => by cases equal)⟩

/-- Steps that take nobody in or out. -/
theorem Guards.congr (guards : lock.Guards state inside) {insideNext : Party -> Prop}
    (same : forall party, insideNext party <-> inside party) : lock.Guards state insideNext := by
  rcases guards with ⟨holder, admits, admitted⟩
  exact ⟨holder, admits, fun party => (same party).trans (admitted party)⟩

end ExclusiveLock

end Foundations
end Tlpi
