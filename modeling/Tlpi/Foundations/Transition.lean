import Mathlib.Data.List.Basic

namespace Tlpi
namespace Foundations

universe u v

/-!
# Labelled machines and their runs

A machine takes one labelled step at a time.  The label resolves every choice
that the environment makes: which process moves, which outcome the kernel
reports, whether a wake-up is spurious.  A label that is not enabled in a state
has no successor.  Step functions are therefore executable, while a statement
about all runs still covers every scheduling and every environment.

A run may be restricted by a condition on the state *before* each step.  The
unrestricted notion is the special case of the condition that is always true,
so one invariant rule serves both.
-/

/-- A partial deterministic step function on labelled actions, with the states
in which a run may begin. -/
structure Machine (State : Type u) (Action : Type v) where
  Initial : State -> Prop
  step : State -> Action -> Option State

namespace Machine

variable {State : Type u} {Action : Type v} (machine : Machine State Action)

/-- Execute a finite list of labels, or stop at the first one not enabled. -/
def exec : State -> List Action -> Option State
  | state, [] => some state
  | state, action :: rest => (machine.step state action).bind (fun next => exec next rest)

/-- Execute a run whose steps must all meet a condition that can be decided. -/
def execUnder (condition : State -> Action -> Prop)
    [forall state, DecidablePred (condition state)] : State -> List Action -> Option State
  | state, [] => some state
  | state, action :: rest =>
      if condition state action then
        (machine.step state action).bind (fun next => execUnder condition next rest)
      else none

/-- Every step of the run meets the condition in the state it starts from. -/
def Along (condition : State -> Action -> Prop) : State -> List Action -> Prop
  | _, [] => True
  | state, action :: rest =>
      condition state action ∧
        forall next, machine.step state action = some next -> Along condition next rest

/-- The states reached by runs all of whose steps meet the condition. -/
inductive ReachableUnder (condition : State -> Action -> Prop) : State -> Prop
  | initial {state : State} : machine.Initial state -> ReachableUnder condition state
  | step {state next : State} {action : Action} :
      ReachableUnder condition state -> condition state action ->
      machine.step state action = some next -> ReachableUnder condition next

def Reachable : State -> Prop :=
  machine.ReachableUnder (fun _ _ => True)

variable {machine}

theorem exec_append (state : State) (first second : List Action) :
    machine.exec state (first ++ second) =
      (machine.exec state first).bind (fun next => machine.exec next second) := by
  induction first generalizing state with
  | nil => rfl
  | cons action rest inductionHypothesis =>
      simp only [List.cons_append, exec, Option.bind_assoc]
      congr 1
      funext next
      exact inductionHypothesis next

/-- The invariant rule.  A step lemma may use the condition that the run
imposes on the step. -/
theorem ReachableUnder.invariant {condition : State -> Action -> Prop}
    {Invariant : State -> Prop}
    (initially : forall state, machine.Initial state -> Invariant state)
    (preserved : forall state action next, Invariant state -> condition state action ->
      machine.step state action = some next -> Invariant next)
    {state : State} (reachable : machine.ReachableUnder condition state) :
    Invariant state := by
  induction reachable with
  | initial start => exact initially _ start
  | step _ met stepped inductionHypothesis =>
      exact preserved _ _ _ inductionHypothesis met stepped

theorem Reachable.invariant {Invariant : State -> Prop}
    (initially : forall state, machine.Initial state -> Invariant state)
    (preserved : forall state action next, Invariant state ->
      machine.step state action = some next -> Invariant next)
    {state : State} (reachable : machine.Reachable state) : Invariant state :=
  ReachableUnder.invariant initially
    (fun state action next holds _ stepped => preserved state action next holds stepped) reachable

/-- A step that is taken splits off from the rest of its run. -/
theorem along_cons {condition : State -> Action -> Prop} {state next : State} {action : Action}
    (stepped : machine.step state action = some next) (rest : List Action) :
    machine.Along condition state (action :: rest) <->
      condition state action ∧ machine.Along condition next rest := by
  refine and_congr_right (fun _ => ⟨fun along => along next stepped, ?_⟩)
  intro along other otherStep
  cases stepped.symm.trans otherStep
  exact along

/-- Two conditions that agree as long as an invariant holds, which every step meeting
them keeps, are met along the same runs. -/
theorem along_congr {first second : State -> Action -> Prop} {Invariant : State -> Prop}
    (same : forall state action, Invariant state -> (first state action <-> second state action))
    (preserved : forall state action next, Invariant state -> second state action ->
      machine.step state action = some next -> Invariant next)
    {state : State} (holds : Invariant state) (actions : List Action) :
    machine.Along first state actions <-> machine.Along second state actions := by
  induction actions generalizing state with
  | nil => exact Iff.rfl
  | cons action rest inductionHypothesis =>
      constructor
      · rintro ⟨met, along⟩
        have agreed := (same state action holds).mp met
        refine ⟨agreed, ?_⟩
        intro next stepped
        exact (inductionHypothesis (preserved state action next holds agreed stepped)).mp
          (along next stepped)
      · rintro ⟨met, along⟩
        refine ⟨(same state action holds).mpr met, ?_⟩
        intro next stepped
        exact (inductionHypothesis (preserved state action next holds met stepped)).mpr
          (along next stepped)

/-- An executed run extends reachability by all of its steps. -/
theorem ReachableUnder.exec {condition : State -> Action -> Prop} {state final : State}
    (reachable : machine.ReachableUnder condition state) {actions : List Action}
    (met : machine.Along condition state actions)
    (executed : machine.exec state actions = some final) :
    machine.ReachableUnder condition final := by
  induction actions generalizing state with
  | nil =>
      cases executed
      exact reachable
  | cons action rest inductionHypothesis =>
      rcases Option.bind_eq_some_iff.mp executed with ⟨next, stepped, continued⟩
      exact inductionHypothesis (.step reachable met.1 stepped) (met.2 next stepped) continued

/-- A run executed under a condition exhibits a state reachable under it. -/
theorem ReachableUnder.execUnder {condition : State -> Action -> Prop}
    [forall state, DecidablePred (condition state)] {state final : State}
    (reachable : machine.ReachableUnder condition state) {actions : List Action}
    (executed : machine.execUnder condition state actions = some final) :
    machine.ReachableUnder condition final := by
  induction actions generalizing state with
  | nil =>
      cases executed
      exact reachable
  | cons action rest inductionHypothesis =>
      unfold Machine.execUnder at executed
      split at executed
      · rcases Option.bind_eq_some_iff.mp executed with ⟨next, stepped, continued⟩
        exact inductionHypothesis (.step reachable ‹_› stepped) continued
      · cases executed

theorem along_true (state : State) (actions : List Action) :
    machine.Along (fun _ _ => True) state actions := by
  induction actions generalizing state with
  | nil => trivial
  | cons action rest inductionHypothesis =>
      exact ⟨trivial, fun next _ => inductionHypothesis next⟩

theorem Reachable.exec {state final : State} (reachable : machine.Reachable state)
    {actions : List Action} (executed : machine.exec state actions = some final) :
    machine.Reachable final :=
  ReachableUnder.exec reachable (along_true state actions) executed

/-- An executable run from an initial state exhibits a reachable state. -/
theorem reachable_of_exec {start final : State} {actions : List Action}
    (initial : machine.Initial start) (executed : machine.exec start actions = some final) :
    machine.Reachable final :=
  Reachable.exec (.initial initial) executed

/-- The latch rule.  Suppose an invariant holds, a step leaves `Live` exactly when
it violates the condition, and `Live` is never regained.  Then a run from a live
state ends live exactly when every one of its steps met the condition. -/
theorem exec_live_iff_along_of_invariant {condition : State -> Action -> Prop}
    {Invariant Live : State -> Prop}
    (preserved : forall state action next, Invariant state ->
      machine.step state action = some next -> Invariant next)
    (guarded : forall state action next, Invariant state -> Live state ->
      machine.step state action = some next -> (Live next <-> condition state action))
    (lost : forall state action next, Invariant state -> ¬ Live state ->
      machine.step state action = some next -> ¬ Live next)
    {state final : State} (holds : Invariant state) (live : Live state) {actions : List Action}
    (executed : machine.exec state actions = some final) :
    Live final <-> machine.Along condition state actions := by
  have dead : forall (actions : List Action) (state : State), Invariant state -> ¬ Live state ->
      machine.exec state actions = some final -> ¬ Live final := by
    intro actions
    induction actions with
    | nil =>
        intro state _ notLive executed
        cases executed
        exact notLive
    | cons action rest inductionHypothesis =>
        intro state holds notLive executed
        rcases Option.bind_eq_some_iff.mp executed with ⟨next, stepped, continued⟩
        exact inductionHypothesis next (preserved state action next holds stepped)
          (lost state action next holds notLive stepped) continued
  induction actions generalizing state with
  | nil =>
      cases executed
      exact ⟨fun _ => trivial, fun _ => live⟩
  | cons action rest inductionHypothesis =>
      rcases Option.bind_eq_some_iff.mp executed with ⟨next, stepped, continued⟩
      have here := guarded state action next holds live stepped
      have nextHolds := preserved state action next holds stepped
      rw [along_cons stepped]
      constructor
      · intro finalLive
        have nextLive : Live next := by
          by_contra notLive
          exact dead rest next nextHolds notLive continued finalLive
        exact ⟨here.mp nextLive, (inductionHypothesis nextHolds nextLive continued).mp finalLive⟩
      · rintro ⟨met, along⟩
        exact (inductionHypothesis nextHolds (here.mpr met) continued).mpr along

/-- The latch rule without an invariant. -/
theorem exec_live_iff_along {condition : State -> Action -> Prop} {Live : State -> Prop}
    (guarded : forall state action next, Live state -> machine.step state action = some next ->
      (Live next <-> condition state action))
    (lost : forall state action next, ¬ Live state -> machine.step state action = some next ->
      ¬ Live next)
    {state final : State} (live : Live state) {actions : List Action}
    (executed : machine.exec state actions = some final) :
    Live final <-> machine.Along condition state actions :=
  have always : forall state action next, True -> machine.step state action = some next -> True :=
    fun _ _ _ _ _ => trivial
  exec_live_iff_along_of_invariant always (fun state action next _ => guarded state action next)
    (fun state action next _ => lost state action next) trivial live executed

end Machine

end Foundations
end Tlpi
