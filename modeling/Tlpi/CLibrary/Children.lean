import Tlpi.CLibrary.Descriptor

namespace Tlpi
namespace CLibrary

/-!
# The children of a process

A child that terminates stays as a zombie, with its wait status, until its parent
waits for it.  The list below has the children that have not been waited for.  A
call that may take any zombie takes the one that the kernel chooses.
-/

/-- A child that has not been waited for, with its wait status once it has
terminated. -/
structure Child where
  pid : Nat
  status : Option Int
deriving DecidableEq, Repr

/-- The child has terminated. -/
def Child.zombie (child : Child) : Bool := child.status.isSome

def terminateChild (children : List Child) (pid : Nat) (status : Int) : Option (List Child) :=
  if children.any (fun child => child.pid = pid && !child.zombie) then
    some (children.map (fun child => if child.pid = pid then ⟨pid, some status⟩ else child))
  else none

/-- Take the wait status of a zombie with a given process ID, and forget it. -/
def reap (pid : Nat) : List Child -> Option (Int × List Child)
  | [] => none
  | child :: rest =>
      if child.pid = pid then child.status.map (fun status => (status, rest))
      else (reap pid rest).map (fun (status, others) => (status, child :: others))

/-- `waitpid(pid, &status, 0)`.  It blocks while the child is running. -/
def waitpid (children : List Child) (pid : Nat) : Option (Except Errno Int × List Child) :=
  if children.any (fun child => child.pid = pid) then
    (reap pid children).map (fun (status, rest) => (.ok status, rest))
  else some (.error .ECHILD, children)

/-- `waitpid(-1, &status, WNOHANG)`: the child that was waited for and its
status, or nothing if all are running.  The kernel chooses among the zombies. -/
def waitpidAny (children : List Child) (chosen : Nat) :
    Option (Except Errno (Option (Nat × Int)) × List Child) :=
  if children = [] then some (.error .ECHILD, children)
  else if children.any Child.zombie then
    (reap chosen children).map (fun (status, rest) => (.ok (some (chosen, status)), rest))
  else some (.ok none, children)

/-- The calls of `while (waitpid(-1, NULL, WNOHANG) > 0)`: each takes the zombie that is
chosen for it, and the last one finds none. -/
inductive ReapsAll : List Child -> List Nat -> List Child -> Prop
  | ends {children rest : List Child} {answer : Except Errno (Option (Nat × Int))} {chosen : Nat} :
      waitpidAny children chosen = some (answer, rest) -> (forall taken, answer ≠ .ok (some taken)) ->
        ReapsAll children [chosen] rest
  | takes {children others rest : List Child} {pid : Nat} {status : Int} {chosen : List Nat} :
      waitpidAny children pid = some (.ok (some (pid, status)), others) -> ReapsAll others chosen rest ->
        ReapsAll children (pid :: chosen) rest

section

variable {children rest : List Child} {pid : Nat} {status : Int}

theorem terminateChild_eq_some (terminated : terminateChild children pid status = some rest) :
    rest = children.map (fun child => if child.pid = pid then ⟨pid, some status⟩ else child) := by
  unfold terminateChild at terminated
  split at terminated
  · cases terminated
    rfl
  · cases terminated

theorem length_terminateChild (terminated : terminateChild children pid status = some rest) :
    rest.length = children.length := by
  rw [terminateChild_eq_some terminated, List.length_map]

theorem map_pid_terminateChild (terminated : terminateChild children pid status = some rest) :
    rest.map Child.pid = children.map Child.pid := by
  rw [terminateChild_eq_some terminated, List.map_map]
  apply List.map_congr_left
  intro child _
  simp only [Function.comp_apply]
  split
  · exact Eq.symm ‹_›
  · rfl

theorem mem_terminateChild (terminated : terminateChild children pid status = some rest)
    {child : Child} (member : child ∈ children) :
    (if child.pid = pid then ⟨pid, some status⟩ else child) ∈ rest := by
  rw [terminateChild_eq_some terminated]
  exact List.mem_map_of_mem member

theorem pid_mem_of_terminateChild (terminated : terminateChild children pid status = some rest) :
    pid ∈ children.map Child.pid := by
  unfold terminateChild at terminated
  split at terminated
  · rename_i found
    rcases List.any_eq_true.mp found with ⟨child, member, running⟩
    rw [Bool.and_eq_true, decide_eq_true_eq] at running
    rw [← running.1]
    exact List.mem_map_of_mem member
  · cases terminated

/-- The inversion of one step of `reap`: the child at the front is taken, or it is
another one and stays. -/
theorem reap_cons {child : Child} {others : List Child}
    (reaped : reap pid (child :: others) = some (status, rest)) :
    (child = ⟨pid, some status⟩ ∧ rest = others) ∨
      (child.pid ≠ pid ∧ Exists fun remaining =>
        reap pid others = some (status, remaining) ∧ rest = child :: remaining) := by
  unfold reap at reaped
  split at reaped
  · rename_i own
    rcases Option.map_eq_some_iff.mp reaped with ⟨found, terminated, same⟩
    cases same
    rcases child with ⟨number, state⟩
    cases own
    cases terminated
    exact .inl ⟨rfl, rfl⟩
  · rcases Option.map_eq_some_iff.mp reaped with ⟨⟨found, remaining⟩, later, same⟩
    cases same
    exact .inr ⟨‹_›, remaining, later, rfl⟩

theorem reap_sublist (reaped : reap pid children = some (status, rest)) :
    rest.Sublist children := by
  induction children generalizing rest with
  | nil => cases reaped
  | cons child others inductionHypothesis =>
      rcases reap_cons reaped with ⟨-, same⟩ | ⟨-, remaining, later, same⟩
      · rw [same]
        exact List.sublist_cons_self child others
      · rw [same]
        exact (inductionHypothesis later).cons_cons child

/-- While process IDs are distinct, the child that is taken is the only one with
its process ID. -/
theorem reap_unique (distinct : (children.map Child.pid).Nodup)
    (reaped : reap pid children = some (status, rest)) :
    (forall found, Child.mk pid found ∈ children -> found = some status) ∧
      pid ∉ rest.map Child.pid := by
  induction children generalizing rest with
  | nil => cases reaped
  | cons child others inductionHypothesis =>
      rcases List.nodup_cons.mp distinct with ⟨fresh, distinctOthers⟩
      rcases reap_cons reaped with ⟨own, same⟩ | ⟨other, remaining, later, same⟩
      · subst own
        subst same
        refine ⟨?_, fresh⟩
        intro found member
        rcases List.mem_cons.mp member with here | there
        · cases here
          rfl
        · exact absurd (List.mem_map_of_mem there) fresh
      · subst same
        rcases inductionHypothesis distinctOthers later with ⟨unique, gone⟩
        refine ⟨?_, ?_⟩
        · intro found member
          rcases List.mem_cons.mp member with here | there
          · subst here
            exact absurd rfl other
          · exact unique found there
        · rw [List.map_cons, List.mem_cons, not_or]
          exact ⟨Ne.symm other, gone⟩

theorem reap_isSome (distinct : (children.map Child.pid).Nodup)
    (member : Child.mk pid (some status) ∈ children) :
    Exists fun rest => reap pid children = some (status, rest) := by
  induction children with
  | nil => cases member
  | cons child others inductionHypothesis =>
      rcases List.nodup_cons.mp distinct with ⟨fresh, distinctOthers⟩
      rcases List.mem_cons.mp member with here | there
      · subst here
        exact ⟨others, by simp [reap]⟩
      · rcases inductionHypothesis distinctOthers there with ⟨rest, reaped⟩
        have other : child.pid ≠ pid := by
          intro same
          rw [same] at fresh
          exact fresh (List.mem_map_of_mem there)
        exact ⟨child :: rest, by simp [reap, other, reaped]⟩

theorem waitpid_of_mem {child : Child} (member : child ∈ children) (own : child.pid = pid) :
    waitpid children pid = (reap pid children).map (fun (status, rest) => (.ok status, rest)) := by
  unfold waitpid
  rw [if_pos]
  simp only [List.any_eq_true, decide_eq_true_eq]
  exact ⟨child, member, own⟩

theorem length_reap (reaped : reap pid children = some (status, rest)) :
    rest.length + 1 = children.length := by
  induction children generalizing rest with
  | nil => cases reaped
  | cons child others inductionHypothesis =>
      rcases reap_cons reaped with ⟨-, same⟩ | ⟨-, remaining, later, same⟩
      · rw [same, List.length_cons]
      · rw [same, List.length_cons, List.length_cons, inductionHypothesis later]

theorem waitpidAny_eq_some {answer : Except Errno (Option (Nat × Int))}
    (waited : waitpidAny children pid = some (answer, rest)) :
    (answer = .error .ECHILD ∧ children = [] ∧ rest = children) ∨
      (answer = .ok none ∧ (forall child, child ∈ children -> child.zombie = false) ∧
        rest = children) ∨
      Exists fun status => answer = .ok (some (pid, status)) ∧
        reap pid children = some (status, rest) := by
  unfold waitpidAny at waited
  split at waited
  · cases waited
    exact .inl ⟨rfl, ‹_›, rfl⟩
  · split at waited
    · rcases Option.map_eq_some_iff.mp waited with ⟨⟨status, remaining⟩, reaped, same⟩
      cases same
      exact .inr (.inr ⟨status, rfl, reaped⟩)
    · rename_i running
      cases waited
      refine .inr (.inl ⟨rfl, ?_, rfl⟩)
      simpa using running

theorem waitpidAny_of_zombie (distinct : (children.map Child.pid).Nodup)
    (member : Child.mk pid (some status) ∈ children) : Exists fun rest =>
      waitpidAny children pid = some (.ok (some (pid, status)), rest) ∧
        reap pid children = some (status, rest) := by
  rcases reap_isSome distinct member with ⟨rest, reaped⟩
  refine ⟨rest, ?_, reaped⟩
  unfold waitpidAny
  rw [if_neg (List.ne_nil_of_mem member), if_pos (List.any_eq_true.mpr ⟨_, member, rfl⟩), reaped]
  rfl

theorem ReapsAll.zombie_eq_false {chosen : List Nat} (reaps : ReapsAll children chosen rest) :
    forall child, child ∈ rest -> child.zombie = false := by
  induction reaps with
  | ends waited none =>
      rcases waitpidAny_eq_some waited with ⟨_, empty, same⟩ | ⟨_, alive, same⟩ | ⟨status, taken, _⟩
      · rw [same, empty]
        exact fun child member => absurd member List.not_mem_nil
      · rw [same]
        exact alive
      · exact absurd taken (none _)
  | takes _ _ inductionHypothesis => exact inductionHypothesis

/-- The loop comes to its end. -/
theorem exists_reapsAll (distinct : (children.map Child.pid).Nodup) :
    Exists fun chosen => Exists fun rest => ReapsAll children chosen rest := by
  induction length : children.length generalizing children with
  | zero =>
      rw [List.length_eq_zero_iff] at length
      exact ⟨[0], children, .ends (by rw [waitpidAny, if_pos length]) (fun _ same => by cases same)⟩
  | succ count inductionHypothesis =>
      by_cases dead : children.any Child.zombie = true
      · rcases List.any_eq_true.mp dead with ⟨⟨pid, status⟩, member, zombie⟩
        rcases Option.isSome_iff_exists.mp zombie with ⟨code, same⟩
        cases same
        rcases waitpidAny_of_zombie distinct member with ⟨others, waited, reaped⟩
        have shorter := length_reap reaped
        have stillDistinct := ((reap_sublist reaped).map Child.pid).nodup distinct
        rcases inductionHypothesis stillDistinct (by omega) with ⟨chosen, rest, reaps⟩
        exact ⟨pid :: chosen, rest, .takes waited reaps⟩
      · have nonempty : children ≠ [] := List.ne_nil_of_length_eq_add_one length
        have waited : waitpidAny children 0 = some (.ok none, children) := by
          rw [waitpidAny, if_neg nonempty, if_neg dead]
        exact ⟨[0], children, .ends waited (fun _ same => by cases same)⟩

end

end CLibrary
end Tlpi
