import Tlpi.ThreadSafeSpecific.StrerrorTsd

namespace Tlpi
namespace ThreadSafeSpecific
namespace StrerrorTls

open CLibrary Foundations

universe u

/-!
# `strerror` with thread-local storage

The buffer is declared `__thread`, so that every thread has its own from its
beginning and nothing is allocated.  Otherwise the function is the one with a static
buffer.
-/

/-- Where a thread is; `idle` before its first call and `returned` after a call. -/
inductive Phase where
  | idle
  | filling (err : CInt)
  | terminating (err : CInt)
  | returned (err : CInt)
deriving DecidableEq

/-- A thread: where it is, and its `buf`. -/
structure ThreadState where
  phase : Phase
  buf : Buffer
deriving DecidableEq

/-- What a thread does: it begins a call, or goes on with it. -/
inductive Act where
  | call (err : CInt)
  | proceed
deriving DecidableEq

def threadStep (table : ErrorTable) (own : ThreadState) (act : Act) : Option ThreadState :=
  match own.phase, act with
  | .idle, .call err => some { own with phase := .filling err }
  | .returned _, .call err => some { own with phase := .filling err }
  | .filling err, .proceed =>
      match table.message err with
      | none => some ⟨.returned err, unknownError own.buf err⟩
      | some msg => some ⟨.terminating err, copyMessage own.buf msg⟩
  | .terminating err, .proceed => some ⟨.returned err, terminateMessage own.buf⟩
  | _, _ => none

abbrev State (Thread : Type u) := Thread -> ThreadState

variable {Thread : Type u} [DecidableEq Thread]

def step (table : ErrorTable) (state : State Thread) (action : Thread × Act) : Option (State Thread) :=
  (threadStep table (state action.1) action.2).map (Function.update state action.1)

/-- A thread-local buffer begins cleared. -/
def start : State Thread := fun _ => ⟨.idle, Vector.replicate MAX_ERROR_LEN 0⟩

def machine (table : ErrorTable) : Machine (State Thread) (Thread × Act) where
  Initial state := state = start
  step := step table

def ThreadOk (table : ErrorTable) (own : ThreadState) : Prop :=
  match own.phase with
  | .terminating err => Exists fun old => Exists fun msg =>
      table.message err = some msg ∧ own.buf = copyMessage old msg
  | .returned err => Holds own.buf (messageFor table err)
  | _ => True

theorem threadStep_ok {table : ErrorTable} {own next : ThreadState} {act : Act}
    (ok : ThreadOk table own) (stepped : threadStep table own act = some next) :
    ThreadOk table next := by
  unfold ThreadOk at ok
  unfold threadStep at stepped
  split at stepped
  · cases stepped
    trivial
  · cases stepped
    trivial
  · rename_i err position
    split at stepped
    · rename_i known
      cases stepped
      have message : messageFor table err = unknownText err := by
        unfold messageFor
        rw [known]
      change Holds _ (messageFor table err)
      rw [message]
      exact holds_unknownError own.buf err
    · rename_i msg known
      cases stepped
      exact ⟨own.buf, msg, known, rfl⟩
  · rename_i err position
    cases stepped
    rw [position] at ok
    rcases ok with ⟨old, msg, known, copied⟩
    have message : messageFor table err = cutText msg := by
      unfold messageFor
      rw [known]
    change Holds (terminateMessage own.buf) (messageFor table err)
    rw [message, copied]
    exact holds_terminateMessage old msg
  · cases stepped

variable {table : ErrorTable}

/-- One step changes only the thread that takes it. -/
theorem step_eq {state next : State Thread} {action : Thread × Act}
    (stepped : step table state action = some next) :
    threadStep table (state action.1) action.2 = some (next action.1) ∧
      forall thread, thread ≠ action.1 -> next thread = state thread := by
  rcases Option.map_eq_some_iff.mp stepped with ⟨own, moved, same⟩
  subst same
  refine ⟨?_, fun thread different => Function.update_of_ne different _ _⟩
  rw [Function.update_self]
  exact moved

theorem reachable_ok {state : State Thread} (reachable : (machine table).Reachable state)
    (thread : Thread) : ThreadOk table (state thread) := by
  revert thread
  apply Machine.Reachable.invariant _ _ reachable
  · rintro state rfl thread
    trivial
  · intro state action next ok stepped thread
    rcases step_eq stepped with ⟨moved, others⟩
    by_cases same : thread = action.1
    · rw [same]
      exact threadStep_ok (ok action.1) moved
    · rw [others thread same]
      exact ok thread

/-- While other threads take their steps, a thread stays as it is. -/
theorem exec_others {state final : State Thread} {thread : Thread} {actions : List (Thread × Act)}
    (others : forall action, action ∈ actions -> action.1 ≠ thread)
    (executed : (machine table).exec state actions = some final) : final thread = state thread := by
  induction actions generalizing state with
  | nil =>
      cases executed
      rfl
  | cons action rest inductionHypothesis =>
      rcases Option.bind_eq_some_iff.mp executed with ⟨next, stepped, continued⟩
      have different := others action List.mem_cons_self
      have later := inductionHypothesis
        (fun other member => others other (List.mem_cons_of_mem action member)) continued
      exact later.trans ((step_eq stepped).2 thread different.symm)

/-- What the threads may rely on. -/
structure Isolated (table : ErrorTable) (state : State Thread) : Prop where
  text : forall thread err, (state thread).phase = .returned err ->
    Holds (state thread).buf (messageFor table err) ∧
      forall static, stringIn (state thread).buf = stringIn (strerror table static err)
  unchanged : forall thread (actions : List (Thread × Act)) final,
    (forall action, action ∈ actions -> action.1 ≠ thread) ->
    (machine table).exec state actions = some final -> final thread = state thread

theorem reachable_isolated {state : State Thread} (reachable : (machine table).Reachable state) :
    Isolated table state where
  text thread err returned := by
    have ok := reachable_ok reachable thread
    unfold ThreadOk at ok
    rw [returned] at ok
    refine ⟨ok, fun static => ?_⟩
    rw [ok.stringIn_eq, (holds_strerror table static err).stringIn_eq]
  unchanged _ _ _ others executed := exec_others others executed

/-- In both versions for several threads, whatever the table and however the calls of
any number of threads interleave, a thread is returned the string that the version
with one static buffer returns, and keeps it until its own next call.  With
thread-specific data each thread allocates one buffer, which no other thread has, and
one key is created. -/
theorem strerror_isolated (table : ErrorTable) :
    (forall state : StrerrorTsd.State Thread, (StrerrorTsd.machine table).Reachable state ->
      StrerrorTsd.Isolated table state) ∧
    (forall state : State Thread, (machine table).Reachable state -> Isolated table state) :=
  ⟨fun _ reachable => (StrerrorTsd.reachable_invariant reachable).isolated,
    fun _ reachable => reachable_isolated reachable⟩

/-- One message. -/
def onlyPermission : ErrorTable :=
  ⟨[some ⟨ascii "Success", nullFree_of_all (by decide)⟩,
    some ⟨ascii "Operation not permitted", nullFree_of_all (by decide)⟩, none]⟩

def firstErr : CInt := ⟨1, by decide⟩

def secondErr : CInt := ⟨2, by decide⟩

/-- Two first calls at once, the second of which waits for the key. -/
def racing : List (Bool × StrerrorTsd.Act) :=
  [(false, .call firstErr), (true, .call secondErr), (true, .proceed), (true, .proceed),
    (false, .proceed), (false, .proceed), (true, .proceed),
    (false, .malloc 8 (Vector.replicate MAX_ERROR_LEN 7)),
    (true, .malloc 9 (Vector.replicate MAX_ERROR_LEN 7)),
    (true, .proceed), (false, .proceed), (false, .proceed), (true, .proceed), (false, .proceed)]

def racingFinal : StrerrorTsd.State Bool :=
  ((StrerrorTsd.machine onlyPermission).exec
    (StrerrorTsd.start (fun _ => false) (fun _ => Vector.replicate MAX_ERROR_LEN 7)) racing).get
      (by decide +kernel)

def callingFinal : State Bool :=
  ((machine onlyPermission).exec start
    [(false, .call firstErr), (true, .call secondErr), (true, .proceed), (false, .proceed),
      (false, .proceed)]).get (by decide +kernel)

theorem racing_isolated :
    (racingFinal.threads false).phase = .returned firstErr 8 ∧
      (racingFinal.threads true).phase = .returned secondErr 9 ∧
      (callingFinal false).phase = .returned firstErr ∧
      StrerrorTsd.Isolated onlyPermission racingFinal ∧ Isolated onlyPermission callingFinal := by
  have raced : (StrerrorTsd.machine onlyPermission).Reachable racingFinal :=
    Machine.reachable_of_exec ⟨fun _ => false, fun _ => Vector.replicate MAX_ERROR_LEN 7, rfl⟩
      (Option.some_get _).symm
  have called : (machine onlyPermission).Reachable callingFinal :=
    Machine.reachable_of_exec rfl (Option.some_get _).symm
  exact ⟨by decide +kernel, by decide +kernel, by decide +kernel,
    (strerror_isolated onlyPermission).1 racingFinal raced,
    (strerror_isolated onlyPermission).2 callingFinal called⟩

end StrerrorTls
end ThreadSafeSpecific
end Tlpi
