import Mathlib.Logic.Function.Basic
import Tlpi.Foundations.Transition
import Tlpi.ThreadSafeSpecific.Strerror

namespace Tlpi
namespace ThreadSafeSpecific
namespace StrerrorTsd

open CLibrary Foundations

universe u

/-!
# `strerror` with thread-specific data

The first call in the process creates a key, under `pthread_once`.  The first call
in a thread allocates a buffer and makes it the value of the key for that thread.
The destructor of the key frees the buffer when the thread ends.

One step is one call of the library or one statement that writes into the buffer, so
the calls of different threads interleave between any two of these.  All calls
succeed.  The allocator is free in its choice of an address that is not in use, and
the block that it hands out may hold anything.
-/

/-- The state of the variable `once`. -/
inductive Once where
  | fresh
  | running
  | done
deriving DecidableEq, Repr

/-- Where a thread is, each position named after what it does next; `idle` before its
first call and `returned` after a call. -/
inductive Phase where
  | idle
  | calling (err : CInt)
  | creating (err : CInt)
  | getting (err : CInt)
  | allocating (err : CInt)
  | setting (err : CInt) (buf : Nat)
  | filling (err : CInt) (buf : Nat)
  | terminating (err : CInt) (buf : Nat)
  | returned (err : CInt) (buf : Nat)
  | destroying (buf : Nat)
  | exited
deriving DecidableEq

/-- A thread: where it is, its value for each key, and how often it called `malloc`. -/
structure ThreadState where
  phase : Phase
  specific : Nat -> Option Nat
  mallocs : Nat

/-- What the threads share.  Keys are numbered in the order of their creation. -/
structure Shared where
  once : Once
  strerrorKey : Nat
  keys : Nat
  allocated : Nat -> Bool
  heap : Nat -> Buffer

structure State (Thread : Type u) where
  shared : Shared
  threads : Thread -> ThreadState

/-- What a thread does.  A call of `malloc` is labelled with the block it gets. -/
inductive Act where
  | call (err : CInt)
  | proceed
  | malloc (address : Nat) (contents : Buffer)
  | exit

/-- Begin a call. -/
def ThreadState.enter (own : ThreadState) (err : CInt) : ThreadState :=
  { own with phase := .calling err }

/-- End the thread, through the destructor if the key has a value. -/
def ThreadState.leave (own : ThreadState) (key : Nat) : ThreadState :=
  match own.specific key with
  | some buf => { own with phase := .destroying buf, specific := Function.update own.specific key none }
  | none => { own with phase := .exited }

/-- `if (err < 0 || err >= _sys_nerr || _sys_errlist[err] == NULL)` and the two branches,
up to the statement that terminates a copied message. -/
def fillStep (table : ErrorTable) (shared : Shared) (own : ThreadState) (err : CInt) (buf : Nat) :
    Shared × ThreadState :=
  match table.message err with
  | none =>
      ({ shared with
          heap := Function.update shared.heap buf (unknownError (shared.heap buf) err) },
        { own with phase := .returned err buf })
  | some msg =>
      ({ shared with heap := Function.update shared.heap buf (copyMessage (shared.heap buf) msg) },
        { own with phase := .terminating err buf })

def threadStep (table : ErrorTable) (shared : Shared) (own : ThreadState) (act : Act) :
    Option (Shared × ThreadState) :=
  match own.phase, act with
  | .idle, .call err => some (shared, own.enter err)
  | .returned _ _, .call err => some (shared, own.enter err)
  | .calling err, .proceed =>
      match shared.once with
      | .fresh => some ({ shared with once := .running }, { own with phase := .creating err })
      | .running => none
      | .done => some (shared, { own with phase := .getting err })
  | .creating err, .proceed =>
      some ({ shared with once := .done, strerrorKey := shared.keys, keys := shared.keys + 1 },
        { own with phase := .getting err })
  | .getting err, .proceed =>
      match own.specific shared.strerrorKey with
      | none => some (shared, { own with phase := .allocating err })
      | some buf => some (shared, { own with phase := .filling err buf })
  | .allocating err, .malloc address contents =>
      if shared.allocated address = false then
        some ({ shared with
            allocated := Function.update shared.allocated address true
            heap := Function.update shared.heap address contents },
          { own with phase := .setting err address, mallocs := own.mallocs + 1 })
      else none
  | .setting err buf, .proceed =>
      some (shared,
        { own with
          phase := .filling err buf
          specific := Function.update own.specific shared.strerrorKey (some buf) })
  | .filling err buf, .proceed => some (fillStep table shared own err buf)
  | .terminating err buf, .proceed =>
      some ({ shared with heap := Function.update shared.heap buf (terminateMessage (shared.heap buf)) },
        { own with phase := .returned err buf })
  | .idle, .exit => some (shared, own.leave shared.strerrorKey)
  | .returned _ _, .exit => some (shared, own.leave shared.strerrorKey)
  | .destroying buf, .proceed =>
      some ({ shared with allocated := Function.update shared.allocated buf false },
        { own with phase := .exited })
  | _, _ => none

variable {Thread : Type u} [DecidableEq Thread]

def step (table : ErrorTable) (state : State Thread) (action : Thread × Act) : Option (State Thread) :=
  (threadStep table state.shared (state.threads action.1) action.2).map
    (fun result => ⟨result.1, Function.update state.threads action.1 result.2⟩)

/-- The start: no thread has called, and the heap is whatever the rest of the program
has made of it. -/
def start (allocated : Nat -> Bool) (heap : Nat -> Buffer) : State Thread where
  shared := ⟨.fresh, 0, 0, allocated, heap⟩
  threads := fun _ => ⟨.idle, fun _ => none, 0⟩

def machine (table : ErrorTable) : Machine (State Thread) (Thread × Act) where
  Initial state := Exists fun allocated => Exists fun heap => state = start allocated heap
  step := step table

/-!
## What a thread owns
-/

/-- The buffer of a thread: the value of the key, or the block on its way to become it
or to be freed. -/
def ThreadState.owned (own : ThreadState) (key : Nat) : Option Nat :=
  match own.phase with
  | .setting _ buf => some buf
  | .destroying buf => some buf
  | _ => own.specific key

/-- The positions before the key is known to exist. -/
def Phase.BeforeOnce : Phase -> Prop
  | .idle | .calling _ | .creating _ | .exited => True
  | _ => False

/-- What holds of the value of the key, and of the buffer, at each position. -/
def Content (table : ErrorTable) (shared : Shared) (own : ThreadState) : Prop :=
  match own.phase with
  | .allocating _ | .setting _ _ | .destroying _ | .exited => own.specific shared.strerrorKey = none
  | .filling _ buf => own.specific shared.strerrorKey = some buf
  | .terminating err buf =>
      own.specific shared.strerrorKey = some buf ∧
        Exists fun old => Exists fun msg =>
          table.message err = some msg ∧ shared.heap buf = copyMessage old msg
  | .returned err buf =>
      own.specific shared.strerrorKey = some buf ∧ Holds (shared.heap buf) (messageFor table err)
  | _ => True

structure ThreadOk (table : ErrorTable) (shared : Shared) (own : ThreadState) : Prop where
  unset : shared.once ≠ .done ->
    (forall key, own.specific key = none) ∧ own.mallocs = 0 ∧ own.phase.BeforeOnce
  creating : forall err, own.phase = .creating err -> shared.once = .running
  allocated : forall address, own.owned shared.strerrorKey = some address ->
    shared.allocated address = true
  counted : own.mallocs = (if (own.owned shared.strerrorKey).isSome then 1 else 0) ∨
    own.phase = .exited ∧ own.mallocs ≤ 1
  content : Content table shared own

structure Invariant (table : ErrorTable) (state : State Thread) : Prop where
  threads : forall thread, ThreadOk table state.shared (state.threads thread)
  disjoint : forall first second address,
    (state.threads first).owned state.shared.strerrorKey = some address ->
    (state.threads second).owned state.shared.strerrorKey = some address -> first = second
  creator : forall first second err other, (state.threads first).phase = .creating err ->
    (state.threads second).phase = .creating other -> first = second
  keys : state.shared.keys = if state.shared.once = .done then 1 else 0

/-- What one step of a thread leaves for the others. -/
structure Frame (shared : Shared) (own : ThreadState) (nextShared : Shared) (next : ThreadState) :
    Prop where
  once : shared.once = .done -> nextShared.once = .done ∧ nextShared.strerrorKey = shared.strerrorKey
  running : shared.once = .running -> nextShared.once = .running ∨
    Exists fun err => own.phase = .creating err
  keys : (shared.keys = if shared.once = .done then 1 else 0) ->
    nextShared.keys = if nextShared.once = .done then 1 else 0
  kept : forall address, own.owned shared.strerrorKey ≠ some address ->
    shared.allocated address = true ->
    nextShared.allocated address = true ∧ nextShared.heap address = shared.heap address
  gained : forall address, next.owned nextShared.strerrorKey = some address ->
    own.owned shared.strerrorKey = some address ∨ shared.allocated address = false
  created : forall err, next.phase = .creating err -> shared.once = .fresh

/-- A step that only moves the thread on leaves everything for the others. -/
theorem Frame.quiet {shared : Shared} {own next : ThreadState}
    (owned : next.owned shared.strerrorKey = own.owned shared.strerrorKey)
    (notCreating : forall err, next.phase ≠ .creating err) : Frame shared own shared next where
  once := fun done => ⟨done, rfl⟩
  running := Or.inl
  keys := id
  kept := fun _ _ allocated => ⟨allocated, rfl⟩
  gained := fun _ same => Or.inl (owned ▸ same)
  created := fun err same => absurd same (notCreating err)

/-- A step that only writes into the thread's own buffer. -/
theorem Frame.write {shared : Shared} {own next : ThreadState} {buf : Nat} {block : Buffer}
    (mine : own.owned shared.strerrorKey = some buf) (still : next.owned shared.strerrorKey = some buf)
    (notCreating : forall err, next.phase ≠ .creating err) :
    Frame shared own { shared with heap := Function.update shared.heap buf block } next where
  once := fun done => ⟨done, rfl⟩
  running := Or.inl
  keys := id
  kept := by
    intro address notMine allocated
    refine ⟨allocated, ?_⟩
    have different : address ≠ buf := by
      intro same
      exact notMine (same ▸ mine)
    exact Function.update_of_ne different _ _
  gained := fun _ same => Or.inl (mine.trans (still.symm.trans same))
  created := fun err same => absurd same (notCreating err)

variable {table : ErrorTable} {shared : Shared} {own : ThreadState}

/-- A thread that has passed `pthread_once` has found it done. -/
theorem ThreadOk.done (ok : ThreadOk table shared own) (past : ¬ own.phase.BeforeOnce) :
    shared.once = .done := by
  by_contra notDone
  exact past (ok.unset notDone).2.2

/-- A thread that owns a buffer has called `malloc` once. -/
theorem ThreadOk.mallocs_eq_one (ok : ThreadOk table shared own) {buf : Nat}
    (owned : own.owned shared.strerrorKey = some buf) : own.mallocs = 1 := by
  rcases ok.counted with count | ⟨exited, _⟩
  · rw [owned] at count
    exact count
  · have content := ok.content
    unfold Content at content
    unfold ThreadState.owned at owned
    rw [exited] at content owned
    rw [content] at owned
    cases owned

/-- A thread that moves on keeps its invariant if it keeps what it owns and meets the
conditions of its new position. -/
theorem ThreadOk.move (ok : ThreadOk table shared own) {phase : Phase}
    (owned : ({ own with phase := phase } : ThreadState).owned shared.strerrorKey =
      own.owned shared.strerrorKey)
    (notExited : own.phase ≠ .exited)
    (before : shared.once ≠ .done -> phase.BeforeOnce) (notCreating : forall err, phase ≠ .creating err)
    (content : Content table shared { own with phase := phase }) :
    ThreadOk table shared { own with phase := phase } where
  unset := fun notDone => ⟨(ok.unset notDone).1, (ok.unset notDone).2.1, before notDone⟩
  creating := fun err same => absurd same (notCreating err)
  allocated := fun address same => ok.allocated address (owned ▸ same)
  counted := by
    rw [owned]
    rcases ok.counted with count | ⟨exited, _⟩
    · exact Or.inl count
    · exact absurd exited notExited
  content := content

/-- A thread that writes into its own buffer and moves on keeps its invariant if it meets
the conditions of its new position. -/
theorem ThreadOk.write (ok : ThreadOk table shared own) {buf : Nat} {block : Buffer} {phase : Phase}
    (isDone : shared.once = .done) (mine : own.owned shared.strerrorKey = some buf)
    (still : ({ own with phase := phase } : ThreadState).owned shared.strerrorKey = some buf)
    (notCreating : forall err, phase ≠ .creating err)
    (content : Content table { shared with heap := Function.update shared.heap buf block }
      { own with phase := phase }) :
    ThreadOk table { shared with heap := Function.update shared.heap buf block }
        { own with phase := phase } ∧
      Frame shared own { shared with heap := Function.update shared.heap buf block }
        { own with phase := phase } := by
  refine ⟨?_, Frame.write mine still notCreating⟩
  constructor
  case unset => exact fun notDone => absurd isDone notDone
  case creating => exact fun err same => absurd same (notCreating err)
  case allocated =>
    intro address same
    exact ok.allocated address (mine.trans (still.symm.trans same))
  case counted =>
    left
    change own.mallocs =
      if (({ own with phase := phase } : ThreadState).owned shared.strerrorKey).isSome then 1 else 0
    rw [still]
    exact ok.mallocs_eq_one mine
  case content => exact content

/-- Between calls a thread owns what the key has. -/
theorem ThreadState.owned_between_calls (key : Nat)
    (position : own.phase = .idle ∨ Exists fun last => Exists fun buf => own.phase = .returned last buf) :
    own.owned key = own.specific key ∧ own.phase ≠ .exited := by
  unfold ThreadState.owned
  rcases position with idle | ⟨last, buf, returned⟩
  · rw [idle]
    exact ⟨rfl, Phase.noConfusion⟩
  · rw [returned]
    exact ⟨rfl, Phase.noConfusion⟩

theorem ThreadOk.enter (ok : ThreadOk table shared own) (err : CInt)
    (position : own.phase = .idle ∨ Exists fun last => Exists fun buf => own.phase = .returned last buf) :
    ThreadOk table shared (own.enter err) ∧ Frame shared own shared (own.enter err) := by
  rcases ThreadState.owned_between_calls shared.strerrorKey position with ⟨ownedNow, notExited⟩
  have owned : (own.enter err).owned shared.strerrorKey = own.owned shared.strerrorKey := ownedNow.symm
  exact ⟨ok.move owned notExited (fun _ => trivial) (fun _ => Phase.noConfusion) trivial,
    Frame.quiet owned (fun _ => Phase.noConfusion)⟩

/-- Ending the thread keeps the buffer until the destructor has run. -/
theorem ThreadOk.leave (ok : ThreadOk table shared own)
    (position : own.phase = .idle ∨ Exists fun last => Exists fun buf => own.phase = .returned last buf) :
    ThreadOk table shared (own.leave shared.strerrorKey) ∧
      Frame shared own shared (own.leave shared.strerrorKey) := by
  rcases ThreadState.owned_between_calls shared.strerrorKey position with ⟨ownedNow, notExited⟩
  unfold ThreadState.leave
  cases value : own.specific shared.strerrorKey with
  | none =>
      have owned : ({ own with phase := .exited } : ThreadState).owned shared.strerrorKey =
          own.owned shared.strerrorKey := ownedNow.symm
      exact ⟨ok.move owned notExited (fun _ => trivial) (fun _ => Phase.noConfusion) value,
        Frame.quiet owned (fun _ => Phase.noConfusion)⟩
  | some buf =>
      have owned : own.owned shared.strerrorKey = some buf := ownedNow.trans value
      have isDone : shared.once = .done := by
        by_contra notDone
        rw [(ok.unset notDone).1 shared.strerrorKey] at value
        cases value
      refine ⟨⟨fun notDone => absurd isDone notDone, fun _ => Phase.noConfusion, ?_, ?_, ?_⟩,
        Frame.quiet owned.symm (fun _ => Phase.noConfusion)⟩
      · intro address same
        exact ok.allocated address (owned.trans same)
      · exact Or.inl (ok.mallocs_eq_one owned)
      · exact Function.update_self _ _ _

/-- Writing the message, or its first part, into the buffer. -/
theorem ThreadOk.fill (ok : ThreadOk table shared own) {err : CInt} {buf : Nat}
    (position : own.phase = .filling err buf) :
    ThreadOk table (fillStep table shared own err buf).1 (fillStep table shared own err buf).2 ∧
      Frame shared own (fillStep table shared own err buf).1 (fillStep table shared own err buf).2 := by
  have isDone := ok.done (by rw [position]; exact id)
  have value : own.specific shared.strerrorKey = some buf := by
    have content := ok.content
    unfold Content at content
    rw [position] at content
    exact content
  have owned : own.owned shared.strerrorKey = some buf := by
    unfold ThreadState.owned
    rw [position]
    exact value
  unfold fillStep
  cases known : table.message err with
  | none =>
      refine ok.write isDone owned value (fun _ => Phase.noConfusion) ⟨value, ?_⟩
      have message : messageFor table err = unknownText err := by
        unfold messageFor
        rw [known]
      change Holds (Function.update shared.heap buf _ buf) _
      rw [Function.update_self, message]
      exact holds_unknownError (shared.heap buf) err
  | some msg =>
      exact ok.write isDone owned value (fun _ => Phase.noConfusion)
        ⟨value, shared.heap buf, msg, known, Function.update_self _ _ _⟩

/-- Running the initialisation for the first time. -/
theorem ThreadOk.beginOnce (ok : ThreadOk table shared own) {err : CInt}
    (position : own.phase = .calling err) (isFresh : shared.once = .fresh) :
    ThreadOk table { shared with once := .running } { own with phase := .creating err } ∧
      Frame shared own { shared with once := .running } { own with phase := .creating err } := by
  have owned : own.owned shared.strerrorKey = own.specific shared.strerrorKey := by
    unfold ThreadState.owned
    rw [position]
  have notDone : shared.once ≠ .done := by
    rw [isFresh]
    exact Once.noConfusion
  have nothing := ok.unset notDone
  refine ⟨⟨fun _ => ⟨nothing.1, nothing.2.1, trivial⟩, fun _ _ => rfl, ?_, ?_, trivial⟩, ?_⟩
  · intro address same
    exact ok.allocated address (owned.trans same)
  · left
    change own.mallocs = if (own.specific shared.strerrorKey).isSome then 1 else 0
    rw [nothing.1, nothing.2.1]
    rfl
  · refine ⟨fun done => absurd done notDone, fun _ => Or.inl rfl, ?_,
      fun _ _ allocated => ⟨allocated, rfl⟩, fun _ same => Or.inl (owned.trans same),
      fun _ _ => isFresh⟩
    intro keys
    rw [if_neg notDone] at keys
    exact keys

/-- Creating the key: no thread has a value for it. -/
theorem ThreadOk.createKey (ok : ThreadOk table shared own) {err : CInt}
    (position : own.phase = .creating err) :
    ThreadOk table
        { shared with once := .done, strerrorKey := shared.keys, keys := shared.keys + 1 }
        { own with phase := .getting err } ∧
      Frame shared own
        { shared with once := .done, strerrorKey := shared.keys, keys := shared.keys + 1 }
        { own with phase := .getting err } := by
  have notDone : shared.once ≠ .done := by
    rw [ok.creating err position]
    exact Once.noConfusion
  have nothing := ok.unset notDone
  refine ⟨⟨fun other => absurd rfl other, fun _ => Phase.noConfusion, ?_, ?_, trivial⟩, ?_⟩
  · intro address same
    change own.specific shared.keys = some address at same
    rw [nothing.1] at same
    cases same
  · left
    change own.mallocs = if (own.specific shared.keys).isSome then 1 else 0
    rw [nothing.1, nothing.2.1]
    rfl
  · refine ⟨fun done => absurd done notDone, fun _ => Or.inr ⟨err, position⟩, ?_,
      fun _ _ allocated => ⟨allocated, rfl⟩, ?_, fun _ => Phase.noConfusion⟩
    · intro keys
      rw [if_neg notDone] at keys
      change shared.keys + 1 = 1
      rw [keys]
    · intro address same
      change own.specific shared.keys = some address at same
      rw [nothing.1] at same
      cases same

theorem ThreadOk.allocate (ok : ThreadOk table shared own) {err : CInt} {address : Nat}
    {contents : Buffer} (position : own.phase = .allocating err)
    (free : shared.allocated address = false) :
    ThreadOk table
        { shared with
          allocated := Function.update shared.allocated address true
          heap := Function.update shared.heap address contents }
        { own with phase := .setting err address, mallocs := own.mallocs + 1 } ∧
      Frame shared own
        { shared with
          allocated := Function.update shared.allocated address true
          heap := Function.update shared.heap address contents }
        { own with phase := .setting err address, mallocs := own.mallocs + 1 } := by
  have content := ok.content
  unfold Content at content
  rw [position] at content
  have isDone := ok.done (by rw [position]; exact id)
  have owned : own.owned shared.strerrorKey = none := by
    unfold ThreadState.owned
    rw [position]
    exact content
  have count : own.mallocs = 0 := by
    rcases ok.counted with count | ⟨exited, _⟩
    · rw [owned] at count
      exact count
    · rw [position] at exited
      cases exited
  refine ⟨⟨fun notDone => absurd isDone notDone, fun _ => Phase.noConfusion, ?_, ?_, content⟩, ?_⟩
  · intro other same
    cases same
    exact Function.update_self _ _ _
  · left
    change own.mallocs + 1 = 1
    rw [count]
  · refine ⟨fun done => ⟨done, rfl⟩, Or.inl, id, ?_, ?_, fun _ => Phase.noConfusion⟩
    · intro other _ allocated
      have different : other ≠ address := by
        intro same
        rw [same, free] at allocated
        cases allocated
      exact ⟨(Function.update_of_ne different _ _).trans allocated,
        Function.update_of_ne different _ _⟩
    · intro other same
      cases same
      exact Or.inr free

theorem ThreadOk.setSpecific (ok : ThreadOk table shared own) {err : CInt} {buf : Nat}
    (position : own.phase = .setting err buf) :
    ThreadOk table shared
        { own with
          phase := .filling err buf
          specific := Function.update own.specific shared.strerrorKey (some buf) } ∧
      Frame shared own shared
        { own with
          phase := .filling err buf
          specific := Function.update own.specific shared.strerrorKey (some buf) } := by
  have isDone := ok.done (by rw [position]; exact id)
  have owned : own.owned shared.strerrorKey = some buf := by
    unfold ThreadState.owned
    rw [position]
  have value : Function.update own.specific shared.strerrorKey (some buf) shared.strerrorKey =
      some buf := Function.update_self _ _ _
  refine ⟨⟨fun notDone => absurd isDone notDone, fun _ => Phase.noConfusion, ?_, ?_, value⟩,
    Frame.quiet (value.trans owned.symm) (fun _ => Phase.noConfusion)⟩
  · intro address same
    exact ok.allocated address (owned.trans (value.symm.trans same))
  · left
    change own.mallocs = if (Function.update own.specific shared.strerrorKey (some buf)
      shared.strerrorKey).isSome then 1 else 0
    rw [value]
    exact ok.mallocs_eq_one owned

theorem ThreadOk.terminate (ok : ThreadOk table shared own) {err : CInt} {buf : Nat}
    (position : own.phase = .terminating err buf) :
    ThreadOk table
        { shared with heap := Function.update shared.heap buf (terminateMessage (shared.heap buf)) }
        { own with phase := .returned err buf } ∧
      Frame shared own
        { shared with heap := Function.update shared.heap buf (terminateMessage (shared.heap buf)) }
        { own with phase := .returned err buf } := by
  have content := ok.content
  unfold Content at content
  rw [position] at content
  rcases content with ⟨value, old, msg, known, copied⟩
  have isDone := ok.done (by rw [position]; exact id)
  have owned : own.owned shared.strerrorKey = some buf := by
    unfold ThreadState.owned
    rw [position]
    exact value
  refine ok.write isDone owned value (fun _ => Phase.noConfusion) ⟨value, ?_⟩
  have message : messageFor table err = cutText msg := by
    unfold messageFor
    rw [known]
  change Holds (Function.update shared.heap buf _ buf) _
  rw [Function.update_self, message, copied]
  exact holds_terminateMessage old msg

theorem ThreadOk.destroy (ok : ThreadOk table shared own) {buf : Nat}
    (position : own.phase = .destroying buf) :
    ThreadOk table { shared with allocated := Function.update shared.allocated buf false }
        { own with phase := .exited } ∧
      Frame shared own { shared with allocated := Function.update shared.allocated buf false }
        { own with phase := .exited } := by
  have content := ok.content
  unfold Content at content
  rw [position] at content
  have isDone := ok.done (by rw [position]; exact id)
  have owned : own.owned shared.strerrorKey = some buf := by
    unfold ThreadState.owned
    rw [position]
  have noValue : ({ own with phase := .exited } : ThreadState).owned shared.strerrorKey = none := content
  refine ⟨⟨fun notDone => absurd isDone notDone, fun _ => Phase.noConfusion, ?_, ?_, content⟩, ?_⟩
  · intro address same
    rw [noValue] at same
    cases same
  · exact Or.inr ⟨rfl, Nat.le_of_eq (ok.mallocs_eq_one owned)⟩
  · refine ⟨fun done => ⟨done, rfl⟩, Or.inl, id, ?_, ?_, fun _ => Phase.noConfusion⟩
    · intro address notMine allocated
      have different : address ≠ buf := by
        intro same
        exact notMine (same ▸ owned)
      exact ⟨(Function.update_of_ne different _ _).trans allocated, rfl⟩
    · intro address same
      rw [noValue] at same
      cases same

/-- One step of a thread keeps its invariant, and leaves to the others what is theirs. -/
theorem threadStep_ok (ok : ThreadOk table shared own) {act : Act} {nextShared : Shared}
    {next : ThreadState} (stepped : threadStep table shared own act = some (nextShared, next)) :
    ThreadOk table nextShared next ∧ Frame shared own nextShared next := by
  unfold threadStep at stepped
  split at stepped
  · rename_i err position
    cases stepped
    exact ok.enter err (Or.inl position)
  · rename_i last buf err position
    cases stepped
    exact ok.enter err (Or.inr ⟨last, buf, position⟩)
  · rename_i err position
    split at stepped
    · rename_i isFresh
      cases stepped
      exact ok.beginOnce position isFresh
    · cases stepped
    · rename_i isDone
      cases stepped
      have owned : own.owned shared.strerrorKey = own.specific shared.strerrorKey := by
        unfold ThreadState.owned
        rw [position]
      have notExited : own.phase ≠ .exited := by
        rw [position]
        exact Phase.noConfusion
      exact ⟨ok.move owned.symm notExited (fun notDone => absurd isDone notDone)
        (fun _ => Phase.noConfusion) trivial, Frame.quiet owned.symm (fun _ => Phase.noConfusion)⟩
  · rename_i err position
    cases stepped
    exact ok.createKey position
  · rename_i err position
    have isDone := ok.done (by rw [position]; exact id)
    have owned : own.owned shared.strerrorKey = own.specific shared.strerrorKey := by
      unfold ThreadState.owned
      rw [position]
    have notExited : own.phase ≠ .exited := by
      rw [position]
      exact Phase.noConfusion
    split at stepped
    · rename_i noValue
      cases stepped
      exact ⟨ok.move owned.symm notExited (fun notDone => absurd isDone notDone)
        (fun _ => Phase.noConfusion) noValue, Frame.quiet owned.symm (fun _ => Phase.noConfusion)⟩
    · rename_i buf value
      cases stepped
      exact ⟨ok.move owned.symm notExited (fun notDone => absurd isDone notDone)
        (fun _ => Phase.noConfusion) value, Frame.quiet owned.symm (fun _ => Phase.noConfusion)⟩
  · rename_i err address contents position
    split at stepped
    · rename_i free
      cases stepped
      exact ok.allocate position free
    · cases stepped
  · rename_i err buf position
    cases stepped
    exact ok.setSpecific position
  · rename_i err buf position
    have both := ok.fill position
    rw [Option.some.inj stepped] at both
    exact both
  · rename_i err buf position
    cases stepped
    exact ok.terminate position
  · rename_i position
    cases stepped
    exact ok.leave (Or.inl position)
  · rename_i last buf position
    cases stepped
    exact ok.leave (Or.inr ⟨last, buf, position⟩)
  · rename_i buf position
    cases stepped
    exact ok.destroy position
  · cases stepped

/-- A thread before the key exists owns nothing, whatever the key will be. -/
theorem ThreadOk.owned_eq_none (ok : ThreadOk table shared own) (notDone : shared.once ≠ .done)
    (key : Nat) : own.owned key = none := by
  have nothing := ok.unset notDone
  have before := nothing.2.2
  unfold ThreadState.owned
  cases position : own.phase <;> rw [position] at before <;>
    first | exact nothing.1 key | exact absurd before id

/-- A step of another thread keeps the invariant of a thread. -/
theorem ThreadOk.frame (ok : ThreadOk table shared own) {other nextOther : ThreadState}
    {nextShared : Shared} (frame : Frame shared other nextShared nextOther)
    (disjoint : forall address, own.owned shared.strerrorKey = some address ->
      other.owned shared.strerrorKey ≠ some address)
    (creator : forall err another, own.phase = .creating err -> other.phase ≠ .creating another) :
    ThreadOk table nextShared own := by
  by_cases isDone : shared.once = .done
  · have same := frame.once isDone
    have key : nextShared.strerrorKey = shared.strerrorKey := same.2
    refine ⟨fun notDone => absurd same.1 notDone, ?_, ?_, ?_, ?_⟩
    · intro err position
      have running := ok.creating err position
      rw [isDone] at running
      cases running
    · intro address owned
      rw [key] at owned
      exact (frame.kept address (disjoint address owned) (ok.allocated address owned)).1
    · rw [key]
      exact ok.counted
    · have content := ok.content
      have heap : forall address, own.specific shared.strerrorKey = some address ->
          own.owned shared.strerrorKey = own.specific shared.strerrorKey ->
          nextShared.heap address = shared.heap address := by
        intro address value owned
        have mine := owned.trans value
        exact (frame.kept address (disjoint address mine) (ok.allocated address mine)).2
      unfold Content at content ⊢
      rw [key]
      cases position : own.phase <;> rw [position] at content <;> try exact content
      case terminating err buf =>
        rcases content with ⟨value, old, msg, known, copied⟩
        refine ⟨value, old, msg, known, ?_⟩
        rw [heap buf value (by unfold ThreadState.owned; rw [position])]
        exact copied
      case returned err buf =>
        refine ⟨content.1, ?_⟩
        rw [heap buf content.1 (by unfold ThreadState.owned; rw [position])]
        exact content.2
  · have nothing := ok.unset isDone
    refine ⟨fun _ => nothing, ?_, ?_, ?_, ?_⟩
    · intro err position
      rcases frame.running (ok.creating err position) with running | ⟨another, creating⟩
      · exact running
      · exact absurd creating (creator err another position)
    · intro address owned
      rw [ok.owned_eq_none isDone] at owned
      cases owned
    · left
      rw [ok.owned_eq_none isDone, nothing.2.1]
      rfl
    · have before := nothing.2.2
      unfold Content
      cases position : own.phase <;> rw [position] at before <;>
        first | exact nothing.1 _ | exact absurd before id | trivial

omit [DecidableEq Thread] in
theorem start_invariant (allocated : Nat -> Bool) (heap : Nat -> Buffer) :
    Invariant table (start allocated heap : State Thread) where
  threads _ := ⟨fun _ => ⟨fun _ => rfl, rfl, trivial⟩, fun _ => Phase.noConfusion,
    (fun _ same => by cases same), Or.inl rfl, trivial⟩
  disjoint _ _ _ same := by cases same
  creator _ _ _ _ same := by cases same
  keys := rfl

/-- One step, seen from the thread that takes it and from the others. -/
theorem step_eq {state next : State Thread} {action : Thread × Act}
    (stepped : step table state action = some next) :
    threadStep table state.shared (state.threads action.1) action.2 =
        some (next.shared, next.threads action.1) ∧
      forall thread, thread ≠ action.1 -> next.threads thread = state.threads thread := by
  rcases Option.map_eq_some_iff.mp stepped with ⟨⟨nextShared, own⟩, moved, same⟩
  subst same
  refine ⟨?_, fun thread different => Function.update_of_ne different _ _⟩
  change _ = some (nextShared, Function.update state.threads action.1 own action.1)
  rw [Function.update_self]
  exact moved

theorem step_invariant {state next : State Thread} {action : Thread × Act}
    (invariant : Invariant table state) (stepped : step table state action = some next) :
    Invariant table next := by
  rcases step_eq stepped with ⟨moved, others⟩
  have both := threadStep_ok (invariant.threads action.1) moved
  have frame := both.2
  have ownedBefore : forall thread address, thread ≠ action.1 ->
      (next.threads thread).owned next.shared.strerrorKey = some address ->
      (state.threads thread).owned state.shared.strerrorKey = some address := by
    intro thread address different owned
    rw [others thread different] at owned
    by_cases isDone : state.shared.once = .done
    · rw [(frame.once isDone).2] at owned
      exact owned
    · rw [(invariant.threads thread).owned_eq_none isDone] at owned
      cases owned
  have apart : forall thread address, thread ≠ action.1 ->
      (next.threads thread).owned next.shared.strerrorKey = some address ->
      (next.threads action.1).owned next.shared.strerrorKey ≠ some address := by
    intro thread address different owned mine
    have before := ownedBefore thread address different owned
    rcases frame.gained address mine with had | free
    · exact different (invariant.disjoint thread action.1 address before had)
    · rw [(invariant.threads thread).allocated address before] at free
      cases free
  refine ⟨?_, ?_, ?_, frame.keys invariant.keys⟩
  · intro thread
    by_cases same : thread = action.1
    · rw [same]
      exact both.1
    · rw [others thread same]
      apply (invariant.threads thread).frame frame
      · intro address owned mine
        exact same (invariant.disjoint thread action.1 address owned mine)
      · intro err another creating alsoCreating
        exact same (invariant.creator thread action.1 err another creating alsoCreating)
  · intro first second address ownsFirst ownsSecond
    by_cases isFirst : first = action.1
    · by_cases isSecond : second = action.1
      · exact isFirst.trans isSecond.symm
      · exact absurd (isFirst ▸ ownsFirst) (apart second address isSecond ownsSecond)
    · by_cases isSecond : second = action.1
      · exact absurd (isSecond ▸ ownsSecond) (apart first address isFirst ownsFirst)
      · exact invariant.disjoint first second address (ownedBefore first address isFirst ownsFirst)
          (ownedBefore second address isSecond ownsSecond)
  · have nobody : forall thread err another, thread ≠ action.1 ->
        (next.threads thread).phase = .creating err ->
        (next.threads action.1).phase ≠ .creating another := by
      intro thread err another different creating alsoCreating
      have isFresh := frame.created another alsoCreating
      rw [others thread different] at creating
      rw [(invariant.threads thread).creating err creating] at isFresh
      cases isFresh
    intro first second err another creatingFirst creatingSecond
    by_cases isFirst : first = action.1
    · by_cases isSecond : second = action.1
      · exact isFirst.trans isSecond.symm
      · exact absurd (isFirst ▸ creatingFirst) (nobody second another err isSecond creatingSecond)
    · by_cases isSecond : second = action.1
      · exact absurd (isSecond ▸ creatingSecond) (nobody first err another isFirst creatingFirst)
      · rw [others first isFirst] at creatingFirst
        rw [others second isSecond] at creatingSecond
        exact invariant.creator first second err another creatingFirst creatingSecond

theorem reachable_invariant {state : State Thread} (reachable : (machine table).Reachable state) :
    Invariant table state := by
  apply Machine.Reachable.invariant _ _ reachable
  · rintro state ⟨allocated, heap, rfl⟩
    exact start_invariant allocated heap
  · intro state action next invariant stepped
    exact step_invariant invariant stepped

/-- While other threads take their steps, a thread that has returned stays where it is
and its buffer keeps its contents. -/
theorem exec_others {state final : State Thread} (invariant : Invariant table state)
    {thread : Thread} {err : CInt} {buf : Nat}
    (returned : (state.threads thread).phase = .returned err buf) {actions : List (Thread × Act)}
    (others : forall action, action ∈ actions -> action.1 ≠ thread)
    (executed : (machine table).exec state actions = some final) :
    (final.threads thread).phase = .returned err buf ∧
      final.shared.heap buf = state.shared.heap buf := by
  induction actions generalizing state with
  | nil =>
      cases executed
      exact ⟨returned, rfl⟩
  | cons action rest inductionHypothesis =>
      rcases Option.bind_eq_some_iff.mp executed with ⟨next, stepped, continued⟩
      have different := others action List.mem_cons_self
      rcases step_eq stepped with ⟨moved, same⟩
      have frame := (threadStep_ok (invariant.threads action.1) moved).2
      have nextReturned : (next.threads thread).phase = .returned err buf := by
        rw [same thread different.symm]
        exact returned
      have owned : (state.threads thread).owned state.shared.strerrorKey = some buf := by
        have content := (invariant.threads thread).content
        unfold Content at content
        rw [returned] at content
        unfold ThreadState.owned
        rw [returned]
        exact content.1
      have notTheirs : (state.threads action.1).owned state.shared.strerrorKey ≠ some buf := by
        intro theirs
        exact different (invariant.disjoint action.1 thread buf theirs owned)
      have heap := (frame.kept buf notTheirs ((invariant.threads thread).allocated buf owned)).2
      have later := inductionHypothesis (step_invariant invariant stepped) nextReturned
        (fun other member => others other (List.mem_cons_of_mem action member)) continued
      exact ⟨later.1, later.2.trans heap⟩

/-- What the threads may rely on. -/
structure Isolated (table : ErrorTable) (state : State Thread) : Prop where
  text : forall thread err buf, (state.threads thread).phase = .returned err buf ->
    Holds (state.shared.heap buf) (messageFor table err) ∧
      forall static, stringIn (state.shared.heap buf) = stringIn (strerror table static err)
  unchanged : forall thread err buf (actions : List (Thread × Act)) final,
    (state.threads thread).phase = .returned err buf ->
    (forall action, action ∈ actions -> action.1 ≠ thread) ->
    (machine table).exec state actions = some final ->
    (final.threads thread).phase = .returned err buf ∧
      final.shared.heap buf = state.shared.heap buf
  oneBuffer : forall thread err buf, (state.threads thread).phase = .returned err buf ->
    (state.threads thread).owned state.shared.strerrorKey = some buf ∧
      (state.threads thread).mallocs = 1
  noMore : forall thread, (state.threads thread).mallocs ≤ 1
  unshared : forall first second buf,
    (state.threads first).owned state.shared.strerrorKey = some buf ->
    (state.threads second).owned state.shared.strerrorKey = some buf -> first = second
  oneKey : state.shared.keys ≤ 1 ∧ forall thread err buf,
    (state.threads thread).phase = .returned err buf -> state.shared.keys = 1

theorem Invariant.isolated {state : State Thread} (invariant : Invariant table state) :
    Isolated table state where
  text thread err buf returned := by
    have content := (invariant.threads thread).content
    unfold Content at content
    rw [returned] at content
    refine ⟨content.2, fun static => ?_⟩
    rw [content.2.stringIn_eq, (holds_strerror table static err).stringIn_eq]
  unchanged thread err buf actions final returned others executed :=
    exec_others invariant returned others executed
  oneBuffer thread err buf returned := by
    have content := (invariant.threads thread).content
    unfold Content at content
    rw [returned] at content
    have owned : (state.threads thread).owned state.shared.strerrorKey = some buf := by
      unfold ThreadState.owned
      rw [returned]
      exact content.1
    exact ⟨owned, (invariant.threads thread).mallocs_eq_one owned⟩
  noMore thread := by
    rcases (invariant.threads thread).counted with count | ⟨_, atMost⟩
    · rw [count]
      split <;> omega
    · exact atMost
  unshared := invariant.disjoint
  oneKey := by
    constructor
    · rw [invariant.keys]
      split <;> omega
    · intro thread err buf returned
      have isDone := (invariant.threads thread).done (by rw [returned]; exact id)
      rw [invariant.keys, if_pos isDone]

end StrerrorTsd
end ThreadSafeSpecific
end Tlpi
