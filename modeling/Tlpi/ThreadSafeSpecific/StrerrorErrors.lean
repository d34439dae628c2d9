import Tlpi.Lib.ErrorFunctions
import Tlpi.ThreadSafeSpecific.Strerror

namespace Tlpi
namespace ThreadSafeSpecific
namespace StrerrorErrors

open CLibrary Foundations Lib

/-!
# The error paths of `strerror` with thread-specific data

A failing call inside the function is reported with `errExit` or `errExitEN`.  These
call `outputError`, which calls `strerror`, and the `strerror` that the program is
linked with is this one.  The report of a failure is therefore a nested call, which
makes the same library calls again.

The functions of the error library take the `strerror` that they are linked with as a
parameter.  The depth of the nesting is bounded by a number of calls; no result means
that the bound was too low.  The outcomes of the library calls are given for each call
of `strerror`, in the order in which the calls begin.
-/

/-- The outcomes of the library calls that one call of `strerror` makes: three return
values, and the block that `malloc` returns or its error. -/
structure Answers where
  once : CInt
  keyCreate : CInt
  malloc : Except CInt Buffer
  setspecific : CInt

/-- What the program is linked with and started with. -/
structure Setup where
  dumpcore : Option String
  table : ErrorTable
  ename : CInt -> Option (List Byte)
  answers : Nat -> Answers

/-- The state of the variable `once`. -/
inductive Once where
  | fresh
  | running
  | done
deriving DecidableEq, Repr

/-- The state of the calling thread's process: the variable `once`, the buffer that is
the value of the key, the calls of `strerror` so far, and what was written on the
standard error. -/
structure State where
  once : Once
  specific : Option Buffer
  calls : Nat
  stderr : List (List Byte)

/-- Why a call does not return: the process has ended, or `pthread_once` was entered
from within its own initialisation routine, which waits for itself. -/
inductive Stop where
  | ended (termination : Termination) (stderr : List (List Byte))
  | reentered
deriving DecidableEq

/-- The result of a function that may not return, or nothing if the bound was too low. -/
abbrev Result (Value : Type) := Option (Except Stop (Value × State))

def BUF_SIZE : Nat := 500

/-- The line that `outputError` writes. -/
def errorText (ename : Option (List Byte)) (text : CString) (userMsg : String) : List Byte :=
  let errText := snprintf BUF_SIZE
    (ascii " [" ++ ename.getD (ascii "?UNKNOWN?") ++ ascii " " ++ text.bytes ++ ascii "]")
  snprintf BUF_SIZE
    (ascii "ERROR" ++ errText ++ ascii " " ++ snprintf BUF_SIZE (ascii userMsg) ++ ascii "\n")

variable (setup : Setup)

/-- `outputError(TRUE, err, TRUE, format, ap)`. -/
def outputError (strerror : CInt -> State -> Result CString) (err : CInt) (userMsg : String)
    (state : State) : Result Unit :=
  (strerror err state).map (fun result => result.map (fun returned =>
    ((), { returned.2 with
      stderr := returned.2.stderr ++ [errorText (setup.ename err) returned.1 userMsg] })))

/-- `errExitEN(errnum, format)`, and `errExit(format)` with `errno` for the number. -/
def errExitEN (strerror : CInt -> State -> Result CString) (errnum : CInt) (userMsg : String)
    (state : State) : Option Stop :=
  (outputError setup strerror errnum userMsg state).map (fun result =>
    match result with
    | .error stop => stop
    | .ok returned => .ended (terminate setup.dumpcore true) returned.2.stderr)

/-- `createKey()`, as `pthread_once` calls it. -/
def createKey (strerror : CInt -> State -> Result CString) (keyCreate : CInt) (state : State) :
    Result Unit :=
  if keyCreate.val ≠ 0 then
    (errExitEN setup strerror keyCreate "pthread_key_create" state).map Except.error
  else some (.ok ((), { state with once := .done }))

/-- `pthread_once(&once, createKey)`, up to its return. -/
def pthread_once (strerror : CInt -> State -> Result CString) (answers : Answers) (state : State) :
    Result CInt :=
  match state.once with
  | .running => some (.error .reentered)
  | .done => some (.ok (answers.once, state))
  | .fresh =>
      if answers.once.val ≠ 0 then some (.ok (answers.once, state))
      else
        (createKey setup strerror answers.keyCreate { state with once := .running }).map
          (fun result => result.map (fun returned => (answers.once, returned.2)))

/-- The part of `strerror` that gets hold of a buffer. -/
def getBuffer (strerror : CInt -> State -> Result CString) (answers : Answers) (state : State) :
    Result Buffer :=
  match state.specific with
  | some buf => some (.ok (buf, state))
  | none =>
      match answers.malloc with
      | .error errno => (errExitEN setup strerror errno "malloc" state).map Except.error
      | .ok buf =>
          if answers.setspecific.val ≠ 0 then
            (errExitEN setup strerror answers.setspecific "pthread_setspecific" state).map Except.error
          else some (.ok (buf, { state with specific := some buf }))

/-- `strerror(err)`, for at most so many nested calls. -/
def strerror : Nat -> CInt -> State -> Result CString
  | 0, _, _ => none
  | calls + 1, err, state =>
      let answers := setup.answers state.calls
      let entered : State := { state with calls := state.calls + 1 }
      match pthread_once setup (strerror calls) answers entered with
      | none => none
      | some (.error stop) => some (.error stop)
      | some (.ok (s, state)) =>
          if s.val ≠ 0 then
            (errExitEN setup (strerror calls) s "pthread_once" state).map Except.error
          else
            match getBuffer setup (strerror calls) answers state with
            | none => none
            | some (.error stop) => some (.error stop)
            | some (.ok (buf, state)) =>
                let filled := ThreadSafeSpecific.strerror setup.table buf err
                some (.ok (stringIn filled, { state with specific := some filled }))

/-- With at most so many nested calls, the call returns a string or ends the process. -/
def SettlesIn (calls : Nat) (err : CInt) (state : State) : Prop :=
  Exists fun result => strerror setup calls err state = some result ∧ result ≠ .error .reentered

/-- The call returns a string or ends the process, with finitely many nested calls. -/
def Settles (err : CInt) (state : State) : Prop :=
  Exists fun calls => SettlesIn setup calls err state

/-!
## When a call settles
-/

/-- In one of the calls of `strerror`, all that is needed of the library succeeds. -/
def Passes (state : State) (call : Nat) : Prop :=
  (setup.answers call).once.val = 0 ∧
    (state.specific.isSome = true ∨
      (setup.answers call).malloc.isOk = true ∧ (setup.answers call).setspecific.val = 0)

/-- The key exists, or its creation succeeds in the first call whose `pthread_once`
succeeds. -/
def KeyCreated (state : State) : Prop :=
  state.once = .done ∨ forall call, state.calls ≤ call -> (setup.answers call).once.val = 0 ->
    (forall earlier, state.calls ≤ earlier -> earlier < call ->
      (setup.answers earlier).once.val ≠ 0) ->
    (setup.answers call).keyCreate.val = 0

/-- What a call comes to, before any nested call: it returns, it reports an error in a
nested call, or it reports an error from within the initialisation routine. -/
inductive Turn where
  | passes
  | reports (errnum : CInt) (state : State)
  | stuck

/-- The state after `pthread_once` has succeeded. -/
def opened (state : State) : State := { state with once := .done, calls := state.calls + 1 }

def turn (state : State) : Turn :=
  let answers := setup.answers state.calls
  if answers.once.val ≠ 0 then .reports answers.once { state with calls := state.calls + 1 }
  else if state.once = .fresh ∧ answers.keyCreate.val ≠ 0 then .stuck
  else if state.specific.isSome = true then .passes
  else
    match answers.malloc with
    | .error errno => .reports errno (opened state)
    | .ok _ =>
        if answers.setspecific.val ≠ 0 then .reports answers.setspecific (opened state) else .passes

variable {setup}

/-- A call that reports an error settles exactly if the nested call does. -/
theorem settlesIn_of_report {calls : Nat} {err errnum : CInt} {state nested : State}
    {message : String}
    (reports : strerror setup (calls + 1) err state =
      (errExitEN setup (strerror setup calls) errnum message nested).map Except.error) :
    SettlesIn setup (calls + 1) err state <-> SettlesIn setup calls errnum nested := by
  unfold SettlesIn
  rw [reports]
  unfold errExitEN outputError
  cases inner : strerror setup calls errnum nested with
  | none =>
      constructor
      · rintro ⟨result, same, _⟩
        cases same
      · rintro ⟨result, same, _⟩
        cases same
  | some result =>
      cases result with
      | error stop =>
          constructor
          · rintro ⟨result, same, settled⟩
            cases same
            exact ⟨_, rfl, settled⟩
          · rintro ⟨result, same, settled⟩
            cases same
            exact ⟨_, rfl, settled⟩
      | ok returned =>
          exact ⟨fun _ => ⟨_, rfl, (fun same => by cases same)⟩,
            fun _ => ⟨_, rfl, (fun same => by cases same)⟩⟩

/-- A call within the initialisation routine never settles. -/
theorem not_settlesIn_of_running {calls : Nat} {err : CInt} {state : State}
    (running : state.once = .running) : ¬ SettlesIn setup calls err state := by
  rintro ⟨result, same, settled⟩
  cases calls with
  | zero => cases same
  | succ calls =>
      unfold strerror pthread_once at same
      simp only [running] at same
      cases same
      exact settled rfl

/-- A failing `pthread_once` is reported. -/
theorem strerror_of_once_failed {calls : Nat} {err : CInt} {state : State}
    (notRunning : state.once ≠ .running) (failed : (setup.answers state.calls).once.val ≠ 0) :
    strerror setup (calls + 1) err state =
      (errExitEN setup (strerror setup calls) (setup.answers state.calls).once "pthread_once"
        { state with calls := state.calls + 1 }).map Except.error := by
  rw [strerror]
  unfold pthread_once
  cases position : state.once with
  | running => exact absurd position notRunning
  | fresh => simp only [if_pos failed]
  | done => simp only [if_pos failed]

/-- A failing creation of the key is reported from within the initialisation routine. -/
theorem strerror_of_keyCreate_failed {calls : Nat} {err : CInt} {state : State}
    (isFresh : state.once = .fresh) (entered : (setup.answers state.calls).once.val = 0)
    (failed : (setup.answers state.calls).keyCreate.val ≠ 0) :
    strerror setup (calls + 1) err state =
      (errExitEN setup (strerror setup calls) (setup.answers state.calls).keyCreate
        "pthread_key_create" { state with once := .running, calls := state.calls + 1 }).map
          Except.error := by
  rw [strerror]
  unfold pthread_once createKey
  simp only [isFresh, if_neg (not_not.mpr entered), if_pos failed]
  cases errExitEN setup (strerror setup calls) (setup.answers state.calls).keyCreate
    "pthread_key_create" { state with once := .running, calls := state.calls + 1 } <;> rfl

/-- Once the key exists, the call goes on to its buffer. -/
theorem strerror_of_opened {calls : Nat} {err : CInt} {state : State}
    (entered : (setup.answers state.calls).once.val = 0)
    (created : state.once = .done ∨ state.once = .fresh ∧
      (setup.answers state.calls).keyCreate.val = 0) :
    strerror setup (calls + 1) err state =
      match getBuffer setup (strerror setup calls) (setup.answers state.calls) (opened state) with
      | none => none
      | some (.error stop) => some (.error stop)
      | some (.ok (buf, state)) =>
          let filled := ThreadSafeSpecific.strerror setup.table buf err
          some (.ok (stringIn filled, { state with specific := some filled })) := by
  rw [strerror]
  unfold pthread_once createKey opened
  rcases created with isDone | ⟨isFresh, succeeded⟩
  · simp only [isDone, if_neg (not_not.mpr entered)]
  · simp only [isFresh, if_neg (not_not.mpr entered), if_neg (not_not.mpr succeeded),
      Option.map_some, Except.map]

/-- Whether a call settles, from what it comes to. -/
theorem settlesIn_succ {calls : Nat} {err : CInt} {state : State}
    (notRunning : state.once ≠ .running) :
    SettlesIn setup (calls + 1) err state <->
      match turn setup state with
      | .passes => True
      | .reports errnum nested => SettlesIn setup calls errnum nested
      | .stuck => False := by
  unfold turn
  dsimp only
  by_cases failed : (setup.answers state.calls).once.val ≠ 0
  · rw [if_pos failed]
    exact settlesIn_of_report (strerror_of_once_failed notRunning failed)
  · have entered := not_not.mp failed
    rw [if_neg failed]
    by_cases stuck : state.once = .fresh ∧ (setup.answers state.calls).keyCreate.val ≠ 0
    · rw [if_pos stuck, settlesIn_of_report (strerror_of_keyCreate_failed stuck.1 entered stuck.2)]
      exact iff_of_false (not_settlesIn_of_running rfl) id
    · have created : state.once = .done ∨ state.once = .fresh ∧
          (setup.answers state.calls).keyCreate.val = 0 := by
        cases position : state.once with
        | running => exact absurd position notRunning
        | done => exact Or.inl rfl
        | fresh => exact Or.inr ⟨rfl, by_contra (fun other => stuck ⟨position, other⟩)⟩
      have continues : strerror setup (calls + 1) err state = _ := strerror_of_opened entered created
      rw [if_neg stuck]
      unfold getBuffer at continues
      cases value : state.specific with
      | some buf =>
          have same : (opened state).specific = some buf := value
          simp only [same] at continues
          exact iff_of_true ⟨_, continues, (fun same => by cases same)⟩ trivial
      | none =>
          have same : (opened state).specific = none := value
          simp only [same] at continues
          cases got : (setup.answers state.calls).malloc with
          | error errno =>
              simp only [got] at continues
              refine @settlesIn_of_report setup _ _ _ _ _ "malloc" ?_
              rw [continues]
              cases errExitEN setup (strerror setup calls) errno "malloc" (opened state) <;> rfl
          | ok buf =>
              simp only [got] at continues
              by_cases unset : (setup.answers state.calls).setspecific.val ≠ 0
              · simp only [if_pos unset] at continues
                simp only [Option.isSome_none, Bool.false_eq_true, if_false, if_pos unset]
                refine @settlesIn_of_report setup _ _ _ _ _ "pthread_setspecific" ?_
                rw [continues]
                cases errExitEN setup (strerror setup calls) (setup.answers state.calls).setspecific
                  "pthread_setspecific" (opened state) <;> rfl
              · simp only [if_neg unset] at continues
                simp only [Option.isSome_none, Bool.false_eq_true, if_false, if_neg unset]
                exact iff_of_true ⟨_, continues, (fun same => by cases same)⟩ trivial

/-- A call whose `pthread_once` succeeds decides about the key. -/
theorem keyCreated_of_entered {state : State} (notRunning : state.once ≠ .running)
    (entered : (setup.answers state.calls).once.val = 0)
    (notStuck : ¬ (state.once = .fresh ∧ (setup.answers state.calls).keyCreate.val ≠ 0)) :
    KeyCreated setup state := by
  cases position : state.once with
  | running => exact absurd position notRunning
  | done => exact Or.inl position
  | fresh =>
      right
      intro call later _ first
      have same : call = state.calls := by
        by_contra different
        exact first state.calls (Nat.le_refl _) (by omega) entered
      rw [same]
      exact by_contra (fun other => notStuck ⟨position, other⟩)

/-- What a report passes on: the same buffer, the next number of calls, and the same
chances of getting a key. -/
theorem turn_reports {state nested : State} {errnum : CInt} (notRunning : state.once ≠ .running)
    (reports : turn setup state = .reports errnum nested) :
    nested.once ≠ .running ∧ nested.calls = state.calls + 1 ∧ nested.specific = state.specific ∧
      ¬ Passes setup state state.calls ∧ (KeyCreated setup state <-> KeyCreated setup nested) := by
  unfold turn at reports
  dsimp only at reports
  split at reports
  · rename_i failed
    cases reports
    refine ⟨notRunning, rfl, rfl, fun passes => failed passes.1, ?_⟩
    refine or_congr Iff.rfl ⟨?_, ?_⟩
    · intro created call later entered first
      refine created call (Nat.le_of_succ_le later) entered ?_
      intro earlier reached before
      rcases Nat.eq_or_lt_of_le reached with same | beyond
      · rw [← same]
        exact failed
      · exact first earlier beyond before
    · intro created call later entered first
      rcases Nat.eq_or_lt_of_le later with same | beyond
      · rw [← same] at entered
        exact absurd entered failed
      · exact created call beyond entered
          (fun earlier reached before => first earlier (Nat.le_of_succ_le reached) before)
  · rename_i succeeded
    have entered := not_not.mp succeeded
    split at reports
    · cases reports
    · rename_i notStuck
      have keyCreated := keyCreated_of_entered notRunning entered notStuck
      split at reports
      · cases reports
      · rename_i noBuffer
        split at reports
        · rename_i errno got
          cases reports
          refine ⟨Once.noConfusion, rfl, rfl, ?_, iff_of_true keyCreated (Or.inl rfl)⟩
          rintro ⟨_, hasBuffer | ⟨isOk, _⟩⟩
          · exact noBuffer hasBuffer
          · rw [got] at isOk
            cases isOk
        · split at reports
          · rename_i unset
            cases reports
            refine ⟨Once.noConfusion, rfl, rfl, ?_, iff_of_true keyCreated (Or.inl rfl)⟩
            rintro ⟨_, hasBuffer | ⟨_, isSet⟩⟩
            · exact noBuffer hasBuffer
            · exact unset isSet
          · cases reports

/-- A call that returns has passed, with a key. -/
theorem turn_passes {state : State} (notRunning : state.once ≠ .running)
    (passes : turn setup state = .passes) :
    Passes setup state state.calls ∧ KeyCreated setup state := by
  unfold turn at passes
  dsimp only at passes
  split at passes
  · cases passes
  · rename_i succeeded
    have entered := not_not.mp succeeded
    split at passes
    · cases passes
    · rename_i notStuck
      have keyCreated := keyCreated_of_entered notRunning entered notStuck
      split at passes
      · rename_i hasBuffer
        exact ⟨⟨entered, Or.inl hasBuffer⟩, keyCreated⟩
      · split at passes
        · cases passes
        · rename_i buf got
          split at passes
          · cases passes
          · rename_i isSet
            refine ⟨⟨entered, Or.inr ⟨?_, not_not.mp isSet⟩⟩, keyCreated⟩
            rw [got]
            rfl

/-- A call that is stuck had no key to begin with, and gets none. -/
theorem turn_stuck {state : State} (stuck : turn setup state = .stuck) :
    ¬ KeyCreated setup state := by
  unfold turn at stuck
  dsimp only at stuck
  split at stuck
  · cases stuck
  · rename_i succeeded
    have entered := not_not.mp succeeded
    split at stuck
    · rename_i isStuck
      rintro (isDone | created)
      · rw [isStuck.1] at isDone
        cases isDone
      · have first : forall earlier, state.calls ≤ earlier -> earlier < state.calls ->
            (setup.answers earlier).once.val ≠ 0 := by
          intro earlier reached before
          omega
        exact isStuck.2 (created state.calls (Nat.le_refl _) entered first)
    · split at stuck
      · cases stuck
      · split at stuck
        · cases stuck
        · split at stuck <;> cases stuck

/-- A call that settles has a call in it that passes, and the key. -/
theorem SettlesIn.condition {calls : Nat} {err : CInt} {state : State}
    (notRunning : state.once ≠ .running) (settles : SettlesIn setup calls err state) :
    (Exists fun call => state.calls ≤ call ∧ Passes setup state call) ∧ KeyCreated setup state := by
  induction calls generalizing err state with
  | zero =>
      rcases settles with ⟨result, same, _⟩
      cases same
  | succ calls inductionHypothesis =>
      have next := (settlesIn_succ notRunning).mp settles
      cases comes : turn setup state with
      | passes =>
          have both := turn_passes notRunning comes
          exact ⟨⟨state.calls, Nat.le_refl _, both.1⟩, both.2⟩
      | stuck =>
          rw [comes] at next
          exact absurd next id
      | reports errnum nested =>
          rw [comes] at next
          rcases turn_reports notRunning comes with ⟨nestedNot, later, specific, _, created⟩
          rcases inductionHypothesis nestedNot next with ⟨⟨call, reached, passes⟩, nestedCreated⟩
          refine ⟨⟨call, by omega, ?_⟩, created.mpr nestedCreated⟩
          unfold Passes at passes ⊢
          rw [specific] at passes
          exact passes

/-- With the key, a call settles as soon as one of the calls in it passes. -/
theorem settles_of_condition {distance : Nat} {err : CInt} {state : State}
    (notRunning : state.once ≠ .running) (passes : Passes setup state (state.calls + distance))
    (created : KeyCreated setup state) : Settles setup err state := by
  induction distance generalizing err state with
  | zero =>
      refine ⟨1, (settlesIn_succ notRunning).mpr ?_⟩
      cases comes : turn setup state with
      | passes => trivial
      | stuck => exact absurd created (turn_stuck comes)
      | reports errnum nested => exact absurd passes (turn_reports notRunning comes).2.2.2.1
  | succ distance inductionHypothesis =>
      cases comes : turn setup state with
      | passes =>
          refine ⟨1, (settlesIn_succ notRunning).mpr ?_⟩
          rw [comes]
          trivial
      | stuck => exact absurd created (turn_stuck comes)
      | reports errnum nested =>
          rcases turn_reports notRunning comes with ⟨nestedNot, later, specific, _, sameKey⟩
          have nestedPasses : Passes setup nested (nested.calls + distance) := by
            unfold Passes at passes ⊢
            rw [specific, later, Nat.add_assoc, Nat.add_comm 1 distance]
            exact passes
          have later : Exists fun calls => SettlesIn setup calls errnum nested :=
            inductionHypothesis nestedNot nestedPasses (sameKey.mp created)
          rcases later with ⟨calls, settles⟩
          refine ⟨calls + 1, (settlesIn_succ notRunning).mpr ?_⟩
          rw [comes]
          exact settles

/-- A call of `strerror` from outside settles if and only if in one of the calls in it,
itself or a nested one, all that is needed of the library succeeds, and the key
exists or is created at the first attempt. -/
theorem settles_iff (setup : Setup) (err : CInt) (state : State) (notRunning : state.once ≠ .running) :
    Settles setup err state <->
      (Exists fun call => state.calls ≤ call ∧ Passes setup state call) ∧ KeyCreated setup state := by
  constructor
  · rintro ⟨calls, settles⟩
    exact settles.condition notRunning
  · rintro ⟨⟨call, reached, passes⟩, created⟩
    rcases Nat.exists_eq_add_of_le reached with ⟨distance, rfl⟩
    exact settles_of_condition notRunning passes created

def zero : CInt := ⟨0, by decide⟩

def someError : CInt := ⟨12, by decide⟩

/-- A program in which the library answers the same to every call. -/
def steady (answers : Answers) : Setup := ⟨none, ⟨[]⟩, fun _ => none, fun _ => answers⟩

/-- The process at its first call. -/
def firstCall : State := ⟨.fresh, none, 0, []⟩

/-- A library whose calls all succeed. -/
def allSucceed : Answers := ⟨zero, zero, .ok (Vector.replicate MAX_ERROR_LEN 7), zero⟩

theorem allSucceed_settles :
    Settles (steady allSucceed) someError firstCall <->
      (Exists fun call => firstCall.calls ≤ call ∧ Passes (steady allSucceed) firstCall call) ∧
        KeyCreated (steady allSucceed) firstCall :=
  settles_iff (steady allSucceed) someError firstCall (by decide)

/-- If `malloc` never succeeds, the first call never ends; if the key cannot be
created, it enters `pthread_once` again from within `createKey`. -/
theorem persistent_failure :
    ¬ (forall (setup : Setup) (err : CInt) (state : State), state.once ≠ .running ->
      Settles setup err state) ∧
    strerror (steady ⟨zero, someError, .ok (Vector.replicate MAX_ERROR_LEN 7), zero⟩) 2 someError firstCall =
      some (.error .reentered) := by
  constructor
  · intro claim
    have settles := claim (steady ⟨zero, zero, .error someError, zero⟩) someError firstCall (by decide)
    rcases settles with ⟨calls, settles⟩
    rcases (settles.condition (by decide)).1 with ⟨call, _, _, hasBuffer | ⟨isOk, _⟩⟩
    · cases hasBuffer
    · cases isOk
  · rfl

end StrerrorErrors
end ThreadSafeSpecific
end Tlpi
