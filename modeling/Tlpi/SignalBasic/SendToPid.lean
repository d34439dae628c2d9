import Tlpi.Lib.GetNumGrammar
import Tlpi.Lib.ProgramEnd

namespace Tlpi
namespace SignalBasic
namespace SendToPid

open CLibrary Foundations Lib

/-!
# Sending signals to a process given by its number

`t_kill`, `sig_sender` and `t_sigqueue` take the process ID from an argument.  They read
it with `getLong`, and pass it to `kill` or `sigqueue`, whose parameter is a `pid_t` of
32 bits.  The conversion between the two is where a number may change.
-/

/-- A call of `kill` or `sigqueue`, and the data that goes with the latter. -/
structure Call where
  pid : Int
  sig : Int
  value : Option Int
deriving DecidableEq, Repr

/-- What a program has done: its calls and its lines of output, in order, and its end. -/
structure Outcome where
  calls : List Call
  printed : List (List Byte)
  ended : ProgramEnd
deriving DecidableEq, Repr

/-- The conversion to `pid_t`. -/
def toPid (value : Int) : Int := toInt value

def EPERM : Errno := .other 1

def ESRCH : Errno := .other 3

/-- The calls of a loop, and the number and the error of the one that failed. -/
def callLoop (answer : Nat -> Option Errno) (call : Nat -> Call) :
    Nat -> Nat -> List Call × Option (Nat × Errno)
  | _, 0 => ([], none)
  | j, more + 1 =>
      match answer j with
      | some errno => ([call j], some (j, errno))
      | none =>
          let rest := callLoop answer call (j + 1) more
          (call j :: rest.1, rest.2)

/-- `main` of `t_kill`, with the error that `kill` fails with, if it does. -/
def tKill (dumpcore : Option String) (argv : List (List Byte)) (answer : Option Errno) : Outcome :=
  let usage (program : List Byte) : Outcome :=
    ⟨[], [], usageErr (program ++ ascii " pid sig-num")⟩
  match argv with
  | [program, pidArg, sigArg] =>
      if pidArg = ascii "--help" then usage program
      else
        match getInt (some sigArg) 0 (some "sig-num") with
        | .error diagnostic => ⟨[], [], .badArguments diagnostic⟩
        | .ok sig =>
            match getLong (some pidArg) 0 (some "pid") with
            | .error diagnostic => ⟨[], [], .badArguments diagnostic⟩
            | .ok pid =>
                let ended := report sig
                ⟨[⟨toPid pid, sig, none⟩], ended.1, ended.2⟩
  | program :: _ => usage program
  | [] => usage []
where
  report (sig : Int) : List (List Byte) × ProgramEnd :=
    if sig ≠ 0 then
      match answer with
      | some errno => ([], .failed (errExit dumpcore errno "kill"))
      | none => ([], .success)
    else
      match answer with
      | none => ([ascii "Process exists and we can send it a signal"], .success)
      | some errno =>
          if errno = EPERM then
            ([ascii "Process exists, but we don't have permission to send it a signal"], .success)
          else if errno = ESRCH then ([ascii "Process does not exist"], .success)
          else ([], .failed (errExit dumpcore errno "kill"))

/-- `main` of `sig_sender`, with the error that each call of `kill` fails with. -/
def sigSender (dumpcore : Option String) (argv : List (List Byte)) (answer : Nat -> Option Errno) :
    Outcome :=
  let usage (program : List Byte) : Outcome :=
    ⟨[], [], usageErr (program ++ ascii " pid num-sigs sig-num [sig-num-2]")⟩
  match argv with
  | program :: pidArg :: numSigsArg :: sigArg :: others =>
      if pidArg = ascii "--help" then usage program
      else
        match getLong (some pidArg) 0 (some "PID") with
        | .error diagnostic => ⟨[], [], .badArguments diagnostic⟩
        | .ok long =>
            match getInt (some numSigsArg) GN_GT_0 (some "num-sigs") with
            | .error diagnostic => ⟨[], [], .badArguments diagnostic⟩
            | .ok numSigs =>
                match getInt (some sigArg) 0 (some "sig-num") with
                | .error diagnostic => ⟨[], [], .badArguments diagnostic⟩
                | .ok sig => send program others (toPid long) numSigs sig
  | program :: _ => usage program
  | [] => usage []
where
  exiting (program : List Byte) : List Byte := program ++ ascii ": exiting"
  send (program : List Byte) (others : List (List Byte)) (pid numSigs sig : Int) : Outcome :=
    let sending := program ++ ascii ": sending signal " ++ renderInt sig ++ ascii " to process " ++
      renderInt pid ++ ascii " (" ++ renderInt numSigs ++ ascii " times)"
    let sent := callLoop answer (fun _ => ⟨pid, sig, none⟩) 0 numSigs.toNat
    match sent.2 with
    | some (_, errno) => ⟨sent.1, [sending], .failed (errExit dumpcore errno "kill")⟩
    | none =>
        match others with
        | [] => ⟨sent.1, [sending, exiting program], .success⟩
        | sigArg :: _ =>
            match getInt (some sigArg) 0 (some "sig-num-2") with
            | .error diagnostic => ⟨sent.1, [sending], .badArguments diagnostic⟩
            | .ok second =>
                let calls := sent.1 ++ [⟨pid, second, none⟩]
                match answer numSigs.toNat with
                | some errno => ⟨calls, [sending], .failed (errExit dumpcore errno "kill")⟩
                | none => ⟨calls, [sending, exiting program], .success⟩

/-- The process ID and the user ID of the sender. -/
structure Identity where
  pid : Int
  uid : Int
deriving DecidableEq, Repr

/-- The number of signals that `t_sigqueue` is to send. -/
def numSignals (others : List (List Byte)) : Except (List Byte) Int :=
  match others with
  | [] => .ok 1
  | numSigsArg :: _ => getInt (some numSigsArg) GN_GT_0 (some "num-sigs")

/-- `main` of `t_sigqueue`, with the error that each call of `sigqueue` fails with.  The
argument with the process ID is read again in every turn of the loop. -/
def tSigqueue (dumpcore : Option String) (self : Identity) (argv : List (List Byte))
    (answer : Nat -> Option Errno) : Outcome :=
  let usage (program : List Byte) : Outcome :=
    ⟨[], [], usageErr (program ++ ascii " pid sig-num data [num-sigs]")⟩
  match argv with
  | program :: pidArg :: sigArg :: dataArg :: others =>
      if pidArg = ascii "--help" then usage program
      else
        let identity := program ++ ascii ": PID is " ++ renderInt self.pid ++ ascii ", UID is " ++
          renderInt self.uid
        match getInt (some sigArg) 0 (some "sig-num") with
        | .error diagnostic => ⟨[], [identity], .badArguments diagnostic⟩
        | .ok sig =>
            match getInt (some dataArg) GN_ANY_BASE (some "data") with
            | .error diagnostic => ⟨[], [identity], .badArguments diagnostic⟩
            | .ok sigData =>
                match numSignals others with
                | .error diagnostic => ⟨[], [identity], .badArguments diagnostic⟩
                | .ok numSigs => queue identity pidArg sig sigData numSigs
  | program :: _ => usage program
  | [] => usage []
where
  queue (identity pidArg : List Byte) (sig sigData numSigs : Int) : Outcome :=
    match getLong (some pidArg) 0 (some "pid") with
    | .error diagnostic => ⟨[], [identity], .badArguments diagnostic⟩
    | .ok pid =>
        let sent := callLoop answer (fun j => ⟨toPid pid, sig, some (toInt (sigData + j))⟩) 0
          numSigs.toNat
        match sent.2 with
        | some (j, errno) => ⟨sent.1, [identity], .failed (errExit dumpcore errno s!"sigqueue {j}")⟩
        | none => ⟨sent.1, [identity], .success⟩

/-! ## Which process gets the signals -/

/-- The value fits in a `pid_t`. -/
def FitsPid (value : Int) : Prop := INT_MIN ≤ value ∧ value ≤ INT_MAX

/-- Every call names the process with the number `value`, and there is none if no process
can have that number: the program is stopped because of its arguments. -/
structure NamesProcess (value : Int) (outcome : Outcome) : Prop where
  named : forall call, call ∈ outcome.calls -> call.pid = value
  refused : ¬ FitsPid value ->
    outcome.calls = [] ∧ Exists fun text => outcome.ended = .badArguments text

theorem callLoop_named {answer : Nat -> Option Errno} {call : Nat -> Call} {pid : Int}
    (same : forall j, (call j).pid = pid) (more j : Nat) :
    forall made, made ∈ (callLoop answer call j more).1 -> made.pid = pid := by
  induction more generalizing j with
  | zero =>
      intro made member
      cases member
  | succ more inductionHypothesis =>
      intro made member
      unfold callLoop at member
      split at member
      · rw [List.mem_singleton.mp member]
        exact same j
      · rcases List.mem_cons.mp member with first | later
        · rw [first]
          exact same j
        · exact inductionHypothesis (j + 1) made later

/-- A loop of at least one turn makes a call. -/
theorem callLoop_ne_nil (answer : Nat -> Option Errno) (call : Nat -> Call)
    {more : Nat} (j : Nat) (positive : 0 < more) : (callLoop answer call j more).1 ≠ [] := by
  cases more with
  | zero => cases positive
  | succ more =>
      unfold callLoop
      split <;> exact List.cons_ne_nil _ _

theorem NamesProcess.of_stopped {value : Int} {outcome : Outcome} (none : outcome.calls = [])
    {text : List Byte} (ended : outcome.ended = .badArguments text) : NamesProcess value outcome where
  named := by
    intro call member
    rw [none] at member
    cases member
  refused _ := ⟨none, text, ended⟩

/-- Calls that get the converted number name the process exactly if it fits. -/
theorem namesProcess_iff_fits {value : Int} {outcome : Outcome} (some : outcome.calls ≠ [])
    (named : forall call, call ∈ outcome.calls -> call.pid = toPid value) :
    NamesProcess value outcome <-> FitsPid value := by
  constructor
  · intro names
    by_contra tooLarge
    exact some (names.refused tooLarge).1
  · intro fits
    constructor
    · intro call member
      rw [named call member]
      exact toInt_of_range fits.1 fits.2
    · intro tooLarge
      exact absurd fits tooLarge

/-- An argument that `getLong` accepts is not the option for help. -/
theorem ne_help_of_getLong {arg : List Byte} {name : Option String} {value : Int}
    (accepted : getLong (some arg) 0 name = .ok value) : arg ≠ ascii "--help" := by
  intro same
  rcases getNum_ok accepted with ⟨text, given, _, converted, _⟩
  rw [← Option.some.inj given, same] at converted
  have rest : (strtol (ascii "--help") (selectedBase 0)).rest = [] := congrArg StrtolResult.rest converted
  exact absurd rest (by decide)

/-- The number does not depend on the name under which an argument is read. -/
theorem getLong_name {arg : Option (List Byte)} {flags : Nat} {name : Option String} {value : Int}
    (accepted : getLong arg flags name = .ok value) (other : Option String) :
    getLong arg flags other = .ok value :=
  getNum_ok_iff.mpr (getNum_ok_iff.mp accepted)

section

variable (dumpcore : Option String) {program pidArg : List Byte} {name : Option String} {value : Int}

theorem tKill_names_iff (accepted : getLong (some pidArg) 0 name = .ok value) (sigArg : List Byte)
    (answer : Option Errno) :
    NamesProcess value (tKill dumpcore [program, pidArg, sigArg] answer) <->
      FitsPid value ∨ Refuses (getInt (some sigArg) 0 (some "sig-num")) := by
  unfold tKill
  dsimp only
  rw [if_neg (ne_help_of_getLong accepted)]
  cases getInt (some sigArg) 0 (some "sig-num") with
  | error diagnostic =>
      exact iff_of_true (.of_stopped rfl rfl) (Or.inr (refuses_error diagnostic))
  | ok sig =>
      dsimp only
      rw [getLong_name accepted]
      dsimp only
      rw [namesProcess_iff_fits (List.cons_ne_nil _ _)]
      · exact (or_iff_left (not_refuses_ok sig)).symm
      · intro call member
        rw [List.mem_singleton.mp member]

theorem sigSender_send_named (answer : Nat -> Option Errno) (others : List (List Byte))
    (pid sig : Int) {numSigs : Int} (positive : 0 < numSigs) :
    (sigSender.send dumpcore answer program others pid numSigs sig).calls ≠ [] ∧
      forall call, call ∈ (sigSender.send dumpcore answer program others pid numSigs sig).calls ->
        call.pid = pid := by
  have turns : 0 < numSigs.toNat := by omega
  have some := callLoop_ne_nil answer (fun _ => ⟨pid, sig, none⟩) 0 turns
  have named := @callLoop_named answer (fun _ => ⟨pid, sig, none⟩) pid (fun _ => rfl) numSigs.toNat 0
  unfold sigSender.send
  dsimp only
  split
  · exact ⟨some, named⟩
  · split
    · exact ⟨some, named⟩
    · split
      · exact ⟨some, named⟩
      · rename_i second _
        have both : forall call,
            call ∈ (callLoop answer (fun _ => ⟨pid, sig, none⟩) 0 numSigs.toNat).1 ++ [⟨pid, second, none⟩] ->
              call.pid = pid := by
          intro call member
          rcases List.mem_append.mp member with early | last
          · exact named call early
          · rw [List.mem_singleton.mp last]
        split
        · exact ⟨List.append_ne_nil_of_left_ne_nil some _, both⟩
        · exact ⟨List.append_ne_nil_of_left_ne_nil some _, both⟩

theorem sigSender_names_iff (accepted : getLong (some pidArg) 0 name = .ok value)
    (numSigsArg sigArg : List Byte) (others : List (List Byte)) (answer : Nat -> Option Errno) :
    NamesProcess value
        (sigSender dumpcore (program :: pidArg :: numSigsArg :: sigArg :: others) answer) <->
      FitsPid value ∨ Refuses (getInt (some numSigsArg) GN_GT_0 (some "num-sigs")) ∨
        Refuses (getInt (some sigArg) 0 (some "sig-num")) := by
  unfold sigSender
  dsimp only
  rw [if_neg (ne_help_of_getLong accepted), getLong_name accepted]
  dsimp only
  cases counted : getInt (some numSigsArg) GN_GT_0 (some "num-sigs") with
  | error diagnostic =>
      exact iff_of_true (.of_stopped rfl rfl) (Or.inr (Or.inl (refuses_error diagnostic)))
  | ok numSigs =>
      have positive : 0 < numSigs := (getInt_ok counted).2.2 (by decide)
      cases getInt (some sigArg) 0 (some "sig-num") with
      | error diagnostic =>
          exact iff_of_true (.of_stopped rfl rfl) (Or.inr (Or.inr (refuses_error diagnostic)))
      | ok sig =>
          have sent := @sigSender_send_named dumpcore program answer others (toPid value) sig numSigs positive
          dsimp only
          rw [namesProcess_iff_fits sent.1 sent.2]
          exact (or_iff_left (not_or.mpr ⟨not_refuses_ok numSigs, not_refuses_ok sig⟩)).symm

theorem numSignals_pos {others : List (List Byte)} {numSigs : Int}
    (counted : numSignals others = .ok numSigs) : 0 < numSigs := by
  unfold numSignals at counted
  split at counted
  · cases counted
    decide
  · exact (getInt_ok counted).2.2 (by decide)

theorem tSigqueue_names_iff (accepted : getLong (some pidArg) 0 name = .ok value) (self : Identity)
    (sigArg dataArg : List Byte) (others : List (List Byte)) (answer : Nat -> Option Errno) :
    NamesProcess value
        (tSigqueue dumpcore self (program :: pidArg :: sigArg :: dataArg :: others) answer) <->
      FitsPid value ∨ Refuses (getInt (some sigArg) 0 (some "sig-num")) ∨
        Refuses (getInt (some dataArg) GN_ANY_BASE (some "data")) ∨ Refuses (numSignals others) := by
  unfold tSigqueue
  dsimp only
  rw [if_neg (ne_help_of_getLong accepted)]
  cases getInt (some sigArg) 0 (some "sig-num") with
  | error diagnostic =>
      exact iff_of_true (.of_stopped rfl rfl) (Or.inr (Or.inl (refuses_error diagnostic)))
  | ok sig =>
      cases getInt (some dataArg) GN_ANY_BASE (some "data") with
      | error diagnostic =>
          exact iff_of_true (.of_stopped rfl rfl) (Or.inr (Or.inr (Or.inl (refuses_error diagnostic))))
      | ok sigData =>
          cases counted : numSignals others with
          | error diagnostic =>
              exact iff_of_true (.of_stopped rfl rfl)
                (Or.inr (Or.inr (Or.inr (refuses_error diagnostic))))
          | ok numSigs =>
              have positive := numSignals_pos counted
              have turns : 0 < numSigs.toNat := by omega
              have calls := callLoop_ne_nil answer
                (fun j => ⟨toPid value, sig, some (toInt (sigData + j))⟩) 0 turns
              have named := @callLoop_named answer
                (fun j => ⟨toPid value, sig, some (toInt (sigData + j))⟩) (toPid value) (fun _ => rfl)
                numSigs.toNat 0
              dsimp only
              unfold tSigqueue.queue
              rw [getLong_name accepted]
              dsimp only
              have notRefused := not_or.mpr ⟨not_refuses_ok sig,
                not_or.mpr ⟨not_refuses_ok sigData, not_refuses_ok numSigs⟩⟩
              split
              · rw [namesProcess_iff_fits calls named]
                exact (or_iff_left notRefused).symm
              · rw [namesProcess_iff_fits calls named]
                exact (or_iff_left notRefused).symm

end

/-- The signals of each of the three programs go to the process that was named exactly
if the number fits in a `pid_t`, or the program is stopped by an argument that it reads
before it sends anything. -/
theorem signals_named_iff (dumpcore : Option String) (self : Identity)
    (program pidArg numSigsArg sigArg dataArg : List Byte) (others : List (List Byte))
    (name : Option String) (value : Int) (accepted : getLong (some pidArg) 0 name = .ok value)
    (first : Option Errno) (answer : Nat -> Option Errno) :
    (NamesProcess value (tKill dumpcore [program, pidArg, sigArg] first) <->
      FitsPid value ∨ Refuses (getInt (some sigArg) 0 (some "sig-num"))) ∧
    (NamesProcess value
        (sigSender dumpcore (program :: pidArg :: numSigsArg :: sigArg :: others) answer) <->
      FitsPid value ∨ Refuses (getInt (some numSigsArg) GN_GT_0 (some "num-sigs")) ∨
        Refuses (getInt (some sigArg) 0 (some "sig-num"))) ∧
    (NamesProcess value
        (tSigqueue dumpcore self (program :: pidArg :: sigArg :: dataArg :: others) answer) <->
      FitsPid value ∨ Refuses (getInt (some sigArg) 0 (some "sig-num")) ∨
        Refuses (getInt (some dataArg) GN_ANY_BASE (some "data")) ∨ Refuses (numSignals others)) :=
  ⟨tKill_names_iff dumpcore accepted sigArg first,
    sigSender_names_iff dumpcore accepted numSigsArg sigArg others answer,
    tSigqueue_names_iff dumpcore accepted self sigArg dataArg others answer⟩

/-- `t_kill 4294967295 9`, which kills every process that it may send a signal to. -/
def killAll : List (List Byte) := [ascii "t_kill", ascii "4294967295", ascii "9"]

theorem largePid_misdirected :
    getLong (some (ascii "4294967295")) 0 (some "pid") = .ok 4294967295 ∧
      (tKill none killAll none).calls = [⟨-1, 9, none⟩] ∧
      ¬ NamesProcess 4294967295 (tKill none killAll none) := by
  have calls : (tKill none killAll none).calls = [⟨-1, 9, none⟩] := by decide +kernel
  refine ⟨by decide +kernel, calls, ?_⟩
  intro names
  have same := names.named ⟨-1, 9, none⟩ (by rw [calls]; exact List.mem_singleton_self _)
  cases same

/-- A process ID that fits. -/
theorem smallPid_named :
    NamesProcess 100 (tKill none [ascii "t_kill", ascii "100", ascii "9"] none) :=
  (signals_named_iff none ⟨1, 1⟩ (ascii "t_kill") (ascii "100") (ascii "1") (ascii "9") (ascii "0") []
    (some "pid") 100 (by decide +kernel) none (fun _ => none)).1.mpr
    (Or.inl ⟨by decide, by decide⟩)

end SendToPid
end SignalBasic
end Tlpi
