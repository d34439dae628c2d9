import Tlpi.CLibrary.Descriptor
import Tlpi.CLibrary.Integers
import Tlpi.Foundations.BoundedLoop

namespace Tlpi
namespace Lib

open CLibrary Foundations

/-!
# `readn` and `writen`: whole blocks over a fragmenting kernel

Both loops restart after an interruption and after a short transfer, moving the
buffer pointer and the running total by the amount transferred.  They differ in
their types.  `readn` keeps its total in an `ssize_t` and compares it with the
`size_t` request, so the comparison converts; `writen` keeps its total in a
`size_t` and converts it when it returns.  The conversions are in the model and
are harmless for requests up to `SSIZE_MAX`.

A call is described relative to the answers that it used.  If all of them are
restartable the block is complete up to end of file; if one is not, the call
returns -1.  No case is left between the two.
-/

/-! ## Reading -/

/-- What a call of `readn` leaves. -/
structure ReadnCall where
  returned : Int
  errno : Option Errno
  memory : Memory
  source : Source

structure ReadnState where
  source : Source
  totRead : Int
  buf : Nat
  memory : Memory

/-- The loop test and one iteration of `readn`.  The request `n - totRead` is a
`size_t` subtraction; it does not wrap because the test has just passed. -/
def readnBody (n : Nat) (state : ReadnState) : Control ReadnState ReadnCall :=
  if toSizeT state.totRead < n then
    match read state.source (n - toSizeT state.totRead) with
    | (.ok [], source) => .done ⟨state.totRead, none, state.memory, source⟩
    | (.error errno, source) =>
        if errno = .EINTR then .again { state with source := source }
        else .done ⟨-1, some errno, state.memory, source⟩
    | (.ok (first :: rest), source) =>
        .again
          { source := source
            totRead := toSSizeT (state.totRead + (first :: rest).length)
            buf := state.buf + (first :: rest).length
            memory := store state.memory state.buf (first :: rest) }
  else .done ⟨state.totRead, none, state.memory, state.source⟩

/-- An iteration that asks for another one was interrupted or has transferred bytes. -/
theorem readnBody_eq_again {n : Nat} {state next : ReadnState}
    (iteration : readnBody n state = .again next) :
    toSizeT state.totRead < n ∧
      ((Exists fun source =>
          read state.source (n - toSizeT state.totRead) = (.error .EINTR, source) ∧
          next = { state with source := source }) ∨
        (Exists fun bytes => Exists fun source =>
          read state.source (n - toSizeT state.totRead) = (.ok bytes, source) ∧ bytes ≠ [] ∧
          next =
            { source := source
              totRead := toSSizeT (state.totRead + bytes.length)
              buf := state.buf + bytes.length
              memory := store state.memory state.buf bytes })) := by
  unfold readnBody at iteration
  split at iteration
  · rename_i unfinished
    refine ⟨unfinished, ?_⟩
    split at iteration
    · cases iteration
    · rename_i errno source called
      split at iteration
      · rename_i interrupted
        cases iteration
        subst interrupted
        exact .inl ⟨source, called, rfl⟩
      · cases iteration
    · rename_i first rest source called
      cases iteration
      exact .inr ⟨first :: rest, source, called, List.cons_ne_nil first rest, rfl⟩
  · cases iteration

theorem readnBody_decreases {n : Nat} {state next : ReadnState}
    (iteration : readnBody n state = .again next) :
    next.source.size < state.source.size := by
  rcases readnBody_eq_again iteration with
    ⟨unfinished, ⟨source, called, rfl⟩ | ⟨bytes, source, called, nonempty, rfl⟩⟩
  · exact read_size called (Nat.sub_pos_of_lt unfinished) (by intro impossible; cases impossible)
  · refine read_size called (Nat.sub_pos_of_lt unfinished) ?_
    intro same
    exact nonempty (Except.ok.inj same)

/-- The `for` loop of `readn`. -/
def readnLoop (n : Nat) : BoundedLoop ReadnState ReadnCall where
  body := readnBody n
  variant := fun state => state.source.size
  decreases := readnBody_decreases

def readn (source : Source) (buffer n : Nat) (memory : Memory) : ReadnCall :=
  (readnLoop n).run ⟨source, 0, buffer, memory⟩

/-- What the rest of `readn` does from a state in its middle, in terms of the
answers it uses. -/
def FinishesBlock (n : Nat) (state : ReadnState) (call : ReadnCall) : Prop :=
  0 ≤ state.totRead -> state.totRead ≤ n -> n ≤ SSIZE_MAX ->
    Exists fun used => Consumed state.source.responses call.source.responses used ∧
      (AllRestart used ->
        let block := state.source.pending.take (n - state.totRead.toNat)
        call.errno = none ∧ call.returned = state.totRead + block.length ∧
          call.memory = store state.memory state.buf block ∧
          call.source.pending = state.source.pending.drop (n - state.totRead.toNat)) ∧
      (¬ AllRestart used -> call.returned = -1)

/-- `toSizeT` is the identity on a total within a request. -/
theorem toSizeT_total {n : Nat} {total : Int} (low : 0 ≤ total) (high : total ≤ n)
    (bounded : n ≤ SSIZE_MAX) : toSizeT total = total.toNat := by
  have converted := toSizeT_of_range low (high.trans (Int.ofNat_le.mpr bounded))
  omega

/-- An interruption uses its answer and changes nothing else. -/
theorem FinishesBlock.of_interrupted {n : Nat} {state : ReadnState} {source : Source}
    {call : ReadnCall}
    (scripted : state.source.responses = .failed .EINTR :: source.responses)
    (pending : source.pending = state.source.pending)
    (rest : FinishesBlock n { state with source := source } call) : FinishesBlock n state call := by
  intro low high bounded
  have first : Consumed state.source.responses source.responses [.failed .EINTR] := scripted
  refine first.continued allRestart_interrupted ?_ (rest low high bounded)
  intro complete
  simpa only [pending] using complete

/-- A short transfer advances the total, the pointer and the stream by the same
amount, so the pieces stored before and after it are one block. -/
theorem FinishesBlock.of_transferred {n : Nat} {state : ReadnState} {source : Source}
    {bytes : List Byte} {first : List Response} {call : ReadnCall}
    (split : state.source.pending = bytes ++ source.pending)
    (short : bytes.length ≤ n - state.totRead.toNat)
    (firstConsumed : Consumed state.source.responses source.responses first)
    (firstRestarts : AllRestart first)
    (rest : FinishesBlock n
      { source := source
        totRead := toSSizeT (state.totRead + bytes.length)
        buf := state.buf + bytes.length
        memory := store state.memory state.buf bytes } call) : FinishesBlock n state call := by
  intro low high bounded
  have fits : state.totRead + bytes.length ≤ n := by omega
  have total : toSSizeT (state.totRead + bytes.length) = state.totRead + bytes.length :=
    toSSizeT_of_range (by omega) (fits.trans (Int.ofNat_le.mpr bounded))
  rw [total] at rest
  have remaining : n - (state.totRead + bytes.length).toNat =
      n - state.totRead.toNat - bytes.length := by omega
  have block : state.source.pending.take (n - state.totRead.toNat) =
      bytes ++ source.pending.take (n - state.totRead.toNat - bytes.length) := by
    rw [split, List.take_append, List.take_of_length_le short]
  refine firstConsumed.continued firstRestarts ?_
    (rest (show 0 ≤ state.totRead + bytes.length by omega) fits bounded)
  dsimp only
  rintro ⟨errno, returned, stored, left⟩
  refine ⟨errno, ?_, ?_, ?_⟩
  · rw [returned, block, remaining, List.length_append]
    omega
  · rw [stored, block, remaining, store_append]
  · rw [left, remaining, split, List.drop_append, List.drop_of_length_le short, List.nil_append]

theorem readnBody_again {n : Nat} {state next : ReadnState} {call : ReadnCall}
    (iteration : readnBody n state = .again next) (rest : FinishesBlock n next call) :
    FinishesBlock n state call := by
  intro low high bounded
  rcases readnBody_eq_again iteration with
    ⟨unfinished, ⟨source, called, rfl⟩ | ⟨bytes, source, called, nonempty, rfl⟩⟩
  · have scripted := read_error called
    exact FinishesBlock.of_interrupted scripted.1 scripted.2 rest low high bounded
  · rw [toSizeT_total low high bounded] at called unfinished
    rcases read_ok called (Nat.sub_pos_of_lt unfinished) with
      ⟨split, short, _, first, consumed, restarts⟩
    exact FinishesBlock.of_transferred split short consumed restarts rest low high bounded

theorem readnBody_done {n : Nat} {state : ReadnState} {call : ReadnCall}
    (iteration : readnBody n state = .done call) : FinishesBlock n state call := by
  intro low high bounded
  have converted := toSizeT_total low high bounded
  unfold readnBody at iteration
  split at iteration
  · rename_i unfinished
    rw [converted] at iteration unfinished
    have request : 0 < n - state.totRead.toNat := Nat.sub_pos_of_lt unfinished
    split at iteration
    · rename_i source called
      cases iteration
      rcases read_ok called request with ⟨split, _, ends, used, consumed, restarts⟩
      have atEnd := ends.mp rfl
      refine ⟨used, consumed, fun _ => ?_, fun failed => absurd restarts failed⟩
      rw [atEnd] at split
      have sourceAtEnd := (List.append_eq_nil_iff.mp split.symm).2
      rw [atEnd]
      simp [sourceAtEnd]
    · rename_i errno source called
      split at iteration
      · cases iteration
      · rename_i notInterrupted
        cases iteration
        refine ⟨[.failed errno], (read_error called).1, fun all => ?_, fun _ => rfl⟩
        exact absurd (all (.failed errno) List.mem_cons_self) notInterrupted
    · cases iteration
  · rename_i finished
    rw [converted] at finished
    cases iteration
    have nothingLeft : n - state.totRead.toNat = 0 := by omega
    refine ⟨[], rfl, fun _ => ?_, fun failed => absurd (fun _ member => by cases member) failed⟩
    simp [nothingLeft]

theorem readn_spec {n : Nat} (bounded : n ≤ SSIZE_MAX) (source : Source) (buffer : Nat)
    (memory : Memory) :
    let call := readn source buffer n memory
    Exists fun used => Consumed source.responses call.source.responses used ∧
      (AllRestart used ->
        call.errno = none ∧ call.returned = (source.pending.take n).length ∧
          call.memory = store memory buffer (source.pending.take n) ∧
          call.source.pending = source.pending.drop n) ∧
      (¬ AllRestart used -> call.returned = -1) := by
  have finished : FinishesBlock n ⟨source, 0, buffer, memory⟩ (readn source buffer n memory) :=
    (readnLoop n).run_relation (fun _ _ => readnBody_done) (fun _ _ _ => readnBody_again) _
  simpa only [Int.toNat_zero, Nat.sub_zero, Int.zero_add] using
    finished (le_refl 0) (Int.natCast_nonneg n) bounded

/-- One request of a sequence of `readn` calls: its buffer and its size. -/
structure ReadnRequest where
  buffer : Nat
  n : Nat
deriving DecidableEq, Repr

/-- Successive calls of `readn` on one descriptor. -/
def readnCalls : List ReadnRequest -> Memory -> Source -> List ReadnCall
  | [], _, _ => []
  | request :: rest, memory, source =>
      let call := readn source request.buffer request.n memory
      call :: readnCalls rest call.memory call.source

/-- The block that the request of index `k` is due: it begins where the earlier
requests end, whether or not the stream is that long. -/
def blockAt (requests : List ReadnRequest) (stream : List Byte) (k : Nat) (n : Nat) : List Byte :=
  (stream.drop ((requests.take k).map ReadnRequest.n).sum).take n

/-- What the call for a request leaves: its return value is the length of the
block, the buffer holds the block, and a block shorter than the request means
that the stream is at its end. -/
structure ReadsBlock (request : ReadnRequest) (block : List Byte) (call : ReadnCall) : Prop where
  returns : call.returned = block.length
  holds : load call.memory request.buffer block.length = block
  short : block.length < request.n -> call.source.pending = []

theorem readn_readsBlock {request : ReadnRequest} (bounded : request.n ≤ SSIZE_MAX)
    {source : Source} (restarts : AllRestart source.responses) (memory : Memory) :
    let call := readn source request.buffer request.n memory
    ReadsBlock request (source.pending.take request.n) call ∧
      call.source.pending = source.pending.drop request.n ∧ AllRestart call.source.responses := by
  rcases readn_spec bounded source request.buffer memory with ⟨used, consumed, complete, _⟩
  rcases complete (restarts.used consumed) with ⟨_, returned, stored, left⟩
  refine ⟨⟨returned, ?_, ?_⟩, left, restarts.of_consumed consumed⟩
  · rw [stored, load_store _ _ _ _ (le_refl _), List.take_length]
  · intro shorter
    rw [left, List.drop_eq_nil_iff]
    rw [List.length_take] at shorter
    omega

/-- Induction over the requests: each call leaves the stream after its block. -/
theorem readnCalls_readsBlock (requests : List ReadnRequest)
    (bounded : forall request, request ∈ requests -> request.n ≤ SSIZE_MAX)
    (memory : Memory) {source : Source} (restarts : AllRestart source.responses)
    (k : Nat) (request : ReadnRequest) (found : requests[k]? = some request) :
    Exists fun call => (readnCalls requests memory source)[k]? = some call ∧
      ReadsBlock request (blockAt requests source.pending k request.n) call := by
  induction requests generalizing memory source k with
  | nil => cases found
  | cons head tail inductionHypothesis =>
      rcases readn_readsBlock (bounded head List.mem_cons_self) restarts memory with
        ⟨reads, left, later⟩
      cases k with
      | zero =>
          cases found
          exact ⟨_, rfl, reads⟩
      | succ k =>
          rcases inductionHypothesis (fun other member => bounded other (List.mem_cons_of_mem head member))
            (readn source head.buffer head.n memory).memory later k found with ⟨call, called, readsLater⟩
          have shifted : blockAt (head :: tail) source.pending (k + 1) request.n =
              blockAt tail (source.pending.drop head.n) k request.n := by
            simp only [blockAt, List.take_succ_cons, List.map_cons, List.sum_cons, List.drop_drop]
          rw [left] at readsLater
          exact ⟨call, called, shifted ▸ readsLater⟩

/-! ## Writing -/

/-- What a call of `writen` leaves. -/
structure WritenCall where
  returned : Int
  errno : Option Errno
  sink : Sink

structure WritenState where
  sink : Sink
  totWritten : Nat
  buf : Nat

/-- The loop test and one iteration of `writen`.  A `write` that accepts no
byte is treated as an error, although it sets no error number. -/
def writenBody (memory : Memory) (n : Nat) (state : WritenState) : Control WritenState WritenCall :=
  if state.totWritten < n then
    match write state.sink (load memory state.buf (n - state.totWritten)) with
    | (.error errno, sink) =>
        if errno = .EINTR then .again { state with sink := sink }
        else .done ⟨-1, some errno, sink⟩
    | (.ok 0, sink) => .done ⟨-1, none, sink⟩
    | (.ok (accepted + 1), sink) =>
        .again ⟨sink, state.totWritten + (accepted + 1), state.buf + (accepted + 1)⟩
  else .done ⟨toSSizeT state.totWritten, none, state.sink⟩

theorem load_ne_nil (memory : Memory) (address : Nat) {count : Nat} (positive : 0 < count) :
    load memory address count ≠ [] := by
  apply List.length_pos_iff.mp
  rwa [load_length]

/-- An iteration that asks for another one was interrupted, or some bytes were accepted. -/
theorem writenBody_eq_again {memory : Memory} {n : Nat} {state next : WritenState}
    (iteration : writenBody memory n state = .again next) :
    state.totWritten < n ∧
      ((Exists fun sink =>
          write state.sink (load memory state.buf (n - state.totWritten)) =
            (.error .EINTR, sink) ∧
          next = { state with sink := sink }) ∨
        (Exists fun accepted => Exists fun sink =>
          write state.sink (load memory state.buf (n - state.totWritten)) =
            (.ok (accepted + 1), sink) ∧
          next = ⟨sink, state.totWritten + (accepted + 1), state.buf + (accepted + 1)⟩)) := by
  unfold writenBody at iteration
  split at iteration
  · rename_i unfinished
    refine ⟨unfinished, ?_⟩
    split at iteration
    · rename_i errno sink called
      split at iteration
      · rename_i interrupted
        cases iteration
        subst interrupted
        exact .inl ⟨sink, called, rfl⟩
      · cases iteration
    · cases iteration
    · rename_i accepted sink called
      cases iteration
      exact .inr ⟨accepted, sink, called, rfl⟩
  · cases iteration

theorem writenBody_decreases {memory : Memory} {n : Nat} {state next : WritenState}
    (iteration : writenBody memory n state = .again next) :
    next.sink.responses.length + (n - next.totWritten) <
      state.sink.responses.length + (n - state.totWritten) := by
  rcases writenBody_eq_again iteration with
    ⟨unfinished, ⟨sink, called, rfl⟩ | ⟨accepted, sink, called, rfl⟩⟩
  · rw [(write_error called).1, List.length_cons]
    dsimp only
    omega
  · rcases write_ok called (load_ne_nil memory state.buf (Nat.sub_pos_of_lt unfinished)) with
      ⟨_, _, fits, used, consumed, _⟩
    rw [load_length] at fits
    have answers := congrArg List.length consumed
    rw [List.length_append] at answers
    dsimp only
    omega

/-- The `for` loop of `writen`. -/
def writenLoop (memory : Memory) (n : Nat) : BoundedLoop WritenState WritenCall where
  body := writenBody memory n
  variant := fun state => state.sink.responses.length + (n - state.totWritten)
  decreases := writenBody_decreases

def writen (sink : Sink) (buffer n : Nat) (memory : Memory) : WritenCall :=
  (writenLoop memory n).run ⟨sink, 0, buffer⟩

/-- What the rest of `writen` does from a state in its middle. -/
def FinishesWrite (memory : Memory) (n : Nat) (state : WritenState) (call : WritenCall) : Prop :=
  state.totWritten ≤ n -> n ≤ SSIZE_MAX ->
    Exists fun used => Consumed state.sink.responses call.sink.responses used ∧
      (AllRestart used ->
        call.errno = none ∧ call.returned = n ∧
          call.sink.received =
            state.sink.received ++ load memory state.buf (n - state.totWritten)) ∧
      (¬ AllRestart used -> call.returned = -1)

theorem writenBody_done {memory : Memory} {n : Nat} {state : WritenState} {call : WritenCall}
    (iteration : writenBody memory n state = .done call) : FinishesWrite memory n state call := by
  intro high bounded
  unfold writenBody at iteration
  split at iteration
  · rename_i unfinished
    have nonempty := load_ne_nil memory state.buf (Nat.sub_pos_of_lt unfinished)
    split at iteration
    · rename_i errno sink called
      split at iteration
      · cases iteration
      · rename_i notInterrupted
        cases iteration
        refine ⟨[.failed errno], (write_error called).1, fun all => ?_, fun _ => rfl⟩
        exact absurd (all (.failed errno) List.mem_cons_self) notInterrupted
    · rename_i sink called
      exact absurd (write_ok called nonempty).2.1 (lt_irrefl 0)
    · cases iteration
  · rename_i finished
    have delivered := Control.done.inj iteration
    subst delivered
    have complete : state.totWritten = n := by omega
    have returned : toSSizeT n = n :=
      toSSizeT_of_range (Int.natCast_nonneg n) (Int.ofNat_le.mpr bounded)
    refine ⟨[], rfl, fun _ => ⟨rfl, ?_, ?_⟩, fun failed => absurd (fun _ member => by cases member) failed⟩
    · rw [complete, returned]
    · rw [complete, Nat.sub_self]
      exact (List.append_nil _).symm

theorem writenBody_again {memory : Memory} {n : Nat} {state next : WritenState} {call : WritenCall}
    (iteration : writenBody memory n state = .again next)
    (rest : FinishesWrite memory n next call) : FinishesWrite memory n state call := by
  intro high bounded
  rcases writenBody_eq_again iteration with
    ⟨unfinished, ⟨sink, called, rfl⟩ | ⟨accepted, sink, called, rfl⟩⟩
  · rcases write_error called with ⟨scripted, received⟩
    have first : Consumed state.sink.responses sink.responses [.failed .EINTR] := scripted
    refine first.continued allRestart_interrupted ?_ (rest high bounded)
    intro complete
    simpa only [received] using complete
  · have nonempty := load_ne_nil memory state.buf (Nat.sub_pos_of_lt unfinished)
    rcases write_ok called nonempty with ⟨received, _, fits, first, firstConsumed, firstRestarts⟩
    rw [load_length] at fits
    rw [load_take _ _ _ _ fits] at received
    have within : state.totWritten + (accepted + 1) ≤ n := by omega
    have remaining : n - state.totWritten =
        (accepted + 1) + (n - (state.totWritten + (accepted + 1))) := by omega
    refine firstConsumed.continued firstRestarts ?_ (rest within bounded)
    dsimp only
    rintro ⟨errno, returned, appended⟩
    refine ⟨errno, returned, ?_⟩
    rw [appended, received, List.append_assoc, ← load_append, ← remaining]

theorem writen_spec {n : Nat} (bounded : n ≤ SSIZE_MAX) (sink : Sink) (buffer : Nat)
    (memory : Memory) :
    let call := writen sink buffer n memory
    Exists fun used => Consumed sink.responses call.sink.responses used ∧
      (AllRestart used ->
        call.errno = none ∧ call.returned = n ∧
          call.sink.received = sink.received ++ load memory buffer n) ∧
      (¬ AllRestart used -> call.returned = -1) := by
  have finished : FinishesWrite memory n ⟨sink, 0, buffer⟩ (writen sink buffer n memory) :=
    (writenLoop memory n).run_relation (fun _ _ => writenBody_done) (fun _ _ _ => writenBody_again) _
  simpa only [Nat.sub_zero] using finished (Nat.zero_le n) bounded

/-! ## Fragmentation is invisible -/

/-- A call met an error when one of the answers it used is an error other than
`EINTR`. -/
def MeetsError (earlier later : List Response) : Prop :=
  Exists fun used => Consumed earlier later used ∧
    Exists fun errno => errno ≠ .EINTR ∧ .failed errno ∈ used

/-- The answers used between two points of a script are determined by them. -/
theorem MeetsError.of_consumed {earlier later used : List Response}
    (meets : MeetsError earlier later) (consumed : Consumed earlier later used) :
    ¬ AllRestart used := by
  rcases meets with ⟨other, otherConsumed, found⟩
  have same : other = used := List.append_cancel_right (otherConsumed.symm.trans consumed)
  exact not_allRestart_iff.mpr (same ▸ found)

/-- `writen` and `readn` are transparent to fragmentation: with restartable
answers, whatever their number and sizes, `writen` appends exactly its bytes and
each of any sequence of `readn` calls returns the block due to it; a call of
either that meets another error returns -1. -/
theorem rdwrn_transparent_to_fragmentation :
    (forall (sink : Sink) (buffer n : Nat) (memory : Memory), n ≤ SSIZE_MAX ->
      AllRestart sink.responses ->
      (writen sink buffer n memory).returned = n ∧
        (writen sink buffer n memory).sink.received = sink.received ++ load memory buffer n) ∧
    (forall (requests : List ReadnRequest) (memory : Memory) (source : Source),
      (forall request, request ∈ requests -> request.n ≤ SSIZE_MAX) ->
      AllRestart source.responses ->
      forall k request, requests[k]? = some request ->
        Exists fun call => (readnCalls requests memory source)[k]? = some call ∧
          ReadsBlock request (blockAt requests source.pending k request.n) call) ∧
    (forall (sink : Sink) (buffer n : Nat) (memory : Memory), n ≤ SSIZE_MAX ->
      MeetsError sink.responses (writen sink buffer n memory).sink.responses ->
      (writen sink buffer n memory).returned = -1) ∧
    (forall (source : Source) (buffer n : Nat) (memory : Memory), n ≤ SSIZE_MAX ->
      MeetsError source.responses (readn source buffer n memory).source.responses ->
      (readn source buffer n memory).returned = -1) := by
  refine ⟨?_, ?_, ?_, ?_⟩
  · intro sink buffer n memory bounded restarts
    rcases writen_spec bounded sink buffer memory with ⟨used, consumed, complete, _⟩
    exact (complete (restarts.used consumed)).2
  · intro requests memory source bounded restarts k request found
    exact readnCalls_readsBlock requests bounded memory restarts k request found
  · intro sink buffer n memory bounded meets
    rcases writen_spec bounded sink buffer memory with ⟨used, consumed, _, failed⟩
    exact failed (meets.of_consumed consumed)
  · intro source buffer n memory bounded meets
    rcases readn_spec bounded source buffer memory with ⟨used, consumed, _, failed⟩
    exact failed (meets.of_consumed consumed)

/-- Two requests of two bytes each on a stream of three, read one byte at a time
with an interruption; and a write of three bytes in two pieces. -/
theorem rdwrn_transparent_to_fragmentation_short_transfers :
    let source : Source := ⟨[.transfer 1, .failed .EINTR, .transfer 1], [1, 2, 3]⟩
    let sink : Sink := ⟨[.transfer 2, .failed .EINTR], [9]⟩
    let requests : List ReadnRequest := [⟨0, 2⟩, ⟨4, 2⟩]
    ((readnCalls requests (fun _ => 0) source).map ReadnCall.returned = [2, 1] ∧
      forall k request, requests[k]? = some request ->
        Exists fun call => (readnCalls requests (fun _ => 0) source)[k]? = some call ∧
          ReadsBlock request (blockAt requests source.pending k request.n) call) ∧
    (writen sink 0 3 (fun _ => 5)).returned = (3 : Nat) ∧
    (writen sink 0 3 (fun _ => 5)).sink.received = [9] ++ load (fun _ => 5) 0 3 := by
  refine ⟨⟨by decide, ?_⟩, ?_⟩
  · exact rdwrn_transparent_to_fragmentation.2.1 _ (fun _ => 0) _ (by decide) (by decide)
  · exact rdwrn_transparent_to_fragmentation.1 _ 0 3 (fun _ => 5) (by decide) (by decide)

end Lib
end Tlpi
