import Tlpi.CLibrary.Descriptor
import Tlpi.Foundations.BoundedLoop
import Tlpi.Foundations.Segments

namespace Tlpi
namespace Lib

open CLibrary Foundations

/-!
# `readLine`: one line at a time from a byte stream

The source function fetches one byte per `read` call.  Its single loop restarts
after an interruption, gives up on any other error, ends at end of file or at a
newline, stores a byte while fewer than `n - 1` have been stored, and silently
discards it afterwards.  The model keeps all of these outcomes and the two
variables that move together, the count `totRead` and the pointer `buf`.

The abstract side is the cutting of a stream into lines from `Foundations`.
One call stores the leading `n - 1` bytes of the next line and a null byte, and
leaves the stream after that whole line, discarded bytes included.  Successive
calls therefore walk through the lines whatever the interruptions were.
-/

/-- The test `ch == '\n'`, as a delimiter of segments. -/
def isNewline (byte : Byte) : Bool := byte == newline

/-- The line at the front of a stream: through the next newline, or to its end. -/
def nextLine (stream : List Byte) : List Byte := throughFirst isNewline stream

/-- The stream after its front line. -/
def afterLine (stream : List Byte) : List Byte := afterFirst isNewline stream

/-- All lines of a stream, each with its newline if it has one. -/
def lines (stream : List Byte) : List (List Byte) := segments isNewline stream

/-- What a call of `readLine` leaves: its return value, `errno` when the call
set it, the memory, and the descriptor. -/
structure ReadLineCall where
  returned : Int
  errno : Option Errno
  memory : Memory
  source : Source

structure ReadLineState where
  source : Source
  totRead : Nat
  buf : Nat
  memory : Memory

namespace ReadLineState

/-- The common exit: `*buf = '\0'; return totRead;`. -/
def finish (state : ReadLineState) : ReadLineCall :=
  ⟨state.totRead, none, store state.memory state.buf [0], state.source⟩

/-- Store a fetched byte while there is room for it, else discard it. -/
def keep (n : Nat) (state : ReadLineState) (ch : Byte) : ReadLineState :=
  if state.totRead < n - 1 then
    { state with
      totRead := state.totRead + 1
      buf := state.buf + 1
      memory := store state.memory state.buf [ch] }
  else state

end ReadLineState

/-- One iteration: `read(fd, &ch, 1)` and the three branches on its result. -/
def readLineBody (n : Nat) (state : ReadLineState) : Control ReadLineState ReadLineCall :=
  match read state.source 1 with
  | (.error errno, source) =>
      if errno = .EINTR then .again { state with source := source }
      else .done ⟨-1, some errno, state.memory, source⟩
  | (.ok [], source) =>
      if state.totRead = 0 then .done ⟨0, none, state.memory, source⟩
      else .done (ReadLineState.finish { state with source := source })
  | (.ok (ch :: _), source) =>
      let stored := ReadLineState.keep n { state with source := source } ch
      if ch = newline then .done stored.finish else .again stored

@[simp] theorem keep_source (n : Nat) (state : ReadLineState) (ch : Byte) :
    (state.keep n ch).source = state.source := by
  unfold ReadLineState.keep
  split <;> rfl

theorem readLineBody_decreases {n : Nat} {state next : ReadLineState}
    (iteration : readLineBody n state = .again next) :
    next.source.size < state.source.size := by
  unfold readLineBody at iteration
  split at iteration
  · rename_i errno source called
    split at iteration
    · cases iteration
      exact read_size called Nat.one_pos (by intro impossible; cases impossible)
    · cases iteration
  · split at iteration <;> cases iteration
  · rename_i ch rest source called
    dsimp only at iteration
    split at iteration
    · cases iteration
    · cases iteration
      rw [keep_source]
      exact read_size called Nat.one_pos (by intro impossible; cases impossible)

/-- The `for (;;)` loop.  Each further iteration has used up an answer of the
kernel or a byte of the stream. -/
def readLineLoop (n : Nat) : BoundedLoop ReadLineState ReadLineCall where
  body := readLineBody n
  variant := fun state => state.source.size
  decreases := readLineBody_decreases

/-- `readLine(fd, buffer, n)`.  A null `buffer` is `none`. -/
def readLine (source : Source) (buffer : Option Nat) (n : Nat) (memory : Memory) : ReadLineCall :=
  match buffer with
  | none => ⟨-1, some .EINVAL, memory, source⟩
  | some address =>
      if n ≤ 0 then ⟨-1, some .EINVAL, memory, source⟩
      else (readLineLoop n).run ⟨source, 0, address, memory⟩

/-! ## What one iteration can do -/

/-- Among the answers to the reads for the line at the front of a stream there
is an error other than `EINTR`. -/
def LineFails : List Response -> List Byte -> Prop
  | [], _ => False
  | .failed errno :: rest, stream => errno ≠ .EINTR ∨ LineFails rest stream
  | .transfer _ :: _, [] => False
  | .transfer _ :: rest, ch :: stream => ch ≠ newline ∧ LineFails rest stream

theorem not_lineFails_of_allRestart {script : List Response} (restarts : AllRestart script)
    (stream : List Byte) : ¬ LineFails script stream := by
  induction script generalizing stream with
  | nil => exact id
  | cons response rest inductionHypothesis =>
      have later : AllRestart rest := fun other member => restarts other (List.mem_cons_of_mem _ member)
      cases response with
      | failed errno =>
          rintro (notInterrupted | fails)
          · exact notInterrupted (restarts _ List.mem_cons_self)
          · exact inductionHypothesis later stream fails
      | transfer limit =>
          cases stream with
          | nil => exact id
          | cons ch stream => exact fun fails => inductionHypothesis later stream fails.2

/-- A one-byte read that succeeds takes exactly the front byte. -/
theorem read_one {source after : Source} {ch : Byte} {rest : List Byte}
    (called : read source 1 = (.ok (ch :: rest), after)) :
    source.pending = ch :: after.pending := by
  rcases read_ok called Nat.one_pos with ⟨split, short, _, _⟩
  have single : rest = [] := by
    apply List.length_eq_zero_iff.mp
    rw [List.length_cons] at short
    omega
  rw [split, single]
  rfl

/-- A byte that is read leaves the failure of the line, if there is one, to the
reads after it, and a newline leaves none. -/
theorem lineFails_read_one {source after : Source} {ch : Byte} {rest : List Byte}
    (called : read source 1 = (.ok (ch :: rest), after)) :
    LineFails source.responses source.pending <->
      ch ≠ newline ∧ LineFails after.responses after.pending := by
  have front := read_one called
  unfold CLibrary.read at called
  split at called
  · rename_i scripted
    have responses := congrArg Source.responses (congrArg Prod.snd called)
    rw [scripted, ← responses]
    exact ⟨False.elim, And.right⟩
  · cases called
  · rename_i scripted
    have responses := congrArg Source.responses (congrArg Prod.snd called)
    rw [scripted, front, ← responses]
    rfl

/-- The read that finds end of file does not fail. -/
theorem not_lineFails_read_nil {source after : Source}
    (called : read source 1 = (.ok [], after)) : ¬ LineFails source.responses source.pending := by
  have atEnd := (read_ok called Nat.one_pos).2.2.1.mp rfl
  rw [atEnd]
  unfold CLibrary.read at called
  split at called
  · rename_i scripted
    rw [scripted]
    exact id
  · cases called
  · rename_i scripted
    rw [scripted]
    exact id

/-- The loop goes round again either after an interruption, with nothing else
changed, or after a byte that is not a newline. -/
theorem readLineBody_again {n : Nat} {state next : ReadLineState}
    (iteration : readLineBody n state = .again next) :
    (Exists fun source : Source => source.pending = state.source.pending ∧
      state.source.responses = .failed .EINTR :: source.responses ∧
      next = { state with source := source }) ∨
    (Exists fun source : Source => Exists fun ch : Byte => Exists fun used : List Response =>
      state.source.pending = ch :: source.pending ∧ ch ≠ newline ∧
      Consumed state.source.responses source.responses used ∧
      (LineFails state.source.responses state.source.pending <->
        LineFails source.responses source.pending) ∧
      next = ReadLineState.keep n { state with source := source } ch) := by
  unfold readLineBody at iteration
  split at iteration
  · rename_i errno source called
    split at iteration
    · rename_i interrupted
      cases iteration
      subst interrupted
      have scripted := read_error called
      exact Or.inl ⟨source, scripted.2, scripted.1, rfl⟩
    · cases iteration
  · split at iteration <;> cases iteration
  · rename_i ch rest source called
    dsimp only at iteration
    split at iteration
    · cases iteration
    · rename_i notNewline
      cases iteration
      rcases read_ok called Nat.one_pos with ⟨_, _, _, used, consumed, _⟩
      have fails := (lineFails_read_one called).trans (and_iff_right notNewline)
      exact Or.inr ⟨source, ch, used, read_one called, notNewline, consumed, fails, rfl⟩

/-- The loop ends on an unrestartable error, at end of file, or at a newline. -/
theorem readLineBody_done {n : Nat} {state : ReadLineState} {call : ReadLineCall}
    (iteration : readLineBody n state = .done call) :
    (Exists fun source : Source => Exists fun errno : Errno => errno ≠ .EINTR ∧
      state.source.responses = .failed errno :: source.responses ∧
      call = ⟨-1, some errno, state.memory, source⟩) ∨
    (Exists fun source : Source => Exists fun used : List Response =>
      state.source.pending = [] ∧ source.pending = [] ∧
      Consumed state.source.responses source.responses used ∧
      ¬ LineFails state.source.responses state.source.pending ∧
      call = if state.totRead = 0 then ⟨0, none, state.memory, source⟩
        else ReadLineState.finish { state with source := source }) ∨
    (Exists fun source : Source => Exists fun used : List Response =>
      state.source.pending = newline :: source.pending ∧
      Consumed state.source.responses source.responses used ∧
      ¬ LineFails state.source.responses state.source.pending ∧
      call = (ReadLineState.keep n { state with source := source } newline).finish) := by
  unfold readLineBody at iteration
  split at iteration
  · rename_i errno source called
    split at iteration
    · cases iteration
    · rename_i notInterrupted
      cases iteration
      exact Or.inl ⟨source, errno, notInterrupted, (read_error called).1, rfl⟩
  · rename_i source called
    rcases read_ok called Nat.one_pos with ⟨split, _, ends, used, consumed, _⟩
    have atEnd := ends.mp rfl
    have sourceAtEnd : source.pending = [] := by
      rw [atEnd] at split
      exact (List.append_eq_nil_iff.mp split.symm).2
    refine Or.inr (Or.inl ⟨source, used, atEnd, sourceAtEnd, consumed,
      not_lineFails_read_nil called, ?_⟩)
    split at iteration
    · rename_i nothingRead
      cases iteration
      rw [if_pos nothingRead]
    · rename_i somethingRead
      cases iteration
      rw [if_neg somethingRead]
  · rename_i ch rest source called
    dsimp only at iteration
    split at iteration
    · rename_i isEnd
      cases iteration
      subst isEnd
      rcases read_ok called Nat.one_pos with ⟨_, _, _, used, consumed, _⟩
      have succeeds : ¬ LineFails state.source.responses state.source.pending :=
        fun fails => ((lineFails_read_one called).mp fails).1 rfl
      exact Or.inr (Or.inr ⟨source, used, read_one called, consumed, succeeds, rfl⟩)
    · cases iteration

/-! ## One call -/

/-- What the rest of the loop does from a state in its middle: unless a read
fails, it stores as many leading bytes of the rest of the line as still fit, then
a null byte. -/
structure FinishesLine (n : Nat) (state : ReadLineState) (call : ReadLineCall) : Prop where
  uses : Exists fun used => Consumed state.source.responses call.source.responses used
  fails : LineFails state.source.responses state.source.pending -> call.returned = -1
  finishes : ¬ LineFails state.source.responses state.source.pending ->
    call.errno = none ∧ call.source.pending = afterLine state.source.pending ∧
    if state.source.pending = [] ∧ state.totRead = 0 then
      call.returned = 0 ∧ call.memory = state.memory
    else
      let kept := (nextLine state.source.pending).take (n - 1 - state.totRead)
      call.returned = state.totRead + kept.length ∧
        call.memory = store state.memory state.buf (kept ++ [0])

theorem nextLine_cons (ch : Byte) (rest : List Byte) :
    nextLine (ch :: rest) = if ch = newline then [ch] else ch :: nextLine rest := by
  simp [nextLine, throughFirst, isNewline]

/-- The first bytes of a single line are a single line. -/
theorem nextLine_take {line : List Byte} (single : nextLine line = line) (count : Nat) :
    nextLine (line.take count) = line.take count := by
  induction line generalizing count with
  | nil => rw [List.take_nil, single]
  | cons ch rest inductionHypothesis =>
      cases count with
      | zero => rfl
      | succ count =>
          rw [nextLine_cons] at single
          rw [List.take_succ_cons, nextLine_cons]
          split at single
          · rename_i isEnd
            have last : rest = [] := (List.cons.inj single).2.symm
            rw [if_pos isEnd, last, List.take_nil]
          · rename_i notNewline
            rw [if_neg notNewline, inductionHypothesis (List.cons.inj single).2]

theorem afterLine_cons (ch : Byte) (rest : List Byte) :
    afterLine (ch :: rest) = if ch = newline then rest else afterLine rest := by
  simp [afterLine, afterFirst, isNewline]

/-- Keeping a byte moves the count, the pointer and the memory together: storing
`tail` from the new pointer stores the byte and `tail` from the old one. -/
theorem keep_spec (n : Nat) (state : ReadLineState) (ch : Byte) (tail : List Byte) :
    (state.keep n ch).totRead + (tail.take (n - 1 - (state.keep n ch).totRead)).length =
      state.totRead + ((ch :: tail).take (n - 1 - state.totRead)).length ∧
    store (state.keep n ch).memory (state.keep n ch).buf
        (tail.take (n - 1 - (state.keep n ch).totRead) ++ [0]) =
      store state.memory state.buf ((ch :: tail).take (n - 1 - state.totRead) ++ [0]) := by
  unfold ReadLineState.keep
  split
  · rename_i room
    have remaining : n - 1 - state.totRead = (n - 1 - (state.totRead + 1)) + 1 := by omega
    rw [remaining]
    constructor
    · simp only [List.take_succ_cons, List.length_cons]
      omega
    · have joined := store_append state.memory state.buf [ch]
        (tail.take (n - 1 - (state.totRead + 1)) ++ [0])
      simpa only [List.length_singleton, List.take_succ_cons, List.cons_append,
        List.nil_append] using joined
  · rename_i full
    have none_left : n - 1 - state.totRead = 0 := by omega
    simp only [none_left, List.take_zero, and_self]

/-- An iteration that ends the loop ends the line. -/
theorem FinishesLine.of_done {n : Nat} {state : ReadLineState} {call : ReadLineCall}
    (iteration : readLineBody n state = .done call) : FinishesLine n state call := by
  rcases readLineBody_done iteration with
    ⟨source, errno, notInterrupted, scripted, rfl⟩ |
      ⟨source, used, atEnd, sourceAtEnd, consumed, succeeds, rfl⟩ |
      ⟨source, used, front, consumed, succeeds, rfl⟩
  · have fails : LineFails state.source.responses state.source.pending := by
      rw [scripted]
      exact Or.inl notInterrupted
    exact ⟨⟨[.failed errno], scripted⟩, fun _ => rfl, fun succeeds => absurd fails succeeds⟩
  · by_cases nothingRead : state.totRead = 0
    · rw [if_pos nothingRead]
      refine ⟨⟨used, consumed⟩, fun fails => absurd fails succeeds, fun _ => ?_⟩
      rw [if_pos ⟨atEnd, nothingRead⟩, atEnd]
      exact ⟨rfl, sourceAtEnd, rfl, rfl⟩
    · rw [if_neg nothingRead]
      refine ⟨⟨used, consumed⟩, fun fails => absurd fails succeeds, fun _ => ?_⟩
      rw [if_neg (fun both => nothingRead both.2), atEnd]
      refine ⟨rfl, sourceAtEnd, ?_⟩
      simp [ReadLineState.finish, nextLine]
  · have nonempty : ¬ (state.source.pending = [] ∧ state.totRead = 0) := by
      rw [front]
      rintro ⟨impossible, _⟩
      cases impossible
    have kept := keep_spec n { state with source := source } newline []
    simp only [List.take_nil, List.length_nil, Nat.add_zero, List.nil_append] at kept
    refine ⟨⟨used, ?_⟩, fun fails => absurd fails succeeds, fun _ => ?_⟩
    · simpa [ReadLineState.finish] using consumed
    · rw [if_neg nonempty, front, nextLine_cons, if_pos rfl, afterLine_cons, if_pos rfl]
      refine ⟨rfl, ?_, ?_, ?_⟩
      · simp [ReadLineState.finish]
      · exact congrArg Int.ofNat kept.1
      · exact kept.2

/-- An iteration that goes round again leaves the rest of the line.  With room
for at least one byte the count is no longer zero once a byte has been read. -/
theorem FinishesLine.of_again {n : Nat} (room : 2 ≤ n) {state next : ReadLineState}
    {call : ReadLineCall} (iteration : readLineBody n state = .again next)
    (rest : FinishesLine n next call) : FinishesLine n state call := by
  rcases rest with ⟨⟨later, laterConsumed⟩, fails, finishes⟩
  rcases readLineBody_again iteration with ⟨source, pending, scripted, rfl⟩ |
    ⟨source, ch, used, front, notNewline, consumed, sameFailure, rfl⟩
  · have first : Consumed state.source.responses source.responses [.failed .EINTR] := scripted
    have sameFailure : LineFails state.source.responses state.source.pending <->
        LineFails source.responses source.pending := by
      rw [scripted, pending]
      exact or_iff_right (fun interrupted => interrupted rfl)
    refine ⟨⟨_, first.trans laterConsumed⟩, fun line => fails (sameFailure.mp line), ?_⟩
    intro succeeds
    have done := finishes (fun line => succeeds (sameFailure.mpr line))
    simpa only [pending] using done
  · rw [keep_source] at laterConsumed fails finishes
    refine ⟨⟨_, consumed.trans laterConsumed⟩, fun line => fails (sameFailure.mp line), ?_⟩
    intro succeeds
    have done := finishes (fun line => succeeds (sameFailure.mpr line))
    have nonempty : ¬ (state.source.pending = [] ∧ state.totRead = 0) := by
      rw [front]
      rintro ⟨impossible, _⟩
      cases impossible
    have counted : (ReadLineState.keep n { state with source := source } ch).totRead ≠ 0 := by
      unfold ReadLineState.keep
      split
      · exact Nat.succ_ne_zero _
      · rename_i full
        dsimp only at full ⊢
        omega
    have kept := keep_spec n { state with source := source } ch (nextLine source.pending)
    rw [if_neg (fun both => counted both.2)] at done
    rw [if_neg nonempty, front, nextLine_cons, if_neg notNewline, afterLine_cons, if_neg notNewline]
    refine ⟨done.1, done.2.1, ?_, ?_⟩
    · exact done.2.2.1.trans (congrArg Int.ofNat kept.1)
    · exact done.2.2.2.trans kept.2

/-- The specification of one call with a buffer of at least two bytes.  A call
for which some read fails returns -1.  At end of file nothing is stored, not even
the null byte. -/
theorem readLine_spec {n : Nat} (room : 2 ≤ n) (source : Source) (address : Nat)
    (memory : Memory) :
    let call := readLine source (some address) n memory
    (Exists fun used => Consumed source.responses call.source.responses used) ∧
    (LineFails source.responses source.pending -> call.returned = -1) ∧
    (¬ LineFails source.responses source.pending ->
      call.errno = none ∧ call.source.pending = afterLine source.pending ∧
      if source.pending = [] then call.returned = 0 ∧ call.memory = memory
      else
        call.returned = (min (nextLine source.pending).length (n - 1) : Nat) ∧
          call.memory = store memory address ((nextLine source.pending).take (n - 1) ++ [0])) := by
  have finished : FinishesLine n ⟨source, 0, address, memory⟩
      ((readLineLoop n).run ⟨source, 0, address, memory⟩) :=
    (readLineLoop n).run_relation (fun _ _ => .of_done) (fun _ _ _ => .of_again room) _
  have called : readLine source (some address) n memory =
      (readLineLoop n).run ⟨source, 0, address, memory⟩ := by
    simp only [readLine]
    rw [if_neg (by omega)]
  rw [called]
  refine ⟨finished.uses, finished.fails, ?_⟩
  intro succeeds
  simpa only [and_true, Nat.sub_zero, List.length_take, Int.natCast_zero,
    Int.zero_add, Nat.min_comm] using finished.finishes succeeds

/-- The specification for a descriptor that answers with no error but `EINTR`. -/
theorem readLine_restarting {n : Nat} (room : 2 ≤ n) {source : Source}
    (restarts : AllRestart source.responses) (address : Nat) (memory : Memory) :
    let call := readLine source (some address) n memory
    call.errno = none ∧ AllRestart call.source.responses ∧
    call.source.pending = afterLine source.pending ∧
    if source.pending = [] then call.returned = 0 ∧ call.memory = memory
    else
      call.returned = (min (nextLine source.pending).length (n - 1) : Nat) ∧
        call.memory = store memory address ((nextLine source.pending).take (n - 1) ++ [0]) := by
  rcases readLine_spec room source address memory with ⟨⟨used, consumed⟩, _, finishes⟩
  have result := finishes (not_lineFails_of_allRestart restarts source.pending)
  exact ⟨result.1, restarts.of_consumed consumed, result.2⟩

/-! ## Successive calls -/

/-- Successive calls of `readLine` on one descriptor, with one buffer. -/
def readLineCalls (address n : Nat) : Nat -> Memory -> Source -> List ReadLineCall
  | 0, _, _ => []
  | count + 1, memory, source =>
      let call := readLine source (some address) n memory
      call :: readLineCalls address n count call.memory call.source

/-- What the call of index `k` on a stream leaves behind.  The stream is cut
after the lines up to and including the one of that index; a line that exists is
stored up to `n - 1` bytes and terminated; nothing outside the `n` bytes of the
buffer differs from the memory before the first call. -/
structure ReadsLine (address n k : Nat) (stream : List Byte) (memory : Memory)
    (call : ReadLineCall) : Prop where
  consumes : call.source.pending = ((lines stream).drop (k + 1)).flatten
  returns : forall line, (lines stream)[k]? = some line ->
    call.returned = (min line.length (n - 1) : Nat)
  stores : forall line, (lines stream)[k]? = some line ->
    load call.memory address (min line.length (n - 1)) = line.take (n - 1) ∧
      call.memory (address + min line.length (n - 1)) = 0
  exhausted : (lines stream)[k]? = none -> call.returned = 0
  frame : forall location, location < address ∨ address + n ≤ location ->
    call.memory location = memory location

theorem lines_eq_cons {stream : List Byte} (nonempty : stream ≠ []) :
    lines stream = nextLine stream :: lines (afterLine stream) :=
  segments_eq_cons isNewline nonempty

theorem lines_flatten (stream : List Byte) : (lines stream).flatten = stream :=
  segments_flatten isNewline stream

theorem lines_drop_one_flatten (stream : List Byte) :
    ((lines stream).drop 1).flatten = afterLine stream := by
  by_cases empty : stream = []
  · subst empty
    rfl
  · rw [lines_eq_cons empty, List.drop_one, List.tail_cons, lines_flatten]

/-- The first call reads the line of index zero. -/
theorem readLine_readsLine {n : Nat} (room : 2 ≤ n) {source : Source}
    (restarts : AllRestart source.responses) (address : Nat) (memory : Memory) :
    ReadsLine address n 0 source.pending memory (readLine source (some address) n memory) := by
  rcases readLine_restarting room restarts address memory with ⟨_, _, consumed, result⟩
  by_cases empty : source.pending = []
  · rw [if_pos empty] at result
    have noLine : forall line, (lines source.pending)[0]? ≠ some line := by
      intro line
      rw [empty]
      intro impossible
      cases impossible
    refine ⟨?_, fun line found => absurd found (noLine line), fun line found => absurd found (noLine line),
      fun _ => result.1, fun location _ => by rw [result.2]⟩
    rw [consumed, Nat.zero_add, lines_drop_one_flatten]
  · rw [if_neg empty] at result
    have front : (lines source.pending)[0]? = some (nextLine source.pending) := by
      rw [lines_eq_cons empty]
      rfl
    have length : ((nextLine source.pending).take (n - 1)).length =
        min (nextLine source.pending).length (n - 1) := by
      rw [List.length_take, Nat.min_comm]
    refine ⟨?_, ?_, ?_, ?_, ?_⟩
    · rw [consumed, Nat.zero_add, lines_drop_one_flatten]
    · intro line found
      cases front.symm.trans found
      exact result.1
    · intro line found
      cases front.symm.trans found
      rw [result.2]
      constructor
      · rw [load_store _ _ _ _ (by rw [List.length_append, length]; omega), ← length,
          List.take_left]
      · rw [← length, store_inside _ _ _ _ (by rw [List.length_append, List.length_singleton]; omega)]
        simp
    · intro noLine
      cases front.symm.trans noLine
    · intro location outside
      rw [result.2]
      apply store_outside
      rw [List.length_append, length, List.length_singleton]
      omega

/-- Induction over the calls: each call hands the next one the stream after its
line, the memory unchanged outside the buffer, and restartable answers. -/
theorem readLineCalls_readsLine {n : Nat} (room : 2 ≤ n) (address : Nat) (count k : Nat)
    (within : k < count) (memory : Memory) {source : Source}
    (restarts : AllRestart source.responses) :
    Exists fun call => (readLineCalls address n count memory source)[k]? = some call ∧
      ReadsLine address n k source.pending memory call := by
  induction k generalizing count memory source with
  | zero =>
      cases count with
      | zero => exact absurd within (Nat.not_lt_zero _)
      | succ count => exact ⟨_, rfl, readLine_readsLine room restarts address memory⟩
  | succ k inductionHypothesis =>
      cases count with
      | zero => exact absurd within (Nat.not_lt_zero _)
      | succ count =>
          have first := readLine_readsLine room restarts address memory
          rcases readLine_restarting room restarts address memory with ⟨_, later, consumed, _⟩
          rcases inductionHypothesis count (Nat.lt_of_succ_lt_succ within)
            (readLine source (some address) n memory).memory later with ⟨call, found, reads⟩
          have shifted : forall index, (lines source.pending)[index + 1]? =
              (lines (afterLine source.pending))[index]? := by
            intro index
            by_cases empty : source.pending = []
            · rw [empty]
              rfl
            · rw [lines_eq_cons empty, List.getElem?_cons_succ]
          rw [consumed] at reads
          refine ⟨call, found, ?_, ?_, ?_, ?_, ?_⟩
          · rw [reads.consumes]
            by_cases empty : source.pending = []
            · rw [empty]
              rfl
            · rw [lines_eq_cons empty, List.drop_succ_cons]
          · intro line isLine
            exact reads.returns line ((shifted k).symm.trans isLine)
          · intro line isLine
            exact reads.stores line ((shifted k).symm.trans isLine)
          · intro noLine
            exact reads.exhausted ((shifted k).symm.trans noLine)
          · intro location outside
            exact (reads.frame location outside).trans (first.frame location outside)

/-- What a caller can observe of a call: everything but the kernel's answers. -/
def ReadLineCall.observation (call : ReadLineCall) : Int × Option Errno × Memory × List Byte :=
  (call.returned, call.errno, call.memory, call.source.pending)

/-- Two restartable scripts over one stream give the same observations. -/
theorem readLine_observation_eq {n : Nat} (room : 2 ≤ n) {first second : Source}
    (same : first.pending = second.pending)
    (firstRestarts : AllRestart first.responses) (secondRestarts : AllRestart second.responses)
    (address : Nat) (memory : Memory) :
    (readLine first (some address) n memory).observation =
      (readLine second (some address) n memory).observation := by
  rcases readLine_restarting room firstRestarts address memory with ⟨firstErrno, _, firstRest, firstResult⟩
  rcases readLine_restarting room secondRestarts address memory with ⟨secondErrno, _, secondRest, secondResult⟩
  unfold ReadLineCall.observation
  rw [firstErrno, secondErrno, firstRest, secondRest, same]
  rw [same] at firstResult
  by_cases empty : second.pending = []
  · rw [if_pos empty] at firstResult secondResult
    rw [firstResult.1, firstResult.2, secondResult.1, secondResult.2]
  · rw [if_neg empty] at firstResult secondResult
    rw [firstResult.1, firstResult.2, secondResult.1, secondResult.2]

theorem readLineCalls_observation_eq {n : Nat} (room : 2 ≤ n) (address count : Nat)
    (memory : Memory) {first second : Source} (same : first.pending = second.pending)
    (firstRestarts : AllRestart first.responses) (secondRestarts : AllRestart second.responses) :
    (readLineCalls address n count memory first).map ReadLineCall.observation =
      (readLineCalls address n count memory second).map ReadLineCall.observation := by
  induction count generalizing memory first second with
  | zero => rfl
  | succ count inductionHypothesis =>
      have here := readLine_observation_eq room same firstRestarts secondRestarts address memory
      rcases readLine_restarting room firstRestarts address memory with ⟨_, firstLater, firstRest, _⟩
      rcases readLine_restarting room secondRestarts address memory with ⟨_, secondLater, secondRest, _⟩
      have memories : (readLine first (some address) n memory).memory =
          (readLine second (some address) n memory).memory :=
        congrArg (fun observation => observation.2.2.1) here
      simp only [readLineCalls, List.map_cons]
      rw [here, memories, inductionHypothesis _ (by rw [firstRest, secondRest, same]) firstLater secondLater]

/-- `readLine` splits a byte stream into lines.  Over any number of successive
calls, with any pattern of interruptions, the call of index `k` reads exactly
the line of index `k`; another pattern changes no observation. -/
theorem readLine_splits_stream {n : Nat} (room : 2 ≤ n) (address count : Nat) (memory : Memory)
    (source : Source) (restarts : AllRestart source.responses) :
    (forall k, k < count ->
      Exists fun call => (readLineCalls address n count memory source)[k]? = some call ∧
        ReadsLine address n k source.pending memory call) ∧
    forall pattern, AllRestart pattern ->
      (readLineCalls address n count memory ⟨pattern, source.pending⟩).map ReadLineCall.observation =
        (readLineCalls address n count memory source).map ReadLineCall.observation := by
  refine ⟨fun k within => readLineCalls_readsLine room address count k within memory restarts, ?_⟩
  intro pattern patternRestarts
  exact readLineCalls_observation_eq room address count memory rfl patternRestarts restarts

/-- A buffer of three bytes on the stream `ab\nc`, interrupted at its start and
at its newline: the newline falls in the discarded part of the first line, the
last line is unterminated, and the third call finds end of file. -/
theorem readLine_splits_stream_three_calls :
    let source : Source := ⟨[.failed .EINTR, .transfer 1, .transfer 5, .failed .EINTR], [97, 98, 10, 99]⟩
    (readLineCalls 8 3 3 (fun _ => 7) source).map ReadLineCall.returned = [2, 1, 0] ∧
    (forall k, k < 3 ->
      Exists fun call => (readLineCalls 8 3 3 (fun _ => 7) source)[k]? = some call ∧
        ReadsLine 8 3 k source.pending (fun _ => 7) call) ∧
    forall pattern, AllRestart pattern ->
      (readLineCalls 8 3 3 (fun _ => 7) ⟨pattern, source.pending⟩).map ReadLineCall.observation =
        (readLineCalls 8 3 3 (fun _ => 7) source).map ReadLineCall.observation :=
  ⟨by decide, readLine_splits_stream (by decide) 8 3 (fun _ => 7) _ (by decide)⟩

/-! ## Returning zero -/

/-- What a caller concludes from the value returned: zero means that the stream was at
its end, and behind as many bytes as the value says, within the buffer, stands the null
byte of a string, if anything was taken from the stream. -/
structure TellsEnd (address n : Nat) (source : Source) (call : ReadLineCall) : Prop where
  zero_iff : call.returned = 0 <-> source.pending = []
  terminated : call.source.pending ≠ source.pending ->
    Exists fun stored : Nat => call.returned = stored ∧ stored < n ∧
      call.memory (address + stored) = 0

/-- With room for a null byte only, no byte is stored, and so none is counted. -/
theorem keep_one (state : ReadLineState) (ch : Byte) : state.keep 1 ch = state :=
  if_neg (Nat.not_lt_zero _)

/-- A call with a buffer of one byte returns zero, whatever it has discarded. -/
theorem readLine_one {source : Source} (restarts : AllRestart source.responses) (address : Nat)
    (memory : Memory) :
    let call := readLine source (some address) 1 memory
    call.returned = 0 ∧ call.source.pending = afterLine source.pending := by
  refine (readLineLoop 1).run_relation
    (motive := fun state call => AllRestart state.source.responses -> state.totRead = 0 ->
      call.returned = 0 ∧ call.source.pending = afterLine state.source.pending)
    ?_ ?_ ⟨source, 0, address, memory⟩ restarts rfl
  · intro state call delivered restarts nothingStored
    rcases readLineBody_done delivered with ⟨source, errno, notInterrupted, scripted, rfl⟩ |
      ⟨source, used, atEnd, stillAtEnd, _, _, rfl⟩ | ⟨source, used, front, _, _, rfl⟩
    · rw [scripted] at restarts
      exact absurd (restarts _ List.mem_cons_self) notInterrupted
    · rw [if_pos nothingStored, atEnd]
      exact ⟨rfl, stillAtEnd⟩
    · rw [keep_one, front, afterLine_cons, if_pos rfl]
      exact ⟨congrArg Int.ofNat nothingStored, rfl⟩
  · intro state next call again inductionHypothesis restarts nothingStored
    rcases readLineBody_again again with ⟨source, pending, scripted, rfl⟩ |
      ⟨source, ch, used, front, notNewline, consumed, _, rfl⟩
    · have interrupted : Consumed state.source.responses source.responses [.failed .EINTR] := scripted
      rcases inductionHypothesis (restarts.of_consumed interrupted) nothingStored with ⟨returned, rest⟩
      exact ⟨returned, rest.trans (congrArg afterLine pending)⟩
    · rw [keep_one] at inductionHypothesis
      rcases inductionHypothesis (restarts.of_consumed consumed) nothingStored with ⟨returned, rest⟩
      refine ⟨returned, rest.trans ?_⟩
      rw [front, afterLine_cons, if_neg notNewline]

/-- The value returned tells the end of the stream exactly if the buffer has room for a
byte besides the null byte, or the stream is at its end. -/
theorem readLine_tellsEnd_iff {n : Nat} (positive : 1 ≤ n) {source : Source}
    (restarts : AllRestart source.responses) (address : Nat) (memory : Memory) :
    TellsEnd address n source (readLine source (some address) n memory) <->
      2 ≤ n ∨ source.pending = [] := by
  constructor
  · intro tells
    by_contra neither
    rcases not_or.mp neither with ⟨small, notAtEnd⟩
    have one : n = 1 := by omega
    subst one
    exact notAtEnd (tells.zero_iff.mp (readLine_one restarts address memory).1)
  · intro holds
    by_cases room : 2 ≤ n
    · rcases readLine_restarting room restarts address memory with ⟨_, _, rest, result⟩
      by_cases atEnd : source.pending = []
      · rw [if_pos atEnd] at result
        refine ⟨iff_of_true result.1 atEnd, fun consumed => absurd ?_ consumed⟩
        rw [rest, atEnd]
        rfl
      · rw [if_neg atEnd] at result
        have line := List.length_pos_iff.mpr (throughFirst_ne_nil isNewline atEnd)
        have stored : ((nextLine source.pending).take (n - 1)).length =
            min (nextLine source.pending).length (n - 1) := by
          rw [List.length_take, Nat.min_comm]
        constructor
        case zero_iff =>
          refine iff_of_false ?_ atEnd
          rw [result.1]
          unfold nextLine
          omega
        case terminated =>
          intro _
          refine ⟨_, result.1, by omega, ?_⟩
          rw [result.2, ← stored, store_inside _ _ _ _
            (by rw [List.length_append, List.length_singleton]; omega)]
          simp
    · have one : n = 1 := by omega
      have atEnd := holds.resolve_left room
      subst one
      rcases readLine_one restarts address memory with ⟨returned, rest⟩
      refine ⟨iff_of_true returned atEnd, fun consumed => absurd ?_ consumed⟩
      rw [rest, atEnd]
      rfl

/-- A line of three bytes, in a buffer of two. -/
theorem readLine_tellsEnd_two :
    TellsEnd 8 2 ⟨[.failed .EINTR], [97, 98, 10]⟩
        (readLine ⟨[.failed .EINTR], [97, 98, 10]⟩ (some 8) 2 (fun _ => 7)) <->
      2 ≤ 2 ∨ ([97, 98, 10] : List Byte) = [] :=
  readLine_tellsEnd_iff (by decide) (by decide) 8 (fun _ => 7)

/-- In a buffer of one byte the byte in front of the end of the stream is discarded.  The
call returns zero and leaves the buffer without a null byte. -/
theorem readLine_hides_byte :
    let call := readLine ⟨[], [120]⟩ (some 8) 1 (fun _ => 7)
    call.returned = 0 ∧ call.source.pending = [] ∧ call.memory 8 = 7 ∧
      ¬ TellsEnd 8 1 ⟨[], [120]⟩ call := by
  refine ⟨by decide, by decide, by decide, ?_⟩
  intro tells
  have atEnd := tells.zero_iff.mp (by decide)
  cases atEnd

end Lib
end Tlpi
