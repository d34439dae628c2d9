import Tlpi.SocketInternet.IsSeqnum

namespace Tlpi
namespace SocketInternet

open CLibrary Foundations Lib

/-!
# What the TCP client asks for and what it is shown

The client sends its argument and a newline, and displays the line it receives.
Between the two ends a number passes through two conversions on the way in, the
cut to `INT_LEN - 1` bytes and the narrowing in `atoi`, and through one on the
way out, the reinterpretation of the counter by `%d`.  The answer itself may be
written only in part.  This module says exactly on which numerals, on which
counters and with which writes the number is kept.
-/

/-- The request of `is_seqnum_cl`: `argv[2]`, or `"1"` without one, and a newline. -/
def clientRequest (argument : Option (List Byte)) : List Byte :=
  argument.getD (ascii "1") ++ [newline]

/-- What `is_seqnum_cl` prints when it has read the answer, or the diagnostic
with which it exits. -/
def clientDisplay (answer : Source) (seqNumStr : Memory) : Except String (List Byte) :=
  let call := readLine answer (some 0) INT_LEN seqNumStr
  if call.returned = -1 then .error "readLine"
  else if call.returned = 0 then .error "Unexpected EOF from server"
  else .ok (ascii "Sequence number: " ++ cString (load call.memory 0 INT_LEN))

/-! ## The length on its way in -/

/-- The part of a numeral that fits into the server's buffer. -/
def fittingPart (numeral : List Byte) : List Byte := numeral.take (INT_LEN - 1)

theorem newline_not_digit : isDigit 10 newline = false := by decide

/-- A numeral has no newline, so it and its newline are one line. -/
theorem nextLine_request {text : List Byte} (noNewline : forall byte, byte ∈ text -> byte ≠ newline) :
    nextLine (text ++ [newline]) = text ++ [newline] := by
  induction text with
  | nil => decide
  | cons head tail inductionHypothesis =>
      rw [List.cons_append, nextLine_cons, if_neg (noNewline head List.mem_cons_self),
        inductionHypothesis (fun byte member => noNewline byte (List.mem_cons_of_mem head member))]

/-- Reading a stream that is one null-free line: a read that fails makes the
call return -1, and else the buffer holds the first `INT_LEN - 1` bytes. -/
theorem readLine_string {line : List Byte} (single : nextLine line = line) (nonempty : line ≠ [])
    (nullFree : forall byte, byte ∈ line -> byte ≠ 0) (script : List Response) (memory : Memory) :
    let call := readLine ⟨script, line⟩ (some 0) INT_LEN memory
    (LineFails script line -> call.returned = -1) ∧
    (¬ LineFails script line -> 0 < call.returned ∧
      cString (load call.memory 0 INT_LEN) = line.take (INT_LEN - 1)) := by
  rcases readLine_spec (by decide : 2 ≤ INT_LEN) ⟨script, line⟩ 0 memory with ⟨_, fails, finishes⟩
  refine ⟨fails, ?_⟩
  intro succeeds
  have result := (finishes succeeds).2.2
  rw [if_neg nonempty, single] at result
  have positive := List.length_pos_iff.mpr nonempty
  have short : (line.take (INT_LEN - 1)).length < INT_LEN := by
    rw [List.length_take]
    unfold INT_LEN
    omega
  constructor
  · rw [result.1]
    unfold INT_LEN
    omega
  · rw [result.2]
    apply cString_load_store _ _ _ _ short
    intro byte member
    exact nullFree byte (List.mem_of_mem_take member)

/-- The bytes of a text without null bytes, and its newline, are not null. -/
theorem nullFree_line {text : List Byte} (nullFree : forall byte, byte ∈ text -> byte ≠ 0) :
    forall byte, byte ∈ text ++ [newline] -> byte ≠ 0 := by
  intro byte member
  rcases List.mem_append.mp member with inText | last
  · exact nullFree byte inText
  · rw [List.mem_singleton.mp last]
    decide

theorem digit_ne {byte other : Byte} (digit : isDigit 10 byte = true)
    (notDigit : isDigit 10 other = false) : byte ≠ other := by
  intro same
  rw [same, notDigit] at digit
  cases digit

/-- The length that the server converts from a numeral: the value of the part
that fits, clamped to `long` and then narrowed to `int`. -/
def convertedLength (numeral : List Byte) : Int :=
  toInt (min (numeralValue 10 (fittingPart numeral) : Int) LONG_MAX)

theorem request_converted {numeral : List Byte} (isNumeral : IsNumeral 10 numeral)
    (script : List Response) (memory : Memory) :
    let call := readLine ⟨script, clientRequest (some numeral)⟩ (some 0) INT_LEN memory
    (LineFails script (clientRequest (some numeral)) -> call.returned = -1) ∧
    (¬ LineFails script (clientRequest (some numeral)) -> 0 < call.returned ∧
      atoi (cString (load call.memory 0 INT_LEN)) = convertedLength numeral) := by
  have noNewline : forall byte, byte ∈ numeral -> byte ≠ newline := fun byte member =>
    digit_ne (isNumeral.2 byte member) newline_not_digit
  have nullFree : forall byte, byte ∈ numeral -> byte ≠ 0 := fun byte member =>
    digit_ne (isNumeral.2 byte member) (by decide)
  have nonempty : numeral ++ [newline] ≠ [] :=
    List.append_ne_nil_of_right_ne_nil _ (List.cons_ne_nil _ _)
  rcases readLine_string (nextLine_request noNewline) nonempty (nullFree_line nullFree) script
    memory with ⟨fails, reads⟩
  refine ⟨fails, ?_⟩
  intro succeeds
  rcases reads succeeds with ⟨positive, text⟩
  refine ⟨positive, ?_⟩
  have fits : IsNumeral 10 (fittingPart numeral) := isNumeral.take (by decide)
  have ends : forall byte rest,
      [newline].take (INT_LEN - 1 - numeral.length) = byte :: rest -> isDigit 10 byte = false := by
    intro byte rest found
    have member : byte ∈ [newline].take (INT_LEN - 1 - numeral.length) := by
      rw [found]
      exact List.mem_cons_self
    rw [List.mem_singleton.mp (List.mem_of_mem_take member)]
    exact newline_not_digit
  change atoi (cString (load (readLine ⟨script, numeral ++ [newline]⟩ (some 0) INT_LEN memory).memory
    0 INT_LEN)) = _
  rw [text, List.take_append]
  exact congrArg toInt (strtol_numeral fits ends)

/-- The server's pass over a connection from the client. -/
theorem servePass_request {numeral : List Byte} (isNumeral : IsNumeral 10 numeral)
    (script : List Response) (server : Server) (write : ReplyWrite) (closeError : Option Errno) :
    let pass := servePass server
      (.connected ⟨⟨script, clientRequest (some numeral)⟩, write, closeError⟩)
    (LineFails script (clientRequest (some numeral)) ->
      pass.outcome = .failedRead ∧ pass.server.seqNum = server.seqNum) ∧
    (¬ LineFails script (clientRequest (some numeral)) ->
      if convertedLength numeral ≤ 0 then
        pass.outcome = .badRequest ∧ pass.server.seqNum = server.seqNum
      else
        pass.outcome =
          .granted server.seqNum (convertedLength numeral) (seqNumReply server.seqNum) write ∧
        pass.server.seqNum = server.seqNum + UInt32.ofInt (convertedLength numeral)) := by
  rcases request_converted isNumeral script server.reqLenStr with ⟨fails, reads⟩
  simp only [servePass]
  constructor
  · intro line
    rw [fails line, if_pos (by decide)]
    exact ⟨rfl, rfl⟩
  · intro line
    rcases reads line with ⟨positive, converted⟩
    rw [if_neg (not_le.mpr positive), converted]
    split <;> exact ⟨rfl, rfl⟩

/-- Either the counter advanced by the requested length and the answer was
sent, or the request was refused and the counter is unchanged. -/
def ReservesRequested (requested : Nat) (before : Server) (pass : Pass) : Prop :=
  (pass.server.seqNum = advance before.seqNum requested ∧
    pass.outcome = .granted before.seqNum requested (seqNumReply before.seqNum) .complete) ∨
  (pass.grant? = none ∧ pass.server.seqNum = before.seqNum)

/-- The numerals that the server refuses: those whose fitting part is too large
for `long`, and those it narrows to a length that is not positive. -/
def Refused (numeral : List Byte) : Prop :=
  2 ^ 63 ≤ numeralValue 10 (fittingPart numeral) ∨
    numeralValue 10 (fittingPart numeral) % 2 ^ 32 = 0 ∨
    2 ^ 31 ≤ numeralValue 10 (fittingPart numeral) % 2 ^ 32

/-- The numerals that reach the counter unchanged: they fit into the buffer and
into `int`. -/
def Kept (numeral : List Byte) : Prop :=
  numeral.length ≤ INT_LEN - 1 ∧ numeralValue 10 numeral < 2 ^ 31

/-- A numeral that does not fit is at least ten times its fitting part. -/
theorem fittingPart_value (numeral : List Byte) :
    (numeral.length ≤ INT_LEN - 1 ->
      numeralValue 10 (fittingPart numeral) = numeralValue 10 numeral) ∧
    (¬ numeral.length ≤ INT_LEN - 1 ->
      10 * numeralValue 10 (fittingPart numeral) ≤ numeralValue 10 numeral) := by
  constructor
  · intro fits
    rw [fittingPart, List.take_of_length_le fits]
  · intro long
    exact numeralValue_take_le (by decide) (not_le.mp long)

/-- The converted length is not positive exactly on the refused numerals; on
the others it is the fitting part modulo 2^32. -/
theorem convertedLength_cases (numeral : List Byte) :
    (Refused numeral ∧ convertedLength numeral ≤ 0) ∨
    (¬ Refused numeral ∧
      convertedLength numeral = (numeralValue 10 (fittingPart numeral) % 2 ^ 32 : Nat) ∧
      0 < convertedLength numeral) := by
  unfold convertedLength Refused
  generalize numeralValue 10 (fittingPart numeral) = value
  have range := toInt_range (min (value : Int) LONG_MAX)
  have congruent := toInt_emod (min (value : Int) LONG_MAX)
  unfold INT_MIN INT_MAX at range
  unfold LONG_MAX at *
  omega

instance (requested : Nat) (before : Server) (pass : Pass) :
    Decidable (ReservesRequested requested before pass) :=
  inferInstanceAs (Decidable (_ ∨ _))

/-- The server reserves the length that the client asked for, or refuses it,
exactly when it cannot read the request, or the numeral is refused, or the
numeral reaches the counter unchanged and the answer is written in full. -/
theorem reserves_requested_iff {numeral : List Byte} (isNumeral : IsNumeral 10 numeral)
    (positive : 1 ≤ numeralValue 10 numeral) (script : List Response)
    (server : Server) (write : ReplyWrite) (closeError : Option Errno) :
    ReservesRequested (numeralValue 10 numeral) server
        (servePass server
          (.connected ⟨⟨script, clientRequest (some numeral)⟩, write, closeError⟩)) <->
      LineFails script (clientRequest (some numeral)) ∨ Refused numeral ∨
        (Kept numeral ∧ write = .complete) := by
  rcases servePass_request isNumeral script server write closeError with ⟨failing, reading⟩
  by_cases line : LineFails script (clientRequest (some numeral))
  · have pass := failing line
    refine ⟨fun _ => Or.inl line, fun _ => Or.inr ⟨?_, pass.2⟩⟩
    rw [Pass.grant?, pass.1]
  have pass := reading line
  rw [or_iff_right line]
  rcases convertedLength_cases numeral with ⟨refused, low⟩ | ⟨notRefused, converted, high⟩
  · rw [if_pos low] at pass
    refine ⟨fun _ => Or.inl refused, fun _ => Or.inr ⟨?_, pass.2⟩⟩
    rw [Pass.grant?, pass.1]
  · rw [if_neg (not_le.mpr high)] at pass
    have fitting := fittingPart_value numeral
    constructor
    · rintro (⟨_, granted⟩ | ⟨none, _⟩)
      · rw [pass.1] at granted
        have parts := Outcome.granted.inj granted
        refine Or.inr ⟨?_, parts.2.2.2⟩
        have same := parts.2.1
        unfold Refused at notRefused
        unfold Kept
        by_cases fits : numeral.length ≤ INT_LEN - 1
        · have value := fitting.1 fits
          omega
        · have value := fitting.2 fits
          omega
      · rw [Pass.grant?, pass.1] at none
        cases none
    · rintro (refused | ⟨kept, complete⟩)
      · exact absurd refused notRefused
      · have value := fitting.1 kept.1
        have same : convertedLength numeral = numeralValue 10 numeral := by
          have bound := kept.2
          omega
        rw [same] at pass
        refine Or.inl ⟨?_, ?_⟩
        · rw [pass.2, ofInt_eq_ofNat (Int.natCast_nonneg _), Int.toNat_natCast]
          rfl
        · rw [pass.1, complete]

/-- The numeral `12` is kept. -/
theorem reserves_requested_iff_twelve :
    ReservesRequested 12 ⟨7, fun _ => 0⟩
      (servePass ⟨7, fun _ => 0⟩
        (.connected ⟨⟨[.failed .EINTR], clientRequest (some (ascii "12"))⟩, .complete, none⟩)) :=
  (@reserves_requested_iff (ascii "12") (by decide) (by decide) [.failed .EINTR]
    ⟨7, fun _ => 0⟩ .complete none).mpr (Or.inr (Or.inr ⟨⟨by decide, by decide⟩, rfl⟩))

/-- Two requests that are answered with a range of another length.  The numeral
of 2^32 + 1 is narrowed to 1; a 12 after 28 zeros is cut to 1. -/
theorem reserves_other_length :
    let server : Server := ⟨0, fun _ => 0⟩
    let pass := fun numeral : List Byte => servePass server
      (.connected ⟨⟨[], clientRequest (some numeral)⟩, .complete, none⟩)
    let narrowed := ascii "4294967297"
    let cut := ascii "000000000000000000000000000012"
    (IsNumeral 10 narrowed ∧ numeralValue 10 narrowed = 4294967297 ∧
      (pass narrowed).outcome = .granted 0 1 (ascii "0\n") .complete ∧
      ¬ ReservesRequested (numeralValue 10 narrowed) server (pass narrowed)) ∧
    (IsNumeral 10 cut ∧ numeralValue 10 cut = 12 ∧
      (pass cut).outcome = .granted 0 1 (ascii "0\n") .complete ∧
      ¬ ReservesRequested (numeralValue 10 cut) server (pass cut)) := by
  decide +kernel

/-! ## The counter on its way out -/

/-- The number in a displayed line: what stands between the fixed text and the
newline. -/
def displayedNumber (display : List Byte) : Option Int :=
  denotedInt ((display.drop (ascii "Sequence number: ").length).takeWhile (fun byte => byte != newline))

/-- The bytes of the answer that reach the client. -/
def ReplyWrite.delivered (written : ReplyWrite) (reply : List Byte) : List Byte :=
  match written with
  | .complete => reply
  | .short accepted => reply.take accepted
  | .failed _ => []

/-- The answer to a granted request: the start of the range, the text, and what
became of writing it. -/
structure Answer where
  start : UInt32
  reply : List Byte
  written : ReplyWrite
deriving DecidableEq, Repr

/-- What the client receives of an answer. -/
def Answer.received (answer : Answer) : List Byte := answer.written.delivered answer.reply

/-- The answer of a pass, if it granted the request. -/
def Pass.answer? (pass : Pass) : Option Answer :=
  match pass.outcome with
  | .granted start _ reply written => some ⟨start, reply, written⟩
  | _ => none

/-- The answers of a run, in order. -/
def answers (passes : List Pass) : List Answer := passes.filterMap Pass.answer?

/-- The client may display a line: it does so in some pattern of answers to its
reads. -/
def Answer.Displays (answer : Answer) (display : List Byte) : Prop :=
  Exists fun script => Exists fun memory => clientDisplay ⟨script, answer.received⟩ memory = .ok display

/-- A client that gets the whole answer displays a line, and any line that the
client displays shows the start of its range. -/
structure Answer.Faithful (answer : Answer) : Prop where
  displayed : answer.written = .complete -> forall script memory, AllRestart script ->
    Exists fun display => clientDisplay ⟨script, answer.received⟩ memory = .ok display
  shows : forall display, answer.Displays display ->
    displayedNumber display = some (answer.start.toNat : Int)

/-- Every answer is faithful, and successive clients see strictly increasing
numbers while the counter has not wrapped. -/
def FaithfulReplies (initial : UInt32) (passes : List Pass) : Prop :=
  (forall answer, answer ∈ answers passes -> answer.Faithful) ∧
  (initial.toNat + totalLength (grants passes) < 2 ^ 32 ->
    (answers passes).Pairwise (fun earlier later => forall display otherDisplay first second,
      earlier.Displays display -> later.Displays otherDisplay ->
      displayedNumber display = some first -> displayedNumber otherDisplay = some second ->
      first < second))

/-- The writes with which an answer can be read: nothing reaches the client, or
the counter fits into `int` and at least its digits reach the client. -/
def Answer.Readable (answer : Answer) : Prop :=
  answer.received = [] ∨
    (answer.start.toNat < 2 ^ 31 ∧
      (renderNat answer.start.toNat).length ≤ answer.received.length)

/-- What the client displays of a stream that is one line of its buffer's size. -/
theorem clientDisplay_eq_ok {line : List Byte} (single : nextLine line = line)
    (fits : line.length ≤ INT_LEN - 1) (nullFree : forall byte, byte ∈ line -> byte ≠ 0)
    (script : List Response) (memory : Memory) (display : List Byte) :
    clientDisplay ⟨script, line⟩ memory = .ok display <->
      line ≠ [] ∧ ¬ LineFails script line ∧ display = ascii "Sequence number: " ++ line := by
  unfold clientDisplay
  dsimp only
  by_cases fails : LineFails script line
  · have returned := (readLine_spec (by decide : 2 ≤ INT_LEN) ⟨script, line⟩ 0 memory).2.1 fails
    rw [if_pos returned]
    constructor
    · intro impossible
      cases impossible
    · rintro ⟨-, succeeds, -⟩
      exact absurd fails succeeds
  by_cases empty : line = []
  · have result := ((readLine_spec (by decide : 2 ≤ INT_LEN) ⟨script, line⟩ 0 memory).2.2 fails).2.2
    rw [if_pos empty] at result
    rw [if_neg (by omega), if_pos result.1]
    constructor
    · intro impossible
      cases impossible
    · rintro ⟨nonempty, -⟩
      exact absurd empty nonempty
  · rcases (readLine_string single empty nullFree script memory).2 fails with ⟨positive, text⟩
    rw [if_neg (by omega), if_neg (by omega), text, List.take_of_length_le fits]
    constructor
    · intro shown
      exact ⟨empty, fails, (Except.ok.inj shown).symm⟩
    · rintro ⟨-, -, rfl⟩
      rfl

theorem renderInt_ne {value : Int} {byte other : Byte} (member : byte ∈ renderInt value)
    (notSign : other ≠ 45) (notDigit : isDigit 10 other = false) : byte ≠ other := by
  rcases mem_renderInt member with sign | digit
  · rw [sign]
    exact notSign.symm
  · exact digit_ne digit notDigit

/-- An `int` and its newline fit into the answer's buffer, so the answer is not cut. -/
theorem seqNumReply_eq (seqNum : UInt32) :
    seqNumReply seqNum = renderInt (toInt seqNum.toNat) ++ [newline] := by
  have range := toInt_range seqNum.toNat
  unfold INT_MIN INT_MAX at range
  have digits : (renderInt (toInt seqNum.toNat)).length ≤ 10 + 1 :=
    renderInt_length_le (by decide) (by omega)
  unfold seqNumReply snprintf
  apply List.take_of_length_le
  rw [List.length_append, List.length_singleton]
  unfold INT_LEN
  omega

/-- The answer as a line: it is one line, and its first bytes before the newline
are those of the `int`. -/
theorem seqNumReply_take (seqNum : UInt32) (count : Nat) :
    let line := (seqNumReply seqNum).take count
    nextLine line = line ∧ line.length ≤ INT_LEN - 1 ∧ (forall byte, byte ∈ line -> byte ≠ 0) ∧
      line.takeWhile (fun byte => byte != newline) = (renderInt (toInt seqNum.toNat)).take count := by
  have noNewline : forall byte, byte ∈ renderInt (toInt seqNum.toNat) -> byte ≠ newline :=
    fun byte member => renderInt_ne member (by decide) newline_not_digit
  have nullFree : forall byte, byte ∈ renderInt (toInt seqNum.toNat) -> byte ≠ 0 :=
    fun byte member => renderInt_ne member (by decide) (by decide)
  have fits : (seqNumReply seqNum).length ≤ INT_LEN - 1 := by
    unfold seqNumReply snprintf
    exact List.length_take_le _ _
  have kept : forall byte, byte ∈ (renderInt (toInt seqNum.toNat)).take count ->
      (byte != newline) = true :=
    fun byte member => bne_iff_ne.mpr (noNewline byte (List.mem_of_mem_take member))
  refine ⟨?_, le_trans (List.length_take_le' _ _) fits, ?_, ?_⟩
  · rw [seqNumReply_eq]
    exact nextLine_take (nextLine_request noNewline) count
  · intro byte member
    have inReply := List.mem_of_mem_take member
    rw [seqNumReply_eq] at inReply
    exact nullFree_line nullFree byte inReply
  · rw [seqNumReply_eq, List.take_append, List.takeWhile_append_of_pos kept]
    have ended : ([newline].take (count - (renderInt (toInt seqNum.toNat)).length)).takeWhile
        (fun byte => byte != newline) = [] := by
      cases count - (renderInt (toInt seqNum.toNat)).length with
      | zero => rfl
      | succ count => rfl
    rw [ended, List.append_nil]

/-- The `int` of a counter is the counter below 2^31, and negative from there on. -/
theorem toInt_counter (seqNum : UInt32) :
    (seqNum.toNat < 2 ^ 31 ∧ toInt seqNum.toNat = seqNum.toNat) ∨
    (2 ^ 31 ≤ seqNum.toNat ∧ toInt seqNum.toNat < 0) := by
  have small : seqNum.toNat < 2 ^ 32 := seqNum.toNat_lt
  have range := toInt_range seqNum.toNat
  have congruent := toInt_emod seqNum.toNat
  unfold INT_MIN INT_MAX at range
  omega

/-- Of the first bytes of the answer, at least one, the number that is shown is
the counter exactly when the counter fits into `int` and no digit is missing. -/
theorem denotedInt_reply_iff (seqNum : UInt32) {count : Nat} (positive : 0 < count) :
    denotedInt ((renderInt (toInt seqNum.toNat)).take count) = some (seqNum.toNat : Int) <->
      seqNum.toNat < 2 ^ 31 ∧ (renderNat seqNum.toNat).length ≤ count := by
  rcases toInt_counter seqNum with ⟨low, same⟩ | ⟨high, negative⟩
  · rw [same, renderInt_natCast]
    constructor
    · intro denoted
      refine ⟨low, not_lt.mp (fun short => ?_)⟩
      rw [denotedInt_of_isNumeral ((renderNat_isNumeral _).take positive)] at denoted
      exact numeralValue_take_renderNat_ne positive short
        (Int.ofNat_inj.mp (Option.some.inj denoted))
    · rintro ⟨-, all⟩
      rw [List.take_of_length_le all, denotedInt_of_isNumeral (renderNat_isNumeral _),
        numeralValue_renderNat]
  · constructor
    · intro denoted
      rcases Nat.exists_eq_add_one_of_ne_zero (Nat.pos_iff_ne_zero.mp positive) with ⟨fewer, rfl⟩
      rw [renderInt, if_pos negative, List.take_succ_cons] at denoted
      have nonpositive := denotedInt_minus denoted
      omega
    · rintro ⟨low, -⟩
      omega

/-- What reaches the client of an answer is some number of its first bytes. -/
theorem ReplyWrite.delivered_eq_take (written : ReplyWrite) (reply : List Byte) :
    Exists fun count => written.delivered reply = reply.take count := by
  cases written with
  | complete => exact ⟨reply.length, (List.take_length).symm⟩
  | short accepted => exact ⟨accepted, rfl⟩
  | failed errno => exact ⟨0, rfl⟩

/-- A single answer is faithful exactly when it is readable. -/
theorem Answer.faithful_iff {answer : Answer} (sent : answer.reply = seqNumReply answer.start) :
    answer.Faithful <-> answer.Readable := by
  rcases answer.written.delivered_eq_take answer.reply with ⟨count, taken⟩
  have received : answer.received = (seqNumReply answer.start).take count := by
    rw [Answer.received, taken, sent]
  rcases seqNumReply_take answer.start count with ⟨single, fits, nullFree, shown⟩
  rw [← received] at single fits nullFree shown
  have display := fun script memory display =>
    clientDisplay_eq_ok single fits nullFree script memory display
  have number : displayedNumber (ascii "Sequence number: " ++ answer.received) =
      denotedInt ((renderInt (toInt answer.start.toNat)).take count) := by
    rw [displayedNumber, List.drop_left, shown]
  have length : answer.received.length = min count ((renderInt (toInt answer.start.toNat)).length + 1) := by
    rw [received, List.length_take, seqNumReply_eq, List.length_append, List.length_singleton]
  constructor
  · rintro ⟨-, shows⟩
    by_cases empty : answer.received = []
    · exact Or.inl empty
    · have displays : answer.Displays (ascii "Sequence number: " ++ answer.received) :=
        ⟨[], fun _ => 0, (display _ _ _).mpr ⟨empty, id, rfl⟩⟩
      have positive : 0 < count := by
        have arrived := List.length_pos_iff.mpr empty
        omega
      have shownStart := shows _ displays
      rw [number] at shownStart
      rcases (denotedInt_reply_iff answer.start positive).mp shownStart with ⟨low, digits⟩
      refine Or.inr ⟨low, ?_⟩
      rcases toInt_counter answer.start with ⟨_, same⟩ | ⟨high, _⟩
      · rw [length, same, renderInt_natCast]
        omega
      · omega
  · intro readable
    refine ⟨?_, ?_⟩
    · intro complete script memory restarts
      refine ⟨_, (display script memory _).mpr
        ⟨?_, not_lineFails_of_allRestart restarts _, rfl⟩⟩
      rw [Answer.received, complete, ReplyWrite.delivered, sent, seqNumReply_eq]
      exact List.append_ne_nil_of_right_ne_nil _ (List.cons_ne_nil _ _)
    · rintro text ⟨script, memory, displayed⟩
      rcases (display script memory text).mp displayed with ⟨nonempty, -, rfl⟩
      rcases readable with empty | ⟨low, digits⟩
      · exact absurd empty nonempty
      · have positive : 0 < count := by
          have arrived := List.length_pos_iff.mpr nonempty
          omega
        rw [number]
        exact (denotedInt_reply_iff answer.start positive).mpr ⟨low, by omega⟩

/-! ## Runs -/

theorem mem_serviceLoop {server : Server} {arrivals : List Arrival} {pass : Pass}
    (member : pass ∈ serviceLoop server arrivals) :
    Exists fun before => Exists fun arrival => pass = servePass before arrival := by
  induction arrivals generalizing server with
  | nil => cases member
  | cons arrival rest inductionHypothesis =>
      rcases List.mem_cons.mp member with here | later
      · exact ⟨server, arrival, here⟩
      · exact inductionHypothesis later

/-- Every answer of a run is the text for the start of its range. -/
theorem answers_sent {server : Server} {arrivals : List Arrival} {answer : Answer}
    (member : answer ∈ answers (serviceLoop server arrivals)) :
    answer.reply = seqNumReply answer.start := by
  rcases List.mem_filterMap.mp member with ⟨pass, passed, answered⟩
  rcases mem_serviceLoop passed with ⟨before, arrival, rfl⟩
  cases arrival with
  | acceptFailed errno => cases answered
  | connected connection =>
      simp only [servePass] at answered
      split at answered
      · cases answered
      · split at answered
        · cases answered
        · rw [← Option.some.inj answered]

/-- The answers of a run tell the starts of its grants. -/
theorem answers_start (passes : List Pass) :
    (answers passes).map Answer.start = (grants passes).map Grant.start := by
  unfold answers grants
  rw [List.map_filterMap, List.map_filterMap]
  congr 1
  funext pass
  unfold Pass.answer? Pass.grant?
  cases pass.outcome <;> rfl

/-- While the counter does not wrap, the starts of the grants increase. -/
theorem grants_increase (server : Server) (arrivals : List Arrival)
    (unwrapped : server.seqNum.toNat + totalLength (grants (serviceLoop server arrivals)) < 2 ^ 32) :
    (forall grant, grant ∈ grants (serviceLoop server arrivals) ->
      server.seqNum.toNat ≤ grant.start.toNat) ∧
    (grants (serviceLoop server arrivals)).Pairwise
      (fun earlier later => earlier.start.toNat < later.start.toNat) := by
  induction arrivals generalizing server with
  | nil =>
      refine ⟨?_, List.Pairwise.nil⟩
      intro grant member
      cases member
  | cons arrival rest inductionHypothesis =>
      rcases servePass_counter server arrival with ⟨none, unchanged⟩ |
        ⟨grant, found, begins, positive, _, moved⟩
      · have same : grants (serviceLoop server (arrival :: rest)) =
            grants (serviceLoop (servePass server arrival).server rest) := by
          simp only [grants, serviceLoop, List.filterMap_cons, none]
        rw [same] at unwrapped ⊢
        rw [← unchanged] at unwrapped ⊢
        exact inductionHypothesis _ unwrapped
      · have same : grants (serviceLoop server (arrival :: rest)) =
            grant :: grants (serviceLoop (servePass server arrival).server rest) := by
          simp only [grants, serviceLoop, List.filterMap_cons, found]
        rw [same, totalLength_cons] at unwrapped
        rw [same]
        have small : grant.length < 2 ^ 32 := by omega
        have places : (UInt32.ofNat grant.length).toNat = grant.length :=
          UInt32.toNat_ofNat_of_lt' small
        have next : (servePass server arrival).server.seqNum.toNat =
            server.seqNum.toNat + grant.length := by
          rw [moved, advance, UInt32.toNat_add, places]
          omega
        have later := inductionHypothesis (servePass server arrival).server (by omega)
        rw [next] at later
        refine ⟨?_, List.pairwise_cons.mpr ⟨?_, later.2⟩⟩
        · intro other member
          rcases List.mem_cons.mp member with here | after
          · rw [here, begins]
          · have := later.1 other after
            omega
        · intro other member
          have := later.1 other member
          rw [begins]
          omega

/-- In every run, from any initial counter, the replies are faithful exactly
when every answer is readable. -/
theorem replies_faithful_iff (server : Server) (arrivals : List Arrival) :
    FaithfulReplies server.seqNum (serviceLoop server arrivals) <->
      forall answer, answer ∈ answers (serviceLoop server arrivals) -> answer.Readable := by
  constructor
  · rintro ⟨faithful, _⟩ answer member
    exact (Answer.faithful_iff (answers_sent member)).mp (faithful answer member)
  · intro readable
    have faithful : forall answer, answer ∈ answers (serviceLoop server arrivals) ->
        answer.Faithful := fun answer member =>
      (Answer.faithful_iff (answers_sent member)).mpr (readable answer member)
    refine ⟨faithful, ?_⟩
    intro unwrapped
    have increasing : ((answers (serviceLoop server arrivals)).map Answer.start).Pairwise
        (fun earlier later => earlier.toNat < later.toNat) := by
      rw [answers_start, List.pairwise_map]
      exact (grants_increase server arrivals unwrapped).2
    rw [List.pairwise_map] at increasing
    apply increasing.imp_of_mem
    intro earlier later earlierMember laterMember less display otherDisplay first second
      displays otherDisplays firstShown secondShown
    have firstStart := (faithful earlier earlierMember).shows display displays
    have secondStart := (faithful later laterMember).shows otherDisplay otherDisplays
    cases firstStart.symm.trans firstShown
    cases secondStart.symm.trans secondShown
    exact Int.ofNat_lt.mpr less

/-- Started with `init-seq-num` 2147483647, the server grants its second client
the range that starts at 2147483648, and that client displays -2147483648. -/
theorem replies_unfaithful_at_sign_bit :
    let server : Server := ⟨2147483647, fun _ => 0⟩
    let arrival : Arrival := .connected ⟨⟨[], clientRequest (some (ascii "1"))⟩, .complete, none⟩
    initialSeqNum (some (ascii "2147483647")) = .ok server.seqNum ∧
    answers (serviceLoop server [arrival, arrival]) =
      [⟨2147483647, ascii "2147483647\n", .complete⟩, ⟨2147483648, ascii "-2147483648\n", .complete⟩] ∧
    clientDisplay ⟨[], ascii "-2147483648\n"⟩ (fun _ => 0) =
      .ok (ascii "Sequence number: -2147483648\n") ∧
    ¬ FaithfulReplies server.seqNum (serviceLoop server [arrival, arrival]) := by
  have answered : answers (serviceLoop ⟨2147483647, fun _ => 0⟩
      [.connected ⟨⟨[], clientRequest (some (ascii "1"))⟩, .complete, none⟩,
        .connected ⟨⟨[], clientRequest (some (ascii "1"))⟩, .complete, none⟩]) =
      [⟨2147483647, ascii "2147483647\n", .complete⟩,
        ⟨2147483648, ascii "-2147483648\n", .complete⟩] := by
    decide +kernel
  have displayed : clientDisplay ⟨[], ascii "-2147483648\n"⟩ (fun _ => 0) =
      .ok (ascii "Sequence number: -2147483648\n") := by
    decide +kernel
  refine ⟨by decide +kernel, answered, displayed, ?_⟩
  rintro ⟨faithful, _⟩
  rw [answered] at faithful
  have second := faithful ⟨2147483648, ascii "-2147483648\n", .complete⟩ (by decide +kernel)
  have shown := second.shows _ ⟨[], fun _ => 0, displayed⟩
  exact absurd shown (by decide +kernel)

end SocketInternet
end Tlpi
