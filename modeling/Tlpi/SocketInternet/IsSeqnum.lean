import Tlpi.CLibrary.Strtol
import Tlpi.Foundations.Allocation
import Tlpi.Lib.GetNum
import Tlpi.Lib.ReadLine

namespace Tlpi
namespace SocketInternet

open CLibrary Foundations Lib

/-!
# The TCP sequence-number service

The server handles one connection per pass of its loop.  It reads a line,
converts it with `atoi`, answers with its counter, and advances the counter by
the converted length.  Five exits end a pass: a failed `accept`, a failed or
empty read, a length that is not positive, and a granted request with or without
an error in sending the answer.  Only a granted request moves the counter, and
it does so even when the answer could not be sent.

The counter is an unsigned 32-bit integer that wraps.  Its sequence of grants is
an instance of the allocator in `Foundations.Allocation`, whose disjointness
holds for one full turn of the counter.
-/

/-- The size of the line buffers on both sides. -/
def INT_LEN : Nat := 30

/-- What became of the server's `write` of its answer. -/
inductive ReplyWrite where
  | complete
  | short (accepted : Nat)
  | failed (errno : Errno)
deriving DecidableEq, Repr

/-- What the environment supplies for one accepted connection. -/
structure Connection where
  request : Source
  write : ReplyWrite
  closeError : Option Errno
deriving DecidableEq, Repr

/-- One return of `accept`. -/
inductive Arrival where
  | acceptFailed (errno : Errno)
  | connected (connection : Connection)
deriving DecidableEq, Repr

/-- How a pass of the loop ended.  A granted request records the start and the
length of its range, the answer, and what became of writing it. -/
inductive Outcome where
  | notAccepted
  | failedRead
  | badRequest
  | granted (start : UInt32) (reqLen : Int) (reply : List Byte) (written : ReplyWrite)
deriving DecidableEq, Repr

/-- The variables of the server that live across passes: its counter, and the
request buffer, which keeps its old bytes when a read fails. -/
structure Server where
  seqNum : UInt32
  reqLenStr : Memory

/-- One pass of the service loop: the server after it, how it ended, and the
diagnostics it printed. -/
structure Pass where
  server : Server
  outcome : Outcome
  messages : List String

/-- The answer: `snprintf(seqNumStr, INT_LEN, "%d\n", seqNum)`.  The conversion
`%d` takes an `int`, so the unsigned counter is reinterpreted as one. -/
def seqNumReply (seqNum : UInt32) : List Byte :=
  snprintf INT_LEN (renderInt (toInt seqNum.toNat) ++ [newline])

/-- The diagnostics of a granted pass, in order. -/
def Connection.diagnostics (connection : Connection) : List String :=
  (if connection.write = .complete then [] else ["Error on write"]) ++
    (if connection.closeError = none then [] else ["close"])

/-- The body of the service loop. -/
def servePass (server : Server) (arrival : Arrival) : Pass :=
  match arrival with
  | .acceptFailed _ => ⟨server, .notAccepted, ["accept"]⟩
  | .connected connection =>
      let call := readLine connection.request (some 0) INT_LEN server.reqLenStr
      let received : Server := { server with reqLenStr := call.memory }
      if call.returned ≤ 0 then ⟨received, .failedRead, []⟩
      else
        let reqLen := atoi (cString (load received.reqLenStr 0 INT_LEN))
        if reqLen ≤ 0 then ⟨received, .badRequest, []⟩
        else
          ⟨{ received with seqNum := received.seqNum + UInt32.ofInt reqLen },
            .granted received.seqNum reqLen (seqNumReply received.seqNum) connection.write,
            connection.diagnostics⟩

/-- The service loop over a finite sequence of arrivals. -/
def serviceLoop : Server -> List Arrival -> List Pass
  | _, [] => []
  | server, arrival :: rest =>
      let pass := servePass server arrival
      pass :: serviceLoop pass.server rest

/-- The counter the server starts with: its argument if it has one, else zero. -/
def initialSeqNum (argument : Option (List Byte)) : Except (List Byte) UInt32 :=
  match argument with
  | none => .ok 0
  | some text =>
      match getInt (some text) 0 (some "init-seq-num") with
      | .error diagnostic => .error diagnostic
      | .ok value => .ok (UInt32.ofInt value)

/-! ## Grants -/

/-- The counter moved on by a number of places, wrapping. -/
def advance (seqNum : UInt32) (places : Nat) : UInt32 := seqNum + UInt32.ofNat places

/-- The range reserved by a pass, if it granted one. -/
def Pass.grant? (pass : Pass) : Option (Grant UInt32) :=
  match pass.outcome with
  | .granted start reqLen _ _ => some ⟨start, reqLen.toNat⟩
  | _ => none

/-- The ranges reserved in a run, in order. -/
def grants (passes : List Pass) : List (Grant UInt32) := passes.filterMap Pass.grant?

theorem advance_advance (seqNum : UInt32) (first second : Nat) :
    advance (advance seqNum first) second = advance seqNum (first + second) := by
  unfold advance
  rw [UInt32.ofNat_add, UInt32.add_assoc]

/-- Advancing is injective for one full turn of the counter. -/
theorem advance_injective (seqNum : UInt32) (first second : Nat)
    (firstWithin : first < 2 ^ 32) (secondWithin : second < 2 ^ 32)
    (same : advance seqNum first = advance seqNum second) : first = second := by
  have places := (UInt32.add_right_inj seqNum).mp same
  have values := congrArg UInt32.toNat places
  rwa [UInt32.toNat_ofNat_of_lt' firstWithin, UInt32.toNat_ofNat_of_lt' secondWithin] at values

theorem ofInt_eq_ofNat {value : Int} (nonnegative : 0 ≤ value) :
    UInt32.ofInt value = UInt32.ofNat value.toNat := by
  have split := UInt32.ofNat_mod_size (x := value.toNat)
  unfold UInt32.ofInt
  rw [← split]
  congr 1
  omega

/-- What one pass does to the counter: a pass without a grant leaves it, and a
grant begins at it and moves it past a positive range. -/
theorem servePass_counter (server : Server) (arrival : Arrival) :
    ((servePass server arrival).grant? = none ∧
      (servePass server arrival).server.seqNum = server.seqNum) ∨
    (Exists fun grant => (servePass server arrival).grant? = some grant ∧
      grant.start = server.seqNum ∧ 0 < grant.length ∧ grant.length ≤ 2147483647 ∧
      (servePass server arrival).server.seqNum = advance server.seqNum grant.length) := by
  cases arrival with
  | acceptFailed errno => exact Or.inl ⟨rfl, rfl⟩
  | connected connection =>
      simp only [servePass]
      split
      · exact Or.inl ⟨rfl, rfl⟩
      · split
        · exact Or.inl ⟨rfl, rfl⟩
        · rename_i positive
          generalize length : atoi _ = reqLen at *
          have upper : reqLen ≤ INT_MAX := by
            rw [← length]
            exact (toInt_range _).2
          unfold INT_MAX at upper
          refine Or.inr ⟨⟨server.seqNum, reqLen.toNat⟩, rfl, rfl, ?_, ?_, ?_⟩
          · show 0 < reqLen.toNat
            omega
          · show reqLen.toNat ≤ 2147483647
            omega
          · show server.seqNum + UInt32.ofInt reqLen = _
            rw [ofInt_eq_ofNat (by omega)]
            rfl

/-- The grants of a run are laid end to end from the initial counter. -/
theorem serviceLoop_endToEnd (server : Server) (arrivals : List Arrival) :
    EndToEnd advance server.seqNum (grants (serviceLoop server arrivals)) := by
  induction arrivals generalizing server with
  | nil => trivial
  | cons arrival rest inductionHypothesis =>
      have later := inductionHypothesis (servePass server arrival).server
      rcases servePass_counter server arrival with ⟨none, unchanged⟩ | ⟨grant, found, begins, _, _, moved⟩
      · rw [unchanged] at later
        simpa only [grants, serviceLoop, List.filterMap_cons, none] using later
      · rw [moved] at later
        simp only [grants, serviceLoop, List.filterMap_cons, found]
        exact ⟨begins, later⟩

/-- Over whole runs, with any requests and any failures, the ranges reserved by
the granted connections are pairwise disjoint modulo 2^32 as long as together
they are at most one full turn, and a connection that is not granted leaves the
counter as it was. -/
theorem seqnum_server_ranges_disjoint (server : Server) (arrivals : List Arrival) :
    (totalLength (grants (serviceLoop server arrivals)) ≤ 2 ^ 32 ->
      (grants (serviceLoop server arrivals)).Pairwise
        (fun left right => Disjoint (left.places advance) (right.places advance))) ∧
    forall (before : Server) (arrival : Arrival), (servePass before arrival).grant? = none ->
      (servePass before arrival).server.seqNum = before.seqNum := by
  constructor
  · intro oneTurn
    exact (serviceLoop_endToEnd server arrivals).pairwise_disjoint advance_advance
      (advance_injective server.seqNum) oneTurn
  · intro before arrival none
    rcases servePass_counter before arrival with ⟨_, unchanged⟩ | ⟨grant, found, _⟩
    · exact unchanged
    · cases none.symm.trans found

/-- A counter about to wrap, a refused request between two granted ones, and a
failed answer: the two ranges, one of them across the wrap, are disjoint. -/
theorem seqnum_server_ranges_disjoint_across_wrap :
    let server : Server := ⟨4294967295, fun _ => 0⟩
    let arrivals : List Arrival :=
      [.connected ⟨⟨[.failed .EINTR], ascii "2\n"⟩, .failed .EPIPE, none⟩,
        .connected ⟨⟨[], ascii "-7\n"⟩, .complete, none⟩,
        .acceptFailed .EINTR,
        .connected ⟨⟨[], ascii "3\n"⟩, .complete, some .EINTR⟩]
    grants (serviceLoop server arrivals) = [⟨4294967295, 2⟩, ⟨1, 3⟩] ∧
    (grants (serviceLoop server arrivals)).Pairwise
      (fun left right => Disjoint (left.places advance) (right.places advance)) :=
  ⟨by decide +kernel, (seqnum_server_ranges_disjoint _ _).1 (by decide +kernel)⟩

end SocketInternet
end Tlpi
