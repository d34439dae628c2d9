import Mathlib.Data.PNat.Basic
import Mathlib.Tactic.Push
import Tlpi.CLibrary.Memory

namespace Tlpi
namespace CLibrary

/-!
# Descriptors that answer from a script

`read` and `write` may be interrupted, may fail, and may transfer fewer bytes
than asked for.  A descriptor here carries the list of answers that the kernel
is going to give; quantifying over that list is quantifying over every pattern
of interruptions, failures and short transfers.  A transfer answer has a
positive limit: it moves as many bytes as the limit, the request and the stream
allow.  When the list is used up the kernel transfers in full.  The list is
finite but of any length, so it describes any finite sequence of calls.
-/

/-- The error numbers that some modelled function tests or reports by name. -/
inductive Errno where
  | EINTR
  | EAGAIN
  | EACCES
  | EINVAL
  | ENOENT
  | EEXIST
  | EPIPE
  | EBUSY
  | ECHILD
  | ENOSYS
  | ENAMETOOLONG
  | EOVERFLOW
  | EDEADLK
  | other (number : Nat)
deriving DecidableEq, Repr

/-- The error of an allocation for which there is no memory. -/
def Errno.ENOMEM : Errno := .other 12

/-- One answer of the kernel to a `read` or `write` call. -/
inductive Response where
  | failed (errno : Errno)
  | transfer (limit : PNat)
deriving DecidableEq, Repr

/-- An answer after which a restarting loop goes on: anything but an error
other than `EINTR`. -/
def Response.Restarts : Response -> Prop
  | .failed errno => errno = .EINTR
  | .transfer _ => True

instance : DecidablePred Response.Restarts := fun response =>
  match response with
  | .failed errno => inferInstanceAs (Decidable (errno = .EINTR))
  | .transfer _ => isTrue trivial

/-- A descriptor open for reading: the answers to come and the bytes not yet
read.  End of file is the empty stream. -/
structure Source where
  responses : List Response
  pending : List Byte
deriving DecidableEq, Repr

/-- A descriptor open for writing: the answers to come and the bytes accepted
so far. -/
structure Sink where
  responses : List Response
  received : List Byte
deriving DecidableEq, Repr

/-- The number of calls and bytes that a source can still supply. -/
def Source.size (source : Source) : Nat :=
  source.responses.length + source.pending.length

/-- `read(fd, buf, count)`: the bytes transferred, none of them at end of file. -/
def read (source : Source) (count : Nat) : Except Errno (List Byte) × Source :=
  match source.responses with
  | [] => (.ok (source.pending.take count), ⟨[], source.pending.drop count⟩)
  | .failed errno :: rest => (.error errno, ⟨rest, source.pending⟩)
  | .transfer limit :: rest =>
      (.ok (source.pending.take (min limit count)), ⟨rest, source.pending.drop (min limit count)⟩)

/-- `write(fd, buf, count)` where `bytes` are the `count` bytes at `buf`: the
number of bytes accepted. -/
def write (sink : Sink) (bytes : List Byte) : Except Errno Nat × Sink :=
  match sink.responses with
  | [] => (.ok bytes.length, ⟨[], sink.received ++ bytes⟩)
  | .failed errno :: rest => (.error errno, ⟨rest, sink.received⟩)
  | .transfer limit :: rest =>
      (.ok (min limit bytes.length), ⟨rest, sink.received ++ bytes.take (min limit bytes.length)⟩)

/-- The responses a call has used, when `later` are left of `earlier`. -/
def Consumed (earlier later used : List Response) : Prop :=
  earlier = used ++ later

theorem Consumed.trans {earlier middle later first second : List Response}
    (left : Consumed earlier middle first) (right : Consumed middle later second) :
    Consumed earlier later (first ++ second) := by
  unfold Consumed at *
  rw [left, right, List.append_assoc]

/-- A script without unrestartable errors. -/
def AllRestart (responses : List Response) : Prop :=
  forall response, response ∈ responses -> response.Restarts

instance : DecidablePred AllRestart := fun responses =>
  inferInstanceAs (Decidable (forall response, response ∈ responses -> response.Restarts))

theorem AllRestart.of_consumed {earlier later used : List Response}
    (all : AllRestart earlier) (consumed : Consumed earlier later used) : AllRestart later := by
  intro response member
  apply all
  rw [consumed]
  exact List.mem_append_right used member

theorem AllRestart.used {earlier later used : List Response}
    (all : AllRestart earlier) (consumed : Consumed earlier later used) : AllRestart used := by
  intro response member
  apply all
  rw [consumed]
  exact List.mem_append_left later member

theorem allRestart_append {first second : List Response} :
    AllRestart (first ++ second) <-> AllRestart first ∧ AllRestart second :=
  List.forall_mem_append

/-- A call in two parts, the first of which meets no error: what the rest does decides. -/
theorem Consumed.continued {earlier middle later first : List Response}
    {rest complete failed : Prop} (firstConsumed : Consumed earlier middle first)
    (firstRestarts : AllRestart first) (completes : rest -> complete)
    (remaining : Exists fun used => Consumed middle later used ∧
      (AllRestart used -> rest) ∧ (¬ AllRestart used -> failed)) :
    Exists fun used => Consumed earlier later used ∧
      (AllRestart used -> complete) ∧ (¬ AllRestart used -> failed) := by
  rcases remaining with ⟨used, consumed, succeeds, fails⟩
  refine ⟨first ++ used, firstConsumed.trans consumed, ?_, ?_⟩
  · intro all
    exact completes (succeeds (allRestart_append.mp all).2)
  · intro notAll
    apply fails
    intro all
    exact notAll (allRestart_append.mpr ⟨firstRestarts, all⟩)

/-- An interruption is restartable. -/
theorem allRestart_interrupted : AllRestart [.failed .EINTR] := by decide

/-- A script has an unrestartable answer exactly when it holds an error other
than `EINTR`. -/
theorem not_allRestart_iff {responses : List Response} :
    ¬ AllRestart responses <->
      Exists fun errno => errno ≠ .EINTR ∧ .failed errno ∈ responses := by
  unfold AllRestart
  push Not
  constructor
  · rintro ⟨response, member, stops⟩
    cases response with
    | failed errno => exact ⟨errno, stops, member⟩
    | transfer limit => exact absurd trivial stops
  · rintro ⟨errno, notInterrupted, member⟩
    exact ⟨.failed errno, member, notInterrupted⟩

theorem read_error {source after : Source} {count : Nat} {errno : Errno}
    (called : read source count = (.error errno, after)) :
    source.responses = .failed errno :: after.responses ∧ after.pending = source.pending := by
  unfold read at called
  split at called
  · cases called
  · rename_i scripted
    cases called
    exact ⟨scripted, rfl⟩
  · cases called

/-- A successful read splits the stream, keeps within the request, and returns
no byte only at end of file. -/
theorem read_ok {source after : Source} {count : Nat} {bytes : List Byte}
    (called : read source count = (.ok bytes, after)) (positive : 0 < count) :
    source.pending = bytes ++ after.pending ∧ bytes.length ≤ count ∧
      (bytes = [] <-> source.pending = []) ∧
      Exists fun used => Consumed source.responses after.responses used ∧ AllRestart used := by
  have empty : forall amount, 0 < amount ->
      (source.pending.take amount = [] <-> source.pending = []) := by
    intro amount amountPositive
    rw [List.take_eq_nil_iff]
    constructor
    · rintro (zero | nil)
      · omega
      · exact nil
    · exact Or.inr
  unfold read at called
  split at called
  · rename_i scripted
    cases called
    refine ⟨(List.take_append_drop _ _).symm, List.length_take_le _ _, empty count positive, [], ?_, ?_⟩
    · exact scripted
    · intro response member
      cases member
  · cases called
  · rename_i limit rest scripted
    cases called
    have limitPositive : 0 < min (limit : Nat) count := by
      have := limit.pos
      omega
    refine ⟨(List.take_append_drop _ _).symm, ?_, empty _ limitPositive, [.transfer limit], scripted, ?_⟩
    · exact le_trans (List.length_take_le _ _) (min_le_right _ _)
    · intro response member
      rw [List.mem_singleton.mp member]
      trivial

/-- A read that fails, or that transfers something, leaves a smaller source. -/
theorem read_size {source after : Source} {count : Nat} {result : Except Errno (List Byte)}
    (called : read source count = (result, after)) (positive : 0 < count)
    (progress : result ≠ .ok []) : after.size < source.size := by
  cases result with
  | error errno =>
      rcases read_error called with ⟨scripted, pending⟩
      unfold Source.size
      rw [scripted, pending, List.length_cons]
      omega
  | ok bytes =>
      rcases read_ok called positive with ⟨split, _, _, used, consumed, _⟩
      have nonempty : bytes ≠ [] := by
        intro nil
        exact progress (by rw [nil])
      have bytesPositive := List.length_pos_iff.mpr nonempty
      unfold Source.size
      rw [split, consumed, List.length_append, List.length_append]
      omega

theorem write_error {sink after : Sink} {bytes : List Byte} {errno : Errno}
    (called : write sink bytes = (.error errno, after)) :
    sink.responses = .failed errno :: after.responses ∧ after.received = sink.received := by
  unfold write at called
  split at called
  · cases called
  · rename_i scripted
    cases called
    exact ⟨scripted, rfl⟩
  · cases called

/-- A successful write of a nonempty block appends a nonempty initial piece of
it, of the length returned. -/
theorem write_ok {sink after : Sink} {bytes : List Byte} {accepted : Nat}
    (called : write sink bytes = (.ok accepted, after)) (nonempty : bytes ≠ []) :
    after.received = sink.received ++ bytes.take accepted ∧ 0 < accepted ∧
      accepted ≤ bytes.length ∧
      Exists fun used => Consumed sink.responses after.responses used ∧ AllRestart used := by
  have bytesPositive := List.length_pos_iff.mpr nonempty
  unfold write at called
  split at called
  · rename_i scripted
    cases called
    refine ⟨by rw [List.take_length], bytesPositive, le_refl _, [], scripted, ?_⟩
    intro response member
    cases member
  · cases called
  · rename_i limit rest scripted
    cases called
    have limitPositive := limit.pos
    refine ⟨rfl, by omega, min_le_right _ _, [.transfer limit], scripted, ?_⟩
    intro response member
    rw [List.mem_singleton.mp member]
    trivial

end CLibrary
end Tlpi
