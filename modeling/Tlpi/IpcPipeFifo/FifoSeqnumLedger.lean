import Mathlib.Order.Interval.Set.Basic
import Tlpi.Foundations.Allocation
import Tlpi.IpcPipeFifo.FifoSeqnumAccounts

namespace Tlpi
namespace IpcPipeFifo

open CLibrary Foundations Lib

universe u

/-!
# The ranges of the FIFO service

The counter of the server lags behind the ranges it has reserved: a range is
reserved when the reply is built and counted after the reply has been sent.  The
ledger therefore compares the counter together with the length still owed with
the sum of all lengths.  As long as that sum is an `int` the ranges are laid end
to end, an instance of the allocator in `Foundations.Allocation`.
-/

variable {Client : Type u} {setup : Setup Client}

theorem Setup.seqLen_positive {client : Client} {length : Int}
    (accepted : setup.seqLen client = .ok length) : 0 < length := by
  unfold Setup.seqLen at accepted
  split at accepted
  · cases accepted
    decide
  · exact (getInt_ok accepted).2.2 (by decide)

/-- The length reserved for a request and not yet added to the counter. -/
def ServerPc.owed (pc : ServerPc Client) : Int :=
  match pc.answering with
  | none => 0
  | some req => req.seqLen

/-- The range reserved for a handled request. -/
def Handled.grant (entry : Handled Client) : Grant Int := ⟨entry.start, entry.length.toNat⟩

/-- The sum of the lengths reserved. -/
def World.reserved (world : World Client) : Int := (world.handled.map Handled.length).sum

structure Ledger (world : World Client) : Prop where
  range : toInt world.seqNum = world.seqNum
  counter : toInt (world.seqNum + world.server.owed) = toInt world.reserved
  layout : world.reserved ≤ INT_MAX ->
    EndToEnd (fun (place : Int) (count : Nat) => place + count) 0 (world.handled.map Handled.grant)

/-- The two sums of lengths agree when the lengths are positive. -/
theorem totalLength_grants {entries : List (Handled Client)}
    (positive : forall entry, entry ∈ entries -> 0 < entry.length) :
    (totalLength (entries.map Handled.grant) : Int) = (entries.map Handled.length).sum := by
  induction entries with
  | nil => rfl
  | cons entry rest inductionHypothesis =>
      have here : (entry.grant.length : Int) = entry.length :=
        Int.toNat_of_nonneg (Int.le_of_lt (positive entry List.mem_cons_self))
      have later := inductionHypothesis
        (fun other member => positive other (List.mem_cons_of_mem _ member))
      rw [List.map_cons, totalLength_cons, List.map_cons, List.sum_cons, Nat.cast_add, here, later]

namespace Ledger

variable {world next : World Client}

theorem of_fresh (fresh : Fresh world) : Ledger world := by
  refine ⟨?_, ?_, ?_⟩
  · rw [fresh.seqNum]
    decide
  · simp [fresh.seqNum, fresh.server, fresh.handled, World.reserved, ServerPc.owed,
      ServerPc.answering]
  · intro _
    rw [fresh.handled]
    trivial

/-- A step that touches neither the counter nor what is owed or reserved. -/
theorem of_same (ledger : Ledger world) (seqNum : next.seqNum = world.seqNum)
    (owed : next.server.owed = world.server.owed) (handled : next.handled = world.handled) :
    Ledger next := by
  have reserved : next.reserved = world.reserved := by rw [World.reserved, World.reserved, handled]
  refine ⟨?_, ?_, ?_⟩
  · rw [seqNum]
    exact ledger.range
  · rw [seqNum, owed, reserved]
    exact ledger.counter
  · rw [reserved, handled]
    exact ledger.layout

/-- A range is reserved: it begins where the earlier ones end. -/
theorem openReturns (ledger : Ledger world) (accounts : Accounts setup world)
    {req : Request Client} {fifo seen : Nat} (pc : world.server = .awaitingReader req fifo seen) :
    Ledger
      { world with
        server := .writing req fifo
        handled := world.handled ++ [⟨req.sender, world.seqNum, req.seqLen⟩] } := by
  have inFlight : req ∈ world.inFlight := by simp [World.inFlight, pc, ServerPc.request]
  have longer : 0 < req.seqLen := Setup.seqLen_positive (accounts.honest req inFlight).2
  have positive : forall entry, entry ∈ world.handled -> 0 < entry.length :=
    fun entry member => Setup.seqLen_positive (accounts.lengths entry member)
  have total := totalLength_grants positive
  have current : world.seqNum = toInt world.reserved := by
    have counter := ledger.counter
    rw [pc] at counter
    simpa [ServerPc.owed, ServerPc.answering, ledger.range] using counter
  have extended : World.reserved { world with
      server := .writing req fifo
      handled := world.handled ++ [⟨req.sender, world.seqNum, req.seqLen⟩] } =
      world.reserved + req.seqLen := by
    simp [World.reserved]
  refine ⟨ledger.range, ?_, ?_⟩
  · rw [extended]
    show toInt (world.seqNum + req.seqLen) = toInt (world.reserved + req.seqLen)
    rw [current]
    exact Int.bmod_add_bmod
  · intro within
    rw [extended] at within
    have low : 0 ≤ world.reserved := by
      rw [World.reserved, ← total]
      exact Int.natCast_nonneg _
    have high : world.reserved ≤ INT_MAX := by omega
    have small : INT_MIN ≤ world.reserved := Int.le_trans (by decide) low
    have starts : world.seqNum = world.reserved := by rw [current, toInt_of_range small high]
    rw [List.map_append, List.map_singleton]
    refine (endToEnd_append_singleton (fun _ _ _ => ?_) (fun _ => ?_) 0 _ _).mpr
      ⟨ledger.layout high, ?_⟩
    · rw [Nat.cast_add, Int.add_assoc]
    · simp
    · show world.seqNum = 0 + (totalLength (world.handled.map Handled.grant) : Int)
      rw [starts, total, Int.zero_add, World.reserved]

theorem update (ledger : Ledger world) {req : Request Client}
    (pc : world.server = .updating req) :
    Ledger { world with server := .reading, seqNum := toInt (world.seqNum + req.seqLen) } := by
  have counter := ledger.counter
  rw [pc] at counter
  refine ⟨Int.bmod_bmod, ?_, ledger.layout⟩
  show toInt (toInt (world.seqNum + req.seqLen) + 0) = toInt world.reserved
  rw [Int.add_zero]
  exact Int.bmod_bmod.trans counter

theorem serverMoves (ledger : Ledger world) (accounts : Accounts setup world) {outcome : Outcome}
    (moves : World.ServerMoves setup world outcome next) : Ledger next := by
  cases moves with
  | discard pc message => exact ledger.of_same rfl rfl rfl
  | take pc received | openFailed pc errno cause | openFound pc succeeds named
  | openInterrupted pc errno cause | close pc messages =>
      exact ledger.of_same rfl (by rw [pc]; rfl) rfl
  | openReturns pc succeeds => exact ledger.openReturns accounts pc
  | write pc =>
      rw [World.reply]
      split <;> exact ledger.of_same rfl (by rw [pc]; rfl) rfl
  | update pc => exact ledger.update pc

theorem step [DecidableEq Client] (ledger : Ledger world) (accounts : Accounts setup world)
    {action : Action Client} (stepped : world.step setup action = some next) : Ledger next := by
  cases action with
  | server outcome => exact ledger.serverMoves accounts (World.serverStep_moves stepped)
  | client client outcome =>
      rcases (World.clientStep_moves stepped).untouched with ⟨server, seqNum, handled⟩
      exact ledger.of_same seqNum (by rw [server]) handled
  | terminate client termination =>
      rcases world.leave_eq client (.terminated termination) with ⟨directory, fifos, -, left⟩
      rw [(World.step_terminate stepped).2, left]
      exact ledger.of_same rfl rfl rfl

theorem disjoint (ledger : Ledger world) (accounts : Accounts setup world)
    (within : world.reserved ≤ INT_MAX) :
    world.handled.Pairwise (fun left right =>
      Disjoint (Set.Ico left.start (left.start + left.length))
        (Set.Ico right.start (right.start + right.length))) := by
  have positive : forall entry, entry ∈ world.handled -> 0 < entry.length :=
    fun entry member => Setup.seqLen_positive (accounts.lengths entry member)
  have places : forall entry, entry ∈ world.handled ->
      Set.Ico entry.start (entry.start + entry.length) =
        entry.grant.places (fun (place : Int) (count : Nat) => place + count) := by
    intro entry member
    have longer := positive entry member
    ext place
    constructor
    · rintro ⟨low, high⟩
      exact ⟨(place - entry.start).toNat, by simp only [Handled.grant]; omega,
        by simp only [Handled.grant]; omega⟩
    · rintro ⟨offset, small, rfl⟩
      simp only [Handled.grant] at small ⊢
      exact ⟨by omega, by omega⟩
  have fits : totalLength (world.handled.map Handled.grant) ≤
      totalLength (world.handled.map Handled.grant) := le_rfl
  have separate := (ledger.layout within).pairwise_disjoint
    (fun _ _ _ => by rw [Nat.cast_add, Int.add_assoc]) (fun first second _ _ same => by omega) fits
  rw [List.pairwise_map] at separate
  refine separate.imp_of_mem ?_
  intro left right leftMember rightMember apart
  rw [places left leftMember, places right rightMember]
  exact apart

end Ledger

end IpcPipeFifo
end Tlpi
