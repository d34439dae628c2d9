import Mathlib.Data.Nat.Bitwise
import Tlpi.CLibrary.Strtol

namespace Tlpi
namespace CLibrary

open Foundations

/-!
# The wait status

`wait` and `waitpid` report a change in the state of a child as one number.  The low
seven bits say how the child terminated, or are all set if it did not; the macros of
`<sys/wait.h>` take the number apart.  The kernel reports four kinds of change, and the
macros tell them apart: no number belongs to two kinds, and from the number that the
kernel makes of a change the macros read the same change again.
-/

/-- A signal that the kernel knows. -/
structure SignalNumber where
  number : Nat
  positive : 1 ≤ number
  bounded : number ≤ 64
deriving DecidableEq, Repr

/-- What may happen to a child. -/
inductive StatusChange where
  | exited (status : Byte)
  | killed (signal : SignalNumber) (core : Bool)
  | stopped (signal : SignalNumber)
  | continued
deriving DecidableEq, Repr

/-- The number that the kernel makes of it. -/
def StatusChange.waitStatus : StatusChange -> BitVec 32
  | .exited status => BitVec.ofNat 32 status.toNat <<< 8
  | .killed signal core => BitVec.ofNat 32 signal.number ||| (if core then 0x80#32 else 0#32)
  | .stopped signal => BitVec.ofNat 32 signal.number <<< 8 ||| 0x7f#32
  | .continued => 0xffff#32

/-! ## The macros -/

def WEXITSTATUS (status : BitVec 32) : BitVec 32 := (status &&& 0xff00#32) >>> 8

def WTERMSIG (status : BitVec 32) : BitVec 32 := status &&& 0x7f#32

def WSTOPSIG (status : BitVec 32) : BitVec 32 := WEXITSTATUS status

def WIFEXITED (status : BitVec 32) : Bool := WTERMSIG status == 0#32

def WIFSIGNALED (status : BitVec 32) : Bool :=
  decide (0 < ((((status &&& 0x7f#32) + 1#32).setWidth 8).sshiftRight 1).toInt)

def WIFSTOPPED (status : BitVec 32) : Bool := status &&& 0xff#32 == 0x7f#32

def WIFCONTINUED (status : BitVec 32) : Bool := status == 0xffff#32

def WCOREDUMP (status : BitVec 32) : Bool := status &&& 0x80#32 != 0#32

theorem toNat_WTERMSIG (status : BitVec 32) : (WTERMSIG status).toNat = status.toNat % 128 := by
  unfold WTERMSIG
  rw [BitVec.toNat_and]
  exact Nat.and_two_pow_sub_one_eq_mod status.toNat 7

theorem toNat_WEXITSTATUS (status : BitVec 32) :
    (WEXITSTATUS status).toNat = status.toNat / 256 % 256 := by
  unfold WEXITSTATUS
  rw [BitVec.toNat_ushiftRight, BitVec.toNat_and, Nat.shiftRight_and_distrib, Nat.shiftRight_eq_div_pow]
  exact Nat.and_two_pow_sub_one_eq_mod _ 8

theorem WIFEXITED_iff (status : BitVec 32) : WIFEXITED status = true <-> status.toNat % 128 = 0 := by
  unfold WIFEXITED
  rw [beq_iff_eq, ← BitVec.toNat_inj, toNat_WTERMSIG]
  exact Iff.rfl

/-- The signed character is positive unless the seven bits are all clear or all set. -/
theorem WIFSIGNALED_iff (status : BitVec 32) :
    WIFSIGNALED status = true <-> status.toNat % 128 ≠ 0 ∧ status.toNat % 128 ≠ 127 := by
  have low : forall value : Fin 128,
      0 < (((BitVec.ofNat 32 value.val + 1#32).setWidth 8).sshiftRight 1).toInt <->
        value.val ≠ 0 ∧ value.val ≠ 127 := by
    decide +kernel
  have same : status &&& 0x7f#32 = BitVec.ofNat 32 (status.toNat % 128) := by
    apply BitVec.eq_of_toNat_eq
    have masked := toNat_WTERMSIG status
    unfold WTERMSIG at masked
    rw [masked, BitVec.toNat_ofNat]
    omega
  unfold WIFSIGNALED
  rw [decide_eq_true_eq, same]
  exact low ⟨status.toNat % 128, Nat.mod_lt _ (by decide)⟩

theorem WIFSTOPPED_iff (status : BitVec 32) :
    WIFSTOPPED status = true <-> status.toNat % 256 = 127 := by
  unfold WIFSTOPPED
  rw [beq_iff_eq, ← BitVec.toNat_inj, BitVec.toNat_and]
  have masked : status.toNat &&& (0xff#32).toNat = status.toNat % 256 :=
    Nat.and_two_pow_sub_one_eq_mod status.toNat 8
  rw [masked]
  exact Iff.rfl

theorem WIFCONTINUED_iff (status : BitVec 32) :
    WIFCONTINUED status = true <-> status.toNat = 65535 := by
  unfold WIFCONTINUED
  rw [beq_iff_eq, ← BitVec.toNat_inj]
  exact Iff.rfl

theorem WCOREDUMP_iff (status : BitVec 32) :
    WCOREDUMP status = true <-> status.toNat / 128 % 2 = 1 := by
  unfold WCOREDUMP
  rw [bne_iff_ne, Ne, ← BitVec.toNat_inj, BitVec.toNat_and]
  have bit : status.toNat &&& (0x80#32).toNat = (status.toNat.testBit 7).toNat * 2 ^ 7 :=
    Nat.and_two_pow status.toNat 7
  have tested : status.toNat.testBit 7 = decide (status.toNat / 128 % 2 = 1) :=
    Nat.testBit_eq_decide_div_mod_eq
  rw [bit, tested]
  by_cases set : status.toNat / 128 % 2 = 1
  · rw [decide_eq_true set]
    exact iff_of_true (by decide) set
  · rw [decide_eq_false set]
    exact iff_of_false (fun different => different rfl) set

/-- No number is of two kinds; those of none have all bits of the low byte set, but are
not the number of a child that was continued. -/
theorem wait_kinds (status : BitVec 32) :
    (WIFEXITED status = true -> WIFSIGNALED status = false ∧ WIFSTOPPED status = false ∧
      WIFCONTINUED status = false) ∧
    (WIFSIGNALED status = true -> WIFSTOPPED status = false ∧ WIFCONTINUED status = false) ∧
    (WIFSTOPPED status = true -> WIFCONTINUED status = false) ∧
    ((WIFEXITED status = false ∧ WIFSIGNALED status = false ∧ WIFSTOPPED status = false ∧
      WIFCONTINUED status = false) <-> status.toNat % 256 = 255 ∧ status.toNat ≠ 65535) := by
  simp only [← Bool.not_eq_true, WIFEXITED_iff, WIFSIGNALED_iff, WIFSTOPPED_iff, WIFCONTINUED_iff]
  omega

/-! ## What the kernel writes is what the macros read -/

theorem toNat_exited (status : Byte) :
    (StatusChange.exited status).waitStatus.toNat = status.toNat * 256 := by
  have all : forall value : Fin 256, (BitVec.ofNat 32 value.val <<< 8).toNat = value.val * 256 := by
    decide +kernel
  exact all ⟨status.toNat, status.toNat_lt⟩

theorem toNat_killed (signal : SignalNumber) (core : Bool) :
    (StatusChange.killed signal core).waitStatus.toNat = signal.number + if core then 128 else 0 := by
  have all : forall value : Fin 65, forall core : Bool,
      (BitVec.ofNat 32 value.val ||| (if core then 0x80#32 else 0#32)).toNat =
        value.val + if core then 128 else 0 := by
    decide +kernel
  exact all ⟨signal.number, Nat.lt_succ_of_le signal.bounded⟩ core

theorem toNat_stopped (signal : SignalNumber) :
    (StatusChange.stopped signal).waitStatus.toNat = signal.number * 256 + 127 := by
  have all : forall value : Fin 65,
      (BitVec.ofNat 32 value.val <<< 8 ||| 0x7f#32).toNat = value.val * 256 + 127 := by
    decide +kernel
  exact all ⟨signal.number, Nat.lt_succ_of_le signal.bounded⟩

theorem toNat_continued : StatusChange.continued.waitStatus.toNat = 65535 := rfl

theorem waitStatus_exited (status : Byte) :
    WIFEXITED (StatusChange.exited status).waitStatus = true ∧
      (WEXITSTATUS (StatusChange.exited status).waitStatus).toNat = status.toNat := by
  rw [WIFEXITED_iff, toNat_WEXITSTATUS, toNat_exited]
  have small := status.toNat_lt
  omega

theorem waitStatus_killed (signal : SignalNumber) (core : Bool) :
    WIFEXITED (StatusChange.killed signal core).waitStatus = false ∧
      WIFSIGNALED (StatusChange.killed signal core).waitStatus = true ∧
      (WTERMSIG (StatusChange.killed signal core).waitStatus).toNat = signal.number ∧
      WCOREDUMP (StatusChange.killed signal core).waitStatus = core := by
  have positive := signal.positive
  have bounded := signal.bounded
  rw [← Bool.not_eq_true, WIFEXITED_iff, WIFSIGNALED_iff, toNat_WTERMSIG, toNat_killed]
  refine ⟨by split <;> omega, by split <;> omega, by split <;> omega, ?_⟩
  rw [Bool.eq_iff_iff, WCOREDUMP_iff, toNat_killed]
  cases core with
  | true =>
      rw [if_pos rfl]
      exact iff_of_true (by omega) rfl
  | false =>
      rw [if_neg Bool.false_ne_true]
      exact iff_of_false (by omega) Bool.false_ne_true

theorem waitStatus_stopped (signal : SignalNumber) :
    WIFEXITED (StatusChange.stopped signal).waitStatus = false ∧
      WIFSIGNALED (StatusChange.stopped signal).waitStatus = false ∧
      WIFSTOPPED (StatusChange.stopped signal).waitStatus = true ∧
      (WSTOPSIG (StatusChange.stopped signal).waitStatus).toNat = signal.number := by
  have bounded := signal.bounded
  have same : (WSTOPSIG (StatusChange.stopped signal).waitStatus).toNat =
      (StatusChange.stopped signal).waitStatus.toNat / 256 % 256 := toNat_WEXITSTATUS _
  rw [← Bool.not_eq_true, ← Bool.not_eq_true, WIFEXITED_iff, WIFSIGNALED_iff, WIFSTOPPED_iff, same,
    toNat_stopped]
  omega

theorem waitStatus_continued :
    WIFEXITED StatusChange.continued.waitStatus = false ∧
      WIFSIGNALED StatusChange.continued.waitStatus = false ∧
      WIFSTOPPED StatusChange.continued.waitStatus = false ∧
      WIFCONTINUED StatusChange.continued.waitStatus = true := by
  decide

end CLibrary
end Tlpi
