import Tlpi.CLibrary.Signals

namespace Tlpi
namespace CLibrary

/-!
# How often a signal is pending

A realtime signal is pending as often as it was sent and not delivered, as long as the limit
`RLIMIT_SIGPENDING` is not reached, and any other signal at most once.  `SIGCONT` and the
signals that stop a process cancel each other.
-/

/-- Sending the one signal discards the other. -/
def cancels (sent sig : Nat) : Bool :=
  (sent = SIGCONT && stopSignal sig) || (stopSignal sent && sig = SIGCONT)

/-- How often a signal is pending after some signal was sent. -/
def afterSending (sig count sent : Nat) : Nat :=
  if sent = sig then if realtime sig then count + 1 else 1
  else if cancels sent sig then 0
  else count

namespace Pending

def amount (pending : Pending) (sig : Nat) : Nat :=
  pending.countP (fun info => info.si_signo = sig)

@[simp] theorem amount_nil (sig : Nat) : amount [] sig = 0 := rfl

theorem amount_append (first second : Pending) (sig : Nat) :
    amount (first ++ second) sig = amount first sig + amount second sig :=
  List.countP_append

theorem any_iff_amount_pos {pending : Pending} {sig : Nat} :
    pending.any (fun info => info.si_signo = sig) = true <-> 0 < amount pending sig := by
  rw [amount, List.countP_pos_iff, List.any_eq_true]

/-- Signals that are discarded, and those that are kept. -/
theorem amount_filter (pending : Pending) (keeps : Nat -> Bool) (sig : Nat) :
    amount (pending.filter (fun info => keeps info.si_signo)) sig =
      if keeps sig then amount pending sig else 0 := by
  unfold amount
  rw [List.countP_filter]
  by_cases kept : keeps sig = true
  · rw [if_pos kept]
    refine List.countP_congr ?_
    intro info _
    by_cases same : info.si_signo = sig
    · rw [same, kept, Bool.and_true]
    · simp [same]
  · rw [if_neg kept, List.countP_eq_zero]
    intro info _ both
    rcases Bool.and_eq_true_iff.mp both with ⟨same, keeping⟩
    rw [of_decide_eq_true same] at keeping
    exact kept keeping

theorem stopSignal_SIGCONT : stopSignal SIGCONT = false := by decide

/-- What the signal that is sent leaves of the pending ones. -/
def kept (pending : Pending) (sent : Nat) : Pending :=
  if sent = SIGCONT then pending.filter (fun other => !stopSignal other.si_signo)
  else if stopSignal sent then pending.filter (fun other => other.si_signo ≠ SIGCONT)
  else pending

theorem amount_kept (pending : Pending) (sent sig : Nat) :
    amount (kept pending sent) sig = if cancels sent sig then 0 else amount pending sig := by
  unfold kept
  by_cases continues : sent = SIGCONT
  · rw [if_pos continues, amount_filter pending (fun sig => !stopSignal sig) sig]
    rw [continues, cancels, stopSignal_SIGCONT]
    cases stopSignal sig <;> rfl
  · rw [if_neg continues]
    by_cases stops : stopSignal sent = true
    · rw [if_pos stops, amount_filter pending (fun sig => sig ≠ SIGCONT) sig]
      unfold cancels
      rw [stops]
      by_cases same : sig = SIGCONT <;> simp [same, continues]
    · rw [if_neg stops, cancels, Bool.eq_false_iff.mpr stops]
      simp [continues]

theorem cancels_self (sig : Nat) : cancels sig sig = false := by
  by_cases continues : sig = SIGCONT
  · rw [continues]
    decide
  · simp [cancels, continues]

theorem amount_generate {pending : Pending} {sig : Nat}
    (single : realtime sig = false -> amount pending sig ≤ 1) (info : Siginfo) :
    amount (pending.generate info) sig = afterSending sig (amount pending sig) info.si_signo := by
  have keeps := amount_kept pending info.si_signo sig
  change amount (if realtime info.si_signo = false ∧ (kept pending info.si_signo).any
    (fun other => other.si_signo = info.si_signo) then kept pending info.si_signo
    else kept pending info.si_signo ++ [info]) sig = _
  unfold afterSending
  by_cases same : info.si_signo = sig
  · rw [if_pos same]
    rw [same, cancels_self, if_neg Bool.false_ne_true] at keeps
    rw [same]
    have one : amount [info] sig = 1 := by simp [amount, same]
    by_cases queued : realtime sig = true
    · rw [if_pos queued, if_neg (by simp [queued]), amount_append, keeps, one]
    · rw [if_neg queued]
      have atMost := single (Bool.eq_false_iff.mpr queued)
      split
      · rename_i present
        have positive := any_iff_amount_pos.mp present.2
        omega
      · rename_i absent
        have zero : ¬ 0 < amount (kept pending sig) sig := by
          intro positive
          exact absent ⟨Bool.eq_false_iff.mpr queued, any_iff_amount_pos.mpr positive⟩
        rw [amount_append, one]
        omega
  · rw [if_neg same]
    have none : amount [info] sig = 0 := by simp [amount, same]
    split
    · exact keeps
    · rw [amount_append, none, keeps, Nat.add_zero]

theorem amount_take {pending rest : Pending} {sig : Nat} {info : Siginfo}
    (taken : pending.take sig = some (info, rest)) (other : Nat) :
    0 < amount pending sig ∧
      amount rest other = if sig = other then amount pending other - 1 else amount pending other := by
  rcases Option.map_eq_some_iff.mp taken with ⟨found, first, same⟩
  cases same
  have isSig := List.find?_some first
  have member := List.mem_of_find?_eq_some first
  rcases List.exists_of_eraseP (p := fun info => decide (info.si_signo = sig)) member isSig with ⟨head, before, after, _, isHead, split, erased⟩
  have here : head.si_signo = sig := of_decide_eq_true isHead
  rw [erased, split]
  unfold amount
  rw [List.countP_append, List.countP_append, List.countP_append, List.countP_cons, List.countP_cons]
  constructor
  · rw [if_pos (decide_eq_true here)]
    omega
  · by_cases equal : sig = other
    · rw [if_pos equal, if_pos (decide_eq_true (here.trans equal))]
      omega
    · rw [if_neg equal, if_neg (by simpa [here] using equal)]
      rfl

end Pending

end CLibrary
end Tlpi
