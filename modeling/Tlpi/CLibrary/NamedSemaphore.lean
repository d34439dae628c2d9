import Tlpi.CLibrary.Descriptor
import Tlpi.Foundations.History

namespace Tlpi
namespace CLibrary

open Foundations

universe u

/-!
# Named semaphores

A named semaphore is a file that counts.  A process opens it by its name and keeps it open:
when the name is removed, those who have the semaphore open go on using it, while the next
one who asks for the name does not find it, or gets a new semaphore of that name.

Semaphores are numbered here in the order of their creation.  What is done to them is kept
in a history, in which each semaphore has an account: its initial value and the posts are
credits, and the waits are debits.
-/

structure NamedSemaphore where
  file : List Byte
  perms : Nat
  value : Nat
  linked : Bool
deriving DecidableEq, Repr

def SEM_VALUE_MAX : Nat := 2147483647

namespace NamedSemaphore

def find (semaphores : List NamedSemaphore) (file : List Byte) : Option Nat :=
  semaphores.findIdx? (fun semaphore => semaphore.linked && decide (semaphore.file = file))

/-- A new semaphore; an initial value that is too large is refused first. -/
def create (semaphores : List NamedSemaphore) (file : List Byte) (perms value : Nat) :
    Except Errno (Nat × List NamedSemaphore) :=
  if SEM_VALUE_MAX < value then .error .EINVAL
  else
    match find semaphores file with
    | some _ => .error .EEXIST
    | none => .ok (semaphores.length, semaphores ++ [⟨file, perms, value, true⟩])

/-- `sem_open`, with the two flags that it knows. -/
def semOpen (semaphores : List NamedSemaphore) (file : List Byte) (creates exclusive : Bool)
    (perms value : Nat) : Except Errno (Nat × List NamedSemaphore) :=
  if creates && exclusive then create semaphores file perms value
  else
    match find semaphores file with
    | some index => .ok (index, semaphores)
    | none => if creates then create semaphores file perms value else .error .ENOENT

def semPost (semaphores : List NamedSemaphore) (index : Nat) : Except Errno (List NamedSemaphore) :=
  match semaphores[index]? with
  | none => .error .EINVAL
  | some semaphore =>
      if SEM_VALUE_MAX ≤ semaphore.value then .error .EOVERFLOW
      else .ok (semaphores.set index { semaphore with value := semaphore.value + 1 })

/-- `sem_wait`, which sleeps while the value is zero. -/
def semWait (semaphores : List NamedSemaphore) (index : Nat) : Option (List NamedSemaphore) :=
  match semaphores[index]? with
  | none => none
  | some semaphore =>
      if semaphore.value = 0 then none
      else some (semaphores.set index { semaphore with value := semaphore.value - 1 })

def semUnlink (semaphores : List NamedSemaphore) (file : List Byte) :
    Except Errno (Nat × List NamedSemaphore) :=
  match find semaphores file with
  | none => .error .ENOENT
  | some index =>
      .ok (index, semaphores.modify index (fun semaphore => { semaphore with linked := false }))

/-!
## What a history says
-/

/-- What a process has done to a semaphore. -/
inductive Done where
  | created (index : Nat) (file : List Byte) (value : Nat)
  | opened (index : Nat) (file : List Byte)
  | posted (index : Nat)
  | waited (index : Nat)
  | read (index : Nat) (value : Nat)
  | unlinked (index : Nat) (file : List Byte)
deriving DecidableEq, Repr

def Done.credit (index : Nat) : Done -> Nat
  | .created other _ value => if other = index then value else 0
  | .posted other => if other = index then 1 else 0
  | .opened _ _ | .waited _ | .read _ _ | .unlinked _ _ => 0

def Done.debit (index : Nat) : Done -> Nat
  | .waited other => if other = index then 1 else 0
  | .created _ _ _ | .opened _ _ | .posted _ | .read _ _ | .unlinked _ _ => 0

variable {Process : Type u}

/-- What has been put into a semaphore. -/
def credits (index : Nat) (history : List (Process × Done)) : Nat :=
  (history.map (fun entry => entry.2.credit index)).sum

/-- What has been taken from a semaphore. -/
def debits (index : Nat) (history : List (Process × Done)) : Nat :=
  (history.map (fun entry => entry.2.debit index)).sum

/-- The semaphore has been created under this name, which has not been removed. -/
structure LinkedAs (index : Nat) (file : List Byte) (history : List (Process × Done)) : Prop where
  created : Exists fun process => Exists fun value => (process, Done.created index file value) ∈ history
  kept : forall process other, (process, Done.unlinked index other) ∉ history

/-- The rule of a history: what an entry has to do with what happened before. -/
def Fits (before : List (Process × Done)) (entry : Process × Done) : Prop :=
  match entry.2 with
  | .created index file _ =>
      (forall process other value, (process, Done.created index other value) ∉ before) ∧
        forall other, ¬ LinkedAs other file before
  | .opened index file | .unlinked index file => LinkedAs index file before
  | .posted index => Exists fun file => (entry.1, Done.opened index file) ∈ before
  | .waited index =>
      (Exists fun file => (entry.1, Done.opened index file) ∈ before) ∧
        debits index before < credits index before
  | .read index value =>
      (Exists fun file => (entry.1, Done.opened index file) ∈ before) ∧
        value + debits index before = credits index before

/-- The semaphores are what the history says. -/
structure Recorded (history : List (Process × Done)) (semaphores : List NamedSemaphore) : Prop where
  linked : forall index file, LinkedAs index file history <->
    Exists fun semaphore => semaphores[index]? = some semaphore ∧ semaphore.linked = true ∧
      semaphore.file = file
  created : forall process index file value, (process, Done.created index file value) ∈ history ->
    Exists fun semaphore => semaphores[index]? = some semaphore ∧ semaphore.file = file
  conserved : forall index semaphore, semaphores[index]? = some semaphore ->
    semaphore.value + debits index history = credits index history ∧ semaphore.value ≤ SEM_VALUE_MAX
  absent : forall index, semaphores[index]? = none ->
    debits index history = 0 ∧ credits index history = 0
  unique : forall index other file, LinkedAs index file history -> LinkedAs other file history ->
    index = other

variable {history : List (Process × Done)} {semaphores after : List NamedSemaphore} {process : Process}
  {file : List Byte} {index : Nat}

theorem credits_concat (index : Nat) (history : List (Process × Done)) (process : Process) (done : Done) :
    credits index (history ++ [(process, done)]) = credits index history + done.credit index := by
  unfold credits
  rw [List.map_append, List.sum_append]
  rfl

theorem debits_concat (index : Nat) (history : List (Process × Done)) (process : Process) (done : Done) :
    debits index (history ++ [(process, done)]) = debits index history + done.debit index := by
  unfold debits
  rw [List.map_append, List.sum_append]
  rfl

def Done.Names : Done -> Prop
  | .created _ _ _ | .unlinked _ _ => True
  | .opened _ _ | .posted _ | .waited _ | .read _ _ => False

theorem mem_concat {history : List (Process × Done)} {process other : Process} {done entry : Done} :
    (other, entry) ∈ history ++ [(process, done)] <->
      (other, entry) ∈ history ∨ (other = process ∧ entry = done) := by
  rw [List.mem_append, List.mem_singleton, Prod.mk.injEq]

theorem linkedAs_concat_of_not_names {done : Done} (plain : ¬ done.Names) :
    LinkedAs index file (history ++ [(process, done)]) <-> LinkedAs index file history := by
  constructor
  · rintro ⟨⟨other, value, member⟩, kept⟩
    refine ⟨⟨other, value, ?_⟩, fun other name member => kept other name (mem_concat.mpr (.inl member))⟩
    rcases mem_concat.mp member with earlier | ⟨_, rfl⟩
    · exact earlier
    · exact (plain trivial).elim
  · rintro ⟨⟨other, value, member⟩, kept⟩
    refine ⟨⟨other, value, mem_concat.mpr (.inl member)⟩, ?_⟩
    intro other name unlinked
    rcases mem_concat.mp unlinked with earlier | ⟨_, rfl⟩
    · exact kept other name earlier
    · exact (plain trivial).elim

theorem find_eq_some (found : find semaphores file = some index) :
    Exists fun semaphore => semaphores[index]? = some semaphore ∧ semaphore.linked = true ∧
      semaphore.file = file := by
  rcases List.findIdx?_eq_some_iff_getElem.mp found with ⟨inside, isIt, _⟩
  rw [Bool.and_eq_true, decide_eq_true_eq] at isIt
  exact ⟨_, List.getElem?_eq_getElem inside, isIt.1, isIt.2⟩

theorem find_eq_none (nothing : find semaphores file = none) {semaphore : NamedSemaphore}
    (there : semaphores[index]? = some semaphore) (linked : semaphore.linked = true) :
    semaphore.file ≠ file := by
  have notIt := List.findIdx?_eq_none_iff.mp nothing semaphore (List.mem_of_getElem? there)
  rw [linked, Bool.true_and, decide_eq_false_iff_not] at notIt
  exact notIt

/-- What does not change while a semaphore is used. -/
def identity (semaphore : NamedSemaphore) : List Byte × Bool := (semaphore.file, semaphore.linked)

/-- An entry that has nothing to do with names, with the semaphores afterwards. -/
theorem Recorded.adjusts (holds : Recorded history semaphores) {done : Done} (plain : ¬ done.Names)
    (same : forall index : Nat, after[index]?.map identity = semaphores[index]?.map identity)
    (conserved : forall (index : Nat) (semaphore : NamedSemaphore), after[index]? = some semaphore ->
      semaphore.value + (debits index history + done.debit index) =
        credits index history + done.credit index ∧ semaphore.value ≤ SEM_VALUE_MAX)
    (absent : forall index : Nat, semaphores[index]? = none -> done.debit index = 0 ∧ done.credit index = 0) :
    Recorded (history ++ [(process, done)]) after := by
  have agree : forall (index : Nat) (file : List Byte) (linked : Bool),
      (Exists fun semaphore => semaphores[index]? = some semaphore ∧ semaphore.linked = linked ∧
        semaphore.file = file) <->
      (Exists fun semaphore => after[index]? = some semaphore ∧ semaphore.linked = linked ∧
        semaphore.file = file) := by
    intro index file linked
    have here := same index
    cases former : semaphores[index]? with
    | none =>
        rw [former, Option.map_none, Option.map_eq_none_iff] at here
        rw [here]
    | some semaphore =>
        rw [former, Option.map_some, Option.map_eq_some_iff] at here
        rcases here with ⟨other, there, pair⟩
        rw [there]
        rcases Prod.mk.inj pair with ⟨files, links⟩
        constructor
        · rintro ⟨found, itself, link, name⟩
          cases itself
          exact ⟨other, rfl, links.trans link, files.trans name⟩
        · rintro ⟨found, itself, link, name⟩
          cases itself
          exact ⟨semaphore, rfl, links.symm.trans link, files.symm.trans name⟩
  constructor
  case linked =>
    intro index file
    rw [linkedAs_concat_of_not_names plain, holds.linked, agree]
  case created =>
    intro other index file value member
    rcases mem_concat.mp member with earlier | ⟨_, rfl⟩
    · rcases holds.created other index file value earlier with ⟨semaphore, there, named⟩
      rcases (agree index file semaphore.linked).mp ⟨semaphore, there, rfl, named⟩ with ⟨found, at_, _, its⟩
      exact ⟨found, at_, its⟩
    · exact (plain trivial).elim
  case conserved =>
    intro index semaphore there
    rw [debits_concat, credits_concat]
    exact conserved index semaphore there
  case absent =>
    intro index nothing
    have before : semaphores[index]? = none := by
      have here := same index
      rw [nothing, Option.map_none] at here
      exact Option.map_eq_none_iff.mp here.symm
    rcases holds.absent index before with ⟨noDebits, noCredits⟩
    rcases absent index before with ⟨noDebit, noCredit⟩
    rw [debits_concat, credits_concat, noDebits, noCredits, noDebit, noCredit]
    exact ⟨rfl, rfl⟩
  case unique =>
    intro index other file first second
    rw [linkedAs_concat_of_not_names plain] at first second
    exact holds.unique index other file first second

theorem Recorded.opens (holds : Recorded history semaphores) (process : Process)
    (found : find semaphores file = some index) :
    Fits history (process, .opened index file) ∧
      Recorded (history ++ [(process, .opened index file)]) semaphores := by
  refine ⟨(holds.linked index file).mpr (find_eq_some found), ?_⟩
  exact holds.adjusts id (fun _ => rfl) (fun index semaphore there => holds.conserved index semaphore there)
    (fun _ _ => ⟨rfl, rfl⟩)

theorem Recorded.reads (holds : Recorded history semaphores) {semaphore : NamedSemaphore}
    (there : semaphores[index]? = some semaphore)
    (opened : Exists fun file => (process, Done.opened index file) ∈ history) :
    Fits history (process, .read index semaphore.value) ∧
      Recorded (history ++ [(process, .read index semaphore.value)]) semaphores := by
  refine ⟨⟨opened, (holds.conserved index semaphore there).1⟩, ?_⟩
  exact holds.adjusts id (fun _ => rfl) (fun index semaphore there => holds.conserved index semaphore there)
    (fun _ _ => ⟨rfl, rfl⟩)

/-- One value changes. -/
theorem same_of_set {semaphore : NamedSemaphore} (there : semaphores[index]? = some semaphore)
    (value : Nat) (other : Nat) :
    (semaphores.set index { semaphore with value := value })[other]?.map identity =
      semaphores[other]?.map identity := by
  by_cases same : index = other
  · rw [← same, List.getElem?_set_self (List.getElem?_eq_some_iff.mp there).1, there]
    rfl
  · rw [List.getElem?_set_ne same]

theorem Recorded.posts (holds : Recorded history semaphores)
    (opened : Exists fun file => (process, Done.opened index file) ∈ history)
    (posted : semPost semaphores index = .ok after) :
    Fits history (process, .posted index) ∧ Recorded (history ++ [(process, .posted index)]) after := by
  refine ⟨opened, ?_⟩
  unfold semPost at posted
  split at posted
  · cases posted
  · rename_i semaphore there
    split at posted
    · cases posted
    · rename_i room
      cases posted
      apply holds.adjusts id (same_of_set there _)
      · intro other changed found
        by_cases same : index = other
        · rw [← same, List.getElem?_set_self (List.getElem?_eq_some_iff.mp there).1] at found
          cases found
          have before := holds.conserved index semaphore there
          rw [← same]
          simp only [Done.debit, Done.credit, if_true]
          omega
        · rw [List.getElem?_set_ne same] at found
          simp only [Done.debit, Done.credit, if_neg same]
          exact holds.conserved other changed found
      · intro other nothing
        have different : index ≠ other := by
          rintro rfl
          rw [there] at nothing
          cases nothing
        exact ⟨rfl, if_neg different⟩

theorem Recorded.waits (holds : Recorded history semaphores)
    (opened : Exists fun file => (process, Done.opened index file) ∈ history)
    (waited : semWait semaphores index = some after) :
    Fits history (process, .waited index) ∧ Recorded (history ++ [(process, .waited index)]) after := by
  unfold semWait at waited
  split at waited
  · cases waited
  · rename_i semaphore there
    have before := holds.conserved index semaphore there
    split at waited
    · cases waited
    · rename_i positive
      cases waited
      refine ⟨⟨opened, by omega⟩, ?_⟩
      apply holds.adjusts id (same_of_set there _)
      · intro other changed found
        by_cases same : index = other
        · rw [← same, List.getElem?_set_self (List.getElem?_eq_some_iff.mp there).1] at found
          cases found
          rw [← same]
          simp only [Done.debit, Done.credit, if_true]
          omega
        · rw [List.getElem?_set_ne same] at found
          simp only [Done.debit, Done.credit, if_neg same]
          exact holds.conserved other changed found
      · intro other nothing
        have different : index ≠ other := by
          rintro rfl
          rw [there] at nothing
          cases nothing
        exact ⟨if_neg different, rfl⟩

theorem Recorded.not_created (holds : Recorded history semaphores) (process : Process)
    (file : List Byte) (value : Nat) :
    (process, Done.created semaphores.length file value) ∉ history := by
  intro member
  rcases holds.created _ _ _ _ member with ⟨semaphore, there, _⟩
  rw [List.getElem?_eq_none (le_refl _)] at there
  cases there

/-- The entries that remove a name are about semaphores that exist. -/
theorem not_unlinked_of_throughout (rule : Throughout Fits history)
    (holds : Recorded history semaphores) (process : Process) (file : List Byte) :
    (process, Done.unlinked semaphores.length file) ∉ history := by
  intro member
  rcases rule.exists_of_mem member with ⟨before, ⟨rest, whole⟩, linked⟩
  rcases linked.created with ⟨other, value, created⟩
  apply holds.not_created other file value
  rw [← whole]
  exact List.mem_append_left _ created

theorem linkedAs_created {value : Nat}
    (fresh : forall other name, (other, Done.unlinked index name) ∉ history) {other : Nat}
    {name : List Byte} :
    LinkedAs other name (history ++ [(process, .created index file value)]) <->
      LinkedAs other name history ∨ (other = index ∧ name = file) := by
  constructor
  · rintro ⟨⟨by_, its, member⟩, kept⟩
    rcases mem_concat.mp member with earlier | ⟨_, now⟩
    · exact .inl ⟨⟨by_, its, earlier⟩,
        fun someone removed gone => kept someone removed (mem_concat.mpr (.inl gone))⟩
    · cases now
      exact .inr ⟨rfl, rfl⟩
  · rintro (⟨⟨by_, its, member⟩, kept⟩ | ⟨rfl, rfl⟩)
    · refine ⟨⟨by_, its, mem_concat.mpr (.inl member)⟩, ?_⟩
      intro someone removed gone
      rcases mem_concat.mp gone with earlier | ⟨_, now⟩
      · exact kept someone removed earlier
      · cases now
    · refine ⟨⟨process, value, mem_concat.mpr (.inr ⟨rfl, rfl⟩)⟩, ?_⟩
      intro someone removed gone
      rcases mem_concat.mp gone with earlier | ⟨_, now⟩
      · exact fresh someone removed earlier
      · cases now

theorem linkedAs_unlinked {other : Nat} {name : List Byte} :
    LinkedAs other name (history ++ [(process, .unlinked index file)]) <->
      LinkedAs other name history ∧ other ≠ index := by
  constructor
  · rintro ⟨⟨by_, its, member⟩, kept⟩
    rcases mem_concat.mp member with earlier | ⟨_, now⟩
    · refine ⟨⟨⟨by_, its, earlier⟩,
        fun someone removed gone => kept someone removed (mem_concat.mpr (.inl gone))⟩, ?_⟩
      rintro rfl
      exact kept process file (mem_concat.mpr (.inr ⟨rfl, rfl⟩))
    · cases now
  · rintro ⟨⟨⟨by_, its, member⟩, kept⟩, different⟩
    refine ⟨⟨by_, its, mem_concat.mpr (.inl member)⟩, ?_⟩
    intro someone removed gone
    rcases mem_concat.mp gone with earlier | ⟨_, now⟩
    · exact kept someone removed earlier
    · cases now
      exact different rfl

/-- The places of a list with a new last semaphore. -/
theorem getElem?_concat {new : NamedSemaphore} {other : Nat} {semaphore : NamedSemaphore} :
    (semaphores ++ [new])[other]? = some semaphore <->
      semaphores[other]? = some semaphore ∨ (other = semaphores.length ∧ semaphore = new) := by
  rw [List.getElem?_append]
  split
  · rename_i inside
    exact (or_iff_left (fun both => absurd both.1 (Nat.ne_of_lt inside))).symm
  · rename_i outside
    rw [List.getElem?_eq_none (not_lt.mp outside), List.getElem?_singleton]
    split
    · rename_i zero
      rw [Option.some.injEq]
      constructor
      · exact fun same => .inr ⟨by omega, same.symm⟩
      · rintro (nothing | ⟨_, same⟩)
        · cases nothing
        · exact same.symm
    · rename_i notZero
      constructor
      · exact nofun
      · rintro (nothing | ⟨same, _⟩)
        · cases nothing
        · omega

theorem Recorded.concat (holds : Recorded history semaphores) (rule : Throughout Fits history)
    (process : Process) {perms value : Nat} (small : value ≤ SEM_VALUE_MAX)
    (notLinked : forall other, ¬ LinkedAs other file history) :
    Recorded (history ++ [(process, .created semaphores.length file value)])
      (semaphores ++ [⟨file, perms, value, true⟩]) := by
  have others : forall {other name}, LinkedAs other name
      (history ++ [(process, .created semaphores.length file value)]) <->
        LinkedAs other name history ∨ (other = semaphores.length ∧ name = file) :=
    linkedAs_created (not_unlinked_of_throughout rule holds)
  constructor
  case linked =>
    intro other name
    rw [others, holds.linked]
    constructor
    · rintro (⟨semaphore, there, link, its⟩ | ⟨rfl, rfl⟩)
      · exact ⟨semaphore, getElem?_concat.mpr (.inl there), link, its⟩
      · exact ⟨_, getElem?_concat.mpr (.inr ⟨rfl, rfl⟩), rfl, rfl⟩
    · rintro ⟨semaphore, there, link, its⟩
      rcases getElem?_concat.mp there with earlier | ⟨here, rfl⟩
      · exact .inl ⟨semaphore, earlier, link, its⟩
      · exact .inr ⟨here, its.symm⟩
  case created =>
    intro by_ other name its member
    rcases mem_concat.mp member with earlier | ⟨_, now⟩
    · rcases holds.created by_ other name its earlier with ⟨semaphore, there, named⟩
      exact ⟨semaphore, getElem?_concat.mpr (.inl there), named⟩
    · cases now
      exact ⟨_, getElem?_concat.mpr (.inr ⟨rfl, rfl⟩), rfl⟩
  case conserved =>
    intro other semaphore there
    rw [debits_concat, credits_concat]
    rcases getElem?_concat.mp there with earlier | ⟨rfl, rfl⟩
    · have different : semaphores.length ≠ other :=
        Nat.ne_of_gt (List.getElem?_eq_some_iff.mp earlier).1
      simp only [Done.debit, Done.credit, if_neg different]
      exact holds.conserved other semaphore earlier
    · rcases holds.absent _ (List.getElem?_eq_none (le_refl _)) with ⟨noDebits, noCredits⟩
      rw [noDebits, noCredits]
      simp only [Done.debit, Done.credit, if_true]
      exact ⟨by omega, small⟩
  case absent =>
    intro other nothing
    rw [List.getElem?_eq_none_iff, List.length_append, List.length_singleton] at nothing
    have different : semaphores.length ≠ other := by omega
    rcases holds.absent other (List.getElem?_eq_none (by omega)) with ⟨noDebits, noCredits⟩
    rw [debits_concat, credits_concat, noDebits, noCredits]
    exact ⟨rfl, by simp only [Done.credit, if_neg different]⟩
  case unique =>
    intro first second name one two
    rcases others.mp one with earlier | ⟨rfl, rfl⟩
    · rcases others.mp two with other | ⟨_, rfl⟩
      · exact holds.unique first second name earlier other
      · exact absurd earlier (notLinked first)
    · rcases others.mp two with other | ⟨rfl, _⟩
      · exact absurd other (notLinked second)
      · rfl

theorem Recorded.creates (holds : Recorded history semaphores) (rule : Throughout Fits history)
    (process : Process) {perms value : Nat}
    (created : create semaphores file perms value = .ok (index, after)) :
    index = semaphores.length ∧ Fits history (process, .created index file value) ∧
      Recorded (history ++ [(process, .created index file value)]) after := by
  unfold create at created
  split at created
  · cases created
  · rename_i small
    split at created
    · cases created
    · rename_i nothing
      cases created
      have notLinked : forall other, ¬ LinkedAs other file history := by
        intro other linked
        rcases (holds.linked other file).mp linked with ⟨semaphore, there, link, name⟩
        exact find_eq_none nothing there link name
      exact ⟨rfl, ⟨fun other name its => holds.not_created other name its, notLinked⟩,
        holds.concat rule process (not_lt.mp small) notLinked⟩

theorem Recorded.unlinks (holds : Recorded history semaphores) (process : Process)
    (unlinked : semUnlink semaphores file = .ok (index, after)) :
    Fits history (process, .unlinked index file) ∧
      Recorded (history ++ [(process, .unlinked index file)]) after := by
  unfold semUnlink at unlinked
  split at unlinked
  · cases unlinked
  · rename_i found
    cases unlinked
    refine ⟨(holds.linked index file).mpr (find_eq_some found), ?_⟩
    constructor
    case linked =>
      intro other name
      rw [linkedAs_unlinked, holds.linked, List.getElem?_modify]
      cases there : semaphores[other]? with
      | none =>
          constructor
          · rintro ⟨⟨_, nothing, _⟩, _⟩
            cases nothing
          · rintro ⟨_, nothing, _⟩
            cases nothing
      | some semaphore =>
          rw [Option.map_eq_map, Option.map_some]
          by_cases same : index = other
          · rw [if_pos same]
            constructor
            · exact fun both => absurd same.symm both.2
            · rintro ⟨_, itself, link, _⟩
              cases itself
              cases link
          · rw [if_neg same]
            exact and_iff_left (Ne.symm same)
    case created =>
      intro by_ other name its member
      rcases mem_concat.mp member with earlier | ⟨_, now⟩
      · rcases holds.created by_ other name its earlier with ⟨semaphore, there, named⟩
        rw [List.getElem?_modify, there]
        split
        · exact ⟨_, rfl, named⟩
        · exact ⟨_, rfl, named⟩
      · cases now
    case conserved =>
      intro other semaphore there
      rw [List.getElem?_modify] at there
      rw [debits_concat, credits_concat]
      split at there
      · rcases Option.map_eq_some_iff.mp there with ⟨former, found, rfl⟩
        exact holds.conserved other former found
      · rw [id_map'] at there
        exact holds.conserved other semaphore there
    case absent =>
      intro other nothing
      have outside : semaphores.length ≤ other := by
        rw [List.getElem?_eq_none_iff, List.length_modify] at nothing
        exact nothing
      rw [debits_concat, credits_concat]
      exact holds.absent other (List.getElem?_eq_none outside)
    case unique =>
      intro first second name one two
      exact holds.unique first second name (linkedAs_unlinked.mp one).1 (linkedAs_unlinked.mp two).1

end NamedSemaphore

end CLibrary
end Tlpi
