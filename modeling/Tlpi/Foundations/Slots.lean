import Mathlib.Data.List.Basic

namespace Tlpi
namespace Foundations

universe u v

/-!
# A table that fills its lowest free place

A table of slots hands out the lowest place that is free and takes a place back
when its holder is released.  Two tables are compared by what they hold at each
place, so that places at the end which are free again do not count.

A caller that acquires a place, works on its holder, and releases it again has
not changed the table.  A caller that keeps the place has added exactly one.
Both facts are stated relative to the table that the caller began with.
-/

/-- The holders of the places of a table, the lowest place first. -/
structure Slots (Holder : Type u) where
  places : List (Option Holder)
deriving DecidableEq, Repr

namespace Slots

variable {Holder : Type u}

/-- The holder of a place, if the place is taken. -/
def get (slots : Slots Holder) (place : Nat) : Option Holder := (slots.places[place]?).join

/-- The first free place of a list of places. -/
def firstFree : List (Option Holder) -> Nat
  | [] => 0
  | none :: _ => 0
  | some _ :: rest => firstFree rest + 1

/-- Give the first free place of a list of places to a holder. -/
def fillFirst (holder : Holder) : List (Option Holder) -> List (Option Holder)
  | [] => [some holder]
  | none :: rest => some holder :: rest
  | some other :: rest => some other :: fillFirst holder rest

def lowestFree (slots : Slots Holder) : Nat := firstFree slots.places

/-- Give the lowest free place to a holder. -/
def acquire (slots : Slots Holder) (holder : Holder) : Slots Holder :=
  ⟨fillFirst holder slots.places⟩

/-- Take a place back. -/
def release (slots : Slots Holder) (place : Nat) : Slots Holder :=
  ⟨slots.places.set place none⟩

/-- Change the holder of a place, if the place is taken. -/
def modify (slots : Slots Holder) (place : Nat) (change : Holder -> Holder) : Slots Holder :=
  ⟨slots.places.modify place (Option.map change)⟩

/-- Give a place to a holder, whether it was free or not. -/
def put (slots : Slots Holder) (place : Nat) (holder : Holder) : Slots Holder :=
  ⟨(slots.places ++ List.replicate (place + 1 - slots.places.length) none).set place (some holder)⟩

/-- Give a place to the holder of another one, if that is taken. -/
def copy (slots : Slots Holder) (source target : Nat) : Slots Holder :=
  match slots.get source with
  | some holder => slots.put target holder
  | none => slots

/-- The table with every holder taken for another. -/
def map {Other : Type v} (change : Holder -> Other) (slots : Slots Holder) : Slots Other :=
  ⟨slots.places.map (Option.map change)⟩

/-- Take back the places below a limit, one after the other. -/
def releaseBelow (slots : Slots Holder) : Nat -> Slots Holder
  | 0 => slots
  | limit + 1 => (releaseBelow slots limit).release limit

theorem mem_places_of_get {slots : Slots Holder} {place : Nat} {holder : Holder}
    (taken : slots.get place = some holder) : some holder ∈ slots.places :=
  List.mem_of_getElem? (Option.join_eq_some_iff.mp taken)

theorem lt_length_of_get {slots : Slots Holder} {place : Nat} {holder : Holder}
    (taken : slots.get place = some holder) : place < slots.places.length :=
  (List.getElem?_eq_some_iff.mp (Option.join_eq_some_iff.mp taken)).1

theorem get_lowestFree (slots : Slots Holder) : slots.get slots.lowestFree = none := by
  rcases slots with ⟨places⟩
  unfold get lowestFree
  induction places with
  | nil => rfl
  | cons entry rest inductionHypothesis =>
      cases entry with
      | none => rfl
      | some holder => exact inductionHypothesis

theorem lowestFree_le (slots : Slots Holder) {place : Nat} (free : slots.get place = none) :
    slots.lowestFree ≤ place := by
  rcases slots with ⟨places⟩
  unfold get at free
  unfold lowestFree
  induction places generalizing place with
  | nil => exact Nat.zero_le place
  | cons entry rest inductionHypothesis =>
      cases entry with
      | none => exact Nat.zero_le place
      | some holder =>
          cases place with
          | zero => cases free
          | succ place => exact Nat.succ_le_succ (inductionHypothesis free)

theorem get_acquire (slots : Slots Holder) (holder : Holder) (place : Nat) :
    (slots.acquire holder).get place =
      if place = slots.lowestFree then some holder else slots.get place := by
  rcases slots with ⟨places⟩
  unfold get acquire lowestFree
  induction places generalizing place with
  | nil => cases place <;> simp [fillFirst, firstFree]
  | cons entry rest inductionHypothesis =>
      cases entry with
      | none => cases place <;> simp [fillFirst, firstFree]
      | some other =>
          cases place with
          | zero => simp [fillFirst, firstFree]
          | succ place => simpa [fillFirst, firstFree] using inductionHypothesis place

theorem get_release (slots : Slots Holder) (released place : Nat) :
    (slots.release released).get place = if place = released then none else slots.get place := by
  unfold get release
  rw [List.getElem?_set]
  by_cases same : released = place
  · rw [if_pos same, if_pos same.symm]
    split <;> rfl
  · rw [if_neg same, if_neg (Ne.symm same)]

theorem get_modify (slots : Slots Holder) (modified place : Nat) (change : Holder -> Holder) :
    (slots.modify modified change).get place =
      if place = modified then (slots.get place).map change else slots.get place := by
  unfold get modify
  rw [List.getElem?_modify]
  by_cases same : modified = place
  · subst same
    cases slots.places[modified]? <;> simp
  · rw [if_neg (Ne.symm same)]
    cases slots.places[place]? <;> simp [same]

theorem get_put (slots : Slots Holder) (filled place : Nat) (holder : Holder) :
    (slots.put filled holder).get place =
      if place = filled then some holder else slots.get place := by
  unfold get put
  rw [List.getElem?_set]
  by_cases same : filled = place
  · subst same
    have room : filled < (slots.places ++
        List.replicate (filled + 1 - slots.places.length) none).length := by
      rw [List.length_append, List.length_replicate]
      omega
    rw [if_pos rfl, if_pos rfl, if_pos room]
    rfl
  · rw [if_neg same, if_neg (Ne.symm same), List.getElem?_append]
    split
    · rfl
    · rename_i beyond
      rw [List.getElem?_eq_none (Nat.le_of_not_lt beyond), List.getElem?_replicate]
      split <;> rfl

theorem get_map {Other : Type v} (change : Holder -> Other) (slots : Slots Holder) (place : Nat) :
    (slots.map change).get place = (slots.get place).map change := by
  unfold get map
  rw [List.getElem?_map]
  cases slots.places[place]? <;> rfl

/-- A copy leaves its holder at the new place as well. -/
theorem get_copy {slots : Slots Holder} {source : Nat} {holder : Holder}
    (held : slots.get source = some holder) (target place : Nat) :
    (slots.copy source target).get place =
      if place = target then some holder else slots.get place := by
  unfold copy
  rw [held]
  exact get_put slots target place holder

theorem get_releaseBelow (slots : Slots Holder) (limit place : Nat) :
    (slots.releaseBelow limit).get place = if place < limit then none else slots.get place := by
  induction limit with
  | zero =>
      rw [if_neg (Nat.not_lt_zero place)]
      rfl
  | succ limit inductionHypothesis =>
      rw [releaseBelow, get_release, inductionHypothesis]
      split_ifs <;> first | rfl | omega

/-- The lowest place is free once it was taken back. -/
theorem lowestFree_release_zero (slots : Slots Holder) : (slots.release 0).lowestFree = 0 := by
  rcases slots with ⟨places⟩
  cases places with
  | nil => rfl
  | cons entry rest => rfl

theorem modify_modify (slots : Slots Holder) (place : Nat) (first second : Holder -> Holder) :
    (slots.modify place first).modify place second = slots.modify place (second ∘ first) := by
  unfold modify
  congr 1
  apply List.ext_getElem?
  intro index
  simp only [List.getElem?_modify, Option.map_eq_map, Option.map_map]
  congr 1
  funext entry
  by_cases here : place = index <;> simp [here]

/-- A change of a holder is lost when its place is taken back. -/
theorem release_modify (slots : Slots Holder) (place : Nat) (change : Holder -> Holder) :
    (slots.modify place change).release place = slots.release place := by
  unfold modify release
  congr 1
  apply List.ext_getElem?
  intro index
  simp only [List.getElem?_set, List.length_modify, List.getElem?_modify]
  by_cases here : place = index <;> simp [here]

/-- Two tables that hold the same at every place. -/
def Same (before after : Slots Holder) : Prop := forall place, after.get place = before.get place

/-- The second table holds what the first one does and one holder more, at a
place that was free. -/
structure Added (before after : Slots Holder) (place : Nat) (holder : Holder) : Prop where
  free : before.get place = none
  held : after.get place = some holder
  others : forall other, other ≠ place -> after.get other = before.get other

theorem Same.refl (slots : Slots Holder) : Same slots slots := fun _ => rfl

theorem Same.acquire {before after : Slots Holder} (same : Same before after) (holder : Holder) :
    Added before (after.acquire holder) after.lowestFree holder where
  free := (same _).symm.trans after.get_lowestFree
  held := by rw [get_acquire, if_pos rfl]
  others other different := by rw [get_acquire, if_neg different, same other]

variable {before after : Slots Holder} {place : Nat} {holder : Holder}

theorem Added.release (added : Added before after place holder) :
    Same before (after.release place) := by
  intro other
  rw [get_release]
  by_cases released : other = place
  · rw [if_pos released, released, added.free]
  · rw [if_neg released, added.others other released]

/-- Working on the added holder leaves the others alone. -/
theorem Added.modify (added : Added before after place holder) (change : Holder -> Holder) :
    Added before (after.modify place change) place (change holder) where
  free := added.free
  held := by rw [get_modify, if_pos rfl, added.held]; rfl
  others other different := by rw [get_modify, if_neg different, added.others other different]

theorem Added.not_same (added : Added before after place holder) : ¬ Same before after := by
  intro same
  have equal : some holder = none := by
    rw [← added.held, same place, added.free]
  cases equal

end Slots

end Foundations
end Tlpi
