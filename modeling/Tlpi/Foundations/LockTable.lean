import Mathlib.Data.List.Basic
import Mathlib.Order.Lattice

namespace Tlpi
namespace Foundations

universe u v

/-!
# Tables of shared and exclusive locks on regions

A lock is held by an owner, on a region of a resource, in shared or exclusive
mode.  Two locks conflict when different owners hold them on overlapping regions
of one resource and one of them is exclusive.  A table carries the proof that no
two of its locks conflict.  Acquiring a lock is refused when it would conflict,
and otherwise replaces whatever the same owner held on the region.
-/

/-- The positions from `first` on, up to but not including `stop`; without a
`stop` the region has no end. -/
structure Region where
  first : Nat
  stop : Option Nat
deriving DecidableEq, Repr

namespace Region

/-- The position lies before the end, if there is one. -/
def Below (position : Nat) (stop : Option Nat) : Prop := stop.elim True (position < ·)

instance (position : Nat) (stop : Option Nat) : Decidable (Below position stop) :=
  match stop with
  | none => isTrue trivial
  | some limit => inferInstanceAs (Decidable (position < limit))

def Covers (region : Region) (position : Nat) : Prop :=
  region.first ≤ position ∧ Below position region.stop

/-- The later of the two first positions lies in both regions. -/
def Overlaps (left right : Region) : Prop :=
  Below (max left.first right.first) left.stop ∧ Below (max left.first right.first) right.stop

instance (left right : Region) : Decidable (Overlaps left right) :=
  inferInstanceAs (Decidable (_ ∧ _))

/-- The region of every position. -/
def whole : Region := ⟨0, none⟩

theorem Below.mono {position earlier : Nat} {stop : Option Nat} (below : Below position stop)
    (le : earlier ≤ position) : Below earlier stop := by
  cases stop with
  | none => trivial
  | some limit => exact lt_of_le_of_lt le below

theorem overlaps_iff {left right : Region} :
    left.Overlaps right <-> Exists fun position => left.Covers position ∧ right.Covers position := by
  constructor
  · rintro ⟨leftBelow, rightBelow⟩
    exact ⟨_, ⟨le_max_left _ _, leftBelow⟩, ⟨le_max_right _ _, rightBelow⟩⟩
  · rintro ⟨position, ⟨leftFirst, leftBelow⟩, ⟨rightFirst, rightBelow⟩⟩
    have le := max_le leftFirst rightFirst
    exact ⟨leftBelow.mono le, rightBelow.mono le⟩

theorem whole_overlaps_whole : whole.Overlaps whole := ⟨trivial, trivial⟩

/-- What remains of a region before the start of another. -/
def before (region cut : Region) : List Region :=
  if region.first < cut.first then
    [⟨region.first, some (region.stop.elim cut.first (min · cut.first))⟩]
  else []

/-- What remains of a region from the end of another on. -/
def after (region cut : Region) : List Region :=
  match cut.stop with
  | none => []
  | some limit =>
      if Below (max region.first limit) region.stop then [⟨max region.first limit, region.stop⟩]
      else []

/-- What remains of a region when another is cut out of it. -/
def without (region cut : Region) : List Region := region.before cut ++ region.after cut

/-- Cutting only removes positions. -/
theorem covers_of_mem_without {region cut piece : Region} (member : piece ∈ region.without cut)
    {position : Nat} (covers : piece.Covers position) : region.Covers position := by
  rcases List.mem_append.mp member with left | right
  · unfold before at left
    split at left
    · rw [List.mem_singleton] at left
      subst left
      rcases covers with ⟨first, below⟩
      refine ⟨first, ?_⟩
      cases stop : region.stop with
      | none => trivial
      | some limit =>
          rw [stop] at below
          exact lt_of_lt_of_le below (min_le_left _ _)
    · cases left
  · unfold after at right
    split at right
    · cases right
    · split at right
      · rw [List.mem_singleton] at right
        subst right
        exact ⟨le_trans (le_max_left _ _) covers.1, covers.2⟩
      · cases right

end Region

/-- A lock held by an owner on a region of a resource. -/
structure Lock (Owner : Type u) (Resource : Type v) where
  owner : Owner
  resource : Resource
  exclusive : Bool
  region : Region
deriving DecidableEq, Repr

variable {Owner : Type u} {Resource : Type v}

namespace Lock

/-- Two locks that may not be held at once. -/
def Conflicts (left right : Lock Owner Resource) : Prop :=
  left.resource = right.resource ∧ left.owner ≠ right.owner ∧
    (left.exclusive = true ∨ right.exclusive = true) ∧ left.region.Overlaps right.region

instance [DecidableEq Owner] [DecidableEq Resource] (left right : Lock Owner Resource) :
    Decidable (left.Conflicts right) :=
  inferInstanceAs (Decidable (_ ∧ _ ∧ _ ∧ _))

theorem Conflicts.symm {left right : Lock Owner Resource} (conflicts : left.Conflicts right) :
    right.Conflicts left := by
  rcases conflicts with ⟨resource, owner, exclusive, overlaps⟩
  exact ⟨resource.symm, owner.symm, exclusive.symm, ⟨max_comm left.region.first _ ▸ overlaps.2,
    max_comm left.region.first _ ▸ overlaps.1⟩⟩

/-- The lock is another one cut down to part of its region. -/
structure PieceOf (piece held : Lock Owner Resource) : Prop where
  owner : piece.owner = held.owner
  resource : piece.resource = held.resource
  exclusive : piece.exclusive = held.exclusive
  region : forall position, piece.region.Covers position -> held.region.Covers position

theorem PieceOf.refl (held : Lock Owner Resource) : PieceOf held held :=
  ⟨rfl, rfl, rfl, fun _ covers => covers⟩

/-- A piece conflicts with no more than the whole lock does. -/
theorem Conflicts.of_pieceOf {piece held other : Lock Owner Resource} (part : PieceOf piece held)
    (conflicts : piece.Conflicts other) : held.Conflicts other := by
  rcases conflicts with ⟨resource, owner, exclusive, overlaps⟩
  rcases Region.overlaps_iff.mp overlaps with ⟨position, covers, otherCovers⟩
  rw [part.resource] at resource
  rw [part.owner] at owner
  rw [part.exclusive] at exclusive
  exact ⟨resource, owner, exclusive,
    Region.overlaps_iff.mpr ⟨position, part.region position covers, otherCovers⟩⟩

end Lock

/-- A set of locks no two of which conflict. -/
structure LockTable (Owner : Type u) (Resource : Type v) where
  locks : List (Lock Owner Resource)
  compatible : forall left, left ∈ locks -> forall right, right ∈ locks -> ¬ left.Conflicts right

namespace LockTable

def empty : LockTable Owner Resource := ⟨[], by simp⟩

/-- An owner holds an exclusive lock on a whole resource. -/
def HoldsWhole (table : LockTable Owner Resource) (owner : Owner) (resource : Resource) : Prop :=
  ⟨owner, resource, true, Region.whole⟩ ∈ table.locks

/-- One owner at a time holds a resource exclusively. -/
theorem HoldsWhole.owner_unique {table : LockTable Owner Resource} {left right : Owner}
    {resource : Resource} (leftHolds : table.HoldsWhole left resource)
    (rightHolds : table.HoldsWhole right resource) : left = right := by
  by_contra different
  exact table.compatible _ leftHolds _ rightHolds
    ⟨rfl, different, Or.inl rfl, Region.whole_overlaps_whole⟩

variable [DecidableEq Owner] [DecidableEq Resource]

/-- What is left of a held lock when its owner gives up a region. -/
def carve (owner : Owner) (resource : Resource) (region : Region) (held : Lock Owner Resource) :
    List (Lock Owner Resource) :=
  if held.owner = owner ∧ held.resource = resource then
    (held.region.without region).map (fun rest => { held with region := rest })
  else [held]

theorem pieceOf_of_mem_carve {owner : Owner} {resource : Resource} {region : Region}
    {held piece : Lock Owner Resource} (member : piece ∈ carve owner resource region held) :
    piece.PieceOf held := by
  unfold carve at member
  split at member
  · rcases List.mem_map.mp member with ⟨rest, remains, rfl⟩
    exact ⟨rfl, rfl, rfl, fun _ covers => Region.covers_of_mem_without remains covers⟩
  · rw [List.mem_singleton] at member
    exact member ▸ Lock.PieceOf.refl held

/-- Give up whatever the owner holds on a region. -/
def unlock (table : LockTable Owner Resource) (owner : Owner) (resource : Resource)
    (region : Region) : LockTable Owner Resource where
  locks := table.locks.flatMap (carve owner resource region)
  compatible := by
    intro left leftMember right rightMember conflicts
    rcases List.mem_flatMap.mp leftMember with ⟨leftHeld, leftIn, leftPiece⟩
    rcases List.mem_flatMap.mp rightMember with ⟨rightHeld, rightIn, rightPiece⟩
    have widened := (conflicts.of_pieceOf (pieceOf_of_mem_carve leftPiece)).symm
    exact table.compatible _ rightIn _ leftIn (widened.of_pieceOf (pieceOf_of_mem_carve rightPiece))

/-- Acquire a lock in place of what its owner holds on the region, unless it
conflicts with a lock of another owner. -/
def acquire (table : LockTable Owner Resource) (request : Lock Owner Resource) :
    Option (LockTable Owner Resource) :=
  if free : forall held, held ∈ table.locks -> ¬ held.Conflicts request then
    some
      { locks := request :: (table.unlock request.owner request.resource request.region).locks
        compatible := by
          have clear : forall piece,
              piece ∈ (table.unlock request.owner request.resource request.region).locks ->
                ¬ piece.Conflicts request := by
            intro piece member conflicts
            rcases List.mem_flatMap.mp member with ⟨held, within, carved⟩
            exact free held within (conflicts.of_pieceOf (pieceOf_of_mem_carve carved))
          intro left leftMember right rightMember conflicts
          rcases List.mem_cons.mp leftMember with rfl | leftMember
          · rcases List.mem_cons.mp rightMember with rfl | rightMember
            · exact conflicts.2.1 rfl
            · exact clear right rightMember conflicts.symm
          · rcases List.mem_cons.mp rightMember with rfl | rightMember
            · exact clear left leftMember conflicts
            · exact (table.unlock _ _ _).compatible _ leftMember _ rightMember conflicts }
  else none

def release (table : LockTable Owner Resource) (owner : Owner) : LockTable Owner Resource where
  locks := table.locks.filter (fun held => held.owner ≠ owner)
  compatible := by
    intro left leftMember right rightMember
    exact table.compatible left (List.mem_of_mem_filter leftMember) right
      (List.mem_of_mem_filter rightMember)

variable {table next : LockTable Owner Resource} {request held : Lock Owner Resource}

theorem mem_acquire (acquired : table.acquire request = some next) : request ∈ next.locks := by
  unfold acquire at acquired
  split at acquired
  · cases acquired
    exact List.mem_cons_self
  · cases acquired

/-- A granted lock conflicts with no lock in the table. -/
theorem free_of_acquire (acquired : table.acquire request = some next) :
    forall held, held ∈ table.locks -> ¬ held.Conflicts request := by
  unfold acquire at acquired
  split at acquired
  · assumption
  · cases acquired

theorem mem_acquire_of_ne (acquired : table.acquire request = some next) (member : held ∈ table.locks)
    (different : held.owner ≠ request.owner) : held ∈ next.locks := by
  unfold acquire at acquired
  split at acquired
  · cases acquired
    refine List.mem_cons_of_mem _ (List.mem_flatMap.mpr ⟨held, member, ?_⟩)
    rw [carve, if_neg (fun same => different same.1)]
    exact List.mem_singleton_self held
  · cases acquired

/-- An owner that held nothing adds its lock to the table. -/
theorem mem_acquire_iff (acquired : table.acquire request = some next)
    (nothing : forall held, held ∈ table.locks -> held.owner ≠ request.owner) :
    held ∈ next.locks <-> held = request ∨ held ∈ table.locks := by
  constructor
  · intro member
    unfold acquire at acquired
    split at acquired
    · cases acquired
      rcases List.mem_cons.mp member with same | earlier
      · exact Or.inl same
      · rcases List.mem_flatMap.mp earlier with ⟨other, within, carved⟩
        rw [carve, if_neg (fun same => nothing other within same.1)] at carved
        exact Or.inr (List.mem_singleton.mp carved ▸ within)
    · cases acquired
  · rintro (same | member)
    · rw [same]
      exact mem_acquire acquired
    · exact mem_acquire_of_ne acquired member (nothing held member)

theorem acquire_eq_none (refused : table.acquire request = none) :
    Exists fun held => held ∈ table.locks ∧ held.Conflicts request := by
  unfold acquire at refused
  split at refused
  · cases refused
  · rename_i conflict
    push Not at conflict
    exact conflict

omit [DecidableEq Resource] in
theorem mem_release {leaving : Owner} :
    held ∈ (table.release leaving).locks <-> held ∈ table.locks ∧ held.owner ≠ leaving := by
  change held ∈ table.locks.filter _ <-> _
  rw [List.mem_filter]
  simp

theorem HoldsWhole.acquire {owner : Owner} {resource : Resource}
    (holds : table.HoldsWhole owner resource) (acquired : table.acquire request = some next)
    (different : owner ≠ request.owner) : next.HoldsWhole owner resource :=
  mem_acquire_of_ne acquired holds different

omit [DecidableEq Resource] in
theorem HoldsWhole.release {owner leaving : Owner} {resource : Resource}
    (holds : table.HoldsWhole owner resource) (different : owner ≠ leaving) :
    (table.release leaving).HoldsWhole owner resource :=
  List.mem_filter.mpr ⟨holds, by simpa using different⟩

end LockTable

end Foundations
end Tlpi
