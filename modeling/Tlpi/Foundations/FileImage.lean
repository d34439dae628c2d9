import Mathlib.Data.List.Basic
import Mathlib.Tactic.SplitIfs

namespace Tlpi
namespace Foundations

universe u

/-!
# Sequences that are written to at any position

A file is a sequence of items.  Items that are written at a position take the place of
those that are there, and a gap between the end of the sequence and the position is
filled.  Nothing is written when there are no items, so the gap is not filled then
either.

An image describes the same thing without a list: it has a size and an item for every
position, which is the filler beyond the size.  Writing to an image does not mention gaps.
-/

variable {Item : Type u} {fill : Item}

/-- Write items at a position of a sequence. -/
def overwrite (fill : Item) (contents : List Item) (offset : Nat) (items : List Item) :
    List Item :=
  if items = [] then contents
  else
    contents.take offset ++ List.replicate (offset - contents.length) fill ++ items ++
      contents.drop (offset + items.length)

/-- The size of a file, and its items. -/
@[ext] structure Image (fill : Item) where
  size : Nat
  item : Nat -> Item
  blank : forall position, size ≤ position -> item position = fill

namespace Image

def ofList (fill : Item) (contents : List Item) : Image fill where
  size := contents.length
  item position := contents.getD position fill
  blank position beyond := by
    rw [List.getD_eq_getElem?_getD, List.getElem?_eq_none beyond, Option.getD_none]

/-- Write items at a position.  The file grows if they reach beyond its end. -/
def write (image : Image fill) (offset : Nat) (items : List Item) : Image fill where
  size := if items = [] then image.size else max image.size (offset + items.length)
  item position :=
    if offset ≤ position ∧ position < offset + items.length then
      items.getD (position - offset) fill
    else image.item position
  blank := by
    intro position beyond
    split
    · next inside =>
        have some : items ≠ [] := by
          rintro rfl
          rw [List.length_nil] at inside
          omega
        rw [if_neg some] at beyond
        omega
    · apply image.blank
      split at beyond
      · exact beyond
      · omega

/-- The items from one position up to another or to the end of the file. -/
def between (image : Image fill) (first stop : Nat) : List Item :=
  (List.range' first (min stop image.size - first)).map image.item

theorem length_between (image : Image fill) (first stop : Nat) :
    (image.between first stop).length = min stop image.size - first := by
  rw [between, List.length_map, List.length_range']

/-- Reading a number of items of a sequence takes them from its image. -/
theorem between_ofList (contents : List Item) (first count : Nat) :
    (ofList fill contents).between first (first + count) = (contents.drop first).take count := by
  apply List.ext_getElem?
  intro index
  have size : (ofList fill contents).size = contents.length := rfl
  rw [between, size, List.getElem?_map, List.getElem?_take, List.getElem?_drop]
  by_cases inside : index < min (first + count) contents.length - first
  · have below : index < count := by omega
    have present : first + index < contents.length := by omega
    rw [List.getElem?_range' inside, if_pos below, List.getElem?_eq_getElem present, Nat.one_mul]
    simp only [ofList, Option.map_some, List.getD_eq_getElem?_getD,
      List.getElem?_eq_getElem present, Option.getD_some]
  · have absent : (List.range' first (min (first + count) contents.length - first))[index]? = none := by
      rw [List.getElem?_eq_none_iff, List.length_range']
      exact Nat.le_of_not_lt inside
    rw [absent]
    split
    · rw [List.getElem?_eq_none (by omega)]
      rfl
    · rfl

end Image

theorem overwrite_end (fill : Item) (contents items : List Item) :
    overwrite fill contents contents.length items = contents ++ items := by
  unfold overwrite
  split
  · next empty => rw [empty, List.append_nil]
  · rw [List.take_length, Nat.sub_self, List.replicate_zero, List.append_nil,
      List.drop_eq_nil_of_le (Nat.le_add_right _ _), List.append_nil]

theorem length_overwrite (fill : Item) (contents : List Item) (offset : Nat) (items : List Item) :
    (overwrite fill contents offset items).length =
      if items = [] then contents.length else max contents.length (offset + items.length) := by
  unfold overwrite
  split
  · rfl
  · simp only [List.length_append, List.length_take, List.length_replicate, List.length_drop]
    omega

/-- In front of the write is what was there, and the filler of the gap. -/
theorem getD_front (contents : List Item) {offset position : Nat} (before : position < offset) :
    (contents.take offset ++ List.replicate (offset - contents.length) fill)[position]?.getD fill =
      contents[position]?.getD fill := by
  rw [List.getElem?_append, List.length_take]
  by_cases present : position < contents.length
  · rw [if_pos (by omega), List.getElem?_take, if_pos before]
  · rw [if_neg (by omega), List.getElem?_replicate, List.getElem?_eq_none (Nat.le_of_not_lt present)]
    split <;> rfl

/-- What is at a position after the write: the new item, the filler of the gap, or what
was there. -/
theorem getD_overwrite (fill : Item) (contents : List Item) (offset : Nat) (items : List Item)
    (position : Nat) :
    (overwrite fill contents offset items).getD position fill =
      if offset ≤ position ∧ position < offset + items.length then
        items.getD (position - offset) fill
      else contents.getD position fill := by
  unfold overwrite
  split
  · next empty =>
      rw [empty, List.length_nil, if_neg (by omega)]
  · have front : (contents.take offset ++ List.replicate (offset - contents.length) fill).length =
        offset := by
      rw [List.length_append, List.length_take, List.length_replicate]
      omega
    simp only [List.getD_eq_getElem?_getD]
    rw [List.append_assoc, List.getElem?_append, front]
    by_cases before : position < offset
    · rw [if_pos before, if_neg (by omega)]
      exact getD_front contents before
    · rw [if_neg before, List.getElem?_append]
      by_cases inside : position - offset < items.length
      · rw [if_pos inside, if_pos (by omega)]
      · rw [if_neg inside, if_neg (by omega), List.getElem?_drop]
        congr 2
        omega

/-- The image of a sequence follows its writes. -/
theorem Image.ofList_overwrite (contents : List Item) (offset : Nat) (items : List Item) :
    Image.ofList fill (overwrite fill contents offset items) =
      (Image.ofList fill contents).write offset items := by
  ext1
  · exact length_overwrite fill contents offset items
  · funext position
    exact getD_overwrite fill contents offset items position

end Foundations
end Tlpi
