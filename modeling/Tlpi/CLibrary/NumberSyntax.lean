import Mathlib.Data.List.TakeWhile
import Tlpi.CLibrary.Strtol

namespace Tlpi
namespace CLibrary

open Foundations

/-!
# The texts that `strtol` converts to their end

The standard describes the numbers that `strtol` reads by their form: white space, a
sign, and a subject sequence whose digits belong to the base, with a prefix in base
sixteen, or that is an integer constant if the base is zero.  Here that description is
a relation of its own, and `strtol` is shown to convert a text to its end, without a
range error, exactly if the text has that form and its value is a `long`.
-/

/-- A subject sequence of a base, with the number that it denotes. -/
inductive Subject : Nat -> List Byte -> Nat -> Prop where
  | digits {base : Nat} {text : List Byte} (given : base ≠ 0) (numeral : IsNumeral base text) :
      Subject base text (numeralValue base text)
  | hexadecimal {base : Nat} {mark : Byte} {text : List Byte} (allowed : base = 0 ∨ base = 16)
      (isMark : mark = 120 ∨ mark = 88) (numeral : IsNumeral 16 text) :
      Subject base (48 :: mark :: text) (numeralValue 16 text)
  | octal {text : List Byte} (numeral : IsNumeral 8 (48 :: text)) :
      Subject 0 (48 :: text) (numeralValue 8 (48 :: text))
  | decimal {first : Byte} {rest : List Byte} (notZero : first ≠ 48)
      (numeral : IsNumeral 10 (first :: rest)) :
      Subject 0 (first :: rest) (numeralValue 10 (first :: rest))

/-- A text that is nothing but a number: white space, a sign, and a subject sequence. -/
inductive NumberText (base : Nat) : List Byte -> Int -> Prop where
  | unsigned {blanks subject : List Byte} {magnitude : Nat}
      (blank : forall byte, byte ∈ blanks -> isSpace byte = true)
      (denotes : Subject base subject magnitude) : NumberText base (blanks ++ subject) magnitude
  | plus {blanks subject : List Byte} {magnitude : Nat}
      (blank : forall byte, byte ∈ blanks -> isSpace byte = true)
      (denotes : Subject base subject magnitude) :
      NumberText base (blanks ++ 43 :: subject) magnitude
  | minus {blanks subject : List Byte} {magnitude : Nat}
      (blank : forall byte, byte ∈ blanks -> isSpace byte = true)
      (denotes : Subject base subject magnitude) :
      NumberText base (blanks ++ 45 :: subject) (-magnitude)

/-! ## Subject sequences -/

theorem digitValue_of_isSpace {byte : Byte} (space : isSpace byte = true) : digitValue byte = 36 := by
  have low : byte.toNat < 33 := by
    unfold isSpace at space
    rcases Bool.or_eq_true_iff.mp space with blank | control
    · rw [beq_iff_eq.mp blank]
      decide
    · have atMost := of_decide_eq_true (Bool.and_eq_true_iff.mp control).2
      rw [UInt8.le_iff_toNat_le] at atMost
      simp only [UInt8.reduceToNat] at atMost
      omega
  simp only [digitValue, UInt8.le_iff_toNat_le, UInt8.reduceToNat]
  rw [if_neg (by omega), if_neg (by omega), if_neg (by omega)]

theorem isDigit_mono {base wider : Nat} (le : base ≤ wider) {byte : Byte}
    (digit : isDigit base byte = true) : isDigit wider byte = true := by
  unfold isDigit at digit ⊢
  have below := of_decide_eq_true digit
  exact decide_eq_true (by omega)

theorem head_of_isNumeral {base : Nat} {text : List Byte} (numeral : IsNumeral base text) :
    Exists fun first => Exists fun rest => text = first :: rest ∧ isDigit base first = true := by
  cases text with
  | nil => exact absurd rfl numeral.1
  | cons first rest => exact ⟨first, rest, rfl, numeral.2 first List.mem_cons_self⟩

/-- What `strtol` takes the digits from: the text behind a hexadecimal prefix, or the
whole text in the base that is given or that the first digit selects. -/
theorem strtolBase_cases (base : Nat) (text : List Byte) :
    (Exists fun mark => Exists fun digit => Exists fun rest =>
      text = 48 :: mark :: digit :: rest ∧ (base = 0 ∨ base = 16) ∧ (mark = 120 ∨ mark = 88) ∧
        strtolBase base text = (16, digit :: rest)) ∨
    (base = 0 ∧ (Exists fun rest => text = 48 :: rest) ∧ strtolBase base text = (8, text)) ∨
    (base = 0 ∧ (forall rest, text ≠ 48 :: rest) ∧ strtolBase base text = (10, text)) ∨
    (base ≠ 0 ∧ strtolBase base text = (base, text)) := by
  unfold strtolBase
  split
  · rename_i mark digit rest
    split
    · rename_i isPrefixed
      exact Or.inl ⟨mark, digit, rest, rfl, isPrefixed.1, isPrefixed.2.1, rfl⟩
    · split
      · exact Or.inr (Or.inl ⟨‹_›, ⟨_, rfl⟩, rfl⟩)
      · exact Or.inr (Or.inr (Or.inr ⟨‹_›, rfl⟩))
  · split
    · exact Or.inr (Or.inl ⟨‹_›, ⟨_, rfl⟩, rfl⟩)
    · exact Or.inr (Or.inr (Or.inr ⟨‹_›, rfl⟩))
  · rename_i notZero
    split
    · exact Or.inr (Or.inr (Or.inl ⟨‹_›, fun rest same => notZero rest same, rfl⟩))
    · exact Or.inr (Or.inr (Or.inr ⟨‹_›, rfl⟩))

theorem not_mark_of_isDigit {mark : Byte} (digit : isDigit 16 mark = true)
    (isMark : mark = 120 ∨ mark = 88) : False := by
  rcases isMark with small | capital
  · rw [small] at digit
    exact absurd digit (by decide)
  · rw [capital] at digit
    exact absurd digit (by decide)

/-- A text is a subject sequence exactly if `strtol` takes its digits from a numeral. -/
theorem subject_iff {base : Nat} {text : List Byte} {magnitude : Nat} :
    Subject base text magnitude <->
      IsNumeral (strtolBase base text).1 (strtolBase base text).2 ∧
        magnitude = numeralValue (strtolBase base text).1 (strtolBase base text).2 := by
  have cases := strtolBase_cases base text
  constructor
  · intro subject
    cases subject with
    | digits given numeral =>
        rcases cases with ⟨mark, digit, rest, same, sixteen, isMark, _⟩ | ⟨zero, _⟩ | ⟨zero, _⟩ | ⟨_, taken⟩
        · rcases sixteen with zero | sixteen
          · exact absurd zero given
          · rw [same, sixteen] at numeral
            have isDigit := numeral.2 mark (List.mem_cons_of_mem _ List.mem_cons_self)
            exact absurd isMark (not_mark_of_isDigit isDigit)
        · exact absurd zero given
        · exact absurd zero given
        · rw [taken]
          exact ⟨numeral, rfl⟩
    | hexadecimal allowed isMark numeral =>
        rename_i mark digits
        rcases head_of_isNumeral numeral with ⟨first, rest, same, digit⟩
        subst same
        have taken : strtolBase base (48 :: mark :: first :: rest) = (16, first :: rest) := by
          rw [strtolBase, if_pos ⟨allowed, isMark, digit⟩]
        rw [taken]
        exact ⟨numeral, rfl⟩
    | octal numeral =>
        rcases cases with ⟨mark, digit, rest, same, _, isMark, _⟩ | ⟨_, _, taken⟩ | ⟨_, other, _⟩ | ⟨given, _⟩
        · rw [same] at numeral
          have isDigit := numeral.2 mark (List.mem_cons_of_mem _ List.mem_cons_self)
          exact absurd isMark (not_mark_of_isDigit (isDigit_mono (by decide) isDigit))
        · rw [taken]
          exact ⟨numeral, rfl⟩
        · exact absurd rfl (other _)
        · exact absurd rfl given
    | decimal notZero numeral =>
        rcases cases with ⟨mark, digit, rest, same, _⟩ | ⟨_, ⟨rest, same⟩, _⟩ | ⟨_, _, taken⟩ | ⟨given, _⟩
        · exact absurd (List.cons.inj same).1 notZero
        · exact absurd (List.cons.inj same).1 notZero
        · rw [taken]
          exact ⟨numeral, rfl⟩
        · exact absurd rfl given
  · rintro ⟨numeral, denotes⟩
    rw [denotes]
    rcases cases with ⟨mark, digit, rest, same, allowed, isMark, taken⟩ | ⟨zero, ⟨rest, same⟩, taken⟩ |
      ⟨zero, other, taken⟩ | ⟨given, taken⟩
    · rw [taken] at numeral ⊢
      rw [same]
      exact .hexadecimal allowed isMark numeral
    · rw [taken] at numeral ⊢
      subst zero same
      exact .octal numeral
    · rw [taken] at numeral ⊢
      rcases head_of_isNumeral numeral with ⟨first, rest, same, _⟩
      change text = first :: rest at same
      subst zero same
      exact .decimal (fun isZero => other rest (by rw [isZero])) numeral
    · rw [taken] at numeral ⊢
      exact .digits given numeral

theorem not_blank_of_subject {base : Nat} (small : base ≤ 36) {text : List Byte} {magnitude : Nat}
    (subject : Subject base text magnitude) :
    Exists fun first => Exists fun rest => text = first :: rest ∧ isSpace first = false ∧
      first ≠ 45 ∧ first ≠ 43 := by
  have digit : forall {wider : Nat} {byte : Byte}, wider ≤ 36 -> isDigit wider byte = true ->
      isSpace byte = false ∧ byte ≠ 45 ∧ byte ≠ 43 := by
    intro wider byte atMost isDigit
    have below := of_decide_eq_true isDigit
    refine ⟨?_, ?_, ?_⟩
    · by_contra space
      rw [digitValue_of_isSpace (Bool.not_eq_false _ ▸ space)] at below
      omega
    · intro same
      rw [same] at below
      have value : digitValue 45 = 36 := by decide
      omega
    · intro same
      rw [same] at below
      have value : digitValue 43 = 36 := by decide
      omega
  cases subject with
  | digits given numeral =>
      rcases head_of_isNumeral numeral with ⟨first, rest, same, isDigit⟩
      exact ⟨first, rest, same, digit small isDigit⟩
  | hexadecimal allowed isMark numeral => exact ⟨48, _, rfl, by decide⟩
  | octal numeral => exact ⟨48, _, rfl, by decide⟩
  | decimal notZero numeral =>
      exact ⟨_, _, rfl, digit (by decide) (numeral.2 _ List.mem_cons_self)⟩

/-! ## Numbers -/

theorem strtolSign_cases (text : List Byte) :
    (Exists fun rest => text = 45 :: rest ∧ strtolSign text = (true, rest)) ∨
      (Exists fun rest => text = 43 :: rest ∧ strtolSign text = (false, rest)) ∨
      strtolSign text = (false, text) := by
  unfold strtolSign
  split
  · exact Or.inl ⟨_, rfl, rfl⟩
  · exact Or.inr (Or.inl ⟨_, rfl, rfl⟩)
  · exact Or.inr (Or.inr rfl)

/-- What a conversion to the end of a text found: a sign and a subject sequence behind
the white space, with a value in the range of `long`. -/
theorem subject_of_strtol {base : Nat} {text : List Byte} {value : Int} (nonempty : text ≠ [])
    (converted : strtol text base = ⟨value, [], false⟩) :
    Exists fun magnitude =>
      Subject base (strtolSign (text.dropWhile isSpace)).2 magnitude ∧
        value = (if (strtolSign (text.dropWhile isSpace)).1 then -(magnitude : Int) else magnitude) ∧
        LONG_MIN ≤ value ∧ value ≤ LONG_MAX := by
  unfold strtol at converted
  generalize strtolSign (text.dropWhile isSpace) = signed at converted ⊢
  dsimp only at converted
  generalize digitsAre : (strtolBase base signed.2).2.takeWhile (isDigit (strtolBase base signed.2).1) =
    digits at converted
  generalize valueIs : (if signed.1 = true then -(numeralValue (strtolBase base signed.2).1 digits : Int)
    else (numeralValue (strtolBase base signed.2).1 digits : Int)) = number at converted
  split at converted
  · cases converted
    exact absurd rfl nonempty
  · rename_i someDigit
    split at converted
    · cases (StrtolResult.mk.inj converted).2.2
    · rename_i high
      split at converted
      · cases (StrtolResult.mk.inj converted).2.2
      · rename_i low
        rcases StrtolResult.mk.inj converted with ⟨same, ended, _⟩
        have onlyDigits := List.dropWhile_eq_nil_iff.mp ended
        rw [List.takeWhile_eq_self_iff.mpr onlyDigits] at digitsAre
        have numeral : IsNumeral (strtolBase base signed.2).1 (strtolBase base signed.2).2 :=
          ⟨digitsAre ▸ someDigit, onlyDigits⟩
        rw [← digitsAre] at valueIs
        rw [← same]
        exact ⟨_, subject_iff.mpr ⟨numeral, rfl⟩, valueIs.symm, not_lt.mp low, not_lt.mp high⟩

/-- What `strtol` makes of white space, a sign and a subject sequence. -/
theorem strtol_eq {base : Nat} {blanks text subject : List Byte} {magnitude : Nat} {negative : Bool}
    (blank : forall byte, byte ∈ blanks -> isSpace byte = true)
    (notBlank : forall first rest, text = first :: rest -> isSpace first = false)
    (signed : strtolSign text = (negative, subject)) (denotes : Subject base subject magnitude)
    (low : LONG_MIN ≤ if negative then -(magnitude : Int) else magnitude)
    (high : (if negative then -(magnitude : Int) else magnitude) ≤ LONG_MAX) :
    strtol (blanks ++ text) base = ⟨if negative then -(magnitude : Int) else magnitude, [], false⟩ := by
  rcases subject_iff.mp denotes with ⟨numeral, value⟩
  have skipped : (blanks ++ text).dropWhile isSpace = text := by
    rw [List.dropWhile_append_of_pos blank]
    cases text with
    | nil => rfl
    | cons first rest =>
        rw [List.dropWhile_cons, notBlank first rest rfl]
        rfl
  have all : (strtolBase base subject).2.takeWhile (isDigit (strtolBase base subject).1) =
      (strtolBase base subject).2 := List.takeWhile_eq_self_iff.mpr numeral.2
  have none : (strtolBase base subject).2.dropWhile (isDigit (strtolBase base subject).1) = [] :=
    List.dropWhile_eq_nil_iff.mpr numeral.2
  unfold strtol
  rw [skipped, signed]
  simp only [all, none, ← value]
  rw [if_neg numeral.1, if_neg (not_lt.mpr high), if_neg (not_lt.mpr low)]

/-- `strtol` converts a text to its end, without a range error, exactly if the text is
nothing but a number and the number is a `long`. -/
theorem strtol_eq_iff {base : Nat} (small : base ≤ 36) {text : List Byte} {value : Int} :
    (text ≠ [] ∧ strtol text base = ⟨value, [], false⟩) <->
      NumberText base text value ∧ LONG_MIN ≤ value ∧ value ≤ LONG_MAX := by
  constructor
  · rintro ⟨nonempty, converted⟩
    rcases subject_of_strtol nonempty converted with ⟨magnitude, denotes, same, low, high⟩
    have blank : forall byte, byte ∈ text.takeWhile isSpace -> isSpace byte = true :=
      fun byte member => List.mem_takeWhile_imp member
    have whole : text.takeWhile isSpace ++ text.dropWhile isSpace = text := List.takeWhile_append_dropWhile
    refine ⟨?_, low, high⟩
    rw [← whole, same]
    rcases strtolSign_cases (text.dropWhile isSpace) with ⟨rest, minus, signed⟩ | ⟨rest, plus, signed⟩ | signed
    · rw [signed] at denotes ⊢
      rw [minus]
      exact .minus blank denotes
    · rw [signed] at denotes ⊢
      rw [plus]
      exact .plus blank denotes
    · rw [signed] at denotes ⊢
      exact .unsigned blank denotes
  · rintro ⟨number, low, high⟩
    cases number with
    | unsigned blank denotes =>
        rcases not_blank_of_subject small denotes with ⟨first, rest, same, notBlank, notMinus, notPlus⟩
        subst same
        refine ⟨List.append_ne_nil_of_right_ne_nil _ (List.cons_ne_nil _ _), ?_⟩
        refine strtol_eq blank ?_ (strtolSign_of_unsigned notMinus notPlus) denotes low high
        intro head tail same
        rw [← (List.cons.inj same).1]
        exact notBlank
    | plus blank denotes =>
        refine ⟨List.append_ne_nil_of_right_ne_nil _ (List.cons_ne_nil _ _), ?_⟩
        refine strtol_eq blank ?_ rfl denotes low high
        intro head tail same
        rw [← (List.cons.inj same).1]
        rfl
    | minus blank denotes =>
        refine ⟨List.append_ne_nil_of_right_ne_nil _ (List.cons_ne_nil _ _), ?_⟩
        refine strtol_eq blank ?_ rfl denotes low high
        intro head tail same
        rw [← (List.cons.inj same).1]
        rfl

end CLibrary
end Tlpi
