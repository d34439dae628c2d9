import Mathlib.Data.Nat.Prime.Basic
import Tlpi.Lib.GetNumGrammar
import Tlpi.Lib.ProgramEnd

namespace Tlpi
namespace IoBuffering

open CLibrary Foundations Lib

/-!
# The buffer of `direct_read`

`direct_read` wants a buffer at an odd multiple of an alignment.  It asks for a block
whose address is a multiple of twice the alignment and moves into it by the alignment.
Both sums and the product are taken modulo the size of the address space.
-/

/-- Unsigned arithmetic of 64 bits. -/
def wrap (value : Nat) : Nat := value % 18446744073709551616

/-- A block of memory for an alignment and a size, as `memalign` returns it.  For an
alignment of zero its address may be any. -/
structure Block (alignment size : Nat) where
  address : Nat
  room : Nat
  aligned : alignment ≠ 0 -> alignment ∣ address
  notNull : address ≠ 0
  enough : size ≤ room
  within : address + room ≤ 18446744073709551616

structure Arguments where
  file : List Byte
  length : Int
  offset : Int
  alignment : Int
deriving DecidableEq, Repr

/-- An argument that may be left out. -/
def optionalLong (arg : Option (List Byte)) (name : String) (default : Int) :
    Except (List Byte) Int :=
  match arg with
  | none => .ok default
  | some text => getLong (some text) GN_ANY_BASE (some name)

/-- The part of `main` in front of the `open`. -/
def readArguments (argv : List (List Byte)) : Except ProgramEnd Arguments :=
  let usage (program : List Byte) : Except ProgramEnd Arguments :=
    .error (usageErr (program ++ ascii " file length [offset [alignment]]"))
  match argv with
  | program :: file :: lengthArg :: others =>
      if file = ascii "--help" then usage program
      else
        match getLong (some lengthArg) GN_ANY_BASE (some "length") with
        | .error diagnostic => .error (.badArguments diagnostic)
        | .ok length =>
            match optionalLong others[0]? "offset" 0 with
            | .error diagnostic => .error (.badArguments diagnostic)
            | .ok offset =>
                match optionalLong others[1]? "alignment" 4096 with
                | .error diagnostic => .error (.badArguments diagnostic)
                | .ok alignment => .ok ⟨file, length, offset, alignment⟩
  | program :: _ => usage program
  | [] => usage []

/-- The answers to the calls. -/
structure DirectReadAnswers where
  openFile : Option Errno
  memalign : forall alignment size : Nat, Option (Block alignment size)
  lseek : Option Errno
  read : Except Errno Nat

/-- A call of `read`: the buffer, and the block that it should be in. -/
structure ReadCall where
  buf : Nat
  length : Nat
  address : Nat
  room : Nat
deriving DecidableEq, Repr

structure Outcome where
  readCall : Option ReadCall
  printed : List (List Byte)
  ended : ProgramEnd
deriving DecidableEq, Repr

/-- The part of `main` from the `memalign` on. -/
def readDirect (dumpcore : Option String) (answers : DirectReadAnswers) (arguments : Arguments) :
    Outcome :=
  let length := toSizeT arguments.length
  let alignment := toSizeT arguments.alignment
  match answers.memalign (wrap (alignment * 2)) (wrap (length + alignment)) with
  | none => ⟨none, [], .failed (errExit dumpcore .ENOMEM "memalign")⟩
  | some block =>
      let buf := wrap (block.address + alignment)
      let sought := if arguments.offset < 0 then some .EINVAL else answers.lseek
      match sought with
      | some errno => ⟨none, [], .failed (errExit dumpcore errno "lseek")⟩
      | none =>
          let call := some ⟨buf, length, block.address, block.room⟩
          match answers.read with
          | .error errno => ⟨call, [], .failed (errExit dumpcore errno "read")⟩
          | .ok numRead =>
              ⟨call, [ascii "Read " ++ renderNat numRead ++ ascii " bytes"], .success⟩

def directRead (dumpcore : Option String) (answers : DirectReadAnswers)
    (argv : List (List Byte)) : Outcome :=
  match readArguments argv with
  | .error programEnd => ⟨none, [], programEnd⟩
  | .ok arguments =>
      match answers.openFile with
      | some errno => ⟨none, [], .failed (errExit dumpcore errno "open")⟩
      | none => readDirect dumpcore answers arguments

/-! ## What a sound buffer is -/

/-- The buffer is at an odd multiple of the alignment, and all of it is in the block. -/
structure SoundCall (alignment : Nat) (call : ReadCall) : Prop where
  odd : Exists fun k => call.buf = (2 * k + 1) * alignment
  low : call.address ≤ call.buf
  high : call.buf + call.length ≤ call.address + call.room

/-- Whatever the answers to its calls, a run with these arguments reads into a sound
buffer, if it reads at all. -/
def BufferSound (dumpcore : Option String) (argv : List (List Byte)) (alignment : Nat) : Prop :=
  forall (answers : DirectReadAnswers) (call : ReadCall),
    (directRead dumpcore answers argv).readCall = some call -> alignment ≠ 0 ->
      SoundCall alignment call

/-- No block exists for the alignment and the size: the lowest address that it may have is
too high. -/
def Unobtainable (alignment size : Nat) : Prop :=
  18446744073709551616 < max 1 alignment + size

def lowestBlock {alignment size : Nat} (fits : ¬ Unobtainable alignment size) : Block alignment size where
  address := max 1 alignment
  room := size
  aligned nonzero := by
    rw [max_eq_right (Nat.one_le_iff_ne_zero.mpr nonzero)]
  notNull := Nat.ne_of_gt (lt_of_lt_of_le Nat.zero_lt_one (le_max_left 1 alignment))
  enough := Nat.le_refl size
  within := not_lt.mp fits

theorem Block.lowest_le {alignment size : Nat} (block : Block alignment size) :
    max 1 alignment ≤ block.address := by
  have positive := Nat.pos_of_ne_zero block.notNull
  apply max_le positive
  by_cases zero : alignment = 0
  · exact le_trans (Nat.le_of_eq zero) (Nat.zero_le _)
  · exact Nat.le_of_dvd positive (block.aligned zero)

theorem unobtainable_iff (alignment size : Nat) :
    Unobtainable alignment size <-> IsEmpty (Block alignment size) := by
  constructor
  · intro large
    refine ⟨fun block => ?_⟩
    have lowest := block.lowest_le
    have enough := block.enough
    have within := block.within
    unfold Unobtainable at large
    omega
  · intro none
    by_contra fits
    exact none.false (lowestBlock fits)

/-! ## Moving into a block -/

/-- A power of two has one odd divisor. -/
theorem eq_zero_of_odd_dvd {k : Nat} (divides : 2 * k + 1 ∣ 18446744073709551616) : k = 0 := by
  have odd : Nat.Coprime (2 * k + 1) 2 := by
    rw [Nat.coprime_two_right]
    exact ⟨k, rfl⟩
  have power : (18446744073709551616 : Nat) = 2 ^ 64 := by norm_num
  have one := Nat.Coprime.eq_one_of_dvd (odd.pow_right 64) (power ▸ divides)
  omega

section

variable {length alignment : Nat}

theorem sound_of_small (nonzero : alignment ≠ 0) (small : alignment < 9223372036854775808)
    (sum : length + alignment < 18446744073709551616)
    (block : Block (wrap (alignment * 2)) (wrap (length + alignment))) :
    SoundCall alignment
      ⟨wrap (block.address + alignment), length, block.address, block.room⟩ := by
  rcases block with ⟨address, room, aligned, notNull, enough, within⟩
  have doubled : wrap (alignment * 2) = alignment * 2 := Nat.mod_eq_of_lt (by omega)
  have added : wrap (length + alignment) = length + alignment := Nat.mod_eq_of_lt sum
  rw [doubled] at aligned
  rw [added] at enough
  rcases aligned (by omega) with ⟨k, rfl⟩
  have moved : alignment * 2 * k + alignment = (2 * k + 1) * alignment := by ring
  have inSpace : alignment * 2 * k + alignment < 18446744073709551616 := by
    by_contra reaches
    have full : (2 * k + 1) * alignment = 18446744073709551616 := by omega
    have zero := eq_zero_of_odd_dvd ⟨alignment, full.symm⟩
    rw [zero] at notNull
    exact notNull (Nat.mul_zero _)
  have buf : wrap (alignment * 2 * k + alignment) = alignment * 2 * k + alignment :=
    Nat.mod_eq_of_lt inSpace
  refine ⟨⟨k, ?_⟩, ?_, ?_⟩
  · dsimp only
    rw [buf, moved]
  · dsimp only
    rw [buf]
    omega
  · dsimp only
    rw [buf]
    omega

/-- When the sum or the product wraps, some block does not have the buffer in it, or not
at an odd multiple. -/
theorem unsound_of_large (inRange : length < 18446744073709551616 ∧ alignment < 18446744073709551616)
    (large : 9223372036854775808 ≤ alignment ∨ 18446744073709551616 ≤ length + alignment)
    (obtainable : ¬ Unobtainable (wrap (alignment * 2)) (wrap (length + alignment))) :
    Exists fun block : Block (wrap (alignment * 2)) (wrap (length + alignment)) =>
      ¬ SoundCall alignment
        ⟨wrap (block.address + alignment), length, block.address, block.room⟩ := by
  refine ⟨lowestBlock obtainable, ?_⟩
  rintro ⟨⟨k, odd⟩, low, high⟩
  dsimp only [lowestBlock] at odd low high
  rcases Nat.lt_or_ge alignment 9223372036854775808 with small | huge
  · have wrapped : 18446744073709551616 ≤ length + alignment := by omega
    unfold wrap at *
    omega
  · unfold wrap at *
    cases k with
    | zero => omega
    | succ k =>
        have multiple : 3 * alignment ≤ (2 * (k + 1) + 1) * alignment :=
          Nat.mul_le_mul_right alignment (by omega)
        omega

end

/-! ## The program -/

section

variable {dumpcore : Option String} {answers : DirectReadAnswers} {arguments : Arguments}
  {argv : List (List Byte)}

def callInto (length alignment : Nat)
    (block : Block (wrap (alignment * 2)) (wrap (length + alignment))) : ReadCall :=
  ⟨wrap (block.address + alignment), length, block.address, block.room⟩

/-- A run that reads has a block, and an offset that is not negative. -/
theorem readDirect_call {call : ReadCall}
    (made : (readDirect dumpcore answers arguments).readCall = some call) :
    ¬ arguments.offset < 0 ∧ Exists fun block =>
      call = callInto (toSizeT arguments.length) (toSizeT arguments.alignment) block := by
  unfold readDirect at made
  dsimp only at made
  split at made
  · cases made
  · next block _ =>
      split at made
      · cases made
      · next sought =>
          refine ⟨fun negative => ?_, block, ?_⟩
          · rw [if_pos negative] at sought
            cases sought
          · split at made
            · exact (Option.some.inj made).symm
            · exact (Option.some.inj made).symm

/-- With a block, and an offset that is not negative, a run in which nothing else fails
reads. -/
theorem readDirect_reads (forward : ¬ arguments.offset < 0)
    {block : Block (wrap (toSizeT arguments.alignment * 2))
      (wrap (toSizeT arguments.length + toSizeT arguments.alignment))}
    (found : answers.memalign _ _ = some block) (sought : answers.lseek = none) :
    (readDirect dumpcore answers arguments).readCall =
      some (callInto (toSizeT arguments.length) (toSizeT arguments.alignment) block) := by
  unfold readDirect
  dsimp only
  rw [found]
  dsimp only
  rw [if_neg forward, sought]
  dsimp only
  split
  · rfl
  · rfl

/-- Answers with one block, and no failure. -/
def oneBlock {alignment size : Nat} (block : Block alignment size) : DirectReadAnswers where
  openFile := none
  memalign other otherSize :=
    if same : alignment = other ∧ size = otherSize then some (same.1 ▸ same.2 ▸ block) else none
  lseek := none
  read := .ok 0

theorem oneBlock_memalign {alignment size : Nat} (block : Block alignment size) :
    (oneBlock block).memalign alignment size = some block := dif_pos ⟨rfl, rfl⟩

theorem toSizeT_lt (value : Int) : toSizeT value < 18446744073709551616 := by
  unfold toSizeT
  omega

/-- `direct_read` reads into a sound buffer exactly if the alignment, taken as an unsigned
number, is less than half the address space and its sum with the length does not wrap; or
there is no block or no seek to get as far as that. -/
theorem directRead_sound_iff (dumpcore : Option String) (argv : List (List Byte))
    (arguments : Arguments) (parsed : readArguments argv = .ok arguments) :
    BufferSound dumpcore argv (toSizeT arguments.alignment) <->
      (toSizeT arguments.alignment < 9223372036854775808 ∧
        toSizeT arguments.length + toSizeT arguments.alignment < 18446744073709551616) ∨
      Unobtainable (wrap (toSizeT arguments.alignment * 2))
        (wrap (toSizeT arguments.length + toSizeT arguments.alignment)) ∨
      arguments.offset < 0 := by
  constructor
  · intro sound
    by_contra bad
    rcases not_or.mp bad with ⟨large, rest⟩
    rcases not_or.mp rest with ⟨obtainable, forward⟩
    have wraps : 9223372036854775808 ≤ toSizeT arguments.alignment ∨
        18446744073709551616 ≤ toSizeT arguments.length + toSizeT arguments.alignment := by
      omega
    rcases unsound_of_large ⟨toSizeT_lt arguments.length, toSizeT_lt arguments.alignment⟩ wraps
      obtainable with ⟨block, unsound⟩
    have nonzero : toSizeT arguments.alignment ≠ 0 := by
      have inRange := toSizeT_lt arguments.length
      omega
    apply unsound
    refine sound (oneBlock block) _ ?_ nonzero
    unfold directRead
    rw [parsed]
    exact readDirect_reads forward (oneBlock_memalign block) rfl
  · intro good answers call made nonzero
    unfold directRead at made
    rw [parsed] at made
    dsimp only at made
    split at made
    · cases made
    · rcases readDirect_call made with ⟨forward, block, rfl⟩
      rcases good with ⟨small, sum⟩ | unobtainable | negative
      · exact sound_of_small nonzero small sum block
      · exact ((unobtainable_iff _ _).mp unobtainable).elim block
      · exact absurd negative forward

end

theorem pageOfFile_sound : BufferSound none [ascii "direct_read", ascii "f", ascii "512"] 4096 <->
    ((4096 : Nat) < 9223372036854775808 ∧ 512 + 4096 < 18446744073709551616) ∨
      Unobtainable (wrap (4096 * 2)) (wrap (512 + 4096)) ∨ (0 : Int) < 0 :=
  directRead_sound_iff none _ ⟨ascii "f", 512, 0, 4096⟩ (by decide +kernel)

/-- A block for the length -100 and the alignment 4096: the sum of both wraps. -/
def wrappedBlock : Block (wrap (4096 * 2)) (wrap (toSizeT (-100) + 4096)) :=
  ⟨8192, 3996, fun _ => by decide, by decide, by decide, by decide⟩

/-- With the length -100 the buffer begins behind the end of the block. -/
theorem negativeLength_unsound :
    ¬ BufferSound none [ascii "direct_read", ascii "f", ascii "-100"] 4096 := by
  intro sound
  have parsed : readArguments [ascii "direct_read", ascii "f", ascii "-100"] =
      .ok ⟨ascii "f", -100, 0, 4096⟩ := by
    decide +kernel
  have reads : (directRead none (oneBlock wrappedBlock)
      [ascii "direct_read", ascii "f", ascii "-100"]).readCall =
        some (callInto (toSizeT (-100)) 4096 wrappedBlock) := by
    unfold directRead
    rw [parsed]
    exact readDirect_reads (by decide) (oneBlock_memalign wrappedBlock) rfl
  have high := (sound _ _ reads (by decide)).high
  exact absurd high (by decide +kernel)

end IoBuffering
end Tlpi
