import Tlpi.CLibrary.MemoryStrings
import Tlpi.CLibrary.Strtol

namespace Tlpi
namespace Lib

open CLibrary Foundations

/-!
# Timer specifications as text

`itimerspecFromStr` reads a text of the form
`value.sec[/value.nanosec][:interval.sec[/interval.nanosec]]`.  It takes a copy of the
text apart, at the colon first, so that a slash of the interval is not in the text of the
value any more.  The numbers are read with `atoi`, which returns an `int`.
-/

structure Timespec where
  tv_sec : Int
  tv_nsec : Int
deriving DecidableEq, Repr

structure Itimerspec where
  it_interval : Timespec
  it_value : Timespec
deriving DecidableEq, Repr

def colon : Byte := 58

def slash : Byte := 47

/-- The search for a slash in the text of a time, and the conversion of what is in front of
it and behind it. -/
def timespecAt (memory : Memory) (address room : Nat) : Timespec × Memory :=
  let cut := cutAt memory address room slash
  let tv_nsec :=
    match cut.1 with
    | some sptr => atoi (stringAt cut.2 (address + sptr + 1) (room - (sptr + 1)))
    | none => 0
  (⟨atoi (stringAt cut.2 address room), tv_nsec⟩, cut.2)

/-- The part of `itimerspecFromStr` behind `strdup`, which works on the copy. -/
def takeApart (memory : Memory) (dupstr room : Nat) : Itimerspec × Memory :=
  let cut := cutAt memory dupstr room colon
  let value := timespecAt cut.2 dupstr room
  match cut.1 with
  | none => (⟨⟨0, 0⟩, value.1⟩, value.2)
  | some cptr =>
      let interval := timespecAt value.2 (dupstr + cptr + 1) (room - (cptr + 1))
      (⟨interval.1, value.1⟩, interval.2)

/-- `itimerspecFromStr(str, tsp)`, with the size of the block of `str` and the address of
the block that `strdup` returns.  The result is the structure and the memory. -/
def itimerspecFromStr (memory : Memory) (str size dupstr : Nat) : Itimerspec × Memory :=
  let text := stringAt memory str size
  takeApart (store memory dupstr (text ++ [0])) dupstr (text.length + 1)

/-! ## The texts -/

/-- The numbers of one time.  The seconds fit in a `time_t`, and there are less than a
second's nanoseconds, if they are given. -/
structure TimeText where
  sec : Nat
  nanosec : Option Nat
  secFits : (sec : Int) ≤ LONG_MAX
  nanosecFits : forall given, nanosec = some given -> given ≤ 999999999

def TimeText.render (time : TimeText) : List Byte :=
  match time.nanosec with
  | none => renderNat time.sec
  | some nanosec => renderNat time.sec ++ slash :: renderNat nanosec

/-- The structure that was written. -/
def TimeText.timespec (time : TimeText) : Timespec := ⟨time.sec, (time.nanosec.getD 0 : Nat)⟩

/-- The numbers of a specification, with an interval if that is given. -/
structure SpecText where
  value : TimeText
  interval : Option TimeText

def SpecText.render (spec : SpecText) : List Byte :=
  match spec.interval with
  | none => spec.value.render
  | some interval => spec.value.render ++ colon :: interval.render

def SpecText.itimerspec (spec : SpecText) : Itimerspec :=
  ⟨(spec.interval.map TimeText.timespec).getD ⟨0, 0⟩, spec.value.timespec⟩

/-- What was written is read, and the text is still there. -/
structure ReadsBack (spec : SpecText) (str : Nat) (before : Memory)
    (result : Itimerspec × Memory) : Prop where
  same : result.1 = spec.itimerspec
  unchanged : load result.2 str (spec.render.length + 1) = load before str (spec.render.length + 1)

/-! ## The characters of a text -/

theorem renderNat_range {value : Nat} {byte : Byte} (member : byte ∈ renderNat value) :
    48 ≤ byte.toNat ∧ byte.toNat ≤ 57 :=
  (isDigit_ten_iff byte).mp ((renderNat_isNumeral value).2 byte member)

theorem not_mem_renderNat {value : Nat} {mark : Byte} (other : mark.toNat < 48 ∨ 57 < mark.toNat) :
    mark ∉ renderNat value := by
  intro member
  have range := renderNat_range member
  omega

/-- A time is written with digits and at most a slash. -/
theorem mem_render {time : TimeText} {byte : Byte} (member : byte ∈ time.render) :
    47 ≤ byte.toNat ∧ byte.toNat ≤ 57 := by
  have digits : forall {value : Nat}, byte ∈ renderNat value -> 47 ≤ byte.toNat ∧ byte.toNat ≤ 57 := by
    intro value inside
    have range := renderNat_range inside
    omega
  unfold TimeText.render at member
  split at member
  · exact digits member
  · rcases List.mem_append.mp member with inside | inside
    · exact digits inside
    · rcases List.mem_cons.mp inside with mark | inside
      · rw [mark]
        decide
      · exact digits inside

theorem atoi_renderNat {value : Nat} (fits : (value : Int) ≤ LONG_MAX) :
    atoi (renderNat value) = toInt value := by
  have converted : (strtol (renderNat value ++ []) 10).value = _ :=
    strtol_numeral (renderNat_isNumeral value) (fun byte rest same => by cases same)
  rw [List.append_nil, numeralValue_renderNat] at converted
  unfold atoi
  rw [converted, min_eq_left fits]

/-! ## Reading a time -/

/-- What is read of a time. -/
def TimeText.narrowed (time : TimeText) : Timespec :=
  ⟨toInt time.sec, (time.nanosec.getD 0 : Nat)⟩

/-- A memory that differs from another one only in a block. -/
def ChangedWithin (before after : Memory) (address size : Nat) : Prop :=
  forall location, location < address ∨ address + size ≤ location ->
    after location = before location

/-- Writing a byte changes nothing else. -/
theorem changedWithin_store (memory : Memory) (address : Nat) {offset size : Nat} (inside : offset < size) :
    ChangedWithin memory (store memory (address + offset) [0]) address size := by
  intro location outside
  apply store_outside
  rw [List.length_singleton]
  omega

theorem ChangedWithin.trans {first second third : Memory} {address size inner length : Nat}
    (outer : ChangedWithin first second address size)
    (later : ChangedWithin second third inner length) (low : address ≤ inner)
    (high : inner + length ≤ address + size) : ChangedWithin first third address size := by
  intro location outside
  rw [later location (by omega), outer location outside]

/-- A string outside the block is still there. -/
theorem ChangedWithin.hasString {before after : Memory} {address size place : Nat}
    {bytes : List Byte} (changed : ChangedWithin before after address size)
    (has : HasString before place bytes)
    (apart : place + (bytes.length + 1) ≤ address ∨ address + size ≤ place) :
    HasString after place bytes := by
  apply has.frame
  intro location above below
  exact changed location (by omega)

/-- The two conversions return the seconds as an `int`, and the nanoseconds as they are. -/
theorem timespecAt_render {memory : Memory} {address room : Nat} {time : TimeText}
    (has : HasString memory address time.render) (fits : time.render.length < room) :
    (timespecAt memory address room).1 = time.narrowed ∧
      ChangedWithin memory (timespecAt memory address room).2 address time.render.length := by
  rcases time with ⟨sec, nanosec, secFits, nanosecFits⟩
  unfold timespecAt TimeText.narrowed
  cases nanosec with
  | none =>
      change HasString memory address (renderNat sec) at has
      change (renderNat sec).length < room at fits
      have absent : slash ∉ renderNat sec := not_mem_renderNat (by decide)
      rw [has.cutAt_absent absent (by decide) fits]
      dsimp only
      rw [has.stringAt_eq fits, atoi_renderNat secFits]
      exact ⟨rfl, fun _ _ => rfl⟩
  | some given =>
      change HasString memory address (renderNat sec ++ slash :: renderNat given) at has
      change (renderNat sec ++ slash :: renderNat given).length < room at fits
      have absent : slash ∉ renderNat sec := not_mem_renderNat (by decide)
      have length : (renderNat sec ++ slash :: renderNat given).length =
          (renderNat sec).length + ((renderNat given).length + 1) := List.length_append
      have changed := changedWithin_store memory address
        (Nat.lt_succ_self (renderNat sec).length)
      have front := has.inFront
      have behind := changed.hasString has.behind (Or.inr (by omega))
      have small := nanosecFits given rfl
      have asLong : (given : Int) ≤ LONG_MAX := by
        unfold LONG_MAX
        omega
      have asInt : toInt given = given := by
        apply toInt_of_range
        · unfold INT_MIN
          omega
        · unfold INT_MAX
          omega
      rw [has.cutAt_mark absent fits]
      dsimp only
      rw [front.stringAt_eq (by omega), behind.stringAt_eq (by omega), atoi_renderNat secFits,
        atoi_renderNat asLong, asInt]
      refine ⟨rfl, ?_⟩
      apply changedWithin_store memory address
      change _ < (renderNat sec ++ slash :: renderNat given).length
      omega

theorem colon_not_mem_render (time : TimeText) : colon ∉ time.render := by
  intro member
  exact absurd (mem_render member).2 (by decide)

/-- What was read of a specification. -/
def SpecText.narrowed (spec : SpecText) : Itimerspec :=
  ⟨(spec.interval.map TimeText.narrowed).getD ⟨0, 0⟩, spec.value.narrowed⟩

/-- The copy is taken apart at the colon, and then each part at its own slash. -/
theorem takeApart_render {memory : Memory} {dupstr room : Nat} {spec : SpecText}
    (has : HasString memory dupstr spec.render) (fits : spec.render.length < room) :
    (takeApart memory dupstr room).1 = spec.narrowed ∧
      ChangedWithin memory (takeApart memory dupstr room).2 dupstr spec.render.length := by
  rcases spec with ⟨value, interval⟩
  unfold takeApart SpecText.narrowed
  cases interval with
  | none =>
      change HasString memory dupstr value.render at has
      change value.render.length < room at fits
      rw [has.cutAt_absent (colon_not_mem_render value) (by decide) fits]
      dsimp only
      rcases timespecAt_render has fits with ⟨read, within⟩
      rw [read]
      exact ⟨rfl, within⟩
  | some interval =>
      change HasString memory dupstr (value.render ++ colon :: interval.render) at has
      change (value.render ++ colon :: interval.render).length < room at fits
      change _ ∧ ChangedWithin _ _ _ (value.render ++ colon :: interval.render).length
      have length : (value.render ++ colon :: interval.render).length =
          value.render.length + (interval.render.length + 1) := List.length_append
      rw [has.cutAt_mark (colon_not_mem_render value) fits]
      have cut := changedWithin_store memory dupstr (Nat.lt_succ_self value.render.length)
      have behind := cut.hasString has.behind (Or.inr (by omega))
      have valueFits : value.render.length < room := by omega
      rcases timespecAt_render has.inFront valueFits with ⟨readValue, valueWithin⟩
      have still := valueWithin.hasString behind (Or.inr (by omega))
      have intervalFits : interval.render.length < room - (value.render.length + 1) := by omega
      rcases timespecAt_render still intervalFits with ⟨readInterval, intervalWithin⟩
      dsimp only
      rw [readValue, readInterval]
      refine ⟨rfl, ?_⟩
      have inside : value.render.length < (value.render ++ colon :: interval.render).length := by
        omega
      have first := changedWithin_store memory dupstr inside
      have second := first.trans valueWithin (Nat.le_refl _) (by omega)
      exact second.trans intervalWithin (by omega) (by omega)

/-- What `itimerspecFromStr` reads, and that it writes only to its copy. -/
theorem itimerspecFromStr_render {memory : Memory} {str size : Nat} (dupstr : Nat)
    {spec : SpecText} (given : HasString memory str spec.render)
    (room : spec.render.length < size) :
    (itimerspecFromStr memory str size dupstr).1 = spec.narrowed ∧
      ChangedWithin memory (itimerspecFromStr memory str size dupstr).2 dupstr
        (spec.render.length + 1) := by
  have copied := HasString.of_store memory dupstr given.nullFree
  have changed : ChangedWithin memory (store memory dupstr (spec.render ++ [0])) dupstr
      (spec.render.length + 1) := by
    intro location outside
    apply store_outside
    rw [List.length_append, List.length_singleton]
    exact outside
  unfold itimerspecFromStr
  rw [given.stringAt_eq room]
  rcases takeApart_render copied (Nat.lt_succ_self _) with ⟨read, within⟩
  exact ⟨read, changed.trans within (Nat.le_refl _) (by omega)⟩

/-- The conversion to an `int` is harmless within its range. -/
theorem narrowed_eq_iff (time : TimeText) :
    time.narrowed = time.timespec <-> (time.sec : Int) ≤ INT_MAX := by
  have least : INT_MIN ≤ (time.sec : Int) := by
    unfold INT_MIN
    omega
  constructor
  · intro same
    unfold TimeText.narrowed TimeText.timespec at same
    have seconds := (Timespec.mk.inj same).1
    have range := (toInt_range time.sec).2
    rwa [seconds] at range
  · intro fits
    unfold TimeText.narrowed TimeText.timespec
    rw [toInt_of_range least fits]

/-- `itimerspecFromStr` reads what was written, and leaves the text alone, exactly if every
number of seconds is an `int`. -/
theorem itimerspecFromStr_readsBack_iff (memory : Memory) (str size dupstr : Nat)
    (spec : SpecText) (given : HasString memory str spec.render) (room : spec.render.length < size)
    (apart : dupstr + (spec.render.length + 1) ≤ str ∨ str + (spec.render.length + 1) ≤ dupstr) :
    ReadsBack spec str memory (itimerspecFromStr memory str size dupstr) <->
      (spec.value.sec : Int) ≤ INT_MAX ∧
        forall interval, spec.interval = some interval -> (interval.sec : Int) ≤ INT_MAX := by
  have read := itimerspecFromStr_render dupstr given room
  have kept : load (itimerspecFromStr memory str size dupstr).2 str (spec.render.length + 1) =
      load memory str (spec.render.length + 1) := by
    apply load_congr
    intro location above below
    exact read.2 location (by omega)
  have times : (itimerspecFromStr memory str size dupstr).1 = spec.itimerspec <->
      spec.value.narrowed = spec.value.timespec ∧
        forall interval, spec.interval = some interval -> interval.narrowed = interval.timespec := by
    rw [read.1]
    unfold SpecText.narrowed SpecText.itimerspec
    rw [Itimerspec.mk.injEq, and_comm]
    apply and_congr_right
    intro _
    cases spec.interval with
    | none =>
        constructor
        · intro _ interval impossible
          cases impossible
        · intro _
          rw [Option.map_none, Option.map_none]
    | some interval =>
        constructor
        · rintro same _ ⟨⟩
          exact same
        · intro all
          exact all interval rfl
  constructor
  · intro reads
    rcases times.mp reads.same with ⟨value, interval⟩
    exact ⟨(narrowed_eq_iff _).mp value, fun time present => (narrowed_eq_iff _).mp (interval time present)⟩
  · rintro ⟨value, interval⟩
    refine ⟨times.mpr ⟨(narrowed_eq_iff _).mpr value, ?_⟩, kept⟩
    intro time present
    exact (narrowed_eq_iff _).mpr (interval time present)

/-- One second and five nanoseconds, and then every two seconds. -/
def everyTwoSeconds : SpecText where
  value := ⟨1, some 5, by decide, by rintro _ ⟨⟩; decide⟩
  interval := some ⟨2, none, by decide, by rintro _ ⟨⟩⟩

theorem everyTwoSeconds_nullFree :
    forall byte, byte ∈ everyTwoSeconds.render -> byte ≠ 0 := by
  apply nullFree_of_all
  decide +kernel

theorem everyTwoSeconds_readsBack :
    ReadsBack everyTwoSeconds 100 (store (fun _ => 0) 100 (everyTwoSeconds.render ++ [0]))
        (itimerspecFromStr (store (fun _ => 0) 100 (everyTwoSeconds.render ++ [0])) 100 64 200) <->
      (everyTwoSeconds.value.sec : Int) ≤ INT_MAX ∧
        forall interval, everyTwoSeconds.interval = some interval ->
          (interval.sec : Int) ≤ INT_MAX :=
  itimerspecFromStr_readsBack_iff _ 100 64 200 everyTwoSeconds
    (HasString.of_store _ 100 everyTwoSeconds_nullFree) (by decide +kernel) (by decide +kernel)

/-- One second more than an `int` holds. -/
def pastInt : SpecText where
  value := ⟨2147483648, none, by decide, by rintro _ ⟨⟩⟩
  interval := none

/-- The seconds are read as a negative number. -/
theorem pastInt_narrowed :
    ¬ ReadsBack pastInt 100 (store (fun _ => 0) 100 (pastInt.render ++ [0]))
      (itimerspecFromStr (store (fun _ => 0) 100 (pastInt.render ++ [0])) 100 64 200) := by
  intro reads
  have value : (itimerspecFromStr (store (fun _ => 0) 100 (pastInt.render ++ [0])) 100 64 200).1 =
      ⟨⟨0, 0⟩, ⟨-2147483648, 0⟩⟩ := by
    decide +kernel
  rw [reads.same] at value
  exact absurd value (by decide +kernel)

end Lib
end Tlpi
