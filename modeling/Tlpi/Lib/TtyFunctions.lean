import Tlpi.CLibrary.Memory

namespace Tlpi
namespace Lib

open CLibrary

/-!
# Changing the mode of a terminal

`ttySetCbreak` and `ttySetRaw` read the settings of a terminal, hand them to the
caller if it asks for them, and install a changed copy.  They differ in the change
only.  Whether `tcgetattr` and `tcsetattr` succeed is the kernel's answer, and a
successful `tcsetattr` installs every setting.
-/

def NCCS : Nat := 32

/-- `struct termios`, without the line discipline, which no program here reads. -/
structure Termios where
  c_iflag : UInt32
  c_oflag : UInt32
  c_cflag : UInt32
  c_lflag : UInt32
  c_cc : Vector Byte NCCS
deriving DecidableEq, Repr

/-- A static `struct termios` before anything is stored in it. -/
def Termios.zero : Termios := ⟨0, 0, 0, 0, Vector.replicate NCCS 0⟩

/-! ## The flags, with their values on Linux -/

def IGNBRK : UInt32 := 0x0001
def BRKINT : UInt32 := 0x0002
def PARMRK : UInt32 := 0x0008
def INPCK : UInt32 := 0x0010
def ISTRIP : UInt32 := 0x0020
def INLCR : UInt32 := 0x0040
def IGNCR : UInt32 := 0x0080
def ICRNL : UInt32 := 0x0100
def IXON : UInt32 := 0x0400

def OPOST : UInt32 := 0x0001

def ISIG : UInt32 := 0x0001
def ICANON : UInt32 := 0x0002
def ECHO : UInt32 := 0x0008
def IEXTEN : UInt32 := 0x8000

def VTIME : Fin NCCS := ⟨5, by decide⟩
def VMIN : Fin NCCS := ⟨6, by decide⟩

namespace Termios

/-- `c_cc[VMIN] = 1` and `c_cc[VTIME] = 0`: one character at a time, with
blocking. -/
def characterAtATime (t : Termios) : Termios :=
  { t with c_cc := (t.c_cc.set VMIN 1).set VTIME 0 }

/-- The change that `ttySetCbreak` makes. -/
def cbreak (t : Termios) : Termios :=
  characterAtATime { t with
    c_lflag := (t.c_lflag &&& ~~~(ICANON ||| ECHO)) ||| ISIG
    c_iflag := t.c_iflag &&& ~~~ICRNL }

/-- The change that `ttySetRaw` makes. -/
def raw (t : Termios) : Termios :=
  characterAtATime { t with
    c_lflag := t.c_lflag &&& ~~~(ICANON ||| ISIG ||| IEXTEN ||| ECHO)
    c_iflag := t.c_iflag &&& ~~~(BRKINT ||| ICRNL ||| IGNBRK ||| IGNCR ||| INLCR ||| INPCK |||
      ISTRIP ||| IXON ||| PARMRK)
    c_oflag := t.c_oflag &&& ~~~OPOST }

end Termios

/-- Whether the calls of `tcgetattr` and `tcsetattr` succeed. -/
structure TtyAnswers where
  getattr : Bool
  setattr : Bool
deriving DecidableEq, Repr

/-- What a call leaves: its result, the settings of the terminal, and the buffer
behind `prevTermios` if that is not null. -/
structure TtyCall where
  result : Int
  settings : Termios
  prevTermios : Option Termios
deriving DecidableEq, Repr

/-- The common text of the two functions. -/
def ttySet (change : Termios -> Termios) (answers : TtyAnswers) (settings : Termios)
    (prevTermios : Option Termios) : TtyCall :=
  if answers.getattr = false then ⟨-1, settings, prevTermios⟩
  else
    let saved := prevTermios.map (fun _ => settings)
    if answers.setattr = false then ⟨-1, settings, saved⟩
    else ⟨0, change settings, saved⟩

/-- `ttySetCbreak(fd, prevTermios)`. -/
def ttySetCbreak : TtyAnswers -> Termios -> Option Termios -> TtyCall := ttySet Termios.cbreak

/-- `ttySetRaw(fd, prevTermios)`. -/
def ttySetRaw : TtyAnswers -> Termios -> Option Termios -> TtyCall := ttySet Termios.raw

/-- Either the call succeeds, changes the terminal and hands back what it found
there, or it fails and leaves the terminal alone; it may have handed back the
settings even so. -/
theorem ttySet_spec (change : Termios -> Termios) (answers : TtyAnswers) (settings : Termios)
    (prevTermios : Option Termios) :
    ((ttySet change answers settings prevTermios).result = 0 ∧
      (ttySet change answers settings prevTermios).settings = change settings ∧
      (ttySet change answers settings prevTermios).prevTermios =
        prevTermios.map (fun _ => settings)) ∨
    ((ttySet change answers settings prevTermios).result = -1 ∧
      (ttySet change answers settings prevTermios).settings = settings ∧
      ((ttySet change answers settings prevTermios).prevTermios = prevTermios ∨
        (ttySet change answers settings prevTermios).prevTermios =
          prevTermios.map (fun _ => settings))) := by
  rcases answers with ⟨getattr, setattr⟩
  cases getattr with
  | false => exact Or.inr ⟨rfl, rfl, Or.inl rfl⟩
  | true =>
      cases setattr with
      | false => exact Or.inr ⟨rfl, rfl, Or.inr rfl⟩
      | true => exact Or.inl ⟨rfl, rfl, rfl⟩

end Lib
end Tlpi
