import Tlpi.FileLock.IFcntlLocking

namespace Tlpi
namespace UserGroup
namespace CheckPassword

open CLibrary Foundations Lib

/-!
# Checking a user name and a password

The program reads a user name with `fgets` into a buffer of the size that the system
gives for login names, removes a newline at its end, and looks the name up.  To find
the end it subtracts one from the length of the string, a `size_t`, without asking
whether the string is empty.
-/

/-- A determinate limit on login names.  It is at least `_POSIX_LOGIN_NAME_MAX`, and
`fgets` takes it as an `int`. -/
structure LoginNameMax where
  value : Nat
  least : 9 ≤ value
  fits : (value : Int) ≤ INT_MAX

/-- The fields of a password record that the program uses. -/
structure Passwd where
  pw_passwd : List Byte
  pw_uid : Int
deriving DecidableEq, Repr

/-- What the calls of the program answer.  `getspnam` returns the encrypted password
of the shadow record, or no record and a value of `errno`. -/
structure Setup where
  dumpcore : Option String
  loginNameMax : Option LoginNameMax
  getpwnam : List Byte -> Option Passwd
  getspnam : List Byte -> Except Errno (List Byte)
  getpass : List Byte
  crypt : List Byte -> List Byte -> Except Errno (List Byte)

/-- How the program ends.  One that has used a byte outside its buffer has no further
behaviour. -/
inductive Outcome where
  | failed (failure : Failure)
  | endOfInput
  | outside (index : Nat)
  | incorrectPassword
  | authenticated (uid : Int)
deriving DecidableEq, Repr

/-- The size of the buffer: the limit, or a guess where it is indeterminate. -/
def Setup.lnmax (setup : Setup) : Nat :=
  match setup.loginNameMax with
  | none => 256
  | some limit => limit.value

/-- The comparison of the password typed with the one recorded. -/
def verify (setup : Setup) (pw_passwd : List Byte) (pw_uid : Int) : Outcome :=
  match setup.crypt setup.getpass pw_passwd with
  | .error errno => .failed (errExit setup.dumpcore errno "crypt")
  | .ok encrypted => if encrypted = pw_passwd then .authenticated pw_uid else .incorrectPassword

/-- The part of `main` behind the removal of the newline. -/
def authenticate (setup : Setup) (username : List Byte) : Outcome :=
  match setup.getpwnam username with
  | none => .failed (fatal setup.dumpcore "couldn't get password record")
  | some pwd =>
      match setup.getspnam username with
      | .ok sp_pwdp => verify setup sp_pwdp pwd.pw_uid
      | .error errno =>
          if errno = .EACCES then
            .failed (fatal setup.dumpcore "no permission to read shadow password file")
          else verify setup pwd.pw_passwd pwd.pw_uid

/-- `main`, for what `malloc` answers and the bytes on the standard input. -/
def main (setup : Setup) (malloc : Except Errno (Vector Byte setup.lnmax)) (stdin : List Byte) :
    Outcome :=
  match malloc with
  | .error errno => .failed (errExit setup.dumpcore errno "malloc")
  | .ok buffer =>
      match fgets buffer stdin with
      | none => .endOfInput
      | some (username, _) =>
          let index := lastIndex username
          if index < setup.lnmax then
            let username :=
              if username[index]? = some newline then username.setIfInBounds index 0 else username
            authenticate setup (stringIn username).bytes
          else .outside index

theorem Setup.lnmax_range (setup : Setup) : 9 ≤ setup.lnmax ∧ setup.lnmax ≤ SSIZE_MAX := by
  unfold Setup.lnmax SSIZE_MAX
  split
  · omega
  · rename_i limit _
    have least := limit.least
    have fits := limit.fits
    unfold INT_MAX at fits
    omega

theorem verify_ne_outside (setup : Setup) (pw_passwd : List Byte) (pw_uid : Int) (index : Nat) :
    verify setup pw_passwd pw_uid ≠ .outside index := by
  unfold verify
  split
  · exact Outcome.noConfusion
  · split <;> exact Outcome.noConfusion

theorem authenticate_ne_outside (setup : Setup) (username : List Byte) (index : Nat) :
    authenticate setup username ≠ .outside index := by
  unfold authenticate
  split
  · exact Outcome.noConfusion
  · split
    · exact verify_ne_outside _ _ _ _
    · split
      · exact Outcome.noConfusion
      · exact verify_ne_outside _ _ _ _

/-- The index of the last character of the user name is valid exactly if the input
does not begin with a null byte. -/
theorem main_ne_outside_iff (setup : Setup) (buffer : Vector Byte setup.lnmax) (stdin : List Byte) :
    (forall index, main setup (.ok buffer) stdin ≠ .outside index) <-> stdin.head? ≠ some 0 := by
  have range := setup.lnmax_range
  unfold main
  cases read : fgets buffer stdin with
  | none =>
      unfold fgets at read
      split at read
      · rename_i empty
        rw [empty]
        exact ⟨(fun _ same => by cases same), fun _ index => Outcome.noConfusion⟩
      · cases read
  | some filled =>
      rcases filled with ⟨username, rest⟩
      have positive := strlen_fgets_pos_iff (by omega) read
      have inside : lastIndex username < setup.lnmax <-> 0 < (stringIn username).strlen :=
        lastIndex_lt_iff range.2
      simp only [read]
      rw [← positive, ← inside]
      constructor
      · intro never
        by_contra outside
        rw [if_neg outside] at never
        exact never _ rfl
      · intro valid index
        rw [if_pos valid]
        exact authenticate_ne_outside setup _ index

/-- In both programs that remove the last character of a line by its index, the index
is valid exactly as long as no null byte comes first: here in the input, of which one
line is read, and there in any of the pieces that are read. -/
theorem lastIndex_valid_iff (setup : Setup) (buffer : Vector Byte setup.lnmax)
    (locking : FileLock.IFcntlLocking.Setup) (locals : FileLock.IFcntlLocking.Locals)
    (line : Vector Byte FileLock.IFcntlLocking.MAX_LINE) (input : List Byte) :
    ((forall index, main setup (.ok buffer) input ≠ .outside index) <-> input.head? ≠ some 0) ∧
    ((forall answers final, (FileLock.IFcntlLocking.machine locking).exec
          (FileLock.IFcntlLocking.start locals line input) answers = some final ->
        final.status ≠ .outside) <->
      forall piece, piece ∈ fgetsLines FileLock.IFcntlLocking.MAX_LINE input -> piece.head? ≠ some 0) :=
  ⟨main_ne_outside_iff setup buffer input,
    FileLock.IFcntlLocking.never_outside_iff locking locals line input⟩

/-- A system without users and without a limit on their names. -/
def noUsers : Setup where
  dumpcore := none
  loginNameMax := none
  getpwnam := fun _ => none
  getspnam := fun _ => .error .ENOENT
  getpass := []
  crypt := fun _ _ => .error .EINVAL

/-- A line that begins with a null byte takes both programs out of their buffers. -/
theorem null_line_outside :
    ¬ (forall (setup : Setup) (buffer : Vector Byte setup.lnmax) (stdin : List Byte) (index : Nat),
        main setup (.ok buffer) stdin ≠ .outside index) ∧
    ¬ (forall (setup : FileLock.IFcntlLocking.Setup) (locals : FileLock.IFcntlLocking.Locals)
        (line : Vector Byte FileLock.IFcntlLocking.MAX_LINE) (input : List Byte)
        (answers : List FileLock.IFcntlLocking.Answer) (final : FileLock.IFcntlLocking.State),
      (FileLock.IFcntlLocking.machine setup).exec
          (FileLock.IFcntlLocking.start locals line input) answers = some final ->
        final.status ≠ .outside) := by
  constructor
  · intro valid
    have outside : main noUsers (.ok (Vector.replicate 256 0)) [0, newline] =
        .outside 18446744073709551615 := by
      decide +kernel
    exact valid noUsers _ _ _ outside
  · intro valid
    have executed : (((FileLock.IFcntlLocking.machine FileLock.IFcntlLocking.oneFile).exec
        (FileLock.IFcntlLocking.start FileLock.IFcntlLocking.unset (Vector.replicate _ 0) [0, newline])
        [FileLock.IFcntlLocking.calm]).map (fun final => final.status)) = some .outside := by
      decide +kernel
    rcases Option.map_eq_some_iff.mp executed with ⟨final, run, status⟩
    exact valid _ _ _ _ _ final run status

end CheckPassword
end UserGroup
end Tlpi
