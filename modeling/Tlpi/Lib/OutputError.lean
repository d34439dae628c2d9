import Tlpi.CLibrary.Strings
import Tlpi.CLibrary.Strtol

namespace Tlpi
namespace Lib
namespace OutputError

open CLibrary

/-!
# The text of a diagnostic

`outputError` puts a diagnostic together in three buffers of one size.  The message of the
caller and the name and text of the error are each formatted into a buffer of their own,
and then both into a third, with a newline behind them.  Each step cuts what does not fit.

Cutting the parts first makes no difference, since a part that was cut fills the last
buffer.  The string that is sent is therefore the complete line, cut once.
-/

def BUF_SIZE : Nat := 500

def ename : List String :=
  ["", "EPERM", "ENOENT", "ESRCH", "EINTR", "EIO", "ENXIO", "E2BIG", "ENOEXEC", "EBADF", "ECHILD",
    "EAGAIN/EWOULDBLOCK", "ENOMEM", "EACCES", "EFAULT", "ENOTBLK", "EBUSY", "EEXIST", "EXDEV",
    "ENODEV", "ENOTDIR", "EISDIR", "EINVAL", "ENFILE", "EMFILE", "ENOTTY", "ETXTBSY", "EFBIG",
    "ENOSPC", "ESPIPE", "EROFS", "EMLINK", "EPIPE", "EDOM", "ERANGE", "EDEADLK/EDEADLOCK",
    "ENAMETOOLONG", "ENOLCK", "ENOSYS", "ENOTEMPTY", "ELOOP", "", "ENOMSG", "EIDRM", "ECHRNG",
    "EL2NSYNC", "EL3HLT", "EL3RST", "ELNRNG", "EUNATCH", "ENOCSI", "EL2HLT", "EBADE", "EBADR",
    "EXFULL", "ENOANO", "EBADRQC", "EBADSLT", "", "EBFONT", "ENOSTR", "ENODATA", "ETIME", "ENOSR",
    "ENONET", "ENOPKG", "EREMOTE", "ENOLINK", "EADV", "ESRMNT", "ECOMM", "EPROTO", "EMULTIHOP",
    "EDOTDOT", "EBADMSG", "EOVERFLOW", "ENOTUNIQ", "EBADFD", "EREMCHG", "ELIBACC", "ELIBBAD",
    "ELIBSCN", "ELIBMAX", "ELIBEXEC", "EILSEQ", "ERESTART", "ESTRPIPE", "EUSERS", "ENOTSOCK",
    "EDESTADDRREQ", "EMSGSIZE", "EPROTOTYPE", "ENOPROTOOPT", "EPROTONOSUPPORT", "ESOCKTNOSUPPORT",
    "EOPNOTSUPP/ENOTSUP", "EPFNOSUPPORT", "EAFNOSUPPORT", "EADDRINUSE", "EADDRNOTAVAIL", "ENETDOWN",
    "ENETUNREACH", "ENETRESET", "ECONNABORTED", "ECONNRESET", "ENOBUFS", "EISCONN", "ENOTCONN",
    "ESHUTDOWN", "ETOOMANYREFS", "ETIMEDOUT", "ECONNREFUSED", "EHOSTDOWN", "EHOSTUNREACH",
    "EALREADY", "EINPROGRESS", "ESTALE", "EUCLEAN", "ENOTNAM", "ENAVAIL", "EISNAM", "EREMOTEIO",
    "EDQUOT", "ENOMEDIUM", "EMEDIUMTYPE", "ECANCELED", "ENOKEY", "EKEYEXPIRED", "EKEYREVOKED",
    "EKEYREJECTED", "EOWNERDEAD", "ENOTRECOVERABLE", "ERFKILL", "EHWPOISON"]

def MAX_ENAME : Nat := 133

example : ename.length = MAX_ENAME + 1 := rfl

/-- The calls of the C library that `outputError` makes. -/
inductive Call where
  | vsnprintf
  | strerror
  | snprintf
  | fflush
  | fputs
deriving DecidableEq, Repr

/-- The C library: the texts of the errors, and what a call makes of `errno`, which may be
anything. -/
structure Library where
  strerror : Int -> CString
  errnoAfter : Call -> Int -> Int

/-- The process: `errno`, what waits in the buffer of `stdout` and what has left it, and the
strings that were sent to `stderr`. -/
structure Process where
  errno : Int
  waiting : List Byte
  flushed : List Byte
  stderr : List (List Byte)
deriving DecidableEq, Repr

variable (library : Library)

namespace Process

def after (call : Call) (process : Process) : Process :=
  { process with errno := library.errnoAfter call process.errno }

/-- `fflush(stdout)`. -/
def flushStdout (process : Process) : Process :=
  { process.after library .fflush with
    waiting := []
    flushed := process.flushed ++ process.waiting }

/-- `fputs(buf, stderr); fflush(stderr);`. -/
def sendStderr (process : Process) (buf : List Byte) : Process :=
  { (process.after library .fputs).after library .fflush with
    stderr := process.stderr ++ [buf] }

end Process

/-- The name of an error, where there is one in the table. -/
def errorName (err : Int) : List Byte :=
  if 0 < err ∧ err ≤ MAX_ENAME then ascii (ename.getD err.toNat "") else ascii "?UNKNOWN?"

/-- What the second buffer is for: the name and the text of the error, or a colon. -/
def label (useErr : Bool) (err : Int) : List Byte :=
  if useErr then
    ascii " [" ++ errorName err ++ ascii " " ++ (library.strerror err).bytes ++ ascii "]"
  else ascii ":"

/-- The string in `buf`, for the text that the format and its arguments give.  A null byte
among the characters of that text ends the user's message. -/
def diagnostic (useErr : Bool) (err : Int) (text : List Byte) : List Byte :=
  let userMsg := cString (snprintf BUF_SIZE text)
  let errText := snprintf BUF_SIZE (label library useErr err)
  snprintf BUF_SIZE (ascii "ERROR" ++ errText ++ ascii " " ++ userMsg ++ ascii "\n")

/-- `outputError(useErr, err, flushStdout, format, ap)`. -/
def outputError (useErr : Bool) (err : Int) (flushStdout : Bool) (text : List Byte)
    (process : Process) : Process :=
  let process := process.after library .vsnprintf
  let process := if useErr then process.after library .strerror else process
  let process := (process.after library .snprintf).after library .snprintf
  let process := if flushStdout then process.flushStdout library else process
  process.sendStderr library (diagnostic library useErr err text)

/-- `errMsg(format, ...)`. -/
def errMsg (text : List Byte) (process : Process) : Process :=
  let savedErrno := process.errno
  { outputError library true process.errno true text process with errno := savedErrno }

/-! ## The line -/

/-- The line, if nothing were cut. -/
def wholeLine (label message : List Byte) : List Byte :=
  ascii "ERROR" ++ label ++ ascii " " ++ message ++ [newline]

/-- How much of the message there is room for. -/
def room (label : List Byte) : Nat := BUF_SIZE - 1 - (label.length + 6)

/-- A complete line: the label, all of it, in front of the message, and a newline at the
end. -/
structure CompleteLine (label message sent : List Byte) : Prop where
  starts : ascii "ERROR" <+: sent
  labelled : Exists fun rest => sent = ascii "ERROR" ++ label ++ ascii " " ++ rest ∧
    rest <+: message ++ [newline]
  short : sent.length ≤ BUF_SIZE - 1
  ended : sent.getLast? = some newline

/-- A part that was cut before it is formatted into a buffer of the same size gives the same
text there. -/
theorem snprintf_nested (size : Nat) (front part rest : List Byte) :
    snprintf size (front ++ (snprintf size part ++ rest)) = snprintf size (front ++ (part ++ rest)) := by
  unfold snprintf
  by_cases fits : part.length ≤ size - 1
  · rw [List.take_of_length_le fits]
  · have cut : (part.take (size - 1)).length = size - 1 := by
      rw [List.length_take]
      omega
    have behindFront : forall inner : List Byte, (front ++ (inner ++ rest)).take (size - 1) =
        front.take (size - 1) ++ (inner ++ rest).take (size - 1 - front.length) :=
      fun inner => List.take_append
    rw [behindFront, behindFront, List.take_append_of_le_length (by omega),
      List.take_append_of_le_length (by omega), List.take_take, Nat.min_eq_left (Nat.sub_le _ _)]

/-- Cutting the text of a format cuts the string in it. -/
theorem cString_snprintf (size : Nat) (text : List Byte) :
    cString (snprintf size text) = snprintf size (cString text) :=
  List.take_takeWhile.symm

/-- What is sent is the whole line, cut once. -/
theorem diagnostic_eq (useErr : Bool) (err : Int) (text : List Byte) :
    diagnostic library useErr err text =
      snprintf BUF_SIZE (wholeLine (label library useErr err) (cString text)) := by
  unfold diagnostic wholeLine
  dsimp only
  rw [cString_snprintf]
  simp only [List.append_assoc]
  rw [snprintf_nested BUF_SIZE (ascii "ERROR")]
  simp only [← List.append_assoc]
  rw [List.append_assoc _ (snprintf BUF_SIZE (cString text)), snprintf_nested, ← List.append_assoc]
  rfl

/-- Cut to the size of a buffer, the whole line is a complete line exactly if nothing is cut
off, or the last byte of the message that there is room for is a newline itself. -/
theorem completeLine_snprintf_iff (label message : List Byte) :
    CompleteLine label message (snprintf BUF_SIZE (wholeLine label message)) <->
      (wholeLine label message).length ≤ BUF_SIZE - 1 ∨
        (0 < room label ∧ message[room label - 1]? = some newline) := by
  have size : BUF_SIZE - 1 = 499 := rfl
  have front : (ascii "ERROR" ++ label ++ ascii " ").length = label.length + 6 := by
    have word : (ascii "ERROR").length = 5 := rfl
    have blank : (ascii " ").length = 1 := rfl
    rw [List.length_append, List.length_append]
    omega
  have parts : wholeLine label message =
      (ascii "ERROR" ++ label ++ ascii " ") ++ (message ++ [newline]) := List.append_assoc _ _ _
  have whole : (wholeLine label message).length = label.length + 6 + (message.length + 1) := by
    rw [parts, List.length_append, front, List.length_append, List.length_singleton]
  have starts : ascii "ERROR" <+: wholeLine label message := by
    refine ⟨label ++ ascii " " ++ message ++ [newline], ?_⟩
    unfold wholeLine
    simp only [List.append_assoc]
  unfold snprintf
  rw [size]
  by_cases fits : (wholeLine label message).length ≤ 499
  · refine iff_of_true ?_ (Or.inl fits)
    rw [List.take_of_length_le fits]
    refine ⟨starts, ⟨_, parts, List.prefix_refl _⟩, fits, ?_⟩
    unfold wholeLine
    exact List.getLast?_concat
  · have cut : ((wholeLine label message).take 499).length = 499 := by
      rw [List.length_take]
      omega
    have last : ((wholeLine label message).take 499).getLast? = (wholeLine label message)[498]? := by
      rw [List.getLast?_eq_getElem?, cut, List.getElem?_take_of_lt (by decide)]
    have inMessage : 0 < room label ->
        (wholeLine label message)[498]? = message[room label - 1]? := by
      intro some
      unfold room at *
      rw [size] at some ⊢
      rw [parts, List.getElem?_append_right (by omega), front,
        List.getElem?_append_left (by omega)]
      congr 1
      omega
    constructor
    · intro complete
      refine Or.inr ?_
      have positive : 0 < room label := by
        by_contra none
        rcases complete.labelled with ⟨rest, sent, _⟩
        have lengths := congrArg List.length sent
        rw [cut, List.length_append, front] at lengths
        unfold room at none
        have nothing : rest = [] := List.length_eq_zero_iff.mp (by omega)
        have ended := complete.ended
        rw [sent, nothing, List.append_nil, show ascii " " = [32] from rfl, List.getLast?_concat] at ended
        cases ended
      refine ⟨positive, ?_⟩
      rw [← inMessage positive, ← last]
      exact complete.ended
    · rintro (short | ⟨positive, isNewline⟩)
      · exact absurd short fits
      · refine ⟨List.prefix_of_prefix_length_le starts (List.take_prefix _ _) ?_, ?_, ?_, ?_⟩
        · rw [cut]
          decide
        · refine ⟨(message ++ [newline]).take (room label), ?_, List.take_prefix _ _⟩
          unfold room at *
          rw [parts, List.take_append, front, List.take_of_length_le (by omega), size]
        · omega
        · rw [last, inMessage positive, isNewline]

theorem outputError_stderr (useErr : Bool) (err : Int) (flushStdout : Bool) (text : List Byte)
    (process : Process) :
    (outputError library useErr err flushStdout text process).stderr =
      process.stderr ++ [diagnostic library useErr err text] := by
  cases useErr <;> cases flushStdout <;> rfl

/-- `outputError` sends one complete line, and `errMsg` keeps `errno`, exactly if the whole
line fits, or the last byte of the message that there is room for is a newline. -/
theorem outputError_completeLine_iff (useErr : Bool) (err : Int) (flushStdout : Bool)
    (text : List Byte) (process : Process) :
    ((Exists fun sent =>
        (outputError library useErr err flushStdout text process).stderr = process.stderr ++ [sent] ∧
          CompleteLine (label library useErr err) (cString text) sent) ∧
      (errMsg library text process).errno = process.errno) <->
      (wholeLine (label library useErr err) (cString text)).length ≤ BUF_SIZE - 1 ∨
        (0 < room (label library useErr err) ∧
          (cString text)[room (label library useErr err) - 1]? = some newline) := by
  rw [← completeLine_snprintf_iff, ← diagnostic_eq, outputError_stderr]
  constructor
  · rintro ⟨⟨sent, same, complete⟩, _⟩
    rw [List.singleton_inj.mp (List.append_cancel_left same)]
    exact complete
  · intro complete
    exact ⟨⟨_, rfl, complete⟩, rfl⟩

/-- A library with the text of one error. -/
def oneText : Library where
  strerror _ := ⟨ascii "No such file or directory", nullFree_of_all (by decide)⟩
  errnoAfter _ errno := errno

/-- The message about a file with a long pathname. -/
def longMessage : List Byte := ascii "open " ++ List.replicate 465 97

/-- The message is cut, and the newline with it. -/
theorem longMessage_unended :
    let process : Process := ⟨2, [], [], []⟩
    (errMsg oneText longMessage process).stderr.map List.getLast? = [some 97] ∧
      ¬ ((Exists fun sent =>
          (outputError oneText true 2 true longMessage process).stderr = process.stderr ++ [sent] ∧
            CompleteLine (label oneText true 2) (cString longMessage) sent) ∧
        (errMsg oneText longMessage process).errno = process.errno) := by
  have sent : (errMsg oneText longMessage ⟨2, [], [], []⟩).stderr.map List.getLast? = [some 97] := by
    decide +kernel
  refine ⟨sent, ?_⟩
  rintro ⟨⟨line, same, complete⟩, _⟩
  have written : (errMsg oneText longMessage ⟨2, [], [], []⟩).stderr = [line] := same
  rw [written, List.map_singleton, complete.ended] at sent
  cases sent

end OutputError
end Lib
end Tlpi
