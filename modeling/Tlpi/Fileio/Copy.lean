import Tlpi.CLibrary.Files
import Tlpi.Foundations.BoundedLoop
import Tlpi.Lib.ProgramEnd

namespace Tlpi
namespace Fileio

open CLibrary Foundations Lib

/-!
# Copying a file

`copy` opens both files before it reads, and the second `open` empties the file that it
opens.  The loop goes on as long as a `read` returns something.  It is described with the
state that makes it end: the file that is read is not the one that is written, or it has
been read to its end.
-/

/-- What the next call transfers of a request, or its error. -/
def nextTransfer (answers : List Response) (request : Nat) : Except Errno Nat × List Response :=
  match answers with
  | [] => (.ok request, [])
  | .failed errno :: rest => (.error errno, rest)
  | .transfer limit :: rest => (.ok (min limit request), rest)

theorem nextTransfer_pos {answers rest : List Response} {request count : Nat}
    (positive : 0 < request) (answered : nextTransfer answers request = (.ok count, rest)) :
    0 < count := by
  unfold nextTransfer at answered
  split at answered
  · cases answered
    exact positive
  · cases answered
  · next limit _ =>
      cases answered
      exact lt_min limit.pos positive

structure CopyState where
  fs : FileSystem
  inputFd : OpenDescription
  outputFd : OpenDescription
  reads : List Response
  writes : List Response
  settled : inputFd.inode ≠ outputFd.inode ∨
    (fs.contents inputFd.inode).length ≤ inputFd.offset

/-- The state in front of the loop.  The file to be written is empty. -/
def CopyState.start (fs : FileSystem) (input output : Nat) (reads writes : List Response)
    (empty : fs.contents output = []) : CopyState where
  fs := fs
  inputFd := ⟨input, 0⟩
  outputFd := ⟨output, 0⟩
  reads := reads
  writes := writes
  settled := by
    by_cases same : input = output
    · right
      rw [same, empty]
      exact Nat.le_refl 0
    · exact Or.inl same

/-- A `read` that returns something has not reached the end. -/
theorem CopyState.lt_of_read {state : CopyState} {count : Nat}
    (more : (state.fs.read state.inputFd count).1 ≠ []) :
    state.inputFd.offset < (state.fs.contents state.inputFd.inode).length := by
  by_contra atEnd
  apply more
  unfold FileSystem.read
  dsimp only
  rw [List.drop_eq_nil_of_le (Nat.le_of_not_lt atEnd), List.take_nil]

theorem CopyState.ne_of_read {state : CopyState} {count : Nat}
    (more : (state.fs.read state.inputFd count).1 ≠ []) :
    state.inputFd.inode ≠ state.outputFd.inode := by
  rcases state.settled with different | atEnd
  · exact different
  · exact absurd atEnd (Nat.not_le.mpr (state.lt_of_read more))

/-- One turn of the loop.  It ends with the error that `copy` reports, if there is one. -/
def copyBody (dumpcore : Option String) (BUF_SIZE : PNat) (state : CopyState) :
    Control CopyState (Option Failure × FileSystem) :=
  match nextTransfer state.reads BUF_SIZE with
  | (.error errno, _) => .done (some (errExit dumpcore errno "read"), state.fs)
  | (.ok count, reads) =>
      let received := state.fs.read state.inputFd count
      if more : received.1 = [] then .done (none, state.fs)
      else
        match nextTransfer state.writes received.1.length with
        | (.error _, _) => .done (some partialWrite, state.fs)
        | (.ok written, writes) =>
            let sent := state.fs.write state.outputFd (received.1.take written)
            if written = received.1.length then
              .again ⟨sent.2, received.2, sent.1, reads, writes, .inl (state.ne_of_read more)⟩
            else .done (some partialWrite, sent.2)
where
  partialWrite : Failure := fatal dumpcore "write() returned error or partial write occurred"

/-- What a turn that is followed by another one has done: some bytes were read and all of
them written. -/
theorem copyBody_again {dumpcore : Option String} {BUF_SIZE : PNat} {state next : CopyState}
    (turn : copyBody dumpcore BUF_SIZE state = .again next) :
    Exists fun count => (state.fs.read state.inputFd count).1 ≠ [] ∧
      next.inputFd = (state.fs.read state.inputFd count).2 ∧
      next.outputFd =
        (state.fs.write state.outputFd (state.fs.read state.inputFd count).1).1 ∧
      next.fs = (state.fs.write state.outputFd (state.fs.read state.inputFd count).1).2 := by
  unfold copyBody at turn
  split at turn
  · cases turn
  · next count reads _ =>
      dsimp only at turn
      split at turn
      · cases turn
      · next more =>
          split at turn
          · cases turn
          · split at turn
            · next complete =>
                cases turn
                refine ⟨count, more, rfl, ?_, ?_⟩
                · dsimp only
                  rw [complete, List.take_length]
                · dsimp only
                  rw [complete, List.take_length]
            · cases turn

/-- The loop ends without an error at the end of the file that is read. -/
theorem copyBody_done {dumpcore : Option String} {BUF_SIZE : PNat} {state : CopyState}
    {after : FileSystem} (turn : copyBody dumpcore BUF_SIZE state = .done (none, after)) :
    after = state.fs ∧
      (state.fs.contents state.inputFd.inode).length ≤ state.inputFd.offset := by
  unfold copyBody at turn
  split at turn
  · cases turn
  · next count reads answered =>
      dsimp only at turn
      split at turn
      · next none =>
          cases turn
          refine ⟨rfl, ?_⟩
          unfold FileSystem.read at none
          have positive := nextTransfer_pos BUF_SIZE.pos answered
          rcases List.take_eq_nil_iff.mp none with zero | atEnd
          · omega
          · exact List.drop_eq_nil_iff.mp atEnd
      · split at turn
        · cases turn
        · split at turn
          · cases turn
          · cases turn

/-- The loop, which reads at least one byte in every turn that is not the last. -/
def copyLoop (dumpcore : Option String) (BUF_SIZE : PNat) :
    BoundedLoop CopyState (Option Failure × FileSystem) where
  body := copyBody dumpcore BUF_SIZE
  variant state := (state.fs.contents state.inputFd.inode).length - state.inputFd.offset
  decreases := by
    intro state next turn
    rcases copyBody_again turn with ⟨count, more, input, _, fs⟩
    have within := state.lt_of_read more
    have different := state.ne_of_read more
    have stored : next.fs.contents state.inputFd.inode =
        state.fs.contents state.inputFd.inode := by
      rw [fs]
      exact FileSystem.store_contents_of_ne different
    have some := List.length_pos_iff.mpr more
    have inode : next.inputFd.inode = state.inputFd.inode := by rw [input]; rfl
    have offset : next.inputFd.offset =
        state.inputFd.offset + (state.fs.read state.inputFd count).1.length := by rw [input]; rfl
    rw [inode, stored, offset]
    omega

/-- The answers to the calls of `copy`. -/
structure CopyAnswers where
  openInput : Option Errno
  openOutput : Option Errno
  reads : List Response
  writes : List Response
  closeInput : Option Errno
  closeOutput : Option Errno

theorem openFile_empty {fs after : FileSystem} {failure : Option Errno} {path : List Byte}
    {file : OpenDescription}
    (opened : fs.openFile failure path ⟨true, true⟩ = .ok (file, after)) :
    after.contents file.inode = [] := by
  unfold FileSystem.openFile at opened
  split at opened
  · cases opened
  · split at opened
    · cases opened
      exact FileSystem.store_contents_self _ _ _
    · cases opened
      exact FileSystem.create_contents_self _ _

/-- The part of `copy` behind the loop. -/
def finish (dumpcore : Option String) (answers : CopyAnswers)
    (result : Option Failure × FileSystem) : ProgramEnd × FileSystem :=
  match result.1 with
  | some failure => (.failed failure, result.2)
  | none =>
      match answers.closeInput with
      | some errno => (.failed (errExit dumpcore errno "close input"), result.2)
      | none =>
          match answers.closeOutput with
          | some errno => (.failed (errExit dumpcore errno "close output"), result.2)
          | none => (.success, result.2)

def copy (dumpcore : Option String) (BUF_SIZE : PNat) (argv : List (List Byte))
    (answers : CopyAnswers) (fs : FileSystem) : ProgramEnd × FileSystem :=
  let usage (program : List Byte) : ProgramEnd × FileSystem :=
    (usageErr (program ++ ascii " old-file new-file"), fs)
  match argv with
  | [program, oldFile, newFile] =>
      if oldFile = ascii "--help" then usage program
      else
        match fs.openFile answers.openInput oldFile ⟨false, false⟩ with
        | .error errno =>
            (.failed (errExit dumpcore errno ("opening file " ++ textOf oldFile)), fs)
        | .ok (inputFd, opened) =>
            match output : opened.openFile answers.openOutput newFile ⟨true, true⟩ with
            | .error errno =>
                (.failed (errExit dumpcore errno ("opening file " ++ textOf newFile)), opened)
            | .ok (outputFd, ready) =>
                finish dumpcore answers ((copyLoop dumpcore BUF_SIZE).run
                  (.start ready inputFd.inode outputFd.inode answers.reads answers.writes
                    (openFile_empty output)))
  | program :: _ => usage program
  | [] => usage []

/-! ## The two calls of `open` -/

section

variable {fs after : FileSystem} {failure : Option Errno} {path : List Byte}
  {file : OpenDescription}

theorem openFile_reading (opened : fs.openFile failure path ⟨false, false⟩ = .ok (file, after)) :
    after = fs ∧ fs.inodeOf path = some file.inode := by
  unfold FileSystem.openFile at opened
  split at opened
  · cases opened
  · split at opened
    · next found =>
        cases opened
        exact ⟨rfl, found⟩
    · cases opened

theorem openFile_writing (opened : fs.openFile failure path ⟨true, true⟩ = .ok (file, after)) :
    after.inodeOf path = some file.inode ∧
      forall inode, inode < fs.next -> after.contents inode =
        if fs.inodeOf path = some inode then [] else fs.contents inode := by
  unfold FileSystem.openFile at opened
  split at opened
  · cases opened
  · split at opened
    · next target found =>
        cases opened
        refine ⟨found, fun inode _ => ?_⟩
        by_cases same : inode = target
        · rw [found, same, if_pos rfl, if_pos rfl]
          exact FileSystem.store_contents_self _ _ _
        · rw [found, if_neg (fun equal => same (Option.some.inj equal).symm)]
          exact FileSystem.store_contents_of_ne same
    · next absent =>
        cases opened
        refine ⟨FileSystem.create_inodeOf_self _ _, fun inode old => ?_⟩
        rw [absent, if_neg (fun equal => by cases equal)]
        exact FileSystem.create_contents_of_lt old

theorem openFile_creating (fs : FileSystem) (path : List Byte) (errno : Errno) :
    fs.openFile none path ⟨true, true⟩ ≠ .error errno := by
  intro refused
  unfold FileSystem.openFile at refused
  dsimp only at refused
  split at refused
  · cases refused
  · cases refused

end

/-! ## What is in the files afterwards -/

/-- The names are as in another file system. -/
structure SameNames (before after : FileSystem) : Prop where
  locate : after.locate = before.locate
  entries : after.entries = before.entries

theorem SameNames.inodeOf {before after : FileSystem} (same : SameNames before after)
    (path : List Byte) : after.inodeOf path = before.inodeOf path := by
  unfold FileSystem.inodeOf
  rw [same.locate, same.entries]

/-- In front of a turn, the file that is written has what was taken from the file that is
read. -/
structure Copied (before : FileSystem) (input output : Nat) (state : CopyState) : Prop where
  names : SameNames before state.fs
  reading : state.inputFd.inode = input
  writing : state.outputFd.inode = output
  unchanged : state.fs.contents input = before.contents input
  copied : state.fs.contents output = (before.contents input).take state.inputFd.offset
  atEnd : state.outputFd.offset = (state.fs.contents output).length

/-- A turn adds what it reads. -/
theorem Copied.again {before : FileSystem} {input output : Nat} {dumpcore : Option String}
    {BUF_SIZE : PNat} {state next : CopyState} (copied : Copied before input output state)
    (turn : copyBody dumpcore BUF_SIZE state = .again next) : Copied before input output next := by
  rcases copyBody_again turn with ⟨count, more, received, sent, stored⟩
  have different := state.ne_of_read more
  rw [copied.reading, copied.writing] at different
  have bytes : (state.fs.read state.inputFd count).1 =
      ((before.contents input).drop state.inputFd.offset).take count := by
    unfold FileSystem.read
    dsimp only
    rw [copied.reading, copied.unchanged]
  have offset : next.inputFd.offset =
      state.inputFd.offset + (state.fs.read state.inputFd count).1.length := by
    rw [received]
    rfl
  generalize (state.fs.read state.inputFd count).1 = chunk at bytes offset sent stored
  have outputFd : next.outputFd =
      ⟨output, (state.fs.contents output).length + chunk.length⟩ := by
    rw [sent]
    unfold FileSystem.write
    dsimp only
    rw [copied.writing, copied.atEnd]
  have fs : next.fs = state.fs.store output (state.fs.contents output ++ chunk) := by
    rw [stored]
    unfold FileSystem.write
    dsimp only
    rw [copied.writing, copied.atEnd, overwrite_end]
  refine ⟨?_, ?_, ?_, ?_, ?_, ?_⟩
  · rw [fs]
    exact ⟨copied.names.locate, copied.names.entries⟩
  · rw [received]
    exact copied.reading
  · rw [outputFd]
  · rw [fs, FileSystem.store_contents_of_ne different, copied.unchanged]
  · rw [fs, FileSystem.store_contents_self, copied.copied, offset, List.take_add, bytes,
      List.length_take, ← List.take_eq_take_min]
  · rw [outputFd, fs, FileSystem.store_contents_self, List.length_append]

/-- What the loop leaves when it ends without an error: the whole of what was in the file
that is read. -/
theorem copyLoop_copied {before : FileSystem} {input output : Nat} {dumpcore : Option String}
    {BUF_SIZE : PNat} {state : CopyState} (copied : Copied before input output state)
    {after : FileSystem} (ended : (copyLoop dumpcore BUF_SIZE).run state = (none, after)) :
    SameNames before after ∧ after.contents output = before.contents input := by
  revert copied ended
  apply (copyLoop dumpcore BUF_SIZE).run_relation (motive := fun state result =>
    Copied before input output state -> result = (none, after) ->
      SameNames before after ∧ after.contents output = before.contents input)
  · rintro state result turn copied rfl
    rcases copyBody_done turn with ⟨rfl, atEnd⟩
    rw [copied.reading, copied.unchanged] at atEnd
    exact ⟨copied.names, copied.copied.trans (List.take_of_length_le atEnd)⟩
  · intro state next result turn inductionHypothesis copied ended
    exact inductionHypothesis (copied.again turn) ended

/-- Without failures and short transfers the loop ends without an error. -/
theorem copyLoop_succeeds {dumpcore : Option String} {BUF_SIZE : PNat} {state : CopyState}
    (reads : state.reads = []) (writes : state.writes = []) :
    ((copyLoop dumpcore BUF_SIZE).run state).1 = none := by
  revert reads writes
  apply (copyLoop dumpcore BUF_SIZE).run_relation (motive := fun state result =>
    state.reads = [] -> state.writes = [] -> result.1 = none)
  · intro state result turn reads writes
    change copyBody dumpcore BUF_SIZE state = .done result at turn
    unfold copyBody at turn
    rw [reads, writes] at turn
    simp only [nextTransfer, if_true] at turn
    split at turn
    · cases turn
      rfl
    · cases turn
  · intro state next result turn inductionHypothesis reads writes
    change copyBody dumpcore BUF_SIZE state = .again next at turn
    unfold copyBody at turn
    rw [reads, writes] at turn
    simp only [nextTransfer, if_true] at turn
    split at turn
    · cases turn
    · cases turn
      exact inductionHypothesis rfl rfl

theorem finish_success {dumpcore : Option String} {answers : CopyAnswers}
    {result : Option Failure × FileSystem} {after : FileSystem}
    (succeeded : finish dumpcore answers result = (.success, after)) : result = (none, after) := by
  unfold finish at succeeded
  split at succeeded
  · cases succeeded
  · next ended =>
      split at succeeded
      · cases succeeded
      · split at succeeded
        · cases succeeded
        · exact Prod.ext ended (Prod.mk.inj succeeded).2

section

variable {dumpcore : Option String} {BUF_SIZE : PNat} {program oldFile newFile : List Byte}
  {answers : CopyAnswers} {fs after : FileSystem}

/-- What a run that succeeds leaves in the new file: what was in the old one, unless both
names are of one file. -/
theorem copy_success
    (succeeded : copy dumpcore BUF_SIZE [program, oldFile, newFile] answers fs = (.success, after)) :
    oldFile ≠ ascii "--help" ∧ Exists fun input => fs.inodeOf oldFile = some input ∧
      after.contentAt newFile =
        some (if fs.inodeOf newFile = some input then [] else fs.contents input) := by
  unfold copy at succeeded
  dsimp only at succeeded
  split at succeeded
  · cases succeeded
  · next notHelp =>
      refine ⟨notHelp, ?_⟩
      split at succeeded
      · cases succeeded
      · next inputFd opened reading =>
          rcases openFile_reading reading with ⟨rfl, found⟩
          split at succeeded
          · cases succeeded
          · next outputFd ready writing =>
              rcases openFile_writing writing with ⟨named, emptied⟩
              have ended := finish_success succeeded
              have start : Copied ready inputFd.inode outputFd.inode
                  (.start ready inputFd.inode outputFd.inode answers.reads answers.writes
                    (openFile_empty writing)) := by
                have empty := openFile_empty writing
                refine ⟨⟨rfl, rfl⟩, rfl, rfl, rfl, ?_, ?_⟩
                · exact empty.trans (List.take_zero).symm
                · exact (congrArg List.length empty).symm
              rcases copyLoop_copied start ended with ⟨names, copied⟩
              refine ⟨inputFd.inode, found, ?_⟩
              rw [FileSystem.contentAt_of_inodeOf ((names.inodeOf newFile).trans named), copied,
                emptied _ (opened.bound _ _ found)]

/-- A run in which nothing fails succeeds. -/
theorem copy_granting {input : Nat} (notHelp : oldFile ≠ ascii "--help")
    (found : fs.inodeOf oldFile = some input) :
    (copy dumpcore BUF_SIZE [program, oldFile, newFile] ⟨none, none, [], [], none, none⟩ fs).1 =
      .success := by
  have reading : fs.openFile none oldFile ⟨false, false⟩ = .ok (⟨input, 0⟩, fs) := by
    simp only [FileSystem.openFile, found, Bool.false_eq_true, if_false]
  unfold copy
  dsimp only
  rw [if_neg notHelp, reading]
  dsimp only
  split
  · next errno refused => exact absurd refused (openFile_creating fs newFile errno)
  · next outputFd ready writing =>
      have ended : ((copyLoop dumpcore BUF_SIZE).run (.start ready input outputFd.inode [] []
          (openFile_empty writing))).1 = none := copyLoop_succeeds rfl rfl
      unfold finish
      rw [ended]

end

/-- What `copy` promises for two names: whatever the size of its buffer and the answers to
its calls, if it succeeds then the new file has what was in the old one at the start. -/
def CopyFaithful (dumpcore : Option String) (program oldFile newFile : List Byte)
    (fs : FileSystem) : Prop :=
  forall (BUF_SIZE : PNat) (answers : CopyAnswers) (after : FileSystem),
    copy dumpcore BUF_SIZE [program, oldFile, newFile] answers fs = (.success, after) ->
      after.contentAt newFile = fs.contentAt oldFile

/-- `copy` keeps its promise exactly if the names are not of one file, or there is nothing
in that file.  The name `--help` is never opened. -/
theorem copy_faithful_iff (dumpcore : Option String) (program oldFile newFile : List Byte)
    (fs : FileSystem) :
    CopyFaithful dumpcore program oldFile newFile fs <->
      oldFile = ascii "--help" ∨ forall inode, fs.inodeOf oldFile = some inode ->
        fs.inodeOf newFile = some inode -> fs.contents inode = [] := by
  constructor
  · intro faithful
    by_cases help : oldFile = ascii "--help"
    · exact Or.inl help
    · right
      intro inode old new
      have succeeded : copy dumpcore 1 [program, oldFile, newFile] ⟨none, none, [], [], none, none⟩
          fs = (.success, _) := Prod.ext (copy_granting help old) rfl
      have equal := faithful 1 _ _ succeeded
      rcases copy_success succeeded with ⟨_, input, found, left⟩
      rw [old] at found
      cases found
      rw [left, if_pos new, FileSystem.contentAt_of_inodeOf old] at equal
      exact (Option.some.inj equal).symm
  · intro apart BUF_SIZE answers after succeeded
    rcases copy_success succeeded with ⟨notHelp, input, found, left⟩
    rcases apart with help | apart
    · exact absurd help notHelp
    · rw [left, FileSystem.contentAt_of_inodeOf found]
      split
      · next new => rw [apart input found new]
      · rfl

/-- A file with one byte, which has the names `a` and `b`. -/
def linkedNames : FileSystem := .oneFile [120]

/-- Copying a file to another name of it empties it and succeeds. -/
theorem copy_empties : ¬ CopyFaithful none (ascii "copy") (ascii "a") (ascii "b") linkedNames := by
  intro faithful
  have ran : (copy none 1 [ascii "copy", ascii "a", ascii "b"] ⟨none, none, [], [], none, none⟩
      linkedNames).1 = .success := copy_granting (by decide) (by rfl)
  have succeeded : copy none 1 [ascii "copy", ascii "a", ascii "b"]
      ⟨none, none, [], [], none, none⟩ linkedNames = (.success, _) := Prod.ext ran rfl
  have equal := faithful 1 _ _ succeeded
  rcases copy_success succeeded with ⟨_, input, found, left⟩
  have only : some 0 = some input := found
  cases only
  rw [left] at equal
  exact absurd equal (by decide)

end Fileio
end Tlpi
