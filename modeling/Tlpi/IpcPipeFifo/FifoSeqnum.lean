import Mathlib.Logic.Function.Basic
import Tlpi.CLibrary.Fifo
import Tlpi.Foundations.Transition
import Tlpi.Lib.ErrorFunctions
import Tlpi.Lib.GetNum

namespace Tlpi
namespace IpcPipeFifo

open CLibrary Foundations Lib

universe u

/-!
# The FIFO sequence-number service

Clients send their requests through one well-known FIFO.  Each makes a FIFO of
its own for the reply, whose name is built from its PID, and the server finds it
by the PID in the request.  The server hands out consecutive ranges of one
counter.

The machine below interleaves the steps of the server loop with those of any
number of clients.  Every system call is a step and may fail, and a client may
terminate at any time.  Two clients that run at the same time have different
PIDs, but a PID may be used again after its client has ended.  A request also
records who sent it, and the server keeps a list of the requests it has
handled; the program has neither, and no step depends on them.
-/

/-! ## Names and messages -/

/-- The template of client FIFO names, without its conversion `%ld`. -/
def CLIENT_FIFO_PREFIX : List Byte := ascii "/tmp/seqnum_cl."

/-- `sizeof(CLIENT_FIFO_TEMPLATE) + 20`, where the template with its conversion
and its null byte takes four bytes more than the text above. -/
def CLIENT_FIFO_NAME_LEN : Nat := CLIENT_FIFO_PREFIX.length + 4 + 20

def SERVER_FIFO : String := "/tmp/seqnum_sv"

/-- The name of the FIFO of the client with a PID. -/
def clientFifoName (pid : Int) : List Byte :=
  snprintf CLIENT_FIFO_NAME_LEN (CLIENT_FIFO_PREFIX ++ renderInt pid)

/-- A `struct request`, with the client that sent it. -/
structure Request (Client : Type u) where
  pid : Int
  seqLen : Int
  sender : Client
deriving DecidableEq, Repr

/-- A request the server has handled: the start and the length of the range it
reserved, and the client whose request it was. -/
structure Handled (Client : Type u) where
  client : Client
  start : Int
  length : Int
deriving DecidableEq, Repr

/-! ## The parties -/

inductive Ending where
  | normal
  | rejected (diagnostic : List Byte)
  | failed (failure : Failure)
  | terminated (termination : Termination)
deriving DecidableEq, Repr

/-- Whether the handlers registered with `atexit` run. -/
def Ending.runsHandlers : Ending -> Bool
  | .normal | .rejected _ => true
  | .failed failure => failure.termination.runsHandlers
  | .terminated termination => termination.runsHandlers

/-- The positions of a client, named after what comes next.  An opener of the
reply FIFO that waits for the server keeps the count of opens it saw. -/
inductive ClientPc where
  | notStarted
  | makingFifo
  | registering
  | parsing
  | openingServer (seqLen : Int)
  | sending (seqLen : Int)
  | openingReply
  | awaitingWriter (fifo seen : Nat)
  | reading (fifo : Nat)
  | printing (fifo : Nat) (seqNum : Int)
  | exiting (fifo : Nat)
  | exited (ending : Ending)
deriving DecidableEq, Repr

/-- The positions of the server in its loop, and its end. -/
inductive ServerPc (Client : Type u) where
  | reading
  | opening (req : Request Client)
  | awaitingReader (req : Request Client) (fifo seen : Nat)
  | writing (req : Request Client) (fifo : Nat)
  | closing (req : Request Client) (fifo : Nat)
  | updating (req : Request Client)
  | terminated (failure : Failure)
deriving DecidableEq, Repr

/-- What the parties are started with.  A PID is a positive `int`. -/
structure Setup (Client : Type u) where
  progName : List Byte
  pid : Client -> Int
  pid_range : forall client, 0 < pid client ∧ pid client ≤ INT_MAX
  argument : Client -> Option (List Byte)
  dumpcore : Client -> Option String
  serverDumpcore : Option String

/-- The server, the clients, the file system as far as reply FIFOs are
concerned, and the contents of the server's FIFO. -/
structure World (Client : Type u) where
  server : ServerPc Client
  seqNum : Int
  queue : List (Request Client)
  clients : Client -> ClientPc
  alive : List Client
  directory : List Byte -> Option Nat
  fifos : Nat -> Fifo Int
  nextFifo : Nat
  handled : List (Handled Client)
  printed : Client -> Option Int
  diagnostics : List String

/-- What the kernel answers to a call. -/
inductive Outcome where
  | success
  | failure (errno : Errno)
deriving DecidableEq, Repr

inductive Action (Client : Type u) where
  | server (outcome : Outcome)
  | client (client : Client) (outcome : Outcome)
  | terminate (client : Client) (termination : Termination)
deriving DecidableEq, Repr

variable {Client : Type u} [DecidableEq Client]

namespace Setup

variable (setup : Setup Client)

def fifoName (client : Client) : List Byte := clientFifoName (setup.pid client)

/-- The length a client asks for: its argument if it has one, else one. -/
def seqLen (client : Client) : Except (List Byte) Int :=
  match setup.argument client with
  | none => .ok 1
  | some text => getInt (some text) GN_GT_0 (some "seq-len")

end Setup

/-! ## Changes to the world -/

namespace World

def moveClient (world : World Client) (client : Client) (pc : ClientPc) : World Client :=
  { world with clients := Function.update world.clients client pc }

def setFifo (world : World Client) (fifo : Nat) (next : Fifo Int) : World Client :=
  { world with fifos := Function.update world.fifos fifo next }

/-- Write a request whole into the server's FIFO. -/
def send (world : World Client) (req : Request Client) : World Client :=
  { world with queue := world.queue ++ [req] }

def report (world : World Client) (message : String) : World Client :=
  { world with diagnostics := world.diagnostics ++ [message] }

end World

/-! ## The client -/

namespace ClientPc

/-- `removeFifo` has been registered with `atexit`. -/
def registered : ClientPc -> Bool
  | .notStarted | .makingFifo | .registering | .exited _ => false
  | _ => true

/-- The FIFO whose read end the client holds. -/
def reader : ClientPc -> Option Nat
  | .awaitingWriter fifo _ | .reading fifo | .printing fifo _ | .exiting fifo => some fifo
  | _ => none

end ClientPc

namespace World

variable (setup : Setup Client)

/-- The handler that the client registers: `unlink(clientFifo)`. -/
def removeFifo (world : World Client) (client : Client) : World Client :=
  { world with directory := Function.update world.directory (setup.fifoName client) none }

def closeReply (world : World Client) (client : Client) : World Client :=
  match (world.clients client).reader with
  | none => world
  | some fifo => world.setFifo fifo (world.fifos fifo).closeReader

/-- The end of a client.  Its handler runs if it is registered and the ending
lets it. -/
def leave (world : World Client) (client : Client) (ending : Ending) : World Client :=
  let closed := world.closeReply client
  let removed := if (world.clients client).registered && ending.runsHandlers then
      closed.removeFifo setup client
    else closed
  { removed.moveClient client (.exited ending) with alive := world.alive.erase client }

/-- The end of a client that reports a failed call. -/
def errExitClient (world : World Client) (client : Client) (errno : Errno) (message : String) :
    World Client :=
  world.leave setup client (.failed (errExit (setup.dumpcore client) errno message))

/-- The end of a client that reports a message. -/
def fatalClient (world : World Client) (client : Client) (message : String) : World Client :=
  world.leave setup client (.failed (fatal (setup.dumpcore client) message))

def create (world : World Client) (name : List Byte) : World Client :=
  { world.setFifo world.nextFifo Fifo.empty with
    directory := Function.update world.directory name (some world.nextFifo)
    nextFifo := world.nextFifo + 1 }

/-- `mkfifo`.  A FIFO that exists already is used as it is, which is what the
test for `EEXIST` is for. -/
def mkfifo (world : World Client) (name : List Byte) : World Client :=
  if world.directory name = none then world.create name else world

/-- Whether the server holds the read end of its FIFO. -/
def serverRuns (world : World Client) : Bool :=
  match world.server with
  | .terminated _ => false
  | _ => true

def clientStep (world : World Client) (client : Client) (outcome : Outcome) :
    Option (World Client) :=
  match world.clients client, outcome with
  | .notStarted, .success =>
      if setup.argument client = some (ascii "--help") then
        some (world.moveClient client
          (.exited (.rejected (ascii "Usage: " ++ setup.progName ++ ascii " [seq-len]\n"))))
      else if forall other, other ∈ world.alive -> setup.pid other ≠ setup.pid client then
        some { world.moveClient client .makingFifo with alive := client :: world.alive }
      else none
  | .makingFifo, .success =>
      some ((world.mkfifo (setup.fifoName client)).moveClient client .registering)
  | .makingFifo, .failure errno =>
      if errno ≠ .EEXIST then
        some (world.errExitClient setup client errno
          ("mkfifo " ++ textOf (setup.fifoName client)))
      else none
  | .registering, .success => some (world.moveClient client .parsing)
  | .registering, .failure errno => some (world.errExitClient setup client errno "atexit")
  | .parsing, .success =>
      match setup.seqLen client with
      | .error diagnostic => some (world.leave setup client (.rejected diagnostic))
      | .ok seqLen => some (world.moveClient client (.openingServer seqLen))
  | .openingServer seqLen, .success =>
      if world.serverRuns then some (world.moveClient client (.sending seqLen)) else none
  | .openingServer _, .failure errno =>
      some (world.errExitClient setup client errno ("open " ++ SERVER_FIFO))
  | .sending seqLen, .success =>
      if world.serverRuns then
        some ((world.send ⟨setup.pid client, seqLen, client⟩).moveClient client .openingReply)
      else none
  | .sending _, .failure _ => some (world.fatalClient setup client "Can't write to server")
  | .openingReply, .success =>
      match world.directory (setup.fifoName client) with
      | none =>
          some (world.errExitClient setup client .ENOENT
            ("open " ++ textOf (setup.fifoName client)))
      | some fifo =>
          some ((world.setFifo fifo (world.fifos fifo).openReader).moveClient client
            (.awaitingWriter fifo (world.fifos fifo).writerOpens))
  | .openingReply, .failure errno | .awaitingWriter _ _, .failure errno =>
      some (world.errExitClient setup client errno ("open " ++ textOf (setup.fifoName client)))
  | .awaitingWriter fifo seen, .success =>
      if (world.fifos fifo).readerReady seen then some (world.moveClient client (.reading fifo))
      else none
  | .reading fifo, .success =>
      match (world.fifos fifo).data with
      | seqNum :: _ =>
          some ((world.setFifo fifo (world.fifos fifo).pop).moveClient client
            (.printing fifo seqNum))
      | [] =>
          if (world.fifos fifo).writers = 0 then
            some (world.fatalClient setup client "Can't read response from server")
          else none
  | .reading _, .failure _ =>
      some (world.fatalClient setup client "Can't read response from server")
  | .printing fifo seqNum, .success =>
      some ({ world with
        printed := Function.update world.printed client (some seqNum) }.moveClient client
          (.exiting fifo))
  | .printing fifo _, .failure _ => some (world.moveClient client (.exiting fifo))
  | .exiting _, .success => some (world.leave setup client .normal)
  | _, _ => none

/-! ## The server -/

/-- The end of the server, which reports a failed `open` of a client's FIFO. -/
def errExitServer (world : World Client) (req : Request Client) (errno : Errno) : World Client :=
  { world with server := .terminated (errExit setup.serverDumpcore errno
      ("open " ++ textOf (clientFifoName req.pid))) }

/-- The reply: `write`, which fails when nobody holds the read end. -/
def reply (world : World Client) (req : Request Client) (fifo : Nat) (outcome : Outcome) :
    World Client :=
  if outcome = .success ∧ (world.fifos fifo).readers ≠ 0 then
    world.setFifo fifo ((world.fifos fifo).push world.seqNum)
  else world.report ("Error writing to FIFO " ++ textOf (clientFifoName req.pid))

def serverStep (world : World Client) (outcome : Outcome) : Option (World Client) :=
  match world.server with
  | .reading =>
      match outcome with
      | .failure _ => some (world.report "Error reading request; discarding")
      | .success =>
          match world.queue with
          | [] => none
          | req :: rest => some { world with queue := rest, server := .opening req }
  | .opening req =>
      match outcome with
      | .failure errno => some (world.errExitServer setup req errno)
      | .success =>
          match world.directory (clientFifoName req.pid) with
          | none => some (world.errExitServer setup req .ENOENT)
          | some fifo =>
              some { world.setFifo fifo (world.fifos fifo).openWriter with
                server := .awaitingReader req fifo (world.fifos fifo).readerOpens }
  | .awaitingReader req fifo seen =>
      match outcome with
      | .failure errno =>
          some ((world.setFifo fifo (world.fifos fifo).closeWriter).errExitServer setup req errno)
      | .success =>
          if (world.fifos fifo).writerReady seen then
            some { world with
              server := .writing req fifo
              handled := world.handled ++ [⟨req.sender, world.seqNum, req.seqLen⟩] }
          else none
  | .writing req fifo => some { world.reply req fifo outcome with server := .closing req fifo }
  | .closing req fifo =>
      let closed := world.setFifo fifo (world.fifos fifo).closeWriter
      let reported := if outcome = .success then closed else closed.report "close"
      some { reported with server := .updating req }
  | .updating req =>
      some { world with server := .reading, seqNum := toInt (world.seqNum + req.seqLen) }
  | .terminated _ => none

def step (world : World Client) (action : Action Client) : Option (World Client) :=
  match action with
  | .server outcome => world.serverStep setup outcome
  | .client client outcome => world.clientStep setup client outcome
  | .terminate client termination =>
      match world.clients client with
      | .notStarted | .exited _ => none
      | _ => some (world.leave setup client (.terminated termination))

end World

/-- The world when the server has reached its loop and before any client is
started.  FIFOs may be left from earlier clients; no one holds them.  The server
reaches its loop when a first client opens the server's FIFO, and its set-up
changes nothing that a client sees: what clients do during the set-up counts as
done after it. -/
structure Fresh (world : World Client) : Prop where
  server : world.server = .reading
  seqNum : world.seqNum = 0
  queue : world.queue = []
  clients : forall client, world.clients client = .notStarted
  alive : world.alive = []
  fifos : forall fifo, world.fifos fifo = Fifo.empty
  handled : world.handled = []
  printed : forall client, world.printed client = none
  named : forall name fifo, world.directory name = some fifo -> fifo < world.nextFifo
  distinct : forall left right fifo, world.directory left = some fifo ->
    world.directory right = some fifo -> left = right

def service (setup : Setup Client) : Machine (World Client) (Action Client) where
  Initial := Fresh
  step := World.step setup

/-! ## What a step can do -/

namespace ClientPc

def running : ClientPc -> Bool
  | .notStarted | .exited _ => false
  | _ => true

/-- The client is running and has not yet sent its request. -/
def early : ClientPc -> Bool
  | .makingFifo | .registering | .parsing | .openingServer _ | .sending _ => true
  | _ => false

/-- The client has sent its request and has not yet opened its FIFO. -/
def opening : ClientPc -> Bool
  | .openingReply | .awaitingWriter _ _ => true
  | _ => false

/-- The client has sent its request and has not yet read the reply. -/
def waiting : ClientPc -> Bool
  | .openingReply | .awaitingWriter _ _ | .reading _ => true
  | _ => false

end ClientPc

namespace World

/-- The steps of the server.  A step that leaves the loop comes from a failed
`open`. -/
inductive ServerMoves (setup : Setup Client) (world : World Client) (outcome : Outcome) :
    World Client -> Prop
  | discard (pc : world.server = .reading) (message : String) :
      ServerMoves setup world outcome (world.report message)
  | take {req : Request Client} {rest : List (Request Client)} (pc : world.server = .reading)
      (received : world.queue = req :: rest) :
      ServerMoves setup world outcome { world with queue := rest, server := .opening req }
  | openFailed {req : Request Client} (pc : world.server = .opening req) (errno : Errno)
      (cause : outcome ≠ .success ∨ world.directory (clientFifoName req.pid) = none) :
      ServerMoves setup world outcome (world.errExitServer setup req errno)
  | openFound {req : Request Client} {fifo : Nat} (pc : world.server = .opening req)
      (succeeds : outcome = .success)
      (named : world.directory (clientFifoName req.pid) = some fifo) :
      ServerMoves setup world outcome
        { world.setFifo fifo (world.fifos fifo).openWriter with
          server := .awaitingReader req fifo (world.fifos fifo).readerOpens }
  | openInterrupted {req : Request Client} {fifo seen : Nat}
      (pc : world.server = .awaitingReader req fifo seen) (errno : Errno)
      (cause : outcome ≠ .success) :
      ServerMoves setup world outcome
        ((world.setFifo fifo (world.fifos fifo).closeWriter).errExitServer setup req errno)
  | openReturns {req : Request Client} {fifo seen : Nat}
      (pc : world.server = .awaitingReader req fifo seen) (succeeds : outcome = .success) :
      ServerMoves setup world outcome
        { world with
          server := .writing req fifo
          handled := world.handled ++ [⟨req.sender, world.seqNum, req.seqLen⟩] }
  | write {req : Request Client} {fifo : Nat} (pc : world.server = .writing req fifo) :
      ServerMoves setup world outcome
        { world.reply req fifo outcome with server := .closing req fifo }
  | close {req : Request Client} {fifo : Nat} (pc : world.server = .closing req fifo)
      (messages : List String) :
      ServerMoves setup world outcome
        { world.setFifo fifo (world.fifos fifo).closeWriter with
          server := .updating req
          diagnostics := messages }
  | update {req : Request Client} (pc : world.server = .updating req) :
      ServerMoves setup world outcome
        { world with server := .reading, seqNum := toInt (world.seqNum + req.seqLen) }

/-- The steps of a client by its own program. -/
inductive ClientMoves (setup : Setup Client) (world : World Client) (client : Client)
    (outcome : Outcome) : World Client -> Prop
  | usage (pc : world.clients client = .notStarted) (ending : Ending) :
      ClientMoves setup world client outcome (world.moveClient client (.exited ending))
  | begin (pc : world.clients client = .notStarted)
      (distinct : forall other, other ∈ world.alive -> setup.pid other ≠ setup.pid client) :
      ClientMoves setup world client outcome
        { world.moveClient client .makingFifo with alive := client :: world.alive }
  | make (pc : world.clients client = .makingFifo) :
      ClientMoves setup world client outcome
        ((world.mkfifo (setup.fifoName client)).moveClient client .registering)
  | register (pc : world.clients client = .registering) :
      ClientMoves setup world client outcome (world.moveClient client .parsing)
  | parse {seqLen : Int} (pc : world.clients client = .parsing)
      (accepted : setup.seqLen client = .ok seqLen) :
      ClientMoves setup world client outcome (world.moveClient client (.openingServer seqLen))
  | openServer {seqLen : Int} (pc : world.clients client = .openingServer seqLen) :
      ClientMoves setup world client outcome (world.moveClient client (.sending seqLen))
  | send {seqLen : Int} (pc : world.clients client = .sending seqLen) :
      ClientMoves setup world client outcome
        ((world.send ⟨setup.pid client, seqLen, client⟩).moveClient client .openingReply)
  | openReply {fifo : Nat} (pc : world.clients client = .openingReply)
      (named : world.directory (setup.fifoName client) = some fifo) :
      ClientMoves setup world client outcome
        ((world.setFifo fifo (world.fifos fifo).openReader).moveClient client
          (.awaitingWriter fifo (world.fifos fifo).writerOpens))
  | writerCame {fifo seen : Nat} (pc : world.clients client = .awaitingWriter fifo seen)
      (ready : (world.fifos fifo).readerReady seen = true) :
      ClientMoves setup world client outcome (world.moveClient client (.reading fifo))
  | read {fifo : Nat} {seqNum : Int} {rest : List Int} (pc : world.clients client = .reading fifo)
      (received : (world.fifos fifo).data = seqNum :: rest) :
      ClientMoves setup world client outcome
        ((world.setFifo fifo (world.fifos fifo).pop).moveClient client (.printing fifo seqNum))
  | print {fifo : Nat} {seqNum : Int} (pc : world.clients client = .printing fifo seqNum) :
      ClientMoves setup world client outcome
        ({ world with
          printed := Function.update world.printed client (some seqNum) }.moveClient client
            (.exiting fifo))
  | printFailed {fifo : Nat} {seqNum : Int} (pc : world.clients client = .printing fifo seqNum) :
      ClientMoves setup world client outcome (world.moveClient client (.exiting fifo))
  | finish {fifo : Nat} (pc : world.clients client = .exiting fifo) :
      ClientMoves setup world client outcome (world.leave setup client .normal)
  | giveUp (pc : (world.clients client).early = true) (ending : Ending) :
      ClientMoves setup world client outcome (world.leave setup client ending)
  | endOfFile {fifo : Nat} (pc : world.clients client = .reading fifo)
      (empty : (world.fifos fifo).data = []) (closed : (world.fifos fifo).writers = 0)
      (ending : Ending) :
      ClientMoves setup world client outcome (world.leave setup client ending)
  | loseOpen (pc : (world.clients client).opening = true)
      (cause : outcome ≠ .success ∨ world.directory (setup.fifoName client) = none)
      (ending : Ending) :
      ClientMoves setup world client outcome (world.leave setup client ending)
  | loseRead {fifo : Nat} (pc : world.clients client = .reading fifo)
      (cause : outcome ≠ .success) :
      ClientMoves setup world client outcome
        (world.fatalClient setup client "Can't read response from server")

variable {setup : Setup Client} {world next : World Client}

omit [DecidableEq Client] in
theorem serverStep_moves {outcome : Outcome}
    (stepped : world.serverStep setup outcome = some next) :
    ServerMoves setup world outcome next := by
  unfold serverStep at stepped
  cases pc : world.server with
  | reading =>
      simp only [pc] at stepped
      cases outcome with
      | failure errno =>
          cases stepped
          exact .discard pc _
      | success =>
          cases received : world.queue with
          | nil => simp [received] at stepped
          | cons req rest =>
              simp only [received, Option.some.injEq] at stepped
              subst stepped
              exact .take pc received
  | opening req =>
      simp only [pc] at stepped
      cases outcome with
      | failure errno =>
          cases stepped
          exact .openFailed pc errno (Or.inl (by simp))
      | success =>
          cases named : world.directory (clientFifoName req.pid) with
          | none =>
              simp only [named, Option.some.injEq] at stepped
              subst stepped
              exact .openFailed pc _ (Or.inr named)
          | some fifo =>
              simp only [named, Option.some.injEq] at stepped
              subst stepped
              exact .openFound pc rfl named
  | awaitingReader req fifo seen =>
      simp only [pc] at stepped
      cases outcome with
      | failure errno =>
          cases stepped
          exact .openInterrupted pc errno (by simp)
      | success =>
          dsimp only at stepped
          split at stepped
          · cases stepped
            exact .openReturns pc rfl
          · cases stepped
  | writing req fifo =>
      simp only [pc, Option.some.injEq] at stepped
      subst stepped
      exact .write pc
  | closing req fifo =>
      simp only [pc, Option.some.injEq] at stepped
      subst stepped
      split
      · exact .close pc _
      · exact .close pc _
  | updating req =>
      simp only [pc, Option.some.injEq] at stepped
      subst stepped
      exact .update pc
  | terminated failure => simp [pc] at stepped

section

variable {client : Client} {outcome : Outcome}

/-! Each position of a client has its own steps. -/

theorem moves_notStarted (pc : world.clients client = .notStarted)
    (stepped : world.clientStep setup client outcome = some next) :
    ClientMoves setup world client outcome next := by
  unfold clientStep at stepped
  rw [pc] at stepped
  cases outcome with
  | failure errno => cases stepped
  | success =>
      dsimp only at stepped
      split at stepped
      · cases stepped
        exact .usage pc _
      · split at stepped
        · cases stepped
          exact .begin pc ‹_›
        · cases stepped

theorem moves_makingFifo (pc : world.clients client = .makingFifo)
    (stepped : world.clientStep setup client outcome = some next) :
    ClientMoves setup world client outcome next := by
  unfold clientStep at stepped
  rw [pc] at stepped
  cases outcome with
  | failure errno =>
      dsimp only at stepped
      split at stepped
      · cases stepped
        exact .giveUp (by rw [pc]; rfl) _
      · cases stepped
  | success =>
      cases stepped
      exact .make pc

theorem moves_registering (pc : world.clients client = .registering)
    (stepped : world.clientStep setup client outcome = some next) :
    ClientMoves setup world client outcome next := by
  unfold clientStep at stepped
  rw [pc] at stepped
  cases outcome with
  | failure errno =>
      cases stepped
      exact .giveUp (by rw [pc]; rfl) _
  | success =>
      cases stepped
      exact .register pc

theorem moves_parsing (pc : world.clients client = .parsing)
    (stepped : world.clientStep setup client outcome = some next) :
    ClientMoves setup world client outcome next := by
  unfold clientStep at stepped
  rw [pc] at stepped
  cases outcome with
  | failure errno => cases stepped
  | success =>
      dsimp only at stepped
      split at stepped
      · cases stepped
        exact .giveUp (by rw [pc]; rfl) _
      · cases stepped
        exact .parse pc ‹_›

theorem moves_openingServer {seqLen : Int} (pc : world.clients client = .openingServer seqLen)
    (stepped : world.clientStep setup client outcome = some next) :
    ClientMoves setup world client outcome next := by
  unfold clientStep at stepped
  rw [pc] at stepped
  cases outcome with
  | failure errno =>
      cases stepped
      exact .giveUp (by rw [pc]; rfl) _
  | success =>
      dsimp only at stepped
      split at stepped
      · cases stepped
        exact .openServer pc
      · cases stepped

theorem moves_sending {seqLen : Int} (pc : world.clients client = .sending seqLen)
    (stepped : world.clientStep setup client outcome = some next) :
    ClientMoves setup world client outcome next := by
  unfold clientStep at stepped
  rw [pc] at stepped
  cases outcome with
  | failure errno =>
      cases stepped
      exact .giveUp (by rw [pc]; rfl) _
  | success =>
      dsimp only at stepped
      split at stepped
      · cases stepped
        exact .send pc
      · cases stepped

theorem moves_openingReply (pc : world.clients client = .openingReply)
    (stepped : world.clientStep setup client outcome = some next) :
    ClientMoves setup world client outcome next := by
  unfold clientStep at stepped
  rw [pc] at stepped
  cases outcome with
  | failure errno =>
      cases stepped
      exact .loseOpen (by rw [pc]; rfl) (Or.inl (by simp)) _
  | success =>
      dsimp only at stepped
      split at stepped
      · cases stepped
        exact .loseOpen (by rw [pc]; rfl) (Or.inr ‹_›) _
      · cases stepped
        exact .openReply pc ‹_›

theorem moves_awaitingWriter {fifo seen : Nat} (pc : world.clients client = .awaitingWriter fifo seen)
    (stepped : world.clientStep setup client outcome = some next) :
    ClientMoves setup world client outcome next := by
  unfold clientStep at stepped
  rw [pc] at stepped
  cases outcome with
  | failure errno =>
      cases stepped
      exact .loseOpen (by rw [pc]; rfl) (Or.inl (by simp)) _
  | success =>
      dsimp only at stepped
      split at stepped
      · cases stepped
        exact .writerCame pc ‹_›
      · cases stepped

theorem moves_reading {fifo : Nat} (pc : world.clients client = .reading fifo)
    (stepped : world.clientStep setup client outcome = some next) :
    ClientMoves setup world client outcome next := by
  unfold clientStep at stepped
  rw [pc] at stepped
  cases outcome with
  | failure errno =>
      cases stepped
      exact .loseRead pc (by simp)
  | success =>
      dsimp only at stepped
      split at stepped
      · cases stepped
        exact .read pc ‹_›
      · split at stepped
        · cases stepped
          exact .endOfFile pc ‹_› ‹_› _
        · cases stepped

theorem moves_printing {fifo : Nat} {seqNum : Int} (pc : world.clients client = .printing fifo seqNum)
    (stepped : world.clientStep setup client outcome = some next) :
    ClientMoves setup world client outcome next := by
  unfold clientStep at stepped
  rw [pc] at stepped
  cases outcome with
  | failure errno =>
      cases stepped
      exact .printFailed pc
  | success =>
      cases stepped
      exact .print pc

theorem moves_exiting {fifo : Nat} (pc : world.clients client = .exiting fifo)
    (stepped : world.clientStep setup client outcome = some next) :
    ClientMoves setup world client outcome next := by
  unfold clientStep at stepped
  rw [pc] at stepped
  cases outcome with
  | failure errno => cases stepped
  | success =>
      cases stepped
      exact .finish pc

theorem clientStep_moves (stepped : world.clientStep setup client outcome = some next) :
    ClientMoves setup world client outcome next := by
  cases pc : world.clients client with
  | notStarted => exact moves_notStarted pc stepped
  | makingFifo => exact moves_makingFifo pc stepped
  | registering => exact moves_registering pc stepped
  | parsing => exact moves_parsing pc stepped
  | openingServer seqLen => exact moves_openingServer pc stepped
  | sending seqLen => exact moves_sending pc stepped
  | openingReply => exact moves_openingReply pc stepped
  | awaitingWriter fifo seen => exact moves_awaitingWriter pc stepped
  | reading fifo => exact moves_reading pc stepped
  | printing fifo seqNum => exact moves_printing pc stepped
  | exiting fifo => exact moves_exiting pc stepped
  | exited ending =>
      unfold clientStep at stepped
      rw [pc] at stepped
      cases stepped

end

/-- A client that is terminated was running. -/
theorem step_terminate {client : Client} {termination : Termination}
    (stepped : world.step setup (.terminate client termination) = some next) :
    (world.clients client).running = true ∧
      next = world.leave setup client (.terminated termination) := by
  unfold step at stepped
  dsimp only at stepped
  cases pc : world.clients client with
  | notStarted | exited ending =>
      rw [pc] at stepped
      cases stepped
  | _ =>
      rw [pc] at stepped
      exact ⟨rfl, (Option.some.inj stepped).symm⟩

/-! ## What a client leaves alone -/

/-- The file system after the end of a client: its own name may be gone, and the
FIFO it held may have lost its items. -/
structure LeavesFiles (setup : Setup Client) (world : World Client) (client : Client)
    (ending : Ending) (directory : List Byte -> Option Nat) (fifos : Nat -> Fifo Int) : Prop where
  others : forall name, name ≠ setup.fifoName client -> directory name = world.directory name
  old : forall name fifo, directory name = some fifo -> world.directory name = some fifo
  removed : (world.clients client).registered = true -> ending.runsHandlers = true ->
    directory (setup.fifoName client) = none
  untouched : forall fifo, (world.clients client).reader ≠ some fifo -> fifos fifo = world.fifos fifo
  writers : forall fifo, (fifos fifo).writers = (world.fifos fifo).writers
  writerOpens : forall fifo, (fifos fifo).writerOpens = (world.fifos fifo).writerOpens
  data : forall fifo, (fifos fifo).data = [] ∨ (fifos fifo).data = (world.fifos fifo).data

omit [DecidableEq Client] in
theorem closeReply_eq (world : World Client) (client : Client) :
    Exists fun fifos => world.closeReply client = { world with fifos := fifos } ∧
      (forall fifo, (world.clients client).reader ≠ some fifo -> fifos fifo = world.fifos fifo) ∧
      forall fifo, (fifos fifo).writers = (world.fifos fifo).writers ∧
        (fifos fifo).writerOpens = (world.fifos fifo).writerOpens ∧
        ((fifos fifo).data = [] ∨ (fifos fifo).data = (world.fifos fifo).data) := by
  unfold closeReply
  split
  · exact ⟨world.fifos, rfl, fun _ _ => rfl, fun _ => ⟨rfl, rfl, Or.inr rfl⟩⟩
  · rename_i held holds
    refine ⟨_, rfl, ?_, ?_⟩
    · intro fifo other
      have different : fifo ≠ held := by
        rintro rfl
        exact other holds
      exact Function.update_of_ne different _ _
    · intro fifo
      rcases eq_or_ne fifo held with same | different
      · subst same
        rw [Function.update_self]
        refine ⟨Fifo.settle_writers _, Fifo.settle_writerOpens _, ?_⟩
        exact Fifo.settle_data _
      · rw [Function.update_of_ne different]
        exact ⟨rfl, rfl, Or.inr rfl⟩

theorem leave_eq (world : World Client) (client : Client) (ending : Ending) :
    Exists fun directory => Exists fun fifos =>
      LeavesFiles setup world client ending directory fifos ∧
      world.leave setup client ending =
        { world with
          clients := Function.update world.clients client (.exited ending)
          alive := world.alive.erase client
          directory := directory
          fifos := fifos } := by
  rcases closeReply_eq world client with ⟨fifos, closed, untouched, kept⟩
  unfold leave
  rw [closed]
  split
  · refine ⟨Function.update world.directory (setup.fifoName client) none, fifos,
      ⟨?_, ?_, ?_, untouched, fun fifo => (kept fifo).1, fun fifo => (kept fifo).2.1,
        fun fifo => (kept fifo).2.2⟩, rfl⟩
    · exact fun name different => Function.update_of_ne different _ _
    · intro name fifo found
      rcases eq_or_ne name (setup.fifoName client) with same | different
      · rw [same, Function.update_self] at found
        cases found
      · rwa [Function.update_of_ne different] at found
    · exact fun _ _ => Function.update_self _ _ _
  · rename_i skipped
    refine ⟨world.directory, fifos, ⟨fun _ _ => rfl, fun _ _ found => found, ?_, untouched,
      fun fifo => (kept fifo).1, fun fifo => (kept fifo).2.1, fun fifo => (kept fifo).2.2⟩, rfl⟩
    intro registered runs
    exact absurd (by rw [registered, runs]; rfl) skipped

/-- No step of a client moves the server, its counter or its record. -/
theorem ClientMoves.untouched {client : Client} {outcome : Outcome}
    (moves : ClientMoves setup world client outcome next) :
    next.server = world.server ∧ next.seqNum = world.seqNum ∧ next.handled = world.handled := by
  have left : forall ending, (world.leave setup client ending).server = world.server ∧
      (world.leave setup client ending).seqNum = world.seqNum ∧
      (world.leave setup client ending).handled = world.handled := by
    intro ending
    rcases world.leave_eq client ending with ⟨directory, fifos, -, same⟩
    rw [same]
    exact ⟨rfl, rfl, rfl⟩
  cases moves with
  | make pc =>
      unfold mkfifo
      split <;> exact ⟨rfl, rfl, rfl⟩
  | finish pc | loseRead pc cause => exact left _
  | giveUp pc ending | endOfFile pc empty closed ending | loseOpen pc cause ending =>
      exact left ending
  | _ => exact ⟨rfl, rfl, rfl⟩

end World

end IpcPipeFifo
end Tlpi
