import Tlpi.Lib.ErrorFunctions
import Tlpi.Lib.InetSockets

namespace Tlpi
namespace SocketInternet

open CLibrary Foundations Lib

/-!
# The passive open of the sequence-number server

The server does not call `inetListen`; its `main` holds a copy of the walk over the
addresses.  The two copies try the same entries in the same order.  They differ in
what they do when an option cannot be set, and in the value that the option is
given: the library passes the address of `optval`, which is 1, and the server
passes the address of `optarg`, a pointer of the C library that is null.

The walks are compared by an equation.  It says that the server's walk is the
library's with the option switched off at the end.
-/

def AI_NUMERICSERV : Int := 1024

def PORT_NUM : List Byte := ascii "50000"

def BACKLOG : Int := 50

def INT_SIZE : Nat := 4

/-- The object `optarg`: a null pointer, which is eight null bytes. -/
def optarg : List Byte := List.replicate 8 0

/-- The object `optval` after `optval = 1`. -/
def optval : List Byte := [1, 0, 0, 0]

/-- `setsockopt(lfd, SOL_SOCKET, SO_REUSEADDR, object, sizeof(int))`.  The kernel
takes the first bytes of the object for an `int` and sets the option unless that
is zero. -/
def setReuseaddrFrom (object : List Byte) (process : SocketProcess) (lfd : Nat) (rp : Candidate) :
    Bool × SocketProcess :=
  process.onSocket rp.setsockopt lfd
    (fun socket => { socket with reuseaddr := (object.take INT_SIZE).any (fun byte => byte != 0) })

/-- The call of the library is the one that passes `optval`. -/
theorem setReuseaddr_eq (process : SocketProcess) (lfd : Nat) (rp : Candidate) :
    process.setReuseaddr lfd rp = setReuseaddrFrom optval process lfd rp := rfl

/-- The walk of `main`.  It leaves the loop with `rp` and `lfd`, or with a null
`rp`, unless the process terminates in it. -/
def walk (dumpcore : Option String) : Nat -> List Candidate -> SocketProcess ->
    Except Failure (Option (Candidate × Nat) × SocketProcess)
  | _, [], process => .ok (none, process)
  | entry, rp :: rest, process =>
      match process.socket entry rp with
      | (none, process) => walk dumpcore (entry + 1) rest process
      | (some lfd, process) =>
          match setReuseaddrFrom optarg process lfd rp with
          | (false, process) => .error (errExit dumpcore process.errno "setsockopt")
          | (true, process) =>
              match process.bind lfd rp with
              | (true, process) => .ok (some (rp, lfd), process)
              | (false, process) => walk dumpcore (entry + 1) rest (process.close lfd)

/-- The part of `main` between the walk and the service loop. -/
def finishOpen (dumpcore : Option String) :
    Option (Candidate × Nat) × SocketProcess -> Except Failure (Nat × SocketProcess)
  | (none, _) => .error (fatal dumpcore "Could not bind socket to any address")
  | (some (rp, lfd), process) =>
      match process.listen lfd rp BACKLOG with
      | (false, process) => .error (errExit dumpcore process.errno "listen")
      | (true, process) => .ok (lfd, process.freeaddrinfo)

/-- The passive open of `main`: the listening socket, unless the process
terminates. -/
def passiveOpen (dumpcore : Option String) (resolver : Resolver) (process : SocketProcess) :
    Except Failure (Nat × SocketProcess) :=
  match resolver.getaddrinfo none PORT_NUM
      { ai_family := AF_UNSPEC, ai_socktype := SOCK_STREAM
        ai_flags := AI_PASSIVE + AI_NUMERICSERV } with
  | .error _ => .error (errExit dumpcore process.errno "getaddrinfo")
  | .ok result =>
      match walk dumpcore 0 result process with
      | .error failure => .error failure
      | .ok left => finishOpen dumpcore left

/-! ## The two walks -/

/-- The socket with `SO_REUSEADDR` switched off. -/
def notReusing (socket : Socket) : Socket := { socket with reuseaddr := false }

/-- The process with the option switched off at a descriptor. -/
def withoutReuseaddr (process : SocketProcess) (lfd : Nat) : SocketProcess :=
  { process with descriptors := process.descriptors.modify lfd (.onSocket notReusing) }

/-- What the server makes of the end of the library's walk. -/
def ofPassiveWalk (dumpcore : Option String) :
    PassiveWalk × SocketProcess -> Except Failure (Option (Candidate × Nat) × SocketProcess)
  | (.returned, process) => .error (errExit dumpcore process.errno "setsockopt")
  | (.left none, process) => .ok (none, process)
  | (.left (some (rp, lfd)), process) => .ok (some (rp, lfd), withoutReuseaddr process lfd)

/-- Two changes of one socket are one change. -/
theorem modify_onSocket (descriptors : Slots OpenObject) (lfd : Nat) (first second : Socket -> Socket) :
    (descriptors.modify lfd (.onSocket first)).modify lfd (.onSocket second) =
      descriptors.modify lfd (.onSocket (second ∘ first)) := by
  rw [Slots.modify_modify]
  congr 1
  funext object
  cases object <;> rfl

/-- The server's walk is the library's with the option switched off at the end. -/
theorem walk_eq (dumpcore : Option String) (entry : Nat) (candidates : List Candidate)
    (process : SocketProcess) :
    walk dumpcore entry candidates process =
      ofPassiveWalk dumpcore (passiveLoop true entry candidates process) := by
  induction candidates generalizing entry process with
  | nil => rfl
  | cons rp rest inductionHypothesis =>
      cases created : rp.socket with
      | some errno =>
          simp only [walk, passiveLoop, SocketProcess.socket, created]
          exact inductionHypothesis (entry + 1) _
      | none =>
          simp only [walk, passiveLoop, SocketProcess.socket, created, if_true,
            setReuseaddrFrom, SocketProcess.setReuseaddr, SocketProcess.onSocket]
          cases set : rp.setsockopt with
          | some errno => rfl
          | none =>
              simp only [SocketProcess.bind, SocketProcess.onSocket]
              cases bound : rp.bind with
              | some errno =>
                  simp only [SocketProcess.close, Slots.release_modify]
                  exact inductionHypothesis (entry + 1) _
              | none =>
                  simp only [ofPassiveWalk, withoutReuseaddr, modify_onSocket]
                  rfl

/-- A socket that the library's walk leaves the loop with has the option set. -/
theorem passiveLoop_reuseaddr (entry : Nat) (candidates : List Candidate)
    (process after : SocketProcess) (rp : Candidate) (sfd : Nat)
    (ended : passiveLoop true entry candidates process = (.left (some (rp, sfd)), after)) :
    Exists fun made : Socket =>
      after.descriptors.get sfd = some (.socket made) ∧ made.reuseaddr = true := by
  induction candidates generalizing entry process with
  | nil => cases ended
  | cons leading rest inductionHypothesis =>
      cases created : leading.socket with
      | some errno =>
          simp only [passiveLoop, SocketProcess.socket, created] at ended
          exact inductionHypothesis _ _ ended
      | none =>
          simp only [passiveLoop, SocketProcess.socket, created, if_true,
            SocketProcess.setReuseaddr, SocketProcess.onSocket] at ended
          cases set : leading.setsockopt with
          | some errno =>
              rw [set] at ended
              cases ended
          | none =>
              simp only [set, SocketProcess.bind, SocketProcess.onSocket] at ended
              cases bound : leading.bind with
              | some errno =>
                  simp only [bound] at ended
                  exact inductionHypothesis _ _ ended
              | none =>
                  simp only [bound] at ended
                  cases ended
                  have added := (((Slots.Same.refl process.descriptors).acquire
                    (OpenObject.socket (newSocket entry rp.info))).modify
                    (.onSocket fun socket => { socket with reuseaddr := true })).modify
                    (.onSocket fun socket => { socket with name := some rp.info.ai_addr })
                  exact ⟨_, added.held, rfl⟩

/-! ## The two passive opens -/

/-- A resolver that returns the given addresses. -/
def returning (candidates : List Candidate) : Resolver := ⟨fun _ _ _ => .ok candidates⟩

/-- Whenever both end with a listening socket, each has added that socket and no
other to the descriptors, the two sockets were made for the same entry and are in
the same state, and they can reuse the address. -/
def Agree (before : SocketProcess) (server : Except Failure (Nat × SocketProcess))
    (library : PassiveOutcome) : Prop :=
  forall lfd after sfd, server = .ok (lfd, after) -> library.returned = some sfd ->
    Exists fun socket : Socket =>
      Slots.Added before.descriptors after.descriptors lfd (.socket socket) ∧
        Slots.Added before.descriptors library.process.descriptors sfd (.socket socket) ∧
        socket.reuseaddr = true

/-- The first entry at which the walks stop can be bound and listened on. -/
def ListensFirst (candidates : List Candidate) : Prop :=
  Exists fun position => Exists fun rp =>
    FirstWith (Candidate.Stops true) candidates position rp ∧ rp.Listens

variable (dumpcore : Option String) (service : List Byte) (addrlen : Option Nat)
  (candidates : List Candidate) (process : SocketProcess)

/-- If the first entry at which the walks stop can be listened on, both opens end
with a socket for that entry at the same descriptor, and have closed every other.
The sockets differ in the option alone, which only the library has set. -/
theorem opens_differ_in_reuseaddr (listensFirst : ListensFirst candidates) :
    Exists fun lfd => Exists fun after => Exists fun socket : Socket => Exists fun rp =>
      passiveOpen dumpcore (returning candidates) process = .ok (lfd, after) ∧
        (inetListen (returning candidates) service BACKLOG addrlen process).returned = some lfd ∧
        Slots.Added process.descriptors after.descriptors lfd (.socket (notReusing socket)) ∧
        Slots.Added process.descriptors
          (inetListen (returning candidates) service BACKLOG addrlen process).process.descriptors
          lfd (.socket socket) ∧
        socket.reuseaddr = true ∧ FirstWith Candidate.Listens candidates socket.entry rp := by
  rcases listensFirst with ⟨position, rp, first, listens⟩
  have server := walk_eq dumpcore 0 candidates process
  have ended := passiveLoop_end true process 0 candidates process (.refl _) rfl
  unfold passiveOpen inetListen inetPassiveSocket returning
  simp only
  rw [server]
  generalize found : passiveLoop true 0 candidates process = result at ended
  cases ended with
  | returned same freed otherFirst refused =>
      rw [otherFirst.unique first] at refused
      exact absurd listens.2.1 refused
  | exhausted same freed none =>
      exact absurd first.holds (none rp (List.mem_of_getElem? first.here))
  | @bound after lfd _ other made added freed numbered otherFirst binds set =>
      obtain ⟨held, isHeld, reusing⟩ := passiveLoop_reuseaddr 0 candidates process after other lfd found
      rw [added.held] at isHeld
      cases isHeld
      obtain rfl := otherFirst.unique first
      have chosen := otherFirst.succeeds (fun _ listens => Candidate.Listens.stops listens) listens
      simp only [ofPassiveWalk, finishOpen, finishPassive, if_true, SocketProcess.listen,
        SocketProcess.onSocket, listens.2.2.2]
      refine ⟨lfd, _, { made with backlog := some BACKLOG }, other, rfl, rfl,
        (added.modify (.onSocket notReusing)).modify
          (.onSocket fun socket => { socket with backlog := some BACKLOG }),
        added.modify (.onSocket fun socket => { socket with backlog := some BACKLOG }), reusing, ?_⟩
      rw [Nat.zero_add] at numbered
      exact numbered ▸ chosen

/-- If it cannot, the server terminates. -/
theorem passiveOpen_terminates (otherwise : ¬ ListensFirst candidates) (lfd : Nat)
    (after : SocketProcess) :
    passiveOpen dumpcore (returning candidates) process ≠ .ok (lfd, after) := by
  have server := walk_eq dumpcore 0 candidates process
  have ended := passiveLoop_end true process 0 candidates process (.refl _) rfl
  unfold passiveOpen returning
  simp only
  rw [server]
  generalize passiveLoop true 0 candidates process = result at ended
  intro opened
  cases ended with
  | returned same freed first refused => cases opened
  | exhausted same freed none => cases opened
  | @bound after lfd position rp made added freed numbered first binds set =>
      cases listened : rp.listen with
      | some errno =>
          simp only [ofPassiveWalk, finishOpen, SocketProcess.listen, SocketProcess.onSocket,
            listened] at opened
          cases opened
      | none => exact otherwise ⟨position, rp, first, binds.1, set rfl, binds.2, listened⟩

/-- The passive open of the server agrees with `inetListen` only where one of
them does not end with a listening socket: whenever both do, the server has left
the option off. -/
theorem passiveOpen_agrees_iff :
    Agree process (passiveOpen dumpcore (returning candidates) process)
        (inetListen (returning candidates) service BACKLOG addrlen process) <->
      ¬ ListensFirst candidates := by
  constructor
  · intro agree listensFirst
    obtain ⟨lfd, after, made, -, opened, returned, added, -, -, -⟩ :=
      opens_differ_in_reuseaddr dumpcore service addrlen candidates process listensFirst
    obtain ⟨socket, serverAdded, -, reusing⟩ := agree lfd after lfd opened returned
    have same : socket = notReusing made := by
      have held := serverAdded.held.symm.trans added.held
      cases held
      rfl
    rw [same] at reusing
    cases reusing
  · intro otherwise lfd after sfd opened
    exact absurd opened (passiveOpen_terminates dumpcore candidates process otherwise lfd after)

/-- A wildcard address on which every call succeeds. -/
def portFree : Candidate := { portInUse with listen := none }

/-- For a port that is free both opens end with a listening socket, and only the
library's can reuse the address. -/
theorem passiveOpen_port_free :
    ¬ Agree standardProcess (passiveOpen none (returning [portFree]) standardProcess)
      (inetListen (returning [portFree]) PORT_NUM BACKLOG none standardProcess) := by
  intro agree
  obtain ⟨socket, added, -, reusing⟩ := agree 3
    { standardProcess with
      descriptors := ⟨[some (.elsewhere 0), some (.elsewhere 1), some (.elsewhere 2),
        some (.socket { newSocket 0 portFree.info with
          name := some portFree.info.ai_addr, backlog := some BACKLOG })]⟩
      freed := 1 } 3 (by decide) (by decide)
  have held := added.held
  revert reusing
  cases held
  decide

end SocketInternet
end Tlpi
