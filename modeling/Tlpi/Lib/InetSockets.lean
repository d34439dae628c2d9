import Tlpi.CLibrary.Descriptor
import Tlpi.CLibrary.Strtol
import Tlpi.Foundations.Slots

namespace Tlpi
namespace Lib

open CLibrary Foundations

/-!
# Internet socket helpers

`inetConnect`, `inetListen` and `inetBind` walk through the addresses that
`getaddrinfo` returns and try to make a socket of each in turn.  An address
comes here together with the answers that the kernel will give to the calls made
for it; quantifying over the list is quantifying over every pattern of
successes and failures.

A helper owns the descriptors that it opens until it returns one of them.  The
question throughout is what the descriptor table looks like afterwards.
-/

def AF_UNSPEC : Int := 0

def SOCK_STREAM : Int := 1

def AI_PASSIVE : Int := 1

/-- The members of `struct addrinfo` that the helpers set in their hints. -/
structure Hints where
  ai_family : Int
  ai_socktype : Int
  ai_flags : Int
deriving DecidableEq, Repr

/-- The members of `struct addrinfo` that the helpers read in an entry. -/
structure AddrInfo where
  ai_family : Int
  ai_socktype : Int
  ai_protocol : Int
  ai_addr : List Byte
  ai_addrlen : Nat
deriving DecidableEq, Repr

/-- An entry of the address list, with the error that each call made for it
fails with, if it fails. -/
structure Candidate where
  info : AddrInfo
  socket : Option Errno
  setsockopt : Option Errno
  connect : Option Errno
  bind : Option Errno
  listen : Option Errno
deriving DecidableEq, Repr

/-- `getaddrinfo(host, service, hints)`: an error code or the address list. -/
structure Resolver where
  getaddrinfo : Option (List Byte) -> List Byte -> Hints -> Except Int (List Candidate)

/-- A socket: the position in the address list of the entry that it was made
for, and what has been done to it since. -/
structure Socket where
  entry : Nat
  family : Int
  socktype : Int
  protocol : Int
  reuseaddr : Bool
  peer : Option (List Byte)
  name : Option (List Byte)
  backlog : Option Int
deriving DecidableEq, Repr

/-- What a descriptor refers to: something opened elsewhere, or a socket made by
a helper. -/
inductive OpenObject where
  | elsewhere (name : Nat)
  | socket (socket : Socket)
deriving DecidableEq, Repr

/-- The part of a process that the helpers work on: its descriptors, `errno`,
and how often an address list was freed. -/
structure SocketProcess where
  descriptors : Slots OpenObject
  errno : Errno
  freed : Nat
deriving DecidableEq, Repr

/-- Change the socket that a descriptor refers to. -/
def OpenObject.onSocket (change : Socket -> Socket) : OpenObject -> OpenObject
  | .elsewhere name => .elsewhere name
  | .socket made => .socket (change made)

/-- The socket made for the entry at a position of the list. -/
def newSocket (entry : Nat) (info : AddrInfo) : Socket where
  entry := entry
  family := info.ai_family
  socktype := info.ai_socktype
  protocol := info.ai_protocol
  reuseaddr := false
  peer := none
  name := none
  backlog := none

namespace SocketProcess

/-- `socket(rp->ai_family, rp->ai_socktype, rp->ai_protocol)` for the entry at a
position of the list. -/
def socket (process : SocketProcess) (entry : Nat) (rp : Candidate) :
    Option Nat × SocketProcess :=
  match rp.socket with
  | some errno => (none, { process with errno := errno })
  | none =>
      let opened := process.descriptors.acquire (.socket (newSocket entry rp.info))
      (some process.descriptors.lowestFree, { process with descriptors := opened })

/-- A call on a socket that fails with the given error, or changes the socket. -/
def onSocket (process : SocketProcess) (failure : Option Errno) (sfd : Nat)
    (change : Socket -> Socket) : Bool × SocketProcess :=
  match failure with
  | some errno => (false, { process with errno := errno })
  | none =>
      (true, { process with descriptors := process.descriptors.modify sfd (.onSocket change) })

/-- `connect(sfd, rp->ai_addr, rp->ai_addrlen)`. -/
def connect (process : SocketProcess) (sfd : Nat) (rp : Candidate) : Bool × SocketProcess :=
  process.onSocket rp.connect sfd (fun socket => { socket with peer := some rp.info.ai_addr })

/-- `setsockopt(sfd, SOL_SOCKET, SO_REUSEADDR, &optval, sizeof(optval))` with
`optval` set. -/
def setReuseaddr (process : SocketProcess) (sfd : Nat) (rp : Candidate) : Bool × SocketProcess :=
  process.onSocket rp.setsockopt sfd (fun socket => { socket with reuseaddr := true })

/-- `bind(sfd, rp->ai_addr, rp->ai_addrlen)`. -/
def bind (process : SocketProcess) (sfd : Nat) (rp : Candidate) : Bool × SocketProcess :=
  process.onSocket rp.bind sfd (fun socket => { socket with name := some rp.info.ai_addr })

/-- `listen(sfd, backlog)`. -/
def listen (process : SocketProcess) (sfd : Nat) (rp : Candidate) (backlog : Int) :
    Bool × SocketProcess :=
  process.onSocket rp.listen sfd (fun socket => { socket with backlog := some backlog })

def close (process : SocketProcess) (sfd : Nat) : SocketProcess :=
  { process with descriptors := process.descriptors.release sfd }

def freeaddrinfo (process : SocketProcess) : SocketProcess :=
  { process with freed := process.freed + 1 }

end SocketProcess

/-- The walk of `inetConnect`: the socket it leaves the loop with, if it does
not run out of entries. -/
def connectLoop : Nat -> List Candidate -> SocketProcess -> Option Nat × SocketProcess
  | _, [], process => (none, process)
  | entry, rp :: rest, process =>
      match process.socket entry rp with
      | (none, process) => connectLoop (entry + 1) rest process
      | (some sfd, process) =>
          match process.connect sfd rp with
          | (true, process) => (some sfd, process)
          | (false, process) => connectLoop (entry + 1) rest (process.close sfd)

/-- `inetConnect(host, service, type)`.  The result -1 is `none`. -/
def inetConnect (resolver : Resolver) (host service : List Byte) (type : Int)
    (process : SocketProcess) : Option Nat × SocketProcess :=
  match resolver.getaddrinfo (some host) service
      { ai_family := AF_UNSPEC, ai_socktype := type, ai_flags := 0 } with
  | .error _ => (none, { process with errno := .ENOSYS })
  | .ok result =>
      let (sfd, process) := connectLoop 0 result process
      (sfd, process.freeaddrinfo)

/-- How the walk of `inetPassiveSocket` ends: by the `return` inside the loop,
or behind the loop with `rp` and `sfd`, where `rp` is null if the entries ran
out. -/
inductive PassiveWalk where
  | returned
  | left (found : Option (Candidate × Nat))
deriving DecidableEq, Repr

def passiveLoop (doListen : Bool) :
    Nat -> List Candidate -> SocketProcess -> PassiveWalk × SocketProcess
  | _, [], process => (.left none, process)
  | entry, rp :: rest, process =>
      match process.socket entry rp with
      | (none, process) => passiveLoop doListen (entry + 1) rest process
      | (some sfd, process) =>
          match (if doListen then process.setReuseaddr sfd rp else (true, process)) with
          | (false, process) => (.returned, (process.close sfd).freeaddrinfo)
          | (true, process) =>
              match process.bind sfd rp with
              | (true, process) => (.left (some (rp, sfd)), process)
              | (false, process) => passiveLoop doListen (entry + 1) rest (process.close sfd)

/-- What a passive helper leaves: its result, the object that `addrlen` points
to unless it is null, and the process. -/
structure PassiveOutcome where
  returned : Option Nat
  addrlen : Option Nat
  process : SocketProcess
deriving DecidableEq, Repr

/-- The part of `inetPassiveSocket` behind the loop. -/
def finishPassive (addrlen : Option Nat) (doListen : Bool) (backlog : Int) :
    PassiveWalk × SocketProcess -> PassiveOutcome
  | (.returned, process) => ⟨none, addrlen, process⟩
  | (.left none, process) => ⟨none, addrlen, process.freeaddrinfo⟩
  | (.left (some (rp, sfd)), process) =>
      match (if doListen then process.listen sfd rp backlog else (true, process)) with
      | (false, process) => ⟨none, addrlen, process.freeaddrinfo⟩
      | (true, process) =>
          ⟨some sfd, addrlen.map (fun _ => rp.info.ai_addrlen), process.freeaddrinfo⟩

/-- `inetPassiveSocket(service, type, addrlen, doListen, backlog)`. -/
def inetPassiveSocket (resolver : Resolver) (service : List Byte) (type : Int)
    (addrlen : Option Nat) (doListen : Bool) (backlog : Int) (process : SocketProcess) :
    PassiveOutcome :=
  match resolver.getaddrinfo none service
      { ai_family := AF_UNSPEC, ai_socktype := type, ai_flags := AI_PASSIVE } with
  | .error _ => ⟨none, addrlen, process⟩
  | .ok result => finishPassive addrlen doListen backlog (passiveLoop doListen 0 result process)

def inetListen (resolver : Resolver) (service : List Byte) (backlog : Int)
    (addrlen : Option Nat) (process : SocketProcess) : PassiveOutcome :=
  inetPassiveSocket resolver service SOCK_STREAM addrlen true backlog process

def inetBind (resolver : Resolver) (service : List Byte) (type : Int)
    (addrlen : Option Nat) (process : SocketProcess) : PassiveOutcome :=
  inetPassiveSocket resolver service type addrlen false 0 process

/-- All calls that `inetConnect` makes for an entry succeed. -/
def Candidate.Connects (rp : Candidate) : Prop := rp.socket = none ∧ rp.connect = none

/-- All calls that `inetBind` makes for an entry succeed. -/
def Candidate.Binds (rp : Candidate) : Prop := rp.socket = none ∧ rp.bind = none

/-- All calls that `inetListen` makes for an entry succeed. -/
def Candidate.Listens (rp : Candidate) : Prop :=
  rp.socket = none ∧ rp.setsockopt = none ∧ rp.bind = none ∧ rp.listen = none

/-- The walk of `inetPassiveSocket` goes no further than an entry: its option
cannot be set, or it can be bound. -/
def Candidate.Stops (doListen : Bool) (rp : Candidate) : Prop :=
  rp.socket = none ∧ ((doListen = true ∧ rp.setsockopt ≠ none) ∨ rp.bind = none)

/-- The first entry of the list with a property, and its position. -/
structure FirstWith (Property : Candidate -> Prop) (candidates : List Candidate) (position : Nat)
    (rp : Candidate) : Prop where
  here : candidates[position]? = some rp
  holds : Property rp
  earlier : forall before, before < position -> forall other,
    candidates[before]? = some other -> ¬ Property other

/-- What a call of a helper should do to the process.  `resolved` is what
`getaddrinfo` returned to it and `Succeeds` says that all calls it makes for an
entry succeed. -/
structure CleanCall (Succeeds : Candidate -> Prop) (resolved : Except Int (List Candidate))
    (before : SocketProcess) (returned : Option Nat) (after : SocketProcess) : Prop where
  refused : returned = none -> Slots.Same before.descriptors after.descriptors
  opened : forall fd, returned = some fd -> Exists fun candidates => Exists fun rp =>
    Exists fun made : Socket => resolved = .ok candidates ∧
      Slots.Added before.descriptors after.descriptors fd (.socket made) ∧
      FirstWith Succeeds candidates made.entry rp
  freedOnce : forall candidates, resolved = .ok candidates -> after.freed = before.freed + 1
  notFreed : forall code, resolved = .error code -> after.freed = before.freed

section

variable {Succeeds : Candidate -> Prop} {candidates : List Candidate} {before after : SocketProcess}

theorem CleanCall.unresolved {code : Int}
    (same : Slots.Same before.descriptors after.descriptors) (freed : after.freed = before.freed) :
    CleanCall Succeeds (.error code) before none after where
  refused _ := same
  opened _ impossible := by cases impossible
  freedOnce _ impossible := by cases impossible
  notFreed _ _ := freed

theorem CleanCall.refusal (same : Slots.Same before.descriptors after.descriptors)
    (freed : after.freed = before.freed + 1) :
    CleanCall Succeeds (.ok candidates) before none after where
  refused _ := same
  opened _ impossible := by cases impossible
  freedOnce _ _ := freed
  notFreed _ impossible := by cases impossible

theorem CleanCall.success {fd position : Nat} {rp : Candidate} {made : Socket}
    (added : Slots.Added before.descriptors after.descriptors fd (.socket made))
    (freed : after.freed = before.freed + 1) (numbered : made.entry = 0 + position)
    (first : FirstWith Succeeds candidates position rp) :
    CleanCall Succeeds (.ok candidates) before (some fd) after where
  refused impossible := by cases impossible
  opened other returned := by
    cases returned
    rw [Nat.zero_add] at numbered
    exact ⟨candidates, rp, made, rfl, added, numbered ▸ first⟩
  freedOnce _ _ := freed
  notFreed _ impossible := by cases impossible

end

section

variable {Property : Candidate -> Prop} {leading rp : Candidate} {rest : List Candidate}

theorem FirstWith.head (holds : Property leading) : FirstWith Property (leading :: rest) 0 leading where
  here := rfl
  holds := holds
  earlier _ less := absurd less (Nat.not_lt_zero _)

theorem FirstWith.tail {position : Nat} (first : FirstWith Property rest position rp)
    (fails : ¬ Property leading) : FirstWith Property (leading :: rest) (position + 1) rp where
  here := first.here
  holds := first.holds
  earlier := by
    intro before less other found
    cases before with
    | zero =>
        cases found
        exact fails
    | succ before => exact first.earlier before (Nat.lt_of_succ_lt_succ less) other found

theorem FirstWith.unique {candidates : List Candidate} {position other : Nat} {candidate : Candidate}
    (first : FirstWith Property candidates position rp)
    (second : FirstWith Property candidates other candidate) : rp = candidate := by
  rcases Nat.lt_trichotomy position other with before | same | after
  · exact absurd first.holds (second.earlier position before rp first.here)
  · subst same
    exact Option.some.inj (first.here.symm.trans second.here)
  · exact absurd second.holds (first.earlier other after candidate second.here)

end

/-! ## The walk of `inetConnect` -/

/-- What the walk over a list of entries, numbered from `entry` on, can end
with, relative to the process that the helper was called in. -/
inductive ConnectWalk (before : SocketProcess) (entry : Nat) (candidates : List Candidate) :
    Option Nat × SocketProcess -> Prop
  | exhausted {process : SocketProcess} :
      Slots.Same before.descriptors process.descriptors -> process.freed = before.freed ->
      ConnectWalk before entry candidates (none, process)
  | connected {process : SocketProcess} {sfd position : Nat} {rp : Candidate} {made : Socket} :
      Slots.Added before.descriptors process.descriptors sfd (.socket made) ->
      process.freed = before.freed -> made.entry = entry + position ->
      FirstWith Candidate.Connects candidates position rp ->
      ConnectWalk before entry candidates (some sfd, process)

theorem ConnectWalk.tail {before : SocketProcess} {entry : Nat} {rp : Candidate}
    {rest : List Candidate} {result : Option Nat × SocketProcess} (fails : ¬ rp.Connects)
    (walk : ConnectWalk before (entry + 1) rest result) :
    ConnectWalk before entry (rp :: rest) result := by
  cases walk with
  | exhausted same freed => exact .exhausted same freed
  | connected added freed numbered first =>
      exact .connected added freed (by omega) (first.tail fails)

theorem connectLoop_walk (before : SocketProcess) (entry : Nat) (candidates : List Candidate)
    (process : SocketProcess) (same : Slots.Same before.descriptors process.descriptors)
    (freed : process.freed = before.freed) :
    ConnectWalk before entry candidates (connectLoop entry candidates process) := by
  induction candidates generalizing entry process with
  | nil => exact .exhausted same freed
  | cons rp rest inductionHypothesis =>
      cases created : rp.socket with
      | some errno =>
          have fails : ¬ rp.Connects := by simp [Candidate.Connects, created]
          simp only [connectLoop, SocketProcess.socket, created]
          apply ConnectWalk.tail fails
          apply inductionHypothesis
          · exact same
          · exact freed
      | none =>
          have added := same.acquire (.socket (newSocket entry rp.info))
          cases connected : rp.connect with
          | some errno =>
              have fails : ¬ rp.Connects := by simp [Candidate.Connects, connected]
              simp only [connectLoop, SocketProcess.socket, SocketProcess.connect,
                SocketProcess.onSocket, created, connected]
              apply ConnectWalk.tail fails
              apply inductionHypothesis
              · exact added.release
              · exact freed
          | none =>
              simp only [connectLoop, SocketProcess.socket, SocketProcess.connect,
                SocketProcess.onSocket, created, connected]
              exact .connected (added.modify _) freed rfl (.head ⟨created, connected⟩)

theorem inetConnect_clean (resolver : Resolver) (host service : List Byte) (type : Int)
    (process : SocketProcess) :
    CleanCall Candidate.Connects
      (resolver.getaddrinfo (some host) service
        { ai_family := AF_UNSPEC, ai_socktype := type, ai_flags := 0 })
      process (inetConnect resolver host service type process).1
      (inetConnect resolver host service type process).2 := by
  unfold inetConnect
  generalize resolver.getaddrinfo (some host) service _ = resolved
  cases resolved with
  | error code => exact .unresolved (.refl _) rfl
  | ok candidates =>
      have walk := connectLoop_walk process 0 candidates process (.refl _) rfl
      simp only
      generalize connectLoop 0 candidates process = result at walk
      cases walk with
      | exhausted same freed => exact .refusal same (congrArg (· + 1) freed)
      | connected added freed numbered first =>
          exact .success added (congrArg (· + 1) freed) numbered first

/-! ## The walk of `inetPassiveSocket` -/

/-- What the walk can end with, relative to the process that the helper was
called in. -/
inductive PassiveEnd (doListen : Bool) (before : SocketProcess) (entry : Nat)
    (candidates : List Candidate) : PassiveWalk × SocketProcess -> Prop
  | returned {process : SocketProcess} {position : Nat} {rp : Candidate} :
      Slots.Same before.descriptors process.descriptors -> process.freed = before.freed + 1 ->
      FirstWith (Candidate.Stops doListen) candidates position rp -> rp.setsockopt ≠ none ->
      PassiveEnd doListen before entry candidates (.returned, process)
  | exhausted {process : SocketProcess} :
      Slots.Same before.descriptors process.descriptors -> process.freed = before.freed ->
      (forall rp, rp ∈ candidates -> ¬ rp.Stops doListen) ->
      PassiveEnd doListen before entry candidates (.left none, process)
  | bound {process : SocketProcess} {sfd position : Nat} {rp : Candidate} {made : Socket} :
      Slots.Added before.descriptors process.descriptors sfd (.socket made) ->
      process.freed = before.freed -> made.entry = entry + position ->
      FirstWith (Candidate.Stops doListen) candidates position rp ->
      rp.Binds -> (doListen = true -> rp.setsockopt = none) ->
      PassiveEnd doListen before entry candidates (.left (some (rp, sfd)), process)

theorem PassiveEnd.tail {doListen : Bool} {before : SocketProcess} {entry : Nat} {rp : Candidate}
    {rest : List Candidate} {result : PassiveWalk × SocketProcess} (passes : ¬ rp.Stops doListen)
    (walk : PassiveEnd doListen before (entry + 1) rest result) :
    PassiveEnd doListen before entry (rp :: rest) result := by
  cases walk with
  | returned same freed first refused => exact .returned same freed (first.tail passes) refused
  | exhausted same freed none => exact .exhausted same freed (List.forall_mem_cons.mpr ⟨passes, none⟩)
  | bound added freed numbered first binds set =>
      exact .bound added freed (by omega) (first.tail passes) binds set

/-- The step of the walk behind a successful `setsockopt`, or without one. -/
theorem passiveLoop_bind {doListen : Bool} {before process : SocketProcess} {entry sfd : Nat}
    {rp : Candidate} {rest : List Candidate} {made : Socket}
    (inductionHypothesis : forall (entry : Nat) (process : SocketProcess),
      Slots.Same before.descriptors process.descriptors -> process.freed = before.freed ->
      PassiveEnd doListen before entry rest (passiveLoop doListen entry rest process))
    (added : Slots.Added before.descriptors process.descriptors sfd (.socket made))
    (freed : process.freed = before.freed) (numbered : made.entry = entry)
    (created : rp.socket = none) (set : doListen = true -> rp.setsockopt = none) :
    PassiveEnd doListen before entry (rp :: rest)
      (match process.bind sfd rp with
      | (true, process) => (.left (some (rp, sfd)), process)
      | (false, process) => passiveLoop doListen (entry + 1) rest (process.close sfd)) := by
  cases bound : rp.bind with
  | some errno =>
      have passes : ¬ rp.Stops doListen := by
        rintro ⟨-, ⟨listening, failed⟩ | binds⟩
        · exact failed (set listening)
        · rw [bound] at binds
          cases binds
      simp only [SocketProcess.bind, SocketProcess.onSocket, bound]
      apply PassiveEnd.tail passes
      apply inductionHypothesis
      · exact added.release
      · exact freed
  | none =>
      simp only [SocketProcess.bind, SocketProcess.onSocket, bound]
      have first : FirstWith (Candidate.Stops doListen) (rp :: rest) 0 rp :=
        .head ⟨created, .inr bound⟩
      refine .bound (added.modify _) freed ?_ first ⟨created, bound⟩ set
      exact numbered

theorem passiveLoop_end (doListen : Bool) (before : SocketProcess) (entry : Nat)
    (candidates : List Candidate) (process : SocketProcess)
    (same : Slots.Same before.descriptors process.descriptors)
    (freed : process.freed = before.freed) :
    PassiveEnd doListen before entry candidates
      (passiveLoop doListen entry candidates process) := by
  induction candidates generalizing entry process with
  | nil => exact .exhausted same freed (fun _ member => by cases member)
  | cons rp rest inductionHypothesis =>
      cases created : rp.socket with
      | some errno =>
          have passes : ¬ rp.Stops doListen := by simp [Candidate.Stops, created]
          simp only [passiveLoop, SocketProcess.socket, created]
          apply PassiveEnd.tail passes
          apply inductionHypothesis
          · exact same
          · exact freed
      | none =>
          have added := same.acquire (.socket (newSocket entry rp.info))
          simp only [passiveLoop, SocketProcess.socket, created]
          cases doListen with
          | false => exact passiveLoop_bind inductionHypothesis added freed rfl created (by simp)
          | true =>
              cases set : rp.setsockopt with
              | some errno =>
                  have refused : rp.setsockopt ≠ none := by simp [set]
                  simp only [if_true, SocketProcess.setReuseaddr, SocketProcess.onSocket, set]
                  exact .returned added.release (congrArg (· + 1) freed)
                    (.head ⟨created, .inl ⟨rfl, refused⟩⟩) refused
              | none =>
                  simp only [if_true, SocketProcess.setReuseaddr, SocketProcess.onSocket, set]
                  exact passiveLoop_bind inductionHypothesis (added.modify _) freed rfl created
                    (fun _ => set)

/-- The entry at which the walk of `inetListen` stops can be bound and then
refuses to listen. -/
def ListenRefused (candidates : List Candidate) : Prop :=
  Exists fun position => Exists fun rp =>
    FirstWith (Candidate.Stops true) candidates position rp ∧
      rp.setsockopt = none ∧ rp.listen ≠ none

/-- The addresses that `inetPassiveSocket` walks through, or why it has none. -/
def Resolver.passive (resolver : Resolver) (service : List Byte) (type : Int) :
    Except Int (List Candidate) :=
  resolver.getaddrinfo none service
    { ai_family := AF_UNSPEC, ai_socktype := type, ai_flags := AI_PASSIVE }

/-- A first entry at which the walk stops is the first to succeed, if it does:
an entry that the walk passes does not succeed. -/
theorem FirstWith.succeeds {doListen : Bool} {Succeeds : Candidate -> Prop}
    {candidates : List Candidate} {position : Nat} {rp : Candidate}
    (first : FirstWith (Candidate.Stops doListen) candidates position rp)
    (stops : forall other, Succeeds other -> other.Stops doListen) (succeeds : Succeeds rp) :
    FirstWith Succeeds candidates position rp where
  here := first.here
  holds := succeeds
  earlier before less other found holds := first.earlier before less other found (stops other holds)

theorem inetBind_clean (resolver : Resolver) (service : List Byte) (type : Int)
    (addrlen : Option Nat) (process : SocketProcess) :
    CleanCall Candidate.Binds (resolver.passive service type) process
      (inetBind resolver service type addrlen process).returned
      (inetBind resolver service type addrlen process).process := by
  unfold inetBind inetPassiveSocket Resolver.passive
  generalize resolver.getaddrinfo none service _ = resolved
  cases resolved with
  | error code => exact .unresolved (.refl _) rfl
  | ok candidates =>
      have walk := passiveLoop_end false process 0 candidates process (.refl _) rfl
      simp only
      generalize passiveLoop false 0 candidates process = result at walk
      cases walk with
      | returned same freed first refused => exact .refusal same freed
      | exhausted same freed none => exact .refusal same (congrArg (· + 1) freed)
      | bound added freed numbered first binds set =>
          have chosen := first.succeeds (fun other holds => ⟨holds.1, .inr holds.2⟩) binds
          exact .success added (congrArg (· + 1) freed) numbered chosen

theorem Candidate.Listens.stops {rp : Candidate} (listens : rp.Listens) : rp.Stops true :=
  ⟨listens.1, .inr listens.2.2.1⟩

/-- `inetListen` keeps a descriptor that it does not return exactly when the
entry that it has bound refuses to listen. -/
theorem inetListen_clean_iff (resolver : Resolver) (service : List Byte) (backlog : Int)
    (addrlen : Option Nat) (process : SocketProcess) :
    CleanCall Candidate.Listens (resolver.passive service SOCK_STREAM) process
        (inetListen resolver service backlog addrlen process).returned
        (inetListen resolver service backlog addrlen process).process <->
      forall candidates, resolver.passive service SOCK_STREAM = .ok candidates ->
        ¬ ListenRefused candidates := by
  unfold inetListen inetPassiveSocket Resolver.passive
  generalize resolver.getaddrinfo none service _ = resolved
  cases resolved with
  | error code =>
      refine iff_of_true (.unresolved (.refl _) rfl) ?_
      intro candidates impossible
      cases impossible
  | ok candidates =>
      have walk := passiveLoop_end true process 0 candidates process (.refl _) rfl
      simp only
      simp only [Except.ok.injEq, forall_eq']
      generalize passiveLoop true 0 candidates process = result at walk
      cases walk with
      | returned same freed first refused =>
          refine iff_of_true (.refusal same freed) ?_
          rintro ⟨other, candidate, otherFirst, set, -⟩
          rw [otherFirst.unique first] at set
          exact refused set
      | exhausted same freed none =>
          refine iff_of_true (.refusal same (congrArg (· + 1) freed)) ?_
          rintro ⟨other, candidate, otherFirst, -⟩
          exact none candidate (List.mem_of_getElem? otherFirst.here) otherFirst.holds
      | @bound after sfd position rp made added freed numbered first binds set =>
          cases listened : rp.listen with
          | none =>
              simp only [finishPassive, if_true, SocketProcess.listen, SocketProcess.onSocket, listened]
              have chosen := first.succeeds (fun _ listens => Candidate.Listens.stops listens)
                ⟨binds.1, set rfl, binds.2, listened⟩
              refine iff_of_true
                (.success (added.modify _) (congrArg (· + 1) freed) numbered chosen) ?_
              rintro ⟨other, candidate, otherFirst, -, refuses⟩
              rw [otherFirst.unique first] at refuses
              exact refuses listened
          | some errno =>
              simp only [finishPassive, if_true, SocketProcess.listen, SocketProcess.onSocket, listened]
              refine iff_of_false ?_ ?_
              · intro clean
                exact added.not_same (clean.refused rfl)
              · intro accepted
                exact accepted ⟨position, rp, first, set rfl, by simp [listened]⟩

/-- `inetConnect` and `inetBind` never keep a descriptor that they do not
return.  `inetListen` does exactly when the entry that it has bound refuses to
listen: that exit frees the address list and does not close the socket. -/
theorem inetSockets_clean (resolver : Resolver) (host service : List Byte) (type backlog : Int)
    (addrlen : Option Nat) (process : SocketProcess) :
    CleanCall Candidate.Connects
        (resolver.getaddrinfo (some host) service
          { ai_family := AF_UNSPEC, ai_socktype := type, ai_flags := 0 })
        process (inetConnect resolver host service type process).1
        (inetConnect resolver host service type process).2 ∧
      CleanCall Candidate.Binds (resolver.passive service type) process
        (inetBind resolver service type addrlen process).returned
        (inetBind resolver service type addrlen process).process ∧
      (CleanCall Candidate.Listens (resolver.passive service SOCK_STREAM) process
          (inetListen resolver service backlog addrlen process).returned
          (inetListen resolver service backlog addrlen process).process <->
        forall candidates, resolver.passive service SOCK_STREAM = .ok candidates ->
          ¬ ListenRefused candidates) :=
  ⟨inetConnect_clean resolver host service type process,
    inetBind_clean resolver service type addrlen process,
    inetListen_clean_iff resolver service backlog addrlen process⟩

/-- A wildcard address whose port another socket already listens on: with
`SO_REUSEADDR` set both sockets can be bound, but only one of them listens. -/
def portInUse : Candidate where
  info :=
    { ai_family := 2, ai_socktype := 1, ai_protocol := 6
      ai_addr := [2, 0, 195, 80, 0, 0, 0, 0, 0, 0, 0, 0, 0, 0, 0, 0], ai_addrlen := 16 }
  socket := none
  setsockopt := none
  connect := none
  bind := none
  listen := some (.other 98)

/-- A process with its three standard descriptors open. -/
def standardProcess : SocketProcess where
  descriptors := ⟨[some (.elsewhere 0), some (.elsewhere 1), some (.elsewhere 2)]⟩
  errno := .other 0
  freed := 0

/-- Called for a port in use, `inetListen` fails and leaves descriptor 3 open. -/
theorem inetListen_port_in_use :
    (inetListen ⟨fun _ _ _ => .ok [portInUse]⟩ (ascii "50000") 50 none standardProcess).returned = none ∧
      ¬ CleanCall Candidate.Listens (.ok [portInUse]) standardProcess
        (inetListen ⟨fun _ _ _ => .ok [portInUse]⟩ (ascii "50000") 50 none standardProcess).returned
        (inetListen ⟨fun _ _ _ => .ok [portInUse]⟩ (ascii "50000") 50 none standardProcess).process := by
  refine ⟨by decide, ?_⟩
  intro clean
  have closed := clean.refused (by decide) 3
  revert closed
  decide

end Lib
end Tlpi
