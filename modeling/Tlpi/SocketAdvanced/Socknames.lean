import Tlpi.Lib.InetSockets
import Tlpi.Lib.ProgramEnd

namespace Tlpi
namespace SocketAdvanced
namespace Socknames

open CLibrary Foundations Lib

/-!
# The address buffer of `socknames`

The program allocates a buffer for socket addresses, of the length that `inetListen`
reports, and asks for four addresses in it.  The length is passed to each call by
reference: the call takes it for the size of the buffer, and leaves the length of the
address there, also if the address did not fit.  The program does not set it again, so that
the size a call is told is the length of the address before.
-/

/-- The calls that ask for an address, in the order of the program. -/
inductive Query where
  | sockConn
  | sockAccept
  | peerConn
  | peerAccept
deriving DecidableEq, Repr

namespace Query

/-- The function called. -/
def function : Query -> String
  | .sockConn | .sockAccept => "getsockname"
  | .peerConn | .peerAccept => "getpeername"

/-- What the program prints in front of the address. -/
def title : Query -> String
  | .sockConn => "getsockname(connFd)   "
  | .sockAccept => "getsockname(acceptFd)   "
  | .peerConn => "getpeername(connFd)   "
  | .peerAccept => "getpeername(acceptFd)   "

def all : List Query := [.sockConn, .sockAccept, .peerConn, .peerAccept]

end Query

/-- The answers to the calls: an error if the call fails, the block that `malloc` returns,
the addresses, and the names that belong to an address. -/
structure Answers where
  resolver : Resolver
  connect : Option Errno
  accept : Option Errno
  malloc : Option Nat
  address : Query -> Except Errno (List Byte)
  getnameinfo : List Byte -> Option (List Byte × List Byte)

def IS_ADDR_STR_LEN : Nat := 4096

/-- `inetAddressStr(addr, addrlen, addrStr, addrStrLen)`. -/
def inetAddressStr (getnameinfo : List Byte -> Option (List Byte × List Byte))
    (addr : List Byte) (addrStrLen : Nat) : List Byte :=
  match getnameinfo addr with
  | some (host, service) =>
      snprintf addrStrLen (ascii "(" ++ host ++ ascii ", " ++ service ++ ascii ")")
  | none => snprintf addrStrLen (ascii "(?UNKNOWN?)")

/-- A call that was made: the length that it was told the buffer has, its answer, how much of
the address it put into the buffer, and what `inetAddressStr` then got for the address. -/
structure Call where
  query : Query
  capacity : Nat
  answer : Except Errno (List Byte)
  copied : List Byte
  handed : List Byte

/-- What the program has done: the size of the buffer, once it is allocated, the calls that
asked for an address, and the output. -/
structure Outcome where
  room : Option Nat
  calls : List Call
  printed : List (List Byte)
  ended : ProgramEnd

/-- The calls for the given addresses, with the buffer at `addr` and `len` as the call before
has left it. -/
def ask (dumpcore : Option String) (answers : Answers) (addr room : Nat) :
    List Query -> Nat -> Memory -> Outcome
  | [], _, _ => ⟨some room, [], [ascii "confirm 'ss'"], .success⟩
  | query :: later, len, memory =>
      match answers.address query with
      | .error errno =>
          ⟨some room, [⟨query, len, .error errno, [], []⟩], [],
            .failed (errExit dumpcore errno query.function)⟩
      | .ok address =>
          let copied := address.take len
          let filled := store memory addr copied
          let handed := load filled addr address.length
          let line := ascii query.title ++
            inetAddressStr answers.getnameinfo handed IS_ADDR_STR_LEN
          let rest := ask dumpcore answers addr room later address.length filled
          { rest with
            calls := ⟨query, len, .ok address, copied, handed⟩ :: rest.calls
            printed := line :: rest.printed }

def main (dumpcore : Option String) (answers : Answers) (argv : List (List Byte))
    (process : SocketProcess) (memory : Memory) : Outcome :=
  let usage (program : List Byte) : Outcome :=
    ⟨none, [], [], usageErr (program ++ ascii " service")⟩
  let failing (errno : Errno) (call : String) : Outcome :=
    ⟨none, [], [], .failed (errExit dumpcore errno call)⟩
  match argv with
  | [program, service] =>
      if service = ascii "--help" then usage program
      else
        let listening := inetListen answers.resolver service 5 (some 0) process
        match listening.returned, listening.addrlen with
        | some _, some len =>
            match answers.connect, answers.accept, answers.malloc with
            | some errno, _, _ => failing errno "inetConnect"
            | none, some errno, _ => failing errno "accept"
            | none, none, none => failing .ENOMEM "malloc"
            | none, none, some addr => ask dumpcore answers addr len Query.all len memory
        | _, _ => failing listening.process.errno "inetListen"
  | program :: _ => usage program
  | [] => usage []

/-! ## What the calls are told -/

/-- A call is not told more than the buffer has, and the address that it leaves there, and
that is handed on, is complete. -/
structure SoundCall (room : Nat) (call : Call) : Prop where
  within : call.capacity ≤ room
  complete : forall address, call.answer = .ok address ->
    call.copied = address ∧ call.handed = address

/-- The lengths of the addresses up to the first call that fails. -/
def lengths : List (Except Errno (List Byte)) -> List Nat
  | .ok address :: later => address.length :: lengths later
  | _ => []

/-- Each length is at most the one before. -/
def Shrinking (lengths : List Nat) : Prop :=
  lengths.IsChain (fun earlier later => later ≤ earlier)

theorem shrinking_singleton (length : Nat) : Shrinking [length] := .singleton length

theorem shrinking_cons_cons {first second : Nat} {later : List Nat} :
    Shrinking (first :: second :: later) <-> second ≤ first ∧ Shrinking (second :: later) :=
  List.isChain_cons_cons

/-- What is handed on after a call that was told enough is the address. -/
theorem handed_eq (memory : Memory) (addr : Nat) {len : Nat} {address : List Byte}
    (enough : address.length ≤ len) :
    load (store memory addr (address.take len)) addr address.length = address := by
  rw [List.take_of_length_le enough, load_store _ _ _ _ (Nat.le_refl _), List.take_length]

section

variable {dumpcore : Option String} {answers : Answers}

/-- Induction over the calls: a call that leaves a complete address leaves a length for the
next one that the buffer has. -/
theorem ask_sound_iff {addr room len : Nat} (within : len ≤ room) (queries : List Query)
    (memory : Memory) :
    (forall call, call ∈ (ask dumpcore answers addr room queries len memory).calls ->
        SoundCall room call) <->
      Shrinking (len :: lengths (queries.map answers.address)) := by
  induction queries generalizing len memory with
  | nil =>
      exact iff_of_true (fun call member => absurd member List.not_mem_nil) (shrinking_singleton len)
  | cons query later inductionHypothesis =>
      unfold ask
      rw [List.map_cons]
      cases answered : answers.address query with
      | error errno =>
          refine iff_of_true ?_ (shrinking_singleton len)
          intro call member
          rw [List.mem_singleton.mp member]
          exact ⟨within, fun address impossible => by cases impossible⟩
      | ok address =>
          dsimp only [lengths]
          rw [List.forall_mem_cons, shrinking_cons_cons]
          constructor
          · rintro ⟨sound, others⟩
            have whole : address.take len = address := (sound.complete address rfl).1
            have shorter : address.length ≤ len := by
              rw [← whole, List.length_take]
              exact Nat.min_le_left _ _
            exact ⟨shorter, (inductionHypothesis (shorter.trans within) _).mp others⟩
          · rintro ⟨shorter, chain⟩
            refine ⟨⟨within, ?_⟩, (inductionHypothesis (shorter.trans within) _).mpr chain⟩
            intro other same
            cases same
            exact ⟨List.take_of_length_le shorter, handed_eq memory addr shorter⟩

theorem ask_room (addr room : Nat) (queries : List Query) (len : Nat) (memory : Memory) :
    (ask dumpcore answers addr room queries len memory).room = some room := by
  cases queries with
  | nil => rfl
  | cons query later =>
      unfold ask
      cases answers.address query with
      | error errno => rfl
      | ok address => exact ask_room addr room later address.length _

/-- A run that allocates the buffer asks for the addresses, with the length that `inetListen`
has reported. -/
theorem main_asks {argv : List (List Byte)} {process : SocketProcess} {memory : Memory}
    {length : Nat} (allocated : (main dumpcore answers argv process memory).room = some length) :
    Exists fun service => Exists fun addr =>
      (inetListen answers.resolver service 5 (some 0) process).addrlen = some length ∧
        main dumpcore answers argv process memory =
          ask dumpcore answers addr length Query.all length memory := by
  unfold main at allocated ⊢
  split at allocated
  · next program service =>
      dsimp only at allocated ⊢
      split at allocated
      · cases allocated
      · next notHelp =>
          rw [if_neg notHelp]
          split at allocated
          · next len _ reported =>
              split at allocated
              · cases allocated
              · cases allocated
              · cases allocated
              · next addr _ _ _ =>
                  rw [ask_room] at allocated
                  cases allocated
                  exact ⟨service, addr, reported, rfl⟩
          · cases allocated
  · cases allocated
  · cases allocated

/-- The buffer is never over- or understated exactly if the first address is no longer than
`inetListen` has reported, and no address is longer than the one before. -/
theorem addressBuffer_sound_iff (dumpcore : Option String) (answers : Answers) (argv : List (List Byte))
    (process : SocketProcess) (memory : Memory) {length : Nat}
    (allocated : (main dumpcore answers argv process memory).room = some length) :
    (forall call, call ∈ (main dumpcore answers argv process memory).calls ->
        SoundCall length call) <->
      Shrinking (length :: lengths (Query.all.map answers.address)) := by
  rcases main_asks allocated with ⟨service, addr, _, asks⟩
  rw [asks]
  exact ask_sound_iff (Nat.le_refl length) Query.all memory

end

/-- A wildcard address that can be listened on. -/
def wildcard (family : Int) (address : List Byte) : Candidate where
  info :=
    { ai_family := family, ai_socktype := 1, ai_protocol := 6
      ai_addr := address, ai_addrlen := address.length }
  socket := none
  setsockopt := none
  connect := none
  bind := none
  listen := none

def loopback4 : List Byte := [2, 0, 195, 80, 127, 0, 0, 1, 0, 0, 0, 0, 0, 0, 0, 0]

/-- The same address as a socket for IPv6 sees it. -/
def loopback6 : List Byte :=
  [10, 0, 195, 80, 0, 0, 0, 0, 0, 0, 0, 0, 0, 0, 0, 0, 0, 0, 255, 255, 127, 0, 0, 1, 0, 0, 0, 0]

/-- A socket that listens on one address, and the addresses of the two ends of a connection
to it. -/
def connection (family : Int) (listening connecting accepting : List Byte) : Answers where
  resolver := ⟨fun _ _ _ => .ok [wildcard family listening]⟩
  connect := none
  accept := none
  malloc := some 4096
  address
    | .sockConn | .peerConn => .ok connecting
    | .sockAccept | .peerAccept => .ok accepting
  getnameinfo _ := none

/-- With one family for all sockets the buffer is right. -/
theorem oneFamily_sound :
    (forall call, call ∈ (main none (connection 2 loopback4 loopback4 loopback4)
          [ascii "socknames", ascii "50000"] standardProcess (fun _ => 0)).calls ->
        SoundCall 16 call) <->
      Shrinking (16 :: lengths (Query.all.map (connection 2 loopback4 loopback4 loopback4).address)) :=
  addressBuffer_sound_iff none (connection 2 loopback4 loopback4 loopback4)
    [ascii "socknames", ascii "50000"] standardProcess (fun _ => 0) (by decide +kernel)

/-- A socket that listens for IPv6 accepts a connection over IPv4: of the addresses of the
accepted socket, the first 16 of 28 bytes are copied. -/
theorem mixedFamilies_truncated :
    let run := main none (connection 10 loopback6 loopback4 loopback6)
      [ascii "socknames", ascii "50000"] standardProcess (fun _ => 0)
    run.room = some 28 ∧
      run.calls.map (fun call => (call.capacity, call.copied.length)) =
        [(28, 16), (16, 16), (28, 16), (16, 16)] ∧
      ¬ forall call, call ∈ run.calls -> SoundCall 28 call := by
  intro run
  have allocated : run.room = some 28 := by decide +kernel
  refine ⟨allocated, by decide +kernel, ?_⟩
  intro sound
  rcases main_asks allocated with ⟨service, addr, _, asks⟩
  change run = _ at asks
  rw [asks] at sound
  have shrinking := (ask_sound_iff (Nat.le_refl 28) Query.all _).mp sound
  have grows := (shrinking_cons_cons.mp (shrinking_cons_cons.mp shrinking).2).1
  exact absurd grows (by decide)

end Socknames
end SocketAdvanced
end Tlpi
