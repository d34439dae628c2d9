import Tlpi.IpcPipeFifo.FifoSeqnumLedger
import Tlpi.IpcPipeFifo.FifoSeqnumServer

namespace Tlpi
namespace IpcPipeFifo

open CLibrary Foundations Lib

universe u

/-!
# Replies reach the clients they are meant for

The server finds a client by the PID in its request.  A PID may pass to another
client, so the reply reaches the right one only if its successor does not find
it.  The runs considered here are those in which no client is terminated, no
client fails to open its FIFO once it has sent its request, and a client that
fails to read from it removes it.  A request whose FIFO the server has still to
look up then always has its sender waiting for the reply.

The invariant follows a reply on its way: the server holds the FIFO of the
sender, the FIFO holds the start of the sender's own range, and either the
sender waits under the name of the FIFO or nobody can find it any more.
-/

variable {Client : Type u}

/-- Whether the handler runs when the client reports a failed call. -/
def Setup.removesOnFailure (setup : Setup Client) (client : Client) : Bool :=
  (terminate (setup.dumpcore client) true).runsHandlers

/-- No client is terminated.  No `open` fails by which a client that has sent its
request opens its own FIFO, and a client whose `read` of the reply fails removes
the FIFO as it exits. -/
def NoClientLost (setup : Setup Client) (world : World Client) : Action Client -> Prop
  | .server _ => True
  | .client client outcome =>
      outcome = .success ∨ ((world.clients client).opening = false ∧
        ((world.clients client).waiting = true -> setup.removesOnFailure client = true))
  | .terminate _ _ => False

instance (setup : Setup Client) (world : World Client) :
    DecidablePred (NoClientLost setup world) := fun action =>
  match action with
  | .server _ => isTrue trivial
  | .client _ _ => inferInstanceAs (Decidable (_ ∨ _))
  | .terminate _ _ => isFalse id

namespace ServerPc

/-- The request that the server has taken and whose FIFO it has not looked up. -/
def unopened : ServerPc Client -> List (Request Client)
  | .opening req => [req]
  | _ => []

/-- The request and the FIFO of a reply that is still to be written. -/
def replying : ServerPc Client -> Option (Request Client × Nat)
  | .awaitingReader req fifo _ | .writing req fifo => some (req, fifo)
  | _ => none

theorem held_of_replying {pc : ServerPc Client} {req : Request Client} {fifo : Nat}
    (current : pc.replying = some (req, fifo)) : pc.held = some (req, fifo) := by
  cases pc <;> first | exact current | cases current

end ServerPc

/-- The requests whose FIFO the server has not looked up. -/
def World.unopened (world : World Client) : List (Request Client) :=
  world.server.unopened ++ world.queue

/-- A number is the start of the range reserved for the client's own request. -/
def World.OwnStart (world : World Client) (client : Client) (number : Int) : Prop :=
  Exists fun entry => entry ∈ world.handled ∧ entry.client = client ∧ entry.start = number

/-- The client waits under the name of the FIFO, or the FIFO has no name. -/
def World.Reaches (setup : Setup Client) (world : World Client) (client : Client) (fifo : Nat) :
    Prop :=
  ((world.clients client).waiting = true ∧
      world.directory (setup.fifoName client) = some fifo) ∨
    forall name, world.directory name ≠ some fifo

/-- Where replies are on their way. -/
structure Routing (setup : Setup Client) (world : World Client) : Prop where
  waits : forall req, req ∈ world.unopened -> (world.clients req.sender).waiting = true
  idle : forall req fifo seen, req ∈ world.unopened ->
    world.clients req.sender = .awaitingWriter fifo seen ->
    (world.fifos fifo).writers = 0 ∧ (world.fifos fifo).writerOpens = seen
  notReading : forall req fifo, req ∈ world.unopened -> world.clients req.sender ≠ .reading fifo
  writing : forall req fifo, world.server.held = some (req, fifo) -> (world.fifos fifo).writers = 1
  unwritten : forall fifo, (forall req, world.server.held ≠ some (req, fifo)) ->
    (world.fifos fifo).writers = 0
  replying : forall req fifo, world.server.replying = some (req, fifo) ->
    world.Reaches setup req.sender fifo ∧ (world.fifos fifo).data = []
  named : forall req fifo name, world.server.held = some (req, fifo) ->
    world.directory name = some fifo ->
    name = setup.fifoName req.sender ∧ (world.clients req.sender).hasFifo = true
  data : forall fifo, (world.fifos fifo).data ≠ [] -> Exists fun entry =>
    entry ∈ world.handled ∧ (world.fifos fifo).data = [entry.start] ∧
      world.Reaches setup entry.client fifo
  delivered : forall client fifo number, world.clients client = .printing fifo number ->
    world.OwnStart client number
  printed : forall client number, world.printed client = some number ->
    world.OwnStart client number

namespace Routing

variable {setup : Setup Client} {world next : World Client}

theorem of_fresh (fresh : Fresh world) : Routing setup world := by
  have empty : forall fifo, world.fifos fifo = Fifo.empty := fresh.fifos
  constructor
  all_goals
    simp [World.unopened, fresh.server, fresh.queue, fresh.clients, fresh.printed,
      empty, Fifo.empty, ServerPc.unopened, ServerPc.held, ServerPc.replying]

/-- A request whose FIFO has not been looked up is unanswered. -/
theorem mem_unanswered {req : Request Client} (member : req ∈ world.unopened) :
    req ∈ world.unanswered := by
  rcases List.mem_append.mp member with taken | queued
  · refine List.mem_append_left _ ?_
    cases pc : world.server with
    | opening current =>
        rw [pc] at taken
        exact taken
    | _ =>
        rw [pc] at taken
        cases taken
  · exact List.mem_append_right _ queued

/-- What a moving client owes the invariant itself, when it comes to `pc`. -/
structure Keeps (setup : Setup Client) (world next : World Client) (client : Client)
    (pc : ClientPc) : Prop where
  waits : forall req, req ∈ world.unopened -> req.sender = client -> pc.waiting = true
  idle : forall req fifo seen, req ∈ world.unopened -> req.sender = client ->
    pc = .awaitingWriter fifo seen ->
    (world.fifos fifo).writers = 0 ∧ (world.fifos fifo).writerOpens = seen
  notReading : forall req fifo, req ∈ world.unopened -> req.sender = client -> pc ≠ .reading fifo
  replying : forall req fifo, world.server.replying = some (req, fifo) -> req.sender = client ->
    (world.clients client).waiting = true ->
    world.directory (setup.fifoName client) = some fifo -> next.Reaches setup client fifo
  data : forall fifo, (next.fifos fifo).data ≠ [] -> (world.clients client).waiting = true ->
    world.directory (setup.fifoName client) = some fifo -> next.Reaches setup client fifo
  delivered : forall fifo number, pc = .printing fifo number -> world.OwnStart client number

/-- What a moving client leaves to the others. -/
structure Spares (setup : Setup Client) (world next : World Client) : Prop where
  server : next.server = world.server
  queue : next.queue = world.queue
  handled : next.handled = world.handled
  writers : forall fifo, (next.fifos fifo).writers = (world.fifos fifo).writers
  writerOpens : forall fifo, (next.fifos fifo).writerOpens = (world.fifos fifo).writerOpens
  data : forall fifo, (next.fifos fifo).data = [] ∨
    (next.fifos fifo).data = (world.fifos fifo).data
  directory : forall other, (next.clients other).waiting = true ->
    next.directory (setup.fifoName other) = world.directory (setup.fifoName other)
  unnamed : forall fifo, fifo < world.nextFifo -> (forall name, world.directory name ≠ some fifo) ->
    forall name, next.directory name ≠ some fifo
  named : forall req fifo name, world.server.held = some (req, fifo) ->
    next.directory name = some fifo ->
    name = setup.fifoName req.sender ∧ (next.clients req.sender).hasFifo = true
  printed : forall other number, next.printed other = some number -> world.OwnStart other number

variable [DecidableEq Client]

theorem of_client (routing : Routing setup world) (naming : Naming setup world) {client : Client}
    {pc : ClientPc} (clients : next.clients = Function.update world.clients client pc)
    (keeps : Keeps setup world next client pc) (spares : Spares setup world next) :
    Routing setup next := by
  have unopened : next.unopened = world.unopened := by
    rw [World.unopened, World.unopened, spares.server, spares.queue]
  have own : next.clients client = pc := by rw [clients, Function.update_self]
  have others : forall other, other ≠ client -> next.clients other = world.clients other := by
    intro other different
    rw [clients, Function.update_of_ne different]
  have start : forall other number, world.OwnStart other number -> next.OwnStart other number := by
    intro other number
    rw [World.OwnStart, World.OwnStart, spares.handled]
    exact id
  have reaches : forall other fifo, other ≠ client -> fifo < world.nextFifo ->
      world.Reaches setup other fifo -> next.Reaches setup other fifo := by
    intro other fifo different older reached
    rcases reached with ⟨waiting, directory⟩ | orphan
    · have stillWaiting : (next.clients other).waiting = true := by
        rw [others other different]
        exact waiting
      exact Or.inl ⟨stillWaiting, (spares.directory other stillWaiting).trans directory⟩
    · exact Or.inr (spares.unnamed fifo older orphan)
  refine ⟨?_, ?_, ?_, ?_, ?_, ?_, ?_, ?_, ?_, ?_⟩
  · intro req member
    rw [unopened] at member
    rcases eq_or_ne req.sender client with same | different
    · rw [same, own]
      exact keeps.waits req member same
    · rw [others _ different]
      exact routing.waits req member
  · intro req fifo seen member position
    rw [unopened] at member
    rw [spares.writers, spares.writerOpens]
    rcases eq_or_ne req.sender client with same | different
    · rw [same, own] at position
      exact keeps.idle req fifo seen member same position
    · rw [others _ different] at position
      exact routing.idle req fifo seen member position
  · intro req fifo member
    rw [unopened] at member
    rcases eq_or_ne req.sender client with same | different
    · rw [same, own]
      exact keeps.notReading req fifo member same
    · rw [others _ different]
      exact routing.notReading req fifo member
  · intro req fifo held
    rw [spares.server] at held
    rw [spares.writers]
    exact routing.writing req fifo held
  · intro fifo free
    rw [spares.server] at free
    rw [spares.writers]
    exact routing.unwritten fifo free
  · intro req fifo current
    rw [spares.server] at current
    have older := naming.heldBounded req fifo (ServerPc.held_of_replying current)
    rcases routing.replying req fifo current with ⟨reached, empty⟩
    refine ⟨?_, (spares.data fifo).elim id (fun same => same.trans empty)⟩
    rcases eq_or_ne req.sender client with same | different
    · rw [same] at reached ⊢
      rcases reached with ⟨waiting, directory⟩ | orphan
      · exact keeps.replying req fifo current same waiting directory
      · exact Or.inr (spares.unnamed fifo older orphan)
    · exact reaches req.sender fifo different older reached
  · intro req fifo name held
    rw [spares.server] at held
    exact spares.named req fifo name held
  · intro fifo full
    have same : (next.fifos fifo).data = (world.fifos fifo).data :=
      (spares.data fifo).resolve_left full
    have older := naming.used_of_data (same ▸ full)
    rcases routing.data fifo (same ▸ full) with ⟨entry, member, start, reached⟩
    refine ⟨entry, spares.handled ▸ member, same.trans start, ?_⟩
    rcases eq_or_ne entry.client client with isClient | different
    · rw [isClient] at reached ⊢
      rcases reached with ⟨waiting, directory⟩ | orphan
      · exact keeps.data fifo full waiting directory
      · exact Or.inr (spares.unnamed fifo older orphan)
    · exact reaches entry.client fifo different older reached
  · intro other fifo number position
    refine start other number ?_
    rcases eq_or_ne other client with same | different
    · rw [same, own] at position
      rw [same]
      exact keeps.delivered fifo number position
    · rw [others _ different] at position
      exact routing.delivered other fifo number position
  · exact fun other number shown => start other number (spares.printed other number shown)

omit [DecidableEq Client] in
/-- A client that does not wait has nothing on its way. -/
theorem keeps_of_calm (routing : Routing setup world) (next : World Client) {client : Client}
    {pc : ClientPc} (calm : (world.clients client).waiting = false)
    (delivered : forall fifo number, pc ≠ .printing fifo number) :
    Keeps setup world next client pc := by
  have still : forall {other : Client}, (world.clients other).waiting = true -> other ≠ client := by
    rintro other waiting rfl
    rw [calm] at waiting
    cases waiting
  refine ⟨?_, ?_, ?_, ?_, ?_, ?_⟩
  · exact fun req member same => absurd same (still (routing.waits req member))
  · exact fun req _ _ member same => absurd same (still (routing.waits req member))
  · exact fun req _ member same => absurd same (still (routing.waits req member))
  · exact fun _ _ _ _ waiting => absurd rfl (still waiting)
  · exact fun _ _ waiting => absurd rfl (still waiting)
  · exact fun fifo number position => absurd position (delivered fifo number)

omit [DecidableEq Client] in
/-- A client that goes on waiting, under the name it has. -/
theorem keeps_of_waiting {client : Client} {pc : ClientPc} (waiting : pc.waiting = true)
    (position : next.clients client = pc) (directory : next.directory = world.directory)
    (idle : forall req fifo seen, req ∈ world.unopened -> req.sender = client ->
      pc = .awaitingWriter fifo seen ->
      (world.fifos fifo).writers = 0 ∧ (world.fifos fifo).writerOpens = seen)
    (notReading : forall req fifo, req ∈ world.unopened -> req.sender = client ->
      pc ≠ .reading fifo) : Keeps setup world next client pc := by
  have reaches : forall fifo, world.directory (setup.fifoName client) = some fifo ->
      next.Reaches setup client fifo := by
    intro fifo named
    refine Or.inl ⟨?_, ?_⟩
    · rw [position]
      exact waiting
    · rw [directory]
      exact named
  refine ⟨fun _ _ _ => waiting, idle, notReading, fun _ fifo _ _ _ => reaches fifo,
    fun fifo _ _ => reaches fifo, ?_⟩
  rintro fifo number rfl
  cases waiting

theorem of_same_files (routing : Routing setup world) (naming : Naming setup world)
    {client : Client} {pc : ClientPc}
    (clients : next.clients = Function.update world.clients client pc)
    (keeps : Keeps setup world next client pc)
    (has : (world.clients client).hasFifo = true -> pc.hasFifo = true)
    (server : next.server = world.server) (queue : next.queue = world.queue)
    (handled : next.handled = world.handled) (fifos : next.fifos = world.fifos)
    (directory : next.directory = world.directory)
    (printed : forall other number, next.printed other = some number ->
      world.OwnStart other number) : Routing setup next := by
  refine routing.of_client naming clients keeps
    ⟨server, queue, handled, ?_, ?_, ?_, ?_, ?_, ?_, printed⟩
  · exact fun fifo => by rw [fifos]
  · exact fun fifo => by rw [fifos]
  · exact fun fifo => Or.inr (by rw [fifos])
  · exact fun other _ => by rw [directory]
  · exact fun fifo _ orphan => by rw [directory]; exact orphan
  · intro req fifo name held found
    rw [directory] at found
    rcases routing.named req fifo name held found with ⟨same, hasFifo⟩
    refine ⟨same, ?_⟩
    rw [clients]
    rcases eq_or_ne req.sender client with isClient | different
    · rw [isClient, Function.update_self]
      exact has (isClient ▸ hasFifo)
    · rwa [Function.update_of_ne different]

theorem make (routing : Routing setup world) (naming : Naming setup world) {client : Client}
    (pc : world.clients client = .makingFifo) :
    Routing setup ((world.mkfifo (setup.fifoName client)).moveClient client .registering) := by
  have calm : (world.clients client).waiting = false := by rw [pc]; rfl
  unfold World.mkfifo
  split
  · rename_i free
    have blank : Function.update world.fifos world.nextFifo Fifo.empty = world.fifos := by
      rw [← naming.blank world.nextFifo le_rfl, Function.update_eq_self]
    have older : forall fifo name, fifo < world.nextFifo ->
        (world.create (setup.fifoName client)).directory name = some fifo ->
        world.directory name = some fifo := by
      intro fifo name earlier found
      have different : name ≠ setup.fifoName client := by
        rintro rfl
        have new : some world.nextFifo = some fifo :=
          (Function.update_self (setup.fifoName client) _ _).symm.trans found
        exact absurd (Option.some.inj new) (Nat.ne_of_gt earlier)
      exact (Function.update_of_ne different _ _).symm.trans found
    refine routing.of_client naming rfl (routing.keeps_of_calm _ calm (by simp))
      ⟨rfl, rfl, rfl, ?_, ?_, ?_, ?_, ?_, ?_, routing.printed⟩
    · exact fun fifo => by rw [World.moveClient, World.create, World.setFifo, blank]
    · exact fun fifo => by rw [World.moveClient, World.create, World.setFifo, blank]
    · exact fun fifo => Or.inr (by rw [World.moveClient, World.create, World.setFifo, blank])
    · intro other waiting
      have different : other ≠ client := by
        rintro rfl
        simp [World.moveClient, ClientPc.waiting] at waiting
      have running : (world.clients other).running = true := by
        refine ClientPc.running_of_hasFifo (ClientPc.hasFifo_of_waiting ?_)
        simpa [World.moveClient, World.create, World.setFifo, different] using waiting
      refine Function.update_of_ne ?_ _ _
      intro same
      exact different (naming.name_unique running (by rw [pc]; rfl) same)
    · exact fun fifo earlier orphan name found => orphan name (older fifo name earlier found)
    · intro req fifo name held found
      have before := older fifo name (naming.heldBounded req fifo held) found
      rcases routing.named req fifo name held before with ⟨same, hasFifo⟩
      refine ⟨same, ?_⟩
      rcases eq_or_ne req.sender client with isClient | elsewhere
      · rw [isClient]
        simp [World.moveClient, ClientPc.hasFifo]
      · simpa [World.moveClient, World.create, World.setFifo, elsewhere] using hasFifo
  · exact routing.of_same_files naming rfl (routing.keeps_of_calm _ calm (by simp)) (fun _ => rfl)
      rfl rfl rfl rfl rfl routing.printed

/-- A client ends whose reply is not on its way. -/
theorem leave (routing : Routing setup world) (naming : Naming setup world) {client : Client}
    (runs : (world.clients client).running = true) (ending : Ending)
    (keeps : Keeps setup world (world.leave setup client ending) client (.exited ending))
    (gone : forall req fifo name, world.server.held = some (req, fifo) -> req.sender = client ->
      (world.leave setup client ending).directory name ≠ some fifo) :
    Routing setup (world.leave setup client ending) := by
  rcases world.leave_eq client ending with ⟨directory, fifos, files, left⟩
  rw [left] at keeps gone ⊢
  refine routing.of_client naming rfl keeps
    ⟨rfl, rfl, rfl, files.writers, files.writerOpens, files.data, ?_,
      fun fifo _ orphan name found => orphan name (files.old name fifo found), ?_, routing.printed⟩
  · intro other waiting
    have different : other ≠ client := by
      rintro rfl
      simp [ClientPc.waiting] at waiting
    have running : (world.clients other).running = true := by
      refine ClientPc.running_of_hasFifo (ClientPc.hasFifo_of_waiting ?_)
      simpa [different] using waiting
    exact files.others _ (fun same => different (naming.name_unique running runs same))
  · intro req fifo name held found
    rcases routing.named req fifo name held (files.old name fifo found) with ⟨same, hasFifo⟩
    have different : req.sender ≠ client := by
      intro isClient
      exact gone req fifo name held isClient found
    exact ⟨same, by simpa [different] using hasFifo⟩

/-- A client that removes its FIFO leaves nothing under its name. -/
theorem unnamed_of_removed (naming : Naming setup world) {client : Client} {ending : Ending}
    {fifo : Nat} (registered : (world.clients client).registered = true)
    (runs : ending.runsHandlers = true)
    (named : world.directory (setup.fifoName client) = some fifo) (name : List Byte) :
    (world.leave setup client ending).directory name ≠ some fifo := by
  rcases world.leave_eq client ending with ⟨directory, fifos, files, left⟩
  rw [left]
  intro found
  have same := naming.unique name _ fifo (files.old name fifo found) named
  dsimp only at found
  rw [same, files.removed registered runs] at found
  cases found

/-- A client ends and removes its FIFO, which the server may still hold. -/
theorem remove (routing : Routing setup world) (naming : Naming setup world) {client : Client}
    {ending : Ending} (registered : (world.clients client).registered = true)
    (runs : ending.runsHandlers = true)
    (opened : forall req, req ∈ world.unopened -> req.sender ≠ client) :
    Routing setup (world.leave setup client ending) := by
  have running : (world.clients client).running = true := by
    cases pc : world.clients client <;> first | rfl | (rw [pc] at registered; cases registered)
  have orphan : forall fifo, world.directory (setup.fifoName client) = some fifo ->
      (world.leave setup client ending).Reaches setup client fifo :=
    fun fifo named => Or.inr (unnamed_of_removed naming registered runs named)
  refine routing.leave naming running ending ⟨?_, by simp, by simp, ?_, ?_, by simp⟩ ?_
  · exact fun req member isClient => absurd isClient (opened req member)
  · exact fun _ fifo _ _ _ => orphan fifo
  · exact fun fifo _ _ => orphan fifo
  · intro req fifo name held isClient found
    rcases world.leave_eq client ending with ⟨directory, fifos, files, left⟩
    have before : world.directory name = some fifo := by
      rw [left] at found
      exact files.old name fifo found
    have same := (routing.named req fifo name held before).1
    rw [same, isClient] at before
    exact unnamed_of_removed naming registered runs before name found

theorem giveUp (routing : Routing setup world) (naming : Naming setup world)
    (accounts : Accounts setup world) {client : Client}
    (early : (world.clients client).early = true) (ending : Ending) :
    Routing setup (world.leave setup client ending) := by
  have calm : (world.clients client).waiting = false := by
    cases pc : world.clients client <;> first | rfl | (rw [pc] at early; cases early)
  have unsent : (world.clients client).pastSending = false := by
    cases pc : world.clients client <;> first | rfl | (rw [pc] at early; cases early)
  refine routing.leave naming (ClientPc.running_of_early early) ending
    (routing.keeps_of_calm _ calm (by simp)) ?_
  intro req fifo name held isClient
  have past := accounts.sent req.sender (accounts.held_mem held)
  rw [isClient, unsent] at past
  cases past

/-- A client that finds the FIFO closed and empty has had its turn. -/
theorem endOfFile (routing : Routing setup world) (naming : Naming setup world) {client : Client}
    {fifo : Nat} (pc : world.clients client = .reading fifo) (empty : (world.fifos fifo).data = [])
    (closed : (world.fifos fifo).writers = 0) (ending : Ending) :
    Routing setup (world.leave setup client ending) := by
  have own : world.directory (setup.fifoName client) = some fifo :=
    naming.reads client fifo (by rw [pc]; rfl)
  have notHeld : forall req held, world.server.held = some (req, held) ->
      world.directory (setup.fifoName client) ≠ some held := by
    intro req held holds found
    have same : fifo = held := Option.some.inj (own.symm.trans found)
    have writers := routing.writing req held holds
    rw [← same, closed] at writers
    cases writers
  refine routing.leave naming (by rw [pc]; rfl) ending ⟨?_, by simp, by simp, ?_, ?_, by simp⟩ ?_
  · intro req member isClient
    exact absurd (isClient ▸ pc) (routing.notReading req fifo member)
  · intro req held current _ _ found
    exact absurd found (notHeld req held (ServerPc.held_of_replying current))
  · intro other full _ found
    have same : fifo = other := Option.some.inj (own.symm.trans found)
    rcases world.leave_eq client ending with ⟨directory, fifos, files, left⟩
    rw [left, ← same] at full
    rcases files.data fifo with gone | kept
    · exact absurd gone full
    · exact absurd (kept.trans empty) full
  · intro req held name holds isClient found
    rcases world.leave_eq client ending with ⟨directory, fifos, files, left⟩
    rw [left] at found
    have before := files.old name held found
    have same := (routing.named req held name holds before).1
    rw [same, isClient] at before
    exact notHeld req held holds before

omit [DecidableEq Client] in
/-- The server does not hold a FIFO for a client whose request it has not looked
up: that would be a second request of the same client. -/
theorem unopened_ne_held (accounts : Accounts setup world) {req other : Request Client} {fifo : Nat}
    (member : req ∈ world.unopened) (held : world.server.held = some (other, fifo)) :
    other.sender ≠ req.sender := by
  have once := accounts.once
  have answering := accounts.answering other
  have waiting := mem_unanswered member
  cases pc : world.server with
  | awaitingReader current opened seen =>
      rw [pc] at held
      cases held
      rw [World.unopened, pc] at member
      rw [World.senders, World.unanswered, pc] at once
      intro same
      refine (List.nodup_cons.mp once).1 (List.mem_append_left _ ?_)
      rw [same]
      exact List.mem_map_of_mem member
  | writing current opened | closing current opened =>
      rw [pc] at held answering
      cases held
      rcases answering rfl with ⟨earlier, handled⟩
      have last : (⟨other.sender, world.seqNum, other.seqLen⟩ : Handled Client) ∈ world.handled := by
        rw [handled]
        exact List.mem_append_right _ (List.mem_singleton_self _)
      exact accounts.unanswered_not_handled waiting last
  | _ =>
      rw [pc] at held
      cases held

/-- The FIFO that the server writes to stays its client's when a client that keeps its
FIFO changes one and goes on. -/
theorem named_setFifo (routing : Routing setup world) {client : Client} {pc : ClientPc}
    (keeps : pc.hasFifo = true) (changed : Nat) (contents : Fifo Int) {req : Request Client} {held : Nat}
    {name : List Byte} (holds : world.server.held = some (req, held))
    (found : world.directory name = some held) :
    name = setup.fifoName req.sender ∧
      (((world.setFifo changed contents).moveClient client pc).clients req.sender).hasFifo = true := by
  rcases routing.named req held name holds found with ⟨sameName, hasFifo⟩
  refine ⟨sameName, ?_⟩
  rcases eq_or_ne req.sender client with isClient | different
  · rw [isClient]
    simp [World.moveClient, keeps]
  · simpa [World.moveClient, World.setFifo, different] using hasFifo

/-- A client asks to open its FIFO.  If its request has not been looked up, no
one holds the other end. -/
theorem openReply (routing : Routing setup world) (naming : Naming setup world)
    (accounts : Accounts setup world) {client : Client} {fifo : Nat}
    (pc : world.clients client = .openingReply)
    (named : world.directory (setup.fifoName client) = some fifo) :
    Routing setup ((world.setFifo fifo (world.fifos fifo).openReader).moveClient client
      (.awaitingWriter fifo (world.fifos fifo).writerOpens)) := by
  have running : (world.clients client).running = true := by rw [pc]; rfl
  have same : forall other, ((world.setFifo fifo (world.fifos fifo).openReader).fifos other).writers =
        (world.fifos other).writers ∧
      ((world.setFifo fifo (world.fifos fifo).openReader).fifos other).writerOpens =
        (world.fifos other).writerOpens ∧
      ((world.setFifo fifo (world.fifos fifo).openReader).fifos other).data =
        (world.fifos other).data := by
    intro other
    rcases eq_or_ne other fifo with rfl | different
    · simp [World.setFifo, Fifo.openReader]
    · simp [World.setFifo, different]
  refine routing.of_client naming rfl
    (keeps_of_waiting rfl (Function.update_self client _ _) rfl ?_ (by simp))
    ⟨rfl, rfl, rfl, fun other => (same other).1, fun other => (same other).2.1,
      fun other => Or.inr (same other).2.2, fun _ _ => rfl, fun _ _ orphan => orphan, ?_,
      routing.printed⟩
  · intro req opened seen member isClient position
    cases position
    refine ⟨routing.unwritten fifo ?_, rfl⟩
    intro other held
    rcases routing.named other fifo _ held named with ⟨name, hasFifo⟩
    have owner : client = other.sender :=
      naming.name_unique running (ClientPc.running_of_hasFifo hasFifo) name
    exact unopened_ne_held accounts member held (owner.symm.trans isClient.symm)
  · intro req held name holds found
    exact routing.named_setFifo rfl _ _ holds found

/-- A client's `open` returns, which it does not before the server has looked up
its request. -/
theorem writerCame (routing : Routing setup world) (naming : Naming setup world)
    {client : Client} {fifo seen : Nat}
    (pc : world.clients client = .awaitingWriter fifo seen)
    (ready : (world.fifos fifo).readerReady seen = true) :
    Routing setup (world.moveClient client (.reading fifo)) := by
  refine routing.of_same_files naming rfl
    (keeps_of_waiting rfl (Function.update_self client _ _) rfl (by simp) ?_) (fun _ => rfl) rfl rfl
    rfl rfl rfl routing.printed
  intro req other member isClient _
  rcases routing.idle req fifo seen member (isClient ▸ pc) with ⟨writers, opens⟩
  simp [Fifo.readerReady, writers, opens] at ready

/-- A client takes the reply out of its FIFO, and it is its own. -/
theorem read (routing : Routing setup world) (naming : Naming setup world)
    (accounts : Accounts setup world) {client : Client} {fifo : Nat} {seqNum : Int}
    {rest : List Int} (pc : world.clients client = .reading fifo)
    (received : (world.fifos fifo).data = seqNum :: rest) :
    Routing setup ((world.setFifo fifo (world.fifos fifo).pop).moveClient client
      (.printing fifo seqNum)) := by
  have own : world.directory (setup.fifoName client) = some fifo :=
    naming.reads client fifo (by rw [pc]; rfl)
  rcases routing.data fifo (by rw [received]; simp) with ⟨entry, member, start, reached⟩
  rcases reached with ⟨waiting, directory⟩ | orphan
  swap
  · exact absurd own (orphan _)
  have owner : entry.client = client :=
    naming.owner_unique (ClientPc.running_of_hasFifo (ClientPc.hasFifo_of_waiting waiting))
      (by rw [pc]; rfl) directory own
  rw [received] at start
  have number : seqNum = entry.start := (List.cons.inj start).1
  have taken : (world.fifos fifo).pop.data = [] := by
    rw [Fifo.pop, received]
    exact (List.cons.inj start).2
  have start : world.OwnStart client seqNum := ⟨entry, member, owner, number.symm⟩
  refine routing.of_client naming rfl ⟨?_, by simp, by simp, ?_, ?_, ?_⟩
    ⟨rfl, rfl, rfl, ?_, ?_, ?_, fun _ _ => rfl, fun _ _ orphan => orphan, ?_, routing.printed⟩
  · intro req unopened isClient
    exact absurd (owner.trans isClient.symm)
      (accounts.unanswered_not_handled (mem_unanswered unopened) member)
  · intro req held current _ _ found
    have empty := (routing.replying req held current).2
    rw [← Option.some.inj (own.symm.trans found), received] at empty
    cases empty
  · intro other full _ found
    rw [← Option.some.inj (own.symm.trans found)] at full
    exact absurd (by simpa [World.moveClient, World.setFifo] using taken) full
  · intro other value position
    cases position
    exact start
  · intro other
    rcases eq_or_ne other fifo with rfl | different
    · simp [World.moveClient, World.setFifo, Fifo.pop]
    · simp [World.moveClient, World.setFifo, different]
  · intro other
    rcases eq_or_ne other fifo with rfl | different
    · simp [World.moveClient, World.setFifo, Fifo.pop]
    · simp [World.moveClient, World.setFifo, different]
  · intro other
    rcases eq_or_ne other fifo with rfl | different
    · exact Or.inl (by simpa [World.moveClient, World.setFifo] using taken)
    · exact Or.inr (by simp [World.moveClient, World.setFifo, different])
  · intro req held name holds found
    exact routing.named_setFifo rfl _ _ holds found

omit [DecidableEq Client] in
/-- A request joins the queue, with its sender about to open the FIFO. -/
theorem enqueue (routing : Routing setup world) {req : Request Client}
    (position : world.clients req.sender = .openingReply) : Routing setup (world.send req) := by
  have unopened : forall other, other ∈ (world.send req).unopened ->
      other ∈ world.unopened ∨ other = req := by
    intro other member
    rw [World.unopened] at member
    simp only [World.send] at member
    rw [← List.append_assoc, List.mem_append, List.mem_singleton] at member
    exact member
  refine ⟨?_, ?_, ?_, routing.writing, routing.unwritten, routing.replying, routing.named,
    routing.data, routing.delivered, routing.printed⟩
  · intro other member
    rcases unopened other member with before | rfl
    · exact routing.waits other before
    · show (world.clients other.sender).waiting = true
      rw [position]
      rfl
  · intro other fifo seen member waiting
    rcases unopened other member with before | rfl
    · exact routing.idle other fifo seen before waiting
    · exact absurd (position.symm.trans waiting) (by simp)
  · intro other fifo member reading
    rcases unopened other member with before | rfl
    · exact routing.notReading other fifo before reading
    · exact absurd (position.symm.trans reading) (by simp)

theorem send (routing : Routing setup world) (naming : Naming setup world) {client : Client}
    {seqLen : Int}
    (pc : world.clients client = .sending seqLen) :
    Routing setup
      ((world.send ⟨setup.pid client, seqLen, client⟩).moveClient client .openingReply) := by
  have moved : Routing setup (world.moveClient client .openingReply) :=
    routing.of_same_files naming rfl (routing.keeps_of_calm _ (by rw [pc]; rfl) (by simp))
      (fun _ => rfl) rfl rfl rfl rfl rfl routing.printed
  exact moved.enqueue (Function.update_self client _ _)

theorem clientMoves (routing : Routing setup world) (naming : Naming setup world)
    (accounts : Accounts setup world) {client : Client} {outcome : Outcome}
    (kept : NoClientLost setup world (.client client outcome))
    (moves : World.ClientMoves setup world client outcome next) : Routing setup next := by
  cases moves with
  | usage pc ending =>
      exact routing.of_same_files naming rfl (routing.keeps_of_calm _ (by rw [pc]; rfl) (by simp))
        (by rw [pc]; exact fun has => by cases has) rfl rfl rfl rfl rfl routing.printed
  | begin pc distinct =>
      exact routing.of_same_files naming rfl (routing.keeps_of_calm _ (by rw [pc]; rfl) (by simp))
        (by rw [pc]; exact fun has => by cases has) rfl rfl rfl rfl rfl routing.printed
  | make pc => exact routing.make naming pc
  | register pc | parse pc accepted | openServer pc | printFailed pc =>
      exact routing.of_same_files naming rfl (routing.keeps_of_calm _ (by rw [pc]; rfl) (by simp))
        (fun _ => rfl) rfl rfl rfl rfl rfl routing.printed
  | send pc => exact routing.send naming pc
  | openReply pc named => exact routing.openReply naming accounts pc named
  | writerCame pc ready => exact routing.writerCame naming pc ready
  | read pc received => exact routing.read naming accounts pc received
  | print pc =>
      refine routing.of_same_files naming rfl (routing.keeps_of_calm _ (by rw [pc]; rfl) (by simp))
        (fun _ => rfl) rfl rfl rfl rfl rfl ?_
      intro other number shown
      rcases eq_or_ne other client with same | different
      · subst same
        simp only [World.moveClient, Function.update_self, Option.some.injEq] at shown
        exact shown ▸ routing.delivered other _ _ pc
      · simp only [World.moveClient, Function.update_of_ne different] at shown
        exact routing.printed other number shown
  | finish pc =>
      refine routing.remove naming (by rw [pc]; rfl) rfl ?_
      rintro req member rfl
      have waiting := routing.waits req member
      rw [pc] at waiting
      cases waiting
  | giveUp pc ending => exact routing.giveUp naming accounts pc ending
  | endOfFile pc empty closed ending => exact routing.endOfFile naming pc empty closed ending
  | loseOpen pc cause ending =>
      rcases cause with failed | absent
      · rcases kept with succeeds | ⟨notOpening, -⟩
        · exact absurd succeeds failed
        · rw [pc] at notOpening
          cases notOpening
      · have waiting := ClientPc.waiting_of_opening pc
        rcases naming.owns client (ClientPc.hasFifo_of_waiting waiting) with ⟨fifo, found⟩
        rw [absent] at found
        cases found
  | loseRead pc cause =>
      have removes : setup.removesOnFailure client = true :=
        (kept.resolve_left cause).2 (by rw [pc]; rfl)
      refine routing.remove naming (by rw [pc]; rfl) removes ?_
      intro req member isClient
      exact routing.notReading req _ member (isClient ▸ pc)

/-! ### The steps of the server -/

omit [DecidableEq Client] in
/-- The server moves.  The requests it has still to look up, and the FIFOs of
their senders, are as before; what it holds is given anew. -/
theorem of_server (routing : Routing setup world)
    (clients : next.clients = world.clients) (printed : next.printed = world.printed)
    (handled : forall entry, entry ∈ world.handled -> entry ∈ next.handled)
    (unopened : forall req, req ∈ next.unopened -> req ∈ world.unopened)
    (others : forall req fifo seen, req ∈ next.unopened ->
      world.clients req.sender = .awaitingWriter fifo seen ->
      (next.fifos fifo).writers = (world.fifos fifo).writers ∧
        (next.fifos fifo).writerOpens = (world.fifos fifo).writerOpens)
    (writing : forall req fifo, next.server.held = some (req, fifo) ->
      (next.fifos fifo).writers = 1)
    (unwritten : forall fifo, (forall req, next.server.held ≠ some (req, fifo)) ->
      (next.fifos fifo).writers = 0)
    (replying : forall req fifo, next.server.replying = some (req, fifo) ->
      next.Reaches setup req.sender fifo ∧ (next.fifos fifo).data = [])
    (named : forall req fifo name, next.server.held = some (req, fifo) ->
      next.directory name = some fifo ->
      name = setup.fifoName req.sender ∧ (next.clients req.sender).hasFifo = true)
    (data : forall fifo, (next.fifos fifo).data ≠ [] -> Exists fun entry =>
      entry ∈ next.handled ∧ (next.fifos fifo).data = [entry.start] ∧
        next.Reaches setup entry.client fifo) : Routing setup next := by
  have start : forall client number, world.OwnStart client number ->
      next.OwnStart client number := by
    rintro client number ⟨entry, member, own⟩
    exact ⟨entry, handled entry member, own⟩
  refine ⟨?_, ?_, ?_, writing, unwritten, replying, named, data, ?_, ?_⟩
  · intro req member
    rw [clients]
    exact routing.waits req (unopened req member)
  · intro req fifo seen member position
    rw [clients] at position
    rcases others req fifo seen member position with ⟨writers, opens⟩
    rw [writers, opens]
    exact routing.idle req fifo seen (unopened req member) position
  · intro req fifo member
    rw [clients]
    exact routing.notReading req fifo (unopened req member)
  · intro client fifo number position
    rw [clients] at position
    exact start client number (routing.delivered client fifo number position)
  · intro client number shown
    rw [printed] at shown
    exact start client number (routing.printed client number shown)

omit [DecidableEq Client] in
/-- The server goes on to hold nothing, with the FIFOs as they are. -/
theorem of_idle_server (routing : Routing setup world)
    (clients : next.clients = world.clients) (printed : next.printed = world.printed)
    (handled : next.handled = world.handled) (fifos : next.fifos = world.fifos)
    (directory : next.directory = world.directory)
    (unopened : forall req, req ∈ next.unopened -> req ∈ world.unopened)
    (before : world.server.held = none) (after : next.server.held = none) :
    Routing setup next := by
  refine routing.of_server clients printed (fun _ member => handled ▸ member) unopened
    (fun _ _ _ _ _ => by rw [fifos]; exact ⟨rfl, rfl⟩) ?_ ?_ ?_ ?_ ?_
  · intro req fifo held
    rw [after] at held
    cases held
  · intro fifo _
    rw [fifos]
    exact routing.unwritten fifo (by simp [before])
  · intro req fifo current
    have held := ServerPc.held_of_replying current
    rw [after] at held
    cases held
  · intro req fifo name held
    rw [after] at held
    cases held
  · simp only [World.Reaches, fifos, handled, directory, clients]
    exact routing.data

omit [DecidableEq Client] in
theorem of_close (routing : Routing setup world) {req : Request Client} {fifo : Nat}
    (held : world.server.held = some (req, fifo))
    (clients : next.clients = world.clients) (printed : next.printed = world.printed)
    (handled : next.handled = world.handled)
    (fifos : next.fifos = (world.setFifo fifo (world.fifos fifo).closeWriter).fifos)
    (directory : next.directory = world.directory)
    (unopened : forall req, req ∈ next.unopened -> req ∈ world.unopened)
    (after : next.server.held = none) : Routing setup next := by
  have one : (world.fifos fifo).writers = 1 := routing.writing req fifo held
  have closed : next.fifos fifo = (world.fifos fifo).closeWriter := by
    rw [fifos]
    exact Function.update_self fifo _ _
  have elsewhere : forall other, other ≠ fifo -> next.fifos other = world.fifos other := by
    intro other different
    rw [fifos]
    exact Function.update_of_ne different _ _
  refine routing.of_server clients printed (fun _ member => handled ▸ member) unopened
    ?_ ?_ ?_ ?_ ?_ ?_
  · intro other opened seen member position
    have different : opened ≠ fifo := by
      rintro rfl
      have none := (routing.idle other opened seen (unopened other member) position).1
      rw [one] at none
      cases none
    rw [elsewhere opened different]
    exact ⟨rfl, rfl⟩
  · intro other opened current
    rw [after] at current
    cases current
  · intro other _
    rcases eq_or_ne other fifo with same | different
    · rw [same, closed, Fifo.closeWriter, Fifo.settle_writers, one]
    · rw [elsewhere other different]
      refine routing.unwritten other ?_
      intro current holds
      rw [held] at holds
      cases holds
      exact different rfl
  · intro other opened current
    have holds := ServerPc.held_of_replying current
    rw [after] at holds
    cases holds
  · intro other opened name current
    rw [after] at current
    cases current
  · intro other full
    have same : (next.fifos other).data = (world.fifos other).data := by
      rcases eq_or_ne other fifo with isFifo | different
      · rw [isFifo, closed] at full ⊢
        exact (Fifo.settle_data _).resolve_left full
      · rw [elsewhere other different]
    rw [same] at full ⊢
    simp only [World.Reaches, handled, directory, clients]
    exact routing.data other full

omit [DecidableEq Client] in
/-- The server looks up the FIFO of a request and finds that of its sender. -/
theorem openFound (routing : Routing setup world) (naming : Naming setup world)
    (accounts : Accounts setup world) {req : Request Client} {fifo seen : Nat}
    (pc : world.server = .opening req)
    (found : world.directory (clientFifoName req.pid) = some fifo) :
    Routing setup
      { world.setFifo fifo (world.fifos fifo).openWriter with
        server := .awaitingReader req fifo seen } := by
  have unanswered : req ∈ world.unanswered := by simp [World.unanswered, pc, ServerPc.unanswered]
  have inFlight : req ∈ world.inFlight := by simp [World.inFlight, pc, ServerPc.request]
  have waiting := routing.waits req (by simp [World.unopened, pc, ServerPc.unopened])
  have hasFifo := ClientPc.hasFifo_of_waiting waiting
  have running := ClientPc.running_of_hasFifo hasFifo
  have name : world.directory (setup.fifoName req.sender) = some fifo := by
    rw [Setup.fifoName, ← (accounts.honest req inFlight).1]
    exact found
  have empty : (world.fifos fifo).data = [] := by
    by_contra full
    rcases routing.data fifo full with ⟨entry, member, -, reached⟩
    rcases reached with ⟨stillWaiting, directory⟩ | orphan
    swap
    · exact absurd name (orphan _)
    have owner : entry.client = req.sender :=
      naming.owner_unique (ClientPc.running_of_hasFifo (ClientPc.hasFifo_of_waiting stillWaiting))
        running directory name
    exact accounts.unanswered_not_handled unanswered member owner
  have free : forall other, world.server.held ≠ some (other, fifo) := by simp [pc, ServerPc.held]
  refine routing.of_server rfl rfl (fun _ member => member) ?_ ?_ ?_ ?_ ?_ ?_ ?_
  · intro other member
    exact List.mem_append_right _ member
  · intro other opened count member position
    have different : opened ≠ fifo := by
      rintro rfl
      have owner : other.sender = req.sender := by
        refine naming.owner_unique (by rw [position]; rfl) running ?_ name
        exact naming.reads other.sender opened (by rw [position]; rfl)
      have once := accounts.once
      rw [World.senders, World.unanswered, pc] at once
      refine (List.nodup_cons.mp once).1 (List.mem_append_left _ ?_)
      rw [← owner]
      exact List.mem_map_of_mem member
    simp [World.setFifo, different]
  · intro other opened held
    cases held
    simp [World.setFifo, Fifo.openWriter, routing.unwritten fifo free]
  · intro other unheld
    have different : other ≠ fifo := by
      rintro rfl
      exact unheld req rfl
    simpa [World.setFifo, different] using
      routing.unwritten other (by simp [pc, ServerPc.held])
  · intro other opened current
    cases current
    exact ⟨Or.inl ⟨waiting, name⟩, by simpa [World.setFifo, Fifo.openWriter] using empty⟩
  · intro other opened given held directory
    cases held
    exact ⟨naming.unique _ _ fifo directory name, hasFifo⟩
  · intro other full
    have same : ((world.setFifo fifo (world.fifos fifo).openWriter).fifos other).data =
        (world.fifos other).data := by
      rcases eq_or_ne other fifo with rfl | different
      · simp [World.setFifo, Fifo.openWriter]
      · simp [World.setFifo, different]
    exact same ▸ routing.data other (same ▸ full)

omit [DecidableEq Client] in
/-- The server reserves a range and is about to write the reply. -/
theorem openReturns (routing : Routing setup world) {req : Request Client} {fifo seen : Nat}
    (pc : world.server = .awaitingReader req fifo seen) (entry : Handled Client) :
    Routing setup
      { world with server := .writing req fifo, handled := world.handled ++ [entry] } := by
  have writing := routing.writing
  have unwritten := routing.unwritten
  have replying := routing.replying
  have named := routing.named
  rw [pc] at writing unwritten replying named
  refine routing.of_server rfl rfl (fun _ member => List.mem_append_left _ member) ?_
    (fun _ _ _ _ _ => ⟨rfl, rfl⟩) writing unwritten replying named ?_
  · intro other member
    exact List.mem_append_right _ member
  · intro other full
    rcases routing.data other full with ⟨delivered, member, rest⟩
    exact ⟨delivered, List.mem_append_left _ member, rest⟩

omit [DecidableEq Client] in
/-- The reply is the start of the range reserved for the waiting owner of the
FIFO. -/
theorem write (routing : Routing setup world) (accounts : Accounts setup world)
    {req : Request Client} {fifo : Nat} (pc : world.server = .writing req fifo)
    (outcome : Outcome) :
    Routing setup { world.reply req fifo outcome with server := .closing req fifo } := by
  have writing := routing.writing
  have unwritten := routing.unwritten
  have named := routing.named
  have replying := routing.replying req fifo (by rw [pc]; rfl)
  have answering := accounts.answering req (by rw [pc]; rfl)
  rw [pc] at writing unwritten named
  have unopened : forall other, other ∈ world.queue -> other ∈ world.unopened :=
    fun other member => List.mem_append_right _ member
  unfold World.reply
  split
  · rcases answering with ⟨earlier, handled⟩
    rcases replying with ⟨reached, empty⟩
    have counts : forall other,
        ((world.setFifo fifo ((world.fifos fifo).push world.seqNum)).fifos other).writers =
          (world.fifos other).writers ∧
        ((world.setFifo fifo ((world.fifos fifo).push world.seqNum)).fifos other).writerOpens =
          (world.fifos other).writerOpens := by
      intro other
      rcases eq_or_ne other fifo with rfl | different
      · simp [World.setFifo, Fifo.push]
      · simp [World.setFifo, different]
    refine routing.of_server rfl rfl (fun _ member => member) unopened
      (fun _ other _ _ _ => counts other) ?_ ?_ (by simp [ServerPc.replying]) named ?_
    · intro other opened held
      dsimp only
      rw [(counts opened).1]
      exact writing other opened held
    · intro other free
      dsimp only
      rw [(counts other).1]
      exact unwritten other free
    · intro other full
      rcases eq_or_ne other fifo with same | different
      · refine ⟨⟨req.sender, world.seqNum, req.seqLen⟩, ?_, ?_, ?_⟩
        · show _ ∈ world.handled
          rw [handled]
          exact List.mem_append_right _ (List.mem_singleton_self _)
        · rw [same]
          simp [World.setFifo, Fifo.push, empty]
        · rw [same]
          exact reached
      · have kept : (world.setFifo fifo ((world.fifos fifo).push world.seqNum)).fifos other =
            world.fifos other := Function.update_of_ne different _ _
        dsimp only at full ⊢
        rw [kept] at full ⊢
        exact routing.data other full
  · exact routing.of_server rfl rfl (fun _ member => member) unopened
      (fun _ _ _ _ _ => ⟨rfl, rfl⟩) writing unwritten (by simp [ServerPc.replying]) named routing.data

omit [DecidableEq Client] in
theorem serverMoves (routing : Routing setup world) (naming : Naming setup world)
    (accounts : Accounts setup world) {outcome : Outcome}
    (moves : World.ServerMoves setup world outcome next) : Routing setup next := by
  have queued : forall other, other ∈ world.queue -> other ∈ world.unopened :=
    fun other member => List.mem_append_right _ member
  cases moves with
  | discard pc message =>
      exact routing.of_idle_server rfl rfl rfl rfl rfl (fun _ member => member) (by rw [pc]; rfl)
        (by rw [World.report, pc]; rfl)
  | take pc received =>
      refine routing.of_idle_server rfl rfl rfl rfl rfl ?_ (by rw [pc]; rfl) rfl
      intro other member
      rw [World.unopened, pc, received]
      exact member
  | openFailed pc errno cause | update pc =>
      exact routing.of_idle_server rfl rfl rfl rfl rfl queued (by rw [pc]; rfl) rfl
  | openFound pc succeeds named => exact routing.openFound naming accounts pc named
  | openInterrupted pc errno cause | close pc messages =>
      exact routing.of_close (by rw [pc]; rfl) rfl rfl rfl rfl rfl queued rfl
  | openReturns pc succeeds => exact routing.openReturns pc _
  | write pc => exact routing.write accounts pc outcome

theorem step (routing : Routing setup world) (naming : Naming setup world)
    (accounts : Accounts setup world) {action : Action Client}
    (kept : NoClientLost setup world action)
    (stepped : world.step setup action = some next) : Routing setup next := by
  cases action with
  | server outcome => exact routing.serverMoves naming accounts (World.serverStep_moves stepped)
  | client client outcome =>
      exact routing.clientMoves naming accounts kept (World.clientStep_moves stepped)
  | terminate client termination => exact absurd kept id

end Routing

/-! ## The service -/

variable [DecidableEq Client] {setup : Setup Client}

/-- All invariants together, for the runs in which no client is lost. -/
theorem invariants_of_reachable {world : World Client}
    (reachable : (service setup).ReachableUnder (NoClientLost setup) world) :
    Naming setup world ∧ Accounts setup world ∧ Ledger world ∧ Routing setup world := by
  refine @Machine.ReachableUnder.invariant _ _ (service setup) (NoClientLost setup)
    (fun state => Naming setup state ∧ Accounts setup state ∧ Ledger state ∧ Routing setup state)
    ?_ ?_ world reachable
  · intro state fresh
    exact ⟨.of_fresh fresh, .of_fresh fresh, .of_fresh fresh, .of_fresh fresh⟩
  · rintro state action next ⟨naming, accounts, ledger, routing⟩ kept stepped
    exact ⟨naming.step stepped, accounts.step stepped, ledger.step accounts stepped,
      routing.step naming accounts kept stepped⟩

/-- What the service promises: a client prints the start of the range that was
reserved, with the client's own length, while its own request was handled; no
request is handled twice; and the ranges of two handled requests are disjoint. -/
structure ServesRightClients (setup : Setup Client) (world : World Client) : Prop where
  prints_own_start : forall client number, world.printed client = some number ->
    Exists fun entry => entry ∈ world.handled ∧ entry.client = client ∧ entry.start = number ∧
      setup.seqLen client = .ok entry.length
  handled_once : world.handled.Pairwise (fun left right => left.client ≠ right.client)
  ranges_disjoint : world.handled.Pairwise (fun left right =>
    Disjoint (Set.Ico left.start (left.start + left.length))
      (Set.Ico right.start (right.start + right.length)))

omit [DecidableEq Client] in
/-- A client that prints a number without having been served breaks the promise. -/
theorem not_servesRightClients_of_foreign {world : World Client} {client : Client} {number : Int}
    (printed : world.printed client = some number)
    (foreign : forall entry, entry ∈ world.handled -> entry.client ≠ client) :
    ¬ ServesRightClients setup world := by
  intro served
  rcases served.prints_own_start client number printed with ⟨entry, member, own, -⟩
  exact foreign entry member own

/-- In every run in which no client is lost, as long as the lengths reserved sum
up to at most `INT_MAX`, the service keeps its promise. -/
theorem fifo_seqnum_serves_right_clients (setup : Setup Client) (world : World Client)
    (reachable : (service setup).ReachableUnder (NoClientLost setup) world)
    (within : world.reserved ≤ INT_MAX) : ServesRightClients setup world := by
  rcases invariants_of_reachable reachable with ⟨naming, accounts, ledger, routing⟩
  refine ⟨?_, ?_, ledger.disjoint accounts within⟩
  · intro client number shown
    rcases routing.printed client number shown with ⟨entry, member, own, start⟩
    exact ⟨entry, member, own, start, own ▸ accounts.lengths entry member⟩
  · have once := (List.nodup_append.mp accounts.once).2.1
    exact List.pairwise_map.mp once

/-- Two clients that are given the same PID, one after the other.  The first asks
for five numbers, the second for one. -/
def samePid : Setup (Fin 2) :=
  plainSetup 2 (fun _ => 100) (by decide) (fun client => if client = 0 then some (ascii "5") else none)

/-- A client sends its request and asks for the reply, the server answers, and
the client prints the number and exits. -/
def exchange (client : Fin 2) : List (Action (Fin 2)) :=
  List.replicate 7 (Action.client client .success) ++ List.replicate 6 (Action.server .success) ++
    List.replicate 4 (Action.client client .success)

/-- The second client begins when the first has exited. -/
theorem fifo_seqnum_serves_right_clients_in_turn :
    Exists fun world : World (Fin 2) =>
      (service samePid).execUnder (NoClientLost samePid) (emptyWorld 2) (exchange 0 ++ exchange 1) =
        some world ∧
      world.printed 0 = some 0 ∧ world.printed 1 = some 5 ∧ ServesRightClients samePid world := by
  refine ⟨Option.get _ (by decide +kernel), (Option.some_get (by decide +kernel)).symm,
    by decide +kernel, by decide +kernel, ?_⟩
  exact fifo_seqnum_serves_right_clients samePid _
    (Machine.ReachableUnder.execUnder (.initial (emptyWorld_fresh 2))
      (Option.some_get (by decide +kernel)).symm) (by decide +kernel)

/-- No client is killed, but a client may end by itself when a call fails. -/
def NoClientKilled (_ : World Client) : Action Client -> Prop
  | .terminate _ _ => False
  | _ => True

instance (world : World Client) : DecidablePred (NoClientKilled world) := fun action =>
  match action with
  | .server _ | .client _ _ => isTrue trivial
  | .terminate _ _ => isFalse id

/-- The first client has sent its request when the kernel cannot open another
file for it, and exits.  The second client gets its PID, makes a FIFO of the same
name and finds in it the reply to the request of the first. -/
def passedPid : List (Action (Fin 2)) :=
  List.replicate 6 (Action.client 0 .success) ++ [Action.client 0 (.failure (.other 23))] ++
    List.replicate 7 (Action.client 1 .success) ++ List.replicate 4 (Action.server .success) ++
    List.replicate 3 (Action.client 1 .success)

def passedPidWorld : World (Fin 2) :=
  ((service samePid).execUnder NoClientKilled (emptyWorld 2) passedPid).get (by decide +kernel)

theorem fifo_seqnum_serves_wrong_client :
    ¬ forall world, (service samePid).ReachableUnder NoClientKilled world ->
      world.reserved ≤ INT_MAX -> ServesRightClients samePid world := by
  intro always
  have reachable : (service samePid).ReachableUnder NoClientKilled passedPidWorld :=
    Machine.ReachableUnder.execUnder (.initial (emptyWorld_fresh 2)) (Option.some_get _).symm
  have printed : passedPidWorld.printed 1 = some 0 := by decide +kernel
  exact not_servesRightClients_of_foreign printed (by decide +kernel)
    (always passedPidWorld reachable (by decide +kernel))

/-- The same two clients in an environment that turns a failure into an `abort`. -/
def samePidAborting : Setup (Fin 2) := { samePid with dumpcore := fun _ => some "1" }

/-- The first client fails to read the reply and leaves its FIFO, which the server
still holds; the second client takes over the PID and the FIFO. -/
def passedFifo : List (Action (Fin 2)) :=
  List.replicate 7 (Action.client 0 .success) ++ List.replicate 3 (Action.server .success) ++
    [Action.client 0 .success, Action.client 0 (.failure .EINTR)] ++
    List.replicate 7 (Action.client 1 .success) ++ [Action.server .success] ++
    List.replicate 3 (Action.client 1 .success)

def passedFifoWorld : World (Fin 2) :=
  ((service samePidAborting).execUnder NoClientKilled (emptyWorld 2) passedFifo).get
    (by decide +kernel)

/-- The condition on a failing `read` is needed as well as the one on `open`. -/
theorem fifo_seqnum_serves_wrong_client_after_abort :
    ¬ forall world, (service samePidAborting).ReachableUnder NoClientKilled world ->
      world.reserved ≤ INT_MAX -> ServesRightClients samePidAborting world := by
  intro always
  have reachable : (service samePidAborting).ReachableUnder NoClientKilled passedFifoWorld :=
    Machine.ReachableUnder.execUnder (.initial (emptyWorld_fresh 2)) (Option.some_get _).symm
  have printed : passedFifoWorld.printed 1 = some 0 := by decide +kernel
  exact not_servesRightClients_of_foreign printed (by decide +kernel)
    (always passedFifoWorld reachable (by decide +kernel))

end IpcPipeFifo
end Tlpi
