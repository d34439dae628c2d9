import Tlpi.IpcPipeFifo.FifoSeqnum

namespace Tlpi
namespace IpcPipeFifo

open CLibrary Foundations Lib

universe u

/-!
# Names and accounts of the FIFO service

Two invariants that hold in every run, whatever fails and whoever terminates.
The first is about the file system: running clients have FIFOs of different
names, and a client that has made its FIFO finds it under its name.  The second
is about requests: each was sent by its client once, with the client's own PID
and length, and is answered at most once.
-/

/-! ## Names -/

/-- The names of different PIDs are different: the buffer has room for every
`int`, so no name is cut. -/
theorem clientFifoName_injective {first second : Int}
    (firstRange : 0 < first ∧ first ≤ INT_MAX) (secondRange : 0 < second ∧ second ≤ INT_MAX)
    (same : clientFifoName first = clientFifoName second) : first = second := by
  have whole : forall value : Int, 0 < value ∧ value ≤ INT_MAX ->
      clientFifoName value = CLIENT_FIFO_PREFIX ++ renderInt value := by
    intro value range
    have digits : value.natAbs < 10 ^ 10 := by
      have high : value ≤ 2147483647 := range.2
      omega
    have short := renderInt_length_le (by decide) digits
    unfold clientFifoName snprintf CLIENT_FIFO_NAME_LEN
    apply List.take_of_length_le
    rw [List.length_append]
    omega
  rw [whole first firstRange, whole second secondRange] at same
  exact renderInt_injective (List.append_cancel_left same)

variable {Client : Type u} [DecidableEq Client] {setup : Setup Client}

namespace ClientPc

/-- The client is running and has made its FIFO. -/
def hasFifo : ClientPc -> Bool
  | .notStarted | .makingFifo | .exited _ => false
  | _ => true

theorem running_of_hasFifo {pc : ClientPc} (has : pc.hasFifo = true) : pc.running = true := by
  cases pc <;> first | rfl | cases has

theorem running_of_early {pc : ClientPc} (early : pc.early = true) : pc.running = true := by
  cases pc <;> first | rfl | cases early

theorem waiting_of_opening {pc : ClientPc} (opens : pc.opening = true) : pc.waiting = true := by
  cases pc <;> first | rfl | cases opens

theorem hasFifo_of_waiting {pc : ClientPc} (waits : pc.waiting = true) : pc.hasFifo = true := by
  cases pc <;> first | rfl | cases waits

theorem hasFifo_of_reader {pc : ClientPc} {fifo : Nat} (holds : pc.reader = some fifo) :
    pc.hasFifo = true := by
  cases pc <;> first | rfl | cases holds

end ClientPc

namespace ServerPc

/-- The request and the FIFO whose write end the server holds. -/
def held : ServerPc Client -> Option (Request Client × Nat)
  | .awaitingReader req fifo _ | .writing req fifo | .closing req fifo => some (req, fifo)
  | _ => none

end ServerPc

/-- The file system as the clients see it. -/
structure Naming (setup : Setup Client) (world : World Client) : Prop where
  alive_nodup : world.alive.Nodup
  alive_iff : forall client, client ∈ world.alive <-> (world.clients client).running = true
  distinct : forall left right, (world.clients left).running = true ->
    (world.clients right).running = true -> setup.pid left = setup.pid right -> left = right
  bounded : forall name fifo, world.directory name = some fifo -> fifo < world.nextFifo
  unique : forall left right fifo, world.directory left = some fifo ->
    world.directory right = some fifo -> left = right
  owns : forall client, (world.clients client).hasFifo = true ->
    Exists fun fifo => world.directory (setup.fifoName client) = some fifo
  reads : forall client fifo, (world.clients client).reader = some fifo ->
    world.directory (setup.fifoName client) = some fifo
  heldBounded : forall req fifo, world.server.held = some (req, fifo) -> fifo < world.nextFifo
  blank : forall fifo, world.nextFifo ≤ fifo -> world.fifos fifo = Fifo.empty

namespace Naming

variable {world next : World Client}

omit [DecidableEq Client] in
/-- Running clients have FIFOs of different names. -/
theorem name_unique (naming : Naming setup world) {left right : Client}
    (leftRuns : (world.clients left).running = true)
    (rightRuns : (world.clients right).running = true)
    (same : setup.fifoName left = setup.fifoName right) : left = right :=
  naming.distinct left right leftRuns rightRuns
    (clientFifoName_injective (setup.pid_range left) (setup.pid_range right) same)

omit [DecidableEq Client] in
theorem owner_unique (naming : Naming setup world) {left right : Client} {fifo : Nat}
    (leftRuns : (world.clients left).running = true)
    (rightRuns : (world.clients right).running = true)
    (leftOwns : world.directory (setup.fifoName left) = some fifo)
    (rightOwns : world.directory (setup.fifoName right) = some fifo) : left = right :=
  naming.name_unique leftRuns rightRuns (naming.unique _ _ fifo leftOwns rightOwns)

omit [DecidableEq Client] in
theorem used_of_data (naming : Naming setup world) {fifo : Nat}
    (full : (world.fifos fifo).data ≠ []) : fifo < world.nextFifo := by
  by_contra later
  rw [naming.blank fifo (Nat.le_of_not_lt later)] at full
  exact full rfl

omit [DecidableEq Client] in
theorem of_fresh (fresh : Fresh world) : Naming setup world := by
  have idle : forall client, (world.clients client).running = false := by
    intro client
    rw [fresh.clients client]
    rfl
  refine ⟨?_, ?_, ?_, fresh.named, fresh.distinct, ?_, ?_, ?_, ?_⟩
  · rw [fresh.alive]
    exact List.nodup_nil
  · intro client
    simp [fresh.alive, idle client]
  · intro left right leftRuns
    rw [idle left] at leftRuns
    cases leftRuns
  · intro client has
    rw [fresh.clients client] at has
    cases has
  · intro client fifo holds
    rw [fresh.clients client] at holds
    cases holds
  · intro req fifo held
    rw [fresh.server] at held
    cases held
  · exact fun fifo _ => fresh.fifos fifo

theorem moveClient (naming : Naming setup world) {client : Client} {pc : ClientPc}
    (runs : pc.running = (world.clients client).running)
    (has : pc.hasFifo = true ->
      Exists fun fifo => world.directory (setup.fifoName client) = some fifo)
    (reader : forall fifo, pc.reader = some fifo ->
      world.directory (setup.fifoName client) = some fifo) :
    Naming setup (world.moveClient client pc) := by
  have running : forall other, ((world.moveClient client pc).clients other).running =
      (world.clients other).running := by
    intro other
    rcases eq_or_ne other client with same | different
    · subst same
      simpa [World.moveClient] using runs
    · simp [World.moveClient, different]
  refine ⟨naming.alive_nodup, ?_, ?_, naming.bounded, naming.unique, ?_, ?_, naming.heldBounded,
    naming.blank⟩
  · intro other
    rw [running other]
    exact naming.alive_iff other
  · intro left right leftRuns rightRuns
    rw [running] at leftRuns rightRuns
    exact naming.distinct left right leftRuns rightRuns
  · intro other hasFifo
    rcases eq_or_ne other client with same | different
    · subst same
      exact has (by simpa [World.moveClient] using hasFifo)
    · exact naming.owns other (by simpa [World.moveClient, different] using hasFifo)
  · intro other fifo holds
    rcases eq_or_ne other client with same | different
    · subst same
      exact reader fifo (by simpa [World.moveClient] using holds)
    · exact naming.reads other fifo (by simpa [World.moveClient, different] using holds)

omit [DecidableEq Client] in
theorem setFifo (naming : Naming setup world) {fifo : Nat} (exists_ : fifo < world.nextFifo)
    (state : Fifo Int) : Naming setup (world.setFifo fifo state) where
  alive_nodup := naming.alive_nodup
  alive_iff := naming.alive_iff
  distinct := naming.distinct
  bounded := naming.bounded
  unique := naming.unique
  owns := naming.owns
  reads := naming.reads
  heldBounded := naming.heldBounded
  blank other fresh := by
    have different : other ≠ fifo := Nat.ne_of_gt (Nat.lt_of_lt_of_le exists_ fresh)
    simpa [World.setFifo, different] using naming.blank other fresh

theorem begin (naming : Naming setup world) {client : Client}
    (pc : world.clients client = .notStarted)
    (distinct : forall other, other ∈ world.alive -> setup.pid other ≠ setup.pid client) :
    Naming setup { world.moveClient client .makingFifo with alive := client :: world.alive } := by
  have absent : client ∉ world.alive := by
    rw [naming.alive_iff, pc]
    simp [ClientPc.running]
  have others : forall other, other ≠ client ->
      (world.moveClient client .makingFifo).clients other = world.clients other := by
    intro other different
    simp [World.moveClient, different]
  have clash : forall other, other ≠ client -> (world.clients other).running = true ->
      setup.pid other ≠ setup.pid client := by
    intro other _ runs
    exact distinct other ((naming.alive_iff other).mpr runs)
  refine ⟨List.nodup_cons.mpr ⟨absent, naming.alive_nodup⟩, ?_, ?_, naming.bounded, naming.unique,
    ?_, ?_, naming.heldBounded, naming.blank⟩
  · intro other
    rcases eq_or_ne other client with same | different
    · subst same
      simp [World.moveClient, ClientPc.running]
    · simp [World.moveClient, different, naming.alive_iff other]
  · intro left right leftRuns rightRuns same
    rcases eq_or_ne left client with leftSame | leftDifferent
    · rcases eq_or_ne right client with rightSame | rightDifferent
      · rw [leftSame, rightSame]
      · subst leftSame
        dsimp only at rightRuns
        rw [others right rightDifferent] at rightRuns
        exact absurd same.symm (clash right rightDifferent rightRuns)
    · dsimp only at leftRuns
      rw [others left leftDifferent] at leftRuns
      rcases eq_or_ne right client with rightSame | rightDifferent
      · subst rightSame
        exact absurd same (clash left leftDifferent leftRuns)
      · dsimp only at rightRuns
        rw [others right rightDifferent] at rightRuns
        exact naming.distinct left right leftRuns rightRuns same
  · intro other has
    rcases eq_or_ne other client with same | different
    · subst same
      simp [World.moveClient, ClientPc.hasFifo] at has
    · dsimp only at has
      rw [others other different] at has
      exact naming.owns other has
  · intro other fifo holds
    rcases eq_or_ne other client with same | different
    · subst same
      simp [World.moveClient, ClientPc.reader] at holds
    · dsimp only at holds
      rw [others other different] at holds
      exact naming.reads other fifo holds

omit [DecidableEq Client] in
theorem create (naming : Naming setup world) {name : List Byte}
    (free : world.directory name = none) : Naming setup (world.create name) := by
  have new : (world.create name).directory name = some world.nextFifo :=
    Function.update_self name _ _
  have old : forall other, other ≠ name ->
      (world.create name).directory other = world.directory other :=
    fun other different => Function.update_of_ne different _ _
  have kept : forall other fifo, world.directory other = some fifo ->
      (world.create name).directory other = some fifo := by
    intro other fifo found
    have different : other ≠ name := by
      rintro rfl
      rw [free] at found
      cases found
    rw [old other different]
    exact found
  have fresh : forall other, other ≠ name ->
      (world.create name).directory other ≠ some world.nextFifo := by
    intro other different found
    rw [old other different] at found
    exact absurd (naming.bounded other _ found) (Nat.lt_irrefl _)
  refine ⟨naming.alive_nodup, naming.alive_iff, naming.distinct, ?_, ?_, ?_, ?_, ?_, ?_⟩
  · intro other fifo found
    rcases eq_or_ne other name with same | different
    · rw [same, new] at found
      exact Option.some.inj found ▸ Nat.lt_succ_self _
    · rw [old other different] at found
      exact Nat.lt_succ_of_lt (naming.bounded other fifo found)
  · intro left right fifo leftFound rightFound
    rcases eq_or_ne left name with leftSame | leftDifferent
    · rcases eq_or_ne right name with rightSame | rightDifferent
      · rw [leftSame, rightSame]
      · rw [leftSame, new] at leftFound
        exact absurd (leftFound ▸ rightFound) (fresh right rightDifferent)
    · rcases eq_or_ne right name with rightSame | rightDifferent
      · rw [rightSame, new] at rightFound
        exact absurd (rightFound ▸ leftFound) (fresh left leftDifferent)
      · rw [old left leftDifferent] at leftFound
        rw [old right rightDifferent] at rightFound
        exact naming.unique left right fifo leftFound rightFound
  · intro client has
    rcases naming.owns client has with ⟨fifo, found⟩
    exact ⟨fifo, kept _ fifo found⟩
  · intro client fifo holds
    exact kept _ fifo (naming.reads client fifo holds)
  · intro req fifo held
    exact Nat.lt_succ_of_lt (naming.heldBounded req fifo held)
  · intro fifo later
    have different : fifo ≠ world.nextFifo := Nat.ne_of_gt later
    simpa [World.create, World.setFifo, different] using naming.blank fifo (Nat.le_of_lt later)

omit [DecidableEq Client] in
theorem mkfifo (naming : Naming setup world) (name : List Byte) :
    Naming setup (world.mkfifo name) ∧
      Exists fun fifo => (world.mkfifo name).directory name = some fifo := by
  unfold World.mkfifo
  split
  · exact ⟨naming.create ‹_›, world.nextFifo, Function.update_self name _ _⟩
  · exact ⟨naming, Option.ne_none_iff_exists'.mp ‹_›⟩

theorem leave (naming : Naming setup world) {client : Client}
    (runs : (world.clients client).running = true) (ending : Ending) :
    Naming setup (world.leave setup client ending) := by
  rcases world.leave_eq client ending with ⟨directory, fifos, files, left⟩
  rw [left]
  have others : forall other, other ≠ client ->
      Function.update world.clients client (.exited ending) other = world.clients other :=
    fun other different => Function.update_of_ne different _ _
  have gone : forall {claim : ClientPc -> Bool}, claim (.exited ending) = false ->
      forall other, claim (Function.update world.clients client (.exited ending) other) = true ->
        other ≠ client ∧ claim (world.clients other) = true := by
    intro claim ended other claimed
    rcases eq_or_ne other client with same | different
    · rw [same, Function.update_self, ended] at claimed
      cases claimed
    · rw [others other different] at claimed
      exact ⟨different, claimed⟩
  have nameKept : forall other, other ≠ client -> (world.clients other).running = true ->
      directory (setup.fifoName other) = world.directory (setup.fifoName other) := by
    intro other different otherRuns
    exact files.others _ (fun same => different (naming.name_unique otherRuns runs same))
  refine ⟨naming.alive_nodup.erase client, ?_, ?_, ?_, ?_, ?_, ?_, naming.heldBounded, ?_⟩
  · intro other
    rw [naming.alive_nodup.mem_erase_iff, naming.alive_iff]
    rcases eq_or_ne other client with same | different
    · subst same
      simp [ClientPc.running]
    · simp [different]
  · intro first second firstRuns secondRuns
    exact naming.distinct first second (gone rfl first firstRuns).2 (gone rfl second secondRuns).2
  · exact fun name fifo found => naming.bounded name fifo (files.old name fifo found)
  · intro first second fifo firstFound secondFound
    exact naming.unique first second fifo (files.old first fifo firstFound)
      (files.old second fifo secondFound)
  · intro other has
    rcases gone rfl other has with ⟨different, has⟩
    dsimp only
    rw [nameKept other different (ClientPc.running_of_hasFifo has)]
    exact naming.owns other has
  · intro other fifo holds
    rcases eq_or_ne other client with same | different
    · subst same
      simp [ClientPc.reader] at holds
    · dsimp only at holds ⊢
      rw [others other different] at holds
      rw [nameKept other different
        (ClientPc.running_of_hasFifo (ClientPc.hasFifo_of_reader holds))]
      exact naming.reads other fifo holds
  · intro fifo later
    have elsewhere : (world.clients client).reader ≠ some fifo := by
      intro holds
      have within := naming.bounded _ _ (naming.reads client fifo holds)
      exact absurd within (Nat.not_lt_of_le later)
    exact (files.untouched fifo elsewhere).trans (naming.blank fifo later)

omit [DecidableEq Client] in
theorem moveServer (naming : Naming setup world) {server : ServerPc Client} {seqNum : Int}
    {queue : List (Request Client)} {handled : List (Handled Client)} {diagnostics : List String}
    (held : forall req fifo, server.held = some (req, fifo) -> fifo < world.nextFifo) :
    Naming setup
      { world with
        server := server
        seqNum := seqNum
        queue := queue
        handled := handled
        diagnostics := diagnostics } where
  alive_nodup := naming.alive_nodup
  alive_iff := naming.alive_iff
  distinct := naming.distinct
  bounded := naming.bounded
  unique := naming.unique
  owns := naming.owns
  reads := naming.reads
  heldBounded := held
  blank := naming.blank

omit [DecidableEq Client] in
theorem send (naming : Naming setup world) (req : Request Client) : Naming setup (world.send req) :=
  naming.moveServer naming.heldBounded

omit [DecidableEq Client] in
theorem serverMoves (naming : Naming setup world) {outcome : Outcome}
    (moves : World.ServerMoves setup world outcome next) : Naming setup next := by
  have bound := naming.heldBounded
  cases moves with
  | discard pc message => exact naming.moveServer naming.heldBounded
  | take pc received => exact naming.moveServer (by simp [ServerPc.held])
  | openFailed pc errno cause => exact naming.moveServer (by simp [ServerPc.held])
  | openFound pc succeeds named =>
      have within := naming.bounded _ _ named
      refine (naming.setFifo within _).moveServer ?_
      intro other fifo held
      cases held
      exact within
  | openInterrupted pc errno cause =>
      rw [pc] at bound
      exact (naming.setFifo (bound _ _ rfl) _).moveServer (by simp [ServerPc.held])
  | openReturns pc succeeds =>
      rw [pc] at bound
      exact naming.moveServer bound
  | write pc =>
      rw [pc] at bound
      unfold World.reply
      split
      · exact (naming.setFifo (bound _ _ rfl) _).moveServer bound
      · exact naming.moveServer bound
  | close pc messages =>
      rw [pc] at bound
      exact (naming.setFifo (bound _ _ rfl) _).moveServer (by simp [ServerPc.held])
  | update pc => exact naming.moveServer (by simp [ServerPc.held])

theorem clientMoves (naming : Naming setup world) {client : Client} {outcome : Outcome}
    (moves : World.ClientMoves setup world client outcome next) : Naming setup next := by
  have owns := naming.owns client
  have reads := naming.reads client
  cases moves with
  | usage pc ending =>
      refine naming.moveClient (by rw [pc]; rfl) ?_ ?_
      · simp [ClientPc.hasFifo]
      · simp [ClientPc.reader]
  | begin pc distinct => exact naming.begin pc distinct
  | make pc =>
      rcases naming.mkfifo (setup.fifoName client) with ⟨made, named⟩
      refine made.moveClient ?_ (fun _ => named) (by simp [ClientPc.reader])
      have same : (world.mkfifo (setup.fifoName client)).clients = world.clients := by
        unfold World.mkfifo
        split <;> rfl
      rw [same, pc]
      rfl
  | register pc | parse pc accepted | openServer pc =>
      rw [pc] at owns
      exact naming.moveClient (by rw [pc]; rfl) (fun _ => owns rfl) (by simp [ClientPc.reader])
  | send pc =>
      rw [pc] at owns
      exact (naming.send _).moveClient (by rw [World.send, pc]; rfl) (fun _ => owns rfl)
        (by simp [ClientPc.reader])
  | openReply pc named =>
      refine (naming.setFifo (naming.bounded _ _ named) _).moveClient (by rw [World.setFifo, pc]; rfl)
        (fun _ => ⟨_, named⟩) ?_
      intro fifo holds
      cases holds
      exact named
  | writerCame pc ready | printFailed pc =>
      rw [pc] at owns reads
      exact naming.moveClient (by rw [pc]; rfl) (fun _ => owns rfl) reads
  | read pc received =>
      rw [pc] at owns reads
      exact (naming.setFifo (naming.bounded _ _ (reads _ rfl)) _).moveClient
        (by rw [World.setFifo, pc]; rfl) (fun _ => owns rfl) reads
  | print pc =>
      rw [pc] at owns reads
      have moved : Naming setup (world.moveClient client (.exiting _)) :=
        naming.moveClient (by rw [pc]; rfl) (fun _ => owns rfl) reads
      exact ⟨moved.alive_nodup, moved.alive_iff, moved.distinct, moved.bounded, moved.unique,
        moved.owns, moved.reads, moved.heldBounded, moved.blank⟩
  | finish pc => exact naming.leave (by rw [pc]; rfl) _
  | giveUp pc ending =>
      exact naming.leave (ClientPc.running_of_early pc) ending
  | endOfFile pc empty closed ending => exact naming.leave (by rw [pc]; rfl) ending
  | loseOpen pc cause ending =>
      have waits := ClientPc.waiting_of_opening pc
      exact naming.leave (ClientPc.running_of_hasFifo (ClientPc.hasFifo_of_waiting waits)) ending
  | loseRead pc cause => exact naming.leave (by rw [pc]; rfl) _

theorem step (naming : Naming setup world) {action : Action Client}
    (stepped : world.step setup action = some next) : Naming setup next := by
  cases action with
  | server outcome => exact naming.serverMoves (World.serverStep_moves stepped)
  | client client outcome => exact naming.clientMoves (World.clientStep_moves stepped)
  | terminate client termination =>
      rcases World.step_terminate stepped with ⟨runs, rfl⟩
      exact naming.leave runs _

end Naming

/-! ## Requests -/

/-- The client has sent its request, or has ended. -/
def ClientPc.pastSending : ClientPc -> Bool
  | .openingReply | .awaitingWriter _ _ | .reading _ | .printing _ _ | .exiting _ | .exited _ => true
  | _ => false

namespace ServerPc

/-- The request that the server has taken and not yet finished with. -/
def request : ServerPc Client -> List (Request Client)
  | .opening req | .awaitingReader req _ _ | .writing req _ | .closing req _ | .updating req => [req]
  | .reading | .terminated _ => []

/-- The request that the server has taken and for which it has not opened the
client's FIFO. -/
def unanswered : ServerPc Client -> List (Request Client)
  | .opening req | .awaitingReader req _ _ => [req]
  | _ => []

/-- The request for which the server has reserved a range that the counter does
not show yet. -/
def answering : ServerPc Client -> Option (Request Client)
  | .writing req _ | .closing req _ | .updating req => some req
  | _ => none

end ServerPc

namespace World

/-- The requests that the server has still to answer. -/
def unanswered (world : World Client) : List (Request Client) :=
  world.server.unanswered ++ world.queue

/-- The requests that the server has taken or will take. -/
def inFlight (world : World Client) : List (Request Client) := world.server.request ++ world.queue

/-- The clients whose requests are waiting or handled. -/
def senders (world : World Client) : List Client :=
  world.unanswered.map Request.sender ++ world.handled.map Handled.client

end World

/-- Every request is its sender's own, and is waiting or handled once. -/
structure Accounts (setup : Setup Client) (world : World Client) : Prop where
  once : world.senders.Nodup
  sent : forall client, client ∈ world.senders -> (world.clients client).pastSending = true
  honest : forall req, req ∈ world.inFlight ->
    req.pid = setup.pid req.sender ∧ setup.seqLen req.sender = .ok req.seqLen
  lengths : forall entry, entry ∈ world.handled -> setup.seqLen entry.client = .ok entry.length
  carried : forall client seqLen, world.clients client = .openingServer seqLen ∨
    world.clients client = .sending seqLen -> setup.seqLen client = .ok seqLen
  answering : forall req, world.server.answering = some req -> Exists fun earlier =>
    world.handled = earlier ++ [⟨req.sender, world.seqNum, req.seqLen⟩]

namespace Accounts

variable {world next : World Client}

omit [DecidableEq Client] in
theorem of_fresh (fresh : Fresh world) : Accounts setup world := by
  have noSenders : world.senders = [] := by
    simp [World.senders, World.unanswered, fresh.server, fresh.queue, fresh.handled,
      ServerPc.unanswered]
  refine ⟨?_, ?_, ?_, ?_, ?_, ?_⟩
  · rw [noSenders]
    exact List.nodup_nil
  · intro client member
    rw [noSenders] at member
    cases member
  · simp [World.inFlight, fresh.server, fresh.queue, ServerPc.request]
  · simp [fresh.handled]
  · simp [fresh.clients]
  · simp [fresh.server, ServerPc.answering]

theorem of_client (accounts : Accounts setup world) {client : Client} {pc : ClientPc}
    (server : next.server = world.server) (seqNum : next.seqNum = world.seqNum)
    (queue : next.queue = world.queue) (handled : next.handled = world.handled)
    (clients : next.clients = Function.update world.clients client pc)
    (past : (world.clients client).pastSending = true -> pc.pastSending = true)
    (carried : forall seqLen, pc = .openingServer seqLen ∨ pc = .sending seqLen ->
      setup.seqLen client = .ok seqLen) : Accounts setup next := by
  have senders : next.senders = world.senders := by
    simp only [World.senders, World.unanswered, server, queue, handled]
  refine ⟨?_, ?_, ?_, ?_, ?_, ?_⟩
  · rw [senders]
    exact accounts.once
  · intro other member
    rw [senders] at member
    have before := accounts.sent other member
    rw [clients]
    rcases eq_or_ne other client with same | different
    · subst same
      rw [Function.update_self]
      exact past before
    · rwa [Function.update_of_ne different]
  · intro req member
    rw [World.inFlight, server, queue] at member
    exact accounts.honest req member
  · rw [handled]
    exact accounts.lengths
  · intro other seqLen position
    rw [clients] at position
    rcases eq_or_ne other client with same | different
    · subst same
      rw [Function.update_self] at position
      exact carried seqLen position
    · rw [Function.update_of_ne different] at position
      exact accounts.carried other seqLen position
  · rw [server, seqNum, handled]
    exact accounts.answering

omit [DecidableEq Client] in
theorem of_server (accounts : Accounts setup world)
    (clients : next.clients = world.clients) (handled : next.handled = world.handled)
    (unanswered : next.unanswered.Sublist world.unanswered)
    (inFlight : next.inFlight.Sublist world.inFlight)
    (answering : forall req, next.server.answering = some req ->
      world.server.answering = some req ∧ next.seqNum = world.seqNum) : Accounts setup next := by
  have senders : next.senders.Sublist world.senders := by
    rw [World.senders, World.senders, handled]
    exact (unanswered.map Request.sender).append (List.Sublist.refl _)
  refine ⟨accounts.once.sublist senders, ?_, ?_, ?_, ?_, ?_⟩
  · intro client member
    rw [clients]
    exact accounts.sent client (senders.subset member)
  · exact fun req member => accounts.honest req (inFlight.subset member)
  · rw [handled]
    exact accounts.lengths
  · rw [clients]
    exact accounts.carried
  · intro req current
    rcases answering req current with ⟨before, same⟩
    rw [handled, same]
    exact accounts.answering req before

theorem send (accounts : Accounts setup world) {client : Client} {seqLen : Int}
    (pc : world.clients client = .sending seqLen) :
    Accounts setup
      ((world.send ⟨setup.pid client, seqLen, client⟩).moveClient client .openingReply) := by
  have absent : client ∉ world.senders := by
    intro member
    have past := accounts.sent client member
    rw [pc] at past
    cases past
  have senders : List.Perm
      ((world.send ⟨setup.pid client, seqLen, client⟩).moveClient client .openingReply).senders
      (client :: world.senders) := by
    simp only [World.senders, World.unanswered, World.send, World.moveClient, List.map_append,
      List.map_cons, List.map_nil]
    rw [← List.append_assoc, List.append_assoc]
    exact List.perm_middle
  refine ⟨senders.nodup_iff.mpr (List.nodup_cons.mpr ⟨absent, accounts.once⟩), ?_, ?_,
    accounts.lengths, ?_, accounts.answering⟩
  · intro other member
    rcases eq_or_ne other client with same | different
    · subst same
      simp [World.moveClient, ClientPc.pastSending]
    · have before := (List.mem_cons.mp (senders.subset member)).resolve_left different
      simpa [World.moveClient, World.send, different] using accounts.sent other before
  · intro req member
    rw [World.inFlight] at member
    simp only [World.moveClient, World.send] at member
    rw [← List.append_assoc, List.mem_append, List.mem_singleton] at member
    rcases member with before | new
    · exact accounts.honest req before
    · rw [new]
      exact ⟨rfl, accounts.carried client seqLen (Or.inr pc)⟩
  · intro other carriedLen position
    rcases eq_or_ne other client with same | different
    · subst same
      simp [World.moveClient] at position
    · simp only [World.moveClient, World.send, Function.update_of_ne different] at position
      exact accounts.carried other carriedLen position

theorem leave (accounts : Accounts setup world) (client : Client) (ending : Ending) :
    Accounts setup (world.leave setup client ending) := by
  rcases world.leave_eq client ending with ⟨directory, fifos, -, left⟩
  rw [left]
  exact accounts.of_client rfl rfl rfl rfl rfl (fun _ => rfl) (by simp)

theorem clientMoves (accounts : Accounts setup world) {client : Client} {outcome : Outcome}
    (moves : World.ClientMoves setup world client outcome next) : Accounts setup next := by
  cases moves with
  | usage pc ending => exact accounts.of_client rfl rfl rfl rfl rfl (fun _ => rfl) (by simp)
  | begin pc distinct | register pc =>
      exact accounts.of_client rfl rfl rfl rfl rfl (by rw [pc]; exact fun past => by cases past)
        (by simp)
  | make pc =>
      rw [World.mkfifo]
      split <;>
        exact accounts.of_client rfl rfl rfl rfl rfl (by rw [pc]; exact fun past => by cases past)
          (by simp)
  | parse pc accepted =>
      refine accounts.of_client rfl rfl rfl rfl rfl (by rw [pc]; exact fun past => by cases past) ?_
      simpa using accepted
  | openServer pc =>
      refine accounts.of_client rfl rfl rfl rfl rfl (by rw [pc]; exact fun past => by cases past) ?_
      simpa using accounts.carried client _ (Or.inl pc)
  | send pc => exact accounts.send pc
  | openReply pc named | writerCame pc ready | read pc received | print pc | printFailed pc =>
      exact accounts.of_client rfl rfl rfl rfl rfl (fun _ => rfl) (by simp)
  | finish pc | loseRead pc cause => exact accounts.leave client _
  | giveUp pc ending | endOfFile pc empty closed ending | loseOpen pc cause ending =>
      exact accounts.leave client ending

omit [DecidableEq Client] in
/-- The server reserves the range of a request it has not answered before. -/
theorem openReturns (accounts : Accounts setup world) {req : Request Client} {fifo seen : Nat}
    (pc : world.server = .awaitingReader req fifo seen) :
    Accounts setup
      { world with
        server := .writing req fifo
        handled := world.handled ++ [⟨req.sender, world.seqNum, req.seqLen⟩] } := by
  have inFlight : req ∈ world.inFlight := by simp [World.inFlight, pc, ServerPc.request]
  have senders : List.Perm
      (World.senders { world with
        server := .writing req fifo
        handled := world.handled ++ [⟨req.sender, world.seqNum, req.seqLen⟩] }) world.senders := by
    simp only [World.senders, World.unanswered, pc, ServerPc.unanswered, List.nil_append,
      List.map_append, List.map_cons, List.map_nil, List.cons_append]
    rw [← List.append_assoc]
    exact List.perm_append_singleton _ _
  refine ⟨senders.nodup_iff.mpr accounts.once, ?_, ?_, ?_, accounts.carried, ?_⟩
  · exact fun client member => accounts.sent client (senders.subset member)
  · intro other member
    refine accounts.honest other ?_
    rw [World.inFlight, pc]
    exact member
  · intro entry member
    rcases List.mem_append.mp member with before | new
    · exact accounts.lengths entry before
    · rw [List.mem_singleton.mp new]
      exact (accounts.honest req inFlight).2
  · intro other current
    cases current
    exact ⟨world.handled, rfl⟩

omit [DecidableEq Client] in
theorem serverMoves (accounts : Accounts setup world) {outcome : Outcome}
    (moves : World.ServerMoves setup world outcome next) : Accounts setup next := by
  cases moves with
  | discard pc message =>
      exact accounts.of_server rfl rfl (List.Sublist.refl _) (List.Sublist.refl _)
        (fun _ current => ⟨current, rfl⟩)
  | take pc received =>
      refine accounts.of_server rfl rfl ?_ ?_ (by simp [ServerPc.answering])
      · simp [World.unanswered, pc, received, ServerPc.unanswered]
      · simp [World.inFlight, pc, received, ServerPc.request]
  | openFailed pc errno cause =>
      refine accounts.of_server rfl rfl ?_ ?_ (by simp [World.errExitServer, ServerPc.answering])
      · simp [World.unanswered, World.errExitServer, pc, ServerPc.unanswered]
      · simp [World.inFlight, World.errExitServer, pc, ServerPc.request]
  | openFound pc succeeds named =>
      refine accounts.of_server rfl rfl ?_ ?_ (by simp [ServerPc.answering])
      · simp [World.unanswered, World.setFifo, pc, ServerPc.unanswered]
      · simp [World.inFlight, World.setFifo, pc, ServerPc.request]
  | openInterrupted pc errno cause =>
      refine accounts.of_server rfl rfl ?_ ?_ (by simp [World.errExitServer, ServerPc.answering])
      · simp [World.unanswered, World.errExitServer, World.setFifo, pc, ServerPc.unanswered]
      · simp [World.inFlight, World.errExitServer, World.setFifo, pc, ServerPc.request]
  | openReturns pc succeeds => exact accounts.openReturns pc
  | write pc =>
      rw [World.reply]
      split
      · refine accounts.of_server rfl rfl ?_ ?_ ?_
        · simp [World.unanswered, World.setFifo, pc, ServerPc.unanswered]
        · simp [World.inFlight, World.setFifo, pc, ServerPc.request]
        · simp [ServerPc.answering, World.setFifo, pc]
      · refine accounts.of_server rfl rfl ?_ ?_ ?_
        · simp [World.unanswered, World.report, pc, ServerPc.unanswered]
        · simp [World.inFlight, World.report, pc, ServerPc.request]
        · simp [ServerPc.answering, World.report, pc]
  | close pc messages =>
      refine accounts.of_server rfl rfl ?_ ?_ ?_
      · simp [World.unanswered, World.setFifo, pc, ServerPc.unanswered]
      · simp [World.inFlight, World.setFifo, pc, ServerPc.request]
      · simp [ServerPc.answering, World.setFifo, pc]
  | update pc =>
      refine accounts.of_server rfl rfl ?_ ?_ (by simp [ServerPc.answering])
      · simp [World.unanswered, pc, ServerPc.unanswered]
      · simp [World.inFlight, pc, ServerPc.request]

theorem step (accounts : Accounts setup world) {action : Action Client}
    (stepped : world.step setup action = some next) : Accounts setup next := by
  cases action with
  | server outcome => exact accounts.serverMoves (World.serverStep_moves stepped)
  | client client outcome => exact accounts.clientMoves (World.clientStep_moves stepped)
  | terminate client termination =>
      rcases World.step_terminate stepped with ⟨-, rfl⟩
      exact accounts.leave client _

omit [DecidableEq Client] in
/-- The request whose FIFO the server holds is waiting or handled. -/
theorem held_mem (accounts : Accounts setup world) {req : Request Client} {fifo : Nat}
    (held : world.server.held = some (req, fifo)) : req.sender ∈ world.senders := by
  have answering := accounts.answering req
  cases pc : world.server with
  | awaitingReader current other seen =>
      rw [pc] at held
      cases held
      simp [World.senders, World.unanswered, pc, ServerPc.unanswered]
  | writing current other | closing current other =>
      rw [pc] at held answering
      cases held
      rcases answering rfl with ⟨earlier, handled⟩
      simp [World.senders, handled]
  | _ =>
      rw [pc] at held
      cases held

omit [DecidableEq Client] in
/-- A client whose request waits has had none handled. -/
theorem unanswered_not_handled (accounts : Accounts setup world) {req : Request Client}
    (waiting : req ∈ world.unanswered) {entry : Handled Client} (handled : entry ∈ world.handled) :
    entry.client ≠ req.sender := by
  have apart := (List.nodup_append.mp accounts.once).2.2
  exact (apart _ (List.mem_map_of_mem waiting) _ (List.mem_map_of_mem handled)).symm

end Accounts

end IpcPipeFifo
end Tlpi
