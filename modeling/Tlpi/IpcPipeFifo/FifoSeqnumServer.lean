import Tlpi.IpcPipeFifo.FifoSeqnum

namespace Tlpi
namespace IpcPipeFifo

open CLibrary Foundations Lib

universe u

/-!
# When the server leaves its loop

A failed read, a failed write and a failed close are reported, and the loop goes
on.  A failed `open` of a client's FIFO is different: the code after it gives up
on the client alone, but the function that reports the error does not return.
The server therefore stays in its loop exactly as long as every client FIFO it
opens is there and the kernel grants the `open`.
-/

variable {Client : Type u} [DecidableEq Client] {setup : Setup Client}

/-- The `open` of a client's FIFO succeeds: the name is there when the server
looks it up, and the kernel reports no error then or while the server waits for
the client. -/
def OpensClientFifo (world : World Client) : Action Client -> Prop
  | .server outcome =>
      match world.server with
      | .opening req => outcome = .success ∧ world.directory (clientFifoName req.pid) ≠ none
      | .awaitingReader _ _ _ => outcome = .success
      | _ => True
  | _ => True

namespace World

variable {world next : World Client}

omit [DecidableEq Client] in
/-- The server leaves its loop at a failed `open` and nowhere else. -/
theorem serverStep_runs {outcome : Outcome}
    (stepped : world.serverStep setup outcome = some next) :
    next.serverRuns = true <-> OpensClientFifo world (.server outcome) := by
  cases serverStep_moves stepped with
  | discard pc message => simp [OpensClientFifo, serverRuns, report, pc]
  | take pc received => simp [OpensClientFifo, serverRuns, pc]
  | openFailed pc errno cause =>
      simp only [OpensClientFifo, serverRuns, errExitServer, pc]
      rcases cause with failed | absent
      · simp [failed]
      · simp [absent]
  | openFound pc succeeds named => simp [OpensClientFifo, serverRuns, pc, succeeds, named]
  | openInterrupted pc errno cause => simp [OpensClientFifo, serverRuns, errExitServer, pc, cause]
  | openReturns pc succeeds => simp [OpensClientFifo, serverRuns, pc, succeeds]
  | write pc => simp [OpensClientFifo, serverRuns, pc]
  | close pc messages => simp [OpensClientFifo, serverRuns, pc]
  | update pc => simp [OpensClientFifo, serverRuns, pc]

/-- No client takes the server out of its loop, or back into it. -/
theorem step_runs_of_client {action : Action Client} (stepped : world.step setup action = some next)
    (byClient : forall outcome, action ≠ .server outcome) : next.serverRuns = world.serverRuns := by
  have same : next.server = world.server := by
    cases action with
    | server outcome => exact absurd rfl (byClient outcome)
    | client client outcome => exact (clientStep_moves stepped).untouched.1
    | terminate client termination =>
        rcases world.leave_eq client (.terminated termination) with ⟨directory, fifos, -, left⟩
        rw [(step_terminate stepped).2, left]
  rw [serverRuns, serverRuns, same]

/-- A server in its loop stays there exactly when the step meets the condition. -/
theorem step_runs_iff {action : Action Client} (running : world.serverRuns = true)
    (stepped : world.step setup action = some next) :
    next.serverRuns = true <-> OpensClientFifo world action := by
  cases action with
  | server outcome => exact serverStep_runs stepped
  | client client outcome =>
      rw [step_runs_of_client stepped (by simp)]
      exact iff_of_true running trivial
  | terminate client termination =>
      rw [step_runs_of_client stepped (by simp)]
      exact iff_of_true running trivial

/-- A server that has left its loop does not come back. -/
theorem step_not_runs {action : Action Client} (stopped : ¬ world.serverRuns = true)
    (stepped : world.step setup action = some next) : ¬ next.serverRuns = true := by
  cases action with
  | server outcome =>
      cases pc : world.server with
      | terminated failure => simp [step, serverStep, pc] at stepped
      | _ => simp [serverRuns, pc] at stopped
  | client client outcome =>
      rw [step_runs_of_client stepped (by simp)]
      exact stopped
  | terminate client termination =>
      rw [step_runs_of_client stepped (by simp)]
      exact stopped

end World

/-- For every run, whatever the clients do: at its end the server is still in
its loop exactly when every client FIFO that it opened was there and the kernel
granted every such `open`. -/
theorem seqnum_server_stays_in_loop_iff (setup : Setup Client) (world final : World Client)
    (fresh : Fresh world) (actions : List (Action Client))
    (executed : (service setup).exec world actions = some final) :
    final.serverRuns = true <-> (service setup).Along OpensClientFifo world actions := by
  have running : world.serverRuns = true := by simp [World.serverRuns, fresh.server]
  have guarded : forall state action next, World.serverRuns state = true ->
      (service setup).step state action = some next ->
      (World.serverRuns next = true <-> OpensClientFifo state action) :=
    fun _ _ _ live stepped => World.step_runs_iff live stepped
  have lost : forall state action next, ¬ World.serverRuns state = true ->
      (service setup).step state action = some next -> ¬ World.serverRuns next = true :=
    fun _ _ _ stopped stepped => World.step_not_runs stopped stepped
  exact Machine.exec_live_iff_along guarded lost running executed

/-- Clients with given PIDs and arguments, and nothing unusual in the
environment. -/
def plainSetup (count : Nat) (pid : Fin count -> Int)
    (pid_range : forall client, 0 < pid client ∧ pid client ≤ INT_MAX)
    (argument : Fin count -> Option (List Byte)) : Setup (Fin count) where
  progName := ascii "fifo_seqnum_client"
  pid := pid
  pid_range := pid_range
  argument := argument
  dumpcore := fun _ => none
  serverDumpcore := none

def emptyWorld (count : Nat) : World (Fin count) where
  server := .reading
  seqNum := 0
  queue := []
  clients := fun _ => .notStarted
  alive := []
  directory := fun _ => none
  fifos := fun _ => Fifo.empty
  nextFifo := 0
  handled := []
  printed := fun _ => none
  diagnostics := []

theorem emptyWorld_fresh (count : Nat) : Fresh (emptyWorld count) := by
  constructor <;> simp [emptyWorld]

/-- A client with PID 100 and no argument. -/
def oneClient : Setup (Fin 1) := plainSetup 1 (fun _ => 100) (by decide) (fun _ => none)

/-- A whole exchange: the client sends its request and asks for the reply, the
server answers, and the client prints the number and exits. -/
def wholeExchange : List (Action (Fin 1)) :=
  List.replicate 7 (Action.client 0 .success) ++ List.replicate 6 (Action.server .success) ++
    List.replicate 4 (Action.client 0 .success)

theorem seqnum_server_stays_in_loop_iff_whole_exchange :
    Exists fun final : World (Fin 1) =>
      (service oneClient).exec (emptyWorld 1) wholeExchange = some final ∧
      final.printed 0 = some 0 ∧ final.seqNum = 1 ∧
      (final.serverRuns = true <->
        (service oneClient).Along OpensClientFifo (emptyWorld 1) wholeExchange) := by
  refine ⟨Option.get _ (by decide +kernel), (Option.some_get (by decide +kernel)).symm,
    by decide +kernel, by decide +kernel, ?_⟩
  exact seqnum_server_stays_in_loop_iff oneClient (emptyWorld 1) _ (emptyWorld_fresh 1) wholeExchange
    (Option.some_get (by decide +kernel)).symm

/-- The client terminates after sending its request and before opening its FIFO,
its handler removes the FIFO, and the server finds nothing to open. -/
def abandonedRequest : List (Action (Fin 1)) :=
  List.replicate 6 (Action.client 0 .success) ++ [Action.terminate 0 .exit] ++
    List.replicate 2 (Action.server .success)

theorem seqnum_server_leaves_loop :
    ¬ forall final, (service oneClient).Reachable final -> final.serverRuns = true := by
  intro always
  have enabled : ((service oneClient).exec (emptyWorld 1) abandonedRequest).isSome = true := by
    decide +kernel
  have reachable := Machine.reachable_of_exec (emptyWorld_fresh 1) (Option.some_get enabled).symm
  have stopped : ((service oneClient).exec (emptyWorld 1) abandonedRequest).all
      (fun final => !final.serverRuns) = true := by
    decide +kernel
  rw [← Option.some_get enabled, Option.all_some, always _ reachable] at stopped
  cases stopped

end IpcPipeFifo
end Tlpi
