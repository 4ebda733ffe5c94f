import Mathlib.Data.List.AList
import LiveChat.Core.GeminiRunner

/-!
# The session manager of a server node

`core/session_manager.py`.  A `Node` is the manager with the runner tasks it
spawned, the `_on_runner_done` tasks their ends scheduled, the suspended
`_terminate` calls and the sessions collection.  The lock is never held across an
await, so each critical section is part of one step.  A runner is known by its
place in `runners`; `sessions` maps a session id to the runner of the registered
`SessionState`.

`attachments` and the second component of a callback are the history that the
code does not keep: which call was given which state, and whose end a callback
reports.
-/

set_option autoImplicit false

namespace LiveChat.Core.SessionManager

open LiveChat.Foundation
open LiveChat.Core.GeminiRunner

structure Runner where
  session : Session
  /-- A `_terminate` call took its state out of the registry. -/
  terminating : Bool := false

/-- A `get_or_create` call that returned: for which project, and the state of which
runner. -/
structure Attachment where
  projectId : String
  runner : Nat

/-- A document of the sessions collection, with the runner that wrote it. -/
structure Record where
  doc : SessionDoc
  writer : Nat

/-- The two awaits of `_terminate`. -/
inductive Wait where
  /-- `wait_for(shield(worker_task), timeout=2.0)`. -/
  | shielded (runner : Nat)
  /-- `await worker_task` after its cancellation. -/
  | joining (runner : Nat)

/-- `for sid in ...: await self._terminate(sid)`, suspended in one of the calls. -/
structure Sweep where
  wait : Wait
  rest : List String

inductive CleanupTask where
  | notStarted
  | sleeping
  | sweeping (sweep : Sweep)
  | ended (outcome : Outcome)

inductive StopCall where
  | notCalled
  | awaitingCleanup
  | terminating (sweep : Sweep)
  | returned
  | raised (exc : String)

structure Node where
  clock : Clock
  runners : List Runner := []
  sessions : AList fun _ : String => Nat := ∅
  callbacks : List (String × Nat) := []
  attachments : List Attachment := []
  records : List Record := []
  cleanupTask : CleanupTask := .notStarted
  /-- `cleanup_task.cancel()` was called and `CancelledError` is not delivered yet. -/
  cleanupCancelled : Bool := false
  stopCall : StopCall := .notCalled
  /-- `_terminate` calls of other tasks. -/
  terminations : List Sweep := []

inductive WaitEvent where
  | runnerDone
  | timeout
  | cancelled

inductive NodeEvent where
  | tick (elapsed : Nat) (utc : Instant)
  | getOrCreate (sessionId : String) (project : ProjectConfig) (apiKeyId : String)
  | runner (index : Nat) (event : RunnerEvent)
  | onRunnerDone (sessionId : String) (runner : Nat)
  | start
  | cleanupWake
  | cleanupWait (event : WaitEvent)
  | cleanupCancelled
  | terminate (sessionId : String)
  | termination (index : Nat) (event : WaitEvent)
  | stop
  | stopCleanupDone
  | stopWait (event : WaitEvent)

/-- `insert_one`: a document whose `_id` is taken is rejected. -/
def insertOne (records : List Record) (record : Record) : List Record :=
  if records.any fun other => other.doc.id == record.doc.id then records
  else records ++ [record]

namespace Node

/-- A node that just started. -/
def initial (clock : Clock) : Node := { clock := clock }

def updateSession (node : Node) (index : Nat) (change : Session → Session) : Node :=
  { node with
    runners := node.runners.modify index fun runner =>
      { runner with session := change runner.session } }

def outcome (node : Node) (index : Nat) : Option Outcome :=
  match node.runners[index]? with
  | none => none
  | some runner =>
      match runner.session.await with
      | .done outcome => some outcome
      | _ => none

/-! ## `get_or_create` -/

def projectSessionCount (node : Node) (projectId : String) : Nat :=
  (node.sessions.entries.filter fun entry =>
    (node.runners[entry.2]?).any fun runner =>
      decide (runner.session.state.projectId = projectId)).length

/-- The call creates a session. -/
def Creates (node : Node) (sessionId : String) (project : ProjectConfig) : Prop :=
  node.sessions.lookup sessionId = none ∧
    node.projectSessionCount project.projectId < project.maxConcurrentSessions

instance (node : Node) (sessionId : String) (project : ProjectConfig) :
    Decidable (node.Creates sessionId project) :=
  inferInstanceAs (Decidable (node.sessions.lookup sessionId = none ∧
    node.projectSessionCount project.projectId < project.maxConcurrentSessions))

def attach (node : Node) (project : ProjectConfig) (index : Nat) : Node :=
  { node with attachments := node.attachments ++ [⟨project.projectId, index⟩] }

def touchSession (node : Node) (index : Nat) : Node :=
  node.updateSession index fun session =>
    { session with state := session.state.touch node.clock.monotonic }

/-- Register a new state and spawn its runner; `main.py` gives every manager the
session repository. -/
def create (node : Node) (sessionId : String) (project : ProjectConfig) (apiKeyId : String) :
    Node :=
  { node with
    sessions := node.sessions.insert sessionId node.runners.length
    runners := node.runners ++ [⟨Session.spawn node.clock sessionId apiKeyId project true, false⟩] }

/-- `MaxSessionsExceededError` leaves the node as it is. -/
def getOrCreate (node : Node) (sessionId : String) (project : ProjectConfig)
    (apiKeyId : String) : Node :=
  match node.sessions.lookup sessionId with
  | some index => (node.touchSession index).attach project index
  | none =>
      if node.projectSessionCount project.projectId ≥ project.maxConcurrentSessions then node
      else (node.create sessionId project apiKeyId).attach project node.runners.length

/-! ## Runners and their callbacks -/

/-- The document that the server inserts in this step. -/
def inserts (session : Session) (event : RunnerEvent) : Option SessionDoc :=
  match event, session.await with
  | .insertExecuted, .recording doc false => some doc
  | _, _ => none

/-- A runner moved from `before` to `after`; its end schedules a callback. -/
def advance (node : Node) (index : Nat) (before after : Session) (event : RunnerEvent) : Node :=
  { node.updateSession index fun _ => after with
    records :=
      match inserts before event with
      | none => node.records
      | some doc => insertOne node.records ⟨doc, index⟩
    callbacks :=
      if after.isDone && !before.isDone then
        node.callbacks ++ [(before.state.sessionId, index)]
      else node.callbacks }

def stepRunner (node : Node) (index : Nat) (event : RunnerEvent) : Option Node :=
  match node.runners[index]? with
  | none => none
  | some runner =>
      (runner.session.step (node.clock, event)).map fun after =>
        node.advance index runner.session after event

/-- `_on_runner_done` pops by the session id alone. -/
def onRunnerDone (node : Node) (sessionId : String) (runner : Nat) : Node :=
  { node with
    sessions := node.sessions.erase sessionId
    callbacks := node.callbacks.erase (sessionId, runner) }

/-! ## `_terminate` -/

/-- The state leaves the registry, and `STOP` goes to its inbox. -/
def pop (node : Node) (sessionId : String) (index : Nat) : Node :=
  { node with
    sessions := node.sessions.erase sessionId
    runners := node.runners.modify index fun runner =>
      { runner with
        terminating := true
        session := { runner.session with
          state := { runner.session.state with
            inbox := runner.session.state.inbox.offer .stop } } } }

/-- `_terminate` up to its first await. -/
def beginTerminate (node : Node) (sessionId : String) : Node × Option Wait :=
  match node.sessions.lookup sessionId with
  | none => (node, none)
  | some index =>
      match node.outcome index with
      | some _ => (node.pop sessionId index, none)
      | none => (node.pop sessionId index, some (.shielded index))

/-- `worker_task.cancel()`, then `await worker_task` unless it is done. -/
def cancelAndJoin (node : Node) (index : Nat) : Node × Option Wait :=
  (node.updateSession index Session.requestCancel,
    match node.outcome index with
    | some _ => none
    | none => some (.joining index))

inductive Terminated where
  | waiting (wait : Wait)
  | finished
  | raised (exc : String)

def Terminated.ofWait : Option Wait → Terminated
  | some wait => .waiting wait
  | none => .finished

def resumeWait (node : Node) : Wait → WaitEvent → Option (Node × Terminated)
  | .shielded index, .runnerDone =>
      match node.outcome index with
      | none => none
      | some .returned => some (node, .finished)
      -- the runner's own exception comes out of the shielded wait
      | some (.raised exc) => some (node, .raised exc)
      | some .cancelled =>
          let (node, wait) := node.cancelAndJoin index
          some (node, .ofWait wait)
  -- `except (TimeoutError, CancelledError)`: the caller's own cancellation ends here
  | .shielded index, .timeout | .shielded index, .cancelled =>
      let (node, wait) := node.cancelAndJoin index
      some (node, .ofWait wait)
  | .joining index, .runnerDone =>
      match node.outcome index with
      | none => none
      | some _ => some (node, .finished)
  -- cancelling a task that awaits another one directly cancels that one
  | .joining index, .cancelled =>
      some (node.updateSession index Session.requestCancel, .waiting (.joining index))
  | .joining _, .timeout => none

/-- The loop over the ids, up to the next await. -/
def terminateAll (node : Node) : List String → Node × Option Sweep
  | [] => (node, none)
  | sessionId :: rest =>
      match node.beginTerminate sessionId with
      | (node, none) => terminateAll node rest
      | (node, some wait) => (node, some ⟨wait, rest⟩)

inductive Swept where
  | suspended (sweep : Sweep)
  | finished
  | raised (exc : String)

def Swept.ofSweep : Option Sweep → Swept
  | some sweep => .suspended sweep
  | none => .finished

def resumeSweep (node : Node) (sweep : Sweep) (event : WaitEvent) : Option (Node × Swept) :=
  match node.resumeWait sweep.wait event with
  | none => none
  | some (node, .waiting wait) => some (node, .suspended { sweep with wait := wait })
  | some (node, .finished) =>
      let (node, next) := node.terminateAll sweep.rest
      some (node, .ofSweep next)
  | some (node, .raised exc) => some (node, .raised exc)

/-! ## `_cleanup_loop` and `stop` -/

/-- The registered ids in the order of the dict. -/
def sessionIds (node : Node) : List String := node.sessions.entries.reverse.map Sigma.fst

/-- `s.is_idle(300)` under the lock. -/
def stale (node : Node) : List String :=
  (node.sessions.entries.reverse.filter fun entry =>
    (node.runners[entry.2]?).any fun runner =>
      runner.session.state.isIdle node.clock.monotonic 300).map Sigma.fst

def setCleanup (node : Node) : Swept → Node
  | .suspended sweep => { node with cleanupTask := .sweeping sweep }
  | .finished => { node with cleanupTask := .sleeping }
  | .raised exc => { node with cleanupTask := .ended (.raised exc) }

/-- `self._cleanup_task.cancel()`; in `_terminate`'s second await the request goes to
the runner. -/
def cancelCleanup (node : Node) : Node :=
  match node.cleanupTask with
  | .notStarted | .ended _ => node
  | .sweeping ⟨.joining index, _⟩ => node.updateSession index Session.requestCancel
  | .sleeping | .sweeping _ => { node with cleanupCancelled := true }

def setStop (node : Node) : Swept → Node
  | .suspended sweep => { node with stopCall := .terminating sweep }
  | .finished => { node with stopCall := .returned }
  | .raised exc => { node with stopCall := .raised exc }

def stopSessions (node : Node) : Node :=
  let (node, sweep) := node.terminateAll node.sessionIds
  node.setStop (.ofSweep sweep)

def stop (node : Node) : Node :=
  match node.cleanupTask with
  | .notStarted => node.stopSessions
  | _ => { node.cancelCleanup with stopCall := .awaitingCleanup }

def setTermination (node : Node) (index : Nat) : Swept → Node
  | .suspended sweep => { node with terminations := node.terminations.set index sweep }
  | .finished | .raised _ => { node with terminations := node.terminations.eraseIdx index }

def step (node : Node) : NodeEvent → Option Node
  | .tick elapsed utc =>
      some { node with clock := ⟨node.clock.monotonic + elapsed, utc⟩ }
  | .getOrCreate sessionId project apiKeyId => some (node.getOrCreate sessionId project apiKeyId)
  | .runner index event => node.stepRunner index event
  | .onRunnerDone sessionId runner =>
      if (sessionId, runner) ∈ node.callbacks then some (node.onRunnerDone sessionId runner)
      else none
  | .start =>
      match node.cleanupTask with
      | .notStarted => some { node with cleanupTask := .sleeping }
      | _ => none
  | .cleanupWake =>
      match node.cleanupTask with
      | .sleeping =>
          if node.cleanupCancelled then none
          else
            let (node, sweep) := node.terminateAll node.stale
            some (node.setCleanup (.ofSweep sweep))
      | _ => none
  | .cleanupWait event =>
      match node.cleanupTask, event with
      | .sweeping _, .cancelled => none
      | .sweeping sweep, event =>
          if node.cleanupCancelled then none
          else (node.resumeSweep sweep event).map fun swept => swept.1.setCleanup swept.2
      | _, _ => none
  | .cleanupCancelled =>
      if node.cleanupCancelled then
        match node.cleanupTask with
        | .sleeping => some { node with cleanupCancelled := false, cleanupTask := .ended .cancelled }
        | .sweeping sweep =>
            (({ node with cleanupCancelled := false } : Node).resumeSweep sweep .cancelled).map
              fun swept => swept.1.setCleanup swept.2
        | _ => none
      else none
  | .terminate sessionId =>
      match node.beginTerminate sessionId with
      | (node, none) => some node
      | (node, some wait) => some { node with terminations := node.terminations ++ [⟨wait, []⟩] }
  | .termination index event =>
      match node.terminations[index]? with
      | none => none
      | some sweep =>
          (node.resumeSweep sweep event).map fun swept => swept.1.setTermination index swept.2
  | .stop =>
      match node.stopCall with
      | .notCalled => some node.stop
      | _ => none
  | .stopCleanupDone =>
      match node.stopCall, node.cleanupTask with
      | .awaitingCleanup, .ended (.raised exc) => some { node with stopCall := .raised exc }
      | .awaitingCleanup, .ended _ => some node.stopSessions
      | _, _ => none
  | .stopWait event =>
      match node.stopCall with
      | .terminating sweep =>
          (node.resumeSweep sweep event).map fun swept => swept.1.setStop swept.2
      | _ => none

end Node

end LiveChat.Core.SessionManager
