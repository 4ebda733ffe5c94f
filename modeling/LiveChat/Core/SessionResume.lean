import LiveChat.Foundation.WorkerRegistry
import LiveChat.Core.RunnerShutdown
import LiveChat.Core.SessionRegistry

/-!
# Resuming a session

`get_or_create` returns whatever is registered under the id.  Between the moment a
runner leaves its frame loop and the moment its callback removes the state there are
several awaits: the close of the Gemini connection, the insert of the record, the
scheduling of the callback.  The theorem says that these are exactly the moments at
which a client gets a session that nobody serves any more.
-/

set_option autoImplicit false

namespace LiveChat.Core.GeminiRunner

open LiveChat.Foundation

/-- Past the frame loop: closing the connection, recording the session, or done. -/
def Await.hasLeftLoop : Await → Bool
  | .closing _ | .recording _ _ | .done _ => true
  | _ => false

/-- Past the frame loop, and not done. -/
def Await.inShutdown : Await → Bool
  | .closing _ | .recording _ _ => true
  | _ => false

namespace Session

/-- The runner serves the session or is about to, and has placed no sentinel. -/
def InLoop (session : Session) : Prop :=
  session.await.hasLeftLoop = false ∧ OutboxItem.stop ∉ session.state.outbox.accepted

theorem inLoop_iff {session : Session} (unreleased : session.Unreleased) :
    session.InLoop ↔ session.await.inShutdown = false ∧ session.isDone = false := by
  constructor
  · rintro ⟨serving, _⟩
    cases here : session.await <;> simp_all [Await.hasLeftLoop, Await.inShutdown, isDone]
  · rintro ⟨open', live⟩
    refine ⟨?_, unreleased live⟩
    cases here : session.await <;> simp_all [Await.hasLeftLoop, Await.inShutdown, isDone]

theorem hasLeftLoop_enterFinally (session : Session) (clock : Clock) :
    (settle (session.enterFinally clock)).await.hasLeftLoop = true := by
  rw [settle_enterFinally]
  split <;> rfl

theorem resumeRunner_closing {session : Session} {clock : Clock} {event : RunnerEvent} {exit : Exit}
    {progress : Progress} (here : session.await = .closing exit)
    (run : session.resumeRunner clock event = some progress) :
    ∃ last : Session, progress = last.enterFinally clock := by
  cases event with
  | closed =>
      simp only [resumeRunner, here] at run
      cases run
      cases exit <;> exact ⟨_, rfl⟩
  | failed exc =>
      simp only [resumeRunner, afterFailed, here] at run
      cases run
      exact ⟨_, rfl⟩
  | start setupError => cases setupError <;> simp [resumeRunner, here] at run
  | fault exc => simp [resumeRunner, inBody, here] at run
  | sent => simp [resumeRunner, afterSent, here] at run
  | receiverDone => simp [resumeRunner, afterReceiver, here] at run
  | _ => simp [resumeRunner, here] at run

theorem surround_closing {session next : Session} {clock : Clock} {event : RunnerEvent} {exit : Exit}
    (here : session.await = .closing exit) (run : session.surround clock event = some next) :
    next.await = .closing exit := by
  cases event with
  | requestCancel =>
      cases run
      simp [requestCancel, here]
  | receive event =>
      simp only [surround] at run
      split at run
      · split at run <;> cases run <;> exact here
      · cases run
  | receiverCancelled =>
      simp only [surround] at run
      split at run <;> cases run
      exact here
  | insertExecuted => simp [surround, here] at run
  | takeOutbox =>
      obtain ⟨taken, got, rfl⟩ := Option.map_eq_some_iff.mp run
      exact here
  | putInbox frame =>
      cases run
      exact here
  | touch =>
      cases run
      exact here
  | _ => cases run

theorem hasLeftLoop_closing {session : Session} {clock : Clock} {event : RunnerEvent} {exit : Exit}
    {progress : Progress} (here : session.await = .closing exit)
    (run : session.resume clock event = some progress) :
    (settle progress).await.hasLeftLoop = true := by
  unfold resume at run
  split at run
  · split at run
    · cases run
    · obtain ⟨last, rfl⟩ := resumeRunner_closing here run
      exact hasLeftLoop_enterFinally last clock
  · split at run
    · split at run
      · simp only [afterCancelled, here] at run
        cases run
        exact hasLeftLoop_enterFinally _ clock
      · cases run
    · obtain ⟨next, stepped, rfl⟩ := Option.map_eq_some_iff.mp run
      simp only [settle, surround_closing here stepped]
      rfl

theorem hasLeftLoop_step {session next : Session} {clock : Clock} {event : RunnerEvent}
    (quiet : session.Quiet) (left : session.await.hasLeftLoop = true)
    (run : session.step (clock, event) = some next) : next.await.hasLeftLoop = true := by
  obtain ⟨progress, resumed, rfl⟩ := step_settles run
  cases here : session.await with
  | closing exit => exact hasLeftLoop_closing here resumed
  | recording doc executed =>
      cases resume_moved quiet resumed with
      | inside before stays after evolves => simp [here, Await.inTry] at before
      | left moment before leaves evolves outbox => exact hasLeftLoop_enterFinally _ _
      | around before surrounds await evolves stopped counters accepted =>
          simp only [settle, await, here]
          rfl
      | entered here' => simp [here] at here'
      | setupRaised exc here' => rfl
      | neverStarted here' moved => simp [here] at here'
      | inserted doc here' => rfl
      | insertReturned doc here' => rfl
      | insertFailed doc here' => rfl
      | interrupted doc executed here' moved =>
          subst moved
          rfl
  | done outcome =>
      have done : session.isDone = true := by simp [isDone, here]
      rw [(done_step quiet done run).1, here]
      rfl
  | _ => simp [here, Await.hasLeftLoop] at left

end Session

end LiveChat.Core.GeminiRunner

namespace LiveChat.Core.SessionManager.Node

open LiveChat.Foundation
open LiveChat.Foundation.TransitionSystem
open LiveChat.Core.GeminiRunner

/-- A call that returns a registered state returns one whose runner is in its loop. -/
def ResumesLive (node : Node) : NodeEvent → Prop
  | .getOrCreate sessionId _ _ => ∀ index ∈ node.sessions.lookup sessionId,
      ∀ runner ∈ node.runners[index]?, runner.session.InLoop
  | _ => True

/-- The runner registered under the id of the call is not closing its connection or
recording its session, and its end was not left to a callback that did not run yet. -/
def ResumesInTime (node : Node) : NodeEvent → Prop
  | .getOrCreate sessionId _ _ => ∀ index ∈ node.sessions.lookup sessionId,
      (sessionId, index) ∉ node.callbacks ∧
        ∀ runner ∈ node.runners[index]?, runner.session.await.inShutdown = false
  | _ => True

/-- What carries the theorem through a run. -/
structure Resumable (node : Node) : Prop where
  formed : Formed node
  awaited : WorkerRegistry.Awaited node.view
  unreleased : ∀ (index : Nat) runner, node.runners[index]? = some runner →
    runner.session.Unreleased

theorem resumable_initial (clock : Clock) : Resumable (initial clock) := by
  refine ⟨formed_initial clock, WorkerRegistry.awaited_empty, ?_⟩
  intro index runner found
  simp [initial] at found

theorem awaited_moved {node next : Node} {event : NodeEvent} (formed : Formed node)
    (awaited : WorkerRegistry.Awaited node.view) (moved : Moved node event next) :
    WorkerRegistry.Awaited next.view := by
  rcases view_moved formed.1 moved with
    ⟨sessionId, project, _, _, creates, shape⟩ | ⟨_, schedule, _, run⟩
  · have free : node.view.entries.lookup sessionId = none := creates.1
    have hires : WorkerRegistry.step node.view (.hire sessionId project.projectId) =
        some (WorkerRegistry.hire node.view sessionId project.projectId) := by
      simp [WorkerRegistry.step, free]
    rw [shape]
    exact WorkerRegistry.awaited_step formed.2 awaited hires
  · exact WorkerRegistry.awaited_exec formed.2 awaited run

theorem unreleased_moved {node next : Node} {event : NodeEvent} (quiet : Quiet node)
    (unreleased : ∀ (index : Nat) runner, node.runners[index]? = some runner →
      runner.session.Unreleased)
    (moved : Moved node event next) {index : Nat} {after : Runner}
    (found : next.runners[index]? = some after) : after.session.Unreleased := by
  rcases runner_before_moved moved found with ⟨before, found'⟩ | ⟨_, _, _, _, rfl⟩
  · obtain ⟨after', same, kept⟩ := runner_of_moved moved found'
    cases Option.some.inj (same.symm.trans found)
    have earlier := unreleased index before found'
    rcases kept with undisturbed | ⟨stepped, _, run⟩
    · intro live
      rw [undisturbed.accepted]
      exact earlier (undisturbed.isDone.symm.trans live)
    · exact Session.unreleased_step (quiet index before found') earlier run
  · exact Session.unreleased_spawn _ _ _ _ _

theorem resumable_moved {node next : Node} {event : NodeEvent} (resumable : Resumable node)
    (moved : Moved node event next) : Resumable next :=
  ⟨formed_moved resumable.formed moved, awaited_moved resumable.formed resumable.awaited moved,
    fun _ _ found => unreleased_moved resumable.formed.1 resumable.unreleased moved found⟩

/-- A registered runner is done exactly as long as its callback waits. -/
theorem registered_done_iff {node : Node} (resumable : Resumable node) {sessionId : String}
    {index : Nat} {runner : Runner} (entry : node.sessions.lookup sessionId = some index)
    (found : node.runners[index]? = some runner) :
    runner.session.isDone = true ↔ (sessionId, index) ∈ node.callbacks := by
  constructor
  · intro done
    exact resumable.awaited sessionId index _ entry (view_worker.mpr ⟨runner, found, rfl⟩)
      (by simp [Runner.worker, done])
  · intro waiting
    obtain ⟨worker, listed, _, stopped⟩ := resumable.formed.2.pending sessionId index waiting
    obtain ⟨runner', found', rfl⟩ := view_worker.mp listed
    cases Option.some.inj (found.symm.trans found')
    simpa [Runner.worker] using stopped

/-- Every resumed session of a run is in its frame loop, if and only if no client comes
back between the exit of the loop and the removal of the state. -/
theorem resumesLive_iff (clock : Clock) (events : List NodeEvent) :
    Along step ResumesLive (initial clock) events ↔
      Along step ResumesInTime (initial clock) events := by
  refine along_congr Resumable ?_ ?_ (resumable_initial clock)
  · intro node event next resumable run
    cases event with
    | getOrCreate sessionId project apiKeyId =>
        simp only [ResumesLive, ResumesInTime]
        refine forall_congr' fun index => forall_congr' fun entry => ?_
        have entry' := Option.mem_def.mp entry
        obtain ⟨worker, listed, _⟩ := resumable.formed.2.entries sessionId index entry'
        obtain ⟨runner, found, _⟩ := view_worker.mp listed
        have done := registered_done_iff resumable entry' found
        have inLoop := Session.inLoop_iff (resumable.unreleased index runner found)
        simp only [found, Option.mem_def, Option.some.injEq, forall_eq', inLoop, ← done,
          Bool.not_eq_true]
        exact And.comm
    | _ => exact Iff.rfl
  · exact fun node event next resumable run => resumable_moved resumable (step_moved run)

/-- The client stops its session and comes back while the connection to Gemini is being
closed. -/
theorem resumesLive_fails :
    ¬ ∀ (clock : Clock) (events : List NodeEvent),
      Along step ResumesLive (initial clock) events := by
  intro along
  let front : List NodeEvent :=
    [.getOrCreate "s" (soloProject "p") "key", .runner 0 (.start none), .runner 0 .connected,
      .runner 0 (.putInbox .stop), .runner 0 .frame]
  have shape : (exec step (initial ⟨0, 0⟩) front).map (fun node =>
      (node.sessions.lookup "s", (node.runners[0]?).map fun runner =>
        runner.session.await.hasLeftLoop)) = some (some 0, some true) := by decide
  obtain ⟨node, run, facts⟩ := Option.map_eq_some_iff.mp shape
  obtain ⟨entry, look⟩ := Prod.mk.inj facts
  obtain ⟨runner, found, left⟩ := Option.map_eq_some_iff.mp look
  have inLoop := (along ⟨0, 0⟩ (front ++ [.getOrCreate "s" (soloProject "p") "key"])).after run rfl
    0 entry runner found
  exact absurd (left.symm.trans inLoop.1) (by decide)

end LiveChat.Core.SessionManager.Node
