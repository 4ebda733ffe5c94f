import LiveChat.Core.IdleSweep
import LiveChat.Core.SessionResume

/-!
# Cancellations that are swallowed

`_terminate` and the `ACTIVITY_START` branch of the runner wait for a task that they cancelled,
and catch the `CancelledError` of that task.  When they are cancelled themselves at that await,
they catch their own one as well and go on.  `Deliveries` remembers who was told; the theorem
says when a task that was told starts nothing new.
-/

set_option autoImplicit false

namespace LiveChat.Core.GeminiRunner

/-- The runner waits for the receive task that it cancelled. -/
def Await.joins : Await → Bool
  | .joiningReceiver => true
  | _ => false

end LiveChat.Core.GeminiRunner

namespace LiveChat.Core.SessionManager

open LiveChat.Foundation.TransitionSystem
open LiveChat.Core.GeminiRunner

def CleanupTask.sleeps : CleanupTask → Bool
  | .sleeping => true
  | _ => false

def CleanupTask.sweeps : CleanupTask → Bool
  | .sweeping _ => true
  | _ => false

def CleanupTask.hasEnded : CleanupTask → Bool
  | .ended _ => true
  | _ => false

def StopCall.awaits : StopCall → Bool
  | .awaitingCleanup => true
  | _ => false

def NodeEvent.stops : NodeEvent → Bool
  | .stop => true
  | _ => false

/-- The runner that is resumed with `CancelledError`. -/
def NodeEvent.tells : NodeEvent → Option Nat
  | .runner index .cancelled => some index
  | _ => none

structure Deliveries where
  node : Node
  /-- `_cleanup_loop` was told. -/
  cleanup : Bool := false
  /-- The runners that were told. -/
  runners : List Nat := []

namespace Node

/-- The cleanup task resumes with `CancelledError`, or for the first time after `stop()`
cancelled the runner that it waits for in its place. -/
def delivers (node : Node) : NodeEvent → Bool
  | .cleanupCancelled => true
  | .cleanupWait _ => node.stopCall.awaits
  | _ => false

/-- `_cleanup_loop` comes back to its `sleep`, or wakes up from it. -/
def Iterates (node : Node) (event : NodeEvent) (next : Node) : Prop :=
  event = .cleanupWake ∨ node.cleanupTask.sleeps = false ∧ next.cleanupTask.sleeps = true

end Node

namespace Deliveries

def step (deliveries : Deliveries) (event : NodeEvent) : Option Deliveries :=
  (deliveries.node.step event).map fun next =>
    { node := next
      cleanup := deliveries.cleanup || deliveries.node.delivers event
      runners := deliveries.runners ++ event.tells.toList }

/-- Once it was told, `_cleanup_loop` starts no iteration. -/
def CleanupHeeds (deliveries : Deliveries) (event : NodeEvent) : Prop :=
  ∀ next, deliveries.step event = some next → next.cleanup = true →
    ¬ deliveries.node.Iterates event next.node

/-- Once it was told, a runner takes no frame. -/
def RunnersHeed (deliveries : Deliveries) (event : NodeEvent) : Prop :=
  ∀ index, event = .runner index .frame → index ∉ deliveries.runners

/-- `stop()` finds no sweep suspended in `_terminate`, and a runner is not told while it waits
for the receive task that it cancelled. -/
def ToldInTime (deliveries : Deliveries) (event : NodeEvent) : Prop :=
  (event.stops = true → deliveries.node.cleanupTask.sweeps = false) ∧
    ∀ index ∈ event.tells, ∀ runner ∈ deliveries.node.runners[index]?,
      runner.session.await.joins = false

instance (deliveries : Deliveries) (event : NodeEvent) :
    Decidable (deliveries.ToldInTime event) :=
  inferInstanceAs (Decidable (_ ∧ _))

end Deliveries

/-! ## The cleanup task -/

structure SameTasks (before after : Node) : Prop where
  cleanupTask : after.cleanupTask = before.cleanupTask
  cleanupCancelled : after.cleanupCancelled = before.cleanupCancelled
  stopCall : after.stopCall = before.stopCall

theorem sameTasks_of_dismisses {before after : Node} (dismisses : Dismisses before after) :
    SameTasks before after := by
  induction dismisses with
  | refl node => exact ⟨rfl, rfl, rfl⟩
  | popped node found => exact ⟨rfl, rfl, rfl⟩
  | cancelled node index => exact ⟨rfl, rfl, rfl⟩
  | trans _ _ front back =>
      exact ⟨back.cleanupTask.trans front.cleanupTask,
        back.cleanupCancelled.trans front.cleanupCancelled, back.stopCall.trans front.stopCall⟩

namespace Node

/-- A cancel request finds the cleanup task asleep, and `stop()` waits for it to end. -/
structure Asleep (node : Node) : Prop where
  cancelled : node.cleanupCancelled = true → node.cleanupTask = .sleeping
  awaited : node.stopCall.awaits = true →
    node.cleanupCancelled = true ∨ node.cleanupTask.hasEnded = true

theorem asleep_initial (clock : Clock) : Asleep (initial clock) := ⟨nofun, nofun⟩

theorem Asleep.of_same {node next : Node} (asleep : node.Asleep) (same : SameTasks node next) :
    next.Asleep :=
  ⟨by rw [same.cleanupCancelled, same.cleanupTask]; exact asleep.cancelled,
    by rw [same.stopCall, same.cleanupCancelled, same.cleanupTask]; exact asleep.awaited⟩

theorem Asleep.undisturbed {node : Node} (asleep : node.Asleep)
    (untold : node.cleanupCancelled = false) (works : node.cleanupTask.hasEnded = false) :
    node.stopCall.awaits = false := by
  refine Bool.eq_false_iff.mpr fun awaits => ?_
  rcases asleep.awaited awaits with told | ended
  · cases untold.symm.trans told
  · cases works.symm.trans ended

def EndsTold (node : Node) (event : NodeEvent) (next : Node) : Prop :=
  node.delivers event = true ∨ node.cleanupTask.hasEnded = true →
    next.cleanupTask.hasEnded = true

theorem asleep_same {node next : Node} {event : NodeEvent} (asleep : node.Asleep)
    (silent : node.delivers event = false) (same : SameTasks node next) :
    next.Asleep ∧ node.EndsTold event next := by
  refine ⟨asleep.of_same same, ?_⟩
  rintro (told | ended)
  · cases silent.symm.trans told
  · rw [same.cleanupTask]
    exact ended

theorem asleep_works {node middle : Node} {event : NodeEvent} (asleep : node.Asleep)
    (untold : node.cleanupCancelled = false) (works : node.cleanupTask.hasEnded = false)
    (told : node.delivers event = true → node.stopCall.awaits = true) (same : SameTasks node middle)
    (swept : Swept) :
    (middle.setCleanup swept).Asleep ∧ node.EndsTold event (middle.setCleanup swept) := by
  have quiet := asleep.undisturbed untold works
  have untold' : (middle.setCleanup swept).cleanupCancelled = false := by
    cases swept <;> exact same.cleanupCancelled.trans untold
  have quiet' : (middle.setCleanup swept).stopCall.awaits = false := by
    rw [← quiet, ← same.stopCall]
    cases swept <;> rfl
  refine ⟨⟨fun cancelled => ?_, fun awaits => ?_⟩, ?_⟩
  · cases untold'.symm.trans cancelled
  · cases quiet'.symm.trans awaits
  · rintro (delivered | ended)
    · cases quiet.symm.trans (told delivered)
    · cases works.symm.trans ended

theorem asleep_setStop {node middle : Node} {event : NodeEvent} (asleep : node.Asleep)
    (silent : node.delivers event = false) (same : SameTasks node middle) (swept : Swept) :
    (middle.setStop swept).Asleep ∧ node.EndsTold event (middle.setStop swept) := by
  have task : (middle.setStop swept).cleanupTask = node.cleanupTask := by
    rw [← same.cleanupTask]
    cases swept <;> rfl
  have cancelled : (middle.setStop swept).cleanupCancelled = node.cleanupCancelled := by
    rw [← same.cleanupCancelled]
    cases swept <;> rfl
  have past : (middle.setStop swept).stopCall.awaits = false := by
    cases swept <;> rfl
  refine ⟨⟨by rw [cancelled, task]; exact asleep.cancelled, fun awaits => ?_⟩, ?_⟩
  · cases past.symm.trans awaits
  · rintro (told | ended)
    · cases silent.symm.trans told
    · rw [task]
      exact ended

theorem asleep_stop {node : Node} (asleep : node.Asleep) (rests : node.cleanupTask.sweeps = false) :
    node.stop.Asleep ∧ node.EndsTold .stop node.stop := by
  unfold stop
  cases task : node.cleanupTask with
  | notStarted =>
      exact asleep_setStop asleep rfl
        (sameTasks_of_dismisses (dismisses_terminateAll node node.sessionIds)) _
  | sleeping =>
      simp only [cancelCleanup, task]
      refine ⟨⟨fun _ => rfl, fun _ => Or.inl rfl⟩, ?_⟩
      rintro (told | ended)
      · cases told
      · rw [task] at ended
        cases ended
  | sweeping sweep =>
      rw [task] at rests
      cases rests
  | ended outcome =>
      simp only [cancelCleanup, task]
      refine ⟨⟨fun cancelled => ?_, fun _ => Or.inr rfl⟩, fun _ => rfl⟩
      cases task.symm.trans (asleep.cancelled cancelled)

theorem asleep_step {node next : Node} {event : NodeEvent} (asleep : node.Asleep)
    (rests : event = .stop → node.cleanupTask.sweeps = false)
    (run : node.step event = some next) : next.Asleep ∧ node.EndsTold event next := by
  cases event with
  | tick elapsed utc =>
      cases run
      exact asleep_same asleep rfl ⟨rfl, rfl, rfl⟩
  | getOrCreate sessionId project apiKeyId =>
      cases run
      refine asleep_same asleep rfl ?_
      unfold getOrCreate
      split
      · exact ⟨rfl, rfl, rfl⟩
      · split <;> exact ⟨rfl, rfl, rfl⟩
  | runner index event =>
      simp only [step, stepRunner] at run
      split at run
      · cases run
      · obtain ⟨after, _, rfl⟩ := Option.map_eq_some_iff.mp run
        exact asleep_same asleep rfl ⟨rfl, rfl, rfl⟩
  | onRunnerDone sessionId runner =>
      simp only [step] at run
      split at run <;> cases run
      exact asleep_same asleep rfl ⟨rfl, rfl, rfl⟩
  | start =>
      simp only [step] at run
      split at run
      · rename_i task
        cases run
        refine ⟨⟨fun cancelled => ?_, fun awaits => ?_⟩, ?_⟩
        · cases task.symm.trans (asleep.cancelled cancelled)
        · rcases asleep.awaited awaits with cancelled | ended
          · exact Or.inl cancelled
          · rw [task] at ended
            cases ended
        · rintro (told | ended)
          · cases told
          · rw [task] at ended
            cases ended
      · cases run
  | cleanupWake =>
      simp only [step] at run
      split at run
      · rename_i task
        split at run
        · cases run
        · rename_i untold
          cases run
          exact asleep_works asleep (Bool.eq_false_iff.mpr untold) (by rw [task]; rfl)
            (fun told => by cases told)
            (sameTasks_of_dismisses (dismisses_terminateAll node node.stale)) _
      · cases run
  | cleanupWait event =>
      simp only [step] at run
      split at run
      · cases run
      · rename_i sweep event task differs
        split at run
        · cases run
        · rename_i untold
          obtain ⟨⟨middle, swept⟩, resumed, rfl⟩ := Option.map_eq_some_iff.mp run
          exact asleep_works asleep (Bool.eq_false_iff.mpr untold) (by rw [task]; rfl) id
            (sameTasks_of_dismisses (dismisses_resumeSweep resumed)) swept
      · cases run
  | cleanupCancelled =>
      simp only [step] at run
      split at run
      · rename_i told
        rw [asleep.cancelled told] at run
        cases run
        exact ⟨⟨by simp, fun _ => Or.inr rfl⟩, fun _ => rfl⟩
      · cases run
  | terminate sessionId =>
      have same := sameTasks_of_dismisses (dismisses_beginTerminate node sessionId)
      simp only [step] at run
      split at run
      · rename_i begun
        cases run
        rw [begun] at same
        exact asleep_same asleep rfl same
      · rename_i begun
        cases run
        rw [begun] at same
        exact asleep_same asleep rfl ⟨same.cleanupTask, same.cleanupCancelled, same.stopCall⟩
  | termination index event =>
      simp only [step] at run
      split at run
      · cases run
      · obtain ⟨⟨middle, swept⟩, resumed, rfl⟩ := Option.map_eq_some_iff.mp run
        have same := sameTasks_of_dismisses (dismisses_resumeSweep resumed)
        refine asleep_same asleep rfl ?_
        cases swept <;> exact ⟨same.cleanupTask, same.cleanupCancelled, same.stopCall⟩
  | stop =>
      simp only [step] at run
      split at run <;> cases run
      exact asleep_stop asleep (rests rfl)
  | stopCleanupDone =>
      simp only [step] at run
      split at run
      · cases run
        exact asleep_setStop asleep rfl ⟨rfl, rfl, rfl⟩ (.raised _)
      · cases run
        exact asleep_setStop asleep rfl
          (sameTasks_of_dismisses (dismisses_terminateAll node node.sessionIds)) _
      · cases run
  | stopWait event =>
      simp only [step] at run
      split at run
      · obtain ⟨⟨middle, swept⟩, resumed, rfl⟩ := Option.map_eq_some_iff.mp run
        exact asleep_setStop asleep rfl (sameTasks_of_dismisses (dismisses_resumeSweep resumed)) swept
      · cases run

end Node

/-! ## The runners -/

/-- Told anywhere but at the old receive task, a runner leaves its frame loop. -/
theorem hasLeftLoop_cancelled {session next : Session} {clock : Clock}
    (elsewhere : session.await.joins = false)
    (run : session.step (clock, .cancelled) = some next) : next.await.hasLeftLoop = true := by
  obtain ⟨progress, resumed, rfl⟩ := Session.step_settles run
  simp only [Session.resume, RunnerEvent.resumesRunner, Bool.false_eq_true, if_false] at resumed
  split at resumed
  · unfold Session.afterCancelled at resumed
    split at resumed
    · cases resumed
      rfl
    · cases resumed
      exact Session.hasLeftLoop_enterFinally _ clock
    · rename_i here
      rw [here] at elsewhere
      cases elsewhere
    · split at resumed <;> cases resumed
      rfl
    all_goals
      first
      | (cases resumed; rfl)
      | (cases resumed; exact Session.hasLeftLoop_enterFinally _ clock)
      | cases resumed
  · cases resumed

theorem inLoop_of_frame {session next : Session} {clock : Clock}
    (run : session.step (clock, .frame) = some next) : session.await.hasLeftLoop = false := by
  obtain ⟨progress, resumed, rfl⟩ := Session.step_settles run
  simp only [Session.resume, RunnerEvent.resumesRunner, if_true] at resumed
  split at resumed
  · cases resumed
  · simp only [Session.resumeRunner] at resumed
    split at resumed
    · rename_i here _
      rw [here]
      rfl
    · cases resumed

namespace Deliveries

structure Heedful (deliveries : Deliveries) : Prop where
  quiet : Quiet deliveries.node
  asleep : deliveries.node.Asleep
  ended : deliveries.cleanup = true → deliveries.node.cleanupTask.hasEnded = true
  left : ∀ index ∈ deliveries.runners, ∃ runner, deliveries.node.runners[index]? = some runner ∧
    runner.session.await.hasLeftLoop = true

theorem event_of_tells {event : NodeEvent} {index : Nat} (told : index ∈ event.tells) :
    event = .runner index .cancelled := by
  cases event with
  | runner place event =>
      cases event with
      | cancelled =>
          cases told
          rfl
      | _ => cases told
  | _ => cases told

theorem left_moved {node next : Node} {event : NodeEvent} (quiet : Quiet node)
    (moved : Node.Moved node event next) {index : Nat} {runner : Runner}
    (found : node.runners[index]? = some runner)
    (left : runner.session.await.hasLeftLoop = true) :
    ∃ after, next.runners[index]? = some after ∧ after.session.await.hasLeftLoop = true := by
  obtain ⟨after, found', undisturbed | ⟨_, _, stepped⟩⟩ := runner_of_moved moved found
  · exact ⟨after, found', by rw [undisturbed.await]; exact left⟩
  · exact ⟨after, found', Session.hasLeftLoop_step (quiet index runner found) left stepped⟩

theorem runner_stepped {node next : Node} {index : Nat} {event : RunnerEvent}
    (run : node.step (.runner index event) = some next) :
    ∃ runner after, node.runners[index]? = some runner ∧
      runner.session.step (node.clock, event) = some after ∧
      next.runners[index]? = some { runner with session := after } := by
  cases Node.step_moved run with
  | managed manages _ => cases manages
  | @advanced _ _ runner after found stepped =>
      exact ⟨runner, after, found, stepped, by simp [Node.advance, Node.updateSession, found]⟩

theorem told_before {deliveries : Deliveries} (heedful : deliveries.Heedful) {event : NodeEvent}
    (told : (deliveries.cleanup || deliveries.node.delivers event) = true) :
    deliveries.node.delivers event = true ∨ deliveries.node.cleanupTask.hasEnded = true := by
  rcases Bool.or_eq_true_iff.mp told with earlier | now
  · exact Or.inr (heedful.ended earlier)
  · exact Or.inl now

theorem not_iterates {node next : Node} {event : NodeEvent} (run : node.step event = some next)
    (told : node.delivers event = true ∨ node.cleanupTask.hasEnded = true)
    (ends : node.EndsTold event next) : ¬ node.Iterates event next := by
  rintro (rfl | ⟨_, sleeps⟩)
  · rcases told with delivered | ended
    · cases delivered
    · simp only [Node.step] at run
      split at run
      · rename_i task
        rw [task] at ended
        cases ended
      · cases run
  · have ended := ends told
    cases task : next.cleanupTask with
    | sleeping =>
        rw [task] at ended
        cases ended
    | notStarted | sweeping _ | ended _ =>
        rw [task] at sleeps
        cases sleeps

theorem heedful_step {deliveries next : Deliveries} {event : NodeEvent}
    (heedful : deliveries.Heedful) (inTime : deliveries.ToldInTime event)
    (run : deliveries.step event = some next) :
    (deliveries.CleanupHeeds event ∧ deliveries.RunnersHeed event) ∧ next.Heedful := by
  obtain ⟨node, stepped, same⟩ := Option.map_eq_some_iff.mp run
  have rests : event = .stop → deliveries.node.cleanupTask.sweeps = false := by
    rintro rfl
    exact inTime.1 rfl
  obtain ⟨asleep, ends⟩ := Node.asleep_step heedful.asleep rests stepped
  have moved := Node.step_moved stepped
  refine ⟨⟨?_, ?_⟩, ?_⟩
  · intro other run' told
    cases Option.some.inj (run.symm.trans run')
    subst same
    exact not_iterates stepped (told_before heedful told) ends
  · rintro index rfl member
    obtain ⟨runner, found, left⟩ := heedful.left index member
    obtain ⟨runner', after, found', stepped', _⟩ := runner_stepped stepped
    cases Option.some.inj (found.symm.trans found')
    cases left.symm.trans (inLoop_of_frame stepped')
  · subst same
    refine ⟨quiet_moved heedful.quiet moved, asleep, fun told => ends (told_before heedful told), ?_⟩
    intro index member
    have old : index ∈ deliveries.runners → ∃ runner, node.runners[index]? = some runner ∧
        runner.session.await.hasLeftLoop = true := by
      intro known
      obtain ⟨runner, found, left⟩ := heedful.left index known
      exact left_moved heedful.quiet moved found left
    rcases List.mem_append.mp member with known | new
    · exact old known
    · have told := Option.mem_toList.mp new
      have shape := event_of_tells told
      subst shape
      obtain ⟨runner, after, found, stepped', found'⟩ := runner_stepped stepped
      exact ⟨_, found', hasLeftLoop_cancelled (inTime.2 index told runner found) stepped'⟩

/-! ## Runs -/

def initial (clock : Clock) : Deliveries := { node := Node.initial clock }

/-- When `stop()` never finds a sweep suspended in `_terminate`, and no runner is told at its
old receive task, whoever is told starts nothing new. -/
theorem heeds_of_toldInTime (clock : Clock) (events : List NodeEvent)
    (inTime : Along step ToldInTime (initial clock) events) :
    Along step (fun deliveries event =>
      deliveries.CleanupHeeds event ∧ deliveries.RunnersHeed event) (initial clock) events := by
  refine along_of_along Heedful ?_ ⟨quiet_initial clock, Node.asleep_initial clock, nofun, ?_⟩ inTime
  · intro deliveries event next heedful met run
    exact heedful_step heedful met run
  · exact fun index member => absurd member List.not_mem_nil

def connected : List NodeEvent :=
  [.start, .getOrCreate "s" (Node.patientProject .pro "p") "key", .runner 0 (.start none),
    .runner 0 .connected]

/-- The runner does not end within two seconds, and is cancelled; then the node stops. -/
theorem heeds_inTurn :
    Along step (fun deliveries event =>
      deliveries.CleanupHeeds event ∧ deliveries.RunnersHeed event) (initial ⟨0, 0⟩)
      (connected ++ [.terminate "s", .termination 0 .timeout, .runner 0 .cancelled,
        .runner 0 .closed, .stop, .cleanupCancelled, .stopCleanupDone]) := by
  apply heeds_of_toldInTime
  decide

/-- The sweep waits for the runner of an idle session when `stop()` cancels it: it passes the
cancellation on to the runner, and goes back to sleep. -/
def stoppedInSweep : List NodeEvent :=
  connected ++ [.tick 301000000000 0, .cleanupWake, .stop, .cleanupCancelled,
    .runner 0 .cancelled, .runner 0 .closed, .runner 0 .insertExecuted,
    .runner 0 .insertReturned]

/-- A second `activity_start` cancels the receive task of the first; before that task has ended,
the runner is cancelled as well. -/
def cancelledInJoin : List NodeEvent :=
  connected ++ [.runner 0 (.putInbox .activityStart), .runner 0 .frame, .runner 0 .sent,
    .runner 0 (.putInbox .activityStart), .runner 0 .frame, .terminate "s",
    .termination 0 .timeout, .runner 0 .receiverCancelled, .runner 0 .cancelled, .runner 0 .sent]

/-- Neither task heeds a cancellation at such an await. -/
theorem heeds_fails :
    (¬ ∀ (clock : Clock) (events : List NodeEvent),
      Along step CleanupHeeds (initial clock) events) ∧
    ¬ ∀ (clock : Clock) (events : List NodeEvent),
      Along step RunnersHeed (initial clock) events := by
  constructor
  · intro along
    have told : (exec step (initial ⟨0, 0⟩) stoppedInSweep).map (fun deliveries =>
        deliveries.node.cleanupTask.sleeps) = some false := by decide
    have slept : (exec step (initial ⟨0, 0⟩) (stoppedInSweep ++ [.cleanupWait .runnerDone])).map
        (fun deliveries => (deliveries.cleanup, deliveries.node.cleanupTask.sleeps)) =
          some (true, true) := by decide
    obtain ⟨deliveries, run, awake⟩ := Option.map_eq_some_iff.mp told
    obtain ⟨next, run', look⟩ := Option.map_eq_some_iff.mp slept
    obtain ⟨delivered, sleeps⟩ := Prod.mk.inj look
    have stepped : deliveries.step (.cleanupWait .runnerDone) = some next := by
      rw [exec_append, run] at run'
      simpa using run'
    exact (along ⟨0, 0⟩ (stoppedInSweep ++ [.cleanupWait .runnerDone])).after run stepped next
      stepped delivered (Or.inr ⟨awake, sleeps⟩)
  · intro along
    have told : (exec step (initial ⟨0, 0⟩) cancelledInJoin).map Deliveries.runners =
        some [0] := by decide
    have heard : (exec step (initial ⟨0, 0⟩) (cancelledInJoin ++ [.runner 0 .frame])).isSome =
        true := by decide
    obtain ⟨deliveries, run, delivered⟩ := Option.map_eq_some_iff.mp told
    obtain ⟨next, run'⟩ := Option.isSome_iff_exists.mp heard
    have stepped : deliveries.step (.runner 0 .frame) = some next := by
      rw [exec_append, run] at run'
      simpa using run'
    have heeds := (along ⟨0, 0⟩ (cancelledInJoin ++ [.runner 0 .frame])).after run stepped 0 rfl
    rw [delivered] at heeds
    exact heeds List.mem_cons_self

end Deliveries

end LiveChat.Core.SessionManager
