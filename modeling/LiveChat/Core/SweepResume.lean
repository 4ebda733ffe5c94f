import LiveChat.Core.IdleSweep

/-!
# Sweeps and resumed sessions

`_cleanup_loop` decides under the lock which sessions are stale and terminates them later, by
their ids.  A client that resumes one of them in between, sends it a frame, or opens a new
session under its id, loses it.  The theorem says when a sweep terminates only sessions that
are idle by the sweep's own 300 seconds at that moment.
-/

set_option autoImplicit false

namespace LiveChat.Core.SessionManager

open LiveChat.Foundation.TransitionSystem
open LiveChat.Core.GeminiRunner

namespace Node

def pastSweep (node : Node) (session : Session) : Bool :=
  session.state.isIdle node.clock.monotonic 300

def SweepsIdle (node : Node) (event : NodeEvent) : Prop :=
  event.sweeps = true → ∀ next, node.step event = some next →
    ∀ (index : Nat) runner after, node.runners[index]? = some runner →
      next.runners[index]? = some after → runner.terminating = false →
      after.terminating = true → node.pastSweep runner.session = true

theorem stale_pastSweep {node : Node} {sessionId : String} (collected : sessionId ∈ node.stale) :
    node.PastLimit (fun _ => 300) sessionId := by
  obtain ⟨⟨_, index⟩, kept, rfl⟩ := List.mem_map.mp collected
  obtain ⟨entry, idle⟩ := List.mem_filter.mp kept
  intro other registered runner found
  have same : other = index := by
    have listed := AList.mem_lookup_iff.mpr (List.mem_reverse.mp entry)
    exact Option.some.inj (registered.symm.trans listed)
  subst same
  rw [Option.mem_def.mp found] at idle
  simpa using idle

/-- While the list of a suspended sweep is left alone, its sweeps terminate only sessions that
are idle by then. -/
theorem sweepsIdle_of_leavesListed (clock : Clock) (events : List NodeEvent)
    (leaves : Along step LeavesListed (initial clock) events) :
    Along step SweepsIdle (initial clock) events := by
  let idle := fun node : Node =>
    ∀ sessionId ∈ node.sweepList, node.PastLimit (fun _ => 300) sessionId
  refine along_of_along (fun node => Formed node ∧ idle node) ?_
    ⟨formed_initial clock, fun _ member => absurd member List.not_mem_nil⟩ leaves
  rintro node event next ⟨formed, listed⟩ met run
  obtain ⟨past, listed'⟩ :=
    pastLimit_moved formed listed (fun _ _ collected => stale_pastSweep collected) met run
  refine ⟨fun sweeps other run' => ?_, formed_moved formed (step_moved run), listed'⟩
  cases Option.some.inj (run.symm.trans run')
  exact past sweeps

/-- Two sessions of which nobody hears for 301 seconds; the sweep finds both and waits for the
runner of the first. -/
def sweepOfTwo : List NodeEvent :=
  [.start, .getOrCreate "s" (patientProject .pro "p") "key",
    .getOrCreate "r" (patientProject .pro "q") "key", .runner 0 (.start none),
    .runner 0 .connected, .runner 1 (.start none), .runner 1 .connected, .tick 301000000000 0,
    .cleanupWake]

def firstRunnerEnds : List NodeEvent :=
  [.runner 0 .frame, .runner 0 .closed, .runner 0 .insertExecuted, .runner 0 .insertReturned,
    .cleanupWait .runnerDone]

theorem sweepsIdle_twoSilent :
    Along step SweepsIdle (initial ⟨0, 0⟩) (sweepOfTwo ++ firstRunnerEnds) := by
  apply sweepsIdle_of_leavesListed
  decide

theorem sweepsIdle_fails :
    ¬ ∀ (clock : Clock) (events : List NodeEvent),
      Along step SweepsIdle (initial clock) events := by
  intro along
  let front := sweepOfTwo ++ [.getOrCreate "r" (patientProject .pro "q") "key"] ++
    firstRunnerEnds.dropLast
  have shape : (exec step (initial ⟨0, 0⟩) front).map (fun node =>
      (node.runners[1]?).map fun runner => (runner.terminating, node.pastSweep runner.session)) =
        some (some (false, false)) := by decide
  have swept : (exec step (initial ⟨0, 0⟩) (front ++ [.cleanupWait .runnerDone])).map
      (fun node => (node.runners[1]?).map fun runner => runner.terminating) =
        some (some true) := by decide
  obtain ⟨node, run, look⟩ := Option.map_eq_some_iff.mp shape
  obtain ⟨runner, found, facts⟩ := Option.map_eq_some_iff.mp look
  obtain ⟨live, resumed⟩ := Prod.mk.inj facts
  obtain ⟨next, run', look'⟩ := Option.map_eq_some_iff.mp swept
  obtain ⟨after, found', dismissed⟩ := Option.map_eq_some_iff.mp look'
  have stepped : node.step (.cleanupWait .runnerDone) = some next := by
    rw [exec_append, run] at run'
    simpa using run'
  have idle := (along ⟨0, 0⟩ (front ++ [.cleanupWait .runnerDone])).after run stepped rfl next
    stepped 1 runner after found found' live dismissed
  exact absurd (resumed.symm.trans idle) (by decide)

end Node

end LiveChat.Core.SessionManager
