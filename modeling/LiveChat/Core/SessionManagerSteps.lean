import LiveChat.Foundation.Places
import LiveChat.Core.RunnerSteps
import LiveChat.Core.SessionManager

/-!
# What a step of the session manager can do

Apart from creating, resuming, runner steps and callbacks, everything the manager
does is a sequence of three moves: pop a state for termination, cancel a runner,
change the manager's own tasks.  `Managed` is that sequence, with its order in `works_step`;
`step_moved` sorts the steps of a node, and the invariants of later modules are proved along
the two.
-/

set_option autoImplicit false

namespace LiveChat.Core.SessionManager

open LiveChat.Foundation
open LiveChat.Core.GeminiRunner

/-- The fields that the moves of the manager's own tasks leave alone. -/
structure SameRegistry (before after : Node) : Prop where
  runners : after.runners = before.runners
  sessions : after.sessions = before.sessions
  callbacks : after.callbacks = before.callbacks
  attachments : after.attachments = before.attachments
  records : after.records = before.records

inductive Managed : Node → Node → Prop where
  | own {before after : Node} : SameRegistry before after → Managed before after
  | popped (node : Node) {sessionId : String} {index : Nat} :
      node.sessions.lookup sessionId = some index → Managed node (node.pop sessionId index)
  | cancelled (node : Node) (index : Nat) :
      Managed node (node.updateSession index Session.requestCancel)
  | trans {first second third : Node} : Managed first second → Managed second third →
      Managed first third

theorem Managed.refl (node : Node) : Managed node node := .own ⟨rfl, rfl, rfl, rfl, rfl⟩

/-- Steps of the manager's own tasks, of `_terminate` and `stop` among them. -/
def NodeEvent.manages : NodeEvent → Bool
  | .getOrCreate .. | .runner .. | .onRunnerDone .. => false
  | _ => true

/-- Sessions popped for termination and runners cancelled, in any order. -/
inductive Dismisses : Node → Node → Prop where
  | refl (node : Node) : Dismisses node node
  | popped (node : Node) {sessionId : String} {index : Nat} :
      node.sessions.lookup sessionId = some index → Dismisses node (node.pop sessionId index)
  | cancelled (node : Node) (index : Nat) :
      Dismisses node (node.updateSession index Session.requestCancel)
  | trans {first second third : Node} : Dismisses first second → Dismisses second third →
      Dismisses first third

theorem Dismisses.managed {before after : Node} (dismisses : Dismisses before after) :
    Managed before after := by
  induction dismisses with
  | refl node => exact .refl node
  | popped node found => exact .popped node found
  | cancelled node index => exact .cancelled node index
  | trans _ _ front back => exact front.trans back

theorem Dismisses.clock {before after : Node} (dismisses : Dismisses before after) :
    after.clock = before.clock := by
  induction dismisses with
  | trans _ _ front back => exact back.trans front
  | _ => rfl

/-- The manager changes nothing but its own tasks. -/
structure Bookkeeps (before after : Node) : Prop extends SameRegistry before after where
  clock : after.clock = before.clock

theorem Bookkeeps.refl (node : Node) : Bookkeeps node node := ⟨⟨rfl, rfl, rfl, rfl, rfl⟩, rfl⟩

/-- A task of the manager dismisses sessions, and keeps its books before and after. -/
def Works (before after : Node) : Prop :=
  ∃ front back, Bookkeeps before front ∧ Dismisses front back ∧ Bookkeeps back after

theorem Works.managed {before after : Node} (works : Works before after) :
    Managed before after := by
  obtain ⟨front, back, opened, dismisses, closed⟩ := works
  have begun : Managed before front := .own opened.toSameRegistry
  exact (begun.trans dismisses.managed).trans (.own closed.toSameRegistry)

theorem Works.clock {before after : Node} (works : Works before after) :
    after.clock = before.clock := by
  obtain ⟨front, back, opened, dismisses, closed⟩ := works
  exact closed.clock.trans (dismisses.clock.trans opened.clock)

/-- The books are kept afterwards. -/
theorem Works.of_dismisses {before middle after : Node} (dismisses : Dismisses before middle)
    (closed : Bookkeeps middle after) : Works before after :=
  ⟨before, middle, .refl before, dismisses, closed⟩

theorem Works.of_bookkeeps {before after : Node} (closed : Bookkeeps before after) :
    Works before after := .of_dismisses (.refl before) closed

namespace Node

theorem dismisses_beginTerminate (node : Node) (sessionId : String) :
    Dismisses node (node.beginTerminate sessionId).1 := by
  simp only [beginTerminate]
  split
  · exact .refl node
  · rename_i index found
    split <;> exact .popped node found

theorem dismisses_terminateAll (node : Node) (sessionIds : List String) :
    Dismisses node (node.terminateAll sessionIds).1 := by
  induction sessionIds generalizing node with
  | nil => exact .refl node
  | cons sessionId rest ih =>
      have first := dismisses_beginTerminate node sessionId
      simp only [terminateAll]
      split
      · rename_i begun
        rw [begun] at first
        exact first.trans (ih _)
      · rename_i begun
        rw [begun] at first
        exact first

theorem dismisses_resumeWait {node next : Node} {wait : Wait} {event : WaitEvent}
    {terminated : Terminated} (run : node.resumeWait wait event = some (next, terminated)) :
    Dismisses node next := by
  cases wait with
  | shielded index =>
      cases event with
      | runnerDone =>
          simp only [resumeWait] at run
          split at run
          · cases run
          · cases run
            exact .refl node
          · cases run
            exact .refl node
          · cases run
            exact .cancelled node index
      | timeout =>
          cases run
          exact .cancelled node index
      | cancelled =>
          cases run
          exact .cancelled node index
  | joining index =>
      cases event with
      | runnerDone =>
          simp only [resumeWait] at run
          split at run
          · cases run
          · cases run
            exact .refl node
      | timeout => cases run
      | cancelled =>
          cases run
          exact .cancelled node index

theorem dismisses_resumeSweep {node next : Node} {sweep : Sweep} {event : WaitEvent}
    {swept : Swept} (run : node.resumeSweep sweep event = some (next, swept)) :
    Dismisses node next := by
  simp only [resumeSweep] at run
  split at run
  · cases run
  · rename_i waited
    cases run
    exact dismisses_resumeWait waited
  · rename_i middle waited
    cases run
    exact (dismisses_resumeWait waited).trans (dismisses_terminateAll middle sweep.rest)
  · rename_i waited
    cases run
    exact dismisses_resumeWait waited

theorem bookkeeps_setCleanup (node : Node) (swept : Swept) :
    Bookkeeps node (node.setCleanup swept) := by
  cases swept <;> exact ⟨⟨rfl, rfl, rfl, rfl, rfl⟩, rfl⟩

theorem bookkeeps_setStop (node : Node) (swept : Swept) : Bookkeeps node (node.setStop swept) := by
  cases swept <;> exact ⟨⟨rfl, rfl, rfl, rfl, rfl⟩, rfl⟩

theorem bookkeeps_setTermination (node : Node) (index : Nat) (swept : Swept) :
    Bookkeeps node (node.setTermination index swept) := by
  cases swept <;> exact ⟨⟨rfl, rfl, rfl, rfl, rfl⟩, rfl⟩

theorem works_stopSessions (node : Node) : Works node node.stopSessions :=
  .of_dismisses (dismisses_terminateAll node node.sessionIds) (bookkeeps_setStop _ _)

theorem works_stop (node : Node) : Works node node.stop := by
  unfold stop
  split
  · exact works_stopSessions node
  · unfold cancelCleanup
    split
    · exact .of_bookkeeps ⟨⟨rfl, rfl, rfl, rfl, rfl⟩, rfl⟩
    · exact .of_bookkeeps ⟨⟨rfl, rfl, rfl, rfl, rfl⟩, rfl⟩
    · exact .of_dismisses (.cancelled node _) ⟨⟨rfl, rfl, rfl, rfl, rfl⟩, rfl⟩
    · exact .of_bookkeeps ⟨⟨rfl, rfl, rfl, rfl, rfl⟩, rfl⟩
    · exact .of_bookkeeps ⟨⟨rfl, rfl, rfl, rfl, rfl⟩, rfl⟩

/-- The manager's own steps, other than ticks. -/
theorem works_step {node next : Node} {event : NodeEvent} (manages : event.manages = true)
    (untimed : ∀ elapsed utc, event ≠ .tick elapsed utc) (run : node.step event = some next) :
    Works node next := by
  cases event with
  | tick elapsed utc => exact absurd rfl (untimed elapsed utc)
  | start =>
      simp only [step] at run
      split at run
      · cases run
        exact .of_bookkeeps ⟨⟨rfl, rfl, rfl, rfl, rfl⟩, rfl⟩
      · cases run
  | cleanupWake =>
      simp only [step] at run
      split at run
      · split at run
        · cases run
        · cases run
          exact .of_dismisses (dismisses_terminateAll node node.stale) (bookkeeps_setCleanup _ _)
      · cases run
  | cleanupWait event =>
      simp only [step] at run
      split at run
      · cases run
      · split at run
        · cases run
        · obtain ⟨⟨middle, swept⟩, resumed, rfl⟩ := Option.map_eq_some_iff.mp run
          exact .of_dismisses (dismisses_resumeSweep resumed) (bookkeeps_setCleanup _ _)
      · cases run
  | cleanupCancelled =>
      simp only [step] at run
      split at run
      · split at run
        · cases run
          exact .of_bookkeeps ⟨⟨rfl, rfl, rfl, rfl, rfl⟩, rfl⟩
        · obtain ⟨⟨middle, swept⟩, resumed, rfl⟩ := Option.map_eq_some_iff.mp run
          -- the cancellation is delivered before the sweep takes it
          exact ⟨{ node with cleanupCancelled := false }, middle, ⟨⟨rfl, rfl, rfl, rfl, rfl⟩, rfl⟩,
            dismisses_resumeSweep resumed, bookkeeps_setCleanup _ _⟩
        · cases run
      · cases run
  | terminate sessionId =>
      have begun := dismisses_beginTerminate node sessionId
      simp only [step] at run
      split at run
      · rename_i started
        cases run
        rw [started] at begun
        exact .of_dismisses begun (.refl _)
      · rename_i started
        cases run
        rw [started] at begun
        exact .of_dismisses begun ⟨⟨rfl, rfl, rfl, rfl, rfl⟩, rfl⟩
  | termination index event =>
      simp only [step] at run
      split at run
      · cases run
      · obtain ⟨⟨middle, swept⟩, resumed, rfl⟩ := Option.map_eq_some_iff.mp run
        exact .of_dismisses (dismisses_resumeSweep resumed) (bookkeeps_setTermination _ _ _)
  | stop =>
      simp only [step] at run
      split at run
      · cases run
        exact works_stop node
      · cases run
  | stopCleanupDone =>
      simp only [step] at run
      split at run
      · cases run
        exact .of_bookkeeps ⟨⟨rfl, rfl, rfl, rfl, rfl⟩, rfl⟩
      · cases run
        exact works_stopSessions node
      · cases run
  | stopWait event =>
      simp only [step] at run
      split at run
      · obtain ⟨⟨middle, swept⟩, resumed, rfl⟩ := Option.map_eq_some_iff.mp run
        exact .of_dismisses (dismisses_resumeSweep resumed) (bookkeeps_setStop _ _)
      · cases run
  | _ => cases manages

/-- The steps of a node. -/
inductive Moved (node : Node) : NodeEvent → Node → Prop where
  | managed {event : NodeEvent} {next : Node} (manages : event.manages = true) :
      Managed node next → Moved node event next
  | resumed {sessionId : String} {project : ProjectConfig} {apiKeyId : String} {index : Nat} :
      node.sessions.lookup sessionId = some index →
      Moved node (.getOrCreate sessionId project apiKeyId)
        ((node.touchSession index).attach project index)
  | refused {sessionId : String} {project : ProjectConfig} {apiKeyId : String} :
      node.sessions.lookup sessionId = none →
      project.maxConcurrentSessions ≤ node.projectSessionCount project.projectId →
      Moved node (.getOrCreate sessionId project apiKeyId) node
  | created {sessionId : String} {project : ProjectConfig} {apiKeyId : String} :
      node.sessions.lookup sessionId = none →
      node.projectSessionCount project.projectId < project.maxConcurrentSessions →
      Moved node (.getOrCreate sessionId project apiKeyId)
        ((node.create sessionId project apiKeyId).attach project node.runners.length)
  | advanced {index : Nat} {event : RunnerEvent} {runner : Runner} {after : Session} :
      node.runners[index]? = some runner →
      runner.session.step (node.clock, event) = some after →
      Moved node (.runner index event) (node.advance index runner.session after event)
  | collected {sessionId : String} {runner : Nat} : (sessionId, runner) ∈ node.callbacks →
      Moved node (.onRunnerDone sessionId runner) (node.onRunnerDone sessionId runner)

theorem moved_getOrCreate (node : Node) (sessionId : String) (project : ProjectConfig)
    (apiKeyId : String) :
    Moved node (.getOrCreate sessionId project apiKeyId)
      (node.getOrCreate sessionId project apiKeyId) := by
  simp only [getOrCreate]
  split
  · rename_i index found
    exact .resumed found
  · rename_i free
    split
    · rename_i full
      exact .refused free full
    · rename_i room
      exact .created free (Nat.lt_of_not_le room)

theorem moved_stepRunner {node next : Node} {index : Nat} {event : RunnerEvent}
    (run : node.stepRunner index event = some next) : Moved node (.runner index event) next := by
  simp only [stepRunner] at run
  split at run
  · cases run
  · rename_i runner found
    obtain ⟨after, stepped, rfl⟩ := Option.map_eq_some_iff.mp run
    exact .advanced found stepped

/-- Every step of a node is one of the `Moved` steps. -/
theorem step_moved {node next : Node} {event : NodeEvent} (run : node.step event = some next) :
    Moved node event next := by
  cases event with
  | getOrCreate sessionId project apiKeyId =>
      cases run
      exact moved_getOrCreate node sessionId project apiKeyId
  | runner index event => exact moved_stepRunner run
  | onRunnerDone sessionId runner =>
      simp only [step] at run
      split at run
      · rename_i waiting
        cases run
        exact .collected waiting
      · cases run
  | tick elapsed utc =>
      cases run
      exact .managed rfl (.own ⟨rfl, rfl, rfl, rfl, rfl⟩)
  | _ => exact .managed rfl (works_step rfl (fun _ _ same => by cases same) run).managed

end Node

/-! ## The runners through a step -/

/-- What the manager and the clients do to a session: its runner stays at its
await, and what it will record and has sent stays the same. -/
structure Undisturbed (before after : Session) : Prop where
  same : Session.SameSession before after
  await : after.await = before.await
  counters : after.state.counters = before.state.counters
  accepted : after.state.outbox.accepted = before.state.outbox.accepted
  quiet : before.Quiet → after.Quiet

theorem Undisturbed.refl (session : Session) : Undisturbed session session :=
  ⟨⟨rfl, rfl, rfl, rfl⟩, rfl, rfl, rfl, id⟩

theorem Undisturbed.trans {first second third : Session} (front : Undisturbed first second)
    (back : Undisturbed second third) : Undisturbed first third where
  same := ⟨back.same.sessionId.trans front.same.sessionId,
    back.same.projectId.trans front.same.projectId,
    back.same.project.trans front.same.project,
    back.same.sessionRepo.trans front.same.sessionRepo⟩
  await := back.await.trans front.await
  counters := back.counters.trans front.counters
  accepted := back.accepted.trans front.accepted
  quiet := fun quiet => back.quiet (front.quiet quiet)

theorem Undisturbed.isDone {before after : Session} (undisturbed : Undisturbed before after) :
    after.isDone = before.isDone := by
  simp only [Session.isDone, undisturbed.await]

theorem requestCancel_undisturbed (session : Session) :
    Undisturbed session session.requestCancel := by
  simp only [Session.requestCancel]
  split
  · exact Undisturbed.refl session
  · exact ⟨⟨rfl, rfl, rfl, rfl⟩, rfl, rfl, rfl,
      fun _ _ => Session.enterFinally_quiet session⟩
  · exact ⟨⟨rfl, rfl, rfl, rfl⟩, rfl, rfl, rfl,
      fun _ _ => Session.enterFinally_quiet session⟩
  · exact ⟨⟨rfl, rfl, rfl, rfl⟩, rfl, rfl, rfl, id⟩

theorem touch_undisturbed (session : Session) (now : Instant) :
    Undisturbed session { session with state := session.state.touch now } :=
  ⟨⟨rfl, rfl, rfl, rfl⟩, rfl, rfl, rfl, id⟩

theorem putStop_undisturbed (session : Session) :
    Undisturbed session { session with
      state := { session.state with inbox := session.state.inbox.offer .stop } } :=
  ⟨⟨rfl, rfl, rfl, rfl⟩, rfl, rfl, rfl, id⟩

/-- The runner at each place is the same task, undisturbed. -/
structure Follows (node next : Node) : Prop where
  length : next.runners.length = node.runners.length
  undisturbed : ∀ (index : Nat) before, node.runners[index]? = some before →
    ∃ after, next.runners[index]? = some after ∧ Undisturbed before.session after.session

theorem Follows.of_runners {node next : Node} (same : next.runners = node.runners) :
    Follows node next :=
  ⟨by rw [same], fun _ before found => ⟨before, by rw [same, found], Undisturbed.refl _⟩⟩

theorem Follows.trans {first second third : Node} (front : Follows first second)
    (back : Follows second third) : Follows first third := by
  refine ⟨back.length.trans front.length, fun index before found => ?_⟩
  obtain ⟨middle, found', here⟩ := front.undisturbed index before found
  obtain ⟨after, found'', there⟩ := back.undisturbed index middle found'
  exact ⟨after, found'', here.trans there⟩

theorem follows_modify {node next : Node} {index : Nat} {change : Runner → Runner}
    (runners : next.runners = node.runners.modify index change)
    (changed : ∀ runner, Undisturbed runner.session (change runner).session) :
    Follows node next := by
  refine ⟨by rw [runners, List.length_modify], fun place before found => ?_⟩
  rw [runners, List.getElem?_modify, found]
  refine ⟨_, rfl, ?_⟩
  split
  · exact changed before
  · exact Undisturbed.refl _

theorem Managed.follows {node next : Node} (managed : Managed node next) : Follows node next := by
  induction managed with
  | own same => exact .of_runners same.runners
  | popped node found => exact follows_modify rfl fun runner => putStop_undisturbed _
  | cancelled node index => exact follows_modify rfl fun runner => requestCancel_undisturbed _
  | trans _ _ front back => exact front.trans back

/-- A step moves the runner it is about, and disturbs no other one. -/
theorem runner_of_moved {node next : Node} {event : NodeEvent} (moved : Node.Moved node event next)
    {index : Nat} {before : Runner} (found : node.runners[index]? = some before) :
    ∃ after, next.runners[index]? = some after ∧
      (Undisturbed before.session after.session ∨
        ∃ stepped, event = .runner index stepped ∧
          before.session.step (node.clock, stepped) = some after.session) := by
  have kept : ∀ next : Node, Follows node next → ∃ after, next.runners[index]? = some after ∧
      (Undisturbed before.session after.session ∨
        ∃ stepped, event = .runner index stepped ∧
          before.session.step (node.clock, stepped) = some after.session) := by
    intro next follows
    obtain ⟨after, found', undisturbed⟩ := follows.undisturbed index before found
    exact ⟨after, found', Or.inl undisturbed⟩
  cases moved with
  | managed manages managed => exact kept _ managed.follows
  | resumed entry => exact kept _ (follows_modify rfl fun runner => touch_undisturbed _ _)
  | refused free full => exact kept _ (.of_runners rfl)
  | created free room =>
      exact ⟨before, Places.concat_keeps _ found, Or.inl (Undisturbed.refl _)⟩
  | @advanced place stepped runner after found' run =>
      by_cases same : place = index
      · subst same
        rw [found] at found'
        cases Option.some.inj found'
        refine ⟨{ before with session := after }, ?_, Or.inr ⟨stepped, rfl, run⟩⟩
        simp [Node.advance, Node.updateSession, found]
      · refine ⟨before, ?_, Or.inl (Undisturbed.refl _)⟩
        simp [Node.advance, Node.updateSession, same, found]
  | collected waiting => exact kept _ (.of_runners rfl)

/-- Every runner after a step was there before, or was created by it. -/
theorem runner_before_moved {node next : Node} {event : NodeEvent}
    (moved : Node.Moved node event next) {index : Nat} {after : Runner}
    (found : next.runners[index]? = some after) :
    (∃ before, node.runners[index]? = some before) ∨
      ∃ sessionId project apiKeyId, index = node.runners.length ∧
        after = ⟨Session.spawn node.clock sessionId apiKeyId project true, false⟩ := by
  have inside := (List.getElem?_eq_some_iff.mp found).1
  have kept : next.runners.length = node.runners.length →
      ∃ before, node.runners[index]? = some before := by
    intro length
    exact ⟨_, List.getElem?_eq_getElem (length ▸ inside)⟩
  cases moved with
  | managed manages managed => exact Or.inl (kept managed.follows.length)
  | resumed entry =>
      exact Or.inl (kept (by simp [Node.attach, Node.touchSession, Node.updateSession]))
  | refused free full => exact Or.inl (kept rfl)
  | @created sessionId project apiKeyId free room =>
      rcases Places.concat_source found with old | ⟨last, same⟩
      · exact Or.inl ⟨_, old⟩
      · exact Or.inr ⟨sessionId, project, apiKeyId, last, same⟩
  | advanced found' run => exact Or.inl (kept (by simp [Node.advance, Node.updateSession]))
  | collected waiting => exact Or.inl (kept rfl)

/-- No receive task outlives the `try` statement of its runner. -/
def Quiet (node : Node) : Prop :=
  ∀ (index : Nat) runner, node.runners[index]? = some runner → runner.session.Quiet

theorem quiet_initial (clock : Clock) : Quiet (Node.initial clock) := by
  intro index runner found
  simp [Node.initial] at found

theorem quiet_moved {node next : Node} {event : NodeEvent} (quiet : Quiet node)
    (moved : Node.Moved node event next) : Quiet next := by
  intro index after found
  rcases runner_before_moved moved found with ⟨before, found'⟩ | ⟨_, _, _, _, rfl⟩
  · obtain ⟨after', same, undisturbed | ⟨stepped, _, run⟩⟩ := runner_of_moved moved found'
    · cases Option.some.inj (same.symm.trans found)
      exact undisturbed.quiet (quiet index before found')
    · cases Option.some.inj (same.symm.trans found)
      exact Session.quiet_step (quiet index before found') run
  · exact fun _ => rfl

theorem runner_same_moved {node next : Node} {event : NodeEvent} (quiet : Quiet node)
    (moved : Node.Moved node event next) {index : Nat} {before : Runner}
    (found : node.runners[index]? = some before) :
    ∃ after, next.runners[index]? = some after ∧
      before.session.SameSession after.session := by
  obtain ⟨after, found', undisturbed | ⟨_, _, run⟩⟩ := runner_of_moved moved found
  · exact ⟨after, found', undisturbed.same⟩
  · exact ⟨after, found', Session.same_step (quiet index before found) run⟩

end LiveChat.Core.SessionManager
