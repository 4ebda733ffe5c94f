import LiveChat.Core.PlanLimits
import LiveChat.Core.RunnerTurns
import LiveChat.Core.SessionRegistry

/-!
# Idle sessions and the cleanup sweep

`_cleanup_loop` collects the sessions that were idle for 300 seconds and terminates
them one after the other, waiting for each runner.  A session on its list can be
touched, or replaced by a new one with its id, while the sweep waits for another.
The theorem says when a sweep terminates only sessions that were idle for longer than
the `session_ttl_seconds` of their project.
-/

set_option autoImplicit false

namespace LiveChat.Core.GeminiRunner

open LiveChat.Foundation

/-! ## What sets `last_active` -/

/-- Events that touch the session. -/
def RunnerEvent.touches : RunnerEvent → Bool
  | .frame | .touch => true
  | _ => false

namespace Session

theorem handleFrame_lastActive (session : Session) (frame : InputFrame) :
    (session.handleFrame frame).state.lastActive = session.state.lastActive := by
  cases frame with
  | activityStart =>
      simp only [handleFrame]
      split <;> rfl
  | text payload =>
      simp only [handleFrame]
      split <;> rfl
  | _ => rfl

theorem finishVoiceTurn_lastActive (session : Session) :
    session.finishVoiceTurn.state.lastActive = session.state.lastActive := by
  simp only [finishVoiceTurn]
  split <;> rfl

theorem afterTurn_lastActive (session : Session) (alive : Bool) :
    (session.afterTurn alive).state.lastActive = session.state.lastActive := by
  cases alive <;> rfl

theorem settle_enterFinally_lastActive (session : Session) (clock : Clock) :
    (settle (session.enterFinally clock)).state.lastActive = session.state.lastActive := by
  rw [settle_enterFinally]
  split <;> rfl

theorem afterSent_lastActive {session next : Session} (run : session.afterSent = some next) :
    next.state.lastActive = session.state.lastActive := by
  unfold afterSent at run
  split at run
  · cases run
    rfl
  · cases run
    rfl
  · cases run
    exact finishVoiceTurn_lastActive session
  · cases run
    rfl
  · cases run

theorem afterFailed_lastActive {session : Session} {clock : Clock} {exc : String}
    {progress : Progress} (run : session.afterFailed clock exc = some progress) :
    (settle progress).state.lastActive = session.state.lastActive := by
  unfold afterFailed at run
  split at run
  · cases run
    exact settle_enterFinally_lastActive _ clock
  · cases run
    rfl
  · cases run
    rfl
  · cases run
    exact finishVoiceTurn_lastActive _
  · cases run
    rfl
  · cases run
    exact settle_enterFinally_lastActive _ clock
  · cases run

theorem afterReceiver_lastActive {session next : Session}
    (run : session.afterReceiver = some next) :
    next.state.lastActive = session.state.lastActive := by
  unfold afterReceiver at run
  split at run
  · cases run
    rfl
  · cases run
    rfl
  · cases run
    exact afterTurn_lastActive _ _
  · cases run

theorem afterCancelled_lastActive {session : Session} {clock : Clock} {progress : Progress}
    (run : session.afterCancelled clock = some progress) :
    (settle progress).state.lastActive = session.state.lastActive := by
  unfold afterCancelled at run
  split at run
  all_goals
    first
    | (cases run; first | rfl | exact settle_enterFinally_lastActive _ clock)
    | cases run
    | (split at run <;> cases run; rfl)

theorem resumeRunner_lastActive {session : Session} {clock : Clock} {event : RunnerEvent}
    {progress : Progress} (run : session.resumeRunner clock event = some progress) :
    (settle progress).state.lastActive =
      if event.touches then clock.monotonic else session.state.lastActive := by
  cases event with
  | start setupError =>
      cases setupError <;>
      · simp only [resumeRunner] at run
        split at run <;> cases run
        rfl
  | connected =>
      simp only [resumeRunner] at run
      split at run <;> cases run
      rfl
  | frame =>
      simp only [resumeRunner] at run
      split at run <;> cases run
      exact handleFrame_lastActive _ _
  | idleTimeout =>
      simp only [resumeRunner] at run
      split at run <;> cases run
      rfl
  | sent =>
      obtain ⟨next, stepped, rfl⟩ := Option.map_eq_some_iff.mp run
      exact afterSent_lastActive stepped
  | failed exc => exact afterFailed_lastActive run
  | fault exc =>
      simp only [resumeRunner] at run
      split at run <;> cases run
      rfl
  | receiverDone =>
      obtain ⟨next, stepped, rfl⟩ := Option.map_eq_some_iff.mp run
      exact afterReceiver_lastActive stepped
  | consume event =>
      simp only [resumeRunner] at run
      split at run
      · split at run
        · rename_i consumed
          cases run
          exact (consumer_undisturbed consumed).lastActive
        · rename_i consumed
          cases run
          exact (afterTurn_lastActive _ _).trans ((consumer_undisturbed consumed).lastActive)
        · cases run
      · cases run
  | closed =>
      simp only [resumeRunner] at run
      split at run
      · rename_i exit _
        cases run
        cases exit <;> exact settle_enterFinally_lastActive _ clock
      · cases run
  | insertReturned =>
      simp only [resumeRunner] at run
      split at run <;> cases run
      rfl
  | insertFailed =>
      simp only [resumeRunner] at run
      split at run <;> cases run
      rfl
  | _ => cases run

theorem surround_lastActive {session next : Session} {clock : Clock} {event : RunnerEvent}
    (run : session.surround clock event = some next) :
    next.state.lastActive =
      if event.touches then clock.monotonic else session.state.lastActive := by
  cases event with
  | requestCancel =>
      cases run
      simp only [requestCancel]
      split <;> rfl
  | receive event =>
      simp only [surround] at run
      split at run
      · split at run
        · rename_i consumed
          cases run
          exact (consumer_undisturbed consumed).lastActive
        · rename_i consumed
          cases run
          exact (consumer_undisturbed consumed).lastActive
        · cases run
      · cases run
  | receiverCancelled =>
      simp only [surround] at run
      split at run <;> cases run
      rfl
  | insertExecuted =>
      simp only [surround] at run
      split at run <;> cases run
      rfl
  | takeOutbox =>
      obtain ⟨taken, got, rfl⟩ := Option.map_eq_some_iff.mp run
      rfl
  | putInbox frame =>
      cases run
      rfl
  | touch =>
      cases run
      rfl
  | _ => cases run

/-- A step of a session sets `last_active` to the present, or leaves it. -/
theorem lastActive_step {session next : Session} {clock : Clock} {event : RunnerEvent}
    (run : session.step (clock, event) = some next) :
    next.state.lastActive =
      if event.touches then clock.monotonic else session.state.lastActive := by
  obtain ⟨progress, resumed, rfl⟩ := step_settles run
  unfold resume at resumed
  split at resumed
  · split at resumed
    · cases resumed
    · exact resumeRunner_lastActive resumed
  · split at resumed
    · split at resumed
      · have delivered := afterCancelled_lastActive resumed
        exact delivered
      · cases resumed
    · obtain ⟨next, stepped, rfl⟩ := Option.map_eq_some_iff.mp resumed
      exact surround_lastActive stepped

end Session

end LiveChat.Core.GeminiRunner

namespace LiveChat.Core.SessionManager

open LiveChat.Foundation.TransitionSystem
open LiveChat.Core.GeminiRunner
open LiveChat.Core.PlanLimits

/-- A TTL that the REST layer stores: a requested one, capped by a plan. -/
def StorableTtl (ttl : Nat) : Prop :=
  ∃ plan requested, 30 ≤ requested ∧ requested ≤ 7200 ∧ ttl = effectiveSessionTtl plan requested

namespace Node

/-! ## Sweeps -/

/-- The ids that the suspended sweep has still to terminate. -/
def sweepList (node : Node) : List String :=
  match node.cleanupTask with
  | .sweeping sweep => sweep.rest
  | _ => []

/-- Idle for longer than the TTL of its project. -/
def pastTtl (node : Node) (session : Session) : Bool :=
  session.state.isIdle node.clock.monotonic session.project.sessionTtlSeconds

/-- The session registered under the id, if there is one, is past its TTL. -/
def PastTtl (node : Node) (sessionId : String) : Prop :=
  ∀ index ∈ node.sessions.lookup sessionId, ∀ runner ∈ node.runners[index]?,
    node.pastTtl runner.session = true

/-- The session registered under the id, if there is one, was idle for longer than a limit
that depends on its project. -/
def PastLimit (limit : ProjectConfig → Nat) (node : Node) (sessionId : String) : Prop :=
  ∀ index ∈ node.sessions.lookup sessionId, ∀ runner ∈ node.runners[index]?,
    runner.session.state.isIdle node.clock.monotonic (limit runner.session.project) = true

end Node

/-- The steps of the cleanup task in which it calls `_terminate`. -/
def NodeEvent.sweeps : NodeEvent → Bool
  | .cleanupWake | .cleanupWait _ | .cleanupCancelled => true
  | _ => false

namespace Node

/-- Every session that the cleanup task terminates in this step is past its TTL. -/
def SweepsPastTtl (node : Node) (event : NodeEvent) : Prop :=
  event.sweeps = true → ∀ next, node.step event = some next →
    ∀ (index : Nat) runner after, node.runners[index]? = some runner →
      next.runners[index]? = some after → runner.terminating = false →
      after.terminating = true → node.pastTtl runner.session = true

instance (node : Node) (sessionId : String) : Decidable (node.PastTtl sessionId) :=
  inferInstanceAs (Decidable (∀ index ∈ node.sessions.lookup sessionId,
    ∀ runner ∈ node.runners[index]?, node.pastTtl runner.session = true))

/-- A sweep finds stale only sessions that are past their TTL, and none of the
sessions on the list of a suspended sweep is touched or created anew. -/
def StaleStaysIdle (node : Node) : NodeEvent → Prop
  | .cleanupWake => ∀ sessionId ∈ node.stale, node.PastTtl sessionId
  | .getOrCreate sessionId project _ => sessionId ∈ node.sweepList →
      node.sessions.lookup sessionId = none ∧
        project.maxConcurrentSessions ≤ node.projectSessionCount project.projectId
  | .runner index event => event.touches = true →
      ∀ sessionId ∈ node.sweepList, node.sessions.lookup sessionId ≠ some index
  | _ => True

instance (node : Node) : (event : NodeEvent) → Decidable (StaleStaysIdle node event)
  | .cleanupWake => inferInstanceAs (Decidable (∀ sessionId ∈ node.stale, node.PastTtl sessionId))
  | .getOrCreate sessionId project _ => inferInstanceAs (Decidable (sessionId ∈ node.sweepList →
      node.sessions.lookup sessionId = none ∧
        project.maxConcurrentSessions ≤ node.projectSessionCount project.projectId))
  | .runner index event => inferInstanceAs (Decidable (event.touches = true →
      ∀ sessionId ∈ node.sweepList, node.sessions.lookup sessionId ≠ some index))
  | .tick _ _ | .onRunnerDone _ _ | .start | .cleanupWait _ | .cleanupCancelled | .terminate _
  | .termination _ _ | .stop | .stopCleanupDone | .stopWait _ => isTrue trivial

/-- No session on the list of a suspended sweep is touched or created anew. -/
def LeavesListed (node : Node) : NodeEvent → Prop
  | .getOrCreate sessionId project _ => sessionId ∈ node.sweepList →
      node.sessions.lookup sessionId = none ∧
        project.maxConcurrentSessions ≤ node.projectSessionCount project.projectId
  | .runner index event => event.touches = true →
      ∀ sessionId ∈ node.sweepList, node.sessions.lookup sessionId ≠ some index
  | _ => True

instance (node : Node) : (event : NodeEvent) → Decidable (LeavesListed node event)
  | .getOrCreate sessionId project _ => inferInstanceAs (Decidable (sessionId ∈ node.sweepList →
      node.sessions.lookup sessionId = none ∧
        project.maxConcurrentSessions ≤ node.projectSessionCount project.projectId))
  | .runner index event => inferInstanceAs (Decidable (event.touches = true →
      ∀ sessionId ∈ node.sweepList, node.sessions.lookup sessionId ≠ some index))
  | .tick _ _ | .onRunnerDone _ _ | .start | .cleanupWake | .cleanupWait _ | .cleanupCancelled
  | .terminate _ | .termination _ _ | .stop | .stopCleanupDone | .stopWait _ => isTrue trivial

theorem leavesListed_of_staysIdle {node : Node} {event : NodeEvent}
    (stays : StaleStaysIdle node event) : LeavesListed node event := by
  cases event with
  | getOrCreate sessionId project apiKeyId => exact stays
  | runner index event => exact stays
  | _ => exact trivial

/-! ## What time does to sessions that nobody touches -/

/-- The sessions registered later were there before, untouched since. -/
structure Ages (node next : Node) : Prop where
  clock : node.clock.monotonic ≤ next.clock.monotonic
  registered : ∀ sessionId index, next.sessions.lookup sessionId = some index →
    node.sessions.lookup sessionId = some index
  runners : ∀ (index : Nat) after, next.runners[index]? = some after →
    ∃ before, node.runners[index]? = some before ∧
      after.session.state.lastActive = before.session.state.lastActive ∧
      after.session.project = before.session.project

theorem Ages.refl (node : Node) : Ages node node :=
  ⟨Nat.le_refl _, fun _ _ entry => entry, fun _ after found => ⟨after, found, rfl, rfl⟩⟩

theorem Ages.trans {first second third : Node} (front : Ages first second)
    (back : Ages second third) : Ages first third := by
  refine ⟨Nat.le_trans front.clock back.clock,
    fun sessionId index entry => front.registered _ _ (back.registered _ _ entry), ?_⟩
  intro index after found
  obtain ⟨middle, found', active', project'⟩ := back.runners index after found
  obtain ⟨before, found'', active, project⟩ := front.runners index middle found'
  exact ⟨before, found'', active'.trans active, project'.trans project⟩

theorem isIdle_mono {state : SessionState} {now later : Instant} {ttl : Nat} (le : now ≤ later)
    (idle : state.isIdle now ttl = true) : state.isIdle later ttl = true := by
  simp only [SessionState.isIdle, decide_eq_true_eq] at idle ⊢
  exact Nat.lt_of_lt_of_le idle (Nat.sub_le_sub_right le _)

theorem Ages.pastLimit {limit : ProjectConfig → Nat} {node next : Node} (ages : Ages node next)
    {sessionId : String} (past : node.PastLimit limit sessionId) :
    next.PastLimit limit sessionId := by
  intro index entry after found
  obtain ⟨before, found', active, project⟩ := ages.runners index after found
  have idle := past index (ages.registered sessionId index entry) before found'
  rw [project]
  apply isIdle_mono ages.clock
  simpa only [SessionState.isIdle, active] using idle

theorem Ages.of_same {node next : Node} (clock : next.clock = node.clock)
    (sessions : next.sessions = node.sessions) (runners : next.runners = node.runners) :
    Ages node next :=
  ⟨Nat.le_of_eq (by rw [clock]), fun _ _ entry => by rwa [sessions] at entry,
    fun _ after found => ⟨after, by rwa [runners] at found, rfl, rfl⟩⟩

/-- A change of one runner that is no touch. -/
theorem ages_modify {node next : Node} {index : Nat} {change : Runner → Runner}
    (clock : next.clock = node.clock)
    (registered : ∀ sessionId index, next.sessions.lookup sessionId = some index →
      node.sessions.lookup sessionId = some index)
    (runners : next.runners = node.runners.modify index change)
    (active : ∀ runner, (change runner).session.state.lastActive = runner.session.state.lastActive)
    (project : ∀ runner, (change runner).session.project = runner.session.project) :
    Ages node next := by
  refine ⟨Nat.le_of_eq (by rw [clock]), registered, fun place after found => ?_⟩
  rw [runners, List.getElem?_modify] at found
  obtain ⟨before, found', rfl⟩ := Option.map_eq_some_iff.mp found
  refine ⟨before, found', ?_⟩
  split
  · exact ⟨active before, project before⟩
  · exact ⟨rfl, rfl⟩

theorem requestCancel_untouched (session : Session) :
    session.requestCancel.state.lastActive = session.state.lastActive ∧
      session.requestCancel.project = session.project := by
  unfold Session.requestCancel
  split <;> exact ⟨rfl, rfl⟩

/-- What the manager's waits and terminations leave alone. -/
structure Calm (node next : Node) : Prop extends Ages node next where
  now : next.clock = node.clock
  cleanupTask : next.cleanupTask = node.cleanupTask

theorem Calm.refl (node : Node) : Calm node node := ⟨Ages.refl node, rfl, rfl⟩

theorem Calm.trans {first second third : Node} (front : Calm first second)
    (back : Calm second third) : Calm first third :=
  ⟨front.toAges.trans back.toAges, back.now.trans front.now,
    back.cleanupTask.trans front.cleanupTask⟩

theorem calm_pop (node : Node) (sessionId : String) (index : Nat) :
    Calm node (node.pop sessionId index) := by
  refine ⟨ages_modify rfl ?_ rfl (fun _ => rfl) (fun _ => rfl), rfl, rfl⟩
  intro other place entry
  by_cases same : other = sessionId
  · subst same
    simp only [pop, AList.lookup_erase] at entry
    cases entry
  · simpa only [pop, AList.lookup_erase_ne same] using entry

theorem calm_requestCancel (node : Node) (index : Nat) :
    Calm node (node.updateSession index Session.requestCancel) :=
  ⟨ages_modify rfl (fun _ _ entry => entry) rfl
    (fun runner => (requestCancel_untouched runner.session).1)
    (fun runner => (requestCancel_untouched runner.session).2), rfl, rfl⟩

theorem calm_of_dismisses {node next : Node} (dismisses : Dismisses node next) :
    Calm node next := by
  induction dismisses with
  | refl node => exact Calm.refl node
  | popped node found => exact calm_pop node _ _
  | cancelled node index => exact calm_requestCancel node index
  | trans _ _ front back => exact front.trans back

theorem ages_of_works {node next : Node} (works : Works node next) : Ages node next := by
  obtain ⟨front, back, opened, dismisses, closed⟩ := works
  have begun : Ages node front := .of_same opened.clock opened.sessions opened.runners
  exact (begun.trans (calm_of_dismisses dismisses).toAges).trans
    (.of_same closed.clock closed.sessions closed.runners)

/-! ## What a sweep terminates -/

/-- In the step from `node` to `next` only sessions of these ids were terminated. -/
def TerminatesOnly (sessionIds : List String) (node next : Node) : Prop :=
  ∀ (index : Nat) runner after, node.runners[index]? = some runner →
    next.runners[index]? = some after → runner.terminating = false →
    after.terminating = true → ∃ sessionId ∈ sessionIds,
      node.sessions.lookup sessionId = some index

theorem terminatesOnly_of_flags {sessionIds : List String} {node next : Node}
    (flags : next.runners.map Runner.terminating = node.runners.map Runner.terminating) :
    TerminatesOnly sessionIds node next := by
  intro index runner after found found' live dismissed
  have look := congrArg (fun items => items[index]?) flags
  simp only [List.getElem?_map, found, found', Option.map_some, Option.some.injEq] at look
  rw [live, dismissed] at look
  cases look

theorem flags_requestCancel (node : Node) (index : Nat) :
    (node.updateSession index Session.requestCancel).runners.map Runner.terminating =
      node.runners.map Runner.terminating := by
  have mapped := map_modify node.runners index
    (fun runner => { runner with session := runner.session.requestCancel }) id Runner.terminating
    (fun _ _ => rfl)
  rwa [List.modify_id] at mapped

theorem flags_resumeWait {node next : Node} {wait : Wait} {event : WaitEvent}
    {terminated : Terminated} (run : node.resumeWait wait event = some (next, terminated)) :
    next.runners.map Runner.terminating = node.runners.map Runner.terminating := by
  unfold resumeWait at run
  split at run
  · split at run
    · cases run
    · cases run
      rfl
    · cases run
      rfl
    · cases run
      exact flags_requestCancel node _
  · cases run
    exact flags_requestCancel node _
  · cases run
    exact flags_requestCancel node _
  · split at run <;> cases run
    rfl
  · cases run
    exact flags_requestCancel node _
  · cases run

theorem terminates_beginTerminate (node : Node) (sessionId : String) :
    TerminatesOnly [sessionId] node (node.beginTerminate sessionId).1 := by
  unfold beginTerminate
  split
  · exact terminatesOnly_of_flags rfl
  · rename_i target entry
    have popped : TerminatesOnly [sessionId] node (node.pop sessionId target) := by
      intro index runner after found found' live dismissed
      by_cases same : target = index
      · subst same
        exact ⟨sessionId, List.mem_cons_self, entry⟩
      · have untouched : node.runners[index]? = some after := by
          simpa [pop, List.getElem?_modify, same] using found'
        cases Option.some.inj (found.symm.trans untouched)
        rw [live] at dismissed
        cases dismissed
    split <;> exact popped

theorem TerminatesOnly.trans {front back all : List String} {node middle next : Node}
    (calm : Calm node middle) (length : middle.runners.length = node.runners.length)
    (first : TerminatesOnly front node middle) (second : TerminatesOnly back middle next)
    (front_sub : front ⊆ all) (back_sub : back ⊆ all) : TerminatesOnly all node next := by
  intro index runner after found found' live dismissed
  have inside : index < middle.runners.length :=
    length ▸ (List.getElem?_eq_some_iff.mp found).1
  have found'' := List.getElem?_eq_getElem inside
  cases flag : (middle.runners[index]).terminating with
  | true =>
      obtain ⟨sessionId, member, entry⟩ := first index runner _ found found'' live flag
      exact ⟨sessionId, front_sub member, entry⟩
  | false =>
      obtain ⟨sessionId, member, entry⟩ := second index _ after found'' found' flag dismissed
      exact ⟨sessionId, back_sub member, calm.registered sessionId index entry⟩

theorem length_beginTerminate (node : Node) (sessionId : String) :
    (node.beginTerminate sessionId).1.runners.length = node.runners.length :=
  (dismisses_beginTerminate node sessionId).managed.follows.length

theorem terminates_terminateAll (node : Node) (sessionIds : List String) :
    TerminatesOnly sessionIds node (node.terminateAll sessionIds).1 := by
  induction sessionIds generalizing node with
  | nil => exact terminatesOnly_of_flags rfl
  | cons sessionId rest ih =>
      have calm := calm_of_dismisses (dismisses_beginTerminate node sessionId)
      have length := length_beginTerminate node sessionId
      have first := terminates_beginTerminate node sessionId
      have front_sub : [sessionId] ⊆ sessionId :: rest := by simp
      unfold terminateAll
      split
      · rename_i middle begun
        rw [begun] at calm length first
        exact first.trans calm length (ih middle) front_sub (List.subset_cons_self _ _)
      · rename_i middle wait begun
        rw [begun] at calm length first
        exact first.trans calm length (terminatesOnly_of_flags rfl) front_sub (List.nil_subset _)

theorem rest_terminateAll {node next : Node} {sessionIds : List String} {sweep : Sweep}
    (run : node.terminateAll sessionIds = (next, some sweep)) : sweep.rest ⊆ sessionIds := by
  induction sessionIds generalizing node with
  | nil => cases run
  | cons sessionId rest ih =>
      unfold terminateAll at run
      split at run
      · exact List.Subset.trans (ih run) (List.subset_cons_self _ _)
      · cases run
        exact List.subset_cons_self _ _

/-- The ids that the task goes on with. -/
def Swept.rest : Swept → List String
  | .suspended sweep => sweep.rest
  | .finished | .raised _ => []

theorem rest_ofSweep_terminateAll (node : Node) (sessionIds : List String) :
    (Swept.ofSweep (node.terminateAll sessionIds).2).rest ⊆ sessionIds := by
  cases run : node.terminateAll sessionIds with
  | mk next sweep =>
      cases sweep with
      | none => exact List.nil_subset _
      | some sweep => exact rest_terminateAll run

theorem terminates_resumeSweep {node next : Node} {sweep : Sweep} {event : WaitEvent}
    {swept : Swept} (run : node.resumeSweep sweep event = some (next, swept)) :
    TerminatesOnly sweep.rest node next ∧ swept.rest ⊆ sweep.rest := by
  unfold resumeSweep at run
  split at run
  · cases run
  · rename_i waited
    cases run
    exact ⟨terminatesOnly_of_flags (flags_resumeWait waited), List.Subset.refl _⟩
  · rename_i middle waited
    cases run
    have length := congrArg List.length (flags_resumeWait waited)
    simp only [List.length_map] at length
    have none : TerminatesOnly [] node middle := terminatesOnly_of_flags (flags_resumeWait waited)
    exact ⟨none.trans (calm_of_dismisses (dismisses_resumeWait waited)) length
      (terminates_terminateAll middle sweep.rest) (List.nil_subset _) (List.Subset.refl _),
      rest_ofSweep_terminateAll middle sweep.rest⟩
  · rename_i waited
    cases run
    exact ⟨terminatesOnly_of_flags (flags_resumeWait waited), List.nil_subset _⟩

/-! ## One step of the node -/

theorem sweepList_setCleanup (node : Node) (swept : Swept) :
    (node.setCleanup swept).sweepList = swept.rest := by
  cases swept <;> rfl

theorem setCleanup_runners (node : Node) (swept : Swept) :
    (node.setCleanup swept).runners = node.runners := by
  cases swept <;> rfl

theorem manages_of_sweeps {event : NodeEvent} (sweeps : event.sweeps = true) :
    event.manages = true := by
  cases event with
  | getOrCreate sessionId project apiKeyId => cases sweeps
  | runner index event => cases sweeps
  | onRunnerDone sessionId runner => cases sweeps
  | _ => rfl

/-- A step of the cleanup task: it goes through ids that it found stale just now, or
that were on its list. -/
theorem sweep_step {node next : Node} {event : NodeEvent} (sweeps : event.sweeps = true)
    (run : node.step event = some next) :
    ∃ sessionIds, (∀ sessionId ∈ sessionIds, sessionId ∈ node.sweepList ∨
        event = .cleanupWake ∧ sessionId ∈ node.stale) ∧
      TerminatesOnly sessionIds node next ∧ next.sweepList ⊆ sessionIds := by
  -- every call of `resumeSweep` goes on with the list of the suspended sweep
  have resumed : ∀ (sweep : Sweep) (event : WaitEvent) (cancelled : Bool) middle swept,
      node.cleanupTask = .sweeping sweep →
      Node.resumeSweep { node with cleanupCancelled := cancelled } sweep event =
        some (middle, swept) →
      TerminatesOnly sweep.rest node (middle.setCleanup swept) ∧
        (middle.setCleanup swept).sweepList ⊆ sweep.rest ∧ node.sweepList = sweep.rest := by
    intro sweep event cancelled middle swept task waited
    obtain ⟨only, rest⟩ := terminates_resumeSweep waited
    refine ⟨?_, by rw [sweepList_setCleanup]; exact rest, by rw [sweepList, task]⟩
    intro index runner after found found' live dismissed
    rw [setCleanup_runners] at found'
    exact only index runner after found found' live dismissed
  cases event with
  | cleanupWake =>
      simp only [step] at run
      split at run
      · split at run
        · cases run
        · cases run
          refine ⟨node.stale, fun sessionId member => Or.inr ⟨rfl, member⟩, ?_, ?_⟩
          · intro index runner after found found' live dismissed
            rw [setCleanup_runners] at found'
            exact terminates_terminateAll node node.stale index runner after found found' live
              dismissed
          · rw [sweepList_setCleanup]
            exact rest_ofSweep_terminateAll node node.stale
      · cases run
  | cleanupWait event =>
      simp only [step] at run
      split at run
      · cases run
      · rename_i event _ _ sweep task _
        split at run
        · cases run
        · obtain ⟨⟨middle, swept⟩, waited, rfl⟩ := Option.map_eq_some_iff.mp run
          obtain ⟨only, rest, list⟩ :=
            resumed sweep event node.cleanupCancelled middle swept task waited
          exact ⟨sweep.rest, fun sessionId member => Or.inl (list ▸ member), only, rest⟩
      · cases run
  | cleanupCancelled =>
      simp only [step] at run
      split at run
      · split at run
        · cases run
          exact ⟨[], by simp, terminatesOnly_of_flags rfl, List.nil_subset _⟩
        · rename_i sweep task
          obtain ⟨⟨middle, swept⟩, waited, rfl⟩ := Option.map_eq_some_iff.mp run
          obtain ⟨only, rest, list⟩ := resumed sweep .cancelled false middle swept task waited
          exact ⟨sweep.rest, fun sessionId member => Or.inl (list ▸ member), only, rest⟩
        · cases run
      · cases run
  | _ => cases sweeps

theorem sweepList_cancelCleanup (node : Node) : node.cancelCleanup.sweepList = node.sweepList := by
  unfold cancelCleanup
  split <;> rfl

theorem sweepList_dismisses {node next : Node} (dismisses : Dismisses node next) :
    next.sweepList = node.sweepList := by
  simp only [Node.sweepList, (calm_of_dismisses dismisses).cleanupTask]

theorem sweepList_setStop (node : Node) (swept : Swept) :
    (node.setStop swept).sweepList = node.sweepList := by
  cases swept <;> rfl

/-- The tasks of the manager touch no session. -/
theorem ages_step {node next : Node} {event : NodeEvent} (manages : event.manages = true)
    (run : node.step event = some next) : Ages node next := by
  cases event with
  | tick elapsed utc =>
      cases run
      exact ⟨Nat.le_add_right _ _, fun _ _ entry => entry,
        fun _ after found => ⟨after, found, rfl, rfl⟩⟩
  | _ => exact ages_of_works (works_step manages (fun _ _ same => by cases same) run)

/-- Those that do not sweep leave the list of the sweep alone. -/
theorem sweepList_step {node next : Node} {event : NodeEvent} (manages : event.manages = true)
    (notSweep : event.sweeps = false) (run : node.step event = some next) :
    next.sweepList = node.sweepList := by
  have stopped : ∀ middle : Node, middle.stopSessions.sweepList = middle.sweepList :=
    fun middle => (sweepList_setStop _ _).trans
      (sweepList_dismisses (dismisses_terminateAll middle middle.sessionIds))
  cases event with
  | tick elapsed utc =>
      cases run
      rfl
  | start =>
      simp only [step] at run
      split at run
      · rename_i task
        cases run
        simp only [sweepList, task]
      · cases run
  | terminate sessionId =>
      have begun := sweepList_dismisses (dismisses_beginTerminate node sessionId)
      simp only [step] at run
      split at run
      · rename_i started
        cases run
        rw [started] at begun
        exact begun
      · rename_i started
        cases run
        rw [started] at begun
        exact begun
  | termination index event =>
      simp only [step] at run
      split at run
      · cases run
      · obtain ⟨⟨middle, swept⟩, waited, rfl⟩ := Option.map_eq_some_iff.mp run
        have same : (middle.setTermination index swept).sweepList = middle.sweepList := by
          cases swept <;> rfl
        exact same.trans (sweepList_dismisses (dismisses_resumeSweep waited))
  | stop =>
      simp only [step] at run
      split at run
      · cases run
        unfold stop
        split
        · exact stopped node
        · exact sweepList_cancelCleanup node
      · cases run
  | stopCleanupDone =>
      simp only [step] at run
      split at run
      · cases run
        rfl
      · cases run
        exact stopped node
      · cases run
  | stopWait event =>
      simp only [step] at run
      split at run
      · obtain ⟨⟨middle, swept⟩, waited, rfl⟩ := Option.map_eq_some_iff.mp run
        exact (sweepList_setStop _ _).trans (sweepList_dismisses (dismisses_resumeSweep waited))
      · cases run
  | getOrCreate sessionId project apiKeyId => cases manages
  | runner index event => cases manages
  | onRunnerDone sessionId runner => cases manages
  | cleanupWake => cases notSweep
  | cleanupWait event => cases notSweep
  | cleanupCancelled => cases notSweep

/-! ## Runs -/

/-- The sessions on the list of the suspended sweep are past their TTL. -/
def IdleListed (node : Node) : Prop := ∀ sessionId ∈ node.sweepList, node.PastTtl sessionId

section Limit

variable {limit : ProjectConfig → Nat}

/-- A registered session that the step does not touch stays past its limit. -/
theorem pastLimit_getOrCreate {node : Node} (formed : Formed node) {sessionId other : String}
    (differs : other ≠ sessionId) (project : ProjectConfig) (apiKeyId : String)
    (past : node.PastLimit limit other) :
    (node.getOrCreate sessionId project apiKeyId).PastLimit limit other := by
  unfold getOrCreate
  split
  · rename_i target entry
    intro index entry' after found
    have untouched : target ≠ index := by
      rintro rfl
      obtain ⟨first, listed, firstKey, _⟩ := formed.2.entries sessionId target entry
      obtain ⟨second, listed', secondKey, _⟩ := formed.2.entries other target entry'
      cases Option.some.inj (listed.symm.trans listed')
      exact differs (secondKey.symm.trans firstKey)
    refine past index entry' after ?_
    simpa [attach, touchSession, updateSession, List.getElem?_modify, untouched] using found
  · rename_i free
    split
    · exact past
    · intro index entry after found
      have entry' : node.sessions.lookup other = some index := by
        have created := Option.mem_def.mp entry
        simpa only [attach, create, AList.lookup_insert_ne differs] using created
      obtain ⟨worker, listed, _⟩ := formed.2.entries other index entry'
      obtain ⟨runner, found', _⟩ := view_worker.mp listed
      have inside := (List.getElem?_eq_some_iff.mp found').1
      refine past index entry' after ?_
      simpa only [attach, create, List.getElem?_append, inside, if_true] using found

theorem pastLimit_advance {node : Node} (quiet : Quiet node) {index : Nat} {runner : Runner}
    {event : RunnerEvent} {after : Session} (found : node.runners[index]? = some runner)
    (stepped : runner.session.step (node.clock, event) = some after) {sessionId : String}
    (untouched : event.touches = true → node.sessions.lookup sessionId ≠ some index)
    (past : node.PastLimit limit sessionId) :
    (node.advance index runner.session after event).PastLimit limit sessionId := by
  intro place entry moved found'
  have entry' : node.sessions.lookup sessionId = some place := entry
  by_cases same : index = place
  · subst same
    have shape : { runner with session := after } = moved := by
      simpa [advance, updateSession, List.getElem?_modify, found] using found'
    have still : event.touches = false :=
      Bool.eq_false_iff.mpr fun touches => untouched touches entry'
    have active := Session.lastActive_step stepped
    rw [still] at active
    have project := (Session.same_step (quiet index runner found) stepped).project
    have idle := past index entry' runner found
    subst shape
    have active' : after.state.lastActive = runner.session.state.lastActive := active
    simp only [SessionState.isIdle, project, active'] at idle ⊢
    exact idle
  · refine past place entry' moved ?_
    simpa [advance, updateSession, List.getElem?_modify, same] using found'

/-- A sweep terminates what is past the limit, and what it has still to go through stays
past it, when all it finds stale is and its list is left alone. -/
theorem pastLimit_moved {node next : Node} {event : NodeEvent} (formed : Formed node)
    (idle : ∀ sessionId ∈ node.sweepList, node.PastLimit limit sessionId)
    (stale : event = .cleanupWake → ∀ sessionId ∈ node.stale, node.PastLimit limit sessionId)
    (leaves : LeavesListed node event) (run : node.step event = some next) :
    (event.sweeps = true → ∀ (index : Nat) runner after, node.runners[index]? = some runner →
      next.runners[index]? = some after → runner.terminating = false → after.terminating = true →
        runner.session.state.isIdle node.clock.monotonic (limit runner.session.project) = true) ∧
      ∀ sessionId ∈ next.sweepList, next.PastLimit limit sessionId := by
  cases sweeps : event.sweeps with
  | true =>
      obtain ⟨sessionIds, listed, only, rest⟩ := sweep_step sweeps run
      have ages : Ages node next := ages_step (manages_of_sweeps sweeps) run
      have past : ∀ sessionId ∈ sessionIds, node.PastLimit limit sessionId := by
        intro sessionId member
        rcases listed sessionId member with earlier | ⟨wake, found⟩
        · exact idle sessionId earlier
        · exact stale wake sessionId found
      refine ⟨fun _ index runner after found found' live dismissed => ?_, ?_⟩
      · obtain ⟨sessionId, member, entry⟩ := only index runner after found found' live dismissed
        exact past sessionId member index entry runner found
      · exact fun sessionId member => ages.pastLimit (past sessionId (rest member))
  | false =>
      refine ⟨fun flag => absurd flag (by simp), ?_⟩
      have untouched : Ages node next → next.sweepList = node.sweepList →
          ∀ sessionId ∈ next.sweepList, next.PastLimit limit sessionId := by
        intro ages list sessionId member
        exact ages.pastLimit (idle sessionId (list ▸ member))
      cases manages : event.manages with
      | true => exact untouched (ages_step manages run) (sweepList_step manages sweeps run)
      | false =>
          cases event with
          | getOrCreate sessionId project apiKeyId =>
              cases run
              have list : (node.getOrCreate sessionId project apiKeyId).sweepList =
                  node.sweepList := by
                unfold getOrCreate
                split
                · rfl
                · split <;> rfl
              intro other member
              rw [list] at member
              by_cases same : other = sessionId
              · subst same
                obtain ⟨free, full⟩ := leaves member
                simp only [getOrCreate, free, ge_iff_le, full, if_true]
                exact idle other member
              · exact pastLimit_getOrCreate formed same project apiKeyId (idle other member)
          | runner index event =>
              cases moved_stepRunner run with
              | managed manages' managed => cases manages'
              | advanced found stepped =>
                  intro sessionId member
                  have listed : sessionId ∈ node.sweepList := member
                  exact pastLimit_advance formed.1 found stepped
                    (fun touches => leaves touches sessionId listed) (idle sessionId listed)
          | onRunnerDone sessionId runner =>
              simp only [step] at run
              split at run
              · cases run
                refine untouched ⟨Nat.le_refl _, fun other index entry => ?_,
                  fun _ after found => ⟨after, found, rfl, rfl⟩⟩ rfl
                by_cases same : other = sessionId
                · subst same
                  simp only [onRunnerDone, AList.lookup_erase] at entry
                  cases entry
                · simpa only [onRunnerDone, AList.lookup_erase_ne same] using entry
              · cases run
          | _ => cases manages

end Limit

theorem idleListed_moved {node next : Node} {event : NodeEvent} (formed : Formed node)
    (idle : IdleListed node) (met : StaleStaysIdle node event)
    (run : node.step event = some next) : SweepsPastTtl node event ∧ IdleListed next := by
  have stale : event = .cleanupWake → ∀ sessionId ∈ node.stale, node.PastTtl sessionId := by
    rintro rfl
    exact met
  obtain ⟨past, idle'⟩ := pastLimit_moved formed idle stale (leavesListed_of_staysIdle met) run
  refine ⟨fun sweeps other run' => ?_, idle'⟩
  cases Option.some.inj (run.symm.trans run')
  exact past sweeps

/-- When what a sweep finds stale is past its TTL and then stays idle until its turn, the
sweeps of a run terminate only sessions past their TTL. -/
theorem sweepsPastTtl_of_staysIdle (clock : Clock) (events : List NodeEvent)
    (stays : Along step StaleStaysIdle (initial clock) events) :
    Along step SweepsPastTtl (initial clock) events := by
  refine along_of_along (fun node => Formed node ∧ IdleListed node) ?_
    ⟨formed_initial clock, fun _ member => absurd member (List.not_mem_nil)⟩ stays
  rintro node event next ⟨formed, idle⟩ met run
  obtain ⟨past, idle'⟩ := idleListed_moved formed idle met run
  exact ⟨past, formed_moved formed (step_moved run), idle'⟩

/-- A project with the longest TTL of its plan. -/
def patientProject (plan : Plan) (projectId : String) : ProjectConfig :=
  { soloProject projectId with sessionTtlSeconds := effectiveSessionTtl plan 7200 }

/-- A connected session of which nobody hears for some time. -/
def silentSession (project : ProjectConfig) (elapsed : Nat) : List NodeEvent :=
  [.start, .getOrCreate "s" project "key", .runner 0 (.start none), .runner 0 .connected,
    .tick elapsed 0]

/-- On the starter plan the TTL is the 300 seconds of the sweep. -/
theorem sweepsPastTtl_starter :
    Along step SweepsPastTtl (initial ⟨0, 0⟩)
      (silentSession (patientProject .starter "p") 301000000000 ++ [.cleanupWake]) := by
  apply sweepsPastTtl_of_staysIdle
  decide

/-- On the pro plan a session of 1800 seconds TTL ends after 301. -/
theorem sweepsPastTtl_fails :
    ¬ ∀ (clock : Clock) (events : List NodeEvent),
      (∀ sessionId project apiKeyId, .getOrCreate sessionId project apiKeyId ∈ events →
        StorableTtl project.sessionTtlSeconds) →
      Along step SweepsPastTtl (initial clock) events := by
  intro along
  let front := silentSession (patientProject .pro "p") 301000000000
  have storable : ∀ sessionId project apiKeyId,
      NodeEvent.getOrCreate sessionId project apiKeyId ∈ front ++ [.cleanupWake] →
        StorableTtl project.sessionTtlSeconds := by
    intro sessionId project apiKeyId member
    simp only [front, silentSession, List.cons_append, List.nil_append, List.mem_cons,
      List.not_mem_nil, reduceCtorEq, or_false, false_or, NodeEvent.getOrCreate.injEq] at member
    obtain ⟨_, rfl, _⟩ := member
    exact ⟨.pro, 7200, by omega, by omega, rfl⟩
  have shape : (exec step (initial ⟨0, 0⟩) front).map (fun node =>
      (node.runners[0]?).map fun runner => (runner.terminating, node.pastTtl runner.session)) =
        some (some (false, false)) := by decide
  have swept : (exec step (initial ⟨0, 0⟩) (front ++ [.cleanupWake])).map (fun node =>
      (node.runners[0]?).map fun runner => runner.terminating) = some (some true) := by decide
  obtain ⟨node, run, look⟩ := Option.map_eq_some_iff.mp shape
  obtain ⟨runner, found, facts⟩ := Option.map_eq_some_iff.mp look
  obtain ⟨live, within⟩ := Prod.mk.inj facts
  obtain ⟨next, run', look'⟩ := Option.map_eq_some_iff.mp swept
  obtain ⟨after, found', dismissed⟩ := Option.map_eq_some_iff.mp look'
  have stepped : node.step .cleanupWake = some next := by
    rw [exec_append, run] at run'
    simpa using run'
  have past := (along ⟨0, 0⟩ (front ++ [.cleanupWake]) storable).after run stepped rfl next stepped
    0 runner after found found' live dismissed
  exact absurd (within.symm.trans past) (by decide)

end Node

end LiveChat.Core.SessionManager
