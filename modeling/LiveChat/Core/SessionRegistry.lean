import LiveChat.Foundation.WorkerRegistry
import LiveChat.Core.SessionManagerSteps

/-!
# The session registry as a worker registry

Forgetting what runners do between their start and their end, a node is a registry
of workers: `get_or_create` hires, `_terminate` dismisses, `_on_runner_done`
collects.  `view_moved` shows that every step of a node is a schedule of that
registry.  The theorems about the node say when the registry mirrors the live
runners, when the live runners of a project stay within its cap, and when clients
are attached to sessions of their own project only.
-/

set_option autoImplicit false

namespace LiveChat.Core.SessionManager

open LiveChat.Foundation
open LiveChat.Foundation.TransitionSystem
open LiveChat.Foundation.WorkerRegistry (Registry Worker)
open LiveChat.Core.GeminiRunner

def Runner.worker (runner : Runner) : Worker String String :=
  { key := runner.session.state.sessionId
    group := runner.session.state.projectId
    live := !runner.session.isDone
    dismissed := runner.terminating }

namespace Node

def view (node : Node) : Registry String String :=
  { workers := node.runners.map Runner.worker
    entries := node.sessions
    pending := node.callbacks }

theorem view_worker {node : Node} {index : Nat} {worker : Worker String String} :
    node.view.workers[index]? = some worker ↔
      ∃ runner, node.runners[index]? = some runner ∧ runner.worker = worker := by
  simp only [view, List.getElem?_map, Option.map_eq_some_iff]

theorem entriesIn_view (node : Node) (projectId : String) :
    WorkerRegistry.entriesIn node.view projectId = node.projectSessionCount projectId := by
  simp only [WorkerRegistry.entriesIn, projectSessionCount, view, List.getElem?_map,
    Option.any_map]
  rfl

/-! ## The simulation -/

theorem worker_of_undisturbed {before after : Runner}
    (undisturbed : Undisturbed before.session after.session)
    (terminating : after.terminating = before.terminating) : after.worker = before.worker := by
  simp only [Runner.worker, undisturbed.same.sessionId, undisturbed.same.projectId,
    undisturbed.isDone, terminating]

theorem map_modify {α β : Type} (items : List α) (index : Nat) (change : α → α)
    (changed : β → β) (look : α → β)
    (commutes : ∀ item, items[index]? = some item → look (change item) = changed (look item)) :
    (items.modify index change).map look = (items.map look).modify index changed := by
  refine List.ext_getElem? fun place => ?_
  rw [List.getElem?_map, List.getElem?_modify, List.getElem?_modify, List.getElem?_map]
  cases found : items[place]? with
  | none => rfl
  | some item =>
      by_cases hit : index = place
      · subst hit
        simp [commutes item found]
      · simp [hit]

theorem view_updateSession (node : Node) (index : Nat) (change : Session → Session)
    (undisturbed : ∀ session, Undisturbed session (change session)) :
    (node.updateSession index change).view = node.view := by
  have workers : (node.updateSession index change).view.workers = node.view.workers := by
    have mapped := map_modify node.runners index
      (fun runner => { runner with session := change runner.session }) id Runner.worker
      (fun runner _ => worker_of_undisturbed (undisturbed runner.session) rfl)
    rw [List.modify_id] at mapped
    exact mapped
  simp only [view] at workers ⊢
  simp only [workers]
  rfl

theorem view_pop {node : Node} {sessionId : String} {index : Nat}
    (found : node.sessions.lookup sessionId = some index) :
    (node.pop sessionId index).view = WorkerRegistry.dismiss node.view sessionId := by
  have entry : node.view.entries.lookup sessionId = some index := found
  rw [WorkerRegistry.dismiss_eq entry]
  have mapped := map_modify node.runners index
    (fun runner => { runner with
      terminating := true
      session := { runner.session with
        state := { runner.session.state with
          inbox := runner.session.state.inbox.offer .stop } } })
    (fun worker => { worker with dismissed := true }) Runner.worker (fun runner _ => rfl)
  simp only [view, pop, mapped]

/-- What a schedule of the registry can be that hires nobody. -/
def Shadows (node next : Node) : Prop :=
  ∃ schedule, (∀ event ∈ schedule, event.hires = false) ∧
    exec WorkerRegistry.step node.view schedule = some next.view

theorem Shadows.of_view {node next : Node} (same : next.view = node.view) : Shadows node next :=
  ⟨[], by simp, by rw [same]; rfl⟩

theorem Shadows.of_step {node next : Node} (event : WorkerRegistry.Event String String)
    (noHire : event.hires = false)
    (run : WorkerRegistry.step node.view event = some next.view) : Shadows node next :=
  ⟨[event], by simpa using noHire, by simp [run]⟩

theorem Shadows.trans {first second third : Node} (front : Shadows first second)
    (back : Shadows second third) : Shadows first third := by
  obtain ⟨early, noHire, run⟩ := front
  obtain ⟨late, noHire', run'⟩ := back
  refine ⟨early ++ late, ?_, ?_⟩
  · intro event member
    rcases List.mem_append.mp member with before | after
    · exact noHire event before
    · exact noHire' event after
  · rw [exec_append, run]
    exact run'

theorem shadows_managed {node next : Node} (managed : Managed node next) : Shadows node next := by
  induction managed with
  | own same => exact .of_view (by simp only [view, same.runners, same.sessions, same.callbacks])
  | popped node found =>
      exact .of_step (.dismiss _) rfl (congrArg some (view_pop found).symm)
  | cancelled node index =>
      exact .of_view (view_updateSession node index _ requestCancel_undisturbed)
  | trans _ _ front back => exact front.trans back

/-- A step of a runner shows in the registry as its end, or not at all. -/
theorem view_advance {node : Node} {index : Nat} {runner : Runner} (event : RunnerEvent)
    {after : Session} (found : node.runners[index]? = some runner)
    (same : runner.session.SameSession after) :
    (node.advance index runner.session after event).view =
      { workers := node.view.workers.modify index
          fun worker => { worker with live := !after.isDone }
        entries := node.sessions
        pending := if after.isDone && !runner.session.isDone then
          node.callbacks ++ [(runner.session.state.sessionId, index)] else node.callbacks } := by
  have mapped := map_modify node.runners index (fun runner => { runner with session := after })
    (fun worker => { worker with live := !after.isDone }) Runner.worker (by
      intro item found'
      rw [found] at found'
      cases Option.some.inj found'
      simp only [Runner.worker, same.sessionId, same.projectId])
  simp only [view, advance, updateSession]
  rw [mapped]

theorem modify_same {α : Type} {items : List α} {index : Nat} {item : α} {change : α → α}
    (found : items[index]? = some item) (same : change item = item) :
    items.modify index change = items := by
  refine List.ext_getElem? fun place => ?_
  rw [List.getElem?_modify]
  by_cases hit : index = place
  · subst hit
    simp [found, same]
  · simp [hit]

theorem shadows_advance {node : Node} {index : Nat} {runner : Runner} {event : RunnerEvent}
    {after : Session} (quiet : Quiet node) (found : node.runners[index]? = some runner)
    (run : runner.session.step (node.clock, event) = some after) :
    Shadows node (node.advance index runner.session after event) := by
  have quietBefore := quiet index runner found
  have shape := view_advance event found (Session.same_step quietBefore run)
  have entry : node.view.workers[index]? = some runner.worker :=
    view_worker.mpr ⟨runner, found, rfl⟩
  cases ended : after.isDone && !runner.session.isDone with
  | true =>
      obtain ⟨done, live⟩ := Bool.and_eq_true_iff.mp ended
      refine .of_step (.finish index) rfl ?_
      rw [WorkerRegistry.step_finish entry live, shape, ended]
      simp only [WorkerRegistry.finish, done]
      rfl
  | false =>
      have live : (!after.isDone) = runner.worker.live := by
        cases done : runner.session.isDone with
        | false => simp_all [Runner.worker]
        | true =>
            have await := (Session.done_step quietBefore done run).1
            simp [Session.isDone, await, Runner.worker]
      refine .of_view ?_
      rw [shape, modify_same entry (by rw [live]), ended]
      rfl

theorem view_created {node : Node} {sessionId : String} {project : ProjectConfig}
    {apiKeyId : String} :
    ((node.create sessionId project apiKeyId).attach project node.runners.length).view =
      WorkerRegistry.hire node.view sessionId project.projectId := by
  simp only [view, attach, create, WorkerRegistry.hire, List.map_append, List.map_cons,
    List.map_nil, List.length_map]
  rfl

/-- Every step of a node is a creation, or a schedule of the registry without one. -/
theorem view_moved {node next : Node} {event : NodeEvent} (quiet : Quiet node)
    (moved : Moved node event next) :
    (∃ sessionId project apiKeyId, event = .getOrCreate sessionId project apiKeyId ∧
      node.Creates sessionId project ∧
      next.view = WorkerRegistry.hire node.view sessionId project.projectId) ∨
    ((∀ sessionId project apiKeyId, event = .getOrCreate sessionId project apiKeyId →
      ¬ node.Creates sessionId project) ∧ Shadows node next) := by
  cases moved with
  | managed manages managed =>
      refine Or.inr ⟨?_, shadows_managed managed⟩
      rintro sessionId project apiKeyId rfl
      cases manages
  | @resumed _ _ _ index entry =>
      refine Or.inr ⟨?_, .of_view (view_updateSession node index _ fun _ => touch_undisturbed _ _)⟩
      rintro sessionId project apiKeyId same ⟨free, _⟩
      cases same
      rw [entry] at free
      cases free
  | refused free full =>
      refine Or.inr ⟨?_, .of_view rfl⟩
      rintro sessionId project apiKeyId same ⟨_, room⟩
      cases same
      omega
  | @created sessionId project apiKeyId free room =>
      exact Or.inl ⟨sessionId, project, apiKeyId, rfl, ⟨free, room⟩, view_created⟩
  | advanced found run => exact Or.inr ⟨by simp, shadows_advance quiet found run⟩
  | @collected sessionId runner waiting =>
      refine Or.inr ⟨by simp, .of_step (.collect sessionId runner) rfl ?_⟩
      have listed : (sessionId, runner) ∈ node.view.pending := waiting
      simp only [WorkerRegistry.step, listed, if_true]
      rfl

/-- What carries the theorems below through a run. -/
def Formed (node : Node) : Prop := Quiet node ∧ WorkerRegistry.WellFormed node.view

theorem formed_initial (clock : Clock) : Formed (initial clock) :=
  ⟨quiet_initial clock, WorkerRegistry.wellFormed_empty⟩

theorem formed_moved {node next : Node} {event : NodeEvent} (formed : Formed node)
    (moved : Moved node event next) : Formed next := by
  refine ⟨quiet_moved formed.1 moved, ?_⟩
  rcases view_moved formed.1 moved with ⟨_, project, _, _, _, shape⟩ | ⟨_, schedule, _, run⟩
  · rw [shape]
    exact WorkerRegistry.wellFormed_hire _ _ formed.2
  · exact WorkerRegistry.wellFormed_exec formed.2 run

/-! ## The registry mirrors the live runners -/

/-- At most one runner task of a session id is not done. -/
def OneLiveRunner (node : Node) : Prop :=
  ∀ (i j : Nat) (first second : Runner), node.runners[i]? = some first →
    node.runners[j]? = some second → first.session.isDone = false →
    second.session.isDone = false →
    first.session.state.sessionId = second.session.state.sessionId → i = j

/-- Every runner task that is not done and not being terminated belongs to the
state registered under its session id. -/
def LiveRegistered (node : Node) : Prop :=
  ∀ index runner, node.runners[index]? = some runner → runner.session.isDone = false →
    runner.terminating = false →
    node.sessions.lookup runner.session.state.sessionId = some index

/-- No completion that is still to be reported removes a different session. -/
def OwnRemoval (node : Node) : Prop :=
  ∀ sessionId runner index, (sessionId, runner) ∈ node.callbacks →
    node.sessions.lookup sessionId = some index → index = runner

structure RegistryMirrors (node : Node) : Prop where
  oneLiveRunner : OneLiveRunner node
  liveRegistered : LiveRegistered node
  ownRemoval : OwnRemoval node

/-- A session is created only when all runners that had its id are done and the
removals their ends scheduled have run. -/
def CreatesWhenClear (node : Node) : NodeEvent → Prop
  | .getOrCreate sessionId project _ => node.Creates sessionId project →
      (∀ (index : Nat) runner, node.runners[index]? = some runner →
        runner.session.state.sessionId = sessionId → runner.session.isDone = true) ∧
      ∀ runner, (sessionId, runner) ∉ node.callbacks
  | _ => True

theorem mirrors_view (node : Node) :
    WorkerRegistry.Mirrors node.view ↔ RegistryMirrors node := by
  constructor
  · rintro ⟨exclusive, mirrored, own⟩
    refine ⟨?_, ?_, own⟩
    · intro i j first second atI atJ liveI liveJ sameId
      exact exclusive i j _ _ (view_worker.mpr ⟨first, atI, rfl⟩)
        (view_worker.mpr ⟨second, atJ, rfl⟩) (by simp [Runner.worker, liveI])
        (by simp [Runner.worker, liveJ]) sameId
    · intro index runner found live kept
      exact mirrored index _ (view_worker.mpr ⟨runner, found, rfl⟩)
        (by simp [Runner.worker, live]) kept
  · rintro ⟨exclusive, mirrored, own⟩
    refine ⟨?_, ?_, own⟩
    · intro i j first second atI atJ liveI liveJ sameKey
      obtain ⟨first', foundI, rfl⟩ := view_worker.mp atI
      obtain ⟨second', foundJ, rfl⟩ := view_worker.mp atJ
      exact exclusive i j first' second' foundI foundJ (by simpa [Runner.worker] using liveI)
        (by simpa [Runner.worker] using liveJ) sameKey
    · intro index worker found live kept
      obtain ⟨runner, found', rfl⟩ := view_worker.mp found
      exact mirrored index runner found' (by simpa [Runner.worker] using live) kept

theorem clear_view (node : Node) (sessionId : String) (projectId : String) :
    WorkerRegistry.Clear node.view (.hire sessionId projectId) ↔
      (∀ (index : Nat) runner, node.runners[index]? = some runner →
        runner.session.state.sessionId = sessionId → runner.session.isDone = true) ∧
      ∀ runner, (sessionId, runner) ∉ node.callbacks := by
  refine and_congr ?_ Iff.rfl
  constructor
  · intro clear index runner found sameId
    simpa [Runner.worker] using clear index _ (view_worker.mpr ⟨runner, found, rfl⟩) sameId
  · intro clear index worker found sameKey
    obtain ⟨runner, found', rfl⟩ := view_worker.mp found
    simpa [Runner.worker] using clear index runner found' sameKey

theorem mirrors_moved {node next : Node} {event : NodeEvent} (formed : Formed node)
    (settled : WorkerRegistry.Settled node.view) (mirrors : RegistryMirrors node)
    (moved : Moved node event next) :
    (RegistryMirrors next ↔ CreatesWhenClear node event) ∧
      (CreatesWhenClear node event → WorkerRegistry.Settled next.view) := by
  have mirrorsView := (mirrors_view node).mpr mirrors
  rw [← mirrors_view next]
  rcases view_moved formed.1 moved with
    ⟨sessionId, project, apiKeyId, rfl, creates, shape⟩ | ⟨noCreate, schedule, noHire, run⟩
  · have clear := clear_view node sessionId project.projectId
    have free : node.view.entries.lookup sessionId = none := creates.1
    have hired := WorkerRegistry.mirrors_hire project.projectId formed.2 mirrorsView free
    rw [shape]
    refine ⟨⟨fun held _ => clear.mp (hired.mp held), fun met => hired.mpr (clear.mpr (met creates))⟩,
      fun met => ?_⟩
    have hires : WorkerRegistry.step node.view (.hire sessionId project.projectId) =
        some (WorkerRegistry.hire node.view sessionId project.projectId) := by
      simp [WorkerRegistry.step, free]
    exact WorkerRegistry.settled_step settled (clear.mpr (met creates)) hires
  · have kept := WorkerRegistry.kept_noHire noHire ⟨formed.2, settled, mirrorsView⟩ run
    have met : CreatesWhenClear node event := by
      cases event with
      | getOrCreate sessionId project apiKeyId =>
          exact fun creates => absurd creates (noCreate _ _ _ rfl)
      | _ => trivial
    exact ⟨⟨fun _ => met, fun _ => kept.2.2⟩, fun _ => kept.2.1⟩

/-- The registry mirrors the live runners in every state of a run, if and only if
every session of the run was created when its id was clear. -/
theorem registryMirrors_iff (clock : Clock) (events : List NodeEvent) :
    Always step RegistryMirrors (initial clock) events ↔
      Along step CreatesWhenClear (initial clock) events := by
  refine always_iff_along
    (fun node => Formed node ∧ WorkerRegistry.Settled node.view) ?_ ?_
    ⟨formed_initial clock, WorkerRegistry.settled_empty⟩
    ((mirrors_view _).mp WorkerRegistry.mirrors_empty)
  · rintro node event next ⟨formed, settled⟩ mirrors run
    exact (mirrors_moved formed settled mirrors (step_moved run)).1
  · rintro node event next ⟨formed, settled⟩ mirrors met run
    exact ⟨formed_moved formed (step_moved run),
      (mirrors_moved formed settled mirrors (step_moved run)).2 met⟩

/-- The project of the failing runs: one session at a time. -/
def soloProject (projectId : String) : ProjectConfig :=
  { projectId := projectId, name := "Demo", systemPrompt := "Be brief.",
    maxConcurrentSessions := 1 }

/-- A session idles until a sweep takes it out of the registry; its runner is still
in the frame loop when the sweep waits for it. -/
def idleSweep (sessionId projectId : String) : List NodeEvent :=
  [.start, .getOrCreate sessionId (soloProject projectId) "key", .runner 0 (.start none),
    .runner 0 .connected, .tick 301000000000 0, .cleanupWake]

/-- The client reconnects during the sweep: two runners of one id. -/
theorem registryMirrors_fails :
    ¬ ∀ (clock : Clock) (events : List NodeEvent),
      Always step RegistryMirrors (initial clock) events := by
  intro always
  let events := idleSweep "s" "p" ++ [.getOrCreate "s" (soloProject "p") "key"]
  have shape : (exec step (initial ⟨0, 0⟩) events).map (fun node =>
      node.runners.map fun runner => (runner.session.isDone, runner.session.state.sessionId)) =
        some [(false, "s"), (false, "s")] := by decide
  obtain ⟨final, run, runners⟩ := Option.map_eq_some_iff.mp shape
  have mirrors := (always ⟨0, 0⟩ events).last run
  have place : ∀ index : Nat, index < 2 → ∃ runner, final.runners[index]? = some runner ∧
      (runner.session.isDone, runner.session.state.sessionId) = (false, "s") := by
    intro index small
    have look := congrArg (fun items => items[index]?) runners
    simp only [List.getElem?_map] at look
    have entry : [(false, "s"), (false, "s")][index]? = some (false, "s") := by
      match index with
      | 0 => rfl
      | 1 => rfl
    rw [entry] at look
    exact Option.map_eq_some_iff.mp look
  obtain ⟨first, atZero, factsZero⟩ := place 0 (by omega)
  obtain ⟨second, atOne, factsOne⟩ := place 1 (by omega)
  obtain ⟨liveZero, idZero⟩ := Prod.mk.inj factsZero
  obtain ⟨liveOne, idOne⟩ := Prod.mk.inj factsOne
  have same := mirrors.oneLiveRunner 0 1 first second atZero atOne liveZero liveOne
    (idZero.trans idOne.symm)
  cases same

/-! ## The cap on live sessions -/

def runnersWhere (node : Node) (keep : Nat → Runner → Bool) : Nat :=
  ((Finset.range node.runners.length).filter fun index =>
    (node.runners[index]?).any (keep index)).card

def registered (node : Node) (index : Nat) (runner : Runner) : Bool :=
  decide (node.sessions.lookup runner.session.state.sessionId = some index)

/-- The runner tasks of the project that are not done. -/
def liveRunners (node : Node) (projectId : String) : Nat :=
  node.runnersWhere fun _ runner =>
    !runner.session.isDone && decide (runner.session.state.projectId = projectId)

/-- Those of them that the registry does not count any more. -/
def strayRunners (node : Node) (projectId : String) : Nat :=
  node.runnersWhere fun index runner =>
    !runner.session.isDone && !node.registered index runner &&
      decide (runner.session.state.projectId = projectId)

/-- Registered sessions of the project whose runner is done. -/
def endedSessions (node : Node) (projectId : String) : Nat :=
  node.runnersWhere fun index runner =>
    runner.session.isDone && node.registered index runner &&
      decide (runner.session.state.projectId = projectId)

/-- A session of the project is created only while its strays are not more than
the registered sessions whose runner has ended. -/
def CreatesCovered (projectId : String) (node : Node) : NodeEvent → Prop
  | .getOrCreate sessionId project _ => project.projectId = projectId →
      node.Creates sessionId project →
      node.strayRunners projectId ≤ node.endedSessions projectId
  | _ => True

/-- The cap of the project is the same in every call. -/
def Capped (projectId : String) (cap : Nat) : NodeEvent → Prop
  | .getOrCreate _ project _ =>
      project.projectId = projectId → project.maxConcurrentSessions = cap
  | _ => True

instance (projectId : String) (node : Node) :
    (event : NodeEvent) → Decidable (CreatesCovered projectId node event)
  | .getOrCreate sessionId project _ => inferInstanceAs (Decidable (project.projectId = projectId →
      node.Creates sessionId project → node.strayRunners projectId ≤ node.endedSessions projectId))
  | .tick _ _ | .runner _ _ | .onRunnerDone _ _ | .start | .cleanupWake | .cleanupWait _
  | .cleanupCancelled | .terminate _ | .termination _ _ | .stop | .stopCleanupDone
  | .stopWait _ => isTrue trivial

instance (projectId : String) (cap : Nat) : DecidablePred (Capped projectId cap)
  | .getOrCreate _ project _ => inferInstanceAs (Decidable (project.projectId = projectId →
      project.maxConcurrentSessions = cap))
  | .tick _ _ | .runner _ _ | .onRunnerDone _ _ | .start | .cleanupWake | .cleanupWait _
  | .cleanupCancelled | .terminate _ | .termination _ _ | .stop | .stopCleanupDone
  | .stopWait _ => isTrue trivial

theorem select_view (node : Node) (keep : Nat → Worker String String → Bool) :
    (WorkerRegistry.select node.view keep).card =
      node.runnersWhere fun index runner => keep index runner.worker := by
  simp only [WorkerRegistry.select, runnersWhere, view, List.length_map, List.getElem?_map,
    Option.any_map]

theorem liveIn_view (node : Node) (projectId : String) :
    (WorkerRegistry.liveIn node.view projectId).card = node.liveRunners projectId :=
  select_view node _

theorem strayIn_view (node : Node) (projectId : String) :
    (WorkerRegistry.strayIn node.view projectId).card = node.strayRunners projectId :=
  select_view node _

theorem endedIn_view (node : Node) (projectId : String) :
    (WorkerRegistry.endedIn node.view projectId).card = node.endedSessions projectId := by
  refine (select_view node _).trans ?_
  simp only [endedSessions, Runner.worker, Bool.not_not]
  rfl

theorem liveRunners_moved {node next : Node} {event : NodeEvent} {projectId : String} {cap : Nat}
    (formed : Formed node) (within : node.liveRunners projectId ≤ cap)
    (covered : CreatesCovered projectId node event) (capped : Capped projectId cap event)
    (moved : Moved node event next) : next.liveRunners projectId ≤ cap := by
  rw [← liveIn_view] at within ⊢
  rcases view_moved formed.1 moved with
    ⟨sessionId, project, apiKeyId, rfl, creates, shape⟩ | ⟨_, schedule, noHire, run⟩
  · rw [shape]
    refine WorkerRegistry.liveIn_hire_le sessionId project.projectId formed.2 within fun own => ?_
    rw [entriesIn_view, strayIn_view, endedIn_view]
    -- the call that creates a session has compared the registry with the cap
    have checked := creates.2
    rw [own, capped own] at checked
    exact ⟨checked, covered own creates⟩
  · have shrunk := Finset.card_le_card (WorkerRegistry.liveIn_exec_subset projectId noHire run)
    exact shrunk.trans within

/-- The runner tasks of a project stay within its `max_concurrent_sessions` in every
state of a run in which no session of it is created while more of its runners run
unregistered than registered sessions of it have ended. -/
theorem liveRunners_le_of_covered {clock : Clock} {projectId : String} {cap : Nat}
    {events : List NodeEvent} (capped : ∀ event ∈ events, Capped projectId cap event)
    (covered : Along step (CreatesCovered projectId) (initial clock) events) :
    Always step (fun node => node.liveRunners projectId ≤ cap) (initial clock) events := by
  have within := always_of_along
    (fun node => Formed node ∧ node.liveRunners projectId ≤ cap)
    (fun node event next held met run =>
      ⟨formed_moved held.1 (step_moved run),
        liveRunners_moved held.1 held.2 met.1 met.2 (step_moved run)⟩)
    ⟨formed_initial clock, Nat.zero_le cap⟩ (covered.with_allowed capped)
  exact within.mono fun node held => held.2

/-- The runner takes the STOP frame, closes and records the session. -/
def sweptStop : List NodeEvent :=
  [.runner 0 .frame, .runner 0 .closed, .runner 0 .insertExecuted, .runner 0 .insertReturned,
    .cleanupWait .runnerDone]

theorem liveRunners_le_swept :
    let events := idleSweep "s" "p" ++ sweptStop ++ [.getOrCreate "t" (soloProject "p") "key"]
    (exec step (initial ⟨0, 0⟩) events).map (fun node => node.liveRunners "p") = some 1 ∧
      Always step (fun node => node.liveRunners "p" ≤ 1) (initial ⟨0, 0⟩) events :=
  ⟨by decide, liveRunners_le_of_covered (by decide) (by decide)⟩

theorem liveRunners_exceeds :
    ¬ ∀ (clock : Clock) (projectId : String) (cap : Nat) (events : List NodeEvent),
      (∀ event ∈ events, Capped projectId cap event) →
      Always step (fun node => node.liveRunners projectId ≤ cap) (initial clock) events := by
  intro always
  let events := idleSweep "s" "p" ++ [.getOrCreate "t" (soloProject "p") "key"]
  have shape : (exec step (initial ⟨0, 0⟩) events).map (fun node => node.liveRunners "p") =
      some 2 := by decide
  obtain ⟨final, run, live⟩ := Option.map_eq_some_iff.mp shape
  have within := (always ⟨0, 0⟩ "p" 1 events (by decide)).last run
  rw [live] at within
  omega

theorem projectSessionCount_created {node : Node} (formed : Formed node) {sessionId : String}
    {project : ProjectConfig} (apiKeyId : String) (creates : node.Creates sessionId project)
    (projectId : String) :
    (node.getOrCreate sessionId project apiKeyId).projectSessionCount projectId =
      node.projectSessionCount projectId + if project.projectId = projectId then 1 else 0 := by
  have created : node.getOrCreate sessionId project apiKeyId =
      (node.create sessionId project apiKeyId).attach project node.runners.length := by
    simp only [getOrCreate, creates.1, ge_iff_le, Nat.not_le_of_lt creates.2, if_false]
  rw [created, ← entriesIn_view, ← entriesIn_view, view_created]
  exact WorkerRegistry.entriesIn_hire _ _ formed.2 creates.1

/-- The sessions of a project become more only when one of it is created, and then at
most as many as the configuration of that call allows. -/
theorem projectSessionCount_moved {node next : Node} {event : NodeEvent} (formed : Formed node)
    (moved : Moved node event next) (projectId : String) :
    next.projectSessionCount projectId ≤ node.projectSessionCount projectId ∨
      ∃ sessionId project apiKeyId, event = .getOrCreate sessionId project apiKeyId ∧
        project.projectId = projectId ∧
        next.projectSessionCount projectId ≤ project.maxConcurrentSessions := by
  rw [← entriesIn_view node, ← entriesIn_view next]
  rcases view_moved formed.1 moved with
    ⟨sessionId, project, apiKeyId, rfl, creates, shape⟩ | ⟨_, schedule, noHire, run⟩
  · rw [shape, WorkerRegistry.entriesIn_hire project.projectId projectId formed.2 creates.1]
    by_cases own : project.projectId = projectId
    · refine Or.inr ⟨sessionId, project, apiKeyId, rfl, own, ?_⟩
      have room := creates.2
      rw [own, ← entriesIn_view node] at room
      rw [if_pos own]
      omega
    · rw [if_neg own]
      exact Or.inl (Nat.le_refl _)
  · exact Or.inl (WorkerRegistry.entriesIn_exec_le projectId formed.2 noHire run)

/-! ## Clients and the project of their session -/

/-- Every call was given a session of the project it asked for. -/
def AttachedToOwn (node : Node) : Prop :=
  ∀ attachment ∈ node.attachments, ∃ runner, node.runners[attachment.runner]? = some runner ∧
    runner.session.state.projectId = attachment.projectId

/-- The session registered under the id, if there is one, is of the project. -/
def OwnSessionId (node : Node) : NodeEvent → Prop
  | .getOrCreate sessionId project _ => ∀ index runner,
      node.sessions.lookup sessionId = some index → node.runners[index]? = some runner →
        runner.session.state.projectId = project.projectId
  | _ => True

theorem attachments_managed {node next : Node} (managed : Managed node next) :
    next.attachments = node.attachments := by
  induction managed with
  | own same => exact same.attachments
  | popped node found => rfl
  | cancelled node index => rfl
  | trans _ _ front back => exact back.trans front

theorem attached_kept {node next : Node} {event : NodeEvent} (quiet : Quiet node)
    (moved : Moved node event next) {attachment : Attachment}
    (held : ∃ runner, node.runners[attachment.runner]? = some runner ∧
      runner.session.state.projectId = attachment.projectId) :
    ∃ runner, next.runners[attachment.runner]? = some runner ∧
      runner.session.state.projectId = attachment.projectId := by
  obtain ⟨runner, found, own⟩ := held
  obtain ⟨after, found', same⟩ := runner_same_moved quiet moved found
  exact ⟨after, found', same.projectId.trans own⟩

theorem attachedToOwn_moved {node next : Node} {event : NodeEvent} (formed : Formed node)
    (attached : AttachedToOwn node) (moved : Moved node event next) :
    AttachedToOwn next ↔ OwnSessionId node event := by
  have kept : ∀ attachment ∈ node.attachments, ∃ runner,
      next.runners[attachment.runner]? = some runner ∧
        runner.session.state.projectId = attachment.projectId :=
    fun attachment member => attached_kept formed.1 moved (attached attachment member)
  have unchanged : next.attachments = node.attachments → AttachedToOwn next :=
    fun same attachment member => kept attachment (same ▸ member)
  have appended : ∀ attachment, next.attachments = node.attachments ++ [attachment] →
      (AttachedToOwn next ↔ ∃ runner, next.runners[attachment.runner]? = some runner ∧
        runner.session.state.projectId = attachment.projectId) := by
    intro attachment same
    constructor
    · exact fun all => all attachment (same ▸ List.mem_append_right _ List.mem_cons_self)
    · intro held other member
      rw [same] at member
      rcases List.mem_append.mp member with earlier | newest
      · exact kept other earlier
      · cases List.mem_singleton.mp newest
        exact held
  cases moved with
  | managed manages managed =>
      refine ⟨fun _ => ?_, fun _ => unchanged (attachments_managed managed)⟩
      cases event <;> trivial
  | @resumed sessionId project apiKeyId index entry =>
      rw [appended ⟨project.projectId, index⟩ rfl]
      obtain ⟨worker, listed, _⟩ := formed.2.entries sessionId index entry
      obtain ⟨runner, found, _⟩ := view_worker.mp listed
      have resumes : Moved node (.getOrCreate sessionId project apiKeyId) _ := .resumed entry
      obtain ⟨after, found', same⟩ := runner_same_moved formed.1 resumes found
      constructor
      · rintro ⟨after', at', own⟩ index' runner' entry' found''
        rw [entry] at entry'
        cases Option.some.inj entry'
        rw [found] at found''
        cases Option.some.inj found''
        cases Option.some.inj (found'.symm.trans at')
        exact same.projectId.symm.trans own
      · intro own
        exact ⟨after, found', same.projectId.trans (own index runner entry found)⟩
  | refused free full =>
      refine ⟨fun _ index runner entry => ?_, fun _ => unchanged rfl⟩
      rw [free] at entry
      cases entry
  | @created sessionId project apiKeyId free room =>
      rw [appended ⟨project.projectId, node.runners.length⟩ rfl]
      refine ⟨fun _ index runner entry => ?_, fun _ => ?_⟩
      · rw [free] at entry
        cases entry
      · refine ⟨⟨Session.spawn node.clock sessionId apiKeyId project true, false⟩, ?_, rfl⟩
        simp [attach, create]
  | advanced found run => exact ⟨fun _ => trivial, fun _ => unchanged rfl⟩
  | collected waiting => exact ⟨fun _ => trivial, fun _ => unchanged rfl⟩

/-- In every state of a run all calls were given sessions of their own project, if
and only if no call found a session of another project under its id. -/
theorem attachedToOwn_iff (clock : Clock) (events : List NodeEvent) :
    Always step AttachedToOwn (initial clock) events ↔
      Along step OwnSessionId (initial clock) events := by
  refine always_iff_along Formed ?_ ?_ (formed_initial clock) ?_
  · intro node event next formed attached run
    exact attachedToOwn_moved formed attached (step_moved run)
  · intro node event next formed _ _ run
    exact formed_moved formed (step_moved run)
  · intro attachment member
    cases member

/-- A client of project `q` sends the id of a live session of project `p`. -/
theorem attachedToOwn_fails :
    ¬ ∀ (clock : Clock) (events : List NodeEvent),
      Always step AttachedToOwn (initial clock) events := by
  intro always
  let events : List NodeEvent :=
    [.getOrCreate "s" (soloProject "p") "key", .getOrCreate "s" (soloProject "q") "other"]
  have shape : (exec step (initial ⟨0, 0⟩) events).map (fun node =>
      (node.attachments.map fun attachment => (attachment.projectId, attachment.runner),
        (node.runners[0]?).map fun runner => runner.session.state.projectId)) =
      some ([("p", 0), ("q", 0)], some "p") := by decide
  obtain ⟨final, run, facts⟩ := Option.map_eq_some_iff.mp shape
  obtain ⟨attachments, owner⟩ := Prod.mk.inj facts
  have stranger : (⟨"q", 0⟩ : Attachment) ∈ final.attachments := by
    have member : ("q", 0) ∈ final.attachments.map fun attachment =>
        (attachment.projectId, attachment.runner) := by simp [attachments]
    obtain ⟨⟨projectId, runner⟩, found, same⟩ := List.mem_map.mp member
    cases same
    exact found
  obtain ⟨runner, found, own⟩ := (always ⟨0, 0⟩ events).last run _ stranger
  have differs : some runner.session.state.projectId = some "p" := by
    rw [← owner, found]
    rfl
  rw [own] at differs
  exact absurd differs (by decide)

end Node

end LiveChat.Core.SessionManager
