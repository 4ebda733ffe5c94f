import LiveChat.Core.LifecycleEvents
import LiveChat.Core.SessionRecords

/-!
# Every session of a node runs as `session_runner` does

The manager owns the tasks and the states of all sessions, but it does three things to a session
only: a resume touches it, and a termination puts `STOP` and asks for its cancellation.  So a run
of a node is, at the place of each runner, a run of that runner alone, and what is proved about
the runs of one session holds of every session of a node.
-/

set_option autoImplicit false

namespace LiveChat.Core.SessionManager

open LiveChat.Foundation
open LiveChat.Foundation.TransitionSystem
open LiveChat.Core.GeminiRunner
open LiveChat.Core.GeminiRunner.Session (effects Leaves meets isConnected isInsertFailed)
open LiveChat.Core.SessionEvents (Library)

/-- What the manager does to a session. -/
def manages : RunnerEvent → Bool
  | .touch | .requestCancel | .putInbox .stop => true
  | _ => false

/-- A step of a session in the care of a manager. -/
structure Occurrence where
  /-- It came for the runner, and is not the manager's doing. -/
  own : Bool
  moment : Clock
  event : RunnerEvent

def Occurrence.entry (occurrence : Occurrence) : Clock × RunnerEvent :=
  (occurrence.moment, occurrence.event)

/-- The session ran from `before` to `after` by itself: on the events that came for it, and on
what the manager did in between. -/
structure RanBy (before after : Session) (came : List (Clock × RunnerEvent))
    (occurrences : List Occurrence) : Prop where
  run : exec Session.step before (occurrences.map Occurrence.entry) = some after
  came : (occurrences.filter Occurrence.own).map Occurrence.entry = came
  managed : ∀ occurrence ∈ occurrences, occurrence.own = false → manages occurrence.event = true

def Effect.inserted : Effect → Option SessionDoc
  | .inserts doc => some doc
  | .delivers _ => none

/-- The documents that the session hands to the collection on its course. -/
def handedOver (library : Library) (before : Session) (occurrences : List Occurrence) :
    List SessionDoc :=
  (emitted Session.step (effects library) before
    (occurrences.map Occurrence.entry)).filterMap Effect.inserted

namespace RanBy

theorem refl (session : Session) : RanBy session session [] [] :=
  ⟨rfl, rfl, fun _ member => absurd member List.not_mem_nil⟩

theorem trans {first second third : Session} {came later : List (Clock × RunnerEvent)}
    {front back : List Occurrence} (early : RanBy first second came front)
    (late : RanBy second third later back) : RanBy first third (came ++ later) (front ++ back) := by
  constructor
  · rw [List.map_append, exec_append, early.run]
    exact late.run
  · rw [List.filter_append, List.map_append, early.came, late.came]
  · intro occurrence member
    rcases List.mem_append.mp member with before | after
    · exact early.managed occurrence before
    · exact late.managed occurrence after

theorem handedOver_append {library : Library} {first second : Session}
    {came : List (Clock × RunnerEvent)} {front : List Occurrence} (back : List Occurrence)
    (early : RanBy first second came front) :
    handedOver library first (front ++ back) =
      handedOver library first front ++ handedOver library second back := by
  simp only [handedOver, List.map_append]
  rw [emitted_append _ early.run, List.filterMap_append]

theorem single {before after : Session} {moment : Clock} {event : RunnerEvent}
    (stepped : before.step (moment, event) = some after) :
    RanBy before after [(moment, event)] [⟨true, moment, event⟩] := by
  refine ⟨?_, rfl, ?_⟩
  · simp only [List.map_cons, List.map_nil, exec, Occurrence.entry, stepped, Option.bind_some]
  · intro occurrence member foreign
    obtain rfl := List.mem_singleton.mp member
    cases foreign

theorem byManager {before after : Session} {moment : Clock} {event : RunnerEvent}
    (manager : manages event = true) (stepped : before.step (moment, event) = some after) :
    RanBy before after [] [⟨false, moment, event⟩] := by
  refine ⟨?_, rfl, ?_⟩
  · simp only [List.map_cons, List.map_nil, exec, Occurrence.entry, stepped, Option.bind_some]
  · intro occurrence member _
    obtain rfl := List.mem_singleton.mp member
    exact manager

end RanBy

/-! ## The node -/

namespace Node

/-- The runner events among the events of the node, with the time at which they come. -/
def reaching (index : Nat) (node : Node) : NodeEvent → List (Clock × RunnerEvent)
  | .runner place event => if place = index then [(node.clock, event)] else []
  | _ => []

/-- A part of the node moved the session on by the manager's doings alone. -/
def Tends (node next : Node) : Prop :=
  ∀ (index : Nat) (before : Runner), node.runners[index]? = some before →
    ∃ (after : Runner) (occurrences : List Occurrence), next.runners[index]? = some after ∧
      RanBy before.session after.session [] occurrences

theorem tends_of_runners {node next : Node} (same : next.runners = node.runners) :
    Tends node next :=
  fun _ before found => ⟨before, [], same ▸ found, .refl _⟩

theorem Tends.trans {first second third : Node} (front : Tends first second)
    (back : Tends second third) : Tends first third := by
  intro index before found
  obtain ⟨middle, early, found', ran⟩ := front index before found
  obtain ⟨after, late, found'', ran'⟩ := back index middle found'
  exact ⟨after, early ++ late, found'', ran.trans ran'⟩

theorem tends_modify {node next : Node} {index : Nat} {change : Runner → Runner}
    (moment : Clock) (event : RunnerEvent)
    (runners : next.runners = node.runners.modify index change)
    (manager : manages event = true)
    (changed : ∀ runner, runner.session.step (moment, event) = some (change runner).session) :
    Tends node next := by
  intro place before found
  rw [runners]
  by_cases same : index = place
  · subst same
    refine ⟨change before, [⟨false, moment, event⟩], ?_, .byManager manager (changed before)⟩
    rw [List.getElem?_modify, found]
    simp
  · refine ⟨before, [], ?_, .refl _⟩
    rw [List.getElem?_modify, found]
    simp [same]

theorem tends_managed {node next : Node} (managed : Managed node next) : Tends node next := by
  induction managed with
  | own same => exact tends_of_runners same.runners
  | popped node found =>
      exact tends_modify node.clock (.putInbox .stop) rfl rfl fun _ => rfl
  | cancelled node index =>
      exact tends_modify node.clock .requestCancel rfl rfl fun _ => rfl
  | trans _ _ front back => exact front.trans back

/-- What one step of the node is to the runner at a place. -/
structure Shares (library : Library) (node next : Node) (event : NodeEvent) (index : Nat)
    (before after : Session) (occurrences : List Occurrence) : Prop where
  ran : RanBy before after (reaching index node event) occurrences
  records : ∃ added, added.Sublist (handedOver library before occurrences) ∧
    (next.recordsOf index).map Record.doc = (node.recordsOf index).map Record.doc ++ added

theorem shares_own (library : Library) {node : Node} {index : Nat} {runner : Runner}
    {after : Session} {event : RunnerEvent}
    (stepped : runner.session.step (node.clock, event) = some after) :
    Shares library node (node.advance index runner.session after event) (.runner index event) index
      runner.session after [⟨true, node.clock, event⟩] := by
  constructor
  · rw [reaching, if_pos rfl]
    exact .single stepped
  · cases writes : inserts runner.session event with
    | none =>
        refine ⟨[], List.nil_sublist _, ?_⟩
        rw [recordsOf_advance writes, List.append_nil]
    | some doc =>
        have hands : handedOver library runner.session [⟨true, node.clock, event⟩] = [doc] := by
          simp only [handedOver, List.map_cons, List.map_nil, Occurrence.entry]
          rw [emitted_singleton]
          unfold inserts at writes
          split at writes
          · rename_i here
            cases writes
            simp [effects, here, Effect.inserted]
          · cases writes
        rw [hands, recordsOf_insert writes]
        split
        · exact ⟨[doc], List.Sublist.refl _, by rw [List.map_append]; rfl⟩
        · exact ⟨[], List.nil_sublist _, (List.append_nil _).symm⟩

theorem shares_tended (library : Library) {node next : Node} {event : NodeEvent} {index : Nat}
    {before after : Session} {occurrences : List Occurrence}
    (ran : RanBy before after [] occurrences) (nothing : reaching index node event = [])
    (records : next.recordsOf index = node.recordsOf index) :
    Shares library node next event index before after occurrences := by
  refine ⟨nothing.symm ▸ ran, [], List.nil_sublist _, ?_⟩
  rw [records, List.append_nil]

theorem reaching_other {node : Node} {event : NodeEvent} {index : Nat}
    (other : ∀ stepped, event ≠ .runner index stepped) : reaching index node event = [] := by
  unfold reaching
  split
  · rename_i place stepped
    exact if_neg fun same => other stepped (by rw [same])
  · rfl

theorem tends_other {node next : Node} {event : NodeEvent} {index : Nat}
    (moved : Moved node event next) (other : ∀ stepped, event ≠ .runner index stepped)
    {before : Runner} (found : node.runners[index]? = some before) :
    ∃ (after : Runner) (occurrences : List Occurrence), next.runners[index]? = some after ∧
      RanBy before.session after.session [] occurrences := by
  cases moved with
  | managed manages managed => exact tends_managed managed index before found
  | resumed entry =>
      exact tends_modify node.clock .touch rfl rfl (fun _ => rfl) index before found
  | refused free full => exact ⟨before, [], found, .refl _⟩
  | created free room => exact ⟨before, [], Places.concat_keeps _ found, .refl _⟩
  | @advanced place stepped runner after found' run =>
      have apart : place ≠ index := fun same => other stepped (by rw [same])
      refine ⟨before, [], ?_, .refl _⟩
      simp [advance, updateSession, apart, found]
  | collected waiting => exact ⟨before, [], found, .refl _⟩

theorem moved_shares (library : Library) {node next : Node} {event : NodeEvent} {index : Nat}
    (moved : Moved node event next) {before : Runner}
    (found : node.runners[index]? = some before) :
    ∃ (after : Runner) (occurrences : List Occurrence), next.runners[index]? = some after ∧
      Shares library node next event index before.session after.session occurrences := by
  by_cases own : ∃ stepped, event = .runner index stepped
  · obtain ⟨stepped, rfl⟩ := own
    obtain ⟨runner, after, found', run, rfl, there⟩ := own_moved moved
    obtain rfl := Option.some.inj (found.symm.trans found')
    exact ⟨_, _, there, shares_own library run⟩
  · have other : ∀ stepped, event ≠ .runner index stepped :=
      fun stepped same => own ⟨stepped, same⟩
    obtain ⟨after, occurrences, there, ran⟩ := tends_other moved other found
    exact ⟨after, occurrences, there,
      shares_tended library ran (reaching_other other) (other_moved moved other).1⟩

/-- A runner after a step was there before, or the step created its session. -/
theorem spawned_of_moved {node next : Node} {event : NodeEvent} (moved : Moved node event next)
    {index : Nat} {after : Runner} (found : next.runners[index]? = some after) :
    (∃ before, node.runners[index]? = some before) ∨
      ∃ sessionId project apiKeyId, event = .getOrCreate sessionId project apiKeyId ∧
        index = node.runners.length ∧ node.Creates sessionId project ∧
        after.session = Session.spawn node.clock sessionId apiKeyId project true := by
  rcases runner_before_moved moved found with before | ⟨_, _, _, last, _⟩
  · exact Or.inl before
  · have beyond : node.runners.length < next.runners.length :=
      last ▸ (List.getElem?_eq_some_iff.mp found).1
    have grew : next.runners.length ≠ node.runners.length := (Nat.ne_of_lt beyond).symm
    cases moved with
    | managed manages managed => exact absurd managed.follows.length grew
    | resumed entry => exact absurd (List.length_modify ..) grew
    | refused free full => exact absurd rfl grew
    | @created sessionId project apiKeyId free room =>
        rcases Places.concat_source found with old | ⟨_, same⟩
        · exact Or.inl ⟨_, old⟩
        · exact Or.inr ⟨sessionId, project, apiKeyId, rfl, last, ⟨free, room⟩,
            congrArg Runner.session same⟩
    | advanced found' run => exact absurd (List.length_modify ..) grew
    | collected waiting => exact absurd rfl grew

/-! ## Whole runs -/

/-- The call that created the session at a place: it found no session of the id, and room. -/
structure CreatedBy (clock : Clock) (events : List NodeEvent) (index : Nat) (start : Session)
    (front back : List NodeEvent) (found : Node) (sessionId apiKeyId : String)
    (project : ProjectConfig) : Prop where
  split : events = front ++ .getOrCreate sessionId project apiKeyId :: back
  reached : exec step (initial clock) front = some found
  place : index = found.runners.length
  creates : found.Creates sessionId project
  spawned : start = Session.spawn found.clock sessionId apiKeyId project true

/-- The runner ran by itself from the call that created its session, on the events that came for
it and on what the manager did, and the collection holds of it what it handed over. -/
structure Ran (library : Library) (clock : Clock) (events : List NodeEvent) (node : Node)
    (index : Nat) (session start : Session) (occurrences : List Occurrence) : Prop where
  started : ∃ front back found sessionId apiKeyId project,
    CreatedBy clock events index start front back found sessionId apiKeyId project
  ran : RanBy start session (emitted step (reaching index) (initial clock) events) occurrences
  records : ((node.recordsOf index).map Record.doc).Sublist
    (handedOver library start occurrences)

structure Followed (library : Library) (clock : Clock) (events : List NodeEvent) (node : Node) :
    Prop where
  running : ∀ (index : Nat) (runner : Runner), node.runners[index]? = some runner →
    ∃ start occurrences, Ran library clock events node index runner.session start occurrences
  /-- Nothing happened yet at the places that are free. -/
  free : ∀ index, node.runners.length ≤ index →
    emitted step (reaching index) (initial clock) events = [] ∧ node.recordsOf index = []

theorem followed_initial (library : Library) (clock : Clock) :
    Followed library clock [] (initial clock) := by
  constructor
  · intro index runner found
    cases found
  · intro index _
    exact ⟨rfl, rfl⟩

theorem ran_step {library : Library} {clock : Clock} {front : List NodeEvent} {node next : Node}
    {event : NodeEvent} {index : Nat} {before after start : Session}
    {occurrences more : List Occurrence} (reached : exec step (initial clock) front = some node)
    (ran : Ran library clock front node index before start occurrences)
    (shares : Shares library node next event index before after more) :
    Ran library clock (front ++ [event]) next index after start (occurrences ++ more) := by
  obtain ⟨early, back, found, sessionId, apiKeyId, project, created⟩ := ran.started
  obtain ⟨added, fewer, records⟩ := shares.records
  refine ⟨⟨early, back ++ [event], found, sessionId, apiKeyId, project,
    { created with split := ?_ }⟩, ?_, ?_⟩
  · rw [created.split, List.append_assoc, List.cons_append]
  · rw [emitted_concat event reached]
    exact ran.ran.trans shares.ran
  · rw [records, ran.ran.handedOver_append]
    exact ran.records.append fewer

theorem followed_moved {library : Library} {clock : Clock} {front : List NodeEvent}
    {node next : Node} {event : NodeEvent} (reached : exec step (initial clock) front = some node)
    (followed : Followed library clock front node) (moved : Moved node event next) :
    Followed library clock (front ++ [event]) next := by
  have untouched : ∀ index, node.runners.length ≤ index →
      emitted step (reaching index) (initial clock) (front ++ [event]) = [] ∧
        next.recordsOf index = [] := by
    intro index beyond
    have other : ∀ stepped, event ≠ .runner index stepped := by
      rintro stepped rfl
      obtain ⟨runner, _, found, _⟩ := own_moved moved
      exact Nat.not_lt_of_le beyond (List.getElem?_eq_some_iff.mp found).1
    obtain ⟨nothing, none⟩ := followed.free index beyond
    rw [emitted_concat event reached, nothing, reaching_other other, (other_moved moved other).1]
    exact ⟨rfl, none⟩
  constructor
  · intro index after found
    rcases spawned_of_moved moved found with ⟨before, there⟩ |
      ⟨sessionId, project, apiKeyId, rfl, last, creates, spawned⟩
    · obtain ⟨start, occurrences, ran⟩ := followed.running index before there
      obtain ⟨after', more, here, shares⟩ := moved_shares library moved there
      obtain rfl := Option.some.inj (found.symm.trans here)
      exact ⟨start, occurrences ++ more, ran_step reached ran shares⟩
    · obtain ⟨nothing, none⟩ := untouched index (Nat.le_of_eq last.symm)
      refine ⟨after.session, [], ⟨⟨front, [], node, sessionId, apiKeyId, project,
        ⟨rfl, reached, last, creates, spawned⟩⟩, ?_, ?_⟩⟩
      · rw [nothing]
        exact .refl _
      · rw [none]
        exact List.nil_sublist _
  · intro index beyond
    refine untouched index (Nat.le_trans ?_ beyond)
    by_cases shorter : next.runners.length < node.runners.length
    · have found := List.getElem?_eq_getElem shorter
      obtain ⟨after, _, there, _⟩ := moved_shares library moved found
      exact absurd (List.getElem?_eq_some_iff.mp there).1 (Nat.lt_irrefl _)
    · exact Nat.le_of_not_lt shorter

theorem followed_exec (library : Library) {clock : Clock} {events : List NodeEvent} {node : Node}
    (run : exec step (initial clock) events = some node) : Followed library clock events node :=
  exec_history (Followed library clock) (followed_initial library clock)
    (fun _ _ _ _ reached followed stepped =>
      followed_moved reached followed (step_moved stepped)) run

/-- In every run of a node, whatever its manager does: each of its runners ran as `session_runner`
does, from the call that created its session on, through the events that came for it and the
touches, stops and cancellations of the manager; it left behind what such a run leaves, and the
collection holds no other record of it. -/
theorem sessions_run (library : Library) {clock : Clock} {events : List NodeEvent} {node : Node}
    (run : exec step (initial clock) events = some node) {index : Nat} {runner : Runner}
    (found : node.runners[index]? = some runner) :
    ∃ start occurrences,
      Ran library clock events node index runner.session start occurrences ∧
      Leaves library runner.session (meets isConnected (occurrences.map Occurrence.entry))
        (meets isInsertFailed (occurrences.map Occurrence.entry))
        (emitted Session.step (effects library) start (occurrences.map Occurrence.entry)) := by
  obtain ⟨start, occurrences, ran⟩ := (followed_exec library run).running index runner found
  refine ⟨start, occurrences, ran, ?_⟩
  obtain ⟨_, _, node, sessionId, apiKeyId, project, created⟩ := ran.started
  have run := ran.ran.run
  rw [created.spawned] at run ⊢
  exact Session.leaves_of_run library run

/-- Two sessions; the first is resumed, terminated while the second one connects, and recorded. -/
def overlappingEvents : List NodeEvent :=
  [.getOrCreate "first" Session.announcing "key", .getOrCreate "second" Session.announcing "key",
    .runner 0 (.start none), .runner 0 .connected, .getOrCreate "first" Session.announcing "key",
    .terminate "first", .runner 1 (.start none), .runner 0 .frame, .runner 1 .connected,
    .runner 0 .closed, .runner 0 .insertExecuted, .runner 0 .insertReturned]

theorem sessions_run_overlapping :
    ∃ node runner, exec step (initial ⟨0, 0⟩) overlappingEvents = some node ∧
      node.runners[0]? = some runner ∧ (node.recordsOf 0).length = 1 ∧
      ∃ start occurrences,
        Ran SessionEvents.idleLibrary ⟨0, 0⟩ overlappingEvents node 0 runner.session start
          occurrences ∧
        Leaves SessionEvents.idleLibrary runner.session
          (meets isConnected (occurrences.map Occurrence.entry))
          (meets isInsertFailed (occurrences.map Occurrence.entry))
          (emitted Session.step (effects SessionEvents.idleLibrary) start
            (occurrences.map Occurrence.entry)) := by
  refine ⟨_, _, rfl, rfl, rfl, ?_⟩
  exact sessions_run SessionEvents.idleLibrary rfl rfl

end Node

end LiveChat.Core.SessionManager
