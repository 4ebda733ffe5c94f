import LiveChat.Foundation.TransitionSystem
import LiveChat.Core.SessionManagerSteps

/-!
# One record for every run of a session

`session_runner` writes its record in the `finally` block, under the session id that
the client chose.  `OnCourse` says where a runner and its record stand as long as
nothing was lost: no record before the insert, one with the final counters after
it.  A runner leaves this course when it ends without reaching the insert, or when
the insert finds its id taken, and then its record is lost for good.
-/

set_option autoImplicit false

namespace LiveChat.Core.SessionManager.Node

open LiveChat.Foundation.TransitionSystem
open LiveChat.Core.GeminiRunner

def counters (doc : SessionDoc) : SessionState.Counters :=
  ⟨doc.turns, doc.toolCalls, doc.inputTokens, doc.outputTokens⟩

/-- The records that the runner wrote. -/
def recordsOf (node : Node) (index : Nat) : List Record :=
  node.records.filter fun record => decide (record.writer = index)

/-- The document is under the session's id and carries the counters it has now. -/
def AccountOf (session : Session) (doc : SessionDoc) : Prop :=
  doc.id = session.state.sessionId ∧ counters doc = session.state.counters

/-- The collection holds exactly one record of the runner, with its final counters. -/
def RecordedOnce (node : Node) (index : Nat) : Prop :=
  ∃ runner doc, node.runners[index]? = some runner ∧
    node.recordsOf index = [⟨doc, index⟩] ∧ AccountOf runner.session doc

/-- The step of a runner leads on to its record: the setup does not raise, the runner
is not cancelled before its first step or before its insert was executed, and the
insert finds no record under the session id. -/
def LeadsToRecord (node : Node) (session : Session) (event : RunnerEvent) : Prop :=
  match event, session.await with
  | .start (some _), .created | .cancelled, .created | .cancelled, .recording _ false => False
  | .insertExecuted, .recording _ false =>
      ∀ record ∈ node.records, record.doc.id ≠ session.state.sessionId
  | _, _ => True

def KeepsRecord (index : Nat) (node : Node) : NodeEvent → Prop
  | .runner place event => place = index → ∀ runner, node.runners[place]? = some runner →
      LeadsToRecord node runner.session event
  | _ => True

/-! ## The course of a runner and its record -/

def Course (session : Session) (index : Nat) (records : List Record) : Prop :=
  match session.await with
  | .recording doc false => AccountOf session doc ∧ records = []
  | .recording doc true => AccountOf session doc ∧ records = [⟨doc, index⟩]
  | .done _ => ∃ doc, AccountOf session doc ∧ records = [⟨doc, index⟩]
  | _ => records = []

def OnCourse (index : Nat) (node : Node) : Prop :=
  match node.runners[index]? with
  | none => node.recordsOf index = []
  | some runner => Course runner.session index (node.recordsOf index)

/-- The runner is past its insert, or done, and nothing was recorded. -/
def Strayed (session : Session) (records : List Record) : Prop :=
  records = [] ∧ (session.isDone = true ∨ ∃ doc, session.await = .recording doc true)

def Lost (index : Nat) (node : Node) : Prop :=
  ∃ runner, node.runners[index]? = some runner ∧
    Strayed runner.session (node.recordsOf index)

theorem course_inTry {session : Session} {index : Nat} {records : List Record}
    (inside : session.await.inTry = true) : Course session index records ↔ records = [] := by
  simp only [Course]
  cases here : session.await <;> simp_all [Await.inTry]

theorem course_undisturbed {before after : Session} {index : Nat} {records : List Record}
    (await : after.await = before.await) (sessionId : after.state.sessionId = before.state.sessionId)
    (counters : after.state.counters = before.state.counters)
    (course : Course before index records) : Course after index records := by
  simp only [Course, AccountOf, await, sessionId, counters] at course ⊢
  exact course

theorem strayed_undisturbed {before after : Session} {records : List Record}
    (await : after.await = before.await) (strayed : Strayed before records) :
    Strayed after records := by
  simp only [Strayed, Session.isDone, await] at strayed ⊢
  exact strayed

/-- What an insert adds to the records of a runner. -/
theorem filter_insertOne (records : List Record) (record : Record) (index : Nat) :
    (insertOne records record).filter (fun other => decide (other.writer = index)) =
      if record.writer = index ∧ ∀ other ∈ records, other.doc.id ≠ record.doc.id then
        records.filter (fun other => decide (other.writer = index)) ++ [record]
      else records.filter (fun other => decide (other.writer = index)) := by
  simp only [insertOne]
  by_cases taken : ∃ other ∈ records, other.doc.id = record.doc.id
  · have found : (records.any fun other => other.doc.id == record.doc.id) = true := by
      simpa using taken
    rw [if_pos found, if_neg]
    rintro ⟨_, free⟩
    obtain ⟨other, member, same⟩ := taken
    exact free other member same
  · have absent : (records.any fun other => other.doc.id == record.doc.id) = false := by
      simpa using taken
    have free : ∀ other ∈ records, other.doc.id ≠ record.doc.id :=
      fun other member same => taken ⟨other, member, same⟩
    rw [absent]
    by_cases own : record.writer = index
    · simpa [own] using free
    · simp [own]

/-! ## One step of the runner -/

section OwnStep
variable {node : Node} {index : Nat} {before after : Session} {event : RunnerEvent}

theorem recordsOf_advance (quietStep : inserts before event = none) :
    (node.advance index before after event).recordsOf index = node.recordsOf index := by
  simp only [recordsOf, advance, quietStep]

theorem recordsOf_insert {doc : SessionDoc} (writes : inserts before event = some doc) :
    (node.advance index before after event).recordsOf index =
      if ∀ other ∈ node.records, other.doc.id ≠ doc.id then
        node.recordsOf index ++ [⟨doc, index⟩] else node.recordsOf index := by
  simp only [recordsOf, advance, writes, filter_insertOne, true_and]

theorem inserts_none (idle : ∀ doc, before.await ≠ .recording doc false) :
    inserts before event = none := by
  simp only [inserts]
  split
  · rename_i doc here
    exact absurd here (idle doc)
  · rfl

theorem leadsToRecord_inTry (inside : before.await.inTry = true) :
    LeadsToRecord node before event := by
  simp only [LeadsToRecord]
  split
  all_goals
    first
    | trivial
    | (rename_i here
       simp [here, Await.inTry] at inside)

theorem leadsToRecord_around (surrounds : event.surroundsRunner = true) :
    LeadsToRecord node before event ∧ inserts before event = none := by
  cases event <;> simp_all [RunnerEvent.surroundsRunner, LeadsToRecord, inserts]

/-- A step that loses nothing and writes nothing. -/
theorem course_quiet (leads : LeadsToRecord node before event)
    (writesNone : inserts before event = none)
    (course : Course after index (node.recordsOf index)) :
    (LeadsToRecord node before event →
      Course after index ((node.advance index before after event).recordsOf index)) ∧
    (¬ LeadsToRecord node before event →
      Strayed after ((node.advance index before after event).recordsOf index)) := by
  rw [recordsOf_advance writesNone]
  exact ⟨fun _ => course, fun strays => absurd leads strays⟩

/-- A step that ends the runner without a record. -/
theorem course_abandoned (strays : ¬ LeadsToRecord node before event)
    (writesNone : inserts before event = none) (none : node.recordsOf index = [])
    (done : after.isDone = true) :
    (LeadsToRecord node before event →
      Course after index ((node.advance index before after event).recordsOf index)) ∧
    (¬ LeadsToRecord node before event →
      Strayed after ((node.advance index before after event).recordsOf index)) := by
  rw [recordsOf_advance writesNone]
  exact ⟨fun leads => absurd leads strays, fun _ => ⟨none, Or.inl done⟩⟩

theorem course_step (quiet : before.Quiet) (repo : before.sessionRepo = true)
    (accepted : event ≠ .insertFailed) (run : before.step (node.clock, event) = some after)
    (course : Course before index (node.recordsOf index)) :
    (LeadsToRecord node before event →
      Course after index ((node.advance index before after event).recordsOf index)) ∧
    (¬ LeadsToRecord node before event →
      Strayed after ((node.advance index before after event).recordsOf index)) := by
  obtain ⟨progress, resumed, rfl⟩ := Session.step_settles run
  cases Session.resume_moved quiet resumed with
  | inside inside stays after evolves =>
      refine course_quiet (leadsToRecord_inTry inside) (inserts_none ?_) ?_
      · intro doc here
        simp [here, Await.inTry] at inside
      · exact (course_inTry after).mpr ((course_inTry inside).mp course)
  | entered here =>
      refine course_quiet (by simp [LeadsToRecord]) (inserts_none (by simp [here])) ?_
      simpa [Course, here, Session.settle, Session.goto] using course
  | setupRaised exc here =>
      refine course_abandoned (by simp [LeadsToRecord, here]) (inserts_none (by simp [here])) ?_ rfl
      simpa [Course, here] using course
  | neverStarted here moved =>
      subst moved
      refine course_abandoned (by simp [LeadsToRecord, here]) (inserts_none (by simp [here])) ?_ rfl
      simpa [Course, here] using course
  | @left _ last moment inside leaves evolves outbox =>
      refine course_quiet (leadsToRecord_inTry inside) (inserts_none ?_) ?_
      · intro doc here
        simp [here, Await.inTry] at inside
      · have wired : last.sessionRepo = true := evolves.sessionRepo.trans repo
        rw [Session.settle_enterFinally, if_pos wired]
        exact ⟨⟨rfl, rfl⟩, (course_inTry inside).mp course⟩
  | around outside surrounds await evolves stopped counters accepted' =>
      have both : LeadsToRecord node before event ∧ inserts before event = none :=
        leadsToRecord_around surrounds
      obtain ⟨leads, idle⟩ := both
      exact course_quiet leads idle
        (course_undisturbed await evolves.state.sessionId counters course)
  | inserted doc here =>
      have writes : inserts before .insertExecuted = some doc := by simp [inserts, here]
      simp only [Course, here] at course
      obtain ⟨account, none⟩ := course
      have condition : LeadsToRecord node before .insertExecuted ↔
          ∀ other ∈ node.records, other.doc.id ≠ doc.id := by
        simp [LeadsToRecord, here, account.1]
      rw [recordsOf_insert writes, condition, none]
      constructor
      · intro free
        rw [if_pos free]
        exact ⟨account, rfl⟩
      · intro taken
        rw [if_neg taken]
        exact ⟨rfl, Or.inr ⟨doc, rfl⟩⟩
  | insertReturned doc here =>
      refine course_quiet (by simp [LeadsToRecord]) (inserts_none (by simp [here])) ?_
      simp only [Course, here] at course
      exact ⟨doc, course⟩
  | insertFailed doc here => exact absurd rfl accepted
  | interrupted doc executed here moved =>
      subst moved
      cases executed with
      | true =>
          refine course_quiet (by simp [LeadsToRecord, here]) (inserts_none (by simp [here])) ?_
          simp only [Course, here] at course
          exact ⟨doc, course⟩
      | false =>
          simp only [Course, here] at course
          exact course_abandoned (by simp [LeadsToRecord, here]) rfl course.2 rfl

theorem strayed_step (quiet : before.Quiet) (run : before.step (node.clock, event) = some after)
    (strayed : Strayed before (node.recordsOf index)) :
    Strayed after ((node.advance index before after event).recordsOf index) := by
  obtain ⟨none, past⟩ := strayed
  have idle : ∀ doc, before.await ≠ .recording doc false := by
    intro doc here
    rcases past with done | ⟨other, there⟩
    · simp [Session.isDone, here] at done
    · simp [here] at there
  rw [recordsOf_advance (inserts_none idle)]
  refine ⟨none, ?_⟩
  rcases past with done | ⟨doc, here⟩
  · have await := (Session.done_step quiet done run).1
    exact Or.inl (by simpa [Session.isDone, await] using done)
  · obtain ⟨progress, resumed, rfl⟩ := Session.step_settles run
    cases Session.resume_moved quiet resumed with
    | around outside surrounds await evolves stopped counters accepted =>
        exact Or.inr ⟨doc, await.trans here⟩
    | insertReturned doc' there => exact Or.inl rfl
    | interrupted doc' executed there moved => exact Or.inl (by rw [moved]; rfl)
    | inside inside stays after evolves => simp [here, Await.inTry] at inside
    | left moment inside leaves evolves outbox => simp [here, Await.inTry] at inside
    | entered there => simp [here] at there
    | setupRaised exc there => simp [here] at there
    | neverStarted there moved => simp [here] at there
    | inserted doc' there => simp [here] at there
    | insertFailed doc' there => simp [here] at there

end OwnStep

/-! ## One step of the node -/

/-- The manager gave every runner the session repository. -/
def Wired (node : Node) : Prop :=
  ∀ (index : Nat) runner, node.runners[index]? = some runner →
    runner.session.sessionRepo = true

theorem wired_moved {node next : Node} {event : NodeEvent} (quiet : Quiet node)
    (wired : Wired node) (moved : Moved node event next) : Wired next := by
  intro index after found
  rcases runner_before_moved moved found with ⟨before, found'⟩ | ⟨_, _, _, _, rfl⟩
  · obtain ⟨after', there, same⟩ := runner_same_moved quiet moved found'
    cases Option.some.inj (there.symm.trans found)
    exact same.sessionRepo.trans (wired index before found')
  · rfl

theorem records_managed {node next : Node} (managed : Managed node next) :
    next.records = node.records := by
  induction managed with
  | own same => exact same.records
  | popped node found => rfl
  | cancelled node index => rfl
  | trans _ _ front back => exact back.trans front

/-- A step of anything else leaves the runner and its records alone. -/
theorem other_moved {node next : Node} {event : NodeEvent} {index : Nat}
    (moved : Moved node event next) (other : ∀ stepped, event ≠ .runner index stepped) :
    next.recordsOf index = node.recordsOf index ∧
      ∀ before, node.runners[index]? = some before → ∃ after,
        next.runners[index]? = some after ∧ Undisturbed before.session after.session := by
  refine ⟨?_, fun before found => ?_⟩
  · cases moved with
    | managed manages managed => rw [recordsOf, records_managed managed, recordsOf]
    | resumed entry => rfl
    | refused free full => rfl
    | created free room => rfl
    | @advanced place stepped runner after found run =>
        have elsewhere : place ≠ index := fun same => other stepped (by rw [same])
        simp only [recordsOf, advance]
        split
        · rfl
        · simp [filter_insertOne, elsewhere]
    | collected waiting => rfl
  · obtain ⟨after, found', undisturbed | ⟨stepped, own, _⟩⟩ := runner_of_moved moved found
    · exact ⟨after, found', undisturbed⟩
    · exact absurd own (other stepped)

theorem own_moved {node next : Node} {index : Nat} {event : RunnerEvent}
    (moved : Moved node (.runner index event) next) :
    ∃ runner after, node.runners[index]? = some runner ∧
      runner.session.step (node.clock, event) = some after ∧
      next = node.advance index runner.session after event ∧
      next.runners[index]? = some { runner with session := after } := by
  cases moved with
  | managed manages managed => cases manages
  | @advanced _ _ runner after found run =>
      refine ⟨runner, after, found, run, rfl, ?_⟩
      simp [advance, updateSession, found]

theorem keepsRecord_other {node : Node} {event : NodeEvent} {index : Nat}
    (other : ∀ stepped, event ≠ .runner index stepped) : KeepsRecord index node event := by
  cases event with
  | runner place stepped => exact fun same => absurd (by rw [same]) (other stepped)
  | _ => trivial

theorem onCourse_moved {node next : Node} {event : NodeEvent} {index : Nat} (quiet : Quiet node)
    (wired : Wired node) (accepted : event ≠ .runner index .insertFailed)
    (onCourse : OnCourse index node) (moved : Moved node event next) :
    (KeepsRecord index node event → OnCourse index next) ∧
      (¬ KeepsRecord index node event → Lost index next) := by
  by_cases own : ∃ stepped, event = .runner index stepped
  · obtain ⟨stepped, rfl⟩ := own
    obtain ⟨runner, after, found, run, rfl, found'⟩ := own_moved moved
    simp only [OnCourse, found] at onCourse
    have condition : KeepsRecord index node (.runner index stepped) ↔
        LeadsToRecord node runner.session stepped := by
      constructor
      · exact fun keeps => keeps rfl runner found
      · rintro leads _ runner' there
        cases Option.some.inj (found.symm.trans there)
        exact leads
    have stepped' := course_step (quiet index runner found) (wired index runner found)
      (fun same => accepted (by rw [same])) run onCourse
    rw [condition]
    refine ⟨fun leads => ?_, fun strays => ⟨_, found', stepped'.2 strays⟩⟩
    simp only [OnCourse, found']
    exact stepped'.1 leads
  · have other : ∀ stepped, event ≠ .runner index stepped := fun stepped same => own ⟨stepped, same⟩
    obtain ⟨records, followed⟩ := other_moved moved other
    refine ⟨fun _ => ?_, fun strays => absurd (keepsRecord_other other) strays⟩
    cases found : node.runners[index]? with
    | some before =>
        obtain ⟨after, found', undisturbed⟩ := followed before found
        simp only [OnCourse, found] at onCourse
        simp only [OnCourse, found', records]
        exact course_undisturbed undisturbed.await undisturbed.same.sessionId
          undisturbed.counters onCourse
    | none =>
        simp only [OnCourse, found] at onCourse
        cases found' : next.runners[index]? with
        | none =>
            simp only [OnCourse, found', records]
            exact onCourse
        | some after =>
            simp only [OnCourse, found', records]
            rcases runner_before_moved moved found' with ⟨before, there⟩ | ⟨_, _, _, _, rfl⟩
            · rw [found] at there
              cases there
            · exact onCourse

theorem lost_moved {node next : Node} {event : NodeEvent} {index : Nat} (quiet : Quiet node)
    (lost : Lost index node) (moved : Moved node event next) : Lost index next := by
  obtain ⟨before, found, strayed⟩ := lost
  by_cases own : ∃ stepped, event = .runner index stepped
  · obtain ⟨stepped, rfl⟩ := own
    obtain ⟨runner, after, there, run, rfl, found'⟩ := own_moved moved
    cases Option.some.inj (found.symm.trans there)
    exact ⟨_, found', strayed_step (quiet index before found) run strayed⟩
  · have other : ∀ stepped, event ≠ .runner index stepped := fun stepped same => own ⟨stepped, same⟩
    obtain ⟨records, followed⟩ := other_moved moved other
    obtain ⟨after, found', undisturbed⟩ := followed before found
    refine ⟨after, found', ?_⟩
    rw [records]
    exact strayed_undisturbed undisturbed.await strayed

/-- A runner that is done has its one record, if and only if every step of it led on
to the record. -/
theorem recordedOnce_iff (clock : Clock) (events : List NodeEvent) (index : Nat) (final : Node)
    (runner : Runner) (accepting : NodeEvent.runner index .insertFailed ∉ events)
    (run : exec step (initial clock) events = some final)
    (found : final.runners[index]? = some runner) (done : runner.session.isDone = true) :
    RecordedOnce final index ↔ Along step (KeepsRecord index) (initial clock) events := by
  have course := course_of_exec
    (fun node => Quiet node ∧ Wired node ∧ OnCourse index node)
    (fun node => Quiet node ∧ Wired node ∧ Lost index node)
    (fun event => event ≠ .runner index .insertFailed)
    (fun node event next ok ⟨quiet, wired, onCourse⟩ met stepped =>
      ⟨quiet_moved quiet (step_moved stepped), wired_moved quiet wired (step_moved stepped),
        (onCourse_moved quiet wired ok onCourse (step_moved stepped)).1 met⟩)
    (fun node event next ok ⟨quiet, wired, onCourse⟩ unmet stepped =>
      ⟨quiet_moved quiet (step_moved stepped), wired_moved quiet wired (step_moved stepped),
        (onCourse_moved quiet wired ok onCourse (step_moved stepped)).2 unmet⟩)
    (fun node event next ok ⟨quiet, wired, lost⟩ stepped =>
      ⟨quiet_moved quiet (step_moved stepped), wired_moved quiet wired (step_moved stepped),
        lost_moved quiet lost (step_moved stepped)⟩)
    (by rintro event member rfl; exact accepting member)
    ⟨quiet_initial clock, fun _ _ none => by simp [initial] at none, rfl⟩ run
  rcases course with ⟨along, _, _, onCourse⟩ | ⟨stray, _, _, lost⟩
  · refine ⟨fun _ => along, fun _ => ?_⟩
    simp only [OnCourse, found, Course] at onCourse
    cases here : runner.session.await with
    | done outcome =>
        simp only [here] at onCourse
        obtain ⟨doc, account, records⟩ := onCourse
        exact ⟨runner, doc, found, records, account⟩
    | _ => simp [Session.isDone, here] at done
  · refine ⟨?_, fun along => absurd along stray⟩
    rintro ⟨_, doc, _, records, _⟩
    obtain ⟨_, _, none, _⟩ := lost
    rw [none] at records
    cases records

/-- A client opens session `s`, stops it, and its runner shuts down. -/
def stoppedSession (index : Nat) : List NodeEvent :=
  [.getOrCreate "s" { projectId := "p", name := "Demo", systemPrompt := "Be brief." } "key",
    .runner index (.start none), .runner index .connected, .runner index (.putInbox .stop),
    .runner index .frame, .runner index .closed, .runner index .insertExecuted,
    .runner index .insertReturned, .onRunnerDone "s" index]

theorem recordedOnce_stopped :
    ∃ final, exec step (initial ⟨0, 0⟩) (stoppedSession 0) = some final ∧
      (RecordedOnce final 0 ↔ Along step (KeepsRecord 0) (initial ⟨0, 0⟩) (stoppedSession 0)) := by
  have shape : (exec step (initial ⟨0, 0⟩) (stoppedSession 0)).map (fun node =>
      (node.runners[0]?).map fun runner => runner.session.isDone) = some (some true) := by decide
  obtain ⟨final, run, look⟩ := Option.map_eq_some_iff.mp shape
  obtain ⟨runner, found, done⟩ := Option.map_eq_some_iff.mp look
  exact ⟨final, run, recordedOnce_iff _ _ 0 final runner (by simp [stoppedSession]) run found done⟩

/-- The client comes back with the id of its ended session: the second run of the
session leaves no record. -/
theorem recordedOnce_fails :
    ¬ ∀ (clock : Clock) (events : List NodeEvent) (index : Nat) (final : Node) (runner : Runner),
      (∀ place, NodeEvent.runner place .insertFailed ∉ events) →
      exec step (initial clock) events = some final → final.runners[index]? = some runner →
      runner.session.isDone = true → RecordedOnce final index := by
  intro recorded
  have shape : (exec step (initial ⟨0, 0⟩) (stoppedSession 0 ++ stoppedSession 1)).map (fun node =>
      ((node.runners[1]?).map fun runner => runner.session.isDone,
        (node.recordsOf 1).length)) = some (some true, 0) := by decide
  obtain ⟨final, run, facts⟩ := Option.map_eq_some_iff.mp shape
  obtain ⟨look, none⟩ := Prod.mk.inj facts
  obtain ⟨runner, found, done⟩ := Option.map_eq_some_iff.mp look
  obtain ⟨_, _, _, records, _⟩ :=
    recorded _ _ 1 final runner (by simp [stoppedSession]) run found done
  rw [records] at none
  cases none

end LiveChat.Core.SessionManager.Node
