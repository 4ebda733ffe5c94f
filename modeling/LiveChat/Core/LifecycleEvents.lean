import LiveChat.Foundation.TransitionSystem
import LiveChat.Core.RunnerShutdown
import LiveChat.Core.SessionEvents
import LiveChat.Core.StateFrames

/-!
# The lifecycle events of a session and its record

Customers reconcile their own records with the platform's through the lifecycle webhooks.
`Effect` lists what a run of `session_runner` leaves behind: the delivery tasks it creates and
the document it inserts.  Whatever happens around the runner, a run leaves the started event
once its connection is open, at most one document, and one closing event exactly when the runner
returns; and all three give the same account of the session.
-/

set_option autoImplicit false

namespace LiveChat.Core.GeminiRunner

open LiveChat.Foundation
open LiveChat.Foundation.TransitionSystem
open LiveChat.Core.SessionEvents (Library Webhook Delivery deliverSessionStarted
  deliverSessionClosed microseconds)

inductive Effect where
  | delivers (delivery : Delivery)
  | inserts (doc : SessionDoc)

/-- `(ended_at - started_at).total_seconds()`. -/
def totalSeconds (startedAt endedAt : Instant) : Rat :=
  ((microseconds endedAt : Rat) - microseconds startedAt) / 1000000

namespace Session

def webhook (session : Session) : Webhook :=
  ⟨session.project.webhookUrl, session.project.webhookSecret⟩

def startedEvent (library : Library) (session : Session) : Option Delivery :=
  deliverSessionStarted library session.webhook session.state.sessionId session.project.projectId
    session.project.tenantId session.state.startedAt

def closedEvent (library : Library) (session : Session) (endedAt : Instant) : Option Delivery :=
  deliverSessionClosed library session.webhook session.state.sessionId session.project.projectId
    session.project.tenantId session.status.text session.state.startedAt endedAt
    (library.round (totalSeconds session.state.startedAt endedAt)).value session.state.counters
    session.errorMessage

/-- The local `ended_at` of the `finally` block, which was read where the document was built. -/
def endedAt (session : Session) (clock : Clock) : Instant :=
  match session.await with
  | .recording doc _ => doc.endedAt
  | _ => clock.utc

/-- What a step leaves behind; the closing event goes out with the last statements of the
`finally` block. -/
def effects (library : Library) (session : Session) : Clock × RunnerEvent → List Effect
  | (_, .connected) => (session.startedEvent library).toList.map .delivers
  | (_, .insertExecuted) =>
      match session.await with
      | .recording doc false => [.inserts doc]
      | _ => []
  | (clock, event) =>
      match session.resume clock event with
      | some (.ending last) =>
          (last.closedEvent library (session.endedAt clock)).toList.map .delivers
      | _ => []

/-! ## The account of a session -/

theorem startedAt_consumer {state next : SessionState} {consumer : Consumer}
    {event : ConsumerEvent} {progress : ConsumerProgress}
    (run : consumer.resume state event = some (next, progress)) :
    next.startedAt = state.startedAt := by
  unfold Consumer.resume at run
  split at run
  · rename_i message
    have same : (handleResponse state message).1 = next := congrArg Prod.fst (Option.some.inj run)
    obtain ⟨outbox, turns, forwarded⟩ := forwards_handleResponse state message
    rw [← same, forwarded]
    cases message.usageMetadata with
    | none => rfl
    | some usage =>
        simp only [captureUsage]
        split <;> rfl
  all_goals cases run <;> rfl

/-- Nothing that a step does to the state moves the start of the session. -/
theorem startedAt_frame :
    StateFrame fun before after => after.startedAt = before.startedAt where
  refl _ := rfl
  trans _ _ _ front back := back.trans front
  send _ _ _ := rfl
  stop _ := rfl
  take _ _ _ _ := rfl
  touch _ _ := rfl
  speaker _ _ := rfl

theorem startedAt_step {session next : Session} {clock : Clock} {event : RunnerEvent}
    (run : session.step (clock, event) = some next) :
    next.state.startedAt = session.state.startedAt := by
  rcases reader_shift (shift_step run) with ⟨consumer, given, progress, reads, resumed⟩ | rests
  · exact startedAt_consumer resumed
  · by_cases takes : event = .takeOutbox
    · subst takes
      obtain ⟨item, outbox, got, rfl⟩ := takeOutbox_step run
      rfl
    · exact startedAt_frame.step rests.1 takes (fun _ _ => rfl) run

/-- Outside the `try` statement nothing around the runner changes the account. -/
theorem sessionDoc_surround {session next : Session} {clock : Clock} {event : RunnerEvent}
    (stopped : session.receiver.any Receiver.isRunning = false)
    (surrounds : event.surroundsRunner = true) (run : session.surround clock event = some next)
    (endedAt : Instant) : next.sessionDoc endedAt = session.sessionDoc endedAt := by
  cases event with
  | requestCancel =>
      cases run
      unfold requestCancel
      split <;> rfl
  | receive event =>
      simp only [surround] at run
      split at run
      · rename_i consumer running
        simp [running, Receiver.isRunning] at stopped
      · cases run
  | takeOutbox =>
      obtain ⟨taken, got, rfl⟩ := Option.map_eq_some_iff.mp run
      rfl
  | receiverCancelled =>
      simp only [surround] at run
      split at run
      · cases run
        rfl
      · cases run
  | putInbox | touch =>
      cases run
      rfl
  | _ => cases surrounds

theorem surround_of_resume {session next : Session} {clock : Clock} {event : RunnerEvent}
    (surrounds : event.surroundsRunner = true)
    (resumed : session.resume clock event = some (.suspended next)) :
    session.surround clock event = some next := by
  have around : (session.surround clock event).map Progress.suspended = some (.suspended next) := by
    cases event <;> first | exact resumed | cases surrounds
  obtain ⟨next', run, same⟩ := Option.map_eq_some_iff.mp around
  rw [run, Progress.suspended.inj same]

theorem closedEvent_congr {library : Library} {session other : Session}
    (doc : ∀ endedAt, other.sessionDoc endedAt = session.sessionDoc endedAt)
    (project : other.project = session.project) (endedAt : Instant) :
    other.closedEvent library endedAt = session.closedEvent library endedAt := by
  have same := doc endedAt
  simp only [sessionDoc, SessionDoc.mk.injEq] at same
  obtain ⟨sessionId, _, _, _, status, startedAt, _, turns, toolCalls, input, output, error⟩ := same
  simp only [closedEvent, webhook, SessionState.counters, project, sessionId, status, startedAt,
    turns, toolCalls, input, output, error]

/-- Before the connection is open. -/
def unopened (session : Session) : Bool :=
  match session.await with
  | .created | .connecting => true
  | _ => false

theorem connected_step {session next : Session} {clock : Clock}
    (run : session.step (clock, .connected) = some next) :
    session.await = .connecting ∧ next.await = .nextFrame := by
  obtain ⟨progress, resumed, rfl⟩ := step_settles run
  simp only [resume, RunnerEvent.resumesRunner, if_true] at resumed
  split at resumed
  · cases resumed
  · simp only [resumeRunner] at resumed
    split at resumed
    · rename_i here
      cases resumed
      exact ⟨here, rfl⟩
    · cases resumed

theorem unopened_handleFrame {session : Session} (frame : InputFrame)
    (opened : session.unopened = false) : (session.handleFrame frame).unopened = false := by
  cases frame with
  | activityStart =>
      simp only [handleFrame]
      split <;> rfl
  | text payload =>
      simp only [handleFrame]
      split
      · exact opened
      · rfl
  | setSpeaker payload => exact opened
  | _ => rfl

theorem unopened_step {session next : Session} {clock : Clock} {event : RunnerEvent}
    (run : session.step (clock, event) = some next) (waits : next.unopened = true) :
    session.unopened = true ∧ event ≠ .connected := by
  constructor
  · cases shift_step run with
    | stands apart await receiver rests => simpa only [unopened, await] using waits
    | passedOn here await receiver rests => simpa only [unopened, await] using waits
    | entered here await receiver rests => simp only [unopened, here]
    | opened here await receiver rests => simp only [unopened, here]
    | @took frame inbox clock here got =>
        have opened : (session.hear clock inbox).unopened = false := by
          simp only [unopened, hear, here]
        rw [unopened_handleFrame frame opened] at waits
        cases waits
    | received running resumed => exact waits
    | returned running resumed => exact waits
    | receiverCancelled cancelling => exact waits
    | @textTurned _ _ _ alive here resumed => cases alive <;> cases waits
    | read here resumed => cases waits
    | voiceEnded apart here await receiver rests =>
        by_cases absent : session.receiver = none <;> simp [unopened, await, absent] at waits
    | @voiceTurned alive _ here returned await receiver rests =>
        cases alive <;> simp [unopened, await] at waits
    | left apart gone receiver rests =>
        cases here : next.await <;> simp_all [unopened, Await.lives]
    | spawned here await receiver rests => simp [unopened, await] at waits
    | textSent here await receiver rests => simp [unopened, await] at waits
    | audioSent here await receiver rests => simp [unopened, await] at waits
    | sendFailed here await receiver rests => simp [unopened, await] at waits
    | joined apart here idle await receiver rests => simp [unopened, await] at waits
  · rintro rfl
    obtain ⟨_, here⟩ := connected_step run
    simp [unopened, here] at waits

/-! ## What a run leaves behind -/

def isConnected : RunnerEvent → Bool
  | .connected => true
  | _ => false

theorem isConnected_of_ne {event : RunnerEvent} (other : event ≠ .connected) :
    isConnected event = false := by
  cases event with
  | connected => exact absurd rfl other
  | _ => rfl

def isInsertFailed : RunnerEvent → Bool
  | .insertFailed => true
  | _ => false

/-- Whether one of the events meets the test. -/
def meets (test : RunnerEvent → Bool) (events : List (Clock × RunnerEvent)) : Bool :=
  events.any fun event => test event.2

/-- The documents inserted up to here give the account of the session; there is at most one.
A runner that returned has none only without a repository, or when its insert failed. -/
def Recorded (session : Session) (failed : Bool) (records : List SessionDoc) : Prop :=
  match session.await with
  | .recording doc executed =>
      doc = session.sessionDoc doc.endedAt ∧ records = if executed then [doc] else []
  | .done .returned =>
      records = [] ∧ (session.sessionRepo = false ∨ failed = true) ∨
        ∃ endedAt, records = [session.sessionDoc endedAt]
  | .done .cancelled => records = [] ∨ ∃ endedAt, records = [session.sessionDoc endedAt]
  | _ => records = []

/-- The closing event gives the account of the session, and goes out when the runner returns. -/
def Closed (library : Library) (session : Session) (closing : List Delivery) : Prop :=
  match session.await with
  | .done .returned => ∃ endedAt, closing = (session.closedEvent library endedAt).toList
  | _ => closing = []

/-- What is left behind at this point of a run. -/
def Leaves (library : Library) (session : Session) (connected failed : Bool)
    (effects : List Effect) : Prop :=
  ∃ records closing, Recorded session failed records ∧ Closed library session closing ∧
    effects = (if connected then (session.startedEvent library).toList else []).map .delivers ++
      records.map .inserts ++ closing.map .delivers

/-- Nothing was inserted, and nothing will have been, at these awaits. -/
def unrecorded (session : Session) : Bool :=
  match session.await with
  | .recording _ _ | .done .returned | .done .cancelled => false
  | _ => true

theorem unrecorded_of_inTry {session : Session} (inside : session.await.inTry = true) :
    session.unrecorded = true := by
  cases here : session.await <;> simp_all [Await.inTry, unrecorded]

theorem recorded_of_unrecorded {session : Session} {failed : Bool} {records : List SessionDoc}
    (none : session.unrecorded = true) : Recorded session failed records ↔ records = [] := by
  unfold Recorded
  cases here : session.await with
  | done outcome => cases outcome <;> simp_all [unrecorded]
  | recording doc executed => simp [unrecorded, here] at none
  | _ => rfl

theorem recorded_mono {session : Session} {failed : Bool} {records : List SessionDoc}
    (more : Bool) (recorded : Recorded session failed records) :
    Recorded session (failed || more) records := by
  cases here : session.await with
  | done outcome =>
      cases outcome with
      | returned =>
          simp only [Recorded, here] at recorded ⊢
          rcases recorded with ⟨empty, why⟩ | there
          · exact Or.inl ⟨empty, why.imp_right fun failed => by rw [failed, Bool.true_or]⟩
          · exact Or.inr there
      | raised exc => simpa only [Recorded, here] using recorded
      | cancelled => simpa only [Recorded, here] using recorded
  | _ => simpa only [Recorded, here] using recorded

theorem closed_of_ne {library : Library} {session : Session} {closing : List Delivery}
    (going : session.await ≠ .done .returned) :
    Closed library session closing ↔ closing = [] := by
  unfold Closed
  cases here : session.await with
  | done outcome => cases outcome <;> simp_all
  | _ => rfl

theorem ne_returned_of_inTry {session : Session} (inside : session.await.inTry = true) :
    session.await ≠ .done .returned := by
  intro here
  simp [here, Await.inTry] at inside

/-! ## One step -/

section OwnStep
variable {library : Library} {session next : Session} {clock : Clock} {event : RunnerEvent}
  {connected failed : Bool} {effects : List Effect}

theorem startedEvent_step (quiet : session.Quiet) (run : session.step (clock, event) = some next) :
    next.startedEvent library = session.startedEvent library := by
  obtain ⟨sessionId, _, project, _⟩ := same_step quiet run
  simp only [startedEvent, webhook, sessionId, project, startedAt_step run]

theorem effects_suspended (resumed : session.resume clock event = some (.suspended next))
    (other : event ≠ .connected)
    (idle : event ≠ .insertExecuted ∨ ∀ doc, session.await ≠ .recording doc false) :
    session.effects library (clock, event) = [] := by
  cases event with
  | connected => exact absurd rfl other
  | insertExecuted =>
      have free := idle.resolve_left fun differs => differs rfl
      simp only [Session.effects]
  | _ => simp only [Session.effects, resumed]

theorem effects_ending {last : Session} (resumed : session.resume clock event = some (.ending last))
    (other : event ≠ .connected) (idle : event ≠ .insertExecuted) :
    session.effects library (clock, event) =
      (last.closedEvent library (session.endedAt clock)).toList.map .delivers := by
  cases event with
  | connected => exact absurd rfl other
  | insertExecuted => exact absurd rfl idle
  | _ => simp only [Session.effects, resumed]

theorem leaves_quiet (quiet : session.Quiet) (run : session.step (clock, event) = some next)
    (other : event ≠ .connected) (nothing : session.effects library (clock, event) = [])
    (recorded : ∀ records, Recorded session failed records →
      Recorded next (failed || isInsertFailed event) records)
    (closed : ∀ closing, Closed library session closing → Closed library next closing)
    (leaves : Leaves library session connected failed effects) :
    Leaves library next (connected || isConnected event)
      (failed || isInsertFailed event) (effects ++ session.effects library (clock, event)) := by
  obtain ⟨records, closing, recorded', closed', rfl⟩ := leaves
  refine ⟨records, closing, recorded records recorded', closed closing closed', ?_⟩
  rw [nothing, isConnected_of_ne other, Bool.or_false, startedEvent_step quiet run,
    List.append_nil]

/-- The step with which the runner returns: the closing event goes out. -/
theorem leaves_ending {last : Session} (quiet : session.Quiet)
    (run : session.step (clock, event) = some last.shutdown)
    (resumed : session.resume clock event = some (.ending last)) (other : event ≠ .connected)
    (idle : event ≠ .insertExecuted)
    (recorded : ∀ records, Recorded session failed records →
      Recorded last.shutdown (failed || isInsertFailed event) records)
    (closed : ∀ closing, Closed library session closing → closing = [])
    (leaves : Leaves library session connected failed effects) :
    Leaves library last.shutdown (connected || isConnected event)
      (failed || isInsertFailed event) (effects ++ session.effects library (clock, event)) := by
  obtain ⟨records, closing, recorded', closed', rfl⟩ := leaves
  cases closed closing closed'
  refine ⟨records, (last.closedEvent library (session.endedAt clock)).toList,
    recorded records recorded', ⟨session.endedAt clock, rfl⟩, ?_⟩
  rw [effects_ending resumed other idle, isConnected_of_ne other, Bool.or_false,
    startedEvent_step quiet run, List.map_nil, List.append_nil]

theorem leaves_step (quiet : session.Quiet) (fresh : session.unopened = true → connected = false)
    (leaves : Leaves library session connected failed effects)
    (run : session.step (clock, event) = some next) :
    Leaves library next (connected || isConnected event)
      (failed || isInsertFailed event) (effects ++ session.effects library (clock, event)) := by
  have stepped := run
  obtain ⟨progress, resumed, rfl⟩ := step_settles run
  cases resume_moved quiet resumed with
  | inside before stays after evolves =>
      have recorded : ∀ records, Recorded session failed records →
          Recorded _ (failed || isInsertFailed event) records :=
        fun records kept => (recorded_of_unrecorded (unrecorded_of_inTry after)).mpr
          ((recorded_of_unrecorded (unrecorded_of_inTry before)).mp kept)
      have closed : ∀ closing, Closed library session closing → Closed library _ closing :=
        fun closing kept => (closed_of_ne (ne_returned_of_inTry after)).mpr
          ((closed_of_ne (ne_returned_of_inTry before)).mp kept)
      by_cases opens : event = .connected
      · subst opens
        obtain ⟨here, _⟩ := connected_step stepped
        have unconnected := fresh (by simp only [unopened, here])
        obtain ⟨records, closing, recorded', closed', rfl⟩ := leaves
        have noRecords := (recorded_of_unrecorded (unrecorded_of_inTry before)).mp recorded'
        have noClosing := (closed_of_ne (ne_returned_of_inTry before)).mp closed'
        refine ⟨records, closing, recorded records recorded', closed closing closed', ?_⟩
        simp [Session.effects, isConnected, unconnected, noRecords, noClosing,
          startedEvent_step quiet stepped]
      · refine leaves_quiet quiet stepped opens (effects_suspended resumed opens (Or.inr ?_)) recorded closed
          leaves
        intro doc here
        simp [here, Await.inTry] at before
  | entered here =>
      refine leaves_quiet quiet stepped (by simp)
        (effects_suspended resumed (by simp) (Or.inl (by simp))) (fun records kept => ?_)
        (fun closing kept => ?_) leaves
      · exact (recorded_of_unrecorded (by simp [unrecorded, here])).mp kept
      · exact (closed_of_ne (by simp [here])).mp kept
  | setupRaised exc here =>
      refine leaves_quiet quiet stepped (by simp)
        (effects_suspended resumed (by simp) (Or.inl (by simp))) (fun records kept => ?_)
        (fun closing kept => ?_) leaves
      · exact (recorded_of_unrecorded (by simp [unrecorded, here])).mp kept
      · exact (closed_of_ne (by simp [here])).mp kept
  | neverStarted here moved =>
      subst moved
      refine leaves_quiet quiet stepped (by simp)
        (effects_suspended resumed (by simp) (Or.inl (by simp))) (fun records kept => ?_)
        (fun closing kept => ?_) leaves
      · exact Or.inl ((recorded_of_unrecorded (by simp [unrecorded, here])).mp kept)
      · exact (closed_of_ne (by simp [here])).mp kept
  | @left _ last moment before leaves' evolves outbox =>
      have opens : event ≠ .connected := by
        rintro rfl
        cases leaves'
      have idle : event ≠ .insertExecuted := by
        rintro rfl
        cases leaves'
      have noRecords : ∀ records, Recorded session failed records → records = [] :=
        fun records => (recorded_of_unrecorded (unrecorded_of_inTry before)).mp
      have noClosing : ∀ closing, Closed library session closing → closing = [] :=
        fun closing => (closed_of_ne (ne_returned_of_inTry before)).mp
      cases wired : last.sessionRepo with
      | true =>
          have entered : last.enterFinally moment = .suspended
              (last.cancelReceiver.goto (.recording (last.cancelReceiver.sessionDoc moment.utc)
                false)) := by
            simp [enterFinally, cancelReceiver, wired]
          rw [entered] at resumed stepped ⊢
          exact leaves_quiet quiet stepped opens (effects_suspended resumed opens (Or.inl idle))
            (fun records kept => ⟨rfl, noRecords records kept⟩) noClosing leaves
      | false =>
          have entered : last.enterFinally moment = .ending last.cancelReceiver := by
            simp [enterFinally, cancelReceiver, wired]
          rw [entered] at resumed stepped ⊢
          exact leaves_ending quiet stepped resumed opens idle
            (fun records kept => Or.inl ⟨noRecords records kept, Or.inl wired⟩) noClosing leaves
  | @around _ next before surrounds await evolves stopped counters accepted =>
      have account := sessionDoc_surround (quiet before) surrounds
        (surround_of_resume surrounds resumed)
      have opens : event ≠ .connected := by
        rintro rfl
        cases surrounds
      have idle : event ≠ .insertExecuted := by
        rintro rfl
        cases surrounds
      refine leaves_quiet quiet stepped opens (effects_suspended resumed opens (Or.inl idle))
        (fun records kept => ?_) (fun closing kept => ?_) leaves
      · have later := recorded_mono (isInsertFailed event) kept
        simp only [settle, Recorded, await, account, evolves.sessionRepo]
        exact later
      · simp only [settle, Closed, await, closedEvent_congr account evolves.project]
        exact kept
  | inserted doc here =>
      obtain ⟨records, closing, recorded, closed, rfl⟩ := leaves
      simp only [Recorded, here] at recorded
      obtain ⟨account, rfl⟩ := recorded
      have none : closing = [] := (closed_of_ne (by simp [here])).mp closed
      refine ⟨[doc], closing, ⟨account, rfl⟩, none, ?_⟩
      simp [Session.effects, here, isConnected, none, startedEvent_step quiet stepped]
  | insertReturned doc here =>
      refine leaves_ending quiet stepped resumed (by simp) (by simp) (fun records kept => ?_)
        (fun closing kept => (closed_of_ne (by simp [here])).mp kept) leaves
      simp only [Recorded, here, if_true] at kept
      exact Or.inr ⟨doc.endedAt, kept.2.trans (congrArg (fun doc => [doc]) kept.1)⟩
  | insertFailed doc here =>
      refine leaves_ending quiet stepped resumed (by simp) (by simp) (fun records kept => ?_)
        (fun closing kept => (closed_of_ne (by simp [here])).mp kept) leaves
      simp only [Recorded, here] at kept
      exact Or.inl ⟨kept.2, Or.inr (Bool.or_true failed)⟩
  | interrupted doc executed here moved =>
      subst moved
      refine leaves_quiet quiet stepped (by simp)
        (effects_suspended resumed (by simp) (Or.inl (by simp))) (fun records kept => ?_)
        (fun closing kept => ?_) leaves
      · simp only [Recorded, here] at kept
        obtain ⟨account, rfl⟩ := kept
        cases executed with
        | false => exact Or.inl rfl
        | true => exact Or.inr ⟨doc.endedAt, congrArg (fun doc => [doc]) account⟩
      · exact (closed_of_ne (by simp [here])).mp kept

end OwnStep

/-! ## Whole runs -/

theorem meets_concat (test : RunnerEvent → Bool) (front : List (Clock × RunnerEvent))
    (clock : Clock) (event : RunnerEvent) :
    meets test (front ++ [(clock, event)]) = (meets test front || test event) := by
  simp [meets]

theorem leaves_of_run (library : Library) {clock : Clock} {sessionId apiKeyId : String}
    {project : ProjectConfig} {sessionRepo : Bool} {events : List (Clock × RunnerEvent)}
    {final : Session}
    (run : exec step (spawn clock sessionId apiKeyId project sessionRepo) events = some final) :
    Leaves library final (meets isConnected events) (meets isInsertFailed events)
      (emitted step (effects library) (spawn clock sessionId apiKeyId project sessionRepo)
        events) := by
  refine (exec_history (fun front session => session.Quiet ∧
      (session.unopened = true → meets isConnected front = false) ∧
      Leaves library session (meets isConnected front) (meets isInsertFailed front)
        (emitted step (effects library) (spawn clock sessionId apiKeyId project sessionRepo) front))
    ?_ ?_ run).2.2
  · exact ⟨quiet_spawn _ _ _ _ _, fun _ => rfl, [], [], rfl, rfl, rfl⟩
  · rintro front session ⟨moment, event⟩ next reached ⟨quiet, fresh, leaves⟩ stepped
    rw [meets_concat, meets_concat, emitted_concat _ reached]
    refine ⟨quiet_step quiet stepped, fun waits => ?_, leaves_step quiet fresh leaves stepped⟩
    obtain ⟨waited, other⟩ := unopened_step stepped waits
    rw [fresh waited, isConnected_of_ne other, Bool.or_false]

/-- In every run of a session: the started event goes out when the connection opens, and never
again; at most one document is inserted, and it gives the account of the session; one closing
event goes out when the runner returns, after the document, and none otherwise.  All of them
name the same session, project, tenant and start. -/
theorem leaves_exec (library : Library) {clock : Clock} {sessionId apiKeyId : String}
    {project : ProjectConfig} {sessionRepo : Bool} {events : List (Clock × RunnerEvent)}
    {final : Session}
    (run : exec step (spawn clock sessionId apiKeyId project sessionRepo) events = some final) :
    Leaves library final (meets isConnected events) (meets isInsertFailed events)
      (emitted step (effects library) (spawn clock sessionId apiKeyId project sessionRepo)
        events) :=
  leaves_of_run library run

/-- A project whose sessions announce themselves. -/
def announcing : ProjectConfig :=
  { projectId := "p", name := "Demo", systemPrompt := "", webhookUrl := some "https://example.com" }

/-- The connection opens, the client stops the session, and its record is inserted. -/
def stoppedRun : List (Clock × RunnerEvent) :=
  [.start none, .connected, .putInbox .stop, .frame, .closed, .insertExecuted, .insertReturned].map
    fun event => (⟨0, 0⟩, event)

/-- No time passes in this run. -/
theorem leaves_exec_stopped :
    ∃ final, exec step (spawn ⟨0, 0⟩ "s" "key" announcing true) stoppedRun = some final ∧
      Leaves SessionEvents.idleLibrary final true false
        (emitted step (effects SessionEvents.idleLibrary)
          (spawn ⟨0, 0⟩ "s" "key" announcing true) stoppedRun) := by
  have shape : (exec step (spawn ⟨0, 0⟩ "s" "key" announcing true) stoppedRun).isSome = true := by
    decide
  obtain ⟨final, run⟩ := Option.isSome_iff_exists.mp shape
  exact ⟨final, run, leaves_exec _ run⟩

end Session

end LiveChat.Core.GeminiRunner
