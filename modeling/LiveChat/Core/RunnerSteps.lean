import LiveChat.Core.GeminiRunner

/-!
# What a step of the session runner can do

`Evolves` is the frame of a session: its identity is fixed and its outbox only
gains frames.  `Moved` lists the steps by where the runner stands with respect to
its `try` statement, and `resume_moved` is the one place that goes through all
events.  Everything about whole runs is derived from the two.
-/

set_option autoImplicit false

namespace LiveChat.Core.GeminiRunner

open LiveChat.Foundation

/-! ## The session state -/

/-- The part of a session state that never changes, and what its outbox can gain. -/
structure Evolves (before after : SessionState) : Prop where
  sessionId : after.sessionId = before.sessionId
  projectId : after.projectId = before.projectId
  frames : ∃ frames : List OutboxFrame, after.outbox.accepted =
    before.outbox.accepted ++ frames.map OutboxItem.frame

theorem Evolves.refl (state : SessionState) : Evolves state state :=
  ⟨rfl, rfl, [], (List.append_nil _).symm⟩

theorem Evolves.trans {first second third : SessionState} (front : Evolves first second)
    (back : Evolves second third) : Evolves first third := by
  obtain ⟨early, appended⟩ := front.frames
  obtain ⟨late, appended'⟩ := back.frames
  refine ⟨back.sessionId.trans front.sessionId, back.projectId.trans front.projectId,
    early ++ late, ?_⟩
  rw [appended', appended, List.map_append, List.append_assoc]

theorem Evolves.stop_absent {before after : SessionState} (evolves : Evolves before after)
    (absent : OutboxItem.stop ∉ before.outbox.accepted) :
    OutboxItem.stop ∉ after.outbox.accepted := by
  obtain ⟨frames, appended⟩ := evolves.frames
  rw [appended]
  simpa using absent

/-- Two states that agree on identity and outbox history. -/
theorem Evolves.of_eq {before after : SessionState} (sessionId : after.sessionId = before.sessionId)
    (projectId : after.projectId = before.projectId)
    (same : after.outbox.accepted = before.outbox.accepted) : Evolves before after :=
  ⟨sessionId, projectId, [], by rw [same, List.map_nil, List.append_nil]⟩

theorem send_evolves (state : SessionState) (frame : OutboxFrame) :
    Evolves state (state.send frame) := by
  refine ⟨rfl, rfl, ?_⟩
  rcases state.outbox.offer_spec (.frame frame) with ⟨_, accepted, _⟩ | ⟨_, same⟩
  · exact ⟨[frame], accepted⟩
  · exact ⟨[], by simp [SessionState.send, SessionState.sendOutbox, same]⟩

theorem captureUsage_evolves (state : SessionState) (usage : Option UsageMetadata) :
    Evolves state (captureUsage state usage) := by
  cases usage with
  | none => exact Evolves.refl state
  | some usage =>
      simp only [captureUsage]
      split <;> exact Evolves.of_eq rfl rfl rfl

theorem sendAudio_evolves (state : SessionState) (parts : List (Option Bytes)) :
    Evolves state (sendAudio state parts) := by
  induction parts generalizing state with
  | nil => exact Evolves.refl state
  | cons part rest ih =>
      cases part with
      | none => exact ih state
      | some data =>
          simp only [sendAudio]
          split
          · exact (send_evolves state _).trans (ih _)
          · exact ih state

theorem sendText_evolves (state : SessionState) (frame : String → OutboxFrame)
    (text : Option String) : Evolves state (sendText state frame text) := by
  cases text with
  | none => exact Evolves.refl state
  | some text =>
      simp only [sendText]
      split
      · exact Evolves.refl state
      · exact send_evolves state _

theorem sendContent_evolves (state : SessionState) (content : ServerContent) :
    Evolves state (sendContent state content) :=
  ((sendAudio_evolves state _).trans (sendText_evolves _ _ _)).trans (sendText_evolves _ _ _)

theorem completeTurn_evolves (state : SessionState) : Evolves state (completeTurn state) := by
  have counted : Evolves state { state with turns := state.turns + 1 } :=
    Evolves.of_eq rfl rfl rfl
  exact counted.trans (send_evolves _ .turnComplete)

theorem startToolCall_evolves (state : SessionState)
    (toolCall : Option (Option (List FunctionCall))) :
    Evolves state (startToolCall state toolCall).1 := by
  match toolCall with
  | none => exact Evolves.refl state
  | some none => exact send_evolves state _
  | some (some calls) => exact Evolves.refl state

theorem handleResponse_evolves (state : SessionState) (message : LiveServerMessage) :
    Evolves state (handleResponse state message).1 := by
  refine (captureUsage_evolves state message.usageMetadata).trans ?_
  cases found : message.serverContent with
  | none =>
      simp only [handleResponse, found]
      exact startToolCall_evolves _ _
  | some content =>
      have sent := sendContent_evolves (captureUsage state message.usageMetadata) content
      simp only [handleResponse, found]
      split
      · exact sent.trans (completeTurn_evolves _)
      · exact sent.trans (startToolCall_evolves _ _)

theorem consumer_evolves {state next : SessionState} {consumer : Consumer}
    {event : ConsumerEvent} {progress : ConsumerProgress}
    (run : consumer.resume state event = some (next, progress)) : Evolves state next := by
  cases consumer with
  | receiving =>
      cases event with
      | response message =>
          have same : (handleResponse state message).1 = next :=
            congrArg Prod.fst (Option.some.inj run)
          exact same ▸ handleResponse_evolves state message
      | streamEnd =>
          cases run
          exact Evolves.refl state
      | failed exc =>
          cases run
          exact send_evolves state _
      | toolResult result => cases run
      | toolResponseSent => cases run
  | executing call rest responses =>
      cases event with
      | toolResult result =>
          cases run
          have counted : Evolves state { state with toolCalls := state.toolCalls + 1 } :=
            Evolves.of_eq rfl rfl rfl
          exact counted.trans (send_evolves _ _)
      | failed exc =>
          cases run
          exact send_evolves state _
      | response message => cases run
      | streamEnd => cases run
      | toolResponseSent => cases run
  | responding responses =>
      cases event with
      | toolResponseSent =>
          cases run
          exact Evolves.refl state
      | failed exc =>
          cases run
          exact send_evolves state _
      | response message => cases run
      | streamEnd => cases run
      | toolResult result => cases run

/-! ## The phases of the runner -/

/-- Inside the `try` statement of `session_runner`. -/
def Await.inTry : Await → Bool
  | .created | .recording _ _ | .done _ => false
  | _ => true

def Receiver.isRunning : Receiver → Bool
  | .running _ => true
  | _ => false

/-- Events that leave the runner itself where it is. -/
def RunnerEvent.surroundsRunner : RunnerEvent → Bool
  | .requestCancel | .receive _ | .receiverCancelled | .putInbox _ | .takeOutbox | .touch => true
  | _ => false

namespace Session

/-- Outside the `try` statement no receive task is running. -/
def Quiet (session : Session) : Prop :=
  session.await.inTry = false → session.receiver.any Receiver.isRunning = false

/-- What no step of a session changes. -/
structure Evolves (before after : Session) : Prop where
  state : GeminiRunner.Evolves before.state after.state
  project : after.project = before.project
  sessionRepo : after.sessionRepo = before.sessionRepo

theorem Evolves.refl (session : Session) : Evolves session session :=
  ⟨GeminiRunner.Evolves.refl session.state, rfl, rfl⟩

theorem Evolves.trans {first second third : Session} (front : Evolves first second)
    (back : Evolves second third) : Evolves first third :=
  ⟨front.state.trans back.state, back.project.trans front.project,
    back.sessionRepo.trans front.sessionRepo⟩

/-- With this event the runner leaves the `try` statement, if it is in it. -/
def leavesTry (session : Session) : RunnerEvent → Bool
  | .closed => true
  | .failed _ | .cancelled =>
      match session.await with
      | .connecting | .closing _ => true
      | _ => false
  | _ => false

/-- What the `except` handlers put on the outbox. -/
def handlerItems (session : Session) : RunnerEvent → List OutboxItem
  | .failed exc => [.frame (.error ("Session error: " ++ exc))]
  | .closed =>
      match session.await with
      | .closing (.raised exc) => [.frame (.error ("Session error: " ++ exc))]
      | _ => []
  | _ => []

/-- The steps of a session, by the phase they start from. -/
inductive Moved (session : Session) : RunnerEvent → Progress → Prop where
  /-- The runner stays inside the `try` statement. -/
  | inside {event : RunnerEvent} {next : Session} (before : session.await.inTry = true)
      (stays : session.leavesTry event = false) (after : next.await.inTry = true)
      (evolves : Evolves session next) : Moved session event (.suspended next)
  | entered : session.await = .created →
      Moved session (.start none) (.suspended (session.goto .connecting))
  | setupRaised (exc : String) : session.await = .created →
      Moved session (.start (some exc)) (.suspended (session.goto (.done (.raised exc))))
  /-- Cancelled before its coroutine was entered. -/
  | neverStarted {next : Session} : session.await = .created →
      next = { session with cancelRequested := false }.goto (.done .cancelled) →
      Moved session .cancelled (.suspended next)
  /-- The `try` statement is left; `last` is the session after its handlers. -/
  | left {event : RunnerEvent} {last : Session} (clock : Clock)
      (before : session.await.inTry = true) (leaves : session.leavesTry event = true)
      (evolves : Evolves session last)
      (outbox : last.state.outbox = session.state.outbox.offerAll (session.handlerItems event)) :
      Moved session event (last.enterFinally clock)
  /-- Outside the `try` statement, and the runner itself does not move. -/
  | around {event : RunnerEvent} {next : Session} (before : session.await.inTry = false)
      (surrounds : event.surroundsRunner = true)
      (await : next.await = session.await) (evolves : Evolves session next)
      (quiet : next.receiver.any Receiver.isRunning = false)
      (counters : next.state.counters = session.state.counters)
      (accepted : next.state.outbox.accepted = session.state.outbox.accepted) :
      Moved session event (.suspended next)
  | inserted (doc : SessionDoc) : session.await = .recording doc false →
      Moved session .insertExecuted (.suspended (session.goto (.recording doc true)))
  | insertReturned (doc : SessionDoc) : session.await = .recording doc true →
      Moved session .insertReturned (.ending session)
  | insertFailed (doc : SessionDoc) : session.await = .recording doc false →
      Moved session .insertFailed (.ending session)
  /-- Cancelled at the insert of the `finally` block. -/
  | interrupted {next : Session} (doc : SessionDoc) (executed : Bool) :
      session.await = .recording doc executed →
      next = { session with cancelRequested := false }.goto (.done .cancelled) →
      Moved session .cancelled (.suspended next)

/-! ## What each part of a step contributes -/

theorem handleError_evolves (session : Session) (exc : String) :
    Evolves session (session.handleError exc) :=
  ⟨send_evolves session.state _, rfl, rfl⟩

theorem handleFrame_evolves (session : Session) (frame : InputFrame) :
    Evolves session (session.handleFrame frame) := by
  cases frame with
  | stop => exact ⟨.refl _, rfl, rfl⟩
  | setSpeaker payload =>
      have set : GeminiRunner.Evolves session.state (session.state.setSpeakerMode payload) :=
        GeminiRunner.Evolves.of_eq rfl rfl rfl
      exact ⟨set.trans (send_evolves _ _), rfl, rfl⟩
  | activityStart =>
      simp only [handleFrame]
      split <;> exact ⟨.refl _, rfl, rfl⟩
  | audioChunk payload => exact ⟨.refl _, rfl, rfl⟩
  | activityEnd => exact ⟨.refl _, rfl, rfl⟩
  | text payload =>
      simp only [handleFrame]
      split <;> exact ⟨.refl _, rfl, rfl⟩

theorem handleFrame_inTry {session : Session} (frame : InputFrame)
    (before : session.await.inTry = true) : (session.handleFrame frame).await.inTry = true := by
  cases frame with
  | setSpeaker payload => exact before
  | activityStart =>
      simp only [handleFrame]
      split <;> rfl
  | text payload =>
      simp only [handleFrame]
      split
      · exact before
      · rfl
  | stop => rfl
  | audioChunk payload => rfl
  | activityEnd => rfl

theorem finishVoiceTurn_inTry (session : Session) :
    session.finishVoiceTurn.await.inTry = true := by
  simp only [finishVoiceTurn]
  split <;> rfl

theorem finishVoiceTurn_evolves (session : Session) : Evolves session session.finishVoiceTurn := by
  simp only [finishVoiceTurn]
  split <;> exact ⟨.refl _, rfl, rfl⟩

theorem afterTurn_inTry (session : Session) (alive : Bool) :
    (session.afterTurn alive).await.inTry = true := by
  cases alive <;> rfl

theorem afterTurn_evolves (session : Session) (alive : Bool) :
    Evolves session (session.afterTurn alive) := by
  cases alive <;> exact ⟨.refl _, rfl, rfl⟩

theorem enterFinally_quiet (session : Session) :
    session.cancelReceiver.receiver.any Receiver.isRunning = false := by
  rcases receiver : session.receiver with _ | task
  · simp [cancelReceiver, receiver]
  · cases task <;> simp [cancelReceiver, receiver, Receiver.cancel, Receiver.isRunning]

theorem moved_afterSent {session next : Session} (run : session.afterSent = some next) :
    Moved session .sent (.suspended next) := by
  simp only [afterSent] at run
  split at run
  · rename_i here
    cases run
    exact .inside (by rw [here]; rfl) rfl rfl ⟨.refl _, rfl, rfl⟩
  · rename_i here
    cases run
    exact .inside (by rw [here]; rfl) rfl rfl ⟨.refl _, rfl, rfl⟩
  · rename_i here
    cases run
    exact .inside (by rw [here]; rfl) rfl (finishVoiceTurn_inTry _) (finishVoiceTurn_evolves _)
  · rename_i here
    cases run
    exact .inside (by rw [here]; rfl) rfl rfl ⟨.refl _, rfl, rfl⟩
  · cases run

theorem moved_afterFailed {session : Session} {clock : Clock} {exc : String}
    {progress : Progress} (run : session.afterFailed clock exc = some progress) :
    Moved session (.failed exc) progress := by
  simp only [afterFailed] at run
  split at run
  · rename_i here
    cases run
    exact .left clock (by rw [here]; rfl) (by simp [leavesTry, here])
      (handleError_evolves session exc) rfl
  · rename_i here
    cases run
    exact .inside (by rw [here]; rfl) (by simp [leavesTry, here]) rfl ⟨send_evolves _ _, rfl, rfl⟩
  · rename_i here
    cases run
    exact .inside (by rw [here]; rfl) (by simp [leavesTry, here]) rfl ⟨.refl _, rfl, rfl⟩
  · rename_i here
    cases run
    have sent : Evolves session (session.send (.error ("activity_end failed: " ++ exc))) :=
      ⟨send_evolves _ _, rfl, rfl⟩
    exact .inside (by rw [here]; rfl) (by simp [leavesTry, here]) (finishVoiceTurn_inTry _)
      (sent.trans (finishVoiceTurn_evolves _))
  · rename_i here
    cases run
    exact .inside (by rw [here]; rfl) (by simp [leavesTry, here]) rfl ⟨send_evolves _ _, rfl, rfl⟩
  · rename_i here
    cases run
    exact .left clock (by rw [here]; rfl) (by simp [leavesTry, here])
      (handleError_evolves session exc) rfl
  · cases run

theorem moved_afterReceiver {session next : Session} (run : session.afterReceiver = some next) :
    Moved session .receiverDone (.suspended next) := by
  simp only [afterReceiver] at run
  split at run
  · rename_i here _
    cases run
    exact .inside (by rw [here]; rfl) rfl rfl ⟨.refl _, rfl, rfl⟩
  · rename_i here _
    cases run
    exact .inside (by rw [here]; rfl) rfl rfl ⟨.refl _, rfl, rfl⟩
  · rename_i here _
    cases run
    have freed : Evolves session { session with receiver := none } := ⟨.refl _, rfl, rfl⟩
    exact .inside (by rw [here]; rfl) rfl (afterTurn_inTry _ _)
      (freed.trans (afterTurn_evolves _ _))
  · cases run

/-- The `CancelledError` that `requestCancel` announced. -/
theorem moved_afterCancelled {session : Session} {clock : Clock} {progress : Progress}
    (run : ({ session with cancelRequested := false } : Session).afterCancelled clock =
      some progress) : Moved session .cancelled progress := by
  simp only [afterCancelled] at run
  split at run
  · rename_i here
    cases run
    exact .neverStarted here rfl
  · rename_i here
    cases run
    exact .left clock (by rw [here]; rfl) (by simp [leavesTry, here]) ⟨.refl _, rfl, rfl⟩ rfl
  · rename_i here
    split at run
    · cases run
    · cases run
      exact .inside (by rw [here]; rfl) (by simp [leavesTry, here]) rfl ⟨.refl _, rfl, rfl⟩
  · rename_i here
    split at run
    · cases run
    · cases run
      exact .inside (by rw [here]; rfl) (by simp [leavesTry, here]) rfl ⟨.refl _, rfl, rfl⟩
  all_goals
    first
    | (rename_i here
       cases run
       exact .inside (by rw [here]; rfl) (by simp [leavesTry, here]) rfl ⟨.refl _, rfl, rfl⟩)
    | (rename_i here
       cases run
       exact .left clock (by rw [here]; rfl) (by simp [leavesTry, here]) ⟨.refl _, rfl, rfl⟩ rfl)
    | (rename_i here
       cases run
       exact .interrupted _ _ here rfl)
    | cases run

theorem inTry_of_inBody {session : Session} (body : session.inBody = true) :
    session.await.inTry = true := by
  cases here : session.await <;> simp_all [inBody, Await.inTry]

theorem moved_resumeRunner {session : Session} {clock : Clock} {event : RunnerEvent}
    {progress : Progress} (run : session.resumeRunner clock event = some progress) :
    Moved session event progress := by
  cases event with
  | start setupError =>
      cases setupError with
      | none =>
          simp only [resumeRunner] at run
          split at run
          · rename_i here
            cases run
            exact .entered here
          · cases run
      | some exc =>
          simp only [resumeRunner] at run
          split at run
          · rename_i here
            cases run
            exact .setupRaised exc here
          · cases run
  | connected =>
      simp only [resumeRunner] at run
      split at run
      · rename_i here
        cases run
        exact .inside (by rw [here]; rfl) rfl rfl ⟨send_evolves _ _, rfl, rfl⟩
      · cases run
  | frame =>
      simp only [resumeRunner] at run
      split at run
      · rename_i frame inbox here _
        cases run
        have taken : Evolves session { session with
            state := { session.state with inbox := inbox }.touch clock.monotonic } :=
          ⟨.of_eq rfl rfl rfl, rfl, rfl⟩
        have before : session.await.inTry = true := by rw [here]; rfl
        exact .inside before rfl (handleFrame_inTry frame before)
          (taken.trans (handleFrame_evolves _ frame))
      · cases run
  | idleTimeout =>
      simp only [resumeRunner] at run
      split at run
      · rename_i here
        cases run
        exact .inside (by rw [here]; rfl) rfl rfl ⟨.refl _, rfl, rfl⟩
      · cases run
  | sent =>
      obtain ⟨next, stepped, rfl⟩ := Option.map_eq_some_iff.mp run
      exact moved_afterSent stepped
  | failed exc => exact moved_afterFailed run
  | fault exc =>
      simp only [resumeRunner] at run
      split at run
      · rename_i body
        cases run
        exact .inside (inTry_of_inBody body) rfl rfl ⟨.refl _, rfl, rfl⟩
      · cases run
  | receiverDone =>
      obtain ⟨next, stepped, rfl⟩ := Option.map_eq_some_iff.mp run
      exact moved_afterReceiver stepped
  | consume event =>
      simp only [resumeRunner] at run
      split at run
      · rename_i consumer here
        split at run
        · rename_i state _ consumed
          cases run
          exact .inside (by rw [here]; rfl) rfl rfl ⟨consumer_evolves consumed, rfl, rfl⟩
        · rename_i state _ consumed
          cases run
          have received : Evolves session { session with state := state } :=
            ⟨consumer_evolves consumed, rfl, rfl⟩
          exact .inside (by rw [here]; rfl) rfl (afterTurn_inTry _ _)
            (received.trans (afterTurn_evolves _ _))
        · cases run
      · cases run
  | closed =>
      simp only [resumeRunner] at run
      split at run
      · rename_i exit here
        cases run
        have before : session.await.inTry = true := by rw [here]; rfl
        cases exit with
        | normal =>
            exact .left clock before rfl (.refl session) (by simp only [handlerItems, here]; rfl)
        | raised exc =>
            exact .left clock before rfl (handleError_evolves session exc)
              (by simp only [handlerItems, here]; rfl)
        | cancelled =>
            exact .left clock before rfl ⟨.refl _, rfl, rfl⟩
              (by simp only [handlerItems, here]; rfl)
      · cases run
  | insertReturned =>
      simp only [resumeRunner] at run
      split at run
      · rename_i doc here
        cases run
        exact .insertReturned doc here
      · cases run
  | insertFailed =>
      simp only [resumeRunner] at run
      split at run
      · rename_i doc here
        cases run
        exact .insertFailed doc here
      · cases run
  | cancelled => cases run
  | requestCancel => cases run
  | receive event => cases run
  | receiverCancelled => cases run
  | insertExecuted => cases run
  | putInbox frame => cases run
  | takeOutbox => cases run
  | touch => cases run

/-- What happens around a runner leaves it at its await; once the receive task
has stopped, only the inbox and the clock of the state can still change. -/
theorem moved_of_surround {session next : Session} {event : RunnerEvent}
    (quiet : session.Quiet)
    (surrounds : event.surroundsRunner = true) (stays : session.leavesTry event = false)
    (await : next.await = session.await) (evolves : Evolves session next)
    (settled : session.receiver.any Receiver.isRunning = false →
      next.receiver.any Receiver.isRunning = false ∧
      next.state.counters = session.state.counters ∧
      next.state.outbox.accepted = session.state.outbox.accepted) :
    Moved session event (.suspended next) := by
  cases phase : session.await.inTry with
  | true => exact .inside phase stays (by rw [await, phase]) evolves
  | false =>
      obtain ⟨stopped, counters, accepted⟩ := settled (quiet phase)
      exact .around phase surrounds await evolves stopped counters accepted

theorem moved_surround {session next : Session} {clock : Clock} {event : RunnerEvent}
    (quiet : session.Quiet) (run : session.surround clock event = some next) :
    Moved session event (.suspended next) := by
  cases event with
  | requestCancel =>
      cases run
      simp only [requestCancel]
      split
      · exact moved_of_surround quiet rfl rfl rfl (.refl session)
          fun stopped => ⟨stopped, rfl, rfl⟩
      · rename_i here
        exact .inside (by rw [here]; rfl) rfl (by simp [cancelReceiver, here, Await.inTry])
          ⟨.refl _, rfl, rfl⟩
      · rename_i here
        exact .inside (by rw [here]; rfl) rfl (by simp [cancelReceiver, here, Await.inTry])
          ⟨.refl _, rfl, rfl⟩
      · exact moved_of_surround quiet rfl rfl rfl ⟨.refl _, rfl, rfl⟩
          fun stopped => ⟨stopped, rfl, rfl⟩
  | receive event =>
      simp only [surround] at run
      split at run
      · rename_i consumer running
        have busy : session.receiver.any Receiver.isRunning ≠ false := by
          simp [running, Receiver.isRunning]
        split at run
        · rename_i consumed
          cases run
          exact moved_of_surround quiet rfl rfl rfl ⟨consumer_evolves consumed, rfl, rfl⟩
            fun stopped => absurd stopped busy
        · rename_i consumed
          cases run
          exact moved_of_surround quiet rfl rfl rfl ⟨consumer_evolves consumed, rfl, rfl⟩
            fun stopped => absurd stopped busy
        · cases run
      · cases run
  | receiverCancelled =>
      simp only [surround] at run
      split at run
      · cases run
        exact moved_of_surround quiet rfl rfl rfl ⟨.refl _, rfl, rfl⟩ fun _ => ⟨rfl, rfl, rfl⟩
      · cases run
  | insertExecuted =>
      simp only [surround] at run
      split at run
      · rename_i doc here
        cases run
        exact .inserted doc here
      · cases run
  | putInbox frame =>
      cases run
      exact moved_of_surround quiet rfl rfl rfl ⟨.of_eq rfl rfl rfl, rfl, rfl⟩
        fun stopped => ⟨stopped, rfl, rfl⟩
  | takeOutbox =>
      obtain ⟨⟨item, rest⟩, got, rfl⟩ := Option.map_eq_some_iff.mp run
      have accepted := BoundedQueue.getNowait_accepted got
      exact moved_of_surround quiet rfl rfl rfl ⟨.of_eq rfl rfl accepted, rfl, rfl⟩
        fun stopped => ⟨stopped, rfl, accepted⟩
  | touch =>
      cases run
      exact moved_of_surround quiet rfl rfl rfl ⟨.of_eq rfl rfl rfl, rfl, rfl⟩
        fun stopped => ⟨stopped, rfl, rfl⟩
  | start setupError => cases run
  | connected => cases run
  | frame => cases run
  | idleTimeout => cases run
  | sent => cases run
  | failed exc => cases run
  | fault exc => cases run
  | receiverDone => cases run
  | consume event => cases run
  | closed => cases run
  | insertReturned => cases run
  | insertFailed => cases run
  | cancelled => cases run

/-- Every step of a session is one of the `Moved` steps. -/
theorem resume_moved {session : Session} {clock : Clock} {event : RunnerEvent}
    {progress : Progress} (quiet : session.Quiet)
    (run : session.resume clock event = some progress) : Moved session event progress := by
  simp only [resume] at run
  split at run
  · split at run
    · cases run
    · exact moved_resumeRunner run
  · split at run
    · split at run
      · exact moved_afterCancelled run
      · cases run
    · obtain ⟨next, stepped, rfl⟩ := Option.map_eq_some_iff.mp run
      exact moved_surround quiet stepped

/-! ## Facts about every step -/

theorem step_settles {session next : Session} {clock : Clock} {event : RunnerEvent}
    (run : session.step (clock, event) = some next) :
    ∃ progress, session.resume clock event = some progress ∧ next = settle progress := by
  obtain ⟨progress, resumed, settled⟩ := Option.map_eq_some_iff.mp run
  exact ⟨progress, resumed, settled.symm⟩

/-- Where the `finally` block leads: to the insert, or without a repository to
the end of the runner. -/
theorem settle_enterFinally (session : Session) (clock : Clock) :
    settle (session.enterFinally clock) =
      if session.sessionRepo then
        session.cancelReceiver.goto (.recording (session.sessionDoc clock.utc) false)
      else session.cancelReceiver.shutdown := by
  cases wired : session.sessionRepo <;> simp [enterFinally, cancelReceiver, wired] <;> rfl

/-- Who a session belongs to, once and for all. -/
structure SameSession (before after : Session) : Prop where
  sessionId : after.state.sessionId = before.state.sessionId
  projectId : after.state.projectId = before.state.projectId
  project : after.project = before.project
  sessionRepo : after.sessionRepo = before.sessionRepo

theorem Evolves.same {before after : Session} (evolves : Evolves before after) :
    SameSession before after :=
  ⟨evolves.state.sessionId, evolves.state.projectId, evolves.project, evolves.sessionRepo⟩

theorem same_step {session next : Session} {clock : Clock} {event : RunnerEvent}
    (quiet : session.Quiet) (run : session.step (clock, event) = some next) :
    SameSession session next := by
  obtain ⟨progress, resumed, rfl⟩ := step_settles run
  cases resume_moved quiet resumed with
  | inside before stays after evolves => exact evolves.same
  | entered here => exact ⟨rfl, rfl, rfl, rfl⟩
  | setupRaised exc here => exact ⟨rfl, rfl, rfl, rfl⟩
  | neverStarted here moved => exact moved ▸ ⟨rfl, rfl, rfl, rfl⟩
  | left moment before leaves evolves outbox =>
      rw [settle_enterFinally]
      split
      · exact ⟨evolves.same.1, evolves.same.2, evolves.same.3, evolves.same.4⟩
      · exact ⟨evolves.same.1, evolves.same.2, evolves.same.3, evolves.same.4⟩
  | around before surrounds await evolves quiet counters accepted => exact evolves.same
  | inserted doc here => exact ⟨rfl, rfl, rfl, rfl⟩
  | insertReturned doc here => exact ⟨rfl, rfl, rfl, rfl⟩
  | insertFailed doc here => exact ⟨rfl, rfl, rfl, rfl⟩
  | interrupted doc executed here moved => exact moved ▸ ⟨rfl, rfl, rfl, rfl⟩

theorem quiet_step {session next : Session} {clock : Clock} {event : RunnerEvent}
    (quiet : session.Quiet) (run : session.step (clock, event) = some next) : next.Quiet := by
  obtain ⟨progress, resumed, rfl⟩ := step_settles run
  cases resume_moved quiet resumed with
  | inside before stays after evolves =>
      intro outside
      exact absurd (after.symm.trans outside) (by simp)
  | entered here =>
      intro outside
      cases outside
  | setupRaised exc here => exact fun _ => quiet (by rw [here]; rfl)
  | neverStarted here moved => exact moved ▸ fun _ => quiet (by rw [here]; rfl)
  | left moment before leaves evolves outbox =>
      rw [settle_enterFinally]
      split
      · exact fun _ => enterFinally_quiet _
      · exact fun _ => enterFinally_quiet _
  | around before surrounds await evolves stopped counters accepted => exact fun _ => stopped
  | inserted doc here => exact fun _ => quiet (by rw [here]; rfl)
  | insertReturned doc here => exact fun _ => quiet (by rw [here]; rfl)
  | insertFailed doc here => exact fun _ => quiet (by rw [here]; rfl)
  | interrupted doc executed here moved => exact moved ▸ fun _ => quiet (by rw [here]; rfl)

theorem isDone_of_inTry {session : Session} (inside : session.await.inTry = true) :
    session.isDone = false := by
  cases here : session.await <;> simp_all [Await.inTry, isDone]

/-- A runner that is done stays as it is, whatever the others still do. -/
theorem done_step {session next : Session} {clock : Clock} {event : RunnerEvent}
    (quiet : session.Quiet) (done : session.isDone = true)
    (run : session.step (clock, event) = some next) :
    next.await = session.await ∧ next.state.counters = session.state.counters ∧
      next.state.outbox.accepted = session.state.outbox.accepted := by
  obtain ⟨progress, resumed, rfl⟩ := step_settles run
  cases resume_moved quiet resumed with
  | around before surrounds await evolves stopped counters accepted =>
      exact ⟨await, counters, accepted⟩
  | inside before stays after evolves => simp [isDone_of_inTry before] at done
  | left moment before leaves evolves outbox => simp [isDone_of_inTry before] at done
  | entered here => simp [isDone, here] at done
  | setupRaised exc here => simp [isDone, here] at done
  | neverStarted here moved => simp [isDone, here] at done
  | inserted doc here => simp [isDone, here] at done
  | insertReturned doc here => simp [isDone, here] at done
  | insertFailed doc here => simp [isDone, here] at done
  | interrupted doc executed here moved => simp [isDone, here] at done

end Session

end LiveChat.Core.GeminiRunner
