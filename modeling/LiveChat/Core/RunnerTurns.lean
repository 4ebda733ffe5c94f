import LiveChat.Core.RunnerSteps

/-!
# The frame loop and its consumers

Which frames the runner has taken, where it stands, and who reads from Gemini: the call that
the runner awaits itself, in a text turn, or the receive task of a voice turn.  `Shift` lists
what one step can do to these, and `shift_step` is the one place that goes through all events.
-/

set_option autoImplicit false

namespace LiveChat.Core.GeminiRunner

open LiveChat.Foundation

/-! ## What a consumer leaves alone -/

/-- Only the outbox and the count of turns can differ. -/
def Forwards (before after : SessionState) : Prop :=
  ∃ outbox turns, after = { before with outbox := outbox, turns := turns }

theorem Forwards.refl (state : SessionState) : Forwards state state :=
  ⟨state.outbox, state.turns, rfl⟩

theorem Forwards.trans {first second third : SessionState} (front : Forwards first second)
    (back : Forwards second third) : Forwards first third := by
  obtain ⟨_, _, rfl⟩ := front
  obtain ⟨outbox, turns, rfl⟩ := back
  exact ⟨outbox, turns, rfl⟩

theorem forwards_send (state : SessionState) (frame : OutboxFrame) :
    Forwards state (state.send frame) := ⟨_, state.turns, rfl⟩

theorem forwards_sendAudio (state : SessionState) (parts : List (Option Bytes)) :
    Forwards state (sendAudio state parts) := by
  induction parts generalizing state with
  | nil => exact .refl state
  | cons part rest ih =>
      cases part with
      | none => exact ih state
      | some data =>
          simp only [sendAudio]
          split
          · exact (forwards_send state _).trans (ih _)
          · exact ih state

theorem forwards_sendText (state : SessionState) (frame : String → OutboxFrame)
    (text : Option String) : Forwards state (sendText state frame text) := by
  cases text with
  | none => exact .refl state
  | some text =>
      simp only [sendText]
      split
      · exact .refl state
      · exact forwards_send state _

theorem forwards_sendContent (state : SessionState) (content : ServerContent) :
    Forwards state (sendContent state content) :=
  ((forwards_sendAudio state _).trans (forwards_sendText _ _ _)).trans (forwards_sendText _ _ _)

theorem forwards_startToolCall (state : SessionState)
    (toolCall : Option (Option (List FunctionCall))) :
    Forwards state (startToolCall state toolCall).1 := by
  rcases toolCall with _ | _ | calls
  · exact .refl state
  · exact forwards_send state _
  · exact .refl state

/-- A message is forwarded once its usage is captured. -/
theorem forwards_handleResponse (state : SessionState) (message : LiveServerMessage) :
    Forwards (captureUsage state message.usageMetadata) (handleResponse state message).1 := by
  unfold handleResponse
  cases message.serverContent with
  | none => exact forwards_startToolCall _ _
  | some content =>
      have sent := forwards_sendContent (captureUsage state message.usageMetadata) content
      simp only
      split
      · exact sent.trans ⟨_, _, rfl⟩
      · exact sent.trans (forwards_startToolCall _ _)

structure Undisturbed (before after : SessionState) : Prop where
  inbox : after.inbox = before.inbox
  lastActive : after.lastActive = before.lastActive

theorem captureUsage_undisturbed (state : SessionState) (usage : Option UsageMetadata) :
    Undisturbed state (captureUsage state usage) := by
  cases usage with
  | none => exact ⟨rfl, rfl⟩
  | some usage =>
      simp only [captureUsage]
      split <;> exact ⟨rfl, rfl⟩

theorem handleResponse_undisturbed (state : SessionState) (message : LiveServerMessage) :
    Undisturbed state (handleResponse state message).1 := by
  obtain ⟨inbox, lastActive⟩ := captureUsage_undisturbed state message.usageMetadata
  obtain ⟨outbox, turns, same⟩ := forwards_handleResponse state message
  rw [same]
  exact ⟨inbox, lastActive⟩

theorem consumer_undisturbed {state next : SessionState} {consumer : Consumer}
    {event : ConsumerEvent} {progress : ConsumerProgress}
    (run : consumer.resume state event = some (next, progress)) : Undisturbed state next := by
  unfold Consumer.resume at run
  split at run
  · rename_i message
    have shape := congrArg Prod.fst (Option.some.inj run)
    have same : (handleResponse state message).1 = next := shape
    exact same ▸ handleResponse_undisturbed state message
  all_goals cases run <;> exact ⟨rfl, rfl⟩

/-! ## The loop -/

/-- The runner has not left its frame loop, or is not there yet. -/
def Await.lives : Await → Bool
  | .closing _ | .recording _ _ | .done _ => false
  | _ => true

/-- The step of a consumer. -/
def RunnerEvent.reads : RunnerEvent → Bool
  | .consume _ | .receive _ => true
  | _ => false

namespace Session

/-- The frames that the runner has taken, oldest first. -/
def heard (session : Session) : List InputFrame :=
  session.state.inbox.accepted.take session.state.inbox.taken

/-- A step in which the runner takes no frame and nobody reads from Gemini. -/
structure Rests (session next : Session) : Prop where
  taken : next.state.inbox.taken = session.state.inbox.taken
  grows : session.state.inbox.accepted <+: next.state.inbox.accepted
  counters : next.state.counters = session.state.counters

theorem Rests.of_eq {session next : Session} (inbox : next.state.inbox = session.state.inbox)
    (counters : next.state.counters = session.state.counters) : Rests session next :=
  ⟨by rw [inbox], inbox ▸ List.prefix_refl _, counters⟩

theorem Rests.trans {first second third : Session} (front : Rests first second)
    (back : Rests second third) : Rests first third :=
  ⟨back.taken.trans front.taken, front.grows.trans back.grows,
    back.counters.trans front.counters⟩

theorem Rests.heard {session next : Session} (rests : Rests session next) :
    next.heard = session.heard := by
  obtain ⟨frames, grown⟩ := rests.grows
  simp only [Session.heard, rests.taken, ← grown]
  exact List.take_append_of_le_length session.state.inbox.taken_le

/-- The runner takes this frame, the oldest one that waits. -/
def hear (session : Session) (clock : Clock) (inbox : BoundedQueue InputFrame INBOX_MAX_SIZE) :
    Session :=
  { session with state := { session.state with inbox := inbox }.touch clock.monotonic }

/-- What one step does to the runner, to its receive task and to what it has heard. -/
inductive Shift (session : Session) : RunnerEvent → Session → Prop where
  | stands {event : RunnerEvent} {next : Session} (apart : event.reads = false)
      (await : next.await = session.await) (receiver : next.receiver = session.receiver) (rests : Rests session next) :
      Shift session event next
  | took {frame : InputFrame} {inbox : BoundedQueue InputFrame INBOX_MAX_SIZE} (clock : Clock)
      (here : session.await = .nextFrame)
      (got : session.state.inbox.getNowait = some (frame, inbox)) :
      Shift session .frame ((session.hear clock inbox).handleFrame frame)
  | entered {next : Session} (here : session.await = .created)
      (await : next.await = .connecting) (receiver : next.receiver = session.receiver)
      (rests : Rests session next) : Shift session (.start none) next
  | opened {next : Session} (here : session.await = .connecting)
      (await : next.await = .nextFrame) (receiver : next.receiver = session.receiver)
      (rests : Rests session next) : Shift session .connected next
  /-- `activity_start` was sent: the receive task of the voice turn is created. -/
  | spawned {next : Session} (here : session.await = .sendingActivityStart)
      (await : next.await = .nextFrame) (receiver : next.receiver = some (.running .receiving))
      (rests : Rests session next) : Shift session .sent next
  | textSent {next : Session} (here : session.await = .sendingText)
      (await : next.await = .consuming .receiving) (receiver : next.receiver = session.receiver)
      (rests : Rests session next) : Shift session .sent next
  | audioSent {next : Session} (here : session.await = .sendingAudio)
      (await : next.await = .nextFrame) (receiver : next.receiver = session.receiver)
      (rests : Rests session next) : Shift session .sent next
  /-- A send failed, and the loop goes on. -/
  | sendFailed {exc : String} {next : Session}
      (here : session.await = .sendingActivityStart ∨ session.await = .sendingAudio ∨
        session.await = .sendingText)
      (await : next.await = .nextFrame) (receiver : next.receiver = session.receiver)
      (rests : Rests session next) : Shift session (.failed exc) next
  /-- `activity_end` was sent, or its send failed: the receive task is awaited, if any. -/
  | voiceEnded {event : RunnerEvent} {next : Session} (apart : event.reads = false)
      (here : session.await = .sendingActivityEnd)
      (await : next.await = if session.receiver.isNone then .nextFrame else .awaitingReceiver)
      (receiver : next.receiver = session.receiver) (rests : Rests session next) :
      Shift session event next
  | joined {event : RunnerEvent} {next : Session} (apart : event.reads = false)
      (here : session.await = .joiningReceiver)
      (idle : session.receiverBusy = false) (await : next.await = .sendingActivityStart)
      (receiver : next.receiver = none) (rests : Rests session next) : Shift session event next
  | voiceTurned {alive : Bool} {next : Session} (here : session.await = .awaitingReceiver)
      (returned : session.receiver = some (.returned alive))
      (await : next.await = if alive then .nextFrame else .closing .normal)
      (receiver : next.receiver = none) (rests : Rests session next) :
      Shift session .receiverDone next
  | read {event : ConsumerEvent} {consumer consumer' : Consumer} {state : SessionState}
      (here : session.await = .consuming consumer)
      (resumed : consumer.resume session.state event = some (state, .suspended consumer')) :
      Shift session (.consume event) ({ session with state := state }.goto (.consuming consumer'))
  | textTurned {event : ConsumerEvent} {consumer : Consumer} {state : SessionState} {alive : Bool}
      (here : session.await = .consuming consumer)
      (resumed : consumer.resume session.state event = some (state, .returned alive)) :
      Shift session (.consume event) ({ session with state := state }.afterTurn alive)
  | received {event : ConsumerEvent} {consumer consumer' : Consumer} {state : SessionState}
      (running : session.receiver = some (.running consumer))
      (resumed : consumer.resume session.state event = some (state, .suspended consumer')) :
      Shift session (.receive event)
        { session with state := state, receiver := some (.running consumer') }
  | returned {event : ConsumerEvent} {consumer : Consumer} {state : SessionState} {alive : Bool}
      (running : session.receiver = some (.running consumer))
      (resumed : consumer.resume session.state event = some (state, .returned alive)) :
      Shift session (.receive event)
        { session with state := state, receiver := some (.returned alive) }
  | receiverCancelled (cancelling : session.receiver = some .cancelling) :
      Shift session .receiverCancelled { session with receiver := some .cancelled }
  /-- A cancel request is passed on to the awaited receive task. -/
  | passedOn {next : Session}
      (here : session.await = .joiningReceiver ∨ session.await = .awaitingReceiver)
      (await : next.await = session.await)
      (receiver : next.receiver = session.receiver.map Receiver.cancel)
      (rests : Rests session next) : Shift session .requestCancel next
  | left {event : RunnerEvent} {next : Session} (apart : event.reads = false)
      (gone : next.await.lives = false)
      (receiver : next.receiver = session.receiver ∨
        next.receiver = session.receiver.map Receiver.cancel)
      (rests : Rests session next) : Shift session event next

/-! ## Every step is a shift -/

theorem rests_putInbox (session : Session) (frame : InputFrame) :
    Rests session { session with
      state := { session.state with inbox := session.state.inbox.offer frame } } := by
  rcases session.state.inbox.offer_spec frame with ⟨_, accepted, taken, _⟩ | ⟨_, same⟩
  · exact ⟨taken, ⟨[frame], accepted.symm⟩, rfl⟩
  · exact ⟨by simp [same], by simp [same], rfl⟩

/-- The `finally` block leads out of the loop. -/
theorem shift_enterFinally {session last : Session} {event : RunnerEvent} (clock : Clock)
    (apart : event.reads = false)
    (receiver : last.receiver = session.receiver ∨
      last.receiver = session.receiver.map Receiver.cancel)
    (rests : Rests session last) : Shift session event (settle (last.enterFinally clock)) := by
  have cancelled : last.cancelReceiver.receiver = session.receiver.map Receiver.cancel := by
    rcases receiver with same | same
    · simp only [cancelReceiver, same]
    · simp only [cancelReceiver, same, Option.map_map]
      refine congrArg (Option.map · session.receiver) (funext fun task => ?_)
      cases task <;> rfl
  rw [settle_enterFinally]
  split
  · exact .left apart rfl (Or.inr cancelled) (rests.trans (.of_eq rfl rfl))
  · exact .left apart rfl (Or.inr cancelled) (rests.trans (.of_eq rfl rfl))

theorem shift_afterSent {session next : Session} (run : session.afterSent = some next) :
    Shift session .sent next := by
  unfold afterSent at run
  split at run
  · rename_i here
    cases run
    exact .spawned here rfl rfl (.of_eq rfl rfl)
  · rename_i here
    cases run
    exact .audioSent here rfl rfl (.of_eq rfl rfl)
  · rename_i here
    cases run
    unfold finishVoiceTurn
    split
    · rename_i absent
      exact .voiceEnded rfl here (by rw [absent]; rfl) rfl (.of_eq rfl rfl)
    · rename_i task running
      exact .voiceEnded rfl here (by rw [running]; rfl) rfl (.of_eq rfl rfl)
  · rename_i here
    cases run
    exact .textSent here rfl rfl (.of_eq rfl rfl)
  · cases run

theorem shift_afterFailed {session : Session} {clock : Clock} {exc : String}
    {progress : Progress} (run : session.afterFailed clock exc = some progress) :
    Shift session (.failed exc) (settle progress) := by
  unfold afterFailed at run
  split at run
  · rename_i here
    cases run
    exact shift_enterFinally clock rfl (Or.inl rfl) (.of_eq rfl rfl)
  · rename_i here
    cases run
    exact .sendFailed (Or.inl here) rfl rfl (.of_eq rfl rfl)
  · rename_i here
    cases run
    exact .sendFailed (Or.inr (Or.inl here)) rfl rfl (.of_eq rfl rfl)
  · rename_i here
    cases run
    unfold finishVoiceTurn
    split
    · rename_i absent
      have absent' : session.receiver = none := absent
      exact .voiceEnded rfl here (by rw [absent']; rfl) rfl (.of_eq rfl rfl)
    · rename_i task running
      have running' : session.receiver = some task := running
      exact .voiceEnded rfl here (by rw [running']; rfl) rfl (.of_eq rfl rfl)
  · rename_i here
    cases run
    exact .sendFailed (Or.inr (Or.inr here)) rfl rfl (.of_eq rfl rfl)
  · rename_i exit here
    cases run
    exact shift_enterFinally clock rfl (Or.inl rfl) (.of_eq rfl rfl)
  · cases run

theorem shift_afterReceiver {session next : Session} (run : session.afterReceiver = some next) :
    Shift session .receiverDone next := by
  unfold afterReceiver at run
  split at run
  · rename_i alive here done
    cases run
    exact .joined rfl here (by simp [receiverBusy, done, Receiver.isDone]) rfl rfl (.of_eq rfl rfl)
  · rename_i here done
    cases run
    exact .joined rfl here (by simp [receiverBusy, done, Receiver.isDone]) rfl rfl (.of_eq rfl rfl)
  · rename_i alive here done
    cases run
    cases alive <;> exact .voiceTurned here done rfl rfl (.of_eq rfl rfl)
  · cases run

theorem shift_afterCancelled {session : Session} {clock : Clock} {progress : Progress}
    (run : ({ session with cancelRequested := false } : Session).afterCancelled clock =
      some progress) : Shift session .cancelled (settle progress) := by
  have out : ∀ {next : Session}, next.await.lives = false → next.receiver = session.receiver →
      Rests session next → Shift session .cancelled next := by
    intro next gone receiver rests
    exact .left rfl gone (Or.inl receiver) rests
  unfold afterCancelled at run
  split at run
  · cases run
    exact out rfl rfl (.of_eq rfl rfl)
  · cases run
    exact shift_enterFinally clock rfl (Or.inr rfl) (.of_eq rfl rfl)
  · rename_i here
    split at run
    · cases run
    · rename_i idle
      cases run
      exact .joined rfl here (Bool.eq_false_iff.mpr idle) rfl rfl (.of_eq rfl rfl)
  · split at run
    · cases run
    · cases run
      exact out rfl rfl (.of_eq rfl rfl)
  all_goals
    first
    | (cases run; exact out rfl rfl (.of_eq rfl rfl))
    | (cases run; exact shift_enterFinally clock rfl (Or.inr rfl) (.of_eq rfl rfl))
    | cases run

theorem shift_resumeRunner {session : Session} {clock : Clock} {event : RunnerEvent}
    {progress : Progress} (run : session.resumeRunner clock event = some progress) :
    Shift session event (settle progress) := by
  cases event with
  | start setupError =>
      cases setupError with
      | none =>
          simp only [resumeRunner] at run
          split at run <;> cases run
          rename_i here
          exact .entered here rfl rfl (.of_eq rfl rfl)
      | some exc =>
          simp only [resumeRunner] at run
          split at run <;> cases run
          exact .left rfl rfl (Or.inl rfl) (.of_eq rfl rfl)
  | connected =>
      simp only [resumeRunner] at run
      split at run <;> cases run
      rename_i here
      exact .opened here rfl rfl (.of_eq rfl rfl)
  | frame =>
      simp only [resumeRunner] at run
      split at run <;> cases run
      rename_i here got
      exact .took clock here got
  | idleTimeout =>
      simp only [resumeRunner] at run
      split at run <;> cases run
      exact .left rfl rfl (Or.inl rfl) (.of_eq rfl rfl)
  | sent =>
      obtain ⟨next, stepped, rfl⟩ := Option.map_eq_some_iff.mp run
      exact shift_afterSent stepped
  | failed exc => exact shift_afterFailed run
  | fault exc =>
      simp only [resumeRunner] at run
      split at run <;> cases run
      exact .left rfl rfl (Or.inl rfl) (.of_eq rfl rfl)
  | receiverDone =>
      obtain ⟨next, stepped, rfl⟩ := Option.map_eq_some_iff.mp run
      exact shift_afterReceiver stepped
  | consume event =>
      simp only [resumeRunner] at run
      split at run
      · rename_i consumer here
        split at run
        · rename_i resumed
          cases run
          exact .read here resumed
        · rename_i resumed
          cases run
          exact .textTurned here resumed
        · cases run
      · cases run
  | closed =>
      simp only [resumeRunner] at run
      split at run
      · rename_i exit here
        cases run
        cases exit with
        | normal =>
            exact shift_enterFinally clock rfl (Or.inl rfl) (.of_eq rfl rfl)
        | raised exc =>
            exact shift_enterFinally clock rfl (Or.inl rfl) (.of_eq rfl rfl)
        | cancelled =>
            exact shift_enterFinally clock rfl (Or.inr rfl) (.of_eq rfl rfl)
      · cases run
  | insertReturned =>
      simp only [resumeRunner] at run
      split at run <;> cases run
      exact .left rfl rfl (Or.inl rfl) (.of_eq rfl rfl)
  | insertFailed =>
      simp only [resumeRunner] at run
      split at run <;> cases run
      exact .left rfl rfl (Or.inl rfl) (.of_eq rfl rfl)
  | _ => cases run

theorem shift_surround {session next : Session} {clock : Clock} {event : RunnerEvent}
    (run : session.surround clock event = some next) : Shift session event next := by
  cases event with
  | requestCancel =>
      cases run
      unfold requestCancel
      split
      · exact .stands rfl rfl rfl (.of_eq rfl rfl)
      · rename_i here
        exact .passedOn (Or.inl here) rfl rfl (.of_eq rfl rfl)
      · rename_i here
        exact .passedOn (Or.inr here) rfl rfl (.of_eq rfl rfl)
      · exact .stands rfl rfl rfl (.of_eq rfl rfl)
  | receive event =>
      simp only [surround] at run
      split at run
      · rename_i consumer running
        split at run
        · rename_i resumed
          cases run
          exact .received running resumed
        · rename_i resumed
          cases run
          exact .returned running resumed
        · cases run
      · cases run
  | receiverCancelled =>
      simp only [surround] at run
      split at run <;> cases run
      rename_i cancelling
      exact .receiverCancelled cancelling
  | insertExecuted =>
      simp only [surround] at run
      split at run <;> cases run
      exact .left rfl rfl (Or.inl rfl) (.of_eq rfl rfl)
  | takeOutbox =>
      obtain ⟨taken, got, rfl⟩ := Option.map_eq_some_iff.mp run
      exact .stands rfl rfl rfl (.of_eq rfl rfl)
  | putInbox frame =>
      cases run
      exact .stands rfl rfl rfl (rests_putInbox session frame)
  | touch =>
      cases run
      exact .stands rfl rfl rfl (.of_eq rfl rfl)
  | _ => cases run

theorem shift_step {session next : Session} {clock : Clock} {event : RunnerEvent}
    (run : session.step (clock, event) = some next) : Shift session event next := by
  obtain ⟨progress, resumed, rfl⟩ := step_settles run
  unfold resume at resumed
  split at resumed
  · split at resumed
    · cases resumed
    · exact shift_resumeRunner resumed
  · split at resumed
    · split at resumed
      · exact shift_afterCancelled resumed
      · cases resumed
    · obtain ⟨next, stepped, rfl⟩ := Option.map_eq_some_iff.mp resumed
      exact shift_surround stepped

/-! ## Frames and readers -/

theorem heard_hear {session : Session} (clock : Clock) {frame : InputFrame}
    {inbox : BoundedQueue InputFrame INBOX_MAX_SIZE}
    (got : session.state.inbox.getNowait = some (frame, inbox)) :
    (session.hear clock inbox).heard = session.heard ++ [frame] := by
  obtain ⟨accepted, taken, oldest⟩ := BoundedQueue.getNowait_spec got
  change inbox.accepted.take inbox.taken = _
  rw [accepted, taken, List.take_add_one, oldest]
  rfl

theorem handleFrame_inbox (session : Session) (frame : InputFrame) :
    (session.handleFrame frame).state.inbox = session.state.inbox := by
  cases frame with
  | activityStart =>
      simp only [handleFrame]
      split <;> rfl
  | text payload =>
      simp only [handleFrame]
      split <;> rfl
  | _ => rfl

theorem lives_shift {session next : Session} {event : RunnerEvent}
    (shift : Shift session event next) (lives : next.await.lives = true) :
    session.await.lives = true := by
  cases shift with
  | stands apart await receiver rests => rwa [await] at lives
  | sendFailed here await receiver rests => rcases here with here | here | here <;> rw [here] <;> rfl
  | received running resumed => exact lives
  | returned running resumed => exact lives
  | receiverCancelled cancelling => exact lives
  | passedOn here await receiver rests => rwa [await] at lives
  | left apart gone receiver rests => exact absurd (gone.symm.trans lives) (by simp)
  | voiceEnded apart here await receiver rests => rw [here]; rfl
  | voiceTurned here returned await receiver rests => rw [here]; rfl
  | joined apart here idle await receiver rests => rw [here]; rfl
  | read here resumed => rw [here]; rfl
  | textTurned here resumed => rw [here]; rfl
  | took clock here got => rw [here]; rfl
  | _ =>
      rename_i here _ _ _
      rw [here]
      rfl

/-- The inbox only grows, and a step that takes no frame leaves what was heard. -/
theorem inbox_shift {session next : Session} {event : RunnerEvent}
    (shift : Shift session event next) :
    session.state.inbox.accepted <+: next.state.inbox.accepted ∧
      (event ≠ .frame → next.state.inbox.taken = session.state.inbox.taken) := by
  have same : next.state.inbox = session.state.inbox →
      session.state.inbox.accepted <+: next.state.inbox.accepted ∧
        (event ≠ .frame → next.state.inbox.taken = session.state.inbox.taken) := by
    intro inbox
    rw [inbox]
    exact ⟨List.prefix_refl _, fun _ => rfl⟩
  cases shift with
  | took clock here got =>
      refine ⟨?_, fun other => absurd rfl other⟩
      rw [handleFrame_inbox]
      exact ((BoundedQueue.getNowait_spec got).1 ▸ List.prefix_refl _)
  | read here resumed => exact same (consumer_undisturbed resumed).inbox
  | @textTurned event consumer state alive here resumed =>
      refine same ?_
      cases alive <;> exact (consumer_undisturbed resumed).inbox
  | received running resumed => exact same (consumer_undisturbed resumed).inbox
  | returned running resumed => exact same (consumer_undisturbed resumed).inbox
  | receiverCancelled cancelling => exact same rfl
  | _ =>
      rename_i rests
      exact ⟨rests.grows, fun _ => rests.taken⟩

theorem handleFrame_heard (session : Session) (frame : InputFrame) :
    (session.handleFrame frame).heard = session.heard := by
  simp only [heard, handleFrame_inbox]

theorem handleFrame_counters (session : Session) (frame : InputFrame) :
    (session.handleFrame frame).state.counters = session.state.counters := by
  cases frame with
  | activityStart =>
      simp only [handleFrame]
      split <;> rfl
  | text payload =>
      simp only [handleFrame]
      split <;> rfl
  | _ => rfl

/-- A frame leaves `_recv_task` alone or cancels it. -/
theorem handleFrame_receiver (session : Session) (frame : InputFrame) :
    (session.handleFrame frame).receiver = session.receiver ∨
      (session.handleFrame frame).receiver = session.receiver.map Receiver.cancel := by
  cases frame with
  | activityStart =>
      simp only [handleFrame]
      split
      · exact Or.inr rfl
      · exact Or.inl rfl
  | text payload =>
      simp only [handleFrame]
      split <;> exact Or.inl rfl
  | _ => exact Or.inl rfl

/-- The consumer that an event resumes, and with what. -/
def reader (session : Session) : RunnerEvent → Option (Consumer × ConsumerEvent)
  | .consume event =>
      match session.await with
      | .consuming consumer => some (consumer, event)
      | _ => none
  | .receive event =>
      match session.receiver with
      | some (.running consumer) => some (consumer, event)
      | _ => none
  | _ => none

theorem reader_none {session : Session} {event : RunnerEvent} (apart : event.reads = false) :
    session.reader event = none := by
  cases event with
  | consume event => cases apart
  | receive event => cases apart
  | _ => rfl

theorem reader_given {session : Session} {event : RunnerEvent} {consumer : Consumer}
    {given : ConsumerEvent} (reads : session.reader event = some (consumer, given)) :
    event = .consume given ∨ event = .receive given := by
  cases event with
  | consume event =>
      simp only [reader] at reads
      split at reads
      · cases reads
        exact Or.inl rfl
      · cases reads
  | receive event =>
      simp only [reader] at reads
      split at reads
      · cases reads
        exact Or.inr rfl
      · cases reads
  | _ => cases reads

/-- A step is that of a consumer, whose state it leaves, or no counter moves. -/
theorem reader_shift {session next : Session} {event : RunnerEvent}
    (shift : Shift session event next) :
    (∃ consumer given progress, session.reader event = some (consumer, given) ∧
      consumer.resume session.state given = some (next.state, progress)) ∨
    (event.reads = false ∧ next.state.counters = session.state.counters) := by
  cases shift with
  | took clock here got => exact Or.inr ⟨rfl, handleFrame_counters _ _⟩
  | read here resumed =>
      exact Or.inl ⟨_, _, _, by simp only [reader, here], resumed⟩
  | @textTurned event consumer state alive here resumed =>
      have same : ({ session with state := state }.afterTurn alive).state = state := by
        cases alive <;> rfl
      exact Or.inl ⟨_, _, _, by simp only [reader, here], resumed.trans (by rw [same])⟩
  | received running resumed =>
      exact Or.inl ⟨_, _, _, by simp only [reader, running], resumed⟩
  | returned running resumed =>
      exact Or.inl ⟨_, _, _, by simp only [reader, running], resumed⟩
  | receiverCancelled cancelling => exact Or.inr ⟨rfl, rfl⟩
  | stands apart await receiver rests => exact Or.inr ⟨apart, rests.counters⟩
  | voiceEnded apart here await receiver rests => exact Or.inr ⟨apart, rests.counters⟩
  | joined apart here idle await receiver rests => exact Or.inr ⟨apart, rests.counters⟩
  | left apart gone receiver rests => exact Or.inr ⟨apart, rests.counters⟩
  | _ =>
      rename_i rests
      exact Or.inr ⟨rfl, rests.counters⟩

theorem receiverBusy_congr {session next : Session}
    (receiver : next.receiver = session.receiver) : next.receiverBusy = session.receiverBusy := by
  simp only [receiverBusy, receiver]

/-- Somebody is about to read from Gemini, or the runner does. -/
def readsNext (session : Session) : Bool :=
  match session.await with
  | .sendingActivityStart | .sendingText | .consuming _ => true
  | _ => false

/-- Who starts to read finds no receive task at work. -/
def OneReader (session : Session) : Prop :=
  session.readsNext = true → session.receiverBusy = false

theorem oneReader_spawn (clock : Clock) (sessionId apiKeyId : String) (project : ProjectConfig)
    (sessionRepo : Bool) : (spawn clock sessionId apiKeyId project sessionRepo).OneReader :=
  fun _ => rfl

theorem oneReader_handleFrame {session : Session} (frame : InputFrame)
    (here : session.await = .nextFrame) : (session.handleFrame frame).OneReader := by
  intro reads
  cases frame with
  | activityStart =>
      simp only [handleFrame] at reads ⊢
      split at reads
      · cases reads
      · rename_i idle
        rw [if_neg idle]
        exact Bool.eq_false_iff.mpr idle
  | text payload =>
      simp only [handleFrame] at reads ⊢
      split at reads
      · simp [readsNext, here] at reads
      · rename_i idle
        rw [if_neg idle]
        exact Bool.eq_false_iff.mpr idle
  | setSpeaker payload => simp [handleFrame, readsNext, send, here] at reads
  | _ => cases reads

theorem oneReader_shift {session next : Session} {event : RunnerEvent}
    (one : session.OneReader) (shift : Shift session event next) : next.OneReader := by
  have elsewhere : next.readsNext = false → next.OneReader := by
    intro away reads
    rw [away] at reads
    cases reads
  cases shift with
  | stands apart await receiver rests =>
      intro reads
      rw [receiverBusy_congr receiver]
      exact one (by simpa only [readsNext, await] using reads)
  | took clock here got => exact oneReader_handleFrame _ here
  | textSent here await receiver rests =>
      intro _
      rw [receiverBusy_congr receiver]
      exact one (by simp only [readsNext, here])
  | joined apart here idle await receiver rests =>
      intro _
      simp only [receiverBusy, receiver]
  | read here resumed => exact fun _ => one (by simp only [readsNext, here])
  | received running resumed =>
      intro reads
      have idle := one reads
      simp [receiverBusy, running, Receiver.isDone] at idle
  | returned running resumed => exact fun _ => rfl
  | receiverCancelled cancelling => exact fun _ => rfl
  | textTurned here resumed =>
      apply elsewhere
      unfold afterTurn
      split <;> rfl
  | passedOn here await receiver rests =>
      apply elsewhere
      rcases here with here | here <;> simp only [readsNext, await, here]
  | voiceEnded apart here await receiver rests =>
      apply elsewhere
      cases absent : session.receiver.isNone <;> simp [readsNext, await, absent]
  | @voiceTurned alive next here returned await receiver rests =>
      apply elsewhere
      cases alive <;> simp [readsNext, await]
  | left apart gone receiver rests =>
      apply elsewhere
      unfold readsNext
      split <;> simp_all [Await.lives]
  | _ =>
      rename_i await _ _
      exact elsewhere (by simp only [readsNext, await])

end Session

end LiveChat.Core.GeminiRunner
