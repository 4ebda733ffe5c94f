import LiveChat.Core.ConsumerOutput

/-!
# What the runner itself does to the session state

A step is that of a consumer, or it takes from the outbox, or puts a frame on the inbox, or else
it sends frames that are nobody's reply, takes a frame from the inbox, sets the speaker flag, or
touches the clock.  `StateFrame` asks of a relation that it follows the latter; then it follows
every step but those of the consumers, the forward loops and the receive loops.
-/

set_option autoImplicit false

namespace LiveChat.Core.GeminiRunner

open LiveChat.Foundation

/-- What only a consumer sends. -/
def OutboxFrame.isReply : OutboxFrame → Bool
  | .audioPcm _ | .assistantText _ | .userTranscript _ | .toolCall .. | .turnComplete => true
  | _ => false

structure StateFrame (related : SessionState → SessionState → Prop) : Prop where
  refl : ∀ state, related state state
  trans : ∀ first second third, related first second → related second third → related first third
  send : ∀ state (frame : OutboxFrame), OutboxFrame.isReply frame = false →
    related state (state.send frame)
  stop : ∀ state, related state (state.sendOutbox .stop)
  take : ∀ (state : SessionState) (input : InputFrame) inbox,
    state.inbox.getNowait = some (input, inbox) → related state { state with inbox := inbox }
  touch : ∀ state now, related state (state.touch now)
  speaker : ∀ state enabled, related state (state.setSpeakerMode enabled)

namespace StateFrame
variable {related : SessionState → SessionState → Prop} {session next : Session} {clock : Clock}
  {event : RunnerEvent} {progress : Progress}

theorem shutdown (frame : StateFrame related) (session : Session) :
    related session.state session.shutdown.state :=
  frame.trans _ _ _ (frame.send session.state .sessionEnded rfl) (frame.stop _)

theorem enterFinally (frame : StateFrame related) (session : Session) (clock : Clock) :
    related session.state (Session.settle (session.enterFinally clock)).state := by
  rw [Session.settle_enterFinally]
  split
  · exact frame.refl _
  · exact frame.shutdown session.cancelReceiver

theorem handleError (frame : StateFrame related) (session : Session) (exc : String)
    (clock : Clock) :
    related session.state (Session.settle ((session.handleError exc).enterFinally clock)).state := by
  have sent : related session.state (session.handleError exc).state :=
    frame.send session.state _ rfl
  exact frame.trans _ _ _ sent (frame.enterFinally _ clock)

theorem handleCancelled (frame : StateFrame related) (session : Session) (clock : Clock) :
    related session.state (Session.settle (session.handleCancelled.enterFinally clock)).state := by
  have same : related session.state session.handleCancelled.state := frame.refl _
  exact frame.trans _ _ _ same (frame.enterFinally _ clock)

theorem handleFrame (frame : StateFrame related) (session : Session) (input : InputFrame) :
    related session.state (session.handleFrame input).state := by
  cases input with
  | activityStart =>
      simp only [Session.handleFrame]
      split <;> exact frame.refl _
  | text payload =>
      simp only [Session.handleFrame]
      split <;> exact frame.refl _
  | setSpeaker payload =>
      exact frame.trans _ _ _ (frame.speaker session.state payload) (frame.send _ _ rfl)
  | _ => exact frame.refl _

theorem finishVoiceTurn (frame : StateFrame related) (session : Session) :
    related session.state session.finishVoiceTurn.state := by
  unfold Session.finishVoiceTurn
  split <;> exact frame.refl _

theorem afterTurn (frame : StateFrame related) (session : Session) (alive : Bool) :
    related session.state (session.afterTurn alive).state := by
  cases alive <;> exact frame.refl _

theorem afterSent (frame : StateFrame related) (run : session.afterSent = some next) :
    related session.state next.state := by
  unfold Session.afterSent at run
  split at run
  all_goals
    first
    | (cases run; exact frame.refl _)
    | (cases run; exact frame.finishVoiceTurn session)
    | cases run

theorem afterFailed (frame : StateFrame related) {exc : String}
    (run : session.afterFailed clock exc = some progress) :
    related session.state (Session.settle progress).state := by
  unfold Session.afterFailed at run
  split at run
  all_goals
    first
    | (cases run; exact frame.handleError session exc clock)
    | (cases run; exact frame.send session.state _ rfl)
    | (cases run; exact frame.refl _)
    | (cases run
       have sent : related session.state
           (session.send (.error ("activity_end failed: " ++ exc))).state :=
         frame.send session.state _ rfl
       exact frame.trans _ _ _ sent (frame.finishVoiceTurn _))
    | cases run

theorem afterReceiver (frame : StateFrame related) (run : session.afterReceiver = some next) :
    related session.state next.state := by
  unfold Session.afterReceiver at run
  split at run
  all_goals
    first
    | (cases run; exact frame.refl _)
    | (cases run
       have freed : related session.state { session with receiver := none }.state := frame.refl _
       exact frame.trans _ _ _ freed (frame.afterTurn _ _))
    | cases run

theorem afterCancelled (frame : StateFrame related)
    (run : session.afterCancelled clock = some progress) :
    related session.state (Session.settle progress).state := by
  unfold Session.afterCancelled at run
  split at run
  all_goals
    first
    | (cases run; exact frame.refl _)
    | (cases run; exact frame.handleCancelled session clock)
    | (split at run <;> cases run; exact frame.refl _)
    | cases run

theorem resumeRunner (frame : StateFrame related) (apart : event.reads = false)
    (run : session.resumeRunner clock event = some progress) :
    related session.state (Session.settle progress).state := by
  cases event with
  | sent =>
      obtain ⟨next, stepped, rfl⟩ := Option.map_eq_some_iff.mp run
      exact frame.afterSent stepped
  | failed exc => exact frame.afterFailed run
  | receiverDone =>
      obtain ⟨next, stepped, rfl⟩ := Option.map_eq_some_iff.mp run
      exact frame.afterReceiver stepped
  | start setupError =>
      cases setupError with
      | none | some exc =>
          simp only [Session.resumeRunner] at run
          split at run
          · cases run
            exact frame.refl _
          · cases run
  | connected =>
      simp only [Session.resumeRunner] at run
      split at run
      · cases run
        exact frame.send session.state _ rfl
      · cases run
  | frame =>
      simp only [Session.resumeRunner] at run
      split at run
      · rename_i input inbox _ got
        cases run
        have taken : related session.state (session.hear clock inbox).state :=
          frame.trans _ _ _ (frame.take session.state input inbox got)
            (frame.touch _ clock.monotonic)
        exact frame.trans _ _ _ taken (frame.handleFrame (session.hear clock inbox) input)
      · cases run
  | closed =>
      simp only [Session.resumeRunner] at run
      split at run
      · rename_i exit _
        cases run
        cases exit with
        | normal => exact frame.enterFinally session clock
        | raised exc => exact frame.handleError session exc clock
        | cancelled => exact frame.handleCancelled session clock
      · cases run
  | idleTimeout | fault exc =>
      simp only [Session.resumeRunner] at run
      split at run
      · cases run
        exact frame.refl _
      · cases run
  | insertReturned | insertFailed =>
      simp only [Session.resumeRunner] at run
      split at run
      · cases run
        exact frame.shutdown session
      · cases run
  | consume event => cases apart
  | _ => cases run

theorem surround (frame : StateFrame related) (apart : event.reads = false)
    (stays : event ≠ .takeOutbox)
    (put : ∀ input, event = .putInbox input →
      related session.state { session.state with inbox := session.state.inbox.offer input })
    (run : session.surround clock event = some next) : related session.state next.state := by
  cases event with
  | requestCancel =>
      cases run
      unfold Session.requestCancel
      split <;> exact frame.refl _
  | receive event => cases apart
  | takeOutbox => exact absurd rfl stays
  | receiverCancelled | insertExecuted =>
      simp only [Session.surround] at run
      split at run
      · cases run
        exact frame.refl _
      · cases run
  | putInbox input =>
      cases run
      exact put input rfl
  | touch =>
      cases run
      exact frame.touch session.state _
  | _ => cases run

/-- Every other step follows the relation. -/
theorem step (frame : StateFrame related) (apart : event.reads = false)
    (stays : event ≠ .takeOutbox)
    (put : ∀ input, event = .putInbox input →
      related session.state { session.state with inbox := session.state.inbox.offer input })
    (run : session.step (clock, event) = some next) : related session.state next.state := by
  obtain ⟨progress, resumed, rfl⟩ := Session.step_settles run
  unfold Session.resume at resumed
  split at resumed
  · split at resumed
    · cases resumed
    · exact frame.resumeRunner apart resumed
  · split at resumed
    · split at resumed
      · have followed := frame.afterCancelled resumed
        exact followed
      · cases resumed
    · obtain ⟨next, stepped, rfl⟩ := Option.map_eq_some_iff.mp resumed
      exact frame.surround apart stays put stepped

end StateFrame

theorem takeOutbox_step {session next : Session} {clock : Clock}
    (run : session.step (clock, .takeOutbox) = some next) :
    ∃ item outbox, session.state.outbox.getNowait = some (item, outbox) ∧
      next = { session with state := { session.state with outbox := outbox } } := by
  obtain ⟨progress, resumed, rfl⟩ := Session.step_settles run
  obtain ⟨next, surrounded, rfl⟩ := Option.map_eq_some_iff.mp resumed
  obtain ⟨⟨item, outbox⟩, got, rfl⟩ := Option.map_eq_some_iff.mp surrounded
  exact ⟨item, outbox, got, rfl⟩

/-! ## The replies on record -/

section Replies
variable {counted : OutboxFrame → Bool}

/-- Only a consumer adds to the replies that the outbox was offered. -/
theorem replies_stand
    (replies : ∀ frame, counted frame = true → OutboxFrame.isReply frame = true) :
    StateFrame fun before after =>
      after.framesOffered.filter counted = before.framesOffered.filter counted where
  refl state := rfl
  trans first second third front back := back.trans front
  send state frame silent := by
    have aside : counted frame ≠ true := fun shows => by simp [replies frame shows] at silent
    simp [SessionState.framesOffered, SessionState.send, SessionState.sendOutbox,
      BoundedQueue.offer_offered, OutboxItem.frame?, aside]
  stop state := by
    simp [SessionState.framesOffered, SessionState.sendOutbox, BoundedQueue.offer_offered,
      OutboxItem.frame?]
  take state input inbox got := rfl
  touch state now := rfl
  speaker state enabled := rfl

/-- A step adds the replies of the consumer that makes it to those on record. -/
theorem filter_framesOffered
    (replies : ∀ frame, counted frame = true → OutboxFrame.isReply frame = true)
    {session next : Session} {clock : Clock} {event : RunnerEvent}
    (run : session.step (clock, event) = some next) :
    next.state.framesOffered.filter counted =
      session.state.framesOffered.filter counted ++ (session.frames event).filter counted := by
  rcases Session.reader_shift (Session.shift_step run) with
    ⟨consumer, given, progress, reads, resumed⟩ | ⟨apart, _⟩
  · rw [framesOffered_consumer resumed, List.filter_append, Session.frames, reads]
  · rw [Session.frames, Session.reader_none apart, List.filter_nil, List.append_nil]
    by_cases takes : event = .takeOutbox
    · subst takes
      obtain ⟨item, outbox, got, rfl⟩ := takeOutbox_step run
      rw [SessionState.framesOffered, BoundedQueue.getNowait_offered got]
      rfl
    · exact (replies_stand replies).step apart takes (fun _ _ => rfl) run

/-- So the replies are counted step by step. -/
theorem countP_framesOffered
    (replies : ∀ frame, counted frame = true → OutboxFrame.isReply frame = true)
    {session next : Session} {clock : Clock} {event : RunnerEvent}
    (run : session.step (clock, event) = some next) :
    next.state.framesOffered.countP counted =
      session.state.framesOffered.countP counted + (session.frames event).countP counted := by
  simp only [List.countP_eq_length_filter, filter_framesOffered replies run, List.length_append]

end Replies

end LiveChat.Core.GeminiRunner
