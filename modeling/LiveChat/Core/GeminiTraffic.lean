import LiveChat.Foundation.TransitionSystem
import LiveChat.Core.StateFrames

/-!
# What passes between a session and Gemini

`sends` is the call that a step of the runner makes to the Gemini session, and `tells` what a
message of Gemini tells the clients.  Every frame that the runner takes is passed on at once, in
order, but for texts that meet a running receive task; what the outbox accepts of Gemini's is a
part of what Gemini said, in order.
-/

set_option autoImplicit false

namespace LiveChat.Core.GeminiRunner

open LiveChat.Foundation

/-! ## To Gemini -/

/-- The arguments of `send_client_content` and `send_realtime_input`. -/
inductive GeminiInput where
  | clientContent (text : String)
  | activityStart
  | audio (data : Bytes)
  | activityEnd
  deriving DecidableEq

def GeminiInput.isVoice : GeminiInput → Bool
  | .clientContent _ => false
  | .activityStart | .audio _ | .activityEnd => true

def inputOf : InputFrame → Option GeminiInput
  | .text payload => some (.clientContent payload)
  | .audioChunk payload => some (.audio payload)
  | .activityStart => some .activityStart
  | .activityEnd => some .activityEnd
  | .setSpeaker _ | .stop => none

namespace Session

/-- The call that the loop makes for a frame before it awaits anything else. -/
def sendsFor (session : Session) : InputFrame → Option GeminiInput
  | .text payload => if session.receiverBusy then none else some (.clientContent payload)
  | .audioChunk payload => some (.audio payload)
  -- the receive task of the last voice turn is cancelled and awaited first
  | .activityStart => if session.receiverBusy then none else some .activityStart
  | .activityEnd => some .activityEnd
  | .setSpeaker _ | .stop => none

/-- The call to the Gemini session that the runner makes in a step. -/
def sends (session : Session) (event : Clock × RunnerEvent) : Option GeminiInput :=
  match session.step event with
  | none => none
  | some next =>
      match event.2 with
      | .frame => session.state.inbox.getNowait.bind fun got => session.sendsFor got.1
      | _ =>
          match session.await, next.await with
          | .joiningReceiver, .sendingActivityStart => some .activityStart
          | _, _ => none

/-- A frame that is put on the inbox was not heard yet. -/
theorem heard_of_grows {session next : Session}
    (taken : next.state.inbox.taken = session.state.inbox.taken)
    (grows : session.state.inbox.accepted <+: next.state.inbox.accepted) :
    next.heard = session.heard := by
  obtain ⟨frames, grown⟩ := grows
  simp only [Session.heard, taken, ← grown]
  exact List.take_append_of_le_length session.state.inbox.taken_le

/-- The call that comes next when a receive task is awaited that was cancelled. -/
def waiting (session : Session) : List GeminiInput :=
  match session.await with
  | .joiningReceiver => [.activityStart]
  | _ => []

/-- The calls follow the frames; `late` is the `activity_start` that is still to come, or that
never comes because the runner has left its loop. -/
structure Relays (session : Session) (calls late : List GeminiInput) : Prop where
  inOrder : (calls ++ late).Sublist (session.heard.filterMap inputOf)
  voice : (calls ++ late).filter GeminiInput.isVoice =
    (session.heard.filterMap inputOf).filter GeminiInput.isVoice
  start : late = [] ∨ late = [.activityStart]
  lives : session.await.lives = true → late = session.waiting

theorem relays_spawn (clock : Clock) (sessionId apiKeyId : String) (project : ProjectConfig)
    (sessionRepo : Bool) : Relays (spawn clock sessionId apiKeyId project sessionRepo) [] [] :=
  ⟨List.Sublist.refl [], rfl, Or.inl rfl, fun _ => rfl⟩

theorem Relays.congr {session next : Session} {calls late : List GeminiInput}
    (relays : Relays session calls late) (await : next.await = session.await)
    (heard : next.heard = session.heard) : Relays next calls late := by
  have same : next.waiting = session.waiting := by simp only [waiting, await]
  exact ⟨heard ▸ relays.inOrder, heard ▸ relays.voice, relays.start,
    fun lives => (relays.lives (await ▸ lives)).trans same.symm⟩

theorem waiting_of_ne {session : Session} (elsewhere : session.await ≠ .joiningReceiver) :
    session.waiting = [] := by
  unfold waiting
  split
  · rename_i joining
    exact absurd joining elsewhere
  · rfl

theorem waiting_start (session : Session) :
    session.waiting = [] ∨ session.waiting = [.activityStart] := by
  unfold waiting
  split
  · exact Or.inr rfl
  · exact Or.inl rfl

theorem frame_step {session next : Session} {clock : Clock}
    (run : session.step (clock, .frame) = some next) :
    session.await = .nextFrame ∧ ∃ frame inbox,
      session.state.inbox.getNowait = some (frame, inbox) ∧
      next = (session.hear clock inbox).handleFrame frame := by
  obtain ⟨progress, resumed, rfl⟩ := step_settles run
  simp only [resume, RunnerEvent.resumesRunner, if_true] at resumed
  split at resumed
  · cases resumed
  · simp only [resumeRunner] at resumed
    split at resumed
    · rename_i frame inbox here got
      cases resumed
      exact ⟨here, frame, inbox, got, rfl⟩
    · cases resumed

/-- What a frame leaves for later, after the call that it leads to at once. -/
theorem sendsFor_spec {session : Session} (here : session.await = .nextFrame)
    (frame : InputFrame) :
    ((session.sendsFor frame).toList ++ (session.handleFrame frame).waiting).Sublist
        (inputOf frame).toList ∧
      ((session.sendsFor frame).toList ++ (session.handleFrame frame).waiting).filter
          GeminiInput.isVoice =
        (inputOf frame).toList.filter GeminiInput.isVoice := by
  cases frame with
  | text payload =>
      cases busy : session.receiverBusy
      · simp [sendsFor, handleFrame, busy, inputOf, waiting, goto]
      · simp [sendsFor, handleFrame, busy, inputOf, waiting, here, GeminiInput.isVoice]
  | activityStart =>
      cases busy : session.receiverBusy
      · simp [sendsFor, handleFrame, busy, inputOf, waiting, goto]
      · simp [sendsFor, handleFrame, busy, inputOf, waiting, goto]
  | setSpeaker payload => simp [sendsFor, handleFrame, inputOf, waiting, send, here]
  | _ => simp [sendsFor, handleFrame, inputOf, waiting, goto]

/-- The receive task that was cancelled is done. -/
def Joins (session next : Session) : Prop :=
  session.await = .joiningReceiver ∧ next.await = .sendingActivityStart

/-- Between two frames only the join of a receive task changes what is waiting. -/
theorem waiting_shift {session next : Session} {event : RunnerEvent}
    (shift : Shift session event next) (other : event ≠ .frame)
    (lives : next.await.lives = true) :
    Joins session next ∨ ¬ Joins session next ∧ next.waiting = session.waiting := by
  have still : next.await = session.await →
      Joins session next ∨ ¬ Joins session next ∧ next.waiting = session.waiting := by
    intro await
    refine Or.inr ⟨fun joins => ?_, by simp only [waiting, await]⟩
    exact absurd (joins.2.symm.trans (await.trans joins.1)) (by simp)
  have elsewhere : session.await ≠ .joiningReceiver → next.await ≠ .joiningReceiver →
      Joins session next ∨ ¬ Joins session next ∧ next.waiting = session.waiting := by
    intro before after
    exact Or.inr ⟨fun joins => before joins.1,
      (waiting_of_ne after).trans (waiting_of_ne before).symm⟩
  cases shift with
  | stands apart await receiver rests => exact still await
  | took clock here got => exact absurd rfl other
  | entered here await receiver rests => exact elsewhere (by simp [here]) (by simp [await])
  | opened here await receiver rests => exact elsewhere (by simp [here]) (by simp [await])
  | spawned here await receiver rests => exact elsewhere (by simp [here]) (by simp [await])
  | textSent here await receiver rests => exact elsewhere (by simp [here]) (by simp [await])
  | audioSent here await receiver rests => exact elsewhere (by simp [here]) (by simp [await])
  | sendFailed here await receiver rests =>
      refine elsewhere ?_ (by simp [await])
      rcases here with here | here | here <;> simp [here]
  | voiceEnded apart here await receiver rests =>
      refine elsewhere (by simp [here]) ?_
      rw [await]
      split <;> simp
  | joined apart here idle await receiver rests => exact Or.inl ⟨here, await⟩
  | @voiceTurned alive next here returned await receiver rests =>
      refine elsewhere (by simp [here]) ?_
      rw [await]
      split <;> simp
  | read here resumed => exact elsewhere (by simp [here]) (by simp [goto])
  | @textTurned event consumer state alive here resumed =>
      refine elsewhere (by simp [here]) ?_
      cases alive <;> simp [afterTurn, goto]
  | received running resumed => exact still rfl
  | returned running resumed => exact still rfl
  | receiverCancelled cancelling => exact still rfl
  | passedOn here await receiver rests => exact still await
  | left apart gone receiver rests => exact absurd (gone.symm.trans lives) (by simp)

theorem sends_join {session next : Session} {clock : Clock} {event : RunnerEvent}
    (other : event ≠ .frame) (run : session.step (clock, event) = some next)
    (joins : Joins session next) : session.sends (clock, event) = some .activityStart := by
  rw [sends, run]
  cases event with
  | frame => exact absurd rfl other
  | _ => simp only [joins.1, joins.2]

theorem sends_none {session next : Session} {clock : Clock} {event : RunnerEvent}
    (other : event ≠ .frame) (run : session.step (clock, event) = some next)
    (apart : ¬ Joins session next) : session.sends (clock, event) = none := by
  rw [sends, run]
  cases event with
  | frame => exact absurd rfl other
  | _ =>
      simp only
      split
      · rename_i before after
        exact absurd ⟨before, after⟩ apart
      · rfl

theorem relays_took {session : Session} {clock : Clock} {frame : InputFrame}
    {inbox : BoundedQueue InputFrame INBOX_MAX_SIZE} {calls late : List GeminiInput}
    (relays : Relays session calls late) (here : session.await = .nextFrame)
    (got : session.state.inbox.getNowait = some (frame, inbox)) :
    Relays ((session.hear clock inbox).handleFrame frame)
      (calls ++ (session.sendsFor frame).toList)
      ((session.hear clock inbox).handleFrame frame).waiting := by
  have nothing : late = [] :=
    (relays.lives (by rw [here]; rfl)).trans (by simp only [waiting, here])
  subst nothing
  have heard := (handleFrame_heard (session.hear clock inbox) frame).trans (heard_hear clock got)
  have asked : [frame].filterMap inputOf = (inputOf frame).toList := by
    cases input : inputOf frame <;> simp [input]
  have ready : (session.hear clock inbox).await = .nextFrame := here
  have spec := sendsFor_spec ready frame
  have same : (session.hear clock inbox).sendsFor frame = session.sendsFor frame := by
    cases frame <;> rfl
  rw [same] at spec
  have before := relays.inOrder
  have voice := relays.voice
  rw [List.append_nil] at before voice
  refine ⟨?_, ?_, waiting_start _, fun _ => rfl⟩
  · rw [heard, List.filterMap_append, asked, List.append_assoc]
    exact before.append spec.1
  · rw [heard, List.filterMap_append, asked, List.append_assoc, List.filter_append, spec.2, voice,
      List.filter_append]

theorem relays_step {session next : Session} {event : Clock × RunnerEvent}
    {calls late : List GeminiInput} (relays : Relays session calls late)
    (run : session.step event = some next) :
    ∃ later, Relays next (calls ++ (session.sends event).toList) later := by
  obtain ⟨clock, event⟩ := event
  by_cases taking : event = .frame
  · subst taking
    obtain ⟨here, frame, inbox, got, rfl⟩ := frame_step run
    have call : session.sends (clock, .frame) = session.sendsFor frame := by
      simp only [sends, run, got, Option.bind_some]
    rw [call]
    exact ⟨_, relays_took relays here got⟩
  · have shift := shift_step run
    obtain ⟨grows, taken⟩ := inbox_shift shift
    have heard := heard_of_grows (taken taking) grows
    by_cases joins : Joins session next
    · have late' : late = [.activityStart] :=
        (relays.lives (by rw [joins.1]; rfl)).trans (by simp only [waiting, joins.1])
      subst late'
      rw [sends_join taking run joins]
      refine ⟨[], ?_, ?_, Or.inl rfl, fun _ => by simp only [waiting, joins.2]⟩
      · rw [heard, List.append_nil]
        exact relays.inOrder
      · rw [heard, List.append_nil]
        exact relays.voice
    · rw [sends_none taking run joins, Option.toList_none, List.append_nil]
      refine ⟨late, heard ▸ relays.inOrder, heard ▸ relays.voice, relays.start, fun lives => ?_⟩
      rcases waiting_shift shift taking lives with joined | ⟨_, same⟩
      · exact absurd joined joins
      · rw [same]
        exact relays.lives (lives_shift shift lives)

theorem accepted_frame :
    StateFrame fun before after => after.inbox.accepted = before.inbox.accepted where
  refl _ := rfl
  trans _ _ _ front back := back.trans front
  send _ _ _ := rfl
  stop _ := rfl
  take _ _ _ got := BoundedQueue.getNowait_accepted got
  touch _ _ := rfl
  speaker _ _ := rfl

theorem accepted_step {session next : Session} {clock : Clock} {event : RunnerEvent}
    (other : ∀ input, event ≠ .putInbox input) (run : session.step (clock, event) = some next) :
    next.state.inbox.accepted = session.state.inbox.accepted := by
  rcases reader_shift (shift_step run) with ⟨consumer, given, progress, reads, resumed⟩ | rests
  · rw [(consumer_undisturbed resumed).inbox]
  · by_cases takes : event = .takeOutbox
    · subst takes
      obtain ⟨item, outbox, _, rfl⟩ := takeOutbox_step run
      rfl
    · exact accepted_frame.step rests.1 takes (fun input put => absurd put (other input)) run

end Session

/-! ## From Gemini -/

/-- What a client hears of Gemini, and where its turns end. -/
def OutboxFrame.isSpoken : OutboxFrame → Bool
  | .audioPcm _ | .assistantText _ | .userTranscript _ | .turnComplete => true
  | _ => false

/-- The content of a message, its audio only while the speaker is on, and the end of its turn. -/
def LiveServerMessage.tells (speaker : Bool) (message : LiveServerMessage) : List OutboxFrame :=
  message.serverContent.elim [] (contentFrames speaker) ++
    if message.endsTurn then [.turnComplete] else []

def ConsumerEvent.tells (speaker : Bool) : ConsumerEvent → List OutboxFrame
  | .response message => message.tells speaker
  | _ => []

theorem isSpoken_toolCallFrames (toolCall : Option (Option (List FunctionCall))) :
    (toolCallFrames toolCall).filter OutboxFrame.isSpoken = [] := by
  rcases toolCall with _ | _ | calls <;> rfl

theorem isSpoken_contentFrames {speaker : Bool} {content : ServerContent} {frame : OutboxFrame}
    (member : frame ∈ contentFrames speaker content) : OutboxFrame.isSpoken frame = true := by
  rcases mem_contentFrames member with ⟨data, rfl⟩ | ⟨text, rfl⟩ | ⟨text, rfl⟩ <;> rfl

theorem spoken_response (speaker : Bool) (message : LiveServerMessage) :
    (responseFrames speaker message).filter OutboxFrame.isSpoken = message.tells speaker := by
  unfold responseFrames LiveServerMessage.tells
  cases shape : message.serverContent with
  | none => simp [isSpoken_toolCallFrames, LiveServerMessage.endsTurn, shape]
  | some content =>
      have all : (contentFrames speaker content).filter OutboxFrame.isSpoken =
          contentFrames speaker content := by
        refine List.filter_eq_self.mpr fun frame member => ?_
        exact isSpoken_contentFrames member
      simp only [Option.elim_some, List.filter_append, all]
      split
      · rfl
      · rw [isSpoken_toolCallFrames]

theorem spoken_frames {state next : SessionState} {consumer : Consumer} {given : ConsumerEvent}
    {progress : ConsumerProgress} (resumed : consumer.resume state given = some (next, progress)) :
    (consumer.frames state.speaker given).filter OutboxFrame.isSpoken =
      given.tells state.speaker := by
  unfold Consumer.resume at resumed
  split at resumed
  · exact spoken_response state.speaker _
  all_goals first | rfl | cases resumed

def spokenFrame : OutboxItem → Option OutboxFrame
  | .frame frame => if OutboxFrame.isSpoken frame then some frame else none
  | .stop => none

theorem filterMap_spokenFrame (frames : List OutboxFrame) :
    (frames.map OutboxItem.frame).filterMap spokenFrame = frames.filter OutboxFrame.isSpoken := by
  induction frames with
  | nil => rfl
  | cons frame rest ih =>
      simp only [List.map_cons, List.filterMap_cons, spokenFrame, List.filter_cons]
      cases OutboxFrame.isSpoken frame
      · exact ih
      · exact congrArg (frame :: ·) ih

/-- What the outbox accepted of Gemini's. -/
def spoken (state : SessionState) : List OutboxFrame :=
  state.outbox.accepted.filterMap spokenFrame

theorem spoken_offer {state : SessionState} {item : OutboxItem} (silent : spokenFrame item = none) :
    spoken (state.sendOutbox item) = spoken state := by
  change (state.outbox.offer item).accepted.filterMap spokenFrame = _
  rcases state.outbox.offer_spec item with ⟨_, accepted, _⟩ | ⟨_, same⟩
  · rw [accepted, List.filterMap_append, List.filterMap_cons_none silent, List.filterMap_nil,
      List.append_nil]
    rfl
  · rw [same]
    rfl

theorem spoken_frame : StateFrame fun before after => spoken after = spoken before where
  refl _ := rfl
  trans _ _ _ front back := back.trans front
  send _ frame other := by
    refine spoken_offer ?_
    cases frame <;> first | rfl | cases other
  stop _ := spoken_offer rfl
  take _ _ _ _ := rfl
  touch _ _ := rfl
  speaker _ _ := rfl

namespace Session

/-- What Gemini tells in a step, as far as it is for the clients. -/
def tells (session : Session) : RunnerEvent → List OutboxFrame
  | .consume given | .receive given => given.tells session.state.speaker
  | _ => []

/-- There is room on the outbox for all that the consumer sends in a step. -/
def Roomy (session : Session) (event : RunnerEvent) : Prop :=
  ∀ reading ∈ session.reader event, session.state.outbox.qsize +
    (reading.1.frames session.state.speaker reading.2).length ≤ OUTBOX_MAX_SIZE

instance (session : Session) (event : RunnerEvent) : Decidable (session.Roomy event) :=
  inferInstanceAs (Decidable (∀ reading ∈ session.reader event, session.state.outbox.qsize +
    (reading.1.frames session.state.speaker reading.2).length ≤ OUTBOX_MAX_SIZE))

/-- A step adds to the outbox nothing of Gemini's but what Gemini tells in it, and all of that
when there is room. -/
theorem spoken_step {session next : Session} {clock : Clock} {event : RunnerEvent}
    (run : session.step (clock, event) = some next) :
    (∃ added : List OutboxFrame, added.Sublist (session.tells event) ∧
      spoken next.state = spoken session.state ++ added) ∧
    (session.Roomy event → spoken next.state = spoken session.state ++ session.tells event) := by
  rcases reader_shift (shift_step run) with ⟨consumer, given, progress, reads, resumed⟩ | rests
  · let frames := (consumer.frames session.state.speaker given).map OutboxItem.frame
    have told : session.tells event = given.tells session.state.speaker := by
      rcases reader_given reads with rfl | rfl <;> rfl
    have all : frames.filterMap spokenFrame = session.tells event :=
      (filterMap_spokenFrame _).trans ((spoken_frames resumed).trans told.symm)
    have outbox : next.state.outbox = session.state.outbox.offerAll frames :=
      (consumer_spec resumed).1
    constructor
    · obtain ⟨kept, some, accepted⟩ := session.state.outbox.offerAll_accepted frames
      refine ⟨kept.filterMap spokenFrame, all ▸ some.filterMap spokenFrame, ?_⟩
      rw [spoken, outbox, accepted, List.filterMap_append]
      rfl
    · intro roomy
      have room : session.state.outbox.qsize + frames.length ≤ OUTBOX_MAX_SIZE := by
        simpa only [frames, List.length_map] using roomy (consumer, given) reads
      rw [spoken, outbox, BoundedQueue.offerAll_roomy room, List.filterMap_append, all]
      rfl
  · have silent : session.tells event = [] := by
      cases event with
      | consume given => cases rests.1
      | receive given => cases rests.1
      | _ => rfl
    have same : spoken next.state = spoken session.state := by
      by_cases takes : event = .takeOutbox
      · subst takes
        obtain ⟨item, outbox, got, rfl⟩ := takeOutbox_step run
        simp only [spoken, BoundedQueue.getNowait_accepted got]
      · exact spoken_frame.step rests.1 takes (fun _ _ => rfl) run
    rw [silent, List.append_nil]
    exact ⟨⟨[], List.Sublist.refl [], by rw [same, List.append_nil]⟩, fun _ => same⟩

end Session

end LiveChat.Core.GeminiRunner
