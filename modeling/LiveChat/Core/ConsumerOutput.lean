import LiveChat.Core.RunnerTurns

/-!
# What a consumer offers to the outbox

`Consumer.frames` lists the frames that one step of `_consume_gemini_responses` passes to
`send_outbox`, whether the outbox has room for them or not.  `consumer_spec` ties the list to
the outbox and counts the turns that the step completes.
-/

set_option autoImplicit false

namespace LiveChat.Core.GeminiRunner

open LiveChat.Foundation

/-! ## The frames of one step -/

def audioFrames (speaker : Bool) (parts : List (Option Bytes)) : List OutboxFrame :=
  parts.filterMap fun part =>
    match part with
    | some data => if data ≠ [] ∧ speaker = true then some (.audioPcm data) else none
    | none => none

def textFrames (frame : String → OutboxFrame) : Option String → List OutboxFrame
  | some text => if text = "" then [] else [frame text]
  | none => []

def contentFrames (speaker : Bool) (content : ServerContent) : List OutboxFrame :=
  audioFrames speaker content.modelTurn ++
    textFrames .assistantText content.outputTranscription ++
    textFrames .userTranscript content.inputTranscription

/-- A list of calls that is missing makes the consumer raise, and say so. -/
def toolCallFrames : Option (Option (List FunctionCall)) → List OutboxFrame
  | some none => [.error "Gemini receive error: 'NoneType' object is not iterable"]
  | _ => []

def LiveServerMessage.endsTurn (message : LiveServerMessage) : Bool :=
  message.serverContent.any fun content => content.interrupted || content.turnComplete

def responseFrames (speaker : Bool) (message : LiveServerMessage) : List OutboxFrame :=
  match message.serverContent with
  | none => toolCallFrames message.toolCall
  | some content =>
      contentFrames speaker content ++
        if message.endsTurn then [.turnComplete] else toolCallFrames message.toolCall

def Consumer.frames (speaker : Bool) : Consumer → ConsumerEvent → List OutboxFrame
  | .receiving, .response message => responseFrames speaker message
  | .receiving, .failed exc | .executing _ _ _, .failed exc =>
      [.error ("Gemini receive error: " ++ exc)]
  | .executing call _ _, .toolResult result =>
      [.toolCall call.name (call.args.getD []) result call.id]
  | .responding _, .failed exc => [.error ("Tool response failed: " ++ exc)]
  | _, _ => []

/-! ## They are what the outbox is offered -/

/-- The frames are offered one after the other; the speaker flag stays. -/
structure Offers (frames : List OutboxFrame) (before after : SessionState) : Prop where
  outbox : after.outbox = before.outbox.offerAll (frames.map OutboxItem.frame)
  speaker : after.speaker = before.speaker
  turns : after.turns = before.turns

theorem Offers.refl (state : SessionState) : Offers [] state state := ⟨rfl, rfl, rfl⟩

theorem Offers.trans {early late : List OutboxFrame} {first second third : SessionState}
    (front : Offers early first second) (back : Offers late second third) :
    Offers (early ++ late) first third := by
  refine ⟨?_, back.speaker.trans front.speaker, back.turns.trans front.turns⟩
  rw [back.outbox, front.outbox, BoundedQueue.offerAll, BoundedQueue.offerAll,
    BoundedQueue.offerAll, List.map_append, List.foldl_append]

theorem offers_send (state : SessionState) (frame : OutboxFrame) :
    Offers [frame] state (state.send frame) := ⟨rfl, rfl, rfl⟩

theorem offers_captureUsage (state : SessionState) (usage : Option UsageMetadata) :
    Offers [] state (captureUsage state usage) := by
  cases usage with
  | none => exact .refl state
  | some usage =>
      simp only [captureUsage]
      split <;> exact ⟨rfl, rfl, rfl⟩

theorem offers_sendAudio (state : SessionState) (parts : List (Option Bytes)) :
    Offers (audioFrames state.speaker parts) state (sendAudio state parts) := by
  induction parts generalizing state with
  | nil => exact .refl state
  | cons part rest ih =>
      cases part with
      | none => exact ih state
      | some data =>
          by_cases sends : data ≠ [] ∧ state.speaker = true
          · have later := ih (state.send (.audioPcm data))
            simp only [audioFrames, List.filterMap_cons, sendAudio, if_pos sends] at later ⊢
            exact (offers_send state (.audioPcm data)).trans later
          · have later := ih state
            simp only [audioFrames, List.filterMap_cons, sendAudio, if_neg sends] at later ⊢
            exact later

theorem offers_sendText (state : SessionState) (frame : String → OutboxFrame)
    (text : Option String) :
    Offers (textFrames frame text) state (sendText state frame text) := by
  cases text with
  | none => exact .refl state
  | some text =>
      simp only [textFrames, sendText]
      split
      · exact .refl state
      · exact offers_send state (frame text)

theorem offers_sendContent (state : SessionState) (content : ServerContent) :
    Offers (contentFrames state.speaker content) state (sendContent state content) :=
  ((offers_sendAudio state _).trans (offers_sendText _ _ _)).trans (offers_sendText _ _ _)

theorem offers_startToolCall (state : SessionState)
    (toolCall : Option (Option (List FunctionCall))) :
    Offers (toolCallFrames toolCall) state (startToolCall state toolCall).1 := by
  rcases toolCall with _ | _ | calls
  · exact .refl state
  · exact offers_send state _
  · exact .refl state

/-! ## Turns -/

def ConsumerProgress.completes : ConsumerProgress → Bool
  | .returned true => true
  | _ => false

theorem startToolCall_completes (state : SessionState)
    (toolCall : Option (Option (List FunctionCall))) :
    (startToolCall state toolCall).2.completes = false := by
  rcases toolCall with _ | _ | calls <;> rfl

theorem toolCallFrames_turns (toolCall : Option (Option (List FunctionCall))) :
    (toolCallFrames toolCall).count .turnComplete = 0 := by
  rcases toolCall with _ | _ | calls <;> rfl

theorem mem_textFrames {frame : String → OutboxFrame} {text : Option String} {sent : OutboxFrame}
    (member : sent ∈ textFrames frame text) : ∃ text, sent = frame text := by
  unfold textFrames at member
  split at member
  · split at member
    · cases member
    · exact ⟨_, List.mem_singleton.mp member⟩
  · cases member

theorem mem_contentFrames {speaker : Bool} {content : ServerContent} {frame : OutboxFrame}
    (member : frame ∈ contentFrames speaker content) :
    (∃ data, frame = .audioPcm data) ∨ (∃ text, frame = .assistantText text) ∨
      ∃ text, frame = .userTranscript text := by
  rcases List.mem_append.mp member with front | transcript
  · rcases List.mem_append.mp front with audio | transcript
    · obtain ⟨part, _, same⟩ := List.mem_filterMap.mp audio
      split at same
      · split at same <;> cases same
        exact Or.inl ⟨_, rfl⟩
      · cases same
    · exact Or.inr (Or.inl (mem_textFrames transcript))
  · exact Or.inr (Or.inr (mem_textFrames transcript))

theorem contentFrames_turns (speaker : Bool) (content : ServerContent) :
    (contentFrames speaker content).count .turnComplete = 0 := by
  refine List.count_eq_zero.mpr fun member => ?_
  rcases mem_contentFrames member with ⟨_, same⟩ | ⟨_, same⟩ | ⟨_, same⟩ <;> cases same

theorem responseFrames_turns (speaker : Bool) (message : LiveServerMessage) :
    (responseFrames speaker message).count .turnComplete = if message.endsTurn then 1 else 0 := by
  cases found : message.serverContent with
  | none =>
      simp only [responseFrames, LiveServerMessage.endsTurn, found, toolCallFrames_turns]
      rfl
  | some content =>
      simp only [responseFrames, found, List.count_append, contentFrames_turns, Nat.zero_add]
      split
      · rfl
      · exact toolCallFrames_turns _

/-- One message: its frames, whether it ends the turn, and the count of turns. -/
theorem handleResponse_spec (state : SessionState) (message : LiveServerMessage) :
    (handleResponse state message).1.outbox =
        state.outbox.offerAll ((responseFrames state.speaker message).map OutboxItem.frame) ∧
      (handleResponse state message).2.completes = message.endsTurn ∧
      (handleResponse state message).1.turns =
        state.turns + if message.endsTurn then 1 else 0 := by
  have captured := offers_captureUsage state message.usageMetadata
  cases found : message.serverContent with
  | none =>
      have offers := captured.trans
        (offers_startToolCall (captureUsage state message.usageMetadata) message.toolCall)
      simp only [handleResponse, responseFrames, LiveServerMessage.endsTurn, found,
        startToolCall_completes, Option.any_none]
      exact ⟨offers.outbox, trivial, offers.turns⟩
  | some content =>
      have sent := captured.trans
        (offers_sendContent (captureUsage state message.usageMetadata) content)
      rw [captured.speaker] at sent
      by_cases ends : content.interrupted = true ∨ content.turnComplete = true
      · have ends' : message.endsTurn = true := by
          simpa [LiveServerMessage.endsTurn, found] using ends
        have offers := sent.outbox
        simp only [handleResponse, responseFrames, found, ends, ends', if_true,
          List.nil_append] at offers ⊢
        refine ⟨?_, rfl, ?_⟩
        · simp only [completeTurn, SessionState.send, SessionState.sendOutbox, offers,
            BoundedQueue.offerAll, List.map_append, List.foldl_append, List.map_cons,
            List.map_nil, List.foldl_cons, List.foldl_nil]
        · exact congrArg (· + 1) sent.turns
      · have ends' : message.endsTurn = false := by
          simpa [LiveServerMessage.endsTurn, found] using ends
        have offers := sent.trans (offers_startToolCall _ message.toolCall)
        simp only [handleResponse, responseFrames, found, ends, ends', if_false,
          List.nil_append, startToolCall_completes, Bool.false_eq_true] at offers ⊢
        exact ⟨offers.outbox, trivial, offers.turns⟩

/-- A consumer that reads no message completes no turn. -/
theorem frames_turns (consumer : Consumer) {event : ConsumerEvent} (speaker : Bool)
    (other : ∀ message, event ≠ .response message) :
    (consumer.frames speaker event).count .turnComplete = 0 := by
  cases event with
  | response message => exact absurd rfl (other message)
  | _ => cases consumer <;> rfl

/-- What a step of a consumer offers, and the turns that it counts. -/
theorem consumer_spec {state next : SessionState} {consumer : Consumer} {event : ConsumerEvent}
    {progress : ConsumerProgress}
    (run : consumer.resume state event = some (next, progress)) :
    next.outbox =
        state.outbox.offerAll ((consumer.frames state.speaker event).map OutboxItem.frame) ∧
      next.turns = state.turns + (consumer.frames state.speaker event).count .turnComplete := by
  unfold Consumer.resume at run
  split at run
  · rename_i message
    obtain ⟨outbox, _, turns⟩ := handleResponse_spec state message
    have shape : handleResponse state message = (next, progress) := Option.some.inj run
    rw [shape] at outbox turns
    refine ⟨outbox, ?_⟩
    rw [turns, Consumer.frames, responseFrames_turns]
  all_goals
    first
    | (cases run; exact ⟨rfl, rfl⟩)
    | cases run

/-- A step of a consumer leaves its frames on record, oldest first. -/
theorem framesOffered_consumer {state next : SessionState} {consumer : Consumer}
    {event : ConsumerEvent} {progress : ConsumerProgress}
    (run : consumer.resume state event = some (next, progress)) :
    next.framesOffered = state.framesOffered ++ consumer.frames state.speaker event := by
  have shows : OutboxItem.frame? ∘ OutboxItem.frame = some := rfl
  rw [SessionState.framesOffered, (consumer_spec run).1, BoundedQueue.offerAll_offered,
    List.filterMap_append, List.filterMap_map, shows, List.filterMap_some]
  rfl

/-- What the consumer that makes the step offers; nothing when none does. -/
def Session.frames (session : Session) (event : RunnerEvent) : List OutboxFrame :=
  match session.reader event with
  | some (consumer, given) => consumer.frames session.state.speaker given
  | none => []

end LiveChat.Core.GeminiRunner
