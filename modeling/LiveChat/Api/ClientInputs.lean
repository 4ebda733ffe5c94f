import LiveChat.Core.GeminiTraffic
import LiveChat.Api.LoopSurvival

/-!
# What Gemini gets from the clients

A message of a client may end in a call to the Gemini session: over the inbox, which may be full,
and over the runner, which drops texts during a voice turn.  Whatever the clients of a session
send, and however its runner goes on, the calls to Gemini are some of their messages, in the
order in which these came in; and of what was taken from the inbox only texts are left out.
-/

set_option autoImplicit false

namespace LiveChat.Api.ReceiveLoop

open LiveChat.Core
open LiveChat.Core.GeminiRunner
open LiveChat.Core.GeminiRunner.Session
open LiveChat.Foundation
open LiveChat.Foundation.TransitionSystem

/-- What a client asks of Gemini with a message, in the protocol of the WebSocket. -/
def ClientMessage.asks (message : ClientMessage) : Option GeminiInput :=
  match message.bytes, message.text with
  | some (byte :: rest), _ => some (.audio (byte :: rest))
  | _, some (.value (.object members)) =>
      match (members.lookup "type").getD .null with
      | .string "text_input" =>
          match inputText members with
          | some text => if text = "" then none else some (.clientContent text)
          | none => none
      | .string "voice_start" => some .activityStart
      | .string "voice_end" => some .activityEnd
      | _ => none
  | _, _ => none

/-- What the clients asked of Gemini, all of them in one line. -/
def asked (events : List (Clock × ConversationEvent)) : List GeminiInput :=
  events.filterMap fun event =>
    match event.2 with
    | .receive _ message => message.asks
    | _ => none

theorem asked_append (front back : List (Clock × ConversationEvent)) :
    asked (front ++ back) = asked front ++ asked back := List.filterMap_append

/-! ## From messages to frames -/

theorem asks_handleObject {voiceActive : Bool} {members : Json.Object} {frame : InputFrame}
    {touches : Bool} {onFull : Option Answer}
    (handled : (handleObject voiceActive members).2 = .enqueue frame touches onFull) :
    inputOf frame = none ∨
      inputOf frame = ClientMessage.asks { text := some (.value (.object members)) } := by
  unfold handleObject at handled
  split at handled
  · rename_i isText
    refine Or.inr ?_
    unfold handleTextInput at handled
    split at handled
    · cases handled
    · rename_i text read
      split at handled
      · cases handled
      · rename_i nonempty
        cases handled
        simp only [ClientMessage.asks, isText, read, if_neg nonempty, inputOf]
  · rename_i isStart
    cases handled
    simp only [ClientMessage.asks, isStart, inputOf, or_true]
  · rename_i isEnd
    split at handled
    · cases handled
      simp only [ClientMessage.asks, isEnd, inputOf, or_true]
    · cases handled
  · cases handled
    exact Or.inl rfl
  all_goals cases handled

theorem asks_handle {voiceActive : Bool} {message : ClientMessage} {frame : InputFrame}
    {touches : Bool} {onFull : Option Answer}
    (handled : (handle voiceActive message).2 = .enqueue frame touches onFull) :
    inputOf frame = none ∨ inputOf frame = message.asks := by
  obtain ⟨bytes, text⟩ := message
  have ofText : ∀ bytes loads, bytes = none ∨ bytes = some [] →
      (handle voiceActive { bytes := bytes, text := some loads }).2 =
        .enqueue frame touches onFull →
      inputOf frame = none ∨
        inputOf frame = ClientMessage.asks { bytes := bytes, text := some loads } := by
    rintro bytes loads (rfl | rfl) handled
    all_goals
      cases loads with
      | decodeError => cases handled
      | raised => cases handled
      | value payload =>
          cases payload with
          | object members => exact asks_handleObject handled
          | _ => cases handled
  rcases bytes with _ | _ | ⟨byte, rest⟩
  · cases text with
    | none => cases handled
    | some loads => exact ofText none loads (Or.inl rfl) handled
  · cases text with
    | none => cases handled
    | some loads => exact ofText (some []) loads (Or.inr rfl) handled
  · cases voiceActive with
    | true =>
        cases handled
        exact Or.inr rfl
    | false => cases handled

namespace Conversation

theorem receive_session (conversation : Conversation) (clock : Clock) (index : Nat)
    (connection : Connection) (message : ClientMessage) :
    (conversation.receive clock index connection message).session.await =
        conversation.session.await ∧
      ((conversation.receive clock index connection message).session.state.inbox =
          conversation.session.state.inbox ∨
        ∃ frame touches onFull,
          (handle connection.voiceActive message).2 = .enqueue frame touches onFull ∧
          (conversation.receive clock index connection message).session.state.inbox.accepted =
            (conversation.session.state.inbox.offer frame).accepted ∧
          (conversation.receive clock index connection message).session.state.inbox.taken =
            conversation.session.state.inbox.taken) := by
  unfold receive
  cases handled : handle connection.voiceActive message with
  | mk voiceActive handling =>
      cases handling with
      | ignored => exact ⟨rfl, Or.inl rfl⟩
      | answer answer => exact ⟨rfl, Or.inl rfl⟩
      | raised => exact ⟨rfl, Or.inl rfl⟩
      | enqueue frame touches onFull =>
          refine ⟨?_, Or.inr ⟨frame, touches, onFull, rfl, (enqueue_spec _ _ _ _ _ _ _).2⟩⟩
          simp only [enqueue]
          split
          · rw [(noteText_rest _ _ _ _).1]
            rfl
          · split <;> rfl

/-! ## Runs -/

def sends (conversation : Conversation) : Clock × ConversationEvent → List GeminiInput
  | (clock, .runner event) => (conversation.session.sends (clock, event)).toList
  | _ => []

structure Serves (conversation : Conversation) (events : List (Clock × ConversationEvent))
    (calls : List GeminiInput) : Prop where
  relays : ∃ late, conversation.session.Relays calls late
  source : (conversation.session.state.inbox.accepted.filterMap inputOf).Sublist (asked events)

theorem step_runner {conversation next : Conversation} {clock : Clock} {event : RunnerEvent}
    (run : conversation.step (clock, .runner event) = some next) :
    (∀ input, event ≠ .putInbox input) ∧
      conversation.session.step (clock, event) = some next.session := by
  cases event with
  | putInbox input => cases run
  | touch => cases run
  | requestCancel =>
      cases run
      exact ⟨fun _ same => (by cases same), rfl⟩
  | _ =>
      obtain ⟨session, stepped, rfl⟩ := Option.map_eq_some_iff.mp run
      refine ⟨fun _ same => (by cases same), ?_⟩
      rw [follow_session]
      exact stepped

/-- The clients put on the inbox what they ask for, or nothing of Gemini's business. -/
theorem serves_receive {conversation : Conversation} {events : List (Clock × ConversationEvent)}
    {calls : List GeminiInput} (serves : conversation.Serves events calls) (clock : Clock)
    (index : Nat) (connection : Connection) (message : ClientMessage) :
    (conversation.receive clock index connection message).Serves
      (events ++ [(clock, .receive index message)]) calls := by
  obtain ⟨await, inbox⟩ := conversation.receive_session clock index connection message
  obtain ⟨late, relays⟩ := serves.relays
  have grown : asked (events ++ [(clock, .receive index message)]) =
      asked events ++ message.asks.toList := by
    rw [asked_append]
    refine congrArg (asked events ++ ·) ?_
    cases shape : message.asks <;> simp [asked, shape]
  rcases inbox with same | ⟨frame, touches, onFull, handled, put⟩
  · refine ⟨⟨late, relays.congr await (by simp only [heard, same])⟩, ?_⟩
    rw [same, grown]
    exact serves.source.trans (List.sublist_append_left _ _)
  · obtain ⟨put, taken⟩ := put
    have grows := (conversation.session.state.inbox.offer_grows frame).2
    refine ⟨⟨late, relays.congr await (heard_of_grows taken (put ▸ grows))⟩, ?_⟩
    rw [put, grown]
    rcases conversation.session.state.inbox.offer_spec frame with ⟨_, accepted, _⟩ | ⟨_, full⟩
    · rw [accepted, List.filterMap_append]
      refine serves.source.append ?_
      rcases asks_handle handled with silent | same
      · simp [silent]
      · cases shape : message.asks <;> simp [same, shape]
    · rw [full, BoundedQueue.drop_accepted]
      exact serves.source.trans (List.sublist_append_left _ _)

theorem serves_step {conversation next : Conversation} {event : Clock × ConversationEvent}
    {events : List (Clock × ConversationEvent)} {calls : List GeminiInput}
    (serves : conversation.Serves events calls) (run : conversation.step event = some next) :
    next.Serves (events ++ [event]) (calls ++ conversation.sends event) := by
  obtain ⟨late, relays⟩ := serves.relays
  have longer : (asked events).Sublist (asked (events ++ [event])) := by
    rw [asked_append]
    exact List.sublist_append_left _ _
  have silent : conversation.sends event = [] → next.Serves (events ++ [event]) calls →
      next.Serves (events ++ [event]) (calls ++ conversation.sends event) := by
    intro nothing held
    rw [nothing, List.append_nil]
    exact held
  obtain ⟨clock, event⟩ := event
  cases event with
  | connect =>
      cases run
      refine silent rfl ?_
      exact ⟨⟨late, relays.congr rfl rfl⟩, serves.source.trans longer⟩
  | receive index message =>
      obtain ⟨connection, _, _, rfl⟩ := step_receive run
      refine silent rfl ?_
      exact serves_receive serves clock index connection message
  | ended index =>
      obtain ⟨connection, _, rfl⟩ := step_ended run
      refine silent rfl ?_
      exact ⟨⟨late, relays⟩, serves.source.trans longer⟩
  | stop =>
      cases run
      obtain ⟨taken, grows⟩ := conversation.session.state.inbox.offer_grows .stop
      refine silent rfl ?_
      refine ⟨⟨late, relays.congr rfl (heard_of_grows taken grows)⟩, ?_⟩
      refine List.Sublist.trans ?_ (serves.source.trans longer)
      change ((conversation.session.state.inbox.offer .stop).accepted.filterMap inputOf).Sublist _
      rcases conversation.session.state.inbox.offer_spec .stop with ⟨_, accepted, _⟩ | ⟨_, full⟩
      · rw [accepted, List.filterMap_append]
        simp [inputOf]
      · simp [full]
  | runner event =>
      obtain ⟨other, stepped⟩ := step_runner run
      refine ⟨relays_step relays stepped, ?_⟩
      rw [accepted_step other stepped]
      exact serves.source.trans longer

/-- What a run sends to Gemini, against what the clients asked for and what the runner took. -/
structure Heard (conversation : Conversation) (events : List (Clock × ConversationEvent))
    (calls : List GeminiInput) : Prop where
  /-- Nothing is made up, doubled or reordered. -/
  inOrder : calls.Sublist (asked events)
  /-- No part of a voice turn that was taken is dropped, but for an `activity_start` that still
  waits for the receive task, or whose runner has left its loop meanwhile. -/
  voice : ∃ late : List GeminiInput, (late = [] ∨ late = [.activityStart]) ∧
    (conversation.session.await.lives = true → late = conversation.session.waiting) ∧
    (calls ++ late).filter GeminiInput.isVoice =
      (conversation.session.heard.filterMap inputOf).filter GeminiInput.isVoice

def talkedOver : List (Clock × ConversationEvent) :=
  atOnce (voiceStarted ++ [.receive 0 (textInput "hello"), .runner .frame,
    .receive 0 { bytes := some [7] }, .runner .frame, .runner .sent,
    .receive 0 (typed "voice_end"), .runner .frame])

example : asked talkedOver =
      [.activityStart, .clientContent "hello", .audio [7], .activityEnd] ∧
    emitted step sends (opened (spawn ⟨0, 0⟩ "s" "key" sampleProject true)) talkedOver =
      [.activityStart, .audio [7], .activityEnd] := by decide

end Conversation

end LiveChat.Api.ReceiveLoop
