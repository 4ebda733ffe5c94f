import LiveChat.Api.TextDelivery

/-!
# Messages that end the receive loop

An exception that the handling of a message raises is caught outside of the loop of
`_receive_loop`, so it ends the loop: the client stays connected and is not read again.
The theorem says which messages do so.
-/

set_option autoImplicit false

namespace LiveChat.Api.ReceiveLoop

open LiveChat.Core
open LiveChat.Core.GeminiRunner
open LiveChat.Core.GeminiRunner.Session
open LiveChat.Foundation
open LiveChat.Foundation.TransitionSystem

/-! ## Shapes of messages -/

def TextIsString (members : Json.Object) : Prop :=
  ∀ text, members.lookup "text" = some text → text.isTruthy = true →
    ∃ string, text = .string string

/-- Audio, no text, no JSON, or an object, in which `text_input` comes with a string. -/
def ClientMessage.Digestible (message : ClientMessage) : Prop :=
  match message.bytes, message.text with
  | some (_ :: _), _ => True
  | _, none => True
  | _, some .decodeError => True
  | _, some .raised => False
  | _, some (.value (.object members)) =>
      members.lookup "type" = some (.string "text_input") → TextIsString members
  | _, some (.value _) => False

theorem inputText_eq_none_iff {members : Json.Object} :
    inputText members = none ↔ ¬ TextIsString members := by
  cases listed : members.lookup "text" with
  | none => simp [inputText, TextIsString, listed, Json.isTruthy]
  | some text =>
      cases text with
      | string text =>
          simp only [inputText, TextIsString, listed, Option.getD_some]
          split <;> simp
      | null | bool _ | number _ _ | array _ | object _ =>
          simp [inputText, TextIsString, listed]

theorem handleTextInput_raised_iff {members : Json.Object} :
    handleTextInput members = .raised ↔ ¬ TextIsString members := by
  rw [← inputText_eq_none_iff]
  unfold handleTextInput
  cases inputText members with
  | none => simp
  | some text =>
      simp only [reduceCtorEq, iff_false]
      split <;> simp

/-- Of the types, `text_input` alone can raise. -/
theorem handleObject_raised_iff {voiceActive : Bool} {members : Json.Object} :
    (handleObject voiceActive members).2 = .raised ↔
      members.lookup "type" = some (.string "text_input") ∧ ¬ TextIsString members := by
  have listed : members.lookup "type" = some (.string "text_input") ↔
      (members.lookup "type").getD .null = .string "text_input" := by
    cases members.lookup "type" <;> simp
  rw [listed, ← handleTextInput_raised_iff]
  unfold handleObject
  split
  · rename_i isText
    simp [isText]
  · rename_i isStart
    simp [isStart]
  · rename_i isEnd
    cases voiceActive <;> simp [isEnd]
  · rename_i isSpeaker
    simp [isSpeaker]
  · rename_i isInterrupt
    simp [isInterrupt]
  · rename_i isPing
    simp [isPing]
  · rename_i notText _ _ _ _ _
    exact ⟨fun raised => (by cases raised), fun both => absurd both.1 notText⟩

theorem handle_raised_iff {voiceActive : Bool} {message : ClientMessage} :
    (handle voiceActive message).2 = .raised ↔ ¬ message.Digestible := by
  obtain ⟨bytes, text⟩ := message
  -- a message without audio is what its text says
  have ofText : ∀ bytes loads, bytes = none ∨ bytes = some [] →
      ((handle voiceActive { bytes := bytes, text := some loads }).2 = .raised ↔
        ¬ ClientMessage.Digestible { bytes := bytes, text := some loads }) := by
    rintro bytes loads (rfl | rfl) <;> cases loads with
    | decodeError => simp [handle, handleText, ClientMessage.Digestible]
    | raised => simp [handle, handleText, ClientMessage.Digestible]
    | value payload =>
        cases payload with
        | object members =>
            simp [handle, handleText, ClientMessage.Digestible, handleObject_raised_iff]
        | null | bool _ | number _ _ | string _ | array _ =>
            simp [handle, handleText, ClientMessage.Digestible]
  rcases bytes with _ | _ | ⟨byte, rest⟩
  · cases text with
    | none => simp [handle, ClientMessage.Digestible]
    | some loads => exact ofText none loads (Or.inl rfl)
  · cases text with
    | none => simp [handle, ClientMessage.Digestible]
    | some loads => exact ofText (some []) loads (Or.inr rfl)
  · cases voiceActive <;> simp [handle, ClientMessage.Digestible]

namespace Conversation

/-! ## One connection -/

/-- The receive loop of the connection is at `ws.receive()`. -/
def Waiting (index : Nat) (conversation : Conversation) : Prop :=
  ∀ connection, conversation.connections[index]? = some connection →
    connection.receiving = true

def Digests (index : Nat) (_ : Conversation) : Clock × ConversationEvent → Prop
  | (_, .receive other message) => other = index → message.Digestible
  | _ => True

theorem enqueue_spec (conversation : Conversation) (clock : Clock) (index : Nat)
    (voiceActive : Bool) (frame : InputFrame) (touches : Bool) (onFull : Option Answer) :
    (conversation.enqueue clock index voiceActive frame touches onFull).connections =
        conversation.connections ∧
      (conversation.enqueue clock index voiceActive frame touches
          onFull).session.state.inbox.accepted =
        (conversation.session.state.inbox.offer frame).accepted ∧
      (conversation.enqueue clock index voiceActive frame touches
          onFull).session.state.inbox.taken = conversation.session.state.inbox.taken := by
  have inbox : ∀ touched : Bool, (if touched then conversation.session.state.touch clock.monotonic
      else conversation.session.state).inbox = conversation.session.state.inbox := by
    intro touched
    cases touched <;> rfl
  simp only [enqueue, BoundedQueue.offer, inbox]
  cases put : conversation.session.state.inbox.putNowait frame with
  | some longer =>
      have taken := (BoundedQueue.putNowait_spec put).2
      cases frame with
      | text payload => cases voiceActive <;> exact ⟨rfl, rfl, taken⟩
      | _ => exact ⟨rfl, rfl, taken⟩
  | none =>
      have accepted := congrArg BoundedQueue.accepted (inbox touches)
      have taken := congrArg BoundedQueue.taken (inbox touches)
      cases onFull with
      | none => exact ⟨rfl, accepted, taken⟩
      | some answer => exact ⟨rfl, accepted, taken⟩

theorem receive_connections (conversation : Conversation) (clock : Clock) (index : Nat)
    {connection : Connection} (receiving : connection.receiving = true)
    (message : ClientMessage) :
    ∃ still : Bool,
      (still = true ↔ message.Digestible) ∧
        (conversation.receive clock index connection message).connections =
          conversation.connections.set index
            ⟨(handle connection.voiceActive message).1, still⟩ := by
  have raised := @handle_raised_iff connection.voiceActive message
  unfold receive
  cases handled : handle connection.voiceActive message with
  | mk voiceActive handling =>
      rw [handled] at raised
      have digested : handling ≠ .raised → (true = true ↔ message.Digestible) := by
        intro fine
        exact ⟨fun _ => not_not.mp fun odd => fine (raised.mpr odd), fun _ => rfl⟩
      cases handling with
      | raised =>
          refine ⟨false, ⟨fun still => absurd still Bool.false_ne_true, fun digestible =>
            absurd digestible (raised.mp rfl)⟩, ?_⟩
          simp only [setConnection, List.set_set]
      | ignored =>
          refine ⟨true, digested (by simp), ?_⟩
          simp only [setConnection, receiving]
      | answer answer =>
          refine ⟨true, digested (by simp), ?_⟩
          simp only [setConnection, sendAnswer, receiving]
      | enqueue frame touches onFull =>
          refine ⟨true, digested (by simp), ?_⟩
          exact (enqueue_spec _ _ _ _ _ _ _).1.trans (by simp only [setConnection, receiving])

theorem step_cases {conversation next : Conversation} {clock : Clock} {event : ConversationEvent}
    (run : conversation.step (clock, event) = some next) :
    (∃ index message connection, event = .receive index message ∧
        conversation.connections[index]? = some connection ∧ connection.receiving = true ∧
        next = conversation.receive clock index connection message) ∨
      (∃ index connection, event = .ended index ∧
        conversation.connections[index]? = some connection ∧
        next = conversation.setConnection index { connection with receiving := false }) ∨
      (event = .connect ∧ next.connections = conversation.connections ++ [({} : Connection)]) ∨
      ((∀ index message, event ≠ .receive index message) ∧ event ≠ .connect ∧
        next.connections = conversation.connections) := by
  cases event with
  | connect =>
      cases run
      exact Or.inr (Or.inr (Or.inl ⟨rfl, rfl⟩))
  | receive index message =>
      obtain ⟨connection, found, receiving, rfl⟩ := step_receive run
      exact Or.inl ⟨index, message, connection, rfl, found, receiving, rfl⟩
  | ended index =>
      obtain ⟨connection, found, rfl⟩ := step_ended run
      exact Or.inr (Or.inl ⟨index, connection, rfl, found, rfl⟩)
  | stop =>
      simp only [step, Option.map_eq_some_iff] at run
      obtain ⟨session, _, rfl⟩ := run
      exact Or.inr (Or.inr (Or.inr ⟨fun _ _ => by simp, by simp, rfl⟩))
  | runner event =>
      cases event with
      | putInbox frame => cases run
      | touch => cases run
      | _ =>
          simp only [step, Option.map_eq_some_iff] at run
          obtain ⟨session, _, rfl⟩ := run
          exact Or.inr (Or.inr (Or.inr ⟨fun _ _ => by simp, by simp, by rfl⟩))

/-! ## Runs -/

def Attached (index : Nat) (event : Clock × ConversationEvent) : Prop :=
  event.2 ≠ .ended index

/-- A message keeps the loop at work if and only if it is digestible. -/
theorem waiting_step {conversation next : Conversation} {index : Nat}
    {event : Clock × ConversationEvent} (attached : Attached index event)
    (waiting : Waiting index conversation) (run : conversation.step event = some next) :
    Waiting index next ↔ Digests index conversation event := by
  obtain ⟨clock, event⟩ := event
  rcases step_cases run with ⟨other, message, connection, rfl, found, receiving, rfl⟩ |
    ⟨other, connection, rfl, found, rfl⟩ | ⟨rfl, connections⟩ | ⟨other, _, connections⟩
  · obtain ⟨still, digested, connections⟩ := receive_connections conversation clock other receiving
      message
    simp only [Waiting, Digests, connections]
    by_cases own : other = index
    · subst own
      have bound := (List.getElem?_eq_some_iff.mp found).1
      simp [List.getElem?_set_self bound, digested]
    · rw [List.getElem?_set_ne own]
      exact ⟨fun _ same => absurd same own, fun _ => waiting⟩
  · have own : other ≠ index := fun same => attached (by rw [same])
    refine iff_of_true (fun after found => ?_) trivial
    simp only [setConnection, List.getElem?_set_ne own] at found
    exact waiting after found
  · refine iff_of_true (fun after found => ?_) trivial
    rw [connections, List.getElem?_append] at found
    split at found
    · exact waiting after found
    · obtain rfl := List.mem_singleton.mp (List.mem_of_getElem? found)
      rfl
  · have digests : Digests index conversation (clock, event) := by
      cases event with
      | receive place message => exact absurd rfl (other place message)
      | _ => trivial
    refine iff_of_true (fun after found => ?_) digests
    exact waiting after (connections ▸ found)

/-- While its client stays connected and its answers can be sent, the receive loop waits for
the next message after every step if and only if all messages were digestible. -/
theorem waiting_iff_digests (session : Session) (index : Nat)
    (events : List (Clock × ConversationEvent)) (attached : ∀ event ∈ events, Attached index event) :
    Always step (Waiting index) (opened session) events ↔
      Along step (Digests index) (opened session) events := by
  refine always_iff_along_of (fun _ => True) (Attached index) ?_ (fun _ _ _ _ _ _ _ _ => trivial)
    attached trivial fun connection found => nomatch found
  intro conversation event next connected _ waiting run
  exact waiting_step connected waiting run

/-- A text that is no JSON and a number as a type are answered. -/
theorem waiting_survives :
    Always step (Waiting 0) (opened (spawn ⟨0, 0⟩ "s" "key" sampleProject true))
      (atOnce [.connect, .receive 0 { text := some .decodeError },
        .receive 0 { text := some (.value (.object [("type", .number 7 0)])) },
        .receive 0 (textInput "hello")]) := by
  have digests : Along step (Digests 0) (opened (spawn ⟨0, 0⟩ "s" "key" sampleProject true))
      (atOnce [.connect, .receive 0 { text := some .decodeError },
        .receive 0 { text := some (.value (.object [("type", .number 7 0)])) },
        .receive 0 (textInput "hello")]) := by
    refine fun _ _ => ⟨trivial, fun _ _ => ⟨fun _ => trivial, fun _ _ => ⟨fun _ number => ?_,
      fun _ _ => ⟨fun _ _ text listed _ => ?_, trivial⟩⟩⟩⟩
    · cases number
    · cases listed
      exact ⟨"hello", rfl⟩
  exact (waiting_iff_digests _ 0 _ (by simp [atOnce, Attached])).mpr digests

/-- The text is `[]`, which has no `get`. -/
theorem waiting_fails :
    ¬ ∀ (session : Session) (index : Nat) (events : List (Clock × ConversationEvent)),
      (∀ event ∈ events, Attached index event) →
      Always step (Waiting index) (opened session) events := by
  intro always
  let events := atOnce [.connect, .receive 0 { text := some (.value (.array [])) }]
  have ended : (exec step (opened (spawn ⟨0, 0⟩ "s" "key" sampleProject true)) events).map
      (fun last => (last.connections[0]?).map Connection.receiving) = some (some false) := by rfl
  obtain ⟨last, run, look⟩ := Option.map_eq_some_iff.mp ended
  obtain ⟨connection, found, stopped⟩ := Option.map_eq_some_iff.mp look
  have waiting := (always (spawn ⟨0, 0⟩ "s" "key" sampleProject true) 0 events
    (by simp [events, atOnce, Attached])).last run connection found
  rw [stopped] at waiting
  cases waiting

end Conversation

end LiveChat.Api.ReceiveLoop
