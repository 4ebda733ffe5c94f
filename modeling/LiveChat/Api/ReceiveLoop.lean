import LiveChat.Foundation.Text
import LiveChat.Core.RunnerTurns

/-!
# The receive loop

`_receive_loop` of `api/chat.py`: what one message of the client does to the `voice_active`
flag of its connection and to the inbox of the session.  A `Conversation` is a session with
the receive loops that its clients opened one after the other, or at the same time.

`outside`, `sent` and `refused` are the history that the code does not keep: the texts that
came in while the flag was False, each with its place on the inbox, the texts that
`send_client_content` took, and those whose send failed with an error frame for the client.
-/

set_option autoImplicit false

namespace LiveChat.Api.ReceiveLoop

open LiveChat.Core
open LiveChat.Core.GeminiRunner
open LiveChat.Foundation

/-! ## Messages -/

inductive Loads where
  | value (payload : Json)
  | decodeError
  /-- It raises something else than `JSONDecodeError`: the text nests too deep, or an integer in it
  has too many digits. -/
  | raised

structure ClientMessage where
  bytes : Option Bytes := none
  /-- Absent, too, when the text is empty. -/
  text : Option Loads := none

inductive Answer where
  | error (message : String)
  /-- `Unknown message type: ` with the `repr` of the type. -/
  | unknownType (msgType : Json)
  | pong
  deriving DecidableEq

def invalidJson : Answer := .error "Invalid JSON — could not parse message."

def busy : Answer := .error "Server busy — try again shortly."

/-- What the loop does with a message, up to the next `ws.receive()`. -/
inductive Handling where
  | ignored
  /-- `put_nowait`, and the answer when the inbox is full. -/
  | enqueue (frame : InputFrame) (touches : Bool) (onFull : Option Answer)
  | answer (answer : Answer)
  /-- An exception leaves the loop. -/
  | raised

/-- `(payload.get("text") or "").strip()`; only a string can be stripped. -/
def inputText (members : Json.Object) : Option String :=
  let text := (members.lookup "text").getD .null
  if text.isTruthy then
    match text with
    | .string text => some (Text.strip text)
    | _ => none
  else some ""

def handleTextInput (members : Json.Object) : Handling :=
  match inputText members with
  | none => .raised
  | some text => if text = "" then .ignored else .enqueue (.text text) true (some busy)

def handleObject (voiceActive : Bool) (members : Json.Object) : Bool × Handling :=
  match (members.lookup "type").getD .null with
  | .string "text_input" => (voiceActive, handleTextInput members)
  | .string "voice_start" => (true, .enqueue .activityStart true (some busy))
  | .string "voice_end" =>
      if voiceActive then (false, .enqueue .activityEnd true (some busy))
      else (voiceActive, .ignored)
  | .string "set_speaker" =>
      let enabled := (members.lookup "enabled").getD (.bool false)
      (voiceActive, .enqueue (.setSpeaker enabled.isTruthy) false (some busy))
  | .string "interrupt" => (false, .ignored)
  | .string "ping" => (voiceActive, .answer .pong)
  | msgType => (voiceActive, .answer (.unknownType msgType))

def handleText (voiceActive : Bool) : Loads → Bool × Handling
  | .decodeError => (voiceActive, .answer invalidJson)
  | .raised => (voiceActive, .raised)
  | .value (.object members) => handleObject voiceActive members
  -- only a dict has `get`
  | .value _ => (voiceActive, .raised)

def handle (voiceActive : Bool) (message : ClientMessage) : Bool × Handling :=
  match message.bytes, message.text with
  | some (byte :: rest), _ =>
      if voiceActive then (voiceActive, .enqueue (.audioChunk (byte :: rest)) true none)
      else (voiceActive, .ignored)
  | _, none => (voiceActive, .ignored)
  | _, some loads => handleText voiceActive loads

/-! ## Conversations -/

structure Connection where
  voiceActive : Bool := false
  /-- The loop has not returned. -/
  receiving : Bool := true

structure Conversation where
  session : Session
  connections : List Connection := []
  answers : List (Nat × Answer) := []
  outside : List (Nat × String) := []
  sent : List (Nat × String) := []
  refused : List (Nat × String) := []

inductive ConversationEvent where
  /-- `get_or_create` returned the session to a client. -/
  | connect
  | receive (index : Nat) (message : ClientMessage)
  /-- The client disconnected, or an answer could not be sent. -/
  | ended (index : Nat)
  /-- `_terminate` puts `STOP`. -/
  | stop
  | runner (event : RunnerEvent)

/-- The text that the runner is sending to Gemini, with its place on the inbox. -/
def sendsText (session : Session) : Option (Nat × String) :=
  match session.await, session.heard.getLast? with
  | .sendingText, some (.text payload) => some (session.heard.length - 1, payload)
  | _, _ => none

def sendFailed (exc : String) : OutboxItem := .frame (.error ("Failed to send to Gemini: " ++ exc))

namespace Conversation

def opened (session : Session) : Conversation := { session := session }

def setConnection (conversation : Conversation) (index : Nat) (connection : Connection) :
    Conversation :=
  { conversation with connections := conversation.connections.set index connection }

def sendAnswer (conversation : Conversation) (index : Nat) (answer : Answer) : Conversation :=
  { conversation with answers := conversation.answers ++ [(index, answer)] }

def withState (conversation : Conversation) (state : SessionState) : Conversation :=
  { conversation with session := { conversation.session with state := state } }

def nextPlace (conversation : Conversation) : Nat :=
  conversation.session.state.inbox.accepted.length

/-- A text received while the flag is False. -/
def noteText (conversation : Conversation) (voiceActive : Bool) (place : Nat) :
    InputFrame → Conversation
  | .text text =>
      if voiceActive then conversation
      else { conversation with outside := conversation.outside ++ [(place, text)] }
  | _ => conversation

def enqueue (conversation : Conversation) (clock : Clock) (index : Nat) (voiceActive : Bool)
    (frame : InputFrame) (touches : Bool) (onFull : Option Answer) : Conversation :=
  let state := conversation.session.state
  let state := if touches then state.touch clock.monotonic else state
  match state.inbox.putNowait frame with
  | some inbox =>
      (conversation.withState { state with inbox := inbox }).noteText voiceActive
        conversation.nextPlace frame
  | none =>
      match onFull with
      | some answer => (conversation.withState state).sendAnswer index answer
      | none => conversation.withState state

def receive (conversation : Conversation) (clock : Clock) (index : Nat) (connection : Connection)
    (message : ClientMessage) : Conversation :=
  let (voiceActive, handling) := handle connection.voiceActive message
  let conversation :=
    conversation.setConnection index { connection with voiceActive := voiceActive }
  match handling with
  | .ignored => conversation
  | .enqueue frame touches onFull =>
      conversation.enqueue clock index connection.voiceActive frame touches onFull
  | .answer answer => conversation.sendAnswer index answer
  | .raised => conversation.setConnection index ⟨voiceActive, false⟩

/-- What a step of the runner adds to the history of texts. -/
def follow (conversation : Conversation) (next : Session) : RunnerEvent → Conversation
  | .sent =>
      { conversation with
        session := next
        sent := conversation.sent ++ (sendsText conversation.session).toList }
  | .failed exc =>
      { conversation with
        session := next
        refused :=
          if next.state.outbox.accepted =
              conversation.session.state.outbox.accepted ++ [sendFailed exc] then
            conversation.refused ++ (sendsText conversation.session).toList
          else conversation.refused }
  | _ => { conversation with session := next }

def step (conversation : Conversation) : Clock × ConversationEvent → Option Conversation
  | (clock, .connect) =>
      some { conversation.withState (conversation.session.state.touch clock.monotonic) with
        connections := conversation.connections ++ [{}] }
  | (clock, .receive index message) =>
      match conversation.connections[index]? with
      | some connection =>
          if connection.receiving then
            some (conversation.receive clock index connection message)
          else none
      | none => none
  | (_, .ended index) =>
      match conversation.connections[index]? with
      | some connection =>
          if connection.receiving then
            some (conversation.setConnection index { connection with receiving := false })
          else none
      | none => none
  | (clock, .stop) =>
      (conversation.session.step (clock, .putInbox .stop)).map fun next =>
        { conversation with session := next }
  -- clients touch the session and put on its inbox through their receive loops alone
  | (_, .runner (.putInbox _)) | (_, .runner .touch) => none
  | (clock, .runner event) =>
      (conversation.session.step (clock, event)).map fun next => conversation.follow next event

theorem step_receive {conversation next : Conversation} {clock : Clock} {index : Nat}
    {message : ClientMessage} (run : conversation.step (clock, .receive index message) = some next) :
    ∃ connection, conversation.connections[index]? = some connection ∧
      connection.receiving = true ∧
      next = conversation.receive clock index connection message := by
  simp only [step] at run
  split at run
  · rename_i connection found
    obtain ⟨receiving, same⟩ := Option.ite_none_right_eq_some.mp run
    exact ⟨connection, found, receiving, (Option.some.inj same).symm⟩
  · cases run

theorem step_ended {conversation next : Conversation} {clock : Clock} {index : Nat}
    (run : conversation.step (clock, .ended index) = some next) :
    ∃ connection, conversation.connections[index]? = some connection ∧
      next = conversation.setConnection index { connection with receiving := false } := by
  simp only [step] at run
  split at run
  · rename_i connection found
    obtain ⟨_, same⟩ := Option.ite_none_right_eq_some.mp run
    exact ⟨connection, found, (Option.some.inj same).symm⟩
  · cases run

end Conversation

end LiveChat.Api.ReceiveLoop
