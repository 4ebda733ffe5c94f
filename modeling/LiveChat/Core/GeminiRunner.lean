import LiveChat.Core.SessionState

/-!
# The session runner

`core/gemini_runner.py` as a machine that moves from one `await` to the next.
`Await` lists the suspension points of `session_runner`, `Consumer` those of
`_consume_gemini_responses` (which the runner either awaits itself, in a text
turn, or runs as the receive task of a voice turn).  An event is what the
suspended coroutine is resumed with; the code between two awaits runs in one
step.  What the Gemini session, the tool executor, the database and the clients
do is in the events.

A `Session` is one `SessionState` with its runner task.  `requestCancel` is
`worker_task.cancel()`: from then on the runner can only be resumed with
`CancelledError`.  A cancel request on a runner that awaits its receive task is
passed on to that task first.
-/

set_option autoImplicit false

namespace LiveChat.Core.GeminiRunner

open LiveChat.Foundation

/-! ## Messages of the Gemini Live session -/

structure UsageMetadata where
  totalTokenCount : Option Nat := none
  promptTokenCount : Option Nat := none
  candidatesTokenCount : Option Nat := none

structure FunctionCall where
  id : Option String := none
  name : String
  args : Option Json.Object := none

structure FunctionResponse where
  id : Option String
  name : String
  result : Json

structure ServerContent where
  /-- The inline data of each part of `model_turn`. -/
  modelTurn : List (Option Bytes) := []
  outputTranscription : Option String := none
  inputTranscription : Option String := none
  interrupted : Bool := false
  turnComplete : Bool := false

structure LiveServerMessage where
  usageMetadata : Option UsageMetadata := none
  serverContent : Option ServerContent := none
  /-- `tool_call` and its `function_calls`, which the SDK may leave out. -/
  toolCall : Option (Option (List FunctionCall)) := none

/-! ## `_capture_usage` and the content of a message -/

def captureUsage (state : SessionState) : Option UsageMetadata → SessionState
  | none => state
  | some usage =>
      let total := usage.totalTokenCount.getD 0
      let prompt := usage.promptTokenCount.getD 0
      let response := usage.candidatesTokenCount.getD 0
      if total ≠ 0 ∧ prompt = 0 ∧ response = 0 then
        { state with outputTokens := total }
      else
        { state with inputTokens := prompt, outputTokens := response }

/-- Forward the audio parts of a model turn, in speaker mode only. -/
def sendAudio (state : SessionState) : List (Option Bytes) → SessionState
  | [] => state
  | none :: rest => sendAudio state rest
  | some data :: rest =>
      if data ≠ [] ∧ state.speaker = true then sendAudio (state.send (.audioPcm data)) rest
      else sendAudio state rest

def sendText (state : SessionState) (frame : String → OutboxFrame) :
    Option String → SessionState
  | none => state
  | some text => if text = "" then state else state.send (frame text)

def sendContent (state : SessionState) (content : ServerContent) : SessionState :=
  let state := sendAudio state content.modelTurn
  let state := sendText state .assistantText content.outputTranscription
  sendText state .userTranscript content.inputTranscription

def completeTurn (state : SessionState) : SessionState :=
  { state with turns := state.turns + 1 }.send .turnComplete

/-! ## `_consume_gemini_responses` and `_handle_tool_call` -/

inductive Consumer where
  | receiving
  | executing (call : FunctionCall) (rest : List FunctionCall)
      (responses : List FunctionResponse)
  | responding (responses : List FunctionResponse)

inductive ConsumerEvent where
  | response (message : LiveServerMessage)
  | streamEnd
  | toolResult (result : Json)
  | toolResponseSent
  /-- The await raises an exception other than `CancelledError`. -/
  | failed (exc : String)

inductive ConsumerProgress where
  | suspended (consumer : Consumer)
  | returned (alive : Bool)

/-- The loop over `function_calls`, up to its next await. -/
def nextCall (responses : List FunctionResponse) : List FunctionCall → Consumer
  | [] => .responding responses
  | call :: rest => .executing call rest responses

def receiveFailed (state : SessionState) (exc : String) : SessionState × ConsumerProgress :=
  (state.send (.error ("Gemini receive error: " ++ exc)), .returned false)

def startToolCall (state : SessionState) :
    Option (Option (List FunctionCall)) → SessionState × ConsumerProgress
  | none => (state, .suspended .receiving)
  -- iterating over a missing list raises inside the consumer's own try
  | some none => receiveFailed state "'NoneType' object is not iterable"
  | some (some calls) => (state, .suspended (nextCall [] calls))

def handleResponse (state : SessionState) (message : LiveServerMessage) :
    SessionState × ConsumerProgress :=
  let state := captureUsage state message.usageMetadata
  match message.serverContent with
  | none => startToolCall state message.toolCall
  | some content =>
      let state := sendContent state content
      if content.interrupted = true ∨ content.turnComplete = true then
        (completeTurn state, .returned true)
      else startToolCall state message.toolCall

def toolReturned (state : SessionState) (call : FunctionCall) (rest : List FunctionCall)
    (responses : List FunctionResponse) (result : Json) : SessionState × Consumer :=
  ({ state with toolCalls := state.toolCalls + 1 }.send
      (.toolCall call.name (call.args.getD []) result call.id),
    nextCall (responses ++ [⟨call.id, call.name, result⟩]) rest)

def Consumer.resume (state : SessionState) :
    Consumer → ConsumerEvent → Option (SessionState × ConsumerProgress)
  | .receiving, .response message => some (handleResponse state message)
  | .receiving, .streamEnd => some (state, .returned false)
  | .receiving, .failed exc => some (receiveFailed state exc)
  | .executing call rest responses, .toolResult result =>
      let (state, next) := toolReturned state call rest responses result
      some (state, .suspended next)
  | .executing _ _ _, .failed exc => some (receiveFailed state exc)
  | .responding _, .toolResponseSent => some (state, .suspended .receiving)
  | .responding _, .failed exc =>
      some (state.send (.error ("Tool response failed: " ++ exc)), .suspended .receiving)
  | _, _ => none

/-! ## `session_runner` -/

/-- How the body of `async with connect(...)` was left. -/
inductive Exit where
  | normal
  | raised (exc : String)
  | cancelled

inductive Outcome where
  | returned
  | raised (exc : String)
  | cancelled

inductive Await where
  /-- The task is scheduled; its coroutine has not been entered. -/
  | created
  | connecting
  | nextFrame
  /-- `activity_start`: the old receive task was cancelled and is awaited. -/
  | joiningReceiver
  | sendingActivityStart
  | sendingAudio
  | sendingActivityEnd
  /-- `activity_end`: the receive task is awaited to finish its turn. -/
  | awaitingReceiver
  | sendingText
  | consuming (consumer : Consumer)
  /-- The `__aexit__` of the Gemini connection. -/
  | closing (exit : Exit)
  /-- `finally`: the insert of `close_session`, before or after the server ran it. -/
  | recording (doc : SessionDoc) (executed : Bool)
  | done (outcome : Outcome)

/-- The task bound to `_recv_task`. -/
inductive Receiver where
  | running (consumer : Consumer)
  /-- `cancel()` was called; `CancelledError` is not delivered yet. -/
  | cancelling
  | returned (alive : Bool)
  | cancelled

structure Session where
  state : SessionState
  project : ProjectConfig
  /-- `session_repo is not None`. -/
  sessionRepo : Bool
  await : Await := .created
  receiver : Option Receiver := none
  status : SessionStatus := .closed
  errorMessage : Option String := none
  cancelRequested : Bool := false

inductive RunnerEvent where
  /-- The coroutine is entered; the setup before the `try` may raise. -/
  | start (setupError : Option String)
  | connected
  | frame
  | idleTimeout
  | sent
  /-- The await raises where the code expects it: connecting, sending, closing. -/
  | failed (exc : String)
  /-- Any other exception out of the body of the connection. -/
  | fault (exc : String)
  | receiverDone
  | consume (event : ConsumerEvent)
  | closed
  | insertReturned
  | insertFailed
  | cancelled
  -- the events below do not resume the runner
  | requestCancel
  | receive (event : ConsumerEvent)
  | receiverCancelled
  | insertExecuted
  | putInbox (frame : InputFrame)
  | takeOutbox
  | touch

/-- Events that resume the runner with something else than `CancelledError`. -/
def RunnerEvent.resumesRunner : RunnerEvent → Bool
  | .start _ | .connected | .frame | .idleTimeout | .sent | .failed _ | .fault _
  | .receiverDone | .consume _ | .closed | .insertReturned | .insertFailed => true
  | _ => false

/-- Where a step leaves the runner: at an await, or at the last two statements of
the `finally` block with nothing more to wait for. -/
inductive Progress where
  | suspended (session : Session)
  | ending (session : Session)

def Receiver.isDone : Receiver → Bool
  | .returned _ | .cancelled => true
  | .running _ | .cancelling => false

def Receiver.cancel : Receiver → Receiver
  | .running _ => .cancelling
  | receiver => receiver

namespace Session

def spawn (clock : Clock) (sessionId apiKeyId : String) (project : ProjectConfig)
    (sessionRepo : Bool) : Session :=
  { state :=
      { sessionId := sessionId
        projectId := project.projectId
        apiKeyId := apiKeyId
        lastActive := clock.monotonic
        startedAt := clock.utc }
    project := project
    sessionRepo := sessionRepo }

def isDone (session : Session) : Bool :=
  match session.await with
  | .done _ => true
  | _ => false

/-- `_recv_task is not None and not _recv_task.done()`. -/
def receiverBusy (session : Session) : Bool :=
  match session.receiver with
  | some receiver => !receiver.isDone
  | none => false

def cancelReceiver (session : Session) : Session :=
  { session with receiver := session.receiver.map Receiver.cancel }

def send (session : Session) (frame : OutboxFrame) : Session :=
  { session with state := session.state.send frame }

def goto (session : Session) (await : Await) : Session := { session with await := await }

/-- The document that `close_session` builds. -/
def sessionDoc (session : Session) (endedAt : Instant) : SessionDoc :=
  { id := session.state.sessionId
    projectId := session.project.projectId
    tenantId := session.project.tenantId
    apiKeyId := session.state.apiKeyId
    status := session.status
    startedAt := session.state.startedAt
    endedAt := endedAt
    turns := session.state.turns
    toolCalls := session.state.toolCalls
    inputTokens := session.state.inputTokens
    outputTokens := session.state.outputTokens
    errorMessage := session.errorMessage }

/-- The last two statements of the `finally` block. -/
def shutdown (session : Session) : Session :=
  { session with
    state := (session.state.send .sessionEnded).sendOutbox .stop
    await := .done .returned }

/-- The `finally` block up to its only await. -/
def enterFinally (session : Session) (clock : Clock) : Progress :=
  let session := session.cancelReceiver
  if session.sessionRepo then
    .suspended (session.goto (.recording (session.sessionDoc clock.utc) false))
  else .ending session

def handleError (session : Session) (exc : String) : Session :=
  { session with
    status := .error
    errorMessage := some exc
    state := session.state.send (.error ("Session error: " ++ exc)) }

def handleCancelled (session : Session) : Session :=
  { session with status := .closed }.cancelReceiver

def afterClose (session : Session) (clock : Clock) : Exit → Progress
  | .normal => session.enterFinally clock
  | .raised exc => (session.handleError exc).enterFinally clock
  | .cancelled => session.handleCancelled.enterFinally clock

/-- One iteration of the frame loop, up to its first await. -/
def handleFrame (session : Session) : InputFrame → Session
  | .stop => session.goto (.closing .normal)
  | .setSpeaker payload =>
      { session with state := session.state.setSpeakerMode payload }.send
        (.speakerModeUpdated payload)
  | .activityStart =>
      if session.receiverBusy then session.cancelReceiver.goto .joiningReceiver
      else session.goto .sendingActivityStart
  | .audioChunk _ => session.goto .sendingAudio
  | .activityEnd => session.goto .sendingActivityEnd
  | .text _ =>
      if session.receiverBusy then session
      else session.goto .sendingText

/-- After `activity_end` was sent: await the receive task, when there is one. -/
def finishVoiceTurn (session : Session) : Session :=
  match session.receiver with
  | none => session.goto .nextFrame
  | some _ => session.goto .awaitingReceiver

/-- `session_alive` after a turn: go on, or leave the loop. -/
def afterTurn (session : Session) (alive : Bool) : Session :=
  if alive then session.goto .nextFrame else session.goto (.closing .normal)

def afterSent (session : Session) : Option Session :=
  match session.await with
  | .sendingActivityStart =>
      some ({ session with receiver := some (.running .receiving) }.goto .nextFrame)
  | .sendingAudio => some (session.goto .nextFrame)
  | .sendingActivityEnd => some session.finishVoiceTurn
  | .sendingText => some (session.goto (.consuming .receiving))
  | _ => none

def afterFailed (session : Session) (clock : Clock) (exc : String) : Option Progress :=
  match session.await with
  | .connecting => some ((session.handleError exc).enterFinally clock)
  | .sendingActivityStart =>
      some (.suspended ((session.send (.error ("activity_start failed: " ++ exc))).goto .nextFrame))
  | .sendingAudio => some (.suspended (session.goto .nextFrame))
  | .sendingActivityEnd =>
      some (.suspended (session.send (.error ("activity_end failed: " ++ exc))).finishVoiceTurn)
  | .sendingText =>
      some (.suspended
        ((session.send (.error ("Failed to send to Gemini: " ++ exc))).goto .nextFrame))
  | .closing _ => some ((session.handleError exc).enterFinally clock)
  | _ => none

def afterReceiver (session : Session) : Option Session :=
  match session.await, session.receiver with
  | .joiningReceiver, some (.returned _) | .joiningReceiver, some .cancelled =>
      some ({ session with receiver := none }.goto .sendingActivityStart)
  | .awaitingReceiver, some (.returned alive) =>
      some ({ session with receiver := none }.afterTurn alive)
  | _, _ => none

/-- `CancelledError` at the current await. -/
def afterCancelled (session : Session) (clock : Clock) : Option Progress :=
  match session.await with
  | .created => some (.suspended (session.goto (.done .cancelled)))
  | .connecting => some (session.handleCancelled.enterFinally clock)
  -- swallowed together with the receive task's own cancellation
  | .joiningReceiver =>
      if session.receiverBusy then none
      else some (.suspended ({ session with receiver := none }.goto .sendingActivityStart))
  | .awaitingReceiver =>
      if session.receiverBusy then none
      else some (.suspended (session.goto (.closing .cancelled)))
  | .nextFrame | .sendingActivityStart | .sendingAudio | .sendingActivityEnd | .sendingText
  | .consuming _ => some (.suspended (session.goto (.closing .cancelled)))
  | .closing _ => some (session.handleCancelled.enterFinally clock)
  -- no handler is left: the rest of the `finally` block does not run
  | .recording _ _ => some (.suspended (session.goto (.done .cancelled)))
  | .done _ => none

/-- Inside `async with connect(...)`, where any exception leaves the body. -/
def inBody (session : Session) : Bool :=
  match session.await with
  | .connecting | .nextFrame | .joiningReceiver | .sendingActivityStart | .sendingAudio
  | .sendingActivityEnd | .awaitingReceiver | .sendingText | .consuming _ => true
  | _ => false

def requestCancel (session : Session) : Session :=
  match session.await with
  | .done _ => session
  | .joiningReceiver | .awaitingReceiver =>
      { session.cancelReceiver with cancelRequested := true }
  | _ => { session with cancelRequested := true }

def resumeRunner (session : Session) (clock : Clock) : RunnerEvent → Option Progress
  | .start none =>
      match session.await with
      | .created => some (.suspended (session.goto .connecting))
      | _ => none
  | .start (some exc) =>
      match session.await with
      | .created => some (.suspended (session.goto (.done (.raised exc))))
      | _ => none
  | .connected =>
      match session.await with
      | .connecting =>
          some (.suspended ((session.send (.sessionReady session.state.sessionId
            session.state.speaker session.project.projectId session.project.name)).goto
              .nextFrame))
      | _ => none
  | .frame =>
      match session.await, session.state.inbox.getNowait with
      | .nextFrame, some (frame, inbox) =>
          some (.suspended ({ session with
            state := { session.state with inbox := inbox }.touch clock.monotonic }.handleFrame
              frame))
      | _, _ => none
  | .idleTimeout =>
      match session.await with
      | .nextFrame => some (.suspended ({ session with status := .timeout }.goto (.closing .normal)))
      | _ => none
  | .sent => session.afterSent.map .suspended
  | .failed exc => session.afterFailed clock exc
  | .fault exc =>
      if session.inBody then some (.suspended (session.goto (.closing (.raised exc)))) else none
  | .receiverDone => session.afterReceiver.map .suspended
  | .consume event =>
      match session.await with
      | .consuming consumer =>
          match consumer.resume session.state event with
          | some (state, .suspended consumer) =>
              some (.suspended ({ session with state := state }.goto (.consuming consumer)))
          | some (state, .returned alive) =>
              some (.suspended ({ session with state := state }.afterTurn alive))
          | none => none
      | _ => none
  | .closed =>
      match session.await with
      | .closing exit => some (session.afterClose clock exit)
      | _ => none
  | .insertReturned =>
      match session.await with
      | .recording _ true => some (.ending session)
      | _ => none
  | .insertFailed =>
      match session.await with
      | .recording _ false => some (.ending session)
      | _ => none
  | _ => none

def surround (session : Session) (clock : Clock) : RunnerEvent → Option Session
  | .requestCancel => some session.requestCancel
  | .receive event =>
      match session.receiver with
      | some (.running consumer) =>
          match consumer.resume session.state event with
          | some (state, .suspended consumer) =>
              some { session with state := state, receiver := some (.running consumer) }
          | some (state, .returned alive) =>
              some { session with state := state, receiver := some (.returned alive) }
          | none => none
      | _ => none
  | .receiverCancelled =>
      match session.receiver with
      | some .cancelling => some { session with receiver := some .cancelled }
      | _ => none
  | .insertExecuted =>
      match session.await with
      | .recording doc false => some (session.goto (.recording doc true))
      | _ => none
  | .putInbox frame =>
      some { session with state := { session.state with inbox := session.state.inbox.offer frame } }
  | .takeOutbox =>
      session.state.outbox.getNowait.map fun taken =>
        { session with state := { session.state with outbox := taken.2 } }
  | .touch => some { session with state := session.state.touch clock.monotonic }
  | _ => none

/-- One step of the session, up to the last two statements of the `finally` block. -/
def resume (session : Session) (clock : Clock) (event : RunnerEvent) : Option Progress :=
  if event.resumesRunner then
    if session.cancelRequested then none else session.resumeRunner clock event
  else
    match event with
    | .cancelled =>
        if session.cancelRequested then
          { session with cancelRequested := false }.afterCancelled clock
        else none
    | event => (session.surround clock event).map .suspended

def settle : Progress → Session
  | .suspended session => session
  | .ending session => session.shutdown

def step (session : Session) (event : Clock × RunnerEvent) : Option Session :=
  (session.resume event.1 event.2).map settle

end Session

end LiveChat.Core.GeminiRunner
