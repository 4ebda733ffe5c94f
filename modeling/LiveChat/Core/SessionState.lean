import LiveChat.Foundation.BoundedQueue
import LiveChat.Core.Schemas

/-!
# Session primitives

`core/session_state.py`: the inbox and outbox of one chat session, its speaker
flag, its liveness clock and its counters.  The receive loop puts on the inbox,
the runner takes from it; the runner offers to the outbox, the forward loop takes
from it.
-/

set_option autoImplicit false

namespace LiveChat.Core

open LiveChat.Foundation

abbrev Bytes := List UInt8

def INBOX_MAX_SIZE : Nat := 512

def OUTBOX_MAX_SIZE : Nat := 256

/-- The two clocks of the process: `time.monotonic()` and `datetime.now(utc)`. -/
structure Clock where
  monotonic : Instant
  utc : Instant
  deriving DecidableEq, Repr

/-- `InputFrame`, one constructor for each `FrameKind` with its payload. -/
inductive InputFrame where
  | text (payload : String)
  | audioChunk (payload : Bytes)
  | activityStart
  | activityEnd
  | setSpeaker (payload : Bool)
  | stop
  deriving DecidableEq, Repr

/-- The `(kind, payload)` tuples the runner sends. -/
inductive OutboxFrame where
  | sessionReady (sessionId : String) (speakerMode : Bool) (projectId projectName : String)
  | speakerModeUpdated (enabled : Bool)
  | audioPcm (data : Bytes)
  | assistantText (text : String)
  | userTranscript (text : String)
  | toolCall (tool : String) (args : Json.Object) (result : Json) (callId : Option String)
  | turnComplete
  | error (message : String)
  | sessionEnded
  deriving DecidableEq

/-- What the outbox holds: frames and the `_OUTBOX_STOP` sentinel. -/
inductive OutboxItem where
  | frame (frame : OutboxFrame)
  | stop
  deriving DecidableEq

def OutboxItem.frame? : OutboxItem → Option OutboxFrame
  | .frame sent => some sent
  | .stop => none

structure SessionState where
  sessionId : String
  projectId : String
  apiKeyId : String := ""
  inbox : BoundedQueue InputFrame INBOX_MAX_SIZE := .empty
  outbox : BoundedQueue OutboxItem OUTBOX_MAX_SIZE := .empty
  speaker : Bool := false
  lastActive : Instant
  startedAt : Instant
  turns : Nat := 0
  toolCalls : Nat := 0
  inputTokens : Nat := 0
  outputTokens : Nat := 0

namespace SessionState

def touch (state : SessionState) (now : Instant) : SessionState := { state with lastActive := now }

/-- `is_idle(ttl)` with the threshold in seconds. -/
def isIdle (state : SessionState) (now : Instant) (ttl : Nat) : Bool :=
  decide (now - state.lastActive > ttl * 1000000000)

/-- `send_outbox`: a full outbox drops the item. -/
def sendOutbox (state : SessionState) (item : OutboxItem) : SessionState :=
  { state with outbox := state.outbox.offer item }

def send (state : SessionState) (frame : OutboxFrame) : SessionState :=
  state.sendOutbox (.frame frame)

/-- The frames that `send_outbox` was called with, also those that a full outbox dropped. -/
def framesOffered (state : SessionState) : List OutboxFrame :=
  state.outbox.offered.filterMap OutboxItem.frame?

def setSpeakerMode (state : SessionState) (enabled : Bool) : SessionState :=
  { state with speaker := enabled }

/-- The counters that end up in the session record. -/
structure Counters where
  turns : Nat
  toolCalls : Nat
  inputTokens : Nat
  outputTokens : Nat
  deriving DecidableEq, Repr

def counters (state : SessionState) : Counters :=
  ⟨state.turns, state.toolCalls, state.inputTokens, state.outputTokens⟩

end SessionState

end LiveChat.Core
