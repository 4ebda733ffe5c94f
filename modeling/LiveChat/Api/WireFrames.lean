import LiveChat.Api.Forwarding
import LiveChat.Core.FrameValues

/-!
# Frames on the wire

What `_forward_loop` of `api/chat.py` writes to a WebSocket for each frame, and how a client
reads it: every frame comes back from its message.  Over the runs of a room, what the clients
read, loop by loop, is what the outbox accepted: nothing is altered, reordered or doubled, and a
loop loses a frame only to the send that ends it.
-/

set_option autoImplicit false

namespace LiveChat.Api.Forwarding

open LiveChat.Core
open LiveChat.Core.GeminiRunner
open LiveChat.Foundation
open LiveChat.Foundation.JsonText
open LiveChat.Foundation.TransitionSystem

/-- What `ws.send_bytes` and `ws.send_text` send. -/
inductive WireMessage where
  | bytes (data : Bytes)
  | text (text : String)
  deriving DecidableEq

/-! ## The messages of `_forward_loop` -/

/-- `json.dumps({"type": kind, **payload})`. -/
def typedText (kind : String) (payload : Json.Object) : WireMessage :=
  .text (dumps spaced (.object (("type", .string kind) :: payload)))

def wireMessage : OutboxFrame → WireMessage
  | .audioPcm data => .bytes data
  | .sessionReady sessionId speakerMode projectId projectName =>
      typedText "session_ready"
        [("session_id", .string sessionId), ("speaker_mode", .bool speakerMode),
          ("project_id", .string projectId), ("project_name", .string projectName)]
  | .assistantText text => typedText "assistant_text" [("text", .string text)]
  | .userTranscript text => typedText "user_transcript" [("text", .string text)]
  | .toolCall tool args result callId =>
      typedText "tool_call"
        [("tool", .string tool), ("args", .object args), ("result", result),
          ("call_id", Json.optionalString callId)]
  | .turnComplete => typedText "turn_complete" []
  | .speakerModeUpdated enabled => typedText "speaker_mode_updated" [("enabled", .bool enabled)]
  | .error message => typedText "error" [("message", .string message)]
  | .sessionEnded => typedText "session_ended" []

/-! ## A client -/

def stringAt (members : Json.Object) (key : String) : Option String :=
  match members.lookup key with
  | some (.string value) => some value
  | _ => none

def boolAt (members : Json.Object) (key : String) : Option Bool :=
  match members.lookup key with
  | some (.bool value) => some value
  | _ => none

def readToolCall (members : Json.Object) : Option OutboxFrame := do
  let tool ← stringAt members "tool"
  let args ← match members.lookup "args" with
    | some (.object args) => some args
    | _ => none
  let result ← members.lookup "result"
  let callId ← match members.lookup "call_id" with
    | some .null => some none
    | some (.string callId) => some (some callId)
    | _ => none
  some (.toolCall tool args result callId)

def readObject (members : Json.Object) : Option OutboxFrame :=
  match stringAt members "type" with
  | some "session_ready" => do
      let sessionId ← stringAt members "session_id"
      let speakerMode ← boolAt members "speaker_mode"
      let projectId ← stringAt members "project_id"
      let projectName ← stringAt members "project_name"
      some (.sessionReady sessionId speakerMode projectId projectName)
  | some "assistant_text" => (stringAt members "text").map .assistantText
  | some "user_transcript" => (stringAt members "text").map .userTranscript
  | some "tool_call" => readToolCall members
  | some "turn_complete" => some .turnComplete
  | some "speaker_mode_updated" => (boolAt members "enabled").map .speakerModeUpdated
  | some "error" => (stringAt members "message").map .error
  | some "session_ended" => some .sessionEnded
  | _ => none

def readMessage : WireMessage → Option OutboxFrame
  | .bytes data => some (.audioPcm data)
  | .text text =>
      match loads text with
      | some (.object members) => readObject members
      | _ => none

theorem readMessage_typedText {kind : String} {payload : Json.Object}
    (wellFormed : WellFormed (.object (("type", .string kind) :: payload))) :
    readMessage (typedText kind payload) =
      readObject (("type", .string kind) :: payload) := by
  simp only [readMessage, typedText, loads_dumps spaced wellFormed]

/-- Every frame is read back from its message. -/
theorem readMessage_wireMessage {frame : OutboxFrame} (fits : FrameFits frame) :
    readMessage (wireMessage frame) = some frame := by
  cases frame with
  | audioPcm data => rfl
  | toolCall tool args result callId =>
      obtain ⟨argsFit, resultFits⟩ := fits
      refine (readMessage_typedText ⟨by simp, ?_⟩).trans ?_
      · exact ⟨trivial, trivial, argsFit, resultFits, by cases callId <;> exact ⟨trivial, trivial⟩⟩
      · cases callId <;> rfl
  | sessionReady sessionId speakerMode projectId projectName =>
      exact readMessage_typedText ⟨by simp, trivial, trivial, trivial, trivial, trivial, trivial⟩
  | assistantText text | userTranscript text | speakerModeUpdated text | error text =>
      exact readMessage_typedText ⟨by simp, trivial, trivial, trivial⟩
  | turnComplete | sessionEnded => exact readMessage_typedText ⟨by simp, trivial, trivial⟩

/-! ## The outbox between the loops -/

/-- Nothing is taken from the outbox, and it only gains items. -/
def OutboxGrows (before after : SessionState) : Prop :=
  after.outbox.taken = before.outbox.taken ∧ before.outbox.accepted <+: after.outbox.accepted

theorem outboxGrows_frame : StateFrame OutboxGrows where
  refl _ := ⟨rfl, List.prefix_refl _⟩
  trans _ _ _ front back := ⟨back.1.trans front.1, front.2.trans back.2⟩
  send state frame _ := state.outbox.offer_grows (.frame frame)
  stop state := state.outbox.offer_grows .stop
  take _ _ _ _ := ⟨rfl, List.prefix_refl _⟩
  touch _ _ := ⟨rfl, List.prefix_refl _⟩
  speaker _ _ := ⟨rfl, List.prefix_refl _⟩

theorem outboxGrows_step {session next : Session} {clock : Clock} {event : RunnerEvent}
    (stays : event ≠ .takeOutbox) (run : session.step (clock, event) = some next) :
    OutboxGrows session.state next.state := by
  rcases Session.reader_shift (Session.shift_step run) with
    ⟨consumer, given, progress, reads, resumed⟩ | rests
  · have offered := session.state.outbox.offerAll_grows
      ((consumer.frames session.state.speaker given).map OutboxItem.frame)
    rwa [← (consumer_spec resumed).1] at offered
  · exact outboxGrows_frame.step rests.1 stays (fun _ _ => ⟨rfl, List.prefix_refl _⟩) run

/-! ## Rooms -/

def framesOf (index : Nat) (takings : List (Nat × OutboxItem)) : List OutboxFrame :=
  takings.filterMap fun taking =>
    match taking with
    | (taker, .frame frame) => if taker = index then some frame else none
    | (_, .stop) => none

def messagesTo (index : Nat) (messages : List (Nat × WireMessage)) : List WireMessage :=
  messages.filterMap fun message => if message.1 = index then some message.2 else none

/-- A loop has written what it took, up to the frame that it is sending, or that ended it. -/
def Carried : Option Forward → List OutboxFrame → List WireMessage → Prop
  | none, frames, messages => frames = [] ∧ messages = []
  | some .ready, frames, messages | some .waiting, frames, messages =>
      messages = frames.map wireMessage
  | some (.sending frame), frames, messages =>
      ∃ written, frames = written ++ [frame] ∧ messages = written.map wireMessage
  | some .ended, frames, messages =>
      ∃ written lost, frames = written ++ lost ∧ lost.length ≤ 1 ∧
        messages = written.map wireMessage

/-- The values that come in from Gemini and from the tools have no key twice. -/
def RoomEvent.Fits : RoomEvent → Prop
  | .runner _ event => RunnerEvent.Fits event
  | _ => True

namespace Room

def forwardOf (room : Room) (index : Nat) : Option Forward :=
  (room.connections[index]?).map Connection.forward

def writes (room : Room) : RoomEvent → List (Nat × WireMessage)
  | .sent index =>
      match room.forwardOf index with
      | some (.sending frame) => [(index, wireMessage frame)]
      | _ => []
  | _ => []

structure Carries (room : Room) (messages : List (Nat × WireMessage)) : Prop where
  each : ∀ index, Carried (room.forwardOf index) (framesOf index room.takings)
    (messagesTo index messages)
  order : room.takings.map Prod.snd =
    room.session.state.outbox.accepted.take room.session.state.outbox.taken
  /-- A loop that took the sentinel has written all that it took. -/
  stopped : ∀ index, (index, .stop) ∈ room.takings → room.forwardOf index = some .ended ∧
    messagesTo index messages = (framesOf index room.takings).map wireMessage
  fits : room.session.Fits

theorem Carries.unstopped {room : Room} {messages : List (Nat × WireMessage)} {index : Nat}
    {forward : Forward} (carries : Carries room messages)
    (here : room.forwardOf index = some forward) (alive : forward ≠ .ended) :
    (index, .stop) ∉ room.takings := by
  intro taken
  have ended := here.symm.trans (carries.stopped index taken).1
  exact alive (Option.some.inj ended)

theorem forwardOf_update (room : Room) (index place : Nat) (change : Connection → Connection) :
    (room.update index change).forwardOf place =
      if index = place then (room.connections[place]?).map fun connection =>
        (change connection).forward
      else room.forwardOf place := by
  simp only [forwardOf, update, List.getElem?_modify]
  by_cases hit : index = place
  · simp [hit, Function.comp_def]
  · simp [hit]

theorem forwardOf_goto (room : Room) (index place : Nat) (forward : Forward) :
    (room.goto index forward).forwardOf place =
      if index = place then (room.forwardOf place).map fun _ => forward
      else room.forwardOf place := by
  rw [goto, forwardOf_update]
  simp [forwardOf, Function.comp_def]

def Woken (before after : Option Forward) : Prop :=
  after = before ∨ before = some .waiting ∧ after = some .ready

theorem Woken.carried {before after : Option Forward} (woken : Woken before after)
    {frames : List OutboxFrame} {messages : List WireMessage}
    (carried : Carried before frames messages) : Carried after frames messages := by
  rcases woken with same | ⟨waiting, ready⟩
  · rwa [same]
  · rw [waiting] at carried
    rw [ready]
    exact carried

theorem woken_foldl (getters : List Nat) (room : Room) (place : Nat) :
    Woken (room.forwardOf place)
      ((getters.foldl (fun room index => room.update index Connection.wake) room).forwardOf
        place) := by
  induction getters generalizing room with
  | nil => exact Or.inl rfl
  | cons index rest ih =>
      have first : Woken (room.forwardOf place)
          ((room.update index Connection.wake).forwardOf place) := by
        rw [forwardOf_update]
        split
        · unfold forwardOf Connection.wake
          cases room.connections[place]? with
          | none => exact Or.inl rfl
          | some connection =>
              cases here : connection.forward <;> simp [Woken, here]
        · exact Or.inl rfl
      rcases first with same | ⟨waiting, ready⟩
      · exact same ▸ ih _
      · rcases ih (room.update index Connection.wake) with same | ⟨waits, _⟩
        · exact Or.inr ⟨waiting, same.trans ready⟩
        · cases ready.symm.trans waits

theorem takings_foldl (getters : List Nat) (room : Room) :
    (getters.foldl (fun room index => room.update index Connection.wake) room).takings =
        room.takings ∧
      (getters.foldl (fun room index => room.update index Connection.wake) room).session =
        room.session := by
  induction getters generalizing room with
  | nil => exact ⟨rfl, rfl⟩
  | cons index rest ih => exact ih (room.update index Connection.wake)

theorem framesOf_other (takings : List (Nat × OutboxItem)) (item : OutboxItem) {taker index : Nat}
    (other : taker ≠ index) : framesOf index (takings ++ [(taker, item)]) = framesOf index takings := by
  cases item <;> simp [framesOf, other]

theorem framesOf_frame (takings : List (Nat × OutboxItem)) (index : Nat) (frame : OutboxFrame) :
    framesOf index (takings ++ [(index, .frame frame)]) = framesOf index takings ++ [frame] := by
  simp [framesOf]

theorem framesOf_stop (takings : List (Nat × OutboxItem)) (index : Nat) :
    framesOf index (takings ++ [(index, .stop)]) = framesOf index takings := by
  simp [framesOf]

theorem messagesTo_append (index : Nat) (messages : List (Nat × WireMessage)) (taker : Nat)
    (message : WireMessage) :
    messagesTo index (messages ++ [(taker, message)]) =
      messagesTo index messages ++ if taker = index then [message] else [] := by
  by_cases own : taker = index <;> simp [messagesTo, own]

theorem fits_takeOutbox {session : Session} {item : OutboxItem}
    {outbox : BoundedQueue OutboxItem OUTBOX_MAX_SIZE} (fits : session.Fits)
    (got : session.state.outbox.getNowait = some (item, outbox)) :
    Session.Fits { session with state := { session.state with outbox := outbox } } := by
  have run : session.step (⟨0, 0⟩, .takeOutbox) =
      some { session with state := { session.state with outbox := outbox } } := by
    simp [Session.step, Session.resume, RunnerEvent.resumesRunner, Session.surround, got,
      Session.settle]
  have given : RunnerEvent.Fits .takeOutbox := trivial
  exact Session.fits_step fits given run

/-- A loop that has written all that it took goes back to `outbox.get()`. -/
theorem carries_nextItem {room : Room} {messages : List (Nat × WireMessage)} {index : Nat}
    {forward : Forward} (here : room.forwardOf index = some forward)
    (own : messagesTo index messages = (framesOf index room.takings).map wireMessage)
    (others : ∀ place, index ≠ place → Carried (room.forwardOf place)
      (framesOf place room.takings) (messagesTo place messages))
    (order : room.takings.map Prod.snd =
      room.session.state.outbox.accepted.take room.session.state.outbox.taken)
    (stopped : ∀ place, index ≠ place → (place, .stop) ∈ room.takings →
      room.forwardOf place = some .ended ∧
        messagesTo place messages = (framesOf place room.takings).map wireMessage)
    (unstopped : (index, .stop) ∉ room.takings)
    (fits : room.session.Fits) : Carries (room.nextItem index) messages := by
  unfold nextItem
  cases got : room.session.state.outbox.getNowait with
  | none =>
      have moved : ∀ place, ({ room.goto index .waiting with getters := room.getters ++ [index] } :
          Room).forwardOf place = (room.goto index .waiting).forwardOf place := fun _ => rfl
      refine ⟨fun place => ?_, order, fun place taken => ?_, fits⟩
      · simp only [moved, forwardOf_goto]
        split
        · rename_i hit
          subst hit
          rw [here]
          exact own
        · rename_i other
          exact others place other
      · have other : index ≠ place := fun hit => unstopped (hit ▸ taken)
        rw [moved, forwardOf_goto, if_neg other]
        exact stopped place other taken
  | some taken =>
      obtain ⟨item, outbox⟩ := taken
      obtain ⟨accepted, takenOne, found⟩ := BoundedQueue.getNowait_spec got
      have moved : ∀ (forward : Forward) (place : Nat), Room.forwardOf { room.goto index forward with
          session := { room.session with state := { room.session.state with outbox := outbox } }
          takings := room.takings ++ [(index, item)] } place =
            (room.goto index forward).forwardOf place := fun _ _ => rfl
      refine ⟨fun place => ?_, ?_, fun place ends => ?_, fits_takeOutbox fits got⟩
      · simp only [moved, forwardOf_goto]
        split
        · rename_i hit
          subst hit
          rw [here]
          cases item with
          | frame frame => exact ⟨_, framesOf_frame room.takings index frame, own⟩
          | stop => exact ⟨_, [], by rw [framesOf_stop, List.append_nil], by simp, own⟩
        · rename_i other
          rw [framesOf_other _ _ other]
          exact others place other
      · simp only [List.map_append, List.map_cons, List.map_nil, order, accepted, takenOne,
          List.take_add_one, found, Option.toList_some]
      · simp only [moved, forwardOf_goto]
        rcases List.mem_append.mp ends with before | now
        · have other : index ≠ place := fun hit => unstopped (hit ▸ before)
          rw [if_neg other, framesOf_other _ _ other]
          exact stopped place other before
        · cases List.mem_singleton.mp now
          rw [if_pos rfl, here, framesOf_stop]
          exact ⟨rfl, own⟩

theorem carries_still {room next : Room} {messages : List (Nat × WireMessage)}
    (carries : Carries room messages) (forward : ∀ place, next.forwardOf place = room.forwardOf place)
    (takings : next.takings = room.takings)
    (outbox : next.session.state.outbox = room.session.state.outbox) (fits : next.session.Fits) :
    Carries next messages := by
  refine ⟨fun place => ?_, ?_, fun place => ?_, fits⟩
  · rw [forward, takings]
    exact carries.each place
  · rw [takings, outbox]
    exact carries.order
  · rw [forward, takings]
    exact carries.stopped place

theorem carries_connect {room : Room} {messages : List (Nat × WireMessage)} (clock : Clock)
    (carries : Carries room messages) : Carries (room.connect clock) messages := by
  have touched : Session.step room.session (clock, .touch) = some (room.connect clock).session := rfl
  have given : RunnerEvent.Fits .touch := trivial
  have grown : ∀ place, (room.connect clock).forwardOf place =
      ((room.connections ++ [({} : Connection)])[place]?).map Connection.forward := fun _ => rfl
  refine ⟨fun place => ?_, carries.order, fun place ends => ?_,
    Session.fits_step carries.fits given touched⟩
  · have before := carries.each place
    rw [grown]
    rcases Nat.lt_trichotomy place room.connections.length with below | here | above
    · rw [List.getElem?_append_left below]
      exact before
    · have absent : room.forwardOf place = none := by simp [forwardOf, here]
      rw [absent] at before
      obtain ⟨noFrames, noMessages⟩ := before
      rw [here, List.getElem?_concat_length, ← here]
      change messagesTo place messages = (framesOf place room.takings).map wireMessage
      rw [noFrames, noMessages, List.map_nil]
    · have absent : room.forwardOf place = none := by simp [forwardOf, Nat.le_of_lt above]
      rw [absent] at before
      rw [List.getElem?_eq_none (by rw [List.length_append, List.length_singleton]; omega)]
      exact before
  · obtain ⟨ended, written⟩ := carries.stopped place ends
    obtain ⟨connection, found, _⟩ := Option.map_eq_some_iff.mp ended
    rw [grown, List.getElem?_append_left (List.getElem?_eq_some_iff.mp found).1]
    exact ⟨ended, written⟩

theorem carries_runner {room : Room} {messages : List (Nat × WireMessage)} {clock : Clock}
    {event : RunnerEvent} {session : Session} (carries : Carries room messages)
    (given : event.Fits) (stays : event ≠ .takeOutbox)
    (stepped : room.session.step (clock, event) = some session) (puts : Nat) :
    Carries (({ room with session := session } : Room).wakeGetters puts) messages := by
  obtain ⟨taken, grown⟩ := outboxGrows_step stays stepped
  have takings : (({ room with session := session } : Room).wakeGetters puts).takings =
      room.takings :=
    (takings_foldl (room.getters.take puts) { room with session := session }).1
  have after : (({ room with session := session } : Room).wakeGetters puts).session = session :=
    (takings_foldl (room.getters.take puts) { room with session := session }).2
  have fitting : session.Fits := Session.fits_step carries.fits given stepped
  refine ⟨fun place => ?_, ?_, fun place ends => ?_, by rwa [after]⟩
  · rw [takings]
    exact (woken_foldl (room.getters.take puts) { room with session := session } place).carried
      (carries.each place)
  · rw [takings, after, carries.order, taken]
    obtain ⟨added, same⟩ := grown
    rw [← same, List.take_append_of_le_length room.session.state.outbox.taken_le]
  · rw [takings] at ends ⊢
    obtain ⟨ended, written⟩ := carries.stopped place ends
    rcases woken_foldl (room.getters.take puts) { room with session := session } place with
      same | ⟨waits, _⟩
    · exact ⟨same.trans ended, written⟩
    · cases ended.symm.trans waits

theorem step_runner {room next : Room} {clock : Clock} {event : RunnerEvent}
    (run : room.step (.runner clock event) = some next) :
    event ≠ .takeOutbox ∧ ∃ session, room.session.step (clock, event) = some session ∧
      next = ({ room with session := session } : Room).wakeGetters
        (session.state.outbox.accepted.length -
          room.session.state.outbox.accepted.length) := by
  have stays : event ≠ .takeOutbox := by
    rintro rfl
    cases run
  have moved : (room.session.step (clock, event)).map (fun session =>
      ({ room with session := session } : Room).wakeGetters
        (session.state.outbox.accepted.length - room.session.state.outbox.accepted.length)) =
      some next := by
    cases event <;> first | exact run | exact absurd rfl stays
  obtain ⟨session, stepped, same⟩ := Option.map_eq_some_iff.mp moved
  exact ⟨stays, session, stepped, same.symm⟩

theorem carries_step {room next : Room} {event : RoomEvent} {messages : List (Nat × WireMessage)}
    (carries : Carries room messages) (given : event.Fits)
    (run : room.step event = some next) : Carries next (messages ++ room.writes event) := by
  cases event with
  | connect clock =>
      cases run
      rw [show room.writes _ = [] from rfl, List.append_nil]
      exact carries_connect clock carries
  | disconnect index =>
      simp only [step] at run
      split at run
      · split at run
        · cases run
        · cases run
          rw [show room.writes _ = [] from rfl, List.append_nil]
          refine carries_still carries (fun place => ?_) rfl rfl carries.fits
          rw [disconnect, forwardOf_update]
          split <;> rfl
      · cases run
  | receiveReturns index =>
      simp only [step] at run
      split at run
      · split at run
        · cases run
          rw [show room.writes _ = [] from rfl, List.append_nil]
          refine carries_still carries (fun place => ?_) rfl rfl carries.fits
          rw [forwardOf_update]
          split <;> rfl
        · cases run
      · cases run
  | resume index =>
      simp only [step] at run
      split at run
      · rename_i here
        cases run
        rw [show room.writes _ = [] from rfl, List.append_nil]
        have own := carries.each index
        rw [show room.forwardOf index = some .ready from here] at own
        exact carries_nextItem here own (fun place _ => carries.each place) carries.order
          (fun place _ => carries.stopped place) (carries.unstopped here (by simp)) carries.fits
      · cases run
  | sent index =>
      simp only [step] at run
      split at run
      · rename_i frame here
        cases run
        have sending : room.forwardOf index = some (.sending frame) := here
        have own := carries.each index
        rw [sending] at own
        obtain ⟨written, frames, messages'⟩ := own
        simp only [writes, sending]
        refine carries_nextItem sending ?_ (fun place other => ?_) carries.order
          (fun place other => ?_) (carries.unstopped sending (by simp)) carries.fits
        · rw [messagesTo_append, if_pos rfl, frames, messages', List.map_append]
          rfl
        · rw [messagesTo_append, if_neg other, List.append_nil]
          exact carries.each place
        · rw [messagesTo_append, if_neg other, List.append_nil]
          exact carries.stopped place
      · cases run
  | sendFailed index =>
      simp only [step] at run
      split at run
      · rename_i frame here
        cases run
        rw [show room.writes _ = [] from rfl, List.append_nil]
        refine ⟨fun place => ?_, carries.order, fun place ends => ?_, carries.fits⟩
        · have own := carries.each place
          rw [forwardOf_goto]
          split
          · rename_i hit
            subst hit
            rw [show room.forwardOf index = some (.sending frame) from here] at own ⊢
            obtain ⟨written, frames, messages'⟩ := own
            exact ⟨written, [frame], frames, by simp, messages'⟩
          · exact own
        · have other : index ≠ place :=
            fun hit => carries.unstopped here (by simp) (hit ▸ ends)
          rw [forwardOf_goto, if_neg other]
          exact carries.stopped place ends
      · cases run
  | runner clock event =>
      rw [show room.writes _ = [] from rfl, List.append_nil]
      obtain ⟨stays, session, stepped, rfl⟩ := step_runner run
      exact carries_runner carries given stays stepped _

/-! ## Whole runs -/

theorem mem_framesOf {index : Nat} {takings : List (Nat × OutboxItem)} {frame : OutboxFrame}
    (member : frame ∈ framesOf index takings) : .frame frame ∈ takings.map Prod.snd := by
  obtain ⟨⟨taker, item⟩, taken, same⟩ := List.mem_filterMap.mp member
  cases item with
  | stop => cases same
  | frame other =>
      obtain ⟨_, own⟩ := Option.ite_none_right_eq_some.mp same
      cases own
      exact List.mem_map_of_mem taken

/-- What a loop wrote, and the frame that it has not written: the one it is sending, or the one
whose send ended it. -/
theorem written_of_carried {forward : Option Forward} {frames : List OutboxFrame}
    {messages : List WireMessage} (carried : Carried forward frames messages) :
    ∃ written lost, frames = written ++ lost ∧ lost.length ≤ 1 ∧
      (forward.all Forward.listens = true → lost = []) ∧
      messages = written.map wireMessage := by
  match forward, carried with
  | none, ⟨noFrames, noMessages⟩ => exact ⟨[], [], by rw [noFrames]; rfl, by simp, by simp, noMessages⟩
  | some .ready, all | some .waiting, all =>
      exact ⟨frames, [], (List.append_nil frames).symm, by simp, by simp, all⟩
  | some (.sending frame), ⟨written, same, messages'⟩ =>
      exact ⟨written, [frame], same, by simp, by simp [Forward.listens], messages'⟩
  | some .ended, ⟨written, lost, same, short, messages'⟩ =>
      exact ⟨written, lost, same, short, by simp [Forward.listens], messages'⟩

theorem carries_exec {clock : Clock} {sessionId apiKeyId : String} {project : ProjectConfig}
    {sessionRepo : Bool} {events : List RoomEvent} {final : Room}
    (given : ∀ event ∈ events, event.Fits)
    (run : exec step (opened (Session.spawn clock sessionId apiKeyId project sessionRepo)) events =
      some final) :
    Carries final (emitted step writes
      (opened (Session.spawn clock sessionId apiKeyId project sessionRepo)) events) := by
  refine exec_history (fun front room => (∀ event ∈ front, event.Fits) →
    Carries room (emitted step writes
      (opened (Session.spawn clock sessionId apiKeyId project sessionRepo)) front)) ?_ ?_ run given
  · intro _
    refine ⟨fun index => ?_, rfl, fun _ taken => absurd taken List.not_mem_nil,
      Session.fits_spawn _ _ _ _ _⟩
    cases index with
    | zero => rfl
    | succ index => exact ⟨rfl, rfl⟩
  · intro front room event next reached carries stepped fits
    obtain ⟨earlier, here⟩ := List.forall_mem_append.mp fits
    rw [emitted_concat event reached]
    exact carries_step (carries earlier) (here event List.mem_cons_self) stepped

/-- What a client reads is what its loop has written. -/
theorem read_written {room : Room} {messages : List (Nat × WireMessage)}
    (carries : Carries room messages) (index : Nat) :
    ∃ written lost, framesOf index room.takings = written ++ lost ∧ lost.length ≤ 1 ∧
      ((room.forwardOf index).all Forward.listens = true → lost = []) ∧
      ((index, .stop) ∈ room.takings → lost = []) ∧
      (messagesTo index messages).map readMessage = written.map some := by
  obtain ⟨written, lost, frames, short, listens, same⟩ := written_of_carried (carries.each index)
  refine ⟨written, lost, frames, short, listens, fun taken => ?_, ?_⟩
  · have all := congrArg List.length ((carries.stopped index taken).2.symm.trans same)
    rw [frames, List.length_map, List.length_map, List.length_append] at all
    exact List.length_eq_zero_iff.mp (by omega)
  rw [same, List.map_map]
  refine List.map_congr_left fun frame member => readMessage_wireMessage ?_
  have taken := mem_framesOf (frames ▸ List.mem_append_left lost member)
  rw [carries.order] at taken
  exact carries.fits.frames frame (List.mem_of_mem_take taken)

/-- In every run of a room each item that left the outbox was taken by one loop, in order; and
the client of every loop reads exactly the frames that its loop took, but for at most one at the
end, and for none while the loop listens, or when it ended by the sentinel. -/
theorem clients_read {clock : Clock} {sessionId apiKeyId : String} {project : ProjectConfig}
    {sessionRepo : Bool} {events : List RoomEvent} {final : Room}
    (given : ∀ event ∈ events, event.Fits)
    (run : exec step (opened (Session.spawn clock sessionId apiKeyId project sessionRepo)) events =
      some final) :
    final.takings.map Prod.snd =
        final.session.state.outbox.accepted.take final.session.state.outbox.taken ∧
      ∀ index, ∃ written lost, framesOf index final.takings = written ++ lost ∧
        lost.length ≤ 1 ∧ ((final.forwardOf index).all Forward.listens = true → lost = []) ∧
        ((index, .stop) ∈ final.takings → lost = []) ∧
        (messagesTo index (emitted step writes
            (opened (Session.spawn clock sessionId apiKeyId project sessionRepo)) events)).map
          readMessage = written.map some := by
  have carries := carries_exec given run
  exact ⟨carries.order, read_written carries⟩

/-- Two clients of one session; the first one is gone when the runner answers. -/
theorem clients_read_reconnected :
    ∃ final, exec step (opened demoSession) (reconnect ++ firstFrame ++ [.resume 0, .sent 0]) =
        some final ∧
      final.takings.map Prod.snd =
        final.session.state.outbox.accepted.take final.session.state.outbox.taken ∧
      ∀ index, ∃ written lost, framesOf index final.takings = written ++ lost ∧
        lost.length ≤ 1 ∧ ((final.forwardOf index).all Forward.listens = true → lost = []) ∧
        ((index, .stop) ∈ final.takings → lost = []) ∧
        (messagesTo index (emitted step writes (opened demoSession)
          (reconnect ++ firstFrame ++ [.resume 0, .sent 0]))).map readMessage =
            written.map some := by
  have shape : (exec step (opened demoSession)
      (reconnect ++ firstFrame ++ [.resume 0, .sent 0])).isSome = true := by decide
  obtain ⟨final, run⟩ := Option.isSome_iff_exists.mp shape
  refine ⟨final, run, clients_read (fun event member => ?_) run⟩
  simp only [reconnect, firstFrame, List.cons_append, List.nil_append, List.mem_cons,
    List.not_mem_nil, or_false] at member
  rcases member with rfl | rfl | rfl | rfl | rfl | rfl | rfl | rfl | rfl <;> trivial

end Room

end LiveChat.Api.Forwarding
