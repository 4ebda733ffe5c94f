import Mathlib.Data.List.ModifyLast
import LiveChat.Foundation.TransitionSystem
import LiveChat.Core.StateFrames

/-!
# Tool calls and their answers

`_handle_tool_call` executes the calls of one message in order, counts each, offers a frame for
it, and answers all of them with one `send_tool_response`.  The outbox remembers the frames it
was offered.  `Accounts` keeps what the code does not: for each message the calls that returned,
with their results, the responses that were sent, and how its handling ended.
-/

set_option autoImplicit false

namespace LiveChat.Core.GeminiRunner

open LiveChat.Foundation
open LiveChat.Foundation.TransitionSystem

/-! ## Messages with calls -/

/-- The calls that the consumer hands to `_handle_tool_call`. -/
def LiveServerMessage.handledCalls (message : LiveServerMessage) : Option (List FunctionCall) :=
  if message.endsTurn then none else message.toolCall.join

def OutboxFrame.isToolCall : OutboxFrame → Bool
  | .toolCall _ _ _ _ => true
  | _ => false

/-- The response to a call, with the result that `execute` returned for it. -/
def respond (returned : FunctionCall × Json) : FunctionResponse :=
  ⟨returned.1.id, returned.1.name, returned.2⟩

def showCall (returned : FunctionCall × Json) : OutboxFrame :=
  .toolCall returned.1.name (returned.1.args.getD []) returned.2 returned.1.id

inductive HandlingStatus where
  | running
  | cancelled
  | processed

/-- A `tool_call` message that reached `_handle_tool_call`. -/
structure ToolMessage where
  calls : List FunctionCall
  /-- The calls that `execute` returned from, each with its result. -/
  returned : List (FunctionCall × Json) := []
  /-- The responses of each `send_tool_response`. -/
  sent : List (List FunctionResponse) := []
  status : HandlingStatus := .running

namespace ToolMessage

/-- One `send_tool_response` answers the calls one by one, in order, with their results. -/
structure Answered (message : ToolMessage) : Prop where
  calls : message.returned.map Prod.fst = message.calls
  sent : message.sent = [message.returned.map respond]

/-- The handling is over, and if it was not cancelled the calls are answered. -/
structure Settled (message : ToolMessage) : Prop where
  ended : message.status ≠ .running
  answered : message.status = .processed → message.Answered

end ToolMessage

/-! ## The record -/

namespace Session

def atWork (session : Session) : Option Consumer :=
  match session.await with
  | .consuming consumer => some consumer
  | _ =>
      match session.receiver with
      | some (.running consumer) => some consumer
      | _ => none

end Session

/-- `_handle_tool_call` is at one of its awaits. -/
def handling : Option Consumer → Bool
  | some (.executing _ _ _) | some (.responding _) => true
  | _ => false

def ConsumerProgress.consumer : ConsumerProgress → Option Consumer
  | .suspended consumer => some consumer
  | .returned _ => none

/-- The responses of the `send_tool_response` that the consumer has called. -/
def sends : Option Consumer → List (List FunctionResponse)
  | some (.responding responses) => [responses]
  | _ => []

structure Accounts where
  session : Session
  messages : List ToolMessage := []

namespace Accounts

def note (messages : List ToolMessage) (after : Option Consumer) :
    Consumer → ConsumerEvent → List ToolMessage
  | .receiving, .response message =>
      match message.handledCalls with
      | some calls => messages ++ [{ calls := calls, sent := sends after }]
      | none => messages
  | .executing call _ _, .toolResult result =>
      messages.modifyLast fun message =>
        { message with
          returned := message.returned ++ [(call, result)]
          sent := message.sent ++ sends after }
  | .responding _, _ => messages.modifyLast fun message => { message with status := .processed }
  | _, _ => messages

/-- The event cancels the runner, or leaves the receive task cancelled. -/
def cancels (event : RunnerEvent) (next : Session) : Bool :=
  match event, next.receiver with
  | .cancelled, _ | _, some .cancelling => true
  | _, _ => false

def follow (accounts : Accounts) (event : RunnerEvent) (next : Session) : Accounts :=
  match accounts.session.reader event with
  | some (consumer, given) =>
      { session := next
        messages := note accounts.messages next.atWork consumer given }
  | none =>
      { accounts with
        session := next
        messages :=
          if handling accounts.session.atWork && !handling next.atWork && cancels event next then
            accounts.messages.modifyLast fun message => { message with status := .cancelled }
          else accounts.messages }

/-- `execute` returns a result in any case, and no exception leaves the consumer. -/
def raises (session : Session) (event : RunnerEvent) : Bool :=
  match session.reader event with
  | some (.executing _ _ _, .failed _) => true
  | _ =>
      match session.await, event with
      | .consuming _, .fault _ => true
      | _, _ => false

def step (accounts : Accounts) (event : Clock × RunnerEvent) : Option Accounts :=
  if raises accounts.session event.2 then none
  else (accounts.session.step event).map (accounts.follow event.2)

/-- `tool_calls` counts the frames that the outbox was offered and the calls that returned; every message that was
processed is answered, and one that was neither processed nor cancelled is in hand. -/
structure Accounted (accounts : Accounts) : Prop where
  frames : accounts.session.state.toolCalls =
    accounts.session.state.framesOffered.countP OutboxFrame.isToolCall
  returned : accounts.session.state.toolCalls =
    (accounts.messages.flatMap ToolMessage.returned).length
  answered : ∀ message ∈ accounts.messages, message.status = .processed → message.Answered
  inHand : ∀ message ∈ accounts.messages, message.status = .running →
    handling accounts.session.atWork = true

/-! ## The message in hand -/

/-- What the consumer at work knows of the message that it handles. -/
inductive InHand : Option Consumer → List ToolMessage → Prop where
  | nobody : InHand none []
  | receiving : InHand (some .receiving) []
  | executing (returned : List (FunctionCall × Json)) (call : FunctionCall)
      (rest : List FunctionCall) :
      InHand (some (.executing call rest (returned.map respond)))
        [{ calls := returned.map Prod.fst ++ call :: rest, returned := returned }]
  | responding (returned : List (FunctionCall × Json)) :
      InHand (some (.responding (returned.map respond)))
        [{ calls := returned.map Prod.fst
           returned := returned
           sent := [returned.map respond] }]

theorem inHand_nextCall (returned : List (FunctionCall × Json)) (rest : List FunctionCall) :
    InHand (some (nextCall (returned.map respond) rest))
      [{ calls := returned.map Prod.fst ++ rest
         returned := returned
         sent := sends (some (nextCall (returned.map respond) rest)) }] := by
  cases rest with
  | nil =>
      rw [List.append_nil]
      exact .responding returned
  | cons call rest => exact .executing returned call rest

theorem handleResponse_progress (state : SessionState) (message : LiveServerMessage) :
    (handleResponse state message).2 =
      if message.endsTurn then .returned true
      else
        match message.toolCall with
        | none => .suspended .receiving
        | some none => .returned false
        | some (some calls) => .suspended (nextCall [] calls) := by
  have started : ∀ state : SessionState, (startToolCall state message.toolCall).2 =
      match message.toolCall with
      | none => .suspended .receiving
      | some none => .returned false
      | some (some calls) => .suspended (nextCall [] calls) := by
    intro state
    rcases message.toolCall with _ | _ | calls <;> rfl
  cases found : message.serverContent with
  | none => simp [handleResponse, LiveServerMessage.endsTurn, found, started]
  | some content =>
      by_cases ends : content.interrupted = true ∨ content.turnComplete = true
      · simp [handleResponse, LiveServerMessage.endsTurn, found, ends]
      · simp only [handleResponse, LiveServerMessage.endsTurn, found, if_neg ends, started,
          Option.any_some]
        rw [if_neg (by simpa using ends)]

theorem inHand_response (state : SessionState) (message : LiveServerMessage)
    (messages : List ToolMessage) :
    ∃ current, note messages (handleResponse state message).2.consumer .receiving
        (.response message) = messages ++ current ∧
      InHand (handleResponse state message).2.consumer current := by
  rw [handleResponse_progress]
  cases ends : message.endsTurn with
  | true => exact ⟨[], by simp [note, LiveServerMessage.handledCalls, ends], .nobody⟩
  | false =>
      rcases found : message.toolCall with _ | _ | calls
      · exact ⟨[], by simp [note, LiveServerMessage.handledCalls, ends, found], .receiving⟩
      · exact ⟨[], by simp [note, LiveServerMessage.handledCalls, ends, found], .nobody⟩
      · refine ⟨_, ?_, inHand_nextCall [] calls⟩
        simp [note, LiveServerMessage.handledCalls, ends, found, ConsumerProgress.consumer]

/-- A step of the consumer settles the message in hand, or keeps it. -/
theorem inHand_resume {state next : SessionState} {consumer : Consumer} {given : ConsumerEvent}
    {progress : ConsumerProgress} (resumed : consumer.resume state given = some (next, progress))
    (quiet : ∀ call rest responses exc,
      (consumer, given) ≠ (.executing call rest responses, .failed exc))
    {earlier current : List ToolMessage} (settled : ∀ message ∈ earlier, message.Settled)
    (inHand : InHand (some consumer) current) :
    ∃ earlier' current', note (earlier ++ current) progress.consumer consumer given =
        earlier' ++ current' ∧
      (∀ message ∈ earlier', message.Settled) ∧ InHand progress.consumer current' := by
  cases inHand with
  | receiving =>
      rw [List.append_nil]
      cases given with
      | response message =>
          have same : (handleResponse state message).2 = progress :=
            congrArg Prod.snd (Option.some.inj resumed)
          obtain ⟨current, noted, inHand⟩ := inHand_response state message earlier
          rw [same] at noted inHand
          exact ⟨earlier, current, noted, settled, inHand⟩
      | streamEnd =>
          cases resumed
          exact ⟨earlier, [], (List.append_nil _).symm, settled, .nobody⟩
      | failed exc =>
          cases resumed
          exact ⟨earlier, [], (List.append_nil _).symm, settled, .nobody⟩
      | toolResult result => cases resumed
      | toolResponseSent => cases resumed
  | executing returned call rest =>
      cases given with
      | toolResult result =>
          cases resumed
          have longer : (returned ++ [(call, result)]).map respond =
              returned.map respond ++ [⟨call.id, call.name, result⟩] := List.map_append
          have inHand := inHand_nextCall (returned ++ [(call, result)]) rest
          rw [longer] at inHand
          refine ⟨earlier, _, ?_, settled, inHand⟩
          simp [note, List.modifyLast_concat, ConsumerProgress.consumer]
      | failed exc => exact absurd rfl (quiet _ _ _ _)
      | response message => cases resumed
      | streamEnd => cases resumed
      | toolResponseSent => cases resumed
  | responding returned =>
      have answered : ∀ message ∈ earlier ++ [{ calls := returned.map Prod.fst
                                                returned := returned
                                                sent := [returned.map respond]
                                                status := .processed }], message.Settled := by
        intro message member
        rcases List.mem_append.mp member with old | latest
        · exact settled message old
        · obtain rfl := List.mem_singleton.mp latest
          exact ⟨nofun, fun _ => ⟨rfl, rfl⟩⟩
      cases given with
      | toolResponseSent =>
          cases resumed
          exact ⟨_, [], by simp [note, List.modifyLast_concat], answered, .receiving⟩
      | failed exc =>
          cases resumed
          exact ⟨_, [], by simp [note, List.modifyLast_concat], answered, .receiving⟩
      | response message => cases resumed
      | streamEnd => cases resumed
      | toolResult result => cases resumed

/-! ## Counting -/

theorem isReply_of_toolCall (frame : OutboxFrame) (shows : OutboxFrame.isToolCall frame = true) :
    OutboxFrame.isReply frame = true := by
  cases frame with
  | toolCall tool args result callId => rfl
  | _ => cases shows

theorem responseFrames_toolCalls (speaker : Bool) (message : LiveServerMessage) :
    (responseFrames speaker message).filter OutboxFrame.isToolCall = [] := by
  have raised : (toolCallFrames message.toolCall).filter OutboxFrame.isToolCall = [] := by
    rcases message.toolCall with _ | _ | calls <;> rfl
  unfold responseFrames
  split
  · exact raised
  · rename_i content _
    have forwarded : (contentFrames speaker content).filter OutboxFrame.isToolCall = [] := by
      refine List.filter_eq_nil_iff.mpr fun frame member => ?_
      rcases mem_contentFrames member with ⟨_, rfl⟩ | ⟨_, rfl⟩ | ⟨_, rfl⟩ <;> nofun
    rw [List.filter_append, forwarded, List.nil_append]
    split
    · rfl
    · exact raised

theorem handleResponse_toolCalls (state : SessionState) (message : LiveServerMessage) :
    (handleResponse state message).1.toolCalls = state.toolCalls := by
  have captured : (captureUsage state message.usageMetadata).toolCalls = state.toolCalls := by
    cases message.usageMetadata with
    | none => rfl
    | some usage =>
        simp only [captureUsage]
        split <;> rfl
  obtain ⟨outbox, turns, same⟩ := forwards_handleResponse state message
  rw [same]
  exact captured

theorem toolCalls_resume {state next : SessionState} {consumer : Consumer} {given : ConsumerEvent}
    {progress : ConsumerProgress} (speaker : Bool)
    (resumed : consumer.resume state given = some (next, progress)) :
    next.toolCalls =
      state.toolCalls + ((consumer.frames speaker given).filter OutboxFrame.isToolCall).length := by
  unfold Consumer.resume at resumed
  split at resumed
  · rename_i message
    have same : (handleResponse state message).1 = next :=
      congrArg Prod.fst (Option.some.inj resumed)
    rw [← same, handleResponse_toolCalls, Consumer.frames, responseFrames_toolCalls]
    rfl
  all_goals
    first
    | (cases resumed; rfl)
    | cases resumed

/-- The frames that a step of the consumer offers show the call that returned. -/
theorem shown_note {consumer : Consumer} (given : ConsumerEvent) (speaker : Bool)
    (after : Option Consumer) (earlier : List ToolMessage) {current : List ToolMessage}
    (inHand : InHand (some consumer) current) :
    ((note (earlier ++ current) after consumer given).flatMap ToolMessage.returned).map showCall =
      ((earlier ++ current).flatMap ToolMessage.returned).map showCall ++
        (consumer.frames speaker given).filter OutboxFrame.isToolCall := by
  cases inHand with
  | receiving =>
      cases given with
      | response message =>
          simp only [note, Consumer.frames, responseFrames_toolCalls, List.append_nil]
          split <;> simp
      | _ => exact (List.append_nil _).symm
  | executing returned call rest =>
      cases given with
      | toolResult result =>
          simp [note, List.modifyLast_concat, Consumer.frames, List.filter_cons, OutboxFrame.isToolCall,
            showCall]
      | _ => exact (List.append_nil _).symm
  | responding returned =>
      cases given <;> simp [note, List.modifyLast_concat, Consumer.frames, OutboxFrame.isToolCall]

end Accounts

/-! ## Steps of the session -/

namespace Session

theorem atWork_receiver {session : Session}
    (away : ∀ consumer, session.await ≠ .consuming consumer) :
    session.atWork = match session.receiver with
      | some (.running consumer) => some consumer
      | _ => none := by
  unfold atWork
  split
  · rename_i consumer here
    exact absurd here (away consumer)
  · rfl

theorem atWork_idle {session : Session} (away : ∀ consumer, session.await ≠ .consuming consumer)
    (idle : session.receiverBusy = false) : session.atWork = none := by
  rw [atWork_receiver away]
  split
  · rename_i running
    simp [receiverBusy, running, Receiver.isDone] at idle
  · rfl

theorem atWork_congr {session next : Session} (await : next.await = session.await)
    (receiver : next.receiver = session.receiver) : next.atWork = session.atWork := by
  simp only [atWork, await, receiver]

theorem atWork_reader {session : Session} (one : session.OneReader) {event : RunnerEvent}
    {consumer : Consumer} {given : ConsumerEvent}
    (reads : session.reader event = some (consumer, given)) : session.atWork = some consumer := by
  cases event with
  | consume event =>
      simp only [reader] at reads
      split at reads
      · rename_i here
        cases reads
        simp only [atWork, here]
      · cases reads
  | receive event =>
      simp only [reader] at reads
      split at reads
      · rename_i running
        cases reads
        refine (atWork_receiver fun consumer here => ?_).trans (by rw [running])
        have idle := one (by simp only [readsNext, here])
        simp [receiverBusy, running, Receiver.isDone] at idle
      · cases reads
  | _ => cases reads

inductive Hands (session next : Session) : Prop where
  | same (same : next.atWork = session.atWork)
  | begins (before : session.atWork = none) (after : next.atWork = some .receiving)
  | cancelled (receiver : next.receiver = some .cancelling) (after : next.atWork = none)
  /-- The runner leaves its text turn. -/
  | left {consumer : Consumer} (here : session.await = .consuming consumer)
      (away : next.await ≠ .consuming consumer) (after : next.atWork = none)

theorem hands_away {session next : Session}
    (before : ∀ consumer, session.await ≠ .consuming consumer)
    (after : ∀ consumer, next.await ≠ .consuming consumer)
    (receiver : next.receiver = session.receiver ∨
      next.receiver = session.receiver.map Receiver.cancel) : Hands session next := by
  have was := atWork_receiver before
  have now := atWork_receiver after
  rcases receiver with same | cancelled
  · rw [same] at now
    exact .same (now.trans was.symm)
  · cases held : session.receiver with
    | none =>
        rw [held] at was
        rw [cancelled, held] at now
        exact .same (now.trans was.symm)
    | some task =>
        rw [held] at was cancelled
        rw [cancelled] at now
        cases task with
        | running consumer => exact .cancelled cancelled now
        | _ => exact .same (now.trans was.symm)

theorem handleFrame_away (session : Session) (frame : InputFrame) (here : session.await = .nextFrame)
    (consumer : Consumer) : (session.handleFrame frame).await ≠ .consuming consumer := by
  cases frame with
  | activityStart =>
      simp only [handleFrame]
      split <;> simp [goto]
  | text payload =>
      simp only [handleFrame]
      split
      · simp [here]
      · simp [goto]
  | setSpeaker payload => simp [handleFrame, send, here]
  | _ => simp [handleFrame, goto]

theorem away_of_dead {session : Session} (gone : session.await.lives = false)
    (consumer : Consumer) : session.await ≠ .consuming consumer := by
  intro here
  rw [here] at gone
  cases gone

theorem away_of_busy {session : Session} (one : session.OneReader)
    (busy : session.receiverBusy = true) (consumer : Consumer) :
    session.await ≠ .consuming consumer := by
  intro here
  have idle := one (by simp only [readsNext, here])
  exact absurd (idle.symm.trans busy) Bool.false_ne_true

theorem receiverBusy_cancel {session next : Session}
    (cancelled : next.receiver = session.receiver.map Receiver.cancel) :
    next.receiverBusy = session.receiverBusy := by
  simp only [receiverBusy, cancelled]
  cases session.receiver with
  | none => rfl
  | some task => cases task <;> rfl

theorem hands_shift {session next : Session} {event : RunnerEvent} (one : session.OneReader)
    (shift : Shift session event next) (apart : event.reads = false) : Hands session next := by
  cases shift with
  | stands _ await receiver rests => exact .same (atWork_congr await receiver)
  | took clock here got =>
      exact hands_away (by simp [here]) (handleFrame_away (session.hear clock _) _ here)
        (handleFrame_receiver (session.hear clock _) _)
  | spawned here await receiver rests =>
      have idle := one (by simp only [readsNext, here])
      refine .begins (atWork_idle (by simp [here]) idle) ?_
      rw [atWork_receiver (by simp [await]), receiver]
  | textSent here await receiver rests =>
      have idle := one (by simp only [readsNext, here])
      exact .begins (atWork_idle (by simp [here]) idle) (by simp only [atWork, await])
  | sendFailed here await receiver rests =>
      refine hands_away ?_ (by simp [await]) (Or.inl receiver)
      rcases here with here | here | here <;> simp [here]
  | voiceEnded _ here await receiver rests =>
      refine hands_away (by simp [here]) ?_ (Or.inl receiver)
      intro consumer
      rw [await]
      split <;> simp
  | joined _ here idle await receiver rests =>
      have after : next.atWork = none :=
        atWork_idle (by simp [await]) (by simp only [receiverBusy, receiver])
      exact .same (after.trans (atWork_idle (by simp [here]) idle).symm)
  | @voiceTurned alive next here returned await receiver rests =>
      have away : ∀ consumer, next.await ≠ .consuming consumer := by
        intro consumer
        rw [await]
        split <;> simp
      have after : next.atWork = none := atWork_idle away (by simp only [receiverBusy, receiver])
      refine .same (after.trans (atWork_idle (by simp [here]) ?_).symm)
      simp [receiverBusy, returned, Receiver.isDone]
  | read here resumed => cases apart
  | textTurned here resumed => cases apart
  | received running resumed => cases apart
  | returned running resumed => cases apart
  | receiverCancelled cancelling =>
      have busy : session.receiverBusy = true := by
        simp [receiverBusy, cancelling, Receiver.isDone]
      have away := away_of_busy one busy
      have before : session.atWork = none := by rw [atWork_receiver away, cancelling]
      have after := @atWork_idle { session with receiver := some .cancelled } away rfl
      exact .same (after.trans before.symm)
  | passedOn here await receiver rests =>
      refine hands_away ?_ ?_ (Or.inr receiver)
      · rcases here with here | here <;> simp [here]
      · rcases here with here | here <;> simp [await, here]
  | left _ gone receiver rests =>
      by_cases turn : ∃ consumer, session.await = .consuming consumer
      · obtain ⟨consumer, here⟩ := turn
        have idle := one (by simp only [readsNext, here])
        have idle' : next.receiverBusy = false := by
          rcases receiver with same | cancelled
          · rw [receiverBusy_congr same, idle]
          · rw [receiverBusy_cancel cancelled, idle]
        exact .left here (away_of_dead gone consumer) (atWork_idle (away_of_dead gone) idle')
      · exact hands_away (fun consumer here => turn ⟨consumer, here⟩) (away_of_dead gone) receiver
  | entered here await receiver rests =>
      exact hands_away (by simp [here]) (by simp [await]) (Or.inl receiver)
  | opened here await receiver rests =>
      exact hands_away (by simp [here]) (by simp [await]) (Or.inl receiver)
  | audioSent here await receiver rests =>
      exact hands_away (by simp [here]) (by simp [await]) (Or.inl receiver)

theorem consuming_step {session next : Session} {clock : Clock} {event : RunnerEvent}
    {consumer : Consumer} (here : session.await = .consuming consumer)
    (apart : event.reads = false) (sound : ∀ exc, event ≠ .fault exc)
    (untouched : event ≠ .cancelled) (run : session.step (clock, event) = some next) :
    next.await = .consuming consumer := by
  obtain ⟨progress, resumed, rfl⟩ := step_settles run
  unfold resume at resumed
  split at resumed
  · split at resumed
    · cases resumed
    · cases event with
      | fault exc => exact absurd rfl (sound exc)
      | consume event => cases apart
      | start setupError => cases setupError <;> simp [resumeRunner, here] at resumed
      | _ => simp [resumeRunner, afterSent, afterFailed, afterReceiver, here] at resumed
  · split at resumed
    · exact absurd rfl untouched
    · obtain ⟨after, stepped, rfl⟩ := Option.map_eq_some_iff.mp resumed
      cases event with
      | receive event => cases apart
      | requestCancel =>
          cases stepped
          simp only [settle, requestCancel, here]
      | receiverCancelled =>
          simp only [surround] at stepped
          split at stepped <;> cases stepped
          exact here
      | insertExecuted => simp [surround, here] at stepped
      | takeOutbox =>
          obtain ⟨taken, _, rfl⟩ := Option.map_eq_some_iff.mp stepped
          exact here
      | putInbox frame =>
          cases stepped
          exact here
      | touch =>
          cases stepped
          exact here
      | _ => cases stepped

theorem atWork_read {session next : Session} {event : RunnerEvent} (one : session.OneReader)
    (shift : Shift session event next) {consumer : Consumer} {given : ConsumerEvent}
    (reads : session.reader event = some (consumer, given)) :
    ∃ progress, consumer.resume session.state given = some (next.state, progress) ∧
      next.atWork = progress.consumer := by
  cases shift with
  | @read event first second state here resumed =>
      simp only [reader, here] at reads
      cases reads
      exact ⟨_, resumed, rfl⟩
  | @textTurned event first state alive here resumed =>
      simp only [reader, here] at reads
      cases reads
      have idle := one (by simp only [readsNext, here])
      refine ⟨.returned alive, ?_, ?_⟩
      · cases alive <;> exact resumed
      · cases alive <;> exact atWork_idle (by simp [afterTurn, goto]) idle
  | @received event first second state running resumed =>
      simp only [reader, running] at reads
      cases reads
      have away := away_of_busy one (by simp [receiverBusy, running, Receiver.isDone])
      exact ⟨_, resumed, atWork_receiver away⟩
  | @returned event first state alive running resumed =>
      simp only [reader, running] at reads
      cases reads
      have away := away_of_busy one (by simp [receiverBusy, running, Receiver.isDone])
      exact ⟨_, resumed, atWork_receiver away⟩
  | stands apart _ _ _ => cases (reader_none apart).symm.trans reads
  | voiceEnded apart _ _ _ _ => cases (reader_none apart).symm.trans reads
  | joined apart _ _ _ _ _ => cases (reader_none apart).symm.trans reads
  | left apart _ _ _ => cases (reader_none apart).symm.trans reads
  | _ => cases reads

end Session

namespace Accounts

/-! ## Runs -/

/-- What the record says in every run. -/
structure Kept (accounts : Accounts) : Prop where
  one : accounts.session.OneReader
  shown : accounts.session.state.framesOffered.filter OutboxFrame.isToolCall =
    (accounts.messages.flatMap ToolMessage.returned).map showCall
  returned : accounts.session.state.toolCalls =
    (accounts.messages.flatMap ToolMessage.returned).length
  split : ∃ earlier current, accounts.messages = earlier ++ current ∧
    (∀ message ∈ earlier, message.Settled) ∧ InHand accounts.session.atWork current

theorem kept_spawn (clock : Clock) (sessionId apiKeyId : String) (project : ProjectConfig)
    (sessionRepo : Bool) :
    Kept { session := Session.spawn clock sessionId apiKeyId project sessionRepo } :=
  ⟨Session.oneReader_spawn clock sessionId apiKeyId project sessionRepo, rfl, rfl,
    [], [], rfl, fun _ member => absurd member List.not_mem_nil, .nobody⟩

/-- A message is in hand exactly while it is being handled. -/
theorem handling_inHand {consumer : Option Consumer} {current : List ToolMessage}
    (inHand : InHand consumer current) :
    (handling consumer = false ∧ current = []) ∨
      (handling consumer = true ∧ ∃ message, current = [message] ∧ message.status = .running) := by
  cases inHand with
  | nobody => exact Or.inl ⟨rfl, rfl⟩
  | receiving => exact Or.inl ⟨rfl, rfl⟩
  | executing returned call rest => exact Or.inr ⟨rfl, _, rfl, rfl⟩
  | responding returned => exact Or.inr ⟨rfl, _, rfl, rfl⟩

theorem accounted_of_kept {accounts : Accounts} (kept : accounts.Kept) : accounts.Accounted := by
  obtain ⟨earlier, current, listed, settled, inHand⟩ := kept.split
  have held : ∀ message ∈ accounts.messages, message.Settled ∨
      message.status = .running ∧ handling accounts.session.atWork = true := by
    intro message member
    rw [listed] at member
    rcases List.mem_append.mp member with old | latest
    · exact Or.inl (settled message old)
    · rcases handling_inHand inHand with ⟨_, rfl⟩ | ⟨works, only, rfl, running⟩
      · cases latest
      · obtain rfl := List.mem_singleton.mp latest
        exact Or.inr ⟨running, works⟩
  refine ⟨?_, kept.returned, ?_, ?_⟩
  · rw [kept.returned, List.countP_eq_length_filter, kept.shown, List.length_map]
  · intro message member processed
    rcases held message member with settled | ⟨running, _⟩
    · exact settled.answered processed
    · rw [running] at processed
      cases processed
  · intro message member running
    rcases held message member with settled | ⟨_, works⟩
    · exact absurd running settled.ended
    · exact works

theorem kept_read {accounts : Accounts} (kept : accounts.Kept) {clock : Clock}
    {event : RunnerEvent} {next : Session}
    (run : accounts.session.step (clock, event) = some next)
    (quiet : raises accounts.session event = false) {consumer : Consumer}
    {given : ConsumerEvent} (reads : accounts.session.reader event = some (consumer, given)) :
    (accounts.follow event next).Kept := by
  have shift := Session.shift_step run
  obtain ⟨progress, resumed, after⟩ := Session.atWork_read kept.one shift reads
  obtain ⟨earlier, current, listed, settled, inHand⟩ := kept.split
  rw [Session.atWork_reader kept.one reads] at inHand
  have counted := toolCalls_resume accounts.session.state.speaker resumed
  have offered := filter_framesOffered isReply_of_toolCall run
  rw [Session.frames, reads] at offered
  have noted := shown_note given accounts.session.state.speaker next.atWork earlier inHand
  rw [← listed] at noted
  have quiet' : ∀ call rest responses exc,
      (consumer, given) ≠ (.executing call rest responses, .failed exc) := by
    rintro call rest responses exc same
    rw [same] at reads
    simp [raises, reads] at quiet
  obtain ⟨earlier', current', split, settled', inHand'⟩ :=
    inHand_resume resumed quiet' settled inHand
  rw [← after, ← listed] at split
  rw [← after] at inHand'
  have shape : accounts.follow event next =
      { session := next
        messages := note accounts.messages next.atWork consumer given } := by
    simp only [follow, reads]
  rw [shape]
  refine ⟨Session.oneReader_shift kept.one shift, ?_, ?_, earlier', current', split, settled',
    inHand'⟩
  · rw [noted, ← kept.shown]
    exact offered
  · have length := congrArg List.length noted
    rw [List.length_map, List.length_append, List.length_map] at length
    rw [counted, kept.returned, length]

theorem cancels_of_receiver {event : RunnerEvent} {next : Session}
    (cancelling : next.receiver = some .cancelling) : cancels event next = true := by
  cases event <;> simp only [cancels, cancelling]

/-- Whoever gives up the message in hand leaves nobody at work. -/
theorem nobody_of_lost {session next : Session} (hands : Session.Hands session next)
    (works : handling session.atWork = true) (idle : handling next.atWork = false) :
    next.atWork = none ∧ (next.receiver = some .cancelling ∨
      ∃ consumer, session.await = .consuming consumer ∧ next.await ≠ .consuming consumer) := by
  cases hands with
  | same same =>
      rw [same, works] at idle
      cases idle
  | begins before after =>
      rw [before] at works
      cases works
  | cancelled receiver after => exact ⟨after, Or.inl receiver⟩
  | left here away after => exact ⟨after, Or.inr ⟨_, here, away⟩⟩

/-- Only a cancellation takes the message in hand away from the consumer. -/
theorem cancels_of_lost {session next : Session} {clock : Clock} {event : RunnerEvent}
    (quiet : raises session event = false) (apart : event.reads = false)
    (run : session.step (clock, event) = some next)
    (lost : next.receiver = some .cancelling ∨
      ∃ consumer, session.await = .consuming consumer ∧ next.await ≠ .consuming consumer) :
    cancels event next = true := by
  rcases lost with receiver | ⟨consumer, here, away⟩
  · exact cancels_of_receiver receiver
  · cases event with
    | cancelled => simp only [cancels]
    | fault exc =>
        have raised : raises session (.fault exc) = true := by
          simp only [raises, Session.reader, here]
        cases quiet.symm.trans raised
    | _ => exact absurd (Session.consuming_step here apart (by simp) (by simp) run) away

section Other
variable {accounts : Accounts} {next : Session}

theorem kept_lost (kept : accounts.Kept) (one : next.OneReader)
    (counted : next.state.toolCalls = accounts.session.state.toolCalls)
    (offered : next.state.framesOffered.filter OutboxFrame.isToolCall =
      accounts.session.state.framesOffered.filter OutboxFrame.isToolCall)
    (works : handling accounts.session.atWork = true) (nobody : next.atWork = none) :
    Kept { accounts with
      session := next
      messages := accounts.messages.modifyLast fun message =>
        { message with status := .cancelled } } := by
  obtain ⟨earlier, current, listed, settled, inHand⟩ := kept.split
  rcases handling_inHand inHand with ⟨rests, _⟩ | ⟨_, message, rfl, running⟩
  · cases rests.symm.trans works
  rw [listed, List.modifyLast_concat]
  refine ⟨one, ?_, ?_, earlier ++ [{ message with status := .cancelled }], [], (List.append_nil _).symm, ?_, ?_⟩
  · rw [offered, kept.shown, listed]
    simp
  · rw [counted, kept.returned, listed]
    simp
  · intro other member
    rcases List.mem_append.mp member with old | latest
    · exact settled other old
    · obtain rfl := List.mem_singleton.mp latest
      exact ⟨nofun, nofun⟩
  · rw [nobody]
    exact .nobody

theorem kept_held (kept : accounts.Kept) (one : next.OneReader)
    (counted : next.state.toolCalls = accounts.session.state.toolCalls)
    (offered : next.state.framesOffered.filter OutboxFrame.isToolCall =
      accounts.session.state.framesOffered.filter OutboxFrame.isToolCall)
    (hands : Session.Hands accounts.session next)
    (held : handling accounts.session.atWork = true → handling next.atWork = true) :
    Kept { accounts with session := next } := by
  obtain ⟨earlier, current, listed, settled, inHand⟩ := kept.split
  refine ⟨one, offered.trans kept.shown, counted.trans kept.returned, earlier, current, listed,
    settled, ?_⟩
  -- nothing is in hand when the work is given up
  have given : next.atWork = none → InHand next.atWork current := by
    intro nobody
    rcases handling_inHand inHand with ⟨_, rfl⟩ | ⟨works, _⟩
    · rw [nobody]
      exact .nobody
    · have works' := held works
      rw [nobody] at works'
      cases works'
  cases hands with
  | same same =>
      rw [same]
      exact inHand
  | begins before after =>
      rw [before] at inHand
      cases inHand
      rw [after]
      exact .receiving
  | cancelled receiver after => exact given after
  | left here away after => exact given after

end Other

theorem kept_other {accounts : Accounts} (kept : accounts.Kept) {clock : Clock}
    {event : RunnerEvent} {next : Session} (quiet : raises accounts.session event = false)
    (run : accounts.session.step (clock, event) = some next)
    (reads : accounts.session.reader event = none) : (accounts.follow event next).Kept := by
  have shift := Session.shift_step run
  have one := Session.oneReader_shift kept.one shift
  rcases Session.reader_shift shift with ⟨_, _, _, some, _⟩ | ⟨apart, counters⟩
  · cases reads.symm.trans some
  have counted : next.state.toolCalls = accounts.session.state.toolCalls :=
    congrArg SessionState.Counters.toolCalls counters
  have offered := filter_framesOffered isReply_of_toolCall run
  rw [Session.frames, reads, List.filter_nil, List.append_nil] at offered
  have hands := Session.hands_shift kept.one shift apart
  cases lost : handling accounts.session.atWork && !handling next.atWork with
  | true =>
      obtain ⟨works, idle⟩ := Bool.and_eq_true_iff.mp lost
      rw [Bool.not_eq_true'] at idle
      obtain ⟨nobody, how⟩ := nobody_of_lost hands works idle
      have cancelled := cancels_of_lost quiet apart run how
      have shape : accounts.follow event next =
          { accounts with
            session := next
            messages := accounts.messages.modifyLast fun message =>
              { message with status := .cancelled } } := by
        simp only [follow, reads, lost, cancelled, Bool.and_self, if_true]
      rw [shape]
      exact kept_lost kept one counted offered works nobody
  | false =>
      have shape : accounts.follow event next = { accounts with session := next } := by
        simp only [follow, reads, lost, Bool.false_and, Bool.false_eq_true, if_false]
      rw [shape]
      refine kept_held kept one counted offered hands fun works => ?_
      rwa [works, Bool.true_and, Bool.not_eq_false'] at lost

theorem kept_step {accounts next : Accounts} {event : Clock × RunnerEvent} (kept : accounts.Kept)
    (run : accounts.step event = some next) : next.Kept := by
  obtain ⟨clock, event⟩ := event
  unfold step at run
  split at run
  · cases run
  · rename_i quiet
    obtain ⟨session, stepped, rfl⟩ := Option.map_eq_some_iff.mp run
    have quiet' := Bool.eq_false_iff.mpr quiet
    cases reads : accounts.session.reader event with
    | some read => exact kept_read kept stepped quiet' reads
    | none => exact kept_other kept quiet' stepped reads

/-- In every run the counter agrees with the frames and the calls that returned, and every
message that was processed is answered by one `send_tool_response`, call by call. -/
theorem accounted_always (clock : Clock) (sessionId apiKeyId : String) (project : ProjectConfig)
    (sessionRepo : Bool) (events : List (Clock × RunnerEvent)) :
    Always step Accounted { session := Session.spawn clock sessionId apiKeyId project sessionRepo }
      events := by
  refine always_iff_reached.mpr fun front back accounts _ run => ?_
  refine accounted_of_kept (exec_invariant Kept ?_ ?_ run)
  · intro accounts event next kept run
    exact kept_step kept run
  · exact kept_spawn clock sessionId apiKeyId project sessionRepo

end Accounts

end LiveChat.Core.GeminiRunner
