import LiveChat.Foundation.JsonRoundTrip
import LiveChat.Core.ToolCalls

/-!
# The values in the frames of a session

A `dict` has no key twice.  When this holds of the arguments of every call that Gemini sends and
of every result that a tool returns, it holds of every frame that the outbox ever accepts.
-/

set_option autoImplicit false

namespace LiveChat.Core.GeminiRunner

open LiveChat.Foundation
open LiveChat.Foundation.JsonText (WellFormed)
open LiveChat.Foundation.TransitionSystem

def FunctionCall.Fits (call : FunctionCall) : Prop := WellFormed (.object (call.args.getD []))

def ConsumerEvent.Fits : ConsumerEvent → Prop
  | .response message => ∀ calls, message.toolCall = some (some calls) → ∀ call ∈ calls, call.Fits
  | .toolResult result => WellFormed result
  | _ => True

def RunnerEvent.Fits : RunnerEvent → Prop
  | .consume event | .receive event => event.Fits
  | _ => True

def FrameFits : OutboxFrame → Prop
  | .toolCall _ args result _ => WellFormed (.object args) ∧ WellFormed result
  | _ => True

/-- The calls that the consumer still has to execute. -/
def Consumer.Fits : Consumer → Prop
  | .executing call rest _ => call.Fits ∧ ∀ other ∈ rest, FunctionCall.Fits other
  | _ => True

def AllFit (state : SessionState) : Prop :=
  ∀ frame, OutboxItem.frame frame ∈ state.outbox.accepted → FrameFits frame

structure Session.Fits (session : Session) : Prop where
  one : session.OneReader
  frames : AllFit session.state
  pending : ∀ consumer, session.atWork = some consumer → consumer.Fits

/-! ## Frames -/

theorem frameFits_of_isToolCall {frame : OutboxFrame}
    (other : OutboxFrame.isToolCall frame = false) : FrameFits frame := by
  cases frame with
  | toolCall tool args result callId => cases other
  | _ => trivial

theorem frameFits_of_isReply {frame : OutboxFrame} (other : OutboxFrame.isReply frame = false) :
    FrameFits frame := by
  cases frame with
  | toolCall tool args result callId => cases other
  | _ => trivial

theorem isToolCall_toolCallFrames {toolCall : Option (Option (List FunctionCall))}
    {frame : OutboxFrame} (member : frame ∈ toolCallFrames toolCall) :
    OutboxFrame.isToolCall frame = false := by
  rcases toolCall with _ | _ | calls
  · cases member
  · cases List.mem_singleton.mp member
    rfl
  · cases member

theorem isToolCall_contentFrames {speaker : Bool} {content : ServerContent} {frame : OutboxFrame}
    (member : frame ∈ contentFrames speaker content) : OutboxFrame.isToolCall frame = false := by
  rcases mem_contentFrames member with ⟨_, rfl⟩ | ⟨_, rfl⟩ | ⟨_, rfl⟩ <;> rfl

theorem isToolCall_responseFrames {speaker : Bool} {message : LiveServerMessage}
    {frame : OutboxFrame} (member : frame ∈ responseFrames speaker message) :
    OutboxFrame.isToolCall frame = false := by
  unfold responseFrames at member
  split at member
  · exact isToolCall_toolCallFrames member
  · rcases List.mem_append.mp member with content | ending
    · exact isToolCall_contentFrames content
    · split at ending
      · cases List.mem_singleton.mp ending
        rfl
      · exact isToolCall_toolCallFrames ending

theorem frameFits_frames {consumer : Consumer} {event : ConsumerEvent} {speaker : Bool}
    (pending : consumer.Fits) (given : event.Fits) {frame : OutboxFrame}
    (member : frame ∈ consumer.frames speaker event) : FrameFits frame := by
  unfold Consumer.frames at member
  split at member
  · exact frameFits_of_isToolCall (isToolCall_responseFrames member)
  · cases List.mem_singleton.mp member
    trivial
  · cases List.mem_singleton.mp member
    trivial
  · cases List.mem_singleton.mp member
    exact ⟨pending.1, given⟩
  · cases List.mem_singleton.mp member
    trivial
  · cases member

/-! ## Consumers -/

theorem fits_nextCall (responses : List FunctionResponse) {calls : List FunctionCall}
    (fit : ∀ call ∈ calls, call.Fits) : (nextCall responses calls).Fits := by
  cases calls with
  | nil => trivial
  | cons call rest => exact List.forall_mem_cons.mp fit

theorem fits_startToolCall {state next : SessionState} {consumer : Consumer}
    {toolCall : Option (Option (List FunctionCall))}
    (fit : ∀ calls, toolCall = some (some calls) → ∀ call ∈ calls, FunctionCall.Fits call)
    (run : startToolCall state toolCall = (next, .suspended consumer)) : consumer.Fits := by
  rcases toolCall with _ | _ | calls
  · cases run
    trivial
  · cases run
  · cases run
    exact fits_nextCall [] (fit calls rfl)

theorem fits_handleResponse {state next : SessionState} {consumer : Consumer}
    {message : LiveServerMessage} (given : ConsumerEvent.Fits (.response message))
    (run : handleResponse state message = (next, .suspended consumer)) : consumer.Fits := by
  unfold handleResponse at run
  split at run
  · exact fits_startToolCall given run
  · simp only at run
    split at run
    · cases run
    · exact fits_startToolCall given run

theorem fits_resume {state next : SessionState} {consumer consumer' : Consumer}
    {event : ConsumerEvent} (pending : consumer.Fits) (given : event.Fits)
    (run : consumer.resume state event = some (next, .suspended consumer')) : consumer'.Fits := by
  unfold Consumer.resume at run
  split at run
  · exact fits_handleResponse given (Option.some.inj run)
  · cases run
  · cases run
  · rename_i rest responses result
    cases run
    exact fits_nextCall _ pending.2
  · cases run
  · cases run
    trivial
  · cases run
    trivial
  · cases run

theorem allFit_consumer {state next : SessionState} {consumer : Consumer} {event : ConsumerEvent}
    {progress : ConsumerProgress} (fit : AllFit state) (pending : consumer.Fits)
    (given : event.Fits) (run : consumer.resume state event = some (next, progress)) :
    AllFit next := by
  intro frame member
  rw [(consumer_spec run).1] at member
  rcases BoundedQueue.mem_offerAll member with old | new
  · exact fit frame old
  · obtain ⟨other, offered, same⟩ := List.mem_map.mp new
    cases same
    exact frameFits_frames pending given offered

/-! ## Steps -/

theorem allFit_frame : StateFrame fun before after => AllFit before → AllFit after where
  refl _ := id
  trans _ _ _ front back fit := back (front fit)
  send state sent other fit frame member := by
    rcases BoundedQueue.mem_offer member with old | new
    · exact fit frame old
    · cases new
      exact frameFits_of_isReply other
  stop state fit frame member := by
    rcases BoundedQueue.mem_offer member with old | new
    · exact fit frame old
    · cases new
  take _ _ _ _ := id
  touch _ _ := id
  speaker _ _ := id

namespace Session
variable {session next : Session} {clock : Clock} {event : RunnerEvent}

theorem fits_spawn (clock : Clock) (sessionId apiKeyId : String) (project : ProjectConfig)
    (sessionRepo : Bool) : (spawn clock sessionId apiKeyId project sessionRepo).Fits :=
  ⟨oneReader_spawn clock sessionId apiKeyId project sessionRepo,
    fun _ member => absurd member List.not_mem_nil, fun _ none => by cases none⟩

theorem fits_step (fit : session.Fits) (given : event.Fits)
    (run : session.step (clock, event) = some next) : next.Fits := by
  have shift := shift_step run
  have one := oneReader_shift fit.one shift
  rcases reader_shift shift with ⟨consumer, event', _, reads, _⟩ | ⟨apart, _⟩
  · obtain ⟨progress, resumed, after⟩ := atWork_read fit.one shift reads
    have given' : event'.Fits := by
      rcases reader_given reads with rfl | rfl <;> exact given
    have pending := fit.pending consumer (atWork_reader fit.one reads)
    refine ⟨one, allFit_consumer fit.frames pending given' resumed, fun consumer' works => ?_⟩
    rw [after] at works
    cases progress with
    | suspended later =>
        cases works
        exact fits_resume pending given' resumed
    | returned alive => cases works
  · refine ⟨one, ?_, fun consumer works => ?_⟩
    · by_cases takes : event = .takeOutbox
      · subst takes
        obtain ⟨item, outbox, got, rfl⟩ := takeOutbox_step run
        intro frame member
        exact fit.frames frame (BoundedQueue.getNowait_accepted got ▸ member)
      · exact allFit_frame.step apart takes (fun _ _ => id) run fit.frames
    · cases hands_shift fit.one shift apart with
      | same same => exact fit.pending consumer (same ▸ works)
      | begins before after =>
          cases after.symm.trans works
          trivial
      | cancelled receiver after => cases after.symm.trans works
      | left here away after => cases after.symm.trans works

end Session

end LiveChat.Core.GeminiRunner
