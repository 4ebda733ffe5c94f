import LiveChat.Core.GeminiTraffic
import LiveChat.Api.WireFrames

/-!
# What the clients get from Gemini

From a message of Gemini over the outbox and the forward loops to the frames that a client reads.
Over every run of a room, what a client hears is a part of what Gemini said to this session, in
its order, and no audio of it was said while the speaker was off; and as long as the outbox has
room, what the loops took together is all of it from the beginning.
-/

set_option autoImplicit false

namespace LiveChat.Api.Forwarding

open LiveChat.Core
open LiveChat.Core.GeminiRunner
open LiveChat.Foundation
open LiveChat.Foundation.TransitionSystem

namespace Room

/-- What Gemini tells in a step. -/
def tells (room : Room) : RoomEvent → List OutboxFrame
  | .runner _ event => room.session.tells event
  | _ => []

def Roomy (room : Room) : RoomEvent → Prop
  | .runner _ event => room.session.Roomy event
  | _ => True

instance (room : Room) : (event : RoomEvent) → Decidable (room.Roomy event)
  | .runner _ event => inferInstanceAs (Decidable (room.session.Roomy event))
  | .connect _ | .disconnect _ | .receiveReturns _ | .resume _ | .sent _ | .sendFailed _ =>
      isTrue trivial

/-- What a client hears of Gemini in the messages that it got. -/
def hearing (index : Nat) (messages : List (Nat × WireMessage)) : List OutboxFrame :=
  ((messagesTo index messages).filterMap readMessage).filter OutboxFrame.isSpoken

/-- What the loops took of Gemini's, all of them in one line. -/
def taken (room : Room) : List OutboxFrame := (room.takings.map Prod.snd).filterMap spokenFrame

/-! ## The outbox -/

theorem wakeGetters_session (room : Room) (puts : Nat) :
    (room.wakeGetters puts).session = room.session := (takings_foldl _ room).2

theorem nextItem_accepted (room : Room) (index : Nat) :
    (room.nextItem index).session.state.outbox.accepted = room.session.state.outbox.accepted := by
  unfold nextItem
  split
  · rfl
  · rename_i item outbox got
    exact BoundedQueue.getNowait_accepted got

/-- Only the runner and its consumers put on the outbox. -/
theorem accepted_step {room next : Room} {event : RoomEvent}
    (outside : ∀ clock inner, event ≠ .runner clock inner) (run : room.step event = some next) :
    next.session.state.outbox.accepted = room.session.state.outbox.accepted := by
  cases event with
  | connect clock =>
      cases run
      rfl
  | disconnect index | receiveReturns index =>
      simp only [step] at run
      split at run
      · split at run <;> cases run
        rfl
      · cases run
  | resume index | sent index =>
      simp only [step] at run
      split at run
      · cases run
        exact nextItem_accepted room index
      · cases run
  | sendFailed index =>
      simp only [step] at run
      split at run <;> cases run
      rfl
  | runner clock inner => exact absurd rfl (outside clock inner)

theorem spoken_step {room next : Room} {event : RoomEvent} (run : room.step event = some next) :
    (∃ added : List OutboxFrame, added.Sublist (room.tells event) ∧
      spoken next.session.state = spoken room.session.state ++ added) ∧
    (room.Roomy event →
      spoken next.session.state = spoken room.session.state ++ room.tells event) := by
  by_cases inside : ∃ clock inner, event = .runner clock inner
  · obtain ⟨clock, inner, rfl⟩ := inside
    obtain ⟨_, session, stepped, rfl⟩ := step_runner run
    rw [wakeGetters_session]
    exact Session.spoken_step stepped
  · have outside : ∀ clock inner, event ≠ .runner clock inner :=
      fun clock inner same => inside ⟨clock, inner, same⟩
    have same : spoken next.session.state = spoken room.session.state := by
      rw [spoken, accepted_step outside run, spoken]
    have silent : room.tells event = [] := by
      cases event with
      | runner clock inner => exact absurd rfl (outside clock inner)
      | _ => rfl
    rw [silent, same, List.append_nil]
    exact ⟨⟨[], List.Sublist.refl [], (List.append_nil _).symm⟩, fun _ => rfl⟩

/-! ## The clients -/

theorem framesOf_sublist (index : Nat) (takings : List (Nat × OutboxItem)) :
    ((framesOf index takings).filter OutboxFrame.isSpoken).Sublist
      ((takings.map Prod.snd).filterMap spokenFrame) := by
  induction takings with
  | nil => exact List.Sublist.refl []
  | cons taking rest ih =>
      obtain ⟨taker, item⟩ := taking
      cases item with
      | stop => exact ih
      | frame frame =>
          by_cases own : taker = index
          · subst own
            by_cases heard : OutboxFrame.isSpoken frame = true
            · simpa [framesOf, spokenFrame, heard] using ih
            · simpa [framesOf, spokenFrame, heard] using ih
          · by_cases heard : OutboxFrame.isSpoken frame = true
            · simpa [framesOf, spokenFrame, heard, own] using ih.cons frame
            · simpa [framesOf, spokenFrame, heard, own] using ih

theorem hearing_leads {room : Room} {messages : List (Nat × WireMessage)}
    (carries : Carries room messages) (index : Nat) :
    hearing index messages <+: (framesOf index room.takings).filter OutboxFrame.isSpoken := by
  obtain ⟨written, lost, frames, _, _, _, same⟩ := read_written carries index
  have read : (messagesTo index messages).filterMap readMessage = written := by
    have inner := congrArg (List.filterMap id) same
    simpa [List.filterMap_map] using inner
  rw [hearing, read, frames]
  exact (List.prefix_append written lost).filter _

theorem taken_leads {room : Room} {messages : List (Nat × WireMessage)}
    (carries : Carries room messages) : room.taken <+: spoken room.session.state := by
  rw [taken, carries.order, spoken]
  exact (List.take_prefix _ _).filterMap spokenFrame

/-- What the clients hear of what Gemini told. -/
structure Hears (room : Room) (messages : List (Nat × WireMessage)) (told : List OutboxFrame) :
    Prop where
  /-- Each client hears what its own loop took, from the beginning and without a gap. -/
  each : ∀ index,
    hearing index messages <+: (framesOf index room.takings).filter OutboxFrame.isSpoken
  /-- And that is a part of what the loops took together, in the same order. -/
  shared : ∀ index,
    ((framesOf index room.takings).filter OutboxFrame.isSpoken).Sublist room.taken
  /-- The loops together take what Gemini told, once and in its order. -/
  together : room.taken.Sublist told

/-- In every run of a room, with any number of connections; and when the outbox has room for all
that the consumers send, what the loops have taken is what Gemini told first, without a gap. -/
theorem clients_hear {clock : Clock} {sessionId apiKeyId : String} {project : ProjectConfig}
    {sessionRepo : Bool} {events : List RoomEvent} {final : Room}
    (given : ∀ event ∈ events, event.Fits)
    (run : exec step (opened (Session.spawn clock sessionId apiKeyId project sessionRepo)) events =
      some final) :
    final.Hears
        (emitted step writes (opened (Session.spawn clock sessionId apiKeyId project sessionRepo))
          events)
        (emitted step tells (opened (Session.spawn clock sessionId apiKeyId project sessionRepo))
          events) ∧
      (Along step Roomy (opened (Session.spawn clock sessionId apiKeyId project sessionRepo))
          events →
        final.taken <+: emitted step tells
          (opened (Session.spawn clock sessionId apiKeyId project sessionRepo)) events) := by
  have carries := carries_exec given run
  refine ⟨⟨hearing_leads carries, fun index => framesOf_sublist index final.takings, ?_⟩,
    fun roomy => ?_⟩
  · obtain ⟨added, some, same⟩ := view_sublist
      (fun (room : Room) event next stepped => (spoken_step stepped).1) run
    have told : spoken final.session.state = added := same
    exact ((taken_leads carries).sublist.trans (told ▸ List.Sublist.refl _)).trans some
  · have same := view_emitted (fun (room : Room) event next met stepped =>
      (spoken_step stepped).2 met) roomy run
    have told : spoken final.session.state = emitted step tells
      (opened (Session.spawn clock sessionId apiKeyId project sessionRepo)) events := same
    exact told ▸ taken_leads carries

/-- A client asks, with its speaker off; Gemini answers in words and sounds. -/
def answeredInWords : List RoomEvent :=
  let at0 (event : RunnerEvent) : RoomEvent := .runner ⟨0, 0⟩ event
  [at0 (.start none), .resume 0, at0 .connected, .resume 0, .sent 0, at0 (.putInbox (.text "hi")),
    at0 .frame, at0 .sent,
    at0 (.consume (.response { serverContent := some {
      modelTurn := [some [1, 2]], outputTranscription := some "hello", turnComplete := true } })),
    .resume 0, .sent 0, .sent 0]

example : emitted step tells (opened demoSession) answeredInWords =
    [.assistantText "hello", .turnComplete] := by decide

theorem clients_hear_words : ∃ final,
    exec step (opened demoSession) answeredInWords = some final ∧
      final.Hears (emitted step writes (opened demoSession) answeredInWords)
        (emitted step tells (opened demoSession) answeredInWords) ∧
      final.taken <+: emitted step tells (opened demoSession) answeredInWords := by
  have ran : (exec step (opened demoSession) answeredInWords).isSome = true := by decide
  obtain ⟨final, run⟩ := Option.isSome_iff_exists.mp ran
  have given : ∀ event ∈ answeredInWords, event.Fits := by
    simp [answeredInWords, RoomEvent.Fits, RunnerEvent.Fits, ConsumerEvent.Fits]
  have roomy : Along step Roomy (opened demoSession) answeredInWords := by decide
  obtain ⟨hears, all⟩ := clients_hear given run
  exact ⟨final, run, hears, all roomy⟩

end Room

end LiveChat.Api.Forwarding
