import LiveChat.Foundation.TransitionSystem
import LiveChat.Api.ReceiveLoop

/-!
# Texts outside a voice turn

Whether a voice turn is active is known twice: as the `voice_active` flag of a connection, and
as the receive task of the runner, which drops texts while it runs.  `interrupt` and a new
connection clear the flag and leave the task alone.  The theorem says when every text that
comes in while the flag is False is sent to Gemini, or answered with an error frame.
-/

set_option autoImplicit false

namespace LiveChat.Api.ReceiveLoop

open LiveChat.Core
open LiveChat.Core.GeminiRunner
open LiveChat.Core.GeminiRunner.Session
open LiveChat.Foundation
open LiveChat.Foundation.TransitionSystem

/-! ## Voice turns on the inbox -/

/-- The last `ACTIVITY` frame opens a voice turn. -/
def voiceOpen (frames : List InputFrame) : Bool :=
  frames.foldl (fun active frame =>
    match frame with
    | .activityStart => true
    | .activityEnd => false
    | _ => active) false

theorem voiceOpen_append (frames : List InputFrame) (frame : InputFrame) :
    voiceOpen (frames ++ [frame]) =
      match frame with
      | .activityStart => true
      | .activityEnd => false
      | _ => voiceOpen frames := by
  simp only [voiceOpen, List.foldl_append, List.foldl_cons, List.foldl_nil]

/-- A receive task is at work in an opened voice turn only, until its end is being sent. -/
structure VoiceTurn (session : Session) : Prop where
  opening : session.await = .joiningReceiver ∨ session.await = .sendingActivityStart →
    voiceOpen session.heard = true
  busy : session.await.lives = true → session.await ≠ .sendingActivityEnd →
    session.await ≠ .awaitingReceiver → session.receiverBusy = true →
    voiceOpen session.heard = true

theorem voiceTurn_spawn (clock : Clock) (sessionId apiKeyId : String) (project : ProjectConfig)
    (sessionRepo : Bool) : VoiceTurn (spawn clock sessionId apiKeyId project sessionRepo) := by
  constructor
  · rintro (here | here) <;> cases here
  · intro _ _ _ busy
    cases busy

/-- The frame loop lives, and no voice turn is being ended. -/
def betweenEnds : Await → Bool
  | .sendingActivityEnd | .awaitingReceiver => false
  | await => await.lives

theorem VoiceTurn.started {session : Session} (turn : VoiceTurn session)
    (between : betweenEnds session.await = true) (busy : session.receiverBusy = true) :
    voiceOpen session.heard = true := by
  refine turn.busy ?_ ?_ ?_ busy
  · cases here : session.await <;> rw [here] at between <;> first | rfl | cases between
  · intro here
    rw [here] at between
    cases between
  · intro here
    rw [here] at between
    cases between

theorem voiceTurn_kept {session next : Session} (turn : VoiceTurn session)
    (between : betweenEnds session.await = true)
    (heard : voiceOpen next.heard = voiceOpen session.heard)
    (receiver : next.receiver = session.receiver)
    (opening : next.await ≠ .joiningReceiver ∧ next.await ≠ .sendingActivityStart) :
    VoiceTurn next := by
  constructor
  · intro here
    exact absurd here (by simp [opening])
  · intro _ _ _ busy
    rw [heard]
    exact turn.started between (receiverBusy_congr receiver ▸ busy)

theorem voiceTurn_rests {session next : Session} (turn : VoiceTurn session)
    (between : betweenEnds session.await = true) (rests : Rests session next)
    (receiver : next.receiver = session.receiver)
    (opening : next.await ≠ .joiningReceiver ∧ next.await ≠ .sendingActivityStart) :
    VoiceTurn next :=
  voiceTurn_kept turn between (by rw [rests.heard]) receiver opening

theorem voiceTurn_took {session : Session} (clock : Clock) {frame : InputFrame}
    {inbox : BoundedQueue InputFrame INBOX_MAX_SIZE} (turn : VoiceTurn session)
    (here : session.await = .nextFrame)
    (got : session.state.inbox.getNowait = some (frame, inbox)) :
    VoiceTurn ((session.hear clock inbox).handleFrame frame) := by
  have heard := (handleFrame_heard (session.hear clock inbox) frame).trans (heard_hear clock got)
  have marked := voiceOpen_append session.heard frame
  rw [← heard] at marked
  have kept := fun next => @voiceTurn_kept session next turn (by rw [here]; rfl)
  cases frame with
  | stop =>
      constructor
      · rintro (closing | closing) <;> cases closing
      · intro lives
        cases lives
  | setSpeaker payload =>
      exact kept _ marked rfl (by simp [handleFrame, Session.send, hear, here])
  | audioChunk payload => exact kept _ marked rfl (by simp [handleFrame, goto])
  | activityStart => exact ⟨fun _ => marked, fun _ _ _ _ => marked⟩
  | activityEnd =>
      constructor
      · rintro (ending | ending) <;> cases ending
      · intro _ sending
        exact absurd rfl sending
  | text payload =>
      simp only [handleFrame] at marked ⊢
      split
      · rename_i busy
        rw [if_pos busy] at marked
        exact kept _ marked rfl (by simp [hear, here])
      · rename_i idle
        rw [if_neg idle] at marked
        exact kept _ marked rfl (by simp [goto])

theorem voiceTurn_shift {session next : Session} {event : RunnerEvent}
    (turn : VoiceTurn session) (shift : Shift session event next) : VoiceTurn next := by
  have idle : next.receiverBusy = false → next.await ≠ .joiningReceiver →
      next.await ≠ .sendingActivityStart → VoiceTurn next := by
    intro idle joining sending
    constructor
    · rintro (here | here)
      · exact absurd here joining
      · exact absurd here sending
    · intro _ _ _ busy
      rw [idle] at busy
      cases busy
  cases shift with
  | stands apart await receiver rests =>
      constructor
      · intro here
        rw [rests.heard]
        exact turn.opening (by rwa [await] at here)
      · intro lives sending awaiting busy
        rw [rests.heard]
        rw [await] at lives sending awaiting
        exact turn.busy lives sending awaiting (receiverBusy_congr receiver ▸ busy)
  | took clock here got => exact voiceTurn_took clock turn here got
  | entered here await receiver rests =>
      exact voiceTurn_rests turn (by rw [here]; rfl) rests receiver (by simp [await])
  | opened here await receiver rests =>
      exact voiceTurn_rests turn (by rw [here]; rfl) rests receiver (by simp [await])
  | spawned here await receiver rests =>
      have started := turn.opening (Or.inr here)
      rw [← rests.heard] at started
      exact ⟨fun _ => started, fun _ _ _ _ => started⟩
  | textSent here await receiver rests =>
      exact voiceTurn_rests turn (by rw [here]; rfl) rests receiver (by simp [await])
  | audioSent here await receiver rests =>
      exact voiceTurn_rests turn (by rw [here]; rfl) rests receiver (by simp [await])
  | sendFailed here await receiver rests =>
      rcases here with here | here | here
      all_goals
        exact voiceTurn_rests turn (by rw [here]; rfl) rests receiver (by simp [await])
  | voiceEnded apart here await receiver rests =>
      cases absent : session.receiver.isNone with
      | true =>
          rw [absent] at await
          refine idle ?_ (by simp [await]) (by simp [await])
          rw [Option.isNone_iff_eq_none.mp absent] at receiver
          simp only [receiverBusy, receiver]
      | false =>
          rw [absent] at await
          constructor
          · rintro (ending | ending) <;> simp [await] at ending
          · intro _ _ awaiting
            simp [await] at awaiting
  | joined apart here still await receiver rests =>
      have started := turn.opening (Or.inl here)
      rw [← rests.heard] at started
      exact ⟨fun _ => started, fun _ _ _ _ => started⟩
  | @voiceTurned alive next here returned await receiver rests =>
      refine idle (by simp only [receiverBusy, receiver]) ?_ ?_
      · cases alive <;> simp [await]
      · cases alive <;> simp [await]
  | read here resumed =>
      have undisturbed := (consumer_undisturbed resumed).inbox
      exact voiceTurn_kept turn (by rw [here]; rfl)
        (by simp only [heard, goto, undisturbed]) rfl (by simp [goto])
  | @textTurned event consumer state alive here resumed =>
      have undisturbed := (consumer_undisturbed resumed).inbox
      cases alive with
      | true =>
          exact voiceTurn_kept turn (by rw [here]; rfl)
            (by simp only [heard, afterTurn, goto, if_true, undisturbed]) rfl
            (by simp [afterTurn, goto])
      | false =>
          constructor
          · rintro (ending | ending) <;> cases ending
          · intro lives
            cases lives
  | received running resumed =>
      have undisturbed := (consumer_undisturbed resumed).inbox
      have busy : session.receiverBusy = true := by simp [receiverBusy, running, Receiver.isDone]
      constructor
      · intro here
        simpa only [heard, undisturbed] using turn.opening here
      · intro lives sending awaiting _
        simpa only [heard, undisturbed] using turn.busy lives sending awaiting busy
  | returned running resumed =>
      have undisturbed := (consumer_undisturbed resumed).inbox
      constructor
      · intro here
        simpa only [heard, undisturbed] using turn.opening here
      · intro _ _ _ busy
        cases busy
  | receiverCancelled cancelling =>
      constructor
      · exact turn.opening
      · intro _ _ _ busy
        cases busy
  | passedOn here await receiver rests =>
      rcases here with here | here
      · have started := turn.opening (Or.inl here)
        rw [← rests.heard] at started
        exact ⟨fun _ => started, fun _ _ _ _ => started⟩
      · rw [here] at await
        constructor
        · rintro (joining | joining) <;> simp [await] at joining
        · intro _ _ awaiting
          exact absurd await awaiting
  | left apart gone receiver rests =>
      constructor
      · rintro (here | here) <;> simp [here, Await.lives] at gone
      · intro lives
        rw [gone] at lives
        cases lives

namespace Conversation

/-! ## Texts and their answers -/

/-- While the runner lives on, every text that it took from the inbox and that came in while
the flag of its connection was False was sent, refused with an error frame, or is being sent. -/
def TextsAnswered (conversation : Conversation) : Prop :=
  conversation.session.await.lives = true → ∀ text ∈ conversation.outside,
    text.1 < conversation.session.state.inbox.taken →
      text ∈ conversation.sent ∨ text ∈ conversation.refused ∨
        sendsText conversation.session = some text

/-- The text that a message puts on the inbox while the flag is False. -/
def outsideText (conversation : Conversation) (index : Nat) (message : ClientMessage) :
    Option String :=
  match conversation.connections[index]? with
  | some ⟨false, true⟩ =>
      match (handle false message).2 with
      | .enqueue (.text text) _ _ => some text
      | _ => none
  | _ => none

/-- No text comes in outside a voice turn while the last `ACTIVITY` frame on the inbox opens
one, and no send of a text fails while the outbox is full. -/
def TurnsClosed (conversation : Conversation) : Clock × ConversationEvent → Prop
  | (_, .receive index message) => (conversation.outsideText index message).isSome = true →
      voiceOpen conversation.session.state.inbox.accepted = false
  | (_, .runner (.failed _)) => (sendsText conversation.session).isSome = true →
      conversation.session.state.outbox.qsize < OUTBOX_MAX_SIZE
  | _ => True

instance (conversation : Conversation) :
    (event : Clock × ConversationEvent) → Decidable (conversation.TurnsClosed event)
  | (_, .receive index message) => inferInstanceAs (Decidable
      ((conversation.outsideText index message).isSome = true →
        voiceOpen conversation.session.state.inbox.accepted = false))
  | (_, .runner (.failed _)) => inferInstanceAs (Decidable
      ((sendsText conversation.session).isSome = true →
        conversation.session.state.outbox.qsize < OUTBOX_MAX_SIZE))
  | (_, .connect) | (_, .ended _) | (_, .stop) | (_, .runner (.start _))
  | (_, .runner .connected) | (_, .runner .frame) | (_, .runner .idleTimeout)
  | (_, .runner .sent) | (_, .runner (.fault _)) | (_, .runner .receiverDone)
  | (_, .runner (.consume _)) | (_, .runner .closed) | (_, .runner .insertReturned)
  | (_, .runner .insertFailed) | (_, .runner .cancelled) | (_, .runner .requestCancel)
  | (_, .runner (.receive _)) | (_, .runner .receiverCancelled) | (_, .runner .insertExecuted)
  | (_, .runner (.putInbox _)) | (_, .runner .takeOutbox) | (_, .runner .touch) =>
      isTrue trivial

/-- The texts of `outside` are on the inbox, each after the end of the last voice turn. -/
def Placed (conversation : Conversation) : Prop :=
  ∀ text ∈ conversation.outside,
    conversation.session.state.inbox.accepted[text.1]? = some (.text text.2) ∧
      voiceOpen (conversation.session.state.inbox.accepted.take text.1) = false

structure Kept (conversation : Conversation) : Prop where
  turn : VoiceTurn conversation.session
  placed : conversation.Placed
  answered : conversation.TextsAnswered

theorem kept_opened (clock : Clock) (sessionId apiKeyId : String) (project : ProjectConfig)
    (sessionRepo : Bool) : Kept (opened (spawn clock sessionId apiKeyId project sessionRepo)) :=
  ⟨voiceTurn_spawn clock sessionId apiKeyId project sessionRepo,
    fun _ member => absurd member List.not_mem_nil,
    fun _ _ member => absurd member List.not_mem_nil⟩

/-! ## The runner -/

theorem sendsText_some {session : Session} {text : Nat × String}
    (sending : sendsText session = some text) : session.await = .sendingText := by
  unfold sendsText at sending
  split at sending
  · assumption
  · cases sending

theorem sendsText_congr {session next : Session} (await : next.await = session.await)
    (heard : next.heard = session.heard) : sendsText next = sendsText session := by
  simp only [sendsText, await, heard]

theorem outbox_failed {session next : Session} {clock : Clock} {exc : String}
    (here : session.await = .sendingText) (run : session.step (clock, .failed exc) = some next) :
    next.state.outbox = session.state.outbox.offer (sendFailed exc) := by
  obtain ⟨progress, resumed, rfl⟩ := step_settles run
  simp only [resume, RunnerEvent.resumesRunner, if_true] at resumed
  split at resumed
  · cases resumed
  · simp only [resumeRunner, afterFailed, here, Option.some.injEq] at resumed
    cases resumed
    rfl

theorem sent_follow (conversation : Conversation) (next : Session) (event : RunnerEvent) :
    conversation.sent ⊆ (conversation.follow next event).sent := by
  cases event with
  | sent => exact List.subset_append_left _ _
  | _ => exact List.Subset.refl _

theorem refused_follow (conversation : Conversation) (next : Session) (event : RunnerEvent) :
    conversation.refused ⊆ (conversation.follow next event).refused := by
  cases event with
  | failed exc =>
      simp only [follow]
      split
      · exact List.subset_append_left _ _
      · exact List.Subset.refl _
  | _ => exact List.Subset.refl _

theorem follow_session (conversation : Conversation) (next : Session) (event : RunnerEvent) :
    (conversation.follow next event).session = next := by
  cases event <;> rfl

theorem follow_outside (conversation : Conversation) (next : Session) (event : RunnerEvent) :
    (conversation.follow next event).outside = conversation.outside := by
  cases event <;> rfl

/-- A text of `outside` that the runner takes is sent: no receive task is at work. -/
theorem sendsText_took {conversation : Conversation} (kept : Kept conversation) (clock : Clock)
    {frame : InputFrame} {inbox : BoundedQueue InputFrame INBOX_MAX_SIZE}
    (here : conversation.session.await = .nextFrame)
    (got : conversation.session.state.inbox.getNowait = some (frame, inbox))
    {text : Nat × String} (member : text ∈ conversation.outside)
    (first : text.1 = conversation.session.state.inbox.taken) :
    sendsText ((conversation.session.hear clock inbox).handleFrame frame) = some text := by
  obtain ⟨place, payload⟩ := text
  obtain ⟨listed, closed⟩ := kept.placed _ member
  obtain ⟨_, _, oldest⟩ := BoundedQueue.getNowait_spec got
  subst first
  cases Option.some.inj (oldest.symm.trans listed)
  have idle : conversation.session.receiverBusy = false := by
    refine Bool.eq_false_iff.mpr fun busy => ?_
    have active := kept.turn.busy (by rw [here]; rfl) (by simp [here]) (by simp [here]) busy
    exact absurd (active.symm.trans closed) (by simp)
  have heard := (handleFrame_heard (conversation.session.hear clock inbox) (.text payload)).trans
    (heard_hear clock got)
  have length : conversation.session.heard.length = conversation.session.state.inbox.taken :=
    List.length_take_of_le conversation.session.state.inbox.taken_le
  have await : ((conversation.session.hear clock inbox).handleFrame (.text payload)).await =
      .sendingText := by
    have idle' : (conversation.session.hear clock inbox).receiverBusy = false := idle
    simp only [handleFrame, idle']
    rfl
  simp only [sendsText, await, heard, List.getLast?_append, List.getLast?_singleton,
    Option.some_or, List.length_append, List.length_singleton, length, Nat.add_sub_cancel]

theorem answered_shift {conversation : Conversation} {next : Session} {clock : Clock}
    {event : RunnerEvent} (met : conversation.TurnsClosed (clock, .runner event))
    (run : conversation.session.step (clock, event) = some next)
    (lives : next.await.lives = true) {text : Nat × String}
    (sending : sendsText conversation.session = some text) :
    text ∈ (conversation.follow next event).sent ∨
      text ∈ (conversation.follow next event).refused ∨ sendsText next = some text := by
  have here := sendsText_some sending
  have listed : text ∈ (sendsText conversation.session).toList := by rw [sending]; simp
  have shift := shift_step run
  cases shift with
  | stands apart await receiver rests =>
      exact Or.inr (Or.inr ((sendsText_congr await rests.heard).trans sending))
  | textSent here await receiver rests => exact Or.inl (List.mem_append_right _ listed)
  | @sendFailed exc next from' await receiver rests =>
      have room := met (by rw [sending]; rfl)
      have accepted : next.state.outbox.accepted =
          conversation.session.state.outbox.accepted ++ [ReceiveLoop.sendFailed exc] := by
        rw [outbox_failed here run]
        rcases conversation.session.state.outbox.offer_spec (ReceiveLoop.sendFailed exc) with
          ⟨_, accepted, _⟩ | ⟨full, _⟩
        · exact accepted
        · omega
      refine Or.inr (Or.inl ?_)
      simp only [follow, accepted, if_true]
      exact List.mem_append_right _ listed
  | received running resumed =>
      have heard := congrArg (fun inbox : BoundedQueue InputFrame INBOX_MAX_SIZE =>
        inbox.accepted.take inbox.taken) (consumer_undisturbed resumed).inbox
      refine Or.inr (Or.inr ((sendsText_congr ?_ ?_).trans sending))
      · rfl
      · exact heard
  | returned running resumed =>
      have heard := congrArg (fun inbox : BoundedQueue InputFrame INBOX_MAX_SIZE =>
        inbox.accepted.take inbox.taken) (consumer_undisturbed resumed).inbox
      refine Or.inr (Or.inr ((sendsText_congr ?_ ?_).trans sending))
      · rfl
      · exact heard
  | receiverCancelled cancelling => exact Or.inr (Or.inr sending)
  | left apart gone receiver rests => exact absurd (gone.symm.trans lives) (by simp)
  | passedOn other await receiver rests => simp [here] at other
  | took clock other got => cases here.symm.trans other
  | entered other await receiver rests => cases here.symm.trans other
  | opened other await receiver rests => cases here.symm.trans other
  | spawned other await receiver rests => cases here.symm.trans other
  | audioSent other await receiver rests => cases here.symm.trans other
  | voiceEnded apart other await receiver rests => cases here.symm.trans other
  | joined apart other idle await receiver rests => cases here.symm.trans other
  | voiceTurned other returned await receiver rests => cases here.symm.trans other
  | read other resumed => cases here.symm.trans other
  | textTurned other resumed => cases here.symm.trans other

theorem kept_follow {conversation : Conversation} (kept : Kept conversation) {next : Session}
    {clock : Clock} {event : RunnerEvent}
    (met : conversation.TurnsClosed (clock, .runner event))
    (run : conversation.session.step (clock, event) = some next) :
    Kept (conversation.follow next event) := by
  have shift := shift_step run
  obtain ⟨grows, taken⟩ := inbox_shift shift
  obtain ⟨frames, grown⟩ := grows
  refine ⟨?_, ?_, ?_⟩
  · rw [follow_session]
    exact voiceTurn_shift kept.turn shift
  · intro text member
    rw [follow_outside] at member
    obtain ⟨listed, closed⟩ := kept.placed text member
    have inside := (List.getElem?_eq_some_iff.mp listed).1
    rw [follow_session, ← grown]
    refine ⟨(List.getElem?_append_left inside).trans listed, ?_⟩
    rwa [List.take_append_of_le_length (Nat.le_of_lt inside)]
  · intro lives text member before
    rw [follow_session] at lives before ⊢
    rw [follow_outside] at member
    have earlier := lives_shift shift lives
    -- what was taken before this step
    have old : text.1 < conversation.session.state.inbox.taken →
        text ∈ (conversation.follow next event).sent ∨
          text ∈ (conversation.follow next event).refused ∨ sendsText next = some text := by
      intro known
      rcases kept.answered earlier text member known with sent | refused | sending
      · exact Or.inl (sent_follow _ _ _ sent)
      · exact Or.inr (Or.inl (refused_follow _ _ _ refused))
      · exact answered_shift met run lives sending
    by_cases frame : event = .frame
    · subst frame
      cases shift with
      | took clock here got =>
          obtain ⟨_, next', _⟩ := BoundedQueue.getNowait_spec got
          rw [handleFrame_inbox] at before
          have bound : text.1 < conversation.session.state.inbox.taken + 1 := next' ▸ before
          rcases Nat.lt_succ_iff_lt_or_eq.mp bound with known | first
          · exact old known
          · exact Or.inr (Or.inr (sendsText_took kept clock here got member first))
      | stands apart await receiver rests => exact old (rests.taken ▸ before)
      | voiceEnded apart here await receiver rests => exact old (rests.taken ▸ before)
      | joined apart here idle await receiver rests => exact old (rests.taken ▸ before)
      | left apart gone receiver rests => exact old (rests.taken ▸ before)
    · exact old (taken frame ▸ before)

/-! ## The clients -/

/-- What happens at the edges of the session: frames are put on the inbox, each text of
`outside` after the end of the last voice turn. -/
theorem kept_edges {conversation next : Conversation} (kept : Kept conversation)
    (await : next.session.await = conversation.session.await)
    (receiver : next.session.receiver = conversation.session.receiver)
    (rests : Rests conversation.session next.session)
    (sent : next.sent = conversation.sent) (refused : next.refused = conversation.refused)
    (outside : ∀ text ∈ next.outside, text ∈ conversation.outside ∨
      text.1 = conversation.nextPlace ∧
        next.session.state.inbox.accepted[text.1]? = some (.text text.2) ∧
        voiceOpen conversation.session.state.inbox.accepted = false) : Kept next := by
  obtain ⟨frames, grown⟩ := rests.grows
  have stands : Shift conversation.session .touch next.session := .stands rfl await receiver rests
  refine ⟨voiceTurn_shift kept.turn stands, ?_, ?_⟩
  · intro text member
    rcases outside text member with known | ⟨place, listed, closed⟩
    · obtain ⟨listed, closed⟩ := kept.placed text known
      have inside := (List.getElem?_eq_some_iff.mp listed).1
      rw [← grown]
      refine ⟨(List.getElem?_append_left inside).trans listed, ?_⟩
      rwa [List.take_append_of_le_length (Nat.le_of_lt inside)]
    · refine ⟨listed, ?_⟩
      rw [place, ← grown, nextPlace, List.take_left]
      exact closed
  · intro lives text member before
    rw [rests.taken] at before
    rw [sent, refused, sendsText_congr await rests.heard]
    rcases outside text member with known | ⟨place, _⟩
    · exact kept.answered (await ▸ lives) text known before
    · have bound := conversation.session.state.inbox.taken_le
      rw [place, nextPlace] at before
      omega

theorem mem_noteText {conversation : Conversation} {voiceActive : Bool} {place : Nat}
    {frame : InputFrame} {text : Nat × String}
    (member : text ∈ (conversation.noteText voiceActive place frame).outside) :
    text ∈ conversation.outside ∨
      frame = .text text.2 ∧ voiceActive = false ∧ text.1 = place := by
  cases frame with
  | text payload =>
      simp only [noteText] at member
      split at member
      · exact Or.inl member
      · rename_i inactive
        rcases List.mem_append.mp member with known | new
        · exact Or.inl known
        · obtain rfl := List.mem_singleton.mp new
          exact Or.inr ⟨rfl, Bool.eq_false_iff.mpr inactive, rfl⟩
  | _ => exact Or.inl member

theorem noteText_rest (conversation : Conversation) (voiceActive : Bool) (place : Nat)
    (frame : InputFrame) :
    (conversation.noteText voiceActive place frame).session = conversation.session ∧
      (conversation.noteText voiceActive place frame).sent = conversation.sent ∧
      (conversation.noteText voiceActive place frame).refused = conversation.refused := by
  cases frame with
  | text payload =>
      simp only [noteText]
      split <;> exact ⟨rfl, rfl, rfl⟩
  | _ => exact ⟨rfl, rfl, rfl⟩

theorem kept_enqueue {conversation : Conversation} (kept : Kept conversation) (clock : Clock)
    (index : Nat) {voiceActive : Bool} {frame : InputFrame} (touches : Bool)
    (onFull : Option Answer)
    (closed : ∀ text, frame = .text text → voiceActive = false →
      voiceOpen conversation.session.state.inbox.accepted = false) :
    Kept (conversation.enqueue clock index voiceActive frame touches onFull) := by
  let state := if touches then conversation.session.state.touch clock.monotonic
    else conversation.session.state
  have inbox : state.inbox = conversation.session.state.inbox := by
    cases touches <;> rfl
  have touched : Kept (conversation.withState state) := by
    refine kept_edges kept rfl rfl (.of_eq inbox ?_) rfl rfl fun _ member => Or.inl member
    cases touches <;> rfl
  cases put : state.inbox.putNowait frame with
  | some longer =>
      have shape : conversation.enqueue clock index voiceActive frame touches onFull =
          (conversation.withState { state with inbox := longer }).noteText voiceActive
            conversation.nextPlace frame := by
        simp only [state] at put
        simp only [enqueue, put, state]
      obtain ⟨accepted, taken⟩ := BoundedQueue.putNowait_spec put
      obtain ⟨session, sent, refused⟩ := noteText_rest
        (conversation.withState { state with inbox := longer }) voiceActive conversation.nextPlace
        frame
      have rests : Rests conversation.session { conversation.session with
          state := { state with inbox := longer } } := by
        refine ⟨taken.trans (congrArg _ inbox), ?_, ?_⟩
        · exact ⟨[frame], by rw [accepted, inbox]⟩
        · cases touches <;> rfl
      rw [shape]
      refine kept_edges kept (by rw [session]; rfl) (by rw [session]; rfl) (session ▸ rests) sent
        refused fun text member => ?_
      rcases mem_noteText member with known | ⟨isText, inactive, place⟩
      · exact Or.inl known
      · refine Or.inr ⟨place, ?_, closed text.2 isText inactive⟩
        rw [session, place, nextPlace, ← isText]
        change longer.accepted[_]? = _
        rw [accepted, inbox, List.getElem?_concat_length]
  | none =>
      simp only [state] at put
      cases onFull with
      | none =>
          have shape : conversation.enqueue clock index voiceActive frame touches none =
              conversation.withState state := by
            simp only [enqueue, put, state]
          rw [shape]
          exact touched
      | some answer =>
          have shape : conversation.enqueue clock index voiceActive frame touches (some answer) =
              (conversation.withState state).sendAnswer index answer := by
            simp only [enqueue, put, state]
          rw [shape]
          exact ⟨touched.turn, touched.placed, touched.answered⟩

theorem kept_receive {conversation : Conversation} (kept : Kept conversation) (clock : Clock)
    {index : Nat} {connection : Connection} {message : ClientMessage}
    (found : conversation.connections[index]? = some connection)
    (receiving : connection.receiving = true)
    (met : conversation.TurnsClosed (clock, .receive index message)) :
    Kept (conversation.receive clock index connection message) := by
  have kept' : ∀ connection', Kept (conversation.setConnection index connection') :=
    fun _ => ⟨kept.turn, kept.placed, kept.answered⟩
  obtain ⟨voiceActive, receiving'⟩ := connection
  subst receiving
  unfold receive
  cases handled : handle voiceActive message with
  | mk voiceActive' handling =>
      cases handling with
      | ignored => exact kept' _
      | answer answer => exact ⟨kept.turn, kept.placed, kept.answered⟩
      | raised => exact ⟨kept.turn, kept.placed, kept.answered⟩
      | enqueue frame touches onFull =>
          refine kept_enqueue (kept' _) clock index touches onFull fun text isText inactive => ?_
          subst isText inactive
          refine met ?_
          simp only [outsideText, found, handled, Option.isSome_some]

theorem kept_step {conversation next : Conversation} {event : Clock × ConversationEvent}
    (kept : Kept conversation) (met : conversation.TurnsClosed event)
    (run : conversation.step event = some next) : Kept next := by
  obtain ⟨clock, event⟩ := event
  cases event with
  | connect =>
      cases run
      exact kept_edges kept rfl rfl (.of_eq rfl rfl) rfl rfl fun _ member => Or.inl member
  | receive index message =>
      obtain ⟨connection, found, receiving, rfl⟩ := step_receive run
      exact kept_receive kept clock found receiving met
  | ended index =>
      obtain ⟨connection, _, rfl⟩ := step_ended run
      exact ⟨kept.turn, kept.placed, kept.answered⟩
  | stop =>
      simp only [step, Option.map_eq_some_iff] at run
      obtain ⟨session, put, rfl⟩ := run
      cases put
      exact kept_edges kept rfl rfl (rests_putInbox _ _) rfl rfl fun _ member => Or.inl member
  | runner event =>
      cases event with
      | putInbox frame => cases run
      | touch => cases run
      | _ =>
          simp only [step, Option.map_eq_some_iff] at run
          obtain ⟨session, stepped, rfl⟩ := run
          exact kept_follow kept met stepped

/-! ## Runs -/

/-- When every voice turn on the inbox is closed before a text comes in outside of one, every
such text that the runner takes is sent, or refused with an error frame. -/
theorem textsAnswered_of_turnsClosed (clock : Clock) (sessionId apiKeyId : String)
    (project : ProjectConfig) (sessionRepo : Bool) (events : List (Clock × ConversationEvent))
    (closed : Along step TurnsClosed
      (opened (spawn clock sessionId apiKeyId project sessionRepo)) events) :
    Always step TextsAnswered (opened (spawn clock sessionId apiKeyId project sessionRepo))
      events := by
  have always : Always step Kept (opened (spawn clock sessionId apiKeyId project sessionRepo))
      events := by
    refine always_of_along Kept ?_ (kept_opened clock sessionId apiKeyId project sessionRepo)
      closed
    intro conversation event next kept met run
    exact kept_step kept met run
  exact always.mono fun _ kept => kept.answered

def typed (msgType : String) : ClientMessage :=
  { text := some (.value (.object [("type", .string msgType)])) }

def textInput (text : String) : ClientMessage :=
  { text := some (.value (.object [("type", .string "text_input"), ("text", .string text)])) }

def atOnce (events : List ConversationEvent) : List (Clock × ConversationEvent) :=
  events.map fun event => (⟨0, 0⟩, event)

def sampleProject : ProjectConfig :=
  { projectId := "p", name := "Demo", systemPrompt := "Be brief." }

def voiceStarted : List ConversationEvent :=
  [.connect, .runner (.start none), .runner .connected, .receive 0 (typed "voice_start"),
    .runner .frame, .runner .sent]

/-- The client ends the turn, Gemini completes it, and the client sends a text. -/
theorem textsAnswered_afterTurn :
    Always step TextsAnswered (opened (spawn ⟨0, 0⟩ "s" "key" sampleProject true))
      (atOnce (voiceStarted ++ [.receive 0 (typed "voice_end"), .runner .frame, .runner .sent,
        .runner (.receive (.response { serverContent := some { turnComplete := true } })),
        .runner .receiverDone, .receive 0 (textInput "hello"), .runner .frame, .runner .sent])) := by
  apply textsAnswered_of_turnsClosed
  decide

def NeverFull (conversation : Conversation) (_ : Clock × ConversationEvent) : Prop :=
  conversation.session.state.inbox.qsize < INBOX_MAX_SIZE

instance (conversation : Conversation) (event : Clock × ConversationEvent) :
    Decidable (conversation.NeverFull event) :=
  inferInstanceAs (Decidable (conversation.session.state.inbox.qsize < INBOX_MAX_SIZE))

/-- The client interrupts the turn and sends a text, which the runner drops. -/
theorem textsAnswered_fails :
    ¬ ∀ (clock : Clock) (sessionId apiKeyId : String) (project : ProjectConfig)
      (sessionRepo : Bool) (events : List (Clock × ConversationEvent)),
      Along step NeverFull (opened (spawn clock sessionId apiKeyId project sessionRepo)) events →
      Always step TextsAnswered (opened (spawn clock sessionId apiKeyId project sessionRepo))
        events := by
  intro always
  let events := atOnce (voiceStarted ++ [.receive 0 (typed "interrupt"),
    .receive 0 (textInput "hello"), .runner .frame])
  have dropped : (exec step (opened (spawn ⟨0, 0⟩ "s" "key" sampleProject true)) events).map
      (fun last => (last.session.await.lives, last.outside, last.sent, last.refused,
        sendsText last.session, last.session.state.inbox.taken)) =
      some (true, [(1, "hello")], [], [], none, 2) := by rfl
  obtain ⟨last, run, look⟩ := Option.map_eq_some_iff.mp dropped
  obtain ⟨lives, outside, sent, refused, sending, taken⟩ := by simpa only [Prod.mk.injEq] using look
  have answered := (always ⟨0, 0⟩ "s" "key" sampleProject true events (by decide)).last run lives
    (1, "hello") (by rw [outside]; exact List.mem_cons_self) (by rw [taken]; decide)
  rw [sent, refused, sending] at answered
  simp at answered

end Conversation

end LiveChat.Api.ReceiveLoop
