import LiveChat.Api.LoopSurvival

/-!
# Voice turns as the inbox sees them

`voice_active` is set and cleared whether or not the `ACTIVITY` frame of the message found room
on the inbox, and `interrupt` clears it without a frame.  The theorem says when the flag of every
connection agrees with the frames that the connection has put on the inbox, so that each of its
audio chunks lies in a voice turn that it opened there.
-/

set_option autoImplicit false

namespace LiveChat.Api.ReceiveLoop

open LiveChat.Core
open LiveChat.Core.GeminiRunner
open LiveChat.Core.GeminiRunner.Session
open LiveChat.Foundation
open LiveChat.Foundation.TransitionSystem

/-! ## What a message does to the flag -/

def ClientMessage.msgType (message : ClientMessage) : Json :=
  match message.bytes, message.text with
  | some (_ :: _), _ => .null
  | _, some (.value (.object members)) => (members.lookup "type").getD .null
  | _, _ => .null

/-- No `ACTIVITY` frame, and audio only while the flag is True. -/
def Handling.Plain (voiceActive : Bool) : Handling → Prop
  | .enqueue .activityStart _ _ | .enqueue .activityEnd _ _ => False
  | .enqueue (.audioChunk _) _ _ => voiceActive = true
  | _ => True

/-- What a message does, by its type and the flag. -/
inductive Moves (voiceActive : Bool) (msgType : Json) : Bool × Handling → Prop where
  | plain {handling : Handling} (keeps : handling.Plain voiceActive)
      (notStart : msgType ≠ .string "voice_start")
      (notEnd : voiceActive = true → msgType ≠ .string "voice_end")
      (notInterrupt : msgType ≠ .string "interrupt") :
      Moves voiceActive msgType (voiceActive, handling)
  | starts (isStart : msgType = .string "voice_start") :
      Moves voiceActive msgType (true, .enqueue .activityStart true (some busy))
  | ends (active : voiceActive = true) (isEnd : msgType = .string "voice_end") :
      Moves voiceActive msgType (false, .enqueue .activityEnd true (some busy))
  | interrupts (isInterrupt : msgType = .string "interrupt") :
      Moves voiceActive msgType (false, .ignored)

theorem moves_handleObject (voiceActive : Bool) (members : Json.Object) :
    Moves voiceActive ((members.lookup "type").getD .null) (handleObject voiceActive members) := by
  unfold handleObject
  split
  · rename_i isText
    rw [isText]
    refine .plain ?_ (by simp) (by simp) (by simp)
    unfold handleTextInput
    split
    · trivial
    · split <;> trivial
  · rename_i isStart
    exact .starts isStart
  · rename_i isEnd
    cases active : voiceActive with
    | true => exact .ends rfl isEnd
    | false => exact .plain trivial (by simp [isEnd]) (by simp) (by simp [isEnd])
  · rename_i isSpeaker
    exact .plain trivial (by simp [isSpeaker]) (by simp [isSpeaker]) (by simp [isSpeaker])
  · rename_i isInterrupt
    exact .interrupts isInterrupt
  · rename_i isPing
    exact .plain trivial (by simp [isPing]) (by simp [isPing]) (by simp [isPing])
  · rename_i notStart notEnd _ notInterrupt _
    exact .plain trivial notStart (fun _ => notEnd) notInterrupt

theorem moves_handle (voiceActive : Bool) (message : ClientMessage) :
    Moves voiceActive message.msgType (handle voiceActive message) := by
  obtain ⟨bytes, text⟩ := message
  have ofText : ∀ bytes, bytes = none ∨ bytes = some [] →
      Moves voiceActive (ClientMessage.msgType { bytes := bytes, text := text })
        (handle voiceActive { bytes := bytes, text := text }) := by
    rintro bytes (rfl | rfl) <;> rcases text with _ | ⟨_ | _ | _ | _ | _ | members⟩ | _ | _
    all_goals first
      | exact moves_handleObject voiceActive members
      | exact .plain trivial nofun nofun nofun
  rcases bytes with _ | _ | ⟨byte, rest⟩
  · exact ofText none (Or.inl rfl)
  · exact ofText (some []) (Or.inr rfl)
  · cases active : voiceActive with
    | true => exact .plain rfl nofun nofun nofun
    | false => exact .plain trivial nofun nofun nofun

/-! ## Frames on the inbox -/

def InTurns (frames : List InputFrame) : Prop :=
  ∀ front payload back, frames = front ++ .audioChunk payload :: back → voiceOpen front = true

theorem inTurns_append {frames : List InputFrame} {frame : InputFrame} (turns : InTurns frames)
    (inside : ∀ payload, frame = .audioChunk payload → voiceOpen frames = true) :
    InTurns (frames ++ [frame]) := by
  intro front payload back split
  rcases List.eq_nil_or_concat back with rfl | ⟨back, last, rfl⟩
  · obtain ⟨rfl, same⟩ := List.append_inj' split rfl
    exact inside payload (List.singleton_inj.mp same)
  · have grouped : frames ++ [frame] = (front ++ .audioChunk payload :: back) ++ [last] := by
      simpa using split
    exact turns front payload back (List.append_inj' grouped rfl).1

def putBy (room : Bool) : Handling → List InputFrame
  | .enqueue frame _ _ => if room then [frame] else []
  | _ => []

/-- A conversation with the frames that each connection put on the inbox. -/
structure Framing where
  conversation : Conversation
  puts : List (Nat × InputFrame) := []

namespace Framing

def room (framing : Framing) : Bool :=
  decide (framing.conversation.session.state.inbox.qsize < INBOX_MAX_SIZE)

def own (framing : Framing) (index : Nat) : List InputFrame :=
  (framing.puts.filter fun put => put.1 == index).map Prod.snd

/-- What the inbox accepted since, in the name of the connection. -/
def putsOf (framing : Framing) (next : Conversation) : ConversationEvent → List (Nat × InputFrame)
  | .receive index _ =>
      (next.session.state.inbox.accepted.drop
        framing.conversation.session.state.inbox.accepted.length).map fun frame => (index, frame)
  | _ => []

def step (framing : Framing) (event : Clock × ConversationEvent) : Option Framing :=
  (framing.conversation.step event).map fun next =>
    { conversation := next, puts := framing.puts ++ framing.putsOf next event.2 }

/-- The flag of each connection is True exactly when the last `ACTIVITY` frame that it put on
the inbox starts a voice turn, and its audio chunks lie in voice turns. -/
def Framed (framing : Framing) : Prop :=
  ∀ index connection, framing.conversation.connections[index]? = some connection →
    connection.voiceActive = voiceOpen (framing.own index) ∧ InTurns (framing.own index)

/-- A message that changes the flag puts its frame; `interrupt` has none. -/
def Frames (framing : Framing) : Clock × ConversationEvent → Prop
  | (_, .receive index message) =>
      ∀ connection, framing.conversation.connections[index]? = some connection →
        (connection.voiceActive = false → message.msgType = .string "voice_start" →
          framing.room = true) ∧
        (connection.voiceActive = true → message.msgType = .string "voice_end" →
          framing.room = true) ∧
        (connection.voiceActive = true → message.msgType ≠ .string "interrupt")
  | _ => True

def Owned (framing : Framing) : Prop :=
  ∀ put ∈ framing.puts, put.1 < framing.conversation.connections.length

theorem own_fresh {framing : Framing} (owned : framing.Owned) :
    framing.own framing.conversation.connections.length = [] := by
  refine List.map_eq_nil_iff.mpr (List.filter_eq_nil_iff.mpr fun put member => ?_)
  simpa using Nat.ne_of_lt (owned put member)

theorem accepted_receive (framing : Framing) (clock : Clock) (index : Nat)
    (connection : Connection) (message : ClientMessage) :
    (framing.conversation.receive clock index connection
        message).session.state.inbox.accepted =
      framing.conversation.session.state.inbox.accepted ++
        putBy framing.room (handle connection.voiceActive message).2 := by
  unfold Conversation.receive
  cases handle connection.voiceActive message with
  | mk voiceActive handling =>
      cases handling with
      | ignored => exact (List.append_nil _).symm
      | answer answer => exact (List.append_nil _).symm
      | raised => exact (List.append_nil _).symm
      | enqueue frame touches onFull =>
          simp only [putBy, room, decide_eq_true_eq]
          rw [(Conversation.enqueue_spec _ _ _ _ _ _ _).2.1]
          rcases BoundedQueue.offer_spec framing.conversation.session.state.inbox frame with
            ⟨free, accepted, _⟩ | ⟨full, same⟩
          · rw [if_pos free]
            exact accepted
          · rw [if_neg (by rw [full]; exact Nat.lt_irrefl _), List.append_nil]
            have dropped := congrArg BoundedQueue.accepted same
            rw [BoundedQueue.drop_accepted] at dropped
            exact dropped

theorem putsOf_receive (framing : Framing) (clock : Clock) (index : Nat)
    (connection : Connection) (message : ClientMessage) :
    framing.putsOf (framing.conversation.receive clock index connection message)
        (.receive index message) =
      (putBy framing.room (handle connection.voiceActive message).2).map
        fun frame => (index, frame) := by
  simp only [putsOf, accepted_receive, List.drop_left]

theorem own_append (conversation next : Conversation) (puts : List (Nat × InputFrame))
    (index other : Nat) (frames : List InputFrame) :
    own ⟨next, puts ++ frames.map fun frame => (index, frame)⟩ other =
      own ⟨conversation, puts⟩ other ++ if other = index then frames else [] := by
  simp only [own, List.filter_append, List.map_append]
  refine congrArg (_ ++ ·) ?_
  rw [List.filter_map, List.map_map]
  by_cases same : other = index
  · subst same
    rw [if_pos rfl, List.filter_eq_self.mpr (by simp), Function.comp_def, List.map_id']
  · rw [if_neg same, List.filter_eq_nil_iff.mpr (by simpa using fun _ _ => Ne.symm same),
      List.map_nil]

theorem framed_own {frames : List InputFrame} {voiceActive : Bool} (room : Bool) {msgType : Json}
    (agrees : voiceActive = voiceOpen frames) (turns : InTurns frames)
    {after : Bool × Handling} (moves : Moves voiceActive msgType after) :
    (after.1 = voiceOpen (frames ++ putBy room after.2) ∧
        InTurns (frames ++ putBy room after.2)) ↔
      (voiceActive = false → msgType = .string "voice_start" → room = true) ∧
        (voiceActive = true → msgType = .string "voice_end" → room = true) ∧
        (voiceActive = true → msgType ≠ .string "interrupt") := by
  have stands : voiceActive = voiceOpen (frames ++ []) ∧ InTurns (frames ++ []) := by
    rw [List.append_nil]
    exact ⟨agrees, turns⟩
  cases moves with
  | @plain handling keeps notStart notEnd notInterrupt =>
      refine iff_of_true ?_ ⟨fun _ same => absurd same notStart, fun active same =>
        absurd same (notEnd active), fun _ => notInterrupt⟩
      cases handling with
      | enqueue frame touches onFull =>
          cases room with
          | false => exact stands
          | true =>
              simp only [putBy, if_pos, voiceOpen_append]
              cases frame with
              | activityStart => cases keeps
              | activityEnd => cases keeps
              | audioChunk payload =>
                  exact ⟨agrees, inTurns_append turns fun _ _ => agrees.symm.trans keeps⟩
              | _ => exact ⟨agrees, inTurns_append turns nofun⟩
      | _ => exact stands
  | starts isStart =>
      cases room with
      | true =>
          simp only [putBy, if_pos, voiceOpen_append, implies_true, true_and]
          exact iff_of_true (inTurns_append turns nofun) fun _ => by simp [isStart]
      | false =>
          -- the flag is True now, and the frame was dropped
          simp only [putBy, Bool.false_eq_true, if_false, ← stands.1]
          cases voiceActive <;> simp [isStart, turns]
  | ends active isEnd =>
      subst active
      cases room with
      | true =>
          simp only [putBy, if_pos, voiceOpen_append, true_and]
          exact iff_of_true (inTurns_append turns nofun) (by simp [isEnd])
      | false =>
          simp only [putBy, Bool.false_eq_true, if_false, ← stands.1]
          simp [isEnd]
  | interrupts isInterrupt =>
      simp only [putBy, ← stands.1]
      cases voiceActive <;> simp [isInterrupt, turns]

/-! ## Steps -/

theorem putsOf_other (framing : Framing) (next : Conversation) (event : ConversationEvent)
    (other : ∀ index message, event ≠ .receive index message) : framing.putsOf next event = [] := by
  cases event with
  | receive place message => exact absurd rfl (other place message)
  | _ => rfl

theorem own_other (framing : Framing) (next : Conversation) (event : ConversationEvent)
    (other : ∀ index message, event ≠ .receive index message) (index : Nat) :
    own ⟨next, framing.puts ++ framing.putsOf next event⟩ index = framing.own index := by
  simp only [own, putsOf_other framing next event other, List.append_nil]

theorem frames_other {framing : Framing} {clock : Clock} {event : ConversationEvent}
    (other : ∀ index message, event ≠ .receive index message) : framing.Frames (clock, event) := by
  cases event with
  | receive place message => exact absurd rfl (other place message)
  | _ => trivial

theorem framed_step {framing next : Framing} {event : Clock × ConversationEvent}
    (owned : framing.Owned) (framed : framing.Framed) (run : framing.step event = some next) :
    next.Framed ↔ framing.Frames event := by
  obtain ⟨clock, event⟩ := event
  obtain ⟨conversation, stepped, rfl⟩ := Option.map_eq_some_iff.mp run
  rcases Conversation.step_cases stepped with
    ⟨index, message, connection, rfl, found, receiving, rfl⟩ | ⟨index, connection, rfl, found, rfl⟩ |
    ⟨rfl, connections⟩ | ⟨other, _, connections⟩
  · obtain ⟨still, _, connections⟩ := Conversation.receive_connections framing.conversation clock
      index receiving message
    have bound := (List.getElem?_eq_some_iff.mp found).1
    obtain ⟨agrees, turns⟩ := framed index connection found
    have moved := framed_own framing.room agrees turns (moves_handle connection.voiceActive message)
    rw [putsOf_receive]
    constructor
    · intro now after listed
      obtain rfl := Option.some.inj (found.symm.trans listed)
      refine moved.mp ?_
      have mine := now index _ (by rw [connections, List.getElem?_set_self bound])
      rwa [own_append framing.conversation, if_pos rfl] at mine
    · intro frames place after listed
      rw [own_append framing.conversation]
      simp only [connections] at listed
      by_cases own : place = index
      · subst own
        rw [List.getElem?_set_self bound] at listed
        cases listed
        rw [if_pos rfl]
        exact moved.mpr (frames connection found)
      · rw [List.getElem?_set_ne (Ne.symm own)] at listed
        rw [if_neg own, List.append_nil]
        exact framed place after listed
  · refine iff_of_true (fun place after listed => ?_) trivial
    rw [own_other _ _ (.ended index) fun _ _ => by simp]
    simp only [Conversation.setConnection] at listed
    by_cases own : place = index
    · subst own
      rw [List.getElem?_set_self (List.getElem?_eq_some_iff.mp found).1] at listed
      cases listed
      exact framed place connection found
    · rw [List.getElem?_set_ne (Ne.symm own)] at listed
      exact framed place after listed
  · refine iff_of_true (fun place after listed => ?_) trivial
    rw [own_other _ _ .connect fun _ _ => by simp]
    simp only [connections] at listed
    rcases Nat.lt_trichotomy place framing.conversation.connections.length with
      earlier | rfl | beyond
    · rw [List.getElem?_append_left earlier] at listed
      exact framed place after listed
    · rw [List.getElem?_concat_length] at listed
      cases listed
      rw [own_fresh owned]
      exact ⟨rfl, fun front payload back split => by simp at split⟩
    · rw [List.getElem?_eq_none (by simpa using Nat.succ_le_of_lt beyond)] at listed
      cases listed
  · refine iff_of_true (fun place after listed => ?_) (frames_other other)
    rw [own_other _ _ event other]
    exact framed place after (connections ▸ listed)

theorem owned_step {framing next : Framing} {event : Clock × ConversationEvent}
    (owned : framing.Owned) (run : framing.step event = some next) : next.Owned := by
  obtain ⟨clock, event⟩ := event
  obtain ⟨conversation, stepped, rfl⟩ := Option.map_eq_some_iff.mp run
  rcases Conversation.step_cases stepped with
    ⟨index, message, connection, rfl, found, receiving, rfl⟩ | ⟨index, connection, rfl, found, rfl⟩ |
    ⟨rfl, connections⟩ | ⟨other, _, connections⟩
  · obtain ⟨still, _, connections⟩ := Conversation.receive_connections framing.conversation clock
      index receiving message
    intro put member
    rw [putsOf_receive] at member
    rw [connections, List.length_set]
    rcases List.mem_append.mp member with known | new
    · exact owned put known
    · obtain ⟨frame, _, rfl⟩ := List.mem_map.mp new
      exact (List.getElem?_eq_some_iff.mp found).1
  · intro put member
    rw [putsOf_other _ _ (.ended index) (fun _ _ => by simp), List.append_nil] at member
    simpa [Conversation.setConnection] using owned put member
  · intro put member
    rw [putsOf_other _ _ .connect (fun _ _ => by simp), List.append_nil] at member
    rw [connections, List.length_append]
    exact Nat.lt_add_right _ (owned put member)
  · intro put member
    rw [putsOf_other _ _ event other, List.append_nil] at member
    rw [connections]
    exact owned put member

def opened (session : Session) : Framing := { conversation := Conversation.opened session }

/-! ## Runs -/

/-- The flag of every connection agrees with its frames after every step if and only if every
message that changed a flag put its frame. -/
theorem framed_iff_frames (session : Session) (events : List (Clock × ConversationEvent)) :
    Always step Framed (opened session) events ↔ Along step Frames (opened session) events := by
  refine always_iff_along Owned ?_ ?_ (fun put member => nomatch member)
    (fun index connection found => nomatch found)
  · intro framing event next owned framed run
    exact framed_step owned framed run
  · intro framing event next owned _ _ run
    exact owned_step owned run

/-- The client starts a voice turn, and interrupts it. -/
theorem framed_fails :
    ¬ ∀ (session : Session) (events : List (Clock × ConversationEvent)),
      Always step Framed (opened session) events := by
  intro always
  let events := Conversation.atOnce [.connect, .receive 0 (Conversation.typed "voice_start"),
    .receive 0 (Conversation.typed "interrupt")]
  have interrupted : (exec step (opened (spawn ⟨0, 0⟩ "s" "key" Conversation.sampleProject true))
      events).map (fun last => ((last.conversation.connections[0]?).map Connection.voiceActive,
        last.own 0)) = some (some false, [.activityStart]) := by rfl
  obtain ⟨last, run, look⟩ := Option.map_eq_some_iff.mp interrupted
  obtain ⟨flag, own⟩ := by simpa only [Prod.mk.injEq] using look
  obtain ⟨connection, found, inactive⟩ := Option.map_eq_some_iff.mp flag
  have agrees := ((always (spawn ⟨0, 0⟩ "s" "key" Conversation.sampleProject true)
    events).last run 0 connection found).1
  rw [inactive, own] at agrees
  cases agrees

end Framing

end LiveChat.Api.ReceiveLoop
