import Mathlib.Data.List.Induction
import LiveChat.Foundation.TransitionSystem
import LiveChat.Core.StateFrames

/-!
# Turns of the Gemini stream

All calls of `_consume_gemini_responses` read from one connection: what a call leaves unread
is the first thing that the next call sees.  An `Exchange` is a session with the server turns
that its Gemini session sends, numbered through as one stream of messages, and with the record
of who read what; the frames that a call sends are on the record of the outbox.  A call leaves messages of its turn unread when it returns at `interrupted`,
and when it is cancelled or fails; the theorem says that turns stay aligned exactly when no
call returns so, or after one that was given up in the middle of a turn.
-/

set_option autoImplicit false

namespace LiveChat.Core.GeminiRunner

open LiveChat.Foundation
open LiveChat.Foundation.TransitionSystem

/-! ## Server turns -/

def LiveServerMessage.completesTurn (message : LiveServerMessage) : Bool :=
  message.serverContent.any ServerContent.turnComplete

/-- The last message of a server turn, and no other one, says `turn_complete`. -/
def ServerTurn (turn : List LiveServerMessage) : Prop :=
  ∃ front last, turn = front ++ [last] ∧ last.completesTurn = true ∧
    ∀ message ∈ front, message.completesTurn = false

/-- How many messages the first turns have together. -/
def turnStart (turns : List (List LiveServerMessage)) (index : Nat) : Nat :=
  (turns.take index).flatten.length

/-- The places of a turn's messages in the stream. -/
def turnPlaces (turns : List (List LiveServerMessage)) (index : Nat) : List Nat :=
  List.range' (turnStart turns index) (turns[index]?.getD []).length

/-! ## Exchanges -/

structure Exchange where
  session : Session
  /-- How many messages of the stream were read. -/
  position : Nat := 0
  /-- The places read by the call in progress; there is one at a time (`oneReader_run`). -/
  read : List Nat := []
  /-- What each call that returned True has read, in order. -/
  completed : List (List Nat) := []
  /-- What calls have read that ended otherwise. -/
  lost : List Nat := []

inductive ExchangeEvent where
  /-- The call that the runner awaits gets the next message. -/
  | textReads
  /-- The receive task gets the next message. -/
  | voiceReads
  | runner (event : RunnerEvent)

namespace Exchange

def opened (session : Session) : Exchange := { session := session }

/-- The call in progress has read a message. -/
def deliver (exchange : Exchange) (message : LiveServerMessage) (next : Session) : Exchange :=
  let read := exchange.read ++ [exchange.position]
  let returned := (handleResponse exchange.session.state message).2.completes
  { session := next
    position := exchange.position + 1
    read := if returned then [] else read
    completed := if returned then exchange.completed ++ [read] else exchange.completed
    lost := exchange.lost }

/-- A new call begins when `activity_start` or a text was sent. -/
def beginsCall (session : Session) : RunnerEvent → Bool
  | .sent =>
      match session.await with
      | .sendingActivityStart | .sendingText => true
      | _ => false
  | _ => false

/-- The runner or one of its consumers moves without reading a message. -/
def follow (exchange : Exchange) (event : RunnerEvent) (next : Session) : Exchange :=
  let begins := beginsCall exchange.session event
  { exchange with
    session := next
    read := if begins then [] else exchange.read
    lost := if begins then exchange.lost ++ exchange.read else exchange.lost }

def step (turns : List (List LiveServerMessage)) (exchange : Exchange) :
    Clock × ExchangeEvent → Option Exchange
  | (clock, .textReads) =>
      match turns.flatten[exchange.position]? with
      | some message =>
          (exchange.session.step (clock, .consume (.response message))).map
            (exchange.deliver message)
      | none => none
  | (clock, .voiceReads) =>
      match turns.flatten[exchange.position]? with
      | some message =>
          (exchange.session.step (clock, .receive (.response message))).map
            (exchange.deliver message)
      | none => none
  -- messages come from the stream alone
  | (_, .runner (.consume (.response _))) | (_, .runner (.receive (.response _))) => none
  | (clock, .runner event) =>
      (exchange.session.step (clock, event)).map (exchange.follow event)

/-- Every call that returned True has read exactly the messages of its turn; there are as many
turns counted, and `turn_complete` frames offered to the outbox, as such calls. -/
structure Aligned (turns : List (List LiveServerMessage)) (exchange : Exchange) : Prop where
  places : ∀ (index : Nat) read, exchange.completed[index]? = some read →
    read = turnPlaces turns index
  turns : exchange.session.state.turns = exchange.completed.length
  frames : exchange.session.state.framesOffered.count .turnComplete = exchange.completed.length

/-- A call that returns True at this message has read `turn_complete`, and no call before it
was given up in the middle of a turn. -/
def ReadsWhole (turns : List (List LiveServerMessage)) (exchange : Exchange) :
    Clock × ExchangeEvent → Prop
  | (_, .textReads) | (_, .voiceReads) =>
      ∀ message ∈ turns.flatten[exchange.position]?, message.endsTurn = true →
        message.completesTurn = true ∧ exchange.lost = []
  | (_, .runner _) => True

instance (turns : List (List LiveServerMessage)) (exchange : Exchange) :
    (event : Clock × ExchangeEvent) → Decidable (exchange.ReadsWhole turns event)
  | (_, .textReads) | (_, .voiceReads) => inferInstanceAs (Decidable
      (∀ message ∈ turns.flatten[exchange.position]?, message.endsTurn = true →
        message.completesTurn = true ∧ exchange.lost = []))
  | (_, .runner _) => isTrue trivial

end Exchange

/-! ## Places of the stream -/

section Stream

variable {turns : List (List LiveServerMessage)}

theorem endsTurn_of_completes {message : LiveServerMessage}
    (completes : message.completesTurn = true) : message.endsTurn = true := by
  unfold LiveServerMessage.completesTurn at completes
  unfold LiveServerMessage.endsTurn
  cases found : message.serverContent with
  | none => simp [found] at completes
  | some content => simp_all

theorem flatten_split {index : Nat} {turn : List LiveServerMessage}
    (found : turns[index]? = some turn) :
    turns.flatten = (turns.take index).flatten ++ (turn ++ (turns.drop (index + 1)).flatten) := by
  obtain ⟨bound, same⟩ := List.getElem?_eq_some_iff.mp found
  conv_lhs => rw [← List.take_append_drop index turns]
  rw [List.flatten_append, List.drop_eq_getElem_cons bound, List.flatten_cons, same]

theorem turnStart_succ (turns : List (List LiveServerMessage)) (index : Nat) :
    turnStart turns (index + 1) = turnStart turns index + (turns[index]?.getD []).length := by
  rw [turnStart, turnStart, List.take_add_one, List.flatten_append, List.length_append]
  cases turns[index]? <;> simp

theorem turn_of_place {index place : Nat} {message : LiveServerMessage}
    (found : turns.flatten[place]? = some message) (after : turnStart turns index ≤ place) :
    ∃ turn, turns[index]? = some turn := by
  have inside := (List.getElem?_eq_some_iff.mp found).1
  refine Option.isSome_iff_exists.mp ?_
  by_contra missing
  have beyond : turns.length ≤ index := by simpa using missing
  rw [turnStart, List.take_of_length_le beyond] at after
  omega

theorem stream_place {index : Nat} {turn : List LiveServerMessage}
    (found : turns[index]? = some turn) {offset : Nat} (inside : offset < turn.length) :
    turns.flatten[turnStart turns index + offset]? = turn[offset]? := by
  rw [flatten_split found, turnStart, List.getElem?_append_right (Nat.le_add_right _ _),
    Nat.add_sub_cancel_left, List.getElem?_append_left inside]

/-- A turn is read to its end when its `turn_complete` is, and nothing before it was one. -/
theorem whole_of_completes (formed : ∀ turn ∈ turns, ServerTurn turn) {index length : Nat}
    {message : LiveServerMessage}
    (found : turns.flatten[turnStart turns index + length]? = some message)
    (completes : message.completesTurn = true)
    (unfinished : ∀ place ∈ List.range' (turnStart turns index) length,
      ∀ earlier ∈ turns.flatten[place]?, earlier.completesTurn = false) :
    (turns[index]?.getD []).length = length + 1 := by
  obtain ⟨turn, listed⟩ := turn_of_place found (Nat.le_add_right _ _)
  obtain ⟨front, last, rfl, ends, before⟩ := formed turn (List.mem_of_getElem? listed)
  have total : (front ++ [last]).length = front.length + 1 := by simp
  rw [listed, Option.getD_some, total]
  rcases Nat.lt_trichotomy length front.length with short | exact' | long
  · have here := (stream_place listed (by omega : length < (front ++ [last]).length)).symm.trans found
    rw [List.getElem?_append_left short] at here
    have differs := before message (List.mem_of_getElem? here)
    exact absurd (differs.symm.trans completes) (by simp)
  · omega
  · have here := stream_place listed (by omega : front.length < (front ++ [last]).length)
    rw [List.getElem?_concat_length] at here
    have listed' : turnStart turns index + front.length ∈
        List.range' (turnStart turns index) length := by
      rw [List.mem_range'_1]
      omega
    have differs := unfinished _ listed' last here
    exact absurd (differs.symm.trans ends) (by simp)

theorem completes_of_whole (formed : ∀ turn ∈ turns, ServerTurn turn) {index length : Nat}
    {message : LiveServerMessage}
    (found : turns.flatten[turnStart turns index + length]? = some message)
    (whole : (turns[index]?.getD []).length = length + 1) : message.completesTurn = true := by
  obtain ⟨turn, listed⟩ := turn_of_place found (Nat.le_add_right _ _)
  obtain ⟨front, last, rfl, ends, before⟩ := formed turn (List.mem_of_getElem? listed)
  have same : front.length = length := by
    rw [listed, Option.getD_some, List.length_append, List.length_singleton] at whole
    omega
  subst same
  have here := stream_place listed (by simp : front.length < (front ++ [last]).length)
  rw [List.getElem?_concat_length] at here
  cases Option.some.inj (here.symm.trans found)
  exact ends

theorem length_flatten_places (completed : List (List Nat))
    (places : ∀ (index : Nat) read, completed[index]? = some read →
      read = turnPlaces turns index) :
    completed.flatten.length = turnStart turns completed.length := by
  induction completed using List.reverseRecOn with
  | nil => rfl
  | append_singleton front last ih =>
      have last' : last = turnPlaces turns front.length := by
        apply places
        rw [List.getElem?_concat_length]
      have front' := ih fun index read found => places index read
        ((List.getElem?_append_left (List.getElem?_eq_some_iff.mp found).1).trans found)
      rw [List.flatten_append, List.length_append, front', List.length_append,
        List.length_singleton, turnStart_succ, last', turnPlaces]
      simp

end Stream

/-! ## What the record says -/

namespace Session

/-- So many turns are counted in a step, and so many `turn_complete` frames offered. -/
structure Completes (session next : Session) (count : Nat) : Prop where
  turns : next.state.turns = session.state.turns + count
  frames : next.state.framesOffered.count .turnComplete =
    session.state.framesOffered.count .turnComplete + count

theorem completes_step {session next : Session} {clock : Clock} {event : RunnerEvent}
    (run : session.step (clock, event) = some next) :
    session.Completes next ((session.frames event).count .turnComplete) where
  turns := by
    rcases reader_shift (shift_step run) with ⟨_, _, _, reads, resumed⟩ | ⟨apart, counters⟩
    · rw [(consumer_spec resumed).2, frames, reads]
    · rw [frames, reader_none apart]
      exact congrArg SessionState.Counters.turns counters
  frames := by
    refine countP_framesOffered (fun frame same => ?_) run
    rw [beq_iff_eq.mp same]
    rfl

theorem completes_reads {session next : Session} {clock : Clock} {message : LiveServerMessage}
    {event : RunnerEvent}
    (reads : event = .consume (.response message) ∨ event = .receive (.response message))
    (run : session.step (clock, event) = some next) :
    session.Completes next (if message.endsTurn then 1 else 0) := by
  have counted : (session.frames event).count .turnComplete =
      if message.endsTurn then 1 else 0 := by
    rcases reader_shift (shift_step run) with ⟨consumer, given, _, read, resumed⟩ | ⟨apart, _⟩
    · have same : given = .response message := by
        rcases reads with rfl | rfl
        · rcases reader_given read with same | same <;> cases same
          rfl
        · rcases reader_given read with same | same <;> cases same
          rfl
      subst same
      cases consumer with
      | receiving =>
          rw [frames, read]
          exact responseFrames_turns session.state.speaker message
      | executing call rest responses => cases resumed
      | responding responses => cases resumed
    · rcases reads with rfl | rfl <;> cases apart
  rw [← counted]
  exact completes_step run

theorem completes_rests {session next : Session} {clock : Clock} {event : RunnerEvent}
    (other : ∀ message, event ≠ .consume (.response message) ∧
      event ≠ .receive (.response message))
    (run : session.step (clock, event) = some next) : session.Completes next 0 := by
  have counted : (session.frames event).count .turnComplete = 0 := by
    unfold frames
    split
    · rename_i consumer given read
      refine frames_turns consumer _ ?_
      rintro message rfl
      rcases reader_given read with same | same
      · exact (other message).1 same
      · exact (other message).2 same
    · rfl
  rw [← counted]
  exact completes_step run

end Session

namespace Exchange

variable {turns : List (List LiveServerMessage)}

/-- What the record says in every run: all messages read so far are accounted for, and the call
in progress has read the latest of them without finding the end of a turn. -/
structure Recorded (turns : List (List LiveServerMessage)) (exchange : Exchange) : Prop where
  counted : exchange.completed.flatten.length + exchange.lost.length + exchange.read.length =
    exchange.position
  latest : exchange.read =
    List.range' (exchange.position - exchange.read.length) exchange.read.length
  unfinished : ∀ place ∈ exchange.read, ∀ message ∈ turns.flatten[place]?,
    message.completesTurn = false
  turnCount : exchange.session.state.turns = exchange.completed.length
  frameCount : exchange.session.state.framesOffered.count .turnComplete =
    exchange.completed.length

theorem recorded_opened (clock : Clock) (sessionId apiKeyId : String) (project : ProjectConfig)
    (sessionRepo : Bool) :
    Recorded turns (opened (Session.spawn clock sessionId apiKeyId project sessionRepo)) :=
  ⟨rfl, rfl, fun _ member => absurd member List.not_mem_nil, rfl, rfl⟩

/-- The steps of an exchange: one message of the stream is read, or none. -/
inductive Moved (turns : List (List LiveServerMessage)) (exchange : Exchange) :
    Clock × ExchangeEvent → Exchange → Prop where
  | delivered {clock : Clock} {event : ExchangeEvent} {message : LiveServerMessage}
      {next : Session} (reads : event = .textReads ∨ event = .voiceReads)
      (found : turns.flatten[exchange.position]? = some message)
      (shifts : ∃ event, Session.Shift exchange.session event next)
      (counted : exchange.session.Completes next (if message.endsTurn then 1 else 0)) :
      Moved turns exchange (clock, event) (exchange.deliver message next)
  | followed {clock : Clock} {event : RunnerEvent} {next : Session}
      (shift : Session.Shift exchange.session event next)
      (counted : exchange.session.Completes next 0) :
      Moved turns exchange (clock, .runner event) (exchange.follow event next)

theorem step_moved {exchange next : Exchange} {event : Clock × ExchangeEvent}
    (run : exchange.step turns event = some next) : Moved turns exchange event next := by
  obtain ⟨clock, event⟩ := event
  cases event with
  | textReads =>
      simp only [step] at run
      split at run
      · rename_i message found
        obtain ⟨session, stepped, rfl⟩ := Option.map_eq_some_iff.mp run
        exact .delivered (Or.inl rfl) found ⟨_, Session.shift_step stepped⟩
          (Session.completes_reads (Or.inl rfl) stepped)
      · cases run
  | voiceReads =>
      simp only [step] at run
      split at run
      · rename_i message found
        obtain ⟨session, stepped, rfl⟩ := Option.map_eq_some_iff.mp run
        exact .delivered (Or.inr rfl) found ⟨_, Session.shift_step stepped⟩
          (Session.completes_reads (Or.inr rfl) stepped)
      · cases run
  | runner event =>
      have followed : (∀ message, event ≠ .consume (.response message) ∧
          event ≠ .receive (.response message)) →
          (exchange.session.step (clock, event)).map (exchange.follow event) = some next →
          Moved turns exchange (clock, .runner event) next := by
        intro other run
        obtain ⟨session, stepped, rfl⟩ := Option.map_eq_some_iff.mp run
        exact .followed (Session.shift_step stepped) (Session.completes_rests other stepped)
      cases event with
      | consume event =>
          cases event with
          | response message => cases run
          | _ => exact followed (by simp) run
      | receive event =>
          cases event with
          | response message => cases run
          | _ => exact followed (by simp) run
      | _ => exact followed (by simp) run

theorem returns_iff (exchange : Exchange) (message : LiveServerMessage) :
    (handleResponse exchange.session.state message).2.completes = message.endsTurn :=
  (handleResponse_spec exchange.session.state message).2.1

/-- The call in progress has read a stretch of the stream that ends here. -/
theorem read_stretch {exchange : Exchange} (recorded : Recorded turns exchange) {start : Nat}
    (here : start + exchange.read.length = exchange.position) :
    exchange.read = List.range' start exchange.read.length := by
  have same : exchange.position - exchange.read.length = start := by omega
  have latest := recorded.latest
  rwa [same] at latest

theorem recorded_deliver {exchange : Exchange} (recorded : Recorded turns exchange)
    {message : LiveServerMessage} {next : Session}
    (found : turns.flatten[exchange.position]? = some message)
    (counted : exchange.session.Completes next (if message.endsTurn then 1 else 0)) :
    Recorded turns (exchange.deliver message next) := by
  have accounted := recorded.counted
  have frames := counted.frames.trans (congrArg (· + _) recorded.frameCount)
  have turnCount := counted.turns.trans (congrArg (· + _) recorded.turnCount)
  cases ends : message.endsTurn with
  | true =>
      rw [ends, if_pos rfl] at frames turnCount
      constructor
      · simp only [deliver, returns_iff, ends, if_true, List.flatten_append, List.flatten_cons,
          List.flatten_nil, List.append_nil, List.length_append, List.length_singleton,
          List.length_nil]
        omega
      · simp [deliver, returns_iff, ends]
      · simp [deliver, returns_iff, ends]
      · simp only [deliver, returns_iff, ends, if_true, List.length_append, List.length_singleton]
        exact turnCount
      · simp only [deliver, returns_iff, ends, if_true, List.length_append, List.length_singleton]
        exact frames
  | false =>
      rw [ends, if_neg (by simp)] at frames turnCount
      constructor
      · simp only [deliver, returns_iff, ends, List.length_append, List.length_singleton,
          Bool.false_eq_true, if_false]
        omega
      · simp only [deliver, returns_iff, ends, List.length_append, List.length_singleton,
          Bool.false_eq_true, if_false]
        have start : exchange.position - exchange.read.length + exchange.read.length =
            exchange.position := by omega
        have same : exchange.position + 1 - (exchange.read.length + 1) =
            exchange.position - exchange.read.length := by omega
        rw [same, List.range'_1_concat, ← read_stretch recorded start, start]
      · intro place member earlier found'
        simp only [deliver, returns_iff, ends, Bool.false_eq_true, if_false, List.mem_append,
          List.mem_singleton] at member
        rcases member with old | rfl
        · exact recorded.unfinished place old earlier found'
        · cases Option.some.inj (found.symm.trans found')
          refine Bool.eq_false_iff.mpr fun completes => ?_
          exact absurd (ends.symm.trans (endsTurn_of_completes completes)) (by simp)
      · simp only [deliver, returns_iff, ends, Bool.false_eq_true, if_false]
        exact turnCount
      · simp only [deliver, returns_iff, ends, Bool.false_eq_true, if_false]
        exact frames

theorem recorded_follow {exchange : Exchange} (recorded : Recorded turns exchange)
    {event : RunnerEvent} {next : Session}
    (counted : exchange.session.Completes next 0) :
    Recorded turns (exchange.follow event next) := by
  have frames := counted.frames.trans recorded.frameCount
  have turnCount := counted.turns.trans recorded.turnCount
  have accounted := recorded.counted
  by_cases begins : beginsCall exchange.session event = true
  · refine ⟨?_, ?_, ?_, turnCount, frames⟩
    · simp only [follow, begins, if_true, List.length_append, List.length_nil]
      omega
    · simp [follow, begins]
    · simp [follow, begins]
  · refine ⟨?_, ?_, ?_, turnCount, frames⟩
    · simpa [follow, begins] using accounted
    · simpa only [follow, begins, Bool.false_eq_true, if_false] using recorded.latest
    · simpa only [follow, begins, Bool.false_eq_true, if_false] using recorded.unfinished

theorem recorded_moved {exchange next : Exchange} {event : Clock × ExchangeEvent}
    (recorded : Recorded turns exchange) (moved : Moved turns exchange event next) :
    Recorded turns next := by
  cases moved with
  | delivered reads found shifts counted => exact recorded_deliver recorded found counted
  | followed shift counted => exact recorded_follow recorded counted

theorem aligned_opened (clock : Clock) (sessionId apiKeyId : String) (project : ProjectConfig)
    (sessionRepo : Bool) :
    Aligned turns (opened (Session.spawn clock sessionId apiKeyId project sessionRepo)) := by
  refine ⟨fun index read found => ?_, rfl, rfl⟩
  cases found

theorem aligned_iff {exchange : Exchange} (recorded : Recorded turns exchange) :
    Aligned turns exchange ↔ ∀ (index : Nat) read, exchange.completed[index]? = some read →
      read = turnPlaces turns index :=
  ⟨Aligned.places, fun places => ⟨places, recorded.turnCount, recorded.frameCount⟩⟩

/-- A call that returns at a message keeps the turns aligned exactly when it has read its turn
whole and nothing was lost before. -/
theorem aligned_deliver (formed : ∀ turn ∈ turns, ServerTurn turn) {exchange : Exchange}
    (recorded : Recorded turns exchange) (aligned : Aligned turns exchange)
    {message : LiveServerMessage} {next : Session}
    (found : turns.flatten[exchange.position]? = some message)
    (after : Recorded turns (exchange.deliver message next)) :
    Aligned turns (exchange.deliver message next) ↔
      (message.endsTurn = true → message.completesTurn = true ∧ exchange.lost = []) := by
  rw [aligned_iff after]
  have accounted := recorded.counted
  have earlier := length_flatten_places exchange.completed aligned.places
  cases ends : message.endsTurn with
  | false =>
      have same : (exchange.deliver message next).completed = exchange.completed := by
        simp [deliver, returns_iff, ends]
      rw [same]
      exact ⟨fun _ impossible => absurd impossible (by simp), fun _ => aligned.places⟩
  | true =>
      have longer : (exchange.deliver message next).completed =
          exchange.completed ++ [exchange.read ++ [exchange.position]] := by
        simp [deliver, returns_iff, ends]
      rw [longer]
      -- the call that returns now is the next one
      have latest : (∀ (index : Nat) read,
          (exchange.completed ++ [exchange.read ++ [exchange.position]])[index]? = some read →
            read = turnPlaces turns index) ↔
          exchange.read ++ [exchange.position] = turnPlaces turns exchange.completed.length := by
        constructor
        · intro places
          exact places _ _ List.getElem?_concat_length
        · intro whole index read listed
          rcases Nat.lt_trichotomy index exchange.completed.length with old | rfl | beyond
          · rw [List.getElem?_append_left old] at listed
            exact aligned.places index read listed
          · rw [List.getElem?_concat_length] at listed
            exact (Option.some.inj listed).symm.trans whole
          · rw [List.getElem?_eq_none (by simp; omega)] at listed
            cases listed
      rw [latest]
      constructor
      · intro whole _
        have length := congrArg List.length whole
        simp only [turnPlaces, List.length_append, List.length_singleton,
          List.length_range'] at length
        have last : turnStart turns exchange.completed.length + exchange.read.length =
            exchange.position := by
          have member : exchange.position ∈ turnPlaces turns exchange.completed.length := by
            rw [← whole]
            simp
          have bounds := List.mem_range'_1.mp member
          omega
        refine ⟨completes_of_whole formed (last ▸ found) length.symm, ?_⟩
        apply List.length_eq_zero_iff.mp
        omega
      · intro condition
        obtain ⟨completes, nothing⟩ := condition rfl
        rw [nothing, List.length_nil] at accounted
        have here : turnStart turns exchange.completed.length + exchange.read.length =
            exchange.position := by omega
        have stretch := read_stretch recorded here
        have length := whole_of_completes formed (here ▸ found) completes
          (stretch ▸ recorded.unfinished)
        rw [turnPlaces, length, List.range'_1_concat, ← stretch, here]

/-- The turns stay aligned exactly while every call that returns True has read its turn to the
end, and none was given up in the middle of one before. -/
theorem aligned_iff_readsWhole (turns : List (List LiveServerMessage))
    (formed : ∀ turn ∈ turns, ServerTurn turn) (clock : Clock) (sessionId apiKeyId : String)
    (project : ProjectConfig) (sessionRepo : Bool) (events : List (Clock × ExchangeEvent)) :
    Always (step turns) (Aligned turns)
        (opened (Session.spawn clock sessionId apiKeyId project sessionRepo)) events ↔
      Along (step turns) (ReadsWhole turns)
        (opened (Session.spawn clock sessionId apiKeyId project sessionRepo)) events := by
  refine always_iff_along (Recorded turns) ?_ ?_
    (recorded_opened clock sessionId apiKeyId project sessionRepo)
    (aligned_opened clock sessionId apiKeyId project sessionRepo)
  · intro exchange event next recorded aligned run
    have moved := step_moved run
    have after := recorded_moved recorded moved
    cases moved with
    | delivered reads found shifts counted =>
        rw [aligned_deliver formed recorded aligned found after]
        rcases reads with rfl | rfl
        · simp only [ReadsWhole, found, Option.mem_some_iff, forall_eq']
        · simp only [ReadsWhole, found, Option.mem_some_iff, forall_eq']
    | followed shift counted =>
        exact iff_of_true ((aligned_iff after).mpr aligned.places) trivial
  · intro exchange event next recorded _ _ run
    exact recorded_moved recorded (step_moved run)

theorem oneReader_run (turns : List (List LiveServerMessage)) (clock : Clock)
    (sessionId apiKeyId : String) (project : ProjectConfig) (sessionRepo : Bool)
    (events : List (Clock × ExchangeEvent)) :
    Always (step turns) (fun exchange => exchange.session.OneReader)
      (opened (Session.spawn clock sessionId apiKeyId project sessionRepo)) events := by
  refine always_iff_reached.mpr fun front back exchange _ run => ?_
  refine exec_invariant (fun exchange : Exchange => exchange.session.OneReader) ?_
    (Session.oneReader_spawn clock sessionId apiKeyId project sessionRepo) run
  intro exchange event next one run
  cases step_moved run with
  | delivered reads found shifts counted =>
      obtain ⟨event, shift⟩ := shifts
      exact Session.oneReader_shift one shift
  | followed shift counted => exact Session.oneReader_shift one shift

/-! ## Two runs -/

/-- A message that completes its turn, one that interrupts it, and one with a transcript. -/
def completing : LiveServerMessage := { serverContent := some { turnComplete := true } }

def interrupting : LiveServerMessage := { serverContent := some { interrupted := true } }

def speaking : LiveServerMessage :=
  { serverContent := some { outputTranscription := some "hello" } }

def atOnce (events : List ExchangeEvent) : List (Clock × ExchangeEvent) :=
  events.map fun event => (⟨0, 0⟩, event)

def demoProject : ProjectConfig :=
  { projectId := "p", name := "Demo", systemPrompt := "Be brief." }

/-- The runner connects, takes a text and sends it. -/
def textTurn : List ExchangeEvent :=
  [.runner (.start none), .runner .connected, .runner (.putInbox (.text "hi")), .runner .frame,
    .runner .sent]

/-- A text turn and a voice turn without an interruption. -/
theorem aligned_twoTurns :
    Always (step [[speaking, completing], [completing]])
      (Aligned [[speaking, completing], [completing]])
      (opened (Session.spawn ⟨0, 0⟩ "s" "key" demoProject true))
      (atOnce (textTurn ++ [.textReads, .textReads, .runner (.putInbox .activityStart),
        .runner .frame, .runner .sent, .voiceReads])) := by
  refine (aligned_iff_readsWhole _ ?_ ⟨0, 0⟩ "s" "key" demoProject true _).mpr (by decide)
  intro turn member
  rcases List.mem_cons.mp member with rfl | rest
  · exact ⟨[speaking], completing, rfl, rfl, by decide⟩
  · obtain rfl := List.mem_singleton.mp rest
    exact ⟨[], completing, rfl, rfl, by decide⟩

/-- Gemini interrupts the first turn: the call returns with its `turn_complete` unread. -/
theorem aligned_fails :
    ¬ ∀ (turns : List (List LiveServerMessage)), (∀ turn ∈ turns, ServerTurn turn) →
      ∀ (clock : Clock) (sessionId apiKeyId : String) (project : ProjectConfig)
        (sessionRepo : Bool) (events : List (Clock × ExchangeEvent)),
        Always (step turns) (Aligned turns)
          (opened (Session.spawn clock sessionId apiKeyId project sessionRepo)) events := by
  intro always
  let turns := [[interrupting, completing]]
  have formed : ∀ turn ∈ turns, ServerTurn turn := by
    intro turn member
    obtain rfl := List.mem_singleton.mp member
    exact ⟨[interrupting], completing, rfl, rfl, by decide⟩
  let events := atOnce (textTurn ++ [.textReads])
  have short : (exec (step turns) (opened (Session.spawn ⟨0, 0⟩ "s" "key" demoProject true))
      events).map completed = some [[0]] := by decide
  obtain ⟨last, run, look⟩ := Option.map_eq_some_iff.mp short
  have aligned := (always turns formed ⟨0, 0⟩ "s" "key" demoProject true events).last run
  have places := aligned.places 0 [0] (by rw [look]; rfl)
  exact absurd places (by decide)

end Exchange

end LiveChat.Core.GeminiRunner
