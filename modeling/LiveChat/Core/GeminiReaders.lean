import LiveChat.Foundation.TransitionSystem
import LiveChat.Core.RunnerTurns

/-!
# Readers of one Gemini session

A text turn awaits `_consume_gemini_responses` itself, a voice turn runs it as a task, and the
runner keeps only the latest task in `_recv_task`.  `Readers` keeps all of them, so that a task
that the runner forgot while it still ran would be counted.
-/

set_option autoImplicit false

namespace LiveChat.Core.GeminiRunner

open LiveChat.Foundation
open LiveChat.Foundation.TransitionSystem
open LiveChat.Core.GeminiRunner.Session

structure Readers where
  session : Session
  /-- Every receive task that was created, oldest first. -/
  tasks : List Receiver := []

namespace Readers

/-- `activity_start` was sent: `create_task` follows. -/
def createsTask (session : Session) : RunnerEvent → Bool
  | .sent =>
      match session.await with
      | .sendingActivityStart => true
      | _ => false
  | _ => false

/-- A new task comes last; what happens to `_recv_task` happens to the latest one. -/
def follow (readers : Readers) (event : RunnerEvent) (next : Session) : Readers :=
  { session := next
    tasks :=
      if createsTask readers.session event then readers.tasks ++ next.receiver.toList
      else
        match next.receiver with
        | some task => readers.tasks.dropLast ++ [task]
        | none => readers.tasks }

def step (readers : Readers) (event : Clock × RunnerEvent) : Option Readers :=
  (readers.session.step event).map (readers.follow event.2)

def awaitsTurn (readers : Readers) : Bool :=
  match readers.session.await with
  | .consuming _ => true
  | _ => false

/-- How many calls of `_consume_gemini_responses` have not ended yet. -/
def running (readers : Readers) : Nat :=
  readers.tasks.countP (fun task => !task.isDone) + if readers.awaitsTurn then 1 else 0

/-! ## Tasks and `_recv_task` -/

/-- All tasks but the one in `_recv_task` are done. -/
def Tracked (readers : Readers) : Prop :=
  ∃ earlier, readers.tasks = earlier ++ readers.session.receiver.toList ∧
    ∀ task ∈ earlier, task.isDone = true

/-- When `_recv_task` is done, or None, every task is. -/
theorem Tracked.all_done {readers : Readers} (tracked : readers.Tracked)
    (idle : readers.session.receiverBusy = false) : ∀ task ∈ readers.tasks, task.isDone = true := by
  obtain ⟨earlier, listed, done⟩ := tracked
  intro task member
  rw [listed] at member
  rcases List.mem_append.mp member with old | latest
  · exact done task old
  · have held : readers.session.receiver = some task := Option.mem_toList.mp latest
    simpa only [receiverBusy, held, Bool.not_eq_false'] using idle

section Follow
variable {readers : Readers} {event : RunnerEvent} {next : Session}

theorem tracked_created (tracked : readers.Tracked) (idle : readers.session.receiverBusy = false)
    (creates : createsTask readers.session event = true) : (readers.follow event next).Tracked :=
  ⟨readers.tasks, by simp only [follow, creates, if_true], tracked.all_done idle⟩

theorem tracked_moved (tracked : readers.Tracked)
    (none : createsTask readers.session event = false) (change : Receiver → Receiver)
    (receiver : next.receiver = readers.session.receiver.map change) :
    (readers.follow event next).Tracked := by
  obtain ⟨earlier, listed, done⟩ := tracked
  refine ⟨earlier, ?_, done⟩
  cases held : readers.session.receiver with
  | none => simp [follow, none, receiver, held, listed]
  | some task =>
      simp only [follow, none, receiver, held, listed, Option.map_some, Option.toList_some,
        List.dropLast_concat, Bool.false_eq_true, if_false]

theorem tracked_released (tracked : readers.Tracked)
    (none : createsTask readers.session event = false)
    (idle : readers.session.receiverBusy = false) (receiver : next.receiver = Option.none) :
    (readers.follow event next).Tracked :=
  ⟨readers.tasks, by simp [follow, none, receiver], tracked.all_done idle⟩

end Follow

theorem readsNext_of_creates {session : Session} {event : RunnerEvent}
    (creates : createsTask session event = true) : session.readsNext = true := by
  cases event with
  | sent =>
      simp only [createsTask] at creates
      split at creates
      · rename_i here
        simp only [readsNext, here]
      · cases creates
  | _ => cases creates

theorem tracked_step {readers next : Readers} {event : Clock × RunnerEvent}
    (tracked : readers.Tracked) (one : readers.session.OneReader)
    (run : readers.step event = some next) : next.Tracked := by
  obtain ⟨clock, event⟩ := event
  obtain ⟨session, stepped, rfl⟩ := Option.map_eq_some_iff.mp run
  cases creates : createsTask readers.session event with
  | true => exact tracked_created tracked (one (readsNext_of_creates creates)) creates
  | false =>
      have same : session.receiver = readers.session.receiver →
          (readers.follow event session).Tracked := by
        intro receiver
        exact tracked_moved tracked creates id (receiver.trans Option.map_id'.symm)
      cases shift_step stepped with
      | took clock here got =>
          rcases handleFrame_receiver (readers.session.hear clock _) _ with receiver | receiver
          · exact same receiver
          · exact tracked_moved tracked creates Receiver.cancel receiver
      | spawned here await receiver rests => simp [createsTask, here] at creates
      | joined apart here idle await receiver rests =>
          exact tracked_released tracked creates idle receiver
      | voiceTurned here returned await receiver rests =>
          refine tracked_released tracked creates ?_ receiver
          simp only [receiverBusy, returned, Receiver.isDone, Bool.not_true]
      | read here resumed => exact same rfl
      | @textTurned event consumer state alive here resumed =>
          cases alive <;> exact same rfl
      | @received event consumer consumer' state running resumed =>
          exact tracked_moved tracked creates (fun _ => .running consumer') (by rw [running]; rfl)
      | @returned event consumer state alive running resumed =>
          exact tracked_moved tracked creates (fun _ => .returned alive) (by rw [running]; rfl)
      | receiverCancelled cancelling =>
          exact tracked_moved tracked creates (fun _ => .cancelled) (by rw [cancelling]; rfl)
      | passedOn here await receiver rests =>
          exact tracked_moved tracked creates Receiver.cancel receiver
      | left apart gone receiver rests =>
          rcases receiver with receiver | receiver
          · exact same receiver
          · exact tracked_moved tracked creates Receiver.cancel receiver
      | stands apart await receiver rests => exact same receiver
      | voiceEnded apart here await receiver rests => exact same receiver
      | _ =>
          rename_i receiver _
          exact same receiver

/-! ## Runs -/

structure Apart (readers : Readers) : Prop where
  one : readers.session.OneReader
  tracked : readers.Tracked

theorem running_le_one {readers : Readers} (apart : readers.Apart) : readers.running ≤ 1 := by
  obtain ⟨earlier, listed, done⟩ := apart.tracked
  have old : earlier.countP (fun task => !task.isDone) = 0 := by
    refine List.countP_eq_zero.mpr fun task member => ?_
    simp [done task member]
  have latest : readers.session.receiver.toList.countP (fun task => !task.isDone) =
      if readers.session.receiverBusy then 1 else 0 := by
    cases held : readers.session.receiver with
    | none => simp [receiverBusy, held]
    | some task => simp [receiverBusy, held, List.countP_singleton]
  rw [running, listed, List.countP_append, old, latest, Nat.zero_add]
  cases awaits : readers.awaitsTurn with
  | false => split <;> simp
  | true =>
      have reads : readers.session.readsNext = true := by
        unfold awaitsTurn at awaits
        split at awaits
        · rename_i consumer here
          simp only [readsNext, here]
        · cases awaits
      rw [apart.one reads]
      exact Nat.le_refl 1

theorem apart_step {readers next : Readers} {event : Clock × RunnerEvent} (apart : readers.Apart)
    (run : readers.step event = some next) : next.Apart := by
  refine ⟨?_, tracked_step apart.tracked apart.one run⟩
  obtain ⟨session, stepped, rfl⟩ := Option.map_eq_some_iff.mp run
  exact oneReader_shift apart.one (shift_step stepped)

/-- At every moment at most one call of `_consume_gemini_responses` runs on the session. -/
theorem oneReader_always (clock : Clock) (sessionId apiKeyId : String) (project : ProjectConfig)
    (sessionRepo : Bool) (events : List (Clock × RunnerEvent)) :
    Always step (fun readers => readers.running ≤ 1)
      { session := spawn clock sessionId apiKeyId project sessionRepo } events := by
  refine always_iff_reached.mpr fun front back readers _ run => ?_
  refine running_le_one (exec_invariant Apart ?_ ⟨?_, [], rfl, ?_⟩ run)
  · intro readers event next apart run
    exact apart_step apart run
  · exact oneReader_spawn clock sessionId apiKeyId project sessionRepo
  · exact fun _ member => absurd member List.not_mem_nil

end Readers

end LiveChat.Core.GeminiRunner
