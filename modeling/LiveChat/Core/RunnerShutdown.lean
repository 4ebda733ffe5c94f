import LiveChat.Foundation.TransitionSystem
import LiveChat.Core.RunnerSteps

/-!
# When the runner releases its client

The forward loop of `api/chat.py` ends on the `_OUTBOX_STOP` sentinel only.  The
last two statements of `session_runner` put `session_ended` and the sentinel, but
they are not reached when the setup before the `try` raises, when the task is
cancelled before its first step or at the insert of the `finally` block; and a
full outbox drops what they put.  A run releases the client exactly when none of
this happens.
-/

set_option autoImplicit false

namespace LiveChat.Core.GeminiRunner.Session

open LiveChat.Foundation
open LiveChat.Foundation.TransitionSystem

/-- The sentinel was placed once, after every other item. -/
def Released (session : Session) : Prop :=
  ∃ front, session.state.outbox.accepted = front ++ [.stop] ∧ OutboxItem.stop ∉ front

/-- The number of items that the step puts on the outbox when it ends the runner
in its last statement: those of the handlers, `session_ended` and the sentinel. -/
def lastItems (session : Session) (event : RunnerEvent) : Nat :=
  match event, session.await with
  | .insertReturned, .recording _ _ | .insertFailed, .recording _ _ => 2
  | event, _ =>
      if session.leavesTry event && !session.sessionRepo then
        (session.handlerItems event).length + 2
      else 0

/-- The step does not end the runner before its last statement, and the outbox has
room for all that the last step puts there. -/
def ReachesEnd (session : Session) (event : Clock × RunnerEvent) : Prop :=
  match event.2, session.await with
  | .start (some _), .created | .cancelled, .created | .cancelled, .recording _ _ => False
  | event, _ => session.state.outbox.qsize + session.lastItems event ≤ OUTBOX_MAX_SIZE

theorem reachesEnd_inTry {session : Session} {event : RunnerEvent} (clock : Clock)
    (inside : session.await.inTry = true) :
    session.ReachesEnd (clock, event) ↔
      session.state.outbox.qsize +
        (if session.leavesTry event && !session.sessionRepo then
          (session.handlerItems event).length + 2 else 0) ≤ OUTBOX_MAX_SIZE := by
  have items : session.lastItems event =
      if session.leavesTry event && !session.sessionRepo then
        (session.handlerItems event).length + 2 else 0 := by
    simp only [lastItems]
    split
    · rename_i here
      simp [here, Await.inTry] at inside
    · rename_i here
      simp [here, Await.inTry] at inside
    · rfl
  rw [← items]
  simp only [ReachesEnd]
  split
  · rename_i here
    simp [here, Await.inTry] at inside
  · rename_i here
    simp [here, Await.inTry] at inside
  · rename_i here
    simp [here, Await.inTry] at inside
  · rfl

theorem reachesEnd_of_stays {session : Session} {event : RunnerEvent} (clock : Clock)
    (inside : session.await.inTry = true)
    (ends : session.leavesTry event = false ∨ session.sessionRepo = true) :
    session.ReachesEnd (clock, event) := by
  have bound := session.state.outbox.qsize_le
  rw [reachesEnd_inTry clock inside]
  rcases ends with stays | wired
  · simpa [stays] using bound
  · simpa [wired] using bound

theorem reachesEnd_around {session : Session} {event : RunnerEvent} (clock : Clock)
    (surrounds : event.surroundsRunner = true) : session.ReachesEnd (clock, event) := by
  have bound := session.state.outbox.qsize_le
  cases event <;>
    simp_all [RunnerEvent.surroundsRunner, ReachesEnd, lastItems, leavesTry]

theorem not_released {session : Session}
    (absent : OutboxItem.stop ∉ session.state.outbox.accepted) : ¬ session.Released := by
  rintro ⟨front, shape, _⟩
  exact absent (shape ▸ List.mem_append_right front List.mem_cons_self)

theorem shutdown_released_iff {session : Session} {items : List OutboxItem} (last : Session)
    (absent : OutboxItem.stop ∉ session.state.outbox.accepted)
    (frames : OutboxItem.stop ∉ items)
    (outbox : last.state.outbox = session.state.outbox.offerAll items) :
    last.shutdown.Released ↔
      session.state.outbox.qsize + (items.length + 2) ≤ OUTBOX_MAX_SIZE := by
  have queue : last.shutdown.state.outbox =
      (session.state.outbox.offerAll (items ++ [.frame .sessionEnded])).offer .stop := by
    simp only [BoundedQueue.offerAll, List.foldl_append, List.foldl_cons, List.foldl_nil]
    simp only [BoundedQueue.offerAll] at outbox
    rw [← outbox]
    rfl
  have apart : OutboxItem.stop ∉ items ++ [.frame .sessionEnded] := by simpa using frames
  simp only [Released, queue]
  rw [BoundedQueue.offer_last_iff absent apart, List.length_append, List.length_singleton]
  omega

theorem handlerItems_stop (session : Session) (event : RunnerEvent) :
    OutboxItem.stop ∉ session.handlerItems event := by
  simp only [handlerItems]
  split
  · simp
  · split <;> simp
  · simp

/-- Until a runner is done there is no sentinel on its outbox. -/
def Unreleased (session : Session) : Prop :=
  session.isDone = false → OutboxItem.stop ∉ session.state.outbox.accepted

theorem unreleased_step {session next : Session} {clock : Clock} {event : RunnerEvent}
    (quiet : session.Quiet) (unreleased : session.Unreleased)
    (run : session.step (clock, event) = some next) : next.Unreleased := by
  obtain ⟨progress, resumed, rfl⟩ := step_settles run
  cases resume_moved quiet resumed with
  | inside before stays after evolves =>
      exact fun _ => evolves.state.stop_absent (unreleased (isDone_of_inTry before))
  | entered here => exact fun _ => unreleased (by simp [isDone, here])
  | setupRaised exc here =>
      intro pending
      cases pending
  | neverStarted here moved =>
      intro pending
      simp [settle, moved, goto, isDone] at pending
  | left moment before leaves evolves outbox =>
      rw [settle_enterFinally]
      split
      · exact fun _ => evolves.state.stop_absent (unreleased (isDone_of_inTry before))
      · intro pending
        cases pending
  | around before surrounds await evolves stopped counters accepted =>
      intro pending
      simp only [settle] at pending ⊢
      rw [accepted]
      simp only [isDone, await] at pending
      exact unreleased pending
  | inserted doc here => exact fun _ => unreleased (by simp [isDone, here])
  | insertReturned doc here =>
      intro pending
      cases pending
  | insertFailed doc here =>
      intro pending
      cases pending
  | interrupted doc executed here moved =>
      intro pending
      simp [settle, moved, goto, isDone] at pending

/-- One step: the client of a runner that is done was released, if and only if the
step met the condition. -/
theorem released_step {session next : Session} {clock : Clock} {event : RunnerEvent}
    (quiet : session.Quiet) (unreleased : session.Unreleased)
    (held : session.isDone = true → session.Released)
    (run : session.step (clock, event) = some next) :
    (next.isDone = true → next.Released) ↔ session.ReachesEnd (clock, event) := by
  have bound := session.state.outbox.qsize_le
  obtain ⟨progress, resumed, rfl⟩ := step_settles run
  cases resume_moved quiet resumed with
  | inside before stays after evolves =>
      refine ⟨fun _ => reachesEnd_of_stays clock before (Or.inl stays), fun _ done => ?_⟩
      exact absurd (done.symm.trans (isDone_of_inTry after)) (by simp)
  | entered here =>
      refine ⟨fun _ => ?_, fun _ done => ?_⟩
      · simpa [ReachesEnd, lastItems, leavesTry, here] using bound
      · cases done
  | setupRaised exc here =>
      have absent := unreleased (by simp [isDone, here])
      refine ⟨fun released => absurd (released rfl) (not_released absent), fun ends => ?_⟩
      simp [ReachesEnd, here] at ends
  | neverStarted here moved =>
      have absent := unreleased (by simp [isDone, here])
      subst moved
      refine ⟨fun released => absurd (released rfl) (not_released absent), fun ends => ?_⟩
      simp [ReachesEnd, here] at ends
  | @left _ last moment before leaves evolves outbox =>
      rw [settle_enterFinally]
      cases wired : last.sessionRepo with
      | true =>
          have repo : session.sessionRepo = true := evolves.sessionRepo.symm.trans wired
          refine ⟨fun _ => reachesEnd_of_stays clock before (Or.inr repo), fun _ done => ?_⟩
          cases done
      | false =>
          have absent := unreleased (isDone_of_inTry before)
          have repo : session.sessionRepo = false := evolves.sessionRepo.symm.trans wired
          have room := shutdown_released_iff last.cancelReceiver absent
            (handlerItems_stop session event) outbox
          rw [reachesEnd_inTry clock before]
          simp only [leaves, repo, Bool.not_false, Bool.and_true, if_true]
          exact ⟨fun released => room.mp (released rfl), fun fits _ => room.mpr fits⟩
  | @around _ next before surrounds await evolves stopped counters accepted =>
      refine ⟨fun _ => reachesEnd_around clock surrounds, fun _ done => ?_⟩
      have doneBefore : session.isDone = true := by
        simp only [settle, isDone, await] at done ⊢
        exact done
      obtain ⟨front, shape, absent⟩ := held doneBefore
      exact ⟨front, accepted.trans shape, absent⟩
  | inserted doc here =>
      refine ⟨fun _ => ?_, fun _ done => ?_⟩
      · simpa [ReachesEnd, lastItems, leavesTry, here] using bound
      · cases done
  | insertReturned doc here =>
      have absent := unreleased (by simp [isDone, here])
      have room := shutdown_released_iff session absent List.not_mem_nil rfl
      simp only [ReachesEnd, lastItems, here]
      exact ⟨fun released => room.mp (released rfl), fun fits _ => room.mpr fits⟩
  | insertFailed doc here =>
      have absent := unreleased (by simp [isDone, here])
      have room := shutdown_released_iff session absent List.not_mem_nil rfl
      simp only [ReachesEnd, lastItems, here]
      exact ⟨fun released => room.mp (released rfl), fun fits _ => room.mpr fits⟩
  | interrupted doc executed here moved =>
      have absent := unreleased (by simp [isDone, here])
      subst moved
      refine ⟨fun released => absurd (released rfl) (not_released absent), fun ends => ?_⟩
      simp [ReachesEnd, here] at ends

theorem quiet_spawn (clock : Clock) (sessionId apiKeyId : String) (project : ProjectConfig)
    (sessionRepo : Bool) : (spawn clock sessionId apiKeyId project sessionRepo).Quiet :=
  fun _ => rfl

theorem unreleased_spawn (clock : Clock) (sessionId apiKeyId : String) (project : ProjectConfig)
    (sessionRepo : Bool) : (spawn clock sessionId apiKeyId project sessionRepo).Unreleased :=
  fun _ member => by cases member

/-- In every state of a run the client of a runner that is done has been released,
if and only if every step of the run meets `ReachesEnd`. -/
theorem done_released_iff (clock : Clock) (sessionId apiKeyId : String) (project : ProjectConfig)
    (sessionRepo : Bool) (events : List (Clock × RunnerEvent)) :
    Always step (fun session => session.isDone = true → session.Released)
        (spawn clock sessionId apiKeyId project sessionRepo) events ↔
      Along step ReachesEnd (spawn clock sessionId apiKeyId project sessionRepo) events := by
  refine always_iff_along (fun session => session.Quiet ∧ session.Unreleased)
    ?_ ?_ ⟨quiet_spawn _ _ _ _ _, unreleased_spawn _ _ _ _ _⟩ ?_
  · rintro session ⟨clock, event⟩ next ⟨quiet, unreleased⟩ held run
    exact released_step quiet unreleased held run
  · rintro session ⟨clock, event⟩ next ⟨quiet, unreleased⟩ _ _ run
    exact ⟨quiet_step quiet run, unreleased_step quiet unreleased run⟩
  · intro done
    cases done

/-- A client stops its session, and the runner is cancelled while the record is
being inserted: it is done, and nothing ever ends the forward loop. -/
theorem done_unreleased :
    ¬ ∀ (clock : Clock) (sessionId apiKeyId : String) (project : ProjectConfig)
        (sessionRepo : Bool) (events : List (Clock × RunnerEvent)),
      Always step (fun session => session.isDone = true → session.Released)
        (spawn clock sessionId apiKeyId project sessionRepo) events := by
  intro always
  let clock : Clock := ⟨0, 0⟩
  let project : ProjectConfig :=
    { projectId := "project", name := "Demo", systemPrompt := "Be brief." }
  let events : List (Clock × RunnerEvent) :=
    [(clock, .start none), (clock, .connected), (clock, .putInbox .stop), (clock, .frame),
      (clock, .closed), (clock, .requestCancel), (clock, .cancelled)]
  have shape : (exec step (spawn clock "session" "key" project true) events).map
      (fun session => (session.isDone, session.state.outbox.accepted)) =
        some (true, [.frame (.sessionReady "session" false "project" "Demo")]) := rfl
  obtain ⟨final, run, facts⟩ := Option.map_eq_some_iff.mp shape
  obtain ⟨done, accepted⟩ := Prod.mk.inj facts
  have released := (always clock "session" "key" project true events).last run done
  refine not_released ?_ released
  rw [accepted]
  decide

end LiveChat.Core.GeminiRunner.Session
