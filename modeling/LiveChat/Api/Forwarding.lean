import LiveChat.Foundation.TransitionSystem
import LiveChat.Core.RunnerSteps

/-!
# Forward loops of one session

Every connection that `ws_chat` attaches to a session runs a `_receive_loop` and a
`_forward_loop` under one `gather`, and all forward loops take from the same outbox.
A `Room` is the session with its connections and the getters that wait in
`outbox.get()`, oldest first.  Only the receive loop learns of a disconnect: the forward
loop goes on until a send fails or it takes the sentinel.

`takings` is the history that the code does not keep: which loop took which item.
-/

set_option autoImplicit false

namespace LiveChat.Api.Forwarding

open LiveChat.Core
open LiveChat.Core.GeminiRunner
open LiveChat.Foundation.TransitionSystem

inductive Forward where
  /-- At the head of its loop: just scheduled, or woken from `outbox.get()`. -/
  | ready
  | waiting
  | sending (frame : OutboxFrame)
  | ended

/-- A handler of `ws_chat` past its handshake. -/
structure Connection where
  forward : Forward := .ready
  /-- The receive loop has not returned. -/
  receiving : Bool := true
  disconnected : Bool := false

structure Room where
  session : Session
  connections : List Connection := []
  getters : List Nat := []
  takings : List (Nat × OutboxItem) := []

inductive RoomEvent where
  | connect (clock : Clock)
  | disconnect (index : Nat)
  | receiveReturns (index : Nat)
  /-- The forward loop of the connection runs, at the head of its loop. -/
  | resume (index : Nat)
  | sent (index : Nat)
  /-- The send raises: `WebSocketDisconnect` or any other exception. -/
  | sendFailed (index : Nat)
  | runner (clock : Clock) (event : RunnerEvent)

/-- In `outbox.get()`, or on the way to it. -/
def Forward.listens : Forward → Bool
  | .ready | .waiting => true
  | _ => false

def Connection.wake (connection : Connection) : Connection :=
  match connection.forward with
  | .waiting => { connection with forward := .ready }
  | _ => connection

namespace Room

def update (room : Room) (index : Nat) (change : Connection → Connection) : Room :=
  { room with connections := room.connections.modify index change }

def goto (room : Room) (index : Nat) (forward : Forward) : Room :=
  room.update index fun connection => { connection with forward := forward }

/-- The head of the loop: `await state.outbox.get()` takes an item or leaves a getter,
and the sentinel ends the loop. -/
def nextItem (room : Room) (index : Nat) : Room :=
  match room.session.state.outbox.getNowait with
  | none => { room.goto index .waiting with getters := room.getters ++ [index] }
  | some (item, outbox) =>
      { room.goto index (match item with | .frame frame => .sending frame | .stop => .ended) with
        session := { room.session with state := { room.session.state with outbox := outbox } }
        takings := room.takings ++ [(index, item)] }

/-- Every accepted put wakes the oldest getter. -/
def wakeGetters (room : Room) (puts : Nat) : Room :=
  { (room.getters.take puts).foldl (fun room index => room.update index Connection.wake) room with
    getters := room.getters.drop puts }

def disconnect (room : Room) (index : Nat) : Room :=
  room.update index fun connection => { connection with disconnected := true }

def connect (room : Room) (clock : Clock) : Room :=
  { room with
    session := { room.session with state := room.session.state.touch clock.monotonic }
    connections := room.connections ++ [{}] }

def opened (session : Session) : Room := { session := session, connections := [{}] }

def step (room : Room) : RoomEvent → Option Room
  | .connect clock => some (room.connect clock)
  | .disconnect index =>
      match room.connections[index]? with
      | some connection =>
          if connection.disconnected then none
          else some (room.disconnect index)
      | none => none
  | .receiveReturns index =>
      match room.connections[index]? with
      | some connection =>
          if connection.receiving then
            some (room.update index fun connection => { connection with receiving := false })
          else none
      | none => none
  | .resume index =>
      match (room.connections[index]?).map Connection.forward with
      | some .ready => some (room.nextItem index)
      | _ => none
  | .sent index =>
      match (room.connections[index]?).map Connection.forward with
      | some (.sending _) => some (room.nextItem index)
      | _ => none
  | .sendFailed index =>
      match (room.connections[index]?).map Connection.forward with
      | some (.sending _) => some (room.goto index .ended)
      | _ => none
  -- the outbox is emptied by the forward loops alone
  | .runner _ .takeOutbox => none
  | .runner clock event =>
      (room.session.step (clock, event)).map fun session =>
        ({ room with session := session } : Room).wakeGetters
          (session.state.outbox.accepted.length - room.session.state.outbox.accepted.length)

def occupied (room : Room) : Bool := room.connections.any fun connection => !connection.disconnected

def detached (room : Room) (index : Nat) : Bool :=
  (room.connections[index]?).any Connection.disconnected

/-- An item that the step takes goes to the loop of a disconnected connection only when
no client is connected. -/
def ServesAttached (room : Room) (event : RoomEvent) : Prop :=
  ∀ next, room.step event = some next → ∀ index item,
    next.takings = room.takings ++ [(index, item)] → room.detached index = true →
    room.occupied = false

/-- No loop of a disconnected connection is left at, or comes back to, `outbox.get()`
while a client is connected. -/
def LoopsEnd (room : Room) : RoomEvent → Prop
  | .connect _ => ∀ connection ∈ room.connections, Connection.disconnected connection = true →
      connection.forward.listens = false
  | .disconnect index => (room.disconnect index).occupied = true →
      ∀ connection ∈ room.connections[index]?, Forward.listens connection.forward = false
  | .sent index => room.detached index = true → room.occupied = false
  | _ => True

instance (room : Room) : (event : RoomEvent) → Decidable (room.LoopsEnd event)
  | .connect _ => inferInstanceAs (Decidable (∀ connection ∈ room.connections,
      Connection.disconnected connection = true → connection.forward.listens = false))
  | .disconnect index => inferInstanceAs (Decidable ((room.disconnect index).occupied = true →
      ∀ connection ∈ room.connections[index]?, Forward.listens connection.forward = false))
  | .sent index => inferInstanceAs (Decidable (room.detached index = true → room.occupied = false))
  | .receiveReturns _ | .resume _ | .sendFailed _ | .runner _ _ => isTrue trivial

/-! ## Stray loops -/

/-- While a client is connected, no loop of a disconnected connection listens. -/
def NoStray (room : Room) : Prop :=
  room.occupied = true → ∀ connection ∈ room.connections,
    Connection.disconnected connection = true → connection.forward.listens = false

/-- What a change of one connection must keep for the others. -/
structure Keeps (change : Connection → Connection) : Prop where
  disconnected : ∀ connection, (change connection).disconnected = connection.disconnected
  listens : ∀ connection, (change connection).forward.listens = true →
    connection.forward.listens = true

theorem occupied_update (room : Room) (index : Nat) {change : Connection → Connection}
    (same : ∀ connection, (change connection).disconnected = connection.disconnected) :
    (room.update index change).occupied = room.occupied := by
  have flags : (room.connections.modify index change).map Connection.disconnected =
      room.connections.map Connection.disconnected := by
    refine List.ext_getElem? fun place => ?_
    rw [List.getElem?_map, List.getElem?_map, List.getElem?_modify]
    cases room.connections[place]? with
    | none => rfl
    | some connection =>
        by_cases hit : index = place
        · simp [hit, same]
        · simp [hit]
  have anyFlag : ∀ connections : List Connection,
      (connections.any fun connection => !connection.disconnected) =
        (connections.map Connection.disconnected).any Bool.not := by
    intro connections
    simp [List.any_map, Function.comp_def]
  simp only [occupied, update]
  rw [anyFlag, anyFlag, flags]

theorem occupied_goto (room : Room) (index : Nat) (forward : Forward) :
    (room.goto index forward).occupied = room.occupied := occupied_update room index fun _ => rfl

theorem mem_update {room : Room} {index : Nat} {change : Connection → Connection}
    {connection : Connection} (member : connection ∈ (room.update index change).connections) :
    connection ∈ room.connections ∨
      ∃ before ∈ room.connections[index]?, connection = change before := by
  obtain ⟨place, found⟩ := List.mem_iff_getElem?.mp member
  simp only [update, List.getElem?_modify] at found
  obtain ⟨before, old, shape⟩ := Option.map_eq_some_iff.mp found
  by_cases hit : index = place
  · subst hit
    exact Or.inr ⟨before, old, by simpa using shape.symm⟩
  · rw [if_neg hit] at shape
    exact Or.inl (shape ▸ List.mem_of_getElem? old)

theorem occupied_of_disconnect {room : Room} {index : Nat}
    (occupied : (room.disconnect index).occupied = true) : room.occupied = true := by
  obtain ⟨connection, member, present⟩ := List.any_eq_true.mp occupied
  rcases mem_update member with old | ⟨before, _, rfl⟩
  · exact List.any_eq_true.mpr ⟨connection, old, present⟩
  · cases present

theorem noStray_update {room : Room} (noStray : room.NoStray) (index : Nat)
    {change : Connection → Connection} (keeps : Keeps change) :
    (room.update index change).NoStray := by
  intro occupied connection member gone
  rw [occupied_update room index keeps.disconnected] at occupied
  rcases mem_update member with old | ⟨before, found, rfl⟩
  · exact noStray occupied connection old gone
  · rw [keeps.disconnected] at gone
    have silent := noStray occupied before (List.mem_of_getElem? found) gone
    exact Bool.eq_false_iff.mpr fun listens =>
      absurd (silent.symm.trans (keeps.listens before listens)) (by decide)

theorem noStray_goto {room : Room} (noStray : room.NoStray) {index : Nat} (forward : Forward)
    (met : forward.listens = true → room.detached index = true → room.occupied = false) :
    (room.goto index forward).NoStray := by
  intro occupied connection member gone
  rw [occupied_goto] at occupied
  rcases mem_update member with old | ⟨before, found, rfl⟩
  · exact noStray occupied connection old gone
  · refine Bool.eq_false_iff.mpr fun listens => ?_
    have detached : room.detached index = true := by
      simp only [Room.detached, Option.mem_def.mp found, Option.any_some]
      exact gone
    exact absurd (occupied.symm.trans (met listens detached)) (by decide)

theorem noStray_nextItem {room : Room} (noStray : room.NoStray) {index : Nat}
    (met : room.detached index = true → room.occupied = false) : (room.nextItem index).NoStray := by
  unfold nextItem
  split
  · exact noStray_goto noStray .waiting fun _ => met
  · exact noStray_goto noStray _ fun _ => met

theorem wakes_foldl (getters : List Nat) (room : Room) (noStray : room.NoStray) :
    (getters.foldl (fun room index => room.update index Connection.wake) room).NoStray ∧
      (getters.foldl (fun room index => room.update index Connection.wake) room).takings =
        room.takings := by
  induction getters generalizing room with
  | nil => exact ⟨noStray, rfl⟩
  | cons index rest ih =>
      have keeps : Keeps Connection.wake := by
        refine ⟨fun connection => ?_, fun connection listens => ?_⟩
        · unfold Connection.wake
          split <;> rfl
        · unfold Connection.wake at listens
          split at listens
          · rename_i waiting
            rw [waiting]
            rfl
          · exact listens
      exact ih (room.update index Connection.wake) (noStray_update noStray index keeps)

theorem takings_nextItem {room : Room} {index taker : Nat} {item : OutboxItem}
    (taken : (room.nextItem index).takings = room.takings ++ [(taker, item)]) : taker = index := by
  unfold nextItem at taken
  split at taken
  · exact absurd (congrArg List.length taken) (by simp [goto, update])
  · have same := List.append_cancel_left taken
    simp only [List.cons.injEq, Prod.mk.injEq, and_true] at same
    exact same.1.symm

/-- The loop of a disconnected connection runs only when no client is connected. -/
theorem detached_ready {room : Room} (noStray : room.NoStray) {index : Nat}
    (ready : (room.connections[index]?).map Connection.forward = some .ready)
    (detached : room.detached index = true) : room.occupied = false := by
  obtain ⟨connection, found, listens⟩ := Option.map_eq_some_iff.mp ready
  simp only [Room.detached, found, Option.any_some] at detached
  refine Bool.eq_false_iff.mpr fun occupied => ?_
  have silent := noStray occupied connection (List.mem_of_getElem? found) detached
  rw [listens] at silent
  cases silent

theorem noStray_step {room next : Room} {event : RoomEvent} (noStray : room.NoStray)
    (met : room.LoopsEnd event) (run : room.step event = some next) :
    room.ServesAttached event ∧ next.NoStray := by
  have untaken : next.takings = room.takings → room.ServesAttached event := by
    intro same other run' index item taken
    cases Option.some.inj (run.symm.trans run')
    rw [same] at taken
    exact absurd (congrArg List.length taken) (by simp)
  have taken : ∀ index, (room.detached index = true → room.occupied = false) →
      next = room.nextItem index → room.ServesAttached event := by
    intro index silent shape other run' taker item taken
    cases Option.some.inj (run.symm.trans run')
    rw [shape] at taken
    rw [takings_nextItem taken]
    exact silent
  cases event with
  | connect clock =>
      cases run
      refine ⟨untaken rfl, fun _ connection member gone => ?_⟩
      rcases List.mem_append.mp member with old | new
      · exact met connection old gone
      · cases List.mem_singleton.mp new
        cases gone
  | disconnect index =>
      simp only [step] at run
      split at run
      · rename_i connection found
        split at run
        · cases run
        · cases run
          refine ⟨untaken rfl, fun occupied other member gone => ?_⟩
          rcases mem_update member with old | ⟨before, found', rfl⟩
          · exact noStray (occupied_of_disconnect occupied) other old gone
          · exact met occupied before found'
      · cases run
  | receiveReturns index =>
      simp only [step] at run
      split at run
      · split at run
        · cases run
          exact ⟨untaken rfl, noStray_update noStray index ⟨fun _ => rfl, fun _ => id⟩⟩
        · cases run
      · cases run
  | resume index =>
      simp only [step] at run
      split at run
      · rename_i ready
        cases run
        have silent := detached_ready noStray ready
        exact ⟨taken index silent rfl, noStray_nextItem noStray silent⟩
      · cases run
  | sent index =>
      simp only [step] at run
      split at run
      · cases run
        exact ⟨taken index met rfl, noStray_nextItem noStray met⟩
      · cases run
  | sendFailed index =>
      simp only [step] at run
      split at run
      · cases run
        exact ⟨untaken rfl, noStray_goto noStray .ended fun listens => absurd listens (by decide)⟩
      · cases run
  | runner clock event =>
      have woken : ∀ session, (room.session.step (clock, event)).map (fun session =>
          ({ room with session := session } : Room).wakeGetters
            (session.state.outbox.accepted.length - room.session.state.outbox.accepted.length)) =
          some session → session.takings = room.takings ∧ session.NoStray := by
        intro after moved
        obtain ⟨session, stepped, rfl⟩ := Option.map_eq_some_iff.mp moved
        obtain ⟨stray, kept⟩ := wakes_foldl
          (room.getters.take (session.state.outbox.accepted.length -
            room.session.state.outbox.accepted.length)) { room with session := session } noStray
        exact ⟨kept, stray⟩
      cases event with
      | takeOutbox => cases run
      | _ =>
          obtain ⟨kept, stray⟩ := woken next run
          exact ⟨untaken kept, stray⟩

/-- When no loop of a disconnected connection listens while a client is connected, every
item that is taken then goes to the loop of a connected client. -/
theorem servesAttached_of_loopsEnd (session : Session) (events : List RoomEvent)
    (ends : Along step LoopsEnd (opened session) events) :
    Along step ServesAttached (opened session) events := by
  refine along_of_along NoStray (fun room event next stray met run => noStray_step stray met run)
    ?_ ends
  intro _ connection member gone
  cases List.mem_singleton.mp member
  cases gone

/-- The client disconnects in the middle of its session, its receive loop returns, and it
comes back. -/
def reconnect : List RoomEvent :=
  [.resume 0, .disconnect 0, .receiveReturns 0, .connect ⟨0, 0⟩, .resume 1]

def firstFrame : List RoomEvent := [.runner ⟨0, 0⟩ (.start none), .runner ⟨0, 0⟩ .connected]

def demoSession : Session :=
  Session.spawn ⟨0, 0⟩ "s" "key" { projectId := "p", name := "Demo", systemPrompt := "Be brief." }
    true

/-- The send of the first loop fails before the client comes back. -/
theorem servesAttached_reconnected :
    Along step ServesAttached (opened demoSession) (firstFrame ++ [.resume 0, .disconnect 0,
      .sendFailed 0, .connect ⟨0, 0⟩, .resume 1]) := by
  apply servesAttached_of_loopsEnd
  decide

/-- The loop of the connection that is gone waits first, and takes the next frame. -/
theorem servesAttached_fails :
    ¬ ∀ (session : Session) (events : List RoomEvent),
      Along step ServesAttached (opened session) events := by
  intro along
  let front := reconnect ++ firstFrame
  have shape : (exec step (opened demoSession) front).map (fun room =>
      (room.takings.length, room.detached 0, room.occupied)) = some (0, true, true) := by decide
  have taken : (exec step (opened demoSession) (front ++ [.resume 0])).map Room.takings =
      some [(0, .frame (.sessionReady "s" false "p" "Demo"))] := by decide
  obtain ⟨room, run, facts⟩ := Option.map_eq_some_iff.mp shape
  obtain ⟨empty, gone, occupied⟩ : room.takings.length = 0 ∧ room.detached 0 = true ∧
      room.occupied = true := by simpa using facts
  obtain ⟨next, run', takings⟩ := Option.map_eq_some_iff.mp taken
  have stepped : room.step (.resume 0) = some next := by
    rw [exec_append, run] at run'
    simpa using run'
  have served := (along demoSession (front ++ [.resume 0])).after run stepped next stepped 0
    (.frame (.sessionReady "s" false "p" "Demo"))
  rw [takings, List.length_eq_zero_iff.mp empty] at served
  exact absurd (occupied.symm.trans (served rfl gone)) (by decide)

end Room

end LiveChat.Api.Forwarding
