import LiveChat.Api.ConfigOwnership
import LiveChat.Api.DailyQuota
import LiveChat.Core.RecordScope

/-!
# Records never cross tenants

The queries of the session history go by the project alone.  They may: a handshake resolves to
the configuration of a stored project, its runner keeps that configuration, and the record
names the project and the tenant in it.  `Sited` follows the two names from `get_config` to the
collection.
-/

set_option autoImplicit false

namespace LiveChat.Api.Service

open LiveChat.Core
open LiveChat.Core.SessionManager (Node NodeEvent Record Runner)
open LiveChat.Foundation
open LiveChat.Foundation.TransitionSystem
open LiveChat.Repositories
open LiveChat.Api.Chat (Handshake Socket SocketPhase)

/-- The configuration that a handshake holds. -/
def heldConfig : SocketPhase → Option ProjectConfig
  | .fetchingTenant config | .measuring config _ _ _ => some config
  | _ => none

structure SitedSocket (service : Service) (socket : Socket) : Prop where
  held : ∀ config ∈ heldConfig socket.phase,
    service.rest.Stored config.projectId config.tenantId
  resolved : ∀ resolved ∈ socket.resolved,
    service.rest.Stored resolved.config.projectId resolved.config.tenantId

def SitedRunner (service : Service) (runner : Runner) : Prop :=
  service.rest.Stored runner.session.project.projectId runner.session.project.tenantId

structure Sited (service : Service) : Prop where
  placed : Placed service
  quiet : SessionManager.Quiet service.node
  books : Node.Scoped service.node
  sockets : ∀ socket ∈ service.sockets, service.SitedSocket socket
  runners : ∀ (index : Nat) runner, service.node.runners[index]? = some runner →
    service.SitedRunner runner

theorem sited_initial (now : Instant) (clock : Clock) : Sited (initial now clock) where
  placed := placed_initial now clock
  quiet := SessionManager.quiet_initial clock
  books := Node.scoped_initial clock
  sockets socket member := absurd member List.not_mem_nil
  runners index runner found := by simp [initial, Node.initial] at found

variable {hasher : AuthTokenRepo.PasswordHasher}

/-! ## Sockets -/

theorem sitedSocket_moved {service next : Service} {event : ServiceEvent}
    (moved : Moved hasher service event next) {socket : Socket}
    (sited : service.SitedSocket socket) : next.SitedSocket socket :=
  ⟨fun config held => stored_moved moved (sited.held config held),
    fun resolved returned => stored_moved moved (sited.resolved resolved returned)⟩

theorem sitedSocket_withPhase {service : Service} {socket : Socket} {phase : SocketPhase}
    (sited : service.SitedSocket socket) (free : heldConfig phase = none) :
    service.SitedSocket (socket.withPhase phase) := by
  refine ⟨fun config held => ?_, sited.resolved⟩
  cases free.symm.trans held

theorem sitedSocket_turn {service : Service} (placed : Placed service) {socket after : Socket}
    (own : service.PlacedSocket socket) (sited : service.SitedSocket socket)
    (turn : SocketTurn hasher service socket after) : service.SitedSocket after := by
  cases turn with
  | tokenMissing phase absent => exact sitedSocket_withPhase sited rfl
  | keyRaised phase => exact sitedSocket_withPhase sited rfl
  | keyMissing phase => exact sitedSocket_withPhase sited rfl
  | keyFound phase verified => exact sitedSocket_withPhase sited rfl
  | keyTouched phase => exact ⟨nofun, sited.resolved⟩
  | refused authorized close => exact sitedSocket_withPhase sited rfl
  | @configured authority read config authorized phase returned =>
      refine ⟨fun other held => ?_, sited.resolved⟩
      cases held
      -- the configuration is that of the project the socket asked for
      obtain ⟨project, tenant⟩ := own_of_asked placed (own.asked authority authorized read phase)
        returned
      rw [project, tenant]
      exact own.stored authority authorized
  | measuring authorized phase stored limited =>
      refine ⟨fun other held => ?_, sited.resolved⟩
      cases held
      exact sited.held _ (by rw [phase]; rfl)
  | unlimited authorized phase stored free =>
      refine ⟨fun other held => (by cases held), fun resolved returned => ?_⟩
      cases returned
      exact sited.held _ (by rw [phase]; rfl)
  | within authorized phase room =>
      refine ⟨fun other held => (by cases held), fun resolved returned => ?_⟩
      cases returned
      exact sited.held _ (by rw [phase]; rfl)

theorem sitedSocket_change {service next : Service} {event : ServiceEvent}
    (placed : Placed service) (moved : Moved hasher service event next) {socket after : Socket}
    (own : service.PlacedSocket socket) (sited : service.SitedSocket socket)
    (change : SocketChange hasher service next socket after) : next.SitedSocket after := by
  have later := sitedSocket_moved moved sited
  cases change with
  | turned turn => exact sitedSocket_moved moved (sitedSocket_turn placed own sited turn)
  | redeemed phase live => exact ⟨fun config held => (by cases held), later.resolved⟩
  | limited authorized waits =>
      rcases waits with ⟨window, count, rfl⟩ | ⟨close, rfl⟩
      · exact sitedSocket_withPhase later rfl
      · exact sitedSocket_withPhase later rfl
  | asked authorized asked => exact sitedSocket_withPhase later rfl
  | entered returned sessionId => exact sitedSocket_withPhase later rfl

theorem sitedSocket_accept (service : Service) (handshake : Handshake) :
    service.SitedSocket (Chat.accept handshake) := by
  refine ⟨fun config held => ?_, fun resolved returned => by cases returned⟩
  simp only [Chat.accept] at held
  split at held <;> cases held

theorem sockets_sited_moved {service next : Service} {event : ServiceEvent}
    (sited : Sited service) (moved : Moved hasher service event next) :
    ∀ socket ∈ next.sockets, next.SitedSocket socket := by
  intro socket member
  obtain ⟨place, found⟩ := List.mem_iff_getElem?.mp member
  rcases (sockets_moved moved).source found with old | ⟨_, handshake, rfl⟩ | ⟨before, there, change⟩
  · exact sitedSocket_moved moved (sited.sockets socket (List.mem_of_getElem? old))
  · exact sitedSocket_accept next handshake
  · have here := List.mem_of_getElem? there
    exact sitedSocket_change sited.placed moved (sited.placed.sockets before here)
      (sited.sockets before here) change

/-! ## Runners -/

/-- A runner after a step of the node keeps its project, or was created for the project of the
event. -/
theorem runner_project_moved {node next : Node} {event : NodeEvent}
    (quiet : SessionManager.Quiet node) (moved : Node.Moved node event next) {index : Nat}
    {after : Runner} (found : next.runners[index]? = some after) :
    (∃ before, node.runners[index]? = some before ∧
      after.session.project = before.session.project) ∨
      ∃ sessionId apiKeyId, event = .getOrCreate sessionId after.session.project apiKeyId := by
  cases old : node.runners[index]? with
  | some before =>
      obtain ⟨after', found', same⟩ := SessionManager.runner_same_moved quiet moved old
      cases Option.some.inj (found'.symm.trans found)
      exact Or.inl ⟨before, rfl, same.project⟩
  | none =>
      have inside := (List.getElem?_eq_some_iff.mp found).1
      have fresh := List.getElem?_eq_none_iff.mp old
      cases moved with
      | managed manages managed =>
          rw [managed.follows.length] at inside
          omega
      | resumed entry =>
          simp only [Node.attach, Node.touchSession, Node.updateSession, List.length_modify] at inside
          omega
      | refused free full => exact absurd inside (by omega)
      | @created sessionId project apiKeyId free room =>
          rcases Places.concat_source found with there | ⟨last, rfl⟩
          · cases old.symm.trans there
          · exact Or.inr ⟨sessionId, apiKeyId, rfl⟩
      | advanced found' run =>
          simp only [Node.advance, Node.updateSession, List.length_modify] at inside
          omega
      | collected waiting => exact absurd inside (by simp only [Node.onRunnerDone]; omega)

theorem runners_sited_moved {service next : Service} {event : ServiceEvent}
    (sited : Sited service) (moved : Moved hasher service event next) :
    ∀ (index : Nat) runner, next.node.runners[index]? = some runner → next.SitedRunner runner := by
  have kept : ∀ (index : Nat) runner, service.node.runners[index]? = some runner →
      next.SitedRunner runner :=
    fun index runner found => stored_moved moved (sited.runners index runner found)
  -- a runner that the step of the node did not create
  have quietly : ∀ {nodeEvent : NodeEvent} {node : Node},
      service.node.step nodeEvent = some node → opensOrTicks nodeEvent = false ∨
        (∃ elapsed utc, nodeEvent = .tick elapsed utc) →
      ∀ (index : Nat) runner, node.runners[index]? = some runner → next.SitedRunner runner := by
    intro nodeEvent node run other index runner found
    rcases runner_project_moved sited.quiet (Node.step_moved run) found with
      ⟨before, there, same⟩ | ⟨sessionId, apiKeyId, rfl⟩
    · simp only [SitedRunner, same]
      exact kept index before there
    · rcases other with silent | ⟨elapsed, utc, same⟩
      · cases silent
      · cases same
  cases moved with
  | ticked restMoved later nodeRun => exact quietly nodeRun (Or.inr ⟨_, _, rfl⟩)
  | noded quiet run => exact quietly run (Or.inl quiet)
  | @entered index uuid sessionId socket resolved node found returned run =>
      intro place runner there
      rcases runner_project_moved sited.quiet (Node.step_moved run) there with
        ⟨before, old, same⟩ | ⟨_, _, same⟩
      · simp only [SitedRunner, same]
        exact kept place before old
      · simp only [NodeEvent.getOrCreate.injEq] at same
        rw [SitedRunner, ← same.2.1]
        exact (sited.sockets socket (List.mem_of_getElem? found)).resolved resolved returned
  | _ => exact kept

theorem sited_moved {service next : Service} {event : ServiceEvent} (sited : Sited service)
    (moved : Moved hasher service event next) : Sited next where
  placed := placed_moved sited.placed moved
  quiet := by
    rcases node_moved moved with ⟨same, _⟩ | ⟨nodeEvent, nodeMoved, _⟩
    · rw [same]
      exact sited.quiet
    · exact SessionManager.quiet_moved sited.quiet nodeMoved
  books := by
    rcases node_moved moved with ⟨same, _⟩ | ⟨nodeEvent, nodeMoved, _⟩
    · rw [same]
      exact sited.books
    · exact Node.scoped_moved sited.quiet sited.books nodeMoved
  sockets := sockets_sited_moved sited moved
  runners := runners_sited_moved sited moved

theorem sited_reached {now : Instant} {clock : Clock} {events : List ServiceEvent}
    {service : Service} (run : exec (step hasher) (initial now clock) events = some service) :
    Sited service :=
  exec_invariant Sited (fun _ _ _ sited stepped => sited_moved sited (step_moved stepped))
    (sited_initial now clock) run

/-! ## Records -/

/-- A record is of a stored project, under the tenant of that project. -/
theorem stored_of_record {service : Service} (sited : Sited service) {record : Record}
    (member : record ∈ service.node.records) :
    service.rest.Stored record.doc.projectId record.doc.tenantId := by
  obtain ⟨runner, found, names⟩ := sited.books.written record member
  rw [names.projectId, names.tenantId]
  exact sited.runners record.writer runner found

/-- A record of a project is its tenant's. -/
theorem own_of_stored {service : Service} (sited : Sited service) {record : Record}
    (member : record ∈ service.node.records) {projectId tenantId : String}
    (stored : service.rest.Stored projectId tenantId) (named : record.doc.projectId = projectId) :
    record.doc.tenantId = tenantId := by
  obtain ⟨doc, found, own⟩ := stored_of_record sited member
  obtain ⟨other, found', tenant⟩ := stored
  rw [named, found'] at found
  cases found
  exact own.symm.trans tenant

theorem records_prefix_moved {service next : Service} {event : ServiceEvent}
    (moved : Moved hasher service event next) : service.node.records <+: next.node.records := by
  rcases node_moved moved with ⟨same, _⟩ | ⟨nodeEvent, nodeMoved, _⟩
  · exact ⟨[], by rw [same, List.append_nil]⟩
  · exact Node.records_prefix nodeMoved

end LiveChat.Api.Service
