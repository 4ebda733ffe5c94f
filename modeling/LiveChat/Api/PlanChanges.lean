import LiveChat.Api.ConfigOwnership
import LiveChat.Api.StoredTools

/-!
# Limits after a change of the plan

The caps of a plan bind when a value is written; a session is held to the value that is
stored.  `Fits` says that whatever a tenant's handshakes can still come by, and whatever
its REST calls in flight can still write, is within the caps of a plan.  A handshake that
is admitted has a configuration within the caps of the tenant's plan as long as every
change of the plan finds the service so.
-/

set_option autoImplicit false

namespace LiveChat.Api

open LiveChat.Core
open LiveChat.Core.PlanLimits
open LiveChat.Db
open LiveChat.Foundation
open LiveChat.Foundation.TransitionSystem
open LiveChat.Repositories
open LiveChat.Repositories.ProjectRepo (RepoEvent Write)
open LiveChat.Api.Projects
open LiveChat.Api.Chat (Authority Handshake Resolved Socket SocketPhase)
open LiveChat.Api.Tools (ToolRequest CreateToolRequest UpdateToolRequest)

/-! ## Values within the caps of a plan -/

def TimeoutsFit (plan : Plan) (tools : List ToolDefinition) : Prop :=
  ∀ tool ∈ tools, tool.timeoutMs ≤ maxWebhookTimeoutMs plan

/-- The two caps on a session: its lifetime and the timeouts of its tools. -/
def ConfigFits (plan : Plan) (config : ProjectConfig) : Prop :=
  config.sessionTtlSeconds ≤ maxSessionTtlSeconds plan ∧ TimeoutsFit plan config.tools

instance (plan : Plan) (config : ProjectConfig) : Decidable (ConfigFits plan config) :=
  inferInstanceAs (Decidable (_ ∧ ∀ tool ∈ config.tools, _ ≤ _))

/-- The session TTL that the request stores under the plan, when it stores one. -/
def RestRequest.storedTtl (plan : Plan) : RestRequest → Option Nat
  | .createProject body => some (effectiveSessionTtl plan body.sessionTtlSeconds)
  | .edit _ (.project body) => body.sessionTtlSeconds.map (effectiveSessionTtl plan)
  | _ => none

/-- The timeout that the request gives a tool under the plan, when it gives one. -/
def RestRequest.storedTimeout (plan : Plan) : RestRequest → Option Nat
  | .tool _ (.add body) => some (effectiveWebhookTimeoutMs plan body.timeoutMs)
  | .tool _ (.update _ body) => body.timeoutMs.map (effectiveWebhookTimeoutMs plan)
  | _ => none

/-- What the call stores under the plan it was let in with is within the caps of this one. -/
def RestCall.Fits (plan : Plan) (call : RestCall) : Prop :=
  (∀ ttl ∈ call.request.storedTtl call.tenant.plan, ttl ≤ maxSessionTtlSeconds plan) ∧
    ∀ timeoutMs ∈ call.request.storedTimeout call.tenant.plan,
      timeoutMs ≤ maxWebhookTimeoutMs plan

theorem RestCall.fits_own (call : RestCall) : call.Fits call.tenant.plan := by
  obtain ⟨tenant, request, phase⟩ := call
  constructor
  · intro ttl stored
    cases request with
    | createProject body =>
        cases stored
        exact effectiveSessionTtl_le tenant.plan body.sessionTtlSeconds
    | edit projectId change =>
        cases change with
        | project body =>
            obtain ⟨requested, _, rfl⟩ := Option.map_eq_some_iff.mp stored
            exact effectiveSessionTtl_le tenant.plan requested
        | _ => cases stored
    | _ => cases stored
  · intro timeoutMs stored
    cases request with
    | tool projectId toolRequest =>
        cases toolRequest with
        | add body =>
            cases stored
            exact effectiveWebhookTimeoutMs_le tenant.plan body.timeoutMs
        | update toolName body =>
            obtain ⟨requested, _, rfl⟩ := Option.map_eq_some_iff.mp stored
            exact effectiveWebhookTimeoutMs_le tenant.plan requested
        | delete toolName => cases stored
    | _ => cases stored

theorem timeoutsFit_run {plan : Plan} {call : RestCall} (fits : call.Fits plan) :
    call.KeepsGood (TimeoutsFit plan) := by
  obtain ⟨tenant, request, phase⟩ := call
  rintro projectId request tools next rfl ran before
  cases Tools.run_ran ran with
  | added fresh room =>
      intro tool member
      rcases List.mem_append.mp member with old | new
      · exact before tool old
      · cases List.mem_singleton.mp new
        exact fits.2 _ rfl
  | @updated toolName body index existing found complete =>
      intro tool member
      rcases List.mem_or_eq_of_mem_set member with old | rfl
      · exact before tool old
      · simp only [UpdateToolRequest.merge]
        cases given : body.timeoutMs with
        | none => exact before existing (List.mem_of_getElem? found)
        | some requested =>
            apply fits.2
            simp [RestRequest.storedTimeout, given]
  | deleted => exact fun tool member => before tool (List.mem_filter.mp member).1

theorem storedTtl_edit {plan : Plan} {projectId : String} {change : Edit}
    {fields : ProjectRepo.ProjectFields} (accepted : change.fields plan = .ok fields) :
    fields.sessionTtlSeconds = (RestRequest.edit projectId change).storedTtl plan := by
  cases change with
  | project body => exact (updateProject_ok accepted).2.1
  | _ =>
      cases accepted
      rfl

theorem sessionTtl_write {store : ProjectRepo.Store} {call : RestCall} {projectId : String}
    {basis doc : ProjectDoc} {write : Write} {updatedAt : Instant} {plan : Plan}
    (fits : call.Fits plan)
    (computes : Computes store call.tenant call.request
      (.updateProject projectId basis write updatedAt))
    (within : doc.sessionTtlSeconds ≤ maxSessionTtlSeconds plan) :
    (write.fields.set updatedAt doc).sessionTtlSeconds ≤ maxSessionTtlSeconds plan := by
  obtain ⟨tenant, request, phase⟩ := call
  simp only [ProjectRepo.ProjectFields.set]
  cases computes with
  | @edit _ change _ fields read accepted =>
      have stores := @storedTtl_edit _ projectId _ _ accepted
      simp only [ProjectRepo.Write.fields, stores]
      cases stored : (RestRequest.edit projectId change).storedTtl tenant.plan with
      | none => exact within
      | some ttl => exact fits.1 ttl stored
  | deleteProject read => exact within
  | tool read ran => exact within

namespace Rest

variable {hasher : AuthTokenRepo.PasswordHasher}

/-! ## What the REST layer holds for a tenant -/

/-- The documents of the tenant, the configurations that are cached or about to be, and the
calls that have not been answered. -/
structure Fits (tenantId : String) (plan : Plan) (rest : Rest) : Prop where
  stored : ∀ doc ∈ Tables.rows rest.repo.store.projects, doc.tenantId = tenantId →
    ConfigFits plan doc.toProjectConfig
  underway : ∀ config ∈ rest.repo.underway, config.tenantId = tenantId → ConfigFits plan config
  calls : ∀ call ∈ rest.calls, call.tenant.id = tenantId → call.phase.isAnswered = false →
    call.Fits plan
  pending : ∀ call ∈ rest.calls, call.tenant.id = tenantId →
    ∀ tools ∈ call.phase.writtenTools, TimeoutsFit plan tools

instance (tenantId : String) (plan : Plan) (rest : Rest) : Decidable (rest.Fits tenantId plan) :=
  decidable_of_iff
    ((∀ doc ∈ Tables.rows rest.repo.store.projects, doc.tenantId = tenantId →
        ConfigFits plan doc.toProjectConfig) ∧
      (∀ config ∈ rest.repo.underway, config.tenantId = tenantId → ConfigFits plan config) ∧
      (∀ call ∈ rest.calls, call.tenant.id = tenantId → call.phase.isAnswered = false →
        (∀ ttl ∈ call.request.storedTtl call.tenant.plan, ttl ≤ maxSessionTtlSeconds plan) ∧
          ∀ timeoutMs ∈ call.request.storedTimeout call.tenant.plan,
            timeoutMs ≤ maxWebhookTimeoutMs plan) ∧
      ∀ call ∈ rest.calls, call.tenant.id = tenantId → ∀ tools ∈ call.phase.writtenTools,
        ∀ tool ∈ tools, tool.timeoutMs ≤ maxWebhookTimeoutMs plan)
    ⟨fun all => ⟨all.1, all.2.1, all.2.2.1, all.2.2.2⟩,
      fun fits => ⟨fits.stored, fits.underway, fits.calls, fits.pending⟩⟩

theorem fits_stocks {rest : Rest} {tenantId : String} {plan : Plan}
    (fits : rest.Fits tenantId plan) :
    rest.Stocks (· = tenantId) fun doc => ConfigFits plan doc.toProjectConfig :=
  fun projectId doc stored own => fits.stored doc (Tables.mem_rows.mpr ⟨projectId, stored⟩) own

theorem fits_keepsTools {rest : Rest} {tenantId : String} {plan : Plan}
    (fits : rest.Fits tenantId plan) : rest.KeepsTools (· = tenantId) (TimeoutsFit plan) :=
  ⟨fun projectId doc stored own => (fits_stocks fits projectId doc stored own).2, fits.pending⟩

theorem calls_fit {rest next : Rest} {event : RestEvent} {tenantId : String} {plan : Plan}
    (sound : Sound rest) (fits : rest.Fits tenantId plan)
    (current : ∀ tenant, rest.tenants.lookup tenantId = some tenant → tenant.plan = plan)
    (moved : Moved hasher rest event next) :
    ∀ call ∈ next.calls, call.tenant.id = tenantId → call.phase.isAnswered = false →
      call.Fits plan := by
  have changed : ∀ {index : Nat} {phase : RestPhase},
      (∀ call, rest.calls[index]? = some call → call.tenant.id = tenantId →
        phase.isAnswered = false → call.Fits plan) →
      ∀ call ∈ (rest.setCall index phase).calls, call.tenant.id = tenantId →
        call.phase.isAnswered = false → call.Fits plan := by
    intro index phase new
    exact Places.forall_modify fits.calls new
  have answered : ∀ {index : Nat} {phase : RestPhase}, phase.isAnswered = true →
      ∀ call ∈ (rest.setCall index phase).calls, call.tenant.id = tenantId →
        call.phase.isAnswered = false → call.Fits plan := by
    intro index phase done
    refine changed fun call found own waits => ?_
    cases done.symm.trans waits
  cases moved with
  | @authenticated owner tenant request found active =>
      intro call member own unanswered
      rcases List.mem_append.mp member with old | new
      · exact fits.calls call old own unanswered
      · cases List.mem_singleton.mp new
        have named : owner = tenantId := (sound.tenants owner tenant found).1.symm.trans own
        rw [← current tenant (named ▸ found)]
        exact RestCall.fits_own _
  | checked found reading answer =>
      refine changed fun call there own _ => ?_
      cases Option.some.inj (found.symm.trans there)
      refine fits.calls _ (List.mem_of_getElem? found) own ?_
      rw [reading]
      rfl
  | insertedProject found writing run => exact answered rfl
  | updatedProject found writing run => exact answered rfl
  | insertedKey found writing fresh => exact answered rfl
  | revokedKey found writing answer =>
      refine answered ?_
      rw [answer]
      split <;> rfl
  | _ => exact fits.calls

/-- While the tenant stays on the plan, what is held for it stays within the caps. -/
theorem fits_moved {rest next : Rest} {event : RestEvent} {tenantId : String} {plan : Plan}
    (sound : Sound rest) (fits : rest.Fits tenantId plan)
    (current : ∀ tenant, rest.tenants.lookup tenantId = some tenant → tenant.plan = plan)
    (moved : Moved hasher rest event next) : next.Fits tenantId plan := by
  have unanswered : ∀ {call : RestCall} {pending : Pending}, call.phase = .writing pending →
      call.phase.isAnswered = false := by
    intro call pending writing
    rw [writing]
    rfl
  have keeps : next.KeepsTools (· = tenantId) (TimeoutsFit plan) := by
    refine keepsTools_moved sound (fits_keepsTools fits) ?_ ?_ moved
    · intro tool member
      cases member
    · intro call member own reading
      refine timeoutsFit_run (fits.calls call member own ?_)
      rw [reading]
      rfl
  have ttls : next.Stocks (· = tenantId) fun doc =>
      doc.sessionTtlSeconds ≤ maxSessionTtlSeconds plan := by
    refine stocks_moved (fun projectId doc stored own => (fits_stocks fits projectId doc stored
      own).1) ?_ ?_ moved
    · intro call member own body now id writing
      obtain ⟨store, accepted⟩ := sound.checked call member _ writing
      have within := (fits.calls call member own (unanswered writing)).1
      obtain ⟨tenant, request, phase⟩ := call
      cases check_computes accepted with
      | createProject room => exact within _ rfl
    · intro call member own projectId basis write updatedAt writing doc within
      obtain ⟨store, accepted⟩ := sound.checked call member _ writing
      exact sessionTtl_write (fits.calls call member own (unanswered writing))
        (check_computes accepted) within
  refine ⟨?_, ?_, calls_fit sound fits current moved, keeps.pending⟩
  · intro doc member own
    obtain ⟨projectId, stored⟩ := Tables.mem_rows.mp member
    exact ⟨ttls projectId doc stored own, keeps.stored projectId doc stored own⟩
  · intro config member own
    rcases repo_moved moved with same | ⟨_, repoMoved⟩
    · rw [same] at member
      exact fits.underway config member own
    · rcases ProjectRepo.State.underway_moved repoMoved member with old | ⟨projectId, doc, stored, rfl⟩
      · exact fits.underway config old own
      · exact fits_stocks fits projectId doc stored own

theorem fits_unknown {rest : Rest} (sound : Sound rest) (rostered : Rostered rest)
    {tenantId : String} (absent : rest.tenants.lookup tenantId = none) (plan : Plan) :
    rest.Fits tenantId plan := by
  have noDoc : ∀ projectId doc, rest.repo.store.projects.lookup projectId = some doc →
      doc.tenantId ≠ tenantId := by
    rintro projectId doc stored rfl
    have known := rostered.projects projectId doc stored
    rw [absent] at known
    cases known
  have noCall : ∀ call ∈ rest.calls, call.tenant.id ≠ tenantId := by
    rintro call member rfl
    have known := rostered.calls call member
    rw [absent] at known
    cases known
  refine ⟨?_, ?_, fun call member own => absurd own (noCall call member),
    fun call member own => absurd own (noCall call member)⟩
  · intro doc member own
    obtain ⟨projectId, stored⟩ := Tables.mem_rows.mp member
    exact absurd own (noDoc projectId doc stored)
  · intro config member own
    have holds : ProjectRepo.State.Holds rest.repo config := by
      rcases ProjectRepo.State.mem_underway.mp member with ⟨projectId, hit⟩ |
        ⟨read, there, doc, phase, rfl⟩
      · obtain ⟨entry, listed, rfl⟩ := ProjectRepo.getProjectConfig_some hit
        exact .cached listed
      · exact .read there (by rw [phase]; rfl)
    obtain ⟨doc, stored, tenant⟩ := sound.owned config holds
    exact absurd (tenant.trans own) (noDoc _ doc stored)

end Rest

namespace Service

variable {hasher : AuthTokenRepo.PasswordHasher}

/-! ## What handshakes hold for a tenant -/

def offered (service : Service) (socket : Socket) : Option ProjectConfig :=
  match socket.phase with
  | .configuring read => (service.configResult read).join
  | .fetchingTenant config => some config
  | _ => none

structure Fits (tenantId : String) (plan : Plan) (service : Service) : Prop where
  rest : service.rest.Fits tenantId plan
  sockets : ∀ socket ∈ service.sockets, ∀ config ∈ service.offered socket,
    config.tenantId = tenantId → ConfigFits plan config

/-- A plan is changed to one whose caps all that is held for the tenant is within. -/
def ChangesFit (service : Service) : ServiceEvent → Prop
  | .rest (.changeTenant tenantId (.plan plan)) => service.Fits tenantId plan
  | _ => True

instance (tenantId : String) (plan : Plan) (service : Service) :
    Decidable (service.Fits tenantId plan) :=
  decidable_of_iff (service.rest.Fits tenantId plan ∧ ∀ socket ∈ service.sockets,
      ∀ config ∈ service.offered socket, config.tenantId = tenantId → ConfigFits plan config)
    ⟨fun both => ⟨both.1, both.2⟩, fun fits => ⟨fits.rest, fits.sockets⟩⟩

instance (service : Service) : (event : ServiceEvent) → Decidable (ChangesFit service event)
  | .rest (.changeTenant tenantId (.plan plan)) =>
      inferInstanceAs (Decidable (service.Fits tenantId plan))
  | .rest (.changeTenant _ (.active _)) | .rest (.changeTenant _ (.suspended _))
  | .rest (.register ..) | .rest (.authenticate ..) | .rest (.read _) | .rest (.write ..)
  | .rest (.repo _) | .tick _ | .node _ | .requestToken .. | .tokenStep .. | .accept _
  | .socketStep .. => isTrue trivial

/-- The sessions that handshakes opened are within the caps of the plan that the handshake
found. -/
def SessionsWithinPlan (service : Service) : Prop :=
  ∀ socket ∈ service.sockets, ∀ sessionId, socket.phase = .connected sessionId →
    ∀ resolved ∈ socket.resolved, ConfigFits resolved.tenantPlan resolved.config

/-! ## The invariant -/

/-- What the checks of a handshake have found so far. -/
def PhaseFits (authority : Option Authority) : SocketPhase → Prop
  | .fetchingTenant config => ∃ owner, authority = some owner ∧ config.tenantId = owner.tenantId
  | .measuring config tenant _ _ => ConfigFits tenant.plan config
  | _ => True

structure SocketFits (socket : Socket) : Prop where
  phase : PhaseFits socket.authority socket.phase
  resolved : ∀ resolved ∈ socket.resolved, ConfigFits resolved.tenantPlan resolved.config

structure Fitted (service : Service) : Prop where
  placed : Placed service
  rostered : service.rest.Rostered
  fits : ∀ tenantId tenant, service.rest.tenants.lookup tenantId = some tenant →
    service.Fits tenantId tenant.plan
  sockets : ∀ socket ∈ service.sockets, SocketFits socket

theorem configResult_join {service : Service} {read : Nat} {config : ProjectConfig} :
    config ∈ (service.configResult read).join ↔
      ∃ call, service.rest.repo.reads[read]? = some call ∧
        call.phase = .returned (some config) := by
  rw [Option.mem_def, Option.join_eq_some_iff]
  constructor
  · exact configResult_some
  · rintro ⟨⟨projectId, tenantId, floor, phase⟩, found, rfl⟩
    simp [configResult, found]

theorem rest_step {service next : Service} {event : ServiceEvent}
    (run : service.step hasher event = some next) :
    next.rest = service.rest ∨
    (∃ repoEvent, service.rest.step hasher (.repo repoEvent) = some next.rest) ∨
    ∃ restEvent, event = .rest restEvent ∧ service.rest.step hasher restEvent = some next.rest := by
  cases event with
  | tick elapsed =>
      simp only [step] at run
      obtain ⟨rest, ticked, after⟩ := Option.bind_eq_some_iff.mp run
      obtain ⟨node, _, rfl⟩ := Option.map_eq_some_iff.mp after
      exact Or.inr (Or.inl ⟨_, ticked⟩)
  | rest event =>
      simp only [step] at run
      split at run
      · cases run
      · obtain ⟨rest, stepped, rfl⟩ := Option.map_eq_some_iff.mp run
        exact Or.inr (Or.inr ⟨event, rfl, stepped⟩)
  | node event =>
      cases step_moved run with
      | noded quiet stepped => exact Or.inl rfl
  | requestToken header request =>
      cases step_moved run with
      | requested start => exact Or.inl rfl
  | tokenStep call rawToken =>
      cases step_moved run with
      | keyVerified found secret => exact Or.inr (Or.inl ⟨.getConfig _ _, rfl⟩)
      | _ => exact Or.inl rfl
  | accept handshake =>
      cases step_moved run with
      | accepted => exact Or.inl rfl
  | socketStep socket uuid =>
      cases step_moved run with
      | asked found authorized same => exact Or.inr (Or.inl ⟨.getConfig _ _, rfl⟩)
      | _ => exact Or.inl rfl

theorem result_moved {service next : Service} {event : ServiceEvent}
    (moved : Moved hasher service event next) {read : Nat} {config : ProjectConfig}
    (result : config ∈ (next.configResult read).join) :
    config ∈ (service.configResult read).join ∨ config ∈ service.rest.repo.underway := by
  obtain ⟨call, found, phase⟩ := configResult_join.mp result
  rcases repo_moved moved with same | ⟨_, repoMoved⟩
  · exact Or.inl (configResult_join.mpr ⟨call, same ▸ found, phase⟩)
  · rcases ProjectRepo.State.returned_moved repoMoved found phase with old | underway
    · exact Or.inl (configResult_join.mpr ⟨call, old, phase⟩)
    · exact Or.inr underway

theorem offered_moved {service next : Service} {event : ServiceEvent}
    (moved : Moved hasher service event next) {place : Nat} {socket : Socket}
    (found : next.sockets[place]? = some socket) {config : ProjectConfig}
    (offer : config ∈ next.offered socket) :
    (∃ before ∈ service.sockets, config ∈ service.offered before) ∨
      config ∈ service.rest.repo.underway := by
  rcases (sockets_moved moved).source found with old | ⟨_, handshake, rfl⟩ | ⟨before, there, change⟩
  · have member := List.mem_of_getElem? old
    unfold offered at offer
    split at offer
    · rename_i read phase
      refine (result_moved moved offer).imp_left fun result => ⟨socket, member, ?_⟩
      simp only [offered, phase]
      exact result
    · rename_i same phase
      refine Or.inl ⟨socket, member, ?_⟩
      simp only [offered, phase]
      exact offer
    · cases offer
  · have nothing : ∀ handshake, next.offered (Chat.accept handshake) = none := by
      intro handshake
      simp only [offered, Chat.accept]
      cases handshake.credential with
      | error close => rfl
      | ok credential => cases credential <;> rfl
    cases (nothing handshake).symm.trans offer
  · have member := List.mem_of_getElem? there
    cases change with
    | turned turn =>
        cases turn with
        | @configured authority read result authorized phase returned =>
            cases offer
            refine Or.inl ⟨before, member, ?_⟩
            simp [offered, phase, returned]
        | _ => cases offer
    | redeemed phase live => cases offer
    | limited authorized waits =>
        rcases waits with ⟨window, count, rfl⟩ | ⟨close, rfl⟩
        · cases offer
        · cases offer
    | asked authorized asked =>
        rcases result_moved moved offer with result | underway
        · obtain ⟨call, stored, _⟩ := configResult_join.mp result
          have inside := (List.getElem?_eq_some_iff.mp stored).1
          exact absurd inside (Nat.lt_irrefl _)
        · exact Or.inr underway
    | entered returned sessionId => cases offer

/-- While the tenant stays on the plan, what is held for it stays within the caps. -/
theorem fits_moved {service next : Service} {event : ServiceEvent} {tenantId : String}
    {plan : Plan} (sound : service.rest.Sound) (fits : service.Fits tenantId plan)
    (current : ∀ tenant, service.rest.tenants.lookup tenantId = some tenant → tenant.plan = plan)
    (moved : Moved hasher service event next) : next.Fits tenantId plan := by
  constructor
  · rcases rest_moved moved with same | ⟨_, restMoved⟩
    · rw [same]
      exact fits.rest
    · exact Rest.fits_moved sound fits.rest current restMoved
  · intro socket member config offer own
    obtain ⟨place, found⟩ := List.mem_iff_getElem?.mp member
    rcases offered_moved moved found offer with ⟨before, old, offered⟩ | underway
    · exact fits.sockets before old config offered own
    · exact fits.rest.underway config underway own

theorem fits_unknown {service : Service} (fitted : Fitted service) {tenantId : String}
    (absent : service.rest.tenants.lookup tenantId = none) (plan : Plan) :
    service.Fits tenantId plan := by
  refine ⟨Rest.fits_unknown fitted.placed.sound fitted.rostered absent plan, ?_⟩
  intro socket member config offer own
  have stored : ∃ projectId doc, service.rest.repo.store.projects.lookup projectId = some doc ∧
      doc.tenantId = tenantId := by
    unfold offered at offer
    split at offer
    · obtain ⟨call, found, phase⟩ := configResult_join.mp offer
      have holds : ProjectRepo.State.Holds service.rest.repo config :=
        .read (List.mem_of_getElem? found) (by rw [phase]; rfl)
      obtain ⟨doc, stored, tenant⟩ := fitted.placed.sound.owned config holds
      exact ⟨_, doc, stored, tenant.trans own⟩
    · rename_i same phase
      cases offer
      have found := (fitted.sockets socket member).phase
      rw [phase] at found
      obtain ⟨authority, authorized, tenant⟩ := found
      obtain ⟨doc, stored, owner⟩ :=
        (fitted.placed.sockets socket member).stored authority authorized
      exact ⟨_, doc, stored, owner.trans (tenant.symm.trans own)⟩
    · cases offer
  obtain ⟨projectId, doc, found, rfl⟩ := stored
  have known := fitted.rostered.projects projectId doc found
  rw [absent] at known
  cases known

/-! ## A step -/

/-- The configuration that the tenant was found for is within the caps of the tenant's plan. -/
theorem fits_fetched {service : Service} (fitted : Fitted service) {socket : Socket}
    (member : socket ∈ service.sockets) {authority : Authority} {config : ProjectConfig}
    {tenant : TenantDoc} (authorized : socket.authority = some authority)
    (phase : socket.phase = .fetchingTenant config)
    (stored : service.rest.tenants.lookup authority.tenantId = some tenant) :
    ConfigFits tenant.plan config := by
  have found := (fitted.sockets socket member).phase
  rw [phase] at found
  obtain ⟨other, same, own⟩ := found
  cases Option.some.inj (authorized.symm.trans same)
  refine (fitted.fits authority.tenantId tenant stored).sockets socket member config ?_ own
  simp only [offered, phase]
  exact rfl

theorem socketFits_turn {service : Service} (fitted : Fitted service) {socket after : Socket}
    (member : socket ∈ service.sockets) (turn : SocketTurn hasher service socket after) :
    SocketFits after := by
  have before := fitted.sockets socket member
  cases turn with
  | @configured authority read config authorized phase returned =>
      have asked := (fitted.placed.sockets socket member).asked authority authorized read phase
      exact ⟨⟨authority, authorized, (own_of_asked fitted.placed asked returned).2⟩,
        before.resolved⟩
  | measuring authorized phase stored limited =>
      exact ⟨fits_fetched fitted member authorized phase stored, before.resolved⟩
  | unlimited authorized phase stored free =>
      refine ⟨trivial, fun resolved same => ?_⟩
      cases same
      exact fits_fetched fitted member authorized phase stored
  | within authorized phase room =>
      refine ⟨trivial, fun resolved same => ?_⟩
      cases same
      have found := before.phase
      rw [phase] at found
      exact found
  | _ => exact ⟨trivial, before.resolved⟩

theorem socketFits_moved {service next : Service} {event : ServiceEvent} (fitted : Fitted service)
    (moved : Moved hasher service event next) :
    ∀ socket ∈ next.sockets, SocketFits socket := by
  intro socket member
  obtain ⟨place, found⟩ := List.mem_iff_getElem?.mp member
  rcases (sockets_moved moved).source found with old | ⟨_, handshake, rfl⟩ | ⟨before, there, change⟩
  · exact fitted.sockets socket (List.mem_of_getElem? old)
  · constructor
    · simp only [Chat.accept]
      split <;> trivial
    · intro resolved same
      cases same
  · have old := List.mem_of_getElem? there
    have fits := fitted.sockets before old
    cases change with
    | turned turn => exact socketFits_turn fitted old turn
    | redeemed phase live => exact ⟨trivial, fits.resolved⟩
    | limited authorized waits =>
        rcases waits with ⟨window, count, rfl⟩ | ⟨close, rfl⟩
        · exact ⟨trivial, fits.resolved⟩
        · exact ⟨trivial, fits.resolved⟩
    | asked authorized asked => exact ⟨trivial, fits.resolved⟩
    | entered returned sessionId => exact ⟨trivial, fits.resolved⟩

/-- A change of the plan leaves alone what is held. -/
theorem fits_changed {service next : Service} {tenantId : String} {change : TenantChange}
    {plan : Plan} (fits : service.Fits tenantId plan)
    (run : service.step hasher (.rest (.changeTenant tenantId change)) = some next) :
    next.Fits tenantId plan := by
  cases run
  exact ⟨⟨fits.rest.stored, fits.rest.underway, fits.rest.calls, fits.rest.pending⟩, fits.sockets⟩

theorem fitted_step {service next : Service} {event : ServiceEvent} (fitted : Fitted service)
    (changes : service.ChangesFit event) (run : service.step hasher event = some next) :
    Fitted next := by
  have moved := step_moved run
  have sound := fitted.placed.sound
  refine ⟨placed_moved fitted.placed moved, ?_, ?_, socketFits_moved fitted moved⟩
  · rcases rest_step run with same | ⟨_, stepped⟩ | ⟨_, _, stepped⟩
    · rw [same]
      exact fitted.rostered
    · exact Rest.rostered_step sound fitted.rostered stepped
    · exact Rest.rostered_step sound fitted.rostered stepped
  · intro tenantId tenant found
    -- the plan before the step is the one after it
    have kept : ∀ before, service.rest.tenants.lookup tenantId = some before →
        before.plan = tenant.plan → next.Fits tenantId tenant.plan := by
      intro before stored plan
      refine fits_moved sound (plan ▸ fitted.fits tenantId before stored) ?_ moved
      intro other stored'
      cases Option.some.inj (stored.symm.trans stored')
      exact plan
    have unknown : service.rest.tenants.lookup tenantId = none →
        next.Fits tenantId tenant.plan := by
      intro absent
      refine fits_moved sound (fits_unknown fitted absent tenant.plan) ?_ moved
      intro other stored'
      cases absent.symm.trans stored'
    rcases rest_step run with same | ⟨repoEvent, stepped⟩ | ⟨restEvent, rfl, stepped⟩
    · rw [same] at found
      exact kept tenant found rfl
    · rcases (Rest.tenants_step stepped).plan found with ⟨before, stored, plan⟩ | other | absent
      · exact kept before stored plan
      · cases other
      · exact unknown absent
    · rcases (Rest.tenants_step stepped).plan found with ⟨before, stored, plan⟩ | rfl | absent
      · exact kept before stored plan
      · exact fits_changed changes run
      · exact unknown absent

theorem fitted_initial (now : Instant) (clock : Clock) : Fitted (initial now clock) := by
  refine ⟨placed_initial now clock, Rest.rostered_initial now, ?_,
    fun _ member => absurd member List.not_mem_nil⟩
  intro tenantId tenant found
  cases found

/-- While every change of a plan finds the tenant within the new caps, every session is opened
within the caps of the plan that its handshake found. -/
theorem sessionsWithinPlan_of_changesFit (hasher : AuthTokenRepo.PasswordHasher) (now : Instant)
    (clock : Clock) (events : List ServiceEvent)
    (changes : Along (step hasher) ChangesFit (initial now clock) events) :
    Always (step hasher) SessionsWithinPlan (initial now clock) events := by
  have always : Always (step hasher) Fitted (initial now clock) events := by
    refine always_of_along Fitted ?_ (fitted_initial now clock) changes
    intro service event next fitted met run
    exact fitted_step fitted met run
  refine always.mono fun service fitted socket member sessionId connected resolved returned => ?_
  exact (fitted.sockets socket member).resolved resolved returned

/-- Tenant `t` on the given plan gets a project and a key; after another change of the plan a
browser connects with the key. -/
def connectAfter (first second : Plan) : List ServiceEvent :=
  [.rest (.register "t" "Tenant" "t@example.com"), .rest (.changeTenant "t" (.plan first)),
    .rest (.authenticate "t" (.createProject Rest.sampleProject)), .rest (.read 0),
    .rest (.write 0 (Rest.sampleRandom "p")),
    .rest (.authenticate "t" (.createKey "p" {})), .rest (.read 1),
    .rest (.write 1 (Rest.sampleRandom "k")), .rest (.changeTenant "t" (.plan second)),
    .accept { apiKey := some "pk_live_body" }, .socketStep 0 "", .socketStep 0 "",
    .socketStep 0 "", .socketStep 0 "", .rest (.repo (.redisGet 0)),
    .rest (.repo (.findOne 0)), .rest (.repo (.redisSet 0)), .socketStep 0 "", .socketStep 0 "",
    .socketStep 0 "", .socketStep 0 "s"]

theorem sessionsWithinPlan_upgrade : Always (step AuthTokenRepo.plainHasher) SessionsWithinPlan
    (initial 0 ⟨0, 0⟩) (connectAfter .free .starter) :=
  sessionsWithinPlan_of_changesFit AuthTokenRepo.plainHasher 0 ⟨0, 0⟩ _ (by decide)

/-- The project keeps the two minutes of the starter plan on the free plan, which has one. -/
theorem sessionsWithinPlan_fails :
    ¬ ∀ (hasher : AuthTokenRepo.PasswordHasher) (now : Instant) (clock : Clock)
      (events : List ServiceEvent),
      Always (step hasher) SessionsWithinPlan (initial now clock) events := by
  intro always
  have shape : (exec (step AuthTokenRepo.plainHasher) (initial 0 ⟨0, 0⟩)
      (connectAfter .starter .free)).map (fun final => (final.sockets[0]?).map fun socket =>
        (socket.phase, socket.resolved.map fun resolved =>
          (resolved.tenantPlan, resolved.config.sessionTtlSeconds))) =
      some (some (.connected "s", some (.free, 120))) := by decide
  obtain ⟨final, run, look⟩ := Option.map_eq_some_iff.mp shape
  obtain ⟨socket, found, facts⟩ := Option.map_eq_some_iff.mp look
  obtain ⟨connected, values⟩ := Prod.mk.inj facts
  obtain ⟨resolved, returned, limits⟩ := Option.map_eq_some_iff.mp values
  obtain ⟨plan, ttl⟩ := Prod.mk.inj limits
  have within := (always AuthTokenRepo.plainHasher 0 ⟨0, 0⟩ (connectAfter .starter .free)).last run
    socket (List.mem_of_getElem? found) "s" connected resolved returned
  have capped := within.1
  rw [plan, ttl] at capped
  exact absurd capped (by decide)

end Service

end LiveChat.Api
