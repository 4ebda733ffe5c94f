import LiveChat.Api.ServiceSteps
import LiveChat.Foundation.TransitionSystem

/-!
# Configurations never cross tenants

A hit in the config cache is not filtered by the tenant.  It need not be: everything that
asks for a configuration names a stored project together with the tenant it belongs to,
and the cache holds under a project's id only configurations of that project.  `Placed`
follows the names from the stored keys through the authority of handshakes, the calls that
mint and rotate, and the payloads of the tokens.
-/

set_option autoImplicit false

namespace LiveChat.Api.Service

open LiveChat.Core
open LiveChat.Db
open LiveChat.Foundation
open LiveChat.Foundation.TransitionSystem
open LiveChat.Repositories
open LiveChat.Api.Chat (Authority Socket SocketPhase)
open LiveChat.Api.Tokens (Access TokenCall TokenPhase)

/-! ## The property -/

/-- A configuration that is returned is the one of the credential that asked for it. -/
structure ConfigsOwn (service : Service) : Prop where
  /-- `get_config_for_key` for `_require_secret_key`. -/
  tokenCalls : ∀ call ∈ service.tokenCalls, ∀ key read config,
    call.phase = .configuring key read → service.configResult read = some (some config) →
      config.projectId = key.projectId ∧ config.tenantId = key.tenantId
  /-- `get_config_for_key` and `get_config_by_id` for `_resolve_project`. -/
  sockets : ∀ socket ∈ service.sockets, ∀ authority ∈ socket.authority, ∀ read config,
    socket.phase = .configuring read → service.configResult read = some (some config) →
      config.projectId = Authority.projectId authority ∧
        config.tenantId = Authority.tenantId authority
  /-- Every call, after it returned to its caller too. -/
  reads : ∀ read ∈ service.rest.repo.reads, ∀ config, read.phase = .returned (some config) →
    config.projectId = read.projectId ∧ config.tenantId = read.tenantId

/-! ## The invariant -/

/-- What a token call will ask for or store names a stored project and its tenant. -/
def PlacedPhase (service : Service) : TokenPhase → Prop
  | .configuring key read =>
      service.rest.Stored key.projectId key.tenantId ∧
        service.Asked read key.projectId key.tenantId
  | .timing access _ | .peeking access _ _ | .consuming access _ _ _ =>
      service.rest.Stored access.config.projectId access.config.tenantId
  | .storing _ payload _ => service.rest.Stored payload.projectId payload.tenantId
  | .touching key => service.rest.Stored key.projectId key.tenantId
  | .lookingUp _ | .answered _ _ | .failed _ | .raised => True

structure PlacedSocket (service : Service) (socket : Socket) : Prop where
  stored : ∀ authority ∈ socket.authority,
    service.rest.Stored (Authority.projectId authority) (Authority.tenantId authority)
  asked : ∀ authority ∈ socket.authority, ∀ read, socket.phase = .configuring read →
    service.Asked read (Authority.projectId authority) (Authority.tenantId authority)
  touching : ∀ keyDoc, socket.phase = .touching keyDoc →
    service.rest.Stored keyDoc.projectId keyDoc.tenantId

structure Placed (service : Service) : Prop where
  sound : service.rest.Sound
  keyed : service.rest.repo.Keyed
  reads : ∀ read ∈ service.rest.repo.reads, service.rest.Stored read.projectId read.tenantId
  tokens : ∀ rawToken entry, service.redis.ephemeralTokens.lookup rawToken = some entry →
    service.rest.Stored entry.value.projectId entry.value.tenantId
  tokenCalls : ∀ call ∈ service.tokenCalls, service.PlacedPhase call.phase
  sockets : ∀ socket ∈ service.sockets, service.PlacedSocket socket

theorem placed_initial (now : Instant) (clock : Clock) : Placed (initial now clock) := by
  refine ⟨Rest.sound_initial now, ProjectRepo.State.keyed_initial now,
    fun read member => absurd member List.not_mem_nil, ?_,
    fun call member => absurd member List.not_mem_nil,
    fun socket member => absurd member List.not_mem_nil⟩
  intro rawToken entry listed
  cases listed

/-- The cache may answer, or the store: the configuration is that of the project asked for,
and the project has one tenant. -/
theorem own_of_returned {service : Service} (placed : Placed service) {read : ProjectRepo.ReadCall}
    (member : read ∈ service.rest.repo.reads) {config : ProjectConfig}
    (returned : read.phase = .returned (some config)) :
    config.projectId = read.projectId ∧ config.tenantId = read.tenantId := by
  have carries : read.phase.config = some config := by rw [returned]; rfl
  have project := placed.keyed.reads read member config carries
  obtain ⟨doc, stored, own⟩ := placed.sound.owned config (.read member carries)
  obtain ⟨same, stored', tenant⟩ := placed.reads read member
  rw [project] at stored
  cases Option.some.inj (stored.symm.trans stored')
  exact ⟨project, own.symm.trans tenant⟩

theorem own_of_asked {service : Service} (placed : Placed service) {read : Nat}
    {projectId tenantId : String} (asked : service.Asked read projectId tenantId)
    {config : ProjectConfig} (returned : service.configResult read = some (some config)) :
    config.projectId = projectId ∧ config.tenantId = tenantId := by
  obtain ⟨call, found, result⟩ := configResult_some returned
  obtain ⟨same, found', rfl, rfl⟩ := asked
  cases Option.some.inj (found.symm.trans found')
  exact own_of_returned placed (List.mem_of_getElem? found) result

theorem configsOwn_of_placed {service : Service} (placed : Placed service) :
    service.ConfigsOwn := by
  refine ⟨?_, ?_, fun read member config returned => own_of_returned placed member returned⟩
  · intro call member key read config phase returned
    have phasePlaced := placed.tokenCalls call member
    rw [phase] at phasePlaced
    exact own_of_asked placed phasePlaced.2 returned
  · intro socket member authority authorized read config phase returned
    exact own_of_asked placed ((placed.sockets socket member).asked authority authorized read phase)
      returned

/-! ## What was named stays named -/

variable {hasher : AuthTokenRepo.PasswordHasher}

theorem repo_moved {service next : Service} {event : ServiceEvent}
    (moved : Moved hasher service event next) :
    next.rest.repo = service.rest.repo ∨
      ∃ repoEvent, ProjectRepo.State.Moved service.rest.repo repoEvent next.rest.repo := by
  rcases rest_moved moved with same | ⟨_, restMoved⟩
  · exact Or.inl (by rw [same])
  · exact Rest.repo_moved restMoved

theorem asked_moved {service next : Service} {event : ServiceEvent}
    (moved : Moved hasher service event next) {read : Nat} {projectId tenantId : String}
    (asked : service.Asked read projectId tenantId) : next.Asked read projectId tenantId := by
  obtain ⟨call, found, project, tenant⟩ := asked
  rcases repo_moved moved with same | ⟨_, repoMoved⟩
  · exact ⟨call, by rw [same]; exact found, project, tenant⟩
  · obtain ⟨after, found', project', tenant'⟩ := ProjectRepo.State.read_kept repoMoved found
    exact ⟨after, found', project'.trans project, tenant'.trans tenant⟩

theorem placedPhase_moved {service next : Service} {event : ServiceEvent}
    (moved : Moved hasher service event next) {phase : TokenPhase}
    (placed : service.PlacedPhase phase) : next.PlacedPhase phase := by
  cases phase with
  | touching key => exact stored_moved moved placed
  | configuring key read => exact ⟨stored_moved moved placed.1, asked_moved moved placed.2⟩
  | timing access currentToken => exact stored_moved moved placed
  | peeking access currentToken oldTtl => exact stored_moved moved placed
  | consuming access currentToken oldTtl oldPayload => exact stored_moved moved placed
  | storing access payload consumed => exact stored_moved moved placed
  | _ => trivial

theorem placedSocket_moved {service next : Service} {event : ServiceEvent}
    (moved : Moved hasher service event next) {socket : Socket}
    (placed : service.PlacedSocket socket) : next.PlacedSocket socket :=
  ⟨fun authority authorized => stored_moved moved (placed.stored authority authorized),
    fun authority authorized read phase =>
      asked_moved moved (placed.asked authority authorized read phase),
    fun keyDoc phase => stored_moved moved (placed.touching keyDoc phase)⟩

/-- Every key that a raw key unlocks is placed. -/
theorem stored_of_verified {service : Service} (sound : service.rest.Sound) {rawKey : String}
    {doc : APIKeyDoc}
    (verified : APIKeyRepo.getByRawKey hasher service.rest.apiKeys rawKey = .ok (some doc)) :
    service.rest.Stored doc.projectId doc.tenantId :=
  sound.keys doc (APIKeyRepo.getByRawKey_some verified).1

theorem stored_of_live {service : Service} (placed : Placed service) {rawToken : String}
    {payload : TokenPayload}
    (live : service.redis.ephemeralTokens.get service.now rawToken = some payload) :
    service.rest.Stored payload.projectId payload.tenantId := by
  obtain ⟨entry, listed, _, rfl⟩ := ExpiringStore.get_eq_some.mp live
  exact placed.tokens rawToken entry listed

/-! ## A step -/

/-- What a token call turns to names what the call was placed with. -/
theorem placedPhase_turn {service : Service} (placed : Placed service) {call : TokenCall}
    {phase : TokenPhase} (before : service.PlacedPhase call.phase)
    (turn : TokenTurn hasher service call phase) : service.PlacedPhase phase := by
  cases turn with
  | failed early refusal => trivial
  | raised => trivial
  | keyFound verified => exact stored_of_verified placed.sound verified
  | @minting body key read config returned =>
      obtain ⟨project, tenant⟩ := own_of_asked placed before.2 returned
      simp only [PlacedPhase, Access.payload, Redis.newPayload, project, tenant]
      exact before.1
  | @rotating body key read config returned =>
      obtain ⟨project, tenant⟩ := own_of_asked placed before.2 returned
      simp only [PlacedPhase, project, tenant]
      exact before.1
  | timed oldTtl => exact before
  | peeked live own => exact before

theorem placedPhase_change {service next : Service} {event : ServiceEvent}
    (placed : Placed service) (moved : Moved hasher service event next) {call : TokenCall}
    {phase : TokenPhase} (before : service.PlacedPhase call.phase)
    (change : TokenChange hasher service next call phase) : next.PlacedPhase phase := by
  cases change with
  | turned turn => exact placedPhase_moved moved (placedPhase_turn placed before turn)
  | keyVerified secret asked => exact ⟨stored_moved moved before, asked⟩
  | consumed live => exact stored_moved moved before
  | stored response => trivial

/-- A turn gives a socket the authority of a verified key, or none that it had not. -/
theorem placedSocket_turn {service : Service} (placed : Placed service) {socket after : Socket}
    (before : service.PlacedSocket socket) (turn : SocketTurn hasher service socket after) :
    service.PlacedSocket after := by
  -- no turn ends at `get_config`
  have kept : ∀ phase, (∀ read, phase ≠ .configuring read) → (∀ keyDoc, phase ≠ .touching keyDoc) →
      service.PlacedSocket (socket.withPhase phase) := fun phase other apart =>
    ⟨before.stored, fun authority authorized read same => absurd same (other read),
      fun keyDoc same => absurd same (apart keyDoc)⟩
  cases turn with
  | tokenMissing phase absent => exact kept _ nofun nofun
  | keyRaised phase => exact kept _ nofun nofun
  | keyMissing phase => exact kept _ nofun nofun
  | keyFound phase verified =>
      refine ⟨before.stored, nofun, fun keyDoc same => ?_⟩
      cases same
      exact stored_of_verified placed.sound verified
  | keyTouched phase =>
      refine ⟨fun authority authorized => ?_, nofun, nofun⟩
      cases authorized
      exact before.touching _ phase
  | refused authorized close => exact kept _ nofun nofun
  | configured authorized phase returned => exact kept _ nofun nofun
  | measuring authorized phase stored limited => exact kept _ nofun nofun
  | unlimited authorized phase stored free => exact ⟨before.stored, nofun, nofun⟩
  | within authorized phase room => exact ⟨before.stored, nofun, nofun⟩

theorem placedSocket_change {service next : Service} {event : ServiceEvent}
    (placed : Placed service) (moved : Moved hasher service event next) {socket after : Socket}
    (before : service.PlacedSocket socket)
    (change : SocketChange hasher service next socket after) : next.PlacedSocket after := by
  have later := placedSocket_moved moved before
  cases change with
  | turned turn => exact placedSocket_moved moved (placedSocket_turn placed before turn)
  | redeemed phase live =>
      refine ⟨fun authority authorized => ?_, nofun, nofun⟩
      cases authorized
      exact stored_moved moved (stored_of_live placed live)
  | limited authorized waits =>
      rcases waits with ⟨window, count, rfl⟩ | ⟨close, rfl⟩
      · exact ⟨later.stored, nofun, nofun⟩
      · exact ⟨later.stored, nofun, nofun⟩
  | asked authorized asked =>
      refine ⟨later.stored, fun authority same read phase => ?_, nofun⟩
      cases authorized.symm.trans same
      cases phase
      exact asked
  | entered returned sessionId =>
      exact ⟨later.stored, nofun, nofun⟩

theorem reads_moved {service next : Service} {event : ServiceEvent} (placed : Placed service)
    (moved : Moved hasher service event next) :
    ∀ read ∈ next.rest.repo.reads, next.rest.Stored read.projectId read.tenantId := by
  have held : ∀ {projectId tenantId : String}, service.rest.Stored projectId tenantId →
      next.rest.Stored projectId tenantId := fun stored => stored_moved moved stored
  have kept : ∀ read ∈ service.rest.repo.reads,
      next.rest.Stored read.projectId read.tenantId :=
    fun read member => held (placed.reads read member)
  -- a step of the REST layer that does not ask leaves the names of the reads
  have quietly : ∀ {restEvent : RestEvent}, Rest.Moved hasher service.rest restEvent next.rest →
      (∀ projectId tenantId, restEvent ≠ .repo (.getConfig projectId tenantId)) →
      ∀ read ∈ next.rest.repo.reads, next.rest.Stored read.projectId read.tenantId := by
    intro restEvent restMoved silent read member
    rcases Rest.read_moved restMoved member with ⟨before, old, project, tenant⟩ | asked
    · rw [project, tenant]
      exact kept before old
    · exact absurd asked (silent _ _)
  cases moved with
  | ticked restMoved later nodeRun => exact quietly restMoved (fun _ _ same => by cases same)
  | @rested event _ quiet restMoved =>
      refine quietly restMoved fun projectId tenantId same => ?_
      subst same
      cases quiet
  | @keyVerified index rawToken request key found secret =>
      intro read member
      rcases List.mem_append.mp member with old | new
      · exact kept read old
      · cases List.mem_singleton.mp new
        exact held (placed.tokenCalls _ (List.mem_of_getElem? found))
  | @asked index uuid socket authority redis found authorized same =>
      intro read member
      rcases List.mem_append.mp member with old | new
      · exact kept read old
      · cases List.mem_singleton.mp new
        exact (placed.sockets socket (List.mem_of_getElem? found)).stored authority authorized
  | _ => exact kept

theorem tokens_moved {service next : Service} {event : ServiceEvent} (placed : Placed service)
    (moved : Moved hasher service event next) :
    ∀ rawToken entry, next.redis.ephemeralTokens.lookup rawToken = some entry →
      next.rest.Stored entry.value.projectId entry.value.tenantId := by
  intro rawToken entry listed
  rcases token_source moved listed with old | ⟨index, _, _, _, issue, there, _, rfl⟩
  · exact stored_moved moved (placed.tokens rawToken entry old)
  · exact stored_moved moved (placed.tokenCalls _ (List.mem_of_getElem? there))

theorem tokenCalls_moved {service next : Service} {event : ServiceEvent} (placed : Placed service)
    (moved : Moved hasher service event next) :
    ∀ call ∈ next.tokenCalls, next.PlacedPhase call.phase := by
  intro call member
  obtain ⟨place, found⟩ := List.mem_iff_getElem?.mp member
  rcases (calls_moved moved).source found with old | ⟨_, start⟩ | ⟨before, there, _, change⟩
  · exact placedPhase_moved moved (placed.tokenCalls call (List.mem_of_getElem? old))
  · rcases start with ⟨refusal, failed⟩ | ⟨rawKey, started⟩
    · rw [failed]
      trivial
    · rw [started]
      trivial
  · exact placedPhase_change placed moved (placed.tokenCalls before (List.mem_of_getElem? there))
      change

theorem sockets_placed_moved {service next : Service} {event : ServiceEvent}
    (placed : Placed service) (moved : Moved hasher service event next) :
    ∀ socket ∈ next.sockets, next.PlacedSocket socket := by
  intro socket member
  obtain ⟨place, found⟩ := List.mem_iff_getElem?.mp member
  rcases (sockets_moved moved).source found with old | ⟨_, handshake, rfl⟩ | ⟨before, there, change⟩
  · exact placedSocket_moved moved (placed.sockets socket (List.mem_of_getElem? old))
  · have none : (Chat.accept handshake).authority = none := rfl
    refine ⟨?_, ?_, fun keyDoc same => absurd same (Chat.accept_untouched handshake keyDoc)⟩
    · intro authority authorized
      cases none.symm.trans authorized
    · intro authority authorized
      cases none.symm.trans authorized
  · exact placedSocket_change placed moved (placed.sockets before (List.mem_of_getElem? there))
      change

theorem placed_moved {service next : Service} {event : ServiceEvent} (placed : Placed service)
    (moved : Moved hasher service event next) : Placed next where
  sound := sound_moved moved placed.sound
  keyed := by
    rcases repo_moved moved with same | ⟨_, repoMoved⟩
    · rw [same]
      exact placed.keyed
    · exact ProjectRepo.State.keyed_moved placed.sound.identified placed.keyed repoMoved
  reads := reads_moved placed moved
  tokens := tokens_moved placed moved
  tokenCalls := tokenCalls_moved placed moved
  sockets := sockets_placed_moved placed moved

/-- In every state of every run, whatever the calls, tokens, handshakes and cache entries. -/
theorem configs_own (hasher : AuthTokenRepo.PasswordHasher) (now : Instant) (clock : Clock)
    (events : List ServiceEvent) :
    Always (step hasher) ConfigsOwn (initial now clock) events := by
  refine always_iff_reached.mpr fun front back middle split run => ?_
  apply configsOwn_of_placed
  exact exec_invariant Placed
    (fun _ _ _ placed stepped => placed_moved placed (step_moved stepped))
    (placed_initial now clock) run

end LiveChat.Api.Service
