import LiveChat.Api.RestSteps
import LiveChat.Api.Service
import LiveChat.Core.SessionManagerSteps

/-!
# What a step of the service can do

`step_moved` sorts the steps by what they change.  A call or a socket that goes on without
touching a store makes a `TokenTurn` or a `SocketTurn`.
-/

set_option autoImplicit false

namespace LiveChat.Api

open LiveChat.Core
open LiveChat.Core.SessionManager (Node NodeEvent Record)
open LiveChat.Db
open LiveChat.Foundation
open LiveChat.Repositories
open LiveChat.Api.Chat (Authority Close Handshake Resolved Socket SocketPhase)
open LiveChat.Api.Tokens (Access TokenCall TokenPhase TokenRequest)

namespace Service

/-! ## Turns that touch no store -/

/-- A token call goes on, or ends without an answer. -/
inductive TokenTurn (hasher : AuthTokenRepo.PasswordHasher) (service : Service) :
    TokenCall → TokenPhase → Prop where
  | failed {call : TokenCall} (early : ∀ access payload consumed,
      call.phase ≠ .storing access payload consumed) (refusal : Projects.HTTPException) :
      TokenTurn hasher service call (.failed refusal)
  | raised {request : TokenRequest} {rawKey : String} :
      TokenTurn hasher service ⟨request, .lookingUp rawKey⟩ .raised
  | keyFound {request : TokenRequest} {rawKey : String} {key : APIKeyDoc}
      (verified : APIKeyRepo.getByRawKey hasher service.rest.apiKeys rawKey = .ok (some key)) :
      TokenTurn hasher service ⟨request, .lookingUp rawKey⟩ (.touching key)
  | minting {body : Tokens.CreateTokenRequest} {key : APIKeyDoc} {read : Nat}
      {config : ProjectConfig} (returned : service.configResult read = some (some config)) :
      TokenTurn hasher service ⟨.create body, .configuring key read⟩
        (.storing ⟨key, config⟩
          (Access.payload ⟨key, config⟩ service.now body.ttlSeconds body.metadata) none)
  | rotating {body : Tokens.RotateTokenRequest} {key : APIKeyDoc} {read : Nat}
      {config : ProjectConfig} (returned : service.configResult read = some (some config)) :
      TokenTurn hasher service ⟨.rotate body, .configuring key read⟩
        (.timing ⟨key, config⟩ body.currentToken)
  | timed {request : TokenRequest} {access : Access} {currentToken : String} (oldTtl : Int) :
      TokenTurn hasher service ⟨request, .timing access currentToken⟩
        (.peeking access currentToken oldTtl)
  | peeked {request : TokenRequest} {access : Access} {currentToken : String} {oldTtl : Int}
      {oldPayload : TokenPayload}
      (live : service.redis.ephemeralTokens.get service.now currentToken = some oldPayload)
      (own : oldPayload.projectId = access.config.projectId) :
      TokenTurn hasher service ⟨request, .peeking access currentToken oldTtl⟩
        (.consuming access currentToken oldTtl oldPayload)

/-- A handshake goes on, or ends. -/
inductive SocketTurn (hasher : AuthTokenRepo.PasswordHasher) (service : Service)
    (socket : Socket) : Socket → Prop where
  | tokenMissing {rawToken : String} (phase : socket.phase = .redeeming rawToken)
      (absent : service.redis.ephemeralTokens.get service.now rawToken = none) :
      SocketTurn hasher service socket (socket.refuse Chat.tokenInvalid)
  | keyRaised {rawKey : String} (phase : socket.phase = .lookingUp rawKey) :
      SocketTurn hasher service socket (socket.withPhase .raised)
  | keyMissing {rawKey : String} (phase : socket.phase = .lookingUp rawKey) :
      SocketTurn hasher service socket (socket.refuse Chat.keyInvalid)
  | keyFound {rawKey : String} {doc : APIKeyDoc} (phase : socket.phase = .lookingUp rawKey)
      (verified : APIKeyRepo.getByRawKey hasher service.rest.apiKeys rawKey = .ok (some doc)) :
      SocketTurn hasher service socket (socket.withPhase (.touching doc))
  | keyTouched {doc : APIKeyDoc} (phase : socket.phase = .touching doc) :
      SocketTurn hasher service socket (socket.authorize (.ofKey doc) service.now)
  | refused {authority : Authority} (authorized : socket.authority = some authority)
      (close : Close) : SocketTurn hasher service socket (socket.refuse close)
  | configured {authority : Authority} {read : Nat} {config : ProjectConfig}
      (authorized : socket.authority = some authority) (phase : socket.phase = .configuring read)
      (returned : service.configResult read = some (some config)) :
      SocketTurn hasher service socket (socket.withPhase (.fetchingTenant config))
  | measuring {authority : Authority} {config : ProjectConfig} {tenant : TenantDoc} {quota : Nat}
      (authorized : socket.authority = some authority)
      (phase : socket.phase = .fetchingTenant config)
      (stored : service.rest.tenants.lookup authority.tenantId = some tenant)
      (limited : PlanLimits.dailyTokenQuota tenant.plan = some quota) :
      SocketTurn hasher service socket (socket.withPhase (.measuring config tenant quota
        (SessionRepo.startOfDay service.node.clock.utc)))
  | unlimited {authority : Authority} {config : ProjectConfig} {tenant : TenantDoc}
      (authorized : socket.authority = some authority)
      (phase : socket.phase = .fetchingTenant config)
      (stored : service.rest.tenants.lookup authority.tenantId = some tenant)
      (free : PlanLimits.dailyTokenQuota tenant.plan = none) :
      SocketTurn hasher service socket
        (socket.resolve ⟨config, authority.apiKeyId, tenant.plan⟩)
  | within {authority : Authority} {config : ProjectConfig} {tenant : TenantDoc}
      {quota startOfDay : Nat} (authorized : socket.authority = some authority)
      (phase : socket.phase = .measuring config tenant quota startOfDay)
      (room : service.usage tenant.id startOfDay < quota) :
      SocketTurn hasher service socket
        (socket.resolve ⟨config, authority.apiKeyId, tenant.plan⟩)

/-! ## Steps -/

inductive Moved (hasher : AuthTokenRepo.PasswordHasher) (service : Service) :
    ServiceEvent → Service → Prop where
  | ticked {elapsed : Nat} {rest : Rest} {node : Node}
      (restMoved : Rest.Moved hasher service.rest (.repo (.tick elapsed)) rest)
      (later : rest.repo.store.now = service.now + elapsed)
      (nodeRun : service.node.step (.tick elapsed (service.node.clock.utc + elapsed)) =
        some node) :
      Moved hasher service (.tick elapsed) { service with rest := rest, node := node }
  | rested {event : RestEvent} {rest : Rest} (quiet : asksOrTicks event = false)
      (moved : Rest.Moved hasher service.rest event rest) :
      Moved hasher service (.rest event) { service with rest := rest }
  | noded {event : NodeEvent} {node : Node} (quiet : opensOrTicks event = false)
      (run : service.node.step event = some node) :
      Moved hasher service (.node event)
        { service with node := node, ended := service.ended ++ endedBy service.node node event }
  | requested {header : Option String} {request : TokenRequest} {phase : TokenPhase}
      (start : (∃ refusal, phase = .failed refusal) ∨ ∃ rawKey, phase = .lookingUp rawKey) :
      Moved hasher service (.requestToken header request)
        { service with tokenCalls := service.tokenCalls ++ [⟨request, phase⟩] }
  | tokenTurned {index : Nat} {rawToken : String} {call : TokenCall} {phase : TokenPhase}
      (found : service.tokenCalls[index]? = some call)
      (turn : TokenTurn hasher service call phase) :
      Moved hasher service (.tokenStep index rawToken) (service.setToken index phase)
  | keyVerified {index : Nat} {rawToken : String} {request : TokenRequest} {key : APIKeyDoc}
      (found : service.tokenCalls[index]? = some ⟨request, .touching key⟩)
      (secret : key.keyType = .secret) :
      Moved hasher service (.tokenStep index rawToken)
        ((service.ask key.projectId key.tenantId).setToken index
          (.configuring key service.nextRead))
  | consumed {index : Nat} {rawToken : String} {request : TokenRequest} {access : Access}
      {currentToken : String} {oldTtl : Int} {oldPayload payload : TokenPayload} {redis : Redis}
      (found : service.tokenCalls[index]? =
        some ⟨request, .consuming access currentToken oldTtl oldPayload⟩)
      (live : service.redis.ephemeralTokens.get service.now currentToken = some payload)
      (taken : redis.ephemeralTokens = service.redis.ephemeralTokens.erase currentToken) :
      Moved hasher service (.tokenStep index rawToken)
        ((service.withRedis redis).setToken index (.storing access
          (access.payload service.now request.ttlSeconds oldPayload.metadata)
          (some (currentToken, oldTtl))))
  | stored {index : Nat} {rawToken : String} {request : TokenRequest} {access : Access}
      {payload : TokenPayload} {consumed : Option (String × Int)}
      (found : service.tokenCalls[index]? = some ⟨request, .storing access payload consumed⟩)
      (fresh : service.issued.lookup rawToken = none) :
      Moved hasher service (.tokenStep index rawToken)
        ((service.storeToken index rawToken payload request.ttlSeconds consumed).setToken index
          (.answered (Tokens.respond rawToken payload request.ttlSeconds)
            (consumed.map Prod.snd)))
  | accepted {handshake : Handshake} :
      Moved hasher service (.accept handshake)
        { service with sockets := service.sockets ++ [Chat.accept handshake] }
  | socketTurned {index : Nat} {uuid : String} {socket after : Socket}
      (found : service.sockets[index]? = some socket)
      (turn : SocketTurn hasher service socket after) :
      Moved hasher service (.socketStep index uuid) (service.setSocket index after)
  | redeemed {index : Nat} {uuid rawToken : String} {socket : Socket} {payload : TokenPayload}
      {redis : Redis} (found : service.sockets[index]? = some socket)
      (phase : socket.phase = .redeeming rawToken)
      (live : service.redis.ephemeralTokens.get service.now rawToken = some payload)
      (taken : redis.ephemeralTokens = service.redis.ephemeralTokens.erase rawToken) :
      Moved hasher service (.socketStep index uuid)
        ((service.withRedis redis).setSocket index
          (socket.authorize (.ofToken payload) service.now))
  | limited {index : Nat} {uuid : String} {socket : Socket} {authority : Authority}
      {phase : SocketPhase} {redis : Redis} (found : service.sockets[index]? = some socket)
      (authorized : socket.authority = some authority)
      (waits : (∃ window count, phase = .arming window count) ∨ ∃ close, phase = .closed close)
      (same : redis.ephemeralTokens = service.redis.ephemeralTokens) :
      Moved hasher service (.socketStep index uuid)
        ((service.withRedis redis).setSocket index (socket.withPhase phase))
  | asked {index : Nat} {uuid : String} {socket : Socket} {authority : Authority} {redis : Redis}
      (found : service.sockets[index]? = some socket)
      (authorized : socket.authority = some authority)
      (same : redis.ephemeralTokens = service.redis.ephemeralTokens) :
      Moved hasher service (.socketStep index uuid)
        (((service.withRedis redis).ask authority.projectId authority.tenantId).setSocket index
          (socket.withPhase (.configuring service.nextRead)))
  | entered {index : Nat} {uuid sessionId : String} {socket : Socket} {resolved : Resolved}
      {node : Node} (found : service.sockets[index]? = some socket)
      (returned : socket.resolved = some resolved)
      (run : service.node.step (.getOrCreate sessionId resolved.config resolved.apiKeyId) =
        some node) :
      Moved hasher service (.socketStep index uuid)
        { service.setSocket index (socket.withPhase (.connected sessionId)) with node := node }

variable {hasher : AuthTokenRepo.PasswordHasher}

theorem configResult_some {service : Service} {read : Nat} {result : Option ProjectConfig}
    (returned : service.configResult read = some result) :
    ∃ call, service.rest.repo.reads[read]? = some call ∧ call.phase = .returned result := by
  simp only [configResult] at returned
  split at returned
  · rename_i found
    cases returned
    exact ⟨_, found, rfl⟩
  · cases returned

theorem admitTenant_ok {origin : Option String} {config : ProjectConfig}
    {tenant : Option TenantDoc} {admitted : TenantDoc}
    (ok : Chat.admitTenant origin config tenant = .ok admitted) : tenant = some admitted := by
  simp only [Chat.admitTenant] at ok
  split at ok
  · cases ok
  · split at ok
    · split at ok
      · cases ok
      · cases ok
        rfl
    · cases ok

theorem tokenTurn_begin {service : Service} {request : TokenRequest} {key : APIKeyDoc}
    {read : Nat} {config : ProjectConfig}
    (returned : service.configResult read = some (some config)) :
    TokenTurn hasher service ⟨request, .configuring key read⟩
      (request.begin ⟨key, config⟩ service.now) := by
  cases request with
  | create body =>
      simp only [TokenRequest.begin]
      split
      · exact .failed (fun _ _ _ same => by cases same) _
      · exact .minting returned
  | rotate body => exact .rotating returned

theorem stepToken_moved {service next : Service} {index : Nat} {rawToken : String}
    (run : service.stepToken hasher index rawToken = some next) :
    Moved hasher service (.tokenStep index rawToken) next := by
  simp only [stepToken] at run
  split at run
  · rename_i found
    split at run
    · cases run
      exact .tokenTurned found .raised
    · cases run
      exact .tokenTurned found (.failed (fun _ _ _ same => by cases same) _)
    · rename_i key verified
      cases run
      exact .tokenTurned found (.keyFound verified)
  · rename_i found
    split at run
    · cases run
      exact .tokenTurned found (.failed (fun _ _ _ same => by cases same) _)
    · rename_i key checked
      cases run
      obtain ⟨same, secret⟩ := Tokens.requireSecret_ok checked
      cases same
      exact .keyVerified found secret
  · rename_i found
    split at run
    · cases run
    · cases run
      exact .tokenTurned found (.failed (fun _ _ _ same => by cases same) _)
    · rename_i config returned
      cases run
      exact .tokenTurned found (tokenTurn_begin returned)
  · rename_i found
    cases run
    refine .tokenTurned found ?_
    unfold Tokens.meetTtl
    split
    · exact .failed (fun _ _ _ same => by cases same) _
    · exact .timed _
  · rename_i found
    cases run
    refine .tokenTurned found ?_
    unfold Tokens.meetPayload
    split
    · exact .failed (fun _ _ _ same => by cases same) _
    · rename_i oldPayload live
      split
      · rename_i own
        exact .peeked live own
      · exact .failed (fun _ _ _ same => by cases same) _
  · rename_i request access currentToken oldTtl oldPayload found
    rcases service.redis.redeemEphemeralToken_cases service.now currentToken with
      ⟨_, redeemed⟩ | ⟨payload, live, redeemed⟩
    · simp only [redeemed, Tokens.meetConsumed] at run
      cases run
      exact .tokenTurned found (.failed (fun _ _ _ same => by cases same) _)
    · simp only [redeemed, Tokens.meetConsumed] at run
      cases run
      exact .consumed found live rfl
  · rename_i found
    split at run
    · cases run
    · rename_i fresh
      cases run
      exact .stored found (Option.not_isSome_iff_eq_none.mp fresh)
  · cases run

theorem meetCount_moved {service : Service} {redis : Redis} {index : Nat} {uuid : String}
    {socket : Socket} {authority : Authority} (count : Nat)
    (found : service.sockets[index]? = some socket)
    (authorized : socket.authority = some authority)
    (same : redis.ephemeralTokens = service.redis.ephemeralTokens) :
    Moved hasher service (.socketStep index uuid)
      ((service.withRedis redis).meetCount index socket authority count) := by
  unfold meetCount
  split
  · exact .asked found authorized same
  · exact .limited found authorized (Or.inr ⟨_, rfl⟩) same

theorem enter_moved {service next : Service} {index : Nat} {uuid : String} {socket : Socket}
    {authority : Authority} {resolved : Resolved} (found : service.sockets[index]? = some socket)
    (authorized : socket.authority = some authority)
    (returned : socket.resolved = some resolved)
    (run : service.enter index socket resolved uuid = some next) :
    Moved hasher service (.socketStep index uuid) next := by
  simp only [enter] at run
  split at run
  · cases run
    exact .socketTurned found (.refused authorized _)
  · obtain ⟨node, stepped, rfl⟩ := Option.map_eq_some_iff.mp run
    exact .entered found returned stepped

theorem fetchingTenant_moved {service : Service} {index : Nat} {uuid : String} {socket : Socket}
    {authority : Authority} {config : ProjectConfig}
    (found : service.sockets[index]? = some socket)
    (authorized : socket.authority = some authority)
    (phase : socket.phase = .fetchingTenant config) :
    Moved hasher service (.socketStep index uuid) (service.setSocket index
      (socket.meetTenant authority config
        (TenantRepo.getById service.rest.tenants authority.tenantId)
        service.node.clock.utc)) := by
  refine .socketTurned found ?_
  unfold Socket.meetTenant
  split
  · exact .refused authorized _
  · rename_i tenant admitted
    have stored := admitTenant_ok admitted
    split
    · rename_i free
      exact .unlimited authorized phase stored free
    · rename_i quota limited
      exact .measuring authorized phase stored limited

theorem measuring_moved {service : Service} {index : Nat} {uuid : String} {socket : Socket}
    {authority : Authority} {config : ProjectConfig} {tenant : TenantDoc} {quota startOfDay : Nat}
    (found : service.sockets[index]? = some socket)
    (authorized : socket.authority = some authority)
    (phase : socket.phase = .measuring config tenant quota startOfDay) :
    Moved hasher service (.socketStep index uuid) (service.setSocket index
      (socket.meetUsage authority config tenant quota (service.usage tenant.id startOfDay))) := by
  refine .socketTurned found ?_
  unfold Socket.meetUsage
  split
  · exact .refused authorized _
  · rename_i room
    exact .within authorized phase (Nat.lt_of_not_le room)

theorem stepSocket_moved {service next : Service} {index : Nat} {uuid : String}
    (run : service.stepSocket hasher index uuid = some next) :
    Moved hasher service (.socketStep index uuid) next := by
  simp only [stepSocket] at run
  split at run
  · cases run
  · rename_i socket found
    split at run
    · rename_i rawToken phase
      rcases service.redis.redeemEphemeralToken_cases service.now rawToken with
        ⟨absent, redeemed⟩ | ⟨payload, live, redeemed⟩
      · simp only [redeemed] at run
        cases run
        exact .socketTurned found (.tokenMissing phase absent)
      · simp only [redeemed] at run
        cases run
        exact .redeemed found phase live rfl
    · rename_i phase
      split at run
      · cases run
        exact .socketTurned found (.keyRaised phase)
      · cases run
        exact .socketTurned found (.keyMissing phase)
      · rename_i doc verified
        cases run
        exact .socketTurned found (.keyFound phase verified)
    · rename_i phase
      cases run
      exact .socketTurned found (.keyTouched phase)
    · rename_i phase authorized
      split at run
      · cases run
        exact .limited found authorized (Or.inl ⟨_, _, rfl⟩) rfl
      · cases run
        exact meetCount_moved _ found authorized rfl
    · rename_i phase authorized
      cases run
      exact meetCount_moved _ found authorized rfl
    · rename_i phase authorized
      split at run
      · cases run
      · cases run
        exact .socketTurned found (.refused authorized _)
      · rename_i returned
        cases run
        exact .socketTurned found (.configured authorized phase returned)
    · rename_i phase authorized
      cases run
      exact fetchingTenant_moved found authorized phase
    · rename_i phase authorized
      cases run
      exact measuring_moved found authorized phase
    · rename_i phase authorized
      split at run
      · cases run
      · rename_i resolved returned
        exact enter_moved found authorized returned run
    · cases run

theorem step_moved {service next : Service} {event : ServiceEvent}
    (run : service.step hasher event = some next) : Moved hasher service event next := by
  cases event with
  | tick elapsed =>
      simp only [step] at run
      obtain ⟨rest, ticked, after⟩ := Option.bind_eq_some_iff.mp run
      obtain ⟨node, stepped, rfl⟩ := Option.map_eq_some_iff.mp after
      refine .ticked (Rest.step_moved ticked) ?_ stepped
      cases ticked
      rfl
  | rest event =>
      simp only [step] at run
      split at run
      · cases run
      · rename_i quiet
        obtain ⟨rest, stepped, rfl⟩ := Option.map_eq_some_iff.mp run
        exact .rested (Bool.eq_false_iff.mpr quiet) (Rest.step_moved stepped)
  | node event =>
      simp only [step] at run
      split at run
      · cases run
      · rename_i quiet
        obtain ⟨node, stepped, rfl⟩ := Option.map_eq_some_iff.mp run
        exact .noded (Bool.eq_false_iff.mpr quiet) stepped
  | requestToken header request =>
      cases run
      refine .requested ?_
      split
      · exact Or.inl ⟨_, rfl⟩
      · exact Or.inr ⟨_, rfl⟩
  | tokenStep call rawToken => exact stepToken_moved run
  | accept handshake =>
      cases run
      exact .accepted
  | socketStep socket uuid => exact stepSocket_moved run

/-! ## The REST layer in a step of the service -/

theorem ask_moved (service : Service) (projectId tenantId : String) :
    Rest.Moved hasher service.rest (.repo (.getConfig projectId tenantId))
      (service.ask projectId tenantId).rest := .stored rfl rfl

/-- The REST layer after a step is the one before, or one step further. -/
theorem rest_moved {service next : Service} {event : ServiceEvent}
    (moved : Moved hasher service event next) :
    next.rest = service.rest ∨ ∃ restEvent, Rest.Moved hasher service.rest restEvent next.rest := by
  cases moved with
  | ticked moved later nodeRun => exact Or.inr ⟨_, moved⟩
  | rested quiet moved => exact Or.inr ⟨_, moved⟩
  | keyVerified found secret => exact Or.inr ⟨_, ask_moved service _ _⟩
  | asked found authorized same => exact Or.inr ⟨_, ask_moved service _ _⟩
  | _ => exact Or.inl rfl

theorem sound_moved {service next : Service} {event : ServiceEvent}
    (moved : Moved hasher service event next) (sound : service.rest.Sound) : next.rest.Sound := by
  rcases rest_moved moved with same | ⟨_, restMoved⟩
  · rw [same]
    exact sound
  · exact Rest.sound_moved sound restMoved

theorem stored_moved {service next : Service} {event : ServiceEvent}
    (moved : Moved hasher service event next) {projectId tenantId : String}
    (stored : service.rest.Stored projectId tenantId) : next.rest.Stored projectId tenantId := by
  rcases rest_moved moved with same | ⟨_, restMoved⟩
  · rw [same]
    exact stored
  · exact Rest.stored_moved restMoved stored

/-! ## Tokens in a step of the service -/

/-- A stored token was stored before, or the step stored what it issued. -/
theorem token_source {service next : Service} {event : ServiceEvent}
    (moved : Moved hasher service event next) {rawToken : String} {entry : Entry TokenPayload}
    (listed : next.redis.ephemeralTokens.lookup rawToken = some entry) :
    service.redis.ephemeralTokens.lookup rawToken = some entry ∨
      ∃ (index : Nat) (request : TokenRequest) (access : Access)
        (consumed : Option (String × Int)) (issue : Issue),
        service.tokenCalls[index]? = some ⟨request, .storing access issue.payload consumed⟩ ∧
        next.issued.lookup rawToken = some issue ∧
        entry = ⟨issue.payload, some issue.expiresAt⟩ := by
  cases moved with
  | @stored index newToken request access payload consumed there fresh =>
      rcases ExpiringStore.lookup_set listed with ⟨rfl, rfl⟩ | old
      · exact Or.inr ⟨index, request, access, consumed, _, there, AList.lookup_insert _, rfl⟩
      · exact Or.inl old
  | consumed found live taken =>
      simp only [setToken, withRedis, taken] at listed
      exact Or.inl (ProjectRepo.lookup_erase_some listed).2
  | redeemed found phase live taken =>
      simp only [setSocket, withRedis, taken] at listed
      exact Or.inl (ProjectRepo.lookup_erase_some listed).2
  | limited found authorized waits same =>
      simp only [setSocket, withRedis, same] at listed
      exact Or.inl listed
  | asked found authorized same =>
      simp only [setSocket, ask, withRedis, same] at listed
      exact Or.inl listed
  | _ => exact Or.inl listed

/-! ## Calls and sockets in a step of the service -/

def Asked (service : Service) (read : Nat) (projectId tenantId : String) : Prop :=
  ∃ call, service.rest.repo.reads[read]? = some call ∧ call.projectId = projectId ∧
    call.tenantId = tenantId

/-- The call that was just made. -/
theorem asked_ask (service : Service) (projectId tenantId : String) :
    (service.ask projectId tenantId).Asked service.nextRead projectId tenantId :=
  ⟨_, List.getElem?_concat_length, rfl, rfl⟩

inductive TokenChange (hasher : AuthTokenRepo.PasswordHasher) (service next : Service) :
    TokenCall → TokenPhase → Prop where
  | turned {call : TokenCall} {phase : TokenPhase}
      (turn : TokenTurn hasher service call phase) :
      TokenChange hasher service next call phase
  | keyVerified {request : TokenRequest} {key : APIKeyDoc} (secret : key.keyType = .secret)
      (asked : next.Asked service.nextRead key.projectId key.tenantId) :
      TokenChange hasher service next ⟨request, .touching key⟩
        (.configuring key service.nextRead)
  | consumed {request : TokenRequest} {access : Access} {currentToken : String} {oldTtl : Int}
      {oldPayload payload : TokenPayload}
      (live : service.redis.ephemeralTokens.get service.now currentToken = some payload) :
      TokenChange hasher service next ⟨request, .consuming access currentToken oldTtl oldPayload⟩
        (.storing access (access.payload service.now request.ttlSeconds oldPayload.metadata)
          (some (currentToken, oldTtl)))
  | stored {request : TokenRequest} {access : Access} {payload : TokenPayload}
      {consumed : Option (String × Int)} (response : Tokens.TokenResponse) :
      TokenChange hasher service next ⟨request, .storing access payload consumed⟩
        (.answered response (consumed.map Prod.snd))

inductive SocketChange (hasher : AuthTokenRepo.PasswordHasher) (service next : Service)
    (socket : Socket) : Socket → Prop where
  | turned {after : Socket} (turn : SocketTurn hasher service socket after) :
      SocketChange hasher service next socket after
  | redeemed {rawToken : String} {payload : TokenPayload}
      (phase : socket.phase = .redeeming rawToken)
      (live : service.redis.ephemeralTokens.get service.now rawToken = some payload) :
      SocketChange hasher service next socket (socket.authorize (.ofToken payload) service.now)
  | limited {authority : Authority} {phase : SocketPhase}
      (authorized : socket.authority = some authority)
      (waits : (∃ window count, phase = .arming window count) ∨ ∃ close, phase = .closed close) :
      SocketChange hasher service next socket (socket.withPhase phase)
  | asked {authority : Authority} (authorized : socket.authority = some authority)
      (asked : next.Asked service.nextRead authority.projectId authority.tenantId) :
      SocketChange hasher service next socket (socket.withPhase (.configuring service.nextRead))
  | entered {resolved : Resolved} (returned : socket.resolved = some resolved)
      (sessionId : String) :
      SocketChange hasher service next socket (socket.withPhase (.connected sessionId))

/-- The token calls after a step: the step added one, or changed one, or none. -/
inductive CallsMoved (hasher : AuthTokenRepo.PasswordHasher) (service next : Service) :
    List TokenCall → Prop where
  | same : CallsMoved hasher service next service.tokenCalls
  | added {call : TokenCall}
      (start : (∃ refusal, call.phase = .failed refusal) ∨ ∃ rawKey, call.phase = .lookingUp rawKey) :
      CallsMoved hasher service next (service.tokenCalls ++ [call])
  | changed {index : Nat} {call : TokenCall} {phase : TokenPhase}
      (found : service.tokenCalls[index]? = some call)
      (change : TokenChange hasher service next call phase) :
      CallsMoved hasher service next (service.setToken index phase).tokenCalls

/-- The sockets after a step: the step added one, or changed one, or none. -/
inductive SocketsMoved (hasher : AuthTokenRepo.PasswordHasher) (service next : Service) :
    List Socket → Prop where
  | same : SocketsMoved hasher service next service.sockets
  | added (handshake : Handshake) :
      SocketsMoved hasher service next (service.sockets ++ [Chat.accept handshake])
  | changed {index : Nat} {socket after : Socket}
      (found : service.sockets[index]? = some socket)
      (change : SocketChange hasher service next socket after) :
      SocketsMoved hasher service next (service.setSocket index after).sockets

theorem calls_moved {service next : Service} {event : ServiceEvent}
    (moved : Moved hasher service event next) : CallsMoved hasher service next next.tokenCalls := by
  cases moved with
  | requested start => exact .added start
  | tokenTurned found turn => exact .changed found (.turned turn)
  | keyVerified found secret => exact .changed found (.keyVerified secret (asked_ask service _ _))
  | consumed found live taken => exact .changed found (.consumed live)
  | stored found fresh => exact .changed found (.stored _)
  | _ => exact .same

theorem sockets_moved {service next : Service} {event : ServiceEvent}
    (moved : Moved hasher service event next) : SocketsMoved hasher service next next.sockets := by
  cases moved with
  | accepted => exact .added _
  | socketTurned found turn => exact .changed found (.turned turn)
  | redeemed found phase live taken => exact .changed found (.redeemed phase live)
  | limited found authorized waits same => exact .changed found (.limited authorized waits)
  | asked found authorized same => exact .changed found (.asked authorized (asked_ask service _ _))
  | entered found returned run => exact .changed found (.entered returned _)
  | _ => exact .same

/-- A call after a step was there in the same phase, or was just made, or changed. -/
theorem CallsMoved.source {service next : Service} {calls : List TokenCall}
    (moved : CallsMoved hasher service next calls) {place : Nat} {call : TokenCall}
    (found : calls[place]? = some call) :
    service.tokenCalls[place]? = some call ∨
    (place = service.tokenCalls.length ∧
      ((∃ refusal, call.phase = .failed refusal) ∨ ∃ rawKey, call.phase = .lookingUp rawKey)) ∨
    ∃ before, service.tokenCalls[place]? = some before ∧ call.request = before.request ∧
      TokenChange hasher service next before call.phase := by
  cases moved with
  | same => exact Or.inl found
  | added start =>
      rcases Places.concat_source found with old | ⟨last, rfl⟩
      · exact Or.inl old
      · exact Or.inr (Or.inl ⟨last, start⟩)
  | @changed index before phase there change =>
      rcases Places.modify_source found with ⟨_, old⟩ | ⟨rfl, earlier, old, rfl⟩
      · exact Or.inl old
      · cases Option.some.inj (there.symm.trans old)
        exact Or.inr (Or.inr ⟨before, there, rfl, change⟩)

theorem SocketsMoved.source {service next : Service} {sockets : List Socket}
    (moved : SocketsMoved hasher service next sockets) {place : Nat} {socket : Socket}
    (found : sockets[place]? = some socket) :
    service.sockets[place]? = some socket ∨
    (place = service.sockets.length ∧ ∃ handshake, socket = Chat.accept handshake) ∨
    ∃ before, service.sockets[place]? = some before ∧
      SocketChange hasher service next before socket := by
  cases moved with
  | same => exact Or.inl found
  | added handshake =>
      rcases Places.concat_source found with old | ⟨last, same⟩
      · exact Or.inl old
      · exact Or.inr (Or.inl ⟨last, handshake, same⟩)
  | @changed index before after there change =>
      rcases Places.set_source found with ⟨_, old⟩ | ⟨rfl, rfl⟩
      · exact Or.inl old
      · exact Or.inr (Or.inr ⟨before, there, change⟩)

end Service

end LiveChat.Api
