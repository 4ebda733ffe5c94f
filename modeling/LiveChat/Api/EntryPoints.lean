import LiveChat.Api.ServiceSteps

/-!
# Entry points with nothing else in between

`_require_secret_key` and `_resolve_project` as functions of the stores.  A call of the
service that runs alone does what they say: `requireSecretKey_alone` and
`resolveProject_alone`.
-/

set_option autoImplicit false

namespace LiveChat.Api

open LiveChat.Core
open LiveChat.Core.SessionManager (Node)
open LiveChat.Db
open LiveChat.Foundation
open LiveChat.Foundation.TransitionSystem
open LiveChat.Repositories
open LiveChat.Repositories.ProjectRepo (ReadCall RepoEvent Store)
open LiveChat.Api.Chat (Authority Handshake Resolved Socket SocketPhase)
open LiveChat.Api.Projects (HTTPException)
open LiveChat.Api.Tokens (Access TokenCall TokenPhase TokenRequest)

namespace Service

/-! ## `_require_secret_key` -/

def withStore (service : Service) (store : Store) : Service :=
  { service with rest := service.rest.withRepo { service.rest.repo with store := store } }

def getConfig (service : Service) (projectId tenantId : String) :
    Service × Option ProjectConfig :=
  let (store, config) := service.rest.repo.store.getConfig projectId tenantId
  (service.withStore store, config)

inductive Failure where
  | http (exception : HTTPException)
  | typeError (error : APIKeyRepo.TypeError)

def requireSecretKey (hasher : AuthTokenRepo.PasswordHasher) (service : Service)
    (header : Option String) : Service × Except Failure Access :=
  match Tokens.bearerKey header with
  | .error refusal => (service, .error (.http refusal))
  | .ok rawKey =>
      match APIKeyRepo.getByRawKey hasher service.rest.apiKeys rawKey with
      | .error error => (service, .error (.typeError error))
      | .ok found =>
          match Tokens.requireSecret found with
          | .error refusal => (service, .error (.http refusal))
          | .ok key =>
              match service.getConfig key.projectId key.tenantId with
              | (service, none) => (service, .error (.http Tokens.projectNotFound))
              | (service, some config) => (service, .ok ⟨key, config⟩)

/-! ## `_resolve_project` -/

/-- From the tenant's document to the quota. -/
def meetConfig (service : Service) (socket : Socket) (authority : Authority)
    (config : ProjectConfig) : Socket :=
  let met := socket.meetTenant authority config
    (TenantRepo.getById service.rest.tenants authority.tenantId) service.node.clock.utc
  match met.phase with
  | .measuring config tenant quota startOfDay =>
      met.meetUsage authority config tenant quota (service.usage tenant.id startOfDay)
  | _ => met

def meetAllowed (service : Service) (socket : Socket) (authority : Authority) (allowed : Bool) :
    Service × Socket :=
  if allowed then
    match service.getConfig authority.projectId authority.tenantId with
    | (service, none) => (service, socket.refuse Chat.projectNotFound)
    | (service, some config) => (service, service.meetConfig socket authority config)
  else (service, socket.refuse (Chat.rateLimited authority.rateLimitRpm))

def meetAuthority (service : Service) (socket : Socket) (authority : Authority) :
    Service × Socket :=
  let (redis, allowed) := service.redis.checkAndIncrementRateLimit service.now
    authority.keyPrefix authority.rateLimitRpm 60
  (service.withRedis redis).meetAllowed socket authority allowed

/-- The socket is left in the phase `entering` with a triple, or closed for `None`. -/
def resolveProject (hasher : AuthTokenRepo.PasswordHasher) (service : Service)
    (handshake : Handshake) : Service × Socket :=
  let socket := Chat.accept handshake
  match socket.phase with
  | .redeeming rawToken =>
      match service.redis.redeemEphemeralToken service.now rawToken with
      | (_, none) => (service, socket.refuse Chat.tokenInvalid)
      | (redis, some payload) =>
          (service.withRedis redis).meetAuthority
            (socket.authorize (.ofToken payload) service.now) (.ofToken payload)
  | .lookingUp rawKey =>
      match APIKeyRepo.getByRawKey hasher service.rest.apiKeys rawKey with
      | .error _ => (service, socket.withPhase .raised)
      | .ok none => (service, socket.refuse Chat.keyInvalid)
      | .ok (some doc) =>
          service.meetAuthority (socket.authorize (.ofKey doc) service.now) (.ofKey doc)
  | _ => (service, socket)

/-! ## Running alone -/

/-- The commands of one handshake and of its read of the configuration. -/
def ofSocket (socket read : Nat) : ServiceEvent → Bool
  | .socketStep index _ => index == socket
  | .rest (.repo event) => ProjectRepo.State.ofRead read event
  | _ => false

/-- The commands of one token call and of its read of the configuration. -/
def ofCall (call read : Nat) : ServiceEvent → Bool
  | .tokenStep index _ => index == call
  | .rest (.repo event) => ProjectRepo.State.ofRead read event
  | _ => false

structure SameStores (service final : Service) : Prop where
  redis : final.redis = service.redis
  store : final.rest.repo.store = service.rest.repo.store
  tenants : final.rest.tenants = service.rest.tenants
  apiKeys : final.rest.apiKeys = service.rest.apiKeys
  node : final.node = service.node

theorem SameStores.trans {first second third : Service} (front : SameStores first second)
    (back : SameStores second third) : SameStores first third :=
  ⟨back.redis.trans front.redis, back.store.trans front.store, back.tenants.trans front.tenants,
    back.apiKeys.trans front.apiKeys, back.node.trans front.node⟩

variable {hasher : AuthTokenRepo.PasswordHasher}

/-- The commands of a read, as events of the service. -/
theorem runsOn_repo {service : Service} {own : ServiceEvent → Prop} {read : Nat}
    {repo : ProjectRepo.State}
    (covers : ∀ event, ProjectRepo.State.ofRead read event = true → own (.rest (.repo event)))
    (run : RunsOn ProjectRepo.State.step
      (fun event => ProjectRepo.State.ofRead read event = true) service.rest.repo repo) :
    RunsOn (step hasher) own service { service with rest := service.rest.withRepo repo } := by
  obtain ⟨events, only, ran⟩ := run
  induction events generalizing service with
  | nil =>
      cases ran
      exact .refl own service
  | cons event rest ih =>
      obtain ⟨here, others⟩ := List.forall_mem_cons.mp only
      obtain ⟨next, first, later⟩ := exec_cons_some ran
      have quiet : asksOrTicks (.repo event) = false ∧ writesProject event = false := by
        cases event <;> first | exact ⟨rfl, rfl⟩ | cases here
      have stepped : step hasher service (.rest (.repo event)) =
          some { service with rest := service.rest.withRepo next } := by
        simp [step, Rest.step, quiet.1, quiet.2, first]
      have tail : RunsOn (step hasher) own { service with rest := service.rest.withRepo next }
          { service with rest := service.rest.withRepo repo } := ih others later
      exact (RunsOn.single (covers event here) stepped).trans tail

/-- A read that was just made, alone: it returns what `getConfig` does on the same stores. -/
theorem getConfig_alone (hasher : AuthTokenRepo.PasswordHasher) (own : ServiceEvent → Bool)
    {base service : Service} {read : Nat} {projectId tenantId : String} {floor : Nat}
    (same : SameStores base service)
    (covers : ∀ event, ProjectRepo.State.ofRead read event = true →
      own (.rest (.repo event)) = true)
    (found : service.rest.repo.reads[read]? = some ⟨projectId, tenantId, floor, .started⟩) :
    ∃ final, RunsOn (step hasher) (fun event => own event = true) service final ∧
      SameStores (base.getConfig projectId tenantId).1 final ∧
      final.configResult read = some (base.getConfig projectId tenantId).2 ∧
      final.sockets = service.sockets ∧ final.tokenCalls = service.tokenCalls := by
  obtain ⟨repo, run, store, returned⟩ := ProjectRepo.State.getConfig_alone found
  rw [same.store] at store returned
  refine ⟨{ service with rest := service.rest.withRepo repo }, runsOn_repo covers run,
    ⟨same.redis, store, same.tenants, same.apiKeys, same.node⟩, ?_, rfl, rfl⟩
  simp [configResult, Rest.withRepo, returned, getConfig]

theorem ask_found (service : Service) (projectId tenantId : String) :
    ∃ floor, (service.ask projectId tenantId).rest.repo.reads[service.nextRead]? =
      some ⟨projectId, tenantId, floor, .started⟩ :=
  ⟨_, List.getElem?_concat_length⟩

/-! ## Token calls alone -/

def afterSecretKey (request : TokenRequest) (now : Instant) : Except Failure Access → TokenPhase
  | .ok access => request.begin access now
  | .error (.http refusal) => .failed refusal
  | .error (.typeError _) => .raised

theorem setToken_found {service : Service} {index : Nat} {request : TokenRequest}
    {before : TokenPhase} (phase : TokenPhase)
    (found : service.tokenCalls[index]? = some ⟨request, before⟩) :
    (service.setToken index phase).tokenCalls[index]? = some ⟨request, phase⟩ := by
  simp [setToken, found]

theorem setToken_same {base service : Service} (same : SameStores base service) (index : Nat)
    (phase : TokenPhase) : SameStores base (service.setToken index phase) :=
  same.trans ⟨rfl, rfl, rfl, rfl, rfl⟩

theorem touching_alone (hasher : AuthTokenRepo.PasswordHasher) {base service : Service}
    {index : Nat} {request : TokenRequest} {rawKey : String} {header : Option String}
    {key : APIKeyDoc} (same : SameStores base service)
    (bearer : Tokens.bearerKey header = .ok rawKey)
    (looked : APIKeyRepo.getByRawKey hasher base.rest.apiKeys rawKey = .ok (some key))
    (found : service.tokenCalls[index]? = some ⟨request, .touching key⟩) :
    ∃ final, RunsOn (step hasher) (fun event => ofCall index service.nextRead event = true)
        service final ∧
      SameStores (base.requireSecretKey hasher header).1 final ∧
      final.tokenCalls[index]? = some ⟨request,
        afterSecretKey request base.now (base.requireSecretKey hasher header).2⟩ := by
  have own : ofCall index service.nextRead (.tokenStep index "") = true := beq_self_eq_true _
  cases checked : Tokens.requireSecret (some key) with
  | error refusal =>
      have shape : base.requireSecretKey hasher header = (base, .error (.http refusal)) := by
        simp only [requireSecretKey, bearer, looked, checked]
      have first : service.step hasher (.tokenStep index "") =
          some (service.setToken index (.failed refusal)) := by
        simp [step, stepToken, found, checked]
      rw [shape]
      exact ⟨_, .single own first, setToken_same same index _,
        setToken_found (.failed refusal) found⟩
  | ok secret =>
      cases (Tokens.requireSecret_ok checked).1
      let asked := (service.ask key.projectId key.tenantId).setToken index
        (.configuring key service.nextRead)
      have first : service.step hasher (.tokenStep index "") = some asked := by
        simp [step, stepToken, found, checked, asked]
      have entered : RunsOn (step hasher)
          (fun event => ofCall index service.nextRead event = true) service asked :=
        .single own first
      have stores : SameStores base asked := same.trans ⟨rfl, rfl, rfl, rfl, rfl⟩
      obtain ⟨floor, began⟩ := ask_found service key.projectId key.tenantId
      have started : asked.rest.repo.reads[service.nextRead]? =
          some ⟨key.projectId, key.tenantId, floor, .started⟩ := began
      obtain ⟨read, ran, kept, returned, _, calls⟩ :=
        getConfig_alone hasher (ofCall index service.nextRead) stores
          (fun _ commands => commands) started
      have waits : read.tokenCalls[index]? =
          some ⟨request, .configuring key service.nextRead⟩ := by
        rw [calls]
        exact setToken_found _ found
      have now : read.now = base.now := by
        rw [Service.now, kept.store]
        exact ProjectRepo.getConfig_now _ _ _
      have begun := entered.trans ran
      rcases resolved : base.getConfig key.projectId key.tenantId with ⟨after, answer⟩
      rw [resolved] at kept returned
      cases answer with
      | none =>
          have shape : base.requireSecretKey hasher header =
              (after, .error (.http Tokens.projectNotFound)) := by
            simp only [requireSecretKey, bearer, looked, checked, resolved]
          have last : read.step hasher (.tokenStep index "") =
              some (read.setToken index (.failed Tokens.projectNotFound)) := by
            simp [step, stepToken, waits, returned]
          rw [shape]
          exact ⟨_, begun.trans (.single own last), setToken_same kept index _,
            setToken_found (.failed Tokens.projectNotFound) waits⟩
      | some config =>
          have shape : base.requireSecretKey hasher header = (after, .ok ⟨key, config⟩) := by
            simp only [requireSecretKey, bearer, looked, checked, resolved]
          have last : read.step hasher (.tokenStep index "") =
              some (read.setToken index (request.begin ⟨key, config⟩ base.now)) := by
            simp [step, stepToken, waits, returned, now]
          rw [shape]
          exact ⟨_, begun.trans (.single own last), setToken_same kept index _,
            setToken_found (request.begin ⟨key, config⟩ base.now) waits⟩

theorem lookingUp_alone (hasher : AuthTokenRepo.PasswordHasher) {base service : Service}
    {index : Nat} {request : TokenRequest} {rawKey : String} {header : Option String}
    (same : SameStores base service) (bearer : Tokens.bearerKey header = .ok rawKey)
    (found : service.tokenCalls[index]? = some ⟨request, .lookingUp rawKey⟩) :
    ∃ final, RunsOn (step hasher) (fun event => ofCall index service.nextRead event = true)
        service final ∧
      SameStores (base.requireSecretKey hasher header).1 final ∧
      final.tokenCalls[index]? = some ⟨request,
        afterSecretKey request base.now (base.requireSecretKey hasher header).2⟩ := by
  have own : ofCall index service.nextRead (.tokenStep index "") = true := beq_self_eq_true _
  cases looked : APIKeyRepo.getByRawKey hasher base.rest.apiKeys rawKey with
  | error error =>
      have shape : base.requireSecretKey hasher header = (base, .error (.typeError error)) := by
        simp only [requireSecretKey, bearer, looked]
      have first : service.step hasher (.tokenStep index "") =
          some (service.setToken index .raised) := by
        simp [step, stepToken, found, same.apiKeys, looked]
      rw [shape]
      exact ⟨_, .single own first, setToken_same same index _, setToken_found .raised found⟩
  | ok answer =>
      cases answer with
      | none =>
          have shape : base.requireSecretKey hasher header =
              (base, .error (.http Tokens.keyInvalid)) := by
            simp only [requireSecretKey, bearer, looked, Tokens.requireSecret]
          have first : service.step hasher (.tokenStep index "") =
              some (service.setToken index (.failed Tokens.keyInvalid)) := by
            simp [step, stepToken, found, same.apiKeys, looked]
          rw [shape]
          exact ⟨_, .single own first, setToken_same same index _,
            setToken_found (.failed Tokens.keyInvalid) found⟩
      | some key =>
          have first : service.step hasher (.tokenStep index "") =
              some (service.setToken index (.touching key)) := by
            simp [step, stepToken, found, same.apiKeys, looked]
          have entered : RunsOn (step hasher)
              (fun event => ofCall index service.nextRead event = true) service
              (service.setToken index (.touching key)) := .single own first
          obtain ⟨final, ran, kept, last⟩ := touching_alone hasher
            (setToken_same same index (.touching key)) bearer looked
            (setToken_found (.touching key) found)
          exact ⟨final, entered.trans ran, kept, last⟩

/-- A token call that runs alone goes on as `_require_secret_key` says. -/
theorem requireSecretKey_alone (hasher : AuthTokenRepo.PasswordHasher) (service : Service)
    (header : Option String) (request : TokenRequest) :
    ∃ requested final, service.step hasher (.requestToken header request) = some requested ∧
      RunsOn (step hasher)
        (fun event => ofCall service.tokenCalls.length service.nextRead event = true)
        requested final ∧
      SameStores (service.requireSecretKey hasher header).1 final ∧
      final.tokenCalls[service.tokenCalls.length]? = some ⟨request,
        afterSecretKey request service.now (service.requireSecretKey hasher header).2⟩ := by
  cases bearer : Tokens.bearerKey header with
  | error refusal =>
      have shape : service.requireSecretKey hasher header = (service, .error (.http refusal)) := by
        simp only [requireSecretKey, bearer]
      let requested : Service :=
        { service with tokenCalls := service.tokenCalls ++ [⟨request, .failed refusal⟩] }
      rw [shape]
      exact ⟨requested, requested, by simp only [step, bearer, requested], .refl _ _,
        ⟨rfl, rfl, rfl, rfl, rfl⟩, List.getElem?_concat_length⟩
  | ok rawKey =>
      let requested : Service :=
        { service with tokenCalls := service.tokenCalls ++ [⟨request, .lookingUp rawKey⟩] }
      have found : requested.tokenCalls[service.tokenCalls.length]? =
          some ⟨request, .lookingUp rawKey⟩ := List.getElem?_concat_length
      have stores : SameStores service requested := ⟨rfl, rfl, rfl, rfl, rfl⟩
      obtain ⟨final, ran, same, last⟩ := lookingUp_alone hasher stores bearer found
      exact ⟨requested, final, by simp only [step, bearer, requested], ran, same, last⟩

/-! ## Handshakes alone -/

theorem setSocket_found {service : Service} {index : Nat} {before : Socket} (after : Socket)
    (found : service.sockets[index]? = some before) :
    (service.setSocket index after).sockets[index]? = some after := by
  obtain ⟨inside, _⟩ := List.getElem?_eq_some_iff.mp found
  simp [setSocket, inside]

theorem setSocket_same {base service : Service} (same : SameStores base service) (index : Nat)
    (socket : Socket) : SameStores base (service.setSocket index socket) :=
  same.trans ⟨rfl, rfl, rfl, rfl, rfl⟩

/-- The phase that a socket leaves says nothing about the tenant. -/
theorem meetTenant_withPhase (socket : Socket) (phase : SocketPhase) (authority : Authority)
    (config : ProjectConfig) (tenant : Option TenantDoc) (utc : Instant) :
    (socket.withPhase phase).meetTenant authority config tenant utc =
      socket.meetTenant authority config tenant utc := by
  have same : (socket.withPhase phase).handshake = socket.handshake := rfl
  cases checked : Chat.admitTenant socket.handshake.origin config tenant with
  | error close =>
      simp only [Socket.meetTenant, same, checked]
      rfl
  | ok admitted =>
      simp only [Socket.meetTenant, same, checked]
      split <;> rfl

theorem meetTenant_authority (socket : Socket) (authority : Authority) (config : ProjectConfig)
    (tenant : Option TenantDoc) (utc : Instant) :
    (socket.meetTenant authority config tenant utc).authority = socket.authority := by
  unfold Socket.meetTenant
  split
  · rfl
  · split <;> rfl

theorem meetConfig_cases (service : Service) (socket : Socket) (authority : Authority)
    (config : ProjectConfig) {met : Socket} (tenantMet : met = socket.meetTenant authority config
      (TenantRepo.getById service.rest.tenants authority.tenantId) service.node.clock.utc) :
    (∃ config' tenant quota start, met.phase = .measuring config' tenant quota start ∧
      service.meetConfig socket authority config =
        met.meetUsage authority config' tenant quota (service.usage tenant.id start)) ∨
      service.meetConfig socket authority config = met := by
  subst tenantMet
  simp only [meetConfig]
  split
  · rename_i config' tenant quota start phase
    exact Or.inl ⟨config', tenant, quota, start, phase, rfl⟩
  · exact Or.inr rfl

theorem fetchingTenant_alone (hasher : AuthTokenRepo.PasswordHasher) {base service : Service}
    {index : Nat} (read : Nat) {socket : Socket} {authority : Authority} {config : ProjectConfig}
    (same : SameStores base service) (authorized : socket.authority = some authority)
    (found : service.sockets[index]? = some (socket.withPhase (.fetchingTenant config))) :
    ∃ final, RunsOn (step hasher) (fun event => ofSocket index read event = true) service final ∧
      SameStores base final ∧
      final.sockets[index]? = some (base.meetConfig socket authority config) := by
  have own : ofSocket index read (.socketStep index "") = true := beq_self_eq_true _
  let met := socket.meetTenant authority config
    (TenantRepo.getById base.rest.tenants authority.tenantId) base.node.clock.utc
  have present : (socket.withPhase (.fetchingTenant config)).authority = some authority :=
    authorized
  have first : service.step hasher (.socketStep index "") = some (service.setSocket index met) := by
    simp only [step, stepSocket, found, present, meetTenant_withPhase]
    simp only [Socket.withPhase, met, same.tenants, same.node]
  have there : (service.setSocket index met).sockets[index]? = some met :=
    setSocket_found met found
  have stores := setSocket_same same index met
  have entered : RunsOn (step hasher) (fun event => ofSocket index read event = true) service
      (service.setSocket index met) := .single own first
  rcases meetConfig_cases base socket authority config rfl with
    ⟨config', tenant, quota, start, phase, shape⟩ | shape
  · have phase' : met.phase = .measuring config' tenant quota start := phase
    have authorized' : met.authority = some authority :=
      (meetTenant_authority _ _ _ _ _).trans authorized
    have usage : (service.setSocket index met).usage tenant.id start =
        base.usage tenant.id start := by
      simp only [Service.usage, stores.node]
    have second : (service.setSocket index met).step hasher (.socketStep index "") =
        some ((service.setSocket index met).setSocket index (met.meetUsage authority config' tenant
          quota (base.usage tenant.id start))) := by
      simp only [step, stepSocket, there, phase', authorized', usage]
    rw [shape]
    exact ⟨_, entered.trans (.single own second), setSocket_same stores index _,
      setSocket_found _ there⟩
  · rw [shape]
    exact ⟨_, entered, stores, there⟩

theorem meetAllowed_withPhase (service : Service) (socket : Socket) (phase : SocketPhase)
    (authority : Authority) (allowed : Bool) :
    service.meetAllowed (socket.withPhase phase) authority allowed =
      service.meetAllowed socket authority allowed := by
  simp only [meetAllowed, meetConfig, meetTenant_withPhase]
  rfl

theorem meetCount_alone (hasher : AuthTokenRepo.PasswordHasher) {base service : Service}
    {index : Nat} {before socket : Socket} {authority : Authority} (count : Nat)
    (same : SameStores base service) (authorized : socket.authority = some authority)
    (found : service.sockets[index]? = some before) :
    ∃ final, RunsOn (step hasher)
        (fun event => ofSocket index service.nextRead event = true)
        (service.meetCount index socket authority count) final ∧
      SameStores (base.meetAllowed socket authority
        (Redis.isAllowed count authority.rateLimitRpm)).1 final ∧
      final.sockets[index]? = some (base.meetAllowed socket authority
        (Redis.isAllowed count authority.rateLimitRpm)).2 := by
  have own : ofSocket index service.nextRead (.socketStep index "") = true := beq_self_eq_true _
  unfold meetCount
  cases allowed : Redis.isAllowed count authority.rateLimitRpm with
  | false =>
      simp only [meetAllowed, Bool.false_eq_true, if_false]
      exact ⟨_, .refl _ _, setSocket_same same index _, setSocket_found _ found⟩
  | true =>
      let asked := (service.ask authority.projectId authority.tenantId).setSocket index
        (socket.withPhase (.configuring service.nextRead))
      have stores : SameStores base asked := same.trans ⟨rfl, rfl, rfl, rfl, rfl⟩
      obtain ⟨floor, began⟩ := ask_found service authority.projectId authority.tenantId
      have started : asked.rest.repo.reads[service.nextRead]? =
          some ⟨authority.projectId, authority.tenantId, floor, .started⟩ := began
      obtain ⟨read, ran, kept, returned, sockets, _⟩ :=
        getConfig_alone hasher (ofSocket index service.nextRead) stores
          (fun _ commands => commands) started
      have waits : read.sockets[index]? =
          some (socket.withPhase (.configuring service.nextRead)) := by
        rw [sockets]
        exact setSocket_found _ found
      have present : (socket.withPhase (.configuring service.nextRead)).authority =
          some authority := authorized
      rcases resolved : base.getConfig authority.projectId authority.tenantId with ⟨after, answer⟩
      rw [resolved] at kept returned
      cases answer with
      | none =>
          have shape : base.meetAllowed socket authority true =
              (after, socket.refuse Chat.projectNotFound) := by
            simp only [meetAllowed, if_true, resolved]
          have last : read.step hasher (.socketStep index "") =
              some (read.setSocket index (socket.refuse Chat.projectNotFound)) := by
            simp only [step, stepSocket, waits, present]
            simp only [Socket.withPhase, returned, Socket.refuse]
          rw [shape]
          exact ⟨_, ran.trans (.single own last), setSocket_same kept index _,
            setSocket_found _ waits⟩
      | some config =>
          have shape : base.meetAllowed socket authority true =
              (after, after.meetConfig socket authority config) := by
            simp only [meetAllowed, if_true, resolved]
          have next : read.step hasher (.socketStep index "") =
              some (read.setSocket index (socket.withPhase (.fetchingTenant config))) := by
            simp only [step, stepSocket, waits, present]
            simp only [Socket.withPhase, returned]
          have there := setSocket_found (socket.withPhase (.fetchingTenant config)) waits
          obtain ⟨final, later, kept', last⟩ := fetchingTenant_alone hasher service.nextRead
            (setSocket_same kept index (socket.withPhase (.fetchingTenant config))) authorized there
          rw [shape]
          exact ⟨final, (ran.trans (.single own next)).trans later, kept', last⟩

theorem withRedis_same {base service : Service} (same : SameStores base service)
    (redis : Redis) : SameStores (base.withRedis redis) (service.withRedis redis) :=
  ⟨rfl, same.store, same.tenants, same.apiKeys, same.node⟩

theorem limiting_alone (hasher : AuthTokenRepo.PasswordHasher) {base service : Service}
    {index : Nat} {socket : Socket} {authority : Authority} (same : SameStores base service)
    (authorized : socket.authority = some authority)
    (phase : socket.phase = .limiting (Redis.rateWindow base.now 60))
    (found : service.sockets[index]? = some socket) :
    ∃ final, RunsOn (step hasher)
        (fun event => ofSocket index service.nextRead event = true) service final ∧
      SameStores (base.meetAuthority socket authority).1 final ∧
      final.sockets[index]? = some (base.meetAuthority socket authority).2 := by
  have own : ofSocket index service.nextRead (.socketStep index "") = true := beq_self_eq_true _
  have now : service.now = base.now := congrArg Store.now same.store
  let window := Redis.rateWindow base.now 60
  rcases counted : base.redis.incr base.now authority.keyPrefix window with ⟨redis, count⟩
  have stores := withRedis_same same redis
  by_cases opened : count = 1
  · let expiring := redis.expire base.now authority.keyPrefix window 60
    let armed := (service.withRedis redis).setSocket index (socket.withPhase (.arming window count))
    have first : service.step hasher (.socketStep index "") = some armed := by
      simp only [step, stepSocket, found, phase, authorized, same.redis, now]
      simp only [window] at counted
      simp only [counted, if_pos opened]
      rfl
    have waits : armed.sockets[index]? = some (socket.withPhase (.arming window count)) :=
      setSocket_found _ found
    have stores' : SameStores (base.withRedis expiring) (armed.withRedis expiring) :=
      ⟨rfl, same.store, same.tenants, same.apiKeys, same.node⟩
    have present : (socket.withPhase (.arming window count)).authority = some authority :=
      authorized
    have second : armed.step hasher (.socketStep index "") = some
        ((armed.withRedis expiring).meetCount index (socket.withPhase (.arming window count))
          authority count) := by
      have armedRedis : armed.redis = redis := rfl
      have armedNow : armed.now = base.now := now
      simp only [step, stepSocket, waits, present, armedRedis, armedNow]
      rfl
    obtain ⟨final, ran, kept, last⟩ := meetCount_alone hasher count stores' present waits
    have shape : base.meetAuthority socket authority = (base.withRedis expiring).meetAllowed
        (socket.withPhase (.arming window count)) authority
          (Redis.isAllowed count authority.rateLimitRpm) := by
      simp only [meetAuthority, Redis.checkAndIncrementRateLimit, meetAllowed_withPhase]
      simp only [window] at counted
      simp only [counted, if_pos opened]
      rfl
    have begun : RunsOn (step hasher) (fun event => ofSocket index service.nextRead event = true)
        service armed := .single own first
    rw [shape]
    exact ⟨final, (begun.trans (.single own second)).trans ran, kept, last⟩
  · have first : service.step hasher (.socketStep index "") =
        some ((service.withRedis redis).meetCount index socket authority count) := by
      simp only [step, stepSocket, found, phase, authorized, same.redis, now]
      simp only [window] at counted
      simp only [counted, if_neg opened]
    obtain ⟨final, ran, kept, last⟩ := meetCount_alone hasher count stores authorized found
    have shape : base.meetAuthority socket authority = (base.withRedis redis).meetAllowed
        socket authority (Redis.isAllowed count authority.rateLimitRpm) := by
      simp only [meetAuthority, Redis.checkAndIncrementRateLimit]
      simp only [window] at counted
      simp only [counted, if_neg opened]
    have begun : RunsOn (step hasher) (fun event => ofSocket index service.nextRead event = true)
        service ((service.withRedis redis).meetCount index socket authority count) :=
      .single own first
    rw [shape]
    exact ⟨final, begun.trans ran, kept, last⟩

/-! ## The credential of a handshake -/

theorem accept_token {handshake : Handshake} {rawToken : String}
    (presented : handshake.credential = .ok (.token rawToken)) :
    (Chat.accept handshake).phase = .redeeming rawToken := by
  simp only [Chat.accept, presented]

theorem accept_apiKey {handshake : Handshake} {rawKey : String}
    (presented : handshake.credential = .ok (.apiKey rawKey)) :
    (Chat.accept handshake).phase = .lookingUp rawKey := by
  simp only [Chat.accept, presented]

theorem resolveProject_unpresented {service : Service} {handshake : Handshake} {close : Chat.Close}
    (presented : handshake.credential = .error close) :
    service.resolveProject hasher handshake = (service, Chat.accept handshake) := by
  simp only [resolveProject, Chat.accept, presented]

theorem resolveProject_gone {service : Service} {handshake : Handshake} {rawToken : String}
    {redis : Redis} (presented : handshake.credential = .ok (.token rawToken))
    (redeemed : service.redis.redeemEphemeralToken service.now rawToken = (redis, none)) :
    service.resolveProject hasher handshake =
      (service, (Chat.accept handshake).refuse Chat.tokenInvalid) := by
  simp only [resolveProject, accept_token presented, redeemed]

theorem resolveProject_redeemed {service : Service} {handshake : Handshake} {rawToken : String}
    {redis : Redis} {payload : TokenPayload}
    (presented : handshake.credential = .ok (.token rawToken))
    (redeemed : service.redis.redeemEphemeralToken service.now rawToken = (redis, some payload)) :
    service.resolveProject hasher handshake = (service.withRedis redis).meetAuthority
      ((Chat.accept handshake).authorize (.ofToken payload) service.now) (.ofToken payload) := by
  simp only [resolveProject, accept_token presented, redeemed]

theorem resolveProject_raised {service : Service} {handshake : Handshake} {rawKey : String}
    {error : APIKeyRepo.TypeError} (presented : handshake.credential = .ok (.apiKey rawKey))
    (looked : APIKeyRepo.getByRawKey hasher service.rest.apiKeys rawKey = .error error) :
    service.resolveProject hasher handshake =
      (service, (Chat.accept handshake).withPhase .raised) := by
  simp only [resolveProject, accept_apiKey presented, looked]

theorem resolveProject_unknown {service : Service} {handshake : Handshake} {rawKey : String}
    (presented : handshake.credential = .ok (.apiKey rawKey))
    (looked : APIKeyRepo.getByRawKey hasher service.rest.apiKeys rawKey = .ok none) :
    service.resolveProject hasher handshake =
      (service, (Chat.accept handshake).refuse Chat.keyInvalid) := by
  simp only [resolveProject, accept_apiKey presented, looked]

theorem resolveProject_verified {service : Service} {handshake : Handshake} {rawKey : String}
    {doc : APIKeyDoc} (presented : handshake.credential = .ok (.apiKey rawKey))
    (looked : APIKeyRepo.getByRawKey hasher service.rest.apiKeys rawKey = .ok (some doc)) :
    service.resolveProject hasher handshake = service.meetAuthority
      ((Chat.accept handshake).authorize (.ofKey doc) service.now) (.ofKey doc) := by
  simp only [resolveProject, accept_apiKey presented, looked]

theorem redeeming_alone (hasher : AuthTokenRepo.PasswordHasher) {base service : Service}
    {index : Nat} {handshake : Handshake} {rawToken : String} (same : SameStores base service)
    (presented : handshake.credential = .ok (.token rawToken))
    (found : service.sockets[index]? = some (Chat.accept handshake)) :
    ∃ final, RunsOn (step hasher)
        (fun event => ofSocket index service.nextRead event = true) service final ∧
      SameStores (base.resolveProject hasher handshake).1 final ∧
      final.sockets[index]? = some (base.resolveProject hasher handshake).2 := by
  have own : ofSocket index service.nextRead (.socketStep index "") = true := beq_self_eq_true _
  have phase := accept_token presented
  have now : service.now = base.now := congrArg Store.now same.store
  rcases base.redis.redeemEphemeralToken_cases base.now rawToken with
    ⟨_, redeemed⟩ | ⟨payload, _, redeemed⟩
  · let refused := (Chat.accept handshake).refuse Chat.tokenInvalid
    have last : service.step hasher (.socketStep index "") =
        some (service.setSocket index refused) := by
      simp only [step, stepSocket, found, phase, same.redis, now, redeemed, refused]
    rw [resolveProject_gone presented redeemed]
    exact ⟨_, .single own last, setSocket_same same index _, setSocket_found _ found⟩
  · let redis : Redis :=
      { base.redis with ephemeralTokens := base.redis.ephemeralTokens.erase rawToken }
    let authorized := (Chat.accept handshake).authorize (.ofToken payload) base.now
    have first : service.step hasher (.socketStep index "") =
        some ((service.withRedis redis).setSocket index authorized) := by
      simp only [step, stepSocket, found, phase, same.redis, now, redeemed]
      rfl
    have begun : RunsOn (step hasher) (fun event => ofSocket index service.nextRead event = true)
        service ((service.withRedis redis).setSocket index authorized) := .single own first
    obtain ⟨final, ran, kept, last⟩ := limiting_alone hasher
      (setSocket_same (withRedis_same same redis) index authorized) rfl rfl
      (setSocket_found authorized found)
    rw [resolveProject_redeemed presented redeemed]
    exact ⟨final, begun.trans ran, kept, last⟩

theorem verifying_alone (hasher : AuthTokenRepo.PasswordHasher) {base service : Service}
    {index : Nat} {handshake : Handshake} {rawKey : String} (same : SameStores base service)
    (presented : handshake.credential = .ok (.apiKey rawKey))
    (found : service.sockets[index]? = some (Chat.accept handshake)) :
    ∃ final, RunsOn (step hasher)
        (fun event => ofSocket index service.nextRead event = true) service final ∧
      SameStores (base.resolveProject hasher handshake).1 final ∧
      final.sockets[index]? = some (base.resolveProject hasher handshake).2 := by
  have own : ofSocket index service.nextRead (.socketStep index "") = true := beq_self_eq_true _
  have phase := accept_apiKey presented
  have now : service.now = base.now := congrArg Store.now same.store
  cases looked : APIKeyRepo.getByRawKey hasher base.rest.apiKeys rawKey with
  | error error =>
      let raised := (Chat.accept handshake).withPhase .raised
      have last : service.step hasher (.socketStep index "") =
          some (service.setSocket index raised) := by
        simp only [step, stepSocket, found, phase, same.apiKeys, looked, raised]
      rw [resolveProject_raised presented looked]
      exact ⟨_, .single own last, setSocket_same same index _, setSocket_found _ found⟩
  | ok answer =>
      cases answer with
      | none =>
          let refused := (Chat.accept handshake).refuse Chat.keyInvalid
          have last : service.step hasher (.socketStep index "") =
              some (service.setSocket index refused) := by
            simp only [step, stepSocket, found, phase, same.apiKeys, looked, refused]
          rw [resolveProject_unknown presented looked]
          exact ⟨_, .single own last, setSocket_same same index _, setSocket_found _ found⟩
      | some doc =>
          let touching := (Chat.accept handshake).withPhase (.touching doc)
          let authorized := (Chat.accept handshake).authorize (.ofKey doc) base.now
          have first : service.step hasher (.socketStep index "") =
              some (service.setSocket index touching) := by
            simp only [step, stepSocket, found, phase, same.apiKeys, looked, touching]
          have there := setSocket_found touching found
          have second : (service.setSocket index touching).step hasher (.socketStep index "") =
              some ((service.setSocket index touching).setSocket index authorized) := by
            have touchingNow : (service.setSocket index touching).now = base.now := now
            simp only [step, stepSocket, there, touchingNow]
            rfl
          have entered : RunsOn (step hasher)
              (fun event => ofSocket index service.nextRead event = true) service
              (service.setSocket index touching) := .single own first
          have begun := entered.trans (.single own second)
          obtain ⟨final, ran, kept, last⟩ := limiting_alone hasher
            (setSocket_same (setSocket_same same index touching) index authorized) rfl rfl
            (setSocket_found authorized there)
          rw [resolveProject_verified presented looked]
          exact ⟨final, begun.trans ran, kept, last⟩

/-- A handshake that runs alone ends as `_resolve_project` says. -/
theorem resolveProject_alone (hasher : AuthTokenRepo.PasswordHasher) (service : Service)
    (handshake : Handshake) :
    ∃ accepted final, service.step hasher (.accept handshake) = some accepted ∧
      RunsOn (step hasher)
        (fun event => ofSocket service.sockets.length service.nextRead event = true)
        accepted final ∧
      SameStores (service.resolveProject hasher handshake).1 final ∧
      final.sockets[service.sockets.length]? =
        some (service.resolveProject hasher handshake).2 := by
  let accepted : Service :=
    { service with sockets := service.sockets ++ [Chat.accept handshake] }
  have stores : SameStores service accepted := ⟨rfl, rfl, rfl, rfl, rfl⟩
  have found : accepted.sockets[service.sockets.length]? = some (Chat.accept handshake) :=
    List.getElem?_concat_length
  suffices ∃ final, RunsOn (step hasher)
      (fun event => ofSocket service.sockets.length service.nextRead event = true)
        accepted final ∧
      SameStores (service.resolveProject hasher handshake).1 final ∧
      final.sockets[service.sockets.length]? =
        some (service.resolveProject hasher handshake).2 by
    obtain ⟨final, ran, kept, last⟩ := this
    exact ⟨accepted, final, rfl, ran, kept, last⟩
  cases presented : handshake.credential with
  | error close =>
      rw [resolveProject_unpresented presented]
      exact ⟨accepted, .refl _ _, stores, found⟩
  | ok credential =>
      cases credential with
      | token rawToken => exact redeeming_alone hasher stores presented found
      | apiKey rawKey => exact verifying_alone hasher stores presented found

end Service

end LiveChat.Api
