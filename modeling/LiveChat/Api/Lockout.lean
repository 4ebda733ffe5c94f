import LiveChat.Api.Auth
import LiveChat.Api.EntryPoints
import LiveChat.Api.TokenRedemption

/-!
# A deactivated tenant at the entry points

`get_current_tenant`, `login` and `refresh` let in active tenants only.
`_require_secret_key` and `_resolve_project` do not look at `is_active`, so a deactivated
tenant is stopped there by another check or not at all.
-/

set_option autoImplicit false

namespace LiveChat.Api

open LiveChat.Core
open LiveChat.Db
open LiveChat.Foundation
open LiveChat.Foundation.TransitionSystem
open LiveChat.Repositories
open LiveChat.Repositories.AuthTokenRepo (PasswordHasher)
open LiveChat.Api.Auth (Accounts Library LoginRequest)
open LiveChat.Api.Chat (Authority Close Handshake Socket SocketPhase)
open LiveChat.Api.Projects (HTTPException)

/-! ## Attempts -/

/-- A call of an entry point, with what the random generators return to it. -/
inductive Attempt where
  | getCurrentTenant (credentials accessTokenCookie : Option String)
  | login (body : LoginRequest) (clientHost : Option String) (random : Auth.Random)
  | refresh (refreshToken : Option String) (random : AuthTokenRepo.Random)
  | requireSecretKey (header : Option String)
  | resolveProject (handshake : Handshake)

inductive Outcome where
  /-- The call succeeds for the tenant. -/
  | admits (tenantId : String)
  | raises (exception : HTTPException)
  /-- `get_by_raw_key` raised. -/
  | fails
  /-- The socket was closed, and the call returns `None`. -/
  | closes (close : Close)
  deriving DecidableEq

/-- How each entry point turns a caller away: with 401, `login` also with the 429 of its
rate limit, `_require_secret_key` with any exception, and `_resolve_project` with `None`. -/
def Attempt.Refused : Attempt → Outcome → Prop
  | .getCurrentTenant .., .raises exception => exception.statusCode = 401
  | .login .., .raises exception => exception.statusCode = 401 ∨ exception.statusCode = 429
  | .refresh .., .raises exception => exception.statusCode = 401
  | .requireSecretKey _, .raises _ => True
  | .requireSecretKey _, .fails => True
  | .resolveProject _, .closes _ => True
  | _, _ => False

/-- The attempt gets nowhere as far as the tenant is concerned: it is refused, or it was
somebody else's. -/
def LockedOut (tenantId : String) (attempt : Attempt) (outcome : Outcome) : Prop :=
  attempt.Refused outcome ∨ ∃ other, outcome = .admits other ∧ other ≠ tenantId

namespace Service

def accounts (service : Service) (authTokens : List AuthTokenDoc) : Accounts :=
  { tenants := service.rest.tenants
    redis := service.redis
    authTokens := { authTokens := authTokens, now := service.now } }

def ofResponse : Except HTTPException Auth.AuthResponse → Outcome
  | .ok response => .admits response.tenantId
  | .error refusal => .raises refusal

/-- What becomes of the attempt; the API keys, the refresh tokens and the passwords have
hashers of their own. -/
def attempt (library : Library) (hasher tokens : PasswordHasher) (service : Service)
    (authTokens : List AuthTokenDoc) : Attempt → Outcome
  | .getCurrentTenant credentials accessTokenCookie =>
      match Auth.getCurrentTenant library service.now service.rest.tenants credentials
        accessTokenCookie with
      | .ok tenant => .admits tenant.id
      | .error refusal => .raises refusal
  | .login body clientHost random =>
      ofResponse (Auth.login library tokens (service.accounts authTokens) body clientHost random).2
  | .refresh refreshToken random =>
      ofResponse (Auth.refresh library tokens (service.accounts authTokens) refreshToken random).2
  | .requireSecretKey header =>
      match (service.requireSecretKey hasher header).2 with
      | .ok access => .admits access.key.tenantId
      | .error (.http refusal) => .raises refusal
      | .error (.typeError _) => .fails
  | .resolveProject handshake =>
      let socket := (service.resolveProject hasher handshake).2
      match socket.phase, socket.authority with
      | .closed close, _ => .closes close
      | .entering, some authority => .admits authority.tenantId
      | _, _ => .fails

/-! ## The checks that do not look at `is_active` -/

/-- The header has a live secret key, and its project resolves. -/
def Grants (hasher : PasswordHasher) (service : Service) (header : Option String)
    (access : Tokens.Access) : Prop :=
  ∃ rawKey, Tokens.bearerKey header = .ok rawKey ∧
    APIKeyRepo.getByRawKey hasher service.rest.apiKeys rawKey = .ok (some access.key) ∧
    access.key.keyType = .secret ∧
    (service.getConfig access.key.projectId access.key.tenantId).2 = some access.config

/-- The credential of the handshake is live, and this is what it stands for. -/
def Authorizes (hasher : PasswordHasher) (service : Service) (handshake : Handshake)
    (authority : Authority) : Prop :=
  match handshake.credential with
  | .ok (.token rawToken) => ∃ payload,
      service.redis.ephemeralTokens.get service.now rawToken = some payload ∧
        authority = .ofToken payload
  | .ok (.apiKey rawKey) => ∃ doc,
      APIKeyRepo.getByRawKey hasher service.rest.apiKeys rawKey = .ok (some doc) ∧
        authority = .ofKey doc
  | .error _ => False

/-- The origin, the suspension and the daily quota. -/
structure Welcomes (service : Service) (origin : Option String) (config : ProjectConfig)
    (tenant : TenantDoc) : Prop where
  origin : Chat.originAllowed origin config.allowedOrigins = true
  unsuspended : tenant.isSuspended = false
  quota : ∀ quota ∈ PlanLimits.dailyTokenQuota tenant.plan,
    service.usage tenant.id (SessionRepo.startOfDay service.node.clock.utc) < quota

/-- The rate limit and the project, and what follows. -/
structure Passes (service : Service) (origin : Option String) (authority : Authority)
    (config : ProjectConfig) (tenant : TenantDoc) : Prop where
  allowed : (service.redis.checkAndIncrementRateLimit service.now authority.keyPrefix
    authority.rateLimitRpm 60).2 = true
  resolves : (service.getConfig authority.projectId authority.tenantId).2 = some config
  welcomes : service.Welcomes origin config tenant

/-- Nothing but the tenant's deactivation could stop the attempt. -/
def Unstopped (hasher : PasswordHasher) (service : Service) (tenant : TenantDoc) :
    Attempt → Prop
  | .getCurrentTenant .. | .login .. | .refresh .. => False
  | .requireSecretKey header => ∃ access : Tokens.Access,
      service.Grants hasher header access ∧ access.key.tenantId = tenant.id
  | .resolveProject handshake => ∃ authority config,
      service.Authorizes hasher handshake authority ∧ authority.tenantId = tenant.id ∧
      service.Passes handshake.origin authority config tenant

/-! ## What the checks decide -/

variable {hasher : PasswordHasher}

/-- The handshake goes on under the authority if the condition holds, else it is closed. -/
structure Decides (authority : Authority) (condition : Prop) (socket : Socket) : Prop where
  authority : socket.authority = some authority
  enters : condition → socket.phase = .entering
  closes : ¬ condition → ∃ close, socket.phase = .closed close

theorem Decides.congr {authority : Authority} {condition other : Prop} {socket : Socket}
    (decides : Decides authority condition socket) (same : condition ↔ other) :
    Decides authority other socket :=
  ⟨decides.authority, fun holds => decides.enters (same.mpr holds),
    fun fails => decides.closes fun holds => fails (same.mp holds)⟩

/-- The tenant's document is read and its checks are passed. -/
def Admits (service : Service) (origin : Option String) (authority : Authority)
    (config : ProjectConfig) : Prop :=
  ∃ tenant, service.rest.tenants.lookup authority.tenantId = some tenant ∧
    service.Welcomes origin config tenant

theorem decides_refuse {socket : Socket} {authority : Authority} {condition : Prop}
    (authorized : socket.authority = some authority) (close : Close) (fails : ¬ condition) :
    Decides authority condition (socket.refuse close) :=
  ⟨authorized, fun holds => absurd holds fails, fun _ => ⟨close, rfl⟩⟩

theorem decides_resolve {socket : Socket} {authority : Authority} {condition : Prop}
    (authorized : socket.authority = some authority) (resolved : Chat.Resolved)
    (holds : condition) : Decides authority condition (socket.resolve resolved) :=
  ⟨authorized, fun _ => rfl, fun fails => absurd holds fails⟩

theorem meetConfig_refused {service : Service} {socket : Socket} {authority : Authority}
    {config : ProjectConfig} {close : Close}
    (refused : Chat.admitTenant socket.handshake.origin config
      (service.rest.tenants.lookup authority.tenantId) = .error close) :
    service.meetConfig socket authority config = socket.refuse close := by
  simp only [meetConfig, Socket.meetTenant, TenantRepo.getById, refused]
  rfl

theorem meetConfig_unmetered {service : Service} {socket : Socket} {authority : Authority}
    {config : ProjectConfig} {tenant : TenantDoc}
    (admitted : Chat.admitTenant socket.handshake.origin config
      (service.rest.tenants.lookup authority.tenantId) = .ok tenant)
    (unmetered : PlanLimits.dailyTokenQuota tenant.plan = none) :
    service.meetConfig socket authority config =
      socket.resolve ⟨config, authority.apiKeyId, tenant.plan⟩ := by
  simp only [meetConfig, Socket.meetTenant, TenantRepo.getById, admitted, unmetered]
  rfl

theorem meetConfig_metered {service : Service} {socket : Socket} {authority : Authority}
    {config : ProjectConfig} {tenant : TenantDoc} {quota : Nat}
    (admitted : Chat.admitTenant socket.handshake.origin config
      (service.rest.tenants.lookup authority.tenantId) = .ok tenant)
    (metered : PlanLimits.dailyTokenQuota tenant.plan = some quota) :
    service.meetConfig socket authority config =
      if service.usage tenant.id (SessionRepo.startOfDay service.node.clock.utc) ≥ quota then
        socket.refuse (Chat.quotaExceeded quota)
      else socket.resolve ⟨config, authority.apiKeyId, tenant.plan⟩ := by
  simp only [meetConfig, Socket.meetTenant, TenantRepo.getById, admitted, metered]
  simp only [Socket.withPhase, Socket.meetUsage]
  split <;> rfl

theorem meetConfig_decides (service : Service) {socket : Socket} {authority : Authority}
    (config : ProjectConfig) (authorized : socket.authority = some authority) :
    Decides authority (service.Admits socket.handshake.origin authority config)
      (service.meetConfig socket authority config) := by
  cases stored : service.rest.tenants.lookup authority.tenantId with
  | none =>
      have refused : Chat.admitTenant socket.handshake.origin config
          (service.rest.tenants.lookup authority.tenantId) = .error Chat.tenantNotFound := by
        rw [stored]
        rfl
      rw [meetConfig_refused refused]
      refine decides_refuse authorized _ ?_
      rintro ⟨tenant, found, _⟩
      cases stored.symm.trans found
  | some tenant =>
      -- no other document can be the one that is welcome
      have only : service.Admits socket.handshake.origin authority config →
          service.Welcomes socket.handshake.origin config tenant := by
        rintro ⟨other, found, welcome⟩
        cases stored.symm.trans found
        exact welcome
      cases checked : Chat.admitTenant socket.handshake.origin config (some tenant) with
      | error close =>
          rw [meetConfig_refused (stored.symm ▸ checked)]
          refine decides_refuse authorized close fun admits => ?_
          have welcome := only admits
          simp [Chat.admitTenant, welcome.origin, welcome.unsuspended] at checked
      | ok admitted =>
          cases admitTenant_ok checked
          have origin : Chat.originAllowed socket.handshake.origin config.allowedOrigins = true := by
            by_contra foreign
            simp [Chat.admitTenant, foreign] at checked
          have unsuspended : tenant.isSuspended = false := by
            by_contra suspended
            simp [Chat.admitTenant, origin, suspended] at checked
          have admitted : Chat.admitTenant socket.handshake.origin config
              (service.rest.tenants.lookup authority.tenantId) = .ok tenant := by
            rw [stored, checked]
          cases metered : PlanLimits.dailyTokenQuota tenant.plan with
          | none =>
              rw [meetConfig_unmetered admitted metered]
              refine decides_resolve authorized _ ⟨tenant, stored, origin, unsuspended, ?_⟩
              intro quota listed
              cases metered.symm.trans listed
          | some quota =>
              rw [meetConfig_metered admitted metered]
              split
              · rename_i spent
                refine decides_refuse authorized _ fun admits => ?_
                exact absurd ((only admits).quota quota metered) (Nat.not_lt_of_ge spent)
              · rename_i left
                refine decides_resolve authorized _ ⟨tenant, stored, origin, unsuspended, ?_⟩
                intro other listed
                cases metered.symm.trans listed
                exact Nat.lt_of_not_ge left

/-- The checks of the tenant read neither Redis nor the projects. -/
theorem admits_congr {service other : Service} {origin : Option String} {authority : Authority}
    {config : ProjectConfig} (tenants : other.rest.tenants = service.rest.tenants)
    (node : other.node = service.node) (admits : other.Admits origin authority config) :
    service.Admits origin authority config := by
  obtain ⟨tenant, stored, welcome⟩ := admits
  refine ⟨tenant, tenants ▸ stored, welcome.origin, welcome.unsuspended, ?_⟩
  intro quota listed
  have left := welcome.quota quota listed
  simpa only [usage, node] using left

/-- The authority gets through the rate limit, to its project, and past its tenant. -/
def Accepts (service : Service) (origin : Option String) (authority : Authority) : Prop :=
  ∃ config tenant, service.rest.tenants.lookup authority.tenantId = some tenant ∧
    service.Passes origin authority config tenant

theorem meetAuthority_decides (service : Service) {socket : Socket} {authority : Authority}
    (authorized : socket.authority = some authority) :
    Decides authority (service.Accepts socket.handshake.origin authority)
      (service.meetAuthority socket authority).2 := by
  rcases counted : service.redis.checkAndIncrementRateLimit service.now authority.keyPrefix
    authority.rateLimitRpm 60 with ⟨redis, allowed⟩
  simp only [meetAuthority, counted]
  cases allowed with
  | false =>
      simp only [meetAllowed, Bool.false_eq_true, if_false]
      refine decides_refuse authorized _ ?_
      rintro ⟨config, tenant, stored, passes⟩
      cases (congrArg Prod.snd counted).symm.trans passes.allowed
  | true =>
      rcases resolved : (service.withRedis redis).getConfig authority.projectId
        authority.tenantId with ⟨after, answer⟩
      have answered : (service.getConfig authority.projectId authority.tenantId).2 = answer :=
        congrArg Prod.snd resolved
      have tenants : after.rest.tenants = service.rest.tenants :=
        congrArg (fun result : Service × Option ProjectConfig => result.1.rest.tenants)
          resolved.symm
      have node : after.node = service.node :=
        congrArg (fun result : Service × Option ProjectConfig => result.1.node) resolved.symm
      simp only [meetAllowed, if_true, resolved]
      cases answer with
      | none =>
          refine decides_refuse authorized _ ?_
          rintro ⟨config, tenant, stored, passes⟩
          cases answered.symm.trans passes.resolves
      | some config =>
          refine (meetConfig_decides after config authorized).congr ⟨fun admits => ?_, ?_⟩
          · obtain ⟨tenant, stored, welcome⟩ := admits_congr tenants node admits
            exact ⟨config, tenant, stored, congrArg Prod.snd counted, answered, welcome⟩
          · rintro ⟨other, tenant, stored, passes⟩
            cases answered.symm.trans passes.resolves
            exact admits_congr tenants.symm node.symm ⟨tenant, stored, passes.welcomes⟩

theorem accepts_withRedis {service : Service} {redis : Redis} {origin : Option String}
    {authority : Authority} (limits : redis.rateLimits = service.redis.rateLimits) :
    (service.withRedis redis).Accepts origin authority ↔ service.Accepts origin authority := by
  have counted : (redis.checkAndIncrementRateLimit service.now authority.keyPrefix
      authority.rateLimitRpm 60).2 = (service.redis.checkAndIncrementRateLimit service.now
        authority.keyPrefix authority.rateLimitRpm 60).2 := by
    rw [Redis.checkAndIncrementRateLimit_allowed, Redis.checkAndIncrementRateLimit_allowed]
    simp only [Redis.incr, limits]
  constructor
  · rintro ⟨config, tenant, stored, passes⟩
    have welcome := passes.welcomes
    exact ⟨config, tenant, stored, counted.symm.trans passes.allowed, passes.resolves,
      welcome.origin, welcome.unsuspended, welcome.quota⟩
  · rintro ⟨config, tenant, stored, passes⟩
    have welcome := passes.welcomes
    exact ⟨config, tenant, stored, counted.trans passes.allowed, passes.resolves,
      welcome.origin, welcome.unsuspended, welcome.quota⟩

def Unexpiring (apiKeys : List APIKeyDoc) : Prop := ∀ doc ∈ apiKeys, doc.expiresAt = none

theorem unexpiring_moved {rest next : Rest} {event : RestEvent}
    (moved : Rest.Moved hasher rest event next) (unexpiring : Unexpiring rest.apiKeys) :
    Unexpiring next.apiKeys := by
  cases moved with
  | insertedKey found writing fresh =>
      intro doc member
      rcases List.mem_append.mp member with old | new
      · exact unexpiring doc old
      · cases List.mem_singleton.mp new
        rfl
  | revokedKey found writing answer =>
      intro doc member
      obtain ⟨before, old, rfl | ⟨_, rfl⟩⟩ := APIKeyRepo.mem_revoke member
      · exact unexpiring _ old
      · exact unexpiring before old
  | _ => exact unexpiring

theorem getByRawKey_ok (hasher : PasswordHasher) {apiKeys : List APIKeyDoc} (unexpiring : Unexpiring apiKeys)
    (rawKey : String) : ∃ answer, APIKeyRepo.getByRawKey hasher apiKeys rawKey = .ok answer := by
  unfold APIKeyRepo.getByRawKey
  split
  · exact ⟨none, rfl⟩
  · split
    · exact ⟨none, rfl⟩
    · rename_i doc verified
      have ageless := unexpiring doc (List.mem_of_find?_eq_some verified)
      have valid : ∃ valid, APIKeyRepo.isValid doc = .ok valid := by
        unfold APIKeyRepo.isValid
        split
        · exact ⟨false, rfl⟩
        · rw [ageless]
          exact ⟨true, rfl⟩
      obtain ⟨valid, checked⟩ := valid
      rw [checked]
      cases valid
      · exact ⟨none, rfl⟩
      · exact ⟨some doc, rfl⟩

/-- `get_by_raw_key` found the credential, or `redeem_ephemeral_token` did; else the
handshake is closed. -/
theorem resolveProject_cases (hasher : PasswordHasher) {service : Service}
    (unexpiring : Unexpiring service.rest.apiKeys) (handshake : Handshake) :
    (∃ authority, service.Authorizes hasher handshake authority ∧
      Decides authority (service.Accepts handshake.origin authority)
        (service.resolveProject hasher handshake).2) ∨
    ((∀ authority, ¬ service.Authorizes hasher handshake authority) ∧
      ∃ close, (service.resolveProject hasher handshake).2.phase = .closed close) := by
  cases presented : handshake.credential with
  | error close =>
      rw [resolveProject_unpresented presented]
      refine Or.inr ⟨fun authority authorizes => ?_, close, by simp only [Chat.accept, presented]⟩
      simp only [Authorizes, presented] at authorizes
  | ok credential =>
      cases credential with
      | token rawToken =>
          rcases service.redis.redeemEphemeralToken_cases service.now rawToken with
            ⟨gone, redeemed⟩ | ⟨payload, stored, redeemed⟩
          · rw [resolveProject_gone presented redeemed]
            refine Or.inr ⟨fun authority authorizes => ?_, Chat.tokenInvalid, rfl⟩
            simp only [Authorizes, presented] at authorizes
            obtain ⟨payload, stored, _⟩ := authorizes
            cases gone.symm.trans stored
          · rw [resolveProject_redeemed presented redeemed]
            refine Or.inl ⟨.ofToken payload, ?_, ?_⟩
            · simp only [Authorizes, presented]
              exact ⟨payload, stored, rfl⟩
            · exact (meetAuthority_decides _ rfl).congr (accepts_withRedis rfl)
      | apiKey rawKey =>
          obtain ⟨answer, looked⟩ := getByRawKey_ok hasher unexpiring rawKey
          cases answer with
          | none =>
              rw [resolveProject_unknown presented looked]
              refine Or.inr ⟨fun authority authorizes => ?_, Chat.keyInvalid, rfl⟩
              simp only [Authorizes, presented, looked] at authorizes
              obtain ⟨doc, found, _⟩ := authorizes
              cases found
          | some doc =>
              let socket := (Chat.accept handshake).authorize (.ofKey doc) service.now
              have authorized : socket.authority = some (.ofKey doc) := rfl
              rw [resolveProject_verified presented looked]
              refine Or.inl ⟨.ofKey doc, ?_, meetAuthority_decides service authorized⟩
              simp only [Authorizes, presented]
              exact ⟨doc, looked, rfl⟩

theorem requireSecretKey_ok {service : Service} {header : Option String}
    {access : Tokens.Access} : (service.requireSecretKey hasher header).2 = .ok access ↔
      service.Grants hasher header access := by
  cases bearer : Tokens.bearerKey header with
  | error refusal =>
      simp only [requireSecretKey, Grants, bearer]
      constructor
      · intro returned
        cases returned
      · rintro ⟨rawKey, has, _⟩
        cases has
  | ok rawKey =>
      cases looked : APIKeyRepo.getByRawKey hasher service.rest.apiKeys rawKey with
      | error error =>
          simp only [requireSecretKey, Grants, bearer, looked]
          constructor
          · intro returned
            cases returned
          · rintro ⟨other, has, found, _⟩
            cases has
            cases looked.symm.trans found
      | ok answer =>
          cases checked : Tokens.requireSecret answer with
          | error refusal =>
              simp only [requireSecretKey, Grants, bearer, looked, checked]
              constructor
              · intro returned
                cases returned
              · rintro ⟨other, has, found, secret, _⟩
                cases has
                cases looked.symm.trans found
                simp [Tokens.requireSecret, secret] at checked
          | ok key =>
              obtain ⟨rfl, secret⟩ := Tokens.requireSecret_ok checked
              rcases resolved : service.getConfig key.projectId key.tenantId with ⟨after, config⟩
              have answered := congrArg Prod.snd resolved
              cases config with
              | none =>
                  simp only [requireSecretKey, Grants, bearer, looked, checked, resolved]
                  constructor
                  · intro returned
                    cases returned
                  · rintro ⟨other, has, found, _, configured⟩
                    cases has
                    cases looked.symm.trans found
                    cases answered.symm.trans configured
              | some config =>
                  simp only [requireSecretKey, Grants, bearer, looked, checked, resolved]
                  constructor
                  · rintro ⟨⟩
                    exact ⟨rawKey, rfl, looked, secret, answered⟩
                  · rintro ⟨other, has, found, _, configured⟩
                    cases has
                    cases looked.symm.trans found
                    cases answered.symm.trans configured
                    rfl

/-! ## Who is locked out -/

theorem lockedOut_admits {tenantId other : String} {attempt : Attempt} :
    LockedOut tenantId attempt (.admits other) ↔ other ≠ tenantId := by
  constructor
  · rintro (refused | ⟨_, same, differs⟩)
    · cases attempt <;> cases refused
    · cases same
      exact differs
  · exact fun differs => Or.inr ⟨other, rfl, differs⟩

/-- The call was refused, or it succeeded for an active tenant. -/
def Guarded (service : Service) (attempt : Attempt) (outcome : Outcome) : Prop :=
  attempt.Refused outcome ∨ ∃ tenantId tenant, outcome = .admits (TenantDoc.id tenant) ∧
    service.rest.tenants.lookup tenantId = some tenant ∧ tenant.isActive = true

theorem guarded_getCurrentTenant (library : Library) (tokens : PasswordHasher) (service : Service)
    (authTokens : List AuthTokenDoc) (credentials accessTokenCookie : Option String) :
    service.Guarded (.getCurrentTenant credentials accessTokenCookie)
      (service.attempt library hasher tokens authTokens
        (.getCurrentTenant credentials accessTokenCookie)) := by
  rcases Auth.getCurrentTenant_cases library service.now service.rest.tenants
    credentials accessTokenCookie with
    ⟨tenantId, tenant, answer, stored, active⟩ | ⟨refusal, answer, status⟩
  · simp only [Service.attempt, answer]
    exact Or.inr ⟨tenantId, tenant, rfl, stored, active⟩
  · simp only [Service.attempt, answer]
    exact Or.inl status

theorem guarded_login (library : Library) (tokens : PasswordHasher) (service : Service)
    (authTokens : List AuthTokenDoc) (body : LoginRequest) (clientHost : Option String)
    (random : Auth.Random) :
    service.Guarded (.login body clientHost random)
      (service.attempt library hasher tokens authTokens (.login body clientHost random)) := by
  rcases Auth.login_cases library tokens (service.accounts authTokens) body
    clientHost random with
    ⟨tenantId, tenant, response, answer, same, stored, active⟩ | ⟨refusal, answer, status⟩
  · simp only [Service.attempt, answer, ofResponse, same]
    exact Or.inr ⟨tenantId, tenant, rfl, stored, active⟩
  · simp only [Service.attempt, answer, ofResponse]
    exact Or.inl status

theorem guarded_refresh (library : Library) (tokens : PasswordHasher) (service : Service)
    (authTokens : List AuthTokenDoc) (refreshToken : Option String)
    (random : AuthTokenRepo.Random) :
    service.Guarded (.refresh refreshToken random)
      (service.attempt library hasher tokens authTokens (.refresh refreshToken random)) := by
  rcases Auth.refresh_cases library tokens (service.accounts authTokens)
    refreshToken random with
    ⟨tenantId, tenant, response, answer, same, stored, active⟩ | ⟨refusal, answer, status⟩
  · simp only [Service.attempt, answer, ofResponse, same]
    exact Or.inr ⟨tenantId, tenant, rfl, stored, active⟩
  · simp only [Service.attempt, answer, ofResponse]
    exact Or.inl status

theorem lockedOut_of_guarded {service : Service}
    (identified : TenantRepo.Identified service.rest.tenants) {tenantId : String}
    {tenant : TenantDoc} (stored : service.rest.tenants.lookup tenantId = some tenant)
    (inactive : tenant.isActive = false) {attempt : Attempt} {outcome : Outcome}
    (guarded : service.Guarded attempt outcome) : LockedOut tenant.id attempt outcome := by
  rcases guarded with refused | ⟨otherId, other, rfl, found, active⟩
  · exact Or.inl refused
  · refine Or.inr ⟨other.id, rfl, fun same => ?_⟩
    have place : otherId = tenantId := by
      rw [← (identified otherId other found).1, same, (identified tenantId tenant stored).1]
    rw [place, stored] at found
    cases found
    cases inactive.symm.trans active

theorem lockedOut_requireSecretKey (library : Library) (tokens : PasswordHasher)
    (service : Service) (authTokens : List AuthTokenDoc) (header : Option String)
    (tenant : TenantDoc) :
    LockedOut tenant.id (.requireSecretKey header)
        (service.attempt library hasher tokens authTokens (.requireSecretKey header)) ↔
      ¬ service.Unstopped hasher tenant (.requireSecretKey header) := by
  cases answer : (service.requireSecretKey hasher header).2 with
  | ok access =>
      simp only [Service.attempt, answer, lockedOut_admits, Unstopped]
      refine not_congr ⟨fun same => ⟨access, requireSecretKey_ok.mp answer, same⟩, ?_⟩
      rintro ⟨other, grants, same⟩
      cases answer.symm.trans (requireSecretKey_ok.mpr grants)
      exact same
  | error failure =>
      refine iff_of_true (Or.inl ?_) ?_
      · simp only [Service.attempt, answer]
        cases failure <;> trivial
      · rintro ⟨access, grants, _⟩
        cases answer.symm.trans (requireSecretKey_ok.mpr grants)

theorem authorizes_unique {service : Service} {handshake : Handshake} {one other : Authority}
    (first : service.Authorizes hasher handshake one)
    (second : service.Authorizes hasher handshake other) : one = other := by
  unfold Authorizes at first second
  cases presented : handshake.credential with
  | error close =>
      rw [presented] at first
      exact first.elim
  | ok credential =>
      rw [presented] at first second
      cases credential with
      | token rawToken =>
          obtain ⟨payload, stored, rfl⟩ := first
          obtain ⟨same, listed, rfl⟩ := second
          cases stored.symm.trans listed
          rfl
      | apiKey rawKey =>
          obtain ⟨doc, found, rfl⟩ := first
          obtain ⟨same, listed, rfl⟩ := second
          cases found.symm.trans listed
          rfl

theorem lockedOut_resolveProject (library : Library) (tokens : PasswordHasher)
    {service : Service} (sound : service.rest.Sound) (unexpiring : Unexpiring service.rest.apiKeys)
    (authTokens : List AuthTokenDoc) (handshake : Handshake) {tenantId : String}
    {tenant : TenantDoc} (stored : service.rest.tenants.lookup tenantId = some tenant) :
    LockedOut tenant.id (.resolveProject handshake)
        (service.attempt library hasher tokens authTokens (.resolveProject handshake)) ↔
      ¬ service.Unstopped hasher tenant (.resolveProject handshake) := by
  have named := (sound.tenants tenantId tenant stored).1
  rcases resolveProject_cases hasher unexpiring handshake with
    ⟨authority, authorizes, decides⟩ | ⟨unauthorized, close, phase⟩
  · by_cases accepts : service.Accepts handshake.origin authority
    · have entered := decides.enters accepts
      simp only [Service.attempt, entered, decides.authority, lockedOut_admits, Unstopped]
      refine not_congr ⟨fun same => ?_, ?_⟩
      · obtain ⟨config, other, found, passes⟩ := accepts
        rw [same, named, stored] at found
        cases found
        exact ⟨authority, config, authorizes, same, passes⟩
      · rintro ⟨other, config, also, same, _⟩
        exact authorizes_unique also authorizes ▸ same
    · obtain ⟨close, phase⟩ := decides.closes accepts
      refine iff_of_true (Or.inl ?_) ?_
      · simp only [Service.attempt, phase]
        trivial
      · rintro ⟨other, config, also, same, passes⟩
        cases authorizes_unique also authorizes
        refine accepts ⟨config, tenant, ?_, passes⟩
        rw [same, named, stored]
  · refine iff_of_true (Or.inl ?_) ?_
    · simp only [Service.attempt, phase]
      trivial
    · rintro ⟨authority, config, authorizes, _⟩
      exact unauthorized authority authorizes

theorem sound_run {now : Instant} {clock : Clock} {events : List ServiceEvent} {service : Service}
    (run : exec (step hasher) (initial now clock) events = some service) :
    service.rest.Sound ∧ Unexpiring service.rest.apiKeys := by
  refine exec_invariant
    (fun service => service.rest.Sound ∧ Unexpiring service.rest.apiKeys) ?_
    ⟨Rest.sound_initial now, fun doc member => absurd member List.not_mem_nil⟩ run
  rintro service event next ⟨sound, unexpiring⟩ stepped
  have moved := step_moved stepped
  refine ⟨sound_moved moved sound, ?_⟩
  rcases rest_moved moved with same | ⟨_, restMoved⟩
  · rw [same]
    exact unexpiring
  · exact unexpiring_moved restMoved unexpiring

/-- A deactivated tenant is locked out unless nothing but its deactivation could stop the
attempt. -/
theorem lockedOut_iff (library : Library) (hasher tokens : PasswordHasher) (now : Instant)
    (clock : Clock) (events : List ServiceEvent) (service : Service)
    (authTokens : List AuthTokenDoc) (attempt : Attempt) (tenantId : String) (tenant : TenantDoc)
    (run : exec (step hasher) (initial now clock) events = some service)
    (stored : service.rest.tenants.lookup tenantId = some tenant)
    (inactive : tenant.isActive = false) :
    LockedOut tenant.id attempt (service.attempt library hasher tokens authTokens attempt) ↔
      ¬ service.Unstopped hasher tenant attempt := by
  obtain ⟨sound, unexpiring⟩ := sound_run run
  have locked : ∀ {attempt : Attempt} {outcome : Outcome}, service.Guarded attempt outcome →
      LockedOut tenant.id attempt outcome :=
    fun guarded => lockedOut_of_guarded sound.tenants stored inactive guarded
  cases attempt with
  | getCurrentTenant credentials accessTokenCookie =>
      exact iff_of_true (locked (guarded_getCurrentTenant _ _ _ _ _ _)) not_false
  | login body clientHost random =>
      exact iff_of_true (locked (guarded_login _ _ _ _ _ _ _)) not_false
  | refresh refreshToken random =>
      exact iff_of_true (locked (guarded_refresh _ _ _ _ _ _)) not_false
  | requireSecretKey header => exact lockedOut_requireSecretKey library tokens service _ _ _
  | resolveProject handshake =>
      exact lockedOut_resolveProject library tokens sound unexpiring _ _ stored

def deactivate : List ServiceEvent := mintToken ++ [.rest (.changeTenant "t" (.active false))]

/-- Its token, and both ways to present its secret key. -/
def leftovers : List Attempt :=
  [.resolveProject { token := some "token" }, .resolveProject { apiKey := some "sk_live_body" },
    .requireSecretKey (some "Bearer sk_live_body")]

/-- Its access token, and a key that it does not have. -/
def turnedAway : List Attempt :=
  [.getCurrentTenant (some "jwt:t") none, .resolveProject { apiKey := some "sk_live_other" },
    .requireSecretKey (some "Bearer sk_live_other")]

/-- What becomes of the attempt where nothing is hashed or signed. -/
def plainAttempt (service : Service) : Attempt → Outcome :=
  service.attempt Auth.plainLibrary AuthTokenRepo.plainHasher AuthTokenRepo.plainHasher []

theorem deactivated_run : ∃ service tenant,
    exec (step AuthTokenRepo.plainHasher) (initial 0 ⟨0, 0⟩) deactivate = some service ∧
    service.rest.tenants.lookup "t" = some tenant ∧ tenant.isActive = false ∧ tenant.id = "t" ∧
    leftovers.map service.plainAttempt = [.admits "t", .admits "t", .admits "t"] ∧
    turnedAway.map service.plainAttempt =
      [.raises tenantDeactivated, .closes Chat.keyInvalid, .raises Tokens.keyInvalid] := by
  have shape : (exec (step AuthTokenRepo.plainHasher) (initial 0 ⟨0, 0⟩) deactivate).map
      (fun service => ((service.rest.tenants.lookup "t").map fun tenant =>
          (tenant.isActive, tenant.id),
        leftovers.map service.plainAttempt, turnedAway.map service.plainAttempt)) =
      some (some (false, "t"), [.admits "t", .admits "t", .admits "t"],
        [.raises tenantDeactivated, .closes Chat.keyInvalid, .raises Tokens.keyInvalid]) := by decide
  obtain ⟨service, run, look⟩ := Option.map_eq_some_iff.mp shape
  obtain ⟨seen, outcomes⟩ := Prod.mk.inj look
  obtain ⟨tenant, stored, state⟩ := Option.map_eq_some_iff.mp seen
  obtain ⟨inactive, id⟩ := Prod.mk.inj state
  exact ⟨service, tenant, run, stored, inactive, id, Prod.mk.inj outcomes⟩

theorem lockedOut_leftovers : ∃ service tenant,
    exec (step AuthTokenRepo.plainHasher) (initial 0 ⟨0, 0⟩) deactivate = some service ∧
    service.rest.tenants.lookup "t" = some tenant ∧ tenant.isActive = false ∧
    (∀ attempt ∈ leftovers, ¬ LockedOut tenant.id attempt (service.plainAttempt attempt) ∧
      service.Unstopped AuthTokenRepo.plainHasher tenant attempt) ∧
    ∀ attempt ∈ turnedAway, LockedOut tenant.id attempt (service.plainAttempt attempt) ∧
      ¬ service.Unstopped AuthTokenRepo.plainHasher tenant attempt := by
  obtain ⟨service, tenant, run, stored, inactive, id, admitted, refused⟩ := deactivated_run
  have decided : ∀ attempt, LockedOut tenant.id attempt (service.plainAttempt attempt) ↔
      ¬ service.Unstopped AuthTokenRepo.plainHasher tenant attempt := fun attempt =>
    lockedOut_iff Auth.plainLibrary AuthTokenRepo.plainHasher AuthTokenRepo.plainHasher 0 ⟨0, 0⟩
      deactivate service [] attempt "t" tenant run stored inactive
  refine ⟨service, tenant, run, stored, inactive, fun attempt member => ?_, fun attempt member => ?_⟩
  · have outcome : service.plainAttempt attempt = .admits "t" := by
      have listed := List.mem_map_of_mem (f := service.plainAttempt) member
      simpa [admitted] using listed
    have inside : ¬ LockedOut tenant.id attempt (service.plainAttempt attempt) := by
      rw [outcome, lockedOut_admits, id]
      exact not_not_intro rfl
    exact ⟨inside, not_not.mp fun stopped => inside ((decided attempt).mpr stopped)⟩
  · have locked : LockedOut tenant.id attempt (service.plainAttempt attempt) := by
      simp only [turnedAway, List.map_cons, List.map_nil, List.cons.injEq, and_true] at refused
      obtain ⟨first, second, third⟩ := refused
      simp only [turnedAway, List.mem_cons, List.not_mem_nil, or_false] at member
      rcases member with rfl | rfl | rfl
      · rw [first]
        exact Or.inl rfl
      · rw [second]
        exact Or.inl trivial
      · rw [third]
        exact Or.inl trivial
    exact ⟨locked, (decided attempt).mp locked⟩

/-- The handshake with the token resolves, for a tenant that is deactivated. -/
theorem lockedOut_fails :
    ¬ ∀ (library : Library) (hasher tokens : PasswordHasher) (now : Instant) (clock : Clock)
      (events : List ServiceEvent) (service : Service) (authTokens : List AuthTokenDoc)
      (attempt : Attempt) (tenantId : String) (tenant : TenantDoc),
      exec (step hasher) (initial now clock) events = some service →
      service.rest.tenants.lookup tenantId = some tenant → tenant.isActive = false →
      LockedOut tenant.id attempt (service.attempt library hasher tokens authTokens attempt) := by
  intro locks
  obtain ⟨service, tenant, run, stored, inactive, id, admitted, _⟩ := deactivated_run
  have locked := locks Auth.plainLibrary AuthTokenRepo.plainHasher AuthTokenRepo.plainHasher 0
    ⟨0, 0⟩ deactivate service [] (.resolveProject { token := some "token" }) "t" tenant run stored
    inactive
  have outcome := (List.cons.inj admitted).1
  rw [plainAttempt] at outcome
  rw [outcome, lockedOut_admits] at locked
  exact locked id.symm

end Service

end LiveChat.Api
