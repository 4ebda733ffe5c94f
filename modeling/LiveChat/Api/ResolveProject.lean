import LiveChat.Api.EntryPoints
import LiveChat.Foundation.Dialogue

/-!
# `_resolve_project` as a program

The function with every command that it puts to Redis, MongoDB, the clocks and the
WebSocket, `ws.close` among them.  `perform` runs a command on the service.  A socket of the
service goes through this program: `stepSocket_dialogue`.
-/

set_option autoImplicit false

namespace LiveChat.Api.ResolveProject

open LiveChat.Core
open LiveChat.Core.PlanLimits (Plan)
open LiveChat.Db
open LiveChat.Foundation
open LiveChat.Foundation.TransitionSystem
open LiveChat.Repositories
open LiveChat.Api.Chat (Authority Close Handshake Resolved Socket SocketPhase given)

/-! ## Commands -/

inductive Command where
  /-- `ws.close`. -/
  | close (close : Close)
  | redeemEphemeralToken (rawToken : String)
  /-- The `find` of `get_by_raw_key`, and the key that it comes to. -/
  | getByRawKey (rawKey : String)
  /-- `_touch_last_used`, which `get_by_raw_key` awaits before it returns a key. -/
  | touchLastUsed (keyId : String)
  /-- `time.time()`. -/
  | time
  | incr (keyPrefix : String) (window : Nat)
  | expire (keyPrefix : String) (window windowS : Nat)
  /-- `get_config_by_id` or `get_config_for_key` is called; it is known by its number. -/
  | callGetConfig (projectId tenantId : String)
  /-- The call returned. -/
  | awaitGetConfig (read : Nat)
  | getById (tenantId : String)
  /-- `datetime.now(timezone.utc)`. -/
  | utcNow
  /-- The aggregation of `get_daily_token_usage`. -/
  | sumTokens (tenantId : String) (startOfDay : Instant)

/-- What the command returns; only the lookup of the key can raise. -/
def Command.Answer : Command → Type
  | .close _ | .touchLastUsed _ | .expire .. => Unit
  | .redeemEphemeralToken _ => Option TokenPayload
  | .getByRawKey _ => Except APIKeyRepo.TypeError (Option APIKeyDoc)
  | .time | .utcNow => Instant
  | .incr .. | .callGetConfig .. | .sumTokens .. => Nat
  | .awaitGetConfig _ => Option ProjectConfig
  | .getById _ => Option TenantDoc

abbrev Program := Dialogue Command Command.Answer

def close (close : Close) : Program Unit := .put (Command.close close)

def redeemEphemeralToken (rawToken : String) : Program (Option TokenPayload) :=
  .put (Command.redeemEphemeralToken rawToken)

def getByRawKey (rawKey : String) : Program (Except APIKeyRepo.TypeError (Option APIKeyDoc)) :=
  .put (Command.getByRawKey rawKey)

def touchLastUsed (keyId : String) : Program Unit := .put (Command.touchLastUsed keyId)

def time : Program Instant := .put Command.time

def incr (keyPrefix : String) (window : Nat) : Program Nat := .put (Command.incr keyPrefix window)

def expire (keyPrefix : String) (window windowS : Nat) : Program Unit :=
  .put (Command.expire keyPrefix window windowS)

def callGetConfig (projectId tenantId : String) : Program Nat :=
  .put (Command.callGetConfig projectId tenantId)

def awaitGetConfig (read : Nat) : Program (Option ProjectConfig) :=
  .put (Command.awaitGetConfig read)

def getById (tenantId : String) : Program (Option TenantDoc) := .put (Command.getById tenantId)

def utcNow : Program Instant := .put Command.utcNow

def sumTokens (tenantId : String) (startOfDay : Instant) : Program Nat :=
  .put (Command.sumTokens tenantId startOfDay)

/-! ## The function -/

/-- Whether the call is allowed, and the counter after it. -/
def checkAndIncrementRateLimit (keyPrefix : String) (limit : Int) (windowS : Nat) :
    Program (Bool × Nat) := do
  let window := Redis.rateWindow (← time) windowS
  let count ← incr keyPrefix window
  if count = 1 then expire keyPrefix window windowS
  return (Redis.isAllowed count limit, count)

def getConfig (projectId tenantId : String) : Program (Option ProjectConfig) := do
  awaitGetConfig (← callGetConfig projectId tenantId)

def getDailyTokenUsage (tenantId : String) : Program Nat := do
  sumTokens tenantId (SessionRepo.startOfDay (← utcNow))

/-- From the origin to the quota. -/
def welcome (origin : Option String) (authority : Authority) (config : ProjectConfig)
    (tenant : TenantDoc) : Program (Option Resolved) := do
  if !Chat.originAllowed origin config.allowedOrigins then
    close (Chat.originRefused (origin.getD ""))
    return none
  if tenant.isSuspended then
    close Chat.accountSuspended
    return none
  if let some quota := PlanLimits.dailyTokenQuota tenant.plan then
    let todayTokens ← getDailyTokenUsage tenant.id
    if todayTokens ≥ quota then
      close (Chat.quotaExceeded quota)
      return none
  return some ⟨config, authority.apiKeyId, tenant.plan⟩

/-- Behind the credential, which the two paths have in common. -/
def resolveAuthority (origin : Option String) (authority : Authority) :
    Program (Option Resolved) := do
  let (allowed, _) ←
    checkAndIncrementRateLimit authority.keyPrefix authority.rateLimitRpm 60
  if !allowed then
    close (Chat.rateLimited authority.rateLimitRpm)
    return none
  let some config ← getConfig authority.projectId authority.tenantId | do
    close Chat.projectNotFound
    return none
  let some tenant ← getById authority.tenantId | do
    close Chat.tenantNotFound
    return none
  welcome origin authority config tenant

/-- What the function ends with: a result, `none` for `None`, or what the lookup raised. -/
abbrev Outcome := Except APIKeyRepo.TypeError (Option Resolved)

def resolveToken (origin : Option String) (rawToken : String) : Program Outcome := do
  let some payload ← redeemEphemeralToken rawToken | do
    close Chat.tokenInvalid
    return .ok none
  return .ok (← resolveAuthority origin (.ofToken payload))

/-- Path B from the key that was found on. -/
def resolveFound (origin : Option String) (keyDoc : APIKeyDoc) : Program Outcome := do
  touchLastUsed keyDoc.id
  return .ok (← resolveAuthority origin (.ofKey keyDoc))

def resolveKey (origin : Option String) (rawKey : String) : Program Outcome := do
  match ← getByRawKey rawKey with
  | .error raised => return .error raised
  | .ok none =>
      close Chat.keyInvalid
      return .ok none
  | .ok (some keyDoc) => resolveFound origin keyDoc

def resolveProject (handshake : Handshake) : Program Outcome := do
  match given handshake.token, given handshake.apiKey with
  | some rawToken, _ => resolveToken handshake.origin rawToken
  | none, some rawKey => resolveKey handshake.origin rawKey
  | none, none =>
      close Chat.credentialMissing
      return .ok none

/-! ## Commands of the service -/

/-- A command on the stores; `awaitGetConfig` waits for the call to return. -/
def perform (hasher : AuthTokenRepo.PasswordHasher) (service : Service) :
    (command : Command) → Option (Service × command.Answer)
  | .close _ => some (service, ())
  | .redeemEphemeralToken rawToken =>
      let (redis, payload) := service.redis.redeemEphemeralToken service.now rawToken
      some (service.withRedis redis, payload)
  | .getByRawKey rawKey =>
      some (service, APIKeyRepo.getByRawKey hasher service.rest.apiKeys rawKey)
  -- nothing in the service reads `last_used_at`
  | .touchLastUsed _ => some (service, ())
  | .time => some (service, service.now)
  | .incr keyPrefix window =>
      let (redis, count) := service.redis.incr service.now keyPrefix window
      some (service.withRedis redis, count)
  | .expire keyPrefix window windowS =>
      some (service.withRedis (service.redis.expire service.now keyPrefix window windowS), ())
  | .callGetConfig projectId tenantId =>
      some (service.ask projectId tenantId, service.nextRead)
  | .awaitGetConfig read => (service.configResult read).map fun config => (service, config)
  | .getById tenantId => some (service, TenantRepo.getById service.rest.tenants tenantId)
  | .utcNow => some (service, service.node.clock.utc)
  | .sumTokens tenantId startOfDay => some (service, service.usage tenantId startOfDay)

/-- A call of the function, while the rest of the service goes on. -/
abbrev Call := Talk Service Command Command.Answer Outcome

abbrev CallEvent := TalkEvent ServiceEvent

def step (hasher : AuthTokenRepo.PasswordHasher) (call : Call) (event : CallEvent) :
    Option Call :=
  Talk.step (Service.step hasher) (perform hasher) call event

def begin (service : Service) (handshake : Handshake) : Call :=
  { world := service, program := resolveProject handshake }

/-! ## What a socket has left of it -/

section Remaining
variable (origin : Option String) (authority : Authority)

def afterUtc (config : ProjectConfig) (tenant : TenantDoc) (quota : Nat) (startOfDay : Instant) :
    Program (Option Resolved) := do
  let todayTokens ← sumTokens tenant.id startOfDay
  if todayTokens ≥ quota then
    close (Chat.quotaExceeded quota)
    return none
  return some ⟨config, authority.apiKeyId, tenant.plan⟩

def afterConfig (config : ProjectConfig) : Program (Option Resolved) := do
  let some tenant ← getById authority.tenantId | do
    close Chat.tenantNotFound
    return none
  welcome origin authority config tenant

def afterCall (read : Nat) : Program (Option Resolved) := do
  let some config ← awaitGetConfig read | do
    close Chat.projectNotFound
    return none
  afterConfig origin authority config

def afterCount (count : Nat) : Program (Option Resolved) := do
  if !Redis.isAllowed count authority.rateLimitRpm then
    close (Chat.rateLimited authority.rateLimitRpm)
    return none
  afterCall origin authority (← callGetConfig authority.projectId authority.tenantId)

def afterFirst (window count : Nat) : Program (Option Resolved) := do
  expire authority.keyPrefix window 60
  afterCount origin authority count

def afterWindow (window : Nat) : Program (Option Resolved) := do
  let count ← incr authority.keyPrefix window
  if count = 1 then afterFirst origin authority window count
  else afterCount origin authority count

theorem resolveAuthority_eq :
    resolveAuthority origin authority = (do
      afterWindow origin authority (Redis.rateWindow (← time) 60)) := by
  refine congrArg (Dialogue.ask Command.time) (funext fun (now : Instant) => ?_)
  refine congrArg (Dialogue.ask (Command.incr _ _)) (funext fun (count : Nat) => ?_)
  by_cases opens : count = 1
  · subst opens
    rfl
  · change Dialogue.bind (ite (count = 1) _ _) _ = ite (count = 1) _ _
    rw [if_neg opens, if_neg opens]
    rfl

end Remaining

def returning (program : Program (Option Resolved)) : Program Outcome := do
  return .ok (← program)

/-- The part of the function that a socket has before it. -/
def remaining (socket : Socket) : Program Outcome :=
  let origin := socket.handshake.origin
  match socket.phase, socket.authority with
  | .redeeming rawToken, _ => resolveToken origin rawToken
  | .lookingUp rawKey, _ => resolveKey origin rawKey
  | .touching keyDoc, _ => resolveFound origin keyDoc
  | .limiting window, some authority => returning (afterWindow origin authority window)
  | .arming window count, some authority => returning (afterFirst origin authority window count)
  | .configuring read, some authority => returning (afterCall origin authority read)
  | .fetchingTenant config, some authority => returning (afterConfig origin authority config)
  | .measuring config tenant quota startOfDay, some authority =>
      returning (afterUtc authority config tenant quota startOfDay)
  | .raised, _ => return .error {}
  | .closed _, _ => return .ok none
  | _, _ => return .ok socket.resolved

/-- A handshake with a credential has the whole function before it. -/
theorem remaining_accept {handshake : Handshake} {credential : Chat.Credential}
    (presented : handshake.credential = .ok credential) :
    remaining (Chat.accept handshake) = resolveProject handshake := by
  unfold Handshake.credential at presented
  cases token : given handshake.token with
  | some rawToken => simp only [remaining, Chat.accept, Handshake.credential, resolveProject, token]
  | none =>
      cases apiKey : given handshake.apiKey with
      | some rawKey =>
          simp only [remaining, Chat.accept, Handshake.credential, resolveProject, token, apiKey]
      | none =>
          rw [token, apiKey] at presented
          cases presented

variable {hasher : AuthTokenRepo.PasswordHasher}

/-- Commands put in a row take the program from one state of the service to the other. -/
def Puts (hasher : AuthTokenRepo.PasswordHasher) (service : Service) (program : Program Outcome)
    (world : Service) (left : Program Outcome) : Prop :=
  ∀ past, ∃ history, RunsOn (step hasher) (fun event => event = .put)
    { world := service, program := program, history := past }
    { world := world, program := left, history := history }

theorem Puts.none (service : Service) (program : Program Outcome) :
    Puts hasher service program service program :=
  fun past => ⟨past, .refl _ _⟩

theorem Puts.put {service world final : Service} {command : Command} {answer : command.Answer}
    {next : command.Answer → Program Outcome} {left : Program Outcome}
    (performed : perform hasher service command = some (world, answer))
    (rest : Puts hasher world (next answer) final left) :
    Puts hasher service (.ask command next) final left := by
  intro past
  obtain ⟨history, ran⟩ := rest (past ++ [⟨service, world, ⟨command, answer⟩⟩])
  have first : RunsOn (step hasher) (fun event => event = .put)
      { world := service, program := .ask command next, history := past }
      { world := world
        program := next answer
        history := past ++ [⟨service, world, ⟨command, answer⟩⟩] } := by
    refine Talk.runsOn_put ?_ rfl performed
    rfl
  exact ⟨history, first.trans ran⟩

/-- After `check_and_increment_rate_limit`. -/
theorem puts_meetCount {service : Service} {index : Nat} {socket : Socket} {authority : Authority}
    (authorized : socket.authority = some authority) (count : Nat) :
    ∃ world after, Puts hasher service
        (returning (afterCount socket.handshake.origin authority count)) world (remaining after) ∧
      service.meetCount index socket authority count = world.setSocket index after := by
  unfold Service.meetCount returning afterCount
  cases Redis.isAllowed count authority.rateLimitRpm with
  | false => exact ⟨service, socket.refuse _, .put rfl (.none _ _), rfl⟩
  | true =>
      refine ⟨service.ask authority.projectId authority.tenantId,
        socket.withPhase (.configuring service.nextRead), ?_, rfl⟩
      simp only [remaining, Socket.withPhase, authorized]
      exact .put rfl (.none _ _)

theorem puts_welcome {service : Service} {socket : Socket} {authority : Authority}
    (authorized : socket.authority = some authority) (config : ProjectConfig)
    (tenant : TenantDoc) :
    Puts hasher service (returning (welcome socket.handshake.origin authority config tenant))
      service (remaining (socket.meetTenant authority config (some tenant)
        service.node.clock.utc)) := by
  unfold returning welcome Socket.meetTenant Chat.admitTenant
  dsimp only
  cases Chat.originAllowed socket.handshake.origin config.allowedOrigins with
  | false => exact .put rfl (.none _ _)
  | true =>
      cases suspended : tenant.isSuspended with
      | true => exact .put rfl (.none _ _)
      | false =>
          simp only [if_true, Bool.false_eq_true, if_false]
          cases PlanLimits.dailyTokenQuota tenant.plan with
          | none => exact .none _ _
          | some quota =>
              simp only [remaining, Socket.withPhase, authorized]
              exact .put rfl (.none _ _)

theorem puts_meetTenant {service : Service} {socket : Socket} {authority : Authority}
    (authorized : socket.authority = some authority) (config : ProjectConfig) :
    Puts hasher service (returning (afterConfig socket.handshake.origin authority config)) service
      (remaining (socket.meetTenant authority config
        (TenantRepo.getById service.rest.tenants authority.tenantId)
        service.node.clock.utc)) := by
  refine .put rfl ?_
  cases TenantRepo.getById service.rest.tenants authority.tenantId with
  | none => exact .put rfl (.none _ _)
  | some tenant => exact puts_welcome authorized config tenant

theorem puts_meetUsage {service : Service} (socket : Socket) (authority : Authority)
    (config : ProjectConfig) (tenant : TenantDoc) (quota : Nat) (startOfDay : Instant) :
    Puts hasher service (returning (afterUtc authority config tenant quota startOfDay)) service
      (remaining (socket.meetUsage authority config tenant quota
        (service.usage tenant.id startOfDay))) := by
  unfold returning afterUtc Socket.meetUsage
  refine .put rfl ?_
  by_cases spent : service.usage tenant.id startOfDay ≥ quota
  · rw [if_pos spent]
    change Puts hasher service (Dialogue.bind (ite (service.usage tenant.id startOfDay ≥ quota)
      _ _) _) service _
    rw [if_pos spent]
    exact .put rfl (.none _ _)
  · rw [if_neg spent]
    change Puts hasher service (Dialogue.bind (ite (service.usage tenant.id startOfDay ≥ quota)
      _ _) _) service _
    rw [if_neg spent]
    exact .none _ _

/-- Behind the credential, up to `INCR`. -/
theorem puts_authorize {service : Service} (socket : Socket) (authority : Authority) :
    Puts hasher service (returning (resolveAuthority socket.handshake.origin authority)) service
      (remaining (socket.authorize authority service.now)) := by
  rw [resolveAuthority_eq]
  exact .put rfl (.none _ _)

theorem puts_token {service : Service} {socket : Socket} {rawToken : String} {redis : Redis}
    {payload : Option TokenPayload}
    (redeemed : service.redis.redeemEphemeralToken service.now rawToken = (redis, payload)) :
    Puts hasher service (resolveToken socket.handshake.origin rawToken)
      (service.withRedis redis) (remaining (match payload with
        | none => socket.refuse Chat.tokenInvalid
        | some payload => socket.authorize (.ofToken payload) service.now)) := by
  have performed : perform hasher service (.redeemEphemeralToken rawToken) =
      some (service.withRedis redis, payload) := by
    simp only [perform, redeemed]
    rfl
  refine .put performed ?_
  cases payload with
  | none => exact .put rfl (.none _ _)
  | some payload => exact puts_authorize socket (.ofToken payload)

theorem puts_key {service : Service} {socket : Socket} {rawKey : String} :
    Puts hasher service (resolveKey socket.handshake.origin rawKey) service (remaining (
      match APIKeyRepo.getByRawKey hasher service.rest.apiKeys rawKey with
        | .error _ => socket.withPhase .raised
        | .ok none => socket.refuse Chat.keyInvalid
        | .ok (some keyDoc) => socket.withPhase (.touching keyDoc))) := by
  refine .put rfl ?_
  cases looked : APIKeyRepo.getByRawKey hasher service.rest.apiKeys rawKey with
  | error raised =>
      cases APIKeyRepo.getByRawKey_error looked
      exact .none _ _
  | ok keyDoc =>
      cases keyDoc with
      | none => exact .put rfl (.none _ _)
      | some keyDoc => exact .none _ _

/-- `INCR`, and what follows in the same step. -/
theorem puts_limit {service next : Service} {index window : Nat} {socket : Socket}
    {authority : Authority} (authorized : socket.authority = some authority)
    (run : (if (service.redis.incr service.now authority.keyPrefix window).2 = 1 then
        some ((service.withRedis (service.redis.incr service.now authority.keyPrefix
          window).1).setSocket index (socket.withPhase (.arming window
            (service.redis.incr service.now authority.keyPrefix window).2)))
      else some ((service.withRedis (service.redis.incr service.now authority.keyPrefix
        window).1).meetCount index socket authority
          (service.redis.incr service.now authority.keyPrefix window).2)) = some next) :
    ∃ world after, Puts hasher service
        (returning (afterWindow socket.handshake.origin authority window)) world
        (remaining after) ∧ next = world.setSocket index after := by
  let count := (service.redis.incr service.now authority.keyPrefix window).2
  have first : ∀ {world left}, Puts hasher
      (service.withRedis (service.redis.incr service.now authority.keyPrefix window).1)
      (returning (if count = 1 then afterFirst socket.handshake.origin authority window count
        else afterCount socket.handshake.origin authority count)) world left →
      Puts hasher service (returning (afterWindow socket.handshake.origin authority window))
        world left := fun rest => .put rfl rest
  by_cases opens : count = 1
  · rw [if_pos opens] at run
    cases run
    refine ⟨_, socket.withPhase (.arming window count), first ?_, rfl⟩
    rw [if_pos opens]
    simp only [remaining, Socket.withPhase, authorized]
    exact .none _ _
  · rw [if_neg opens] at run
    cases run
    obtain ⟨world, after, puts, same⟩ := puts_meetCount authorized count
    refine ⟨world, after, first ?_, same⟩
    rw [if_neg opens]
    exact puts

theorem returns_config {service : Service} {read : Nat} {config : Option ProjectConfig}
    (returned : service.configResult read = some config) :
    perform hasher service (.awaitGetConfig read) = some (service, config) := by
  simp only [perform, returned]
  rfl

/-- A command of a socket of the service is the next commands of the function. -/
theorem stepSocket_dialogue {service next : Service} {index : Nat} {uuid : String}
    {socket : Socket} (found : service.sockets[index]? = some socket)
    (resolving : socket.phase ≠ .entering)
    (run : service.stepSocket hasher index uuid = some next) :
    ∃ world after, Puts hasher service (remaining socket) world (remaining after) ∧
      next = world.setSocket index after := by
  simp only [Service.stepSocket, found] at run
  split at run
  · rename_i rawToken phase
    have left : remaining socket = resolveToken socket.handshake.origin rawToken := by
      simp only [remaining, phase]
    rw [left]
    rcases service.redis.redeemEphemeralToken_cases service.now rawToken with
      ⟨_, redeemed⟩ | ⟨payload, _, redeemed⟩
    · simp only [redeemed] at run
      cases run
      exact ⟨service, socket.refuse Chat.tokenInvalid, puts_token redeemed, rfl⟩
    · simp only [redeemed] at run
      cases run
      exact ⟨_, socket.authorize (.ofToken payload) service.now, puts_token redeemed, rfl⟩
  · rename_i rawKey phase
    have left : remaining socket = resolveKey socket.handshake.origin rawKey := by
      simp only [remaining, phase]
    rw [left]
    refine ⟨service, _, puts_key, ?_⟩
    cases looked : APIKeyRepo.getByRawKey hasher service.rest.apiKeys rawKey with
    | error raised =>
        simp only [looked] at run
        cases run
        rfl
    | ok keyDoc =>
        cases keyDoc with
        | none =>
            simp only [looked] at run
            cases run
            rfl
        | some keyDoc =>
            simp only [looked] at run
            cases run
            rfl
  · rename_i keyDoc phase
    cases run
    have left : remaining socket = resolveFound socket.handshake.origin keyDoc := by
      simp only [remaining, phase]
    rw [left]
    exact ⟨service, socket.authorize (.ofKey keyDoc) service.now,
      .put rfl (puts_authorize socket (.ofKey keyDoc)), rfl⟩
  · rename_i window authority phase authorized
    have left : remaining socket =
        returning (afterWindow socket.handshake.origin authority window) := by
      simp only [remaining, phase, authorized]
    rw [left]
    exact puts_limit authorized run
  · rename_i window count authority phase authorized
    cases run
    have left : remaining socket =
        returning (afterFirst socket.handshake.origin authority window count) := by
      simp only [remaining, phase, authorized]
    rw [left]
    obtain ⟨world, after, puts, same⟩ := puts_meetCount authorized count
    exact ⟨world, after, .put rfl puts, same⟩
  · rename_i read authority phase authorized
    have left : remaining socket =
        returning (afterCall socket.handshake.origin authority read) := by
      simp only [remaining, phase, authorized]
    rw [left]
    split at run
    · cases run
    · rename_i returned
      cases run
      refine ⟨service, socket.refuse Chat.projectNotFound, .put (returns_config returned) ?_, rfl⟩
      exact .put rfl (.none _ _)
    · rename_i config returned
      cases run
      refine ⟨service, socket.withPhase (.fetchingTenant config),
        .put (returns_config returned) ?_, rfl⟩
      simp only [remaining, Socket.withPhase, authorized]
      exact .none _ _
  · rename_i config authority phase authorized
    cases run
    have left : remaining socket =
        returning (afterConfig socket.handshake.origin authority config) := by
      simp only [remaining, phase, authorized]
    rw [left]
    exact ⟨service, _, puts_meetTenant authorized config, rfl⟩
  · rename_i config tenant quota startOfDay authority phase authorized
    cases run
    have left : remaining socket =
        returning (afterUtc authority config tenant quota startOfDay) := by
      simp only [remaining, phase, authorized]
    rw [left]
    exact ⟨service, _, puts_meetUsage socket authority config tenant quota startOfDay, rfl⟩
  · rename_i authority phase authorized
    exact absurd phase resolving
  · cases run

end LiveChat.Api.ResolveProject
