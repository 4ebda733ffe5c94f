import LiveChat.Api.Chat
import LiveChat.Api.Rest
import LiveChat.Api.Tokens

/-!
# The service with its tokens and handshakes

The REST layer, the session manager, Redis, the calls of `api/tokens.py` and the sockets
of `api/chat.py`, with one command of one task a step.  All clocks advance together.

`issued` and `ended` are the history that the code does not keep: every ephemeral token
with the token that its chain of rotations began with, and the record of every session
that came to its `finally` block.
-/

set_option autoImplicit false

namespace LiveChat.Api

open LiveChat.Core
open LiveChat.Core.GeminiRunner (Session)
open LiveChat.Core.SessionManager (Node NodeEvent Record)
open LiveChat.Db
open LiveChat.Repositories
open LiveChat.Repositories.ProjectRepo (RepoEvent)
open LiveChat.Api.Chat (Authority Handshake Resolved Socket)
open LiveChat.Api.Tokens (Access TokenCall TokenPhase TokenRequest)

/-- One `SET` of an ephemeral token, by which call, and until when it holds. -/
structure Issue where
  payload : TokenPayload
  origin : String
  call : Nat
  expiresAt : Instant

structure Service where
  rest : Rest
  node : Node
  redis : Redis := {}
  tokenCalls : List TokenCall := []
  sockets : List Socket := []
  issued : AList fun _ : String => Issue := ∅
  ended : List Record := []

inductive ServiceEvent where
  | tick (elapsed : Nat)
  | rest (event : RestEvent)
  | node (event : NodeEvent)
  /-- A request on `/v1/tokens` with its `Authorization` header. -/
  | requestToken (header : Option String) (request : TokenRequest)
  | tokenStep (call : Nat) (rawToken : String)
  | accept (handshake : Handshake)
  | socketStep (socket : Nat) (uuid : String)

/-- The commands of the project store that other events of the service stand for. -/
def asksOrTicks : RestEvent → Bool
  | .repo (.getConfig ..) | .repo (.tick _) => true
  | _ => false

def opensOrTicks : NodeEvent → Bool
  | .getOrCreate .. | .tick .. => true
  | _ => false

/-- The record that a runner makes up when it comes to its `finally` block. -/
def closing (before after : Session) : Option SessionDoc :=
  match before.await, after.await with
  | .recording .., _ => none
  | _, .recording doc _ => some doc
  | _, _ => none

/-- The session that a step of the node ended. -/
def endedBy (before after : Node) : NodeEvent → List Record
  | .runner index _ =>
      match before.runners[index]?, after.runners[index]? with
      | some runner, some moved =>
          ((closing runner.session moved.session).map fun doc => ⟨doc, index⟩).toList
      | _, _ => []
  | _ => []

namespace Service

def initial (now : Instant) (clock : Clock) : Service :=
  { rest := .initial now, node := .initial clock }

def now (service : Service) : Instant := service.rest.repo.store.now

def withRedis (service : Service) (redis : Redis) : Service := { service with redis := redis }

def ask (service : Service) (projectId tenantId : String) : Service :=
  { service with
    rest := service.rest.withRepo (service.rest.repo.ask projectId tenantId) }

def nextRead (service : Service) : Nat := service.rest.repo.reads.length

/-- What a `get_config` call returned, when it did. -/
def configResult (service : Service) (read : Nat) : Option (Option ProjectConfig) :=
  match service.rest.repo.reads[read]? with
  | some ⟨_, _, _, .returned result⟩ => some result
  | _ => none

/-! ## Calls of `api/tokens.py` -/

def setToken (service : Service) (index : Nat) (phase : TokenPhase) : Service :=
  { service with
    tokenCalls := service.tokenCalls.modify index fun call => { call with phase := phase } }

/-- The token that the chain of a token began with. -/
def originOf (service : Service) (rawToken : String) : String :=
  match service.issued.lookup rawToken with
  | none => rawToken
  | some issue => issue.origin

/-- `create_ephemeral_token` for a call; a token that was rotated hands its chain on. -/
def storeToken (service : Service) (index : Nat) (rawToken : String) (payload : TokenPayload)
    (ttlSeconds : Nat) (consumed : Option (String × Int)) : Service :=
  { service with
    redis := service.redis.createEphemeralToken service.now rawToken payload ttlSeconds
    issued := service.issued.insert rawToken
      { payload := payload
        origin := match consumed with
          | none => rawToken
          | some (rotated, _) => service.originOf rotated
        call := index
        expiresAt := service.now + Redis.clampTtl ttlSeconds * SECOND } }

/-- The next command of a call; generated tokens never collide. -/
def stepToken (hasher : AuthTokenRepo.PasswordHasher) (service : Service) (index : Nat)
    (rawToken : String) : Option Service :=
  match service.tokenCalls[index]? with
  | some ⟨_, .lookingUp rawKey⟩ =>
      match APIKeyRepo.getByRawKey hasher service.rest.apiKeys rawKey with
      | .error _ => some (service.setToken index .raised)
      | .ok none => some (service.setToken index (.failed Tokens.keyInvalid))
      | .ok (some key) => some (service.setToken index (.touching key))
  -- nothing in the service reads `last_used_at`
  | some ⟨_, .touching key⟩ =>
      match Tokens.requireSecret (some key) with
      | .error refusal => some (service.setToken index (.failed refusal))
      | .ok key =>
          some ((service.ask key.projectId key.tenantId).setToken index
            (.configuring key service.nextRead))
  | some ⟨request, .configuring key read⟩ =>
      match service.configResult read with
      | none => none
      | some none => some (service.setToken index (.failed Tokens.projectNotFound))
      | some (some config) =>
          some (service.setToken index (request.begin ⟨key, config⟩ service.now))
  | some ⟨_, .timing access currentToken⟩ =>
      some (service.setToken index (Tokens.meetTtl access currentToken
        (service.redis.getEphemeralTokenTtl service.now currentToken)))
  | some ⟨_, .peeking access currentToken oldTtl⟩ =>
      some (service.setToken index (Tokens.meetPayload access currentToken oldTtl
        (service.redis.peekEphemeralToken service.now currentToken)))
  | some ⟨request, .consuming access currentToken oldTtl oldPayload⟩ =>
      let (redis, consumed) := service.redis.redeemEphemeralToken service.now currentToken
      some ((service.withRedis redis).setToken index (Tokens.meetConsumed access currentToken
        oldTtl oldPayload request.ttlSeconds service.now consumed))
  | some ⟨request, .storing _ payload consumed⟩ =>
      if (service.issued.lookup rawToken).isSome then none
      else
        some ((service.storeToken index rawToken payload request.ttlSeconds consumed).setToken index
          (.answered (Tokens.respond rawToken payload request.ttlSeconds)
            (consumed.map Prod.snd)))
  | _ => none

/-! ## Handshakes of `api/chat.py` -/

def setSocket (service : Service) (index : Nat) (socket : Socket) : Service :=
  { service with sockets := service.sockets.set index socket }

def meetCount (service : Service) (index : Nat) (socket : Socket) (authority : Authority)
    (count : Nat) : Service :=
  if Redis.isAllowed count authority.rateLimitRpm then
    (service.ask authority.projectId authority.tenantId).setSocket index
      (socket.withPhase (.configuring service.nextRead))
  else service.setSocket index (socket.refuse (Chat.rateLimited authority.rateLimitRpm))

/-- `session_id or str(uuid.uuid4())`, then `get_or_create`. -/
def enter (service : Service) (index : Nat) (socket : Socket) (resolved : Resolved)
    (uuid : String) : Option Service :=
  let sessionId := (Chat.given socket.handshake.sessionId).getD uuid
  if Chat.exceedsSessions service.node sessionId resolved.config then
    some (service.setSocket index
      (socket.refuse (Chat.sessionsExceeded resolved.config.maxConcurrentSessions)))
  else
    (service.node.step (.getOrCreate sessionId resolved.config resolved.apiKeyId)).map fun node =>
      { service.setSocket index (socket.withPhase (.connected sessionId)) with node := node }

def usage (service : Service) (tenantId : String) (startOfDay : Instant) : Nat :=
  SessionRepo.getDailyTokenUsage (service.node.records.map Record.doc) tenantId startOfDay

/-- The next command of a handshake. -/
def stepSocket (hasher : AuthTokenRepo.PasswordHasher) (service : Service) (index : Nat)
    (uuid : String) : Option Service :=
  match service.sockets[index]? with
  | none => none
  | some socket =>
      match socket.phase, socket.authority with
      | .redeeming rawToken, _ =>
          match service.redis.redeemEphemeralToken service.now rawToken with
          | (_, none) => some (service.setSocket index (socket.refuse Chat.tokenInvalid))
          | (redis, some payload) =>
              some ((service.withRedis redis).setSocket index
                (socket.authorize (.ofToken payload) service.now))
      | .lookingUp rawKey, _ =>
          match APIKeyRepo.getByRawKey hasher service.rest.apiKeys rawKey with
          | .error _ => some (service.setSocket index (socket.withPhase .raised))
          | .ok none => some (service.setSocket index (socket.refuse Chat.keyInvalid))
          | .ok (some doc) => some (service.setSocket index (socket.withPhase (.touching doc)))
      | .touching keyDoc, _ =>
          some (service.setSocket index (socket.authorize (.ofKey keyDoc) service.now))
      | .limiting window, some authority =>
          let (redis, count) := service.redis.incr service.now authority.keyPrefix window
          if count = 1 then
            some ((service.withRedis redis).setSocket index
              (socket.withPhase (.arming window count)))
          else some ((service.withRedis redis).meetCount index socket authority count)
      | .arming window count, some authority =>
          some ((service.withRedis (service.redis.expire service.now authority.keyPrefix window
            60)).meetCount index socket authority count)
      | .configuring read, some _ =>
          match service.configResult read with
          | none => none
          | some none => some (service.setSocket index (socket.refuse Chat.projectNotFound))
          | some (some config) =>
              some (service.setSocket index (socket.withPhase (.fetchingTenant config)))
      | .fetchingTenant config, some authority =>
          some (service.setSocket index (socket.meetTenant authority config
            (TenantRepo.getById service.rest.tenants authority.tenantId)
            service.node.clock.utc))
      | .measuring config tenant quota startOfDay, some authority =>
          some (service.setSocket index (socket.meetUsage authority config tenant quota
            (service.usage tenant.id startOfDay)))
      | .entering, some _ =>
          match socket.resolved with
          | none => none
          | some resolved => service.enter index socket resolved uuid
      | _, _ => none

/-! ## The service -/

def step (hasher : AuthTokenRepo.PasswordHasher) (service : Service) :
    ServiceEvent → Option Service
  | .tick elapsed =>
      (service.rest.step hasher (.repo (.tick elapsed))).bind fun rest =>
        (service.node.step (.tick elapsed (service.node.clock.utc + elapsed))).map fun node =>
          { service with rest := rest, node := node }
  | .rest event =>
      if asksOrTicks event then none
      else (service.rest.step hasher event).map fun rest => { service with rest := rest }
  | .node event =>
      if opensOrTicks event then none
      else
        (service.node.step event).map fun node =>
          { service with
            node := node
            ended := service.ended ++ endedBy service.node node event }
  | .requestToken header request =>
      let phase := match Tokens.bearerKey header with
        | .error refusal => .failed refusal
        | .ok rawKey => .lookingUp rawKey
      some { service with tokenCalls := service.tokenCalls ++ [⟨request, phase⟩] }
  | .tokenStep call rawToken => service.stepToken hasher call rawToken
  | .accept handshake =>
      some { service with sockets := service.sockets ++ [Chat.accept handshake] }
  | .socketStep socket uuid => service.stepSocket hasher socket uuid

end Service

end LiveChat.Api
