import LiveChat.Foundation.Text
import LiveChat.Db.RedisClient
import LiveChat.Core.SessionManager
import LiveChat.Repositories.APIKeyRepo
import LiveChat.Repositories.SessionRepo
import LiveChat.Repositories.TenantRepo

/-!
# The handshake of a chat WebSocket

`_resolve_project` and `ws_chat` of `api/chat.py` up to the session.  A `Socket` is a
connection with the local variables of the two functions and the command it awaits; the
pure parts between two commands are the functions here.
-/

set_option autoImplicit false

namespace LiveChat.Api.Chat

open LiveChat.Core
open LiveChat.Core.PlanLimits (Plan)
open LiveChat.Core.SessionManager (Node)
open LiveChat.Db
open LiveChat.Foundation
open LiveChat.Repositories

/-! ## Close codes -/

structure Close where
  code : Nat
  reason : String
  deriving DecidableEq, Repr

def credentialMissing : Close :=
  { code := 4001, reason := "Either api_key or token query parameter is required." }

def keyInvalid : Close := { code := 4001, reason := "Invalid or revoked API key." }

def tenantNotFound : Close := { code := 4001, reason := "Tenant account not found." }

def projectNotFound : Close := { code := 4002, reason := "Project not found or inactive." }

def rateLimited (rateLimitRpm : Int) : Close :=
  { code := 4003, reason := s!"Rate limit exceeded ({rateLimitRpm} req/min)." }

def sessionsExceeded (limit : Nat) : Close :=
  { code := 4004
    reason := s!"This project has reached its maximum concurrent session limit of {limit}." }

def tokenInvalid : Close :=
  { code := 4005, reason := "Ephemeral token is invalid, already redeemed, or expired." }

def originRefused (origin : String) : Close :=
  { code := 4006, reason := s!"Origin '{origin}' is not allowed for this project." }

def accountSuspended : Close :=
  { code := 4007, reason := "Account suspended. Please check your billing or contact support." }

def quotaExceeded (quota : Nat) : Close :=
  { code := 4008
    reason := "Daily token quota of " ++ Text.grouped quota ++
      " tokens exceeded. Quota resets at midnight UTC." }

/-! ## Credentials -/

/-- The query parameters and the `Origin` header. -/
structure Handshake where
  apiKey : Option String := none
  token : Option String := none
  sessionId : Option String := none
  origin : Option String := none
  deriving DecidableEq, Repr

inductive Credential where
  | token (rawToken : String)
  | apiKey (rawKey : String)
  deriving DecidableEq, Repr

/-- A parameter that counts as true: it is there and not empty. -/
def given (parameter : Option String) : Option String := parameter.filter fun text => text != ""

/-- A token goes before an API key. -/
def Handshake.credential (handshake : Handshake) : Except Close Credential :=
  match given handshake.token, given handshake.apiKey with
  | some rawToken, _ => .ok (.token rawToken)
  | none, some rawKey => .ok (.apiKey rawKey)
  | none, none => .error credentialMissing

/-- What `_resolve_project` takes from the token's payload or from the key's document;
`keyPrefix` is what the rate limiter counts under. -/
structure Authority where
  projectId : String
  tenantId : String
  apiKeyId : String
  rateLimitRpm : Int
  keyPrefix : String
  deriving DecidableEq, Repr

def Authority.ofToken (payload : TokenPayload) : Authority :=
  { projectId := payload.projectId
    tenantId := payload.tenantId
    apiKeyId := payload.apiKeyId
    rateLimitRpm := payload.rateLimitRpm
    keyPrefix := "tok:" ++ payload.projectId }

def Authority.ofKey (doc : APIKeyDoc) : Authority :=
  { projectId := doc.projectId
    tenantId := doc.tenantId
    apiKeyId := doc.id
    rateLimitRpm := doc.rateLimitRpm
    keyPrefix := doc.keyPrefix }

/-! ## Checks of the tenant -/

def originAllowed (origin : Option String) (allowedOrigins : List String) : Bool :=
  match allowedOrigins, origin with
  | [], _ => true
  | _, none => true
  | allowed, some origin => allowed.contains origin

/-- From the tenant's document to the quota check. -/
def admitTenant (origin : Option String) (config : ProjectConfig) (tenant : Option TenantDoc) :
    Except Close TenantDoc :=
  match tenant with
  | none => .error tenantNotFound
  | some tenant =>
      if originAllowed origin config.allowedOrigins then
        if tenant.isSuspended then .error accountSuspended else .ok tenant
      else .error (originRefused (origin.getD ""))

/-- `(ProjectConfig, api_key_id, tenant_plan)`. -/
structure Resolved where
  config : ProjectConfig
  apiKeyId : String
  tenantPlan : Plan
  deriving DecidableEq

/-! ## Connections -/

inductive SocketPhase where
  /-- `redeem_ephemeral_token`. -/
  | redeeming (rawToken : String)
  /-- `get_by_raw_key`: the `find`, whose cursor is read to the key. -/
  | lookingUp (rawKey : String)
  /-- `get_by_raw_key`: `_touch_last_used` of the key that it returns. -/
  | touching (keyDoc : APIKeyDoc)
  /-- `INCR` of the window that was computed. -/
  | limiting (window : Nat)
  /-- `EXPIRE`, after the first `INCR`. -/
  | arming (window count : Nat)
  /-- `get_config_by_id` or `get_config_for_key`: a `ReadCall` of the project store. -/
  | configuring (read : Nat)
  /-- `tenants.get_by_id`. -/
  | fetchingTenant (config : ProjectConfig)
  /-- `get_daily_token_usage`. -/
  | measuring (config : ProjectConfig) (tenant : TenantDoc) (quota : Nat) (startOfDay : Instant)
  /-- `_resolve_project` returned; `get_or_create` is next. -/
  | entering
  | connected (sessionId : String)
  | closed (close : Close)
  /-- `get_by_raw_key` raised. -/
  | raised
  deriving DecidableEq

structure Socket where
  handshake : Handshake
  authority : Option Authority := none
  /-- What `_resolve_project` returned, when it was not `None`. -/
  resolved : Option Resolved := none
  phase : SocketPhase

/-- `ws.accept()`, and `_resolve_project` up to its first await. -/
def accept (handshake : Handshake) : Socket :=
  { handshake := handshake
    phase := match handshake.credential with
      | .error close => .closed close
      | .ok (.token rawToken) => .redeeming rawToken
      | .ok (.apiKey rawKey) => .lookingUp rawKey }

theorem accept_untouched (handshake : Handshake) (keyDoc : APIKeyDoc) :
    (accept handshake).phase ≠ .touching keyDoc := by
  simp only [accept]
  split <;> nofun

namespace Socket

def withPhase (socket : Socket) (phase : SocketPhase) : Socket := { socket with phase := phase }

def refuse (socket : Socket) (close : Close) : Socket := socket.withPhase (.closed close)

/-- The credential is good: the rate limit is next. -/
def authorize (socket : Socket) (authority : Authority) (now : Instant) : Socket :=
  { socket with authority := some authority, phase := .limiting (Redis.rateWindow now 60) }

def resolve (socket : Socket) (resolved : Resolved) : Socket :=
  { socket with resolved := some resolved, phase := .entering }

def meetTenant (socket : Socket) (authority : Authority) (config : ProjectConfig)
    (tenant : Option TenantDoc) (utc : Instant) : Socket :=
  match admitTenant socket.handshake.origin config tenant with
  | .error close => socket.refuse close
  | .ok tenant =>
      match PlanLimits.dailyTokenQuota tenant.plan with
      | none => socket.resolve ⟨config, authority.apiKeyId, tenant.plan⟩
      | some quota =>
          socket.withPhase (.measuring config tenant quota (SessionRepo.startOfDay utc))

def meetUsage (socket : Socket) (authority : Authority) (config : ProjectConfig)
    (tenant : TenantDoc) (quota usage : Nat) : Socket :=
  if usage ≥ quota then socket.refuse (quotaExceeded quota)
  else socket.resolve ⟨config, authority.apiKeyId, tenant.plan⟩

end Socket

/-- `get_or_create` raises `MaxSessionsExceededError`. -/
def exceedsSessions (node : Node) (sessionId : String) (config : ProjectConfig) : Bool :=
  (node.sessions.lookup sessionId).isNone &&
    decide (node.projectSessionCount config.projectId ≥ config.maxConcurrentSessions)

end LiveChat.Api.Chat
