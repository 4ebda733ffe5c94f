import LiveChat.Foundation.ExpiringStore
import LiveChat.Core.Schemas

/-!
# Ephemeral tokens and rate limits in Redis

The commands of `db/redis_client.py` apart from the project config cache, which is part of
`ProjectRepo`.  A token is stored as the payload that its JSON text holds.
-/

set_option autoImplicit false

namespace LiveChat.Db

open LiveChat.Core
open LiveChat.Foundation

def EPHEMERAL_TOKEN_DEFAULT_TTL : Nat := 60

def EPHEMERAL_TOKEN_MAX_TTL : Nat := 300

def SECOND : Nat := 1000000000

/-- `int(time.time())`. -/
def unixTime (now : Instant) : Nat := now / SECOND

structure TokenPayload where
  projectId : String
  tenantId : String
  apiKeyId : String
  rateLimitRpm : Int
  issuedAt : Nat
  expiresAt : Nat
  metadata : List (String × String)
  deriving DecidableEq, Repr

structure Redis where
  /-- The keys `ephemeral_token:{token}`. -/
  ephemeralTokens : ExpiringStore String TokenPayload := ∅
  /-- The keys `rate_limit:{key_prefix}:{window}`. -/
  rateLimits : ExpiringStore (String × Nat) Nat := ∅

namespace Redis

/-! ## Ephemeral tokens -/

/-- `max(1, min(ttl, EPHEMERAL_TOKEN_MAX_TTL))`. -/
def clampTtl (ttl : Nat) : Nat := max 1 (min ttl EPHEMERAL_TOKEN_MAX_TTL)

/-- What `create_ephemeral_token` makes up before its `SET`. -/
def newPayload (now : Instant) (projectId tenantId apiKeyId : String) (rateLimitRpm : Int)
    (ttl : Nat) (metadata : List (String × String)) : TokenPayload :=
  { projectId := projectId
    tenantId := tenantId
    apiKeyId := apiKeyId
    rateLimitRpm := rateLimitRpm
    issuedAt := unixTime now
    expiresAt := unixTime now + clampTtl ttl
    metadata := metadata }

/-- The `SET` of `create_ephemeral_token`. -/
def createEphemeralToken (redis : Redis) (now : Instant) (rawToken : String)
    (payload : TokenPayload) (ttl : Nat) : Redis :=
  { redis with
    ephemeralTokens := redis.ephemeralTokens.set now rawToken payload (clampTtl ttl * SECOND) }

/-- `_LUA_REDEEM`. -/
def redeemEphemeralToken (redis : Redis) (now : Instant) (rawToken : String) :
    Redis × Option TokenPayload :=
  let (ephemeralTokens, payload) := redis.ephemeralTokens.take now rawToken
  ({ redis with ephemeralTokens := ephemeralTokens }, payload)

theorem redeemEphemeralToken_cases (redis : Redis) (now : Instant) (rawToken : String) :
    (redis.ephemeralTokens.get now rawToken = none ∧
      redis.redeemEphemeralToken now rawToken = (redis, none)) ∨
    ∃ payload, redis.ephemeralTokens.get now rawToken = some payload ∧
      redis.redeemEphemeralToken now rawToken =
        ({ redis with ephemeralTokens := redis.ephemeralTokens.erase rawToken },
          some payload) := by
  rcases redis.ephemeralTokens.take_cases now rawToken with ⟨gone, taken⟩ | ⟨payload, live, taken⟩
  · exact Or.inl ⟨gone, by simp only [redeemEphemeralToken, taken]⟩
  · exact Or.inr ⟨payload, live, by simp only [redeemEphemeralToken, taken]⟩

def peekEphemeralToken (redis : Redis) (now : Instant) (rawToken : String) :
    Option TokenPayload :=
  redis.ephemeralTokens.get now rawToken

/-- Redis answers in seconds, rounded from milliseconds; -2 for a missing key. -/
def getEphemeralTokenTtl (redis : Redis) (now : Instant) (rawToken : String) : Int :=
  match redis.ephemeralTokens.remaining now rawToken with
  | none => -2
  | some left => ((left / 1000000 + 500) / 1000 : Nat)

/-! ## Rate limits -/

/-- The number of the window that the present second lies in. -/
def rateWindow (now : Instant) (windowS : Nat) : Nat := unixTime now / windowS

/-- `INCR`: the counter after it, too. -/
def incr (redis : Redis) (now : Instant) (keyPrefix : String) (window : Nat) : Redis × Nat :=
  ({ redis with
      rateLimits := redis.rateLimits.update now (keyPrefix, window) 0 fun count => count + 1 },
    (redis.rateLimits.get now (keyPrefix, window)).getD 0 + 1)

/-- `EXPIRE` with twice the length of the window. -/
def expire (redis : Redis) (now : Instant) (keyPrefix : String) (window windowS : Nat) : Redis :=
  { redis with
    rateLimits := redis.rateLimits.expire now (keyPrefix, window) (windowS * 2 * SECOND) }

/-- `count <= limit`. -/
def isAllowed (count : Nat) (limit : Int) : Bool := decide ((count : Int) ≤ limit)

/-- `check_and_increment_rate_limit` with no other command in between. -/
def checkAndIncrementRateLimit (redis : Redis) (now : Instant) (keyPrefix : String) (limit : Int)
    (windowS : Nat) : Redis × Bool :=
  let window := rateWindow now windowS
  let (redis, count) := redis.incr now keyPrefix window
  if count = 1 then (redis.expire now keyPrefix window windowS, isAllowed count limit)
  else (redis, isAllowed count limit)

theorem checkAndIncrementRateLimit_allowed (redis : Redis) (now : Instant) (keyPrefix : String)
    (limit : Int) (windowS : Nat) :
    (redis.checkAndIncrementRateLimit now keyPrefix limit windowS).2 =
      isAllowed (redis.incr now keyPrefix (rateWindow now windowS)).2 limit := by
  simp only [checkAndIncrementRateLimit]
  split <;> rfl

end Redis

end LiveChat.Db
