import LiveChat.Api.Chat
import LiveChat.Api.RestSteps
import LiveChat.Repositories.AuthTokenRepo

/-!
# Access tokens, login and refresh

`get_current_tenant` of `api/dependencies.py`, with `login` and `refresh` of `api/auth.py`
and the functions of `core/auth.py` that they call.  A `Library` is what these use of
python-jose, argon2-cffi and `str.lower`.  Cookies are part of the response.
-/

set_option autoImplicit false

namespace LiveChat.Api.Auth

open LiveChat.Core
open LiveChat.Core.PlanLimits (Plan)
open LiveChat.Db
open LiveChat.Foundation
open LiveChat.Repositories
open LiveChat.Repositories.AuthTokenRepo (PasswordHasher)
open LiveChat.Api.Projects (HTTPException)

/-! ## `core/auth.py` -/

def ACCESS_TOKEN_TTL_MINUTES : Nat := 15

/-- The payload of a JWT; a claim that is absent is `none`. -/
structure Claims where
  sub : Option String := none
  email : Option String := none
  plan : Option String := none
  type : Option String := none
  iat : Nat := 0
  exp : Nat := 0
  deriving DecidableEq, Repr

structure Library where
  passwords : PasswordHasher
  /-- `check_needs_rehash`. -/
  needsRehash : String → Bool
  /-- `jwt.encode` with the secret of the service. -/
  encode : Claims → String
  /-- `jwt.decode` at a time; `none` for a `JWTError`. -/
  decode : Instant → String → Option Claims
  lower : String → String

/-- A library that signs nothing, for runs on concrete values. -/
def plainLibrary : Library where
  passwords := AuthTokenRepo.plainHasher
  needsRehash := fun _ => false
  encode := fun claims => "jwt:" ++ claims.sub.getD ""
  decode := fun _ token => (Text.afterPrefix "jwt:" token).map fun sub =>
    { sub := some sub, type := some "access" }
  lower := fun text => text

variable (library : Library)

def createAccessToken (now : Instant) (tenant : TenantDoc) : String :=
  library.encode
    { sub := some tenant.id
      email := some tenant.email
      plan := some tenant.plan.name
      type := some "access"
      iat := unixTime now
      exp := unixTime now + ACCESS_TOKEN_TTL_MINUTES * 60 }

def decodeAccessToken (now : Instant) (token : String) : Option Claims :=
  match library.decode now token with
  | none => none
  | some payload => if payload.type = some "access" then some payload else none

/-! ## Exceptions -/

def notAuthenticated : HTTPException := { statusCode := 401, detail := "Not authenticated." }

def accessTokenInvalid : HTTPException :=
  { statusCode := 401, detail := "Access token is invalid or expired." }

def tooManyLogins : HTTPException :=
  { statusCode := 429, detail := "Too many login attempts. Try again in a minute." }

def loginInvalid : HTTPException :=
  { statusCode := 401, detail := "Invalid email or password." }

def refreshTokenMissing : HTTPException :=
  { statusCode := 401, detail := "Refresh token missing." }

def refreshTokenInvalid : HTTPException :=
  { statusCode := 401
    detail := "Refresh token is invalid or expired — please log in again." }

def accountDeactivated : HTTPException :=
  { statusCode := 401, detail := "Account not found or deactivated." }

/-! ## `get_current_tenant` -/

/-- The header goes before the cookie. -/
def getCurrentTenant (now : Instant) (tenants : TenantRepo.Tenants)
    (credentials accessTokenCookie : Option String) : Except HTTPException TenantDoc :=
  match (Chat.given credentials).or (Chat.given accessTokenCookie) with
  | none => .error notAuthenticated
  | some rawToken =>
      match decodeAccessToken library now rawToken with
      | none => .error accessTokenInvalid
      | some payload => currentTenant tenants (payload.sub.getD "")

/-! ## `login` and `refresh` -/

structure Accounts where
  tenants : TenantRepo.Tenants
  redis : Redis
  authTokens : AuthTokenRepo.Store

def Accounts.now (accounts : Accounts) : Instant := accounts.authTokens.now

structure LoginRequest where
  email : String
  password : String
  passwordLength : 1 ≤ password.length

structure AuthResponse where
  accessToken : String
  tokenType : String := "bearer"
  tenantId : String
  email : String
  name : String
  plan : Plan
  /-- The `refresh_token` cookie. -/
  refreshToken : String
  deriving DecidableEq, Repr

def respond (now : Instant) (tenant : TenantDoc) (refreshToken : String) : AuthResponse :=
  { accessToken := createAccessToken library now tenant
    tenantId := tenant.id
    email := tenant.email
    name := tenant.name
    plan := tenant.plan
    refreshToken := refreshToken }

/-- What the random generators return: the salt of a new password hash, and a new refresh
token. -/
structure Random where
  salt : String
  authToken : AuthTokenRepo.Random

/-- `login` after its rate limit; `tokens` hashes the refresh tokens. -/
def authenticate (tokens : PasswordHasher) (accounts : Accounts) (body : LoginRequest)
    (random : Random) : Accounts × Except HTTPException AuthResponse :=
  match TenantRepo.getByEmail accounts.tenants (Text.strip (library.lower body.email)) with
  | none => (accounts, .error loginInvalid)
  | some tenant =>
      if tenant.isActive then
        if library.passwords.verify tenant.passwordHash body.password then
          let tenants := if library.needsRehash tenant.passwordHash then
              TenantRepo.updatePasswordHash accounts.tenants tenant.id
                (library.passwords.hash random.salt body.password)
            else accounts.tenants
          let (authTokens, _, refreshToken) :=
            accounts.authTokens.create tokens tenant.id none random.authToken
          ({ accounts with tenants := tenants, authTokens := authTokens },
            .ok (respond library accounts.now tenant refreshToken))
        else (accounts, .error loginInvalid)
      else (accounts, .error loginInvalid)

def login (tokens : PasswordHasher) (accounts : Accounts) (body : LoginRequest)
    (clientHost : Option String) (random : Random) :
    Accounts × Except HTTPException AuthResponse :=
  let clientIp := clientHost.getD "unknown"
  let (redis, allowed) :=
    accounts.redis.checkAndIncrementRateLimit accounts.now ("login:" ++ clientIp) 10 60
  if allowed then authenticate library tokens { accounts with redis := redis } body random
  else ({ accounts with redis := redis }, .error tooManyLogins)

def refresh (tokens : PasswordHasher) (accounts : Accounts) (refreshToken : Option String)
    (random : AuthTokenRepo.Random) : Accounts × Except HTTPException AuthResponse :=
  match Chat.given refreshToken with
  | none => (accounts, .error refreshTokenMissing)
  | some rawRefresh =>
      match accounts.authTokens.verifyAndRotate tokens rawRefresh none random with
      | (authTokens, none) => ({ accounts with authTokens := authTokens }, .error refreshTokenInvalid)
      | (authTokens, some (newDoc, newRefreshToken)) =>
          let accounts := { accounts with authTokens := authTokens }
          match TenantRepo.getById accounts.tenants newDoc.tenantId with
          | none => (accounts, .error accountDeactivated)
          | some tenant =>
              if tenant.isActive then
                (accounts, .ok (respond library accounts.now tenant newRefreshToken))
              else (accounts, .error accountDeactivated)

/-! ## Who gets through -/

theorem currentTenant_refusal {tenants : TenantRepo.Tenants} {tenantId : String}
    {refusal : HTTPException} (refused : currentTenant tenants tenantId = .error refusal) :
    refusal.statusCode = 401 := by
  unfold currentTenant at refused
  split at refused
  · cases refused
    rfl
  · split at refused
    · cases refused
    · cases refused
      rfl

/-- `get_current_tenant` returns an active tenant, or raises 401. -/
theorem getCurrentTenant_cases (now : Instant) (tenants : TenantRepo.Tenants)
    (credentials accessTokenCookie : Option String) :
    (∃ tenantId tenant, getCurrentTenant library now tenants credentials accessTokenCookie =
        .ok tenant ∧ tenants.lookup tenantId = some tenant ∧ tenant.isActive = true) ∨
      ∃ refusal, getCurrentTenant library now tenants credentials accessTokenCookie =
        .error refusal ∧ refusal.statusCode = 401 := by
  unfold getCurrentTenant
  split
  · exact Or.inr ⟨_, rfl, rfl⟩
  · split
    · exact Or.inr ⟨_, rfl, rfl⟩
    · rename_i payload _
      cases checked : currentTenant tenants (payload.sub.getD "") with
      | error refusal => exact Or.inr ⟨refusal, rfl, currentTenant_refusal checked⟩
      | ok tenant =>
          obtain ⟨stored, active⟩ := Rest.currentTenant_ok checked
          exact Or.inl ⟨_, tenant, rfl, stored, active⟩

theorem mem_of_getByEmail {tenants : TenantRepo.Tenants} {email : String} {tenant : TenantDoc}
    (found : TenantRepo.getByEmail tenants email = some tenant) :
    ∃ tenantId, tenants.lookup tenantId = some tenant := by
  obtain ⟨⟨tenantId, stored⟩, listed, rfl⟩ := List.mem_map.mp (List.mem_of_find?_eq_some found)
  exact ⟨tenantId, AList.mem_lookup_iff.mpr listed⟩

/-- `login` answers for an active tenant, or raises 401, or 429. -/
theorem login_cases (tokens : PasswordHasher) (accounts : Accounts) (body : LoginRequest)
    (clientHost : Option String) (random : Random) :
    (∃ tenantId tenant response, (login library tokens accounts body clientHost random).2 =
        .ok response ∧ response.tenantId = tenant.id ∧
        accounts.tenants.lookup tenantId = some tenant ∧ tenant.isActive = true) ∨
      ∃ refusal, (login library tokens accounts body clientHost random).2 = .error refusal ∧
        (refusal.statusCode = 401 ∨ refusal.statusCode = 429) := by
  simp only [login]
  split
  · simp only [authenticate]
    split
    · exact Or.inr ⟨_, rfl, Or.inl rfl⟩
    · rename_i tenant found
      obtain ⟨tenantId, stored⟩ := mem_of_getByEmail found
      split
      · rename_i active
        split
        · exact Or.inl ⟨tenantId, tenant, _, rfl, rfl, stored, active⟩
        · exact Or.inr ⟨_, rfl, Or.inl rfl⟩
      · exact Or.inr ⟨_, rfl, Or.inl rfl⟩
  · exact Or.inr ⟨_, rfl, Or.inr rfl⟩

/-- `refresh` answers for an active tenant, or raises 401. -/
theorem refresh_cases (tokens : PasswordHasher) (accounts : Accounts)
    (refreshToken : Option String) (random : AuthTokenRepo.Random) :
    (∃ tenantId tenant response, (refresh library tokens accounts refreshToken random).2 =
        .ok response ∧ response.tenantId = tenant.id ∧
        accounts.tenants.lookup tenantId = some tenant ∧ tenant.isActive = true) ∨
      ∃ refusal, (refresh library tokens accounts refreshToken random).2 = .error refusal ∧
        refusal.statusCode = 401 := by
  simp only [refresh]
  split
  · exact Or.inr ⟨_, rfl, rfl⟩
  · split
    · exact Or.inr ⟨_, rfl, rfl⟩
    · split
      · exact Or.inr ⟨_, rfl, rfl⟩
      · rename_i tenant stored
        split
        · rename_i active
          exact Or.inl ⟨_, tenant, _, rfl, rfl, stored, active⟩
        · exact Or.inr ⟨_, rfl, rfl⟩

end LiveChat.Api.Auth
