import LiveChat.Foundation.Provenance
import LiveChat.Api.Registration

/-!
# Concurrent calls of the account endpoints

`register`, `login`, `refresh` and `logout` of `api/auth.py` as calls in flight, with one phase
between any two of their commands on a store; the commands of different calls come in any order,
and a call that raises or loses its client goes no further.  Billing, the TTL index and the clock
go on in between.

`registered` and `issued` are the history that the code does not keep: with which request each
tenant was registered, and for every refresh token what it was created for.
-/

set_option autoImplicit false

namespace LiveChat.Api.AccountCalls

open LiveChat.Core
open LiveChat.Db
open LiveChat.Foundation
open LiveChat.Foundation.Provenance
open LiveChat.Foundation.TransitionSystem
open LiveChat.Repositories
open LiveChat.Repositories.AuthTokenRepo (PasswordHasher Issued)
open LiveChat.Api.Auth
open LiveChat.Api.Registration
open LiveChat.Api.Projects (HTTPException)

/-- What a refresh token of a new family is created for. -/
inductive Ground where
  | registration (body : RegisterRequest)
  | login (body : LoginRequest)

inductive Phase where
  /-- `register` has hashed the password and inserted its tenant. -/
  | registering (body : RegisterRequest) (tenant : TenantDoc) (passwordHash : String)
  /-- `login` passed its rate limit. -/
  | limited (body : LoginRequest)
  /-- `login` verified the password of the tenant that it read, and hashed it anew. -/
  | rehashing (body : LoginRequest) (tenant : TenantDoc) (newHash : String)
  /-- `register` or `login` has made an access token, and stores a refresh token next. -/
  | issuing (ground : Ground) (tenant : TenantDoc) (grantedAt : Instant)
  /-- `refresh` found the document of the token that it was given. -/
  | matched (rawRefresh : String) (matchedDoc : AuthTokenDoc)
  | deleted (rawRefresh : String) (matchedDoc : AuthTokenDoc)
  /-- `refresh` stored the next token of the family, and reads the tenant next. -/
  | rotated (newDoc : AuthTokenDoc) (newRefreshToken : String)
  /-- `get_current_tenant` let a `logout` in. -/
  | loggingOut (tenant : TenantDoc)
  /-- The response, and when its access token was made. -/
  | responded (response : AuthResponse) (grantedAt : Instant)
  | refused (refusal : HTTPException)
  | loggedOut

structure AccountService where
  accounts : Accounts
  calls : List Phase := []
  registered : List (String × RegisterRequest) := []
  issued : List (Entry Issued Ground) := []

inductive AccountEvent where
  /-- `register` up to its first command, with the salt and the id that it draws. -/
  | register (body : RegisterRequest) (draws : Draws)
  | login (body : LoginRequest) (clientHost : Option String)
  | refresh (refreshToken : Option String)
  | logout (credentials accessTokenCookie : Option String)
  /-- The next command of a call, with what it draws. -/
  | resume (call : Nat) (random : Random)
  | changeTenant (tenantId : String) (change : TenantChange)
  | expire (id : String)
  | tick (elapsed : Nat)

namespace AccountService

def initial (now : Instant) : AccountService :=
  { accounts := { tenants := ∅, redis := {}, authTokens := { now := now } } }

def now (service : AccountService) : Instant := service.accounts.now

def call (service : AccountService) (phase : Phase) : AccountService :=
  { service with calls := service.calls ++ [phase] }

def setPhase (service : AccountService) (index : Nat) (phase : Phase) : AccountService :=
  { service with calls := service.calls.set index phase }

def withTenants (service : AccountService) (tenants : TenantRepo.Tenants) : AccountService :=
  { service with accounts := { service.accounts with tenants := tenants } }

def withRedis (service : AccountService) (redis : Redis) : AccountService :=
  { service with accounts := { service.accounts with redis := redis } }

def withAuthTokens (service : AccountService) (authTokens : AuthTokenRepo.Store) :
    AccountService :=
  { service with accounts := { service.accounts with authTokens := authTokens } }

/-- `AuthTokenRepository.create`: the service after it, the document and the raw token. -/
def createToken (tokens : PasswordHasher) (service : AccountService) (tenantId : String)
    (tokenFamily : Option String) (random : AuthTokenRepo.Random)
    (origin : Origin Issued Ground) : AccountService × Issued :=
  let (authTokens, doc, rawToken) :=
    service.accounts.authTokens.create tokens tenantId tokenFamily random
  let token : Issued := ⟨doc, rawToken⟩
  ({ service.withAuthTokens authTokens with issued := service.issued ++ [⟨token, origin⟩] }, token)

variable (library : Library) (tokens : PasswordHasher)

/-- `login` from the tenant that it reads to its next command. -/
def checkPassword (service : AccountService) (body : LoginRequest) (salt : String) : Phase :=
  match TenantRepo.getByEmail service.accounts.tenants (Text.strip (library.lower body.email)) with
  | none => .refused loginInvalid
  | some tenant =>
      if tenant.isActive then
        if library.passwords.verify tenant.passwordHash body.password then
          if library.needsRehash tenant.passwordHash then
            .rehashing body tenant (library.passwords.hash salt body.password)
          else .issuing (.login body) tenant service.now
        else .refused loginInvalid
      else .refused loginInvalid

/-- `refresh` from the tenant that it reads to its end. -/
def answerRefresh (service : AccountService) (newDoc : AuthTokenDoc) (newRefreshToken : String) :
    Phase :=
  match TenantRepo.getById service.accounts.tenants newDoc.tenantId with
  | none => .refused accountDeactivated
  | some tenant =>
      if tenant.isActive then
        .responded (respond library service.now tenant newRefreshToken) service.now
      else .refused accountDeactivated

/-- The next command of a call, and what the call does up to the command after it. -/
def perform (service : AccountService) (random : Random) : Phase → Option (AccountService × Phase)
  | .registering body tenant passwordHash =>
      some (service.withTenants
          (TenantRepo.updatePasswordHash service.accounts.tenants tenant.id passwordHash),
        .issuing (.registration body) tenant service.now)
  | .limited body => some (service, service.checkPassword library body random.salt)
  | .rehashing body tenant newHash =>
      some (service.withTenants
          (TenantRepo.updatePasswordHash service.accounts.tenants tenant.id newHash),
        .issuing (.login body) tenant service.now)
  | .issuing ground tenant grantedAt =>
      let (service, token) :=
        service.createToken tokens tenant.id none random.authToken (.ground ground)
      some (service, .responded (respond library grantedAt tenant token.rawToken) grantedAt)
  | .matched rawRefresh matchedDoc =>
      some (service.withAuthTokens (service.accounts.authTokens.deleteOne matchedDoc.id),
        .deleted rawRefresh matchedDoc)
  | .deleted rawRefresh matchedDoc =>
      let (service, token) := service.createToken tokens matchedDoc.tenantId
        (some matchedDoc.tokenFamily) random.authToken (.item ⟨matchedDoc, rawRefresh⟩)
      some (service, .rotated token.doc token.rawToken)
  | .rotated newDoc newRefreshToken =>
      some (service, service.answerRefresh library newDoc newRefreshToken)
  | .loggingOut tenant =>
      some (service.withAuthTokens (service.accounts.authTokens.revokeForTenant tenant.id),
        .loggedOut)
  | .responded _ _ | .refused _ | .loggedOut => none

/-- `register` up to its first command. -/
def register (service : AccountService) (body : RegisterRequest) (draws : Draws) :
    AccountService :=
  let tenant := newTenant library body draws
  match TenantRepo.create service.accounts.tenants draws.id tenant.name tenant.email with
  | none => service.call (.refused emailTaken)
  | some tenants =>
      { (service.withTenants tenants).call
          (.registering body tenant (library.passwords.hash draws.salt body.password)) with
        registered := service.registered ++ [(tenant.id, body)] }

/-- `login` up to its rate limit. -/
def login (service : AccountService) (body : LoginRequest) (clientHost : Option String) :
    AccountService :=
  let (redis, allowed) := service.accounts.redis.checkAndIncrementRateLimit service.now
    ("login:" ++ clientHost.getD "unknown") 10 60
  (service.withRedis redis).call (if allowed then .limited body else .refused tooManyLogins)

/-- `refresh` up to the search for the document. -/
def refresh (service : AccountService) (refreshToken : Option String) : AccountService :=
  match Chat.given refreshToken with
  | none => service.call (.refused refreshTokenMissing)
  | some rawRefresh =>
      match service.accounts.authTokens.findVerified tokens rawRefresh none with
      | none => service.call (.refused refreshTokenInvalid)
      | some matchedDoc => service.call (.matched rawRefresh matchedDoc)

def logout (service : AccountService) (credentials accessTokenCookie : Option String) :
    AccountService :=
  match getCurrentTenant library service.now service.accounts.tenants credentials
      accessTokenCookie with
  | .error refusal => service.call (.refused refusal)
  | .ok tenant => service.call (.loggingOut tenant)

def step (service : AccountService) : AccountEvent → Option AccountService
  | .register body draws => some (service.register library body draws)
  | .login body clientHost => some (service.login body clientHost)
  | .refresh refreshToken => some (service.refresh tokens refreshToken)
  | .logout credentials accessTokenCookie =>
      some (service.logout library credentials accessTokenCookie)
  | .resume index random =>
      match service.calls[index]? with
      | none => none
      | some phase =>
          (service.perform library tokens random phase).map fun after =>
            after.1.setPhase index after.2
  | .changeTenant tenantId change =>
      some (service.withTenants (change.apply service.accounts.tenants tenantId))
  | .expire id => some (service.withAuthTokens (service.accounts.authTokens.expire id))
  | .tick elapsed =>
      some (service.withAuthTokens
        { service.accounts.authTokens with now := service.now + elapsed })

/-! ## What a step can do -/

/-- What `perform` does with a call in the phase. -/
inductive Performed (service : AccountService) : Phase → AccountService → Phase → Prop where
  | hashed {body : RegisterRequest} {tenant : TenantDoc} {passwordHash : String} :
      Performed service (.registering body tenant passwordHash)
        (service.withTenants
          (TenantRepo.updatePasswordHash service.accounts.tenants tenant.id passwordHash))
        (.issuing (.registration body) tenant service.now)
  | checked {body : LoginRequest} {tenant : TenantDoc} {phase : Phase}
      (found : TenantRepo.getByEmail service.accounts.tenants
        (Text.strip (library.lower body.email)) = some tenant)
      (verified : library.passwords.verify tenant.passwordHash body.password = true)
      (goes : (∃ salt,
          phase = .rehashing body tenant (library.passwords.hash salt body.password)) ∨
        phase = .issuing (.login body) tenant service.now) :
      Performed service (.limited body) service phase
  | rehashed {body : LoginRequest} {tenant : TenantDoc} {newHash : String} :
      Performed service (.rehashing body tenant newHash)
        (service.withTenants
          (TenantRepo.updatePasswordHash service.accounts.tenants tenant.id newHash))
        (.issuing (.login body) tenant service.now)
  | issued {ground : Ground} {tenant : TenantDoc} {grantedAt : Instant}
      {random : AuthTokenRepo.Random} {after : AccountService} {token : Issued}
      (created : service.createToken tokens tenant.id none random (.ground ground) =
        (after, token)) :
      Performed service (.issuing ground tenant grantedAt) after
        (.responded (respond library grantedAt tenant token.rawToken) grantedAt)
  | deleted {rawRefresh : String} {matchedDoc : AuthTokenDoc} :
      Performed service (.matched rawRefresh matchedDoc)
        (service.withAuthTokens (service.accounts.authTokens.deleteOne matchedDoc.id))
        (.deleted rawRefresh matchedDoc)
  | rotated {rawRefresh : String} {matchedDoc : AuthTokenDoc} {random : AuthTokenRepo.Random}
      {after : AccountService} {token : Issued}
      (created : service.createToken tokens matchedDoc.tenantId (some matchedDoc.tokenFamily)
        random (.item ⟨matchedDoc, rawRefresh⟩) = (after, token)) :
      Performed service (.deleted rawRefresh matchedDoc) after
        (.rotated token.doc token.rawToken)
  | answered {newDoc : AuthTokenDoc} {newRefreshToken : String} {tenant : TenantDoc}
      (found : service.accounts.tenants.lookup newDoc.tenantId = some tenant) :
      Performed service (.rotated newDoc newRefreshToken) service
        (.responded (respond library service.now tenant newRefreshToken) service.now)
  | revoked {tenant : TenantDoc} :
      Performed service (.loggingOut tenant)
        (service.withAuthTokens (service.accounts.authTokens.revokeForTenant tenant.id)) .loggedOut
  | refused {phase : Phase} {refusal : HTTPException} :
      Performed service phase service (.refused refusal)

inductive Moved (service next : AccountService) : Prop where
  | registered {body : RegisterRequest} {draws : Draws} {tenants : TenantRepo.Tenants}
      (created : TenantRepo.create service.accounts.tenants draws.id
        (newTenant library body draws).name (newTenant library body draws).email = some tenants)
      (becomes : next = { (service.withTenants tenants).call (.registering body
          (newTenant library body draws) (library.passwords.hash draws.salt body.password)) with
        registered := service.registered ++ [(draws.id, body)] })
  | limited {redis : Redis} {phase : Phase}
      (answer : (∃ body, phase = .limited body) ∨ ∃ refusal, phase = .refused refusal)
      (becomes : next = (service.withRedis redis).call phase)
  | matched {rawRefresh : String} {matchedDoc : AuthTokenDoc}
      (found : service.accounts.authTokens.findVerified tokens rawRefresh none = some matchedDoc)
      (becomes : next = service.call (.matched rawRefresh matchedDoc))
  | admitted {tenant : TenantDoc} (becomes : next = service.call (.loggingOut tenant))
  | refused {refusal : HTTPException} (becomes : next = service.call (.refused refusal))
  | resumed {index : Nat} {phase after : Phase} {changed : AccountService}
      (found : service.calls[index]? = some phase)
      (performed : Performed library tokens service phase changed after)
      (becomes : next = changed.setPhase index after)
  | changed {tenantId : String} {change : TenantChange}
      (becomes : next =
        service.withTenants (change.apply service.accounts.tenants tenantId))
  | purged (authTokens : AuthTokenRepo.Store)
      (kept : authTokens.authTokens.Sublist service.accounts.authTokens.authTokens)
      (later : service.now ≤ authTokens.now) (becomes : next = service.withAuthTokens authTokens)

variable {library : Library} {tokens : PasswordHasher}

theorem performed_checkPassword (service : AccountService) (body : LoginRequest) (salt : String) :
    Performed library tokens service (.limited body) service
      (service.checkPassword library body salt) := by
  unfold checkPassword
  split
  · exact .refused
  · rename_i tenant found
    split
    · split
      · rename_i verified
        split
        · exact .checked found verified (Or.inl ⟨salt, rfl⟩)
        · exact .checked found verified (Or.inr rfl)
      · exact .refused
    · exact .refused

theorem performed_answerRefresh (service : AccountService) (newDoc : AuthTokenDoc)
    (newRefreshToken : String) :
    Performed library tokens service (.rotated newDoc newRefreshToken) service
      (service.answerRefresh library newDoc newRefreshToken) := by
  unfold answerRefresh
  split
  · exact .refused
  · rename_i tenant found
    split
    · exact .answered found
    · exact .refused

theorem perform_performed {service after : AccountService} {random : Random}
    {phase next : Phase}
    (run : service.perform library tokens random phase = some (after, next)) :
    Performed library tokens service phase after next := by
  cases phase with
  | registering body tenant passwordHash =>
      cases run
      exact .hashed
  | limited body =>
      cases run
      exact performed_checkPassword service body random.salt
  | rehashing body tenant newHash =>
      cases run
      exact .rehashed
  | issuing ground tenant grantedAt =>
      cases run
      exact .issued rfl
  | matched rawRefresh matchedDoc =>
      cases run
      exact .deleted
  | deleted rawRefresh matchedDoc =>
      cases run
      exact .rotated rfl
  | rotated newDoc newRefreshToken =>
      cases run
      exact performed_answerRefresh service newDoc newRefreshToken
  | loggingOut tenant =>
      cases run
      exact .revoked
  | responded response grantedAt => cases run
  | refused refusal => cases run
  | loggedOut => cases run

theorem register_moved (service : AccountService) (body : RegisterRequest) (draws : Draws) :
    Moved library tokens service (service.register library body draws) := by
  simp only [register]
  split
  · exact .refused rfl
  · rename_i tenants created
    exact .registered created rfl

theorem login_moved (service : AccountService) (body : LoginRequest)
    (clientHost : Option String) :
    Moved library tokens service (service.login body clientHost) := by
  refine .limited ?_ rfl
  split
  · exact Or.inl ⟨body, rfl⟩
  · exact Or.inr ⟨tooManyLogins, rfl⟩

theorem refresh_moved (service : AccountService) (refreshToken : Option String) :
    Moved library tokens service (service.refresh tokens refreshToken) := by
  unfold refresh
  split
  · exact .refused rfl
  · split
    · exact .refused rfl
    · rename_i matchedDoc found
      exact .matched found rfl

theorem logout_moved (service : AccountService) (credentials accessTokenCookie : Option String) :
    Moved library tokens service (service.logout library credentials accessTokenCookie) := by
  unfold logout
  split
  · exact .refused rfl
  · exact .admitted rfl

theorem step_moved {service next : AccountService} {event : AccountEvent}
    (run : service.step library tokens event = some next) :
    Moved library tokens service next := by
  cases event with
  | register body draws =>
      cases run
      exact register_moved service body draws
  | login body clientHost =>
      cases run
      exact login_moved service body clientHost
  | refresh refreshToken =>
      cases run
      exact refresh_moved service refreshToken
  | logout credentials accessTokenCookie =>
      cases run
      exact logout_moved service credentials accessTokenCookie
  | resume index random =>
      simp only [step] at run
      split at run
      · cases run
      · rename_i phase found
        obtain ⟨⟨changed, after⟩, ran, rfl⟩ := Option.map_eq_some_iff.mp run
        exact .resumed found (perform_performed ran) rfl
  | changeTenant tenantId change =>
      cases run
      exact .changed rfl
  | expire id =>
      cases run
      exact .purged (service.accounts.authTokens.expire id) List.filter_sublist (Nat.le_refl _) rfl
  | tick elapsed =>
      cases run
      exact .purged { service.accounts.authTokens with now := service.now + elapsed }
        (List.Sublist.refl _) (Nat.le_add_right _ _) rfl

end AccountService

/-! ## With no other command in between -/

def Phase.answer : Phase → Option (Except HTTPException AuthResponse)
  | .responded response _ => some (.ok response)
  | .refused refusal => some (.error refusal)
  | _ => none

namespace AccountService
variable {library : Library} {tokens : PasswordHasher}

/-- The newest call goes on alone until it has the answer, and leaves the accounts so. -/
def EndsAs (library : Library) (tokens : PasswordHasher) (service : AccountService)
    (phase : Phase) (random : Random) (result : Accounts × Except HTTPException AuthResponse) :
    Prop :=
  ∃ count next last, exec (step library tokens) (service.call phase)
      (List.replicate count (.resume service.calls.length random)) = some next ∧
    next.accounts = result.1 ∧ next.calls = service.calls ++ [last] ∧ last.answer = some result.2

theorem found_call (service : AccountService) (phase : Phase) :
    (service.call phase).calls[service.calls.length]? = some phase :=
  List.getElem?_concat_length

theorem setPhase_call (service : AccountService) (phase next : Phase) :
    (service.call phase).setPhase service.calls.length next = service.call next := by
  simp only [call, setPhase, List.set_append_right _ _ (Nat.le_refl _), Nat.sub_self,
    List.set_cons_zero]

theorem EndsAs.now {service : AccountService} {phase : Phase} {random : Random}
    {answer : Except HTTPException AuthResponse} (ended : Phase.answer phase = some answer) :
    EndsAs library tokens service phase random (service.accounts, answer) :=
  ⟨0, service.call phase, phase, rfl, rfl, rfl, ended⟩

/-- One command, and the rest of the call. -/
theorem EndsAs.after {service : AccountService} {phase : Phase} {random : Random}
    {result : Accounts × Except HTTPException AuthResponse} (after : AccountService) (next : Phase)
    (performs : (service.call phase).perform library tokens random phase =
      some (after.call phase, next)) (calls : after.calls = service.calls)
    (rest : EndsAs library tokens after next random result) :
    EndsAs library tokens service phase random result := by
  obtain ⟨count, final, last, run, stores, ended, answered⟩ := rest
  rw [calls] at run ended
  refine ⟨count + 1, final, last, ?_, stores, ended, answered⟩
  have moved : (service.call phase).step library tokens (.resume service.calls.length random) =
      some (after.call next) := by
    simp only [step, found_call, performs, Option.map_some]
    rw [← calls, setPhase_call]
  rw [List.replicate_succ, exec, moved, Option.bind_some]
  exact run

theorem issuing_alone (service : AccountService) (ground : Ground) (tenant : TenantDoc)
    (grantedAt : Instant) (random : Random) :
    EndsAs library tokens service (.issuing ground tenant grantedAt) random
      ({ service.accounts with
        authTokens :=
          (service.accounts.authTokens.create tokens tenant.id none random.authToken).1 },
      .ok (respond library grantedAt tenant
        (service.accounts.authTokens.create tokens tenant.id none random.authToken).2.2)) :=
  .after (service.createToken tokens tenant.id none random.authToken (.ground ground)).1 _ rfl rfl
    (.now rfl)

theorem authenticate_alone (service : AccountService) (body : LoginRequest) (random : Random) :
    EndsAs library tokens service (.limited body) random
      (authenticate library tokens service.accounts body random) := by
  refine .after service (service.checkPassword library body random.salt) rfl rfl ?_
  simp only [authenticate, checkPassword]
  cases found : TenantRepo.getByEmail service.accounts.tenants
      (Text.strip (library.lower body.email)) with
  | none => exact .now rfl
  | some tenant =>
      by_cases active : tenant.isActive = true
      · by_cases verified : library.passwords.verify tenant.passwordHash body.password = true
        · by_cases old : library.needsRehash tenant.passwordHash = true
          · simp only [active, verified, old, if_true]
            let newHash := library.passwords.hash random.salt body.password
            exact .after (service.withTenants (TenantRepo.updatePasswordHash
              service.accounts.tenants tenant.id newHash)) _ rfl rfl
              (issuing_alone _ (.login body) tenant service.now random)
          · simp only [active, verified, old, if_true, Bool.false_eq_true, if_false]
            exact issuing_alone service (.login body) tenant service.now random
        · simp only [active, verified, if_true, Bool.false_eq_true, if_false]
          exact .now rfl
      · simp only [active, Bool.false_eq_true, if_false]
        exact .now rfl

/-- A `login` that nothing interleaves with is `Auth.login`. -/
theorem login_alone (service : AccountService) (body : LoginRequest) (clientHost : Option String)
    (random : Random) : ∃ before phase,
      service.step library tokens (.login body clientHost) = some (before.call phase) ∧
      before.calls = service.calls ∧
      EndsAs library tokens before phase random
        (Auth.login library tokens service.accounts body clientHost random) := by
  let counted := service.accounts.redis.checkAndIncrementRateLimit service.accounts.now
    ("login:" ++ clientHost.getD "unknown") 10 60
  refine ⟨service.withRedis counted.1,
    if counted.2 then .limited body else .refused tooManyLogins, rfl, rfl, ?_⟩
  simp only [Auth.login]
  by_cases allowed : counted.2 = true
  · rw [if_pos allowed, if_pos allowed]
    exact authenticate_alone (service.withRedis counted.1) body random
  · rw [if_neg allowed, if_neg allowed]
    exact .now rfl

theorem answerRefresh_alone (service : AccountService) (newDoc : AuthTokenDoc)
    (newRefreshToken : String) (random : Random) :
    EndsAs library tokens service (service.answerRefresh library newDoc newRefreshToken) random
      (match TenantRepo.getById service.accounts.tenants newDoc.tenantId with
      | none => (service.accounts, .error accountDeactivated)
      | some tenant =>
          if tenant.isActive then
            (service.accounts, .ok (respond library service.now tenant newRefreshToken))
          else (service.accounts, .error accountDeactivated)) := by
  unfold answerRefresh
  cases TenantRepo.getById service.accounts.tenants newDoc.tenantId with
  | none => exact .now rfl
  | some tenant =>
      by_cases active : tenant.isActive = true
      · simp only [active, if_true]
        exact .now rfl
      · simp only [active, Bool.false_eq_true, if_false]
        exact .now rfl

/-- A `refresh` that nothing interleaves with is `Auth.refresh`. -/
theorem refresh_alone (service : AccountService) (refreshToken : Option String)
    (random : Random) : ∃ phase,
      service.step library tokens (.refresh refreshToken) = some (service.call phase) ∧
      EndsAs library tokens service phase random
        (Auth.refresh library tokens service.accounts refreshToken random.authToken) := by
  simp only [step, refresh, Auth.refresh, AuthTokenRepo.Store.verifyAndRotate]
  cases Chat.given refreshToken with
  | none => exact ⟨_, rfl, .now rfl⟩
  | some rawRefresh =>
      simp only
      cases service.accounts.authTokens.findVerified tokens rawRefresh none with
      | none => exact ⟨_, rfl, .now rfl⟩
      | some matchedDoc =>
          let left := service.withAuthTokens (service.accounts.authTokens.deleteOne matchedDoc.id)
          let renewed := left.createToken tokens matchedDoc.tenantId (some matchedDoc.tokenFamily)
            random.authToken (.item ⟨matchedDoc, rawRefresh⟩)
          refine ⟨_, rfl, .after left _ rfl rfl (.after renewed.1 _ rfl rfl
            (.after renewed.1 (renewed.1.answerRefresh library renewed.2.doc renewed.2.rawToken)
              rfl rfl ?_))⟩
          exact answerRefresh_alone renewed.1 renewed.2.doc renewed.2.rawToken random

/-- A `register` that nothing interleaves with and no command of which fails is
`Registration.register`. -/
theorem register_alone (service : AccountService) (body : RegisterRequest) (draws : Draws) :
    ∃ before phase answer,
      service.step library tokens (.register body draws) = some (before.call phase) ∧
      before.calls = service.calls ∧
      EndsAs library tokens before phase ⟨draws.salt, draws.authToken⟩
        ((Registration.register library tokens never service.accounts body draws).1, answer) ∧
      (Registration.register library tokens never service.accounts body draws).2 =
        answer.mapError .refused := by
  simp only [step, register, Registration.register, never, Bool.false_eq_true, if_false]
  cases TenantRepo.create service.accounts.tenants draws.id (newTenant library body draws).name
      (newTenant library body draws).email with
  | none => exact ⟨service, _, .error emailTaken, rfl, rfl, .now rfl, rfl⟩
  | some tenants =>
      let stored : AccountService := { service.withTenants tenants with
        registered := service.registered ++ [(draws.id, body)] }
      let passwordHash := library.passwords.hash draws.salt body.password
      let tenant := newTenant library body draws
      refine ⟨stored, .registering body tenant passwordHash, .ok _, rfl, rfl, ?_, rfl⟩
      exact .after (stored.withTenants
        (TenantRepo.updatePasswordHash tenants tenant.id passwordHash)) _ rfl rfl
        (issuing_alone _ (.registration body) tenant service.now ⟨draws.salt, draws.authToken⟩)

end AccountService

end LiveChat.Api.AccountCalls
