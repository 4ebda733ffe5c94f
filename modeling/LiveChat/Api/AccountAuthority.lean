import LiveChat.Repositories.ConfigDict
import LiveChat.Foundation.TransitionSystem
import LiveChat.Api.AccountCalls

/-!
# Whose credentials the account endpoints hand out

Every refresh token is made on a ground, the registration of an account or a login with its
email and password, or from a refresh token of the same account that was presented; `Lineage`
says so of the whole history, and `Accounted` ties each stored tenant to its registration.
What a call in flight has read and made so far is `Warranted` by the two.  An access token
names the tenant that it was made for, so `get_current_tenant` lets it act for that tenant only.
-/

set_option autoImplicit false

namespace LiveChat.Api.AccountCalls

open LiveChat.Core
open LiveChat.Db
open LiveChat.Foundation
open LiveChat.Foundation.Provenance
open LiveChat.Foundation.TransitionSystem
open LiveChat.Repositories
open LiveChat.Repositories.AuthTokenRepo (PasswordHasher Issued)
open LiveChat.Api.Auth
open LiveChat.Api.Registration
open LiveChat.Api.Projects (HTTPException)

/-- What `core/auth.py` relies on: python-jose gives back the claims that were signed until the
second of their `exp` is over. -/
structure JwtLibrary extends LawfulLibrary where
  decode_encode : ∀ now claims,
    decode now (encode claims) = if unixTime now ≤ claims.exp then some claims else none
  encode_ne : ∀ claims, encode claims ≠ ""

/-! ## The property -/

/-- The tenant is the one that the request registered. -/
def Describes (library : Library) (body : RegisterRequest) (tenant : TenantDoc) : Prop :=
  tenant.email = normalised library body.email ∧ tenant.name = Text.strip body.name

/-- The account that the request registered, or a login with its email and its password. -/
def Backs (library : Library) (body : RegisterRequest) : Ground → Prop
  | .registration other => other = body
  | .login login =>
      login.password = body.password ∧
        normalised library login.email = normalised library body.email

namespace AccountService

/-- The token is one of the tenant, and so is the first of its line, which was created for the
tenant's registration or for a login with the email and the password registered. -/
def Authorized (library : Library) (service : AccountService) (tenantId : String)
    (token : Issued) : Prop :=
  token.doc.tenantId = tenantId ∧ ∃ body first ground,
    (tenantId, body) ∈ service.registered ∧ first.doc.tenantId = tenantId ∧
      RestsOn service.issued token first ground ∧ Backs library body ground

/-- What holds of a response that a call returned. -/
structure Earned (library : Library) (service : AccountService) (response : AuthResponse)
    (grantedAt : Instant) : Prop where
  account : ∃ body, (response.tenantId, body) ∈ service.registered ∧
    response.email = normalised library body.email ∧ response.name = Text.strip body.name
  refreshToken : ∃ doc, service.Authorized library response.tenantId ⟨doc, response.refreshToken⟩
  past : grantedAt ≤ service.now
  /-- For fifteen minutes the access token is the tenant's own, and then nobody's, whether it
  comes in the header or, without one, in the cookie. -/
  accessToken : ∀ credentials accessTokenCookie,
    credentials = some response.accessToken ∨
      Chat.given credentials = none ∧ accessTokenCookie = some response.accessToken →
    getCurrentTenant library service.now service.accounts.tenants credentials
        accessTokenCookie =
      if unixTime service.now ≤ unixTime grantedAt + ACCESS_TOKEN_TTL_MINUTES * 60 then
        currentTenant service.accounts.tenants response.tenantId
      else .error accessTokenInvalid

structure Guarded (library : Library) (tokens : PasswordHasher) (service : AccountService) :
    Prop where
  ids : (service.registered.map Prod.fst).Nodup
  emails : (service.registered.map fun account => normalised library account.2.email).Nodup
  /-- Only the registered password opens an account. -/
  passwords : ∀ tenantId tenant, service.accounts.tenants.lookup tenantId = some tenant →
    ∃ body, (tenantId, body) ∈ service.registered ∧ Describes library body tenant ∧
      ∀ secret, library.passwords.verify tenant.passwordHash secret = true →
        secret = body.password
  responses : ∀ response grantedAt, .responded response grantedAt ∈ service.calls →
    service.Earned library response grantedAt
  /-- Whoever can refresh holds a token that was issued to the tenant. -/
  refreshes : ∀ rawRefresh doc,
    service.accounts.authTokens.findVerified tokens rawRefresh none = some doc →
      service.Authorized library doc.tenantId ⟨doc, rawRefresh⟩

end AccountService

/-! ## The tenants and their registrations -/

def Hashes (library : Library) (body : RegisterRequest) (passwordHash : String) : Prop :=
  ∃ salt, passwordHash = library.passwords.hash salt body.password

structure Accounted (library : Library) (tenants : TenantRepo.Tenants)
    (registered : List (String × RegisterRequest)) : Prop where
  accounts : ∀ tenantId tenant, tenants.lookup tenantId = some tenant →
    tenant.id = tenantId ∧ ∃ body, (tenantId, body) ∈ registered ∧
      Describes library body tenant ∧
        (tenant.passwordHash = "" ∨ Hashes library body tenant.passwordHash)
  known : ∀ account ∈ registered, ∃ tenant, tenants.lookup account.1 = some tenant ∧
    tenant.email = normalised library account.2.email
  ids : (registered.map Prod.fst).Nodup
  emails : (registered.map fun account => normalised library account.2.email).Nodup

section
variable {library : Library} {tenants : TenantRepo.Tenants}
variable {registered : List (String × RegisterRequest)}

theorem accounted_empty : Accounted library ∅ [] := by
  constructor
  · intro tenantId tenant found
    cases found
  · intro account member
    cases member
  · exact List.nodup_nil
  · exact List.nodup_nil

theorem Accounted.same (accounted : Accounted library tenants registered) {tenantId : String}
    {body other : RegisterRequest} (first : (tenantId, body) ∈ registered)
    (second : (tenantId, other) ∈ registered) : body = other :=
  congrArg Prod.snd (List.inj_on_of_nodup_map accounted.ids first second rfl)

theorem getByEmail_stored {library : Library} (accounted : Accounted library tenants registered)
    {email : String} {tenant : TenantDoc}
    (found : TenantRepo.getByEmail tenants email = some tenant) :
    tenant.email = email ∧ tenants.lookup tenant.id = some tenant := by
  obtain ⟨tenantId, stored⟩ := mem_of_getByEmail found
  have addressed := List.find?_some found
  rw [beq_iff_eq] at addressed
  refine ⟨addressed, ?_⟩
  rw [(accounted.accounts tenantId tenant stored).1]
  exact stored

theorem getByEmail_isSome {tenantId : String} {tenant : TenantDoc}
    (stored : tenants.lookup tenantId = some tenant) :
    (TenantRepo.getByEmail tenants tenant.email).isSome = true := by
  refine List.find?_isSome.mpr ⟨tenant, ?_, beq_self_eq_true tenant.email⟩
  exact List.mem_map.mpr ⟨⟨tenantId, tenant⟩, AList.mem_lookup_iff.mp stored, rfl⟩

theorem accounted_create (accounted : Accounted library tenants registered)
    {next : TenantRepo.Tenants} {id name : String} {body : RegisterRequest}
    (named : name = Text.strip body.name)
    (created : TenantRepo.create tenants id name (normalised library body.email) = some next) :
    Accounted library next (registered ++ [(id, body)]) := by
  unfold TenantRepo.create at created
  split at created
  · cases created
  · rename_i free
    cases created
    obtain ⟨_, free⟩ := not_or.mp free
    obtain ⟨unused, unregistered⟩ := not_or.mp free
    have apart : ∀ account ∈ registered, account.1 ≠ id := by
      rintro ⟨tenantId, other⟩ member rfl
      obtain ⟨tenant, stored, _⟩ := accounted.known _ member
      exact unused (by rw [stored]; rfl)
    have elsewhere : ∀ account ∈ registered,
        normalised library account.2.email ≠ normalised library body.email := by
      intro account member same
      obtain ⟨tenant, stored, addressed⟩ := accounted.known account member
      apply unregistered
      rw [← same, ← addressed]
      exact getByEmail_isSome stored
    constructor
    · intro tenantId tenant found
      by_cases same : tenantId = id
      · subst same
        rw [AList.lookup_insert] at found
        cases found
        exact ⟨rfl, body, List.mem_append_right _ (List.mem_singleton_self _), ⟨rfl, named⟩,
          Or.inl rfl⟩
      · rw [AList.lookup_insert_ne same] at found
        obtain ⟨own, other, member, rest⟩ := accounted.accounts tenantId tenant found
        exact ⟨own, other, List.mem_append_left _ member, rest⟩
    · intro account member
      rcases List.mem_append.mp member with before | added
      · obtain ⟨tenant, stored, addressed⟩ := accounted.known account before
        exact ⟨tenant, (AList.lookup_insert_ne (apart account before)).trans stored, addressed⟩
      · obtain rfl := List.mem_singleton.mp added
        exact ⟨_, AList.lookup_insert _, rfl⟩
    · rw [List.map_append]
      refine List.nodup_append.mpr ⟨accounted.ids, List.nodup_singleton _, ?_⟩
      intro first member second added
      obtain ⟨account, listed, rfl⟩ := List.mem_map.mp member
      obtain rfl := List.mem_singleton.mp added
      exact apart account listed
    · rw [List.map_append]
      refine List.nodup_append.mpr ⟨accounted.emails, List.nodup_singleton _, ?_⟩
      intro first member second added
      obtain ⟨account, listed, rfl⟩ := List.mem_map.mp member
      obtain rfl := List.mem_singleton.mp added
      exact elsewhere account listed

/-- An update that keeps the identity of the tenant, and its hash or the password of its hash. -/
theorem accounted_updateOne (accounted : Accounted library tenants registered) (tenantId : String)
    {change : TenantDoc → TenantDoc}
    (identity : ∀ tenant, (change tenant).id = tenant.id ∧ (change tenant).email = tenant.email ∧
      (change tenant).name = tenant.name)
    (hashed : ∀ tenant body, (tenantId, body) ∈ registered →
      (change tenant).passwordHash = tenant.passwordHash ∨
        Hashes library body (change tenant).passwordHash) :
    Accounted library (TenantRepo.updateOne tenants tenantId change) registered := by
  refine ⟨?_, ?_, accounted.ids, accounted.emails⟩
  · intro other after found
    rw [TenantRepo.lookup_updateOne] at found
    split at found
    · rename_i same
      subst same
      obtain ⟨before, stored, rfl⟩ := Option.map_eq_some_iff.mp found
      obtain ⟨own, body, member, ⟨addressed, named⟩, locked⟩ :=
        accounted.accounts other before stored
      obtain ⟨sameId, sameEmail, sameName⟩ := identity before
      refine ⟨sameId.trans own, body, member, ⟨sameEmail.trans addressed, sameName.trans named⟩, ?_⟩
      rcases hashed before body member with kept | renewed
      · rw [kept]
        exact locked
      · exact Or.inr renewed
    · exact accounted.accounts other after found
  · intro account member
    obtain ⟨tenant, stored, addressed⟩ := accounted.known account member
    rw [TenantRepo.lookup_updateOne]
    split
    · refine ⟨change tenant, by rw [stored]; rfl, (identity tenant).2.1.trans addressed⟩
    · exact ⟨tenant, stored, addressed⟩

theorem accounted_change (accounted : Accounted library tenants registered) (tenantId : String)
    (change : TenantChange) : Accounted library (change.apply tenants tenantId) registered := by
  cases change with
  | plan value =>
      exact accounted_updateOne accounted tenantId (fun _ => ⟨rfl, rfl, rfl⟩)
        fun _ _ _ => Or.inl rfl
  | active value =>
      exact accounted_updateOne accounted tenantId (fun _ => ⟨rfl, rfl, rfl⟩)
        fun _ _ _ => Or.inl rfl
  | suspended value =>
      cases value <;> exact accounted_updateOne accounted tenantId (fun _ => ⟨rfl, rfl, rfl⟩)
        fun _ _ _ => Or.inl rfl

theorem accounted_updatePasswordHash (accounted : Accounted library tenants registered)
    {tenantId passwordHash : String} {body : RegisterRequest} (own : (tenantId, body) ∈ registered)
    (hashes : Hashes library body passwordHash) :
    Accounted library (TenantRepo.updatePasswordHash tenants tenantId passwordHash) registered := by
  refine accounted_updateOne accounted tenantId (fun _ => ⟨rfl, rfl, rfl⟩) ?_
  intro tenant other member
  rw [accounted.same member own]
  exact Or.inr hashes

end

/-! ## The line of a refresh token -/

structure Lineage (library : Library) (tokens : PasswordHasher) (docs : List AuthTokenDoc)
    (issued : List (Entry Issued Ground)) (registered : List (String × RegisterRequest)) :
    Prop where
  documents : ∀ doc ∈ docs, ∃ rawToken, ⟨doc, rawToken⟩ ∈ issued.map Entry.item
  hashed : ∀ token ∈ issued.map Entry.item, ∃ salt,
    token.doc.tokenHash = tokens.hash salt token.rawToken
  grounded : Grounded issued
  owned : ∀ token parent, ⟨token, .item parent⟩ ∈ issued →
    token.doc.tenantId = parent.doc.tenantId
  backed : ∀ token ground, ⟨token, .ground ground⟩ ∈ issued →
    ∃ body, (token.doc.tenantId, body) ∈ registered ∧ Backs library body ground

section
variable {library : Library} {tokens : PasswordHasher} {docs : List AuthTokenDoc}
variable {issued : List (Entry Issued Ground)} {registered : List (String × RegisterRequest)}

theorem lineage_nil : Lineage library tokens [] [] [] := by
  constructor
  · intro doc member
    cases member
  · intro token member
    cases member
  · exact grounded_nil
  · intro token parent listed
    cases listed
  · intro token ground listed
    cases listed

theorem Lineage.sublist (lineage : Lineage library tokens docs issued registered)
    {fewer : List AuthTokenDoc} (kept : fewer.Sublist docs) :
    Lineage library tokens fewer issued registered :=
  { lineage with documents := fun doc member => lineage.documents doc (kept.subset member) }

theorem Lineage.registers (lineage : Lineage library tokens docs issued registered)
    (account : String × RegisterRequest) :
    Lineage library tokens docs issued (registered ++ [account]) :=
  { lineage with
    backed := fun token ground listed => by
      obtain ⟨body, member, backs⟩ := lineage.backed token ground listed
      exact ⟨body, List.mem_append_left _ member, backs⟩ }

theorem Lineage.verified (lineage : Lineage library tokens docs issued registered)
    {doc : AuthTokenDoc} {secret : String} (stored : doc ∈ docs)
    (verifies : tokens.verify doc.tokenHash secret = true) :
    ⟨doc, secret⟩ ∈ issued.map Entry.item := by
  obtain ⟨rawToken, listed⟩ := lineage.documents doc stored
  obtain ⟨salt, hash⟩ := lineage.hashed _ listed
  simp only at hash
  rw [hash] at verifies
  rw [(tokens.verify_hash salt rawToken secret).mp verifies]
  exact listed

/-- What an origin must meet for a token of the tenant. -/
def Licensed (library : Library) (issued : List (Entry Issued Ground))
    (registered : List (String × RegisterRequest)) (tenantId : String) :
    Origin Issued Ground → Prop
  | .ground ground => ∃ body, (tenantId, body) ∈ registered ∧ Backs library body ground
  | .item parent => parent ∈ issued.map Entry.item ∧ tenantId = parent.doc.tenantId

theorem Lineage.create (lineage : Lineage library tokens docs issued registered)
    {token : Issued} {salt : String} {origin : Origin Issued Ground}
    (hashed : token.doc.tokenHash = tokens.hash salt token.rawToken)
    (licensed : Licensed library issued registered token.doc.tenantId origin) :
    Lineage library tokens (docs ++ [token.doc]) (issued ++ [⟨token, origin⟩]) registered := by
  constructor
  · intro doc member
    rw [List.map_append]
    rcases List.mem_append.mp member with before | added
    · obtain ⟨rawToken, listed⟩ := lineage.documents doc before
      exact ⟨rawToken, List.mem_append_left _ listed⟩
    · obtain rfl := List.mem_singleton.mp added
      exact ⟨token.rawToken, List.mem_append_right _ (List.mem_singleton_self _)⟩
  · intro other member
    rw [List.map_append] at member
    rcases List.mem_append.mp member with before | added
    · exact lineage.hashed other before
    · obtain rfl := List.mem_singleton.mp added
      exact ⟨salt, hashed⟩
  · cases origin with
    | ground ground => exact lineage.grounded.begin token ground
    | item parent => exact lineage.grounded.derive token licensed.1
  · intro other parent listed
    rcases List.mem_append.mp listed with before | added
    · exact lineage.owned other parent before
    · cases List.mem_singleton.mp added
      exact licensed.2
  · intro other ground listed
    rcases List.mem_append.mp listed with before | added
    · exact lineage.backed other ground before
    · cases List.mem_singleton.mp added
      exact licensed

/-- Every issued token leads back to a ground of its own tenant. -/
theorem Lineage.rests (lineage : Lineage library tokens docs issued registered) {token : Issued}
    (made : token ∈ issued.map Entry.item) :
    ∃ body first ground, (token.doc.tenantId, body) ∈ registered ∧
      first.doc.tenantId = token.doc.tenantId ∧ RestsOn issued token first ground ∧
        Backs library body ground := by
  obtain ⟨entry, member, rfl⟩ := List.mem_map.mp made
  obtain ⟨first, ground, rests⟩ := lineage.grounded entry member
  have same := rests.keeps (fun token => token.doc.tenantId) lineage.owned
  obtain ⟨body, registered, backs⟩ := lineage.backed first ground rests.listed
  rw [← same] at registered
  exact ⟨body, first, ground, registered, same.symm, rests, backs⟩

end

namespace AccountService

/-! ## The invariant -/

/-- What a call in flight has read and made so far. -/
def Warranted (library : Library) (service : AccountService) : Phase → Prop
  | .registering body tenant passwordHash =>
      (tenant.id, body) ∈ service.registered ∧ Describes library body tenant ∧
        Hashes library body passwordHash
  | .rehashing login tenant newHash =>
      ∃ body, (tenant.id, body) ∈ service.registered ∧ Describes library body tenant ∧
        Backs library body (.login login) ∧ Hashes library body newHash
  | .issuing ground tenant grantedAt =>
      grantedAt ≤ service.now ∧ ∃ body, (tenant.id, body) ∈ service.registered ∧
        Describes library body tenant ∧ Backs library body ground
  | .matched rawToken doc | .deleted rawToken doc | .rotated doc rawToken =>
      ⟨doc, rawToken⟩ ∈ service.issued.map Entry.item
  | .responded response grantedAt =>
      grantedAt ≤ service.now ∧ ∃ tenant body token, (tenant.id, body) ∈ service.registered ∧
        Describes library body tenant ∧ token ∈ service.issued.map Entry.item ∧
          token.doc.tenantId = tenant.id ∧
            response = respond library grantedAt tenant token.rawToken
  | .limited _ | .loggingOut _ | .refused _ | .loggedOut => True

structure Sound (library : Library) (tokens : PasswordHasher) (service : AccountService) :
    Prop where
  accounted : Accounted library service.accounts.tenants service.registered
  lineage : Lineage library tokens service.accounts.authTokens.authTokens service.issued
    service.registered
  warranted : ∀ phase ∈ service.calls, service.Warranted library phase

variable {library : Library} {tokens : PasswordHasher}

theorem sound_initial (now : Instant) : Sound library tokens (initial now) :=
  ⟨accounted_empty, lineage_nil, fun _ member => absurd member List.not_mem_nil⟩

structure Grows (service next : AccountService) : Prop where
  registered : ∀ account ∈ service.registered, account ∈ next.registered
  issued : ∀ token ∈ service.issued.map Entry.item, token ∈ next.issued.map Entry.item
  now : service.now ≤ next.now

theorem Grows.of_eq {service next : AccountService} (registered : next.registered =
    service.registered) (issued : next.issued = service.issued) (now : next.now = service.now) :
    Grows service next :=
  ⟨fun _ member => registered ▸ member, fun _ member => issued ▸ member, Nat.le_of_eq now.symm⟩

theorem Warranted.grows {service next : AccountService} {phase : Phase}
    (warranted : service.Warranted library phase) (grows : Grows service next) :
    next.Warranted library phase := by
  cases phase with
  | registering body tenant passwordHash =>
      exact ⟨grows.registered _ warranted.1, warranted.2⟩
  | rehashing login tenant newHash =>
      obtain ⟨body, member, rest⟩ := warranted
      exact ⟨body, grows.registered _ member, rest⟩
  | issuing ground tenant grantedAt =>
      obtain ⟨past, body, member, rest⟩ := warranted
      exact ⟨Nat.le_trans past grows.now, body, grows.registered _ member, rest⟩
  | matched rawToken doc => exact grows.issued _ warranted
  | deleted rawToken doc => exact grows.issued _ warranted
  | rotated doc rawToken => exact grows.issued _ warranted
  | responded response grantedAt =>
      obtain ⟨past, tenant, body, token, member, described, made, rest⟩ := warranted
      exact ⟨Nat.le_trans past grows.now, tenant, body, token, grows.registered _ member,
        described, grows.issued _ made, rest⟩
  | limited body => trivial
  | loggingOut tenant => trivial
  | refused refusal => trivial
  | loggedOut => trivial

theorem Sound.called {service next : AccountService} (sound : Sound library tokens service)
    (accounted : Accounted library next.accounts.tenants next.registered)
    (lineage : Lineage library tokens next.accounts.authTokens.authTokens next.issued
      next.registered) (grows : Grows service next)
    (calls : ∀ phase ∈ next.calls, phase ∈ service.calls ∨ next.Warranted library phase) :
    Sound library tokens next := by
  refine ⟨accounted, lineage, fun phase member => ?_⟩
  rcases calls phase member with before | warranted
  · exact (sound.warranted phase before).grows grows
  · exact warranted

/-! ## The commands -/

theorem createToken_spec {service after : AccountService} {tenantId : String}
    {tokenFamily : Option String} {random : AuthTokenRepo.Random} {origin : Origin Issued Ground}
    {token : Issued}
    (created : service.createToken tokens tenantId tokenFamily random origin = (after, token)) :
    token.doc.tenantId = tenantId ∧
      token.doc.tokenHash = tokens.hash random.salt token.rawToken ∧
      after.accounts.authTokens.authTokens = service.accounts.authTokens.authTokens ++ [token.doc] ∧
      after.issued = service.issued ++ [⟨token, origin⟩] ∧
      after.registered = service.registered ∧ after.calls = service.calls ∧
      after.accounts.tenants = service.accounts.tenants ∧ after.now = service.now := by
  cases created
  exact ⟨rfl, rfl, rfl, rfl, rfl, rfl, rfl, rfl⟩

/-- What a call leaves when it has performed its command. -/
structure Kept (library : Library) (tokens : PasswordHasher) (service after : AccountService)
    (phase : Phase) : Prop where
  accounted : Accounted library after.accounts.tenants after.registered
  lineage : Lineage library tokens after.accounts.authTokens.authTokens after.issued
    after.registered
  grows : Grows service after
  calls : after.calls = service.calls
  warranted : after.Warranted library phase

theorem kept_created {service after : AccountService} (sound : Sound library tokens service)
    {tenantId : String} {tokenFamily : Option String} {random : AuthTokenRepo.Random}
    {origin : Origin Issued Ground} {token : Issued} {phase : Phase}
    (created : service.createToken tokens tenantId tokenFamily random origin = (after, token))
    (licensed : Licensed library service.issued service.registered tenantId origin)
    (warranted : Grows service after → token ∈ after.issued.map Entry.item →
      token.doc.tenantId = tenantId → after.Warranted library phase) :
    Kept library tokens service after phase := by
  obtain ⟨own, hashed, docs, issued, registered, calls, tenants, now⟩ := createToken_spec created
  have grows : Grows service after := by
    refine ⟨fun _ member => registered ▸ member, fun other member => ?_, Nat.le_of_eq now.symm⟩
    rw [issued, List.map_append]
    exact List.mem_append_left _ member
  have made : token ∈ after.issued.map Entry.item := by
    rw [issued, List.map_append]
    exact List.mem_append_right _ (List.mem_singleton_self _)
  refine ⟨?_, ?_, grows, calls, warranted grows made own⟩
  · rw [tenants, registered]
    exact sound.accounted
  · rw [docs, issued, registered]
    exact sound.lineage.create hashed (own.symm ▸ licensed)

theorem kept_withTenants {service : AccountService} (sound : Sound library tokens service)
    {tenantId passwordHash : String} {phase : Phase} {body : RegisterRequest}
    (own : (tenantId, body) ∈ service.registered) (hashes : Hashes library body passwordHash)
    (warranted : service.Warranted library phase) :
    Kept library tokens service (service.withTenants
      (TenantRepo.updatePasswordHash service.accounts.tenants tenantId passwordHash)) phase :=
  ⟨accounted_updatePasswordHash sound.accounted own hashes, sound.lineage,
    .of_eq rfl rfl rfl, rfl, warranted.grows (.of_eq rfl rfl rfl)⟩

theorem kept_removed {service : AccountService} (sound : Sound library tokens service)
    {authTokens : AuthTokenRepo.Store} {phase : Phase}
    (fewer : authTokens.authTokens.Sublist service.accounts.authTokens.authTokens)
    (now : authTokens.now = service.now) (warranted : service.Warranted library phase) :
    Kept library tokens service (service.withAuthTokens authTokens) phase :=
  ⟨sound.accounted, sound.lineage.sublist fewer, .of_eq rfl rfl now, rfl,
    warranted.grows (.of_eq rfl rfl now)⟩

theorem kept_read {service : AccountService} (sound : Sound library tokens service)
    {phase : Phase} (warranted : service.Warranted library phase) :
    Kept library tokens service service phase :=
  ⟨sound.accounted, sound.lineage, .of_eq rfl rfl rfl, rfl, warranted⟩

end AccountService

section
variable {library : LawfulLibrary} {tokens : PasswordHasher}

/-- A login that verified its password is one with the registered password. -/
theorem backs_of_verified {tenants : TenantRepo.Tenants}
    {registered : List (String × RegisterRequest)}
    (accounted : Accounted library.toLibrary tenants registered) {login : LoginRequest}
    {tenant : TenantDoc}
    (found : TenantRepo.getByEmail tenants (Text.strip (library.lower login.email)) = some tenant)
    (verified : library.passwords.verify tenant.passwordHash login.password = true) :
    ∃ body, (tenant.id, body) ∈ registered ∧ Describes library.toLibrary body tenant ∧
      Backs library.toLibrary body (.login login) := by
  obtain ⟨addressed, stored⟩ := getByEmail_stored accounted found
  obtain ⟨_, body, member, described, locked⟩ := accounted.accounts _ tenant stored
  refine ⟨body, member, described, ?_, addressed.symm.trans described.1⟩
  rcases locked with empty | ⟨salt, hash⟩
  · rw [empty, library.verify_empty] at verified
    cases verified
  · rw [hash] at verified
    exact (library.passwords.verify_hash _ _ _).mp verified

namespace AccountService

theorem performed_kept {service after : AccountService} {phase next : Phase}
    (sound : Sound library.toLibrary tokens service)
    (warranted : service.Warranted library.toLibrary phase)
    (performed : Performed library.toLibrary tokens service phase after next) :
    Kept library.toLibrary tokens service after next := by
  cases performed with
  | hashed =>
      obtain ⟨member, described, hashes⟩ := warranted
      exact kept_withTenants sound member hashes
        ⟨Nat.le_refl _, _, member, described, rfl⟩
  | checked found verified goes =>
      obtain ⟨body, member, described, backs⟩ := backs_of_verified sound.accounted found verified
      rcases goes with ⟨salt, rfl⟩ | rfl
      · exact kept_read sound ⟨body, member, described, backs, salt, by rw [backs.1]⟩
      · exact kept_read sound ⟨Nat.le_refl _, body, member, described, backs⟩
  | rehashed =>
      obtain ⟨body, member, described, backs, hashes⟩ := warranted
      exact kept_withTenants sound member hashes
        ⟨Nat.le_refl _, body, member, described, backs⟩
  | issued created =>
      obtain ⟨past, body, member, described, backs⟩ := warranted
      refine kept_created sound created ⟨body, member, backs⟩ fun grows made own => ?_
      exact ⟨Nat.le_trans past grows.now, _, body, _, grows.registered _ member, described, made,
        own, rfl⟩
  | deleted => exact kept_removed sound List.eraseP_sublist rfl warranted
  | rotated created =>
      exact kept_created sound created ⟨warranted, rfl⟩ fun _ made _ => made
  | answered found =>
      obtain ⟨own, body, member, described, _⟩ := sound.accounted.accounts _ _ found
      rw [← own] at member
      exact kept_read sound ⟨Nat.le_refl _, _, body, _, member, described, warranted, own.symm, rfl⟩
  | revoked => exact kept_removed sound List.filter_sublist rfl trivial
  | refused => exact kept_read sound trivial

theorem sound_moved {service next : AccountService}
    (sound : Sound library.toLibrary tokens service)
    (moved : Moved library.toLibrary tokens service next) :
    Sound library.toLibrary tokens next := by
  have calls : ∀ {before after : AccountService} {phase : Phase}, before.calls = service.calls →
      after.Warranted library.toLibrary phase → ∀ other ∈ (before.call phase).calls,
        other ∈ service.calls ∨ after.Warranted library.toLibrary other := by
    intro before after phase same warranted other member
    rcases List.mem_append.mp member with old | new
    · exact Or.inl (same ▸ old)
    · obtain rfl := List.mem_singleton.mp new
      exact Or.inr warranted
  cases moved with
  | @registered body draws tenants created becomes =>
      subst becomes
      rw [email_newTenant] at created
      have grows : Grows service { (service.withTenants tenants).call (.registering body
            (newTenant library.toLibrary body draws)
            (library.passwords.hash draws.salt body.password)) with
          registered := service.registered ++ [(draws.id, body)] } :=
        ⟨fun _ member => List.mem_append_left _ member, fun _ member => member, Nat.le_refl _⟩
      refine sound.called (accounted_create sound.accounted rfl created)
        (sound.lineage.registers _) grows (calls rfl ?_)
      exact ⟨List.mem_append_right _ (List.mem_singleton_self _),
        ⟨email_newTenant library body draws, rfl⟩, draws.salt, rfl⟩
  | limited answer becomes =>
      subst becomes
      refine sound.called sound.accounted sound.lineage (.of_eq rfl rfl rfl) (calls rfl ?_)
      rcases answer with ⟨body, rfl⟩ | ⟨refusal, rfl⟩ <;> trivial
  | @matched rawRefresh matchedDoc found becomes =>
      subst becomes
      have verifies := List.find?_some found
      rw [Bool.and_eq_true] at verifies
      exact sound.called sound.accounted sound.lineage (.of_eq rfl rfl rfl)
        (calls rfl (sound.lineage.verified (List.mem_of_find?_eq_some found) verifies.2))
  | admitted becomes =>
      subst becomes
      exact sound.called sound.accounted sound.lineage (.of_eq rfl rfl rfl) (calls rfl trivial)
  | refused becomes =>
      subst becomes
      exact sound.called sound.accounted sound.lineage (.of_eq rfl rfl rfl) (calls rfl trivial)
  | @resumed index phase after changed found performed becomes =>
      subst becomes
      have kept := performed_kept sound (sound.warranted _ (List.mem_of_getElem? found)) performed
      refine sound.called kept.accounted kept.lineage
        ⟨kept.grows.registered, kept.grows.issued, kept.grows.now⟩ fun other member => ?_
      rcases List.mem_or_eq_of_mem_set member with before | rfl
      · exact Or.inl (kept.calls ▸ before)
      · exact Or.inr (kept.warranted.grows (.of_eq rfl rfl rfl))
  | @changed tenantId change becomes =>
      subst becomes
      exact sound.called (accounted_change sound.accounted tenantId change) sound.lineage
        (.of_eq rfl rfl rfl) fun _ member => Or.inl member
  | purged authTokens fewer later becomes =>
      subst becomes
      exact sound.called sound.accounted (sound.lineage.sublist fewer)
        ⟨fun _ member => member, fun _ member => member, later⟩ fun _ member => Or.inl member

end AccountService

end

/-! ## Every run -/

/-- `get_current_tenant` on an access token that was made for the tenant. -/
theorem getCurrentTenant_granted (library : JwtLibrary) (now grantedAt : Instant)
    (tenants : TenantRepo.Tenants) (tenant : TenantDoc)
    {credentials accessTokenCookie : Option String}
    (presented : credentials = some (createAccessToken library.toLibrary grantedAt tenant) ∨
      Chat.given credentials = none ∧
        accessTokenCookie = some (createAccessToken library.toLibrary grantedAt tenant)) :
    getCurrentTenant library.toLibrary now tenants credentials accessTokenCookie =
      if unixTime now ≤ unixTime grantedAt + ACCESS_TOKEN_TTL_MINUTES * 60 then
        currentTenant tenants tenant.id
      else .error accessTokenInvalid := by
  have given : Chat.given (some (createAccessToken library.toLibrary grantedAt tenant)) =
      some (createAccessToken library.toLibrary grantedAt tenant) := by
    simp [Chat.given, createAccessToken, library.encode_ne]
  have first : (Chat.given credentials).or (Chat.given accessTokenCookie) =
      some (createAccessToken library.toLibrary grantedAt tenant) := by
    rcases presented with rfl | ⟨none, rfl⟩
    · rw [given, Option.some_or]
    · rw [none, given, Option.none_or]
  simp only [getCurrentTenant, first]
  simp only [decodeAccessToken, createAccessToken, library.decode_encode]
  by_cases fresh : unixTime now ≤ unixTime grantedAt + ACCESS_TOKEN_TTL_MINUTES * 60
  · simp only [fresh, if_true, Option.getD_some]
  · simp only [fresh, if_false]

namespace AccountService

theorem earned_of_warranted {library : JwtLibrary} {tokens : PasswordHasher}
    {service : AccountService} (sound : Sound library.toLibrary tokens service)
    {response : AuthResponse} {grantedAt : Instant}
    (warranted : service.Warranted library.toLibrary (.responded response grantedAt)) :
    service.Earned library.toLibrary response grantedAt := by
  obtain ⟨past, tenant, body, token, member, described, made, own, rfl⟩ := warranted
  obtain ⟨other, first, ground, registered, sameFirst, rests, backs⟩ := sound.lineage.rests made
  rw [own] at registered sameFirst
  exact {
    account := ⟨body, member, described⟩
    refreshToken := ⟨token.doc, own, other, first, ground, registered, sameFirst, rests, backs⟩
    past := past
    accessToken := fun _ _ presented => getCurrentTenant_granted library service.now grantedAt
      service.accounts.tenants tenant presented }

theorem guarded_of_sound {library : JwtLibrary} {tokens : PasswordHasher}
    {service : AccountService} (sound : Sound library.toLibrary tokens service) :
    service.Guarded library.toLibrary tokens := by
  refine ⟨sound.accounted.ids, sound.accounted.emails, ?_, ?_, ?_⟩
  · intro tenantId tenant stored
    obtain ⟨_, body, member, described, locked⟩ := sound.accounted.accounts tenantId tenant stored
    refine ⟨body, member, described, fun secret verified => ?_⟩
    rcases locked with empty | ⟨salt, hash⟩
    · rw [empty, library.verify_empty] at verified
      cases verified
    · rw [hash] at verified
      exact (library.passwords.verify_hash _ _ _).mp verified
  · intro response grantedAt member
    exact earned_of_warranted sound (sound.warranted _ member)
  · intro rawRefresh doc found
    have verifies := List.find?_some found
    rw [Bool.and_eq_true] at verifies
    have made := sound.lineage.verified (List.mem_of_find?_eq_some found) verifies.2
    obtain ⟨body, first, ground, registered, same, rests, backs⟩ := sound.lineage.rests made
    exact ⟨rfl, body, first, ground, registered, same, rests, backs⟩

/-- In every run of the account endpoints, in whatever order the commands of their calls come:
an account has one registration and one email, only the password registered opens it, every
refresh token leads back to its registration or to such a login, and an access token acts for the
tenant that it was made for. -/
theorem accounts_guarded (library : JwtLibrary) (tokens : PasswordHasher) (now : Instant)
    (events : List AccountEvent) (service : AccountService)
    (run : exec (step library.toLibrary tokens) (initial now) events = some service) :
    service.Guarded library.toLibrary tokens :=
  guarded_of_sound (exec_invariant (Sound library.toLibrary tokens)
    (fun _ _ _ sound stepped => sound_moved sound (step_moved stepped))
    (sound_initial now) run)

/-! ## A run -/

def dumpClaims (claims : Claims) : Json.Object :=
  [("sub", ConfigDict.optionalString.encode claims.sub),
    ("email", ConfigDict.optionalString.encode claims.email),
    ("plan", ConfigDict.optionalString.encode claims.plan),
    ("type", ConfigDict.optionalString.encode claims.type),
    ("iat", Codec.nat.encode claims.iat), ("exp", Codec.nat.encode claims.exp)]

def readClaims (members : Json.Object) : Option Claims := do
  let sub <- Codec.required ConfigDict.optionalString "sub" members
  let email <- Codec.required ConfigDict.optionalString "email" members
  let plan <- Codec.required ConfigDict.optionalString "plan" members
  let type <- Codec.required ConfigDict.optionalString "type" members
  let iat <- Codec.required .nat "iat" members
  let exp <- Codec.required .nat "exp" members
  some ⟨sub, email, plan, type, iat, exp⟩

def claimsCodec : Codec Claims where
  encode claims := .object (dumpClaims claims)
  decode
    | .object members => readClaims members
    | _ => none
  Fits _ := True
  wellFormed claims _ := by
    refine ⟨by simp [dumpClaims], ?_, ?_, ?_, ?_, trivial, trivial, trivial⟩ <;>
      exact ConfigDict.optionalString.wellFormed _ fun _ _ => trivial
  decode_encode claims := by
    simp [readClaims, dumpClaims, Codec.required, List.lookup_cons, Codec.decode_encode]

/-- A library whose tokens are the payloads themselves, without a signature. -/
def unsignedLibrary : JwtLibrary where
  toLawfulLibrary :=
    { markedLibrary with
      encode := claimsCodec.text
      decode := fun now token =>
        ((JsonText.loads token).bind claimsCodec.decode).filter fun claims =>
          decide (unixTime now ≤ claims.exp) }
  decode_encode now claims := by
    have read : (JsonText.loads (claimsCodec.text claims)).bind claimsCodec.decode =
        some claims := claimsCodec.read_text trivial
    simp [read, Option.filter]
  encode_ne claims := by
    intro empty
    change claimsCodec.text claims = "" at empty
    have read : JsonText.loads (claimsCodec.text claims) = some (claimsCodec.encode claims) :=
      claimsCodec.loads_text trivial
    rw [empty] at read
    cases read

def sampleRandom (rawToken : String) : Random :=
  ⟨"salt", ⟨rawToken, "salt", "family", rawToken⟩⟩

/-- A registration, a login that overtakes its end, and a refresh with the token of the login. -/
def sampleEvents : List AccountEvent :=
  [.register sampleRegistration sampleDraws, .login sampleRegistration.login none,
    .resume 0 (sampleRandom ""), .resume 1 (sampleRandom ""), .resume 1 (sampleRandom "second"),
    .resume 0 (sampleRandom "first"), .tick 5, .refresh (some "second"),
    .resume 2 (sampleRandom ""), .resume 2 (sampleRandom "third"), .resume 2 (sampleRandom "")]

theorem accounts_guarded_refreshed :
    ∃ service, exec (step unsignedLibrary.toLibrary markedHasher) (initial 0) sampleEvents =
        some service ∧
      service.issued.map (fun entry => entry.item.rawToken) = ["second", "first", "third"] ∧
      (∃ response, .responded response 5 ∈ service.calls ∧ response.tenantId = "tenant" ∧
        response.refreshToken = "third") ∧
      service.Guarded unsignedLibrary.toLibrary markedHasher := by
  refine ⟨_, rfl, rfl, ⟨_, List.mem_of_getElem? (i := 2) rfl, rfl, rfl⟩, ?_⟩
  exact accounts_guarded unsignedLibrary markedHasher 0 sampleEvents _ rfl

end AccountService

end LiveChat.Api.AccountCalls
