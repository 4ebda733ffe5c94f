import LiveChat.Api.Auth

/-!
# Registration

`register` of `api/auth.py`, with the commands of its three writes, each of which may fail: the
tenant is inserted without a password hash, the hash is set, and a refresh token is stored.
-/

set_option autoImplicit false

namespace LiveChat.Api.Registration

open LiveChat.Core
open LiveChat.Foundation
open LiveChat.Repositories
open LiveChat.Repositories.AuthTokenRepo (PasswordHasher)
open LiveChat.Api.Auth
open LiveChat.Api.Projects (HTTPException)

structure RegisterRequest where
  name : String
  email : String
  password : String
  nameLength : 1 ≤ name.length ∧ name.length ≤ 100
  passwordLength : 8 ≤ password.length ∧ password.length ≤ 128

/-- A library as `register` and `login` rely on it. -/
structure LawfulLibrary extends Library where
  lower_lower : ∀ text, lower (lower text) = lower text
  /-- `verify_password` answers `False` when argon2 rejects the hash itself. -/
  verify_empty : ∀ secret, passwords.verify "" secret = false

/-- What the random generators return: the salt of the password hash, `uuid4()` for the tenant,
and a refresh token. -/
structure Draws where
  salt : String
  id : String
  authToken : AuthTokenRepo.Random

/-- The writes of a registration, in their order. -/
inductive StoreCommand where
  | insertTenant
  | updatePasswordHash
  | insertToken
  deriving DecidableEq

/-- How a registration ends without a response. -/
inductive RegisterError where
  | refused (refusal : HTTPException)
  /-- The exception of a store command, answered with 500. -/
  | raised (command : StoreCommand)
  deriving DecidableEq

def emailTaken : HTTPException :=
  { statusCode := 409, detail := "An account with this email already exists." }

def normalised (library : Library) (email : String) : String := Text.strip (library.lower email)

/-- The document that `create` inserts; `register` has lowered the email before. -/
def newTenant (library : Library) (body : RegisterRequest) (draws : Draws) : TenantDoc :=
  { id := draws.id
    name := Text.strip body.name
    email := normalised library (library.lower body.email) }

/-- A command that `fails` raises and has no effect. -/
def register (library : Library) (tokens : PasswordHasher) (fails : StoreCommand → Bool)
    (accounts : Accounts) (body : RegisterRequest) (draws : Draws) :
    Accounts × Except RegisterError AuthResponse :=
  let passwordHash := library.passwords.hash draws.salt body.password
  let tenant := newTenant library body draws
  if fails .insertTenant then (accounts, .error (.raised .insertTenant))
  else
    match TenantRepo.create accounts.tenants draws.id tenant.name tenant.email with
    | none => (accounts, .error (.refused emailTaken))
    | some tenants =>
        if fails .updatePasswordHash then
          ({ accounts with tenants := tenants }, .error (.raised .updatePasswordHash))
        else
          let accounts := { accounts with
            tenants := TenantRepo.updatePasswordHash tenants tenant.id passwordHash }
          if fails .insertToken then (accounts, .error (.raised .insertToken))
          else
            let (authTokens, _, refreshToken) :=
              accounts.authTokens.create tokens tenant.id none draws.authToken
            ({ accounts with authTokens := authTokens },
              .ok (respond library accounts.now tenant refreshToken))

/-! ## All or nothing -/

def RegisterRequest.login (body : RegisterRequest) : LoginRequest where
  email := body.email
  password := body.password
  passwordLength := Nat.le_trans (by decide) body.passwordLength.1

/-- `uuid4()` is the id of no tenant. -/
def Draws.Fresh (draws : Draws) (tenants : TenantRepo.Tenants) : Prop :=
  draws.id ≠ "" ∧ tenants.lookup draws.id = none

def never (_ : StoreCommand) : Bool := false

/-- No tenant was added; a registration with the email succeeds now if it could before. -/
structure LeftNothing (library : Library) (tokens : PasswordHasher) (before after : Accounts)
    (body : RegisterRequest) : Prop where
  tenants : after.tenants = before.tenants
  registers : TenantRepo.getByEmail before.tenants (normalised library body.email) = none →
    ∀ draws : Draws, draws.Fresh after.tenants →
      ∃ response, (register library tokens never after body draws).2 = .ok response

/-- The tenant is there, and a login with the email and the password succeeds. -/
structure LeftAccount (library : Library) (tokens : PasswordHasher) (after : Accounts)
    (body : RegisterRequest) : Prop where
  tenant : ∃ tenant,
    TenantRepo.getByEmail after.tenants (normalised library body.email) = some tenant ∧
      library.passwords.verify tenant.passwordHash body.password = true
  logsIn : ∀ random,
    ∃ response, (authenticate library tokens after body.login random).2 = .ok response

def AllOrNothing (library : Library) (tokens : PasswordHasher) (fails : StoreCommand → Bool)
    (accounts : Accounts) (body : RegisterRequest) (draws : Draws) : Prop :=
  LeftNothing library tokens accounts
      (register library tokens fails accounts body draws).1 body ∨
    LeftAccount library tokens (register library tokens fails accounts body draws).1 body

def Taken (library : Library) (tenants : TenantRepo.Tenants) (body : RegisterRequest)
    (draws : Draws) : Prop :=
  ¬ draws.Fresh tenants ∨
    (TenantRepo.getByEmail tenants (normalised library body.email)).isSome = true

/-- No failure between the insertion and the hash: the first command fails, or the index rejects
it, or the second one does not fail. -/
def NeverHalfway (library : Library) (fails : StoreCommand → Bool) (accounts : Accounts)
    (body : RegisterRequest) (draws : Draws) : Prop :=
  fails .insertTenant = true ∨ Taken library accounts.tenants body draws ∨
    fails .updatePasswordHash = false

/-! ## The commands -/

theorem normalised_lower (library : LawfulLibrary) (email : String) :
    normalised library.toLibrary (library.lower email) = normalised library.toLibrary email := by
  rw [normalised, normalised, library.lower_lower]

theorem getByEmail_insert (tenants : TenantRepo.Tenants) (id : String) (tenant : TenantDoc) :
    TenantRepo.getByEmail (tenants.insert id tenant) tenant.email = some tenant := by
  simp only [TenantRepo.getByEmail, AList.entries_insert, List.map_cons]
  exact List.find?_cons_of_pos (beq_self_eq_true tenant.email)

theorem getByEmail_newTenant (library : LawfulLibrary) (tenants : TenantRepo.Tenants)
    (body : RegisterRequest) (draws : Draws) :
    TenantRepo.getByEmail (tenants.insert draws.id (newTenant library.toLibrary body draws))
        (normalised library.toLibrary body.email) =
      some (newTenant library.toLibrary body draws) := by
  rw [← normalised_lower]
  exact getByEmail_insert _ _ _

theorem insert_ne_of_fresh {tenants : TenantRepo.Tenants} {draws : Draws}
    (fresh : draws.Fresh tenants) (tenant : TenantDoc) :
    tenants.insert draws.id tenant ≠ tenants := by
  intro same
  have found : (tenants.insert draws.id tenant).lookup draws.id = some tenant :=
    AList.lookup_insert tenants
  rw [same, fresh.2] at found
  cases found

theorem updatePasswordHash_insert (tenants : TenantRepo.Tenants) (tenant : TenantDoc)
    (passwordHash : String) :
    TenantRepo.updatePasswordHash (tenants.insert tenant.id tenant) tenant.id passwordHash =
      (tenants.insert tenant.id tenant).insert tenant.id
        { tenant with passwordHash := passwordHash } := by
  simp only [TenantRepo.updatePasswordHash, TenantRepo.updateOne, AList.lookup_insert]

section
variable (library : LawfulLibrary) (tokens : PasswordHasher)
variable {fails : StoreCommand → Bool} {accounts : Accounts} {body : RegisterRequest}
variable {draws : Draws}

theorem not_taken {tenants : TenantRepo.Tenants} (fresh : draws.Fresh tenants)
    (unregistered : TenantRepo.getByEmail tenants (normalised library.toLibrary body.email) =
      none) : ¬ Taken library.toLibrary tenants body draws := by
  rintro (used | registered)
  · exact used fresh
  · rw [unregistered] at registered
    cases registered

theorem email_newTenant (body : RegisterRequest) (draws : Draws) :
    (newTenant library.toLibrary body draws).email = normalised library.toLibrary body.email :=
  normalised_lower library body.email

theorem create_taken {tenants : TenantRepo.Tenants}
    (taken : Taken library.toLibrary tenants body draws) :
    TenantRepo.create tenants draws.id (newTenant library.toLibrary body draws).name
      (newTenant library.toLibrary body draws).email = none := by
  rw [TenantRepo.create, email_newTenant, if_pos]
  rcases taken with used | registered
  · by_cases named : draws.id = ""
    · exact Or.inl named
    · exact Or.inr (Or.inl (Option.isSome_iff_ne_none.mpr fun unused => used ⟨named, unused⟩))
  · exact Or.inr (Or.inr registered)

theorem create_free {tenants : TenantRepo.Tenants}
    (free : ¬ Taken library.toLibrary tenants body draws) :
    TenantRepo.create tenants draws.id (newTenant library.toLibrary body draws).name
        (newTenant library.toLibrary body draws).email =
      some (tenants.insert draws.id (newTenant library.toLibrary body draws)) := by
  obtain ⟨fresh, unregistered⟩ := not_or.mp free
  obtain ⟨named, unused⟩ := not_not.mp fresh
  have passes : ¬ (draws.id = "" ∨ (tenants.lookup draws.id).isSome ∨
      (TenantRepo.getByEmail tenants (newTenant library.toLibrary body draws).email).isSome) := by
    rintro (empty | used | registered)
    · exact named empty
    · simp [unused] at used
    · rw [email_newTenant] at registered
      exact unregistered registered
  rw [TenantRepo.create, if_neg passes]
  rfl

theorem register_insertTenant_fails (failed : fails .insertTenant = true) :
    (register library.toLibrary tokens fails accounts body draws).1 = accounts := by
  simp only [register, failed, if_true]

theorem register_taken (taken : Taken library.toLibrary accounts.tenants body draws) :
    (register library.toLibrary tokens fails accounts body draws).1 = accounts := by
  simp only [register, create_taken library taken]
  split
  · rfl
  · rfl

theorem register_updatePasswordHash_fails (runs : fails .insertTenant = false)
    (free : ¬ Taken library.toLibrary accounts.tenants body draws)
    (failed : fails .updatePasswordHash = true) :
    (register library.toLibrary tokens fails accounts body draws).1.tenants =
      accounts.tenants.insert draws.id (newTenant library.toLibrary body draws) := by
  simp only [register, runs, failed, create_free library free, Bool.false_eq_true, if_false,
    if_true]

theorem register_updatePasswordHash (runs : fails .insertTenant = false)
    (free : ¬ Taken library.toLibrary accounts.tenants body draws)
    (hashed : fails .updatePasswordHash = false) :
    (register library.toLibrary tokens fails accounts body draws).1.tenants =
      (accounts.tenants.insert draws.id (newTenant library.toLibrary body draws)).insert draws.id
        { newTenant library.toLibrary body draws with
          passwordHash := library.passwords.hash draws.salt body.password } := by
  have written := updatePasswordHash_insert accounts.tenants
    (newTenant library.toLibrary body draws) (library.passwords.hash draws.salt body.password)
  have sameId : (newTenant library.toLibrary body draws).id = draws.id := rfl
  simp only [register, runs, hashed, create_free library free, Bool.false_eq_true, if_false]
  rw [sameId] at written ⊢
  split
  · exact written
  · exact written

/-- Without failures, a fresh id and a free email are enough. -/
theorem register_never {draws : Draws} (fresh : draws.Fresh accounts.tenants)
    (unregistered : TenantRepo.getByEmail accounts.tenants
      (normalised library.toLibrary body.email) = none) :
    ∃ response, (register library.toLibrary tokens never accounts body draws).2 = .ok response := by
  have created := create_free library (not_taken library fresh unregistered)
  simp only [register, created, never, Bool.false_eq_true, if_false]
  exact ⟨_, rfl⟩

theorem authenticate_ok {library : Library} {tokens : PasswordHasher} {accounts : Accounts}
    {body : LoginRequest} {tenant : TenantDoc}
    (found : TenantRepo.getByEmail accounts.tenants (normalised library body.email) = some tenant)
    (active : tenant.isActive = true)
    (verified : library.passwords.verify tenant.passwordHash body.password = true)
    (random : Auth.Random) :
    ∃ response, (authenticate library tokens accounts body random).2 = .ok response := by
  unfold normalised at found
  simp only [authenticate, found, active, verified, if_true]
  exact ⟨_, rfl⟩

end

/-! ## When it is all or nothing -/

theorem leftNothing_of_same (library : LawfulLibrary) (tokens : PasswordHasher)
    (accounts : Accounts) (body : RegisterRequest) :
    LeftNothing library.toLibrary tokens accounts accounts body :=
  ⟨rfl, fun free _ fresh => register_never library tokens fresh free⟩

/-- A registration leaves nothing or a whole account, unless the command that sets the hash fails
after the tenant was inserted. -/
theorem allOrNothing_iff (library : LawfulLibrary) (tokens : PasswordHasher)
    (fails : StoreCommand → Bool) (accounts : Accounts) (body : RegisterRequest) (draws : Draws) :
    AllOrNothing library.toLibrary tokens fails accounts body draws ↔
      NeverHalfway library.toLibrary fails accounts body draws := by
  unfold AllOrNothing NeverHalfway
  cases inserts : fails .insertTenant with
  | true =>
      rw [register_insertTenant_fails library tokens inserts]
      exact iff_of_true (Or.inl (leftNothing_of_same library tokens accounts body)) (Or.inl rfl)
  | false =>
      by_cases taken : Taken library.toLibrary accounts.tenants body draws
      · rw [register_taken library tokens taken]
        exact iff_of_true (Or.inl (leftNothing_of_same library tokens accounts body))
          (Or.inr (Or.inl taken))
      · cases hashes : fails .updatePasswordHash with
        | true =>
            have halfway := register_updatePasswordHash_fails library tokens inserts taken hashes
            refine iff_of_false ?_ (by simp [taken])
            rintro (nothing | account)
            · have fresh := not_not.mp (mt Or.inl taken)
              exact insert_ne_of_fresh fresh _ (halfway.symm.trans nothing.tenants)
            · obtain ⟨tenant, found, verified⟩ := account.tenant
              rw [halfway, getByEmail_newTenant] at found
              cases found
              cases (library.verify_empty body.password).symm.trans verified
        | false =>
            have stored := register_updatePasswordHash library tokens inserts taken hashes
            have found : TenantRepo.getByEmail
                (register library.toLibrary tokens fails accounts body draws).1.tenants
                (normalised library.toLibrary body.email) = some
                  { newTenant library.toLibrary body draws with
                    passwordHash := library.passwords.hash draws.salt body.password } := by
              rw [stored, ← normalised_lower]
              exact getByEmail_insert _ _ _
            have verified := (library.passwords.verify_hash draws.salt body.password _).mpr rfl
            refine iff_of_true (Or.inr ⟨⟨_, found, verified⟩, ?_⟩) (Or.inr (Or.inr rfl))
            exact authenticate_ok found rfl verified

/-- The half-created tenant keeps its email from every later registration, and lets nobody in. -/
theorem halfway_locked (library : LawfulLibrary) (tokens : PasswordHasher)
    {fails : StoreCommand → Bool} {accounts : Accounts} {body : RegisterRequest} {draws : Draws}
    (inserts : fails .insertTenant = false)
    (free : ¬ Taken library.toLibrary accounts.tenants body draws)
    (failed : fails .updatePasswordHash = true) :
    let halfway := (register library.toLibrary tokens fails accounts body draws).1
    (∀ other draws,
      normalised library.toLibrary other.email = normalised library.toLibrary body.email →
        (register library.toLibrary tokens never halfway other draws).2 =
          .error (.refused emailTaken)) ∧
      ∀ login random,
        normalised library.toLibrary login.email = normalised library.toLibrary body.email →
          (authenticate library.toLibrary tokens halfway login random).2 =
            .error loginInvalid := by
  intro halfway
  have found := getByEmail_newTenant library accounts.tenants body draws
  rw [← register_updatePasswordHash_fails library tokens inserts free failed] at found
  change TenantRepo.getByEmail halfway.tenants _ = _ at found
  clear_value halfway
  refine ⟨fun other later same => ?_, fun login random same => ?_⟩
  · rw [← same] at found
    have taken : Taken library.toLibrary halfway.tenants other later :=
      Or.inr (by rw [found]; rfl)
    simp only [register, never, create_taken library taken, Bool.false_eq_true, if_false]
  · rw [← same] at found
    unfold normalised at found
    have rejected : library.passwords.verify (newTenant library.toLibrary body draws).passwordHash
        login.password = false := library.verify_empty login.password
    simp only [authenticate, found, rejected, Bool.false_eq_true, if_false, ite_self]

def markedHasher : PasswordHasher where
  hash := fun _ secret => "argon2:" ++ secret
  verify := fun hash secret => hash == "argon2:" ++ secret
  verify_hash := by
    intro salt secret other
    rw [beq_iff_eq, String.append_right_inj]
    exact eq_comm

def markedLibrary : LawfulLibrary where
  toLibrary := { plainLibrary with passwords := markedHasher }
  lower_lower := fun _ => rfl
  verify_empty := by
    intro secret
    refine beq_eq_false_iff_ne.mpr fun same => ?_
    have length := congrArg String.length same
    have marked : "argon2:".length = 7 := by decide
    rw [String.length_append, marked] at length
    rw [String.length_empty] at length
    omega

def sampleRegistration : RegisterRequest where
  name := "Tenant"
  email := "t@example.com"
  password := "correct horse"
  nameLength := by decide
  passwordLength := by decide

def sampleDraws : Draws := ⟨"salt", "tenant", ⟨"raw", "salt", "family", "token"⟩⟩

/-- The command that sets the hash fails: a tenant without a hash stays, so that another
registration is refused, and so is the login. -/
theorem not_allOrNothing :
    let accounts : Accounts := ⟨∅, {}, { now := 0 }⟩
    let halfway := (register markedLibrary.toLibrary markedHasher
      (fun command => command = .updatePasswordHash) accounts sampleRegistration sampleDraws).1
    ¬ AllOrNothing markedLibrary.toLibrary markedHasher
        (fun command => command = .updatePasswordHash) accounts sampleRegistration sampleDraws ∧
      (register markedLibrary.toLibrary markedHasher never halfway sampleRegistration
        { sampleDraws with id := "other" }).2 = .error (.refused emailTaken) ∧
      (authenticate markedLibrary.toLibrary markedHasher halfway sampleRegistration.login
        ⟨"salt", sampleDraws.authToken⟩).2 = .error loginInvalid := by
  refine ⟨?_, rfl, rfl⟩
  rintro (nothing | account)
  · have found := congrArg (AList.lookup "tenant") nothing.tenants
    cases found
  · obtain ⟨response, answered⟩ := account.logsIn ⟨"salt", sampleDraws.authToken⟩
    cases answered

end LiveChat.Api.Registration
