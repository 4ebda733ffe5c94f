import LiveChat.Foundation.TransitionSystem
import LiveChat.Core.Schemas

/-!
# Refresh tokens

`repositories/auth_token_repo.py` with the endpoints of `api/auth.py` that use it.
A `PasswordHasher` is the argon2 hasher, with the law that a hash verifies the
secret it was made from and no other.  The `auth_tokens` collection is changed by one
MongoDB command at a time; `TokenEvent` lists the commands, and a call of
`verify_and_rotate` in flight is a `RefreshCall` that has matched its document.
A call that matched none has returned `None` and leaves no trace.

`issued` is the history that the code does not keep: every token ever created.
-/

set_option autoImplicit false

namespace LiveChat.Repositories.AuthTokenRepo

open LiveChat.Core
open LiveChat.Foundation.TransitionSystem

structure PasswordHasher where
  hash : (salt : String) → (secret : String) → String
  verify : (hash : String) → (secret : String) → Bool
  verify_hash : ∀ salt secret other, verify (hash salt secret) other = true ↔ other = secret

/-- A hasher that hides nothing, for runs on concrete values. -/
def plainHasher : PasswordHasher where
  hash := fun _ secret => secret
  verify := fun hash secret => hash == secret
  verify_hash := by
    intro salt secret other
    rw [beq_iff_eq]
    exact eq_comm

/-- What the random generators return for one new token: `token_urlsafe(32)`, the
salt, and `uuid4()` for the family and for the `_id`. -/
structure Random where
  rawToken : String
  salt : String
  family : String
  id : String
  deriving DecidableEq

def REFRESH_TTL : Nat := 7 * 24 * 60 * 60 * 1000000000

/-! ## The collection -/

structure Store where
  authTokens : List AuthTokenDoc := []
  now : Instant

namespace Store

/-- The document that `create` inserts. -/
def newDoc (hasher : PasswordHasher) (store : Store) (tenantId : String)
    (tokenFamily : Option String) (random : Random) : AuthTokenDoc :=
  { id := random.id
    tenantId := tenantId
    tokenHash := hasher.hash random.salt random.rawToken
    -- `token_family or str(uuid.uuid4())`
    tokenFamily := match tokenFamily with
      | none => random.family
      | some family => if family = "" then random.family else family
    expiresAt := store.now + REFRESH_TTL }

def insertOne (store : Store) (doc : AuthTokenDoc) : Store :=
  { store with authTokens := store.authTokens ++ [doc] }

def create (hasher : PasswordHasher) (store : Store) (tenantId : String)
    (tokenFamily : Option String) (random : Random) : Store × AuthTokenDoc × String :=
  let doc := store.newDoc hasher tenantId tokenFamily random
  (store.insertOne doc, doc, random.rawToken)

/-- The query on `expires_at` and, when a tenant id is given, on `tenant_id`. -/
def queried (store : Store) (tenantId : Option String) (doc : AuthTokenDoc) : Bool :=
  decide (store.now < doc.expiresAt) &&
    match tenantId with
    | none => true
    | some tenantId => decide (tenantId = "") || decide (doc.tenantId = tenantId)

/-- The first queried document whose hash verifies the raw token. -/
def findVerified (hasher : PasswordHasher) (store : Store) (rawToken : String)
    (tenantId : Option String) : Option AuthTokenDoc :=
  store.authTokens.find? fun doc =>
    store.queried tenantId doc && hasher.verify doc.tokenHash rawToken

def deleteOne (store : Store) (id : String) : Store :=
  { store with authTokens := store.authTokens.eraseP fun doc => decide (doc.id = id) }

/-- `_check_and_kill_reused_family` logs a warning and does nothing else. -/
def checkAndKillReusedFamily (store : Store) (_rawToken _tenantId : String) : Store := store

/-- `verify_and_rotate` with no other command in between. -/
def verifyAndRotate (hasher : PasswordHasher) (store : Store) (rawToken : String)
    (tenantId : Option String) (random : Random) : Store × Option (AuthTokenDoc × String) :=
  match store.findVerified hasher rawToken tenantId with
  | none =>
      match tenantId with
      | none => (store, none)
      | some tenantId =>
          if tenantId = "" then (store, none)
          else (store.checkAndKillReusedFamily rawToken tenantId, none)
  | some matchedDoc =>
      let (store, issued) := (store.deleteOne matchedDoc.id).create hasher matchedDoc.tenantId
        (some matchedDoc.tokenFamily) random
      (store, some issued)

def revokeForTenant (store : Store) (tenantId : String) : Store :=
  { store with authTokens := store.authTokens.filter fun doc => decide (doc.tenantId ≠ tenantId) }

/-- The TTL index removes an expired document. -/
def expire (store : Store) (id : String) : Store :=
  { store with
    authTokens := store.authTokens.filter fun doc =>
      decide (store.now < doc.expiresAt) || decide (doc.id ≠ id) }

end Store

/-! ## Concurrent calls -/

inductive Phase where
  /-- The document was found and verified. -/
  | verified
  /-- `delete_one` returned. -/
  | deleted
  /-- The successor was inserted, and the call returns it. -/
  | rotated
  deriving DecidableEq, Repr

structure RefreshCall where
  rawToken : String
  matchedDoc : AuthTokenDoc
  phase : Phase
  deriving DecidableEq

def RefreshCall.inFlight (call : RefreshCall) : Bool :=
  match call.phase with
  | .rotated => false
  | _ => true

structure Issued where
  doc : AuthTokenDoc
  rawToken : String
  deriving DecidableEq

structure State where
  store : Store
  calls : List RefreshCall := []
  issued : List Issued := []

inductive TokenEvent where
  /-- `register` or `login`: a token of a new family. -/
  | login (tenantId : String) (random : Random)
  /-- `refresh` up to its first command: find and verify. -/
  | find (rawToken : String)
  | delete (call : Nat)
  | insert (call : Nat) (random : Random)
  | logout (tenantId : String)
  | expire (id : String)
  | tick (elapsed : Nat)

namespace State

def initial (now : Instant) : State := { store := { now := now } }

/-- The generators never repeat a value. -/
def Unused (state : State) (random : Random) : Prop :=
  random.family ≠ "" ∧ ∀ issued ∈ state.issued,
    issued.rawToken ≠ random.rawToken ∧ issued.doc.id ≠ random.id ∧
      issued.doc.tokenFamily ≠ random.family

instance (state : State) (random : Random) : Decidable (state.Unused random) :=
  inferInstanceAs (Decidable (_ ∧ ∀ issued ∈ state.issued, _ ∧ _ ∧ _))

def create (hasher : PasswordHasher) (state : State) (tenantId : String)
    (tokenFamily : Option String) (random : Random) : State :=
  let (store, doc, rawToken) := state.store.create hasher tenantId tokenFamily random
  { state with store := store, issued := state.issued ++ [⟨doc, rawToken⟩] }

def setPhase (state : State) (call : Nat) (phase : Phase) : State :=
  { state with calls := state.calls.modify call fun call => { call with phase := phase } }

def step (hasher : PasswordHasher) (state : State) : TokenEvent → Option State
  | .login tenantId random =>
      if state.Unused random then some (state.create hasher tenantId none random) else none
  | .find rawToken =>
      match state.store.findVerified hasher rawToken none with
      | none => some state
      | some doc => some { state with calls := state.calls ++ [⟨rawToken, doc, .verified⟩] }
  | .delete call =>
      match state.calls[call]? with
      | some ⟨_, doc, .verified⟩ =>
          some ({ state with store := state.store.deleteOne doc.id }.setPhase call .deleted)
      | _ => none
  | .insert call random =>
      match state.calls[call]? with
      | some ⟨_, doc, .deleted⟩ =>
          if state.Unused random then
            some ((state.create hasher doc.tenantId (some doc.tokenFamily) random).setPhase call
              .rotated)
          else none
      | _ => none
  | .logout tenantId => some { state with store := state.store.revokeForTenant tenantId }
  | .expire id => some { state with store := state.store.expire id }
  | .tick elapsed => some { state with store := { state.store with now := state.store.now + elapsed } }

end State

end LiveChat.Repositories.AuthTokenRepo
