import LiveChat.Api.Platform
import LiveChat.Api.Tools
import LiveChat.Repositories.APIKeyRepo
import LiveChat.Repositories.TenantRepo

/-!
# Concurrent REST requests

The endpoints of `api/projects.py` and `api/keys.py` that write, each a call in flight
with three commands: the tenant is read by `get_current_tenant`, the handler reads the
project, and then it writes.  What it writes was computed from what it read.  The store is
the one of `ProjectRepo`, whose cached reads and invalidations go on in between.
-/

set_option autoImplicit false

namespace LiveChat.Api

open LiveChat.Core
open LiveChat.Core.PlanLimits (Plan)
open LiveChat.Repositories
open LiveChat.Repositories.ProjectRepo (RepoEvent Write)
open LiveChat.Api.Projects
open LiveChat.Api.Tools (ToolRequest)

/-! ## `get_current_tenant` -/

def tenantDeactivated : HTTPException :=
  { statusCode := 401, detail := "Tenant account not found or deactivated." }

/-- The last check of `get_current_tenant`, on the tenant that the access token names. -/
def currentTenant (tenants : TenantRepo.Tenants) (tenantId : String) :
    Except HTTPException TenantDoc :=
  match TenantRepo.getById tenants tenantId with
  | none => .error tenantDeactivated
  | some tenant => if tenant.isActive then .ok tenant else .error tenantDeactivated

/-! ## Requests -/

structure CreateKeyRequest where
  label : String := "Default key"
  keyType : String := "publishable"
  rateLimitRpm : Int := 60

inductive RestRequest where
  | createProject (body : CreateProjectRequest)
  | edit (projectId : String) (edit : Edit)
  | deleteProject (projectId : String)
  | tool (projectId : String) (request : ToolRequest)
  | createKey (projectId : String) (body : CreateKeyRequest)
  | revokeKey (projectId keyId : String)

/-- The command that a handler goes on to. -/
inductive Pending where
  | insertProject (body : CreateProjectRequest) (now : Instant)
  /-- `update_one` on the project; `basis` is the document that was read. -/
  | updateProject (projectId : String) (basis : ProjectDoc) (write : Write) (updatedAt : Instant)
  | insertKey (projectId label : String) (keyType : KeyType) (rateLimitRpm : Int)
  | revokeKey (keyId : String)

def keyProjectNotFound : HTTPException := { statusCode := 404, detail := "Project not found." }

def keyTypeInvalid : HTTPException :=
  { statusCode := 422, detail := "key_type must be 'publishable' or 'secret'." }

def keyNotFound : HTTPException :=
  { statusCode := 404, detail := "Key not found or already revoked." }

def parseKeyType : String → Option KeyType
  | "publishable" => some .publishable
  | "secret" => some .secret
  | _ => none

/-- A handler from its read to its write: the exception it raises, or the command. -/
def RestRequest.check (store : ProjectRepo.Store) (tenant : TenantDoc) :
    RestRequest → Except HTTPException Pending
  | .createProject body =>
      match admitProject tenant.plan (store.listForTenant tenant.id 1000) with
      | .error refusal => .error refusal
      | .ok _ => .ok (.insertProject body store.now)
  | .edit projectId change =>
      match getProjectOr404 (store.getById projectId (some tenant.id)) projectId with
      | .error refusal => .error refusal
      | .ok doc =>
          match change.fields tenant.plan with
          | .error refusal => .error refusal
          | .ok fields => .ok (.updateProject projectId doc (.update fields) store.now)
  | .deleteProject projectId =>
      match getProjectOr404 (store.getById projectId (some tenant.id)) projectId with
      | .error refusal => .error refusal
      | .ok doc => .ok (.updateProject projectId doc .softDelete store.now)
  | .tool projectId request =>
      match getProjectOr404 (store.getById projectId (some tenant.id)) projectId with
      | .error refusal => .error refusal
      | .ok doc =>
          match request.run tenant.plan projectId doc.tools with
          | .error refusal => .error refusal
          | .ok tools => .ok (.updateProject projectId doc (.setTools tools) store.now)
  | .createKey projectId body =>
      match store.getById projectId (some tenant.id) with
      | none => .error keyProjectNotFound
      | some _ =>
          match parseKeyType body.keyType with
          | none => .error keyTypeInvalid
          | some keyType => .ok (.insertKey projectId body.label keyType
              (PlanLimits.effectiveKeyRateLimitRpm tenant.plan body.rateLimitRpm))
  | .revokeKey projectId keyId =>
      match store.getById projectId (some tenant.id) with
      | none => .error keyProjectNotFound
      | some _ => .ok (.revokeKey keyId)

/-! ## Calls in flight -/

inductive RestPhase where
  | reading
  | writing (pending : Pending)
  | written
  | failed (refusal : HTTPException)

/-- A request that `get_current_tenant` let in; `tenant` is the document it returned. -/
structure RestCall where
  tenant : TenantDoc
  request : RestRequest
  phase : RestPhase := .reading

structure Rest where
  repo : ProjectRepo.State
  tenants : TenantRepo.Tenants := ∅
  apiKeys : List APIKeyDoc := []
  calls : List RestCall := []

/-- Changes of a tenant that no endpoint makes: billing and support do. -/
inductive TenantChange where
  | plan (plan : Plan)
  | active (active : Bool)
  | suspended (suspended : Bool)

inductive RestEvent where
  | register (id name email : String)
  | changeTenant (tenantId : String) (change : TenantChange)
  /-- A request arrives with an access token of the tenant. -/
  | authenticate (tenantId : String) (request : RestRequest)
  | read (call : Nat)
  | write (call : Nat) (random : APIKeyRepo.Random)
  /-- A step of a cached read or of an invalidation, or the start of a read. -/
  | repo (event : RepoEvent)

def TenantChange.apply (tenants : TenantRepo.Tenants) (tenantId : String) :
    TenantChange → TenantRepo.Tenants
  | .plan value => TenantRepo.updatePlan tenants tenantId value
  | .active value => TenantRepo.setActive tenants tenantId value
  | .suspended true => TenantRepo.suspend tenants tenantId
  | .suspended false => TenantRepo.unsuspend tenants tenantId

namespace Rest

def initial (now : Instant) : Rest := { repo := .initial now }

def withRepo (rest : Rest) (repo : ProjectRepo.State) : Rest := { rest with repo := repo }

def setCall (rest : Rest) (index : Nat) (phase : RestPhase) : Rest :=
  { rest with calls := rest.calls.modify index fun call => { call with phase := phase } }

/-- The write of a call; `uuid4()` is never the id of a stored document. -/
def runPending (hasher : AuthTokenRepo.PasswordHasher) (rest : Rest) (tenant : TenantDoc)
    (random : APIKeyRepo.Random) : Pending → Option (Rest × RestPhase)
  | .insertProject body now =>
      (rest.repo.step (.create (newProject tenant.id tenant.plan body random.id now))).map
        fun repo => (rest.withRepo repo, .written)
  | .updateProject projectId _ write updatedAt =>
      (rest.repo.step (.updateOne projectId tenant.id write updatedAt)).map fun repo =>
        (rest.withRepo repo, .written)
  | .insertKey projectId label keyType rateLimitRpm =>
      if rest.apiKeys.any fun doc => doc.id == random.id then none
      else
        some ({ rest with
          apiKeys := rest.apiKeys ++ [(APIKeyRepo.newKey hasher projectId tenant.id label keyType
            rateLimitRpm random).1] }, .written)
  | .revokeKey keyId =>
      let (apiKeys, modified) := APIKeyRepo.revoke rest.apiKeys keyId tenant.id rest.repo.store.now
      some ({ rest with apiKeys := apiKeys }, if modified then .written else .failed keyNotFound)

def step (hasher : AuthTokenRepo.PasswordHasher) (rest : Rest) : RestEvent → Option Rest
  | .register id name email =>
      (TenantRepo.create rest.tenants id name email).map fun tenants =>
        { rest with tenants := tenants }
  | .changeTenant tenantId change =>
      some { rest with tenants := change.apply rest.tenants tenantId }
  | .authenticate tenantId request =>
      match currentTenant rest.tenants tenantId with
      | .error _ => some rest
      | .ok tenant => some { rest with calls := rest.calls ++ [⟨tenant, request, .reading⟩] }
  | .read index =>
      match rest.calls[index]? with
      | some ⟨tenant, request, .reading⟩ =>
          match request.check rest.repo.store tenant with
          | .error refusal => some (rest.setCall index (.failed refusal))
          | .ok pending => some (rest.setCall index (.writing pending))
      | _ => none
  | .write index random =>
      match rest.calls[index]? with
      | some ⟨tenant, _, .writing pending⟩ =>
          (rest.runPending hasher tenant random pending).map fun after =>
            after.1.setCall index after.2
      | _ => none
  | .repo event =>
      if writesProject event then none else (rest.repo.step event).map rest.withRepo

/-! ## Values for runs on concrete requests -/

def sampleProject : CreateProjectRequest where
  name := "helper"
  description := "answers questions"
  systemPrompt := "be brief"
  voiceConfig := { languageCode := "de-DE" }
  sessionTtlSeconds := 120
  rateLimitRpm := 30
  nameLength := by decide
  descriptionLength := by decide
  systemPromptLength := by decide
  geminiModelSupported := List.mem_cons_self
  sessionTtlRange := by decide
  maxConcurrentRange := by decide
  rateLimitRange := by decide

def sampleRandom (id : String) : APIKeyRepo.Random := ⟨"body", "salt", id⟩

end Rest

end LiveChat.Api
