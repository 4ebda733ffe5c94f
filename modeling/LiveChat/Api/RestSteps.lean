import LiveChat.Api.Rest
import LiveChat.Repositories.ProjectSteps

/-!
# What a step of the REST layer can do

`step_moved` sorts the steps.  `Sound` collects what every interleaving keeps: a call acts
for a tenant with an id, what it is about to write was computed by its own checks, and the
projects of calls and keys are stored under the tenant they name.
-/

set_option autoImplicit false

namespace LiveChat.Api

open LiveChat.Core
open LiveChat.Foundation
open LiveChat.Repositories
open LiveChat.Repositories.ProjectRepo (RepoEvent Write)
open LiveChat.Api.Projects
open LiveChat.Api.Tools (ToolRequest)

namespace Rest

/-! ## What a step can do -/

inductive Moved (hasher : AuthTokenRepo.PasswordHasher) (rest : Rest) : RestEvent → Rest → Prop where
  | refused {tenantId : String} {request : RestRequest} :
      Moved hasher rest (.authenticate tenantId request) rest
  | changedTenants {event : RestEvent} {tenants : TenantRepo.Tenants}
      (identified : TenantRepo.Identified rest.tenants → TenantRepo.Identified tenants) :
      Moved hasher rest event { rest with tenants := tenants }
  | authenticated {tenantId : String} {tenant : TenantDoc} {request : RestRequest}
      (found : rest.tenants.lookup tenantId = some tenant) (active : tenant.isActive = true) :
      Moved hasher rest (.authenticate tenantId request)
        { rest with calls := rest.calls ++ [⟨tenant, request, .reading⟩] }
  | checked {index : Nat} {call : RestCall} {phase : RestPhase}
      (found : rest.calls[index]? = some call) (reading : call.phase = .reading)
      (answer : (∃ refusal, phase = .failed refusal) ∨
        ∃ pending, phase = .writing pending ∧
          call.request.check rest.repo.store call.tenant = .ok pending) :
      Moved hasher rest (.read index) (rest.setCall index phase)
  | insertedProject {index : Nat} {call : RestCall} {random : APIKeyRepo.Random}
      {body : CreateProjectRequest} {now : Instant} {repo : ProjectRepo.State}
      (found : rest.calls[index]? = some call)
      (writing : call.phase = .writing (.insertProject body now))
      (run : rest.repo.step (.create (newProject call.tenant.id call.tenant.plan body random.id
        now)) = some repo) :
      Moved hasher rest (.write index random) ((rest.withRepo repo).setCall index .written)
  | updatedProject {index : Nat} {call : RestCall} {random : APIKeyRepo.Random}
      {projectId : String} {basis : ProjectDoc} {write : Write} {updatedAt : Instant}
      {repo : ProjectRepo.State} (found : rest.calls[index]? = some call)
      (writing : call.phase = .writing (.updateProject projectId basis write updatedAt))
      (run : rest.repo.step (.updateOne projectId call.tenant.id write updatedAt) = some repo) :
      Moved hasher rest (.write index random) ((rest.withRepo repo).setCall index .written)
  | insertedKey {index : Nat} {call : RestCall} {random : APIKeyRepo.Random}
      {projectId label : String} {keyType : KeyType} {rateLimitRpm : Int}
      (found : rest.calls[index]? = some call)
      (writing : call.phase = .writing (.insertKey projectId label keyType rateLimitRpm))
      (fresh : ∀ doc ∈ rest.apiKeys, doc.id ≠ random.id) :
      Moved hasher rest (.write index random)
        (({ rest with
          apiKeys := rest.apiKeys ++ [(APIKeyRepo.newKey hasher projectId call.tenant.id label
            keyType rateLimitRpm random).1] } : Rest).setCall index .written)
  | revokedKey {index : Nat} {call : RestCall} {random : APIKeyRepo.Random} {keyId : String}
      {phase : RestPhase} (found : rest.calls[index]? = some call)
      (writing : call.phase = .writing (.revokeKey keyId))
      (answer : phase = if (APIKeyRepo.revoke rest.apiKeys keyId call.tenant.id
        rest.repo.store.now).2 then .written else .failed keyNotFound) :
      Moved hasher rest (.write index random)
        (({ rest with
          apiKeys := (APIKeyRepo.revoke rest.apiKeys keyId call.tenant.id
            rest.repo.store.now).1 } : Rest).setCall index phase)
  | stored {event : RepoEvent} {repo : ProjectRepo.State} (quiet : writesProject event = false)
      (run : rest.repo.step event = some repo) :
      Moved hasher rest (.repo event) (rest.withRepo repo)

variable {hasher : AuthTokenRepo.PasswordHasher}

theorem identified_change {tenants : TenantRepo.Tenants}
    (identified : TenantRepo.Identified tenants) (tenantId : String) (change : TenantChange) :
    TenantRepo.Identified (change.apply tenants tenantId) := by
  cases change with
  | plan value => exact TenantRepo.identified_updateOne identified tenantId fun _ => rfl
  | active value => exact TenantRepo.identified_updateOne identified tenantId fun _ => rfl
  | suspended value =>
      cases value <;> exact TenantRepo.identified_updateOne identified tenantId fun _ => rfl

theorem currentTenant_ok {tenants : TenantRepo.Tenants} {tenantId : String} {tenant : TenantDoc}
    (current : currentTenant tenants tenantId = .ok tenant) :
    tenants.lookup tenantId = some tenant ∧ tenant.isActive = true := by
  simp only [currentTenant, TenantRepo.getById] at current
  split at current
  · cases current
  · rename_i found
    split at current
    · rename_i active
      cases current
      exact ⟨found, active⟩
    · cases current

theorem step_moved {rest next : Rest} {event : RestEvent}
    (run : rest.step hasher event = some next) : Moved hasher rest event next := by
  cases event with
  | register id name email =>
      obtain ⟨tenants, created, rfl⟩ := Option.map_eq_some_iff.mp run
      exact .changedTenants fun identified => TenantRepo.identified_create identified created
  | changeTenant tenantId change =>
      cases run
      exact .changedTenants fun identified => identified_change identified tenantId change
  | authenticate tenantId request =>
      simp only [step] at run
      split at run
      · cases run
        exact .refused
      · rename_i tenant current
        cases run
        obtain ⟨found, active⟩ := currentTenant_ok current
        exact .authenticated found active
  | read index =>
      simp only [step] at run
      split at run
      · rename_i tenant request found
        split at run
        · rename_i refusal _
          cases run
          exact .checked found rfl (Or.inl ⟨refusal, rfl⟩)
        · rename_i pending checked
          cases run
          exact .checked found rfl (Or.inr ⟨pending, rfl, checked⟩)
      · cases run
  | write index random =>
      simp only [step] at run
      split at run
      · rename_i tenant request pending found
        obtain ⟨⟨after, phase⟩, ran, rfl⟩ := Option.map_eq_some_iff.mp run
        cases pending with
        | insertProject body now =>
            obtain ⟨repo, stepped, same⟩ := Option.map_eq_some_iff.mp ran
            cases same
            exact .insertedProject found rfl stepped
        | updateProject projectId basis write updatedAt =>
            obtain ⟨repo, stepped, same⟩ := Option.map_eq_some_iff.mp ran
            cases same
            exact .updatedProject found rfl stepped
        | insertKey projectId label keyType rateLimitRpm =>
            simp only [runPending] at ran
            split at ran
            · cases ran
            · rename_i fresh
              cases ran
              refine .insertedKey found rfl fun doc member taken => fresh ?_
              exact List.any_eq_true.mpr ⟨doc, member, by simp [taken]⟩
        | revokeKey keyId =>
            cases ran
            exact .revokedKey found rfl rfl
      · cases run
  | repo event =>
      simp only [step] at run
      split at run
      · cases run
      · rename_i quiet
        obtain ⟨repo, stepped, rfl⟩ := Option.map_eq_some_iff.mp run
        exact .stored (Bool.eq_false_iff.mpr quiet) stepped

theorem projects_quiet {state next : ProjectRepo.State} {event : RepoEvent}
    (quiet : writesProject event = false) (run : state.step event = some next) :
    next.store.projects = state.store.projects := by
  cases ProjectRepo.State.step_moved run with
  | created free => cases quiet
  | unmodified => rfl
  | wrote changed => cases quiet
  | _ => rfl

/-- The document after an `update_one` that matches it; setting what is set changes nothing. -/
theorem lookup_updated {state next : ProjectRepo.State} {projectId tenantId : String}
    {write : Write} {updatedAt : Instant} {doc : ProjectDoc}
    (stored : state.store.projects.lookup projectId = some doc) (own : doc.tenantId = tenantId)
    (run : state.step (.updateOne projectId tenantId write updatedAt) = some next) :
    next.store.projects.lookup projectId = some (write.fields.set updatedAt doc) := by
  simp only [ProjectRepo.State.step, ProjectRepo.Store.modified, stored, own, true_and] at run
  split at run
  · split at run
    · rename_i same
      cases run
      have unchanged : write.fields.set updatedAt doc = doc := by simpa using same
      rw [stored, unchanged]
    · rename_i after changed
      cases run
      rw [Option.ite_none_right_eq_some, Option.some.injEq] at changed
      rw [changed.2]
      exact AList.lookup_insert _
  · cases run

theorem lookup_updateOne {state next : ProjectRepo.State} {projectId other tenantId : String}
    {write : Write} {updatedAt : Instant} (apart : other ≠ projectId)
    (run : state.step (.updateOne projectId tenantId write updatedAt) = some next) :
    next.store.projects.lookup other = state.store.projects.lookup other := by
  cases ProjectRepo.State.step_moved run with
  | unmodified => rfl
  | wrote changed =>
      simp only [ProjectRepo.State.recordWrite, ProjectRepo.State.put, AList.lookup_insert_ne apart]

theorem repo_moved {rest next : Rest} {event : RestEvent} (moved : Moved hasher rest event next) :
    next.repo = rest.repo ∨
      ∃ repoEvent, ProjectRepo.State.Moved rest.repo repoEvent next.repo := by
  cases moved with
  | insertedProject found writing run => exact Or.inr ⟨_, ProjectRepo.State.step_moved run⟩
  | updatedProject found writing run => exact Or.inr ⟨_, ProjectRepo.State.step_moved run⟩
  | stored quiet run => exact Or.inr ⟨_, ProjectRepo.State.step_moved run⟩
  | _ => exact Or.inl rfl

theorem read_moved {rest next : Rest} {event : RestEvent} (moved : Moved hasher rest event next)
    {read : ProjectRepo.ReadCall} (member : read ∈ next.repo.reads) :
    (∃ before ∈ rest.repo.reads, read.projectId = before.projectId ∧
      read.tenantId = before.tenantId) ∨
      event = .repo (.getConfig read.projectId read.tenantId) := by
  have written : ∀ {repoEvent : RepoEvent},
      ProjectRepo.State.Moved rest.repo repoEvent next.repo → writesProject repoEvent = true →
      ∃ before ∈ rest.repo.reads, read.projectId = before.projectId ∧
        read.tenantId = before.tenantId := by
    intro repoEvent repoMoved writes
    rcases ProjectRepo.State.read_moved repoMoved member with old | rfl
    · exact old
    · cases writes
  cases moved with
  | insertedProject found writing run =>
      exact Or.inl (written (ProjectRepo.State.step_moved run) rfl)
  | updatedProject found writing run =>
      exact Or.inl (written (ProjectRepo.State.step_moved run) rfl)
  | stored quiet run =>
      rcases ProjectRepo.State.read_moved (ProjectRepo.State.step_moved run) member with old | rfl
      · exact Or.inl old
      · exact Or.inr rfl
  | _ => exact Or.inl ⟨read, member, rfl, rfl⟩

/-! ## Invariants -/

def Stored (rest : Rest) (projectId tenantId : String) : Prop :=
  ∃ doc, rest.repo.store.projects.lookup projectId = some doc ∧ doc.tenantId = tenantId

theorem stored_moved {rest next : Rest} {event : RestEvent} (moved : Moved hasher rest event next)
    {projectId tenantId : String} (stored : rest.Stored projectId tenantId) :
    next.Stored projectId tenantId := by
  obtain ⟨doc, found, own⟩ := stored
  rcases repo_moved moved with same | ⟨_, repoMoved⟩
  · exact ⟨doc, by rw [same]; exact found, own⟩
  · obtain ⟨after, found', tenant⟩ := ProjectRepo.State.tenant_moved repoMoved found
    exact ⟨after, found', tenant.trans own⟩

end Rest

def RestRequest.projectId : RestRequest → Option String
  | .createProject _ => none
  | .edit projectId _ | .deleteProject projectId | .tool projectId _ | .createKey projectId _
  | .revokeKey projectId _ => some projectId

def Pending.projectId : Pending → Option String
  | .updateProject projectId .. | .insertKey projectId .. => some projectId
  | .insertProject .. | .revokeKey _ => none

/-- Past its checks, and not refused. -/
def RestPhase.isAccepted : RestPhase → Bool
  | .writing _ | .written => true
  | .reading | .failed _ => false

def RestPhase.isAnswered : RestPhase → Bool
  | .written | .failed _ => true
  | .reading | .writing _ => false

theorem getById_some {store : ProjectRepo.Store} {projectId tenantId : String} {doc : ProjectDoc}
    (found : store.getById projectId (some tenantId) = some doc) :
    store.projects.lookup projectId = some doc ∧ (tenantId ≠ "" → doc.tenantId = tenantId) := by
  obtain ⟨stored, scope⟩ := Option.filter_eq_some_iff.mp found
  refine ⟨stored, fun named => ?_⟩
  simp only [ProjectRepo.Store.inScope, Bool.or_eq_true, decide_eq_true_eq] at scope
  exact scope.resolve_left named

/-- The commands that the handlers go on to, each with what its handler read and computed. -/
inductive Computes (store : ProjectRepo.Store) (tenant : TenantDoc) :
    RestRequest → Pending → Prop where
  | createProject {body : CreateProjectRequest}
      (room : PlanLimits.isWithinProjectLimit tenant.plan
        (store.listForTenant tenant.id 1000).length = true) :
      Computes store tenant (.createProject body) (.insertProject body store.now)
  | edit {projectId : String} {change : Edit} {doc : ProjectDoc}
      {fields : ProjectRepo.ProjectFields}
      (read : store.getById projectId (some tenant.id) = some doc)
      (accepted : change.fields tenant.plan = .ok fields) :
      Computes store tenant (.edit projectId change)
        (.updateProject projectId doc (.update fields) store.now)
  | deleteProject {projectId : String} {doc : ProjectDoc}
      (read : store.getById projectId (some tenant.id) = some doc) :
      Computes store tenant (.deleteProject projectId)
        (.updateProject projectId doc .softDelete store.now)
  | tool {projectId : String} {request : ToolRequest} {doc : ProjectDoc}
      {tools : List ToolDefinition}
      (read : store.getById projectId (some tenant.id) = some doc)
      (ran : request.run tenant.plan projectId doc.tools = .ok tools) :
      Computes store tenant (.tool projectId request)
        (.updateProject projectId doc (.setTools tools) store.now)
  | createKey {projectId : String} {body : CreateKeyRequest} {doc : ProjectDoc}
      {keyType : KeyType} (read : store.getById projectId (some tenant.id) = some doc) :
      Computes store tenant (.createKey projectId body)
        (.insertKey projectId body.label keyType
          (PlanLimits.effectiveKeyRateLimitRpm tenant.plan body.rateLimitRpm))
  | revokeKey {projectId keyId : String} {doc : ProjectDoc}
      (read : store.getById projectId (some tenant.id) = some doc) :
      Computes store tenant (.revokeKey projectId keyId) (.revokeKey keyId)

theorem admitProject_ok {plan : PlanLimits.Plan} {existing : List ProjectDoc} :
    admitProject plan existing = .ok () ↔
      PlanLimits.isWithinProjectLimit plan existing.length = true := by
  unfold admitProject
  split
  · rename_i within
    exact ⟨fun _ => within, fun _ => rfl⟩
  · rename_i reached
    constructor
    · intro admitted
      cases admitted
    · intro within
      exact absurd within reached

theorem check_computes {store : ProjectRepo.Store} {tenant : TenantDoc} {request : RestRequest}
    {pending : Pending} (accepted : request.check store tenant = .ok pending) :
    Computes store tenant request pending := by
  cases request with
  | createProject body =>
      simp only [RestRequest.check] at accepted
      split at accepted
      · cases accepted
      · rename_i admitted
        cases accepted
        exact .createProject (admitProject_ok.mp admitted)
  | edit projectId change =>
      simp only [RestRequest.check] at accepted
      split at accepted
      · cases accepted
      · rename_i read
        split at accepted
        · cases accepted
        · rename_i computed
          cases accepted
          exact .edit (getProjectOr404_ok read) computed
  | deleteProject projectId =>
      simp only [RestRequest.check] at accepted
      split at accepted
      · cases accepted
      · rename_i read
        cases accepted
        exact .deleteProject (getProjectOr404_ok read)
  | tool projectId request =>
      simp only [RestRequest.check] at accepted
      split at accepted
      · cases accepted
      · rename_i read
        split at accepted
        · cases accepted
        · rename_i ran
          cases accepted
          exact .tool (getProjectOr404_ok read) ran
  | createKey projectId body =>
      simp only [RestRequest.check] at accepted
      split at accepted
      · cases accepted
      · rename_i read
        split at accepted
        · cases accepted
        · cases accepted
          exact .createKey read
  | revokeKey projectId keyId =>
      simp only [RestRequest.check] at accepted
      split at accepted
      · cases accepted
      · rename_i read
        cases accepted
        exact .revokeKey read

/-- A handler that goes on found the project of its request, and writes to no other one. -/
theorem check_ok {store : ProjectRepo.Store} {tenant : TenantDoc} {request : RestRequest}
    {pending : Pending} (accepted : request.check store tenant = .ok pending) :
    (∀ projectId ∈ request.projectId, ∃ doc,
      store.getById projectId (some tenant.id) = some doc) ∧
    ∀ projectId ∈ pending.projectId, request.projectId = some projectId := by
  have found : ∀ {projectId doc}, store.getById projectId (some tenant.id) = some doc →
      ∀ other ∈ some projectId, ∃ doc, store.getById other (some tenant.id) = some doc := by
    intro projectId doc read other same
    cases Option.mem_def.mp same
    exact ⟨doc, read⟩
  cases check_computes accepted with
  | createProject room =>
      constructor
      · intro projectId named
        cases named
      · intro projectId named
        cases named
  | edit read computed => exact ⟨found read, fun other same => same⟩
  | deleteProject read => exact ⟨found read, fun other same => same⟩
  | tool read ran => exact ⟨found read, fun other same => same⟩
  | createKey read => exact ⟨found read, fun other same => same⟩
  | revokeKey read =>
      refine ⟨found read, ?_⟩
      intro projectId named
      cases named

namespace Rest

variable {hasher : AuthTokenRepo.PasswordHasher}

structure Sound (rest : Rest) : Prop where
  tenants : TenantRepo.Identified rest.tenants
  identified : ProjectRepo.State.Identified rest.repo
  owned : ProjectRepo.State.Owned rest.repo
  /-- A call acts for a tenant with an id. -/
  named : ∀ call ∈ rest.calls, call.tenant.id ≠ ""
  checked : ∀ call ∈ rest.calls, ∀ pending, call.phase = .writing pending →
    ∃ store, call.request.check store call.tenant = .ok pending
  placed : ∀ call ∈ rest.calls, call.phase.isAccepted = true →
    ∀ projectId ∈ call.request.projectId, rest.Stored projectId call.tenant.id
  keys : ∀ doc ∈ rest.apiKeys, rest.Stored doc.projectId doc.tenantId

theorem sound_initial (now : Instant) : Sound (initial now) := by
  have noCall : ∀ call : RestCall, call ∉ (initial now).calls := fun _ => List.not_mem_nil
  have noKey : ∀ doc : APIKeyDoc, doc ∉ (initial now).apiKeys := fun _ => List.not_mem_nil
  refine ⟨TenantRepo.identified_empty, ?_, ?_, fun call member => absurd member (noCall call),
    fun call member => absurd member (noCall call), fun call member => absurd member (noCall call),
    fun doc member => absurd member (noKey doc)⟩
  · intro projectId doc found
    cases found
  · intro config holds
    cases holds with
    | stored found => cases found
    | cached listed => cases listed
    | read member carries => cases member

/-- The phases that a step can bring a call to. -/
def Reaches (rest : Rest) (before : RestCall) (phase : RestPhase) : Prop :=
  (∃ refusal, phase = .failed refusal) ∨
  (∃ pending, phase = .writing pending ∧
    before.request.check rest.repo.store before.tenant = .ok pending) ∨
  (phase = .written ∧ before.phase.isAccepted = true)

theorem mem_setCall {rest : Rest} {index : Nat} {before : RestCall} {phase : RestPhase}
    (found : rest.calls[index]? = some before) (reaches : rest.Reaches before phase)
    {call : RestCall} (member : call ∈ (rest.setCall index phase).calls) :
    call ∈ rest.calls ∨ ∃ before ∈ rest.calls, call.tenant = before.tenant ∧
      call.request = before.request ∧ rest.Reaches before call.phase := by
  obtain ⟨place, here⟩ := List.mem_iff_getElem?.mp member
  rcases Places.modify_source here with ⟨_, old⟩ | ⟨_, earlier, old, rfl⟩
  · exact Or.inl (List.mem_of_getElem? old)
  · cases Option.some.inj (found.symm.trans old)
    exact Or.inr ⟨before, List.mem_of_getElem? found, rfl, rfl, reaches⟩

theorem reaches_written {rest : Rest} {before : RestCall} {pending : Pending}
    (writing : before.phase = .writing pending) : rest.Reaches before .written := by
  refine Or.inr (Or.inr ⟨rfl, ?_⟩)
  rw [writing]
  rfl

theorem call_moved {rest next : Rest} {event : RestEvent} (moved : Moved hasher rest event next)
    {call : RestCall} (member : call ∈ next.calls) :
    call ∈ rest.calls ∨
    (call.phase = .reading ∧ ∃ tenantId, rest.tenants.lookup tenantId = some call.tenant) ∨
    ∃ before ∈ rest.calls, call.tenant = before.tenant ∧ call.request = before.request ∧
      rest.Reaches before call.phase := by
  cases moved with
  | authenticated found active =>
      rcases List.mem_append.mp member with old | new
      · exact Or.inl old
      · cases List.mem_singleton.mp new
        exact Or.inr (Or.inl ⟨rfl, _, found⟩)
  | checked found reading answer =>
      refine (mem_setCall found ?_ member).imp_right Or.inr
      rcases answer with failed | accepted
      · exact Or.inl failed
      · exact Or.inr (Or.inl accepted)
  | insertedProject found writing run =>
      exact (mem_setCall found (reaches_written writing) member).imp_right Or.inr
  | updatedProject found writing run =>
      exact (mem_setCall found (reaches_written writing) member).imp_right Or.inr
  | insertedKey found writing fresh =>
      exact (mem_setCall found (reaches_written writing) member).imp_right Or.inr
  | revokedKey found writing answer =>
      refine (mem_setCall found ?_ member).imp_right Or.inr
      rw [answer]
      split
      · exact reaches_written writing
      · exact Or.inl ⟨_, rfl⟩
  | _ => exact Or.inl member

theorem key_moved {rest next : Rest} {event : RestEvent} (moved : Moved hasher rest event next)
    {doc : APIKeyDoc} (member : doc ∈ next.apiKeys) :
    (∃ before ∈ rest.apiKeys, doc.id = before.id ∧ doc.projectId = before.projectId ∧
      doc.tenantId = before.tenantId ∧ (before.revoked = true → doc.revoked = true)) ∨
    (∃ call ∈ rest.calls, ∃ label keyType rateLimitRpm,
      call.phase = .writing (.insertKey doc.projectId label keyType rateLimitRpm) ∧
      doc.tenantId = call.tenant.id ∧ ∀ other ∈ rest.apiKeys, other.id ≠ doc.id) := by
  have kept : ∀ doc ∈ rest.apiKeys, ∃ before ∈ rest.apiKeys, doc.id = before.id ∧
      doc.projectId = before.projectId ∧ doc.tenantId = before.tenantId ∧
      (before.revoked = true → doc.revoked = true) :=
    fun doc old => ⟨doc, old, rfl, rfl, rfl, id⟩
  cases moved with
  | @insertedKey index call random projectId label keyType rateLimitRpm found writing fresh =>
      rcases List.mem_append.mp member with old | new
      · exact Or.inl (kept doc old)
      · cases List.mem_singleton.mp new
        exact Or.inr ⟨call, List.mem_of_getElem? found, label, keyType, rateLimitRpm, writing, rfl,
          fresh⟩
  | revokedKey found writing answer =>
      obtain ⟨before, old, same | ⟨_, marked⟩⟩ := APIKeyRepo.mem_revoke member
      · exact Or.inl ⟨before, old, by rw [same], by rw [same], by rw [same], by rw [same]; exact id⟩
      · exact Or.inl ⟨before, old, by rw [marked]; rfl, by rw [marked]; rfl, by rw [marked]; rfl,
          fun _ => by rw [marked]; rfl⟩
  | _ => exact Or.inl (kept doc member)

theorem sound_moved {rest next : Rest} {event : RestEvent} (sound : Sound rest)
    (moved : Moved hasher rest event next) : Sound next := by
  refine ⟨?_, ?_, ?_, ?_, ?_, ?_, ?_⟩
  · cases moved with
    | changedTenants identified => exact identified sound.tenants
    | _ => exact sound.tenants
  · rcases repo_moved moved with same | ⟨_, repoMoved⟩
    · exact same ▸ sound.identified
    · exact ProjectRepo.State.identified_moved sound.identified repoMoved
  · rcases repo_moved moved with same | ⟨_, repoMoved⟩
    · exact same ▸ sound.owned
    · exact ProjectRepo.State.owned_moved sound.identified sound.owned repoMoved
  · intro call member
    rcases call_moved moved member with old | ⟨_, tenantId, found⟩ | ⟨before, old, tenant, _⟩
    · exact sound.named call old
    · obtain ⟨same, named⟩ := sound.tenants tenantId call.tenant found
      rwa [same]
    · rw [tenant]
      exact sound.named before old
  · intro call member pending writing
    rcases call_moved moved member with old | ⟨reading, _⟩ |
      ⟨before, old, tenant, request, ⟨_, failed⟩ | ⟨other, same, accepted⟩ | ⟨same, _⟩⟩
    · exact sound.checked call old pending writing
    · cases reading.symm.trans writing
    · cases failed.symm.trans writing
    · cases same.symm.trans writing
      exact ⟨rest.repo.store, by rw [tenant, request]; exact accepted⟩
    · cases same.symm.trans writing
  · intro call member accepted projectId about
    rcases call_moved moved member with old | ⟨reading, _⟩ |
      ⟨before, old, tenant, request, ⟨_, failed⟩ | ⟨pending, _, checked⟩ | ⟨_, ready⟩⟩
    · exact stored_moved moved (sound.placed call old accepted projectId about)
    · rw [reading] at accepted
      cases accepted
    · rw [failed] at accepted
      cases accepted
    · rw [request] at about
      obtain ⟨doc, read⟩ := (check_ok checked).1 projectId about
      obtain ⟨found, own⟩ := getById_some read
      rw [tenant]
      exact stored_moved moved ⟨doc, found, own (sound.named before old)⟩
    · rw [request] at about
      rw [tenant]
      exact stored_moved moved (sound.placed before old ready projectId about)
  · intro doc member
    rcases key_moved moved member with ⟨before, old, _, project, tenant, _⟩ |
      ⟨call, old, label, keyType, rateLimitRpm, writing, tenant, _⟩
    · rw [project, tenant]
      exact stored_moved moved (sound.keys before old)
    · obtain ⟨store, accepted⟩ := sound.checked call old _ writing
      have about := (check_ok accepted).2 doc.projectId rfl
      rw [tenant]
      refine stored_moved moved (sound.placed call old ?_ doc.projectId about)
      rw [writing]
      rfl

/-! ## A tenant on one plan -/

/-- Whenever a request of the tenant is let in, the tenant is on the plan. -/
def OnPlan (tenantId : String) (plan : PlanLimits.Plan) (rest : Rest) : RestEvent → Prop
  | .authenticate tenant _ =>
      tenant = tenantId → ∀ doc ∈ rest.tenants.lookup tenantId, doc.plan = plan
  | _ => True

instance (tenantId : String) (plan : PlanLimits.Plan) (rest : Rest) :
    (event : RestEvent) → Decidable (OnPlan tenantId plan rest event)
  | .authenticate _ _ =>
      inferInstanceAs (Decidable (_ → ∀ doc ∈ rest.tenants.lookup tenantId, doc.plan = plan))
  | .register .. | .changeTenant .. | .read _ | .write .. | .repo _ => isTrue trivial

/-- Every call of the tenant acts under the plan. -/
def Subscribed (tenantId : String) (plan : PlanLimits.Plan) (rest : Rest) : Prop :=
  ∀ call ∈ rest.calls, call.tenant.id = tenantId → call.tenant.plan = plan

theorem subscribed_initial (tenantId : String) (plan : PlanLimits.Plan) (now : Instant) :
    Subscribed tenantId plan (initial now) :=
  fun _ member => absurd member List.not_mem_nil

/-- The tenant of a call was stored when the call was let in, and is not read again. -/
theorem call_tenant {rest next : Rest} {event : RestEvent} (moved : Moved hasher rest event next)
    {call : RestCall} (member : call ∈ next.calls) :
    (∃ before ∈ rest.calls, before.tenant = call.tenant) ∨
      ∃ tenantId request, event = .authenticate tenantId request ∧
        rest.tenants.lookup tenantId = some call.tenant := by
  have kept : ∀ {index phase}, ∀ call ∈ (rest.setCall index phase).calls,
      ∃ before ∈ rest.calls, before.tenant = call.tenant := by
    intro index phase
    apply Places.forall_modify
    · intro old there
      exact ⟨old, there, rfl⟩
    · intro before found
      exact ⟨before, List.mem_of_getElem? found, rfl⟩
  cases moved with
  | authenticated found active =>
      rcases List.mem_append.mp member with old | new
      · exact Or.inl ⟨call, old, rfl⟩
      · cases List.mem_singleton.mp new
        exact Or.inr ⟨_, _, rfl, found⟩
  | checked found reading answer => exact Or.inl (kept call member)
  | insertedProject found writing run => exact Or.inl (kept call member)
  | updatedProject found writing run => exact Or.inl (kept call member)
  | insertedKey found writing fresh => exact Or.inl (kept call member)
  | revokedKey found writing answer => exact Or.inl (kept call member)
  | _ => exact Or.inl ⟨call, member, rfl⟩

theorem subscribed_moved {rest next : Rest} {event : RestEvent} {tenantId : String}
    {plan : PlanLimits.Plan} (sound : Sound rest) (subscribed : Subscribed tenantId plan rest)
    (onPlan : OnPlan tenantId plan rest event) (moved : Moved hasher rest event next) :
    Subscribed tenantId plan next := by
  intro call member own
  rcases call_tenant moved member with ⟨before, old, same⟩ | ⟨owner, request, rfl, found⟩
  · rw [← same] at own ⊢
    exact subscribed before old own
  · have identity : call.tenant.id = owner := (sound.tenants owner call.tenant found).1
    have named : owner = tenantId := identity.symm.trans own
    exact onPlan named call.tenant (named ▸ found)

/-! ## The tenants in a step -/

/-- A tenant registers, or something about one changes. -/
inductive TenantsMoved (tenants : TenantRepo.Tenants) : RestEvent → TenantRepo.Tenants → Prop where
  | same {event : RestEvent} : TenantsMoved tenants event tenants
  | registered {id name email : String} (fresh : tenants.lookup id = none) :
      TenantsMoved tenants (.register id name email)
        (tenants.insert id { id := id, name := name, email := email })
  | changed {tenantId : String} {change : TenantChange} :
      TenantsMoved tenants (.changeTenant tenantId change) (change.apply tenants tenantId)

theorem runPending_tenants {rest : Rest} {tenant : TenantDoc} {random : APIKeyRepo.Random}
    {pending : Pending} {after : Rest × RestPhase}
    (run : rest.runPending hasher tenant random pending = some after) :
    after.1.tenants = rest.tenants := by
  cases pending with
  | insertProject body now =>
      obtain ⟨repo, _, rfl⟩ := Option.map_eq_some_iff.mp run
      rfl
  | updateProject projectId basis write updatedAt =>
      obtain ⟨repo, _, rfl⟩ := Option.map_eq_some_iff.mp run
      rfl
  | insertKey projectId label keyType rateLimitRpm =>
      simp only [runPending] at run
      split at run
      · cases run
      · cases run
        rfl
  | revokeKey keyId =>
      cases run
      rfl

theorem tenants_step {rest next : Rest} {event : RestEvent}
    (run : rest.step hasher event = some next) :
    TenantsMoved rest.tenants event next.tenants := by
  cases event with
  | register id name email =>
      obtain ⟨tenants, created, rfl⟩ := Option.map_eq_some_iff.mp run
      unfold TenantRepo.create at created
      split at created
      · cases created
      · rename_i fresh
        cases created
        exact .registered (Option.not_isSome_iff_eq_none.mp fun taken =>
          fresh (Or.inr (Or.inl taken)))
  | changeTenant tenantId change =>
      cases run
      exact .changed
  | authenticate tenantId request =>
      simp only [step] at run
      split at run
      · cases run
        exact .same
      · cases run
        exact .same
  | read index =>
      simp only [step] at run
      split at run
      · split at run
        · cases run
          exact .same
        · cases run
          exact .same
      · cases run
  | write index random =>
      simp only [step] at run
      split at run
      · obtain ⟨after, ran, rfl⟩ := Option.map_eq_some_iff.mp run
        have kept : (after.1.setCall index after.2).tenants = rest.tenants := runPending_tenants ran
        rw [kept]
        exact .same
      · cases run
  | repo event =>
      simp only [step] at run
      split at run
      · cases run
      · obtain ⟨repo, _, rfl⟩ := Option.map_eq_some_iff.mp run
        exact .same

/-- The plan of a tenant after a step was its plan before, or the step changed it, or the
tenant is new. -/
theorem TenantsMoved.plan {tenants next : TenantRepo.Tenants} {event : RestEvent}
    (moved : TenantsMoved tenants event next) {tenantId : String} {tenant : TenantDoc}
    (found : next.lookup tenantId = some tenant) :
    (∃ before, tenants.lookup tenantId = some before ∧ before.plan = tenant.plan) ∨
      event = .changeTenant tenantId (.plan tenant.plan) ∨ tenants.lookup tenantId = none := by
  cases moved with
  | same => exact Or.inl ⟨tenant, found, rfl⟩
  | @registered id name email fresh =>
      by_cases same : tenantId = id
      · exact Or.inr (Or.inr (same ▸ fresh))
      · rw [AList.lookup_insert_ne same] at found
        exact Or.inl ⟨tenant, found, rfl⟩
  | @changed changedId change =>
      have kept : ∀ update : TenantDoc → TenantDoc, (∀ doc, (update doc).plan = doc.plan) →
          (TenantRepo.updateOne tenants changedId update).lookup tenantId = some tenant →
          ∃ before, tenants.lookup tenantId = some before ∧ before.plan = tenant.plan := by
        intro update plan found
        rw [TenantRepo.lookup_updateOne] at found
        split at found
        · obtain ⟨before, stored, rfl⟩ := Option.map_eq_some_iff.mp found
          exact ⟨before, stored, (plan before).symm⟩
        · exact ⟨tenant, found, rfl⟩
      cases change with
      | plan value =>
          rw [TenantChange.apply, TenantRepo.updatePlan, TenantRepo.lookup_updateOne] at found
          split at found
          · rename_i same
            obtain ⟨before, stored, rfl⟩ := Option.map_eq_some_iff.mp found
            exact Or.inr (Or.inl (by rw [same]))
          · exact Or.inl ⟨tenant, found, rfl⟩
      | active value =>
          exact Or.inl (kept (fun doc => { doc with isActive := value }) (fun _ => rfl) found)
      | suspended value =>
          cases value with
          | true =>
              exact Or.inl (kept (fun doc => { doc with isSuspended := true }) (fun _ => rfl) found)
          | false =>
              exact Or.inl (kept (fun doc => { doc with isSuspended := false }) (fun _ => rfl) found)

theorem TenantsMoved.kept {tenants next : TenantRepo.Tenants} {event : RestEvent}
    (moved : TenantsMoved tenants event next) {tenantId : String}
    (stored : (tenants.lookup tenantId).isSome = true) :
    (next.lookup tenantId).isSome = true := by
  cases moved with
  | same => exact stored
  | @registered id name email fresh =>
      by_cases same : tenantId = id
      · subst same
        rw [fresh] at stored
        cases stored
      · rwa [AList.lookup_insert_ne same]
  | @changed changedId change =>
      have updated : ∀ update : TenantDoc → TenantDoc,
          ((TenantRepo.updateOne tenants changedId update).lookup tenantId).isSome = true := by
        intro update
        rw [TenantRepo.lookup_updateOne]
        split
        · rwa [Option.isSome_map]
        · exact stored
      cases change with
      | plan value => exact updated _
      | active value => exact updated _
      | suspended value =>
          cases value with
          | true => exact updated _
          | false => exact updated _

/-- The tenants of documents and calls are stored. -/
structure Rostered (rest : Rest) : Prop where
  projects : ∀ projectId doc, rest.repo.store.projects.lookup projectId = some doc →
    (rest.tenants.lookup doc.tenantId).isSome = true
  calls : ∀ call ∈ rest.calls, (rest.tenants.lookup call.tenant.id).isSome = true

theorem rostered_initial (now : Instant) : Rostered (initial now) := by
  refine ⟨?_, fun _ member => absurd member List.not_mem_nil⟩
  intro projectId doc stored
  cases stored

theorem rostered_step {rest next : Rest} {event : RestEvent} (sound : Sound rest)
    (rostered : Rostered rest) (run : rest.step hasher event = some next) : Rostered next := by
  have moved := step_moved run
  have tenants := tenants_step run
  constructor
  · intro projectId doc stored
    apply tenants.kept
    cases moved with
    | @insertedProject index call random body now repo found writing stepped =>
        cases ProjectRepo.State.step_moved stepped with
        | created free =>
            rcases ProjectRepo.State.lookup_put stored with ⟨_, rfl⟩ | old
            · exact rostered.calls call (List.mem_of_getElem? found)
            · exact rostered.projects projectId doc old
    | @updatedProject index call random changedId basis write updatedAt repo found writing stepped =>
        cases ProjectRepo.State.step_moved stepped with
        | unmodified => exact rostered.projects projectId doc stored
        | wrote changed =>
            rcases ProjectRepo.State.lookup_put stored with ⟨_, rfl⟩ | old
            · obtain ⟨before, found', _, rfl⟩ := ProjectRepo.State.modified_some changed
              exact rostered.projects changedId before found'
            · exact rostered.projects projectId doc old
    | stored quiet stepped =>
        refine rostered.projects projectId doc ?_
        rw [← projects_quiet quiet stepped]
        exact stored
    | _ => exact rostered.projects projectId doc stored
  · intro call member
    apply tenants.kept
    rcases call_tenant moved member with ⟨before, old, same⟩ | ⟨owner, request, _, found⟩
    · rw [← same]
      exact rostered.calls before old
    · rw [(sound.tenants owner call.tenant found).1, found]
      rfl

end Rest

end LiveChat.Api
