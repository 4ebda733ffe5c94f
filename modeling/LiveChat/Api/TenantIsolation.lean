import LiveChat.Api.RestSteps
import LiveChat.Foundation.TransitionSystem

/-!
# A tenant alone

The management API keeps the tenants of one store apart: what a tenant reads, writes and is
answered is what it would be if no other tenant had ever made a request.  `ownEvent` picks the
events of a tenant out of a run and renumbers its calls; `Alike` compares the run with the one
of these events only.  The config cache is not compared: no endpoint of this layer reads it.
-/

set_option autoImplicit false

namespace LiveChat.Api.Rest

open LiveChat.Core
open LiveChat.Foundation
open LiveChat.Foundation.Places (rank)
open LiveChat.Foundation.Tables (Part)
open LiveChat.Foundation.TransitionSystem
open LiveChat.Repositories
open LiveChat.Api.Projects

section Party
variable (tenantId : String)

def isTenant (tenant : TenantDoc) : Bool := tenant.id == tenantId

def ownsProject (doc : ProjectDoc) : Bool := doc.tenantId == tenantId

def ownsKey (doc : APIKeyDoc) : Bool := doc.tenantId == tenantId

def ownsCall (call : RestCall) : Bool := call.tenant.id == tenantId

/-- The place of a call among those of the tenant, when it is one. -/
def ownPlace (rest : Rest) (index : Nat) : Option Nat :=
  match rest.calls[index]? with
  | none => none
  | some call =>
      if ownsCall tenantId call then some (rank (ownsCall tenantId) rest.calls index) else none

/-- The event as the tenant has a part in it; time passes for everybody. -/
def ownEvent (rest : Rest) : RestEvent → Option RestEvent
  | .register id name email => if id = tenantId then some (.register id name email) else none
  | .changeTenant id change => if id = tenantId then some (.changeTenant id change) else none
  | .authenticate id request => if id = tenantId then some (.authenticate id request) else none
  | .read index => (ownPlace tenantId rest index).map .read
  | .write index random => (ownPlace tenantId rest index).map fun place => .write place random
  | .repo (.tick elapsed) => some (.repo (.tick elapsed))
  | .repo _ => none

/-- The store holds of the tenant what it would hold if the tenant were alone. -/
structure Alike (rest alone : Rest) : Prop where
  now : alone.repo.store.now = rest.repo.store.now
  tenants : Part (isTenant tenantId) rest.tenants alone.tenants
  projects : Part (ownsProject tenantId) rest.repo.store.projects alone.repo.store.projects
  apiKeys : alone.apiKeys = rest.apiKeys.filter (ownsKey tenantId)
  calls : alone.calls = rest.calls.filter (ownsCall tenantId)

end Party

variable {tenantId : String} {rest next alone : Rest}

theorem alike_initial (tenantId : String) (now : Instant) :
    Alike tenantId (initial now) (initial now) := ⟨rfl, rfl, rfl, rfl, rfl⟩

/-! ## What a handler reads -/

theorem lookup_tenant (alike : Alike tenantId rest alone)
    (identified : TenantRepo.Identified rest.tenants) :
    alone.tenants.lookup tenantId = rest.tenants.lookup tenantId := by
  rw [alike.tenants.lookup]
  cases found : rest.tenants.lookup tenantId with
  | none => rfl
  | some tenant => simp [isTenant, (identified tenantId tenant found).1]

theorem currentTenant_alone (alike : Alike tenantId rest alone)
    (identified : TenantRepo.Identified rest.tenants) :
    currentTenant alone.tenants tenantId = currentTenant rest.tenants tenantId := by
  simp only [currentTenant, TenantRepo.getById, lookup_tenant alike identified]

theorem getById_alone (alike : Alike tenantId rest alone) (named : tenantId ≠ "")
    (projectId : String) :
    alone.repo.store.getById projectId (some tenantId) =
      rest.repo.store.getById projectId (some tenantId) := by
  rw [ProjectRepo.Store.getById, alike.projects.lookup, Option.filter_filter]
  congr 1
  funext doc
  by_cases own : doc.tenantId = tenantId
  · simp [ownsProject, own]
  · simp [ownsProject, ProjectRepo.Store.inScope, own, named]

theorem listForTenant_alone (alike : Alike tenantId rest alone) (limit : Nat) :
    alone.repo.store.listForTenant tenantId limit =
      rest.repo.store.listForTenant tenantId limit := by
  have rows := alike.projects.rows
  simp only [Tables.rows] at rows
  rw [ProjectRepo.Store.listForTenant, rows, List.filter_filter, ProjectRepo.Store.listForTenant]
  congr 2
  funext doc
  by_cases own : doc.tenantId = tenantId <;> simp [ownsProject, own]

/-- A handler of the tenant comes to the same answer, or to the same command. -/
theorem check_alone (alike : Alike tenantId rest alone) {tenant : TenantDoc}
    (own : tenant.id = tenantId) (named : tenantId ≠ "") (request : RestRequest) :
    request.check alone.repo.store tenant = request.check rest.repo.store tenant := by
  subst own
  cases request <;>
    simp only [RestRequest.check, getById_alone alike named, listForTenant_alone alike, alike.now]

variable {hasher : AuthTokenRepo.PasswordHasher}

/-! ## Tenants -/

theorem getByEmail_part {tenants others : TenantRepo.Tenants} {email : String}
    (part : Part (isTenant tenantId) tenants others)
    (known : (TenantRepo.getByEmail others email).isSome = true) :
    (TenantRepo.getByEmail tenants email).isSome = true := by
  obtain ⟨tenant, member, same⟩ := List.find?_isSome.mp known
  have rows : others.entries.map Sigma.snd = (tenants.entries.map Sigma.snd).filter _ := part.rows
  rw [rows] at member
  exact List.find?_isSome.mpr ⟨tenant, (List.mem_filter.mp member).1, same⟩

theorem create_alone {tenants others after : TenantRepo.Tenants} {name email : String}
    (part : Part (isTenant tenantId) tenants others)
    (created : TenantRepo.create tenants tenantId name email = some after) :
    ∃ later, TenantRepo.create others tenantId name email = some later ∧
      Part (isTenant tenantId) after later := by
  unfold TenantRepo.create at created ⊢
  split at created
  · cases created
  · rename_i free
    cases created
    have absent : ¬ (tenantId = "" ∨ (others.lookup tenantId).isSome ∨
        (TenantRepo.getByEmail others email).isSome) := by
      rintro (empty | taken | known)
      · exact free (Or.inl empty)
      · rw [part.lookup] at taken
        exact free (Or.inr (Or.inl (Option.isSome_of_isSome_filter _ _ taken)))
      · exact free (Or.inr (Or.inr (getByEmail_part part known)))
    exact ⟨_, if_neg absent, part.insert tenantId (by simp [isTenant])⟩

theorem create_other {tenants others after : TenantRepo.Tenants} {id name email : String}
    (part : Part (isTenant tenantId) tenants others) (apart : id ≠ tenantId)
    (created : TenantRepo.create tenants id name email = some after) :
    Part (isTenant tenantId) after others := by
  unfold TenantRepo.create at created
  split at created
  · cases created
  · rename_i free
    cases created
    refine part.insert_other ?_ (by simp [isTenant, apart])
    cases found : tenants.lookup id with
    | none => rw [part.lookup, found, Option.filter_none]
    | some tenant => exact absurd (Or.inr (Or.inl (by rw [found]; rfl))) free

/-- Every change of a tenant is one `update_one` that keeps its id. -/
theorem apply_updateOne (change : TenantChange) : ∃ edit : TenantDoc → TenantDoc,
    (∀ tenant, (edit tenant).id = tenant.id) ∧
      ∀ tenants id, change.apply tenants id = TenantRepo.updateOne tenants id edit := by
  cases change with
  | plan value => exact ⟨fun tenant => { tenant with plan := value }, fun _ => rfl, fun _ _ => rfl⟩
  | active value =>
      exact ⟨fun tenant => { tenant with isActive := value }, fun _ => rfl, fun _ _ => rfl⟩
  | suspended value =>
      cases value with
      | true =>
          exact ⟨fun tenant => { tenant with isSuspended := true }, fun _ => rfl, fun _ _ => rfl⟩
      | false =>
          exact ⟨fun tenant => { tenant with isSuspended := false }, fun _ => rfl, fun _ _ => rfl⟩

theorem updateOne_part {tenants others : TenantRepo.Tenants}
    (identified : TenantRepo.Identified tenants) (part : Part (isTenant tenantId) tenants others)
    {edit : TenantDoc → TenantDoc} (kept : ∀ tenant, (edit tenant).id = tenant.id) (id : String) :
    Part (isTenant tenantId) (TenantRepo.updateOne tenants id edit)
      (if id = tenantId then TenantRepo.updateOne others id edit else others) := by
  have shown := part.lookup id
  simp only [TenantRepo.updateOne]
  cases found : tenants.lookup id with
  | none =>
      rw [found, Option.filter_none] at shown
      simpa only [shown, ite_self] using part
  | some tenant =>
      have named := (identified id tenant found).1
      rw [found] at shown
      by_cases own : id = tenantId
      · subst own
        have there : others.lookup id = some tenant := by
          simpa [Option.filter_some, isTenant, named] using shown
        rw [if_pos rfl, there]
        exact part.insert id (by simp [isTenant, kept, named])
      · rw [if_neg own]
        refine part.insert_other (by simpa [Option.filter_some, isTenant, named, own] using shown) ?_
        simp [isTenant, kept, named, own]

theorem apply_part {tenants others : TenantRepo.Tenants}
    (identified : TenantRepo.Identified tenants) (part : Part (isTenant tenantId) tenants others)
    (change : TenantChange) (id : String) :
    Part (isTenant tenantId) (change.apply tenants id)
      (if id = tenantId then change.apply others id else others) := by
  obtain ⟨edit, kept, shape⟩ := apply_updateOne change
  rw [shape, shape]
  exact updateOne_part identified part kept id

/-! ## Calls -/

theorem setCall_alone {index : Nat} {call : RestCall} (alike : Alike tenantId rest alone)
    (found : rest.calls[index]? = some call) (own : ownsCall tenantId call = true)
    (phase : RestPhase) :
    Alike tenantId (rest.setCall index phase)
      (alone.setCall (rank (ownsCall tenantId) rest.calls index) phase) := by
  refine ⟨alike.now, alike.tenants, alike.projects, alike.apiKeys, ?_⟩
  simp only [setCall, alike.calls]
  exact (Places.filter_modify_own found own own).symm

theorem setCall_other {index : Nat} {call : RestCall} (alike : Alike tenantId rest alone)
    (found : rest.calls[index]? = some call) (other : ownsCall tenantId call = false)
    (phase : RestPhase) : Alike tenantId (rest.setCall index phase) alone := by
  refine ⟨alike.now, alike.tenants, alike.projects, alike.apiKeys, ?_⟩
  rw [alike.calls, setCall, Places.filter_modify_other found other other]

/-! ## Projects -/

theorem modified_alone (alike : Alike tenantId rest alone) (projectId : String)
    (fields : ProjectRepo.ProjectFields) (updatedAt : Instant) :
    alone.repo.store.modified projectId tenantId fields updatedAt =
      rest.repo.store.modified projectId tenantId fields updatedAt := by
  simp only [ProjectRepo.Store.modified, alike.projects.lookup]
  cases rest.repo.store.projects.lookup projectId with
  | none => rfl
  | some doc =>
      by_cases own : doc.tenantId = tenantId
      · simp [Option.filter_some, ownsProject, own]
      · simp [Option.filter_some, ownsProject, own]

theorem create_project_alone (alike : Alike tenantId rest alone) {doc : ProjectDoc}
    (own : doc.tenantId = tenantId) {repo : ProjectRepo.State}
    (run : rest.repo.step (.create doc) = some repo) :
    ∃ later, alone.repo.step (.create doc) = some later ∧
      Alike tenantId (rest.withRepo repo) (alone.withRepo later) := by
  simp only [ProjectRepo.State.step, alike.projects.lookup] at run ⊢
  cases found : rest.repo.store.projects.lookup doc.id with
  | some other => simp [found] at run
  | none =>
      rw [found] at run
      cases run
      exact ⟨_, rfl, alike.now, alike.tenants,
        alike.projects.insert doc.id (by simp [ownsProject, own]), alike.apiKeys, alike.calls⟩

theorem tenantId_modified {store : ProjectRepo.Store} {projectId owner : String}
    {fields : ProjectRepo.ProjectFields} {updatedAt : Instant} {doc : ProjectDoc}
    (changed : store.modified projectId owner fields updatedAt = some doc) :
    doc.tenantId = owner := by
  obtain ⟨before, _, own, rfl⟩ := ProjectRepo.State.modified_some changed
  exact own

theorem updateOne_alone (alike : Alike tenantId rest alone) {projectId : String}
    {write : ProjectRepo.Write} {updatedAt : Instant} {repo : ProjectRepo.State}
    (run : rest.repo.step (.updateOne projectId tenantId write updatedAt) = some repo) :
    ∃ later, alone.repo.step (.updateOne projectId tenantId write updatedAt) = some later ∧
      Alike tenantId (rest.withRepo repo) (alone.withRepo later) := by
  simp only [ProjectRepo.State.step, alike.now, modified_alone alike] at run ⊢
  split at run
  · rename_i past
    rw [if_pos past]
    cases changed : rest.repo.store.modified projectId tenantId write.fields updatedAt with
    | none =>
        rw [changed] at run
        cases run
        exact ⟨_, rfl, alike.now, alike.tenants, alike.projects, alike.apiKeys, alike.calls⟩
    | some doc =>
        rw [changed] at run
        cases run
        have own : ownsProject tenantId doc = true := by
          simp [ownsProject, tenantId_modified changed]
        exact ⟨_, rfl, alike.now, alike.tenants, alike.projects.insert projectId own,
          alike.apiKeys, alike.calls⟩
  · cases run

/-- A project of another tenant is created or edited. -/
theorem put_other (alike : Alike tenantId rest alone) {projectId : String} {doc : ProjectDoc}
    (other : doc.tenantId ≠ tenantId)
    (apart : ∀ before, rest.repo.store.projects.lookup projectId = some before →
      before.tenantId ≠ tenantId) :
    Part (ownsProject tenantId) (rest.repo.put projectId doc).store.projects
      alone.repo.store.projects := by
  refine alike.projects.insert_other ?_ (by simp [ownsProject, other])
  rw [alike.projects.lookup]
  cases found : rest.repo.store.projects.lookup projectId with
  | none => rfl
  | some before => simp [Option.filter_some, ownsProject, apart before found]

/-! ## Keys -/

theorem revoke_alone (apiKeys : List APIKeyDoc) (keyId : String) (now : Instant) :
    APIKeyRepo.revoke (apiKeys.filter (ownsKey tenantId)) keyId tenantId now =
      ((APIKeyRepo.revoke apiKeys keyId tenantId now).1.filter (ownsKey tenantId),
        (APIKeyRepo.revoke apiKeys keyId tenantId now).2) := by
  have found : (apiKeys.filter (ownsKey tenantId)).find? (APIKeyRepo.matchesKey keyId tenantId) =
      apiKeys.find? (APIKeyRepo.matchesKey keyId tenantId) := by
    rw [List.find?_filter]
    refine congrArg (fun test => apiKeys.find? test) (funext fun doc => Bool.eq_iff_iff.mpr ?_)
    simp only [ownsKey, APIKeyRepo.matchesKey, decide_eq_true_eq, Bool.and_eq_true, beq_iff_eq]
    exact ⟨fun both => both.2, fun both => ⟨both.2, both⟩⟩
  simp only [APIKeyRepo.revoke, found]
  cases apiKeys.find? (APIKeyRepo.matchesKey keyId tenantId) with
  | none => rfl
  | some doc =>
      by_cases same : APIKeyRepo.markRevoked now doc = doc
      · simp only [same, if_true]
      · simp only [same, if_false, List.filter_map]
        refine congrArg (fun keys => (List.map _ keys, true)) (List.filter_congr fun other _ => ?_)
        simp only [Function.comp_apply, ownsKey]
        split <;> rfl

theorem revoke_other (apiKeys : List APIKeyDoc) (keyId : String) {owner : String}
    (apart : owner ≠ tenantId) (now : Instant) :
    (APIKeyRepo.revoke apiKeys keyId owner now).1.filter (ownsKey tenantId) =
      apiKeys.filter (ownsKey tenantId) := by
  simp only [APIKeyRepo.revoke]
  split
  · rfl
  · split
    · rfl
    · have marked : ∀ doc : APIKeyDoc, ownsKey tenantId
          (if APIKeyRepo.matchesKey keyId owner doc then APIKeyRepo.markRevoked now doc else doc) =
          ownsKey tenantId doc := fun doc => by
        split <;> rfl
      have untouched : ∀ doc ∈ apiKeys.filter (ownsKey tenantId),
          (if APIKeyRepo.matchesKey keyId owner doc then APIKeyRepo.markRevoked now doc else doc) =
          doc := by
        intro doc member
        have own : doc.tenantId = tenantId := by simpa [ownsKey] using (List.mem_filter.mp member).2
        exact if_neg (by simp [APIKeyRepo.matchesKey, own, apart.symm])
      rw [List.filter_map, show List.filter (ownsKey tenantId ∘ _) apiKeys = apiKeys.filter
        (ownsKey tenantId) from List.filter_congr fun doc _ => marked doc,
        List.map_congr_left untouched, List.map_id']

/-! ## The write of a call -/

theorem runPending_calls {tenant : TenantDoc} {random : APIKeyRepo.Random} {pending : Pending}
    {after : Rest} {phase : RestPhase}
    (run : rest.runPending hasher tenant random pending = some (after, phase)) :
    after.calls = rest.calls := by
  cases pending with
  | insertProject body now =>
      obtain ⟨repo, _, same⟩ := Option.map_eq_some_iff.mp run
      cases same
      rfl
  | updateProject projectId basis write updatedAt =>
      obtain ⟨repo, _, same⟩ := Option.map_eq_some_iff.mp run
      cases same
      rfl
  | insertKey projectId label keyType rateLimitRpm =>
      simp only [runPending] at run
      split at run
      · cases run
      · cases run
        rfl
  | revokeKey keyId =>
      cases run
      rfl

theorem runPending_alone (alike : Alike tenantId rest alone) {tenant : TenantDoc}
    (own : tenant.id = tenantId) {random : APIKeyRepo.Random} {pending : Pending} {after : Rest}
    {phase : RestPhase} (run : rest.runPending hasher tenant random pending = some (after, phase)) :
    ∃ later, alone.runPending hasher tenant random pending = some (later, phase) ∧
      Alike tenantId after later := by
  cases pending with
  | insertProject body now =>
      obtain ⟨repo, stepped, same⟩ := Option.map_eq_some_iff.mp run
      cases same
      obtain ⟨later, taken, kept⟩ := create_project_alone alike own stepped
      exact ⟨alone.withRepo later, by simp only [runPending, taken, Option.map_some], kept⟩
  | updateProject projectId basis write updatedAt =>
      obtain ⟨repo, stepped, same⟩ := Option.map_eq_some_iff.mp run
      cases same
      rw [own] at stepped
      obtain ⟨later, taken, kept⟩ := updateOne_alone alike stepped
      exact ⟨alone.withRepo later, by simp only [runPending, own, taken, Option.map_some], kept⟩
  | insertKey projectId label keyType rateLimitRpm =>
      simp only [runPending] at run
      split at run
      · cases run
      · rename_i free
        cases run
        have absent : ¬ (alone.apiKeys.any fun doc => doc.id == random.id) = true := by
          rw [alike.apiKeys]
          intro taken
          obtain ⟨doc, member, same⟩ := List.any_eq_true.mp taken
          exact free (List.any_eq_true.mpr ⟨doc, (List.mem_filter.mp member).1, same⟩)
        refine ⟨_, if_neg absent, alike.now, alike.tenants, alike.projects, ?_, alike.calls⟩
        simp [alike.apiKeys, List.filter_append, ownsKey, APIKeyRepo.newKey, own]
  | revokeKey keyId =>
      cases run
      subst own
      have revoked : APIKeyRepo.revoke alone.apiKeys keyId tenant.id alone.repo.store.now =
          ((APIKeyRepo.revoke rest.apiKeys keyId tenant.id rest.repo.store.now).1.filter
            (ownsKey tenant.id),
          (APIKeyRepo.revoke rest.apiKeys keyId tenant.id rest.repo.store.now).2) := by
        rw [alike.apiKeys, alike.now, revoke_alone]
      refine ⟨{ alone with
        apiKeys := (APIKeyRepo.revoke rest.apiKeys keyId tenant.id rest.repo.store.now).1.filter
          (ownsKey tenant.id) }, ?_, alike.now, alike.tenants, alike.projects, rfl, alike.calls⟩
      simp only [runPending, revoked]
      rfl

theorem runPending_other (alike : Alike tenantId rest alone) {tenant : TenantDoc}
    (apart : tenant.id ≠ tenantId) {random : APIKeyRepo.Random} {pending : Pending} {after : Rest}
    {phase : RestPhase} (run : rest.runPending hasher tenant random pending = some (after, phase)) :
    Alike tenantId after alone := by
  cases pending with
  | insertProject body now =>
      obtain ⟨repo, stepped, same⟩ := Option.map_eq_some_iff.mp run
      cases same
      cases ProjectRepo.State.step_moved stepped with
      | created free =>
          refine ⟨alike.now, alike.tenants, put_other alike apart ?_, alike.apiKeys, alike.calls⟩
          intro before found
          cases free.symm.trans found
  | updateProject projectId basis write updatedAt =>
      obtain ⟨repo, stepped, same⟩ := Option.map_eq_some_iff.mp run
      cases same
      cases ProjectRepo.State.step_moved stepped with
      | unmodified => exact ⟨alike.now, alike.tenants, alike.projects, alike.apiKeys, alike.calls⟩
      | wrote changed =>
          obtain ⟨before, stored, own, rfl⟩ := ProjectRepo.State.modified_some changed
          refine ⟨alike.now, alike.tenants, put_other alike ?_ ?_, alike.apiKeys, alike.calls⟩
          · exact own.symm ▸ apart
          · intro other found
            cases Option.some.inj (stored.symm.trans found)
            exact own.symm ▸ apart
  | insertKey projectId label keyType rateLimitRpm =>
      simp only [runPending] at run
      split at run
      · cases run
      · cases run
        refine ⟨alike.now, alike.tenants, alike.projects, ?_, alike.calls⟩
        simp [alike.apiKeys, List.filter_append, ownsKey, APIKeyRepo.newKey, apart]
  | revokeKey keyId =>
      cases run
      refine ⟨alike.now, alike.tenants, alike.projects, ?_, alike.calls⟩
      rw [alike.apiKeys]
      exact (revoke_other rest.apiKeys keyId apart rest.repo.store.now).symm

/-! ## One step -/

/-- A step that another tenant makes, or that no tenant makes. -/
theorem alike_other {event : RestEvent} (sound : rest.Sound) (alike : Alike tenantId rest alone)
    (other : ownEvent tenantId rest event = none)
    (run : rest.step hasher event = some next) : Alike tenantId next alone := by
  cases event with
  | register id name email =>
      obtain ⟨tenants, created, rfl⟩ := Option.map_eq_some_iff.mp run
      have apart : id ≠ tenantId := fun same => by simp [ownEvent, same] at other
      exact ⟨alike.now, create_other alike.tenants apart created, alike.projects, alike.apiKeys,
        alike.calls⟩
  | changeTenant id change =>
      cases run
      have apart : id ≠ tenantId := fun same => by simp [ownEvent, same] at other
      have part := apply_part sound.tenants alike.tenants change id
      rw [if_neg apart] at part
      exact ⟨alike.now, part, alike.projects, alike.apiKeys, alike.calls⟩
  | authenticate id request =>
      have apart : id ≠ tenantId := fun same => by simp [ownEvent, same] at other
      simp only [step] at run
      split at run
      · cases run
        exact alike
      · rename_i tenant current
        cases run
        have named := (sound.tenants _ _ (currentTenant_ok current).1).1
        refine ⟨alike.now, alike.tenants, alike.projects, alike.apiKeys, ?_⟩
        simp [alike.calls, List.filter_append, ownsCall, named, apart]
  | read index =>
      simp only [step] at run
      split at run
      · rename_i tenant request found
        have foreign : ownsCall tenantId ⟨tenant, request, .reading⟩ = false := by
          simpa [ownEvent, ownPlace, found] using other
        split at run
        · cases run
          exact setCall_other alike found foreign _
        · cases run
          exact setCall_other alike found foreign _
      · cases run
  | write index random =>
      simp only [step] at run
      split at run
      · rename_i tenant request pending found
        have foreign : ownsCall tenantId ⟨tenant, request, .writing pending⟩ = false := by
          simpa [ownEvent, ownPlace, found] using other
        obtain ⟨⟨after, phase⟩, ran, rfl⟩ := Option.map_eq_some_iff.mp run
        have apart : tenant.id ≠ tenantId := by simpa [ownsCall] using foreign
        rw [← runPending_calls ran] at found
        exact setCall_other (runPending_other alike apart ran) found foreign phase
      · cases run
  | repo event =>
      simp only [step] at run
      split at run
      · cases run
      · rename_i quiet
        obtain ⟨repo, stepped, rfl⟩ := Option.map_eq_some_iff.mp run
        have silent : writesProject event = false := Bool.eq_false_iff.mpr quiet
        have timeless : ∀ elapsed, event ≠ .tick elapsed := fun elapsed same => by
          simp [ownEvent, same] at other
        have now := ProjectRepo.State.now_moved (ProjectRepo.State.step_moved stepped) timeless
        have projects := projects_quiet silent stepped
        exact ⟨alike.now.trans now.symm, alike.tenants, by rw [withRepo, projects]; exact alike.projects,
          alike.apiKeys, alike.calls⟩

theorem ownPlace_some {index place : Nat} (own : ownPlace tenantId rest index = some place) :
    ∃ call, rest.calls[index]? = some call ∧ ownsCall tenantId call = true ∧
      place = rank (ownsCall tenantId) rest.calls index := by
  unfold ownPlace at own
  split at own
  · cases own
  · rename_i call found
    split at own
    · rename_i mine
      cases own
      exact ⟨call, found, mine, rfl⟩
    · cases own

theorem found_alone (alike : Alike tenantId rest alone) {index : Nat} {call : RestCall}
    (found : rest.calls[index]? = some call) (own : ownsCall tenantId call = true) :
    alone.calls[rank (ownsCall tenantId) rest.calls index]? = some call := by
  rw [alike.calls]
  exact Places.getElem?_rank found own

theorem read_alone (sound : rest.Sound) (alike : Alike tenantId rest alone) {index : Nat}
    {call : RestCall} (found : rest.calls[index]? = some call)
    (own : ownsCall tenantId call = true) (run : rest.step hasher (.read index) = some next) :
    ∃ later, alone.step hasher (.read (rank (ownsCall tenantId) rest.calls index)) = some later ∧
      Alike tenantId next later := by
  have there := found_alone alike found own
  have same : call.tenant.id = tenantId := by simpa [ownsCall] using own
  have named : tenantId ≠ "" := same ▸ sound.named call (List.mem_of_getElem? found)
  simp only [step, found, there] at run ⊢
  split at run
  · rename_i tenant request here
    cases here
    have answer := check_alone alike (show tenant.id = tenantId from same) named request
    simp only [answer]
    split at run
    · cases run
      exact ⟨_, rfl, setCall_alone alike found own _⟩
    · cases run
      exact ⟨_, rfl, setCall_alone alike found own _⟩
  · cases run

theorem write_alone (alike : Alike tenantId rest alone) {index : Nat} {call : RestCall}
    {random : APIKeyRepo.Random} (found : rest.calls[index]? = some call)
    (own : ownsCall tenantId call = true) (run : rest.step hasher (.write index random) = some next) :
    ∃ later,
      alone.step hasher (.write (rank (ownsCall tenantId) rest.calls index) random) = some later ∧
      Alike tenantId next later := by
  have there := found_alone alike found own
  have same : call.tenant.id = tenantId := by simpa [ownsCall] using own
  simp only [step, found, there] at run ⊢
  split at run
  · rename_i tenant request pending here
    cases here
    obtain ⟨⟨after, phase⟩, ran, rfl⟩ := Option.map_eq_some_iff.mp run
    obtain ⟨later, taken, kept⟩ := runPending_alone alike same ran
    have calls := runPending_calls ran
    rw [← calls] at found
    refine ⟨later.setCall (rank (ownsCall tenantId) rest.calls index) phase, ?_, ?_⟩
    · rw [taken]
      rfl
    · rw [← calls]
      exact setCall_alone kept found own phase
  · cases run

/-- A step of the tenant. -/
theorem alike_own {event own : RestEvent} (sound : rest.Sound) (alike : Alike tenantId rest alone)
    (mine : ownEvent tenantId rest event = some own)
    (run : rest.step hasher event = some next) :
    ∃ later, alone.step hasher own = some later ∧ Alike tenantId next later := by
  cases event with
  | register id name email =>
      simp only [ownEvent, Option.ite_none_right_eq_some, Option.some.injEq] at mine
      obtain ⟨rfl, rfl⟩ := mine
      obtain ⟨tenants, created, rfl⟩ := Option.map_eq_some_iff.mp run
      obtain ⟨later, taken, part⟩ := create_alone alike.tenants created
      exact ⟨{ alone with tenants := later }, by simp only [step, taken, Option.map_some],
        alike.now, part, alike.projects, alike.apiKeys, alike.calls⟩
  | changeTenant id change =>
      simp only [ownEvent, Option.ite_none_right_eq_some, Option.some.injEq] at mine
      obtain ⟨rfl, rfl⟩ := mine
      cases run
      have part := apply_part sound.tenants alike.tenants change id
      rw [if_pos rfl] at part
      exact ⟨_, rfl, alike.now, part, alike.projects, alike.apiKeys, alike.calls⟩
  | authenticate id request =>
      simp only [ownEvent, Option.ite_none_right_eq_some, Option.some.injEq] at mine
      obtain ⟨rfl, rfl⟩ := mine
      simp only [step, currentTenant_alone alike sound.tenants] at run ⊢
      split at run
      · cases run
        exact ⟨_, rfl, alike⟩
      · rename_i tenant current
        cases run
        have named := (sound.tenants _ _ (currentTenant_ok current).1).1
        refine ⟨_, rfl, alike.now, alike.tenants, alike.projects, alike.apiKeys, ?_⟩
        simp [alike.calls, List.filter_append, ownsCall, named]
  | read index =>
      obtain ⟨place, here, rfl⟩ := Option.map_eq_some_iff.mp mine
      obtain ⟨call, found, own, rfl⟩ := ownPlace_some here
      exact read_alone sound alike found own run
  | write index random =>
      obtain ⟨place, here, rfl⟩ := Option.map_eq_some_iff.mp mine
      obtain ⟨call, found, own, rfl⟩ := ownPlace_some here
      exact write_alone alike found own run
  | repo event =>
      cases event with
      | tick elapsed =>
          cases mine
          cases run
          refine ⟨_, rfl, ?_, alike.tenants, alike.projects, alike.apiKeys, alike.calls⟩
          exact congrArg (· + elapsed) alike.now
      | _ => cases mine

/-! ## Runs -/

def ownEvents (hasher : AuthTokenRepo.PasswordHasher) (tenantId : String) (rest : Rest)
    (events : List RestEvent) : List RestEvent :=
  emitted (step hasher) (fun state event => (ownEvent tenantId state event).toList) rest events

structure Separate (tenantId : String) (rest alone : Rest) : Prop
    extends Alike tenantId rest alone where
  sound : rest.Sound

theorem separate_other (tenantId : String) (rest alone : Rest) (event : RestEvent) (next : Rest)
    (other : ownEvent tenantId rest event = none) (separate : Separate tenantId rest alone)
    (run : rest.step hasher event = some next) : Separate tenantId next alone :=
  ⟨alike_other separate.sound separate.toAlike other run,
    sound_moved separate.sound (step_moved run)⟩

theorem separate_own (tenantId : String) (rest alone : Rest) (event own : RestEvent) (next : Rest)
    (mine : ownEvent tenantId rest event = some own) (separate : Separate tenantId rest alone)
    (run : rest.step hasher event = some next) :
    ∃ later, alone.step hasher own = some later ∧ Separate tenantId next later := by
  obtain ⟨later, taken, alike⟩ := alike_own separate.sound separate.toAlike mine run
  exact ⟨later, taken, alike, sound_moved separate.sound (step_moved run)⟩

/-- No tenant can tell the run from one in which it is the only tenant. -/
theorem tenant_alone (hasher : AuthTokenRepo.PasswordHasher) (now : Instant)
    (events : List RestEvent) (final : Rest)
    (run : exec (step hasher) (initial now) events = some final) (tenantId : String) :
    ∃ last, exec (step hasher) (initial now) (ownEvents hasher tenantId (initial now) events) =
      some last ∧ Alike tenantId final last := by
  have start : Separate tenantId (initial now) (initial now) :=
    ⟨alike_initial tenantId now, sound_initial now⟩
  obtain ⟨last, ran, separate⟩ :=
    exec_labelled (separate_other tenantId) (separate_own tenantId) start run
  exact ⟨last, ran, separate.toAlike⟩

def twoTenants : List RestEvent :=
  [.register "u" "Other" "u@example.com", .register "t" "Tenant" "t@example.com",
    .authenticate "u" (.createProject sampleProject),
    .authenticate "t" (.createProject sampleProject), .read 0, .read 1,
    .write 1 (sampleRandom "p"), .repo (.tick 5), .write 0 (sampleRandom "q")]

example : ownEvents AuthTokenRepo.plainHasher "t" (initial 0) twoTenants =
    [.register "t" "Tenant" "t@example.com", .authenticate "t" (.createProject sampleProject),
      .read 0, .write 0 (sampleRandom "p"), .repo (.tick 5)] := rfl

theorem tenant_alone_two : ∃ final last,
    exec (step AuthTokenRepo.plainHasher) (initial 0) twoTenants = some final ∧
      exec (step AuthTokenRepo.plainHasher) (initial 0)
        (ownEvents AuthTokenRepo.plainHasher "t" (initial 0) twoTenants) = some last ∧
      Alike "t" final last := by
  have ran : (exec (step AuthTokenRepo.plainHasher) (initial 0) twoTenants).isSome = true := by
    decide
  obtain ⟨final, run⟩ := Option.isSome_iff_exists.mp ran
  obtain ⟨last, taken, alike⟩ :=
    tenant_alone AuthTokenRepo.plainHasher 0 twoTenants final run "t"
  exact ⟨final, last, run, taken, alike⟩

end LiveChat.Api.Rest
