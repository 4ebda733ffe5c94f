import LiveChat.Api.Rest
import LiveChat.Foundation.Places
import LiveChat.Foundation.TransitionSystem

/-!
# Sequences of key deletions

`DELETE /v1/projects/{project_id}/keys/{key_id}`, one request of a tenant after the other.  The
handler checks that the tenant has the project of the path; the update asks for the key and the
tenant only, so it also finds a key of another project, and one that was revoked before.
-/

set_option autoImplicit false

namespace LiveChat.Api.KeyDeletion

open LiveChat.Core
open LiveChat.Foundation
open LiveChat.Foundation.TransitionSystem
open LiveChat.Repositories
open LiveChat.Api.Projects (HTTPException)
open LiveChat.Repositories.APIKeyRepo (markRevoked matchesKey)
open LiveChat.Repositories.ProjectRepo (storedDate)

/-- The `api_keys` collection. -/
structure KeyTable where
  docs : List APIKeyDoc
  distinct : (docs.map APIKeyDoc.id).Nodup
  /-- A key gets its `revoked_at` when it is revoked. -/
  stamped : ∀ doc ∈ docs, doc.revoked = false → doc.revokedAt = none

namespace KeyTable

theorem stamped_revoke (apiKeys : KeyTable) (keyId tenantId : String) (now : Instant) :
    ∀ doc ∈ (APIKeyRepo.revoke apiKeys.docs keyId tenantId now).1,
      doc.revoked = false → doc.revokedAt = none := by
  intro doc member live
  obtain ⟨before, listed, rfl | ⟨_, rfl⟩⟩ := APIKeyRepo.mem_revoke member
  · exact apiKeys.stamped _ listed live
  · cases live

def revoke (apiKeys : KeyTable) (keyId tenantId : String) (now : Instant) : KeyTable where
  docs := (APIKeyRepo.revoke apiKeys.docs keyId tenantId now).1
  distinct := by
    rw [APIKeyRepo.revoke_ids]
    exact apiKeys.distinct
  stamped := apiKeys.stamped_revoke keyId tenantId now

theorem eq_of_id (apiKeys : KeyTable) {doc other : APIKeyDoc} (listed : doc ∈ apiKeys.docs)
    (among : other ∈ apiKeys.docs) (same : doc.id = other.id) : doc = other :=
  List.inj_on_of_nodup_map apiKeys.distinct listed among same

theorem revoked_of_stamp (apiKeys : KeyTable) {doc : APIKeyDoc} (listed : doc ∈ apiKeys.docs)
    (stamp : doc.revokedAt.isSome = true) : doc.revoked = true := by
  cases live : doc.revoked with
  | true => rfl
  | false =>
      rw [apiKeys.stamped doc listed live] at stamp
      cases stamp

theorem docs_revoke (apiKeys : KeyTable) (keyId tenantId : String) (now : Instant) :
    (apiKeys.revoke keyId tenantId now).docs =
      (APIKeyRepo.revoke apiKeys.docs keyId tenantId now).1 := rfl

def modifies (apiKeys : KeyTable) (keyId tenantId : String) (now : Instant) : Bool :=
  (APIKeyRepo.revoke apiKeys.docs keyId tenantId now).2

end KeyTable

/-- What the requests of a tenant meet; nobody else changes the projects. -/
structure Desk where
  store : ProjectRepo.Store
  tenant : TenantDoc
  named : tenant.id ≠ ""
  apiKeys : KeyTable

structure DeleteRequest where
  projectId : String
  keyId : String
  /-- What the clock says when the key is revoked. -/
  now : Instant

namespace Desk

/-- `revoke_key`: the keys afterwards, and the refusal when it is not 204. -/
def revokeKey (desk : Desk) (request : DeleteRequest) : KeyTable × Option HTTPException :=
  match RestRequest.check desk.store desk.tenant
      (.revokeKey request.projectId request.keyId) with
  | .error refusal => (desk.apiKeys, some refusal)
  | .ok _ =>
      (desk.apiKeys.revoke request.keyId desk.tenant.id request.now,
        if desk.apiKeys.modifies request.keyId desk.tenant.id request.now then none
        else some keyNotFound)

def step (desk : Desk) (request : DeleteRequest) : Option Desk :=
  some { desk with apiKeys := (desk.revokeKey request).1 }

/-! ## What the requests should do -/

def Owns (desk : Desk) (projectId : String) : Prop :=
  ∃ project, desk.store.projects.lookup projectId = some project ∧
    project.tenantId = desk.tenant.id

/-- The key exists, belongs to the tenant and to the project, and is not revoked. -/
def Entitled (desk : Desk) (request : DeleteRequest) : Prop :=
  desk.Owns request.projectId ∧ ∃ doc ∈ desk.apiKeys.docs, doc.id = request.keyId ∧
    doc.tenantId = desk.tenant.id ∧ doc.projectId = request.projectId ∧ doc.revoked = false

structure Scoped (desk : Desk) (request : DeleteRequest) : Prop where
  succeeds : (desk.revokeKey request).2 = none ↔ desk.Entitled request
  /-- On success, `revoked` and `revoked_at` of the key are set, and nothing else. -/
  changed : (desk.revokeKey request).2 = none →
    (desk.revokeKey request).1.docs = desk.apiKeys.docs.map fun doc =>
      if doc.id = request.keyId then
        { doc with revoked := true, revokedAt := some (storedDate request.now) }
      else doc
  refused : (desk.revokeKey request).2 ≠ none →
    (desk.revokeKey request).1.docs = desk.apiKeys.docs

structure ScopedRun (desk : Desk) (requests : List DeleteRequest) : Prop where
  each : Along step Scoped desk requests
  /-- A key that has a `revoked_at` stays as it is. -/
  stable : ∀ final, exec step desk requests = some final →
    ∀ doc ∈ desk.apiKeys.docs, doc.revokedAt.isSome = true → doc ∈ final.apiKeys.docs
  /-- The keys of the projects that no request names stay as they are. -/
  foreign : ∀ final, exec step desk requests = some final →
    ∀ doc ∈ desk.apiKeys.docs, (∀ request ∈ requests, doc.projectId ≠ request.projectId) →
      doc ∈ final.apiKeys.docs

/-- The tenant's key with the id is one of the project, and not revoked; or it was revoked in
the same millisecond, so that the update finds nothing to modify. -/
def InScope (desk : Desk) (request : DeleteRequest) : Prop :=
  desk.Owns request.projectId → ∀ doc ∈ desk.apiKeys.docs, doc.id = request.keyId →
    doc.tenantId = desk.tenant.id →
      (doc.projectId = request.projectId ∧ doc.revoked = false) ∨
        doc.revokedAt = some (storedDate request.now)

/-! ## What one request does -/

theorem getById_isSome (desk : Desk) (projectId : String) :
    (desk.store.getById projectId (some desk.tenant.id)).isSome = true ↔
      desk.Owns projectId := by
  rw [Option.isSome_iff_exists]
  simp only [ProjectRepo.Store.getById, Option.filter_eq_some_iff, ProjectRepo.Store.inScope,
    Bool.or_eq_true, decide_eq_true_eq, desk.named, false_or]
  rfl

theorem revokeKey_of_owns {desk : Desk} {request : DeleteRequest}
    (owned : desk.Owns request.projectId) :
    desk.revokeKey request = (desk.apiKeys.revoke request.keyId desk.tenant.id request.now,
      if desk.apiKeys.modifies request.keyId desk.tenant.id request.now then none
      else some keyNotFound) := by
  obtain ⟨project, read⟩ := Option.isSome_iff_exists.mp ((desk.getById_isSome _).mpr owned)
  simp only [revokeKey, RestRequest.check, read]

theorem revokeKey_of_not_owns {desk : Desk} {request : DeleteRequest}
    (foreign : ¬ desk.Owns request.projectId) :
    desk.revokeKey request = (desk.apiKeys, some keyProjectNotFound) := by
  have absent := Option.not_isSome_iff_eq_none.mp (mt (desk.getById_isSome _).mp foreign)
  simp only [revokeKey, RestRequest.check, absent]

end Desk

/-- Revoking a document again changes nothing within the millisecond. -/
theorem markRevoked_eq_self {doc : APIKeyDoc} {now : Instant} :
    markRevoked now doc = doc ↔ doc.revoked = true ∧ doc.revokedAt = some (storedDate now) := by
  constructor
  · intro same
    rw [← same]
    exact ⟨rfl, rfl⟩
  · rintro ⟨revoked, revokedAt⟩
    rw [markRevoked, ← revoked, ← revokedAt]

theorem matchesKey_iff {keyId tenantId : String} {doc : APIKeyDoc} :
    matchesKey keyId tenantId doc = true ↔ doc.id = keyId ∧ doc.tenantId = tenantId := by
  simp only [matchesKey, Bool.and_eq_true, beq_iff_eq]

namespace KeyTable

theorem revoke_cases (apiKeys : KeyTable) (keyId tenantId : String) (now : Instant) :
    (apiKeys.modifies keyId tenantId now = false ∧
        (apiKeys.revoke keyId tenantId now).docs = apiKeys.docs ∧
        ∀ doc ∈ apiKeys.docs, doc.id = keyId → doc.tenantId = tenantId →
          markRevoked now doc = doc) ∨
      ∃ doc ∈ apiKeys.docs, doc.id = keyId ∧ doc.tenantId = tenantId ∧
        markRevoked now doc ≠ doc ∧ apiKeys.modifies keyId tenantId now = true ∧
        (apiKeys.revoke keyId tenantId now).docs = apiKeys.docs.map fun other =>
          if other.id = keyId then markRevoked now other else other := by
  rw [docs_revoke]
  unfold modifies APIKeyRepo.revoke
  cases found : apiKeys.docs.find? (matchesKey keyId tenantId) with
  | none =>
      refine Or.inl ⟨rfl, rfl, fun doc listed same own => ?_⟩
      exact absurd (matchesKey_iff.mpr ⟨same, own⟩) (List.find?_eq_none.mp found doc listed)
  | some doc =>
      have listed := List.mem_of_find?_eq_some found
      obtain ⟨sameId, own⟩ := matchesKey_iff.mp (List.find?_some found)
      by_cases same : markRevoked now doc = doc
      · simp only [if_pos same]
        refine Or.inl ⟨trivial, trivial, fun other among otherId _ => ?_⟩
        rw [apiKeys.eq_of_id among listed (otherId.trans sameId.symm)]
        exact same
      · simp only [if_neg same]
        refine Or.inr ⟨doc, listed, sameId, own, same, trivial, List.map_congr_left ?_⟩
        intro other among
        by_cases otherId : other.id = keyId
        · rw [apiKeys.eq_of_id among listed (otherId.trans sameId.symm), if_pos sameId,
            if_pos (matchesKey_iff.mpr ⟨sameId, own⟩)]
        · rw [if_neg otherId, if_neg fun hit => otherId (matchesKey_iff.mp hit).1]

end KeyTable

namespace Desk

variable {desk : Desk} {request : DeleteRequest}

theorem revokeKey_changed (removed : (desk.revokeKey request).2 = none) :
    (desk.revokeKey request).1.docs = desk.apiKeys.docs.map fun doc =>
      if doc.id = request.keyId then
        { doc with revoked := true, revokedAt := some (storedDate request.now) }
      else doc := by
  by_cases owned : desk.Owns request.projectId
  · rw [revokeKey_of_owns owned] at removed ⊢
    rcases desk.apiKeys.revoke_cases request.keyId desk.tenant.id request.now with
      ⟨idle, _⟩ | ⟨_, _, _, _, _, _, docs⟩
    · simp only [idle, Bool.false_eq_true, if_false] at removed
      cases removed
    · exact docs
  · rw [revokeKey_of_not_owns owned] at removed
    cases removed

theorem revokeKey_refused (refused : (desk.revokeKey request).2 ≠ none) :
    (desk.revokeKey request).1.docs = desk.apiKeys.docs := by
  by_cases owned : desk.Owns request.projectId
  · rw [revokeKey_of_owns owned] at refused ⊢
    rcases desk.apiKeys.revoke_cases request.keyId desk.tenant.id request.now with
      ⟨_, docs, _⟩ | ⟨_, _, _, _, _, modified, _⟩
    · exact docs
    · exact absurd (if_pos modified) refused
  · rw [revokeKey_of_not_owns owned]

/-- A request succeeds when it modifies a key of the tenant, whatever the project of that is. -/
theorem revokeKey_succeeds_iff :
    (desk.revokeKey request).2 = none ↔ desk.Owns request.projectId ∧
      ∃ doc ∈ desk.apiKeys.docs, doc.id = request.keyId ∧ doc.tenantId = desk.tenant.id ∧
        doc.revokedAt ≠ some (storedDate request.now) := by
  by_cases owned : desk.Owns request.projectId
  · rw [revokeKey_of_owns owned]
    rcases desk.apiKeys.revoke_cases request.keyId desk.tenant.id request.now with
      ⟨idle, _, same⟩ | ⟨doc, listed, sameId, own, changes, modified, _⟩
    · refine iff_of_false (by simp [idle]) ?_
      rintro ⟨_, doc, listed, sameId, own, differs⟩
      exact differs (markRevoked_eq_self.mp (same doc listed sameId own)).2
    · refine iff_of_true (if_pos modified) ⟨owned, doc, listed, sameId, own, fun stamp => ?_⟩
      have revoked := desk.apiKeys.revoked_of_stamp listed (by rw [stamp]; rfl)
      exact changes (markRevoked_eq_self.mpr ⟨revoked, stamp⟩)
  · rw [revokeKey_of_not_owns owned]
    refine iff_of_false (fun none => by cases none) fun both => owned both.1

theorem scoped_iff (desk : Desk) (request : DeleteRequest) :
    Scoped desk request ↔ InScope desk request := by
  constructor
  · intro met owned doc listed sameId own
    by_cases stamp : doc.revokedAt = some (storedDate request.now)
    · exact Or.inr stamp
    · obtain ⟨_, target, among, targetId, _, inProject, live⟩ := met.succeeds.mp
        (revokeKey_succeeds_iff.mpr ⟨owned, doc, listed, sameId, own, stamp⟩)
      rw [desk.apiKeys.eq_of_id listed among (sameId.trans targetId.symm)]
      exact Or.inl ⟨inProject, live⟩
  · intro inScope
    refine ⟨⟨fun removed => ?_, fun entitled => ?_⟩, revokeKey_changed, revokeKey_refused⟩
    · obtain ⟨owned, doc, listed, sameId, own, differs⟩ := revokeKey_succeeds_iff.mp removed
      obtain ⟨inProject, live⟩ := (inScope owned doc listed sameId own).resolve_right differs
      exact ⟨owned, doc, listed, sameId, own, inProject, live⟩
    · obtain ⟨owned, doc, listed, sameId, own, _, live⟩ := entitled
      refine revokeKey_succeeds_iff.mpr ⟨owned, doc, listed, sameId, own, fun stamp => ?_⟩
      cases (desk.apiKeys.stamped doc listed live).symm.trans stamp

/-! ## What a sequence leaves alone -/

theorem Scoped.leaves (met : Scoped desk request) {doc : APIKeyDoc}
    (listed : doc ∈ desk.apiKeys.docs)
    (apart : doc.revokedAt.isSome = true ∨ doc.projectId ≠ request.projectId) :
    doc ∈ (desk.revokeKey request).1.docs := by
  by_cases removed : (desk.revokeKey request).2 = none
  · obtain ⟨_, target, among, targetId, _, inProject, live⟩ := met.succeeds.mp removed
    have other : doc.id ≠ request.keyId := by
      intro sameId
      obtain rfl := desk.apiKeys.eq_of_id listed among (sameId.trans targetId.symm)
      rcases apart with stamp | elsewhere
      · cases live.symm.trans (desk.apiKeys.revoked_of_stamp listed stamp)
      · exact elsewhere inProject
    rw [met.changed removed]
    exact List.mem_map.mpr ⟨doc, listed, if_neg other⟩
  · rw [met.refused removed]
    exact listed

theorem leaves_run {requests : List DeleteRequest} {final : Desk}
    (each : Along step Scoped desk requests) (run : exec step desk requests = some final)
    {doc : APIKeyDoc} (listed : doc ∈ desk.apiKeys.docs)
    (apart : ∀ request ∈ requests,
      doc.revokedAt.isSome = true ∨ doc.projectId ≠ request.projectId) :
    doc ∈ final.apiKeys.docs := by
  induction requests generalizing desk with
  | nil =>
      cases run
      exact listed
  | cons request rest ih =>
      obtain ⟨next, stepped, later⟩ := exec_cons_some run
      obtain ⟨met, others⟩ := each next stepped
      obtain ⟨here, elsewhere⟩ := List.forall_mem_cons.mp apart
      cases stepped
      exact ih others later (met.leaves listed here) elsewhere

/-- Every sequence is scoped in which each request finds a key of its project that is not
revoked, or none of the tenant, and no other sequence is. -/
theorem scopedRun_iff (desk : Desk) (requests : List DeleteRequest) :
    ScopedRun desk requests ↔ Along step InScope desk requests := by
  have agree : Along step Scoped desk requests ↔ Along step InScope desk requests :=
    along_congr (fun _ => True) (fun before request _ _ _ => scoped_iff before request)
      (fun _ _ _ _ _ => trivial) trivial
  constructor
  · intro met
    exact agree.mp met.each
  · intro inScope
    have each := agree.mpr inScope
    refine ⟨each, fun final run doc listed stamp => ?_, fun final run doc listed apart => ?_⟩
    · exact leaves_run each run listed fun _ _ => Or.inl stamp
    · exact leaves_run each run listed fun request among => Or.inr (apart request among)

def twoProjects : Desk where
  store :=
    { now := 0
      projects := (AList.insert "first"
        (Projects.newProject "tenant" .free Rest.sampleProject "first" 0) ∅).insert "second"
          (Projects.newProject "tenant" .free Rest.sampleProject "second" 0) }
  tenant := { id := "tenant", name := "Tenant", email := "t@example.com" }
  named := by decide
  apiKeys :=
    { docs := [(APIKeyRepo.newKey AuthTokenRepo.plainHasher "second" "tenant" "Default key"
        .publishable 60 (Rest.sampleRandom "key")).1]
      distinct := List.nodup_singleton _
      stamped := by
        intro doc listed _
        cases List.mem_singleton.mp listed
        rfl }

/-- Through the path of the first project the key of the second is revoked; and a second request
for a revoked key succeeds and replaces its `revoked_at`. -/
theorem not_scopedRun :
    ¬ ScopedRun twoProjects [⟨"first", "key", 1000000⟩] ∧
      ¬ ScopedRun twoProjects [⟨"second", "key", 1000000⟩, ⟨"second", "key", 2000000⟩] := by
  constructor
  · intro met
    obtain ⟨_, doc, listed, _, _, inProject, _⟩ := (met.each _ rfl).1.succeeds.mp rfl
    cases List.mem_singleton.mp listed
    exact absurd inProject (by decide)
  · intro met
    obtain ⟨_, later⟩ := met.each _ rfl
    obtain ⟨_, doc, listed, _, _, _, live⟩ := (later _ rfl).1.succeeds.mp rfl
    cases List.mem_singleton.mp listed
    exact absurd live (by decide)

/-! ## The requests among the others -/

def ended : Option HTTPException → RestPhase
  | none => .written
  | some refusal => .failed refusal

def withCall (rest : Rest) (call : RestCall) : Rest := { rest with calls := rest.calls ++ [call] }

theorem setCall_withCall (rest : Rest) (call : RestCall) (phase : RestPhase) :
    (withCall rest call).setCall rest.calls.length phase =
      withCall rest { call with phase := phase } := by
  simp only [withCall, Rest.setCall, Places.modify_concat]

variable {hasher : AuthTokenRepo.PasswordHasher} {rest : Rest} {tenant : TenantDoc}

theorem step_read {asked : RestRequest} {phase : RestPhase}
    (checked : (match asked.check rest.repo.store tenant with
      | .error refusal => RestPhase.failed refusal
      | .ok pending => .writing pending) = phase) :
    (withCall rest ⟨tenant, asked, .reading⟩).step hasher (.read rest.calls.length) =
      some (withCall rest ⟨tenant, asked, phase⟩) := by
  have found : (withCall rest ⟨tenant, asked, .reading⟩).calls[rest.calls.length]? =
      some ⟨tenant, asked, .reading⟩ := List.getElem?_concat_length
  have store : (withCall rest ⟨tenant, asked, .reading⟩).repo.store = rest.repo.store := rfl
  simp only [Rest.step, found, store]
  cases outcome : asked.check rest.repo.store tenant with
  | error refusal =>
      rw [outcome] at checked
      cases checked
      simp only [setCall_withCall]
  | ok pending =>
      rw [outcome] at checked
      cases checked
      simp only [setCall_withCall]

theorem step_write {asked : RestRequest} {keyId : String} (random : APIKeyRepo.Random) :
    (withCall rest ⟨tenant, asked, .writing (.revokeKey keyId)⟩).step hasher
        (.write rest.calls.length random) =
      some (withCall
        { rest with
          apiKeys := (APIKeyRepo.revoke rest.apiKeys keyId tenant.id rest.repo.store.now).1 }
        ⟨tenant, asked,
          if (APIKeyRepo.revoke rest.apiKeys keyId tenant.id rest.repo.store.now).2 then .written
          else .failed keyNotFound⟩) := by
  have found : (withCall rest ⟨tenant, asked, .writing (.revokeKey keyId)⟩).calls[
      rest.calls.length]? = some ⟨tenant, asked, .writing (.revokeKey keyId)⟩ :=
    List.getElem?_concat_length
  simp only [Rest.step, found, Rest.runPending, Option.map_some]
  exact congrArg some (setCall_withCall { rest with
    apiKeys := (APIKeyRepo.revoke rest.apiKeys keyId tenant.id rest.repo.store.now).1 } _ _)

/-- Without other events in between, the commands of the request do what `revokeKey` does. -/
theorem exec_rest {tenantId : String}
    (current : currentTenant rest.tenants tenantId = .ok desk.tenant)
    (sameStore : rest.repo.store = desk.store) (sameKeys : rest.apiKeys = desk.apiKeys.docs)
    (sameClock : request.now = desk.store.now) (random : APIKeyRepo.Random) :
    ∃ commands final, commands <+: [.read rest.calls.length, .write rest.calls.length random] ∧
      exec (Rest.step hasher) rest
        (.authenticate tenantId (.revokeKey request.projectId request.keyId) :: commands) =
          some final ∧
      final.apiKeys = (desk.revokeKey request).1.docs ∧
      final.calls = rest.calls ++ [⟨desk.tenant,
        .revokeKey request.projectId request.keyId, ended (desk.revokeKey request).2⟩] := by
  have arrives : rest.step hasher
      (.authenticate tenantId (.revokeKey request.projectId request.keyId)) = some (withCall rest
        ⟨desk.tenant, .revokeKey request.projectId request.keyId, .reading⟩) := by
    simp only [Rest.step, current, withCall]
  by_cases owned : desk.Owns request.projectId
  · obtain ⟨project, found⟩ := Option.isSome_iff_exists.mp ((desk.getById_isSome _).mpr owned)
    have reads : (withCall rest ⟨desk.tenant, .revokeKey request.projectId request.keyId,
        .reading⟩).step hasher (.read rest.calls.length) = some (withCall rest
          ⟨desk.tenant, .revokeKey request.projectId request.keyId,
            .writing (.revokeKey request.keyId)⟩) :=
      step_read (by simp only [RestRequest.check, sameStore, found])
    have run : exec (Rest.step hasher) rest
        [.authenticate tenantId (.revokeKey request.projectId request.keyId),
          .read rest.calls.length, .write rest.calls.length random] = some _ :=
      Option.bind_eq_some_iff.mpr ⟨_, arrives, Option.bind_eq_some_iff.mpr ⟨_, reads,
        Option.bind_eq_some_iff.mpr ⟨_, step_write random, rfl⟩⟩⟩
    refine ⟨_, _, List.prefix_rfl, run, ?_, ?_⟩
    · rw [revokeKey_of_owns owned, KeyTable.docs_revoke, sameClock, ← sameStore, ← sameKeys]
      rfl
    · rw [revokeKey_of_owns owned, KeyTable.modifies, sameClock, ← sameStore, ← sameKeys]
      simp only [withCall]
      split
      · rfl
      · rfl
  · have absent := Option.not_isSome_iff_eq_none.mp (mt (desk.getById_isSome _).mp owned)
    have reads : (withCall rest ⟨desk.tenant, .revokeKey request.projectId request.keyId,
        .reading⟩).step hasher (.read rest.calls.length) = some (withCall rest
          ⟨desk.tenant, .revokeKey request.projectId request.keyId,
            .failed keyProjectNotFound⟩) :=
      step_read (by simp only [RestRequest.check, sameStore, absent])
    have run : exec (Rest.step hasher) rest
        [.authenticate tenantId (.revokeKey request.projectId request.keyId),
          .read rest.calls.length] = some _ :=
      Option.bind_eq_some_iff.mpr ⟨_, arrives, Option.bind_eq_some_iff.mpr ⟨_, reads, rfl⟩⟩
    refine ⟨[.read rest.calls.length], _, List.prefix_append _ _, run, ?_, ?_⟩
    · rw [revokeKey_of_not_owns owned]
      exact sameKeys
    · rw [revokeKey_of_not_owns owned]
      rfl

end Desk

end LiveChat.Api.KeyDeletion
