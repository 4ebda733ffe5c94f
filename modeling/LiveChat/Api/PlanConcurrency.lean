import LiveChat.Api.Platform
import LiveChat.Core.SessionRegistry
import LiveChat.Repositories.ProjectSteps

/-!
# The concurrent sessions of a plan

Does a project of a tenant ever have more registered sessions than the tenant's plan
allows?  The session manager compares with the `max_concurrent_sessions` of the
configuration it is given, so the question is which values the REST endpoints store:
`Capped` follows them through the collection, the cache and the handshakes.
-/

set_option autoImplicit false

namespace LiveChat.Api

open LiveChat.Core
open LiveChat.Repositories
open LiveChat.Core.PlanLimits
open LiveChat.Core.SessionManager (Node NodeEvent)
open LiveChat.Foundation.TransitionSystem
open LiveChat.Repositories.ProjectRepo (RepoEvent ReadCall)
open LiveChat.Repositories.ProjectRepo.State (Holds Writes Identified Owned)
open LiveChat.Api.Projects

namespace Platform

variable {plan : String → Plan}

inductive Moved (plan : String → Plan) (platform : Platform) :
    PlatformEvent → Platform → Prop where
  | kept {event : PlatformEvent} {next : Platform} (repo : next.repo = platform.repo)
      (node : next.node = platform.node) : Moved plan platform event next
  | inserted {index : Nat} {id : String} {call : CreateCall} {next : Platform}
      (found : platform.creates[index]? = some call)
      (run : platform.repo.step (.create (newProject call.tenantId (plan call.tenantId) call.body
        id platform.repo.store.now)) = some next.repo)
      (node : next.node = platform.node) : Moved plan platform (.insertProject index id) next
  | edited {tenantId projectId : String} {edit : Edit} {updatedAt : Instant}
      {fields : ProjectRepo.ProjectFields} {next : Platform}
      (found : (platform.repo.store.getById projectId (some tenantId)).isSome)
      (accepted : edit.fields (plan tenantId) = .ok fields)
      (run : platform.repo.step (.updateOne projectId tenantId (.update fields) updatedAt) =
        some next.repo)
      (node : next.node = platform.node) :
      Moved plan platform (.edit tenantId projectId edit updatedAt) next
  | stored {event : RepoEvent} {next : Platform} (quiet : writesProject event = false)
      (run : platform.repo.step event = some next.repo) (node : next.node = platform.node) :
      Moved plan platform (.store event) next
  | connected {index : Nat} {sessionId apiKeyId : String} {project : ProjectConfig}
      {next : Platform} (holds : Holds platform.repo project)
      (repo : next.repo = platform.repo)
      (run : platform.node.step (.getOrCreate sessionId project apiKeyId) = some next.node) :
      Moved plan platform (.connect index sessionId apiKeyId) next
  | managed {event : NodeEvent} {next : Platform} (quiet : opensSession event = false)
      (repo : next.repo = platform.repo) (run : platform.node.step event = some next.node) :
      Moved plan platform (.node event) next

theorem step_moved {platform next : Platform} {event : PlatformEvent}
    (run : platform.step plan event = some next) : Moved plan platform event next := by
  cases event with
  | createProject tenantId body =>
      simp only [step] at run
      split at run
      · cases run
        exact .kept rfl rfl
      · cases run
        exact .kept rfl rfl
  | insertProject index id =>
      simp only [step] at run
      split at run
      · cases run
      · rename_i call found
        obtain ⟨repo, stepped, rfl⟩ := Option.map_eq_some_iff.mp run
        exact .inserted found stepped rfl
  | edit tenantId projectId edit updatedAt =>
      simp only [step] at run
      split at run
      · cases run
        exact .kept rfl rfl
      · rename_i doc found
        split at run
        · cases run
          exact .kept rfl rfl
        · rename_i fields accepted
          obtain ⟨repo, stepped, rfl⟩ := Option.map_eq_some_iff.mp run
          have stored := getProjectOr404_ok found
          exact .edited (by rw [stored]; rfl) accepted stepped rfl
  | store event =>
      simp only [step] at run
      split at run
      · cases run
      · rename_i quiet
        obtain ⟨repo, stepped, rfl⟩ := Option.map_eq_some_iff.mp run
        exact .stored (Bool.eq_false_iff.mpr quiet) stepped rfl
  | connect index sessionId apiKeyId =>
      simp only [step] at run
      split at run
      · rename_i found
        split at run
        · cases run
        · obtain ⟨node, stepped, rfl⟩ := Option.map_eq_some_iff.mp run
          exact .connected (.read (List.mem_of_getElem? found) rfl) rfl stepped
      · cases run
  | node event =>
      simp only [step] at run
      split at run
      · cases run
      · rename_i quiet
        obtain ⟨node, stepped, rfl⟩ := Option.map_eq_some_iff.mp run
        exact .managed (Bool.eq_false_iff.mpr quiet) rfl stepped

/-! ## The values that the endpoints store -/

/-- The requests of the tenant that take effect ask for no more sessions than its plan
allows; a creation that leaves the number out asks for ten. -/
def RequestsWithin (plan : String → Plan) (tenantId : String) (platform : Platform) :
    PlatformEvent → Prop
  | .insertProject index _ => ∀ call ∈ platform.creates[index]?, call.tenantId = tenantId →
      AllowedBy (plan tenantId) call.body.maxConcurrentSessions
  | .edit tenant projectId edit _ => tenant = tenantId →
      (platform.repo.store.getById projectId (some tenant)).isSome →
        ∀ sessions ∈ edit.requestedSessions, AllowedBy (plan tenantId) sessions
  | _ => True

instance (tenantId : String) (platform : Platform) :
    (event : PlatformEvent) → Decidable (RequestsWithin plan tenantId platform event)
  | .insertProject index _ => inferInstanceAs (Decidable
      (∀ call ∈ platform.creates[index]?, _ → AllowedBy _ _))
  | .edit _ _ edit _ => inferInstanceAs (Decidable
      (_ → _ → ∀ sessions ∈ edit.requestedSessions, AllowedBy _ _))
  | .createProject .. | .store _ | .connect .. | .node _ => isTrue trivial

def Capped (plan : String → Plan) (tenantId : String) (platform : Platform) : Prop :=
  ∀ config, Holds platform.repo config → config.tenantId = tenantId →
    AllowedBy (plan tenantId) config.maxConcurrentSessions

/-- Only stored projects have sessions. -/
def Housed (platform : Platform) : Prop :=
  ∀ projectId, platform.repo.store.projects.lookup projectId = none →
    platform.node.projectSessionCount projectId = 0

/-- No project of the tenant has more registered sessions than its plan allows. -/
def WithinPlan (plan : String → Plan) (tenantId : String) (platform : Platform) : Prop :=
  ∀ projectId doc, platform.repo.store.projects.lookup projectId = some doc →
    doc.tenantId = tenantId →
      AllowedBy (plan tenantId) (platform.node.projectSessionCount projectId)

structure Sound (platform : Platform) : Prop where
  formed : platform.node.Formed
  identified : Identified platform.repo
  owned : Owned platform.repo
  housed : Housed platform

theorem sound_initial (now : Instant) (clock : Clock) : Sound (initial now clock) := by
  refine ⟨Node.formed_initial clock, nofun, ?_, fun _ _ => rfl⟩
  intro config holds
  cases holds with
  | stored found => cases found
  | cached listed => cases listed
  | read member carries => cases member

theorem moved_apart {platform next : Platform} {event : PlatformEvent}
    (moved : Moved plan platform event next) :
    (next.node = platform.node ∧ (next.repo = platform.repo ∨
      ∃ repoEvent, ProjectRepo.State.Moved platform.repo repoEvent next.repo)) ∨
    (next.repo = platform.repo ∧ ∃ nodeEvent, Node.Moved platform.node nodeEvent next.node ∧
      ∀ sessionId project apiKeyId, nodeEvent = .getOrCreate sessionId project apiKeyId →
        Holds platform.repo project) := by
  cases moved with
  | kept repo node => exact Or.inl ⟨node, Or.inl repo⟩
  | inserted found run node =>
      exact Or.inl ⟨node, Or.inr ⟨_, ProjectRepo.State.step_moved run⟩⟩
  | edited found accepted run node =>
      exact Or.inl ⟨node, Or.inr ⟨_, ProjectRepo.State.step_moved run⟩⟩
  | stored quiet run node =>
      exact Or.inl ⟨node, Or.inr ⟨_, ProjectRepo.State.step_moved run⟩⟩
  | connected holds repo run =>
      refine Or.inr ⟨repo, _, Node.step_moved run, ?_⟩
      rintro sessionId project apiKeyId same
      cases same
      exact holds
  | @managed event _ quiet repo run =>
      refine Or.inr ⟨repo, _, Node.step_moved run, ?_⟩
      rintro sessionId project apiKeyId rfl
      cases quiet

theorem sessionCount_moved {platform next : Platform} {event : PlatformEvent}
    (formed : platform.node.Formed) (moved : Moved plan platform event next)
    (projectId : String) :
    next.node.projectSessionCount projectId ≤ platform.node.projectSessionCount projectId ∨
      ∃ config, Holds platform.repo config ∧ config.projectId = projectId ∧
        next.repo = platform.repo ∧
        next.node.projectSessionCount projectId ≤ config.maxConcurrentSessions := by
  rcases moved_apart moved with ⟨node, _⟩ | ⟨repo, nodeEvent, nodeMoved, offered⟩
  · exact Or.inl (by rw [node])
  · rcases Node.projectSessionCount_moved formed nodeMoved projectId with
      less | ⟨sessionId, project, apiKeyId, same, own, most⟩
    · exact Or.inl less
    · exact Or.inr ⟨project, offered _ _ _ same, own, repo, most⟩

theorem stored_before {platform next : Platform} {event : PlatformEvent} (sound : Sound platform)
    (moved : Moved plan platform event next) {projectId : String}
    {doc : ProjectDoc} (stored : next.repo.store.projects.lookup projectId = some doc) :
    (∃ before, platform.repo.store.projects.lookup projectId = some before ∧
      before.tenantId = doc.tenantId) ∨ platform.node.projectSessionCount projectId = 0 := by
  cases found : platform.repo.store.projects.lookup projectId with
  | none => exact Or.inr (sound.housed projectId found)
  | some before =>
      refine Or.inl ⟨before, rfl, ?_⟩
      rcases moved_apart moved with ⟨_, repo | ⟨repoEvent, repoMoved⟩⟩ | ⟨repo, _⟩
      · rw [repo, found] at stored
        cases stored
        rfl
      · obtain ⟨after, found', same⟩ := ProjectRepo.State.tenant_moved repoMoved found
        cases Option.some.inj (stored.symm.trans found')
        exact same.symm
      · rw [repo, found] at stored
        cases stored
        rfl

theorem sound_moved {platform next : Platform} {event : PlatformEvent} (sound : Sound platform)
    (moved : Moved plan platform event next) : Sound next := by
  have housed : Housed next := by
    intro projectId missing
    have absent : platform.repo.store.projects.lookup projectId = none := by
      rcases moved_apart moved with ⟨_, repo | ⟨repoEvent, repoMoved⟩⟩ | ⟨repo, _⟩
      · rwa [repo] at missing
      · cases found : platform.repo.store.projects.lookup projectId with
        | none => rfl
        | some before =>
            obtain ⟨after, found', _⟩ := ProjectRepo.State.tenant_moved repoMoved found
            cases missing.symm.trans found'
      · rwa [repo] at missing
    have empty := sound.housed projectId absent
    rcases sessionCount_moved sound.formed moved projectId with less | ⟨config, holds, rfl, _, _⟩
    · omega
    · obtain ⟨doc, stored, _⟩ := sound.owned config holds
      cases absent.symm.trans stored
  rcases moved_apart moved with ⟨node, repo | ⟨repoEvent, repoMoved⟩⟩ | ⟨repo, nodeEvent, nodeMoved, _⟩
  · exact ⟨node ▸ sound.formed, repo ▸ sound.identified, repo ▸ sound.owned, housed⟩
  · exact ⟨node ▸ sound.formed,
      ProjectRepo.State.identified_moved sound.identified repoMoved,
      ProjectRepo.State.owned_moved sound.identified sound.owned repoMoved, housed⟩
  · exact ⟨Node.formed_moved sound.formed nodeMoved, repo ▸ sound.identified, repo ▸ sound.owned,
      housed⟩

theorem capped_repo {platform next : Platform} {tenantId : String} {repoEvent : RepoEvent}
    (capped : Capped plan tenantId platform)
    (moved : ProjectRepo.State.Moved platform.repo repoEvent next.repo)
    (writes : ∀ doc, Writes platform.repo repoEvent doc → doc.tenantId = tenantId →
      AllowedBy (plan tenantId) doc.maxConcurrentSessions) : Capped plan tenantId next := by
  intro config holds own
  rcases ProjectRepo.State.config_source moved holds with old | ⟨doc, wrote, rfl⟩
  · exact capped config old own
  · exact writes doc wrote own

theorem capped_moved {platform next : Platform} {event : PlatformEvent} {tenantId : String}
    (capped : Capped plan tenantId platform) (within : RequestsWithin plan tenantId platform event)
    (moved : Moved plan platform event next) : Capped plan tenantId next := by
  have unchanged : next.repo = platform.repo → Capped plan tenantId next := by
    intro same config holds own
    exact capped config (same ▸ holds) own
  cases moved with
  | kept repo node => exact unchanged repo
  | inserted found run node =>
      refine capped_repo capped (ProjectRepo.State.step_moved run) fun doc wrote own => ?_
      cases wrote
      exact within _ found own
  | @edited _ _ edit _ fields _ found accepted run node =>
      refine capped_repo capped (ProjectRepo.State.step_moved run) fun doc wrote own => ?_
      cases wrote with
      | @updated _ _ _ _ before stored tenant =>
          simp only [ProjectRepo.Write.fields, ProjectRepo.ProjectFields.set]
          rw [Edit.fields_maxConcurrentSessions accepted]
          cases requested : edit.requestedSessions with
          | none => exact capped _ (.stored stored) own
          | some sessions => exact within (tenant.symm.trans own) found sessions requested
  | stored quiet run node =>
      refine capped_repo capped (ProjectRepo.State.step_moved run) fun doc wrote own => ?_
      cases wrote <;> cases quiet
  | connected holds repo run => exact unchanged repo
  | managed quiet repo run => exact unchanged repo

theorem withinPlan_moved {platform next : Platform} {event : PlatformEvent} {tenantId : String}
    (sound : Sound platform) (capped : Capped plan tenantId platform)
    (within : WithinPlan plan tenantId platform) (moved : Moved plan platform event next) :
    WithinPlan plan tenantId next := by
  intro projectId doc stored own
  have before : AllowedBy (plan tenantId) (platform.node.projectSessionCount projectId) := by
    rcases stored_before sound moved stored with ⟨before, found, same⟩ | empty
    · exact within projectId before found (same.trans own)
    · exact fun limit _ => empty ▸ Nat.zero_le limit
  rcases sessionCount_moved sound.formed moved projectId with less | ⟨config, holds, rfl, repo, most⟩
  · exact before.mono less
  · obtain ⟨owner, found, tenant⟩ := sound.owned config holds
    rw [repo] at stored
    cases Option.some.inj (stored.symm.trans found)
    exact (capped config holds (tenant.symm.trans own)).mono most

/-- While the tenant's requests ask for no more sessions than its plan allows, no project
of it ever has more. -/
theorem withinPlan_of_requestsWithin (plan : String → Plan) (tenantId : String) (now : Instant)
    (clock : Clock) (events : List PlatformEvent)
    (within : Along (step plan) (RequestsWithin plan tenantId) (initial now clock) events) :
    Always (step plan) (WithinPlan plan tenantId) (initial now clock) events := by
  have always : Always (step plan) (fun platform => Sound platform ∧
      Capped plan tenantId platform ∧ WithinPlan plan tenantId platform)
      (initial now clock) events := by
    refine always_of_along _ ?_ ⟨sound_initial now clock, ?_, ?_⟩ within
    · rintro platform event next ⟨sound, capped, held⟩ met run
      have moved := step_moved run
      exact ⟨sound_moved sound moved, capped_moved capped met moved,
        withinPlan_moved sound capped held moved⟩
    · intro config holds
      cases holds with
      | stored found => cases found
      | cached listed => cases listed
      | read member carries => cases member
    · intro projectId doc stored
      cases stored
  exact always.mono fun platform held => held.2.2

/-- A configuration above the limit is harmful as soon as the limit is reached: the next
handshake with a new session id exceeds it. -/
theorem exceeded_by_connect {platform : Platform} (formed : platform.node.Formed)
    {index limit : Nat} {read : ProjectRepo.ReadCall} {project : ProjectConfig}
    {sessionId : String} (apiKeyId : String) (found : platform.repo.reads[index]? = some read)
    (phase : read.phase = .returned (some project)) (waiting : index ∉ platform.connected)
    (free : platform.node.sessions.lookup sessionId = none)
    (reached : platform.node.projectSessionCount project.projectId = limit)
    (above : limit < project.maxConcurrentSessions) :
    ∃ next, platform.step plan (.connect index sessionId apiKeyId) = some next ∧
      limit < next.node.projectSessionCount project.projectId := by
  obtain ⟨projectId, tenantId, floor, _⟩ := read
  cases phase
  have creates : platform.node.Creates sessionId project := ⟨free, reached.symm ▸ above⟩
  have grown := Node.projectSessionCount_created formed apiKeyId creates project.projectId
  rw [if_pos rfl] at grown
  let next : Platform :=
    { platform.withNode (platform.node.getOrCreate sessionId project apiKeyId) with
      connected := index :: platform.connected }
  refine ⟨next, ?_, ?_⟩
  · simp only [step, found, waiting, if_false, Node.step, Option.map_some]
    rfl
  · simp only [next, withNode]
    omega

def sampleRequest (sessions : Nat) (range : 1 ≤ sessions ∧ sessions ≤ 500) :
    CreateProjectRequest where
  name := "bot"
  systemPrompt := "be kind"
  maxConcurrentSessions := sessions
  nameLength := by decide
  descriptionLength := by decide
  systemPromptLength := by decide
  geminiModelSupported := by decide
  sessionTtlRange := by decide
  maxConcurrentRange := range
  rateLimitRange := by decide

def threeClients (body : CreateProjectRequest) : List PlatformEvent :=
  [.createProject "t" body, .insertProject 0 "p",
    .store (.getConfig "p" "t"), .store (.redisGet 0), .store (.findOne 0), .store (.redisSet 0),
    .connect 0 "a" "key",
    .store (.getConfig "p" "t"), .store (.redisGet 1), .connect 1 "b" "key",
    .store (.getConfig "p" "t"), .store (.redisGet 2), .connect 2 "c" "key"]

theorem withinPlan_two : Always (step fun _ => .free) (WithinPlan (fun _ => .free) "t")
    (initial 0 ⟨0, 0⟩) (threeClients (sampleRequest 2 (by decide))) :=
  withinPlan_of_requestsWithin (fun _ => .free) "t" 0 ⟨0, 0⟩ _ (by decide)

/-- The default of ten lets the third client of a free project in. -/
theorem withinPlan_fails :
    ¬ ∀ (plan : String → Plan) (tenantId : String) (now : Instant) (clock : Clock)
      (events : List PlatformEvent),
      Always (step plan) (WithinPlan plan tenantId) (initial now clock) events := by
  intro always
  let events := threeClients (sampleRequest 10 (by decide))
  have shape : (exec (step fun _ => .free) (initial 0 ⟨0, 0⟩) events).map (fun platform =>
      ((platform.repo.store.projects.lookup "p").map ProjectDoc.tenantId,
        platform.node.projectSessionCount "p")) = some (some "t", 3) := by decide
  obtain ⟨final, run, facts⟩ := Option.map_eq_some_iff.mp shape
  obtain ⟨owner, count⟩ := Prod.mk.inj facts
  obtain ⟨doc, stored, own⟩ := Option.map_eq_some_iff.mp owner
  have within := (always (fun _ => .free) "t" 0 ⟨0, 0⟩ events).last run "p" doc stored own
  rw [count] at within
  exact absurd within (by decide)

end Platform

end LiveChat.Api
