import LiveChat.Api.RestSteps

/-!
# What every stored document keeps

A property of documents that each insertion gives and each write keeps, and a property of
tools arrays that each tool request keeps.  The arrays that calls have computed and not yet
written have to be followed as well: each was computed from an array read earlier.
-/

set_option autoImplicit false

namespace LiveChat.Api

open LiveChat.Core
open LiveChat.Foundation
open LiveChat.Repositories
open LiveChat.Repositories.ProjectRepo (Write)
open LiveChat.Repositories.ProjectRepo.State (Holds)
open LiveChat.Api.Projects
open LiveChat.Api.Tools (ToolRequest)

/-- The tools that the call is about to write. -/
def RestPhase.writtenTools : RestPhase → Option (List ToolDefinition)
  | .writing (.updateProject _ _ write _) => write.fields.tools
  | _ => none

/-- What the tool request of a call makes of good tools is good. -/
def RestCall.KeepsGood (good : List ToolDefinition → Prop) (call : RestCall) : Prop :=
  ∀ projectId request tools next, call.request = .tool projectId request →
    ToolRequest.run call.tenant.plan projectId tools request = .ok next → good tools → good next

namespace Rest

variable {hasher : AuthTokenRepo.PasswordHasher}

def Stocks (mine : String → Prop) (good : ProjectDoc → Prop) (rest : Rest) : Prop :=
  ∀ projectId doc, rest.repo.store.projects.lookup projectId = some doc →
    mine doc.tenantId → good doc

theorem stocks_initial (mine : String → Prop) (good : ProjectDoc → Prop) (now : Instant) :
    Stocks mine good (initial now) := by
  intro projectId doc stored
  cases stored

section
variable {mine : String → Prop} {good : ProjectDoc → Prop}

theorem stocks_moved {rest next : Rest} {event : RestEvent} (stocks : rest.Stocks mine good)
    (inserts : ∀ call ∈ rest.calls, mine call.tenant.id → ∀ body now id,
      call.phase = .writing (.insertProject body now) →
        good (newProject call.tenant.id call.tenant.plan body id now))
    (writes : ∀ call ∈ rest.calls, mine call.tenant.id → ∀ projectId basis write updatedAt,
      call.phase = .writing (.updateProject projectId basis write updatedAt) →
        ∀ doc, good doc → good (write.fields.set updatedAt doc))
    (moved : Moved hasher rest event next) : next.Stocks mine good := by
  intro projectId doc stored own
  cases moved with
  | @insertedProject index call random body now repo found writing run =>
      cases ProjectRepo.State.step_moved run with
      | created free =>
          rcases ProjectRepo.State.lookup_put stored with ⟨_, rfl⟩ | old
          · exact inserts call (List.mem_of_getElem? found) own body now random.id writing
          · exact stocks projectId doc old own
  | @updatedProject index call random changedId basis write updatedAt repo found writing run =>
      cases ProjectRepo.State.step_moved run with
      | unmodified => exact stocks projectId doc stored own
      | wrote changed =>
          rcases ProjectRepo.State.lookup_put stored with ⟨_, rfl⟩ | old
          · obtain ⟨before, found', tenant, rfl⟩ := ProjectRepo.State.modified_some changed
            have owner : mine call.tenant.id := tenant ▸ own
            exact writes call (List.mem_of_getElem? found) owner changedId basis write updatedAt
              writing before (stocks changedId before found' own)
          · exact stocks projectId doc old own
  | stored quiet run =>
      refine stocks projectId doc ?_ own
      rw [← projects_quiet quiet run]
      exact stored
  | _ => exact stocks projectId doc stored own

/-- Every configuration in the collection, the cache or a call was built from a good document. -/
theorem held_moved {good : ProjectConfig → Prop} {rest next : Rest} {event : RestEvent}
    (held : ∀ config, Holds rest.repo config → mine config.tenantId → good config)
    (stocks : next.Stocks mine fun doc => good doc.toProjectConfig)
    (moved : Moved hasher rest event next) :
    ∀ config, Holds next.repo config → mine config.tenantId → good config := by
  intro config holds own
  cases moved with
  | insertedProject found writing run =>
      have repoMoved := ProjectRepo.State.step_moved run
      rcases ProjectRepo.State.config_source repoMoved holds with old | ⟨doc, wrote, rfl⟩
      · exact held config old own
      · cases wrote with
        | created free =>
            cases repoMoved with
            | created free => exact stocks _ _ (AList.lookup_insert _) own
  | updatedProject found writing run =>
      have repoMoved := ProjectRepo.State.step_moved run
      rcases ProjectRepo.State.config_source repoMoved holds with old | ⟨doc, wrote, rfl⟩
      · exact held config old own
      · cases wrote with
        | updated stored owner => exact stocks _ _ (lookup_updated stored owner run) own
  | stored quiet run =>
      rcases ProjectRepo.State.config_source (ProjectRepo.State.step_moved run) holds with
        old | ⟨doc, wrote, rfl⟩
      · exact held config old own
      · cases wrote <;> cases quiet
  | _ => exact held config holds own

theorem held_initial (mine : String → Prop) (good : ProjectConfig → Prop) (now : Instant) :
    ∀ config, Holds (initial now).repo config → mine config.tenantId → good config := by
  intro config holds
  cases holds with
  | stored found => cases found
  | cached listed => cases listed
  | read member carries => cases member

end

section
variable {mine : String → Prop} {good : List ToolDefinition → Prop}

/-- The tools arrays of these tenants are good, the stored ones and those about to be. -/
structure KeepsTools (mine : String → Prop) (good : List ToolDefinition → Prop) (rest : Rest) :
    Prop where
  stored : rest.Stocks mine fun doc => good doc.tools
  pending : ∀ call ∈ rest.calls, mine call.tenant.id →
    ∀ tools ∈ call.phase.writtenTools, good tools

theorem keepsTools_initial (mine : String → Prop) (good : List ToolDefinition → Prop)
    (now : Instant) : KeepsTools mine good (initial now) :=
  ⟨stocks_initial mine _ now, fun _ member => absurd member List.not_mem_nil⟩

theorem writtenTools_checked {rest : Rest} (sound : Sound rest) (keeps : rest.KeepsTools mine good)
    {call : RestCall} (member : call ∈ rest.calls) (own : mine call.tenant.id)
    (runs : call.KeepsGood good) {pending : Pending}
    (accepted : call.request.check rest.repo.store call.tenant = .ok pending) :
    ∀ tools ∈ (RestPhase.writing pending).writtenTools, good tools := by
  intro tools given
  obtain ⟨tenant, request, phase⟩ := call
  cases check_computes accepted with
  | edit read computed =>
      rw [RestPhase.writtenTools, ProjectRepo.Write.fields,
        (Edit.bounded_fields computed).tools] at given
      cases given
  | @tool _ toolRequest doc _ read ran =>
      cases given
      obtain ⟨stored, scope⟩ := getById_some read
      have tenantId : doc.tenantId = tenant.id := scope (sound.named _ member)
      exact runs _ toolRequest doc.tools tools rfl ran
        (keeps.stored _ doc stored (tenantId ▸ own))
  | _ => cases given

theorem pending_setCall {rest : Rest} (keeps : rest.KeepsTools mine good) {index : Nat}
    {phase : RestPhase}
    (new : ∀ call, rest.calls[index]? = some call → mine call.tenant.id →
      ∀ tools ∈ phase.writtenTools, good tools) :
    ∀ call ∈ (rest.setCall index phase).calls, mine call.tenant.id →
      ∀ tools ∈ call.phase.writtenTools, good tools :=
  Places.forall_modify keeps.pending new

theorem keepsTools_moved {rest next : Rest} {event : RestEvent} (sound : Sound rest)
    (keeps : rest.KeepsTools mine good) (empty : good [])
    (runs : ∀ call ∈ rest.calls, mine call.tenant.id → call.phase = .reading →
      call.KeepsGood good)
    (moved : Moved hasher rest event next) : next.KeepsTools mine good := by
  -- a call that is answered writes no tools any more
  have answered : ∀ {index : Nat} {phase : RestPhase}, phase.writtenTools = none →
      ∀ call ∈ (rest.setCall index phase).calls, mine call.tenant.id →
        ∀ tools ∈ call.phase.writtenTools, good tools := by
    intro index phase nothing
    refine pending_setCall keeps fun call found own tools given => ?_
    cases nothing.symm.trans given
  constructor
  · refine stocks_moved keeps.stored ?_ ?_ moved
    · intro call member own body now id writing
      exact empty
    · intro call member own projectId basis write updatedAt writing doc held
      cases given : write.fields.tools with
      | none => simpa only [ProjectRepo.ProjectFields.set, given, Option.getD_none] using held
      | some tools =>
          simp only [ProjectRepo.ProjectFields.set, given, Option.getD_some]
          refine keeps.pending call member own tools ?_
          rw [writing]
          exact given
  · cases moved with
    | authenticated found active =>
        intro call member own
        rcases List.mem_append.mp member with old | new
        · exact keeps.pending call old own
        · cases List.mem_singleton.mp new
          intro tools given
          cases given
    | checked found reading answer =>
        rcases answer with ⟨refusal, rfl⟩ | ⟨pending, rfl, accepted⟩
        · exact answered rfl
        · refine pending_setCall keeps fun call there own => ?_
          cases Option.some.inj (found.symm.trans there)
          have member := List.mem_of_getElem? found
          exact writtenTools_checked sound keeps member own (runs _ member own reading) accepted
    | insertedProject found writing run => exact answered rfl
    | updatedProject found writing run => exact answered rfl
    | insertedKey found writing fresh => exact answered rfl
    | revokedKey found writing answer =>
        refine answered ?_
        rw [answer]
        split <;> rfl
    | _ => exact keeps.pending

end

end Rest

end LiveChat.Api
