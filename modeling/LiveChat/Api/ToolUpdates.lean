import LiveChat.Foundation.SerialOrder
import LiveChat.Api.RestSteps

/-!
# Concurrent changes of a project's tools

`add_tool`, `update_tool` and `delete_tool` read the project and write the whole tools
array.  The theorem says when the outcome of any number of overlapping requests is that of
a serial order: when each write finds the array that its request read.
-/

set_option autoImplicit false

namespace LiveChat.Api

open LiveChat.Core
open LiveChat.Core.PlanLimits (Plan)
open LiveChat.Foundation
open LiveChat.Foundation.TransitionSystem
open LiveChat.Repositories
open LiveChat.Repositories.ProjectRepo (RepoEvent Write)
open LiveChat.Api.Projects
open LiveChat.Api.Tools (ToolRequest Declares)

/-! ## What the handlers write -/

theorem check_tool {store : ProjectRepo.Store} {tenant : TenantDoc} {projectId : String}
    {request : ToolRequest} {pending : Pending}
    (accepted : (RestRequest.tool projectId request).check store tenant = .ok pending) :
    ∃ doc tools, pending = .updateProject projectId doc (.setTools tools) store.now ∧
      request.run tenant.plan projectId doc.tools = .ok tools := by
  cases check_computes accepted with
  | tool read ran => exact ⟨_, _, rfl, ran⟩

theorem check_noTool {store : ProjectRepo.Store} {tenant : TenantDoc} {request : RestRequest}
    {projectId : String} {basis : ProjectDoc} {write : Write} {updatedAt : Instant}
    (noTool : ∀ other tool, request ≠ .tool other tool)
    (accepted : request.check store tenant =
      .ok (.updateProject projectId basis write updatedAt)) : write.fields.tools = none := by
  cases check_computes accepted with
  | edit read computed => exact (Edit.bounded_fields computed).tools
  | deleteProject read => rfl
  | tool read ran => exact absurd rfl (noTool _ _)

/-! ## Successful requests -/

/-- A tool request on the project whose write was executed; it is answered 201, 200 or 204. -/
def RestCall.toolSuccess (projectId : String) (call : RestCall) : Option (Plan × ToolRequest) :=
  match call.phase, call.request with
  | .written, .tool other request =>
      if other = projectId then some (call.tenant.plan, request) else none
  | _, _ => none

/-- The project and the tools that the call read and is about to replace. -/
def RestCall.replaces (call : RestCall) : Option (String × List ToolDefinition) :=
  match call.phase with
  | .writing (.updateProject projectId basis (.setTools _) _) => some (projectId, basis.tools)
  | _ => none

/-- One request after the other, each with the plan of its tenant. -/
def runTool (projectId : String) (tools : List ToolDefinition) (request : Plan × ToolRequest) :
    Except HTTPException (List ToolDefinition) :=
  request.2.run request.1 projectId tools

namespace Rest

variable {hasher : AuthTokenRepo.PasswordHasher}

def toolSuccesses (rest : Rest) (projectId : String) : List (Plan × ToolRequest) :=
  rest.calls.filterMap (RestCall.toolSuccess projectId)

/-- The tools of the project are the result of its successful requests in some serial
order; what was added and not deleted is there. -/
structure ToolsSerial (projectId : String) (rest : Rest) : Prop where
  serial : ∀ doc, rest.repo.store.projects.lookup projectId = some doc →
    SerialOrder.ResultOf (runTool projectId) [] (rest.toolSuccesses projectId) doc.tools
  present : ∀ doc, rest.repo.store.projects.lookup projectId = some doc →
    ∀ plan body, (plan, .add body) ∈ rest.toolSuccesses projectId →
      (∀ other, (other, .delete body.name) ∉ rest.toolSuccesses projectId) →
        Declares body.name doc.tools

/-- A tool request writes when the project has the tools that the request read. -/
def WritesCurrent (rest : Rest) : RestEvent → Prop
  | .write index _ => ∀ call ∈ rest.calls[index]?, ∀ read ∈ RestCall.replaces call,
      ∀ doc ∈ rest.repo.store.projects.lookup read.1, ProjectDoc.tools doc = read.2
  | _ => True

instance (rest : Rest) : (event : RestEvent) → Decidable (rest.WritesCurrent event)
  | .write index _ => inferInstanceAs (Decidable (∀ call ∈ rest.calls[index]?,
      ∀ read ∈ RestCall.replaces call, ∀ doc ∈ rest.repo.store.projects.lookup read.1,
        ProjectDoc.tools doc = read.2))
  | .register .. | .changeTenant .. | .authenticate .. | .read _ | .repo _ => isTrue trivial

theorem toolsSerial_of_serial {rest : Rest} {projectId : String}
    (serial : ∀ doc, rest.repo.store.projects.lookup projectId = some doc →
      SerialOrder.ResultOf (runTool projectId) [] (rest.toolSuccesses projectId) doc.tools) :
    rest.ToolsSerial projectId := by
  refine ⟨serial, fun doc stored plan body added undeleted => ?_⟩
  refine (serial doc stored).establishes added (fun tools next ran => Tools.addTool_declares ran) ?_
  intro request member tools next declared ran
  refine Tools.run_keeps ?_ ran declared
  rintro deletes
  exact undeleted request.1 (by rw [← deletes]; exact member)

theorem toolSuccesses_missing {rest : Rest} (sound : rest.Sound) {projectId : String}
    (missing : rest.repo.store.projects.lookup projectId = none) :
    rest.toolSuccesses projectId = [] := by
  refine List.filterMap_eq_nil_iff.mpr fun call member => ?_
  unfold RestCall.toolSuccess
  split
  · rename_i other request phase about
    split
    · rename_i same
      subst same
      have accepted : call.phase.isAccepted = true := by rw [phase]; rfl
      obtain ⟨doc, stored, _⟩ := sound.placed call member accepted other (by rw [about]; rfl)
      cases missing.symm.trans stored
    · rfl
  · rfl

theorem toolSuccess_of_phase {call : RestCall} (projectId : String)
    (unwritten : call.phase ≠ .written) : call.toolSuccess projectId = none := by
  unfold RestCall.toolSuccess
  split
  · rename_i written _
    exact absurd written unwritten
  · rfl

theorem toolSuccess_of_request {call : RestCall} (projectId : String)
    (noTool : ∀ request, call.request ≠ .tool projectId request) :
    call.toolSuccess projectId = none := by
  unfold RestCall.toolSuccess
  split
  · rename_i other request _ about
    split
    · rename_i same
      subst same
      exact absurd about (noTool request)
    · rfl
  · rfl

theorem toolSuccesses_setCall {rest : Rest} {index : Nat} {call : RestCall} {projectId : String}
    (phase : RestPhase) (found : rest.calls[index]? = some call)
    (noTool : ∀ request, call.request ≠ .tool projectId request) :
    (rest.setCall index phase).toolSuccesses projectId = rest.toolSuccesses projectId := by
  refine Places.filterMap_modify_same found ?_
  rw [toolSuccess_of_request projectId noTool]
  exact toolSuccess_of_request projectId noTool

theorem serial_updated {rest : Rest} (sound : rest.Sound) {projectId : String}
    (serial : rest.ToolsSerial projectId) {index : Nat} {call : RestCall}
    {random : APIKeyRepo.Random} {changedId : String} {basis : ProjectDoc} {write : Write}
    {updatedAt : Instant} {repo : ProjectRepo.State} (found : rest.calls[index]? = some call)
    (writing : call.phase = .writing (.updateProject changedId basis write updatedAt))
    (current : rest.WritesCurrent (.write index random))
    (run : rest.repo.step (.updateOne changedId call.tenant.id write updatedAt) = some repo) :
    ((rest.withRepo repo).setCall index .written).ToolsSerial projectId := by
  have member := List.mem_of_getElem? found
  obtain ⟨store, accepted⟩ := sound.checked call member _ writing
  have about := (check_ok accepted).2 changedId rfl
  obtain ⟨doc, stored, own⟩ := sound.placed call member (by rw [writing]; rfl) changedId about
  have stored' := lookup_updated stored own run
  have tools : (write.fields.set updatedAt doc).tools = write.fields.tools.getD doc.tools := rfl
  have untouched : (∀ request, call.request ≠ .tool projectId request) →
      ((rest.withRepo repo).setCall index .written).toolSuccesses projectId =
        rest.toolSuccesses projectId :=
    fun noTool => toolSuccesses_setCall .written found noTool
  refine toolsSerial_of_serial fun last found' => ?_
  have last' : repo.store.projects.lookup projectId = some last := found'
  by_cases same : projectId = changedId
  · subst same
    cases Option.some.inj (stored'.symm.trans last')
    by_cases tool : ∃ request, call.request = .tool projectId request
    · obtain ⟨request, isTool⟩ := tool
      rw [isTool] at accepted
      obtain ⟨read, computed, shape, ran⟩ := check_tool accepted
      cases shape
      -- the write replaces the tools that the request read
      have basisTools : doc.tools = basis.tools := by
        refine current call found (projectId, basis.tools) ?_ doc stored
        simp only [RestCall.replaces, writing, Option.mem_def]
      have next : runTool projectId doc.tools (call.tenant.plan, request) = .ok computed := by
        rw [basisTools]
        exact ran
      refine ((serial.serial doc stored).next next).perm (List.Perm.symm ?_)
      refine Places.filterMap_modify_new found (toolSuccess_of_phase projectId ?_) ?_
      · rw [writing]
        nofun
      · simp [RestCall.toolSuccess, isTool]
    · have noTool : ∀ other request, call.request ≠ .tool other request := by
        intro other request is
        rw [is] at about
        cases about
        exact tool ⟨request, is⟩
      rw [untouched (noTool projectId), tools, check_noTool noTool accepted]
      exact serial.serial doc stored
  · have noTool : ∀ request, call.request ≠ .tool projectId request := by
      intro request is
      rw [is] at about
      cases about
      exact same rfl
    rw [lookup_updateOne same run] at last'
    rw [untouched noTool]
    exact serial.serial last last'

theorem serial_kept {rest next : Rest} {projectId : String} (serial : rest.ToolsSerial projectId)
    (store : next.repo.store.projects = rest.repo.store.projects)
    (successes : next.toolSuccesses projectId = rest.toolSuccesses projectId) :
    next.ToolsSerial projectId := by
  refine toolsSerial_of_serial fun doc stored => ?_
  rw [store] at stored
  rw [successes]
  exact serial.serial doc stored

theorem noTool_of_pending {store : ProjectRepo.Store} {tenant : TenantDoc} {request : RestRequest}
    {pending : Pending} (accepted : request.check store tenant = .ok pending)
    (noUpdate : ∀ projectId basis write updatedAt,
      pending ≠ .updateProject projectId basis write updatedAt) (projectId : String)
    (tool : ToolRequest) : request ≠ .tool projectId tool := by
  rintro rfl
  obtain ⟨doc, tools, shape, _⟩ := check_tool accepted
  exact noUpdate _ _ _ _ shape

theorem serial_moved {rest next : Rest} {event : RestEvent} (sound : rest.Sound)
    {projectId : String} (serial : rest.ToolsSerial projectId) (current : rest.WritesCurrent event)
    (moved : Moved hasher rest event next) : next.ToolsSerial projectId := by
  -- a call about to do something else than an update is no tool request
  have noTool : ∀ (index : Nat) (call : RestCall) (pending : Pending),
      rest.calls[index]? = some call → call.phase = .writing pending →
      (∀ projectId basis write updatedAt,
        pending ≠ .updateProject projectId basis write updatedAt) →
      ∀ tool, call.request ≠ .tool projectId tool := by
    intro index call pending found writing noUpdate
    obtain ⟨store, accepted⟩ := sound.checked call (List.mem_of_getElem? found) pending writing
    exact noTool_of_pending accepted noUpdate projectId
  cases moved with
  | refused => exact serial
  | changedTenants identified => exact serial_kept serial rfl rfl
  | authenticated found active =>
      refine serial_kept serial rfl ?_
      simp [toolSuccesses, RestCall.toolSuccess]
  | @checked index call phase found reading answer =>
      refine serial_kept serial rfl (Places.filterMap_modify_same found ?_)
      have unwritten : phase ≠ .written := by
        rcases answer with ⟨_, rfl⟩ | ⟨_, rfl, _⟩ <;> nofun
      have before : call.toolSuccess projectId = none :=
        toolSuccess_of_phase projectId (by rw [reading]; nofun)
      have after : ({ call with phase := phase } : RestCall).toolSuccess projectId = none :=
        toolSuccess_of_phase projectId unwritten
      exact after.trans before.symm
  | @insertedProject index call random body now repo found writing run =>
      have successes : ((rest.withRepo repo).setCall index .written).toolSuccesses projectId =
          rest.toolSuccesses projectId :=
        toolSuccesses_setCall .written found (noTool index call _ found writing fun _ _ _ _ same => by cases same)
      refine toolsSerial_of_serial fun doc stored => ?_
      rw [successes]
      cases ProjectRepo.State.step_moved run with
      | created free =>
          rcases ProjectRepo.State.lookup_put stored with ⟨rfl, rfl⟩ | old
          · rw [toolSuccesses_missing sound free]
            exact .nil []
          · exact serial.serial doc old
  | updatedProject found writing run =>
      exact serial_updated sound serial found writing current run
  | insertedKey found writing fresh =>
      exact serial_kept serial rfl
        (toolSuccesses_setCall .written found (noTool _ _ _ found writing fun _ _ _ _ same => by cases same))
  | @revokedKey _ _ _ _ phase found writing answer =>
      exact serial_kept serial rfl
        (toolSuccesses_setCall phase found (noTool _ _ _ found writing fun _ _ _ _ same => by cases same))
  | stored quiet run => exact serial_kept serial (projects_quiet quiet run) rfl

/-- While every tool request writes over the tools that it read, the tools of a project
are always those of a serial order of its successful requests. -/
theorem toolsSerial_of_writesCurrent (hasher : AuthTokenRepo.PasswordHasher) (now : Instant)
    (projectId : String) (events : List RestEvent)
    (current : Along (step hasher) WritesCurrent (initial now) events) :
    Always (step hasher) (ToolsSerial projectId) (initial now) events := by
  have always : Always (step hasher) (fun rest => rest.Sound ∧ rest.ToolsSerial projectId)
      (initial now) events := by
    refine always_of_along _ ?_ ⟨sound_initial now, toolsSerial_of_serial nofun⟩ current
    rintro rest event next ⟨sound, serial⟩ met run
    have moved := step_moved run
    exact ⟨sound_moved sound moved, serial_moved sound serial met moved⟩
  exact always.mono fun rest held => held.2

def sampleTool (name : String) (nameLength : 1 ≤ name.length ∧ name.length ≤ 64)
    (namePattern : Tools.isToolName name = true) : Tools.CreateToolRequest where
  name := name
  description := "Greets."
  parameters := [("type", .string "object")]
  staticResponse := some []
  nameLength := nameLength
  namePattern := namePattern
  descriptionLength := by decide
  timeoutRange := by decide
  parametersValid := by decide
  executionFields := by decide

def waveTool : Tools.CreateToolRequest := sampleTool "wave" (by decide) (by decide)

def nodTool : Tools.CreateToolRequest := sampleTool "nod" (by decide) (by decide)

def twoToolRequests : List RestEvent :=
  [.register "t" "Tenant" "t@example.com",
    .authenticate "t" (.createProject sampleProject), .read 0,
    .write 0 (sampleRandom "p"),
    .authenticate "t" (.tool "p" (.add waveTool)),
    .authenticate "t" (.tool "p" (.add nodTool))]

theorem toolsSerial_inTurn : Always (step AuthTokenRepo.plainHasher) (ToolsSerial "p") (initial 0)
    (twoToolRequests ++ [.read 1, .write 1 (sampleRandom ""), .read 2,
      .write 2 (sampleRandom "")]) :=
  toolsSerial_of_writesCurrent AuthTokenRepo.plainHasher 0 "p" _ (by decide)

/-- Both requests read the empty array, and the second write drops the first tool. -/
theorem toolsSerial_fails :
    ¬ ∀ (hasher : AuthTokenRepo.PasswordHasher) (now : Instant) (projectId : String)
      (events : List RestEvent),
      Always (step hasher) (ToolsSerial projectId) (initial now) events := by
  intro always
  let events := twoToolRequests ++
    [.read 1, .read 2, .write 1 (sampleRandom ""), .write 2 (sampleRandom "")]
  have shape : (exec (step AuthTokenRepo.plainHasher) (initial 0) events).map (fun rest =>
      (rest.repo.store.projects.lookup "p").map fun doc => doc.tools.map ToolDefinition.name) =
        some (some ["nod"]) := by decide
  have succeeded : (exec (step AuthTokenRepo.plainHasher) (initial 0) events).map (fun rest =>
      rest.toolSuccesses "p") =
        some [(.free, .add waveTool), (.free, .add nodTool)] := rfl
  obtain ⟨final, run, look⟩ := Option.map_eq_some_iff.mp shape
  obtain ⟨doc, stored, names⟩ := Option.map_eq_some_iff.mp look
  have successes : final.toolSuccesses "p" = [(.free, .add waveTool), (.free, .add nodTool)] := by
    rw [run] at succeeded
    exact Option.some.inj succeeded
  have serial := (always AuthTokenRepo.plainHasher 0 "p" events).last run
  have undeleted : ∀ other, (other, .delete "wave") ∉ final.toolSuccesses "p" := by
    intro other
    rw [successes]
    simp
  have declared := serial.present doc stored .free waveTool
    (by rw [successes]; exact List.mem_cons_self) undeleted
  rw [Declares, names] at declared
  exact absurd declared (by decide)

end Rest

end LiveChat.Api
