import LiveChat.Core.ToolExecutor
import LiveChat.Api.StoredTools

/-!
# Stored tools can be called

The names of a project's tools are distinct, and each tool has what its mode needs.  The
tool executor, which looks a tool up by its name, then dispatches every declared name to the
declared tool, for every configuration that was ever built from a document.
-/

set_option autoImplicit false

namespace LiveChat.Api

open LiveChat.Core
open LiveChat.Core.PlanLimits (Plan)
open LiveChat.Core.ToolExecutor
open LiveChat.Foundation
open LiveChat.Foundation.TransitionSystem
open LiveChat.Repositories
open LiveChat.Repositories.ProjectRepo.State (Holds)
open LiveChat.Api.Projects
open LiveChat.Api.Tools

/-! ## Tools arrays -/

/-- The mode's response is there. -/
structure Complete (tool : ToolDefinition) : Prop where
  static : tool.executionMode = .static → tool.staticResponse.isSome = true
  webhook : tool.executionMode = .webhook → ∃ url ∈ tool.webhookUrl, url ≠ ""
  parameters : validateToolParameters tool.parameters = .ok tool.parameters

structure Callable (tools : List ToolDefinition) : Prop where
  distinct : (tools.map ToolDefinition.name).Nodup
  complete : ∀ tool ∈ tools, Complete tool

theorem complete_of_lacks {tool : ToolDefinition}
    (present : lacksResponse tool.executionMode tool.staticResponse tool.webhookUrl = false)
    (parameters : validateToolParameters tool.parameters = .ok tool.parameters) :
    Complete tool := by
  refine ⟨?_, ?_, parameters⟩
  · intro mode
    rw [mode] at present
    simpa [lacksResponse, Option.isSome_iff_ne_none] using present
  · intro mode
    rw [mode] at present
    cases given : tool.webhookUrl with
    | none => simp [lacksResponse, given] at present
    | some url =>
        refine ⟨url, rfl, ?_⟩
        simpa [lacksResponse, given] using present

theorem callable_nil : Callable [] :=
  ⟨List.nodup_nil, fun _ member => absurd member List.not_mem_nil⟩

theorem complete_added (plan : Plan) (body : CreateToolRequest) :
    Complete (body.definition plan) :=
  complete_of_lacks body.executionFields body.parametersValid

theorem complete_merged {plan : Plan} {body : UpdateToolRequest} {existing : ToolDefinition}
    (before : Complete existing)
    (present : lacksResponse (body.merge plan existing).executionMode
      (body.merge plan existing).staticResponse (body.merge plan existing).webhookUrl = false) :
    Complete (body.merge plan existing) := by
  refine complete_of_lacks present ?_
  simp only [UpdateToolRequest.merge]
  cases given : body.parameters with
  | none => exact before.parameters
  | some parameters => exact body.parametersValid parameters given

/-- Each tool request keeps the names distinct and the tools complete. -/
theorem run_callable {plan : Plan} {projectId : String} {request : ToolRequest}
    {tools next : List ToolDefinition} (ran : request.run plan projectId tools = .ok next)
    (callable : Callable tools) : Callable next := by
  cases run_ran ran with
  | @added body fresh room =>
      constructor
      · rw [List.map_append]
        refine List.Nodup.append callable.distinct (List.nodup_singleton _) ?_
        intro name old new
        obtain ⟨tool, member, rfl⟩ := List.mem_map.mp old
        exact fresh tool member (List.mem_singleton.mp new)
      · intro tool member
        rcases List.mem_append.mp member with old | new
        · exact callable.complete tool old
        · cases List.mem_singleton.mp new
          exact complete_added plan body
  | @updated toolName body index existing found present =>
      constructor
      · rw [updateTool_names ran]
        exact callable.distinct
      · intro tool member
        rcases List.mem_or_eq_of_mem_set member with old | rfl
        · exact callable.complete tool old
        · exact complete_merged (callable.complete existing (List.mem_of_getElem? found)) present
  | deleted =>
      constructor
      · exact callable.distinct.sublist ((List.filter_sublist).map _)
      · intro tool member
        exact callable.complete tool (List.mem_filter.mp member).1

/-! ## Dispatch -/

/-- Calling the tool by its name has the effect that its own mode asks for. -/
def Dispatches (project : ProjectConfig) (tool : ToolDefinition) : Prop :=
  ∀ (endpoint : Endpoint) (args : Json.Object) (sessionId : String) (callId : Option String),
    match tool.executionMode with
    | .static => ∃ response, tool.staticResponse = some response ∧
        execute endpoint project tool.name args sessionId callId = { result := .object response }
    | .webhook => ∃ url, tool.webhookUrl = some url ∧ url ≠ "" ∧
        execute endpoint project tool.name args sessionId callId =
          deliver endpoint project tool url args sessionId callId

theorem dispatches_of_callable {project : ProjectConfig} (callable : Callable project.tools)
    {tool : ToolDefinition} (declared : tool ∈ project.tools) : Dispatches project tool := by
  intro endpoint args sessionId callId
  have found := lookup_declared callable.distinct declared
  have complete := callable.complete tool declared
  have called : execute endpoint project tool.name args sessionId callId =
      executeTool endpoint project tool args sessionId callId := by
    rw [execute, found]
  rw [called, executeTool]
  cases mode : tool.executionMode with
  | static =>
      obtain ⟨response, given⟩ := Option.isSome_iff_exists.mp (complete.static mode)
      exact ⟨response, given, by simp only [executeStatic, given]⟩
  | webhook =>
      obtain ⟨url, given, named⟩ := complete.webhook mode
      exact ⟨url, given, named, by simp only [executeWebhook, Option.mem_def.mp given, named,
        if_false]⟩

/-! ## Runs -/

namespace Rest

/-- Every stored tools array can be called, and so can the tools of every configuration that
is stored, cached or on its way to a session. -/
structure ToolsUsable (rest : Rest) : Prop where
  stored : ∀ projectId doc, rest.repo.store.projects.lookup projectId = some doc →
    Callable doc.tools
  dispatched : ∀ config, Holds rest.repo config → ∀ tool ∈ config.tools, Dispatches config tool

theorem toolsUsable_always (hasher : AuthTokenRepo.PasswordHasher) (now : Instant)
    (events : List RestEvent) : Always (step hasher) ToolsUsable (initial now) events := by
  let all : String → Prop := fun _ => True
  let kept := fun rest : Rest => Sound rest ∧ rest.KeepsTools all Callable ∧
    ∀ config, Holds rest.repo config → all config.tenantId → Callable config.tools
  refine always_iff_reached.mpr fun front back rest _ run => ?_
  have held : kept rest := by
    refine exec_invariant kept ?_ ⟨sound_initial now, keepsTools_initial _ _ now,
      held_initial all _ now⟩ run
    rintro rest event next ⟨sound, keeps, held⟩ run
    have moved := step_moved run
    have keeps' : next.KeepsTools all Callable := by
      refine keepsTools_moved sound keeps callable_nil ?_ moved
      intro call member own _ projectId request before after _ ran callable
      exact run_callable ran callable
    exact ⟨sound_moved sound moved, keeps', held_moved held keeps'.stored moved⟩
  obtain ⟨_, keeps, held⟩ := held
  constructor
  · intro projectId doc stored
    exact keeps.stored projectId doc stored trivial
  · intro config holds tool declared
    exact dispatches_of_callable (held config holds trivial) declared

end Rest

end LiveChat.Api
