import LiveChat.Foundation.JsonText
import LiveChat.Foundation.SerialOrder
import LiveChat.Api.Projects

/-!
# Tool endpoints

`validate_tool_parameters`, the tool schemas of `api/projects.py` and what `add_tool`,
`update_tool` and `delete_tool` compute from the tools array they read: the error they
raise or the whole array they write.
-/

set_option autoImplicit false

namespace LiveChat.Api.Tools

open LiveChat.Core
open LiveChat.Core.PlanLimits
open LiveChat.Foundation
open LiveChat.Api.Projects (HTTPException)

/-! ## `validate_tool_parameters` -/

def VALID_PARAM_TYPES : List String :=
  ["array", "boolean", "integer", "number", "object", "string"]

inductive ParameterError where
  | valueError (message : String)
  /-- Membership of an unhashable value in a set. -/
  | typeError (message : String)
  deriving DecidableEq, Repr

def scalarText : Json → String
  | .string value => value
  | .bool true => "True"
  | .bool false => "False"
  | .number mantissa places => String.ofList (JsonText.reprNumber mantissa places)
  | .null | .array _ | .object _ => "None"

def checkProperty (propName : String) : Json → Except ParameterError Unit
  | .object propSchema =>
      let propType := (propSchema.lookup "type").getD .null
      if !propType.isTruthy then
        .error (.valueError ("Property \"" ++ propName ++ "\" is missing a \"type\" field."))
      else
        match propType with
        | .array _ => .error (.typeError "unhashable type: 'list'")
        | .object _ => .error (.typeError "unhashable type: 'dict'")
        | propType =>
            if propType ∉ VALID_PARAM_TYPES.map Json.string then
              .error (.valueError ("Property \"" ++ propName ++ "\" has unsupported type \"" ++
                scalarText propType ++ "\". Supported: ['array', 'boolean', 'integer', " ++
                "'number', 'object', 'string']."))
            else
              match propSchema.lookup "enum" with
              | none | some (.array (_ :: _)) => .ok ()
              | some _ =>
                  .error (.valueError ("Property \"" ++ propName ++
                    "\".enum must be a non-empty list."))
  | _ => .error (.valueError ("Property \"" ++ propName ++ "\" must be a JSON object."))

def checkRequired (properties : Json.Object) : Json → Except ParameterError Unit
  | .string name =>
      if (properties.lookup name).isSome then .ok ()
      else
        .error (.valueError ("Required field \"" ++ name ++ "\" not in parameters.properties."))
  | _ => .error (.valueError "Every entry in parameters.required must be a string.")

def validateToolParameters (parameters : Json.Object) : Except ParameterError Json.Object :=
  if parameters.lookup "type" ≠ some (.string "object") then
    .error (.valueError "parameters.type must be \"object\".")
  else
    match (parameters.lookup "properties").getD (.object []) with
    | .object properties =>
        match properties.forM fun entry => checkProperty entry.1 entry.2 with
        | .error refusal => .error refusal
        | .ok _ =>
            match (parameters.lookup "required").getD (.array []) with
            | .array required =>
                match required.forM (checkRequired properties) with
                | .error refusal => .error refusal
                | .ok _ => .ok parameters
            | _ => .error (.valueError "parameters.required must be a list of strings.")
    | _ => .error (.valueError "parameters.properties must be a JSON object.")

/-! ## Request bodies -/

/-- `^[a-z][a-z0-9_]*$`. -/
def isToolName (name : String) : Bool :=
  match name.toList with
  | [] => false
  | head :: tail =>
      decide ('a' ≤ head ∧ head ≤ 'z') && tail.all fun char =>
        decide ('a' ≤ char ∧ char ≤ 'z') || decide ('0' ≤ char ∧ char ≤ '9') || char == '_'

/-- `static_response is None` in static mode, or no `webhook_url` in webhook mode. -/
def lacksResponse (mode : ExecutionMode) (staticResponse : Option Json.Object)
    (webhookUrl : Option String) : Bool :=
  match mode with
  | .static => staticResponse.isNone
  | .webhook => webhookUrl.all fun url => url == ""

structure CreateToolRequest where
  name : String
  description : String
  parameters : Json.Object
  executionMode : ExecutionMode := .static
  staticResponse : Option Json.Object := none
  webhookUrl : Option String := none
  webhookSecret : Option String := none
  timeoutMs : Nat := 5000
  nameLength : 1 ≤ name.length ∧ name.length ≤ 64
  namePattern : isToolName name = true
  descriptionLength : 1 ≤ description.length ∧ description.length ≤ 1000
  timeoutRange : 100 ≤ timeoutMs ∧ timeoutMs ≤ 30000
  parametersValid : validateToolParameters parameters = .ok parameters
  executionFields : lacksResponse executionMode staticResponse webhookUrl = false

structure UpdateToolRequest where
  description : Option String := none
  parameters : Option Json.Object := none
  executionMode : Option ExecutionMode := none
  staticResponse : Option Json.Object := none
  webhookUrl : Option String := none
  webhookSecret : Option String := none
  timeoutMs : Option Nat := none
  descriptionLength : ∀ value ∈ description, 1 ≤ value.length ∧ value.length ≤ 1000
  timeoutRange : ∀ value ∈ timeoutMs, 100 ≤ value ∧ value ≤ 30000
  parametersValid : ∀ value ∈ parameters, validateToolParameters value = .ok value

/-! ## The handlers -/

def toolExists (name : String) : HTTPException :=
  { statusCode := 409, detail := "A tool named '" ++ name ++ "' already exists in this project." }

def toolLimitReached (plan : Plan) : HTTPException :=
  let limit := match maxToolsPerProject plan with
    | none => "None"
    | some limit => toString limit
  { statusCode := 403
    detail := "Your " ++ plan.name ++ " plan allows a maximum of " ++ limit ++
      " tool(s) per project. Upgrade your plan to add more tools." }

def toolNotFound (toolName projectId : String) : HTTPException :=
  { statusCode := 404
    detail := "Tool '" ++ toolName ++ "' not found in project '" ++ projectId ++ "'." }

/-- The two texts of the last check of `update_tool`. -/
def responseRequired : ExecutionMode → HTTPException
  | .static =>
      { statusCode := 422
        detail := "static_response required when execution_mode is \"static\"." }
  | .webhook =>
      { statusCode := 422
        detail := "webhook_url required when execution_mode is \"webhook\"." }

/-- `ToolDefinition(...)` of `add_tool`, with the timeout that the plan leaves. -/
def CreateToolRequest.definition (plan : Plan) (body : CreateToolRequest) : ToolDefinition :=
  { name := body.name
    description := body.description
    parameters := body.parameters
    executionMode := body.executionMode
    staticResponse := body.staticResponse
    webhookUrl := body.webhookUrl
    webhookSecret := body.webhookSecret
    timeoutMs := effectiveWebhookTimeoutMs plan body.timeoutMs }

def addTool (plan : Plan) (body : CreateToolRequest) (tools : List ToolDefinition) :
    Except HTTPException (List ToolDefinition) :=
  if tools.any fun tool => tool.name == body.name then .error (toolExists body.name)
  else if !isWithinToolLimit plan tools.length then .error (toolLimitReached plan)
  else .ok (tools ++ [body.definition plan])

/-- `updated_fields`, the stored tool with the given fields replaced. -/
def UpdateToolRequest.merge (body : UpdateToolRequest) (plan : Plan) (existing : ToolDefinition) :
    ToolDefinition :=
  { existing with
    description := body.description.getD existing.description
    parameters := body.parameters.getD existing.parameters
    executionMode := body.executionMode.getD existing.executionMode
    staticResponse := body.staticResponse <|> existing.staticResponse
    webhookUrl := body.webhookUrl <|> existing.webhookUrl
    webhookSecret := body.webhookSecret <|> existing.webhookSecret
    timeoutMs := (body.timeoutMs.map (effectiveWebhookTimeoutMs plan)).getD existing.timeoutMs }

def updateTool (plan : Plan) (projectId toolName : String) (body : UpdateToolRequest)
    (tools : List ToolDefinition) : Except HTTPException (List ToolDefinition) :=
  match tools.findIdx? fun tool => tool.name == toolName with
  | none => .error (toolNotFound toolName projectId)
  | some index =>
      match tools[index]? with
      | none => .error (toolNotFound toolName projectId)
      | some existing =>
          let updated := body.merge plan existing
          if lacksResponse updated.executionMode updated.staticResponse updated.webhookUrl then
            .error (responseRequired updated.executionMode)
          else .ok (tools.set index updated)

def deleteTool (projectId toolName : String) (tools : List ToolDefinition) :
    Except HTTPException (List ToolDefinition) :=
  let newTools := tools.filter fun tool => tool.name != toolName
  if newTools.length = tools.length then .error (toolNotFound toolName projectId)
  else .ok newTools

inductive ToolRequest where
  | add (body : CreateToolRequest)
  | update (toolName : String) (body : UpdateToolRequest)
  | delete (toolName : String)

/-- The tools that the handler passes to `set_tools`. -/
def ToolRequest.run (plan : Plan) (projectId : String) (tools : List ToolDefinition) :
    ToolRequest → Except HTTPException (List ToolDefinition)
  | .add body => addTool plan body tools
  | .update toolName body => updateTool plan projectId toolName body tools
  | .delete toolName => deleteTool projectId toolName tools

/-! ## What the requests do to the tools -/

/-- The arrays that the handlers compute, each with the checks that it passed. -/
inductive Ran (plan : Plan) (tools : List ToolDefinition) :
    ToolRequest → List ToolDefinition → Prop where
  | added {body : CreateToolRequest} (fresh : ∀ tool ∈ tools, tool.name ≠ body.name)
      (room : isWithinToolLimit plan tools.length = true) :
      Ran plan tools (.add body) (tools ++ [body.definition plan])
  | updated {toolName : String} {body : UpdateToolRequest} {index : Nat}
      {existing : ToolDefinition} (found : tools[index]? = some existing)
      (complete : lacksResponse (body.merge plan existing).executionMode
        (body.merge plan existing).staticResponse (body.merge plan existing).webhookUrl = false) :
      Ran plan tools (.update toolName body) (tools.set index (body.merge plan existing))
  | deleted {toolName : String} :
      Ran plan tools (.delete toolName) (tools.filter fun tool => tool.name != toolName)

theorem run_ran {plan : Plan} {projectId : String} {request : ToolRequest}
    {tools next : List ToolDefinition} (ran : request.run plan projectId tools = .ok next) :
    Ran plan tools request next := by
  cases request with
  | add body =>
      simp only [ToolRequest.run, addTool] at ran
      split at ran
      · cases ran
      · rename_i fresh
        split at ran
        · cases ran
        · rename_i room
          cases ran
          refine .added (fun tool member same => fresh ?_) (by simpa using room)
          exact List.any_eq_true.mpr ⟨tool, member, beq_iff_eq.mpr same⟩
  | update toolName body =>
      simp only [ToolRequest.run, updateTool] at ran
      split at ran
      · cases ran
      · split at ran
        · cases ran
        · rename_i found
          split at ran
          · cases ran
          · rename_i complete
            cases ran
            exact .updated found (Bool.eq_false_iff.mpr complete)
  | delete toolName =>
      simp only [ToolRequest.run, deleteTool] at ran
      split at ran
      · cases ran
      · cases ran
        exact .deleted

/-! ## What the requests do to the names -/

def Declares (name : String) (tools : List ToolDefinition) : Prop :=
  name ∈ tools.map ToolDefinition.name

theorem addTool_declares {plan : Plan} {body : CreateToolRequest} {tools next : List ToolDefinition}
    (added : addTool plan body tools = .ok next) : Declares body.name next := by
  simp only [addTool] at added
  split at added
  · cases added
  · split at added
    · cases added
    · cases added
      simp [Declares, CreateToolRequest.definition]

theorem merge_name (body : UpdateToolRequest) (plan : Plan) (existing : ToolDefinition) :
    (body.merge plan existing).name = existing.name := rfl

/-- The update writes a merged tool in the place of the one it was merged with, so no name moves. -/
theorem set_merge_names {plan : Plan} {body : UpdateToolRequest} {tools : List ToolDefinition}
    {index : Nat} {existing : ToolDefinition} (found : tools[index]? = some existing) :
    (tools.set index (body.merge plan existing)).map ToolDefinition.name =
      tools.map ToolDefinition.name := by
  obtain ⟨inside, here⟩ := List.getElem?_eq_some_iff.mp found
  have bound : index < (tools.map ToolDefinition.name).length := by simpa using inside
  have named : (tools.map ToolDefinition.name)[index] = existing.name := by
    rw [List.getElem_map, here]
  rw [List.map_set, merge_name, ← named, List.set_getElem_self]

theorem updateTool_names {plan : Plan} {projectId toolName : String} {body : UpdateToolRequest}
    {tools next : List ToolDefinition}
    (updated : updateTool plan projectId toolName body tools = .ok next) :
    next.map ToolDefinition.name = tools.map ToolDefinition.name := by
  have ran : (ToolRequest.update toolName body).run plan projectId tools = .ok next := updated
  cases run_ran ran with
  | updated found complete => exact set_merge_names found

/-- Only the deletion of its name takes a tool away. -/
theorem run_keeps {plan : Plan} {projectId name : String} {request : ToolRequest}
    {tools next : List ToolDefinition} (other : request ≠ .delete name)
    (ran : request.run plan projectId tools = .ok next) (declared : Declares name tools) :
    Declares name next := by
  cases run_ran ran with
  | added fresh room =>
      simp only [Declares, List.map_append, List.mem_append]
      exact Or.inl declared
  | updated found complete =>
      simp only [Declares, set_merge_names found]
      exact declared
  | @deleted toolName =>
      obtain ⟨tool, member, same⟩ := List.mem_map.mp declared
      have differs : tool.name ≠ toolName := by
        intro equal
        exact other (by rw [← equal, same])
      exact List.mem_map.mpr ⟨tool, List.mem_filter.mpr ⟨member, by simpa using differs⟩, same⟩

end LiveChat.Api.Tools
