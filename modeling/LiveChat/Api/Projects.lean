import LiveChat.Core.PlanLimits
import LiveChat.Repositories.ProjectRepo

/-!
# Project endpoints

The request bodies of `api/projects.py`, as the schemas accept them, and what the
handlers of `create_project`, `update_project` and the sub-resource PUTs compute from
them: the error they raise, the document they insert or the fields they set.
-/

set_option autoImplicit false

namespace LiveChat.Api.Projects

open LiveChat.Core
open LiveChat.Core.PlanLimits
open LiveChat.Repositories.ProjectRepo

structure HTTPException where
  statusCode : Nat
  detail : String
  deriving DecidableEq, Repr

/-! ## Request bodies -/

def SUPPORTED_MODELS : List String :=
  ["gemini-2.5-flash-native-audio-preview-12-2025", "gemini-2.0-flash-live-001"]

structure VoiceConfigRequest where
  voiceName : String := "Kore"
  languageCode : String := "en-US"
  enabled : Bool := true
  languageCodeNonempty : languageCode ≠ "" := by decide

structure VADConfigRequest where
  mode : VADMode := .manual

structure CreateProjectRequest where
  name : String
  description : String := ""
  systemPrompt : String
  geminiModel : String := "gemini-2.5-flash-native-audio-preview-12-2025"
  voiceConfig : VoiceConfigRequest := {}
  vadConfig : VADConfigRequest := {}
  sessionTtlSeconds : Nat := 300
  maxConcurrentSessions : Nat := 10
  rateLimitRpm : Nat := 60
  webhookUrl : Option String := none
  webhookSecret : Option String := none
  allowedOrigins : List String := []
  nameLength : 1 ≤ name.length ∧ name.length ≤ 100
  descriptionLength : description.length ≤ 500
  systemPromptLength : 1 ≤ systemPrompt.length ∧ systemPrompt.length ≤ 32000
  geminiModelSupported : geminiModel ∈ SUPPORTED_MODELS
  sessionTtlRange : 30 ≤ sessionTtlSeconds ∧ sessionTtlSeconds ≤ 7200
  maxConcurrentRange : 1 ≤ maxConcurrentSessions ∧ maxConcurrentSessions ≤ 500
  rateLimitRange : 1 ≤ rateLimitRpm ∧ rateLimitRpm ≤ 1000

structure UpdateProjectRequest where
  name : Option String := none
  description : Option String := none
  systemPrompt : Option String := none
  geminiModel : Option String := none
  voiceConfig : Option VoiceConfigRequest := none
  vadConfig : Option VADConfigRequest := none
  sessionTtlSeconds : Option Nat := none
  maxConcurrentSessions : Option Nat := none
  rateLimitRpm : Option Nat := none
  webhookUrl : Option String := none
  webhookSecret : Option String := none
  allowedOrigins : Option (List String) := none
  nameLength : ∀ value ∈ name, 1 ≤ value.length ∧ value.length ≤ 100
  descriptionLength : ∀ value ∈ description, value.length ≤ 500
  systemPromptLength : ∀ value ∈ systemPrompt, 1 ≤ value.length ∧ value.length ≤ 32000
  geminiModelSupported : ∀ value ∈ geminiModel, value ∈ SUPPORTED_MODELS
  sessionTtlRange : ∀ value ∈ sessionTtlSeconds, 30 ≤ value ∧ value ≤ 7200
  maxConcurrentRange : ∀ value ∈ maxConcurrentSessions, 1 ≤ value ∧ value ≤ 500
  rateLimitRange : ∀ value ∈ rateLimitRpm, 1 ≤ value ∧ value ≤ 1000

structure SystemPromptRequest where
  systemPrompt : String
  systemPromptLength : 1 ≤ systemPrompt.length ∧ systemPrompt.length ≤ 32000

structure VoiceConfigUpdateRequest where
  voiceName : String := "Kore"
  languageCode : String := "en-US"
  enabled : Bool := true
  vadMode : VADMode := .manual
  voiceNameLength : 1 ≤ voiceName.length ∧ voiceName.length ≤ 64
  languageCodeLength : 2 ≤ languageCode.length ∧ languageCode.length ≤ 16

structure WebhookConfigRequest where
  webhookUrl : Option String := none
  webhookSecret : Option String := none
  allowedOrigins : List String := []

/-- `VoiceConfig(**body.voice_config.model_dump())`. -/
def VoiceConfigRequest.config (request : VoiceConfigRequest) : VoiceConfig :=
  ⟨request.enabled, request.voiceName, request.languageCode⟩

def VADConfigRequest.config (request : VADConfigRequest) : VADConfig := ⟨request.mode⟩

/-! ## `create_project` -/

def projectLimitReached (plan : Plan) : HTTPException :=
  let limit := match maxProjects plan with
    | none => "None"
    | some limit => toString limit
  { statusCode := 403
    detail := "Your " ++ plan.name ++ " plan allows a maximum of " ++ limit ++ " project(s). " ++
      "Upgrade your plan to create more projects." }

/-- The check of the project count, `len(existing_projects)`. -/
def admitProject (plan : Plan) (existing : List ProjectDoc) : Except HTTPException Unit :=
  if isWithinProjectLimit plan existing.length then .ok ()
  else .error (projectLimitReached plan)

def newProject (tenantId : String) (plan : Plan) (body : CreateProjectRequest) (id : String)
    (now : Instant) : ProjectDoc :=
  { id := id
    tenantId := tenantId
    name := body.name
    description := body.description
    systemPrompt := body.systemPrompt
    geminiModel := body.geminiModel
    voiceConfig := body.voiceConfig.config
    vadConfig := body.vadConfig.config
    webhookUrl := body.webhookUrl
    webhookSecret := body.webhookSecret
    allowedOrigins := body.allowedOrigins
    sessionTtlSeconds := effectiveSessionTtl plan body.sessionTtlSeconds
    -- the one limit of the three that the plan does not cap
    maxConcurrentSessions := body.maxConcurrentSessions
    rateLimitRpm := effectiveRateLimitRpm plan body.rateLimitRpm
    updatedAt := storedDate now }

/-! ## Edits -/

def projectNotFound (projectId : String) : HTTPException :=
  { statusCode := 404, detail := "Project '" ++ projectId ++ "' not found." }

def getProjectOr404 (doc : Option ProjectDoc) (projectId : String) :
    Except HTTPException ProjectDoc :=
  match doc with
  | none => .error (projectNotFound projectId)
  | some doc => .ok doc

def noFieldsProvided : HTTPException :=
  { statusCode := 422, detail := "No fields provided to update." }

def updateProject (plan : Plan) (body : UpdateProjectRequest) :
    Except HTTPException ProjectFields :=
  let updates : ProjectFields :=
    { name := body.name
      description := body.description
      systemPrompt := body.systemPrompt
      geminiModel := body.geminiModel
      maxConcurrentSessions := body.maxConcurrentSessions
      webhookUrl := body.webhookUrl.map some
      webhookSecret := body.webhookSecret.map some
      allowedOrigins := body.allowedOrigins
      voiceConfig := body.voiceConfig.map VoiceConfigRequest.config
      vadConfig := body.vadConfig.map VADConfigRequest.config
      sessionTtlSeconds := body.sessionTtlSeconds.map (effectiveSessionTtl plan)
      rateLimitRpm := body.rateLimitRpm.map (effectiveRateLimitRpm plan) }
  if updates = {} then .error noFieldsProvided else .ok updates

def updateSystemPrompt (body : SystemPromptRequest) : ProjectFields :=
  { systemPrompt := some body.systemPrompt }

def updateVoiceConfig (body : VoiceConfigUpdateRequest) : ProjectFields :=
  { voiceConfig := some ⟨body.enabled, body.voiceName, body.languageCode⟩
    vadConfig := some ⟨body.vadMode⟩ }

def updateWebhookConfig (body : WebhookConfigRequest) : ProjectFields :=
  { webhookUrl := some body.webhookUrl
    webhookSecret := some body.webhookSecret
    allowedOrigins := some body.allowedOrigins }

inductive Edit where
  | project (body : UpdateProjectRequest)
  | systemPrompt (body : SystemPromptRequest)
  | voiceConfig (body : VoiceConfigUpdateRequest)
  | webhookConfig (body : WebhookConfigRequest)

/-- The fields that `repos.projects.update` is called with. -/
def Edit.fields (plan : Plan) : Edit → Except HTTPException ProjectFields
  | .project body => updateProject plan body
  | .systemPrompt body => .ok (updateSystemPrompt body)
  | .voiceConfig body => .ok (updateVoiceConfig body)
  | .webhookConfig body => .ok (updateWebhookConfig body)

theorem getProjectOr404_ok {found : Option ProjectDoc} {projectId : String} {doc : ProjectDoc}
    (answer : getProjectOr404 found projectId = .ok doc) : found = some doc := by
  cases found with
  | none => cases answer
  | some stored =>
      cases answer
      rfl

def Edit.requestedSessions : Edit → Option Nat
  | .project body => body.maxConcurrentSessions
  | _ => none

/-- What `update_project` stores of the numbers that it is asked for, and what it leaves alone. -/
theorem updateProject_ok {plan : Plan} {body : UpdateProjectRequest} {fields : ProjectFields}
    (accepted : updateProject plan body = .ok fields) :
    fields.maxConcurrentSessions = body.maxConcurrentSessions ∧
      fields.sessionTtlSeconds = body.sessionTtlSeconds.map (effectiveSessionTtl plan) ∧
      fields.rateLimitRpm = body.rateLimitRpm.map (effectiveRateLimitRpm plan) ∧
      fields.tools = none ∧ fields.isActive = none := by
  simp only [updateProject] at accepted
  split at accepted
  · cases accepted
  · cases accepted
    exact ⟨rfl, rfl, rfl, rfl, rfl⟩

/-- An edit stores the number of sessions it asks for, whatever the plan. -/
theorem Edit.fields_maxConcurrentSessions {plan : Plan} {edit : Edit} {fields : ProjectFields}
    (accepted : edit.fields plan = .ok fields) :
    fields.maxConcurrentSessions = edit.requestedSessions := by
  cases edit with
  | project body => exact (updateProject_ok accepted).1
  | systemPrompt body =>
      cases accepted
      rfl
  | voiceConfig body =>
      cases accepted
      rfl
  | webhookConfig body =>
      cases accepted
      rfl

/-- What every edit leaves alone, and what the plan caps. -/
structure Edit.Bounded (plan : Plan) (fields : ProjectFields) : Prop where
  tools : fields.tools = none
  isActive : fields.isActive = none
  sessionTtl : ∀ ttl ∈ fields.sessionTtlSeconds, ttl ≤ maxSessionTtlSeconds plan
  rateLimit : ∀ rpm ∈ fields.rateLimitRpm, ∀ limit ∈ maxRateLimitRpm plan, rpm ≤ limit

theorem Edit.bounded_fields {plan : Plan} {edit : Edit} {fields : ProjectFields}
    (accepted : edit.fields plan = .ok fields) : Edit.Bounded plan fields := by
  cases edit with
  | project body =>
      obtain ⟨_, sessionTtl, rateLimit, tools, isActive⟩ := updateProject_ok accepted
      refine ⟨tools, isActive, ?_, ?_⟩
      · intro ttl given
        obtain ⟨requested, _, rfl⟩ := Option.map_eq_some_iff.mp (sessionTtl.symm.trans given)
        exact effectiveSessionTtl_le plan requested
      · intro rpm given
        obtain ⟨requested, _, rfl⟩ := Option.map_eq_some_iff.mp (rateLimit.symm.trans given)
        exact effectiveRateLimitRpm_le plan requested
  | systemPrompt body =>
      cases accepted
      constructor <;> simp [updateSystemPrompt]
  | voiceConfig body =>
      cases accepted
      constructor <;> simp [updateVoiceConfig]
  | webhookConfig body =>
      cases accepted
      constructor <;> simp [updateWebhookConfig]

end LiveChat.Api.Projects
