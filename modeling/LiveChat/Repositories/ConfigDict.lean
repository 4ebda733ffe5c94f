import LiveChat.Foundation.JsonCodec
import LiveChat.Core.Schemas

/-!
# Project configurations as dicts

`model_dump` and `model_validate` of the models in `core/schemas.py`, which
`_project_config_to_dict` and `_dict_to_project_config` of `repositories/project_repo.py` call.
A field that the dict lacks takes its default.  Pydantic's conversions between types are left
out: a field of another type than the one that is dumped is refused.
-/

set_option autoImplicit false

namespace LiveChat.Repositories.ConfigDict

open LiveChat.Core
open LiveChat.Foundation
open LiveChat.Foundation.Codec (required defaulted)

def optionalString : Codec (Option String) :=
  Codec.option Codec.string fun _ same => by cases same

def optionalObject : Codec (Option Json.Object) :=
  Codec.option Codec.object fun _ same => by cases same

def executionMode : Codec ExecutionMode where
  encode
    | .static => .string "static"
    | .webhook => .string "webhook"
  decode
    | .string "static" => some .static
    | .string "webhook" => some .webhook
    | _ => none
  Fits _ := True
  wellFormed mode _ := by cases mode <;> trivial
  decode_encode mode := by cases mode <;> rfl

def vadMode : Codec VADMode where
  encode
    | .auto => .string "auto"
    | .manual => .string "manual"
  decode
    | .string "auto" => some .auto
    | .string "manual" => some .manual
    | _ => none
  Fits _ := True
  wellFormed mode _ := by cases mode <;> trivial
  decode_encode mode := by cases mode <;> rfl

/-- `ToolDefinition.model_dump()`. -/
def dumpTool (tool : ToolDefinition) : Json.Object :=
  [("name", Codec.string.encode tool.name),
    ("description", Codec.string.encode tool.description),
    ("parameters", Codec.object.encode tool.parameters),
    ("execution_mode", executionMode.encode tool.executionMode),
    ("static_response", optionalObject.encode tool.staticResponse),
    ("webhook_url", optionalString.encode tool.webhookUrl),
    ("webhook_secret", optionalString.encode tool.webhookSecret),
    ("timeout_ms", Codec.nat.encode tool.timeoutMs)]

def validateTool (members : Json.Object) : Option ToolDefinition := do
  let name ← required Codec.string "name" members
  let description ← required Codec.string "description" members
  let parameters ← required Codec.object "parameters" members
  let mode ← defaulted executionMode "execution_mode" .static members
  let staticResponse ← defaulted optionalObject "static_response" none members
  let webhookUrl ← defaulted optionalString "webhook_url" none members
  let webhookSecret ← defaulted optionalString "webhook_secret" none members
  let timeoutMs ← defaulted Codec.nat "timeout_ms" 5000 members
  some { name, description, parameters, executionMode := mode, staticResponse, webhookUrl,
         webhookSecret, timeoutMs }

/-- The parameters and the static response are dicts. -/
structure ToolFits (tool : ToolDefinition) : Prop where
  parameters : JsonText.WellFormed (.object tool.parameters)
  staticResponse : ∀ response ∈ tool.staticResponse, JsonText.WellFormed (.object response)

theorem validateTool_dumpTool (tool : ToolDefinition) : validateTool (dumpTool tool) = some tool := by
  simp [validateTool, dumpTool, required, defaulted, List.lookup_cons, Codec.decode_encode]

theorem wellFormed_dumpTool {tool : ToolDefinition} (fits : ToolFits tool) :
    JsonText.WellFormed (.object (dumpTool tool)) := by
  refine ⟨by simp [dumpTool], trivial, trivial, fits.parameters, ?_, ?_, ?_, ?_, trivial, trivial⟩
  · exact executionMode.wellFormed _ trivial
  · exact optionalObject.wellFormed _ fits.staticResponse
  · exact optionalString.wellFormed _ fun _ _ => trivial
  · exact optionalString.wellFormed _ fun _ _ => trivial

def toolDefinition : Codec ToolDefinition where
  encode tool := .object (dumpTool tool)
  decode
    | .object members => validateTool members
    | _ => none
  Fits := ToolFits
  wellFormed _ fits := wellFormed_dumpTool fits
  decode_encode := validateTool_dumpTool

def voiceConfig : Codec VoiceConfig where
  encode voice :=
    .object [("enabled", Codec.bool.encode voice.enabled),
      ("voice_name", Codec.string.encode voice.voiceName),
      ("language_code", Codec.string.encode voice.languageCode)]
  decode
    | .object members => do
        let enabled ← defaulted Codec.bool "enabled" true members
        let voiceName ← defaulted Codec.string "voice_name" "Kore" members
        let languageCode ← defaulted Codec.string "language_code" "en-US" members
        some { enabled, voiceName, languageCode }
    | _ => none
  Fits _ := True
  wellFormed _ _ := ⟨by simp, trivial, trivial, trivial, trivial⟩
  decode_encode voice := by simp [defaulted, List.lookup_cons, Codec.decode_encode]

def vadConfig : Codec VADConfig where
  encode vad := .object [("mode", vadMode.encode vad.mode)]
  decode
    | .object members => (defaulted vadMode "mode" .manual members).map VADConfig.mk
    | _ => none
  Fits _ := True
  wellFormed vad _ := ⟨by simp, vadMode.wellFormed vad.mode trivial, trivial⟩
  decode_encode vad := by simp [defaulted, Codec.decode_encode]

/-- `_project_config_to_dict`. -/
def projectConfigToDict (config : ProjectConfig) : Json.Object :=
  [("project_id", Codec.string.encode config.projectId),
    ("tenant_id", Codec.string.encode config.tenantId),
    ("name", Codec.string.encode config.name),
    ("system_prompt", Codec.string.encode config.systemPrompt),
    ("gemini_model", Codec.string.encode config.geminiModel),
    ("voice_config", voiceConfig.encode config.voiceConfig),
    ("vad_config", vadConfig.encode config.vadConfig),
    ("tools", toolDefinition.list.encode config.tools),
    ("session_ttl_seconds", Codec.nat.encode config.sessionTtlSeconds),
    ("max_concurrent_sessions", Codec.nat.encode config.maxConcurrentSessions),
    ("rate_limit_rpm", Codec.nat.encode config.rateLimitRpm),
    ("allowed_origins", Codec.string.list.encode config.allowedOrigins),
    ("webhook_url", optionalString.encode config.webhookUrl),
    ("webhook_secret", optionalString.encode config.webhookSecret)]

/-- `ProjectConfig.model_validate` on a dict. -/
def validateConfig (members : Json.Object) : Option ProjectConfig := do
  let projectId ← required Codec.string "project_id" members
  let tenantId ← defaulted Codec.string "tenant_id" "" members
  let name ← required Codec.string "name" members
  let systemPrompt ← required Codec.string "system_prompt" members
  let geminiModel ← defaulted Codec.string "gemini_model"
    "gemini-2.5-flash-native-audio-preview-12-2025" members
  let voice ← defaulted voiceConfig "voice_config" {} members
  let vad ← defaulted vadConfig "vad_config" {} members
  let tools ← defaulted toolDefinition.list "tools" [] members
  let sessionTtlSeconds ← defaulted Codec.nat "session_ttl_seconds" 300 members
  let maxConcurrentSessions ← defaulted Codec.nat "max_concurrent_sessions" 100 members
  let rateLimitRpm ← defaulted Codec.nat "rate_limit_rpm" 60 members
  let allowedOrigins ← defaulted Codec.string.list "allowed_origins" [] members
  let webhookUrl ← defaulted optionalString "webhook_url" none members
  let webhookSecret ← defaulted optionalString "webhook_secret" none members
  some { projectId, tenantId, name, systemPrompt, geminiModel, voiceConfig := voice,
         vadConfig := vad, tools, sessionTtlSeconds, maxConcurrentSessions, rateLimitRpm,
         allowedOrigins, webhookUrl, webhookSecret }

/-- `_dict_to_project_config`; `none` is a `ValidationError`. -/
def dictToProjectConfig : Json → Option ProjectConfig
  | .object members => validateConfig members
  | _ => none

/-- Every dict inside a tool is one. -/
def ConfigFits (config : ProjectConfig) : Prop := ∀ tool ∈ config.tools, ToolFits tool

theorem validateConfig_toDict (config : ProjectConfig) :
    validateConfig (projectConfigToDict config) = some config := by
  simp [validateConfig, projectConfigToDict, required, defaulted, List.lookup_cons,
    Codec.decode_encode]

theorem wellFormed_toDict {config : ProjectConfig} (fits : ConfigFits config) :
    JsonText.WellFormed (.object (projectConfigToDict config)) := by
  refine ⟨by simp [projectConfigToDict], trivial, trivial, trivial, trivial, trivial, ?_, ?_, ?_, trivial, trivial,
    trivial, ?_, ?_, ?_, trivial⟩
  · exact voiceConfig.wellFormed _ trivial
  · exact vadConfig.wellFormed _ trivial
  · exact toolDefinition.list.wellFormed _ fits
  · exact Codec.string.list.wellFormed _ fun _ _ => trivial
  · exact optionalString.wellFormed _ fun _ _ => trivial
  · exact optionalString.wellFormed _ fun _ _ => trivial

/-- What the project config cache holds. -/
def projectConfig : Codec ProjectConfig where
  encode config := .object (projectConfigToDict config)
  decode := dictToProjectConfig
  Fits := ConfigFits
  wellFormed _ fits := wellFormed_toDict fits
  decode_encode := validateConfig_toDict

end LiveChat.Repositories.ConfigDict
