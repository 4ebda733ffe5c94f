import LiveChat.Foundation.Json
import LiveChat.Core.PlanLimits

/-!
# Runtime shapes and stored documents

The Pydantic models of `core/schemas.py` and `core/documents.py`, without the
fields that no modelled function reads or writes.  Instants count nanoseconds.
-/

set_option autoImplicit false

namespace LiveChat.Core

open LiveChat.Foundation

abbrev Instant := Nat

/-! ## `core/schemas.py` -/

inductive ExecutionMode where
  | static
  | webhook
  deriving DecidableEq, Repr

structure ToolDefinition where
  name : String
  description : String
  parameters : Json.Object
  executionMode : ExecutionMode := .static
  staticResponse : Option Json.Object := none
  webhookUrl : Option String := none
  webhookSecret : Option String := none
  timeoutMs : Nat := 5000
  deriving DecidableEq

structure VoiceConfig where
  enabled : Bool := true
  voiceName : String := "Kore"
  languageCode : String := "en-US"
  deriving DecidableEq, Repr

inductive VADMode where
  | auto
  | manual
  deriving DecidableEq, Repr

structure VADConfig where
  mode : VADMode := .manual
  deriving DecidableEq, Repr

structure ProjectConfig where
  projectId : String
  tenantId : String := ""
  name : String
  systemPrompt : String
  geminiModel : String := "gemini-2.5-flash-native-audio-preview-12-2025"
  voiceConfig : VoiceConfig := {}
  vadConfig : VADConfig := {}
  tools : List ToolDefinition := []
  sessionTtlSeconds : Nat := 300
  maxConcurrentSessions : Nat := 100
  rateLimitRpm : Nat := 60
  allowedOrigins : List String := []
  webhookUrl : Option String := none
  webhookSecret : Option String := none
  deriving DecidableEq

/-! ## `core/documents.py` -/

structure TenantDoc where
  id : String
  name : String
  email : String
  passwordHash : String := ""
  plan : PlanLimits.Plan := .free
  isActive : Bool := true
  isSuspended : Bool := false
  deriving DecidableEq, Repr

structure ProjectDoc where
  id : String
  tenantId : String
  name : String
  description : String := ""
  systemPrompt : String
  geminiModel : String := "gemini-2.5-flash-native-audio-preview-12-2025"
  voiceConfig : VoiceConfig := {}
  vadConfig : VADConfig := {}
  tools : List ToolDefinition := []
  webhookUrl : Option String := none
  webhookSecret : Option String := none
  allowedOrigins : List String := []
  sessionTtlSeconds : Nat := 300
  maxConcurrentSessions : Nat := 10
  rateLimitRpm : Nat := 60
  updatedAt : Instant
  isActive : Bool := true
  deriving DecidableEq

def ProjectDoc.toProjectConfig (doc : ProjectDoc) : ProjectConfig :=
  { projectId := doc.id
    tenantId := doc.tenantId
    name := doc.name
    systemPrompt := doc.systemPrompt
    geminiModel := doc.geminiModel
    voiceConfig := doc.voiceConfig
    vadConfig := doc.vadConfig
    tools := doc.tools
    sessionTtlSeconds := doc.sessionTtlSeconds
    maxConcurrentSessions := doc.maxConcurrentSessions
    rateLimitRpm := doc.rateLimitRpm
    allowedOrigins := doc.allowedOrigins
    webhookUrl := doc.webhookUrl
    webhookSecret := doc.webhookSecret }

inductive KeyType where
  | publishable
  | secret
  deriving DecidableEq, Repr

structure APIKeyDoc where
  id : String
  projectId : String
  tenantId : String
  label : String := "Default key"
  keyPrefix : String := ""
  keyHash : String := ""
  keyType : KeyType := .publishable
  rateLimitRpm : Int := 60
  revoked : Bool := false
  revokedAt : Option Instant := none
  expiresAt : Option Instant := none
  deriving DecidableEq, Repr

inductive SessionStatus where
  | closed
  | error
  | timeout
  deriving DecidableEq, Repr

def SessionStatus.text : SessionStatus → String
  | .closed => "closed"
  | .error => "error"
  | .timeout => "timeout"

structure SessionDoc where
  id : String
  projectId : String
  tenantId : String
  apiKeyId : String := ""
  status : SessionStatus := .closed
  startedAt : Instant
  endedAt : Instant
  turns : Nat := 0
  toolCalls : Nat := 0
  inputTokens : Nat := 0
  outputTokens : Nat := 0
  errorMessage : Option String := none
  deriving DecidableEq, Repr

structure AuthTokenDoc where
  id : String
  tenantId : String
  tokenHash : String
  tokenFamily : String := ""
  expiresAt : Instant
  deriving DecidableEq, Repr

end LiveChat.Core
