import Mathlib.Data.List.AList
import LiveChat.Foundation.Timeline
import LiveChat.Foundation.TransitionSystem
import LiveChat.Core.Schemas

/-!
# Projects and their cached configuration

`repositories/project_repo.py` with the project config cache of `db/redis_client.py`.
Each MongoDB or Redis command is one step.  A `ReadCall` is a call of
`get_config_for_key` or `get_config_by_id`, whose bodies are the same, and a
`WriteCall` is a call of `update`, `set_tools` or `soft_delete` whose `update_one`
modified the document; one that modified nothing has returned `False` and leaves no
trace.  The cache holds the config that `_dict_to_project_config` restores.

`timelines`, the `floor` of a read and the `version` of a write are the history that
the code does not keep: all the documents a project has had, the number of the newest
one whose write had returned when the read started, and the number of the document
that the write stored.
-/

set_option autoImplicit false

namespace LiveChat.Repositories.ProjectRepo

open LiveChat.Core
open LiveChat.Foundation

/-- `_CACHE_TTL`, 60 seconds. -/
def CACHE_TTL : Nat := 60 * 1000000000

/-- MongoDB keeps milliseconds. -/
def storedDate (instant : Instant) : Instant := instant / 1000000 * 1000000

/-- `fields: dict[str, Any]`; a member that is absent is `none`. -/
structure ProjectFields where
  name : Option String := none
  description : Option String := none
  systemPrompt : Option String := none
  geminiModel : Option String := none
  voiceConfig : Option VoiceConfig := none
  vadConfig : Option VADConfig := none
  tools : Option (List ToolDefinition) := none
  webhookUrl : Option (Option String) := none
  webhookSecret : Option (Option String) := none
  allowedOrigins : Option (List String) := none
  sessionTtlSeconds : Option Nat := none
  maxConcurrentSessions : Option Nat := none
  rateLimitRpm : Option Nat := none
  isActive : Option Bool := none
  deriving DecidableEq

/-- `{"$set": fields}`, with the `updated_at` that `update` adds. -/
def ProjectFields.set (fields : ProjectFields) (updatedAt : Instant) (doc : ProjectDoc) :
    ProjectDoc :=
  { doc with
    name := fields.name.getD doc.name
    description := fields.description.getD doc.description
    systemPrompt := fields.systemPrompt.getD doc.systemPrompt
    geminiModel := fields.geminiModel.getD doc.geminiModel
    voiceConfig := fields.voiceConfig.getD doc.voiceConfig
    vadConfig := fields.vadConfig.getD doc.vadConfig
    tools := fields.tools.getD doc.tools
    webhookUrl := fields.webhookUrl.getD doc.webhookUrl
    webhookSecret := fields.webhookSecret.getD doc.webhookSecret
    allowedOrigins := fields.allowedOrigins.getD doc.allowedOrigins
    sessionTtlSeconds := fields.sessionTtlSeconds.getD doc.sessionTtlSeconds
    maxConcurrentSessions := fields.maxConcurrentSessions.getD doc.maxConcurrentSessions
    rateLimitRpm := fields.rateLimitRpm.getD doc.rateLimitRpm
    updatedAt := storedDate updatedAt
    isActive := fields.isActive.getD doc.isActive }

/-- The three operations that write a project. -/
inductive Write where
  | update (fields : ProjectFields)
  | setTools (tools : List ToolDefinition)
  | softDelete
  deriving DecidableEq

def Write.fields : Write → ProjectFields
  | .update fields => fields
  | .setTools tools => { tools := some tools }
  | .softDelete => { isActive := some false }

/-! ## The stores -/

structure CacheEntry where
  config : ProjectConfig
  expiresAt : Instant
  deriving DecidableEq

structure Store where
  now : Instant
  projects : AList fun _ : String => ProjectDoc := ∅
  /-- The Redis keys `project_config:{project_id}`. -/
  projectConfigs : AList fun _ : String => CacheEntry := ∅

namespace Store

def getProjectConfig (store : Store) (projectId : String) : Option ProjectConfig :=
  match store.projectConfigs.lookup projectId with
  | none => none
  | some entry => if store.now < entry.expiresAt then some entry.config else none

def setProjectConfig (store : Store) (projectId : String) (config : ProjectConfig) (ttl : Nat) :
    Store :=
  { store with projectConfigs := store.projectConfigs.insert projectId ⟨config, store.now + ttl⟩ }

def invalidateProjectConfig (store : Store) (projectId : String) : Store :=
  { store with projectConfigs := store.projectConfigs.erase projectId }

/-- `if tenant_id: query["tenant_id"] = tenant_id`. -/
def inScope (tenantId : Option String) (doc : ProjectDoc) : Bool :=
  match tenantId with
  | none => true
  | some tenantId => decide (tenantId = "") || decide (doc.tenantId = tenantId)

def getById (store : Store) (projectId : String) (tenantId : Option String) :
    Option ProjectDoc :=
  (store.projects.lookup projectId).filter (inScope tenantId)

/-- The order by `created_at` is left out; the modelled caller counts the documents. -/
def listForTenant (store : Store) (tenantId : String) (limit : Nat) : List ProjectDoc :=
  ((store.projects.entries.map Sigma.snd).filter fun doc =>
    decide (doc.tenantId = tenantId)).take limit

/-- `get_config_for_key` or `get_config_by_id` with no other command in between. -/
def getConfig (store : Store) (projectId tenantId : String) : Store × Option ProjectConfig :=
  match store.getProjectConfig projectId with
  | some config => (store, some config)
  | none =>
      match store.getById projectId (some tenantId) with
      | none => (store, none)
      | some doc =>
          if doc.isActive then
            (store.setProjectConfig projectId doc.toProjectConfig CACHE_TTL,
              some doc.toProjectConfig)
          else (store, none)

/-- The document after `update_one` on the tenant's project, when it was modified. -/
def modified (store : Store) (projectId tenantId : String) (fields : ProjectFields)
    (updatedAt : Instant) : Option ProjectDoc :=
  match store.projects.lookup projectId with
  | none => none
  | some doc =>
      if doc.tenantId = tenantId ∧ fields.set updatedAt doc ≠ doc then
        some (fields.set updatedAt doc)
      else none

end Store

/-! ## Concurrent calls -/

inductive ReadPhase where
  | started
  /-- Redis had no entry; the MongoDB read is next. -/
  | missed
  /-- An active document was read; the Redis write is next. -/
  | found (doc : ProjectDoc)
  | returned (result : Option ProjectConfig)
  deriving DecidableEq

structure ReadCall where
  projectId : String
  tenantId : String
  floor : Nat
  phase : ReadPhase := .started
  deriving DecidableEq

inductive WritePhase where
  /-- `update_one` modified the document. -/
  | written
  /-- `soft_delete` only: `update` returned `True`. -/
  | updated
  | returned
  deriving DecidableEq, Repr

structure WriteCall where
  projectId : String
  write : Write
  version : Nat
  phase : WritePhase := .written
  deriving DecidableEq

structure State where
  store : Store
  reads : List ReadCall := []
  writes : List WriteCall := []
  timelines : String → Timeline (Option ProjectDoc) := fun _ => Timeline.initial none

inductive RepoEvent where
  /-- `create`: `insert_one` of a document with a new `uuid4()`. -/
  | create (doc : ProjectDoc)
  /-- A call of `get_config_for_key` or `get_config_by_id`. -/
  | getConfig (projectId tenantId : String)
  | redisGet (read : Nat)
  | findOne (read : Nat)
  | redisSet (read : Nat)
  /-- `update`, `set_tools` or `soft_delete` up to its `update_one`. -/
  | updateOne (projectId tenantId : String) (write : Write) (updatedAt : Instant)
  | redisDel (write : Nat)
  | tick (elapsed : Nat)

namespace State

def initial (now : Instant) : State := { store := { now := now } }

def ask (state : State) (projectId tenantId : String) : State :=
  { state with
    reads := state.reads ++ [⟨projectId, tenantId, (state.timelines projectId).floor, .started⟩] }

def setRead (state : State) (read : Nat) (phase : ReadPhase) : State :=
  { state with reads := state.reads.modify read fun call => { call with phase := phase } }

def recordWrite (state : State) (projectId : String) (write : Write) : State :=
  { state with
    writes := state.writes ++ [⟨projectId, write, (state.timelines projectId).version, .written⟩] }

def setWrite (state : State) (write : Nat) (phase : WritePhase) : State :=
  { state with writes := state.writes.modify write fun call => { call with phase := phase } }

/-- The project has a new document. -/
def put (state : State) (projectId : String) (doc : ProjectDoc) : State :=
  { state with
    store := { state.store with projects := state.store.projects.insert projectId doc }
    timelines := Function.update state.timelines projectId
      ((state.timelines projectId).write (some doc)) }

def fill (state : State) (projectId : String) (config : ProjectConfig) : State :=
  { state with store := state.store.setProjectConfig projectId config CACHE_TTL }

def invalidate (state : State) (projectId : String) : State :=
  { state with store := state.store.invalidateProjectConfig projectId }

/-- A write of the project returns `True`. -/
def complete (state : State) (projectId : String) (version : Nat) : State :=
  { state with
    timelines := Function.update state.timelines projectId
      ((state.timelines projectId).complete version) }

def step (state : State) : RepoEvent → Option State
  | .create doc =>
      match state.store.projects.lookup doc.id with
      | none => some (state.put doc.id doc)
      | some _ => none
  | .getConfig projectId tenantId => some (state.ask projectId tenantId)
  | .redisGet read =>
      match state.reads[read]? with
      | some ⟨projectId, _, _, .started⟩ =>
          match state.store.getProjectConfig projectId with
          | some config => some (state.setRead read (.returned (some config)))
          | none => some (state.setRead read .missed)
      | _ => none
  | .findOne read =>
      match state.reads[read]? with
      | some ⟨projectId, tenantId, _, .missed⟩ =>
          match state.store.getById projectId (some tenantId) with
          | none => some (state.setRead read (.returned none))
          | some doc =>
              if doc.isActive then some (state.setRead read (.found doc))
              else some (state.setRead read (.returned none))
      | _ => none
  | .redisSet read =>
      match state.reads[read]? with
      | some ⟨projectId, _, _, .found doc⟩ =>
          let config := doc.toProjectConfig
          some ((state.fill projectId config).setRead read (.returned (some config)))
      | _ => none
  | .updateOne projectId tenantId write updatedAt =>
      if updatedAt ≤ state.store.now then
        match state.store.modified projectId tenantId write.fields updatedAt with
        | none => some state
        | some doc => some ((state.put projectId doc).recordWrite projectId write)
      else none
  | .redisDel write =>
      match state.writes[write]? with
      | some ⟨projectId, .softDelete, _, .written⟩ =>
          some ((state.invalidate projectId).setWrite write .updated)
      | some ⟨projectId, _, version, .written⟩ | some ⟨projectId, _, version, .updated⟩ =>
          some (((state.invalidate projectId).complete projectId version).setWrite write .returned)
      | _ => none
  | .tick elapsed => some { state with store := { state.store with now := state.store.now + elapsed } }

end State

end LiveChat.Repositories.ProjectRepo
