import LiveChat.Api.RecordOwnership
import LiveChat.Core.LifecycleEvents
import LiveChat.Repositories.SessionQueries

/-!
# The session history of a project

`list_sessions`, `get_session` and `get_usage` of `api/projects.py`.  A request is one step:
a project that its first query finds stays stored until the second one.
-/

set_option autoImplicit false

namespace LiveChat.Api.SessionHistory

open LiveChat.Core
open LiveChat.Core.GeminiRunner (totalSeconds)
open LiveChat.Core.SessionEvents (Decimal Library microseconds)
open LiveChat.Core.SessionManager (Record)
open LiveChat.Foundation
open LiveChat.Repositories
open LiveChat.Repositories.ProjectRepo (storedDate)
open LiveChat.Api.Projects (HTTPException getProjectOr404)

inductive Failure where
  | refused (exception : HTTPException)
  /-- PyMongo takes no negative number of documents to skip. -/
  | raised

/-! ## Responses -/

structure SessionSummaryResponse where
  sessionId : String
  projectId : String
  status : String
  startedAt : String
  endedAt : String
  durationSeconds : Decimal
  turns : Nat
  toolCalls : Nat
  inputTokens : Nat
  outputTokens : Nat
  apiKeyId : String
  errorMessage : Option String

/-- A date from the collection, which has no zone. -/
def timestamp (instant : Instant) : String :=
  Calendar.isoformatNaive (microseconds (storedDate instant))

/-- The response for a document; its duration was rounded before it was inserted. -/
def summary (library : Library) (doc : SessionDoc) : SessionSummaryResponse :=
  { sessionId := doc.id
    projectId := doc.projectId
    status := doc.status.text
    startedAt := timestamp doc.startedAt
    endedAt := timestamp doc.endedAt
    durationSeconds := library.round (totalSeconds doc.startedAt doc.endedAt)
    turns := doc.turns
    toolCalls := doc.toolCalls
    inputTokens := doc.inputTokens
    outputTokens := doc.outputTokens
    apiKeyId := doc.apiKeyId
    errorMessage := doc.errorMessage }

structure SessionListResponse where
  sessions : List SessionSummaryResponse
  total : Nat
  limit : Nat
  skip : Nat

/-- Durations and rates, which are floats, are left out. -/
structure UsageSummaryResponse where
  projectId : String
  since : String
  until_ : String
  totalSessions : Nat
  totalTurns : Nat
  totalToolCalls : Nat
  totalInputTokens : Nat
  totalOutputTokens : Nat
  totalTokens : Nat
  errorCount : Nat

/-! ## Handlers -/

def clamp (most : Nat) (value : Int) : Nat := (max 1 (min value most)).toNat

def MAX_LIMIT : Nat := 200

def MAX_DAYS : Nat := 365

section Handlers
variable (library : Library) (store : ProjectRepo.Store) (sessions : List SessionDoc)
  (tenantId projectId : String)

/-- `get_by_id` in the tenant's scope, then `_get_project_or_404`. -/
def ownProject : Except Failure ProjectDoc :=
  (getProjectOr404 (store.getById projectId (some tenantId)) projectId).mapError .refused

/-- `order` is how the cursor returns the matching sessions. -/
def listSessions (limit skip : Int) (order : List SessionDoc) :
    Except Failure SessionListResponse :=
  match ownProject store tenantId projectId with
  | .error failure => .error failure
  | .ok _ =>
      if skip < 0 then .error .raised
      else
        let found := SessionRepo.listForProject order (clamp MAX_LIMIT limit) skip.toNat
        .ok
          { sessions := found.map (summary library)
            total := found.length
            limit := clamp MAX_LIMIT limit
            skip := skip.toNat }

def sessionNotFound (sessionId : String) : HTTPException :=
  { statusCode := 404, detail := "Session '" ++ sessionId ++ "' not found." }

def getSession (sessionId : String) : Except Failure SessionSummaryResponse :=
  match ownProject store tenantId projectId with
  | .error failure => .error failure
  | .ok _ =>
      match SessionRepo.getById sessions sessionId projectId with
      | none => .error (.refused (sessionNotFound sessionId))
      | some doc => .ok (summary library doc)

def getUsage (days : Int) (utc : Instant) : Except Failure UsageSummaryResponse :=
  match ownProject store tenantId projectId with
  | .error failure => .error failure
  | .ok _ =>
      let since := utc - clamp MAX_DAYS days * SessionRepo.DAY
      let found := SessionRepo.usageSummary sessions projectId since
      .ok
        { projectId := projectId
          since := Calendar.isoformat (microseconds since)
          until_ := Calendar.isoformat (microseconds utc)
          totalSessions := found.totalSessions
          totalTurns := found.totalTurns
          totalToolCalls := found.totalToolCalls
          totalInputTokens := found.totalInputTokens
          totalOutputTokens := found.totalOutputTokens
          totalTokens := found.totalInputTokens + found.totalOutputTokens
          errorCount := found.errorCount }

end Handlers

theorem clamp_pos (most : Nat) (value : Int) : 0 < clamp most value := by
  unfold clamp
  omega

/-! ## Projects and records of the service -/

def sessionsOf (service : Service) : List SessionDoc := service.node.records.map Record.doc

theorem ownProject_ok {store : ProjectRepo.Store} {tenantId projectId : String} {doc : ProjectDoc} :
    ownProject store tenantId projectId = .ok doc ↔
      store.getById projectId (some tenantId) = some doc := by
  unfold ownProject Projects.getProjectOr404
  cases store.getById projectId (some tenantId) with
  | none => simp [Except.mapError]
  | some found => simp [Except.mapError]

theorem ownProject_stored {service : Service} {projectId tenantId : String}
    (stored : service.rest.Stored projectId tenantId) :
    ∃ doc, ownProject service.rest.repo.store tenantId projectId = .ok doc := by
  obtain ⟨doc, found, own⟩ := stored
  refine ⟨doc, ownProject_ok.mpr ?_⟩
  rw [ProjectRepo.Store.getById, found]
  simp [ProjectRepo.Store.inScope, own]

end LiveChat.Api.SessionHistory
