import LiveChat.Foundation.OffsetPaging
import LiveChat.Repositories.SessionRepo

/-!
# Queries of the session records

`list_for_project`, `get_by_id` and `usage_summary` of `repositories/session_repo.py`.  The
order in which a cursor returns sessions that started in the same millisecond is not known; it
is a parameter that has to be sorted.
-/

set_option autoImplicit false

namespace LiveChat.Repositories.SessionRepo

open LiveChat.Core
open LiveChat.Foundation
open LiveChat.Repositories.ProjectRepo (storedDate)

/-! ## `list_for_project` -/

def inListing (projectId : String) (status : Option String) (doc : SessionDoc) : Bool :=
  doc.projectId == projectId && status.all fun status => doc.status.text == status

/-- The documents that the query of `list_for_project` matches. -/
def matching (sessions : List SessionDoc) (projectId : String) (status : Option String) :
    List SessionDoc :=
  sessions.filter (inListing projectId status)

/-- What `.sort("started_at", -1)` sorts by. -/
def rank (doc : SessionDoc) : Nat := storedDate doc.startedAt

/-- The order of the cursor over the matching documents. -/
def IsCursor (sessions : List SessionDoc) (projectId : String) (status : Option String)
    (order : List SessionDoc) : Prop :=
  OffsetPaging.Sorted rank (matching sessions projectId status) order

instance (sessions : List SessionDoc) (projectId : String) (status : Option String)
    (order : List SessionDoc) : Decidable (IsCursor sessions projectId status order) :=
  inferInstanceAs (Decidable (OffsetPaging.Sorted ..))

/-- `.skip(skip).limit(limit)` on the cursor; the documents are given as they were inserted. -/
def listForProject (order : List SessionDoc) (limit skip : Nat) : List SessionDoc :=
  OffsetPaging.page skip limit order

/-! ## `get_by_id` -/

def getById (sessions : List SessionDoc) (sessionId projectId : String) : Option SessionDoc :=
  sessions.find? fun doc => doc.id == sessionId && doc.projectId == projectId

/-! ## `usage_summary` -/

/-- The sums of the `$group`; those of durations are left out. -/
structure UsageSummary where
  totalSessions : Nat := 0
  totalTurns : Nat := 0
  totalToolCalls : Nat := 0
  totalInputTokens : Nat := 0
  totalOutputTokens : Nat := 0
  errorCount : Nat := 0
  deriving DecidableEq, Repr

def inSummary (projectId : String) (since : Instant) (doc : SessionDoc) : Bool :=
  doc.projectId == projectId && decide (since ≤ storedDate doc.startedAt)

def usageSummary (sessions : List SessionDoc) (projectId : String) (since : Instant) :
    UsageSummary :=
  let counted := sessions.filter (inSummary projectId since)
  { totalSessions := counted.length
    totalTurns := (counted.map SessionDoc.turns).sum
    totalToolCalls := (counted.map SessionDoc.toolCalls).sum
    totalInputTokens := (counted.map SessionDoc.inputTokens).sum
    totalOutputTokens := (counted.map SessionDoc.outputTokens).sum
    errorCount := counted.countP fun doc => doc.status == .error }

end LiveChat.Repositories.SessionRepo
