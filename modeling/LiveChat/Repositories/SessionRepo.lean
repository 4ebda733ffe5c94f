import Mathlib.Algebra.GroupWithZero.Nat
import LiveChat.Core.Schemas
import LiveChat.Repositories.ProjectRepo

/-!
# Token usage of a day

`get_daily_token_usage` of `repositories/session_repo.py`, on the documents of the sessions
collection.
-/

set_option autoImplicit false

namespace LiveChat.Repositories.SessionRepo

open LiveChat.Core
open LiveChat.Repositories.ProjectRepo (storedDate)

def DAY : Nat := 24 * 60 * 60 * 1000000000

/-- Midnight UTC before the instant. -/
def startOfDay (utc : Instant) : Instant := utc / DAY * DAY

/-- `$add` of the two token counters. -/
def totalTokens (doc : SessionDoc) : Nat := doc.inputTokens + doc.outputTokens

/-- The `$match` on the tenant and on the start of the session. -/
def countsToward (tenantId : String) (start : Instant) (doc : SessionDoc) : Bool :=
  doc.tenantId == tenantId && decide (start ≤ storedDate doc.startedAt)

/-- The aggregation; `start` is the `start_of_day` that was computed before it. -/
def getDailyTokenUsage (sessions : List SessionDoc) (tenantId : String) (start : Instant) : Nat :=
  ((sessions.filter (countsToward tenantId start)).map totalTokens).sum

end LiveChat.Repositories.SessionRepo
