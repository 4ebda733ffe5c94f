import Mathlib.Algebra.Order.Field.Rat
import Mathlib.Data.List.AList
import LiveChat.Core.Schemas

/-!
# The tool executor

`core/tool_executor.py`.  What the customer's endpoint and the transport do is in the
`Endpoint`: the outcome of each attempt by its number, and the HMAC digest of a body.  Times
are in seconds, as exact rationals; `Delivery` lists the requests that were sent and the
sleeps between them.
-/

set_option autoImplicit false

namespace LiveChat.Core.ToolExecutor

open LiveChat.Foundation

def MAX_ATTEMPTS : Nat := 3

def BASE_DELAY_S : Rat := 1

def BACKOFF_FACTOR : Rat := 2

def RETRYABLE_STATUS : List Nat := [429, 500, 502, 503, 504]

/-! ## Attempts -/

/-- What `float` makes of a text. -/
inductive PyFloat where
  | finite (value : Rat)
  | infinite (negative : Bool)
  | nan

/-- A header that is absent, one that `float` rejects, or a number. -/
inductive RetryAfter where
  | absent
  | unparseable
  | number (value : PyFloat)

/-- What `await client.post` comes to. -/
inductive Attempt where
  /-- `body` is `none` when `resp.json()` raises. -/
  | response (status : Nat) (retryAfter : RetryAfter) (body : Option Json)
  | timeoutException
  | connectError (text : String)
  /-- A read, write or protocol error of the transport. -/
  | transportError (text : String)
  | otherException (text : String)

structure WebhookRequest where
  url : String
  payload : Json.Object
  headers : List (String × String)
  timeout : Rat

structure Endpoint where
  answer : (attempt : Nat) → Attempt
  /-- `hmac.new(secret, body, sha256).hexdigest()` of the compact JSON text. -/
  digest : (secret : String) → (payload : Json.Object) → String

/-- What `execute` returns, and what it did before. -/
structure Delivery where
  result : Json
  posts : List WebhookRequest := []
  sleeps : List Rat := []

def error (message : String) : Json := .object [("error", .string message)]

/-! ## `_parse_retry_after` -/

/-- `none` is an infinite wait; `max(0.0, nan)` is `0.0`. -/
def parseRetryAfter (header : RetryAfter) (fallback : Rat) : Option Rat :=
  match header with
  | .absent | .unparseable => some fallback
  | .number (.finite value) => some (max 0 value)
  | .number (.infinite false) => none
  | .number (.infinite true) | .number .nan => some 0

/-- `min(retry_after, total_budget_s / 2)`. -/
def capWait (retryAfter : Option Rat) (bound : Rat) : Rat :=
  match retryAfter with
  | none => bound
  | some wait => min wait bound

/-! ## `_execute_webhook` -/

/-- `data.get("result", data)`, an `AttributeError` unless `data` is an object. -/
def unwrapResult : Json → Json
  | .object members => (members.lookup "result").getD (.object members)
  | .null => error "'NoneType' object has no attribute 'get'"
  | .bool _ => error "'bool' object has no attribute 'get'"
  | .number _ places =>
      if places = 0 then error "'int' object has no attribute 'get'"
      else error "'float' object has no attribute 'get'"
  | .string _ => error "'str' object has no attribute 'get'"
  | .array _ => error "'list' object has no attribute 'get'"

def totalBudgetS (tool : ToolDefinition) : Rat := (tool.timeoutMs : Rat) / 1000

def perAttemptS (tool : ToolDefinition) : Rat := max 1 (totalBudgetS tool / MAX_ATTEMPTS)

def webhookRequest (endpoint : Endpoint) (project : ProjectConfig) (tool : ToolDefinition)
    (url : String) (args : Json.Object) (sessionId : String) (callId : Option String) :
    WebhookRequest :=
  let payload : Json.Object :=
    [("tool_name", .string tool.name), ("call_id", Json.optionalString callId), ("arguments", .object args),
      ("session_id", .string sessionId), ("project_id", .string project.projectId)]
  let signature := match tool.webhookSecret with
    | none => []
    | some secret =>
        if secret = "" then []
        else [("X-LiveChat-Signature", "sha256=" ++ endpoint.digest secret payload)]
  { url := url
    payload := payload
    headers := [("Content-Type", "application/json"), ("X-LiveChat-Session", sessionId),
      ("X-LiveChat-Project", project.projectId)] ++ signature
    timeout := perAttemptS tool }

/-- An attempt ends the delivery with a result, or is retried after a sleep. -/
inductive Verdict where
  | done (result : Json)
  | retry (lastError : String) (sleep : Rat)

/-- One round of the loop; the sleep is left out in the last one. -/
def judge (tool : ToolDefinition) (attempt : Nat) : Attempt → Verdict
  | .response status retryAfter body =>
      if status < 400 then
        match body with
        | none =>
            .done (error ("Webhook returned HTTP " ++ toString status ++
              " but the response body was not valid JSON."))
        | some data => .done (unwrapResult data)
      else if status ∈ RETRYABLE_STATUS then
        .retry ("HTTP " ++ toString status ++ " on attempt " ++ toString attempt)
          (capWait (parseRetryAfter retryAfter (perAttemptS tool)) (totalBudgetS tool / 2))
      else
        .done (error ("Webhook returned HTTP " ++ toString status ++
          ". Check the webhook URL and authentication."))
  | .timeoutException =>
      .retry ("Timeout on attempt " ++ toString attempt)
        (BASE_DELAY_S * BACKOFF_FACTOR ^ (attempt - 1))
  | .connectError text =>
      .retry ("Connection error on attempt " ++ toString attempt ++ ": " ++ text)
        (BASE_DELAY_S * BACKOFF_FACTOR ^ (attempt - 1))
  | .transportError text | .otherException text => .done (error text)

/-- The rounds that are left. -/
def attemptLoop (endpoint : Endpoint) (tool : ToolDefinition) (request : WebhookRequest) :
    (left : Nat) → (lastError : String) → Delivery
  | 0, lastError =>
      { result := error ("Webhook failed after " ++ toString MAX_ATTEMPTS ++
          " attempts. Last error: " ++ lastError) }
  | left + 1, _ =>
      let attempt := MAX_ATTEMPTS - left
      match judge tool attempt (endpoint.answer attempt) with
      | .done result => { result := result, posts := [request] }
      | .retry lastError sleep =>
          let later := attemptLoop endpoint tool request left lastError
          { result := later.result
            posts := request :: later.posts
            sleeps := if attempt < MAX_ATTEMPTS then sleep :: later.sleeps else later.sleeps }

def deliver (endpoint : Endpoint) (project : ProjectConfig) (tool : ToolDefinition)
    (url : String) (args : Json.Object) (sessionId : String) (callId : Option String) : Delivery :=
  attemptLoop endpoint tool (webhookRequest endpoint project tool url args sessionId callId)
    MAX_ATTEMPTS "No attempts made"

def executeWebhook (endpoint : Endpoint) (project : ProjectConfig) (tool : ToolDefinition)
    (args : Json.Object) (sessionId : String) (callId : Option String) : Delivery :=
  match tool.webhookUrl with
  | none => { result := error "No webhook URL configured for this tool." }
  | some url =>
      if url = "" then { result := error "No webhook URL configured for this tool." }
      else deliver endpoint project tool url args sessionId callId

/-! ## `execute` -/

def executeStatic (tool : ToolDefinition) : Delivery :=
  match tool.staticResponse with
  | none => { result := .object [("status", .string "ok")] }
  | some response => { result := .object response }

/-- `{t.name: t for t in project.tools}`; a later tool replaces an earlier one of its name. -/
def toolsByName (project : ProjectConfig) : AList fun _ : String => ToolDefinition :=
  project.tools.foldl (fun tools tool => tools.insert tool.name tool) ∅

/-- The text of `name!r` is right for names without quotes and escapes. -/
def unknownTool (name : String) : Json := error ("Unknown tool: '" ++ name ++ "'")

/-- What the tool's mode asks for. -/
def executeTool (endpoint : Endpoint) (project : ProjectConfig) (tool : ToolDefinition)
    (args : Json.Object) (sessionId : String) (callId : Option String) : Delivery :=
  match tool.executionMode with
  | .static => executeStatic tool
  | .webhook => executeWebhook endpoint project tool args sessionId callId

def execute (endpoint : Endpoint) (project : ProjectConfig) (name : String)
    (args : Json.Object) (sessionId : String) (callId : Option String) : Delivery :=
  match (toolsByName project).lookup name with
  | none => { result := unknownTool name }
  | some tool => executeTool endpoint project tool args sessionId callId

/-! ## Dispatch by name -/

theorem lookup_foldl_insert (tools : List ToolDefinition)
    (start : AList fun _ : String => ToolDefinition) (name : String) :
    (tools.foldl (fun table tool => table.insert tool.name tool) start).lookup name =
      ((tools.reverse.find? fun tool => tool.name == name).or (start.lookup name)) := by
  induction tools generalizing start with
  | nil => rfl
  | cons tool rest ih =>
      rw [List.foldl_cons, ih, List.reverse_cons, List.find?_append]
      by_cases same : tool.name = name
      · subst same
        simp [AList.lookup_insert]
      · rw [AList.lookup_insert_ne fun equal => same equal.symm]
        simp [same]

/-- The last tool of the name. -/
theorem lookup_toolsByName (project : ProjectConfig) (name : String) :
    (toolsByName project).lookup name =
      project.tools.reverse.find? fun tool => tool.name == name := by
  rw [toolsByName, lookup_foldl_insert]
  simp

/-- Distinct names leave no tool in the shadow of another. -/
theorem lookup_declared {project : ProjectConfig}
    (distinct : (project.tools.map ToolDefinition.name).Nodup) {tool : ToolDefinition}
    (declared : tool ∈ project.tools) :
    (toolsByName project).lookup tool.name = some tool := by
  rw [lookup_toolsByName]
  cases found : project.tools.reverse.find? fun other => other.name == tool.name with
  | none =>
      have absent := List.find?_eq_none.mp found tool (List.mem_reverse.mpr declared)
      exact absurd (beq_self_eq_true tool.name) absent
  | some other =>
      have named : other.name = tool.name := by simpa using List.find?_some found
      have member : other ∈ project.tools :=
        List.mem_reverse.mp (List.mem_of_find?_eq_some found)
      rw [List.inj_on_of_nodup_map distinct member declared named]

end LiveChat.Core.ToolExecutor
