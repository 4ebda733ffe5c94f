import Mathlib.Algebra.Order.Field.Rat
import LiveChat.Foundation.Attempts
import LiveChat.Foundation.Calendar
import LiveChat.Foundation.JsonRoundTrip
import LiveChat.Core.SessionState

/-!
# Session lifecycle webhooks

`core/session_events.py`: the payload of an event, its signature, and the delivery with one
retry.  What the customer's endpoint and the transport do is in the answers, by the number of
the attempt.  The body of a delivery says exactly what the payload was built from.
-/

set_option autoImplicit false

namespace LiveChat.Core.SessionEvents

open LiveChat.Foundation
open LiveChat.Foundation.JsonText

def MAX_ATTEMPTS : Nat := 2

def RETRY_DELAY_S : Rat := 3 / 2

def TIMEOUT_S : Rat := 8

/-- A float as `repr` prints it: the mantissa and the number of decimal places. -/
@[ext] structure Decimal where
  mantissa : Int
  places : Nat

def Decimal.value (number : Decimal) : Rat := number.mantissa / 10 ^ number.places

/-- What the standard library computes for this module. -/
structure Library where
  /-- `round(number, 2)`. -/
  round : (number : Rat) → Decimal
  /-- `hmac.new(secret.encode(), body.encode(), sha256).hexdigest()`. -/
  hexdigest : (secret body : String) → String

/-! ## `_build_payload` -/

/-- The arguments of `_build_payload`. -/
structure EventFields where
  event : String
  sessionId : String
  projectId : String
  tenantId : String
  status : String
  startedAt : Instant
  endedAt : Option Instant := none
  durationSeconds : Rat := 0
  turns : Nat := 0
  toolCalls : Nat := 0
  inputTokens : Nat := 0
  outputTokens : Nat := 0
  errorMessage : Option String := none

/-- A timestamp counts microseconds; an instant counts nanoseconds. -/
def microseconds (instant : Instant) : Nat := instant / 1000

def timestamp (instant : Instant) : Json := .string (Calendar.isoformat (microseconds instant))

def count (number : Nat) : Json := .number number 0

def endedMembers (library : Library) (fields : EventFields) : Json.Object :=
  match fields.endedAt with
  | none => []
  | some endedAt =>
      let duration := library.round fields.durationSeconds
      [("ended_at", timestamp endedAt),
        ("duration_seconds", .number duration.mantissa duration.places),
        ("turns", count fields.turns), ("tool_calls", count fields.toolCalls),
        ("input_tokens", count fields.inputTokens), ("output_tokens", count fields.outputTokens),
        ("total_tokens", count (fields.inputTokens + fields.outputTokens))]

/-- An empty message counts as none. -/
def errorMembers : Option String → Json.Object
  | none => []
  | some message => if message = "" then [] else [("error_message", .string message)]

def buildPayload (library : Library) (fields : EventFields) : Json.Object :=
  [("event", .string fields.event), ("session_id", .string fields.sessionId),
    ("project_id", .string fields.projectId), ("tenant_id", .string fields.tenantId),
    ("status", .string fields.status), ("started_at", timestamp fields.startedAt)] ++
    endedMembers library fields ++ errorMembers fields.errorMessage

/-! ## `_deliver` -/

def sign (library : Library) (body secret : String) : String :=
  "sha256=" ++ library.hexdigest secret body

/-- The task that `deliver_session_started` and `deliver_session_closed` create. -/
structure Delivery where
  webhookUrl : String
  webhookSecret : Option String
  payload : Json.Object
  sessionId : String
  event : String

structure EventRequest where
  url : String
  content : String
  headers : List (String × String)
  timeout : Rat

def Delivery.content (delivery : Delivery) : String := dumps compact (.object delivery.payload)

def Delivery.signature (library : Library) (delivery : Delivery) : List (String × String) :=
  match delivery.webhookSecret with
  | none => []
  | some secret =>
      if secret = "" then []
      else [("X-LiveChat-Signature", sign library delivery.content secret)]

def Delivery.request (library : Library) (delivery : Delivery) : EventRequest :=
  { url := delivery.webhookUrl
    content := delivery.content
    headers := [("Content-Type", "application/json"), ("X-LiveChat-Event", delivery.event),
      ("X-LiveChat-Session", delivery.sessionId)] ++ delivery.signature library
    timeout := TIMEOUT_S }

/-- What `await client.post` comes to. -/
inductive PostOutcome where
  | response (status : Nat)
  | raised (text : String)

structure Report where
  posts : List EventRequest := []
  sleeps : List Rat := []
  delivered : Bool := false

/-- A response that ends the delivery. -/
def accepted : PostOutcome → Option Unit
  | .response status => if status < 400 then some () else none
  | .raised _ => none

/-- The rounds that are left; there is no sleep after the last one. -/
def attemptLoop (answer : (attempt : Nat) → PostOutcome) (request : EventRequest) :
    (left : Nat) → Report
  | 0 => {}
  | left + 1 =>
      let attempt := MAX_ATTEMPTS - left
      match accepted (answer attempt) with
      | some () => { posts := [request], delivered := true }
      | none =>
          let later := attemptLoop answer request left
          { later with
            posts := request :: later.posts
            sleeps := (if attempt < MAX_ATTEMPTS then [RETRY_DELAY_S] else []) ++ later.sleeps }

def Delivery.run (library : Library) (answer : (attempt : Nat) → PostOutcome)
    (delivery : Delivery) : Report :=
  attemptLoop answer (delivery.request library) MAX_ATTEMPTS

/-! ## The two events -/

/-- `webhook_url` and `webhook_secret` of the project. -/
structure Webhook where
  url : Option String
  secret : Option String

/-- No task is created without a URL. -/
def deliver (library : Library) (webhook : Webhook) (fields : EventFields) : Option Delivery :=
  match webhook.url with
  | none => none
  | some url =>
      if url = "" then none
      else some
        { webhookUrl := url
          webhookSecret := webhook.secret
          payload := buildPayload library fields
          sessionId := fields.sessionId
          event := fields.event }

def deliverSessionStarted (library : Library) (webhook : Webhook)
    (sessionId projectId tenantId : String) (startedAt : Instant) : Option Delivery :=
  deliver library webhook
    { event := "session.started"
      sessionId := sessionId
      projectId := projectId
      tenantId := tenantId
      status := "active"
      startedAt := startedAt }

def deliverSessionClosed (library : Library) (webhook : Webhook)
    (sessionId projectId tenantId status : String) (startedAt endedAt : Instant)
    (durationSeconds : Rat) (counters : SessionState.Counters) (errorMessage : Option String) :
    Option Delivery :=
  deliver library webhook
    { event := if status = "error" then "session.error" else "session.closed"
      sessionId := sessionId
      projectId := projectId
      tenantId := tenantId
      status := status
      startedAt := startedAt
      endedAt := some endedAt
      durationSeconds := durationSeconds
      turns := counters.turns
      toolCalls := counters.toolCalls
      inputTokens := counters.inputTokens
      outputTokens := counters.outputTokens
      errorMessage := errorMessage }

/-! ## Every request of a delivery -/

/-- As many requests as attempts are made, all of them the same. -/
theorem posts_attemptLoop (answer : Nat → PostOutcome) (request : EventRequest) (left : Nat) :
    (attemptLoop answer request left).posts = List.replicate
      (Attempts.made accepted ((List.range left).reverse.map fun later =>
        answer (MAX_ATTEMPTS - later))) request := by
  induction left with
  | zero => rfl
  | succ left ih =>
      rw [List.range_succ, List.reverse_append, List.reverse_singleton, List.singleton_append,
        List.map_cons]
      unfold attemptLoop
      cases settled : accepted (answer (MAX_ATTEMPTS - left)) with
      | some ending =>
          rw [Attempts.made_of_some _ settled]
          simp only [settled, List.replicate_one]
      | none =>
          rw [Attempts.made_of_none _ settled, List.replicate_succ, ← ih]
          simp only [settled]

theorem post_eq_request (library : Library) (answer : Nat → PostOutcome) (delivery : Delivery)
    {post : EventRequest} (posted : post ∈ (delivery.run library answer).posts) :
    post = delivery.request library := by
  rw [Delivery.run, posts_attemptLoop] at posted
  exact List.eq_of_mem_replicate posted

/-! ## What a body says -/

structure Ending where
  endedAt : Nat
  duration : Decimal
  turns : Nat
  toolCalls : Nat
  inputTokens : Nat
  outputTokens : Nat

/-- The content of an event; times are in microseconds. -/
structure Facts where
  event : String
  sessionId : String
  projectId : String
  tenantId : String
  status : String
  startedAt : Nat
  ending : Option Ending
  errorMessage : Option String

/-- The error message that the body carries. -/
def reported : Option String → Option String
  | none => none
  | some message => if message = "" then none else some message

def EventFields.facts (library : Library) (fields : EventFields) : Facts :=
  { event := fields.event
    sessionId := fields.sessionId
    projectId := fields.projectId
    tenantId := fields.tenantId
    status := fields.status
    startedAt := microseconds fields.startedAt
    ending := fields.endedAt.map fun endedAt =>
      { endedAt := microseconds endedAt
        duration := library.round fields.durationSeconds
        turns := fields.turns
        toolCalls := fields.toolCalls
        inputTokens := fields.inputTokens
        outputTokens := fields.outputTokens }
    errorMessage := reported fields.errorMessage }

@[simp] theorem timestamp_inj {instant other : Instant} :
    timestamp instant = timestamp other ↔ microseconds instant = microseconds other := by
  simp only [timestamp, Json.string.injEq]
  exact ⟨Calendar.isoformat_injective, fun same => by rw [same]⟩

@[simp] theorem count_inj {number other : Nat} : count number = count other ↔ number = other := by
  simp [count]

theorem errorMembers_eq (message : Option String) :
    errorMembers message = ((reported message).map fun text =>
      ("error_message", Json.string text)).toList := by
  cases message with
  | none => rfl
  | some message =>
      by_cases empty : message = "" <;> simp [errorMembers, reported, empty]

theorem wellFormed_buildPayload (library : Library) (fields : EventFields) :
    WellFormed (.object (buildPayload library fields)) := by
  simp only [buildPayload, errorMembers_eq, endedMembers]
  cases fields.endedAt <;> cases reported fields.errorMessage <;>
    simp [WellFormed, WellFormedMembers, timestamp, count]

theorem buildPayload_eq_iff {library : Library} {fields other : EventFields} :
    buildPayload library fields = buildPayload library other ↔
      fields.facts library = other.facts library := by
  simp only [buildPayload, errorMembers_eq, endedMembers, EventFields.facts]
  cases fields.endedAt <;> cases other.endedAt <;> cases reported fields.errorMessage <;>
    cases reported other.errorMessage <;> simp [Decimal.ext_iff, and_assoc]
  -- what is left is the sum of the two token counts
  all_goals
    intros
    omega

/-! ## What the endpoint receives -/

theorem deliver_some {library : Library} {webhook : Webhook} {fields : EventFields}
    {delivery : Delivery} (created : deliver library webhook fields = some delivery) :
    webhook.url = some delivery.webhookUrl ∧ delivery.webhookUrl ≠ "" ∧
      delivery.webhookSecret = webhook.secret ∧
      delivery.payload = buildPayload library fields := by
  unfold deliver at created
  split at created
  · cases created
  · rename_i url there
    split at created
    · cases created
    · rename_i named
      cases created
      exact ⟨there, named, rfl, rfl⟩

/-- The signature header is that of the body under the secret, if there is a secret. -/
def Authentic (library : Library) (secret : Option String) (post : EventRequest) : Prop :=
  post.headers.lookup "X-LiveChat-Signature" =
    (secret.filter fun secret => decide (secret ≠ "")).map (sign library post.content)

theorem authentic_request (library : Library) (delivery : Delivery) :
    Authentic library delivery.webhookSecret (delivery.request library) := by
  simp only [Authentic, Delivery.request, Delivery.signature]
  cases delivery.webhookSecret with
  | none => rfl
  | some secret =>
      by_cases empty : secret = "" <;> simp [empty, List.lookup_cons, Option.filter]

theorem content_eq_iff {library : Library} {webhook webhook' : Webhook}
    {fields other : EventFields} {delivery delivery' : Delivery}
    (created : deliver library webhook fields = some delivery)
    (created' : deliver library webhook' other = some delivery') :
    delivery.content = delivery'.content ↔ fields.facts library = other.facts library := by
  rw [← buildPayload_eq_iff, Delivery.content, Delivery.content, (deliver_some created).2.2.2,
    (deliver_some created').2.2.2]
  constructor
  · intro same
    exact Json.object.inj (dumps_injective compact (wellFormed_buildPayload library fields)
      (wellFormed_buildPayload library other) same)
  · exact fun same => by rw [same]

/-- Whatever the endpoint answers: every request goes to the project's URL, is signed over the
very text that it carries, and this text is read as the payload.  Two requests, of any two
events, carry the same text exactly when the events tell the same facts. -/
theorem post_tells {library : Library} {webhook webhook' : Webhook} {fields other : EventFields}
    {delivery delivery' : Delivery} {answer answer' : Nat → PostOutcome}
    {post post' : EventRequest}
    (created : deliver library webhook fields = some delivery)
    (created' : deliver library webhook' other = some delivery')
    (posted : post ∈ (delivery.run library answer).posts)
    (posted' : post' ∈ (delivery'.run library answer').posts) :
    webhook.url = some post.url ∧ Authentic library webhook.secret post ∧
      loads post.content = some (.object (buildPayload library fields)) ∧
      (post.content = post'.content ↔ fields.facts library = other.facts library) := by
  obtain ⟨url, _, secret, payload⟩ := deliver_some created
  rw [post_eq_request library answer delivery posted,
    post_eq_request library answer' delivery' posted']
  refine ⟨url, secret ▸ authentic_request library delivery, ?_, content_eq_iff created created'⟩
  rw [Delivery.request, Delivery.content, payload]
  exact loads_dumps compact (wellFormed_buildPayload library fields)

/-- No time passes and nothing is signed: `round(0.0, 2)` is `0.0`. -/
def idleLibrary : Library := ⟨fun _ => ⟨0, 1⟩, fun _ _ => ""⟩

def sampleWebhook : Webhook := ⟨some "https://example.com", none⟩

def sampleFields : EventFields :=
  { event := "session.started"
    sessionId := "s"
    projectId := "p"
    tenantId := "t"
    status := "active"
    startedAt := 1709164799000250000 }

def otherFields : EventFields := { sampleFields with sessionId := "other" }

/-- Two started events, the first one refused and then accepted, the second one lost. -/
theorem post_tells_started :
    ∃ delivery delivery', deliver idleLibrary sampleWebhook sampleFields = some delivery ∧
      deliver idleLibrary sampleWebhook otherFields = some delivery' ∧
      ∀ post ∈ (delivery.run idleLibrary
          fun attempt => .response (if attempt = 1 then 503 else 200)).posts,
        ∀ post' ∈ (delivery'.run idleLibrary fun _ => .raised "refused").posts,
          sampleWebhook.url = some post.url ∧ Authentic idleLibrary sampleWebhook.secret post ∧
            loads post.content = some (.object (buildPayload idleLibrary sampleFields)) ∧
            (post.content = post'.content ↔
              sampleFields.facts idleLibrary = otherFields.facts idleLibrary) := by
  have created : deliver idleLibrary sampleWebhook sampleFields = some _ := rfl
  have created' : deliver idleLibrary sampleWebhook otherFields = some _ := rfl
  exact ⟨_, _, created, created', fun _ posted _ posted' =>
    post_tells created created' posted posted'⟩

end LiveChat.Core.SessionEvents
