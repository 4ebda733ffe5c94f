import LiveChat.Foundation.JsonRoundTrip
import LiveChat.Core.ToolCalls
import LiveChat.Core.ToolExecutor

/-!
# What the tools of a session are asked, and what becomes of their answers

`_execute_webhook` posts the compact JSON text of its payload and signs that text.  In a run
whose tools are executed by `ToolExecutor`, a request tells the call that Gemini made, and what
the executor made of the answer is what Gemini is answered and what the client is shown.
-/

set_option autoImplicit false

namespace LiveChat.Core.ToolExecutor

open LiveChat.Foundation
open LiveChat.Foundation.JsonText

/-! ## Requests -/

/-- `json.dumps(payload, separators=(",", ":"))`. -/
def WebhookRequest.content (request : WebhookRequest) : String :=
  dumps compact (.object request.payload)

/-- An endpoint whose digests are those of the texts. -/
def signedBy (hexdigest : (secret body : String) → String) (answer : Nat → Attempt) : Endpoint where
  answer := answer
  digest secret payload := hexdigest secret (dumps compact (.object payload))

/-- The content of a request, once it is read. -/
def callPayload (projectId sessionId name : String) (callId : Option String)
    (args : Json.Object) : Json.Object :=
  [("tool_name", .string name), ("call_id", Json.optionalString callId),
    ("arguments", .object args),
    ("session_id", .string sessionId), ("project_id", .string projectId)]

/-- The request goes to the webhook of the tool that the config holds under the name, tells the
call, and is signed over its very text if the tool has a secret. -/
structure Tells (hexdigest : (secret body : String) → String) (project : ProjectConfig)
    (name : String) (args : Json.Object) (sessionId : String) (callId : Option String)
    (post : WebhookRequest) (tool : ToolDefinition) : Prop where
  found : (toolsByName project).lookup name = some tool
  webhook : tool.executionMode = .webhook
  url : tool.webhookUrl = some post.url
  text : WellFormed (.object args) →
    loads post.content = some (.object (callPayload project.projectId sessionId name callId args))
  signature : post.headers.lookup "X-LiveChat-Signature" =
    (tool.webhookSecret.filter fun secret => decide (secret ≠ "")).map fun secret =>
      "sha256=" ++ hexdigest secret post.content

/-- Every attempt sends the same request. -/
theorem posts_attemptLoop (endpoint : Endpoint) (tool : ToolDefinition) (request : WebhookRequest)
    (left : Nat) (lastError : String) :
    ∀ post ∈ (attemptLoop endpoint tool request left lastError).posts, post = request := by
  induction left generalizing lastError with
  | zero =>
      intro post member
      cases member
  | succ left ih =>
      intro post member
      unfold attemptLoop at member
      simp only at member
      split at member
      · exact List.mem_singleton.mp member
      · rcases List.mem_cons.mp member with here | later
        · exact here
        · exact ih _ post later

theorem wellFormed_callPayload {args : Json.Object} (dict : WellFormed (.object args))
    (projectId sessionId name : String) (callId : Option String) :
    WellFormed (.object (callPayload projectId sessionId name callId args)) := by
  have called : WellFormed (Json.optionalString callId) := by cases callId <;> trivial
  refine ⟨?_, trivial, called, dict, trivial, trivial, trivial⟩
  simp [callPayload]

theorem name_of_lookup {project : ProjectConfig} {name : String} {tool : ToolDefinition}
    (found : (toolsByName project).lookup name = some tool) : tool.name = name := by
  rw [lookup_toolsByName] at found
  simpa using List.find?_some found

theorem tells_webhookRequest (hexdigest : (secret body : String) → String)
    (answer : Nat → Attempt) {project : ProjectConfig} {name url : String} {tool : ToolDefinition}
    (args : Json.Object) (sessionId : String) (callId : Option String)
    (found : (toolsByName project).lookup name = some tool)
    (webhook : tool.executionMode = .webhook) (configured : tool.webhookUrl = some url) :
    Tells hexdigest project name args sessionId callId
      (webhookRequest (signedBy hexdigest answer) project tool url args sessionId callId) tool := by
  refine ⟨found, webhook, configured, fun dict => ?_, ?_⟩
  · simp only [WebhookRequest.content, webhookRequest]
    rw [name_of_lookup found]
    exact loads_dumps compact (wellFormed_callPayload dict project.projectId sessionId name callId)
  · simp only [webhookRequest, WebhookRequest.content, signedBy]
    cases tool.webhookSecret with
    | none => rfl
    | some secret =>
        by_cases empty : secret = "" <;> simp [empty, List.lookup_cons, Option.filter]

/-- Whatever the endpoint answers, all the requests of a call tell it. -/
theorem posts_tell (hexdigest : (secret body : String) → String) (answer : Nat → Attempt)
    (project : ProjectConfig) (name : String) (args : Json.Object) (sessionId : String)
    (callId : Option String) :
    ∀ post ∈ (execute (signedBy hexdigest answer) project name args sessionId callId).posts,
      ∃ tool, Tells hexdigest project name args sessionId callId post tool := by
  intro post posted
  unfold execute at posted
  split at posted
  · cases posted
  · rename_i tool found
    unfold executeTool at posted
    split at posted
    · unfold executeStatic at posted
      split at posted <;> cases posted
    · rename_i webhook
      unfold executeWebhook at posted
      split at posted
      · cases posted
      · rename_i url configured
        split at posted
        · cases posted
        · rw [posts_attemptLoop _ _ _ _ _ post posted]
          exact ⟨tool, tells_webhookRequest hexdigest answer args sessionId callId found webhook
            configured⟩

end LiveChat.Core.ToolExecutor

namespace LiveChat.Core.GeminiRunner

open LiveChat.Foundation
open LiveChat.Foundation.TransitionSystem
open LiveChat.Core.ToolExecutor (Attempt Delivery Tells signedBy)

/-! ## Calls -/

/-- `executor.execute(name=fc.name, args=dict(fc.args) if fc.args else {}, ...)`. -/
def FunctionCall.deliver (hexdigest : (secret body : String) → String) (project : ProjectConfig)
    (sessionId : String) (call : FunctionCall) (answer : Nat → Attempt) : Delivery :=
  ToolExecutor.execute (signedBy hexdigest answer) project call.name (call.args.getD []) sessionId
    call.id

namespace Accounts

section
variable (hexdigest : (secret body : String) → String)

/-- The result is what `execute` returned to the call, whatever its endpoint answered. -/
def Executes (project : ProjectConfig) (sessionId : String) (call : FunctionCall) (result : Json) :
    Prop :=
  ∃ answer, result = (call.deliver hexdigest project sessionId answer).result

/-- The tools are executed by the executor of the session. -/
def Honest (accounts : Accounts) (event : Clock × RunnerEvent) : Prop :=
  ∀ call rest responses result,
    accounts.session.reader event.2 = some (.executing call rest responses, .toolResult result) →
      Executes hexdigest accounts.session.project accounts.session.state.sessionId call result

/-- `execute` returned the result to the call, and all it posted for it tells the call. -/
def Relays (project : ProjectConfig) (sessionId : String) (call : FunctionCall) (result : Json) :
    Prop :=
  ∃ answer, result = (call.deliver hexdigest project sessionId answer).result ∧
    ∀ post ∈ (call.deliver hexdigest project sessionId answer).posts, ∃ tool,
      Tells hexdigest project call.name (call.args.getD []) sessionId call.id post tool

/-- What is known of the tool calls of a session. -/
structure Relayed (project : ProjectConfig) (sessionId : String) (accounts : Accounts) : Prop where
  /-- One `send_tool_response` answers all the calls of a message, in order. -/
  answers : ∀ message ∈ accounts.messages, message.status = .processed → ∃ results,
    List.Forall₂ (Relays hexdigest project sessionId) message.calls results ∧
      message.sent = [List.zipWith (fun call result => ⟨call.id, call.name, result⟩)
        message.calls results]
  /-- The frames that the outbox was offered show the calls that returned, in order. -/
  frames : accounts.session.state.framesOffered.filter OutboxFrame.isToolCall =
    (accounts.messages.flatMap ToolMessage.returned).map showCall
  returned : ∀ message ∈ accounts.messages, ∀ returned ∈ message.returned,
    returned.1 ∈ message.calls ∧ Relays hexdigest project sessionId returned.1 returned.2

end

/-! ## What the record keeps -/

section
variable {hexdigest : (secret body : String) → String} {project : ProjectConfig}
variable {sessionId : String}

theorem relays_of_executes {call : FunctionCall} {result : Json}
    (executes : Executes hexdigest project sessionId call result) :
    Relays hexdigest project sessionId call result := by
  obtain ⟨answer, rfl⟩ := executes
  exact ⟨answer, rfl, ToolExecutor.posts_tell hexdigest answer project call.name
    (call.args.getD []) sessionId call.id⟩

/-- The calls that returned are calls of the message, and the executor returned the results. -/
def Executed (hexdigest : (secret body : String) → String) (project : ProjectConfig)
    (sessionId : String) (message : ToolMessage) : Prop :=
  ∀ returned ∈ message.returned, returned.1 ∈ message.calls ∧
    Executes hexdigest project sessionId returned.1 returned.2

theorem executed_modifyLast {messages : List ToolMessage} {change : ToolMessage → ToolMessage}
    (executed : ∀ message ∈ messages, Executed hexdigest project sessionId message)
    (kept : ∀ message, (change message).returned = message.returned ∧
      (change message).calls = message.calls) :
    ∀ message ∈ messages.modifyLast change, Executed hexdigest project sessionId message := by
  rcases List.eq_nil_or_concat messages with rfl | ⟨front, last, rfl⟩
  · exact executed
  · rw [List.concat_eq_append, List.modifyLast_concat]
    rw [List.concat_eq_append] at executed
    intro message member
    rcases List.mem_append.mp member with before | here
    · exact executed message (List.mem_append_left _ before)
    · obtain rfl := List.mem_singleton.mp here
      have whole := executed last (List.mem_append_right _ (List.mem_singleton_self _))
      unfold Executed
      rw [(kept last).1, (kept last).2]
      exact whole

theorem executed_note {earlier current : List ToolMessage} {after : Option Consumer}
    {consumer : Consumer} {given : ConsumerEvent} (inHand : InHand (some consumer) current)
    (executed : ∀ message ∈ earlier ++ current, Executed hexdigest project sessionId message)
    (honest : ∀ call rest responses result,
      (consumer, given) = (.executing call rest responses, .toolResult result) →
        Executes hexdigest project sessionId call result) :
    ∀ message ∈ note (earlier ++ current) after consumer given,
      Executed hexdigest project sessionId message := by
  unfold note
  split
  · rename_i message
    split
    · intro other member
      rcases List.mem_append.mp member with before | new
      · exact executed other before
      · obtain rfl := List.mem_singleton.mp new
        exact fun _ there => absurd there List.not_mem_nil
    · exact executed
  · rename_i call rest responses result
    cases inHand with
    | executing returned call rest =>
        rw [List.modifyLast_concat]
        intro message member
        rcases List.mem_append.mp member with before | here
        · exact executed message (List.mem_append_left _ before)
        · obtain rfl := List.mem_singleton.mp here
          intro known there
          rcases List.mem_append.mp there with old | new
          · exact executed _ (List.mem_append_right _ (List.mem_singleton_self _)) known old
          · obtain rfl := List.mem_singleton.mp new
            exact ⟨List.mem_append_right _ List.mem_cons_self, honest _ _ _ _ rfl⟩
  · exact executed_modifyLast executed fun _ => ⟨rfl, rfl⟩
  · exact executed

/-! ## Runs -/

/-- The record of a session of the project, whose tools are executed by the executor. -/
structure Faithful (hexdigest : (secret body : String) → String) (project : ProjectConfig)
    (sessionId : String) (accounts : Accounts) : Prop where
  kept : accounts.Kept
  quiet : accounts.session.Quiet
  ofProject : accounts.session.project = project
  ofSession : accounts.session.state.sessionId = sessionId
  executed : ∀ message ∈ accounts.messages, Executed hexdigest project sessionId message

theorem faithful_spawn (clock : Clock) (sessionId apiKeyId : String) (project : ProjectConfig)
    (sessionRepo : Bool) :
    Faithful hexdigest project sessionId
      { session := Session.spawn clock sessionId apiKeyId project sessionRepo } :=
  ⟨kept_spawn clock sessionId apiKeyId project sessionRepo, fun _ => rfl, rfl, rfl,
    fun _ member => absurd member List.not_mem_nil⟩

theorem executed_follow {accounts : Accounts} {clock : Clock} {event : RunnerEvent}
    (faithful : Faithful hexdigest project sessionId accounts)
    (honest : Honest hexdigest accounts (clock, event)) (next : Session) :
    ∀ message ∈ (accounts.follow event next).messages,
      Executed hexdigest project sessionId message := by
  cases reads : accounts.session.reader event with
  | some read =>
      obtain ⟨consumer, given⟩ := read
      obtain ⟨earlier, current, listed, _, inHand⟩ := faithful.kept.split
      rw [Session.atWork_reader faithful.kept.one reads] at inHand
      have executed := faithful.executed
      rw [listed] at executed
      simp only [follow, reads, listed]
      refine executed_note inHand executed fun call rest responses result same => ?_
      have returned := honest call rest responses result (by rw [reads, same])
      rw [faithful.ofProject, faithful.ofSession] at returned
      exact returned
  | none =>
      simp only [follow, reads]
      split
      · exact executed_modifyLast faithful.executed fun _ => ⟨rfl, rfl⟩
      · exact faithful.executed

theorem faithful_step {accounts next : Accounts} {event : Clock × RunnerEvent}
    (faithful : Faithful hexdigest project sessionId accounts)
    (honest : Honest hexdigest accounts event) (run : accounts.step event = some next) :
    Faithful hexdigest project sessionId next := by
  obtain ⟨clock, event⟩ := event
  have kept := kept_step faithful.kept run
  unfold step at run
  split at run
  · cases run
  · obtain ⟨session, stepped, rfl⟩ := Option.map_eq_some_iff.mp run
    have same := Session.same_step faithful.quiet stepped
    have followed : (accounts.follow event session).session = session := by
      unfold follow
      split <;> rfl
    refine ⟨kept, ?_, ?_, ?_, executed_follow faithful honest session⟩
    · rw [followed]
      exact Session.quiet_step faithful.quiet stepped
    · rw [followed]
      exact same.project.trans faithful.ofProject
    · rw [followed]
      exact same.sessionId.trans faithful.ofSession

theorem relayed_of_faithful {accounts : Accounts}
    (faithful : Faithful hexdigest project sessionId accounts) :
    Relayed hexdigest project sessionId accounts := by
  refine ⟨?_, faithful.kept.shown, ?_⟩
  · intro message member processed
    have answered := (accounted_of_kept faithful.kept).answered message member processed
    refine ⟨message.returned.map Prod.snd, ?_, ?_⟩
    · rw [← answered.calls, List.forall₂_map_left_iff, List.forall₂_map_right_iff,
        List.forall₂_same]
      exact fun returned there =>
        relays_of_executes (faithful.executed message member returned there).2
    · rw [answered.sent, ← answered.calls, List.zipWith_map, List.zipWith_self]
      rfl
  · intro message member returned there
    obtain ⟨asked, executes⟩ := faithful.executed message member returned there
    exact ⟨asked, relays_of_executes executes⟩

end

/-- In every run of a session whose tools `ToolExecutor` executes, whatever the customers'
endpoints answer: Gemini is answered all the calls of a message at once and in order, each with
what was returned for it, the client is shown the same, and every request that was posted for a
call tells that call to the webhook of the tool it names. -/
theorem calls_relayed (hexdigest : (secret body : String) → String) (clock : Clock)
    (sessionId apiKeyId : String) (project : ProjectConfig) (sessionRepo : Bool)
    (events : List (Clock × RunnerEvent))
    (honest : Along step (Honest hexdigest)
      { session := Session.spawn clock sessionId apiKeyId project sessionRepo } events) :
    Always step (Relayed hexdigest project sessionId)
      { session := Session.spawn clock sessionId apiKeyId project sessionRepo } events :=
  (always_of_along (Faithful hexdigest project sessionId)
    (fun _ _ _ faithful honest stepped => faithful_step faithful honest stepped)
    (faithful_spawn clock sessionId apiKeyId project sessionRepo) honest).mono
    fun _ faithful => relayed_of_faithful faithful

/-- A project with one webhook tool, and a call of it. -/
def orderProject : ProjectConfig :=
  { projectId := "p"
    name := "Shop"
    systemPrompt := ""
    tools := [{ name := "order", description := "Places an order.", parameters := []
                executionMode := .webhook, webhookUrl := some "https://example.com"
                webhookSecret := some "secret" }] }

def orderCall : FunctionCall :=
  { id := some "c1", name := "order", args := some [("item", .string "tea")] }

/-- A call without an id, of a tool that the project does not have. -/
def strayCall : FunctionCall := { id := none, name := "refund", args := none }

/-- The endpoint is busy, and then takes the order. -/
def orderAnswer (attempt : Nat) : Attempt :=
  if attempt = 1 then .response 503 .absent none
  else .response 200 .absent (some (.object [("result", .object [("ok", .bool true)])]))

def orderResult : Json := .object [("ok", .bool true)]

def strayResult : Json := .object [("error", .string "Unknown tool: 'refund'")]

/-- A text turn with two tool calls. -/
def orderEvents : List (Clock × RunnerEvent) :=
  [.start none, .connected, .putInbox (.text "Tea, please."), .frame, .sent,
    .consume (.response { toolCall := some (some [orderCall, strayCall]) }),
    .consume (.toolResult orderResult), .consume (.toolResult strayResult),
    .consume .toolResponseSent].map fun event => (⟨0, 0⟩, event)

theorem calls_relayed_order :
    let digest := fun secret body : String => secret ++ body
    let start : Accounts := { session := Session.spawn ⟨0, 0⟩ "s" "key" orderProject true }
    ((exec step start orderEvents).map fun accounts => accounts.messages.map fun message =>
        message.sent) =
        some [[[⟨some "c1", "order", orderResult⟩, ⟨none, "refund", strayResult⟩]]] ∧
      (orderCall.deliver digest orderProject "s" orderAnswer).posts.length = 2 ∧
      Always step (Relayed digest orderProject "s") start orderEvents := by
  intro digest start
  have honest : Along step (Honest digest) start orderEvents := by
    refine fun _ first => ⟨nofun, ?_⟩
    cases first
    refine fun _ second => ⟨nofun, ?_⟩
    cases second
    refine fun _ third => ⟨nofun, ?_⟩
    cases third
    refine fun _ fourth => ⟨nofun, ?_⟩
    cases fourth
    refine fun _ fifth => ⟨nofun, ?_⟩
    cases fifth
    refine fun _ sixth => ⟨nofun, ?_⟩
    cases sixth
    refine fun _ seventh => ⟨?_, ?_⟩
    · intro call rest responses result here
      cases here
      exact ⟨orderAnswer, rfl⟩
    cases seventh
    refine fun _ eighth => ⟨?_, ?_⟩
    · intro call rest responses result here
      cases here
      exact ⟨orderAnswer, rfl⟩
    cases eighth
    exact fun _ _ => ⟨nofun, trivial⟩
  exact ⟨rfl, rfl, calls_relayed digest ⟨0, 0⟩ "s" "key" orderProject true orderEvents honest⟩

end Accounts

end LiveChat.Core.GeminiRunner
