import LiveChat.Core.WebhookRetries

/-!
# What a tool execution yields

`execute` raises nothing: every outcome of every attempt comes to a result.  The result is a
JSON object, and a successful response is passed on, except where the body is no object or its
`result` member is none.
-/

set_option autoImplicit false

namespace LiveChat.Core.ToolExecutor

open LiveChat.Foundation

def Attempt.succeeds (outcome : Attempt) (data : Json) : Prop :=
  ∃ status retryAfter, outcome = .response status retryAfter (some data) ∧ status < 400

/-- The body itself, or its `result` member. -/
def Carries (data result : Json) : Prop :=
  result = data ∨ ∃ members, data = .object members ∧ members.lookup "result" = some result

structure Yields (endpoint : Endpoint) (delivery : Delivery) : Prop where
  object : ∃ members, delivery.result = .object members
  /-- A success that ends the delivery is not reported as an error of the executor. -/
  success : ∀ data, delivery.posts ≠ [] →
    (endpoint.answer delivery.posts.length).succeeds data → Carries data delivery.result

/-- An object whose `result` member, if it has one, is an object. -/
def Wrapped (data : Json) : Prop :=
  ∃ members, data = .object members ∧
    ∀ result, members.lookup "result" = some result → ∃ inner, result = .object inner

/-- If the first outcome that is not retried is a success, its body can be passed on. -/
def SettlesWrapped (endpoint : Endpoint) : Prop :=
  ∀ outcome data, (outcomes endpoint).find? (fun outcome => !outcome.retried) = some outcome →
    outcome.succeeds data → Wrapped data

/-- Whenever the named tool is called through its webhook. -/
def BodiesWrapped (endpoint : Endpoint) (project : ProjectConfig) (name : String) : Prop :=
  ∀ tool url, (toolsByName project).lookup name = some tool → tool.executionMode = .webhook →
    tool.webhookUrl = some url → url ≠ "" → SettlesWrapped endpoint

/-- A successful body comes out as an object that carries it exactly when it is wrapped. -/
theorem unwrapResult_iff (data : Json) :
    ((∃ members, unwrapResult data = .object members) ∧ Carries data (unwrapResult data)) ↔
      Wrapped data := by
  have refused : ∀ message, unwrapResult data = error message →
      (∀ members, data ≠ .object members) →
      (((∃ members, unwrapResult data = .object members) ∧ Carries data (unwrapResult data)) ↔
        Wrapped data) := by
    intro message reported other
    constructor
    · rintro ⟨_, same | ⟨members, same, _⟩⟩
      · exact absurd (same.symm.trans reported) (other _)
      · exact absurd same (other members)
    · rintro ⟨members, same, _⟩
      exact absurd same (other members)
  cases data with
  | object members =>
      cases given : members.lookup "result" with
      | none =>
          have passed : unwrapResult (.object members) = .object members := by
            simp only [unwrapResult, given, Option.getD_none]
          rw [passed]
          refine ⟨fun _ => ⟨members, rfl, fun result there => ?_⟩, fun _ => ⟨⟨_, rfl⟩, Or.inl rfl⟩⟩
          cases given.symm.trans there
      | some result =>
          have passed : unwrapResult (.object members) = result := by
            simp only [unwrapResult, given, Option.getD_some]
          rw [passed]
          constructor
          · rintro ⟨⟨inner, same⟩, _⟩
            refine ⟨members, rfl, fun other there => ⟨inner, ?_⟩⟩
            rw [← same]
            exact (Option.some.inj (given.symm.trans there)).symm
          · rintro ⟨_, same, wrapped⟩
            cases same
            exact ⟨wrapped result given, Or.inr ⟨members, rfl, given⟩⟩
  | number mantissa places =>
      by_cases whole : places = 0
      · exact refused _ (if_pos whole) fun _ same => by cases same
      · exact refused _ (if_neg whole) fun _ same => by cases same
  | _ => exact refused _ rfl fun _ same => by cases same

/-! ## The outcome that settles -/

theorem settles_cases {tool : ToolDefinition} {outcome : Attempt} {result : Json}
    (settled : settles tool outcome = some result) :
    (∃ data, outcome.succeeds data ∧ result = unwrapResult data) ∨
      ((∀ data, ¬ outcome.succeeds data) ∧ ∃ message, result = error message) := by
  cases outcome with
  | response status retryAfter body =>
      simp only [settles, judge] at settled
      split at settled
      · rename_i success
        cases body with
        | none =>
            cases settled
            refine Or.inr ⟨?_, _, rfl⟩
            rintro data ⟨_, _, same, _⟩
            cases same
        | some data =>
            cases settled
            exact Or.inl ⟨data, ⟨status, retryAfter, rfl, success⟩, rfl⟩
      · rename_i failed
        split at settled
        · cases settled
        · cases settled
          refine Or.inr ⟨?_, _, rfl⟩
          rintro data ⟨_, _, same, success⟩
          cases same
          exact failed success
  | timeoutException => cases settled
  | connectError text => cases settled
  | _ =>
      cases settled
      refine Or.inr ⟨?_, _, rfl⟩
      rintro data ⟨_, _, same, _⟩
      cases same

theorem course_ended {endpoint : Endpoint} {tool : ToolDefinition} {request : WebhookRequest}
    {delivery : Delivery} (course : Course endpoint tool request delivery) :
    delivery.posts ≠ [] ∧
      (((outcomes endpoint).find? (fun outcome => !outcome.retried) =
          some (endpoint.answer delivery.posts.length) ∧
        settles tool (endpoint.answer delivery.posts.length) = some delivery.result) ∨
      ((outcomes endpoint).find? (fun outcome => !outcome.retried) = none ∧
        settles tool (endpoint.answer delivery.posts.length) = none ∧
        ∃ message, delivery.result = error message)) := by
  cases course with
  | first ended => simp [outcomes, retried_of_judge ended, settles_of_judge ended, Verdict.result]
  | second retried ended =>
      simp [outcomes, retried_of_judge retried, retried_of_judge ended, settles_of_judge ended,
        Verdict.result]
  | third retried retried' ended =>
      simp [outcomes, retried_of_judge retried, retried_of_judge retried',
        retried_of_judge ended, settles_of_judge ended, Verdict.result]
  | exhausted retried retried' retried'' =>
      refine ⟨by simp, Or.inr ⟨?_, ?_, _, rfl⟩⟩
      · simp [outcomes, retried_of_judge retried, retried_of_judge retried',
          retried_of_judge retried'', Verdict.result]
      · simp [settles_of_judge retried'', Verdict.result]

theorem settles_of_succeeds {tool : ToolDefinition} {outcome : Attempt} {data : Json}
    (succeeds : outcome.succeeds data) : settles tool outcome = some (unwrapResult data) := by
  obtain ⟨status, retryAfter, rfl, success⟩ := succeeds
  simp only [settles, judge, if_pos success, Verdict.result]

theorem yields_of_course {endpoint : Endpoint} {tool : ToolDefinition} {request : WebhookRequest}
    {delivery : Delivery} (course : Course endpoint tool request delivery) :
    Yields endpoint delivery ↔ SettlesWrapped endpoint := by
  obtain ⟨posted, ⟨found, settled⟩ | ⟨unfound, unsettled, message, result⟩⟩ := course_ended course
  · rcases settles_cases settled with ⟨data, succeeds, result⟩ | ⟨fails, message, result⟩
    · have body : ∀ other, (endpoint.answer delivery.posts.length).succeeds other → other = data := by
        rintro other ⟨_, _, same, _⟩
        obtain ⟨_, _, same', _⟩ := succeeds
        cases same.symm.trans same'
        rfl
      have wrapped : SettlesWrapped endpoint ↔ Wrapped data := by
        constructor
        · exact fun every => every _ data found succeeds
        · intro wrapped outcome other found' succeeds'
          cases Option.some.inj (found.symm.trans found')
          exact body other succeeds' ▸ wrapped
      rw [wrapped, ← unwrapResult_iff, ← result]
      constructor
      · exact fun yields => ⟨yields.object, yields.success data posted succeeds⟩
      · rintro ⟨object, carries⟩
        exact ⟨object, fun other _ succeeds' => body other succeeds' ▸ carries⟩
    · refine ⟨fun _ outcome data found' succeeds => ?_, fun _ => ⟨⟨_, result⟩, ?_⟩⟩
      · cases Option.some.inj (found.symm.trans found')
        exact absurd succeeds (fails data)
      · exact fun data _ succeeds => absurd succeeds (fails data)
  · refine ⟨fun _ outcome data found _ => ?_, fun _ => ⟨⟨_, result⟩, fun data _ succeeds => ?_⟩⟩
    · cases unfound.symm.trans found
    · cases unsettled.symm.trans (settles_of_succeeds succeeds)

/-! ## Every execution -/

theorem yields_silently {endpoint : Endpoint} {project : ProjectConfig} {name : String}
    {delivery : Delivery} {members : Json.Object} (result : delivery.result = .object members)
    (silent : delivery.posts = [])
    (other : ∀ tool, (toolsByName project).lookup name = some tool →
      tool.executionMode = .webhook → ∀ url, tool.webhookUrl = some url → url = "") :
    Yields endpoint delivery ↔ BodiesWrapped endpoint project name := by
  constructor
  · intro _ tool url found mode given nonempty
    exact absurd (other tool found mode url given) nonempty
  · exact fun _ => ⟨⟨members, result⟩, fun _ posted => absurd silent posted⟩

theorem bodiesWrapped_of_found {endpoint : Endpoint} {project : ProjectConfig} {name : String}
    {tool : ToolDefinition} {url : String}
    (found : (toolsByName project).lookup name = some tool)
    (mode : tool.executionMode = .webhook) (given : tool.webhookUrl = some url)
    (nonempty : url ≠ "") :
    BodiesWrapped endpoint project name ↔ SettlesWrapped endpoint := by
  constructor
  · exact fun every => every tool url found mode given nonempty
  · intro wrapped other _ found' _ _ _
    cases Option.some.inj (found.symm.trans found')
    exact wrapped

theorem executeWebhook_yields (endpoint : Endpoint) (project : ProjectConfig)
    {name : String} {tool : ToolDefinition}
    (found : (toolsByName project).lookup name = some tool)
    (mode : tool.executionMode = .webhook) (args : Json.Object) (sessionId : String) (callId : Option String) :
    Yields endpoint (executeWebhook endpoint project tool args sessionId callId) ↔
      BodiesWrapped endpoint project name := by
  have unconfigured : (∀ url, tool.webhookUrl = some url → url = "") →
      ∀ other, (toolsByName project).lookup name = some other →
        other.executionMode = .webhook → ∀ url, other.webhookUrl = some url → url = "" := by
    intro absent other found' _
    cases Option.some.inj (found.symm.trans found')
    exact absent
  cases given : tool.webhookUrl with
  | none =>
      simp only [executeWebhook, given]
      exact yields_silently rfl rfl (unconfigured fun url there => by cases given.symm.trans there)
  | some url =>
      by_cases empty : url = ""
      · simp only [executeWebhook, given, if_pos empty]
        refine yields_silently rfl rfl (unconfigured fun other there => ?_)
        cases Option.some.inj (given.symm.trans there)
        exact empty
      · rw [bodiesWrapped_of_found found mode given empty]
        exact yields_of_course
          (course_executeWebhook endpoint project given empty args sessionId callId)

/-- `execute` yields an object and passes successful responses on, exactly when the body that
settles a webhook call is an object without a `result` member that is something else. -/
theorem yields_iff (endpoint : Endpoint) (project : ProjectConfig) (name : String)
    (args : Json.Object) (sessionId : String) (callId : Option String) :
    Yields endpoint (execute endpoint project name args sessionId callId) ↔
      BodiesWrapped endpoint project name := by
  cases found : (toolsByName project).lookup name with
  | none =>
      simp only [execute, found]
      exact yields_silently rfl rfl fun tool there => by cases found.symm.trans there
  | some tool =>
      simp only [execute, found, executeTool]
      cases mode : tool.executionMode with
      | static =>
          have other : ∀ called, (toolsByName project).lookup name = some called →
              called.executionMode = .webhook → ∀ url, called.webhookUrl = some url → url = "" := by
            intro called found' called'
            cases Option.some.inj (found.symm.trans found')
            cases mode.symm.trans called'
          cases given : tool.staticResponse with
          | none =>
              simp only [executeStatic, given]
              exact yields_silently rfl rfl other
          | some response =>
              simp only [executeStatic, given]
              exact yields_silently rfl rfl other
      | webhook => exact executeWebhook_yields endpoint project found mode args sessionId callId

/-- A list in the body is reported as an error, and a text in its `result` member is returned
as it is. -/
theorem yields_fails :
    ¬ Yields (answering [.response 200 .absent (some (.array []))])
        (execute (answering [.response 200 .absent (some (.array []))]) weatherProject "weather"
          [] "s" "c") ∧
      ¬ Yields (answering [.response 200 .absent (some (.object [("result", .string "sunny")]))])
        (execute (answering [.response 200 .absent (some (.object [("result", .string "sunny")]))])
          weatherProject "weather" [] "s" "c") := by
  constructor
  · intro yields
    rcases yields.success (.array []) (by decide) ⟨200, .absent, rfl, by decide⟩ with
      same | ⟨_, same, _⟩
    · revert same
      decide
    · cases same
  · intro yields
    obtain ⟨members, same⟩ := yields.object
    have result : (execute
        (answering [.response 200 .absent (some (.object [("result", .string "sunny")]))])
        weatherProject "weather" [] "s" "c").result = .string "sunny" := by rfl
    cases result.symm.trans same

end LiveChat.Core.ToolExecutor
