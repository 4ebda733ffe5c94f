import LiveChat.Foundation.Attempts
import LiveChat.Core.ToolExecutor

/-!
# Which webhook attempts are retried

`Course` lists the ways through the retry loop of `_execute_webhook`.  The documented policy
retries network errors, HTTP 429 and every HTTP 5xx; the loop retries the statuses of
`_RETRYABLE_STATUS`, timeouts and failed connections.  It follows the policy on exactly those
outcomes of whose first two attempts none is another transient failure; on the last attempt such
a failure is reported in its own words.
-/

set_option autoImplicit false

namespace LiveChat.Core.ToolExecutor

open LiveChat.Foundation
open LiveChat.Foundation.Attempts

/-! ## Ways through the loop -/

/-- The result that ends the loop. -/
def Verdict.result : Verdict → Option Json
  | .done result => some result
  | .retry _ _ => none

def exhausted (lastError : String) : Json :=
  error ("Webhook failed after " ++ toString MAX_ATTEMPTS ++ " attempts. Last error: " ++ lastError)

inductive Course (endpoint : Endpoint) (tool : ToolDefinition) (request : WebhookRequest) :
    Delivery → Prop where
  | first {result : Json} (ended : judge tool 1 (endpoint.answer 1) = .done result) :
      Course endpoint tool request ⟨result, [request], []⟩
  | second {result : Json} {failure : String} {wait : Rat}
      (retried : judge tool 1 (endpoint.answer 1) = .retry failure wait)
      (ended : judge tool 2 (endpoint.answer 2) = .done result) :
      Course endpoint tool request ⟨result, [request, request], [wait]⟩
  | third {result : Json} {failure failure' : String} {wait wait' : Rat}
      (retried : judge tool 1 (endpoint.answer 1) = .retry failure wait)
      (retried' : judge tool 2 (endpoint.answer 2) = .retry failure' wait')
      (ended : judge tool 3 (endpoint.answer 3) = .done result) :
      Course endpoint tool request ⟨result, [request, request, request], [wait, wait']⟩
  | exhausted {failure failure' lastError : String} {wait wait' unused : Rat}
      (retried : judge tool 1 (endpoint.answer 1) = .retry failure wait)
      (retried' : judge tool 2 (endpoint.answer 2) = .retry failure' wait')
      (retried'' : judge tool 3 (endpoint.answer 3) = .retry lastError unused) :
      Course endpoint tool request
        ⟨ToolExecutor.exhausted lastError, [request, request, request], [wait, wait']⟩

theorem course_attemptLoop (endpoint : Endpoint) (tool : ToolDefinition)
    (request : WebhookRequest) (start : String) :
    Course endpoint tool request (attemptLoop endpoint tool request MAX_ATTEMPTS start) := by
  cases first : judge tool 1 (endpoint.answer 1) with
  | done result =>
      have run : attemptLoop endpoint tool request MAX_ATTEMPTS start =
          ⟨result, [request], []⟩ := by
        simp [attemptLoop, MAX_ATTEMPTS, first]
      exact run ▸ .first first
  | retry failure wait =>
      cases second : judge tool 2 (endpoint.answer 2) with
      | done result =>
          have run : attemptLoop endpoint tool request MAX_ATTEMPTS start =
              ⟨result, [request, request], [wait]⟩ := by
            simp [attemptLoop, MAX_ATTEMPTS, first, second]
          exact run ▸ .second first second
      | retry failure' wait' =>
          cases third : judge tool 3 (endpoint.answer 3) with
          | done result =>
              have run : attemptLoop endpoint tool request MAX_ATTEMPTS start =
                  ⟨result, [request, request, request], [wait, wait']⟩ := by
                simp [attemptLoop, MAX_ATTEMPTS, first, second, third]
              exact run ▸ .third first second third
          | retry lastError unused =>
              have run : attemptLoop endpoint tool request MAX_ATTEMPTS start =
                  ⟨ToolExecutor.exhausted lastError, [request, request, request],
                    [wait, wait']⟩ := by
                simp [attemptLoop, MAX_ATTEMPTS, first, second, third, ToolExecutor.exhausted]
              exact run ▸ .exhausted first second third

theorem course_executeWebhook (endpoint : Endpoint) (project : ProjectConfig)
    {tool : ToolDefinition} {url : String} (configured : tool.webhookUrl = some url)
    (nonempty : url ≠ "") (args : Json.Object) (sessionId : String) (callId : Option String) :
    Course endpoint tool (webhookRequest endpoint project tool url args sessionId callId)
      (executeWebhook endpoint project tool args sessionId callId) := by
  have run : executeWebhook endpoint project tool args sessionId callId =
      deliver endpoint project tool url args sessionId callId := by
    simp only [executeWebhook, configured, if_neg nonempty]
  rw [run]
  exact course_attemptLoop endpoint tool _ _

/-! ## The policy and the loop -/

/-- A network-level error, HTTP 429 or any HTTP 5xx. -/
def Attempt.transient : Attempt → Bool
  | .response status _ _ => status == 429 || (decide (500 ≤ status) && decide (status < 600))
  | .timeoutException | .connectError _ | .transportError _ => true
  | .otherException _ => false

/-- Transient, but neither among `_RETRYABLE_STATUS` nor in the two `except` clauses that retry. -/
def Attempt.unlisted : Attempt → Bool
  | .response status _ _ =>
      decide (500 ≤ status) && decide (status < 600) && !decide (status ∈ RETRYABLE_STATUS)
  | .transportError _ => true
  | .timeoutException | .connectError _ | .otherException _ => false

/-- A failure that the loop retries. -/
def Attempt.retried (outcome : Attempt) : Bool := outcome.transient && !outcome.unlisted

/-- The result with which an outcome ends the loop, if it does; neither the tool nor the number
of the attempt matters (`judge_result`). -/
def settles (tool : ToolDefinition) (outcome : Attempt) : Option Json :=
  (judge tool 1 outcome).result

/-- A transient outcome is retried, any other one settles. -/
def policy (tool : ToolDefinition) (outcome : Attempt) : Option Json :=
  if outcome.transient then none else settles tool outcome

/-- What the endpoint has in store for the attempts. -/
def outcomes (endpoint : Endpoint) : List Attempt :=
  [endpoint.answer 1, endpoint.answer 2, endpoint.answer 3]

/-- The position of the first final outcome; it lies beyond the attempts when there is none. -/
def firstFinal (endpoint : Endpoint) : Nat :=
  (outcomes endpoint).findIdx (fun outcome => !outcome.transient) + 1

/-- The loop runs out of attempts. -/
def Exhausts (endpoint : Endpoint) (tool : ToolDefinition) : Prop :=
  ∀ outcome ∈ outcomes endpoint, settles tool outcome = none

def ReturnsExhausted (endpoint : Endpoint) (tool : ToolDefinition) (delivery : Delivery) : Prop :=
  Exhausts endpoint tool ∧ ∃ lastError, delivery.result = exhausted lastError

def AllTransient (endpoint : Endpoint) : Prop :=
  ∀ outcome ∈ outcomes endpoint, outcome.transient = true

structure FollowsPolicy (endpoint : Endpoint) (tool : ToolDefinition) (delivery : Delivery) :
    Prop where
  posts : delivery.posts.length = min MAX_ATTEMPTS (firstFinal endpoint)
  final : ∀ outcome, (outcomes endpoint)[firstFinal endpoint - 1]? = some outcome →
    settles tool outcome = some delivery.result
  exhausted : ReturnsExhausted endpoint tool delivery → AllTransient endpoint

/-- Among the first attempts that the policy asks for there is no transient failure that the
loop does not know. -/
def Listed (endpoint : Endpoint) (attempts : Nat) : Prop :=
  ∀ outcome ∈ (outcomes endpoint).take (min attempts (firstFinal endpoint)),
    outcome.unlisted = false

instance (endpoint : Endpoint) (attempts : Nat) : Decidable (Listed endpoint attempts) :=
  inferInstanceAs (Decidable (∀ outcome ∈ _, _ = false))

theorem judge_result (tool : ToolDefinition) (attempt : Nat) (outcome : Attempt) :
    (judge tool attempt outcome).result = settles tool outcome := by
  cases outcome with
  | response status retryAfter body =>
      simp only [settles, judge]
      split
      · cases body <;> rfl
      · split <;> rfl
  | _ => rfl

/-- The loop settles whatever is final, and the transient failures that it does not know. -/
theorem settles_isSome (tool : ToolDefinition) (outcome : Attempt) :
    (settles tool outcome).isSome = (!outcome.transient || outcome.unlisted) := by
  cases outcome with
  | response status retryAfter body =>
      simp only [settles, judge, Attempt.transient, Attempt.unlisted]
      by_cases success : status < 400
      · have final : (status == 429 || decide (500 ≤ status) && decide (status < 600)) = false := by
          simp
          omega
        rw [if_pos success, final]
        cases body <;> rfl
      · rw [if_neg success]
        by_cases listed : status ∈ RETRYABLE_STATUS
        · have transient := (by decide : ∀ status ∈ RETRYABLE_STATUS,
            (status == 429 || decide (500 ≤ status) && decide (status < 600)) = true) status listed
          rw [if_pos listed, transient]
          simp [Verdict.result, listed]
        · have other : status ≠ 429 := by
            rintro rfl
            exact listed (by decide)
          rw [if_neg listed]
          simp [Verdict.result, listed, other]
          omega
  | _ => rfl

theorem hasty (tool : ToolDefinition) : Hasty (settles tool) (policy tool) := by
  intro outcome result settled
  unfold policy at settled
  split at settled
  · cases settled
  · exact settled

theorem policy_isSome (tool : ToolDefinition) (outcome : Attempt) :
    (policy tool outcome).isSome = !outcome.transient := by
  unfold policy
  split
  · rename_i transient
    rw [transient]
    rfl
  · rename_i final
    rw [settles_isSome]
    simp [final]

/-! ## The loop as a series of attempts -/

theorem made_policy (endpoint : Endpoint) (tool : ToolDefinition) :
    made (policy tool) (outcomes endpoint) = min MAX_ATTEMPTS (firstFinal endpoint) := by
  rw [made_eq_min]
  simp only [policy_isSome]
  rfl

theorem settles_of_judge {tool : ToolDefinition} {attempt : Nat} {outcome : Attempt}
    {verdict : Verdict} (judged : judge tool attempt outcome = verdict) :
    settles tool outcome = verdict.result := by
  rw [← judge_result tool attempt, judged]

theorem retried_of_judge {tool : ToolDefinition} {attempt : Nat} {outcome : Attempt}
    {verdict : Verdict} (judged : judge tool attempt outcome = verdict) :
    outcome.retried = verdict.result.isNone := by
  have settled := settles_isSome tool outcome
  rw [settles_of_judge judged] at settled
  rw [← Option.not_isSome, settled, Attempt.retried, Bool.not_or, Bool.not_not]

/-- A delivery makes the attempts of the series, and returns its result. -/
theorem course_series {endpoint : Endpoint} {tool : ToolDefinition} {request : WebhookRequest}
    {delivery : Delivery} (course : Course endpoint tool request delivery) :
    delivery.posts = List.replicate (made (settles tool) (outcomes endpoint)) request ∧
      (∃ lastError, delivery.result =
        ((outcomes endpoint).findSome? (settles tool)).getD (exhausted lastError)) := by
  cases course with
  | first ended => simp [outcomes, made, settles_of_judge ended, Verdict.result]
  | second retried ended =>
      simp [outcomes, made, settles_of_judge retried, settles_of_judge ended, Verdict.result]
  | third retried retried' ended =>
      simp [outcomes, made, settles_of_judge retried, settles_of_judge retried',
        settles_of_judge ended, Verdict.result]
  | @exhausted failure failure' lastError wait wait' unused retried retried' retried'' =>
      refine ⟨?_, lastError, ?_⟩ <;>
        simp [outcomes, made, settles_of_judge retried, settles_of_judge retried',
          settles_of_judge retried'', Verdict.result]

theorem exhausts_result {endpoint : Endpoint} {tool : ToolDefinition} {request : WebhookRequest}
    {delivery : Delivery} (course : Course endpoint tool request delivery)
    (exhausts : Exhausts endpoint tool) : ∃ lastError, delivery.result = exhausted lastError := by
  obtain ⟨_, lastError, result⟩ := course_series course
  rw [List.findSome?_eq_none_iff.mpr exhausts] at result
  exact ⟨lastError, result⟩

/-! ## The policy is followed -/

theorem policy_eq_none {tool : ToolDefinition} {outcome : Attempt} :
    policy tool outcome = none ↔ outcome.transient = true := by
  rw [← Option.not_isSome_iff_eq_none, policy_isSome]
  simp

theorem transient_of_unlisted {outcome : Attempt} (unlisted : outcome.unlisted = true) :
    outcome.transient = true := by
  cases outcome with
  | response status retryAfter body =>
      simp only [Attempt.unlisted, Bool.and_eq_true] at unlisted
      simp [Attempt.transient, unlisted.1]
  | transportError text => rfl
  | _ => cases unlisted

theorem patient_iff {endpoint : Endpoint} {tool : ToolDefinition} {attempts : List Attempt}
    {bound : Nat} (same : attempts.take (made (policy tool) attempts) =
      (outcomes endpoint).take (min bound (firstFinal endpoint))) :
    Patient (settles tool) (policy tool) attempts ↔ Listed endpoint bound := by
  simp only [Patient, Listed, same, policy_eq_none]
  refine forall₂_congr fun outcome _ => ?_
  rw [← Option.not_isSome_iff_eq_none, settles_isSome]
  cases unlisted : outcome.unlisted with
  | true => simp [transient_of_unlisted unlisted]
  | false => simp

theorem patient_outcomes (endpoint : Endpoint) (tool : ToolDefinition) :
    Patient (settles tool) (policy tool) (outcomes endpoint) ↔ Listed endpoint MAX_ATTEMPTS :=
  patient_iff (by rw [made_policy])

theorem patient_retries (endpoint : Endpoint) (tool : ToolDefinition) :
    Patient (settles tool) (policy tool) (outcomes endpoint).dropLast ↔
      Listed endpoint (MAX_ATTEMPTS - 1) := by
  refine patient_iff ?_
  rw [made_eq_min]
  simp only [policy_isSome, outcomes, firstFinal, MAX_ATTEMPTS, List.dropLast, List.findIdx_cons]
  cases (endpoint.answer 1).transient with
  | false => simp
  | true =>
      cases (endpoint.answer 2).transient with
      | false => simp
      | true => simp

theorem final_outcome (endpoint : Endpoint) (tool : ToolDefinition) :
    (outcomes endpoint).findSome? (policy tool) =
      ((outcomes endpoint)[firstFinal endpoint - 1]?).bind (policy tool) := by
  rw [findSome?_eq_bind]
  simp only [policy_isSome]
  rfl

theorem settles_first {endpoint : Endpoint} {tool : ToolDefinition} {outcome : Attempt}
    (found : (outcomes endpoint)[firstFinal endpoint - 1]? = some outcome) :
    ∃ result, settles tool outcome = some result ∧ policy tool outcome = some result := by
  have final : (!outcome.transient) = true :=
    @List.findIdx_of_getElem?_eq_some Attempt (fun outcome => !outcome.transient) outcome
      (outcomes endpoint) found
  have same : policy tool outcome = settles tool outcome :=
    if_neg (by simpa using final)
  have settled : (settles tool outcome).isSome = true := by
    rw [settles_isSome, final, Bool.true_or]
  obtain ⟨result, found'⟩ := Option.isSome_iff_exists.mp settled
  exact ⟨result, found', same.trans found'⟩

theorem allTransient_iff (endpoint : Endpoint) (tool : ToolDefinition) :
    AllTransient endpoint ↔ (outcomes endpoint).findSome? (policy tool) = none := by
  simp only [AllTransient, List.findSome?_eq_none_iff, policy_eq_none]

theorem exhausts_iff (endpoint : Endpoint) (tool : ToolDefinition) :
    Exhausts endpoint tool ↔ (outcomes endpoint).findSome? (settles tool) = none :=
  List.findSome?_eq_none_iff.symm

theorem allTransient_of_exhausts {endpoint : Endpoint} {tool : ToolDefinition}
    (exhausts : Exhausts endpoint tool) : AllTransient endpoint := by
  intro outcome member
  have pending := exhausts outcome member
  rw [← Option.not_isSome_iff_eq_none, settles_isSome] at pending
  simp at pending
  exact pending.1

/-- The policy is followed when the loop makes as many attempts, and has the final outcome's
result. -/
theorem followsPolicy_series {endpoint : Endpoint} {tool : ToolDefinition}
    {request : WebhookRequest} {delivery : Delivery}
    (course : Course endpoint tool request delivery) :
    FollowsPolicy endpoint tool delivery ↔
      made (settles tool) (outcomes endpoint) = made (policy tool) (outcomes endpoint) ∧
        ∀ result, (outcomes endpoint).findSome? (policy tool) = some result →
          (outcomes endpoint).findSome? (settles tool) = some result := by
  obtain ⟨posts, lastError, result⟩ := course_series course
  have count : delivery.posts.length = made (settles tool) (outcomes endpoint) := by
    rw [posts, List.length_replicate]
  constructor
  · rintro ⟨samePosts, final, _⟩
    refine ⟨by rw [← count, samePosts, made_policy], fun expected policed => ?_⟩
    have first := final_outcome endpoint tool
    rw [policed] at first
    obtain ⟨outcome, found, settled⟩ := Option.bind_eq_some_iff.mp first.symm
    have same := (hasty tool outcome expected settled).symm.trans (final outcome found)
    cases series : (outcomes endpoint).findSome? (settles tool) with
    | none =>
        have transient := allTransient_of_exhausts ((exhausts_iff endpoint tool).mpr series)
        cases policed.symm.trans ((allTransient_iff endpoint tool).mp transient)
    | some actual =>
        rw [series, Option.getD_some] at result
        rw [← result, Option.some.inj same]
  · rintro ⟨sameCount, sameResult⟩
    refine ⟨by rw [count, sameCount, made_policy], fun outcome found => ?_,
      fun returned => allTransient_of_exhausts returned.1⟩
    obtain ⟨expected, settled, policed⟩ := settles_first found
    have first := final_outcome endpoint tool
    rw [found, Option.bind_some, policed] at first
    rw [sameResult expected first, Option.getD_some] at result
    rw [settled, result]

/-- With the exhausted error whenever all outcomes are transient, the loop has the policy's
result in every case. -/
theorem exhaustive_series {endpoint : Endpoint} {tool : ToolDefinition}
    {request : WebhookRequest} {delivery : Delivery}
    (course : Course endpoint tool request delivery) :
    FollowsPolicy endpoint tool delivery ∧
        (AllTransient endpoint → ReturnsExhausted endpoint tool delivery) ↔
      made (settles tool) (outcomes endpoint) = made (policy tool) (outcomes endpoint) ∧
        (outcomes endpoint).findSome? (settles tool) =
          (outcomes endpoint).findSome? (policy tool) := by
  rw [followsPolicy_series course]
  constructor
  · rintro ⟨⟨sameCount, sameResult⟩, returns⟩
    refine ⟨sameCount, ?_⟩
    cases policed : (outcomes endpoint).findSome? (policy tool) with
    | some expected => exact sameResult expected policed
    | none =>
        have exhausts := (returns ((allTransient_iff endpoint tool).mpr policed)).1
        exact (exhausts_iff endpoint tool).mp exhausts
  · rintro ⟨sameCount, sameResult⟩
    refine ⟨⟨sameCount, fun expected policed => sameResult.trans policed⟩, fun transient => ?_⟩
    have pending := (allTransient_iff endpoint tool).mp transient
    have exhausts := (exhausts_iff endpoint tool).mpr (sameResult.trans pending)
    exact ⟨exhausts, exhausts_result course exhausts⟩

/-- A configured webhook is retried as documented exactly when no 5xx status outside the list,
and no read, write or protocol error, comes before the first final outcome in the first two
attempts; and it reports the exhausted error for all transient outcomes exactly when none comes
in the third either. -/
theorem followsPolicy_iff (endpoint : Endpoint) (project : ProjectConfig) (tool : ToolDefinition)
    (url : String) (configured : tool.webhookUrl = some url) (nonempty : url ≠ "")
    (args : Json.Object) (sessionId : String) (callId : Option String) :
    (FollowsPolicy endpoint tool
        (executeWebhook endpoint project tool args sessionId callId) ↔
      Listed endpoint (MAX_ATTEMPTS - 1)) ∧
    (FollowsPolicy endpoint tool
          (executeWebhook endpoint project tool args sessionId callId) ∧
        (AllTransient endpoint → ReturnsExhausted endpoint tool
          (executeWebhook endpoint project tool args sessionId callId)) ↔
      Listed endpoint MAX_ATTEMPTS) := by
  have course := course_executeWebhook endpoint project configured nonempty args sessionId callId
  constructor
  · rw [followsPolicy_series course, made_eq_iff (hasty tool), patient_retries]
    exact and_iff_left_of_imp fun listed _ found =>
      findSome?_of_patient (hasty tool) ((patient_retries endpoint tool).mpr listed) found
  · rw [exhaustive_series course, follows_iff (hasty tool), patient_outcomes]

def weatherTool : ToolDefinition :=
  { name := "weather", description := "", parameters := [], executionMode := .webhook
    webhookUrl := some "https://hooks.example.com/weather" }

def weatherProject : ProjectConfig :=
  { projectId := "p", name := "P", systemPrompt := "", tools := [weatherTool] }

/-- The endpoint answers the attempts with these outcomes, and then with timeouts. -/
def answering (outcomes : List Attempt) : Endpoint :=
  { answer := fun attempt => (outcomes[attempt - 1]?).getD .timeoutException
    digest := fun _ _ => "" }

theorem followsPolicy_recovers :
    FollowsPolicy (answering [.timeoutException, .response 503 .absent none,
        .response 200 .absent (some (.object []))]) weatherTool
      (executeWebhook (answering [.timeoutException, .response 503 .absent none,
        .response 200 .absent (some (.object []))]) weatherProject weatherTool [] "s" "c") :=
  (followsPolicy_iff _ weatherProject weatherTool "https://hooks.example.com/weather" rfl
    (by decide) [] "s" "c").1.mpr (by decide)

/-- HTTP 501 is a 5xx, and ends the loop at the first attempt. -/
theorem followsPolicy_fails :
    ¬ FollowsPolicy (answering [.response 501 .absent none]) weatherTool
      (executeWebhook (answering [.response 501 .absent none]) weatherProject weatherTool []
        "s" "c") := by
  intro follows
  have posts := follows.posts
  revert posts
  decide

end LiveChat.Core.ToolExecutor
