import Mathlib.Algebra.Order.BigOperators.Group.List
import Mathlib.Tactic.Linarith
import LiveChat.Core.WebhookRetries

/-!
# How long a webhook call may take

Each POST of `_execute_webhook` may take its whole timeout, a third of the tool's budget and at
least one second, and the sleeps between the attempts come on top; nothing adds them up.  The
theorem says for which outcomes the total stays within `timeout_ms`, whatever the attempts take.
-/

set_option autoImplicit false

namespace LiveChat.Core.ToolExecutor

open LiveChat.Foundation

/-! ## The budget -/

/-- Whatever the attempts take, each at most its timeout: with the sleeps they fit into the
budget of the tool. -/
def WithinBudget (tool : ToolDefinition) (delivery : Delivery) : Prop :=
  ∀ durations : List Rat,
    List.Forall₂ (fun duration post => 0 ≤ duration ∧ duration ≤ WebhookRequest.timeout post)
        durations delivery.posts →
      durations.sum + delivery.sleeps.sum ≤ totalBudgetS tool

def Attempt.retryAfter : Attempt → RetryAfter
  | .response _ retryAfter _ => retryAfter
  | _ => .absent

/-- The server asks for no wait at all. -/
def RetryAfter.atOnce : RetryAfter → Bool
  | .number (.finite value) => decide (value ≤ 0)
  | .number (.infinite negative) => negative
  | .number .nan => true
  | .absent | .unparseable => false

/-- The time that two attempts leave for the sleep between them: a third of the budget from three
seconds on, and the budget less two seconds below. -/
def timeBetween (tool : ToolDefinition) : Rat := totalBudgetS tool - 2 * perAttemptS tool

/-- The server asks for a wait that fits between two attempts. -/
def RetryAfter.Soon (tool : ToolDefinition) : RetryAfter → Prop
  | .number (.finite value) => 2000 ≤ tool.timeoutMs ∧ value ≤ timeBetween tool
  | .number (.infinite false) => False
  | .number (.infinite true) | .number .nan => 2000 ≤ tool.timeoutMs
  | .absent | .unparseable => 3000 ≤ tool.timeoutMs

/-- One attempt needs a second, a second one a wait that is short, and three attempts leave no
time to wait. -/
def FitsBudget (endpoint : Endpoint) (tool : ToolDefinition) : Prop :=
  match (endpoint.answer 1).retried, (endpoint.answer 2).retried with
  | false, _ => 1000 ≤ tool.timeoutMs
  | true, false => (endpoint.answer 1).retryAfter.Soon tool
  | true, true =>
      3000 ≤ tool.timeoutMs ∧ (endpoint.answer 1).retryAfter.atOnce = true ∧
        (endpoint.answer 2).retryAfter.atOnce = true

/-! ## The longest run -/

theorem forall_durations_iff {limits : List Rat} (nonneg : ∀ limit ∈ limits, 0 ≤ limit)
    (rest bound : Rat) :
    (∀ durations, List.Forall₂ (fun duration limit => 0 ≤ duration ∧ duration ≤ limit)
        durations limits → durations.sum + rest ≤ bound) ↔ limits.sum + rest ≤ bound := by
  constructor
  · intro every
    exact every limits (List.forall₂_same.mpr fun limit member => ⟨nonneg limit member, le_rfl⟩)
  · intro longest durations within
    have sum : durations.sum ≤ limits.sum :=
      List.Forall₂.sum_le_sum (within.imp fun _ _ both => both.2)
    linarith

theorem withinBudget_iff_longest {tool : ToolDefinition} {delivery : Delivery}
    (nonneg : ∀ post ∈ delivery.posts, 0 ≤ post.timeout) :
    WithinBudget tool delivery ↔
      (delivery.posts.map WebhookRequest.timeout).sum + delivery.sleeps.sum ≤
        totalBudgetS tool := by
  rw [← forall_durations_iff]
  · simp only [WithinBudget, List.forall₂_map_right_iff]
  · intro limit member
    obtain ⟨post, sent, rfl⟩ := List.mem_map.mp member
    exact nonneg post sent

/-! ## Budgets, timeouts and waits -/

theorem le_totalBudgetS (tool : ToolDefinition) (seconds : Nat) :
    (seconds : Rat) ≤ totalBudgetS tool ↔ seconds * 1000 ≤ tool.timeoutMs := by
  rw [totalBudgetS, le_div_iff₀ (by norm_num)]
  exact_mod_cast Iff.rfl

theorem totalBudgetS_nonneg (tool : ToolDefinition) : 0 ≤ totalBudgetS tool := by
  have zero := (le_totalBudgetS tool 0).mpr (by simp)
  simpa using zero

theorem perAttemptS_cases (tool : ToolDefinition) :
    (3000 ≤ tool.timeoutMs ∧ 3 ≤ totalBudgetS tool ∧
      perAttemptS tool = totalBudgetS tool / 3) ∨
    (¬ 3000 ≤ tool.timeoutMs ∧ totalBudgetS tool < 3 ∧ perAttemptS tool = 1) := by
  have three : (3 : Rat) ≤ totalBudgetS tool ↔ 3000 ≤ tool.timeoutMs := by
    exact_mod_cast le_totalBudgetS tool 3
  have limit : (MAX_ATTEMPTS : Rat) = 3 := rfl
  by_cases long : 3000 ≤ tool.timeoutMs
  · refine Or.inl ⟨long, three.mpr long, ?_⟩
    have bound := three.mpr long
    rw [perAttemptS, limit, max_eq_right]
    linarith
  · have short : totalBudgetS tool < 3 := not_le.mp fun bound => long (three.mp bound)
    refine Or.inr ⟨long, short, ?_⟩
    rw [perAttemptS, limit, max_eq_left]
    linarith

theorem perAttemptS_pos (tool : ToolDefinition) : 0 < perAttemptS tool :=
  lt_of_lt_of_le one_pos (le_max_left _ _)

/-- The sleep before the next attempt: the backoff, or what the header asks for. -/
inductive Sleeps (tool : ToolDefinition) (attempt : Nat) (outcome : Attempt) : Rat → Prop where
  | backoff (absent : outcome.retryAfter = .absent) :
      Sleeps tool attempt outcome (BASE_DELAY_S * BACKOFF_FACTOR ^ (attempt - 1))
  | asked :
      Sleeps tool attempt outcome
        (capWait (parseRetryAfter outcome.retryAfter (perAttemptS tool)) (totalBudgetS tool / 2))

theorem sleeps_of_judge {tool : ToolDefinition} {attempt : Nat} {outcome : Attempt}
    {failure : String} {wait : Rat} (judged : judge tool attempt outcome = .retry failure wait) :
    Sleeps tool attempt outcome wait := by
  cases outcome with
  | response status retryAfter body =>
      simp only [judge] at judged
      split at judged
      · cases body <;> cases judged
      · split at judged
        · cases judged
          exact .asked
        · cases judged
  | timeoutException =>
      cases judged
      exact .backoff rfl
  | connectError text =>
      cases judged
      exact .backoff rfl
  | transportError text => cases judged
  | otherException text => cases judged

theorem backoff_pos (attempt : Nat) : (0 : Rat) < BASE_DELAY_S * BACKOFF_FACTOR ^ (attempt - 1) := by
  unfold BASE_DELAY_S BACKOFF_FACTOR
  positivity

theorem parseRetryAfter_nonneg {header : RetryAfter} {fallback wait : Rat}
    (nonneg : 0 ≤ fallback) (parsed : parseRetryAfter header fallback = some wait) : 0 ≤ wait := by
  cases header with
  | number value =>
      cases value with
      | finite value =>
          cases parsed
          exact le_max_left _ _
      | infinite negative =>
          cases negative
          · cases parsed
          · cases parsed
            rfl
      | nan =>
          cases parsed
          rfl
  | _ =>
      cases parsed
      exact nonneg

/-- A wait is kept below a bound that the cap lies above only by the header itself. -/
theorem capWait_le_iff {retryAfter : Option Rat} {cap bound : Rat} (above : bound < cap) :
    capWait retryAfter cap ≤ bound ↔ ∃ wait, retryAfter = some wait ∧ wait ≤ bound := by
  cases retryAfter with
  | none => simpa [capWait] using above
  | some wait => simpa [capWait] using fun below => absurd below (not_le.mpr above)

theorem capWait_nonneg {retryAfter : Option Rat} {bound : Rat} (nonneg : 0 ≤ bound)
    (waits : ∀ wait, retryAfter = some wait → 0 ≤ wait) : 0 ≤ capWait retryAfter bound := by
  cases retryAfter with
  | none => exact nonneg
  | some wait => exact le_min (waits wait rfl) nonneg

theorem wait_nonneg {tool : ToolDefinition} {attempt : Nat} {outcome : Attempt} {wait : Rat}
    (sleeps : Sleeps tool attempt outcome wait) : 0 ≤ wait := by
  cases sleeps with
  | backoff absent => exact (backoff_pos attempt).le
  | asked =>
      have half : 0 ≤ totalBudgetS tool / 2 := by
        have budget := totalBudgetS_nonneg tool
        linarith
      exact capWait_nonneg half fun wait parsed =>
        parseRetryAfter_nonneg (perAttemptS_pos tool).le parsed

/-- With a budget of three seconds the loop goes on at once only where the header says so. -/
theorem wait_eq_zero {tool : ToolDefinition} {attempt : Nat} {outcome : Attempt} {wait : Rat}
    (long : 3000 ≤ tool.timeoutMs) (sleeps : Sleeps tool attempt outcome wait) :
    wait = 0 ↔ outcome.retryAfter.atOnce = true := by
  have half : 0 < totalBudgetS tool / 2 := by
    have budget : (3 : Rat) ≤ totalBudgetS tool := by exact_mod_cast (le_totalBudgetS tool 3).mpr long
    linarith
  have attempted := not_le.mpr (perAttemptS_pos tool)
  rw [← (wait_nonneg sleeps).ge_iff_eq']
  cases sleeps with
  | backoff absent =>
      rw [absent]
      exact iff_of_false (not_le.mpr (backoff_pos attempt)) (by decide)
  | asked =>
      rw [capWait_le_iff half]
      cases outcome.retryAfter with
      | absent => simpa [parseRetryAfter, RetryAfter.atOnce] using attempted
      | unparseable => simpa [parseRetryAfter, RetryAfter.atOnce] using attempted
      | number value =>
          cases value with
          | finite value => simp [parseRetryAfter, RetryAfter.atOnce]
          | infinite negative => cases negative <;> simp [parseRetryAfter, RetryAfter.atOnce]
          | nan => simp [parseRetryAfter, RetryAfter.atOnce]

theorem timeBetween_bounds (tool : ToolDefinition) :
    timeBetween tool < totalBudgetS tool / 2 ∧
      (0 ≤ timeBetween tool ↔ 2000 ≤ tool.timeoutMs) ∧
      (1 ≤ timeBetween tool ↔ 3000 ≤ tool.timeoutMs) ∧
      (perAttemptS tool ≤ timeBetween tool ↔ 3000 ≤ tool.timeoutMs) := by
  have two : (2 : Rat) ≤ totalBudgetS tool ↔ 2000 ≤ tool.timeoutMs := by
    exact_mod_cast le_totalBudgetS tool 2
  rcases perAttemptS_cases tool with ⟨long, budget, third⟩ | ⟨short, budget, one⟩
  · have enough : 2000 ≤ tool.timeoutMs := by omega
    rw [timeBetween, third]
    refine ⟨?_, iff_of_true ?_ enough, iff_of_true ?_ long, iff_of_true ?_ long⟩ <;> linarith
  · rw [timeBetween, one, ← two]
    refine ⟨?_, ⟨fun _ => ?_, fun _ => ?_⟩, iff_of_false ?_ short, iff_of_false ?_ short⟩ <;>
      linarith

theorem wait_le_timeBetween {tool : ToolDefinition} {outcome : Attempt} {wait : Rat}
    (sleeps : Sleeps tool 1 outcome wait) :
    wait ≤ timeBetween tool ↔ outcome.retryAfter.Soon tool := by
  obtain ⟨below, two, backoff, attempted⟩ := timeBetween_bounds tool
  cases sleeps with
  | backoff absent =>
      rw [absent]
      simpa [BASE_DELAY_S, RetryAfter.Soon] using backoff
  | asked =>
      rw [capWait_le_iff below]
      cases outcome.retryAfter with
      | absent => simpa [parseRetryAfter, RetryAfter.Soon] using attempted
      | unparseable => simpa [parseRetryAfter, RetryAfter.Soon] using attempted
      | number value =>
          cases value with
          | finite value => simp [parseRetryAfter, RetryAfter.Soon, two]
          | infinite negative =>
              cases negative with
              | false => simp [parseRetryAfter, RetryAfter.Soon]
              | true => simpa [parseRetryAfter, RetryAfter.Soon] using two
          | nan => simpa [parseRetryAfter, RetryAfter.Soon] using two

/-! ## When the budget is kept -/

theorem one_attempt_fits (tool : ToolDefinition) :
    perAttemptS tool ≤ totalBudgetS tool ↔ 1000 ≤ tool.timeoutMs := by
  have second : (1 : Rat) ≤ totalBudgetS tool ↔ 1000 ≤ tool.timeoutMs := by
    exact_mod_cast le_totalBudgetS tool 1
  rcases perAttemptS_cases tool with ⟨long, budget, third⟩ | ⟨_, _, one⟩
  · rw [third]
    exact ⟨fun _ => by omega, fun _ => by linarith⟩
  · rw [one, second]

theorem two_attempts_fit (tool : ToolDefinition) (wait : Rat) :
    perAttemptS tool + perAttemptS tool + wait ≤ totalBudgetS tool ↔ wait ≤ timeBetween tool := by
  rw [timeBetween]
  constructor <;> intro fits <;> linarith

theorem three_attempts_fit (tool : ToolDefinition) {wait wait' : Rat} (nonneg : 0 ≤ wait)
    (nonneg' : 0 ≤ wait') :
    perAttemptS tool + perAttemptS tool + perAttemptS tool + (wait + wait') ≤ totalBudgetS tool ↔
      3000 ≤ tool.timeoutMs ∧ wait = 0 ∧ wait' = 0 := by
  rcases perAttemptS_cases tool with ⟨long, budget, third⟩ | ⟨short, budget, one⟩
  · rw [third]
    constructor
    · intro fits
      exact ⟨long, by linarith, by linarith⟩
    · rintro ⟨_, rfl, rfl⟩
      linarith
  · rw [one]
    constructor
    · intro fits
      exact absurd budget (by linarith)
    · exact fun fits => absurd fits.1 short

theorem withinBudget_unposted {tool : ToolDefinition} {delivery : Delivery}
    (posts : delivery.posts = []) (sleeps : delivery.sleeps = []) :
    WithinBudget tool delivery := by
  rw [withinBudget_iff_longest (by simp [posts]), posts, sleeps]
  simpa using totalBudgetS_nonneg tool

theorem course_withinBudget {endpoint : Endpoint} {tool : ToolDefinition}
    {request : WebhookRequest} {delivery : Delivery}
    (course : Course endpoint tool request delivery)
    (timeout : request.timeout = perAttemptS tool) :
    WithinBudget tool delivery ↔ FitsBudget endpoint tool := by
  have nonneg : 0 ≤ request.timeout := timeout ▸ (perAttemptS_pos tool).le
  have three : ∀ {failure failure' : String} {wait wait' : Rat},
      judge tool 1 (endpoint.answer 1) = .retry failure wait →
      judge tool 2 (endpoint.answer 2) = .retry failure' wait' →
      (perAttemptS tool + perAttemptS tool + perAttemptS tool + (wait + wait') ≤
        totalBudgetS tool ↔ FitsBudget endpoint tool) := by
    intro failure failure' wait wait' retried retried'
    have sleeps := sleeps_of_judge retried
    have sleeps' := sleeps_of_judge retried'
    rw [three_attempts_fit tool (wait_nonneg sleeps) (wait_nonneg sleeps'), FitsBudget,
      retried_of_judge retried, retried_of_judge retried']
    exact and_congr_right fun long =>
      and_congr (wait_eq_zero long sleeps) (wait_eq_zero long sleeps')
  cases course with
  | first ended =>
      rw [withinBudget_iff_longest (by simpa using nonneg), FitsBudget, retried_of_judge ended]
      simpa [timeout, Verdict.result] using one_attempt_fits tool
  | second retried ended =>
      rw [withinBudget_iff_longest (by simpa using nonneg), FitsBudget, retried_of_judge retried,
        retried_of_judge ended]
      simpa [timeout, Verdict.result, add_assoc] using
        (two_attempts_fit tool _).trans (wait_le_timeBetween (sleeps_of_judge retried))
  | third retried retried' ended =>
      rw [withinBudget_iff_longest (by simpa using nonneg), ← three retried retried']
      simp [timeout, add_assoc]
  | exhausted retried retried' retried'' =>
      rw [withinBudget_iff_longest (by simpa using nonneg), ← three retried retried']
      simp [timeout, add_assoc]

/-- A webhook keeps its time budget, whatever the attempts take, exactly when no URL is configured
or the outcomes are those of `FitsBudget`. -/
theorem withinBudget_iff (endpoint : Endpoint) (project : ProjectConfig) (tool : ToolDefinition)
    (args : Json.Object) (sessionId : String) (callId : Option String) :
    WithinBudget tool (executeWebhook endpoint project tool args sessionId callId) ↔
      ∀ url, tool.webhookUrl = some url → url ≠ "" → FitsBudget endpoint tool := by
  cases given : tool.webhookUrl with
  | none =>
      simp only [executeWebhook, given]
      refine iff_of_true (withinBudget_unposted rfl rfl) fun url there => by cases there
  | some url =>
      by_cases empty : url = ""
      · simp only [executeWebhook, given, if_pos empty]
        refine iff_of_true (withinBudget_unposted rfl rfl) fun other there nonempty => ?_
        cases there
        exact absurd empty nonempty
      · have course := course_executeWebhook endpoint project given empty args sessionId callId
        rw [course_withinBudget course rfl]
        constructor
        · exact fun fits _ _ _ => fits
        · exact fun every => every url rfl empty

/-- Three timeouts exceed every budget. -/
theorem timeouts_exceed (tool : ToolDefinition) : ¬ FitsBudget (answering []) tool := by
  rintro ⟨_, atOnce, _⟩
  cases atOnce

/-- Three attempts of 5/3 seconds, and sleeps of one and two seconds: eight seconds of five. -/
theorem withinBudget_fails :
    ¬ WithinBudget weatherTool
      (executeWebhook (answering []) weatherProject weatherTool [] "s" (some "c")) := by
  intro within
  have configured : weatherTool.webhookUrl = some "https://hooks.example.com/weather" := rfl
  have course := course_executeWebhook (answering []) weatherProject configured (by decide) []
    "s" "c"
  exact timeouts_exceed weatherTool ((course_withinBudget course rfl).mp within)

end LiveChat.Core.ToolExecutor
