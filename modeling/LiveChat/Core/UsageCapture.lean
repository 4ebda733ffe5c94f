import LiveChat.Foundation.TransitionSystem
import LiveChat.Core.RunnerTurns

/-!
# The token counters of a session

`_capture_usage` is called with the usage metadata of one message after the other, and their
totals are cumulative.  A message that carries only its total overwrites the output counter and
leaves the input counter of an earlier message in place, so the two counters add up to the total
exactly as long as no such message comes after a prompt count.  In a run of a session nothing
else touches the counters.
-/

set_option autoImplicit false

namespace LiveChat.Core.GeminiRunner

open LiveChat.Foundation
open LiveChat.Foundation.TransitionSystem

namespace UsageMetadata

def total (usage : UsageMetadata) : Nat := usage.totalTokenCount.getD 0

def prompt (usage : UsageMetadata) : Nat := usage.promptTokenCount.getD 0

def response (usage : UsageMetadata) : Nat := usage.candidatesTokenCount.getD 0

/-- The other two counts are absent or zero. -/
def OnlyTotal (usage : UsageMetadata) : Prop := usage.prompt = 0 ∧ usage.response = 0

instance (usage : UsageMetadata) : Decidable usage.OnlyTotal :=
  inferInstanceAs (Decidable (_ ∧ _))

/-- A positive total, alone or with the counts that add up to it. -/
structure Cumulative (usage : UsageMetadata) : Prop where
  positive : 0 < usage.total
  counts : usage.OnlyTotal ∨ usage.prompt + usage.response = usage.total

end UsageMetadata

/-- After each message the two counters add up to its total. -/
def KeepsTotal : SessionState → List UsageMetadata → Prop
  | _, [] => True
  | state, usage :: rest =>
      let next := captureUsage state (some usage)
      next.inputTokens + next.outputTokens = usage.total ∧ KeepsTotal next rest

/-- A message with only the total comes when the last message that carried counts, if there was
one, had no prompt count; `carried` is the prompt count of that message. -/
def TotalsAlone : (carried : Nat) → List UsageMetadata → Prop
  | _, [] => True
  | carried, usage :: rest =>
      if usage.OnlyTotal then carried = 0 ∧ TotalsAlone carried rest
      else TotalsAlone usage.prompt rest

/-! ## Single messages -/

theorem captureUsage_onlyTotal {state : SessionState} {usage : UsageMetadata}
    (positive : 0 < usage.total) (alone : usage.OnlyTotal) :
    captureUsage state (some usage) = { state with outputTokens := usage.total } := by
  have branch : usage.total ≠ 0 ∧ usage.prompt = 0 ∧ usage.response = 0 :=
    ⟨Nat.ne_of_gt positive, alone⟩
  exact if_pos branch

theorem captureUsage_counts {state : SessionState} {usage : UsageMetadata}
    (counted : ¬ usage.OnlyTotal) :
    captureUsage state (some usage) =
      { state with inputTokens := usage.prompt, outputTokens := usage.response } := by
  have branch : ¬ (usage.total ≠ 0 ∧ usage.prompt = 0 ∧ usage.response = 0) :=
    fun all => counted all.2
  exact if_neg branch

/-! ## Sequences -/

theorem keepsTotal_of_carried {state : SessionState} {usages : List UsageMetadata}
    (cumulative : ∀ usage ∈ usages, usage.Cumulative) :
    KeepsTotal state usages ↔ TotalsAlone state.inputTokens usages := by
  induction usages generalizing state with
  | nil => exact Iff.rfl
  | cons usage rest ih =>
      obtain ⟨here, others⟩ := List.forall_mem_cons.mp cumulative
      by_cases alone : usage.OnlyTotal
      · have captured := @captureUsage_onlyTotal state usage here.positive alone
        have sum : state.inputTokens + usage.total = usage.total ↔ state.inputTokens = 0 := by
          omega
        simp only [KeepsTotal, TotalsAlone, if_pos alone, captured, ih others, sum]
      · have captured := @captureUsage_counts state usage alone
        have sum : usage.prompt + usage.response = usage.total := here.counts.resolve_left alone
        simp only [KeepsTotal, TotalsAlone, if_neg alone, captured, ih others, sum, true_and]

/-- The counters of a session keep the cumulative total exactly when no message carries the
total alone after one with a prompt count. -/
theorem keepsTotal_iff (clock : Clock) (sessionId apiKeyId : String) (project : ProjectConfig)
    (sessionRepo : Bool) (usages : List UsageMetadata)
    (cumulative : ∀ usage ∈ usages, usage.Cumulative) :
    KeepsTotal (Session.spawn clock sessionId apiKeyId project sessionRepo).state usages ↔
      TotalsAlone 0 usages :=
  keepsTotal_of_carried cumulative

theorem keepsTotal_counted :
    KeepsTotal (Session.spawn ⟨0, 0⟩ "s" "k" { projectId := "p", name := "P", systemPrompt := "" }
        true).state
      [⟨some 7, none, none⟩, ⟨some 15, some 10, some 5⟩] := by
  refine (keepsTotal_iff _ _ _ _ _ _ fun usage member => ?_).mpr ?_
  · rcases List.mem_cons.mp member with rfl | member
    · exact ⟨by decide, Or.inl (by decide)⟩
    · cases List.mem_singleton.mp member
      exact ⟨by decide, Or.inr (by decide)⟩
  · simp [TotalsAlone, UsageMetadata.OnlyTotal, UsageMetadata.prompt, UsageMetadata.response]

/-- 15 tokens with their counts, then a total of 20 alone: the counters hold 30. -/
theorem keepsTotal_fails :
    ¬ KeepsTotal (Session.spawn ⟨0, 0⟩ "s" "k"
        { projectId := "p", name := "P", systemPrompt := "" } true).state
      [⟨some 15, some 10, some 5⟩, ⟨some 20, none, none⟩] := by
  rintro ⟨_, sum, _⟩
  have held : 10 + 20 = 20 := sum
  omega

/-! ## The counters in a run -/

/-- The usage metadata that a step of a consumer reads. -/
def usageRead : RunnerEvent → Option UsageMetadata
  | .consume (.response message) | .receive (.response message) => message.usageMetadata
  | _ => none

/-- `input_tokens` and `output_tokens`. -/
def tokens (state : SessionState) : Nat × Nat := (state.inputTokens, state.outputTokens)

theorem tokens_of_counters {before after : SessionState}
    (counters : after.counters = before.counters) : tokens after = tokens before :=
  Prod.ext (congrArg SessionState.Counters.inputTokens counters)
    (congrArg SessionState.Counters.outputTokens counters)

theorem tokens_captureUsage {state other : SessionState} (usage : Option UsageMetadata)
    (same : tokens state = tokens other) :
    tokens (captureUsage state usage) = tokens (captureUsage other usage) := by
  obtain ⟨input, output⟩ := Prod.mk.inj same
  cases usage with
  | none => exact same
  | some usage =>
      simp only [captureUsage]
      split <;> simp only [tokens, input]

theorem tokens_resume {state next : SessionState} {consumer : Consumer} {event : ConsumerEvent}
    {progress : ConsumerProgress} (run : consumer.resume state event = some (next, progress)) :
    tokens next = tokens (captureUsage state (usageRead (.consume event))) := by
  unfold Consumer.resume at run
  split at run
  · rename_i message
    have same : (handleResponse state message).1 = next := congrArg Prod.fst (Option.some.inj run)
    obtain ⟨outbox, turns, forwarded⟩ := forwards_handleResponse state message
    rw [← same, forwarded]
    rfl
  all_goals cases run <;> rfl

namespace Session

theorem usageRead_reader {session : Session} {event : RunnerEvent} {consumer : Consumer}
    {given : ConsumerEvent} (reads : session.reader event = some (consumer, given)) :
    usageRead event = usageRead (.consume given) := by
  rcases reader_given reads with rfl | rfl
  · rfl
  · cases given <;> rfl

theorem tokens_step {session next : Session} {clock : Clock} {event : RunnerEvent}
    (run : session.step (clock, event) = some next) :
    tokens next.state = tokens (captureUsage session.state (usageRead event)) := by
  rcases reader_shift (shift_step run) with ⟨consumer, given, progress, reads, resumed⟩ | rests
  · rw [usageRead_reader reads]
    exact tokens_resume resumed
  · obtain ⟨apart, counters⟩ := rests
    have unread : usageRead event = none := by
      cases event <;> first | rfl | cases apart
    rw [unread]
    exact tokens_of_counters counters

/-- In a run the counters are those of the messages that were read, captured in their order. -/
theorem tokens_exec {session final : Session} {events : List (Clock × RunnerEvent)}
    (run : exec step session events = some final) :
    tokens final.state =
      tokens ((events.filterMap fun event => usageRead event.2).foldl
        (fun state usage => captureUsage state (some usage)) session.state) := by
  have congr : ∀ (usages : List UsageMetadata) {state other : SessionState},
      tokens state = tokens other →
      tokens (usages.foldl (fun state usage => captureUsage state (some usage)) state) =
        tokens (usages.foldl (fun state usage => captureUsage state (some usage)) other) := by
    intro usages
    induction usages with
    | nil => exact id
    | cons usage rest ih => exact fun same => ih (tokens_captureUsage (some usage) same)
  induction events generalizing session with
  | nil =>
      cases Option.some.inj run
      rfl
  | cons event rest ih =>
      obtain ⟨clock, event⟩ := event
      obtain ⟨next, first, later⟩ := exec_cons_some run
      rw [ih later, congr _ (tokens_step first), List.filterMap_cons]
      cases usageRead event <;> rfl

end Session

end LiveChat.Core.GeminiRunner
