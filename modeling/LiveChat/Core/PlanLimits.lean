import Mathlib.Tactic.Common

/-!
# Plan limits

The table of `core/plan_limits.py` and its helpers.  `none` means unlimited.
A plan string that is not in the table falls back to the free plan.
-/

set_option autoImplicit false

namespace LiveChat.Core.PlanLimits

inductive Plan where
  | free
  | starter
  | pro
  | enterprise
  deriving DecidableEq, Repr

def Plan.name : Plan → String
  | .free => "free"
  | .starter => "starter"
  | .pro => "pro"
  | .enterprise => "enterprise"

structure Limits where
  concurrentSessions : Option Nat
  sessionTtlSeconds : Nat
  projects : Option Nat
  toolsPerProject : Option Nat
  dailyTokenQuota : Option Nat
  webhookTimeoutMs : Nat
  rateLimitRpm : Option Nat
  deriving DecidableEq, Repr

/-- `PLAN_LIMITS`. -/
def planLimits : Plan → Limits
  | .free =>
      { concurrentSessions := some 2
        sessionTtlSeconds := 60
        projects := some 1
        toolsPerProject := some 3
        dailyTokenQuota := some 10000
        webhookTimeoutMs := 3000
        rateLimitRpm := some 30 }
  | .starter =>
      { concurrentSessions := some 20
        sessionTtlSeconds := 300
        projects := some 5
        toolsPerProject := some 10
        dailyTokenQuota := some 500000
        webhookTimeoutMs := 5000
        rateLimitRpm := some 120 }
  | .pro =>
      { concurrentSessions := some 100
        sessionTtlSeconds := 1800
        projects := some 25
        toolsPerProject := some 30
        dailyTokenQuota := some 5000000
        webhookTimeoutMs := 15000
        rateLimitRpm := some 600 }
  | .enterprise =>
      { concurrentSessions := none
        sessionTtlSeconds := 86400
        projects := none
        toolsPerProject := none
        dailyTokenQuota := none
        webhookTimeoutMs := 30000
        rateLimitRpm := none }

def maxConcurrentSessions (plan : Plan) : Option Nat := (planLimits plan).concurrentSessions

def maxSessionTtlSeconds (plan : Plan) : Nat := (planLimits plan).sessionTtlSeconds

def maxProjects (plan : Plan) : Option Nat := (planLimits plan).projects

def maxToolsPerProject (plan : Plan) : Option Nat := (planLimits plan).toolsPerProject

def dailyTokenQuota (plan : Plan) : Option Nat := (planLimits plan).dailyTokenQuota

def maxWebhookTimeoutMs (plan : Plan) : Nat := (planLimits plan).webhookTimeoutMs

def maxRateLimitRpm (plan : Plan) : Option Nat := (planLimits plan).rateLimitRpm

/-- The comparison that the `is_within_*` helpers share. -/
def isWithin (limit : Option Nat) (currentCount : Nat) : Bool :=
  match limit with
  | none => true
  | some limit => decide (currentCount < limit)

/-- So many sessions are no more than the plan allows. -/
def AllowedBy (plan : Plan) (sessions : Nat) : Prop :=
  ∀ limit ∈ maxConcurrentSessions plan, sessions ≤ limit

instance (plan : Plan) (sessions : Nat) : Decidable (AllowedBy plan sessions) :=
  inferInstanceAs (Decidable (∀ limit ∈ maxConcurrentSessions plan, sessions ≤ limit))

theorem AllowedBy.mono {plan : Plan} {fewer sessions : Nat} (allowed : AllowedBy plan sessions)
    (fewer_le : fewer ≤ sessions) : AllowedBy plan fewer :=
  fun limit paid => Nat.le_trans fewer_le (allowed limit paid)

def isWithinProjectLimit (plan : Plan) (currentCount : Nat) : Bool :=
  isWithin (maxProjects plan) currentCount

def isWithinToolLimit (plan : Plan) (currentCount : Nat) : Bool :=
  isWithin (maxToolsPerProject plan) currentCount

def effectiveSessionTtl (plan : Plan) (requestedTtl : Nat) : Nat :=
  min requestedTtl (maxSessionTtlSeconds plan)

def effectiveWebhookTimeoutMs (plan : Plan) (requestedMs : Nat) : Nat :=
  min requestedMs (maxWebhookTimeoutMs plan)

def effectiveRateLimitRpm (plan : Plan) (requestedRpm : Nat) : Nat :=
  match maxRateLimitRpm plan with
  | none => requestedRpm
  | some limit => min requestedRpm limit

/-- `effective_rate_limit_rpm` on the integers of `CreateKeyRequest`, which have no range. -/
def effectiveKeyRateLimitRpm (plan : Plan) (requestedRpm : Int) : Int :=
  match maxRateLimitRpm plan with
  | none => requestedRpm
  | some limit => min requestedRpm limit

theorem effectiveSessionTtl_le (plan : Plan) (requestedTtl : Nat) :
    effectiveSessionTtl plan requestedTtl ≤ maxSessionTtlSeconds plan :=
  Nat.min_le_right _ _

theorem effectiveWebhookTimeoutMs_le (plan : Plan) (requestedMs : Nat) :
    effectiveWebhookTimeoutMs plan requestedMs ≤ maxWebhookTimeoutMs plan :=
  Nat.min_le_right _ _

theorem effectiveRateLimitRpm_le (plan : Plan) (requestedRpm : Nat) :
    ∀ limit ∈ maxRateLimitRpm plan, effectiveRateLimitRpm plan requestedRpm ≤ limit := by
  intro limit paid
  rw [effectiveRateLimitRpm, Option.mem_def.mp paid]
  exact Nat.min_le_right _ _

theorem effectiveKeyRateLimitRpm_le (plan : Plan) (requestedRpm : Int) :
    ∀ limit ∈ maxRateLimitRpm plan, effectiveKeyRateLimitRpm plan requestedRpm ≤ limit := by
  intro limit paid
  rw [effectiveKeyRateLimitRpm, Option.mem_def.mp paid]
  exact Int.min_le_right _ _

/-- A listing of a thousand documents is long enough for every plan. -/
theorem isWithinProjectLimit_min (plan : Plan) (count : Nat) :
    isWithinProjectLimit plan (min 1000 count) = isWithinProjectLimit plan count := by
  have small : ∀ limit ∈ maxProjects plan, limit ≤ 1000 := by
    cases plan <;> simp [maxProjects, planLimits]
  unfold isWithinProjectLimit isWithin
  cases found : maxProjects plan with
  | none => rfl
  | some limit =>
      have := small limit found
      simp only [decide_eq_decide]
      omega

end LiveChat.Core.PlanLimits
