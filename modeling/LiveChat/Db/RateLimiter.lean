import LiveChat.Db.RedisClient
import LiveChat.Foundation.TransitionSystem

/-!
# Concurrent calls of the rate limiter

`check_and_increment_rate_limit` of `db/redis_client.py` as it runs in many tasks at once: a
call reads the clock, runs `INCR`, and after the first `INCR` of its window `EXPIRE`.  Any
number of callers, each with its own terms, share one Redis; `resume` runs the next command
of a caller, if it has one left.
-/

set_option autoImplicit false

namespace LiveChat.Db.RateLimiter

open LiveChat.Core
open LiveChat.Foundation

/-- The arguments of a call. -/
structure Terms where
  keyPrefix : String
  limit : Int
  windowS : Nat

inductive CallPhase where
  /-- `INCR` is next, under the window that was computed. -/
  | counting (window : Nat)
  /-- `EXPIRE` is next. -/
  | arming (window count : Nat)
  | answered (allowed : Bool)
  deriving DecidableEq

structure Limiter (Caller : Type) where
  now : Instant
  redis : Redis := {}
  calls : Caller → Option CallPhase := fun _ => none

inductive LimiterEvent (Caller : Type) where
  | tick (elapsed : Nat)
  /-- The call is made: it reads the clock. -/
  | begin (caller : Caller)
  | resume (caller : Caller)

/-- Whose event it is, when it is of a call. -/
def LimiterEvent.caller {Caller : Type} : LimiterEvent Caller → Option Caller
  | .tick _ => none
  | .begin caller | .resume caller => some caller

namespace Limiter

variable {Caller : Type} [DecidableEq Caller] (terms : Caller → Terms)

def setCall (limiter : Limiter Caller) (caller : Caller) (phase : CallPhase) : Limiter Caller :=
  { limiter with
    calls := fun other => if other = caller then some phase else limiter.calls other }

/-- `INCR`. -/
def count (limiter : Limiter Caller) (caller : Caller) (window : Nat) : Limiter Caller :=
  let (redis, count) := limiter.redis.incr limiter.now (terms caller).keyPrefix window
  { limiter with redis := redis }.setCall caller
    (if count = 1 then .arming window count
    else .answered (Redis.isAllowed count (terms caller).limit))

/-- `EXPIRE`. -/
def arm (limiter : Limiter Caller) (caller : Caller) (window count : Nat) : Limiter Caller :=
  { limiter with
    redis := limiter.redis.expire limiter.now (terms caller).keyPrefix window
      (terms caller).windowS }.setCall caller
    (.answered (Redis.isAllowed count (terms caller).limit))

def step (limiter : Limiter Caller) : LimiterEvent Caller → Limiter Caller
  | .tick elapsed => { limiter with now := limiter.now + elapsed }
  | .begin caller =>
      match limiter.calls caller with
      | none => limiter.setCall caller
          (.counting (Redis.rateWindow limiter.now (terms caller).windowS))
      | some _ => limiter
  | .resume caller =>
      match limiter.calls caller with
      | some (.counting window) => limiter.count terms caller window
      | some (.arming window count) => limiter.arm terms caller window count
      | _ => limiter

def run (limiter : Limiter Caller) (events : List (LimiterEvent Caller)) : Limiter Caller :=
  events.foldl (step terms) limiter

/-- What the number that `INCR` told decides; a call that comes past `EXPIRE` returns it. -/
def decision (limiter : Limiter Caller) (caller : Caller) : Option Bool :=
  match limiter.calls caller with
  | some (.arming _ count) => some (Redis.isAllowed count (terms caller).limit)
  | some (.answered allowed) => some allowed
  | _ => none

/-- The events of the other callers. -/
def without (removed : Caller → Bool) (events : List (LimiterEvent Caller)) :
    List (LimiterEvent Caller) :=
  events.filter fun event => !event.caller.any removed

/-! ## Callers with other prefixes -/

variable {terms}

/-- What a caller with the prefix can tell two limiters apart by. -/
structure SameFor (terms : Caller → Terms) (keyPrefix : String)
    (limiter other : Limiter Caller) : Prop where
  now : limiter.now = other.now
  counters : ∀ window, limiter.redis.rateLimits.lookup (keyPrefix, window) =
    other.redis.rateLimits.lookup (keyPrefix, window)
  calls : ∀ caller, (terms caller).keyPrefix = keyPrefix →
    limiter.calls caller = other.calls caller

omit [DecidableEq Caller] in
theorem SameFor.refl (keyPrefix : String) (limiter : Limiter Caller) :
    SameFor terms keyPrefix limiter limiter :=
  ⟨rfl, fun _ => rfl, fun _ _ => rfl⟩

omit [DecidableEq Caller] in
theorem SameFor.symm {keyPrefix : String} {limiter other : Limiter Caller}
    (same : SameFor terms keyPrefix limiter other) : SameFor terms keyPrefix other limiter :=
  ⟨same.now.symm, fun window => (same.counters window).symm,
    fun caller own => (same.calls caller own).symm⟩

omit [DecidableEq Caller] in
theorem SameFor.trans {keyPrefix : String} {first second third : Limiter Caller}
    (front : SameFor terms keyPrefix first second) (back : SameFor terms keyPrefix second third) :
    SameFor terms keyPrefix first third :=
  ⟨front.now.trans back.now, fun window => (front.counters window).trans (back.counters window),
    fun caller own => (front.calls caller own).trans (back.calls caller own)⟩

omit [DecidableEq Caller] in
theorem counters_ne {keyPrefix foreign : String} (differs : foreign ≠ keyPrefix)
    (window other : Nat) : (keyPrefix, window) ≠ (foreign, other) :=
  fun same => differs (congrArg Prod.fst same).symm

omit [DecidableEq Caller] in
theorem windows_ne (keyPrefix : String) {window other : Nat} (differs : other ≠ window) :
    (keyPrefix, other) ≠ (keyPrefix, window) := fun same => differs (congrArg Prod.snd same)

theorem sameFor_setCall {keyPrefix : String} {caller : Caller} (limiter : Limiter Caller)
    (foreign : (terms caller).keyPrefix ≠ keyPrefix) (phase : CallPhase) :
    SameFor terms keyPrefix (limiter.setCall caller phase) limiter := by
  refine ⟨rfl, fun _ => rfl, fun other own => if_neg ?_⟩
  rintro rfl
  exact foreign own

theorem sameFor_count {keyPrefix : String} {caller : Caller} (limiter : Limiter Caller)
    (foreign : (terms caller).keyPrefix ≠ keyPrefix) (window : Nat) :
    SameFor terms keyPrefix (limiter.count terms caller window) limiter := by
  refine (sameFor_setCall _ foreign _).trans ⟨rfl, fun other => ?_, fun _ _ => rfl⟩
  exact ExpiringStore.lookup_update_ne _ _ (counters_ne foreign other window) _ _

theorem sameFor_arm {keyPrefix : String} {caller : Caller} (limiter : Limiter Caller)
    (foreign : (terms caller).keyPrefix ≠ keyPrefix) (window count : Nat) :
    SameFor terms keyPrefix (limiter.arm terms caller window count) limiter := by
  refine (sameFor_setCall _ foreign _).trans ⟨rfl, fun other => ?_, fun _ _ => rfl⟩
  exact ExpiringStore.lookup_expire_ne _ _ (counters_ne foreign other window) _

/-- A caller with another prefix changes nothing that the prefix can tell. -/
theorem sameFor_foreign {keyPrefix : String} {event : LimiterEvent Caller} {caller : Caller}
    (limiter : Limiter Caller) (made : event.caller = some caller)
    (foreign : (terms caller).keyPrefix ≠ keyPrefix) :
    SameFor terms keyPrefix (limiter.step terms event) limiter := by
  cases event with
  | tick elapsed => cases made
  | begin begun =>
      cases made
      simp only [step]
      split
      · exact sameFor_setCall limiter foreign _
      · exact .refl keyPrefix limiter
  | resume resumed =>
      cases made
      simp only [step]
      split
      · exact sameFor_count limiter foreign _
      · exact sameFor_arm limiter foreign _ _
      · exact .refl keyPrefix limiter

theorem SameFor.setCall {keyPrefix : String} {limiter other : Limiter Caller}
    (same : SameFor terms keyPrefix limiter other) (caller : Caller) (phase : CallPhase) :
    SameFor terms keyPrefix (limiter.setCall caller phase) (other.setCall caller phase) := by
  refine ⟨same.now, same.counters, fun asker own => ?_⟩
  simp only [Limiter.setCall]
  rw [same.calls asker own]

/-- Of two limiters that its prefix cannot tell apart, a caller makes two such again. -/
theorem SameFor.count {caller : Caller} {limiter other : Limiter Caller}
    (same : SameFor terms (terms caller).keyPrefix limiter other) (window : Nat) :
    SameFor terms (terms caller).keyPrefix (limiter.count terms caller window)
      (other.count terms caller window) := by
  have counted : (limiter.redis.incr limiter.now (terms caller).keyPrefix window).2 =
      (other.redis.incr other.now (terms caller).keyPrefix window).2 := by
    simp only [Redis.incr, same.now, ExpiringStore.get_congr (same.counters window)]
  have incremented : SameFor terms (terms caller).keyPrefix
      { limiter with
        redis := (limiter.redis.incr limiter.now (terms caller).keyPrefix window).1 }
      { other with redis := (other.redis.incr other.now (terms caller).keyPrefix window).1 } := by
    refine ⟨same.now, fun asked => ?_, same.calls⟩
    simp only [Redis.incr]
    by_cases here : asked = window
    · subst here
      rw [ExpiringStore.lookup_update, ExpiringStore.lookup_update, same.counters, same.now]
    · have elsewhere := windows_ne (terms caller).keyPrefix here
      rw [ExpiringStore.lookup_update_ne _ _ elsewhere,
        ExpiringStore.lookup_update_ne _ _ elsewhere, same.counters]
  simp only [Limiter.count, counted]
  exact incremented.setCall caller _

theorem SameFor.arm {caller : Caller} {limiter other : Limiter Caller}
    (same : SameFor terms (terms caller).keyPrefix limiter other) (window count : Nat) :
    SameFor terms (terms caller).keyPrefix (limiter.arm terms caller window count)
      (other.arm terms caller window count) := by
  have armed : SameFor terms (terms caller).keyPrefix
      { limiter with
        redis := limiter.redis.expire limiter.now (terms caller).keyPrefix window
          (terms caller).windowS }
      { other with
        redis := other.redis.expire other.now (terms caller).keyPrefix window
          (terms caller).windowS } := by
    refine ⟨same.now, fun asked => ?_, same.calls⟩
    simp only [Redis.expire, same.now]
    by_cases here : asked = window
    · subst here
      exact ExpiringStore.lookup_expire_congr (same.counters asked) _ _
    · have elsewhere := windows_ne (terms caller).keyPrefix here
      rw [ExpiringStore.lookup_expire_ne _ _ elsewhere,
        ExpiringStore.lookup_expire_ne _ _ elsewhere, same.counters]
  exact armed.setCall caller _

theorem SameFor.own {event : LimiterEvent Caller} {caller : Caller}
    {limiter other : Limiter Caller} (made : event.caller = some caller)
    (same : SameFor terms (terms caller).keyPrefix limiter other) :
    SameFor terms (terms caller).keyPrefix (limiter.step terms event)
      (other.step terms event) := by
  cases event with
  | tick elapsed => cases made
  | begin begun =>
      cases made
      simp only [Limiter.step, ← same.calls caller rfl, ← same.now]
      cases limiter.calls caller with
      | none => exact same.setCall caller _
      | some phase => exact same
  | resume resumed =>
      cases made
      simp only [Limiter.step, ← same.calls caller rfl]
      cases limiter.calls caller with
      | none => exact same
      | some phase =>
          cases phase with
          | counting window => exact same.count window
          | arming window count => exact same.arm window count
          | answered allowed => exact same

theorem SameFor.step {keyPrefix : String} {limiter other : Limiter Caller}
    (same : SameFor terms keyPrefix limiter other) (event : LimiterEvent Caller) :
    SameFor terms keyPrefix (limiter.step terms event) (other.step terms event) := by
  cases made : event.caller with
  | none =>
      cases event with
      | tick elapsed =>
          exact ⟨congrArg (fun now => now + elapsed) same.now, same.counters, same.calls⟩
      | begin caller => cases made
      | resume caller => cases made
  | some caller =>
      by_cases foreign : (terms caller).keyPrefix = keyPrefix
      · subst foreign
        exact same.own made
      · exact ((sameFor_foreign limiter made foreign).trans same).trans
          (sameFor_foreign other made foreign).symm

/-- Callers with other prefixes can be left out: a caller with the prefix sees no difference. -/
theorem sameFor_without {keyPrefix : String} {removed : Caller → Bool}
    (foreign : ∀ caller, removed caller = true → (terms caller).keyPrefix ≠ keyPrefix)
    (limiter : Limiter Caller) (events : List (LimiterEvent Caller)) :
    SameFor terms keyPrefix (limiter.run terms events)
      (limiter.run terms (without removed events)) := by
  refine TransitionSystem.foldl_purged ?_ ?_ events (SameFor.refl keyPrefix limiter)
  · intro state other event gone same
    obtain ⟨caller, made, listed⟩ := (Option.any_eq_true _ _).mp gone
    exact (sameFor_foreign state made (foreign caller listed)).trans same
  · intro state other event _ same
    exact same.step event

theorem decision_without {caller : Caller} {removed : Caller → Bool}
    (foreign : ∀ other, removed other = true →
      (terms other).keyPrefix ≠ (terms caller).keyPrefix)
    (limiter : Limiter Caller) (events : List (LimiterEvent Caller)) :
    (limiter.run terms events).decision terms caller =
      (limiter.run terms (without removed events)).decision terms caller := by
  unfold decision
  rw [(sameFor_without foreign limiter events).calls caller rfl]

/-! ## Counting -/

theorem calls_setCall (limiter : Limiter Caller) (caller : Caller) (phase : CallPhase) :
    (limiter.setCall caller phase).calls caller = some phase := if_pos rfl

theorem calls_setCall_ne (limiter : Limiter Caller) {caller other : Caller}
    (differs : other ≠ caller) (phase : CallPhase) :
    (limiter.setCall caller phase).calls other = limiter.calls other := if_neg differs

theorem calls_step_ne {event : LimiterEvent Caller} {caller : Caller} (limiter : Limiter Caller)
    (differs : event.caller ≠ some caller) :
    (limiter.step terms event).calls caller = limiter.calls caller := by
  cases event with
  | tick elapsed => rfl
  | begin begun =>
      have other : caller ≠ begun := fun same => differs (congrArg some same.symm)
      simp only [step]
      split
      · exact calls_setCall_ne limiter other _
      · rfl
  | resume resumed =>
      have other : caller ≠ resumed := fun same => differs (congrArg some same.symm)
      simp only [step]
      split
      · exact calls_setCall_ne _ other _
      · exact calls_setCall_ne _ other _
      · rfl

theorem decision_count (limiter : Limiter Caller) (caller : Caller) (window : Nat) :
    (limiter.count terms caller window).decision terms caller =
      some (Redis.isAllowed (limiter.redis.incr limiter.now (terms caller).keyPrefix window).2
        (terms caller).limit) := by
  simp only [decision, count, calls_setCall]
  by_cases first : (limiter.redis.incr limiter.now (terms caller).keyPrefix window).2 = 1
  · rw [if_pos first]
  · rw [if_neg first]

theorem decision_arm (limiter : Limiter Caller) (caller : Caller) (window count : Nat) :
    (limiter.arm terms caller window count).decision terms caller =
      some (Redis.isAllowed count (terms caller).limit) := by
  simp only [decision, arm, calls_setCall]

theorem incr_pos (redis : Redis) (now : Instant) (keyPrefix : String) (window : Nat) :
    0 < (redis.incr now keyPrefix window).2 := Nat.succ_pos _

theorem isAllowed_of_nonpos {count : Nat} {limit : Int} (counted : 0 < count) (low : limit ≤ 0) :
    Redis.isAllowed count limit = false := by
  simp only [Redis.isAllowed, decide_eq_false_iff_not]
  omega

/-! ## A limit that nobody meets -/

/-- The caller has come as far in both limiters, and was not allowed. -/
structure SameRefusal (terms : Caller → Terms) (caller : Caller)
    (limiter other : Limiter Caller) : Prop where
  begun : limiter.calls caller = none ↔ other.calls caller = none
  decided : limiter.decision terms caller = other.decision terms caller
  refused : limiter.decision terms caller ≠ some true

omit [DecidableEq Caller] in
theorem SameRefusal.congr {caller : Caller} {limiter other limiter' other' : Limiter Caller}
    (same : SameRefusal terms caller limiter other)
    (here : limiter'.calls caller = limiter.calls caller)
    (there : other'.calls caller = other.calls caller) :
    SameRefusal terms caller limiter' other' := by
  obtain ⟨begun, decided, refused⟩ := same
  unfold decision at decided refused
  refine ⟨?_, ?_, ?_⟩
  · rw [here, there]
    exact begun
  · unfold decision
    rw [here, there]
    exact decided
  · unfold decision
    rw [here]
    exact refused

theorem decision_begin (terms : Caller → Terms) (limiter : Limiter Caller) (caller : Caller) :
    (limiter.step terms (.begin caller)).calls caller ≠ none ∧
      (limiter.step terms (.begin caller)).decision terms caller =
        limiter.decision terms caller := by
  cases phase : limiter.calls caller with
  | none => simp [step, decision, phase, calls_setCall]
  | some begun => simp [step, decision, phase]

/-- A call that was begun is refused when it is resumed. -/
theorem decision_resume {limiter : Limiter Caller} {caller : Caller}
    (low : (terms caller).limit ≤ 0) (refused : limiter.decision terms caller ≠ some true) :
    ((limiter.step terms (.resume caller)).calls caller = none ↔ limiter.calls caller = none) ∧
      (limiter.step terms (.resume caller)).decision terms caller =
        if limiter.calls caller = none then none else some false := by
  cases phase : limiter.calls caller with
  | none => simp [step, decision, phase]
  | some begun =>
      rw [if_neg (by simp)]
      cases begun with
      | counting window =>
          have next : limiter.step terms (.resume caller) = limiter.count terms caller window := by
            simp only [step, phase]
          rw [next, decision_count, isAllowed_of_nonpos (incr_pos _ _ _ _) low]
          exact ⟨by simp [count, calls_setCall], rfl⟩
      | arming window count =>
          have next : limiter.step terms (.resume caller) =
              limiter.arm terms caller window count := by
            simp only [step, phase]
          simp only [decision, phase, ne_eq, Option.some.injEq, Bool.not_eq_true] at refused
          rw [next, decision_arm, refused]
          exact ⟨by simp [arm, calls_setCall], rfl⟩
      | answered allowed =>
          simp only [decision, phase, ne_eq, Option.some.injEq, Bool.not_eq_true] at refused
          simp [step, decision, phase, refused]

theorem SameRefusal.step {caller : Caller} {limiter other : Limiter Caller}
    (low : (terms caller).limit ≤ 0) (same : SameRefusal terms caller limiter other)
    (event : LimiterEvent Caller) :
    SameRefusal terms caller (limiter.step terms event) (other.step terms event) := by
  by_cases own : event.caller = some caller
  · cases event with
    | tick elapsed => cases own
    | begin begun =>
        cases own
        obtain ⟨here, kept⟩ := decision_begin terms limiter caller
        obtain ⟨there, kept'⟩ := decision_begin terms other caller
        exact ⟨by simp [here, there], by rw [kept, kept', same.decided], by
          rw [kept]
          exact same.refused⟩
    | resume resumed =>
        cases own
        obtain ⟨here, told⟩ := decision_resume low same.refused
        obtain ⟨there, told'⟩ := decision_resume low (same.decided ▸ same.refused)
        refine ⟨?_, ?_, ?_⟩
        · rw [here, there]
          exact same.begun
        · simp only [told, told', same.begun]
        · rw [told]
          split <;> simp
  · exact same.congr (calls_step_ne limiter own) (calls_step_ne other own)

/-- Nobody's handshakes matter to a caller that is refused whatever the counter says. -/
theorem decision_without_of_nonpos {caller : Caller} {removed : Caller → Bool}
    (kept : removed caller = false) (low : (terms caller).limit ≤ 0) {limiter : Limiter Caller}
    (fresh : limiter.calls caller = none) (events : List (LimiterEvent Caller)) :
    (limiter.run terms events).decision terms caller =
      (limiter.run terms (without removed events)).decision terms caller := by
  have start : SameRefusal terms caller limiter limiter :=
    ⟨Iff.rfl, rfl, by simp [decision, fresh]⟩
  refine (TransitionSystem.foldl_purged ?_ ?_ events start).decided
  · intro state other event gone same
    obtain ⟨remover, made, listed⟩ := (Option.any_eq_true _ _).mp gone
    refine same.congr (calls_step_ne state ?_) rfl
    rw [made]
    rintro ⟨⟩
    cases kept.symm.trans listed
  · intro state other event _ same
    exact same.step low event

/-! ## Calls from their first command to their last -/

/-- The events of a call; after a later `INCR` there is nothing left to resume. -/
def wholeCall (caller : Caller) : List (LimiterEvent Caller) :=
  [.begin caller, .resume caller, .resume caller]

/-- What the counter of the present window stands at. -/
def counter (limiter : Limiter Caller) (keyPrefix : String) (windowS : Nat) : Nat :=
  (limiter.redis.rateLimits.get limiter.now
    (keyPrefix, Redis.rateWindow limiter.now windowS)).getD 0

/-- A call that runs alone counts one more. -/
structure Counted (terms : Caller → Terms) (caller : Caller)
    (limiter final : Limiter Caller) : Prop where
  now : final.now = limiter.now
  counter : final.counter (terms caller).keyPrefix (terms caller).windowS =
    limiter.counter (terms caller).keyPrefix (terms caller).windowS + 1
  decided : final.decision terms caller =
    some (Redis.isAllowed (limiter.counter (terms caller).keyPrefix (terms caller).windowS + 1)
      (terms caller).limit)
  others : ∀ other ≠ caller, final.calls other = limiter.calls other

theorem wholeCall_counted {limiter : Limiter Caller} {caller : Caller}
    (fresh : limiter.calls caller = none) (lasts : 0 < (terms caller).windowS) :
    Counted terms caller limiter (limiter.run terms (wholeCall caller)) := by
  let window := Redis.rateWindow limiter.now (terms caller).windowS
  let begun := limiter.setCall caller (.counting window)
  let counted := begun.count terms caller window
  have first : limiter.step terms (.begin caller) = begun := by
    simp only [step, fresh, begun, window]
  have second : begun.step terms (.resume caller) = counted := by
    have phase : begun.calls caller = some (.counting window) := calls_setCall _ _ _
    simp only [step, phase, counted]
  have run : limiter.run terms (wholeCall caller) = counted.step terms (.resume caller) := by
    simp only [Limiter.run, wholeCall, List.foldl_cons, List.foldl_nil, first, second]
  have others : ∀ other ≠ caller,
      (limiter.run terms (wholeCall caller)).calls other = limiter.calls other := by
    intro other differs
    have quiet : ∀ event : LimiterEvent Caller, event.caller = some caller →
        event.caller ≠ some other := by
      rintro event made same
      exact differs (Option.some.inj (same.symm.trans made))
    rw [run, calls_step_ne _ (quiet _ rfl), ← second, calls_step_ne _ (quiet _ rfl), ← first,
      calls_step_ne _ (quiet _ rfl)]
  have decided : counted.decision terms caller = some (Redis.isAllowed
      (limiter.counter (terms caller).keyPrefix (terms caller).windowS + 1)
      (terms caller).limit) := decision_count begun caller window
  have stands : counted.redis.rateLimits.get limiter.now ((terms caller).keyPrefix, window) =
      some (limiter.counter (terms caller).keyPrefix (terms caller).windowS + 1) :=
    ExpiringStore.get_update _ _ _ _ _
  rw [run] at others ⊢
  by_cases opens : (begun.redis.incr begun.now (terms caller).keyPrefix window).2 = 1
  · -- the deadline is still to come, so the counter stands
    have phase : counted.calls caller = some (.arming window
        (begun.redis.incr begun.now (terms caller).keyPrefix window).2) := by
      simp only [counted, count, calls_setCall, if_pos opens]
    have third : counted.step terms (.resume caller) = counted.arm terms caller window
        (begun.redis.incr begun.now (terms caller).keyPrefix window).2 := by
      simp only [step, phase]
    have later : 0 < (terms caller).windowS * 2 * SECOND :=
      Nat.mul_pos (Nat.mul_pos lasts Nat.two_pos) (by decide)
    rw [third] at others ⊢
    refine ⟨rfl, ?_, decision_arm counted caller window _, others⟩
    exact congrArg (Option.getD · 0) ((ExpiringStore.get_expire _ _ _ later).trans stands)
  · have phase : counted.calls caller = some (.answered (Redis.isAllowed
        (begun.redis.incr begun.now (terms caller).keyPrefix window).2 (terms caller).limit)) := by
      simp only [counted, count, calls_setCall, if_neg opens]
    have third : counted.step terms (.resume caller) = counted := by
      simp only [step, phase]
    rw [third] at others ⊢
    exact ⟨rfl, congrArg (Option.getD · 0) stands, decided, others⟩

/-- Calls of one prefix and window that run one after the other. -/
theorem wholeCalls_counted {keyPrefix : String} {windowS : Nat} (lasts : 0 < windowS)
    {callers : List Caller} (distinct : callers.Nodup)
    (shared : ∀ caller ∈ callers,
      (terms caller).keyPrefix = keyPrefix ∧ (terms caller).windowS = windowS)
    {limiter : Limiter Caller} (fresh : ∀ caller ∈ callers, limiter.calls caller = none) :
    let final := limiter.run terms (callers.flatMap wholeCall)
    final.now = limiter.now ∧
      final.counter keyPrefix windowS = limiter.counter keyPrefix windowS + callers.length ∧
      ∀ other ∉ callers, final.calls other = limiter.calls other := by
  induction callers generalizing limiter with
  | nil => exact ⟨rfl, rfl, fun _ _ => rfl⟩
  | cons caller rest ih =>
      obtain ⟨⟨samePrefix, sameWindow⟩, sharedRest⟩ := List.forall_mem_cons.mp shared
      obtain ⟨unbegun, freshRest⟩ := List.forall_mem_cons.mp fresh
      obtain ⟨new, distinctRest⟩ := List.nodup_cons.mp distinct
      have counted : Counted terms caller limiter (limiter.run terms (wholeCall caller)) :=
        wholeCall_counted unbegun (sameWindow ▸ lasts)
      have stillFresh : ∀ other ∈ rest,
          (limiter.run terms (wholeCall caller)).calls other = none := by
        intro other listed
        rw [counted.others other (fun same => new (same ▸ listed))]
        exact freshRest other listed
      obtain ⟨now, total, others⟩ := ih distinctRest sharedRest stillFresh
      have split : limiter.run terms ((caller :: rest).flatMap wholeCall) =
          (limiter.run terms (wholeCall caller)).run terms (rest.flatMap wholeCall) := by
        simp only [Limiter.run, List.flatMap_cons, List.foldl_append]
      have one := counted.counter
      rw [samePrefix, sameWindow] at one
      simp only [split]
      refine ⟨now.trans counted.now, ?_, fun other unlisted => ?_⟩
      · rw [total, one, List.length_cons]
        omega
      · obtain ⟨differs, elsewhere⟩ := not_or.mp (mt List.mem_cons.mpr unlisted)
        rw [others other elsewhere, counted.others other differs]

/-! ## Removing whole calls -/

omit [DecidableEq Caller] in
theorem without_append (removed : Caller → Bool) (front back : List (LimiterEvent Caller)) :
    without removed (front ++ back) = without removed front ++ without removed back :=
  List.filter_append _ _

omit [DecidableEq Caller] in
theorem without_wholeCall {removed : Caller → Bool} {caller : Caller}
    (kept : removed caller = false) : without removed (wholeCall caller) = wholeCall caller := by
  simp [without, wholeCall, LimiterEvent.caller, kept]

omit [DecidableEq Caller] in
theorem without_wholeCalls {removed : Caller → Bool} {callers : List Caller}
    (gone : ∀ caller ∈ callers, removed caller = true) :
    without removed (callers.flatMap wholeCall) = [] := by
  refine List.filter_eq_nil_iff.mpr fun event listed => ?_
  obtain ⟨caller, among, own⟩ := List.mem_flatMap.mp listed
  have made : event.caller = some caller := by
    simp only [wholeCall, List.mem_cons, List.not_mem_nil, or_false] at own
    rcases own with rfl | rfl | rfl <;> rfl
  simp [made, gone caller among]

end Limiter

end LiveChat.Db.RateLimiter
