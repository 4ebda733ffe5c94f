import LiveChat.Db.RateLimiter
import LiveChat.Foundation.FixedWindows

/-!
# The bound of the rate limiter

Any number of calls of `check_and_increment_rate_limit` with the same arguments, on a Redis that
holds no counter of their prefix yet.  `Counts` records beside the limiter when each call read
the clock, the calls in the order of their `INCR`s, and the callers that failed before their
call returned.  As long as an `INCR` is not a window late, the counter of a window cannot expire
under a call of that window, so the number that `INCR` tells a call is the one that it has among
the calls of its window.  It decides what the call returns; a call that fails between `INCR` and
`EXPIRE` returns nothing, but has its place.
-/

set_option autoImplicit false

namespace LiveChat.Db.RateLimiter

open LiveChat.Core
open LiveChat.Foundation
open LiveChat.Foundation.TransitionSystem
open LiveChat.Foundation.FixedWindows

structure CountedCall (Caller : Type) where
  caller : Caller
  /-- What the clock said when the call read it. -/
  reading : Instant
  /-- What `INCR` told. -/
  count : Nat
  deriving DecidableEq

structure Counts (Caller : Type) where
  limiter : Limiter Caller
  /-- When the callers that have begun read the clock. -/
  readings : Caller → Instant := fun _ => 0
  /-- In the order of their `INCR`s. -/
  counted : List (CountedCall Caller) := []
  failed : Caller → Bool := fun _ => false

inductive CountsEvent (Caller : Type) where
  | command (event : LimiterEvent Caller)
  /-- The caller is cancelled, or its next command raises. -/
  | fail (caller : Caller)

def CountsEvent.command? {Caller : Type} : CountsEvent Caller → Option (LimiterEvent Caller)
  | .command event => some event
  | .fail _ => none

namespace Counts

variable {Caller : Type} [DecidableEq Caller] (keyPrefix : String) (limit windowS : Nat)

def terms (_ : Caller) : Terms := ⟨keyPrefix, limit, windowS⟩

def opened (redis : Redis) (now : Instant) : Counts Caller := { limiter := { now, redis } }

def begin (counts : Counts Caller) (caller : Caller) : Counts Caller :=
  { counts with
    limiter := counts.limiter.step (terms keyPrefix limit windowS) (.begin caller)
    readings := fun other =>
      if other = caller then counts.limiter.now else counts.readings other }

def count (counts : Counts Caller) (caller : Caller) (window : Nat) : Counts Caller :=
  { counts with
    limiter := counts.limiter.count (terms keyPrefix limit windowS) caller window
    counted := counts.counted ++
      [⟨caller, counts.readings caller,
        (counts.limiter.redis.incr counts.limiter.now keyPrefix window).2⟩] }

def fail (counts : Counts Caller) (caller : Caller) : Counts Caller :=
  { counts with failed := fun other => decide (other = caller) || counts.failed other }

/-- A call that has begun and has not returned can fail, and runs no command afterwards. -/
def step (counts : Counts Caller) : CountsEvent Caller → Option (Counts Caller)
  | .command (.begin caller) =>
      match counts.limiter.calls caller with
      | none => some (counts.begin keyPrefix limit windowS caller)
      | some _ => some counts
  | .command (.resume caller) =>
      if counts.failed caller then none
      else
        match counts.limiter.calls caller with
        | some (.counting window) => some (counts.count keyPrefix limit windowS caller window)
        | _ => some { counts with
            limiter := counts.limiter.step (terms keyPrefix limit windowS) (.resume caller) }
  | .command (.tick elapsed) => some { counts with
      limiter := counts.limiter.step (terms keyPrefix limit windowS) (.tick elapsed) }
  | .fail caller =>
      match counts.limiter.calls caller with
      | some (.counting _) | some (.arming _ _) => some (counts.fail caller)
      | _ => none

def waits (counts : Counts Caller) (caller : Caller) : Bool :=
  match counts.limiter.calls caller with
  | some (.counting _) => true
  | _ => false

/-- `INCR` runs less than a window after its call read the clock. -/
def InTime (counts : Counts Caller) : CountsEvent Caller → Prop
  | .command (.resume caller) =>
      counts.waits caller = true → counts.limiter.now < counts.readings caller + windowS * SECOND
  | _ => True

instance (counts : Counts Caller) : ∀ event, Decidable (InTime windowS counts event)
  | .command (.resume caller) => inferInstanceAs (Decidable (counts.waits caller = true →
      counts.limiter.now < counts.readings caller + windowS * SECOND))
  | .command (.begin _) | .command (.tick _) | .fail _ => isTrue trivial

variable {keyPrefix : String} {limit windowS : Nat}

theorem step_limiter {counts next : Counts Caller} {event : LimiterEvent Caller}
    (stepped : counts.step keyPrefix limit windowS (.command event) = some next) :
    next.limiter = counts.limiter.step (terms keyPrefix limit windowS) event := by
  cases event with
  | tick elapsed =>
      cases stepped
      rfl
  | begin caller =>
      simp only [Counts.step, Limiter.step] at stepped ⊢
      cases phase : counts.limiter.calls caller with
      | none =>
          rw [phase] at stepped
          cases stepped
          simp only [Counts.begin, Limiter.step, phase]
      | some begun =>
          rw [phase] at stepped
          cases stepped
          rfl
  | resume caller =>
      simp only [Counts.step, Limiter.step] at stepped ⊢
      split at stepped
      · cases stepped
      · cases phase : counts.limiter.calls caller with
        | none =>
            rw [phase] at stepped
            cases stepped
            rfl
        | some begun =>
            rw [phase] at stepped
            cases begun <;> cases stepped <;> rfl

theorem step_fail {counts next : Counts Caller} {caller : Caller}
    (stepped : counts.step keyPrefix limit windowS (.fail caller) = some next) :
    (∀ told, counts.limiter.calls caller ≠ some (.answered told)) ∧ next = counts.fail caller := by
  simp only [Counts.step] at stepped
  split at stepped
  · rename_i window waits
    cases stepped
    refine ⟨fun told answered => ?_, rfl⟩
    cases waits.symm.trans answered
  · rename_i window count arms
    cases stepped
    refine ⟨fun told answered => ?_, rfl⟩
    cases arms.symm.trans answered
  · cases stepped

theorem exec_limiter {counts final : Counts Caller} {events : List (CountsEvent Caller)}
    (run : exec (Counts.step keyPrefix limit windowS) counts events = some final) :
    final.limiter = counts.limiter.run (terms keyPrefix limit windowS)
      (events.filterMap CountsEvent.command?) := by
  induction events generalizing counts with
  | nil =>
      cases run
      rfl
  | cons event rest ih =>
      obtain ⟨next, stepped, later⟩ := exec_cons_some run
      rw [ih later]
      cases event with
      | command event =>
          rw [step_limiter stepped]
          rfl
      | fail caller =>
          obtain ⟨_, rfl⟩ := step_fail stepped
          rfl

/-! ## What is bounded -/

variable (keyPrefix limit windowS)

/-- The calls whose clock reading lies in an aligned window, in the order of their `INCR`s. -/
def callsOf (counts : Counts Caller) (window : Nat) : List (CountedCall Caller) :=
  ofWindow (fun call => Redis.rateWindow call.reading windowS) window counts.counted

def answer (counts : Counts Caller) (call : CountedCall Caller) : Option Bool :=
  match counts.limiter.calls call.caller with
  | some (.answered allowed) => some allowed
  | _ => none

def allowed (counts : Counts Caller) (call : CountedCall Caller) : Bool :=
  counts.answer call = some true

/-- The caller awaits `EXPIRE`, or has failed there. -/
def stranded (counts : Counts Caller) (call : CountedCall Caller) : Bool :=
  match counts.limiter.calls call.caller with
  | some (.arming _ _) => true
  | _ => false

def finished (counts : Counts Caller) (caller : Caller) : Bool :=
  match counts.limiter.calls caller with
  | none | some (.answered _) => true
  | some (.counting _) | some (.arming _ _) => counts.failed caller

def allowedWithin (counts : Counts Caller) (start : Instant) : List (CountedCall Caller) :=
  counts.counted.filter fun call =>
    start ≤ call.reading ∧ call.reading ≤ start + windowS * SECOND ∧
      counts.allowed call = true

structure Bounded (counts : Counts Caller) : Prop where
  /-- The numbers up to the limit are told to the first calls of an aligned window. -/
  places : ∀ window, (counts.callsOf windowS window).filter (fun call => call.count ≤ limit) =
    (counts.callsOf windowS window).take limit
  /-- The number decides what a call returns, and only a call that awaits `EXPIRE`, or failed
  there, has not returned. -/
  answers : ∀ call ∈ counts.counted, counts.answer call =
    if counts.stranded call then none else some (decide (call.count ≤ limit))
  /-- The calls allowed of an aligned window are the first of its calls that return. -/
  first : ∀ window, (counts.callsOf windowS window).filter counts.allowed =
    ((counts.callsOf windowS window).take limit).filter fun call => !counts.stranded call
  span : ∀ start, (counts.allowedWithin windowS start).length ≤ 2 * limit
  /-- No call returns without having been counted, or after its caller has failed. -/
  listed : ∀ caller told, counts.limiter.calls caller = some (.answered told) →
    caller ∈ counts.counted.map CountedCall.caller ∧ counts.failed caller = false
  once : (counts.counted.map CountedCall.caller).Nodup

/-! ## Windows of the clock -/

theorem rateWindow_eq (now : Instant) (windowS : Nat) :
    Redis.rateWindow now windowS = now / (windowS * SECOND) := by
  rw [Redis.rateWindow, unixTime, Nat.div_div_eq_div_mul, Nat.mul_comm]

theorem rateWindow_begun (now : Instant) (windowS : Nat) :
    Redis.rateWindow now windowS * (windowS * SECOND) ≤ now := by
  rw [rateWindow_eq]
  exact Nat.div_mul_le_self now _

theorem lt_of_inTime {reading now : Instant} {windowS : Nat} (read : reading ≤ now)
    (inTime : now < reading + windowS * SECOND) :
    now < (Redis.rateWindow reading windowS + 2) * (windowS * SECOND) := by
  have lasts : 0 < windowS * SECOND := Nat.pos_of_lt_add_right (Nat.lt_of_le_of_lt read inTime)
  have within : reading < (Redis.rateWindow reading windowS + 1) * (windowS * SECOND) := by
    rw [rateWindow_eq]
    exact (Nat.div_lt_iff_lt_mul lasts).mp (Nat.lt_succ_self _)
  calc now < reading + windowS * SECOND := inTime
    _ ≤ (Redis.rateWindow reading windowS + 1) * (windowS * SECOND) + windowS * SECOND :=
        Nat.add_le_add_right (Nat.le_of_lt within) _
    _ = (Redis.rateWindow reading windowS + 2) * (windowS * SECOND) := by rw [← Nat.succ_mul]

/-- A time span of a window's length meets two windows. -/
theorem rateWindow_within {start reading : Instant} {windowS : Nat} (begun : start ≤ reading)
    (ended : reading ≤ start + windowS * SECOND) :
    Redis.rateWindow reading windowS ∈
      [Redis.rateWindow start windowS, Redis.rateWindow start windowS + 1] := by
  rw [rateWindow_eq, rateWindow_eq, List.mem_pair]
  rcases Nat.eq_zero_or_pos (windowS * SECOND) with none | lasts
  · exact Or.inl (by rw [none, Nat.div_zero, Nat.div_zero])
  · have low : start / (windowS * SECOND) ≤ reading / (windowS * SECOND) :=
      Nat.div_le_div_right begun
    have high : reading / (windowS * SECOND) ≤ start / (windowS * SECOND) + 1 := by
      rw [← Nat.add_div_right start lasts]
      exact Nat.div_le_div_right ended
    exact Nat.le_and_le_add_one_iff.mp ⟨low, high⟩

/-! ## The tally -/

/-- The counter of a window, when there is one, has counted the calls of the window, and it does
not expire before the window after the next one. -/
def Stands (counts : Counts Caller) (window : Nat) : Option (Entry Nat) → Prop
  | none => counts.callsOf windowS window = []
  | some entry => entry.value = (counts.callsOf windowS window).length ∧
      ∀ deadline ∈ entry.expiresAt, (window + 2) * (windowS * SECOND) ≤ deadline

structure Tally (counts : Counts Caller) : Prop where
  /-- A call waits with the window that it read. -/
  waiting : ∀ caller window, counts.limiter.calls caller = some (.counting window) →
    window = Redis.rateWindow (counts.readings caller) windowS ∧
      counts.readings caller ≤ counts.limiter.now
  arming : ∀ caller window count, counts.limiter.calls caller = some (.arming window count) →
    window * (windowS * SECOND) ≤ counts.limiter.now
  settled : ∀ call ∈ counts.counted,
    counts.limiter.decision (terms keyPrefix limit windowS) call.caller =
      some (Redis.isAllowed call.count limit)
  listed : ∀ caller told,
    counts.limiter.decision (terms keyPrefix limit windowS) caller = some told →
      caller ∈ counts.counted.map CountedCall.caller
  once : (counts.counted.map CountedCall.caller).Nodup
  failed : ∀ caller, counts.failed caller = true → ∀ told,
    counts.limiter.calls caller ≠ some (.answered told)
  numbered : Numbered (fun call => Redis.rateWindow call.reading windowS) CountedCall.count
    counts.counted
  counters : ∀ window, counts.Stands windowS window
    (counts.limiter.redis.rateLimits.lookup (keyPrefix, window))

variable {keyPrefix : String} {limit windowS : Nat}

omit [DecidableEq Caller] in
theorem tally_opened {redis : Redis} (now : Instant)
    (unused : ∀ window, redis.rateLimits.lookup (keyPrefix, window) = none) :
    Tally keyPrefix limit windowS (opened redis now : Counts Caller) where
  waiting := by
    intro caller window waits
    cases waits
  arming := by
    intro caller window count arms
    cases arms
  settled := by
    intro call listed
    cases listed
  listed := by
    intro caller told decided
    cases decided
  once := List.nodup_nil
  failed := by
    intro caller gone
    cases gone
  numbered := numbered_nil
  counters := by
    intro window
    simp only [opened, unused window]
    rfl

omit [DecidableEq Caller] in
theorem Tally.tick {counts : Counts Caller} (tally : Tally keyPrefix limit windowS counts)
    (elapsed : Nat) :
    Tally keyPrefix limit windowS
      { counts with limiter := { counts.limiter with now := counts.limiter.now + elapsed } } :=
  { tally with
    waiting := fun caller window waits =>
      ⟨(tally.waiting caller window waits).1, Nat.le_add_right_of_le
        (tally.waiting caller window waits).2⟩
    arming := fun caller window count arms =>
      Nat.le_add_right_of_le (tally.arming caller window count arms) }

omit [DecidableEq Caller] in
theorem decision_congr {limiter other : Limiter Caller} {caller : Caller}
    {terms : Caller → Terms} (same : limiter.calls caller = other.calls caller) :
    limiter.decision terms caller = other.decision terms caller := by
  unfold Limiter.decision
  rw [same]

theorem calls_cases {limiter : Limiter Caller} {caller other : Caller} {phase found : CallPhase}
    (called : (limiter.setCall caller phase).calls other = some found) :
    (other = caller ∧ found = phase) ∨ (other ≠ caller ∧ limiter.calls other = some found) := by
  by_cases here : other = caller
  · subst here
    exact Or.inl ⟨rfl, Option.some.inj (called.symm.trans (Limiter.calls_setCall _ _ _))⟩
  · exact Or.inr ⟨here, (Limiter.calls_setCall_ne _ here _).symm.trans called⟩

omit [DecidableEq Caller] in
theorem Tally.not_counted {counts : Counts Caller}
    (tally : Tally keyPrefix limit windowS counts) {caller : Caller}
    (undecided : counts.limiter.decision (terms keyPrefix limit windowS) caller = none) :
    caller ∉ counts.counted.map CountedCall.caller := by
  intro listed
  obtain ⟨call, among, rfl⟩ := List.mem_map.mp listed
  cases undecided.symm.trans (tally.settled call among)

omit [DecidableEq Caller] in
theorem Tally.moved {counts next : Counts Caller} (tally : Tally keyPrefix limit windowS counts)
    (counted : next.counted = counts.counted)
    (decisions : ∀ caller, next.limiter.decision (terms keyPrefix limit windowS) caller =
      counts.limiter.decision (terms keyPrefix limit windowS) caller)
    (waiting : ∀ caller window, next.limiter.calls caller = some (.counting window) →
      window = Redis.rateWindow (next.readings caller) windowS ∧
        next.readings caller ≤ next.limiter.now)
    (arming : ∀ caller window count, next.limiter.calls caller = some (.arming window count) →
      window * (windowS * SECOND) ≤ next.limiter.now)
    (failed : ∀ caller, next.failed caller = true → ∀ told,
      next.limiter.calls caller ≠ some (.answered told))
    (counters : ∀ window, counts.Stands windowS window
      (next.limiter.redis.rateLimits.lookup (keyPrefix, window))) :
    Tally keyPrefix limit windowS next where
  waiting := waiting
  arming := arming
  settled := by
    rw [counted]
    intro call among
    rw [decisions]
    exact tally.settled call among
  listed := by
    rw [counted]
    intro caller told decided
    rw [decisions] at decided
    exact tally.listed caller told decided
  once := by
    rw [counted]
    exact tally.once
  failed := failed
  numbered := by
    rw [counted]
    exact tally.numbered
  counters := by
    intro window
    have stands := counters window
    unfold Stands callsOf at stands ⊢
    rw [counted]
    exact stands

theorem Tally.begin {counts : Counts Caller} (tally : Tally keyPrefix limit windowS counts)
    {caller : Caller} (fresh : counts.limiter.calls caller = none) :
    Tally keyPrefix limit windowS (counts.begin keyPrefix limit windowS caller) := by
  have made : (counts.begin keyPrefix limit windowS caller).limiter =
      counts.limiter.setCall caller (.counting (Redis.rateWindow counts.limiter.now windowS)) := by
    simp only [Counts.begin, Limiter.step, fresh, terms]
  refine tally.moved rfl ?_ ?_ ?_ ?_ ?_
  · intro other
    rw [made]
    by_cases here : other = caller
    · subst here
      simp only [Limiter.decision, Limiter.calls_setCall, fresh]
    · exact decision_congr (Limiter.calls_setCall_ne _ here _)
  · intro other window waits
    rw [made] at waits ⊢
    rcases calls_cases waits with ⟨rfl, begun⟩ | ⟨differs, earlier⟩
    · cases begun
      have read : (counts.begin keyPrefix limit windowS other).readings other =
          counts.limiter.now := if_pos rfl
      rw [read]
      exact ⟨rfl, Nat.le_refl _⟩
    · simp only [Counts.begin, if_neg differs]
      exact tally.waiting other window earlier
  · intro other window count arms
    rw [made] at arms ⊢
    rcases calls_cases arms with ⟨_, begun⟩ | ⟨_, earlier⟩
    · cases begun
    · exact tally.arming other window count earlier
  · intro other gone told answered
    rw [made] at answered
    rcases calls_cases answered with ⟨_, begun⟩ | ⟨_, earlier⟩
    · cases begun
    · exact tally.failed other gone told earlier
  · intro window
    rw [made]
    exact tally.counters window

omit [DecidableEq Caller] in
theorem Stands.expire {counts : Counts Caller} {window : Nat} {found : Option (Entry Nat)}
    (stands : counts.Stands windowS window found)
    (begun : window * (windowS * SECOND) ≤ counts.limiter.now) :
    counts.Stands windowS window (found.map fun entry =>
      if entry.IsLive counts.limiter.now then
        ⟨entry.value, some (counts.limiter.now + windowS * 2 * SECOND)⟩
      else entry) := by
  cases found with
  | none => exact stands
  | some entry =>
      obtain ⟨value, late⟩ := stands
      rw [Option.map_some]
      split
      · refine ⟨value, fun deadline listed => ?_⟩
        cases listed
        calc (window + 2) * (windowS * SECOND)
            = window * (windowS * SECOND) + windowS * 2 * SECOND := by
              rw [Nat.add_mul, Nat.mul_comm windowS 2, Nat.mul_assoc]
          _ ≤ counts.limiter.now + windowS * 2 * SECOND := Nat.add_le_add_right begun _
      · exact ⟨value, late⟩

theorem Tally.arm {counts : Counts Caller} (tally : Tally keyPrefix limit windowS counts)
    {caller : Caller} {window count : Nat}
    (arms : counts.limiter.calls caller = some (.arming window count))
    (goes : counts.failed caller = false) :
    Tally keyPrefix limit windowS { counts with
      limiter := counts.limiter.arm (terms keyPrefix limit windowS) caller window count } := by
  refine tally.moved rfl ?_ ?_ ?_ ?_ ?_
  · intro other
    by_cases here : other = caller
    · subst here
      rw [Limiter.decision_arm]
      simp only [Limiter.decision, arms]
    · exact decision_congr (Limiter.calls_setCall_ne _ here _)
  · intro other asked waits
    rcases calls_cases waits with ⟨_, answered⟩ | ⟨_, earlier⟩
    · cases answered
    · exact tally.waiting other asked earlier
  · intro other asked told arms
    rcases calls_cases arms with ⟨_, answered⟩ | ⟨_, earlier⟩
    · cases answered
    · exact tally.arming other asked told earlier
  · intro other gone told answered
    rcases calls_cases answered with ⟨rfl, _⟩ | ⟨_, earlier⟩
    · cases goes.symm.trans gone
    · exact tally.failed other gone told earlier
  · intro asked
    by_cases here : asked = window
    · subst here
      have armed := ExpiringStore.lookup_expire counts.limiter.redis.rateLimits
        counts.limiter.now (keyPrefix, asked) (windowS * 2 * SECOND)
      exact armed ▸ (tally.counters asked).expire (tally.arming caller asked count arms)
    · have kept := ExpiringStore.lookup_expire_ne counts.limiter.redis.rateLimits
        counts.limiter.now (Limiter.windows_ne keyPrefix here) (windowS * 2 * SECOND)
      exact kept ▸ tally.counters asked

omit [DecidableEq Caller] in
/-- The counter of a window has not expired for a call that is in time. -/
theorem Stands.incr {counts : Counts Caller} {window : Nat} {found : Option (Entry Nat)}
    (stands : counts.Stands windowS window found)
    (inTime : counts.limiter.now < (window + 2) * (windowS * SECOND)) :
    ((ExpiringStore.updated counts.limiter.now 0 (fun count => count + 1) found).value =
        (counts.callsOf windowS window).length + 1) ∧
      ∀ deadline ∈
          (ExpiringStore.updated counts.limiter.now 0 (fun count => count + 1) found).expiresAt,
        (window + 2) * (windowS * SECOND) ≤ deadline := by
  cases found with
  | none =>
      have empty : counts.callsOf windowS window = [] := stands
      refine ⟨by rw [empty]; rfl, fun deadline listed => ?_⟩
      cases listed
  | some entry =>
      obtain ⟨value, late⟩ := stands
      have live : entry.IsLive counts.limiter.now := fun deadline listed =>
        Nat.lt_of_lt_of_le inTime (late deadline listed)
      simp only [ExpiringStore.updated, if_pos live, value]
      exact ⟨trivial, late⟩

theorem incr_told (redis : Redis) (now : Instant) (keyPrefix : String) (window : Nat) :
    (redis.incr now keyPrefix window).2 = (ExpiringStore.updated now 0 (fun count => count + 1)
      (redis.rateLimits.lookup (keyPrefix, window))).value := by
  simp only [Redis.incr, ExpiringStore.get, ExpiringStore.updated]
  cases redis.rateLimits.lookup (keyPrefix, window) with
  | none => rfl
  | some entry =>
      by_cases live : entry.IsLive now
      · simp only [if_pos live, Option.getD_some]
      · simp only [if_neg live, Option.getD_none]

theorem callsOf_count {counts : Counts Caller} {caller : Caller} {window : Nat}
    (read : window = Redis.rateWindow (counts.readings caller) windowS) :
    (counts.count keyPrefix limit windowS caller window).callsOf windowS window =
      counts.callsOf windowS window ++ [⟨caller, counts.readings caller,
        (counts.limiter.redis.incr counts.limiter.now keyPrefix window).2⟩] := by
  simp only [callsOf, Counts.count, ofWindow_append]
  refine congrArg _ (ofWindow_singleton ?_)
  exact read.symm

theorem callsOf_count_ne {counts : Counts Caller} {caller : Caller} {window other : Nat}
    (read : window = Redis.rateWindow (counts.readings caller) windowS) (differs : other ≠ window) :
    (counts.count keyPrefix limit windowS caller window).callsOf windowS other =
      counts.callsOf windowS other := by
  simp only [callsOf, Counts.count, ofWindow_append]
  refine (congrArg _ (ofWindow_singleton_ne ?_)).trans (List.append_nil _)
  exact fun same => differs (same.symm.trans read.symm)

theorem Tally.count {counts : Counts Caller} (tally : Tally keyPrefix limit windowS counts)
    {caller : Caller} {window : Nat}
    (waits : counts.limiter.calls caller = some (.counting window))
    (goes : counts.failed caller = false)
    (inTime : counts.limiter.now < counts.readings caller + windowS * SECOND) :
    Tally keyPrefix limit windowS (counts.count keyPrefix limit windowS caller window) := by
  obtain ⟨read, before⟩ := tally.waiting caller window waits
  have early : counts.limiter.now < (window + 2) * (windowS * SECOND) :=
    read ▸ lt_of_inTime before inTime
  obtain ⟨number, late⟩ := (tally.counters window).incr early
  rw [← incr_told] at number
  have undecided : counts.limiter.decision (terms keyPrefix limit windowS) caller = none := by
    simp only [Limiter.decision, waits]
  have new := tally.not_counted undecided
  have others : ∀ other ≠ caller,
      (counts.limiter.count (terms keyPrefix limit windowS) caller window).calls other =
        counts.limiter.calls other := fun other differs => Limiter.calls_setCall_ne _ differs _
  have decided : (counts.limiter.count (terms keyPrefix limit windowS) caller window).decision
      (terms keyPrefix limit windowS) caller = some (Redis.isAllowed
        (counts.limiter.redis.incr counts.limiter.now keyPrefix window).2 limit) :=
    Limiter.decision_count counts.limiter caller window
  refine ⟨?_, ?_, ?_, ?_, ?_, ?_, ?_, ?_⟩
  · intro other asked waiting
    rcases calls_cases waiting with ⟨_, phase⟩ | ⟨_, earlier⟩
    · split at phase
      · cases phase
      · cases phase
    · exact tally.waiting other asked earlier
  · intro other asked told arms
    rcases calls_cases arms with ⟨_, phase⟩ | ⟨_, earlier⟩
    · split at phase
      · cases phase
        rw [read]
        exact Nat.le_trans (rateWindow_begun _ windowS) before
      · cases phase
    · exact tally.arming other asked told earlier
  · intro call among
    rcases List.mem_append.mp among with earlier | last
    · have differs : call.caller ≠ caller := by
        rintro rfl
        exact new (List.mem_map_of_mem earlier)
      exact (decision_congr (others _ differs)).trans (tally.settled call earlier)
    · obtain rfl := List.mem_singleton.mp last
      exact decided
  · intro other told decision
    rw [Counts.count, List.map_append, List.mem_append]
    by_cases here : other = caller
    · exact Or.inr (List.mem_singleton.mpr here)
    · have earlier := (decision_congr (others other here)).symm.trans decision
      exact Or.inl (tally.listed other told earlier)
  · rw [Counts.count, List.map_append, List.nodup_append]
    refine ⟨tally.once, List.nodup_singleton _, fun other listed last among => ?_⟩
    obtain rfl := List.mem_singleton.mp among
    rintro rfl
    exact new listed
  · intro other gone told answered
    rcases calls_cases answered with ⟨rfl, _⟩ | ⟨_, earlier⟩
    · cases goes.symm.trans gone
    · exact tally.failed other gone told earlier
  · refine tally.numbered.snoc ?_
    rw [← read]
    exact number
  · intro asked
    by_cases here : asked = window
    · subst here
      have updated := ExpiringStore.lookup_update counts.limiter.redis.rateLimits
        counts.limiter.now (keyPrefix, asked) 0 fun count => count + 1
      refine updated ▸ ⟨?_, late⟩
      rw [callsOf_count read, List.length_append, ← incr_told]
      exact number
    · have kept := ExpiringStore.lookup_update_ne counts.limiter.redis.rateLimits
        counts.limiter.now (Limiter.windows_ne keyPrefix here) 0 fun count => count + 1
      have stands := tally.counters asked
      unfold Stands at stands ⊢
      rw [callsOf_count_ne read here]
      exact kept ▸ stands

theorem Tally.fail {counts : Counts Caller} (tally : Tally keyPrefix limit windowS counts)
    {caller : Caller} (unanswered : ∀ told, counts.limiter.calls caller ≠ some (.answered told)) :
    Tally keyPrefix limit windowS (counts.fail caller) := by
  refine tally.moved rfl (fun _ => rfl) tally.waiting tally.arming (fun other gone told => ?_)
    tally.counters
  rcases Bool.or_eq_true_iff.mp gone with here | earlier
  · obtain rfl := of_decide_eq_true here
    exact unanswered told
  · exact tally.failed other earlier told

theorem Tally.step {counts next : Counts Caller} {event : CountsEvent Caller}
    (tally : Tally keyPrefix limit windowS counts) (inTime : InTime windowS counts event)
    (stepped : counts.step keyPrefix limit windowS event = some next) :
    Tally keyPrefix limit windowS next := by
  cases event with
  | fail caller =>
      obtain ⟨unanswered, rfl⟩ := step_fail stepped
      exact tally.fail unanswered
  | command event =>
      cases event with
      | tick elapsed =>
          cases stepped
          exact tally.tick elapsed
      | begin caller =>
          simp only [Counts.step] at stepped
          cases phase : counts.limiter.calls caller with
          | none =>
              rw [phase] at stepped
              cases stepped
              exact tally.begin phase
          | some _ =>
              rw [phase] at stepped
              cases stepped
              exact tally
      | resume caller =>
          simp only [Counts.step, Limiter.step] at stepped
          split at stepped
          · cases stepped
          rename_i goes
          rw [Bool.not_eq_true] at goes
          cases phase : counts.limiter.calls caller with
          | none =>
              rw [phase] at stepped
              cases stepped
              exact tally
          | some begun =>
              rw [phase] at stepped
              cases begun with
              | counting window =>
                  cases stepped
                  exact tally.count phase goes (inTime (by simp only [waits, phase]))
              | arming window count =>
                  cases stepped
                  exact tally.arm phase goes
              | answered allowed =>
                  cases stepped
                  exact tally

/-! ## The bound -/

omit [DecidableEq Caller] in
theorem Tally.answer_eq {counts : Counts Caller} (tally : Tally keyPrefix limit windowS counts)
    {call : CountedCall Caller} (among : call ∈ counts.counted) :
    counts.answer call =
      if counts.stranded call then none else some (decide (call.count ≤ limit)) := by
  have decided := tally.settled call among
  unfold Limiter.decision at decided
  unfold answer stranded
  split at decided
  · rename_i window count arms
    simp [arms]
  · rename_i allowed answered
    simp only [answered, decided, Redis.isAllowed, Int.ofNat_le]
    rfl
  · cases decided

omit [DecidableEq Caller] in
theorem Tally.allowed_eq {counts : Counts Caller} (tally : Tally keyPrefix limit windowS counts)
    {call : CountedCall Caller} (among : call ∈ counts.counted) :
    counts.allowed call = (!counts.stranded call && decide (call.count ≤ limit)) := by
  simp only [allowed, tally.answer_eq among]
  cases counts.stranded call <;> simp

omit [DecidableEq Caller] in
theorem Tally.allowedWithin_sublist {counts : Counts Caller}
    (tally : Tally keyPrefix limit windowS counts) (start : Instant) :
    (counts.allowedWithin windowS start).Sublist
      (admittedOf (fun call => Redis.rateWindow call.reading windowS) CountedCall.count limit
        [Redis.rateWindow start windowS, Redis.rateWindow start windowS + 1] counts.counted) := by
  have verdicts : counts.allowedWithin windowS start =
      counts.counted.filter fun call =>
        start ≤ call.reading ∧ call.reading ≤ start + windowS * SECOND ∧
          (!counts.stranded call && decide (call.count ≤ limit)) = true :=
    List.filter_congr fun call among => by simp only [tally.allowed_eq among]
  rw [verdicts]
  refine List.monotone_filter_right _ fun call within => ?_
  obtain ⟨begun, ended, returned⟩ := of_decide_eq_true within
  have low := of_decide_eq_true (Bool.and_eq_true_iff.mp returned).2
  exact decide_eq_true ⟨rateWindow_within begun ended, low⟩

omit [DecidableEq Caller] in
theorem Tally.bounded {counts : Counts Caller} (tally : Tally keyPrefix limit windowS counts) :
    Bounded limit windowS counts where
  places := tally.numbered.admitted limit
  answers := fun _ among => tally.answer_eq among
  first := by
    intro window
    have verdicts : (counts.callsOf windowS window).filter counts.allowed =
        (counts.callsOf windowS window).filter fun call =>
          !counts.stranded call && decide (call.count ≤ limit) :=
      List.filter_congr fun call among => tally.allowed_eq (List.mem_of_mem_filter among)
    have admitted := tally.numbered.admitted limit window
    rw [verdicts, callsOf, ← admitted, List.filter_filter]
  span := by
    intro start
    have places := tally.numbered.length_admittedOf limit
      [Redis.rateWindow start windowS, Redis.rateWindow start windowS + 1]
    exact Nat.le_trans (tally.allowedWithin_sublist start).length_le places
  listed := by
    intro caller told answered
    refine ⟨tally.listed caller told ?_, ?_⟩
    · simp only [Limiter.decision, answered]
    · exact Bool.eq_false_iff.mpr fun gone => tally.failed caller gone told answered
  once := tally.once

end Counts

open Counts in
/-- For every run of calls that are in time, with any schedule of their commands and with callers
that fail anywhere, the calls allowed in an aligned window are those of the first ones by `INCR`
that return, and twice the limit bounds those of every time span of a window's length. -/
theorem limiter_bounded {Caller : Type} [DecidableEq Caller] {keyPrefix : String}
    {limit windowS : Nat} {redis : Redis} {now : Instant} {events : List (CountsEvent Caller)}
    (unused : ∀ window, redis.rateLimits.lookup (keyPrefix, window) = none)
    (inTime : Along (Counts.step keyPrefix limit windowS) (InTime windowS)
      (opened redis now) events) :
    Always (Counts.step keyPrefix limit windowS) (Bounded limit windowS)
      (opened redis now) events := by
  have tallied := always_of_along (Tally keyPrefix limit windowS)
    (fun counts event next tally met stepped => tally.step met stepped)
    (tally_opened now unused) inTime
  exact tallied.mono fun counts tally => tally.bounded

/-- The first caller fails after its `INCR`, so the counter has no deadline; the second, whose
`INCR` runs in the next window, is denied with it. -/
def failsBetween : List (CountsEvent Bool) :=
  [.command (.begin true), .command (.begin false), .command (.resume true), .fail true,
    .command (.tick 50000000000), .command (.resume false)]

theorem limiter_bounded_failed :
    Always (Counts.step "login:203.0.113.7" 1 60) (Counts.Bounded 1 60)
      (Counts.opened {} 30000000000) failsBetween :=
  limiter_bounded (fun _ => rfl) (by decide)

/-- Nobody is allowed then: the place of the first call is used up, and it returns nothing. -/
theorem firstAllowed_fails :
    ¬ ∀ (events : List (CountsEvent Bool)) (final : Counts Bool),
      Along (Counts.step "login:203.0.113.7" 1 60) (Counts.InTime 60)
        (Counts.opened {} 30000000000) events →
      exec (Counts.step "login:203.0.113.7" 1 60) (Counts.opened {} 30000000000) events =
        some final →
      (∀ caller, final.finished caller = true) →
      ∀ window, (final.callsOf 60 window).filter final.allowed =
        (final.callsOf 60 window).take 1 := by
  intro allowed
  have counted : (exec (Counts.step "login:203.0.113.7" 1 60) (Counts.opened {} 30000000000)
      failsBetween).map (fun final => ((final.finished true && final.finished false),
        ((final.callsOf 60 0).filter final.allowed).length,
        ((final.callsOf 60 0).take 1).length)) = some (true, 0, 1) := by decide
  obtain ⟨final, run, look⟩ := Option.map_eq_some_iff.mp counted
  obtain ⟨ended, lengths⟩ := Prod.mk.inj look
  obtain ⟨none, one⟩ := Prod.mk.inj lengths
  obtain ⟨first, second⟩ := Bool.and_eq_true_iff.mp ended
  have finished : ∀ caller, final.finished caller = true := by
    intro caller
    cases caller <;> assumption
  have same := congrArg List.length (allowed failsBetween final (by decide) run finished 0)
  exact absurd (none.symm.trans (same.trans one)) (by decide)

end LiveChat.Db.RateLimiter
