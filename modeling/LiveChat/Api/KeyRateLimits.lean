import LiveChat.Api.EntryPoints
import LiveChat.Api.TokenChains
import LiveChat.Db.RateLimiter

/-!
# Rate limits of API keys that share a prefix

The rate limiter counts the handshakes with an API key under the first twelve characters of
the key, which the lookup in `api_key_repo.py` expects several keys to have in common.  The
handshakes of a run of the service are calls of one `Limiter`.
-/

set_option autoImplicit false

namespace LiveChat.Api

open LiveChat.Core
open LiveChat.Db
open LiveChat.Db.RateLimiter
open LiveChat.Foundation
open LiveChat.Foundation.TransitionSystem
open LiveChat.Repositories
open LiveChat.Api.Chat (Authority Handshake Socket SocketPhase)

/-! ## The calls of `_resolve_project` -/

/-- A handshake whose credential was good, by what it stands for and its number. -/
abbrev RateCaller := Authority × Nat

def rateTerms (caller : RateCaller) : Terms :=
  { keyPrefix := caller.1.keyPrefix, limit := caller.1.rateLimitRpm, windowS := 60 }

def madeWith (doc : APIKeyDoc) (caller : RateCaller) : Bool := decide (caller.1 = .ofKey doc)

/-- Whatever handshakes there are besides, those with the second key change no decision on
one with the first: leaving them out leaves it as it is. -/
def RateIsolated (first second : APIKeyDoc) : Prop :=
  ∀ (now : Instant) (redis : Redis) (events : List (LimiterEvent RateCaller)) (number : Nat),
    let start : Limiter RateCaller := { now := now, redis := redis }
    let caller : RateCaller := (.ofKey first, number)
    (start.run rateTerms events).decision rateTerms caller =
      (start.run rateTerms (Limiter.without (madeWith second) events)).decision rateTerms caller

/-! ## Handshakes of the service -/

/-- Where a handshake stands with the rate limiter; only its own refusal has the code. -/
def ratePhase : SocketPhase → CallPhase
  | .limiting window => .counting window
  | .arming window count => .arming window count
  | .closed close => .answered (decide (close.code ≠ 4003))
  | _ => .answered true

namespace Service

def limiter (service : Service) : Limiter RateCaller :=
  { now := service.now
    redis := { rateLimits := service.redis.rateLimits }
    calls := fun caller => (service.sockets[caller.2]?).bind fun socket =>
      if socket.authority = some caller.1 then some (ratePhase socket.phase) else none }

variable {hasher : AuthTokenRepo.PasswordHasher}

theorem limiter_ext {service next : Service} (now : next.now = service.now)
    (counters : next.redis.rateLimits = service.redis.rateLimits)
    (calls : next.limiter.calls = service.limiter.calls) : next.limiter = service.limiter := by
  simp only [limiter] at calls ⊢
  rw [now, counters, calls]

theorem limiter_congr {service next : Service} (now : next.now = service.now)
    (counters : next.redis.rateLimits = service.redis.rateLimits)
    (sockets : next.sockets = service.sockets) : next.limiter = service.limiter := by
  simp only [limiter, now, counters, sockets]

theorem limiter_setSocket {service : Service} {index : Nat} {socket after : Socket}
    {authority : Authority} (found : service.sockets[index]? = some socket)
    (authorized : after.authority = some authority)
    (before : ∀ other, socket.authority = some other → other = authority) :
    (service.setSocket index after).limiter =
      service.limiter.setCall (authority, index) (ratePhase after.phase) := by
  obtain ⟨inside, _⟩ := List.getElem?_eq_some_iff.mp found
  have calls : (service.setSocket index after).limiter.calls =
      (service.limiter.setCall (authority, index) (ratePhase after.phase)).calls := by
    funext ⟨other, place⟩
    simp only [limiter, setSocket, Limiter.setCall, Prod.mk.injEq]
    by_cases here : place = index
    · subst here
      simp only [List.getElem?_set_self inside, Option.bind_some, authorized, found, and_true,
        Option.some.injEq, @eq_comm _ authority]
      by_cases own : other = authority
      · rw [if_pos own, if_pos own]
      · rw [if_neg own, if_neg own, if_neg fun same => own (before other same)]
    · simp only [List.getElem?_set_ne (Ne.symm here), here, and_false, if_false]
  simp only [Limiter.setCall, limiter] at calls ⊢
  rw [calls]
  rfl

/-- A socket that goes on after the rate limit, or before its credential is good. -/
theorem limiter_turned {service : Service} {index : Nat} {socket after : Socket}
    (found : service.sockets[index]? = some socket) (same : after.authority = socket.authority)
    (stands : ∀ authority, socket.authority = some authority →
      ratePhase after.phase = ratePhase socket.phase) :
    (service.setSocket index after).limiter = service.limiter := by
  obtain ⟨inside, _⟩ := List.getElem?_eq_some_iff.mp found
  have calls : (service.setSocket index after).limiter.calls = service.limiter.calls := by
    funext ⟨other, place⟩
    simp only [limiter, setSocket]
    by_cases here : place = index
    · subst here
      simp only [List.getElem?_set_self inside, Option.bind_some, same, found]
      by_cases own : socket.authority = some other
      · rw [if_pos own, if_pos own, stands other own]
      · rw [if_neg own, if_neg own]
    · simp only [List.getElem?_set_ne (Ne.symm here)]
  exact limiter_ext rfl rfl calls

theorem limiter_withRedis {service : Service} {redis : Redis}
    (counters : redis.rateLimits = service.redis.rateLimits) :
    (service.withRedis redis).limiter = service.limiter :=
  limiter_congr rfl counters rfl

theorem limiter_calls {service : Service} {index : Nat} {socket : Socket} {authority : Authority}
    (found : service.sockets[index]? = some socket)
    (authorized : socket.authority = some authority) :
    service.limiter.calls (authority, index) = some (ratePhase socket.phase) := by
  simp only [limiter, found, Option.bind_some, authorized, if_true]

theorem limiter_authorize {service : Service} {index : Nat} {socket : Socket} {redis : Redis}
    (found : service.sockets[index]? = some socket) (fresh : socket.authority = none)
    (counters : redis.rateLimits = service.redis.rateLimits) (authority : Authority) :
    ((service.withRedis redis).setSocket index
        (socket.authorize authority service.now)).limiter =
      service.limiter.step rateTerms (.begin (authority, index)) := by
  have unbegun : service.limiter.calls (authority, index) = none := by
    simp only [limiter, found, Option.bind_some, fresh]
    exact if_neg (by simp)
  have there : (service.withRedis redis).sockets[index]? = some socket := found
  rw [limiter_setSocket there rfl (fun other own => by cases fresh.symm.trans own),
    limiter_withRedis counters]
  simp only [Limiter.step, unbegun]
  rfl

theorem limiter_meetCount {service : Service} {index : Nat} {socket : Socket}
    {authority : Authority} (found : service.sockets[index]? = some socket)
    (authorized : socket.authority = some authority) (count : Nat) :
    (service.meetCount index socket authority count).limiter =
      service.limiter.setCall (authority, index)
        (.answered (Redis.isAllowed count authority.rateLimitRpm)) := by
  have only : ∀ other, socket.authority = some other → other = authority :=
    fun other own => Option.some.inj (own.symm.trans authorized)
  unfold meetCount
  by_cases allowed : Redis.isAllowed count authority.rateLimitRpm = true
  · have moved : ((service.ask authority.projectId authority.tenantId).setSocket index
          (socket.withPhase (.configuring service.nextRead))).limiter =
        (service.ask authority.projectId authority.tenantId).limiter.setCall (authority, index)
          (.answered true) := limiter_setSocket found authorized only
    have asked : (service.ask authority.projectId authority.tenantId).limiter =
        service.limiter := limiter_congr rfl rfl rfl
    rw [if_pos allowed, moved, asked, allowed]
  · have moved : (service.setSocket index
          (socket.refuse (Chat.rateLimited authority.rateLimitRpm))).limiter =
        service.limiter.setCall (authority, index) (.answered false) :=
      limiter_setSocket found authorized only
    rw [if_neg allowed, moved, Bool.eq_false_iff.mpr allowed]

/-! ## Steps -/

theorem admitTenant_code {origin : Option String} {config : ProjectConfig}
    {tenant : Option TenantDoc} {close : Chat.Close}
    (refused : Chat.admitTenant origin config tenant = .error close) : close.code ≠ 4003 := by
  unfold Chat.admitTenant at refused
  split at refused
  · cases refused
    decide
  · split at refused
    · split at refused
      · cases refused
        decide
      · cases refused
    · cases refused
      simp [Chat.originRefused]

theorem ratePhase_meetTenant (socket : Socket) (authority : Authority) (config : ProjectConfig)
    (tenant : Option TenantDoc) (utc : Instant) :
    ratePhase (socket.meetTenant authority config tenant utc).phase = .answered true := by
  unfold Socket.meetTenant
  split
  · rename_i close refused
    simp [Socket.refuse, Socket.withPhase, ratePhase, admitTenant_code refused]
  · split
    · rfl
    · rfl

theorem ratePhase_meetUsage (socket : Socket) (authority : Authority) (config : ProjectConfig)
    (tenant : TenantDoc) (quota usage : Nat) :
    ratePhase (socket.meetUsage authority config tenant quota usage).phase = .answered true := by
  unfold Socket.meetUsage
  split
  · rfl
  · rfl

theorem authority_meetUsage (socket : Socket) (authority : Authority) (config : ProjectConfig)
    (tenant : TenantDoc) (quota usage : Nat) :
    (socket.meetUsage authority config tenant quota usage).authority = socket.authority := by
  unfold Socket.meetUsage
  split
  · rfl
  · rfl

theorem enter_limiter {service next : Service} {index : Nat} {uuid : String} {socket : Socket}
    {resolved : Chat.Resolved} (found : service.sockets[index]? = some socket)
    (phase : socket.phase = .entering)
    (run : service.enter index socket resolved uuid = some next) :
    next.limiter = service.limiter := by
  simp only [enter] at run
  split at run
  · cases run
    refine limiter_turned found rfl fun _ _ => ?_
    rw [phase]
    rfl
  · obtain ⟨node, _, rfl⟩ := Option.map_eq_some_iff.mp run
    have connected : (service.setSocket index (socket.withPhase (.connected
        ((Chat.given socket.handshake.sessionId).getD uuid)))).limiter = service.limiter := by
      refine limiter_turned found rfl fun _ _ => ?_
      rw [phase]
      rfl
    exact connected

theorem limiter_counted {service : Service} {index window : Nat} {socket : Socket}
    {authority : Authority} (found : service.sockets[index]? = some socket)
    (authorized : socket.authority = some authority) (phase : socket.phase = .limiting window) :
    service.limiter.step rateTerms (.resume (authority, index)) =
      (if (service.redis.incr service.now authority.keyPrefix window).2 = 1 then
        (service.withRedis (service.redis.incr service.now authority.keyPrefix window).1).setSocket
          index (socket.withPhase (.arming window
            (service.redis.incr service.now authority.keyPrefix window).2))
      else (service.withRedis
          (service.redis.incr service.now authority.keyPrefix window).1).meetCount index socket
        authority (service.redis.incr service.now authority.keyPrefix window).2).limiter := by
  let count := (service.redis.incr service.now authority.keyPrefix window).2
  let counted := service.withRedis (service.redis.incr service.now authority.keyPrefix window).1
  have call := limiter_calls found authorized
  rw [phase] at call
  have stepped : service.limiter.step rateTerms (.resume (authority, index)) =
      counted.limiter.setCall (authority, index) (if count = 1 then .arming window count
        else .answered (Redis.isAllowed count authority.rateLimitRpm)) := by
    simp only [Limiter.step, call, ratePhase]
    rfl
  have there : counted.sockets[index]? = some socket := found
  rw [stepped]
  by_cases opens : count = 1
  · have moved : (counted.setSocket index (socket.withPhase (.arming window count))).limiter =
        counted.limiter.setCall (authority, index) (.arming window count) :=
      limiter_setSocket there authorized
        fun other own => Option.some.inj (own.symm.trans authorized)
    rw [if_pos opens, if_pos opens]
    exact moved.symm
  · rw [if_neg opens, if_neg opens]
    exact (limiter_meetCount there authorized count).symm

theorem limiter_armed {service : Service} {index window count : Nat} {socket : Socket}
    {authority : Authority} (found : service.sockets[index]? = some socket)
    (authorized : socket.authority = some authority)
    (phase : socket.phase = .arming window count) :
    ((service.withRedis (service.redis.expire service.now authority.keyPrefix window
        60)).meetCount index socket authority count).limiter =
      service.limiter.step rateTerms (.resume (authority, index)) := by
  have call := limiter_calls found authorized
  rw [phase] at call
  have there : (service.withRedis (service.redis.expire service.now authority.keyPrefix window
      60)).sockets[index]? = some socket := found
  rw [limiter_meetCount there authorized]
  simp only [Limiter.step, call, ratePhase]
  rfl

theorem stepSocket_limiter {service next : Service} {index : Nat} {uuid : String}
    (presents : ∀ socket ∈ service.sockets, Presents socket)
    (run : service.stepSocket hasher index uuid = some next) :
    next.limiter = service.limiter ∨
      ∃ event, next.limiter = service.limiter.step rateTerms event := by
  simp only [stepSocket] at run
  split at run
  · cases run
  · rename_i socket found
    have presented := presents socket (List.mem_of_getElem? found)
    split at run
    · rename_i rawToken phase
      have fresh := (presented.redeeming rawToken phase).2
      rcases service.redis.redeemEphemeralToken_cases service.now rawToken with
        ⟨_, redeemed⟩ | ⟨payload, _, redeemed⟩
      · simp only [redeemed] at run
        cases run
        exact Or.inl (limiter_turned found rfl fun _ own => by cases fresh.symm.trans own)
      · simp only [redeemed] at run
        cases run
        exact Or.inr ⟨_, limiter_authorize found fresh rfl _⟩
    · rename_i rawKey phase
      have fresh := (presented.lookingUp rawKey phase).2
      split at run
      · cases run
        exact Or.inl (limiter_turned found rfl fun _ own => by cases fresh.symm.trans own)
      · cases run
        exact Or.inl (limiter_turned found rfl fun _ own => by cases fresh.symm.trans own)
      · cases run
        exact Or.inl (limiter_turned found rfl fun _ own => by cases fresh.symm.trans own)
    · rename_i keyDoc phase
      have fresh := (presented.touching keyDoc phase).2
      cases run
      have begun : ((service.withRedis service.redis).setSocket index
            (socket.authorize (.ofKey keyDoc) service.now)).limiter =
          service.limiter.step rateTerms (.begin (.ofKey keyDoc, index)) :=
        limiter_authorize found fresh rfl _
      exact Or.inr ⟨_, begun⟩
    · rename_i window authority phase authorized
      refine Or.inr ⟨.resume (authority, index), ?_⟩
      rw [limiter_counted found authorized phase]
      split at run
      · rename_i opens
        cases run
        rw [if_pos opens]
      · rename_i opens
        cases run
        rw [if_neg opens]
    · rename_i window count authority phase authorized
      cases run
      exact Or.inr ⟨.resume (authority, index), limiter_armed found authorized phase⟩
    · rename_i read authority phase authorized
      split at run
      · cases run
      · cases run
        refine Or.inl (limiter_turned found rfl fun _ _ => ?_)
        rw [phase]
        rfl
      · cases run
        refine Or.inl (limiter_turned found rfl fun _ _ => ?_)
        rw [phase]
        rfl
    · rename_i config authority phase authorized
      cases run
      refine Or.inl (limiter_turned found (meetTenant_authority _ _ _ _ _) fun _ _ => ?_)
      rw [ratePhase_meetTenant, phase]
      rfl
    · rename_i config tenant quota startOfDay authority phase authorized
      cases run
      refine Or.inl (limiter_turned found (authority_meetUsage _ _ _ _ _ _) fun _ _ => ?_)
      rw [ratePhase_meetUsage, phase]
      rfl
    · rename_i authority phase authorized
      split at run
      · cases run
      · exact Or.inl (enter_limiter found phase run)
    · cases run

theorem limiter_accept (service : Service) (handshake : Handshake) :
    ({ service with sockets := service.sockets ++ [Chat.accept handshake] } : Service).limiter =
      service.limiter := by
  have calls : ({ service with sockets := service.sockets ++ [Chat.accept handshake] } :
      Service).limiter.calls = service.limiter.calls := by
    funext ⟨authority, place⟩
    simp only [limiter]
    rcases Nat.lt_trichotomy place service.sockets.length with before | here | after
    · rw [List.getElem?_append_left before]
    · subst here
      rw [List.getElem?_concat_length, List.getElem?_eq_none (Nat.le_refl _)]
      rfl
    · have beyond : (service.sockets ++ [Chat.accept handshake]).length ≤ place := by
        rw [List.length_append, List.length_singleton]
        exact after
      rw [List.getElem?_eq_none beyond, List.getElem?_eq_none after.le]
  exact limiter_ext rfl rfl calls

theorem stepToken_limiter {service next : Service} {index : Nat} {rawToken : String}
    (run : service.stepToken hasher index rawToken = some next) :
    next.limiter = service.limiter := by
  simp only [stepToken] at run
  split at run
  · split at run
    · cases run
      rfl
    · cases run
      rfl
    · cases run
      rfl
  · split at run
    · cases run
      rfl
    · cases run
      rfl
  · split at run
    · cases run
    · cases run
      rfl
    · cases run
      rfl
  · cases run
    rfl
  · cases run
    rfl
  · rename_i currentToken _ _ _
    cases run
    rcases service.redis.redeemEphemeralToken_cases service.now currentToken with
      ⟨_, redeemed⟩ | ⟨payload, _, redeemed⟩
    · simp only [redeemed]
      rfl
    · simp only [redeemed]
      rfl
  · split at run
    · cases run
    · cases run
      rfl
  · cases run

theorem now_rested {rest next : Rest} {event : RestEvent} (quiet : asksOrTicks event = false)
    (run : rest.step hasher event = some next) :
    next.repo.store.now = rest.repo.store.now := by
  cases Rest.step_moved run with
  | insertedProject found writing stepped =>
      exact ProjectRepo.State.now_moved (ProjectRepo.State.step_moved stepped) nofun
  | updatedProject found writing stepped =>
      exact ProjectRepo.State.now_moved (ProjectRepo.State.step_moved stepped) nofun
  | stored _ stepped =>
      refine ProjectRepo.State.now_moved (ProjectRepo.State.step_moved stepped) ?_
      rintro elapsed rfl
      cases quiet
  | _ => rfl

/-- A step of the service makes no move in the rate limiter, or one. -/
theorem step_limiter {service next : Service} {event : ServiceEvent}
    (presents : ∀ socket ∈ service.sockets, Presents socket)
    (run : service.step hasher event = some next) :
    next.limiter = service.limiter ∨
      ∃ event, next.limiter = service.limiter.step rateTerms event := by
  cases event with
  | tick elapsed =>
      simp only [step] at run
      obtain ⟨rest, ticked, after⟩ := Option.bind_eq_some_iff.mp run
      obtain ⟨node, stepped, rfl⟩ := Option.map_eq_some_iff.mp after
      cases ticked
      exact Or.inr ⟨.tick elapsed, rfl⟩
  | rest event =>
      simp only [step] at run
      split at run
      · cases run
      · rename_i quiet
        obtain ⟨rest, stepped, rfl⟩ := Option.map_eq_some_iff.mp run
        exact Or.inl (limiter_congr (now_rested (Bool.eq_false_iff.mpr quiet) stepped) rfl rfl)
  | node event =>
      simp only [step] at run
      split at run
      · cases run
      · obtain ⟨node, stepped, rfl⟩ := Option.map_eq_some_iff.mp run
        exact Or.inl rfl
  | requestToken header request =>
      cases run
      exact Or.inl rfl
  | tokenStep call rawToken => exact Or.inl (stepToken_limiter run)
  | accept handshake =>
      cases run
      exact Or.inl (limiter_accept service handshake)
  | socketStep socket uuid => exact stepSocket_limiter presents run

/-- The handshakes of a run of the service are calls of the rate limiter. -/
theorem limiter_exec {now : Instant} {clock : Clock} {events : List ServiceEvent}
    {service : Service} (run : exec (step hasher) (initial now clock) events = some service) :
    ∃ calls, service.limiter = Limiter.run rateTerms { now := now } calls := by
  refine (exec_invariant (fun service => Chained service ∧
    ∃ calls, service.limiter = Limiter.run rateTerms { now := now } calls) ?_
    ⟨chained_initial now clock, [], rfl⟩ run).2
  rintro service event next ⟨chained, calls, same⟩ stepped
  refine ⟨chained_moved chained (step_moved stepped), ?_⟩
  rcases step_limiter chained.presents stepped with still | ⟨call, moved⟩
  · exact ⟨calls, still.trans same⟩
  · refine ⟨calls ++ [call], ?_⟩
    rw [moved, same, Limiter.run, Limiter.run, List.foldl_append]
    rfl

end Service

/-! ## Isolation -/

theorem ofKey_ne {first second : APIKeyDoc} (distinct : first.id ≠ second.id) :
    Authority.ofKey first ≠ Authority.ofKey second :=
  fun same => distinct (congrArg Authority.apiKeyId same)

theorem rateIsolated_of_prefix {first second : APIKeyDoc}
    (distinct : first.keyPrefix ≠ second.keyPrefix) : RateIsolated first second := by
  intro now redis events number
  refine Limiter.decision_without (fun other made => ?_) _ events
  rw [madeWith, decide_eq_true_eq] at made
  simp only [rateTerms, made]
  exact Ne.symm distinct

theorem rateIsolated_of_nonpos {first second : APIKeyDoc} (distinct : first.id ≠ second.id)
    (low : first.rateLimitRpm ≤ 0) : RateIsolated first second := by
  intro now redis events number
  refine Limiter.decision_without_of_nonpos ?_ low rfl events
  exact decide_eq_false (ofKey_ne distinct)

def crowd (first second : APIKeyDoc) : List RateCaller :=
  (List.range first.rateLimitRpm.toNat).map fun number => (.ofKey second, number)

theorem madeWith_crowd {first second : APIKeyDoc} {caller : RateCaller}
    (listed : caller ∈ crowd first second) : madeWith second caller = true := by
  obtain ⟨number, _, rfl⟩ := List.mem_map.mp listed
  exact decide_eq_true rfl

/-- The crowd takes the whole share of the first key. -/
theorem not_rateIsolated {first second : APIKeyDoc} (distinct : first.id ≠ second.id)
    (shared : first.keyPrefix = second.keyPrefix) (allows : 0 < first.rateLimitRpm) :
    ¬ RateIsolated first second := by
  intro isolated
  let own : RateCaller := (.ofKey first, 0)
  let start : Limiter RateCaller := { now := 0 }
  let crowded := start.run rateTerms ((crowd first second).flatMap Limiter.wholeCall)
  have lasts : 0 < (rateTerms own).windowS := Nat.succ_pos 59
  have kept : madeWith second own = false := decide_eq_false (ofKey_ne distinct)
  have nodup : (crowd first second).Nodup :=
    List.nodup_range.map fun _ _ same => congrArg Prod.snd same
  have terms : ∀ caller ∈ crowd first second,
      (rateTerms caller).keyPrefix = first.keyPrefix ∧ (rateTerms caller).windowS = 60 := by
    intro caller listed
    obtain ⟨number, _, rfl⟩ := List.mem_map.mp listed
    exact ⟨shared.symm, rfl⟩
  obtain ⟨_, total, quiet⟩ : crowded.now = start.now ∧
      crowded.counter first.keyPrefix 60 =
        start.counter first.keyPrefix 60 + (crowd first second).length ∧
      ∀ other ∉ crowd first second, crowded.calls other = start.calls other :=
    Limiter.wholeCalls_counted lasts nodup terms fun _ _ => rfl
  have unbegun : crowded.calls own = none :=
    quiet own fun listed => by cases kept.symm.trans (madeWith_crowd listed)
  have empty : start.counter first.keyPrefix 60 = 0 := rfl
  have members : (crowd first second).length = first.rateLimitRpm.toNat := by simp [crowd]
  -- behind the crowd it is one handshake too many, alone it is the first
  have behind : (crowded.run rateTerms (Limiter.wholeCall own)).decision rateTerms own =
      some (Redis.isAllowed (crowded.counter first.keyPrefix 60 + 1) first.rateLimitRpm) :=
    (Limiter.wholeCall_counted unbegun lasts).decided
  have alone : (start.run rateTerms (Limiter.wholeCall own)).decision rateTerms own =
      some (Redis.isAllowed (start.counter first.keyPrefix 60 + 1) first.rateLimitRpm) :=
    (Limiter.wholeCall_counted rfl lasts).decided
  have same := isolated 0 {}
    ((crowd first second).flatMap Limiter.wholeCall ++ Limiter.wholeCall own) 0
  have split : start.run rateTerms
      ((crowd first second).flatMap Limiter.wholeCall ++ Limiter.wholeCall own) =
        crowded.run rateTerms (Limiter.wholeCall own) := List.foldl_append
  simp only [Limiter.without_append, Limiter.without_wholeCalls fun _ => madeWith_crowd,
    Limiter.without_wholeCall kept, List.nil_append] at same
  have told := (congrArg (Limiter.decision rateTerms · own) split).symm.trans same
  rw [behind, alone, total, empty, members] at told
  simp only [Redis.isAllowed, Option.some.injEq, decide_eq_decide] at told
  omega

/-- Two keys are isolated unless they share a prefix and the first one allows handshakes
at all. -/
theorem rateIsolated_iff {first second : APIKeyDoc} (distinct : first.id ≠ second.id) :
    RateIsolated first second ↔
      first.keyPrefix ≠ second.keyPrefix ∨ first.rateLimitRpm ≤ 0 := by
  constructor
  · intro isolated
    by_contra neither
    obtain ⟨shared, allows⟩ := not_or.mp neither
    exact not_rateIsolated distinct (not_not.mp shared) (Int.not_le.mp allows) isolated
  · rintro (apart | low)
    · exact rateIsolated_of_prefix apart
    · exact rateIsolated_of_nonpos distinct low

/-! ## Keys as they are created -/

def keyOf (body id : String) (keyType : KeyType) : APIKeyDoc :=
  (APIKeyRepo.newKey AuthTokenRepo.plainHasher "project" "tenant" "Default key" keyType 1
    ⟨body, "salt", id⟩).1

def websiteKey : APIKeyDoc := keyOf "Xy7mQ3rN9vP2kLsT8wA6bD4cJhFe1GuZ" "website" .publishable

def mobileKey : APIKeyDoc := keyOf "Xy7mZuG1eFhJc4Db6Aw8TsLk2Pv9Nr3Q" "mobile" .publishable

def backendKey : APIKeyDoc := keyOf "Xy7mQ3rN9vP2kLsT8wA6bD4cJhFe1GuZ" "backend" .secret

/-- The types of the keys tell their prefixes apart. -/
theorem rateIsolated_website_backend : RateIsolated websiteKey backendKey :=
  (rateIsolated_iff (by decide)).mpr (Or.inl (by decide))

/-- A tenant with a project creates two publishable keys whose bodies begin alike. -/
def twoKeys : List RestEvent :=
  let body : CreateKeyRequest := { rateLimitRpm := 1 }
  [.register "tenant" "Tenant" "tenant@example.com",
    .authenticate "tenant" (.createProject Rest.sampleProject), .read 0,
    .write 0 (Rest.sampleRandom "project"),
    .authenticate "tenant" (.createKey "project" body), .read 1,
    .write 1 ⟨"Xy7mQ3rN9vP2kLsT8wA6bD4cJhFe1GuZ", "salt", "website"⟩,
    .authenticate "tenant" (.createKey "project" body), .read 2,
    .write 2 ⟨"Xy7mZuG1eFhJc4Db6Aw8TsLk2Pv9Nr3Q", "salt", "mobile"⟩]

def mobileFirst : List (LimiterEvent RateCaller) :=
  Limiter.wholeCall (.ofKey mobileKey, 0) ++ Limiter.wholeCall (.ofKey websiteKey, 0)

theorem rateIsolated_fails :
    (exec (Rest.step AuthTokenRepo.plainHasher) (Rest.initial 0) twoKeys).map Rest.apiKeys =
        some [websiteKey, mobileKey] ∧
      websiteKey.id ≠ mobileKey.id ∧ websiteKey.revoked = false ∧ mobileKey.revoked = false ∧
      ¬ RateIsolated websiteKey mobileKey := by
  refine ⟨rfl, by decide, rfl, rfl, fun isolated => ?_⟩
  have same := isolated 0 {} mobileFirst 0
  revert same
  decide +kernel

end LiveChat.Api
