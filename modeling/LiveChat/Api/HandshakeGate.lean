import LiveChat.Api.ConfigOwnership
import LiveChat.Api.Lockout
import LiveChat.Api.ResolveProject

/-!
# What lets a handshake in

`_resolve_project` closes the socket once and returns `None`, or does not close it and has
passed every check.  The first part is about the program and any answers; the second reads
the answers in the states of the service that gave them.
-/

set_option autoImplicit false

namespace LiveChat.Api.ResolveProject

open LiveChat.Core
open LiveChat.Db
open LiveChat.Foundation
open LiveChat.Foundation.TransitionSystem
open LiveChat.Repositories
open LiveChat.Api.Chat (Authority Close Handshake Resolved given)
open LiveChat.Api.Service (Unexpiring unexpiring_moved)

/-! ## The program -/

abbrev Exchanges := List (Exchange Command Command.Answer)

def Answered (exchanges : Exchanges) (command : Command) (answer : command.Answer) : Prop :=
  ⟨command, answer⟩ ∈ exchanges

theorem Answered.before {exchanges : Exchanges} {command : Command} {answer : command.Answer}
    (answered : Answered exchanges command answer) (later : Exchanges) :
    Answered (exchanges ++ later) command answer := List.mem_append_left later answered

theorem Answered.after {exchanges : Exchanges} {command : Command} {answer : command.Answer}
    (answered : Answered exchanges command answer) (earlier : Exchanges) :
    Answered (earlier ++ exchanges) command answer := List.mem_append_right earlier answered

def closes (exchanges : Exchanges) : List Close :=
  exchanges.filterMap fun
    | ⟨.close close, _⟩ => some close
    | _ => none

theorem closes_append (front back : Exchanges) :
    closes (front ++ back) = closes front ++ closes back := List.filterMap_append

/-- Closed once and given up, or not closed and with a result that meets the condition. -/
def Settles {Result : Type} (condition : Exchanges → Result → Prop) (exchanges : Exchanges) :
    Option Result → Prop
  | none => (closes exchanges).length = 1
  | some result => closes exchanges = [] ∧ condition exchanges result

theorem checkAndIncrementRateLimit_ensures (keyPrefix : String) (limit : Int) (windowS : Nat) :
    (checkAndIncrementRateLimit keyPrefix limit windowS).Ensures fun exchanges result =>
      closes exchanges = [] ∧ result.1 = Redis.isAllowed result.2 limit ∧
        ∃ now, Answered exchanges .time now ∧
          Answered exchanges (.incr keyPrefix (Redis.rateWindow now windowS)) result.2 := by
  refine Dialogue.ensures_put_bind.mpr fun (now : Instant) => ?_
  refine Dialogue.ensures_put_bind.mpr fun (count : Nat) => ?_
  have told : ∀ later : Exchanges, ∃ asked : Instant,
      Answered (⟨.time, now⟩ :: ⟨.incr keyPrefix (Redis.rateWindow now windowS), count⟩ :: later)
        .time asked ∧
      Answered (⟨.time, now⟩ :: ⟨.incr keyPrefix (Redis.rateWindow now windowS), count⟩ :: later)
        (.incr keyPrefix (Redis.rateWindow asked windowS)) count :=
    fun later => ⟨now, List.mem_cons_self, List.mem_cons_of_mem _ List.mem_cons_self⟩
  by_cases opens : count = 1
  · rw [if_pos opens]
    refine Dialogue.ensures_put_bind.mpr fun _ => ?_
    exact Dialogue.ensures_pure.mpr ⟨rfl, rfl, told _⟩
  · rw [if_neg opens]
    exact Dialogue.ensures_pure.mpr ⟨rfl, rfl, told _⟩

theorem getConfig_ensures (projectId tenantId : String) :
    (getConfig projectId tenantId).Ensures fun exchanges config =>
      closes exchanges = [] ∧ ∃ read : Nat,
        Answered exchanges (.callGetConfig projectId tenantId) read ∧
        Answered exchanges (.awaitGetConfig read) config := by
  refine Dialogue.ensures_put_bind.mpr fun (read : Nat) => Dialogue.ensures_put.mpr fun config => ?_
  exact ⟨rfl, read, List.mem_cons_self, List.mem_cons_of_mem _ List.mem_cons_self⟩

theorem getDailyTokenUsage_ensures (tenantId : String) :
    (getDailyTokenUsage tenantId).Ensures fun exchanges todayTokens =>
      closes exchanges = [] ∧ ∃ utc : Instant, Answered exchanges .utcNow utc ∧
        Answered exchanges (.sumTokens tenantId (SessionRepo.startOfDay utc)) todayTokens := by
  refine Dialogue.ensures_put_bind.mpr fun (utc : Instant) => Dialogue.ensures_put.mpr fun used => ?_
  exact ⟨rfl, utc, List.mem_cons_self, List.mem_cons_of_mem _ List.mem_cons_self⟩

/-- The rate limit, the project and the tenant were read. -/
structure Admission (exchanges : Exchanges) (authority : Authority) (config : ProjectConfig)
    (tenant : TenantDoc) : Prop where
  counted : ∃ (now : Instant) (count : Nat), Answered exchanges .time now ∧
    Answered exchanges (.incr authority.keyPrefix (Redis.rateWindow now 60)) count ∧
    (count : Int) ≤ authority.rateLimitRpm
  configured : ∃ read : Nat,
    Answered exchanges (.callGetConfig authority.projectId authority.tenantId) read ∧
    Answered exchanges (.awaitGetConfig read) (some config)
  found : Answered exchanges (.getById authority.tenantId) (some tenant)

theorem Admission.mono {exchanges all : Exchanges} {authority : Authority}
    {config : ProjectConfig} {tenant : TenantDoc}
    (admission : Admission exchanges authority config tenant) (within : exchanges ⊆ all) :
    Admission all authority config tenant := by
  obtain ⟨⟨now, count, time, counted, allowed⟩, ⟨read, called, returned⟩, found⟩ := admission
  exact ⟨⟨now, count, within time, within counted, allowed⟩,
    ⟨read, within called, within returned⟩, within found⟩

structure Welcome (exchanges : Exchanges) (origin : Option String) (config : ProjectConfig)
    (tenant : TenantDoc) : Prop where
  origin : Chat.originAllowed origin config.allowedOrigins = true
  unsuspended : tenant.isSuspended = false
  quota : ∀ quota ∈ PlanLimits.dailyTokenQuota tenant.plan, ∃ (utc : Instant) (used : Nat),
    Answered exchanges .utcNow utc ∧
    Answered exchanges (.sumTokens tenant.id (SessionRepo.startOfDay utc)) used ∧ used < quota

theorem Welcome.mono {exchanges all : Exchanges} {origin : Option String}
    {config : ProjectConfig} {tenant : TenantDoc}
    (welcome : Welcome exchanges origin config tenant) (within : exchanges ⊆ all) :
    Welcome all origin config tenant := by
  refine ⟨welcome.origin, welcome.unsuspended, fun quota listed => ?_⟩
  obtain ⟨utc, used, read, summed, room⟩ := welcome.quota quota listed
  exact ⟨utc, used, within read, within summed, room⟩

theorem welcome_settles (origin : Option String) (authority : Authority)
    (config : ProjectConfig) (tenant : TenantDoc) :
    (welcome origin authority config tenant).Ensures (Settles fun exchanges resolved =>
      Welcome exchanges origin config tenant ∧
        resolved = ⟨config, authority.apiKeyId, tenant.plan⟩) := by
  unfold welcome
  cases allowed : Chat.originAllowed origin config.allowedOrigins with
  | false => exact Dialogue.ensures_put_bind.mpr fun _ => Dialogue.ensures_pure.mpr rfl
  | true =>
      cases suspended : tenant.isSuspended with
      | true => exact Dialogue.ensures_put_bind.mpr fun _ => Dialogue.ensures_pure.mpr rfl
      | false =>
          cases limited : PlanLimits.dailyTokenQuota tenant.plan with
          | none =>
              refine Dialogue.ensures_pure.mpr ⟨rfl, ⟨allowed, suspended, ?_⟩, rfl⟩
              intro quota listed
              cases limited.symm.trans listed
          | some quota =>
              refine (getDailyTokenUsage_ensures tenant.id).bind ?_
              rintro measuring used ⟨quiet, utc, read, summed⟩
              by_cases spent : used ≥ quota
              · rw [if_pos spent]
                refine Dialogue.ensures_put_bind.mpr fun _ => Dialogue.ensures_pure.mpr ?_
                simp only [Settles, closes_append, quiet]
                rfl
              · rw [if_neg spent]
                refine Dialogue.ensures_pure.mpr ⟨?_, ⟨allowed, suspended, ?_⟩, rfl⟩
                · simp only [closes_append, quiet]
                  rfl
                · intro other listed
                  cases limited.symm.trans listed
                  exact ⟨utc, used, read.before [], summed.before [], Nat.lt_of_not_ge spent⟩

theorem resolveAuthority_settles (origin : Option String) (authority : Authority) :
    (resolveAuthority origin authority).Ensures (Settles fun exchanges resolved =>
      ∃ config tenant, Admission exchanges authority config tenant ∧
        Welcome exchanges origin config tenant ∧
        resolved = ⟨config, authority.apiKeyId, tenant.plan⟩) := by
  refine (checkAndIncrementRateLimit_ensures _ _ _).bind ?_
  rintro counting ⟨allowed, count⟩ ⟨quiet, answer, now, time, counted⟩
  cases allowed with
  | false =>
      refine Dialogue.ensures_put_bind.mpr fun _ => Dialogue.ensures_pure.mpr ?_
      simp only [Settles, closes_append, quiet]
      rfl
  | true =>
      refine (getConfig_ensures _ _).bind ?_
      rintro reading config ⟨silent, read, called, returned⟩
      cases config with
      | none =>
          refine Dialogue.ensures_put_bind.mpr fun _ => Dialogue.ensures_pure.mpr ?_
          simp only [Settles, closes_append, quiet, silent]
          rfl
      | some config =>
          refine Dialogue.ensures_put_bind.mpr fun (tenant : Option TenantDoc) => ?_
          cases tenant with
          | none =>
              refine Dialogue.ensures_put_bind.mpr fun _ => Dialogue.ensures_pure.mpr ?_
              simp only [Settles, closes_append, quiet, silent]
              rfl
          | some tenant =>
              refine (welcome_settles origin authority config tenant).mono ?_
              rintro welcoming result settled
              have kept : closes (counting ++ (reading ++
                  ⟨.getById authority.tenantId, some tenant⟩ :: welcoming)) =
                    closes welcoming := by
                rw [closes_append, closes_append, quiet, silent]
                rfl
              cases result with
              | none => simpa only [Settles, kept] using settled
              | some resolved =>
                  obtain ⟨still, welcome, shape⟩ := settled
                  refine ⟨kept.trans still, config, tenant, ⟨?_, ?_, ?_⟩, welcome.mono ?_, shape⟩
                  · have allowed : (count : Int) ≤ authority.rateLimitRpm :=
                      of_decide_eq_true answer.symm
                    exact ⟨now, count, time.before _, counted.before _, allowed⟩
                  · exact ⟨read, (called.before _).after _, (returned.before _).after _⟩
                  · exact Answered.after (Answered.after List.mem_cons_self _) _
                  · intro exchange listed
                    apply List.mem_append_right
                    apply List.mem_append_right
                    exact List.mem_cons_of_mem _ listed

/-- The credential that counts was good, and this is what it stands for. -/
def Credited (exchanges : Exchanges) (handshake : Handshake) (authority : Authority) : Prop :=
  match given handshake.token, given handshake.apiKey with
  | some rawToken, _ => ∃ payload : TokenPayload,
      Answered exchanges (.redeemEphemeralToken rawToken) (some payload) ∧
        authority = .ofToken payload
  | none, some rawKey => ∃ keyDoc : APIKeyDoc,
      Answered exchanges (.getByRawKey rawKey) (.ok (some keyDoc)) ∧ authority = .ofKey keyDoc
  | none, none => False

/-- Every check of the handshake was passed. -/
def Cleared (handshake : Handshake) (exchanges : Exchanges) (resolved : Resolved) : Prop :=
  ∃ authority config tenant, Credited exchanges handshake authority ∧
    Admission exchanges authority config tenant ∧
    Welcome exchanges handshake.origin config tenant ∧
    resolved = ⟨config, authority.apiKeyId, tenant.plan⟩

/-- How the function ends: with an exception of the lookup, or as it should. -/
def Ends (handshake : Handshake) (exchanges : Exchanges) :
    Except APIKeyRepo.TypeError (Option Resolved) → Prop
  | .error raised => ∃ rawKey, Answered exchanges (.getByRawKey rawKey) (.error raised)
  | .ok result => Settles (Cleared handshake) exchanges result

/-- Behind the commands that found the credential good. -/
theorem resolved_ends {handshake : Handshake} {authority : Authority} (front : Exchanges)
    (quiet : closes front = [])
    (credited : ∀ later, Credited (front ++ later) handshake authority) :
    (do return .ok (← resolveAuthority handshake.origin authority) :
        Program (Except APIKeyRepo.TypeError (Option Resolved))).Ensures fun later result =>
      Ends handshake (front ++ later) result := by
  refine (resolveAuthority_settles handshake.origin authority).bind ?_
  rintro resolving result settled
  refine Dialogue.ensures_pure.mpr ?_
  rw [List.append_nil]
  have split : closes (front ++ resolving) = closes resolving := by
    rw [closes_append, quiet, List.nil_append]
  cases result with
  | none => simpa only [Ends, Settles, split] using settled
  | some resolved =>
      obtain ⟨silent, config, tenant, admission, welcome, shape⟩ := settled
      exact ⟨split.trans silent, authority, config, tenant, credited resolving,
        admission.mono (List.subset_append_right _ _),
        welcome.mono (List.subset_append_right _ _), shape⟩

theorem resolveProject_ends (handshake : Handshake) :
    (resolveProject handshake).Ensures (Ends handshake) := by
  unfold resolveProject
  cases token : given handshake.token with
  | some rawToken =>
      refine Dialogue.ensures_put_bind.mpr fun (payload : Option TokenPayload) => ?_
      cases payload with
      | none => exact Dialogue.ensures_put_bind.mpr fun _ => Dialogue.ensures_pure.mpr rfl
      | some payload =>
          refine resolved_ends [⟨.redeemEphemeralToken rawToken, some payload⟩] rfl
            fun later => ?_
          simp only [Credited, token]
          exact ⟨payload, List.mem_cons_self, rfl⟩
  | none =>
      cases apiKey : given handshake.apiKey with
      | none => exact Dialogue.ensures_put_bind.mpr fun _ => Dialogue.ensures_pure.mpr rfl
      | some rawKey =>
          refine Dialogue.ensures_put_bind.mpr
            fun (keyDoc : Except APIKeyRepo.TypeError (Option APIKeyDoc)) => ?_
          match keyDoc with
          | .error raised => exact Dialogue.ensures_pure.mpr ⟨rawKey, List.mem_cons_self⟩
          | .ok none => exact Dialogue.ensures_put_bind.mpr fun _ => Dialogue.ensures_pure.mpr rfl
          | .ok (some keyDoc) =>
              refine Dialogue.ensures_put_bind.mpr fun (_ : Unit) => ?_
              refine resolved_ends
                [⟨.getByRawKey rawKey, .ok (some keyDoc)⟩, ⟨.touchLastUsed keyDoc.id, ()⟩] rfl
                fun later => ?_
              simp only [Credited, token, apiKey]
              exact ⟨keyDoc, List.mem_cons_self, rfl⟩

/-! ## Which commands it puts -/

/-- The token goes before the API key, and a read is awaited after it was called. -/
def Permitted (handshake : Handshake) (past : Exchanges) : Command → Prop
  | .redeemEphemeralToken rawToken => given handshake.token = some rawToken
  | .getByRawKey rawKey => given handshake.token = none ∧ given handshake.apiKey = some rawKey
  | .awaitGetConfig read =>
      ∃ projectId tenantId, Answered past (.callGetConfig projectId tenantId) read
  | _ => True

section Asks
variable (handshake : Handshake)

theorem checkAndIncrementRateLimit_asks (past : Exchanges) (keyPrefix : String) (limit : Int)
    (windowS : Nat) : Dialogue.Asks (Permitted handshake) past
      (checkAndIncrementRateLimit keyPrefix limit windowS) := by
  refine Dialogue.asks_put_bind.mpr ⟨trivial, fun (now : Instant) => ?_⟩
  refine Dialogue.asks_put_bind.mpr ⟨trivial, fun (count : Nat) => ?_⟩
  by_cases opens : count = 1
  · rw [if_pos opens]
    exact Dialogue.asks_put_bind.mpr ⟨trivial, fun _ => trivial⟩
  · rw [if_neg opens]
    trivial

theorem getConfig_asks (past : Exchanges) (projectId tenantId : String) :
    Dialogue.Asks (Permitted handshake) past (getConfig projectId tenantId) := by
  refine Dialogue.asks_put_bind.mpr ⟨trivial, fun (read : Nat) => ?_⟩
  have called : Answered (past ++ [⟨.callGetConfig projectId tenantId, read⟩])
      (.callGetConfig projectId tenantId) read :=
    List.mem_append_right past (List.mem_singleton.mpr rfl)
  exact ⟨⟨projectId, tenantId, called⟩, fun _ => trivial⟩

theorem welcome_asks (past : Exchanges) (origin : Option String) (authority : Authority)
    (config : ProjectConfig) (tenant : TenantDoc) :
    Dialogue.Asks (Permitted handshake) past (welcome origin authority config tenant) := by
  unfold welcome
  cases Chat.originAllowed origin config.allowedOrigins with
  | false => exact Dialogue.asks_put_bind.mpr ⟨trivial, fun _ => trivial⟩
  | true =>
      cases tenant.isSuspended with
      | true => exact Dialogue.asks_put_bind.mpr ⟨trivial, fun _ => trivial⟩
      | false =>
          cases PlanLimits.dailyTokenQuota tenant.plan with
          | none => trivial
          | some quota =>
              have measures : Dialogue.Asks (Permitted handshake) past
                  (getDailyTokenUsage tenant.id) := ⟨trivial, fun _ => ⟨trivial, fun _ => trivial⟩⟩
              refine measures.bind ?_
              rintro measuring used
              by_cases spent : used ≥ quota
              · rw [if_pos spent]
                exact Dialogue.asks_put_bind.mpr ⟨trivial, fun _ => trivial⟩
              · rw [if_neg spent]
                trivial

theorem resolveAuthority_asks (past : Exchanges) (origin : Option String)
    (authority : Authority) :
    Dialogue.Asks (Permitted handshake) past (resolveAuthority origin authority) := by
  refine (checkAndIncrementRateLimit_asks handshake past _ _ _).bind ?_
  rintro counting ⟨allowed, count⟩
  cases allowed with
  | false => exact Dialogue.asks_put_bind.mpr ⟨trivial, fun _ => trivial⟩
  | true =>
      refine (getConfig_asks handshake counting _ _).bind ?_
      rintro reading config
      cases config with
      | none => exact Dialogue.asks_put_bind.mpr ⟨trivial, fun _ => trivial⟩
      | some config =>
          refine Dialogue.asks_put_bind.mpr ⟨trivial, fun (tenant : Option TenantDoc) => ?_⟩
          cases tenant with
          | none => exact Dialogue.asks_put_bind.mpr ⟨trivial, fun _ => trivial⟩
          | some tenant => exact welcome_asks handshake _ origin authority config tenant

theorem resolveProject_asks :
    Dialogue.Asks (Permitted handshake) [] (resolveProject handshake) := by
  unfold resolveProject
  cases token : given handshake.token with
  | some rawToken =>
      refine Dialogue.asks_put_bind.mpr ⟨token, fun (payload : Option TokenPayload) => ?_⟩
      cases payload with
      | none => exact Dialogue.asks_put_bind.mpr ⟨trivial, fun _ => trivial⟩
      | some payload =>
          exact (resolveAuthority_asks handshake _ _ _).bind fun _ _ => trivial
  | none =>
      cases apiKey : given handshake.apiKey with
      | none => exact Dialogue.asks_put_bind.mpr ⟨trivial, fun _ => trivial⟩
      | some rawKey =>
          refine Dialogue.asks_put_bind.mpr ⟨⟨token, apiKey⟩,
            fun (keyDoc : Except APIKeyRepo.TypeError (Option APIKeyDoc)) => ?_⟩
          match keyDoc with
          | .error raised => trivial
          | .ok none => exact Dialogue.asks_put_bind.mpr ⟨trivial, fun _ => trivial⟩
          | .ok (some keyDoc) =>
              refine Dialogue.asks_put_bind.mpr ⟨trivial, fun (_ : Unit) => ?_⟩
              exact (resolveAuthority_asks handshake _ _ _).bind fun _ _ => trivial

end Asks

/-! ## What the answers say about the service -/

abbrev CallMoment := Moment Service Command Command.Answer

def Redeems (rawToken : String) (payload : TokenPayload) (moment : CallMoment) : Prop :=
  moment.before.redis.ephemeralTokens.get moment.before.now rawToken = some payload ∧
    moment.after.redis.ephemeralTokens =
      moment.before.redis.ephemeralTokens.erase rawToken

/-- The key is stored then, not revoked, and does not expire. -/
structure Verifies (hasher : AuthTokenRepo.PasswordHasher) (rawKey : String)
    (keyDoc : APIKeyDoc) (moment : CallMoment) : Prop where
  stored : keyDoc ∈ moment.before.rest.apiKeys
  unrevoked : keyDoc.revoked = false
  unexpired : keyDoc.expiresAt = none
  verified : hasher.verify keyDoc.keyHash rawKey = true

def Counts (keyPrefix : String) (window count : Nat) (moment : CallMoment) : Prop :=
  moment.after.redis.rateLimits.get moment.after.now (keyPrefix, window) = some count ∧
    count = (moment.before.redis.rateLimits.get moment.before.now (keyPrefix, window)).getD 0 + 1

/-- What a handshake that was let in went through, each check in the state in which its
command ran. -/
structure Passed (hasher : AuthTokenRepo.PasswordHasher) (handshake : Handshake)
    (history : List CallMoment) (authority : Authority) (config : ProjectConfig)
    (tenant : TenantDoc) : Prop where
  credential :
    (∃ rawToken payload, given handshake.token = some rawToken ∧ authority = .ofToken payload ∧
      ∃ moment ∈ history, Redeems rawToken payload moment) ∨
    ∃ rawKey keyDoc, given handshake.token = none ∧ given handshake.apiKey = some rawKey ∧
      authority = .ofKey keyDoc ∧ ∃ moment ∈ history, Verifies hasher rawKey keyDoc moment
  counted : ∃ clock ∈ history, ∃ counting ∈ history, ∃ count : Nat,
    Counts authority.keyPrefix (Redis.rateWindow clock.before.now 60) count counting ∧
      (count : Int) ≤ authority.rateLimitRpm
  configured : ∃ called ∈ history, ∃ returned ∈ history,
    called.after.Asked called.before.nextRead authority.projectId authority.tenantId ∧
      returned.before.configResult called.before.nextRead = some (some config)
  found : ∃ moment ∈ history,
    moment.before.rest.tenants.lookup authority.tenantId = some tenant
  unsuspended : tenant.isSuspended = false
  origin : handshake.origin = none ∨ config.allowedOrigins = [] ∨
    ∃ origin ∈ config.allowedOrigins, handshake.origin = some origin
  quota : ∀ quota ∈ PlanLimits.dailyTokenQuota tenant.plan,
    ∃ clock ∈ history, ∃ measured ∈ history,
      measured.before.usage tenant.id
        (SessionRepo.startOfDay clock.before.node.clock.utc) < quota

variable {hasher : AuthTokenRepo.PasswordHasher}

theorem originAllowed_cases {origin : Option String} {allowedOrigins : List String}
    (allowed : Chat.originAllowed origin allowedOrigins = true) :
    origin = none ∨ allowedOrigins = [] ∨ ∃ known ∈ allowedOrigins, origin = some known := by
  unfold Chat.originAllowed at allowed
  split at allowed
  · exact Or.inr (Or.inl rfl)
  · exact Or.inl rfl
  · rename_i listed known _
    exact Or.inr (Or.inr ⟨known, List.contains_iff_mem.mp allowed, rfl⟩)

section Moments
variable {call : Call} {handshake : Handshake} {authority : Authority} {config : ProjectConfig}
  {tenant : TenantDoc}
  (performed : ∀ moment ∈ call.history, Talk.Moment.Performed (perform hasher) moment)
include performed

theorem credential_of_credited (credited : Credited call.exchanges handshake authority) :
    (∃ rawToken payload, given handshake.token = some rawToken ∧ authority = .ofToken payload ∧
      ∃ moment ∈ call.history, Redeems rawToken payload moment) ∨
    ∃ rawKey keyDoc, given handshake.token = none ∧ given handshake.apiKey = some rawKey ∧
      authority = .ofKey keyDoc ∧ ∃ moment ∈ call.history,
        Verifies hasher rawKey keyDoc moment := by
  unfold Credited at credited
  cases token : given handshake.token with
  | some rawToken =>
      rw [token] at credited
      obtain ⟨payload, redeemed, shape⟩ := credited
      obtain ⟨before, after, member, ran⟩ := Talk.exists_moment performed redeemed
      refine Or.inl ⟨rawToken, payload, rfl, shape, _, member, ?_⟩
      rcases before.redis.redeemEphemeralToken_cases before.now rawToken with
        ⟨_, taken⟩ | ⟨found, live, taken⟩
      · simp only [perform, taken] at ran
        cases ran
      · simp only [perform, taken] at ran
        cases ran
        exact ⟨live, rfl⟩
  | none =>
      rw [token] at credited
      cases apiKey : given handshake.apiKey with
      | none =>
          rw [apiKey] at credited
          exact credited.elim
      | some rawKey =>
          rw [apiKey] at credited
          obtain ⟨keyDoc, looked, shape⟩ := credited
          obtain ⟨before, after, member, ran⟩ := Talk.exists_moment performed looked
          obtain ⟨_, found⟩ := Prod.mk.inj (Option.some.inj ran)
          obtain ⟨stored, unrevoked, verified⟩ := APIKeyRepo.getByRawKey_some found
          exact Or.inr ⟨rawKey, keyDoc, rfl, rfl, shape, _, member, stored, unrevoked,
            APIKeyRepo.getByRawKey_unexpired found, verified⟩

theorem counted_of_admission (admission : Admission call.exchanges authority config tenant) :
    ∃ clock ∈ call.history, ∃ counting ∈ call.history, ∃ count : Nat,
      Counts authority.keyPrefix (Redis.rateWindow clock.before.now 60) count counting ∧
        (count : Int) ≤ authority.rateLimitRpm := by
  obtain ⟨now, count, time, incremented, allowed⟩ := admission.counted
  obtain ⟨then', later, told, read⟩ := Talk.exists_moment performed time
  obtain ⟨before, after, member, ran⟩ := Talk.exists_moment performed incremented
  cases read
  refine ⟨_, told, _, member, count, ?_, allowed⟩
  cases ran
  exact ⟨ExpiringStore.get_update _ _ _ _ _, rfl⟩

theorem configured_of_admission (admission : Admission call.exchanges authority config tenant) :
    ∃ called ∈ call.history, ∃ returned ∈ call.history,
      called.after.Asked called.before.nextRead authority.projectId authority.tenantId ∧
        returned.before.configResult called.before.nextRead = some (some config) := by
  obtain ⟨read, called, returned⟩ := admission.configured
  obtain ⟨before, after, asking, asked⟩ := Talk.exists_moment performed called
  obtain ⟨world, later, member, ran⟩ := Talk.exists_moment performed returned
  cases asked
  obtain ⟨result, told, same⟩ := Option.map_eq_some_iff.mp ran
  obtain ⟨_, rfl⟩ := Prod.mk.inj same
  exact ⟨_, asking, _, member, Service.asked_ask _ _ _, told⟩

end Moments

theorem passed_of_cleared {handshake : Handshake} {call : Call} {resolved : Resolved}
    (performed : ∀ moment ∈ call.history, Talk.Moment.Performed (perform hasher) moment)
    (cleared : Cleared handshake call.exchanges resolved) :
    ∃ authority config tenant, Passed hasher handshake call.history authority config tenant ∧
      resolved = ⟨config, authority.apiKeyId, tenant.plan⟩ := by
  obtain ⟨authority, config, tenant, credited, admission, welcome, shape⟩ := cleared
  refine ⟨authority, config, tenant, ?_, shape⟩
  refine ⟨credential_of_credited performed credited, counted_of_admission performed admission,
    configured_of_admission performed admission, ?_, welcome.unsuspended,
    originAllowed_cases welcome.origin, ?_⟩
  · obtain ⟨before, after, member, read⟩ := Talk.exists_moment performed admission.found
    exact ⟨_, member, (Prod.mk.inj (Option.some.inj read)).2⟩
  · intro quota listed
    obtain ⟨utc, used, clock, summed, room⟩ := welcome.quota quota listed
    obtain ⟨now, later, told, read⟩ := Talk.exists_moment performed clock
    obtain ⟨before, after, member, measured⟩ := Talk.exists_moment performed summed
    cases read
    cases measured
    exact ⟨_, told, _, member, room⟩

/-! ## Whole runs -/

/-- The commands of the call and of the reads of a configuration. -/
def ofResolve : CallEvent → Prop
  | .put => True
  | .meanwhile (.rest (.repo event)) => ∃ read, ProjectRepo.State.ofRead read event = true
  | .meanwhile _ => False

def Ageless (service : Service) : Prop := Unexpiring service.rest.apiKeys

/-- A call that began in a state in which no key expires. -/
structure Sound (hasher : AuthTokenRepo.PasswordHasher) (handshake : Handshake) (call : Call) :
    Prop where
  tracks : Talk.Tracks Ageless (resolveProject handshake) (perform hasher) call
  asked : ∀ read projectId tenantId,
    Answered call.exchanges (.callGetConfig projectId tenantId) read →
      call.world.Asked read projectId tenantId

theorem ageless_step (service : Service) (event : ServiceEvent) (next : Service)
    (ageless : Ageless service) (run : service.step hasher event = some next) : Ageless next := by
  rcases Service.rest_moved (Service.step_moved run) with same | ⟨_, restMoved⟩
  · rw [Ageless, same]
    exact ageless
  · exact unexpiring_moved restMoved ageless

theorem ageless_perform (service : Service) (command : Command) (next : Service)
    (answer : command.Answer) (ageless : Ageless service)
    (ran : perform hasher service command = some (next, answer)) : Ageless next := by
  cases command with
  | awaitGetConfig read =>
      obtain ⟨result, _, same⟩ := Option.map_eq_some_iff.mp ran
      cases same
      exact ageless
  | _ =>
      cases ran
      exact ageless

theorem perform_asked {service next : Service} {command : Command} {answer : command.Answer}
    (ran : perform hasher service command = some (next, answer)) {read : Nat}
    {projectId tenantId : String} (asked : service.Asked read projectId tenantId) :
    next.Asked read projectId tenantId := by
  cases command with
  | awaitGetConfig index =>
      obtain ⟨result, _, same⟩ := Option.map_eq_some_iff.mp ran
      cases same
      exact asked
  | callGetConfig newProject newTenant =>
      cases ran
      obtain ⟨call, found, own⟩ := asked
      exact ⟨call, List.getElem?_append_left (List.getElem?_eq_some_iff.mp found).1 ▸ found, own⟩
  | _ =>
      cases ran
      exact asked

theorem sound_begin {service : Service} (ageless : Ageless service) (handshake : Handshake) :
    Sound hasher handshake (begin service handshake) :=
  ⟨Talk.tracks_start ageless _, fun _ _ _ listed => absurd listed List.not_mem_nil⟩

theorem sound_step {handshake : Handshake} {call next : Call} {event : CallEvent}
    (sound : Sound hasher handshake call) (run : step hasher call event = some next) :
    Sound hasher handshake next := by
  refine ⟨Talk.tracks_step ageless_step ageless_perform sound.tracks run, ?_⟩
  intro read projectId tenantId listed
  rcases Talk.step_cases run with ⟨happened, -, moved, -, same⟩ |
    ⟨command, rest, answer, -, -, ran, -, grown⟩
  · simp only [Answered, Talk.exchanges, same] at listed
    exact Service.asked_moved (Service.step_moved moved)
      (sound.asked read projectId tenantId listed)
  · simp only [Answered, Talk.exchanges, grown, List.map_append] at listed
    rcases List.mem_append.mp listed with old | last
    · exact perform_asked ran (sound.asked read projectId tenantId old)
    · cases List.mem_singleton.mp last
      obtain ⟨world, number⟩ := Prod.mk.inj (Option.some.inj ran)
      rw [← world, ← number]
      exact Service.asked_ask _ _ _

theorem sound_exec {handshake : Handshake} {call final : Call} {events : List CallEvent}
    (sound : Sound hasher handshake call) (run : exec (step hasher) call events = some final) :
    Sound hasher handshake final :=
  exec_invariant (Sound hasher handshake) (fun _ _ _ held stepped => sound_step held stepped)
    sound run

/-- A read that was called can be run to its return. -/
theorem awaited {call : Call} {read : Nat} {projectId tenantId : String}
    (asked : call.world.Asked read projectId tenantId) :
    ∃ (world : Service) (config : Option ProjectConfig),
      RunsOn (step hasher) ofResolve call { call with world := world } ∧
        world.configResult read = some config := by
  obtain ⟨reading, found, _⟩ := asked
  obtain ⟨repo, ran, config, returned⟩ := ProjectRepo.State.read_returns found
  refine ⟨{ call.world with rest := call.world.rest.withRepo repo }, config, ?_, ?_⟩
  · have reads : RunsOn (Service.step hasher) (fun event => ofResolve (.meanwhile event))
        call.world { call.world with rest := call.world.rest.withRepo repo } :=
      Service.runsOn_repo (fun event own => ⟨read, own⟩) ran
    exact Talk.runsOn_meanwhile (fun _ own => own) call reads
  · simp only [Service.configResult, Rest.withRepo, returned]

theorem performs (service : Service) {command : Command}
    (ready : ∀ read, command ≠ .awaitGetConfig read) :
    ∃ next answer, perform hasher service command = some (next, answer) := by
  cases command with
  | redeemEphemeralToken rawToken =>
      rcases redeemed : service.redis.redeemEphemeralToken service.now rawToken with
        ⟨redis, payload⟩
      exact ⟨service.withRedis redis, payload, by simp only [perform, redeemed]⟩
  | awaitGetConfig read => exact absurd rfl (ready read)
  | _ => exact ⟨_, _, rfl⟩

/-- Every command can be put, a read of a configuration once it has returned. -/
theorem put_possible {handshake : Handshake} {call : Call} (sound : Sound hasher handshake call)
    {command : Command}
    {next : command.Answer → Program (Except APIKeyRepo.TypeError (Option Resolved))}
    (waits : call.program = .ask command next) :
    ∃ after answer, RunsOn (step hasher) ofResolve call after ∧ after.program = next answer := by
  by_cases waiting : ∃ read, command = .awaitGetConfig read
  · obtain ⟨read, rfl⟩ := waiting
    have permitted := sound.tracks.goes.asks (resolveProject_asks handshake)
    rw [waits] at permitted
    obtain ⟨projectId, tenantId, called⟩ := permitted.1
    obtain ⟨world, config, ran, returned⟩ : ∃ world config,
        RunsOn (step hasher) ofResolve call { call with world := world } ∧
          world.configResult read = some config :=
      awaited (sound.asked read projectId tenantId called)
    have performed : perform hasher world (.awaitGetConfig read) = some (world, config) := by
      simp only [perform, returned]
      rfl
    have there : ({ call with world := world } : Call).program =
        .ask (.awaitGetConfig read) next := waits
    have put : RunsOn (step hasher) ofResolve { call with world := world }
        { world := world
          program := next config
          history := call.history ++ [⟨world, world, ⟨.awaitGetConfig read, config⟩⟩] } :=
      Talk.runsOn_put trivial there performed
    exact ⟨_, config, ran.trans put, rfl⟩
  · obtain ⟨world, answer, performed⟩ : ∃ world answer,
        perform hasher call.world command = some (world, answer) :=
      performs call.world fun read same => waiting ⟨read, same⟩
    have put : RunsOn (step hasher) ofResolve call
        { world := world
          program := next answer
          history := call.history ++ [⟨call.world, world, ⟨command, answer⟩⟩] } :=
      Talk.runsOn_put trivial waits performed
    exact ⟨_, answer, put, rfl⟩

/-- The call can be run to its end. -/
theorem returns {handshake : Handshake} {call : Call} (sound : Sound hasher handshake call) :
    ∃ final result, RunsOn (step hasher) ofResolve call final ∧ final.program = .done result := by
  -- by induction on what is left of the program
  generalize left : call.program = program
  induction program generalizing call with
  | done result => exact ⟨call, result, .refl _ _, left⟩
  | ask command next ih =>
      obtain ⟨after, answer, put, goesOn⟩ := put_possible sound left
      have ⟨events, _, ran⟩ := put
      obtain ⟨final, result, rest, ended⟩ := ih answer (sound_exec sound ran) goesOn
      exact ⟨final, result, put.trans rest, ended⟩

/-! ## The gate -/

def Closed (call : Call) : List Close := closes call.exchanges

theorem ends_of_sound {handshake : Handshake} {call : Call} (sound : Sound hasher handshake call)
    {result : Except APIKeyRepo.TypeError (Option Resolved)} (ended : call.program = .done result) :
    (result = .ok none ∧ (Closed call).length = 1) ∨
      ∃ resolved, result = .ok (some resolved) ∧ Closed call = [] ∧
        ∃ authority config tenant,
          Passed hasher handshake call.history authority config tenant ∧
          resolved = ⟨config, authority.apiKeyId, tenant.plan⟩ := by
  have goes := sound.tracks.goes
  rw [ended] at goes
  have ends := goes.ended (resolveProject_ends handshake)
  cases result with
  | error raised =>
      -- no key expires, so the lookup does not raise
      obtain ⟨rawKey, looked⟩ := ends
      obtain ⟨before, after, member, ran⟩ := Talk.exists_moment sound.tracks.performed looked
      have ageless : Ageless before := sound.tracks.past _ member
      obtain ⟨answer, fine⟩ := Service.getByRawKey_ok hasher ageless rawKey
      cases fine.symm.trans (Prod.mk.inj (Option.some.inj ran)).2
  | ok result =>
      cases result with
      | none => exact Or.inl ⟨rfl, ends⟩
      | some resolved =>
          obtain ⟨quiet, cleared⟩ := ends
          exact Or.inr ⟨resolved, rfl, quiet, passed_of_cleared sound.tracks.performed cleared⟩

/-- From every reachable state, with whatever goes on in between: a call that has returned
gave a triple without closing the socket and passed every check, or gave `None` and closed
it once; a token keeps the API key from being looked up; and every call can return. -/
theorem resolveProject_gates (hasher : AuthTokenRepo.PasswordHasher) {now : Instant}
    {clock : Clock} {earlier : List ServiceEvent} {service : Service}
    (reached : exec (Service.step hasher) (Service.initial now clock) earlier = some service)
    (handshake : Handshake) {events : List CallEvent} {call : Call}
    (run : exec (step hasher) (begin service handshake) events = some call) :
    (∀ result, call.program = .done result →
      (result = .ok none ∧ (Closed call).length = 1) ∨
      ∃ resolved, result = .ok (some resolved) ∧ Closed call = [] ∧
        ∃ authority config tenant,
          Passed hasher handshake call.history authority config tenant ∧
          resolved = ⟨config, authority.apiKeyId, tenant.plan⟩) ∧
    ((given handshake.token).isSome → ∀ moment ∈ call.history, ∀ rawKey,
      moment.exchange.1 ≠ .getByRawKey rawKey) ∧
    ∃ final result, RunsOn (step hasher) ofResolve call final ∧
      final.program = .done result := by
  have ageless : Ageless service := (Service.sound_run reached).2
  have sound := sound_exec (sound_begin ageless handshake) run
  refine ⟨fun result ended => ends_of_sound sound ended, fun token moment listed rawKey same => ?_,
    returns sound⟩
  have put : moment.exchange ∈ call.exchanges := List.mem_map.mpr ⟨moment, listed, rfl⟩
  obtain ⟨past, permitted⟩ := sound.tracks.goes.permitted (resolveProject_asks handshake) _ put
  rw [same] at permitted
  rw [permitted.1] at token
  cases token

def keyCreated : List ServiceEvent :=
  [.rest (.register "tenant" "Tenant" "tenant@example.com"),
    .rest (.authenticate "tenant" (.createProject Rest.sampleProject)), .rest (.read 0),
    .rest (.write 0 (Rest.sampleRandom "project")),
    .rest (.authenticate "tenant" (.createKey "project" {})), .rest (.read 1),
    .rest (.write 1 (Rest.sampleRandom "key"))]

def keyHandshake : Handshake := { apiKey := some "pk_live_body", origin := some "https://shop" }

/-- The call with its read of the configuration, which finds no cache. -/
def keyCommands : List CallEvent :=
  [.put, .put, .put, .put, .put, .put, .meanwhile (.rest (.repo (.redisGet 0))),
    .meanwhile (.rest (.repo (.findOne 0))), .meanwhile (.rest (.repo (.redisSet 0))), .put, .put,
    .put, .put]

def resolvedPlan (call : Call) : Option PlanLimits.Plan :=
  match call.program with
  | .done (.ok (some resolved)) => some resolved.tenantPlan
  | _ => none

theorem resolveProject_gates_key : ∃ service call,
    exec (Service.step AuthTokenRepo.plainHasher) (Service.initial 0 ⟨0, 0⟩) keyCreated =
      some service ∧
    exec (step AuthTokenRepo.plainHasher) (begin service keyHandshake) keyCommands = some call ∧
    Closed call = [] ∧ ∃ authority config tenant,
      Passed AuthTokenRepo.plainHasher keyHandshake call.history authority config tenant := by
  have shape : ((exec (Service.step AuthTokenRepo.plainHasher) (Service.initial 0 ⟨0, 0⟩)
      keyCreated).bind fun service =>
        (exec (step AuthTokenRepo.plainHasher) (begin service keyHandshake) keyCommands).bind
          fun call => (resolvedPlan call).map fun plan => (service, call, plan)).map
            (fun result => result.2.2) = some .free := by decide
  obtain ⟨⟨service, call, plan⟩, found, _⟩ := Option.map_eq_some_iff.mp shape
  obtain ⟨service', reached, later⟩ := Option.bind_eq_some_iff.mp found
  obtain ⟨call', run, returned⟩ := Option.bind_eq_some_iff.mp later
  obtain ⟨plan', triple, _⟩ := Option.map_eq_some_iff.mp returned
  have ended : ∃ resolved, call'.program = .done (.ok (some resolved)) := by
    unfold resolvedPlan at triple
    split at triple
    · rename_i resolved ended
      exact ⟨resolved, ended⟩
    · cases triple
  obtain ⟨resolved, ended⟩ := ended
  rcases (resolveProject_gates AuthTokenRepo.plainHasher reached keyHandshake run).1 _ ended with
    ⟨same, _⟩ | ⟨_, _, quiet, authority, config, tenant, passed, _⟩
  · cases same
  · exact ⟨service', call', reached, run, quiet, authority, config, tenant, passed⟩

end LiveChat.Api.ResolveProject
