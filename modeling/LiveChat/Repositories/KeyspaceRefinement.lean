import LiveChat.Foundation.Simulation
import LiveChat.Db.Keyspace
import LiveChat.Repositories.ConfigDict
import LiveChat.Repositories.ProjectRepo

/-!
# One keyspace of texts for three typed stores

The models of the project cache, of the rate limits and of the ephemeral tokens keep a typed
store each.  Redis has one keyspace for all of them, and texts in it.  Whatever calls of
`RedisClient` are made in whatever order, the callers get the same from both: no key of one
family is a key of another, every text is parsed back to what was dumped, and the branches for
texts that cannot be parsed are never taken.
-/

set_option autoImplicit false

namespace LiveChat.Repositories.KeyspaceRefinement

open LiveChat.Core
open LiveChat.Db
open LiveChat.Foundation
open LiveChat.Foundation.ExpiringStore (Apart Holds mapEntry)
open LiveChat.Repositories.ProjectRepo (CacheEntry Store)

/-! ## The calls -/

/-- The calls of `RedisClient`; the two commands of the rate limiter come one by one. -/
inductive RedisCall where
  | tick (elapsed : Nat)
  | getProjectConfig (projectId : String)
  | setProjectConfig (projectId : String) (config : ProjectConfig) (ttl : Nat)
  | invalidateProjectConfig (projectId : String)
  | incr (keyPrefix : String) (window : Nat)
  | expire (keyPrefix : String) (window windowS : Nat)
  | createEphemeralToken (rawToken : String) (payload : TokenPayload) (ttl : Nat)
  | redeemEphemeralToken (rawToken : String)
  | peekEphemeralToken (rawToken : String)
  | getEphemeralTokenTtl (rawToken : String)

/-- What a caller gets. -/
inductive RedisAnswer where
  | done
  | config (found : Option ProjectConfig)
  | payload (found : Option TokenPayload)
  | count (count : Nat)
  | seconds (ttl : Int)
  /-- A command fails, or the caller cannot use what it reads. -/
  | raised
  deriving DecidableEq

/-- The arguments are what Python's own types make them: no dict has a key twice. -/
def RedisCall.Fits : RedisCall → Prop
  | .setProjectConfig _ config _ => ConfigDict.ConfigFits config
  | .createEphemeralToken _ payload _ => PayloadFits payload
  | _ => True

/-! ## The keyspace of texts -/

structure TextState where
  now : Instant
  keys : Keyspace := ∅

/-- The caller of a read that returns a dict, or nothing. -/
def read {Value : Type} (decode : Json → Option Value) (answer : Option Value → RedisAnswer) :
    Option Json → RedisAnswer
  | none => answer none
  | some data =>
      match decode data with
      | none => .raised
      | some value => answer (some value)

def stepTexts (state : TextState) : RedisCall → TextState × RedisAnswer
  | .tick elapsed => ({ state with now := state.now + elapsed }, .done)
  | .getProjectConfig projectId =>
      let (keys, data) := state.keys.getProjectConfig state.now projectId
      ({ state with keys := keys }, read ConfigDict.dictToProjectConfig .config data)
  | .setProjectConfig projectId config ttl =>
      let data := Json.object (ConfigDict.projectConfigToDict config)
      ({ state with keys := state.keys.setProjectConfig state.now projectId data ttl }, .done)
  | .invalidateProjectConfig projectId =>
      ({ state with keys := state.keys.invalidateProjectConfig projectId }, .done)
  | .incr keyPrefix window =>
      match state.keys.incr state.now keyPrefix window with
      | none => (state, .raised)
      | some (keys, count) => ({ state with keys := keys }, .count count)
  | .expire keyPrefix window windowS =>
      ({ state with keys := Keyspace.expire state.keys state.now keyPrefix window windowS }, .done)
  | .createEphemeralToken rawToken payload ttl =>
      ({ state with keys := state.keys.createEphemeralToken state.now rawToken payload ttl }, .done)
  | .redeemEphemeralToken rawToken =>
      let (keys, data) := state.keys.redeemEphemeralToken state.now rawToken
      ({ state with keys := keys }, read tokenPayload.decode .payload data)
  | .peekEphemeralToken rawToken =>
      (state, read tokenPayload.decode .payload (state.keys.peekEphemeralToken state.now rawToken))
  | .getEphemeralTokenTtl rawToken =>
      (state, .seconds (state.keys.getEphemeralTokenTtl state.now rawToken))

def texts : Machine TextState RedisCall RedisAnswer := ⟨stepTexts⟩

/-! ## The typed stores -/

/-- The cache as a part of the project store, and the rest of Redis. -/
structure TypedState where
  store : Store
  redis : Redis := {}

def stepTyped (state : TypedState) : RedisCall → TypedState × RedisAnswer
  | .tick elapsed =>
      ({ state with store := { state.store with now := state.store.now + elapsed } }, .done)
  | .getProjectConfig projectId => (state, .config (state.store.getProjectConfig projectId))
  | .setProjectConfig projectId config ttl =>
      ({ state with store := state.store.setProjectConfig projectId config ttl }, .done)
  | .invalidateProjectConfig projectId =>
      ({ state with store := state.store.invalidateProjectConfig projectId }, .done)
  | .incr keyPrefix window =>
      let (redis, count) := state.redis.incr state.store.now keyPrefix window
      ({ state with redis := redis }, .count count)
  | .expire keyPrefix window windowS =>
      ({ state with redis := state.redis.expire state.store.now keyPrefix window windowS }, .done)
  | .createEphemeralToken rawToken payload ttl =>
      ({ state with
          redis := state.redis.createEphemeralToken state.store.now rawToken payload ttl }, .done)
  | .redeemEphemeralToken rawToken =>
      let (redis, payload) := state.redis.redeemEphemeralToken state.store.now rawToken
      ({ state with redis := redis }, .payload payload)
  | .peekEphemeralToken rawToken =>
      (state, .payload (state.redis.peekEphemeralToken state.store.now rawToken))
  | .getEphemeralTokenTtl rawToken =>
      (state, .seconds (state.redis.getEphemeralTokenTtl state.store.now rawToken))

def typed : Machine TypedState RedisCall RedisAnswer := ⟨stepTyped⟩

/-! ## The relation -/

def rateLimitPlace (key : String × Nat) : String := Keyspace.rateLimitKey key.1 key.2

def cacheEntry (entry : CacheEntry) : Entry String :=
  ⟨ConfigDict.projectConfig.text entry.config, some entry.expiresAt⟩

/-- The keyspace holds the three stores, and what is dumped in it can be parsed. -/
structure Represents (state : TextState) (state' : TypedState) : Prop where
  now : state.now = state'.store.now
  configs : Holds Keyspace.projectCacheKey cacheEntry state.keys state'.store.projectConfigs
  limits : Holds rateLimitPlace (mapEntry toString) state.keys state'.redis.rateLimits
  tokens : Holds Keyspace.ephemeralTokenKey (mapEntry tokenPayload.text) state.keys
    state'.redis.ephemeralTokens
  configsFit : ∀ projectId entry, state'.store.projectConfigs.lookup projectId = some entry →
    ConfigDict.ConfigFits entry.config
  payloadsFit : ∀ rawToken entry, state'.redis.ephemeralTokens.lookup rawToken = some entry →
    PayloadFits entry.value

theorem represents_initial (now : Instant) : Represents ⟨now, ∅⟩ ⟨{ now := now }, {}⟩ where
  now := rfl
  configs := ExpiringStore.holds_empty _ _
  limits := ExpiringStore.holds_empty _ _
  tokens := ExpiringStore.holds_empty _ _
  configsFit projectId entry found := by simp at found
  payloadsFit rawToken entry found := by simp at found

/-! ## Keys of different families -/

theorem rateLimit_injective : Function.Injective rateLimitPlace := Keyspace.rateLimitKey_injective

theorem projectCache_apart_rateLimit (projectId : String) :
    Apart rateLimitPlace (Keyspace.projectCacheKey projectId) := by
  intro key same
  have heads := congrArg (fun text : String => text.toList.head?) same
  simp [rateLimitPlace, Keyspace.rateLimitKey, Keyspace.projectCacheKey, PREFIX_RATE_LIMIT,
    PREFIX_PROJECT_CACHE] at heads

theorem projectCache_apart_token (projectId : String) :
    Apart Keyspace.ephemeralTokenKey (Keyspace.projectCacheKey projectId) := by
  intro key same
  have heads := congrArg (fun text : String => text.toList.head?) same
  simp [Keyspace.ephemeralTokenKey, Keyspace.projectCacheKey, PREFIX_EPHEMERAL_TOKEN,
    PREFIX_PROJECT_CACHE] at heads

theorem rateLimit_apart_projectCache (key : String × Nat) :
    Apart Keyspace.projectCacheKey (rateLimitPlace key) :=
  fun projectId same => projectCache_apart_rateLimit projectId key same.symm

theorem rateLimit_apart_token (key : String × Nat) :
    Apart Keyspace.ephemeralTokenKey (rateLimitPlace key) := by
  intro rawToken same
  have heads := congrArg (fun text : String => text.toList.head?) same
  simp [Keyspace.ephemeralTokenKey, rateLimitPlace, Keyspace.rateLimitKey, PREFIX_EPHEMERAL_TOKEN,
    PREFIX_RATE_LIMIT] at heads

theorem token_apart_projectCache (rawToken : String) :
    Apart Keyspace.projectCacheKey (Keyspace.ephemeralTokenKey rawToken) :=
  fun projectId same => projectCache_apart_token projectId rawToken same.symm

theorem token_apart_rateLimit (rawToken : String) :
    Apart rateLimitPlace (Keyspace.ephemeralTokenKey rawToken) :=
  fun key same => rateLimit_apart_token key rawToken same.symm

/-! ## What is read -/

/-- A dict that was dumped is decoded to what it was made of. -/
theorem read_loads {Value : Type} {codec : Codec Value} (answer : Option Value → RedisAnswer)
    {found : Option Value} (fits : ∀ value ∈ found, codec.Fits value) :
    read codec.decode answer ((found.map codec.text).bind JsonText.loads) = answer found := by
  cases found with
  | none => rfl
  | some value =>
      rw [Option.map_some, Option.bind_some, codec.loads_text (fits value rfl)]
      simp only [read, codec.decode_encode]

theorem parseCounter_toString (count : Nat) : Keyspace.parseCounter (toString count) = some count := by
  have digits : (toString count).toList = Nat.toDigits 10 count := Nat.toList_repr
  have all : (Nat.toDigits 10 count).all Char.isDigit = true :=
    List.all_eq_true.mpr fun _ member => Nat.isDigit_of_mem_toDigits (by decide) (by decide) member
  rw [Keyspace.parseCounter, digits, if_pos ⟨Nat.toDigits_ne_nil, all⟩,
    Nat.ofDigitChars_ten_toDigits]

theorem increment_toString (count : Nat) :
    Keyspace.increment (toString count) = toString (count + 1) := by
  rw [Keyspace.increment, parseCounter_toString, Option.getD_some]

theorem get_cached {state : TextState} {state' : TypedState} (represents : Represents state state')
    (projectId : String) :
    state.keys.get state.now (Keyspace.projectCacheKey projectId) =
      (state'.store.getProjectConfig projectId).map ConfigDict.projectConfig.text := by
  rw [represents.configs.get, Store.getProjectConfig]
  cases state'.store.projectConfigs.lookup projectId with
  | none => rfl
  | some entry =>
      simp only [Option.bind_some]
      by_cases live : state'.store.now < entry.expiresAt
      · have live' : (cacheEntry entry).IsLive state.now := by
          intro deadline listed
          cases listed
          rw [represents.now]
          exact live
        rw [if_pos live, if_pos live']
        rfl
      · have dead : ¬ (cacheEntry entry).IsLive state.now := by
          intro live'
          have before := live' entry.expiresAt rfl
          rw [represents.now] at before
          exact live before
        rw [if_neg live, if_neg dead]
        rfl

theorem getProjectConfig_fits {state : TextState} {state' : TypedState}
    (represents : Represents state state') {projectId : String} :
    ∀ config ∈ state'.store.getProjectConfig projectId, ConfigDict.ConfigFits config := by
  intro config found
  rw [Option.mem_def, Store.getProjectConfig] at found
  split at found
  · cases found
  · rename_i entry listed
    rw [Option.ite_none_right_eq_some, Option.some.injEq] at found
    rw [← found.2]
    exact represents.configsFit projectId entry listed

theorem get_fits {state : TextState} {state' : TypedState} (represents : Represents state state')
    {now : Instant} {rawToken : String} :
    ∀ payload ∈ state'.redis.ephemeralTokens.get now rawToken, PayloadFits payload := by
  intro payload found
  obtain ⟨entry, listed, _, rfl⟩ := ExpiringStore.get_eq_some.mp found
  exact represents.payloadsFit rawToken entry listed

/-- A cached config is found as it was set, and nothing is evicted. -/
theorem getProjectConfig_eq {state : TextState} {state' : TypedState}
    (represents : Represents state state') (projectId : String) :
    state.keys.getProjectConfig state.now projectId =
      (state.keys, (state'.store.getProjectConfig projectId).map ConfigDict.projectConfig.encode) := by
  rw [Keyspace.getProjectConfig, get_cached represents]
  cases found : state'.store.getProjectConfig projectId with
  | none => rfl
  | some config =>
      have fits := getProjectConfig_fits represents config found
      simp only [Option.map_some, ConfigDict.projectConfig.loads_text fits]

/-! ## One call -/

section Calls
variable {state : TextState} {state' : TypedState} (represents : Represents state state')
include represents

theorem setProjectConfig_represents (projectId : String) {config : ProjectConfig}
    (fits : ConfigDict.ConfigFits config) (ttl : Nat) :
    Represents (stepTexts state (.setProjectConfig projectId config ttl)).1
      (stepTyped state' (.setProjectConfig projectId config ttl)).1 where
  now := represents.now
  configs := by
    have held := represents.configs.insert Keyspace.projectCacheKey_injective projectId
      ⟨config, state'.store.now + ttl⟩
    simp only [stepTexts, Keyspace.setProjectConfig, represents.now]
    exact held
  limits := represents.limits.set_apart (projectCache_apart_rateLimit projectId) _ _ _
  tokens := represents.tokens.set_apart (projectCache_apart_token projectId) _ _ _
  configsFit asked entry found := by
    by_cases same : asked = projectId
    · subst same
      simp only [stepTyped, Store.setProjectConfig, AList.lookup_insert, Option.some.injEq] at found
      rw [← found]
      exact fits
    · simp only [stepTyped, Store.setProjectConfig, AList.lookup_insert_ne same] at found
      exact represents.configsFit asked entry found
  payloadsFit := represents.payloadsFit

theorem invalidateProjectConfig_represents (projectId : String) :
    Represents (stepTexts state (.invalidateProjectConfig projectId)).1
      (stepTyped state' (.invalidateProjectConfig projectId)).1 where
  now := represents.now
  configs := represents.configs.erase Keyspace.projectCacheKey_injective projectId
  limits := represents.limits.erase_apart (projectCache_apart_rateLimit projectId)
  tokens := represents.tokens.erase_apart (projectCache_apart_token projectId)
  configsFit asked entry found := by
    by_cases same : asked = projectId
    · subst same
      simp [stepTyped, Store.invalidateProjectConfig] at found
    · simp only [stepTyped, Store.invalidateProjectConfig, AList.lookup_erase_ne same] at found
      exact represents.configsFit asked entry found
  payloadsFit := represents.payloadsFit

/-- The counters are texts of numbers, so `INCR` always succeeds. -/
theorem incr_eq (keyPrefix : String) (window : Nat) :
    state.keys.incr state.now keyPrefix window =
      some (state.keys.update state.now (rateLimitPlace (keyPrefix, window)) (toString 0)
          Keyspace.increment,
        (state'.redis.incr state'.store.now keyPrefix window).2) := by
  have found := represents.limits.get_map state.now (keyPrefix, window)
  simp only [rateLimitPlace] at found
  have counter : Keyspace.parseCounter
      (((state'.redis.rateLimits.get state.now (keyPrefix, window)).map toString).getD "0") =
      some ((state'.redis.rateLimits.get state.now (keyPrefix, window)).getD 0) := by
    cases state'.redis.rateLimits.get state.now (keyPrefix, window) with
    | none => exact parseCounter_toString 0
    | some count => exact parseCounter_toString count
  rw [Keyspace.incr, found, counter, Option.map_some, represents.now]
  rfl

theorem incr_represents (keyPrefix : String) (window : Nat) :
    (stepTexts state (.incr keyPrefix window)).2 = (stepTyped state' (.incr keyPrefix window)).2 ∧
      Represents (stepTexts state (.incr keyPrefix window)).1
        (stepTyped state' (.incr keyPrefix window)).1 := by
  have after := represents.limits.update rateLimit_injective state.now (keyPrefix, window) 0
    increment_toString
  simp only [stepTexts, incr_eq represents]
  refine ⟨rfl, represents.now, ?_, ?_, ?_, represents.configsFit, represents.payloadsFit⟩
  · exact represents.configs.update_apart (rateLimit_apart_projectCache _) _ _ _
  · simp only [stepTyped, Redis.incr, ← represents.now]
    exact after
  · exact represents.tokens.update_apart (rateLimit_apart_token _) _ _ _

theorem expire_represents (keyPrefix : String) (window windowS : Nat) :
    Represents (stepTexts state (.expire keyPrefix window windowS)).1
      (stepTyped state' (.expire keyPrefix window windowS)).1 where
  now := represents.now
  configs := by
    simp only [stepTexts, stepTyped, Keyspace.expire]
    exact represents.configs.expire_apart (rateLimit_apart_projectCache (keyPrefix, window)) _ _
  limits := by
    simp only [stepTexts, stepTyped, Keyspace.expire, Redis.expire, ← represents.now]
    exact represents.limits.expire rateLimit_injective state.now (keyPrefix, window) _
  tokens := by
    simp only [stepTexts, stepTyped, Keyspace.expire]
    exact represents.tokens.expire_apart (rateLimit_apart_token (keyPrefix, window)) _ _
  configsFit := represents.configsFit
  payloadsFit := represents.payloadsFit

theorem createEphemeralToken_represents (rawToken : String) {payload : TokenPayload}
    (fits : PayloadFits payload) (ttl : Nat) :
    Represents (stepTexts state (.createEphemeralToken rawToken payload ttl)).1
      (stepTyped state' (.createEphemeralToken rawToken payload ttl)).1 where
  now := represents.now
  configs := represents.configs.set_apart (token_apart_projectCache rawToken) _ _ _
  limits := represents.limits.set_apart (token_apart_rateLimit rawToken) _ _ _
  tokens := by
    simp only [stepTyped, Redis.createEphemeralToken, ← represents.now]
    exact represents.tokens.set Keyspace.ephemeralTokenKey_injective state.now rawToken payload _
  configsFit := represents.configsFit
  payloadsFit asked entry found := by
    simp only [stepTyped, Redis.createEphemeralToken] at found
    rcases ExpiringStore.lookup_set found with ⟨_, rfl⟩ | found
    · exact fits
    · exact represents.payloadsFit asked entry found

theorem redeemEphemeralToken_represents (rawToken : String) :
    (stepTexts state (.redeemEphemeralToken rawToken)).2 =
        (stepTyped state' (.redeemEphemeralToken rawToken)).2 ∧
      Represents (stepTexts state (.redeemEphemeralToken rawToken)).1
        (stepTyped state' (.redeemEphemeralToken rawToken)).1 := by
  obtain ⟨taken, after⟩ := represents.tokens.take Keyspace.ephemeralTokenKey_injective state.now
    rawToken
  have kept := ExpiringStore.take_cases state'.redis.ephemeralTokens state.now rawToken
  have fits : ∀ payload ∈ (state'.redis.ephemeralTokens.take state.now rawToken).2,
      PayloadFits payload := by
    intro payload found
    rcases kept with ⟨_, result⟩ | ⟨value, live, result⟩
    · rw [result] at found
      cases found
    · rw [result] at found
      cases found
      exact get_fits represents _ live
  refine ⟨?_, represents.now, ?_, ?_, ?_, represents.configsFit, ?_⟩
  · simp only [stepTexts, stepTyped, Keyspace.redeemEphemeralToken, Redis.redeemEphemeralToken,
      taken, ← represents.now]
    exact read_loads .payload fits
  · exact represents.configs.take_apart (token_apart_projectCache rawToken) _
  · exact represents.limits.take_apart (token_apart_rateLimit rawToken) _
  · simp only [stepTyped, Redis.redeemEphemeralToken, ← represents.now]
    exact after
  · intro asked entry found
    simp only [stepTyped, Redis.redeemEphemeralToken, ← represents.now] at found
    rcases kept with ⟨_, result⟩ | ⟨value, live, result⟩
    · rw [result] at found
      exact represents.payloadsFit asked entry found
    · rw [result] at found
      by_cases same : asked = rawToken
      · subst same
        simp at found
      · rw [AList.lookup_erase_ne same] at found
        exact represents.payloadsFit asked entry found

/-- The state after a read, or after the clock moved. -/
theorem tick_represents (elapsed : Nat) :
    Represents (stepTexts state (.tick elapsed)).1 (stepTyped state' (.tick elapsed)).1 where
  now := congrArg (· + elapsed) represents.now
  configs := represents.configs
  limits := represents.limits
  tokens := represents.tokens
  configsFit := represents.configsFit
  payloadsFit := represents.payloadsFit

end Calls

theorem texts_simulate : texts.Simulates typed RedisCall.Fits Represents := by
  intro state state' call fits represents
  cases call with
  | tick elapsed => exact ⟨rfl, tick_represents represents elapsed⟩
  | getProjectConfig projectId =>
      have same := getProjectConfig_eq represents projectId
      have found : read ConfigDict.dictToProjectConfig .config
          ((state'.store.getProjectConfig projectId).map ConfigDict.projectConfig.encode) =
          .config (state'.store.getProjectConfig projectId) := by
        cases state'.store.getProjectConfig projectId with
        | none => rfl
        | some config =>
            have decoded := ConfigDict.projectConfig.decode_encode config
            simp only [Option.map_some, read]
            rw [show ConfigDict.dictToProjectConfig (ConfigDict.projectConfig.encode config) =
              some config from decoded]
      simp only [texts, typed, stepTexts, stepTyped, same]
      exact ⟨found, represents⟩
  | setProjectConfig projectId config ttl =>
      exact ⟨rfl, setProjectConfig_represents represents projectId fits ttl⟩
  | invalidateProjectConfig projectId =>
      exact ⟨rfl, invalidateProjectConfig_represents represents projectId⟩
  | incr keyPrefix window => exact incr_represents represents keyPrefix window
  | expire keyPrefix window windowS =>
      exact ⟨rfl, expire_represents represents keyPrefix window windowS⟩
  | createEphemeralToken rawToken payload ttl =>
      exact ⟨rfl, createEphemeralToken_represents represents rawToken fits ttl⟩
  | redeemEphemeralToken rawToken => exact redeemEphemeralToken_represents represents rawToken
  | peekEphemeralToken rawToken =>
      refine ⟨?_, represents⟩
      have found := represents.tokens.get_map state.now rawToken
      simp only [texts, typed, stepTexts, stepTyped, Keyspace.peekEphemeralToken,
        Redis.peekEphemeralToken, found, ← represents.now]
      exact read_loads .payload (get_fits represents)
  | getEphemeralTokenTtl rawToken =>
      refine ⟨?_, represents⟩
      have same := represents.tokens.remaining state.now rawToken
      cases left : state'.redis.ephemeralTokens.remaining state.now rawToken with
      | none =>
          simp only [texts, typed, stepTexts, stepTyped, Keyspace.getEphemeralTokenTtl,
            Redis.getEphemeralTokenTtl, same, left, ← represents.now]
      | some left =>
          simp only [texts, typed, stepTexts, stepTyped, Keyspace.getEphemeralTokenTtl,
            Redis.getEphemeralTokenTtl, same, left, ← represents.now]

/-- No sequence of calls tells the keyspace of texts from the typed stores. -/
theorem answers_eq (now : Instant) (calls : List RedisCall) (fits : ∀ call ∈ calls, call.Fits) :
    texts.answers ⟨now, ∅⟩ calls = typed.answers ⟨{ now := now }, {}⟩ calls :=
  (texts_simulate.run fits (represents_initial now)).1

def sampleConfig : ProjectConfig := { projectId := "p", name := "Demo", systemPrompt := "Be brief." }

def samplePayload : TokenPayload := ⟨"p", "t", "k", 60, 0, 60, [("locale", "de")]⟩

/-- A config and a token under the same name; the token can be redeemed once. -/
theorem answers_eq_sample :
    texts.answers ⟨0, ∅⟩
        [.setProjectConfig "p" sampleConfig 60, .createEphemeralToken "p" samplePayload 60,
          .incr "p" 0, .incr "p" 0, .getProjectConfig "p", .redeemEphemeralToken "p",
          .redeemEphemeralToken "p", .tick 60, .getProjectConfig "p"] =
      [.done, .done, .count 1, .count 2, .config (some sampleConfig),
        .payload (some samplePayload), .payload none, .done, .config none] := by
  refine (answers_eq 0 _ fun call member => ?_).trans (by decide)
  simp only [List.mem_cons, List.not_mem_nil, or_false] at member
  rcases member with rfl | rfl | rfl | rfl | rfl | rfl | rfl | rfl | rfl
  · intro tool member
    cases member
  · exact List.nodup_singleton _
  all_goals trivial

end LiveChat.Repositories.KeyspaceRefinement
