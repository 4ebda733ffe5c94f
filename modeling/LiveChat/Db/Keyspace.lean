import LiveChat.Foundation.JsonCodec
import LiveChat.Foundation.SharedKeyspace
import LiveChat.Db.RedisClient

/-!
# The Redis keys and their texts

`db/redis_client.py` on what Redis really holds: one keyspace of texts, in which the project
cache, the rate limits and the ephemeral tokens have keys with different prefixes.
-/

set_option autoImplicit false

namespace LiveChat.Db

open LiveChat.Core
open LiveChat.Foundation
open LiveChat.Foundation.Codec (required defaulted)

def PREFIX_PROJECT_CACHE : String := "project_config"

def PREFIX_RATE_LIMIT : String := "rate_limit"

def PREFIX_EPHEMERAL_TOKEN : String := "ephemeral_token"

/-! ## The payload of a token -/

/-- The dict that `create_ephemeral_token` dumps. -/
def dumpPayload (payload : TokenPayload) : Json.Object :=
  [("project_id", Codec.string.encode payload.projectId),
    ("tenant_id", Codec.string.encode payload.tenantId),
    ("api_key_id", Codec.string.encode payload.apiKeyId),
    ("rate_limit_rpm", Codec.int.encode payload.rateLimitRpm),
    ("issued_at", Codec.nat.encode payload.issuedAt),
    ("expires_at", Codec.nat.encode payload.expiresAt),
    ("metadata", Codec.string.dict.encode payload.metadata)]

/-- The members that the callers read, with the defaults of their `get`s. -/
def readPayload (members : Json.Object) : Option TokenPayload := do
  let projectId ← required Codec.string "project_id" members
  let tenantId ← required Codec.string "tenant_id" members
  let apiKeyId ← required Codec.string "api_key_id" members
  let rateLimitRpm ← defaulted Codec.int "rate_limit_rpm" 60 members
  let issuedAt ← required Codec.nat "issued_at" members
  let expiresAt ← required Codec.nat "expires_at" members
  let metadata ← defaulted Codec.string.dict "metadata" [] members
  some { projectId, tenantId, apiKeyId, rateLimitRpm, issuedAt, expiresAt, metadata }

/-- The metadata are a `dict[str, str]`. -/
def PayloadFits (payload : TokenPayload) : Prop := (payload.metadata.map Prod.fst).Nodup

theorem readPayload_dumpPayload (payload : TokenPayload) :
    readPayload (dumpPayload payload) = some payload := by
  simp [readPayload, dumpPayload, required, defaulted, List.lookup_cons, Codec.decode_encode]

theorem wellFormed_dumpPayload {payload : TokenPayload} (fits : PayloadFits payload) :
    JsonText.WellFormed (.object (dumpPayload payload)) := by
  have metadata := Codec.string.dict.wellFormed payload.metadata ⟨fits, fun _ _ => trivial⟩
  exact ⟨by simp [dumpPayload], trivial, trivial, trivial, trivial, trivial, trivial, metadata,
    trivial⟩

def tokenPayload : Codec TokenPayload where
  encode payload := .object (dumpPayload payload)
  decode
    | .object members => readPayload members
    | _ => none
  Fits := PayloadFits
  wellFormed _ fits := wellFormed_dumpPayload fits
  decode_encode := readPayload_dumpPayload

/-! ## The keyspace -/

/-- Every Redis key once, with its text and its deadline. -/
abbrev Keyspace := ExpiringStore String String

namespace Keyspace

def projectCacheKey (projectId : String) : String := PREFIX_PROJECT_CACHE ++ ":" ++ projectId

def rateLimitKey (keyPrefix : String) (window : Nat) : String :=
  PREFIX_RATE_LIMIT ++ ":" ++ keyPrefix ++ ":" ++ toString window

def ephemeralTokenKey (rawToken : String) : String := PREFIX_EPHEMERAL_TOKEN ++ ":" ++ rawToken

/-- A text that cannot be parsed is evicted. -/
def getProjectConfig (keys : Keyspace) (now : Instant) (projectId : String) :
    Keyspace × Option Json :=
  match keys.get now (projectCacheKey projectId) with
  | none => (keys, none)
  | some raw =>
      match JsonText.loads raw with
      | some data => (keys, some data)
      | none => (AList.erase (projectCacheKey projectId) keys, none)

def setProjectConfig (keys : Keyspace) (now : Instant) (projectId : String) (data : Json)
    (ttl : Nat) : Keyspace :=
  keys.set now (projectCacheKey projectId) (JsonText.dumps JsonText.spaced data) ttl

def invalidateProjectConfig (keys : Keyspace) (projectId : String) : Keyspace :=
  AList.erase (projectCacheKey projectId) keys

/-- The integer that a text holds, for `INCR`. -/
def parseCounter (text : String) : Option Nat :=
  if text.toList ≠ [] ∧ text.toList.all Char.isDigit = true then
    some (Nat.ofDigitChars 10 text.toList 0)
  else none

/-- The text after `INCR`. -/
def increment (text : String) : String := toString ((parseCounter text).getD 0 + 1)

/-- `INCR`, with the counter after it; a text that is no integer is an error. -/
def incr (keys : Keyspace) (now : Instant) (keyPrefix : String) (window : Nat) :
    Option (Keyspace × Nat) :=
  (parseCounter ((keys.get now (rateLimitKey keyPrefix window)).getD "0")).map fun count =>
    (keys.update now (rateLimitKey keyPrefix window) "0" increment, count + 1)

def expire (keys : Keyspace) (now : Instant) (keyPrefix : String) (window windowS : Nat) :
    Keyspace :=
  ExpiringStore.expire keys now (rateLimitKey keyPrefix window) (windowS * 2 * SECOND)

def createEphemeralToken (keys : Keyspace) (now : Instant) (rawToken : String)
    (payload : TokenPayload) (ttl : Nat) : Keyspace :=
  keys.set now (ephemeralTokenKey rawToken) (tokenPayload.text payload)
    (Redis.clampTtl ttl * SECOND)

/-- A text that cannot be parsed is discarded. -/
def redeemEphemeralToken (keys : Keyspace) (now : Instant) (rawToken : String) :
    Keyspace × Option Json :=
  let (keys, raw) := keys.take now (ephemeralTokenKey rawToken)
  (keys, raw.bind JsonText.loads)

def peekEphemeralToken (keys : Keyspace) (now : Instant) (rawToken : String) : Option Json :=
  (keys.get now (ephemeralTokenKey rawToken)).bind JsonText.loads

def getEphemeralTokenTtl (keys : Keyspace) (now : Instant) (rawToken : String) : Int :=
  match keys.remaining now (ephemeralTokenKey rawToken) with
  | none => -2
  | some left => ((left / 1000000 + 500) / 1000 : Nat)

/-! ## The three families of keys -/

theorem projectCacheKey_injective : Function.Injective projectCacheKey := by
  intro left right same
  have chars := congrArg String.toList same
  simp only [projectCacheKey, String.toList_append, List.append_assoc, List.append_cancel_left_eq]
    at chars
  exact String.toList_inj.mp chars

theorem ephemeralTokenKey_injective : Function.Injective ephemeralTokenKey := by
  intro left right same
  have chars := congrArg String.toList same
  simp only [ephemeralTokenKey, String.toList_append, List.append_assoc,
    List.append_cancel_left_eq] at chars
  exact String.toList_inj.mp chars

/-- A text is cut at its last separator in one way. -/
theorem cut_unique {separator : Char} {front front' back back' : List Char}
    (same : front ++ separator :: back = front' ++ separator :: back')
    (none : separator ∉ back) (none' : separator ∉ back') : front = front' ∧ back = back' := by
  rcases List.append_eq_append_iff.mp same with ⟨gap, rfl, rest⟩ | ⟨gap, rfl, rest⟩
  · cases gap with
    | nil => simpa using rest
    | cons head tail =>
        obtain ⟨_, rfl⟩ := List.cons.inj rest
        simp at none
  · cases gap with
    | nil => simpa using rest.symm
    | cons head tail =>
        obtain ⟨_, rfl⟩ := List.cons.inj rest
        simp at none'

theorem colon_notMem_toString (number : Nat) : ':' ∉ (toString number).toList := by
  intro member
  have digits : (toString number).toList = Nat.toDigits 10 number := Nat.toList_repr
  rw [digits] at member
  cases Nat.isDigit_of_mem_toDigits (by decide) (by decide) member

/-- The window is what comes after the last colon, whatever the prefix. -/
theorem rateLimitKey_injective :
    Function.Injective fun key : String × Nat => rateLimitKey key.1 key.2 := by
  rintro ⟨left, window⟩ ⟨right, window'⟩ same
  have chars := congrArg String.toList same
  simp only [rateLimitKey, String.toList_append, List.append_assoc, List.append_cancel_left_eq]
    at chars
  have colon : (":" : String).toList = [':'] := rfl
  rw [colon, List.singleton_append, List.singleton_append] at chars
  obtain ⟨prefixes, windows⟩ := cut_unique chars (colon_notMem_toString window)
    (colon_notMem_toString window')
  have numbers : Nat.toDigits 10 window = Nat.toDigits 10 window' := by
    rw [← Nat.toList_repr, ← Nat.toList_repr]
    exact windows
  have equal : window = window' := by
    rw [← Nat.ofDigitChars_ten_toDigits (n := window), numbers, Nat.ofDigitChars_ten_toDigits]
  rw [String.toList_inj.mp prefixes, equal]

end Keyspace

end LiveChat.Db
