import Mathlib.Data.List.Nodup
import LiveChat.Repositories.AuthTokenRepo
import LiveChat.Repositories.ProjectRepo

/-!
# API keys

`repositories/api_key_repo.py`: the `api_keys` collection as the list of its documents,
oldest first.  The argon2 hasher is a `PasswordHasher`.  `_touch_last_used` is part of
`KeyLookup`; nothing else reads `last_used_at`.
-/

set_option autoImplicit false

namespace LiveChat.Repositories.APIKeyRepo

open LiveChat.Core
open LiveChat.Repositories.AuthTokenRepo (PasswordHasher)
open LiveChat.Repositories.ProjectRepo (storedDate)

/-- What the random generators return for a new key: the 32 characters of its body, the
salt, and `uuid4()`. -/
structure Random where
  body : String
  salt : String
  id : String
  deriving DecidableEq, Repr

def generateRawKey (keyType : KeyType) (body : String) : String :=
  let typePrefix := match keyType with
    | .publishable => "pk"
    | .secret => "sk"
  typePrefix ++ "_live_" ++ body

/-- `raw_key[:12]`. -/
def keyPrefix (rawKey : String) : String := String.ofList (rawKey.toList.take 12)

/-- The document that `create` inserts, and the raw key. -/
def newKey (hasher : PasswordHasher) (projectId tenantId label : String) (keyType : KeyType)
    (rateLimitRpm : Int) (random : Random) : APIKeyDoc × String :=
  let rawKey := generateRawKey keyType random.body
  ({ id := random.id
     projectId := projectId
     tenantId := tenantId
     label := label
     keyPrefix := keyPrefix rawKey
     keyHash := hasher.hash random.salt rawKey
     keyType := keyType
     rateLimitRpm := rateLimitRpm }, rawKey)

/-- A comparison of a stored date, which has no time zone, with the present. -/
structure TypeError where
  message : String := "can't compare offset-naive and offset-aware datetimes"
  deriving DecidableEq, Repr

/-- The `is_valid` property of a document read from the collection. -/
def isValid (doc : APIKeyDoc) : Except TypeError Bool :=
  if doc.revoked then .ok false
  else if doc.expiresAt.isSome then .error {}
  else .ok true

/-- The first document with the prefix that is not revoked and whose hash verifies. -/
def findVerified (hasher : PasswordHasher) (apiKeys : List APIKeyDoc) (rawKey : String) :
    Option APIKeyDoc :=
  apiKeys.find? fun doc =>
    doc.keyPrefix == keyPrefix rawKey && !doc.revoked && hasher.verify doc.keyHash rawKey

def getByRawKey (hasher : PasswordHasher) (apiKeys : List APIKeyDoc) (rawKey : String) :
    Except TypeError (Option APIKeyDoc) :=
  if rawKey = "" then .ok none
  else
    match findVerified hasher apiKeys rawKey with
    | none => .ok none
    | some doc =>
        match isValid doc with
        | .error refusal => .error refusal
        | .ok valid => if valid then .ok (some doc) else .ok none

/-- `{"$set": {"revoked": True, "revoked_at": now}}`. -/
def markRevoked (now : Instant) (doc : APIKeyDoc) : APIKeyDoc :=
  { doc with revoked := true, revokedAt := some (storedDate now) }

def matchesKey (keyId tenantId : String) (doc : APIKeyDoc) : Bool :=
  doc.id == keyId && doc.tenantId == tenantId

/-- `revoke`: the collection after `update_one`, and whether a document was modified. -/
def revoke (apiKeys : List APIKeyDoc) (keyId tenantId : String) (now : Instant) :
    List APIKeyDoc × Bool :=
  match apiKeys.find? (matchesKey keyId tenantId) with
  | none => (apiKeys, false)
  | some doc =>
      if markRevoked now doc = doc then (apiKeys, false)
      else
        (apiKeys.map fun other =>
          if matchesKey keyId tenantId other then markRevoked now other else other, true)

/-! ## Lookups -/

theorem getByRawKey_some {hasher : PasswordHasher} {apiKeys : List APIKeyDoc} {rawKey : String}
    {doc : APIKeyDoc} (found : getByRawKey hasher apiKeys rawKey = .ok (some doc)) :
    doc ∈ apiKeys ∧ doc.revoked = false ∧ hasher.verify doc.keyHash rawKey = true := by
  simp only [getByRawKey] at found
  split at found
  · cases found
  · split at found
    · cases found
    · rename_i verified
      split at found
      · cases found
      · split at found
        · cases found
          have matched := List.find?_some verified
          simp only [Bool.and_eq_true, Bool.not_eq_true'] at matched
          exact ⟨List.mem_of_find?_eq_some verified, matched.1.2, matched.2⟩
        · cases found

/-- A document with an expiry date never comes back: the comparison of the date raises. -/
theorem getByRawKey_unexpired {hasher : PasswordHasher} {apiKeys : List APIKeyDoc}
    {rawKey : String} {doc : APIKeyDoc}
    (found : getByRawKey hasher apiKeys rawKey = .ok (some doc)) : doc.expiresAt = none := by
  simp only [getByRawKey] at found
  split at found
  · cases found
  · split at found
    · cases found
    · split at found
      · cases found
      · rename_i valid checked
        split at found
        · rename_i holds
          cases found
          unfold isValid at checked
          split at checked
          · cases checked
            cases holds
          · split at checked
            · cases checked
            · rename_i ageless
              exact Option.not_isSome_iff_eq_none.mp ageless
        · cases found

/-- The lookup raises one error only. -/
theorem getByRawKey_error {hasher : PasswordHasher} {apiKeys : List APIKeyDoc} {rawKey : String}
    {raised : TypeError} (failed : getByRawKey hasher apiKeys rawKey = .error raised) :
    raised = {} := by
  simp only [getByRawKey] at failed
  split at failed
  · cases failed
  · split at failed
    · cases failed
    · split at failed
      · rename_i checked
        cases failed
        unfold isValid at checked
        split at checked
        · cases checked
        · split at checked
          · cases checked
            rfl
          · cases checked
      · split at failed
        · cases failed
        · cases failed

/-- A document of the collection after a revocation, and where it was before. -/
theorem mem_revoke {apiKeys : List APIKeyDoc} {keyId tenantId : String} {now : Instant}
    {doc : APIKeyDoc} (member : doc ∈ (revoke apiKeys keyId tenantId now).1) :
    ∃ before ∈ apiKeys, doc = before ∨
      (matchesKey keyId tenantId before = true ∧ doc = markRevoked now before) := by
  unfold revoke at member
  split at member
  · exact ⟨doc, member, Or.inl rfl⟩
  · split at member
    · exact ⟨doc, member, Or.inl rfl⟩
    · obtain ⟨before, old, shape⟩ := List.mem_map.mp member
      refine ⟨before, old, ?_⟩
      by_cases hit : matchesKey keyId tenantId before = true
      · rw [if_pos hit] at shape
        exact Or.inr ⟨hit, shape.symm⟩
      · rw [if_neg hit] at shape
        exact Or.inl shape.symm

theorem revoke_ids (apiKeys : List APIKeyDoc) (keyId tenantId : String) (now : Instant) :
    (revoke apiKeys keyId tenantId now).1.map APIKeyDoc.id = apiKeys.map APIKeyDoc.id := by
  unfold revoke
  split
  · rfl
  · split
    · rfl
    · rw [List.map_map]
      apply List.map_congr_left
      intro doc _
      simp only [Function.comp_apply]
      split
      · rfl
      · rfl

/-- A revocation that modified a document: the key exists, and it is revoked. -/
theorem revoke_modified {apiKeys : List APIKeyDoc} {keyId tenantId : String} {now : Instant}
    (distinct : (apiKeys.map APIKeyDoc.id).Nodup)
    (modified : (revoke apiKeys keyId tenantId now).2 = true) :
    keyId ∈ apiKeys.map APIKeyDoc.id ∧
      ∀ doc ∈ (revoke apiKeys keyId tenantId now).1, doc.id = keyId → doc.revoked = true := by
  unfold revoke at modified ⊢
  split at modified
  · cases modified
  · rename_i target found
    have matched := List.find?_some found
    have member := List.mem_of_find?_eq_some found
    simp only [matchesKey, Bool.and_eq_true, beq_iff_eq] at matched
    refine ⟨List.mem_map.mpr ⟨target, member, matched.1⟩, ?_⟩
    split at modified
    · cases modified
    · rename_i changed
      rw [if_neg changed]
      intro doc listed same
      obtain ⟨before, old, rfl⟩ := List.mem_map.mp listed
      by_cases hit : matchesKey keyId tenantId before = true
      · rw [if_pos hit]
        rfl
      · rw [if_neg hit] at same
        -- no other document has the id
        have only : before = target :=
          List.inj_on_of_nodup_map distinct old member (same.trans matched.1.symm)
        rw [only] at hit
        exact absurd (by simp [matchesKey, matched]) hit

end LiveChat.Repositories.APIKeyRepo
