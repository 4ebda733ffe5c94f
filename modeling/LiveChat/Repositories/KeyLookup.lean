import LiveChat.Repositories.APIKeyRepo

/-!
# Looking up an API key

`get_by_raw_key` over a collection of keys that `create` made, with `last_used_at` and with the
dates as Python has them: PyMongo returns a stored date without a time zone, and the order of
such a date and the present, which has one, raises.
-/

set_option autoImplicit false

namespace LiveChat.Repositories.KeyLookup

open LiveChat.Core
open LiveChat.Repositories.APIKeyRepo
open LiveChat.Repositories.AuthTokenRepo (PasswordHasher plainHasher)
open LiveChat.Repositories.ProjectRepo (storedDate)

/-- A `datetime`, with or without a time zone. -/
structure Datetime where
  instant : Instant
  aware : Bool
  deriving DecidableEq, Repr

namespace Datetime

/-- What PyMongo returns for a stored date, with its default `tz_aware`. -/
def ofStored (instant : Instant) : Datetime := ⟨instant, false⟩

def utc (now : Instant) : Datetime := ⟨now, true⟩

def lt (first second : Datetime) : Except TypeError Bool :=
  if first.aware = second.aware then .ok (decide (first.instant < second.instant))
  else .error {}

/-- A stored date and the present have no order. -/
theorem lt_utc (expiresAt now : Instant) : (ofStored expiresAt).lt (utc now) = .error {} := rfl

end Datetime

structure StoredKey extends APIKeyDoc where
  lastUsedAt : Option Instant := none
  deriving DecidableEq

namespace StoredKey

def isValid (key : StoredKey) (now : Instant) : Except TypeError Bool :=
  if key.revoked then .ok false
  else
    match key.expiresAt with
    | none => .ok true
    | some expiresAt => do
        let expired ← (Datetime.ofStored expiresAt).lt (.utc now)
        return !expired

theorem isValid_eq (key : StoredKey) (now : Instant) :
    key.isValid now = APIKeyRepo.isValid key.toAPIKeyDoc := by
  unfold isValid APIKeyRepo.isValid
  split
  · rfl
  · cases key.expiresAt with
    | none => rfl
    | some expiresAt =>
        simp only [Datetime.lt_utc]
        rfl

def Expired (key : StoredKey) (now : Instant) : Prop :=
  ∃ expiresAt, key.expiresAt = some expiresAt ∧ expiresAt < now

end StoredKey

/-! ## The lookup -/

/-- `{"key_prefix": prefix, "revoked": False}`. -/
def active (keyPrefix : String) (key : StoredKey) : Bool :=
  key.keyPrefix == keyPrefix && !key.revoked

/-- The loop over the candidates. -/
def scan (hasher : PasswordHasher) (rawKey : String) (now : Instant) :
    List StoredKey → Except TypeError (Option StoredKey)
  | [] => .ok none
  | doc :: rest =>
      if hasher.verify doc.keyHash rawKey then do
        let valid ← doc.isValid now
        return if valid then some doc else none
      else scan hasher rawKey now rest

def touchLastUsed (apiKeys : List StoredKey) (keyId : String) (now : Instant) : List StoredKey :=
  apiKeys.map fun key =>
    if key.id = keyId then { key with lastUsedAt := some (storedDate now) } else key

structure Lookup where
  answer : Except TypeError (Option StoredKey)
  /-- The collection afterwards. -/
  apiKeys : List StoredKey

/-- The cursor yields the documents in the order of the list; `now` is read for the expiry, and
`touchedAt` for `last_used_at`. -/
def getByRawKey (hasher : PasswordHasher) (apiKeys : List StoredKey) (rawKey : String)
    (now touchedAt : Instant) : Lookup :=
  if rawKey = "" then ⟨.ok none, apiKeys⟩
  else
    match scan hasher rawKey now (apiKeys.filter (active (keyPrefix rawKey))) with
    | .error raised => ⟨.error raised, apiKeys⟩
    | .ok none => ⟨.ok none, apiKeys⟩
    | .ok (some doc) => ⟨.ok (some doc), touchLastUsed apiKeys doc.id touchedAt⟩

/-! ## Collections of issued keys -/

/-- A document that `create` inserted for a raw key, with what has been set in it since. -/
structure IssuedKey (hasher : PasswordHasher) where
  doc : StoredKey
  /-- The random characters of the raw key, and the salt of its hash. -/
  body : String
  salt : String
  keyPrefix_eq : doc.keyPrefix = keyPrefix (generateRawKey doc.keyType body)
  keyHash_eq : doc.keyHash = hasher.hash salt (generateRawKey doc.keyType body)

variable {hasher : PasswordHasher}

namespace IssuedKey

def rawKey (key : IssuedKey hasher) : String := generateRawKey key.doc.keyType key.body

def create (hasher : PasswordHasher) (projectId tenantId label : String) (keyType : KeyType)
    (rateLimitRpm : Int) (random : Random) : IssuedKey hasher where
  doc := { (newKey hasher projectId tenantId label keyType rateLimitRpm random).1 with }
  body := random.body
  salt := random.salt
  keyPrefix_eq := rfl
  keyHash_eq := rfl

theorem rawKey_create (hasher : PasswordHasher) (projectId tenantId label : String)
    (keyType : KeyType) (rateLimitRpm : Int) (random : Random) :
    (create hasher projectId tenantId label keyType rateLimitRpm random).rawKey =
      (newKey hasher projectId tenantId label keyType rateLimitRpm random).2 := rfl

end IssuedKey

/-- The `api_keys` collection: raw keys are distinct, and so are the `_id`s. -/
structure KeyCollection (hasher : PasswordHasher) where
  issued : List (IssuedKey hasher)
  distinct : (issued.map IssuedKey.rawKey).Nodup
  identified : (issued.map fun key => key.doc.id).Nodup

namespace KeyCollection

def docs (collection : KeyCollection hasher) : List StoredKey :=
  collection.issued.map IssuedKey.doc

/-- The document was created from the raw key and is not revoked. -/
def Issued (collection : KeyCollection hasher) (rawKey : String) (doc : StoredKey) : Prop :=
  ∃ key ∈ collection.issued, key.doc = doc ∧ key.rawKey = rawKey ∧ doc.revoked = false

end KeyCollection

/-- The lookup returns the key that was created from the raw key, unless that is revoked or
expired, raises nothing, and changes `last_used_at` of what it returns only. -/
structure LookupExact (collection : KeyCollection hasher) (rawKey : String)
    (now touchedAt : Instant) : Prop where
  answered : ∃ found,
    (getByRawKey hasher collection.docs rawKey now touchedAt).answer = .ok found ∧
      ∀ doc, found = some doc ↔ collection.Issued rawKey doc ∧ ¬ doc.Expired now
  unchanged : List.Forall₂
    (fun before after => after = before ∨
      (getByRawKey hasher collection.docs rawKey now touchedAt).answer = .ok (some before) ∧
        ∃ lastUsedAt, after = { before with lastUsedAt := lastUsedAt })
    collection.docs (getByRawKey hasher collection.docs rawKey now touchedAt).apiKeys

/-! ## The loop -/

theorem scan_eq (hasher : PasswordHasher) (rawKey : String) (now : Instant)
    (candidates : List StoredKey) :
    scan hasher rawKey now candidates =
      match candidates.find? fun doc => hasher.verify doc.keyHash rawKey with
      | none => .ok none
      | some doc => (doc.isValid now).map fun valid => if valid then some doc else none := by
  induction candidates with
  | nil => rfl
  | cons doc rest ih =>
      simp only [scan, List.find?_cons]
      cases hasher.verify doc.keyHash rawKey with
      | true =>
          rw [if_pos rfl]
          cases validity : doc.isValid now with
          | error raised =>
              simp only [validity]
              rfl
          | ok valid =>
              simp only [validity]
              rfl
      | false => exact ih

theorem generateRawKey_ne_empty (keyType : KeyType) (body : String) :
    generateRawKey keyType body ≠ "" := by
  intro empty
  have length := congrArg String.length empty
  cases keyType with
  | publishable => simp [generateRawKey] at length
  | secret => simp [generateRawKey] at length

namespace IssuedKey

theorem rawKey_ne_empty (key : IssuedKey hasher) : key.rawKey ≠ "" :=
  generateRawKey_ne_empty _ _

theorem verify_iff (key : IssuedKey hasher) (rawKey : String) :
    hasher.verify key.doc.keyHash rawKey = true ↔ key.rawKey = rawKey := by
  rw [key.keyHash_eq, hasher.verify_hash]
  exact eq_comm

end IssuedKey

namespace KeyCollection

def verified (collection : KeyCollection hasher) (rawKey : String) : Option StoredKey :=
  (collection.docs.filter (active (keyPrefix rawKey))).find? fun doc =>
    hasher.verify doc.keyHash rawKey

/-- At most one document was created from a raw key. -/
theorem Issued.unique {collection : KeyCollection hasher} {rawKey : String}
    {doc other : StoredKey} (first : collection.Issued rawKey doc)
    (second : collection.Issued rawKey other) : doc = other := by
  obtain ⟨key, listed, rfl, raw, _⟩ := first
  obtain ⟨twin, among, rfl, same, _⟩ := second
  rw [List.inj_on_of_nodup_map collection.distinct listed among (raw.trans same.symm)]

theorem Issued.of_candidate {collection : KeyCollection hasher} {rawKey : String}
    {doc : StoredKey} (candidate : doc ∈ collection.docs.filter (active (keyPrefix rawKey)))
    (verifies : hasher.verify doc.keyHash rawKey = true) : collection.Issued rawKey doc := by
  obtain ⟨listed, isActive⟩ := List.mem_filter.mp candidate
  obtain ⟨key, among, rfl⟩ := List.mem_map.mp listed
  simp only [active, Bool.and_eq_true, Bool.not_eq_true'] at isActive
  exact ⟨key, among, rfl, (key.verify_iff rawKey).mp verifies, isActive.2⟩

theorem Issued.candidate {collection : KeyCollection hasher} {rawKey : String} {doc : StoredKey}
    (issued : collection.Issued rawKey doc) :
    doc ∈ collection.docs.filter (active (keyPrefix rawKey)) ∧
      hasher.verify doc.keyHash rawKey = true := by
  obtain ⟨key, among, rfl, rfl, live⟩ := issued
  refine ⟨List.mem_filter.mpr ⟨List.mem_map_of_mem among, ?_⟩, (key.verify_iff _).mpr rfl⟩
  have samePrefix : key.doc.keyPrefix = keyPrefix key.rawKey := key.keyPrefix_eq
  simp [active, samePrefix, live]

theorem verified_issued (collection : KeyCollection hasher) {rawKey : String} {doc : StoredKey}
    (found : collection.verified rawKey = some doc) : collection.Issued rawKey doc := by
  unfold verified at found
  have verifies := List.find?_some found
  exact .of_candidate (List.mem_of_find?_eq_some found) verifies

theorem verified_iff (collection : KeyCollection hasher) (rawKey : String) (doc : StoredKey) :
    collection.verified rawKey = some doc ↔ collection.Issued rawKey doc := by
  constructor
  · exact collection.verified_issued
  · intro issued
    obtain ⟨candidate, verifies⟩ := issued.candidate
    cases found : collection.verified rawKey with
    | none => exact absurd verifies (List.find?_eq_none.mp found doc candidate)
    | some other => rw [(collection.verified_issued found).unique issued]

theorem scan_docs (collection : KeyCollection hasher) (rawKey : String) (now : Instant) :
    scan hasher rawKey now (collection.docs.filter (active (keyPrefix rawKey))) =
      match collection.verified rawKey with
      | none => .ok none
      | some doc => if doc.expiresAt.isSome then .error {} else .ok (some doc) := by
  refine (scan_eq hasher rawKey now _).trans ?_
  change (match collection.verified rawKey with
    | none => Except.ok none
    | some doc => (doc.isValid now).map fun valid : Bool => if valid then some doc else none) = _
  cases found : collection.verified rawKey with
  | none => rfl
  | some doc =>
      obtain ⟨key, _, _, _, live⟩ := collection.verified_issued found
      simp only [StoredKey.isValid, live]
      cases doc.expiresAt with
      | none => rfl
      | some expiresAt => rfl

theorem getByRawKey_eq (collection : KeyCollection hasher) (rawKey : String)
    (now touchedAt : Instant) :
    getByRawKey hasher collection.docs rawKey now touchedAt =
      match collection.verified rawKey with
      | none => ⟨.ok none, collection.docs⟩
      | some doc =>
          if doc.expiresAt.isSome then ⟨.error {}, collection.docs⟩
          else ⟨.ok (some doc), touchLastUsed collection.docs doc.id touchedAt⟩ := by
  by_cases empty : rawKey = ""
  · have absent : collection.verified rawKey = none := by
      refine Option.eq_none_iff_forall_ne_some.mpr fun doc found => ?_
      obtain ⟨key, _, _, raw, _⟩ := collection.verified_issued found
      exact key.rawKey_ne_empty (raw.trans empty)
    simp only [getByRawKey, if_pos empty, absent]
  · simp only [getByRawKey, if_neg empty, scan_docs]
    cases collection.verified rawKey with
    | none => rfl
    | some doc =>
        by_cases dated : doc.expiresAt.isSome = true
        · simp only [if_pos dated]
        · simp only [if_neg dated]

theorem touchLastUsed_docs {collection : KeyCollection hasher} {doc : StoredKey}
    (listed : doc ∈ collection.docs) (now : Instant) :
    List.Forall₂ (fun before after => after = before ∨
        before = doc ∧ ∃ lastUsedAt, after = { before with lastUsedAt := lastUsedAt })
      collection.docs (touchLastUsed collection.docs doc.id now) := by
  refine List.forall₂_map_right_iff.mpr (List.forall₂_same.mpr fun before among => ?_)
  by_cases same : before.id = doc.id
  · obtain ⟨key, ofKey, rfl⟩ := List.mem_map.mp listed
    obtain ⟨twin, ofTwin, rfl⟩ := List.mem_map.mp among
    rw [if_pos same, List.inj_on_of_nodup_map collection.identified ofTwin ofKey same]
    exact Or.inr ⟨rfl, _, rfl⟩
  · exact Or.inl (if_neg same)

end KeyCollection

/-! ## Exactness -/

/-- The key that was created from the raw key is revoked, or has no expiry date. -/
def Dateless (collection : KeyCollection hasher) (rawKey : String) : Prop :=
  ∀ key ∈ collection.issued, key.rawKey = rawKey → key.doc.revoked = false →
    key.doc.expiresAt = none

/-- The lookup is exact, unless the key has an expiry date: then it raises, whether the date is
past or to come. -/
theorem lookupExact_iff (collection : KeyCollection hasher) (rawKey : String)
    (now touchedAt : Instant) :
    LookupExact collection rawKey now touchedAt ↔ Dateless collection rawKey := by
  constructor
  · intro exact key listed raw live
    obtain ⟨found, answer, _⟩ := exact.answered
    have issued : collection.Issued rawKey key.doc := ⟨key, listed, rfl, raw, live⟩
    rw [collection.getByRawKey_eq, (collection.verified_iff rawKey _).mpr issued] at answer
    cases dated : key.doc.expiresAt with
    | none => rfl
    | some expiresAt =>
        simp only [dated, Option.isSome_some, if_true] at answer
        cases answer
  · intro dateless
    have outcome := collection.getByRawKey_eq rawKey now touchedAt
    cases found : collection.verified rawKey with
    | none =>
        rw [found] at outcome
        refine ⟨⟨none, by rw [outcome], fun doc => ?_⟩, ?_⟩
        · refine iff_of_false (fun same => by cases same) fun both => ?_
          cases found.symm.trans ((collection.verified_iff rawKey doc).mpr both.1)
        · rw [outcome]
          exact List.forall₂_same.mpr fun doc _ => Or.inl rfl
    | some doc =>
        have issued := collection.verified_issued found
        obtain ⟨key, listed, rfl, raw, live⟩ := issued
        have ageless := dateless key listed raw live
        simp only [found, ageless, Option.isSome_none, Bool.false_eq_true, if_false] at outcome
        refine ⟨⟨some key.doc, by rw [outcome], fun doc => ?_⟩, ?_⟩
        · rw [← found, collection.verified_iff]
          refine (and_iff_left_of_imp fun issued => ?_).symm
          rintro ⟨expiresAt, dated, _⟩
          obtain ⟨other, among, rfl, same, fresh⟩ := issued
          cases (dateless other among same fresh).symm.trans dated
        · rw [outcome]
          refine (KeyCollection.touchLastUsed_docs (List.mem_map_of_mem listed) touchedAt).imp ?_
          rintro before after (same | ⟨rfl, changed⟩)
          · exact Or.inl same
          · exact Or.inr ⟨rfl, changed⟩

def datedKey (expiresAt : Instant) : KeyCollection plainHasher where
  issued :=
    let created := IssuedKey.create plainHasher "project" "tenant" "Default key" .publishable 60
      ⟨"Xy7mQ3rN9vP2kLsT8wA6bD4cJhFe1GuZ", "salt", "key"⟩
    [{ created with doc := { created.doc with expiresAt := some expiresAt } }]
  distinct := List.nodup_singleton _
  identified := List.nodup_singleton _

/-- With a date that has passed the lookup raises instead of returning `None`, and with one to
come it raises instead of returning the key. -/
theorem lookup_datedKey :
    ¬ LookupExact (datedKey 1000000000) "pk_live_Xy7mQ3rN9vP2kLsT8wA6bD4cJhFe1GuZ" 2000000000
        2000000000 ∧
      ¬ LookupExact (datedKey 3000000000) "pk_live_Xy7mQ3rN9vP2kLsT8wA6bD4cJhFe1GuZ" 2000000000
        2000000000 := by
  have raises : ∀ expiresAt, (getByRawKey plainHasher (datedKey expiresAt).docs
      "pk_live_Xy7mQ3rN9vP2kLsT8wA6bD4cJhFe1GuZ" 2000000000 2000000000).answer = .error {} :=
    fun _ => rfl
  constructor
  · rintro ⟨⟨found, answer, _⟩, _⟩
    cases (raises _).symm.trans answer
  · rintro ⟨⟨found, answer, _⟩, _⟩
    cases (raises _).symm.trans answer

/-! ## The lookup without `last_used_at` -/

theorem find?_docs (hasher : PasswordHasher) (apiKeys : List StoredKey) (rawKey : String) :
    ((apiKeys.filter (active (keyPrefix rawKey))).find? fun doc =>
        hasher.verify doc.keyHash rawKey).map StoredKey.toAPIKeyDoc =
      findVerified hasher (apiKeys.map StoredKey.toAPIKeyDoc) rawKey := by
  rw [findVerified, List.find?_map, List.find?_filter]
  refine congrArg _ (congrArg (List.find? · apiKeys) (funext fun doc => ?_))
  rw [Bool.eq_iff_iff]
  simp [active]

/-- The lookup of the other modules is this one, up to `last_used_at`. -/
theorem getByRawKey_answer (hasher : PasswordHasher) (apiKeys : List StoredKey) (rawKey : String)
    (now touchedAt : Instant) :
    (getByRawKey hasher apiKeys rawKey now touchedAt).answer.map
        (Option.map StoredKey.toAPIKeyDoc) =
      APIKeyRepo.getByRawKey hasher (apiKeys.map StoredKey.toAPIKeyDoc) rawKey := by
  by_cases empty : rawKey = ""
  · simp only [getByRawKey, APIKeyRepo.getByRawKey, if_pos empty]
    rfl
  · simp only [getByRawKey, APIKeyRepo.getByRawKey, if_neg empty, scan_eq, ← find?_docs]
    cases found : (apiKeys.filter (active (keyPrefix rawKey))).find? fun doc =>
        hasher.verify doc.keyHash rawKey with
    | none => rfl
    | some doc =>
        simp only [Option.map_some, StoredKey.isValid_eq]
        cases APIKeyRepo.isValid doc.toAPIKeyDoc with
        | error raised => rfl
        | ok valid =>
            cases valid with
            | true => rfl
            | false => rfl

end LiveChat.Repositories.KeyLookup
