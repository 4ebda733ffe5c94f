import Mathlib.Data.List.AList

/-!
# A key-value store whose keys expire

A key may carry a deadline, from which on it is absent for every command.  A command that
finds a key absent is not told whether the key was never set, was deleted or expired, and
no command removes an expired key.
-/

set_option autoImplicit false

namespace LiveChat.Foundation

universe u v
variable {Key : Type u} {Value : Type v}

/-- A value, with the deadline of its key; a key without one stays. -/
structure Entry (Value : Type v) where
  value : Value
  expiresAt : Option Nat := none
  deriving DecidableEq

def Entry.IsLive (entry : Entry Value) (now : Nat) : Prop :=
  ∀ deadline ∈ entry.expiresAt, now < deadline

instance (entry : Entry Value) (now : Nat) : Decidable (entry.IsLive now) :=
  inferInstanceAs (Decidable (∀ deadline ∈ entry.expiresAt, now < deadline))

/-- Every key once, the live and the expired ones. -/
abbrev ExpiringStore (Key : Type u) (Value : Type v) := AList fun _ : Key => Entry Value

namespace ExpiringStore

def liveKeys (store : ExpiringStore Key Value) (now : Nat) : List Key :=
  (store.entries.filter fun entry => decide (entry.2.IsLive now)).map Sigma.fst

theorem liveKeys_sublist (store : ExpiringStore Key Value) (now : Nat) :
    (store.liveKeys now).Sublist store.keys :=
  List.filter_sublist.map Sigma.fst

variable [DecidableEq Key]

def get (store : ExpiringStore Key Value) (now : Nat) (key : Key) : Option Value :=
  match store.lookup key with
  | none => none
  | some entry => if entry.IsLive now then some entry.value else none

/-- The value replaces the old one, and its deadline too. -/
def set (store : ExpiringStore Key Value) (now : Nat) (key : Key) (value : Value) (ttl : Nat) :
    ExpiringStore Key Value :=
  store.insert key ⟨value, some (now + ttl)⟩

/-- Read and delete in one command. -/
def take (store : ExpiringStore Key Value) (now : Nat) (key : Key) :
    ExpiringStore Key Value × Option Value :=
  match store.get now key with
  | none => (store, none)
  | some value => (store.erase key, some value)

/-- The time that a live key with a deadline has left. -/
def remaining (store : ExpiringStore Key Value) (now : Nat) (key : Key) : Option Nat :=
  match store.lookup key with
  | none => none
  | some entry =>
      if entry.IsLive now then entry.expiresAt.map fun deadline => deadline - now else none

/-- A live key keeps its deadline; an absent one starts from `start`, without a deadline. -/
def update (store : ExpiringStore Key Value) (now : Nat) (key : Key) (start : Value)
    (change : Value → Value) : ExpiringStore Key Value :=
  match store.lookup key with
  | none => store.insert key ⟨change start, none⟩
  | some entry =>
      if entry.IsLive now then store.insert key ⟨change entry.value, entry.expiresAt⟩
      else store.insert key ⟨change start, none⟩

/-- A deadline for a live key. -/
def expire (store : ExpiringStore Key Value) (now : Nat) (key : Key) (ttl : Nat) :
    ExpiringStore Key Value :=
  match store.get now key with
  | none => store
  | some value => store.insert key ⟨value, some (now + ttl)⟩

/-! ## Reading -/

theorem get_eq_some {store : ExpiringStore Key Value} {now : Nat} {key : Key} {value : Value} :
    store.get now key = some value ↔
      ∃ entry, store.lookup key = some entry ∧ entry.IsLive now ∧ entry.value = value := by
  unfold get
  split
  · rename_i absent
    constructor
    · intro found
      cases found
    · rintro ⟨entry, found, _⟩
      cases absent.symm.trans found
  · rename_i entry found
    rw [Option.ite_none_right_eq_some, Option.some.injEq]
    constructor
    · rintro ⟨live, same⟩
      exact ⟨entry, found, live, same⟩
    · rintro ⟨other, found', live, same⟩
      cases found.symm.trans found'
      exact ⟨live, same⟩

/-! ## Taking -/

/-- A command that takes a value removes its key; one that does not leaves the store. -/
theorem take_cases (store : ExpiringStore Key Value) (now : Nat) (key : Key) :
    (store.get now key = none ∧ store.take now key = (store, none)) ∨
      ∃ value, store.get now key = some value ∧
        store.take now key = (store.erase key, some value) := by
  unfold take
  cases found : store.get now key with
  | none => exact Or.inl ⟨rfl, rfl⟩
  | some value => exact Or.inr ⟨value, rfl, rfl⟩

theorem keys_of_get {store : ExpiringStore Key Value} {now : Nat} {key : Key} {value : Value}
    (found : store.get now key = some value) :
    store.keys.Perm (key :: (store.erase key).keys) := by
  obtain ⟨entry, listed, _⟩ := get_eq_some.mp found
  have member : key ∈ store.keys := AList.lookup_isSome.mp (by rw [listed]; rfl)
  rw [AList.keys_erase]
  exact List.perm_cons_erase member

/-! ## Setting -/

theorem lookup_set {store : ExpiringStore Key Value} {now ttl : Nat} {key other : Key}
    {value : Value} {entry : Entry Value}
    (found : (store.set now key value ttl).lookup other = some entry) :
    (other = key ∧ entry = ⟨value, some (now + ttl)⟩) ∨ store.lookup other = some entry := by
  by_cases here : other = key
  · subst here
    rw [set, AList.lookup_insert] at found
    exact Or.inl ⟨rfl, (Option.some.inj found).symm⟩
  · rw [set, AList.lookup_insert_ne here] at found
    exact Or.inr found

theorem keys_set_of_fresh {store : ExpiringStore Key Value} {key : Key} (fresh : key ∉ store.keys)
    (now : Nat) (value : Value) (ttl : Nat) :
    (store.set now key value ttl).keys = key :: store.keys := by
  rw [set, AList.keys_insert, List.erase_of_not_mem fresh]

/-! ## Changing -/

/-- What a change leaves under the key, from what was there. -/
def updated (now : Nat) (start : Value) (change : Value → Value) :
    Option (Entry Value) → Entry Value
  | none => ⟨change start, none⟩
  | some entry => if entry.IsLive now then ⟨change entry.value, entry.expiresAt⟩
      else ⟨change start, none⟩

theorem update_eq (store : ExpiringStore Key Value) (now : Nat) (key : Key) (start : Value)
    (change : Value → Value) :
    store.update now key start change =
      store.insert key (updated now start change (store.lookup key)) := by
  unfold update
  cases found : store.lookup key with
  | none => rfl
  | some entry =>
      by_cases live : entry.IsLive now
      · simp only [updated, if_pos live]
      · simp only [updated, if_neg live]

theorem lookup_update (store : ExpiringStore Key Value) (now : Nat) (key : Key) (start : Value)
    (change : Value → Value) :
    (store.update now key start change).lookup key =
      some (updated now start change (store.lookup key)) := by
  rw [update_eq, AList.lookup_insert]

theorem lookup_update_ne (store : ExpiringStore Key Value) (now : Nat) {key other : Key}
    (differs : other ≠ key) (start : Value) (change : Value → Value) :
    (store.update now key start change).lookup other = store.lookup other := by
  rw [update_eq, AList.lookup_insert_ne differs]

theorem get_update (store : ExpiringStore Key Value) (now : Nat) (key : Key) (start : Value)
    (change : Value → Value) :
    (store.update now key start change).get now key =
      some (change ((store.get now key).getD start)) := by
  refine get_eq_some.mpr ⟨_, lookup_update store now key start change, ?_, ?_⟩
  · cases found : store.lookup key with
    | none =>
        intro deadline listed
        cases listed
    | some entry =>
        by_cases live : entry.IsLive now
        · rw [updated, if_pos live]
          exact live
        · rw [updated, if_neg live]
          intro deadline listed
          cases listed
  · unfold get
    cases found : store.lookup key with
    | none => rfl
    | some entry =>
        by_cases live : entry.IsLive now
        · simp only [updated, if_pos live, Option.getD_some]
        · simp only [updated, if_neg live, Option.getD_none]

theorem lookup_expire (store : ExpiringStore Key Value) (now : Nat) (key : Key) (ttl : Nat) :
    (store.expire now key ttl).lookup key = (store.lookup key).map fun entry =>
      if entry.IsLive now then ⟨entry.value, some (now + ttl)⟩ else entry := by
  unfold expire get
  cases found : store.lookup key with
  | none => exact found
  | some entry =>
      by_cases live : entry.IsLive now
      · simp only [if_pos live, AList.lookup_insert, Option.map_some]
      · simp only [if_neg live, found, Option.map_some]

theorem lookup_expire_ne (store : ExpiringStore Key Value) (now : Nat) {key other : Key}
    (differs : other ≠ key) (ttl : Nat) :
    (store.expire now key ttl).lookup other = store.lookup other := by
  unfold expire
  split
  · rfl
  · rw [AList.lookup_insert_ne differs]

theorem get_expire (store : ExpiringStore Key Value) (now : Nat) (key : Key) {ttl : Nat}
    (positive : 0 < ttl) : (store.expire now key ttl).get now key = store.get now key := by
  unfold expire
  cases found : store.get now key with
  | none => exact found
  | some value =>
      refine get_eq_some.mpr ⟨_, AList.lookup_insert _, ?_, rfl⟩
      intro deadline listed
      cases listed
      exact Nat.lt_add_of_pos_right positive

/-- Two stores that agree on a key agree on it after the same command. -/
theorem get_congr {store other : ExpiringStore Key Value} {key : Key}
    (same : store.lookup key = other.lookup key) (now : Nat) :
    store.get now key = other.get now key := by
  unfold get
  rw [same]

theorem lookup_expire_congr {store other : ExpiringStore Key Value} {key : Key}
    (same : store.lookup key = other.lookup key) (now ttl : Nat) :
    (store.expire now key ttl).lookup key = (other.expire now key ttl).lookup key := by
  unfold expire
  rw [get_congr same]
  split
  · exact same
  · rw [AList.lookup_insert, AList.lookup_insert]

end ExpiringStore

end LiveChat.Foundation
