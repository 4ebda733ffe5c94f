import LiveChat.Foundation.ExpiringStore

/-!
# Tables that share one keyspace

A store of texts holds a table when every key of the table has a place in the store, with the
row of the key as its entry.  A command at the place of a key does to the store what it does to
the table, and one at any other place leaves the table alone; so tables whose places are apart
can share a store.
-/

set_option autoImplicit false

namespace LiveChat.Foundation.ExpiringStore

universe u v w x
variable {Key : Type u} {Place : Type v} {Row : Type w} {Value Text : Type x}
  [DecidableEq Key] [DecidableEq Place]

/-- The store holds the rows of the table at the places of their keys, and nothing else there. -/
def Holds (place : Key → Place) (entryOf : Row → Entry Text) (store : ExpiringStore Place Text)
    (table : AList fun _ : Key => Row) : Prop :=
  ∀ key, store.lookup (place key) = (table.lookup key).map entryOf

/-- No key of the table has this place. -/
def Apart (place : Key → Place) (other : Place) : Prop := ∀ key, place key ≠ other

/-- The same entry with another value. -/
def mapEntry (encode : Value → Text) (entry : Entry Value) : Entry Text :=
  ⟨encode entry.value, entry.expiresAt⟩

variable {place : Key → Place} {entryOf : Row → Entry Text} {store : ExpiringStore Place Text}
  {table : AList fun _ : Key => Row} {key : Key} {other : Place}

theorem holds_empty (place : Key → Place) (entryOf : Row → Entry Text) :
    Holds place entryOf (∅ : ExpiringStore Place Text) ∅ := by
  intro key
  simp

theorem Holds.insert (injective : Function.Injective place) (holds : Holds place entryOf store table)
    (key : Key) (row : Row) :
    Holds place entryOf (AList.insert (place key) (entryOf row) store) (table.insert key row) := by
  intro asked
  by_cases same : asked = key
  · subst same
    rw [AList.lookup_insert, AList.lookup_insert, Option.map_some]
  · rw [AList.lookup_insert_ne fun equal => same (injective equal), AList.lookup_insert_ne same]
    exact holds asked

theorem Holds.erase (injective : Function.Injective place) (holds : Holds place entryOf store table)
    (key : Key) : Holds place entryOf (AList.erase (place key) store) (table.erase key) := by
  intro asked
  by_cases same : asked = key
  · subst same
    rw [AList.lookup_erase, AList.lookup_erase, Option.map_none]
  · rw [AList.lookup_erase_ne fun equal => same (injective equal), AList.lookup_erase_ne same]
    exact holds asked

/-- An entry of another table. -/
theorem Holds.insert_apart (apart : Apart place other) (holds : Holds place entryOf store table)
    (entry : Entry Text) : Holds place entryOf (AList.insert other entry store) table := by
  intro asked
  rw [AList.lookup_insert_ne (apart asked)]
  exact holds asked

theorem Holds.erase_apart (apart : Apart place other) (holds : Holds place entryOf store table) :
    Holds place entryOf (AList.erase other store) table := by
  intro asked
  rw [AList.lookup_erase_ne (apart asked)]
  exact holds asked

/-- What a `GET` finds at the place of a key. -/
theorem Holds.get (holds : Holds place entryOf store table) (now : Nat) (key : Key) :
    store.get now (place key) = (table.lookup key).bind fun row =>
      if (entryOf row).IsLive now then some (entryOf row).value else none := by
  unfold ExpiringStore.get
  rw [holds key]
  cases table.lookup key <;> rfl

section Encoded
variable {encode : Value → Text} {part : ExpiringStore Key Value}

theorem Holds.get_map (holds : Holds place (mapEntry encode) store part) (now : Nat) (key : Key) :
    store.get now (place key) = (part.get now key).map encode := by
  rw [holds.get]
  unfold ExpiringStore.get
  cases part.lookup key with
  | none => rfl
  | some entry =>
      by_cases live : entry.IsLive now
      · have live' : (mapEntry encode entry).IsLive now := live
        simp only [Option.bind_some, if_pos live, if_pos live', Option.map_some]
        rfl
      · have dead : ¬ (mapEntry encode entry).IsLive now := live
        simp only [Option.bind_some, if_neg live, if_neg dead, Option.map_none]

theorem Holds.remaining (holds : Holds place (mapEntry encode) store part) (now : Nat)
    (key : Key) : store.remaining now (place key) = part.remaining now key := by
  unfold ExpiringStore.remaining
  rw [holds key]
  cases part.lookup key with
  | none => rfl
  | some entry => rfl

variable (injective : Function.Injective place)
include injective

theorem Holds.set (holds : Holds place (mapEntry encode) store part) (now : Nat) (key : Key)
    (value : Value) (ttl : Nat) :
    Holds place (mapEntry encode) (store.set now (place key) (encode value) ttl)
      (part.set now key value ttl) :=
  holds.insert injective key ⟨value, some (now + ttl)⟩

/-- The value that is taken from the table is taken from the store, as it is held there. -/
theorem Holds.take (holds : Holds place (mapEntry encode) store part) (now : Nat) (key : Key) :
    (store.take now (place key)).2 = (part.take now key).2.map encode ∧
      Holds place (mapEntry encode) (store.take now (place key)).1 (part.take now key).1 := by
  have found := holds.get_map now key
  rcases part.take_cases now key with ⟨absent, taken⟩ | ⟨value, live, taken⟩
  · rw [absent, Option.map_none] at found
    rcases store.take_cases now (place key) with ⟨_, taken'⟩ | ⟨text, live', _⟩
    · rw [taken, taken']
      exact ⟨rfl, holds⟩
    · cases found.symm.trans live'
  · rw [live, Option.map_some] at found
    rcases store.take_cases now (place key) with ⟨absent', _⟩ | ⟨text, live', taken'⟩
    · cases found.symm.trans absent'
    · cases found.symm.trans live'
      rw [taken, taken']
      exact ⟨rfl, holds.erase injective key⟩

/-- A change of the value that can be made on the text. -/
theorem Holds.update (holds : Holds place (mapEntry encode) store part) (now : Nat) (key : Key)
    (start : Value) {change : Value → Value} {changeText : Text → Text}
    (agrees : ∀ value, changeText (encode value) = encode (change value)) :
    Holds place (mapEntry encode) (store.update now (place key) (encode start) changeText)
      (part.update now key start change) := by
  rw [update_eq, update_eq, holds key]
  have entry : updated now (encode start) changeText ((part.lookup key).map (mapEntry encode)) =
      mapEntry encode (updated now start change (part.lookup key)) := by
    cases part.lookup key with
    | none => simp only [Option.map_none, updated, mapEntry, agrees]
    | some entry =>
        by_cases live : entry.IsLive now
        · have live' : (mapEntry encode entry).IsLive now := live
          simp only [Option.map_some, updated, if_pos live, if_pos live']
          simp only [mapEntry, agrees]
        · have dead : ¬ (mapEntry encode entry).IsLive now := live
          simp only [Option.map_some, updated, if_neg live, if_neg dead]
          simp only [mapEntry, agrees]
  rw [entry]
  exact holds.insert injective key _

theorem Holds.expire (holds : Holds place (mapEntry encode) store part) (now : Nat) (key : Key)
    (ttl : Nat) :
    Holds place (mapEntry encode) (store.expire now (place key) ttl) (part.expire now key ttl) := by
  have found := holds.get_map now key
  unfold ExpiringStore.expire
  rw [found]
  cases part.get now key with
  | none => exact holds
  | some value => exact holds.insert injective key ⟨value, some (now + ttl)⟩

end Encoded

/-! ## Commands elsewhere -/

section Elsewhere
variable (apart : Apart place other) (holds : Holds place entryOf store table)
include apart holds

theorem Holds.set_apart (now : Nat) (text : Text) (ttl : Nat) :
    Holds place entryOf (store.set now other text ttl) table :=
  holds.insert_apart apart _

theorem Holds.take_apart (now : Nat) : Holds place entryOf (store.take now other).1 table := by
  rcases store.take_cases now other with ⟨_, taken⟩ | ⟨_, _, taken⟩
  · rw [taken]
    exact holds
  · rw [taken]
    exact holds.erase_apart apart

theorem Holds.update_apart (now : Nat) (start : Text) (change : Text → Text) :
    Holds place entryOf (store.update now other start change) table := by
  rw [update_eq]
  exact holds.insert_apart apart _

theorem Holds.expire_apart (now ttl : Nat) :
    Holds place entryOf (store.expire now other ttl) table := by
  unfold ExpiringStore.expire
  split
  · exact holds
  · exact holds.insert_apart apart _

end Elsewhere

end LiveChat.Foundation.ExpiringStore
