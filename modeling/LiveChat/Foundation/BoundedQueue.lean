import Mathlib.Tactic.Common

/-!
# A bounded first-in first-out queue that remembers its history

The queue keeps every item it ever accepted, oldest first, and the number of
items taken from the front.  The part not taken yet is waiting, never more than
`maxsize` items.  `putNowait` refuses an item when the queue is full,
`offer` drops it then, and `getNowait` takes the oldest waiting item.  No
operation removes or reorders what was accepted, and what `offer` dropped stays
on record among the items that were `offered`.
-/

set_option autoImplicit false

namespace LiveChat.Foundation

universe u

structure BoundedQueue (α : Type u) (maxsize : Nat) where
  offered : List α
  accepted : List α
  taken : Nat
  accepted_offered : accepted.Sublist offered
  taken_le : taken ≤ accepted.length
  bounded : accepted.length ≤ taken + maxsize

namespace BoundedQueue
variable {α : Type u} {maxsize : Nat}

def empty : BoundedQueue α maxsize := ⟨[], [], 0, .refl [], Nat.le_refl 0, Nat.zero_le _⟩

/-- How many accepted items are not taken yet. -/
def qsize (queue : BoundedQueue α maxsize) : Nat := queue.accepted.length - queue.taken

def putNowait (queue : BoundedQueue α maxsize) (item : α) : Option (BoundedQueue α maxsize) :=
  if room : queue.qsize < maxsize then
    some {
      offered := queue.offered ++ [item]
      accepted := queue.accepted ++ [item]
      taken := queue.taken
      accepted_offered := queue.accepted_offered.append (.refl [item])
      taken_le := by
        have := queue.taken_le
        simp only [List.length_append, List.length_singleton]
        omega
      bounded := by
        simp only [qsize] at room
        simp only [List.length_append, List.length_singleton]
        omega }
  else none

/-- The item is offered and dropped. -/
def drop (queue : BoundedQueue α maxsize) (item : α) : BoundedQueue α maxsize :=
  { queue with
    offered := queue.offered ++ [item]
    accepted_offered := queue.accepted_offered.trans (List.sublist_append_left _ _) }

@[simp] theorem drop_accepted (queue : BoundedQueue α maxsize) (item : α) :
    (queue.drop item).accepted = queue.accepted := rfl

@[simp] theorem drop_taken (queue : BoundedQueue α maxsize) (item : α) :
    (queue.drop item).taken = queue.taken := rfl

/-- Put the item, or drop it when the queue is full. -/
def offer (queue : BoundedQueue α maxsize) (item : α) : BoundedQueue α maxsize :=
  (queue.putNowait item).getD (queue.drop item)

def getNowait (queue : BoundedQueue α maxsize) : Option (α × BoundedQueue α maxsize) :=
  if some_waiting : queue.taken < queue.accepted.length then
    some (queue.accepted.get ⟨queue.taken, some_waiting⟩, {
      offered := queue.offered
      accepted := queue.accepted
      taken := queue.taken + 1
      accepted_offered := queue.accepted_offered
      taken_le := some_waiting
      bounded := by have := queue.bounded; omega })
  else none

theorem qsize_le (queue : BoundedQueue α maxsize) : queue.qsize ≤ maxsize := by
  have := queue.bounded
  simp only [qsize]
  omega

theorem putNowait_spec {queue next : BoundedQueue α maxsize} {item : α}
    (put : queue.putNowait item = some next) :
    next.accepted = queue.accepted ++ [item] ∧ next.taken = queue.taken := by
  simp only [putNowait] at put
  split at put
  · cases put
    exact ⟨rfl, rfl⟩
  · cases put

/-- What a put accepts, in full: the item at the end, when there is room. -/
theorem offer_spec (queue : BoundedQueue α maxsize) (item : α) :
    (queue.qsize < maxsize ∧ (queue.offer item).accepted = queue.accepted ++ [item] ∧
      (queue.offer item).taken = queue.taken ∧
      (queue.offer item).qsize = queue.qsize + 1) ∨
    (queue.qsize = maxsize ∧ queue.offer item = queue.drop item) := by
  by_cases room : queue.qsize < maxsize
  · have shape := queue.taken_le
    have accepted : (queue.offer item).accepted = queue.accepted ++ [item] := by
      simp [offer, putNowait, room]
    have taken : (queue.offer item).taken = queue.taken := by
      simp [offer, putNowait, room]
    refine Or.inl ⟨room, accepted, taken, ?_⟩
    simp only [qsize, accepted, taken, List.length_append, List.length_singleton]
    omega
  · refine Or.inr ⟨Nat.le_antisymm queue.qsize_le (Nat.le_of_not_lt room), ?_⟩
    simp [offer, putNowait, room]

theorem offer_offered (queue : BoundedQueue α maxsize) (item : α) :
    (queue.offer item).offered = queue.offered ++ [item] := by
  by_cases room : queue.qsize < maxsize
  · simp [offer, putNowait, room]
  · simp [offer, putNowait, room, drop]

/-- A put takes nothing, and what was accepted stays where it is. -/
theorem offer_grows (queue : BoundedQueue α maxsize) (item : α) :
    (queue.offer item).taken = queue.taken ∧ queue.accepted <+: (queue.offer item).accepted := by
  rcases queue.offer_spec item with ⟨_, accepted, taken, _⟩ | ⟨_, same⟩
  · exact ⟨taken, accepted ▸ List.prefix_append _ _⟩
  · rw [same]
    exact ⟨rfl, List.prefix_refl _⟩

theorem mem_offer {queue : BoundedQueue α maxsize} {item other : α}
    (member : other ∈ (queue.offer item).accepted) :
    other ∈ queue.accepted ∨ other = item := by
  rcases queue.offer_spec item with ⟨_, accepted, _⟩ | ⟨_, same⟩
  · rw [accepted] at member
    simpa using member
  · rw [same] at member
    exact Or.inl member

/-- Put several items, oldest first. -/
def offerAll (queue : BoundedQueue α maxsize) (items : List α) : BoundedQueue α maxsize :=
  items.foldl offer queue

theorem offerAll_qsize (queue : BoundedQueue α maxsize) (items : List α) :
    (queue.offerAll items).qsize = min maxsize (queue.qsize + items.length) := by
  induction items generalizing queue with
  | nil =>
      have bound := queue.qsize_le
      simp only [offerAll, List.foldl_nil, List.length_nil]
      omega
  | cons item rest ih =>
      have tail := ih (queue.offer item)
      simp only [offerAll, List.foldl_cons, List.length_cons] at tail ⊢
      rw [tail]
      rcases queue.offer_spec item with ⟨room, _, _, size⟩ | ⟨full, same⟩
      · rw [size]
        omega
      · have size : (queue.drop item).qsize = queue.qsize := rfl
        rw [same, size]
        omega

theorem offerAll_offered (queue : BoundedQueue α maxsize) (items : List α) :
    (queue.offerAll items).offered = queue.offered ++ items := by
  induction items generalizing queue with
  | nil => exact (List.append_nil _).symm
  | cons item rest ih =>
      have tail := ih (queue.offer item)
      simp only [offerAll, List.foldl_cons] at tail ⊢
      rw [tail, queue.offer_offered, List.append_assoc, List.singleton_append]

theorem offerAll_grows (queue : BoundedQueue α maxsize) (items : List α) :
    (queue.offerAll items).taken = queue.taken ∧
      queue.accepted <+: (queue.offerAll items).accepted := by
  induction items generalizing queue with
  | nil => exact ⟨rfl, List.prefix_refl _⟩
  | cons item rest ih =>
      obtain ⟨taken, grown⟩ := queue.offer_grows item
      obtain ⟨taken', grown'⟩ := ih (queue.offer item)
      exact ⟨taken'.trans taken, grown.trans grown'⟩

theorem offerAll_accepted (queue : BoundedQueue α maxsize) (items : List α) :
    ∃ kept : List α, kept.Sublist items ∧
      (queue.offerAll items).accepted = queue.accepted ++ kept := by
  induction items generalizing queue with
  | nil => exact ⟨[], List.Sublist.refl [], (List.append_nil _).symm⟩
  | cons item rest ih =>
      obtain ⟨kept, some, accepted⟩ := ih (queue.offer item)
      have later : (queue.offerAll (item :: rest)).accepted =
          (queue.offer item).accepted ++ kept := accepted
      rw [later]
      rcases queue.offer_spec item with ⟨_, added, _⟩ | ⟨_, same⟩
      · exact ⟨item :: kept, some.cons_cons item, by rw [added, List.append_assoc]; rfl⟩
      · exact ⟨kept, some.cons item, by rw [same]; rfl⟩

/-- When there is room for all items, all of them are accepted. -/
theorem offerAll_roomy {queue : BoundedQueue α maxsize} {items : List α}
    (room : queue.qsize + items.length ≤ maxsize) :
    (queue.offerAll items).accepted = queue.accepted ++ items := by
  induction items generalizing queue with
  | nil => exact (List.append_nil _).symm
  | cons item rest ih =>
      rw [List.length_cons] at room
      rcases queue.offer_spec item with ⟨_, accepted, _, size⟩ | ⟨full, _⟩
      · have later : (queue.offerAll (item :: rest)).accepted =
            (queue.offer item).accepted ++ rest := ih (by omega)
        rw [later, accepted, List.append_assoc]
        rfl
      · omega

theorem mem_offerAll {queue : BoundedQueue α maxsize} {items : List α} {item : α}
    (member : item ∈ (queue.offerAll items).accepted) :
    item ∈ queue.accepted ∨ item ∈ items := by
  induction items generalizing queue with
  | nil => exact Or.inl member
  | cons head rest ih =>
      have split : item ∈ (queue.offer head).accepted ∨ item ∈ rest := ih member
      rcases split with earlier | later
      · rcases mem_offer earlier with old | rfl
        · exact Or.inl old
        · exact Or.inr List.mem_cons_self
      · exact Or.inr (List.mem_cons_of_mem head later)

/-- The last of several puts ends the history, and is nowhere else in it, exactly
when there was room for all of them. -/
theorem offer_last_iff {queue : BoundedQueue α maxsize} {items : List α} {last : α}
    (fresh : last ∉ queue.accepted) (apart : last ∉ items) :
    (∃ front, ((queue.offerAll items).offer last).accepted = front ++ [last] ∧ last ∉ front) ↔
      queue.qsize + items.length < maxsize := by
  have absent : last ∉ (queue.offerAll items).accepted := by
    intro member
    rcases mem_offerAll member with old | new
    · exact fresh old
    · exact apart new
  have size := queue.offerAll_qsize items
  rcases (queue.offerAll items).offer_spec last with ⟨room, accepted, _⟩ | ⟨full, same⟩
  · constructor
    · intro _
      omega
    · intro _
      exact ⟨_, accepted, absent⟩
  · constructor
    · rintro ⟨front, ending, _⟩
      rw [same] at ending
      have dropped : (queue.offerAll items).accepted = front ++ [last] := ending
      exact absurd (dropped ▸ List.mem_append_right front List.mem_cons_self) absent
    · intro room
      omega

/-- What a get takes, in full: the oldest waiting item. -/
theorem getNowait_spec {queue rest : BoundedQueue α maxsize} {item : α}
    (got : queue.getNowait = some (item, rest)) :
    rest.accepted = queue.accepted ∧ rest.taken = queue.taken + 1 ∧
      queue.accepted[queue.taken]? = some item := by
  simp only [getNowait] at got
  split at got
  · rename_i waiting
    cases got
    exact ⟨rfl, rfl, List.getElem?_eq_getElem waiting⟩
  · cases got

theorem getNowait_offered {queue rest : BoundedQueue α maxsize} {item : α}
    (got : queue.getNowait = some (item, rest)) : rest.offered = queue.offered := by
  simp only [getNowait] at got
  split at got
  · cases got
    rfl
  · cases got

theorem getNowait_accepted {queue rest : BoundedQueue α maxsize} {item : α}
    (got : queue.getNowait = some (item, rest)) : rest.accepted = queue.accepted :=
  (getNowait_spec got).1

end BoundedQueue

end LiveChat.Foundation
