import Mathlib.Data.List.Basic

/-!
# Provenance

Every item that was made has an origin: a ground, or another item that it was made from.  An item
rests on the ground that the first item of its line was made on.  Where each item was made from
one that was there before, every item rests on some ground, and what every link of a line keeps,
its first item has.
-/

set_option autoImplicit false

namespace LiveChat.Foundation.Provenance

universe u v w
variable {Item : Type u} {Ground : Type v}

inductive Origin (Item : Type u) (Ground : Type v) where
  | ground (ground : Ground)
  | item (parent : Item)

structure Entry (Item : Type u) (Ground : Type v) where
  item : Item
  origin : Origin Item Ground

/-- The line of the item leads back to `first`, which was made on the ground. -/
inductive RestsOn (entries : List (Entry Item Ground)) : Item → Item → Ground → Prop where
  | first {item : Item} {ground : Ground} (listed : ⟨item, .ground ground⟩ ∈ entries) :
      RestsOn entries item item ground
  | later {item parent first : Item} {ground : Ground} (listed : ⟨item, .item parent⟩ ∈ entries)
      (rests : RestsOn entries parent first ground) : RestsOn entries item first ground

def Grounded (entries : List (Entry Item Ground)) : Prop :=
  ∀ entry ∈ entries, ∃ first ground, RestsOn entries entry.item first ground

variable {entries more : List (Entry Item Ground)} {item first : Item} {ground : Ground}

theorem RestsOn.mono (rests : RestsOn entries item first ground)
    (kept : ∀ entry ∈ entries, entry ∈ more) : RestsOn more item first ground := by
  induction rests with
  | first listed => exact .first (kept _ listed)
  | later listed _ ih => exact .later (kept _ listed) ih

theorem RestsOn.listed (rests : RestsOn entries item first ground) :
    ⟨first, .ground ground⟩ ∈ entries := by
  induction rests with
  | first listed => exact listed
  | later _ _ ih => exact ih

/-- What every link keeps, the whole line keeps. -/
theorem RestsOn.keeps {Value : Type w} (feature : Item → Value)
    (kept : ∀ item parent, ⟨item, .item parent⟩ ∈ entries → feature item = feature parent)
    (rests : RestsOn entries item first ground) : feature item = feature first := by
  induction rests with
  | first _ => rfl
  | later listed _ ih => exact (kept _ _ listed).trans ih

theorem grounded_nil : Grounded ([] : List (Entry Item Ground)) :=
  fun _ member => absurd member List.not_mem_nil

/-- The entries before keep their grounds when one is added. -/
theorem Grounded.keep (grounded : Grounded entries) (added : Entry Item Ground) :
    ∀ entry ∈ entries, ∃ first ground, RestsOn (entries ++ [added]) entry.item first ground := by
  intro entry member
  obtain ⟨first, ground, rests⟩ := grounded entry member
  exact ⟨first, ground, rests.mono fun _ listed => List.mem_append_left _ listed⟩

theorem Grounded.begin (grounded : Grounded entries) (item : Item) (ground : Ground) :
    Grounded (entries ++ [⟨item, .ground ground⟩]) := by
  intro entry member
  rcases List.mem_append.mp member with before | added
  · exact grounded.keep _ entry before
  · obtain rfl := List.mem_singleton.mp added
    exact ⟨item, ground, .first (List.mem_append_right _ (List.mem_singleton_self _))⟩

theorem Grounded.derive (grounded : Grounded entries) (item : Item) {parent : Item}
    (made : parent ∈ entries.map Entry.item) : Grounded (entries ++ [⟨item, .item parent⟩]) := by
  obtain ⟨before, listed, rfl⟩ := List.mem_map.mp made
  intro entry member
  rcases List.mem_append.mp member with before | added
  · exact grounded.keep _ entry before
  · obtain rfl := List.mem_singleton.mp added
    obtain ⟨first, ground, rests⟩ := grounded.keep ⟨item, .item before.item⟩ before listed
    exact ⟨first, ground, .later (List.mem_append_right _ (List.mem_singleton_self _)) rests⟩

end LiveChat.Foundation.Provenance
