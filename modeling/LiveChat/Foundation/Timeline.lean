import Mathlib.Data.List.Infix
import Mathlib.Tactic.Common

/-!
# The values of one cell over time

A `Timeline` is the history of a cell that writes replace: `past` holds the values
it had, oldest first, and `current` the value it has.  Values are numbered from zero.
`floor` is the number of the newest value whose write has completed, so a read that
starts now is regular when it returns a value `since` the floor.
-/

set_option autoImplicit false

namespace LiveChat.Foundation

universe u

structure Timeline (Value : Type u) where
  past : List Value := []
  current : Value
  floor : Nat := 0
  bounded : floor ≤ past.length

namespace Timeline

variable {Value : Type u}

/-- A cell that was never written. -/
def initial (value : Value) : Timeline Value := { current := value, bounded := Nat.zero_le _ }

/-- The number of the current value. -/
def version (timeline : Timeline Value) : Nat := timeline.past.length

/-- The values with a number of at least `floor`. -/
def since (timeline : Timeline Value) (floor : Nat) : List Value :=
  (timeline.past ++ [timeline.current]).drop floor

/-- The values that a read starting now may return. -/
def valid (timeline : Timeline Value) : List Value := timeline.since timeline.floor

def write (timeline : Timeline Value) (value : Value) : Timeline Value where
  past := timeline.past ++ [timeline.current]
  current := value
  floor := timeline.floor
  bounded := by
    rw [List.length_append]
    exact Nat.le_add_right_of_le timeline.bounded

/-- The write of the value with this number completed. -/
def complete (timeline : Timeline Value) (version : Nat) : Timeline Value where
  past := timeline.past
  current := timeline.current
  floor := max timeline.floor (min version timeline.past.length)
  bounded := Nat.max_le.mpr ⟨timeline.bounded, Nat.min_le_right _ _⟩

@[simp] theorem initial_current (value : Value) : (initial value).current = value := rfl

@[simp] theorem write_current (timeline : Timeline Value) (value : Value) :
    (timeline.write value).current = value := rfl

@[simp] theorem complete_current (timeline : Timeline Value) (version : Nat) :
    (timeline.complete version).current = timeline.current := rfl

theorem mem_since_current {timeline : Timeline Value} {floor : Nat}
    (below : floor ≤ timeline.floor) : timeline.current ∈ timeline.since floor := by
  have bounded := Nat.le_trans below timeline.bounded
  rw [since, List.drop_append_of_le_length bounded]
  exact List.mem_append_right _ List.mem_cons_self

theorem mem_since_mono {timeline : Timeline Value} {floor higher : Nat} {value : Value}
    (below : floor ≤ higher) (member : value ∈ timeline.since higher) :
    value ∈ timeline.since floor :=
  (List.drop_sublist_drop_left _ below).subset member

/-- A completed write is a lower bound of the floor. -/
theorem version_le_complete {timeline : Timeline Value} {version : Nat}
    (written : version ≤ timeline.version) : version ≤ (timeline.complete version).floor := by
  have below : version ≤ min version timeline.past.length := Nat.le_min.mpr ⟨Nat.le_refl _, written⟩
  exact Nat.le_trans below (Nat.le_max_right _ _)

/-! ## What later writes cannot take back -/

/-- `later` is the timeline after some more writes and completions. -/
structure Extends (timeline later : Timeline Value) : Prop where
  floor : timeline.floor ≤ later.floor
  version : timeline.version ≤ later.version
  since : ∀ floor value, value ∈ timeline.since floor → value ∈ later.since floor

theorem Extends.refl (timeline : Timeline Value) : timeline.Extends timeline :=
  ⟨Nat.le_refl _, Nat.le_refl _, fun _ _ member => member⟩

theorem extends_write (timeline : Timeline Value) (value : Value) :
    timeline.Extends (timeline.write value) := by
  refine ⟨Nat.le_refl _, ?_, ?_⟩
  · simp only [version, write, List.length_append]
    exact Nat.le_add_right _ _
  · intro floor old member
    have grown : timeline.past ++ [timeline.current] <+:
        (timeline.past ++ [timeline.current]) ++ [value] := List.prefix_append _ _
    exact (grown.drop floor).subset member

theorem extends_complete (timeline : Timeline Value) (version : Nat) :
    timeline.Extends (timeline.complete version) :=
  ⟨Nat.le_max_left _ _, Nat.le_refl _, fun _ _ member => member⟩

end Timeline

end LiveChat.Foundation
