import Mathlib.Data.List.Nodup
import Mathlib.Data.List.Perm.Basic

/-!
# Linear tickets

Every ticket has an origin, and a ticket may be replaced by a new one of the same origin.
The tickets that are held, wherever they are, are linear when no two of them have one
origin.  Moving a ticket keeps this, minting one of a new origin does, and so does a
replacement.
-/

set_option autoImplicit false

namespace LiveChat.Foundation.LinearTickets

universe u v
variable {Ticket : Type u} {Origin : Type v} {origin : Ticket → Origin}

def Linear (origin : Ticket → Origin) (held : List Ticket) : Prop := (held.map origin).Nodup

/-- The held tickets of one origin. -/
def heldOf [DecidableEq Origin] (origin : Ticket → Origin) (chain : Origin) (held : List Ticket) :
    Nat := held.countP fun ticket => decide (origin ticket = chain)

theorem linear_nil : Linear origin [] := List.nodup_nil

theorem Linear.perm {held others : List Ticket} (linear : Linear origin held)
    (moved : held.Perm others) : Linear origin others :=
  (moved.map origin).nodup_iff.mp linear

theorem Linear.sublist {held fewer : List Ticket} (linear : Linear origin held)
    (dropped : fewer.Sublist held) : Linear origin fewer :=
  List.Nodup.sublist (dropped.map origin) linear

/-- The origins of the held tickets may be looked up anew. -/
theorem Linear.congr {held : List Ticket} {other : Ticket → Origin} (linear : Linear origin held)
    (same : ∀ ticket ∈ held, other ticket = origin ticket) : Linear other held := by
  unfold Linear
  rw [List.map_congr_left same]
  exact linear

theorem Linear.mint {held : List Ticket} {ticket : Ticket} (linear : Linear origin held)
    (fresh : ∀ other ∈ held, origin other ≠ origin ticket) : Linear origin (ticket :: held) := by
  refine List.nodup_cons.mpr ⟨fun taken => ?_, linear⟩
  obtain ⟨other, member, same⟩ := List.mem_map.mp taken
  exact fresh other member same

theorem Linear.replace {held : List Ticket} {ticket new : Ticket}
    (linear : Linear origin (ticket :: held)) (same : origin new = origin ticket) :
    Linear origin (new :: held) := by
  simp only [Linear, List.map_cons] at linear ⊢
  rw [same]
  exact linear

theorem Linear.disjoint {held others : List Ticket} (linear : Linear origin (held ++ others))
    {ticket : Ticket} (member : ticket ∈ others) : ticket ∉ held := by
  intro twice
  have apart := List.disjoint_of_nodup_append (List.Nodup.of_map origin linear)
  exact apart twice member

section
variable [DecidableEq Origin]

theorem heldOf_append (chain : Origin) (held others : List Ticket) :
    heldOf origin chain (held ++ others) = heldOf origin chain held + heldOf origin chain others :=
  List.countP_append

theorem Linear.heldOf_le_one {held : List Ticket} (linear : Linear origin held) (chain : Origin) :
    heldOf origin chain held ≤ 1 := by
  have counted := List.nodup_iff_count_le_one.mp linear chain
  rw [List.count, List.countP_map] at counted
  exact counted

end

end LiveChat.Foundation.LinearTickets
