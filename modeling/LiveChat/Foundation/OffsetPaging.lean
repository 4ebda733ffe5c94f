import Mathlib.Data.List.Perm.Basic
import Mathlib.Tactic.Common

/-!
# Reading a growing collection by offset

A reader asks for the items after the first `skip`, highest rank first, and asks again until a
page is not full.  Items may be added between two pages, at any rank, and items of one rank come
in any order.  An item whose rank it shares with no other is not passed over: additions only
push it further down, and the reader comes down as many places as a page has.
-/

set_option autoImplicit false

namespace LiveChat.Foundation.OffsetPaging

universe u
variable {Item : Type u}

/-- The items in the order of a cursor. -/
structure Sorted (rank : Item → Nat) (items order : List Item) : Prop where
  perm : order.Perm items
  descends : order.Pairwise fun earlier later => rank later ≤ rank earlier

theorem sorted_iff {rank : Item → Nat} {items order : List Item} :
    Sorted rank items order ↔
      order.Perm items ∧ order.Pairwise fun earlier later => rank later ≤ rank earlier :=
  ⟨fun sorted => ⟨sorted.perm, sorted.descends⟩, fun both => ⟨both.1, both.2⟩⟩

instance [DecidableEq Item] (rank : Item → Nat) (items order : List Item) :
    Decidable (Sorted rank items order) :=
  decidable_of_iff _ sorted_iff.symm

def page (skip limit : Nat) (order : List Item) : List Item := (order.drop skip).take limit

/-- How many items come before it in every order. -/
def above (rank : Item → Nat) (items : List Item) (item : Item) : Nat :=
  items.countP fun other => decide (rank item < rank other)

def Unshared (rank : Item → Nat) (items : List Item) (item : Item) : Prop :=
  items.countP (fun other => decide (rank other = rank item)) ≤ 1

instance (rank : Item → Nat) (items : List Item) (item : Item) :
    Decidable (Unshared rank items item) := inferInstanceAs (Decidable (_ ≤ _))

/-- The item is there, and a reader who skips so many has not come to it. -/
structure Ahead (rank : Item → Nat) (items : List Item) (skip : Nat) (item : Item) : Prop where
  member : item ∈ items
  skips : skip ≤ above rank items item

variable {rank : Item → Nat} {items more order : List Item} {item : Item} {skip limit : Nat}

theorem ahead_zero (member : item ∈ items) : Ahead rank items 0 item := ⟨member, Nat.zero_le _⟩

theorem unshared_of_grown (grown : items.Sublist more) (unshared : Unshared rank more item) :
    Unshared rank items item := Nat.le_trans grown.countP_le unshared

theorem ahead_grown (grown : items.Sublist more) (ahead : Ahead rank items skip item) :
    Ahead rank more skip item :=
  ⟨grown.subset ahead.member, Nat.le_trans ahead.skips grown.countP_le⟩

/-- An item with a rank of its own has the same place in every order. -/
theorem getElem?_above (sorted : Sorted rank items order) (member : item ∈ items)
    (unshared : Unshared rank items item) : order[above rank items item]? = some item := by
  obtain ⟨front, back, rfl⟩ := List.append_of_mem (sorted.perm.mem_iff.mpr member)
  obtain ⟨_, below, across⟩ := List.pairwise_append.mp sorted.descends
  obtain ⟨after, _⟩ := List.pairwise_cons.mp below
  have alone : (front ++ item :: back).countP (fun other => decide (rank other = rank item)) ≤ 1 := by
    rw [sorted.perm.countP_eq]
    exact unshared
  simp only [List.countP_append, List.countP_cons, decide_true, if_true] at alone
  have apart : ∀ other ∈ front, rank other ≠ rank item := by
    have none : front.countP (fun other => decide (rank other = rank item)) = 0 := by omega
    intro other here
    simpa using List.countP_eq_zero.mp none other here
  have higher : front.countP (fun other => decide (rank item < rank other)) = front.length := by
    refine List.countP_eq_length.mpr fun other here => decide_eq_true ?_
    have least := across other here item List.mem_cons_self
    exact Nat.lt_of_le_of_ne least (apart other here).symm
  have lower : (item :: back).countP (fun other => decide (rank item < rank other)) = 0 := by
    refine List.countP_eq_zero.mpr fun other here => ?_
    rcases List.mem_cons.mp here with rfl | later
    · simp
    · simpa using after other later
  have place : above rank items item = front.length := by
    rw [above, ← sorted.perm.countP_eq, List.countP_append, higher, lower, Nat.add_zero]
  rw [place, List.getElem?_append_right (Nat.le_refl _), Nat.sub_self, List.getElem?_cons_zero]

/-- A page shows the item, or the reader is still before it after the page. -/
theorem mem_page_or_ahead (sorted : Sorted rank items order) (unshared : Unshared rank items item)
    (ahead : Ahead rank items skip item) :
    item ∈ page skip limit order ∨ Ahead rank items (skip + limit) item := by
  by_cases reached : above rank items item < skip + limit
  · have placed := getElem?_above sorted ahead.member unshared
    refine Or.inl (List.mem_iff_getElem?.mpr ⟨above rank items item - skip, ?_⟩)
    have bound : above rank items item - skip < limit := by
      have skips := ahead.skips
      omega
    rw [page, List.getElem?_take_of_lt bound, List.getElem?_drop,
      Nat.add_sub_cancel' ahead.skips, placed]
  · exact Or.inr ⟨ahead.member, Nat.le_of_not_lt reached⟩

/-- Two items of one rank that change places between the pages: one comes twice, the other never. -/
example : page 0 1 [0, 1] ++ page 1 1 [1, 0] ++ page 2 1 [1, 0] = [0, 0] := by decide

/-- Nothing is left after a page that is not full. -/
theorem not_ahead_of_short (sorted : Sorted rank items order)
    (unshared : Unshared rank items item) (short : (page skip limit order).length < limit) :
    ¬ Ahead rank items (skip + limit) item := by
  intro ahead
  have inside := (List.getElem?_eq_some_iff.mp
    (getElem?_above sorted ahead.member unshared)).1
  have skips := ahead.skips
  simp only [page, List.length_take, List.length_drop] at short
  omega

theorem mem_of_mem_page (sorted : Sorted rank items order) (member : item ∈ page skip limit order) :
    item ∈ items :=
  sorted.perm.mem_iff.mp (List.mem_of_mem_drop (List.mem_of_mem_take member))

end LiveChat.Foundation.OffsetPaging
