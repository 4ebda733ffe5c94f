import Mathlib.Data.List.Basic

/-!
# Lists of tasks known by their place

A task is appended when it starts, and changed in its place from then on.
-/

set_option autoImplicit false

namespace LiveChat.Foundation.Places

universe u v
variable {Item : Type u} {Shown : Type v} {items : List Item} {index place : Nat}
variable {item new : Item} {change : Item → Item}

theorem concat_source (found : (items ++ [new])[place]? = some item) :
    items[place]? = some item ∨ (place = items.length ∧ item = new) := by
  rw [List.getElem?_append] at found
  split at found
  · exact Or.inl found
  · rename_i beyond
    cases offset : place - items.length with
    | zero =>
        rw [offset] at found
        exact Or.inr ⟨by omega, (Option.some.inj found).symm⟩
    | succ n => simp [offset] at found

theorem concat_keeps (new : Item) (found : items[place]? = some item) :
    (items ++ [new])[place]? = some item := by
  rw [List.getElem?_append_left (List.getElem?_eq_some_iff.mp found).1]
  exact found

theorem modify_source (found : (items.modify index change)[place]? = some item) :
    (place ≠ index ∧ items[place]? = some item) ∨
      (place = index ∧ ∃ before, items[index]? = some before ∧ item = change before) := by
  rw [List.getElem?_modify] at found
  obtain ⟨before, old, shape⟩ := Option.map_eq_some_iff.mp found
  by_cases hit : index = place
  · subst hit
    rw [if_pos rfl] at shape
    exact Or.inr ⟨rfl, before, old, shape.symm⟩
  · rw [if_neg hit] at shape
    exact Or.inl ⟨fun same => hit same.symm, shape ▸ old⟩

theorem set_source (found : (items.set index new)[place]? = some item) :
    (place ≠ index ∧ items[place]? = some item) ∨ (place = index ∧ item = new) := by
  rw [List.set_eq_modify] at found
  rcases modify_source found with old | ⟨here, _, _, same⟩
  · exact Or.inl old
  · exact Or.inr ⟨here, same⟩

theorem forall_modify {kept : Item → Prop} (all : ∀ item ∈ items, kept item)
    (changed : ∀ item, items[index]? = some item → kept (change item)) :
    ∀ item ∈ items.modify index change, kept item := by
  intro item member
  obtain ⟨place, found⟩ := List.mem_iff_getElem?.mp member
  rcases modify_source found with ⟨_, old⟩ | ⟨_, before, old, rfl⟩
  · exact all item (List.mem_of_getElem? old)
  · exact changed before old

theorem modify_split (found : items[index]? = some item) (change : Item → Item) :
    ∃ front back, items = front ++ item :: back ∧
      items.modify index change = front ++ change item :: back := by
  obtain ⟨inside, here⟩ := List.getElem?_eq_some_iff.mp found
  refine ⟨items.take index, items.drop (index + 1), ?_, ?_⟩
  · rw [← here, List.getElem_cons_drop, List.take_append_drop]
  · rw [List.modify_eq_take_cons_drop inside, here]

theorem countP_modify (found : items[index]? = some item) (change : Item → Item)
    (counts : Item → Bool) :
    (items.modify index change).countP counts + (if counts item then 1 else 0) =
      items.countP counts + if counts (change item) then 1 else 0 := by
  obtain ⟨front, back, whole, changed⟩ := modify_split found change
  rw [changed, whole]
  simp only [List.countP_append, List.countP_cons]
  omega

/-! ## What the tasks show -/

variable {look : Item → Option Shown}

theorem filterMap_modify_same (found : items[index]? = some item)
    (same : look (change item) = look item) :
    (items.modify index change).filterMap look = items.filterMap look := by
  obtain ⟨front, back, whole, changed⟩ := modify_split found change
  rw [changed, whole]
  simp only [List.filterMap_append, List.filterMap_cons, same]

theorem filterMap_modify_new {shown : Shown} (found : items[index]? = some item)
    (before : look item = none) (after : look (change item) = some shown) :
    ((items.modify index change).filterMap look).Perm (shown :: items.filterMap look) := by
  obtain ⟨front, back, whole, changed⟩ := modify_split found change
  rw [changed, whole]
  simp only [List.filterMap_append, List.filterMap_cons, before, after]
  exact List.perm_middle

theorem filterMap_set_same (found : items[index]? = some item) (same : look new = look item) :
    (items.set index new).filterMap look = items.filterMap look := by
  rw [List.set_eq_modify]
  exact filterMap_modify_same found same

theorem filterMap_set_new {shown : Shown} (found : items[index]? = some item)
    (before : look item = none) (after : look new = some shown) :
    ((items.set index new).filterMap look).Perm (shown :: items.filterMap look) := by
  rw [List.set_eq_modify]
  exact filterMap_modify_new found before after

theorem filterMap_modify_gone {shown : Shown} (found : items[index]? = some item)
    (before : look item = some shown) (after : look (change item) = none) :
    (items.filterMap look).Perm (shown :: (items.modify index change).filterMap look) := by
  obtain ⟨front, back, whole, changed⟩ := modify_split found change
  rw [changed, whole]
  simp only [List.filterMap_append, List.filterMap_cons, before, after]
  exact List.perm_middle

/-- A change at the last place. -/
theorem modify_concat (items : List Item) (item : Item) (change : Item → Item) :
    (items ++ [item]).modify items.length change = items ++ [change item] := by
  induction items with
  | nil => rfl
  | cons head rest ih => exact congrArg (List.cons head) ih

/-! ## The tasks of one party -/

section Party
variable {keeps : Item → Bool}

/-- The place that a task has among those that are kept. -/
def rank (keeps : Item → Bool) (items : List Item) (index : Nat) : Nat :=
  ((items.take index).filter keeps).length

theorem split_at (found : items[index]? = some item) :
    items = items.take index ++ item :: items.drop (index + 1) := by
  obtain ⟨inside, here⟩ := List.getElem?_eq_some_iff.mp found
  rw [← here, List.getElem_cons_drop, List.take_append_drop]

theorem modify_middle (front : List Item) (item : Item) (back : List Item)
    (change : Item → Item) :
    (front ++ item :: back).modify front.length change = front ++ change item :: back := by
  induction front with
  | nil => rfl
  | cons head rest ih => exact congrArg (List.cons head) ih

theorem filter_split (found : items[index]? = some item) (kept : keeps item = true) :
    items.filter keeps = (items.take index).filter keeps ++
      item :: (items.drop (index + 1)).filter keeps := by
  conv_lhs => rw [split_at found]
  rw [List.filter_append, List.filter_cons_of_pos kept]

theorem getElem?_rank (found : items[index]? = some item) (kept : keeps item = true) :
    (items.filter keeps)[rank keeps items index]? = some item := by
  rw [filter_split found kept, rank, List.getElem?_append_right (Nat.le_refl _), Nat.sub_self,
    List.getElem?_cons_zero]

/-- A change of a task that is kept, before and after it. -/
theorem filter_modify_own (found : items[index]? = some item) (kept : keeps item = true)
    (stays : keeps (change item) = true) :
    (items.modify index change).filter keeps =
      (items.filter keeps).modify (rank keeps items index) change := by
  obtain ⟨inside, here⟩ := List.getElem?_eq_some_iff.mp found
  rw [filter_split found kept, rank, modify_middle, List.modify_eq_take_cons_drop inside, here, List.filter_append,
    List.filter_cons_of_pos stays]

theorem filter_modify_other (found : items[index]? = some item) (dropped : keeps item = false)
    (stays : keeps (change item) = false) :
    (items.modify index change).filter keeps = items.filter keeps := by
  obtain ⟨front, back, whole, changed⟩ := modify_split found change
  rw [changed, whole, List.filter_append, List.filter_append,
    List.filter_cons_of_neg (by simp [stays]), List.filter_cons_of_neg (by simp [dropped])]

end Party

end LiveChat.Foundation.Places
