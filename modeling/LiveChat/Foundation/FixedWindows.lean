import Mathlib.Data.List.Basic
import Mathlib.Data.List.Induction
import Mathlib.Tactic.Common

/-!
# Counting in fixed windows

A stream of calls, each in one window.  A counter per window gives a call the number that it
is among the calls of its window; admitting the numbers up to a limit admits the first calls
of every window, and in any set of windows at most the limit for each.
-/

set_option autoImplicit false

namespace LiveChat.Foundation.FixedWindows

universe u v
variable {Call : Type u} {Window : Type v} [DecidableEq Window]
variable (window : Call → Window) (number : Call → Nat)

/-- The calls of one window, in their order. -/
def ofWindow (place : Window) (calls : List Call) : List Call :=
  calls.filter fun call => window call = place

/-- Every call has the number that it is in its window, counted from one. -/
def Numbered (calls : List Call) : Prop :=
  ∀ front call back, calls = front ++ call :: back →
    number call = (ofWindow window (window call) front).length + 1

/-- The calls of some windows with a number up to the limit. -/
def admittedOf (limit : Nat) (places : List Window) (calls : List Call) : List Call :=
  calls.filter fun call => window call ∈ places ∧ number call ≤ limit

variable {window number}

theorem ofWindow_append (place : Window) (front back : List Call) :
    ofWindow window place (front ++ back) =
      ofWindow window place front ++ ofWindow window place back := List.filter_append _ _

theorem ofWindow_singleton {call : Call} {place : Window} (here : window call = place) :
    ofWindow window place [call] = [call] := by
  simp [ofWindow, here]

theorem ofWindow_singleton_ne {call : Call} {place : Window} (elsewhere : window call ≠ place) :
    ofWindow window place [call] = [] := by
  simp [ofWindow, elsewhere]

theorem numbered_nil : Numbered window number [] := by
  intro front call back split
  simp at split

theorem Numbered.snoc {calls : List Call} {call : Call} (numbered : Numbered window number calls)
    (next : number call = (ofWindow window (window call) calls).length + 1) :
    Numbered window number (calls ++ [call]) := by
  intro front later back split
  rcases List.eq_nil_or_concat back with rfl | ⟨back, last, rfl⟩
  · obtain ⟨rfl, same⟩ := List.append_inj' split rfl
    obtain rfl := List.singleton_inj.mp same
    exact next
  · have split : calls ++ [call] = (front ++ later :: back) ++ [last] := by
      simpa using split
    exact numbered front later back (List.append_inj' split rfl).1

theorem Numbered.init {calls : List Call} {call : Call}
    (numbered : Numbered window number (calls ++ [call])) : Numbered window number calls := by
  intro front earlier back split
  refine numbered front earlier (back ++ [call]) ?_
  simp [split]

theorem Numbered.last {calls : List Call} {call : Call}
    (numbered : Numbered window number (calls ++ [call])) :
    number call = (ofWindow window (window call) calls).length + 1 := numbered calls call [] rfl

/-- The calls of a window that the limit admits are the first ones of it. -/
theorem Numbered.admitted {calls : List Call} (numbered : Numbered window number calls)
    (limit : Nat) (place : Window) :
    (ofWindow window place calls).filter (fun call => number call ≤ limit) =
      (ofWindow window place calls).take limit := by
  induction calls using List.reverseRecOn with
  | nil => simp [ofWindow]
  | append_singleton calls call ih =>
      have before := ih numbered.init
      by_cases here : window call = place
      · subst here
        have next := numbered.last
        rw [ofWindow_append, ofWindow_singleton rfl, List.filter_append, before, List.take_append]
        -- the new call is admitted when fewer than the limit came before it
        have tail : [call].filter (fun call => number call ≤ limit) =
            [call].take (limit - (ofWindow window (window call) calls).length) := by
          by_cases below : number call ≤ limit
          · obtain ⟨more, room⟩ :
                ∃ more, limit - (ofWindow window (window call) calls).length = more + 1 :=
              Nat.exists_eq_succ_of_ne_zero (by omega)
            simp [below, room]
          · have full : limit - (ofWindow window (window call) calls).length = 0 := by omega
            simp [below, full]
        rw [tail]
      · rw [ofWindow_append, ofWindow_singleton_ne here, List.append_nil]
        exact before

theorem Numbered.admitted_le {calls : List Call} (numbered : Numbered window number calls)
    (limit : Nat) (place : Window) :
    ((ofWindow window place calls).filter (fun call => number call ≤ limit)).length ≤ limit := by
  rw [numbered.admitted limit place, List.length_take]
  exact Nat.min_le_left _ _

theorem length_admittedOf_cons (limit : Nat) (place : Window) (places : List Window)
    (calls : List Call) :
    (admittedOf window number limit (place :: places) calls).length ≤
      ((ofWindow window place calls).filter (fun call => number call ≤ limit)).length +
        (admittedOf window number limit places calls).length := by
  rw [List.length_eq_length_filter_add fun call => decide (window call = place)]
  refine Nat.add_le_add ?_ ?_
  · rw [admittedOf, ofWindow, List.filter_filter, List.filter_filter]
    refine (List.monotone_filter_right calls fun call both => ?_).length_le
    simp only [Bool.and_eq_true, decide_eq_true_eq] at both ⊢
    exact ⟨both.2.2, both.1⟩
  · rw [admittedOf, admittedOf, List.filter_filter]
    refine (List.monotone_filter_right calls fun call both => ?_).length_le
    simp only [Bool.and_eq_true, Bool.not_eq_true', decide_eq_false_iff_not, decide_eq_true_eq,
      List.mem_cons] at both ⊢
    obtain ⟨elsewhere, among, low⟩ := both
    exact ⟨among.resolve_left elsewhere, low⟩

/-- Some windows together admit at most the limit for each of them. -/
theorem Numbered.length_admittedOf {calls : List Call} (numbered : Numbered window number calls)
    (limit : Nat) (places : List Window) :
    (admittedOf window number limit places calls).length ≤ places.length * limit := by
  induction places with
  | nil => simp [admittedOf]
  | cons place places ih =>
      calc (admittedOf window number limit (place :: places) calls).length
          ≤ ((ofWindow window place calls).filter (fun call => number call ≤ limit)).length +
              (admittedOf window number limit places calls).length :=
            length_admittedOf_cons limit place places calls
        _ ≤ limit + places.length * limit := Nat.add_le_add (numbered.admitted_le limit place) ih
        _ = (place :: places).length * limit := by rw [List.length_cons, Nat.succ_mul, Nat.add_comm]

end LiveChat.Foundation.FixedWindows
