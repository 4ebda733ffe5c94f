import Mathlib.Algebra.GroupWithZero.Nat
import Mathlib.Algebra.Order.BigOperators.Group.List
import Mathlib.Algebra.Order.Group.Nat
import Mathlib.Data.List.Perm.Subperm

/-!
# Entries that are made once and posted later

A book is judged by the entries that are posted.  As long as every entry that was made is
posted, or has no amount, the posted entries add up to no less than those that were made.
-/

set_option autoImplicit false

namespace LiveChat.Foundation.Ledger

universe u v
variable {Entry : Type u}

/-- What the entries that count add up to. -/
def total (counts : Entry → Bool) (amount : Entry → Nat) (entries : List Entry) : Nat :=
  ((entries.filter counts).map amount).sum

theorem total_filter (counts : Entry → Bool) (amount : Entry → Nat) (entries : List Entry) :
    total (fun entry => counts entry && decide (amount entry ≠ 0)) amount entries =
      total counts amount entries := by
  unfold total
  induction entries with
  | nil => rfl
  | cons entry rest ih =>
      by_cases counted : counts entry = true
      · by_cases empty : amount entry = 0
        · simpa [counted, empty] using ih
        · simpa [counted, empty] using ih
      · simpa [counted] using ih

theorem total_le_of_sublist {counts : Entry → Bool} {amount : Entry → Nat}
    {fewer entries : List Entry} (sublist : fewer.Sublist (entries.filter counts)) :
    (fewer.map amount).sum ≤ total counts amount entries :=
  List.Sublist.sum_le_sum (sublist.map amount) fun _ _ => Nat.zero_le _

/-- The entries that were made, against those that are posted under another count. -/
theorem total_le_of_posted {counts counts' : Entry → Bool} {amount : Entry → Nat}
    {made posted : List Entry} (once : made.Nodup)
    (all : ∀ entry ∈ made, counts entry = true → amount entry ≠ 0 →
      entry ∈ posted ∧ counts' entry = true) :
    total counts amount made ≤ total counts' amount posted := by
  rw [← total_filter]
  have within : made.filter (fun entry => counts entry && decide (amount entry ≠ 0)) ⊆
      posted.filter counts' := by
    intro entry member
    obtain ⟨here, counted⟩ := List.mem_filter.mp member
    simp only [Bool.and_eq_true, decide_eq_true_eq] at counted
    exact List.mem_filter.mpr (all entry here counted.1 counted.2)
  obtain ⟨fewer, same, sublist⟩ := List.Nodup.subperm (once.sublist List.filter_sublist) within
  exact Nat.le_trans (Nat.le_of_eq (same.symm.map amount).sum_eq) (total_le_of_sublist sublist)

/-! ## Accounts -/

section Accounts
variable {Account : Type v} [DecidableEq Account] {counts : Entry → Bool} {amount : Entry → Nat}
  {account : Entry → Account} {entries : List Entry}

theorem sum_share {accounts : List Account} (once : accounts.Nodup) (entry : Entry) :
    (accounts.map fun one => if account entry = one then amount entry else 0).sum =
      if account entry ∈ accounts then amount entry else 0 := by
  induction accounts with
  | nil => rfl
  | cons first rest ih =>
      obtain ⟨absent, others⟩ := List.nodup_cons.mp once
      rw [List.map_cons, List.sum_cons, ih others]
      by_cases here : account entry = first
      · subst here
        simp [absent]
      · simp [here]

theorem total_cons (counts : Entry → Bool) (amount : Entry → Nat) (entry : Entry)
    (rest : List Entry) : total counts amount (entry :: rest) =
      (if counts entry = true then amount entry else 0) + total counts amount rest := by
  by_cases counted : counts entry = true
  · simp [total, counted]
  · simp [total, counted]

/-- What the accounts add up to one by one, they add up to together, when every entry that
counts is on one of them. -/
theorem sum_accounts {accounts : List Account} (once : accounts.Nodup)
    (posted : ∀ entry ∈ entries, counts entry = true → account entry ∈ accounts) :
    (accounts.map fun one =>
      total (fun entry => decide (account entry = one) && counts entry) amount entries).sum =
      total counts amount entries := by
  induction entries with
  | nil => simp [total]
  | cons entry rest ih =>
      obtain ⟨here, others⟩ := List.forall_mem_cons.mp posted
      simp only [total_cons, List.sum_map_add, ih others]
      congr 1
      by_cases counted : counts entry = true
      · have share : (accounts.map fun one => if account entry = one then amount entry else 0).sum =
            if account entry ∈ accounts then amount entry else 0 := sum_share once entry
        simpa [counted, here counted] using share
      · simp [counted]

end Accounts

end LiveChat.Foundation.Ledger
