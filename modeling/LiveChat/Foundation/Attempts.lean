import Mathlib.Tactic.Common

/-!
# Attempts in order, until one settles

`settle` says what an attempt comes to: a result, which ends the series, or `none`, and the
next attempt is made.  `made` counts the attempts, `List.findSome?` gives the result of the
series.  A series that settles too early differs from the one that it should follow exactly
when it settles at an attempt that the other one makes and goes on from.  Checks that may
refuse are such a series, too.
-/

set_option autoImplicit false

namespace LiveChat.Foundation.Attempts

universe u v w
variable {Attempt : Type u} {Result : Type v} {Error : Type w}

/-- How many of the attempts are made. -/
def made (settle : Attempt → Option Result) : List Attempt → Nat
  | [] => 0
  | attempt :: rest =>
      match settle attempt with
      | some _ => 1
      | none => made settle rest + 1

section Series
variable {settle policy : Attempt → Option Result}

theorem made_of_some {attempt : Attempt} {result : Result} (rest : List Attempt)
    (settled : settle attempt = some result) : made settle (attempt :: rest) = 1 := by
  simp only [made, settled]

theorem made_of_none {attempt : Attempt} (rest : List Attempt) (pending : settle attempt = none) :
    made settle (attempt :: rest) = made settle rest + 1 := by
  simp only [made, pending]

theorem made_eq_min (attempts : List Attempt) :
    made settle attempts =
      min attempts.length (attempts.findIdx (fun attempt => (settle attempt).isSome) + 1) := by
  induction attempts with
  | nil => rfl
  | cons attempt rest ih =>
      cases found : settle attempt with
      | some result =>
          rw [made_of_some rest found, List.findIdx_cons, found]
          simp
      | none =>
          rw [made_of_none rest found, ih, List.findIdx_cons, found]
          simp only [Option.isSome_none, cond_false, List.length_cons]
          omega

/-- The result is that of the first attempt that settles. -/
theorem findSome?_eq_bind (attempts : List Attempt) :
    attempts.findSome? settle =
      (attempts[attempts.findIdx fun attempt => (settle attempt).isSome]?).bind settle := by
  induction attempts with
  | nil => rfl
  | cons attempt rest ih =>
      rw [List.findSome?_cons, List.findIdx_cons]
      cases found : settle attempt with
      | some result => simp [found]
      | none => simpa using ih

/-- What settles in the policy settles with the same result; the series may settle earlier. -/
def Hasty (settle policy : Attempt → Option Result) : Prop :=
  ∀ attempt result, policy attempt = some result → settle attempt = some result

/-- The attempts that the policy makes are left open where the policy leaves them open. -/
def Patient (settle policy : Attempt → Option Result) (attempts : List Attempt) : Prop :=
  ∀ attempt ∈ attempts.take (made policy attempts), policy attempt = none →
    settle attempt = none

theorem patient_of_some {attempt : Attempt} {result : Result} (rest : List Attempt)
    (settled : policy attempt = some result) : Patient settle policy (attempt :: rest) := by
  intro other member still
  rw [made_of_some rest settled, List.take_succ_cons, List.take_zero,
    List.mem_singleton] at member
  rw [member, settled] at still
  cases still

theorem patient_of_none {attempt : Attempt} {rest : List Attempt} (pending : policy attempt = none) :
    Patient settle policy (attempt :: rest) ↔
      settle attempt = none ∧ Patient settle policy rest := by
  simp only [Patient, made_of_none rest pending, List.take_succ_cons, List.forall_mem_cons]
  exact and_congr_left fun _ => ⟨fun patient => patient pending, fun still _ => still⟩

/-- A hasty series is as long as the policy's, with the same result, exactly when it is
patient. -/
theorem follows_iff (hasty : Hasty settle policy) (attempts : List Attempt) :
    made settle attempts = made policy attempts ∧
        attempts.findSome? settle = attempts.findSome? policy ↔
      Patient settle policy attempts := by
  induction attempts with
  | nil => exact ⟨fun _ _ member => absurd member List.not_mem_nil, fun _ => ⟨rfl, rfl⟩⟩
  | cons attempt rest ih =>
      cases found : policy attempt with
      | some result =>
          have same := hasty attempt result found
          refine ⟨fun _ => patient_of_some rest found, fun _ => ⟨?_, ?_⟩⟩
          · rw [made_of_some rest same, made_of_some rest found]
          · rw [List.findSome?_cons, List.findSome?_cons, same, found]
      | none =>
          rw [patient_of_none found, made_of_none rest found, List.findSome?_cons,
            List.findSome?_cons, found, ← ih]
          cases early : settle attempt with
          | none =>
              rw [made_of_none rest early]
              simp
          | some result =>
              rw [made_of_some rest early]
              simp only [reduceCtorEq, false_and, iff_false, not_and]
              intro short same
              cases rest with
              | nil => cases same
              | cons next later =>
                  simp only [made] at short
                  split at short <;> omega

/-- How long a hasty series is does not depend on the last attempt. -/
theorem made_eq_iff (hasty : Hasty settle policy) (attempts : List Attempt) :
    made settle attempts = made policy attempts ↔ Patient settle policy attempts.dropLast := by
  induction attempts with
  | nil => exact ⟨fun _ _ member => absurd member List.not_mem_nil, fun _ => rfl⟩
  | cons attempt rest ih =>
      cases rest with
      | nil =>
          refine ⟨fun _ _ member => absurd member List.not_mem_nil, fun _ => ?_⟩
          simp only [made]
          split <;> split <;> rfl
      | cons next later =>
          rw [List.dropLast_cons_of_ne_nil (List.cons_ne_nil next later)]
          cases found : policy attempt with
          | some result =>
              refine ⟨fun _ => patient_of_some _ found, fun _ => ?_⟩
              rw [made_of_some _ (hasty attempt result found), made_of_some _ found]
          | none =>
              rw [patient_of_none found, made_of_none _ found, ← ih]
              cases early : settle attempt with
              | none =>
                  rw [made_of_none _ early]
                  simp
              | some result =>
                  have longer : 0 < made policy (next :: later) := by
                    simp only [made]
                    split <;> omega
                  rw [made_of_some _ early]
                  simp only [reduceCtorEq, false_and, iff_false]
                  omega

/-- A series that is patient before the last attempt has the policy's result, if there is one. -/
theorem findSome?_of_patient (hasty : Hasty settle policy) {attempts : List Attempt}
    {result : Result} (patient : Patient settle policy attempts.dropLast)
    (found : attempts.findSome? policy = some result) :
    attempts.findSome? settle = some result := by
  induction attempts with
  | nil => cases found
  | cons attempt rest ih =>
      rw [List.findSome?_cons] at found ⊢
      cases settled : policy attempt with
      | some result' =>
          rw [settled] at found
          rw [hasty attempt result' settled]
          exact found
      | none =>
          rw [settled] at found
          cases rest with
          | nil => cases found
          | cons next later =>
              rw [List.dropLast_cons_of_ne_nil (List.cons_ne_nil next later),
                patient_of_none settled] at patient
              rw [patient.1]
              exact ih patient.2 found

end Series

/-! ## Checks -/

/-- The error that a check refuses with. -/
def refusal : Except Error Unit → Option Error
  | .error error => some error
  | .ok _ => none

theorem refusal_eq_none {outcome : Except Error Unit} :
    refusal outcome = none ↔ outcome = .ok () := by
  cases outcome <;> simp [refusal]

theorem refusal_eq_some {outcome : Except Error Unit} {error : Error} :
    refusal outcome = some error ↔ outcome = .error error := by
  cases outcome <;> simp [refusal]

theorem refusal_forM (check : Attempt → Except Error Unit) (attempts : List Attempt) :
    refusal (attempts.forM check) = attempts.findSome? fun attempt => refusal (check attempt) := by
  induction attempts with
  | nil => rfl
  | cons attempt rest ih =>
      rw [List.findSome?_cons, ← ih]
      change refusal (check attempt >>= fun _ => rest.forM check) = _
      cases check attempt <;> rfl

theorem forM_eq_ok {check : Attempt → Except Error Unit} {attempts : List Attempt} :
    attempts.forM check = .ok () ↔ ∀ attempt ∈ attempts, check attempt = .ok () := by
  rw [← refusal_eq_none, refusal_forM, List.findSome?_eq_none_iff]
  exact forall₂_congr fun _ _ => refusal_eq_none

theorem forM_eq_error {check : Attempt → Except Error Unit} {attempts : List Attempt}
    {error : Error} :
    attempts.forM check = .error error ↔
      ∃ front attempt back, attempts = front ++ attempt :: back ∧
        check attempt = .error error ∧ ∀ earlier ∈ front, check earlier = .ok () := by
  rw [← refusal_eq_some, refusal_forM, List.findSome?_eq_some_iff]
  simp only [refusal_eq_some, refusal_eq_none]

theorem first_unique (passes : Attempt → Prop) {front back front' back' : List Attempt}
    {attempt attempt' : Attempt} (same : front ++ attempt :: back = front' ++ attempt' :: back')
    (before : ∀ earlier ∈ front, passes earlier) (fails : ¬ passes attempt)
    (before' : ∀ earlier ∈ front', passes earlier) (fails' : ¬ passes attempt') :
    attempt = attempt' := by
  rcases List.append_eq_append_iff.mp same with ⟨gap, rfl, rest⟩ | ⟨gap, rfl, rest⟩
  · cases gap with
    | nil => exact (List.cons.inj rest).1
    | cons head tail =>
        obtain ⟨rfl, _⟩ := List.cons.inj rest
        exact absurd (before' attempt (List.mem_append_right _ List.mem_cons_self)) fails
  · cases gap with
    | nil => exact (List.cons.inj rest).1.symm
    | cons head tail =>
        obtain ⟨rfl, _⟩ := List.cons.inj rest
        exact absurd (before attempt' (List.mem_append_right _ List.mem_cons_self)) fails'

end LiveChat.Foundation.Attempts
