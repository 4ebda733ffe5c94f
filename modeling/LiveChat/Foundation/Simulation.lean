import Mathlib.Tactic.Common

/-!
# Machines that answer

A machine takes one input after the other and answers each.  Two machines whose states stay
related, and which give related states the same answers, cannot be told apart by any sequence
of inputs.
-/

set_option autoImplicit false

namespace LiveChat.Foundation

universe u v w x
variable {State : Type u} {Other : Type v} {Input : Type w} {Output : Type x}

structure Machine (State : Type u) (Input : Type w) (Output : Type x) where
  step : State → Input → State × Output

namespace Machine

def answers (machine : Machine State Input Output) : State → List Input → List Output
  | _, [] => []
  | state, input :: rest =>
      (machine.step state input).2 :: machine.answers (machine.step state input).1 rest

def final (machine : Machine State Input Output) : State → List Input → State
  | state, [] => state
  | state, input :: rest => machine.final (machine.step state input).1 rest

/-- One step keeps the relation, and gets the same answer, for every input that is allowed. -/
def Simulates (machine : Machine State Input Output) (other : Machine Other Input Output)
    (allowed : Input → Prop) (related : State → Other → Prop) : Prop :=
  ∀ state state' input, allowed input → related state state' →
    (machine.step state input).2 = (other.step state' input).2 ∧
      related (machine.step state input).1 (other.step state' input).1

variable {machine : Machine State Input Output} {other : Machine Other Input Output}
  {allowed : Input → Prop} {related : State → Other → Prop}

/-- A whole run gets the same answers, and ends in related states. -/
theorem Simulates.run (simulates : machine.Simulates other allowed related) {state : State}
    {state' : Other} {inputs : List Input} (only : ∀ input ∈ inputs, allowed input)
    (start : related state state') :
    machine.answers state inputs = other.answers state' inputs ∧
      related (machine.final state inputs) (other.final state' inputs) := by
  induction inputs generalizing state state' with
  | nil => exact ⟨rfl, start⟩
  | cons input rest ih =>
      obtain ⟨here, others⟩ := List.forall_mem_cons.mp only
      obtain ⟨answer, next⟩ := simulates state state' input here start
      obtain ⟨later, last⟩ := ih others next
      refine ⟨?_, last⟩
      simp only [answers, answer, later]

end Machine

end LiveChat.Foundation
