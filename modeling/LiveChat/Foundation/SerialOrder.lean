import Mathlib.Data.List.Perm.Basic

/-!
# Serial executions of fallible requests

Requests run one after the other on a state, and the first one that is refused ends the
run.  `ResultOf` says that a state is what some serial order of given requests leads to;
the rules below extend such an order by one request, and say what holds at its end.
-/

set_option autoImplicit false

namespace LiveChat.Foundation.SerialOrder

universe u v w
variable {State : Type u} {Request : Type v} {Error : Type w}

/-- All requests, in this order. -/
def runAll (run : State → Request → Except Error State) :
    State → List Request → Except Error State
  | state, [] => .ok state
  | state, request :: rest =>
      match run state request with
      | .error refusal => .error refusal
      | .ok next => runAll run next rest

/-- The state is the result of the requests in some serial order. -/
def ResultOf (run : State → Request → Except Error State) (start : State)
    (requests : List Request) (state : State) : Prop :=
  ∃ order : List Request, order.Perm requests ∧ runAll run start order = .ok state

variable {run : State → Request → Except Error State}

theorem runAll_cons_ok {start final : State} {request : Request} {rest : List Request}
    (ran : runAll run start (request :: rest) = .ok final) :
    ∃ next, run start request = .ok next ∧ runAll run next rest = .ok final := by
  simp only [runAll] at ran
  split at ran
  · cases ran
  · rename_i next first
    exact ⟨next, first, ran⟩

theorem runAll_concat {start middle final : State} {front : List Request} {request : Request}
    (ran : runAll run start front = .ok middle) (last : run middle request = .ok final) :
    runAll run start (front ++ [request]) = .ok final := by
  induction front generalizing start with
  | nil =>
      cases ran
      simp only [List.nil_append, runAll, last]
  | cons head front ih =>
      obtain ⟨next, first, later⟩ := runAll_cons_ok ran
      simp only [List.cons_append, runAll, first]
      exact ih later

theorem ResultOf.nil (start : State) : ResultOf run start [] start := ⟨[], .refl [], rfl⟩

theorem ResultOf.perm {start state : State} {requests others : List Request}
    (result : ResultOf run start requests state) (same : requests.Perm others) :
    ResultOf run start others state := by
  obtain ⟨order, perm, ran⟩ := result
  exact ⟨order, perm.trans same, ran⟩

/-- One more request, at the end of the order. -/
theorem ResultOf.next {start state final : State} {requests : List Request} {request : Request}
    (result : ResultOf run start requests state) (last : run state request = .ok final) :
    ResultOf run start (request :: requests) final := by
  obtain ⟨order, perm, ran⟩ := result
  refine ⟨order ++ [request], ?_, runAll_concat ran last⟩
  exact (List.perm_append_singleton request order).trans (perm.cons request)

theorem runAll_append_ok {start final : State} {front back : List Request}
    (ran : runAll run start (front ++ back) = .ok final) :
    ∃ middle, runAll run start front = .ok middle ∧ runAll run middle back = .ok final := by
  induction front generalizing start with
  | nil => exact ⟨start, rfl, ran⟩
  | cons head front ih =>
      obtain ⟨next, first, later⟩ := runAll_cons_ok ran
      obtain ⟨middle, early, late⟩ := ih later
      refine ⟨middle, ?_, late⟩
      simp only [runAll, first]
      exact early

/-- A property that no request breaks. -/
theorem runAll_keeps {holds : State → Prop} {order : List Request}
    (kept : ∀ request ∈ order, ∀ state next, holds state → run state request = .ok next →
      holds next)
    {start final : State} (held : holds start) (ran : runAll run start order = .ok final) :
    holds final := by
  induction order generalizing start with
  | nil =>
      cases ran
      exact held
  | cons head rest ih =>
      obtain ⟨next, first, later⟩ := runAll_cons_ok ran
      obtain ⟨here, others⟩ := List.forall_mem_cons.mp kept
      exact ih others (here start next held first) later

/-- What one of the requests establishes and none of them breaks holds at the end. -/
theorem runAll_establishes {holds : State → Prop} {order : List Request} {request : Request}
    (member : request ∈ order)
    (established : ∀ state next, run state request = .ok next → holds next)
    (kept : ∀ other ∈ order, ∀ state next, holds state → run state other = .ok next → holds next)
    {start final : State} (ran : runAll run start order = .ok final) : holds final := by
  obtain ⟨front, back, rfl⟩ := List.append_of_mem member
  obtain ⟨middle, _, rest⟩ := runAll_append_ok ran
  obtain ⟨next, first, later⟩ := runAll_cons_ok rest
  have after : ∀ other ∈ back, other ∈ front ++ request :: back := fun other inside =>
    List.mem_append_right front (List.mem_cons_of_mem request inside)
  exact runAll_keeps (fun other inside => kept other (after other inside))
    (established middle next first) later

theorem ResultOf.establishes {holds : State → Prop} {start final : State}
    {requests : List Request} {request : Request} (result : ResultOf run start requests final)
    (member : request ∈ requests)
    (established : ∀ state next, run state request = .ok next → holds next)
    (kept : ∀ other ∈ requests, ∀ state next, holds state → run state other = .ok next →
      holds next) : holds final := by
  obtain ⟨order, perm, ran⟩ := result
  exact runAll_establishes (perm.mem_iff.mpr member) established
    (fun other inside => kept other (perm.mem_iff.mp inside)) ran

end LiveChat.Foundation.SerialOrder
