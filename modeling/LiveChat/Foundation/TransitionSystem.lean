import Mathlib.Tactic.Common

/-!
# Runs of a partial step function

A system is a step function `State → Event → Option State`; `none` means that
the event cannot happen in the state.  `exec` runs a schedule, `Along` says that
every step of a run meets a condition on the state before it, and `Always` says
that every state of a run meets a property.  The last section compares the two:
when a property can only be lost by a step outside the condition, and is lost by
every such step, it holds along a run exactly when the condition does.
-/

set_option autoImplicit false

namespace LiveChat.Foundation.TransitionSystem

universe u v w x
variable {State : Type u} {Event : Type v}

/-- The state after a whole schedule, when each of its events can happen. -/
def exec (step : State → Event → Option State) : State → List Event → Option State
  | state, [] => some state
  | state, event :: rest => (step state event).bind fun next => exec step next rest

/-- Every step of the run meets `condition` in the state before it. -/
def Along (step : State → Event → Option State) (condition : State → Event → Prop) :
    State → List Event → Prop
  | _, [] => True
  | state, event :: rest =>
      ∀ next, step state event = some next →
        condition state event ∧ Along step condition next rest

/-- Every state of the run, the first one included, meets `property`. -/
def Always (step : State → Event → Option State) (property : State → Prop) :
    State → List Event → Prop
  | state, [] => property state
  | state, event :: rest =>
      property state ∧
        ∀ next, step state event = some next → Always step property next rest

/-- Whether the steps of a given run meet a decidable condition can be computed. -/
instance decidableAlong (step : State → Event → Option State)
    (condition : State → Event → Prop) [∀ state event, Decidable (condition state event)] :
    ∀ state events, Decidable (Along step condition state events)
  | _, [] => isTrue trivial
  | state, event :: rest =>
      match stepped : step state event with
      | none => isTrue fun next first => by simp [stepped] at first
      | some next =>
          have := decidableAlong step condition next rest
          decidable_of_iff (condition state event ∧ Along step condition next rest)
            ⟨fun both other first => by
                rw [stepped] at first
                cases first
                exact both,
              fun along => along next stepped⟩

section Exec
variable {step : State → Event → Option State}

@[simp] theorem exec_nil (state : State) : exec step state [] = some state := rfl

@[simp] theorem exec_cons (state : State) (event : Event) (rest : List Event) :
    exec step state (event :: rest) =
      (step state event).bind fun next => exec step next rest := rfl

theorem exec_append (state : State) (front back : List Event) :
    exec step state (front ++ back) =
      (exec step state front).bind fun middle => exec step middle back := by
  induction front generalizing state with
  | nil => rfl
  | cons event rest ih =>
      simp only [List.cons_append, exec_cons, Option.bind_assoc]
      exact congrArg _ (funext fun next => ih next)

theorem exec_cons_some {state final : State} {event : Event} {rest : List Event}
    (run : exec step state (event :: rest) = some final) :
    ∃ next, step state event = some next ∧ exec step next rest = some final :=
  Option.bind_eq_some_iff.mp run

theorem exec_invariant_of (invariant : State → Prop) (allowed : Event → Prop)
    (preserved : ∀ state event next, allowed event → invariant state →
      step state event = some next → invariant next)
    {state final : State} {events : List Event} (only : ∀ event ∈ events, allowed event)
    (initial : invariant state) (run : exec step state events = some final) :
    invariant final := by
  induction events generalizing state with
  | nil =>
      cases Option.some.inj run
      exact initial
  | cons event rest ih =>
      obtain ⟨next, first, later⟩ := exec_cons_some run
      obtain ⟨here, others⟩ := List.forall_mem_cons.mp only
      exact ih others (preserved state event next here initial first) later

theorem exec_invariant (invariant : State → Prop)
    (preserved : ∀ state event next, invariant state → step state event = some next →
      invariant next)
    {state final : State} {events : List Event} (initial : invariant state)
    (run : exec step state events = some final) : invariant final :=
  exec_invariant_of invariant (fun _ => True)
    (fun state event next _ held stepped => preserved state event next held stepped)
    (fun _ _ => trivial) initial run

/-- A run of allowed events from one state to the other. -/
def RunsOn (step : State → Event → Option State) (allowed : Event → Prop) (state final : State) :
    Prop := ∃ events, (∀ event ∈ events, allowed event) ∧ exec step state events = some final

theorem RunsOn.refl (allowed : Event → Prop) (state : State) : RunsOn step allowed state state :=
  ⟨[], fun _ member => absurd member List.not_mem_nil, rfl⟩

theorem RunsOn.single {allowed : Event → Prop} {state next : State} {event : Event}
    (ok : allowed event) (stepped : step state event = some next) :
    RunsOn step allowed state next := by
  refine ⟨[event], fun other member => ?_, ?_⟩
  · obtain rfl := List.mem_singleton.mp member
    exact ok
  · simp [stepped]

theorem RunsOn.trans {allowed : Event → Prop} {first second third : State}
    (front : RunsOn step allowed first second) (back : RunsOn step allowed second third) :
    RunsOn step allowed first third := by
  obtain ⟨early, earlyOk, earlyRun⟩ := front
  obtain ⟨late, lateOk, lateRun⟩ := back
  refine ⟨early ++ late, List.forall_mem_append.mpr ⟨earlyOk, lateOk⟩, ?_⟩
  rw [exec_append, earlyRun]
  exact lateRun

end Exec

section Emitted
variable {Output : Type w} {step : State → Event → Option State}
  {emit : State → Event → List Output}

/-- What the steps of a run put out, in their order. -/
def emitted (step : State → Event → Option State) (emit : State → Event → List Output) :
    State → List Event → List Output
  | _, [] => []
  | state, event :: rest =>
      emit state event ++ ((step state event).elim [] fun next => emitted step emit next rest)

theorem emitted_append {state middle : State} {front : List Event} (back : List Event)
    (run : exec step state front = some middle) :
    emitted step emit state (front ++ back) =
      emitted step emit state front ++ emitted step emit middle back := by
  induction front generalizing state with
  | nil =>
      cases Option.some.inj run
      rfl
  | cons head front ih =>
      obtain ⟨next, first, later⟩ := exec_cons_some run
      simp only [List.cons_append, emitted, first, Option.elim_some, ih later, List.append_assoc]

theorem emitted_singleton (state : State) (event : Event) :
    emitted step emit state [event] = emit state event := by
  cases stepped : step state event <;> simp [emitted, stepped]

theorem emitted_concat {state middle : State} {front : List Event} (event : Event)
    (run : exec step state front = some middle) :
    emitted step emit state (front ++ [event]) =
      emitted step emit state front ++ emit middle event := by
  rw [emitted_append [event] run, emitted_singleton]

theorem view_sublist {view : State → List Output}
    (grows : ∀ state event next, step state event = some next →
      ∃ added : List Output, added.Sublist (emit state event) ∧ view next = view state ++ added)
    {state final : State} {events : List Event} (run : exec step state events = some final) :
    ∃ added : List Output, added.Sublist (emitted step emit state events) ∧
      view final = view state ++ added := by
  induction events generalizing state with
  | nil =>
      cases Option.some.inj run
      exact ⟨[], List.Sublist.refl [], (List.append_nil _).symm⟩
  | cons event rest ih =>
      obtain ⟨next, first, later⟩ := exec_cons_some run
      obtain ⟨here, some, same⟩ := grows state event next first
      obtain ⟨added, others, same'⟩ := ih later
      refine ⟨here ++ added, ?_, by rw [same', same, List.append_assoc]⟩
      simp only [emitted, first, Option.elim_some]
      exact some.append others

/-- A view of the state to which each step adds what it emits, as long as it meets a condition. -/
theorem view_emitted {view : State → List Output} {condition : State → Event → Prop}
    (grows : ∀ state event next, condition state event → step state event = some next →
      view next = view state ++ emit state event)
    {state final : State} {events : List Event} (along : Along step condition state events)
    (run : exec step state events = some final) :
    view final = view state ++ emitted step emit state events := by
  induction events generalizing state with
  | nil =>
      cases Option.some.inj run
      exact (List.append_nil _).symm
  | cons event rest ih =>
      obtain ⟨next, first, later⟩ := exec_cons_some run
      obtain ⟨met, others⟩ := along next first
      simp only [emitted, first, Option.elim_some]
      rw [ih others later, grows state event next met first, List.append_assoc]

theorem exec_history (invariant : List Event → State → Prop) {start final : State}
    {events : List Event} (initial : invariant [] start)
    (preserved : ∀ front state event next, exec step start front = some state →
      invariant front state → step state event = some next → invariant (front ++ [event]) next)
    (run : exec step start events = some final) : invariant events final := by
  have reach : ∀ (back front : List Event) (state : State), exec step start front = some state →
      invariant front state → exec step state back = some final →
      invariant (front ++ back) final := by
    intro back
    induction back with
    | nil =>
        intro front state _ held last
        cases Option.some.inj last
        rwa [List.append_nil]
    | cons event rest ih =>
        intro front state reached held last
        obtain ⟨next, first, later⟩ := exec_cons_some last
        have reached' : exec step start (front ++ [event]) = some next := by
          rw [exec_append, reached]
          simpa using first
        have done := ih (front ++ [event]) next reached'
          (preserved front state event next reached held first) later
        rwa [List.append_assoc] at done
  exact reach events [] start rfl initial run

end Emitted

section Along
variable {step : State → Event → Option State}
variable {condition : State → Event → Prop} {property invariant : State → Prop}

theorem Always.head {state : State} {events : List Event}
    (always : Always step property state events) : property state := by
  cases events with
  | nil => exact always
  | cons event rest => exact always.1

/-- `Always` speaks about exactly the states that the prefixes of the schedule reach. -/
theorem always_iff_reached {state : State} {events : List Event} :
    Always step property state events ↔
      ∀ front back middle, events = front ++ back → exec step state front = some middle →
        property middle := by
  induction events generalizing state with
  | nil =>
      constructor
      · intro always front back middle split run
        obtain ⟨rfl, rfl⟩ := List.append_eq_nil_iff.mp split.symm
        cases Option.some.inj run
        exact always
      · intro reached
        exact reached [] [] state rfl rfl
  | cons event rest ih =>
      constructor
      · rintro ⟨here, later⟩ front back middle split run
        cases front with
        | nil =>
            cases Option.some.inj run
            exact here
        | cons head front =>
            obtain ⟨rfl, tail⟩ := List.cons.inj split
            obtain ⟨next, first, tailRun⟩ := exec_cons_some run
            exact ih.mp (later next first) front back middle tail tailRun
      · intro reached
        refine ⟨reached [] (event :: rest) state rfl rfl, fun next first => ?_⟩
        refine ih.mpr fun front back middle split run => ?_
        refine reached (event :: front) back middle (by rw [split]; rfl) ?_
        simpa [first] using run

theorem Always.last {state final : State} {events : List Event}
    (always : Always step property state events)
    (run : exec step state events = some final) : property final :=
  always_iff_reached.mp always events [] final (List.append_nil events).symm run

theorem Always.mono {weaker : State → Prop}
    (implies : ∀ state, property state → weaker state)
    {state : State} {events : List Event} (always : Always step property state events) :
    Always step weaker state events :=
  always_iff_reached.mpr fun front back middle split run =>
    implies middle (always_iff_reached.mp always front back middle split run)

/-- An invariant that every step meeting the condition keeps. -/
theorem always_of_along (invariant : State → Prop)
    (preserved : ∀ state event next, invariant state → condition state event →
      step state event = some next → invariant next)
    {state : State} {events : List Event} (initial : invariant state)
    (along : Along step condition state events) : Always step invariant state events := by
  induction events generalizing state with
  | nil => exact initial
  | cons event rest ih =>
      refine ⟨initial, fun next first => ?_⟩
      obtain ⟨met, later⟩ := along next first
      exact ih (preserved state event next initial met first) later

theorem Along.and {other : State → Event → Prop} {state : State} {events : List Event}
    (first : Along step condition state events) (second : Along step other state events) :
    Along step (fun state event => condition state event ∧ other state event) state events := by
  induction events generalizing state with
  | nil => trivial
  | cons event rest ih =>
      intro next stepped
      obtain ⟨met, later⟩ := first next stepped
      obtain ⟨met', later'⟩ := second next stepped
      exact ⟨⟨met, met'⟩, ih later later'⟩

theorem Along.after {state middle next : State} {front back : List Event} {event : Event}
    (along : Along step condition state (front ++ event :: back))
    (run : exec step state front = some middle) (stepped : step middle event = some next) :
    condition middle event := by
  induction front generalizing state with
  | nil =>
      cases Option.some.inj run
      exact (along next stepped).1
  | cons head front ih =>
      obtain ⟨second, first, later⟩ := exec_cons_some run
      exact ih (along second first).2 later

theorem Along.with_allowed {allowed : Event → Prop} {state : State} {events : List Event}
    (along : Along step condition state events) (only : ∀ event ∈ events, allowed event) :
    Along step (fun state event => condition state event ∧ allowed event) state events := by
  induction events generalizing state with
  | nil => trivial
  | cons event rest ih =>
      obtain ⟨here, others⟩ := List.forall_mem_cons.mp only
      intro next first
      obtain ⟨met, later⟩ := along next first
      exact ⟨⟨met, here⟩, ih later others⟩

/-- What the steps of a run do, from what they meet. -/
theorem along_of_along (invariant : State → Prop) {conclusion : State → Event → Prop}
    (implies : ∀ state event next, invariant state → condition state event →
      step state event = some next → conclusion state event ∧ invariant next)
    {state : State} {events : List Event} (initial : invariant state)
    (along : Along step condition state events) : Along step conclusion state events := by
  induction events generalizing state with
  | nil => trivial
  | cons event rest ih =>
      intro next first
      obtain ⟨met, later⟩ := along next first
      obtain ⟨holds, kept⟩ := implies state event next initial met first
      exact ⟨holds, ih kept later⟩

theorem along_congr (invariant : State → Prop) {other : State → Event → Prop}
    (agree : ∀ state event next, invariant state → step state event = some next →
      (condition state event ↔ other state event))
    (preserved : ∀ state event next, invariant state → step state event = some next →
      invariant next)
    {state : State} {events : List Event} (initial : invariant state) :
    Along step condition state events ↔ Along step other state events := by
  constructor
  · apply along_of_along invariant ?_ initial
    intro state event next held met run
    exact ⟨(agree state event next held run).mp met, preserved state event next held run⟩
  · apply along_of_along invariant ?_ initial
    intro state event next held met run
    exact ⟨(agree state event next held run).mpr met, preserved state event next held run⟩

/-- The condition is exact: a step of an allowed event keeps the property if and only
if it meets the condition, so the property holds in every state of a run of allowed
events if and only if every step of the run meets the condition. -/
theorem always_iff_along_of (invariant : State → Prop) (allowed : Event → Prop)
    (exact : ∀ state event next, allowed event → invariant state → property state →
      step state event = some next → (property next ↔ condition state event))
    (preserved : ∀ state event next, allowed event → invariant state → property state →
      condition state event → step state event = some next → invariant next)
    {state : State} {events : List Event} (only : ∀ event ∈ events, allowed event)
    (sound : invariant state) (initial : property state) :
    Always step property state events ↔ Along step condition state events := by
  induction events generalizing state with
  | nil => exact ⟨fun _ => trivial, fun _ => initial⟩
  | cons event rest ih =>
      obtain ⟨here, others⟩ := List.forall_mem_cons.mp only
      constructor
      · rintro ⟨_, later⟩ next first
        have held := (later next first).head
        have met := (exact state event next here sound initial first).mp held
        have kept := preserved state event next here sound initial met first
        exact ⟨met, (ih others kept held).mp (later next first)⟩
      · intro along
        refine ⟨initial, fun next first => ?_⟩
        obtain ⟨met, later⟩ := along next first
        have held := (exact state event next here sound initial first).mpr met
        have kept := preserved state event next here sound initial met first
        exact (ih others kept held).mpr later

theorem always_iff_along (invariant : State → Prop)
    (exact : ∀ state event next, invariant state → property state →
      step state event = some next → (property next ↔ condition state event))
    (preserved : ∀ state event next, invariant state → property state →
      condition state event → step state event = some next → invariant next)
    {state : State} {events : List Event} (sound : invariant state)
    (initial : property state) :
    Always step property state events ↔ Along step condition state events :=
  always_iff_along_of invariant (fun _ => True)
    (fun state event next _ held here run => exact state event next held here run)
    (fun state event next _ held here met run => preserved state event next held here met run)
    (fun _ _ => trivial) sound initial

/-- A run that stays on its course while its steps meet the condition, leaves it with
the first one that does not, and never comes back. -/
theorem course_of_exec (onCourse lost : State → Prop) (allowed : Event → Prop)
    (kept : ∀ state event next, allowed event → onCourse state → condition state event →
      step state event = some next → onCourse next)
    (left : ∀ state event next, allowed event → onCourse state → ¬ condition state event →
      step state event = some next → lost next)
    (gone : ∀ state event next, allowed event → lost state → step state event = some next →
      lost next)
    {state final : State} {events : List Event} (only : ∀ event ∈ events, allowed event)
    (initial : onCourse state) (run : exec step state events = some final) :
    (Along step condition state events ∧ onCourse final) ∨
      (¬ Along step condition state events ∧ lost final) := by
  induction events generalizing state with
  | nil =>
      cases Option.some.inj run
      exact Or.inl ⟨trivial, initial⟩
  | cons event rest ih =>
      obtain ⟨here, others⟩ := List.forall_mem_cons.mp only
      obtain ⟨next, first, later⟩ := exec_cons_some run
      have along_iff : Along step condition state (event :: rest) ↔
          condition state event ∧ Along step condition next rest := by
        simp only [Along]
        exact ⟨fun along => along next first, fun both other stepped => by
          cases Option.some.inj (first.symm.trans stepped)
          exact both⟩
      rw [along_iff]
      by_cases met : condition state event
      · rcases ih others (kept state event next here initial met first) later with
          ⟨along, good⟩ | ⟨stray, bad⟩
        · exact Or.inl ⟨⟨met, along⟩, good⟩
        · exact Or.inr ⟨fun both => stray both.2, bad⟩
      · refine Or.inr ⟨fun both => met both.1, ?_⟩
        exact exec_invariant_of lost allowed
          (fun state event next ok held stepped => gone state event next ok held stepped)
          others (left state event next here initial met first) later

end Along

section Purging
variable {step : State → Event → State} {removed : Event → Bool} {same : State → State → Prop}

/-- A run ends in a state related to the one that it ends in without the removed events:
a removed event keeps the relation when only one side makes it, the others when both do. -/
theorem foldl_purged
    (respects : ∀ state other event, removed event = true → same state other →
      same (step state event) other)
    (consistent : ∀ state other event, removed event = false → same state other →
      same (step state event) (step other event))
    (events : List Event) {state other : State} (start : same state other) :
    same (events.foldl step state)
      ((events.filter fun event => !removed event).foldl step other) := by
  induction events generalizing state other with
  | nil => exact start
  | cons event rest ih =>
      cases gone : removed event with
      | true =>
          rw [List.filter_cons_of_neg (by simp [gone]), List.foldl_cons]
          exact ih (respects state other event gone start)
      | false =>
          rw [List.filter_cons_of_pos (by simp [gone]), List.foldl_cons, List.foldl_cons]
          exact ih (consistent state other event gone start)

/-- A run goes over into one of another system, which takes the steps that have a label and
stays where it is in the others. -/
theorem exec_labelled {Other : Type w} {Label : Type x} {step : State → Event → Option State}
    {alone : Other → Label → Option Other} {label : State → Event → Option Label}
    {same : State → Other → Prop}
    (respects : ∀ state other event next, label state event = none → same state other →
      step state event = some next → same next other)
    (consistent : ∀ state other event own next, label state event = some own → same state other →
      step state event = some next → ∃ after, alone other own = some after ∧ same next after)
    {state final : State} {other : Other} {events : List Event} (start : same state other)
    (run : exec step state events = some final) :
    ∃ last, exec alone other
      (emitted step (fun state event => (label state event).toList) state events) = some last ∧
        same final last := by
  induction events generalizing state other with
  | nil =>
      cases Option.some.inj run
      exact ⟨other, rfl, start⟩
  | cons event rest ih =>
      obtain ⟨next, stepped, later⟩ := exec_cons_some run
      cases own : label state event with
      | none =>
          obtain ⟨last, ran, alike⟩ := ih (respects state other event next own start stepped) later
          refine ⟨last, ?_, alike⟩
          simpa [emitted, own, stepped] using ran
      | some mine =>
          obtain ⟨after, taken, kept⟩ := consistent state other event mine next own start stepped
          obtain ⟨last, ran, alike⟩ := ih kept later
          refine ⟨last, ?_, alike⟩
          simpa [emitted, own, stepped, taken] using ran

end Purging

end LiveChat.Foundation.TransitionSystem
