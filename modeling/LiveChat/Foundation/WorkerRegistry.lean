import Mathlib.Data.Finset.Card
import Mathlib.Data.List.AList
import LiveChat.Foundation.Places
import LiveChat.Foundation.TransitionSystem

/-!
# Keyed registries whose entries are removed apart from their workers

Workers run on their own.  A registry maps a key to the worker that serves it
and decides who may hire: a free key gets a new worker.  An entry leaves the
registry in two ways: a dismissal takes it out while the worker may still run,
and after a worker has finished a deferred collection takes out whatever is
registered under its key by then.

Two questions are answered by a condition on the hires.  When does the registry
mirror the live workers (one per key, each registered under it unless it was
dismissed, and no collection meant for another worker than the registered one)?
And when do the live workers of a group stay within a cap that is checked against
the entries only?  The first condition is exact; the second one says that the
strays, which the entries do not show, are outnumbered by the ended workers that
the entries still show.
-/

set_option autoImplicit false

namespace LiveChat.Foundation.WorkerRegistry

open LiveChat.Foundation.TransitionSystem

universe u

structure Worker (Key Group : Type u) where
  key : Key
  group : Group
  live : Bool
  dismissed : Bool

structure Registry (Key Group : Type u) where
  workers : List (Worker Key Group)
  entries : AList fun _ : Key => Nat
  /-- The collections not run yet, with the finished worker each is about. -/
  pending : List (Key × Nat)

inductive Event (Key Group : Type u) where
  | hire (key : Key) (group : Group)
  | dismiss (key : Key)
  | finish (worker : Nat)
  | collect (key : Key) (worker : Nat)

variable {Key Group : Type u}

def empty : Registry Key Group := ⟨[], ∅, []⟩

section Keys
variable [DecidableEq Key]

def hire (registry : Registry Key Group) (key : Key) (group : Group) : Registry Key Group :=
  { registry with
    workers := registry.workers ++ [⟨key, group, true, false⟩]
    entries := registry.entries.insert key registry.workers.length }

def dismiss (registry : Registry Key Group) (key : Key) : Registry Key Group :=
  match registry.entries.lookup key with
  | none => registry
  | some index =>
      { registry with
        workers := registry.workers.modify index fun worker => { worker with dismissed := true }
        entries := registry.entries.erase key }

def finish (registry : Registry Key Group) (index : Nat) (key : Key) : Registry Key Group :=
  { registry with
    workers := registry.workers.modify index fun worker => { worker with live := false }
    pending := registry.pending ++ [(key, index)] }

/-- The collection goes by the key alone. -/
def collect (registry : Registry Key Group) (key : Key) (index : Nat) : Registry Key Group :=
  { registry with
    entries := registry.entries.erase key
    pending := registry.pending.erase (key, index) }

def step (registry : Registry Key Group) : Event Key Group → Option (Registry Key Group)
  | .hire key group =>
      if registry.entries.lookup key = none then some (hire registry key group) else none
  | .dismiss key => some (dismiss registry key)
  | .finish index =>
      match registry.workers[index]? with
      | some worker => if worker.live then some (finish registry index worker.key) else none
      | none => none
  | .collect key index =>
      if (key, index) ∈ registry.pending then some (collect registry key index) else none

/-- Entries point at workers of their own key that nobody dismissed, and only
finished workers are waiting for their collection. -/
structure WellFormed (registry : Registry Key Group) : Prop where
  entries : ∀ key index, registry.entries.lookup key = some index →
    ∃ worker, registry.workers[index]? = some worker ∧ worker.key = key ∧
      worker.dismissed = false
  pending : ∀ key index, (key, index) ∈ registry.pending →
    ∃ worker, registry.workers[index]? = some worker ∧ worker.key = key ∧ worker.live = false

/-- At most one live worker for each key. -/
def Exclusive (registry : Registry Key Group) : Prop :=
  ∀ (i j : Nat) (first second : Worker Key Group), registry.workers[i]? = some first →
    registry.workers[j]? = some second → first.live = true → second.live = true →
    first.key = second.key → i = j

/-- Every live worker that was not dismissed is the one registered under its key. -/
def Mirrored (registry : Registry Key Group) : Prop :=
  ∀ index worker, registry.workers[index]? = some worker → worker.live = true →
    worker.dismissed = false → registry.entries.lookup worker.key = some index

/-- No collection will take out another worker than the one that finished. -/
def OwnCollection (registry : Registry Key Group) : Prop :=
  ∀ key finished index, (key, finished) ∈ registry.pending →
    registry.entries.lookup key = some index → index = finished

structure Mirrors (registry : Registry Key Group) : Prop where
  exclusive : Exclusive registry
  mirrored : Mirrored registry
  ownCollection : OwnCollection registry

/-- A live worker shares its key with no other registered one, dismissed or not. -/
def Settled (registry : Registry Key Group) : Prop :=
  ∀ index worker other, registry.workers[index]? = some worker → worker.live = true →
    registry.entries.lookup worker.key = some other → other = index

/-- A key is hired for only when no worker of it is live or waits for its collection. -/
def Clear (registry : Registry Key Group) : Event Key Group → Prop
  | .hire key _ =>
      (∀ (index : Nat) (worker : Worker Key Group),
        registry.workers[index]? = some worker → worker.key = key → worker.live = false) ∧
      ∀ index, (key, index) ∉ registry.pending
  | _ => True

/-! ## What a step can do -/

theorem step_cases {registry next : Registry Key Group} {event : Event Key Group}
    (run : step registry event = some next) :
    (∃ key group, event = .hire key group ∧ registry.entries.lookup key = none ∧
      next = hire registry key group) ∨
    (∃ key, event = .dismiss key ∧ registry.entries.lookup key = none ∧ next = registry) ∨
    (∃ key index, event = .dismiss key ∧ registry.entries.lookup key = some index ∧
      next = dismiss registry key) ∨
    (∃ index worker, event = .finish index ∧ registry.workers[index]? = some worker ∧
      worker.live = true ∧ next = finish registry index worker.key) ∨
    (∃ key index, event = .collect key index ∧ (key, index) ∈ registry.pending ∧
      next = collect registry key index) := by
  cases event with
  | hire key group =>
      simp only [step] at run
      split at run
      · rename_i free
        exact Or.inl ⟨key, group, rfl, free, (Option.some.inj run).symm⟩
      · cases run
  | dismiss key =>
      have same := (Option.some.inj run).symm
      cases found : registry.entries.lookup key with
      | none => exact Or.inr (Or.inl ⟨key, rfl, found, by simpa [dismiss, found] using same⟩)
      | some index => exact Or.inr (Or.inr (Or.inl ⟨key, index, rfl, found, same⟩))
  | finish index =>
      simp only [step] at run
      split at run
      · rename_i worker found
        split at run
        · rename_i live
          exact Or.inr (Or.inr (Or.inr (Or.inl
            ⟨index, worker, rfl, found, live, (Option.some.inj run).symm⟩)))
        · cases run
      · cases run
  | collect key index =>
      simp only [step] at run
      split at run
      · rename_i waiting
        exact Or.inr (Or.inr (Or.inr (Or.inr
          ⟨key, index, rfl, waiting, (Option.some.inj run).symm⟩)))
      · cases run

theorem hire_worker {registry : Registry Key Group} {key : Key} {group : Group} {index : Nat}
    {worker : Worker Key Group} (found : (hire registry key group).workers[index]? = some worker) :
    registry.workers[index]? = some worker ∨
      (index = registry.workers.length ∧ worker = ⟨key, group, true, false⟩) := by
  exact Places.concat_source found

theorem hire_keeps_worker {registry : Registry Key Group} (key : Key) (group : Group)
    {index : Nat} {worker : Worker Key Group} (found : registry.workers[index]? = some worker) :
    (hire registry key group).workers[index]? = some worker := by
  exact Places.concat_keeps _ found

theorem dismiss_eq {registry : Registry Key Group} {key : Key} {index : Nat}
    (found : registry.entries.lookup key = some index) :
    dismiss registry key =
      { registry with
        workers := registry.workers.modify index fun worker => { worker with dismissed := true }
        entries := registry.entries.erase key } := by
  simp only [dismiss, found]

theorem step_finish {registry : Registry Key Group} {index : Nat} {worker : Worker Key Group}
    (found : registry.workers[index]? = some worker) (live : worker.live = true) :
    step registry (.finish index) = some (finish registry index worker.key) := by
  simp only [step, found, live, if_true]

omit [DecidableEq Key] in
theorem modify_worker {workers : List (Worker Key Group)} {index target : Nat}
    {change : Worker Key Group → Worker Key Group} {worker : Worker Key Group}
    (found : (workers.modify target change)[index]? = some worker) :
    ∃ before, workers[index]? = some before ∧
      worker = if target = index then change before else before := by
  rw [List.getElem?_modify] at found
  obtain ⟨before, old, changed⟩ := Option.map_eq_some_iff.mp found
  exact ⟨before, old, changed.symm⟩

omit [DecidableEq Key] in
theorem modify_of_worker {workers : List (Worker Key Group)} {index : Nat} (target : Nat)
    (change : Worker Key Group → Worker Key Group) {before : Worker Key Group}
    (old : workers[index]? = some before) :
    (workers.modify target change)[index]? =
      some (if target = index then change before else before) := by
  rw [List.getElem?_modify, old]
  rfl

/-! ## Well-formedness -/

theorem wellFormed_empty : WellFormed (empty : Registry Key Group) := by
  refine ⟨?_, ?_⟩
  · intro key index found
    cases found
  · intro key index waiting
    cases waiting

theorem wellFormed_hire {registry : Registry Key Group} (key : Key) (group : Group)
    (formed : WellFormed registry) : WellFormed (hire registry key group) := by
  refine ⟨?_, ?_⟩
  · intro other index found
    by_cases same : other = key
    · subst same
      simp only [hire, AList.lookup_insert] at found
      cases Option.some.inj found
      exact ⟨⟨other, group, true, false⟩, by simp [hire], rfl, rfl⟩
    · simp only [hire, AList.lookup_insert_ne same] at found
      obtain ⟨worker, old, facts⟩ := formed.entries other index found
      exact ⟨worker, hire_keeps_worker key group old, facts⟩
  · intro other index waiting
    obtain ⟨worker, old, facts⟩ := formed.pending other index waiting
    exact ⟨worker, hire_keeps_worker key group old, facts⟩

theorem wellFormed_dismiss {registry : Registry Key Group} (key : Key)
    (formed : WellFormed registry) : WellFormed (dismiss registry key) := by
  cases found : registry.entries.lookup key with
  | none => simpa [dismiss, found] using formed
  | some target =>
      rw [dismiss_eq found]
      refine ⟨?_, ?_⟩
      · intro other index entry
        have different : other ≠ key := by
          rintro rfl
          simp [AList.lookup_erase] at entry
        rw [AList.lookup_erase_ne different] at entry
        obtain ⟨worker, old, keyEq, kept⟩ := formed.entries other index entry
        have apart : target ≠ index := by
          rintro rfl
          obtain ⟨worker', old', keyEq', _⟩ := formed.entries key target found
          rw [old] at old'
          cases Option.some.inj old'
          exact different (keyEq.symm.trans keyEq')
        refine ⟨worker, ?_, keyEq, kept⟩
        rw [modify_of_worker target _ old, if_neg apart]
      · intro other index waiting
        obtain ⟨worker, old, facts⟩ := formed.pending other index waiting
        refine ⟨_, modify_of_worker target _ old, ?_⟩
        split <;> exact facts

theorem wellFormed_finish {registry : Registry Key Group} {target : Nat}
    {worker : Worker Key Group} (formed : WellFormed registry)
    (found : registry.workers[target]? = some worker) :
    WellFormed (finish registry target worker.key) := by
  refine ⟨?_, ?_⟩
  · intro other index entry
    obtain ⟨before, old, keyEq, kept⟩ := formed.entries other index entry
    refine ⟨_, modify_of_worker target _ old, ?_⟩
    split <;> exact ⟨keyEq, kept⟩
  · intro other index waiting
    rcases List.mem_append.mp waiting with earlier | new
    · obtain ⟨before, old, keyEq, stopped⟩ := formed.pending other index earlier
      refine ⟨_, modify_of_worker target _ old, ?_⟩
      split
      · exact ⟨keyEq, rfl⟩
      · exact ⟨keyEq, stopped⟩
    · cases List.mem_singleton.mp new
      refine ⟨_, modify_of_worker target _ found, ?_⟩
      rw [if_pos rfl]
      exact ⟨rfl, rfl⟩

theorem wellFormed_collect {registry : Registry Key Group} (key : Key) (finished : Nat)
    (formed : WellFormed registry) : WellFormed (collect registry key finished) := by
  refine ⟨?_, fun other index waiting => formed.pending other index (List.mem_of_mem_erase waiting)⟩
  intro other index entry
  have different : other ≠ key := by
    rintro rfl
    simp [collect, AList.lookup_erase] at entry
  simp only [collect, AList.lookup_erase_ne different] at entry
  exact formed.entries other index entry

theorem wellFormed_step {registry next : Registry Key Group} {event : Event Key Group}
    (formed : WellFormed registry) (run : step registry event = some next) :
    WellFormed next := by
  rcases step_cases run with ⟨key, group, _, _, rfl⟩ | ⟨key, _, _, rfl⟩ | ⟨key, index, _, _, rfl⟩ |
    ⟨index, worker, _, found, _, rfl⟩ | ⟨key, index, _, _, rfl⟩
  · exact wellFormed_hire key group formed
  · exact formed
  · exact wellFormed_dismiss key formed
  · exact wellFormed_finish formed found
  · exact wellFormed_collect key index formed

/-! ## When the registry mirrors the live workers -/

theorem mirrors_empty : Mirrors (empty : Registry Key Group) := by
  refine ⟨?_, ?_, ?_⟩
  · intro i j first second found
    simp [empty] at found
  · intro index worker found
    simp [empty] at found
  · intro key finished index waiting
    cases waiting

theorem settled_empty : Settled (empty : Registry Key Group) := by
  intro index worker other found
  simp [empty] at found

/-- A free key has no undismissed live worker in a mirroring registry, so a
hire keeps the mirror exactly when the dismissed and the ended ones are gone. -/
theorem mirrors_hire {registry : Registry Key Group} {key : Key} (group : Group)
    (formed : WellFormed registry) (mirrors : Mirrors registry)
    (free : registry.entries.lookup key = none) :
    Mirrors (hire registry key group) ↔ Clear registry (.hire key group) := by
  have newest : (hire registry key group).workers[registry.workers.length]? =
      some ⟨key, group, true, false⟩ := by simp [hire]
  have entered : (hire registry key group).entries.lookup key = some registry.workers.length := by
    simp [hire]
  constructor
  · intro mirrors'
    refine ⟨?_, ?_⟩
    · intro index worker found keyEq
      cases live : worker.live with
      | false => rfl
      | true =>
          have inside : index < registry.workers.length :=
            (List.getElem?_eq_some_iff.mp found).1
          have same := mirrors'.exclusive index registry.workers.length worker _
            (hire_keeps_worker key group found) newest live rfl keyEq
          omega
    · intro index waiting
      obtain ⟨worker, found, _⟩ := formed.pending key index waiting
      have inside : index < registry.workers.length := (List.getElem?_eq_some_iff.mp found).1
      have same := mirrors'.ownCollection key index _ waiting entered
      omega
  · rintro ⟨stopped, collected⟩
    refine ⟨?_, ?_, ?_⟩
    · intro i j first second atI atJ liveI liveJ keyEq
      rcases hire_worker atI with oldI | ⟨rfl, rfl⟩ <;> rcases hire_worker atJ with oldJ | ⟨rfl, rfl⟩
      · exact mirrors.exclusive i j first second oldI oldJ liveI liveJ keyEq
      · rw [stopped i first oldI keyEq] at liveI
        cases liveI
      · rw [stopped j second oldJ keyEq.symm] at liveJ
        cases liveJ
      · rfl
    · intro index worker found live kept
      rcases hire_worker found with old | ⟨rfl, rfl⟩
      · have entry := mirrors.mirrored index worker old live kept
        have different : worker.key ≠ key := by
          intro same
          rw [same, free] at entry
          cases entry
        simpa [hire, AList.lookup_insert_ne different] using entry
      · exact entered
    · intro other finished index waiting entry
      have different : other ≠ key := by
        rintro rfl
        exact collected finished waiting
      simp only [hire, AList.lookup_insert_ne different] at entry
      exact mirrors.ownCollection other finished index waiting entry

theorem lookup_of_dismiss {registry : Registry Key Group} {key other : Key} {index : Nat}
    (entry : (dismiss registry key).entries.lookup other = some index) :
    registry.entries.lookup other = some index := by
  cases found : registry.entries.lookup key with
  | none => simpa [dismiss, found] using entry
  | some target =>
      simp only [dismiss_eq found] at entry
      have different : other ≠ key := by
        rintro rfl
        simp [AList.lookup_erase] at entry
      rwa [AList.lookup_erase_ne different] at entry

theorem worker_of_dismiss {registry : Registry Key Group} {key : Key} {index : Nat}
    {worker : Worker Key Group} (found : (dismiss registry key).workers[index]? = some worker) :
    ∃ before, registry.workers[index]? = some before ∧ before.key = worker.key ∧
      before.live = worker.live ∧ (worker.dismissed = false → before.dismissed = false ∧
        registry.entries.lookup key ≠ some index) := by
  cases entry : registry.entries.lookup key with
  | none =>
      simp only [dismiss, entry] at found
      exact ⟨worker, found, rfl, rfl, fun kept => ⟨kept, by simp⟩⟩
  | some target =>
      rw [dismiss_eq entry] at found
      obtain ⟨before, old, rfl⟩ := modify_worker found
      by_cases hit : target = index
      · exact ⟨before, old, by simp [hit], by simp [hit], fun kept => by simp [hit] at kept⟩
      · simp only [if_neg hit]
        exact ⟨before, old, rfl, rfl,
          fun kept => ⟨kept, fun same => hit (Option.some.inj same)⟩⟩

theorem dismiss_pending (registry : Registry Key Group) (key : Key) :
    (dismiss registry key).pending = registry.pending := by
  cases found : registry.entries.lookup key with
  | none => simp [dismiss, found]
  | some target => rw [dismiss_eq found]

theorem mirrors_dismiss {registry : Registry Key Group} (key : Key)
    (mirrors : Mirrors registry) : Mirrors (dismiss registry key) := by
  refine ⟨?_, ?_, ?_⟩
  · intro i j first second atI atJ liveI liveJ keyEq
    obtain ⟨first', oldI, keyI, sameI, _⟩ := worker_of_dismiss atI
    obtain ⟨second', oldJ, keyJ, sameJ, _⟩ := worker_of_dismiss atJ
    exact mirrors.exclusive i j first' second' oldI oldJ (sameI.trans liveI) (sameJ.trans liveJ)
      (keyI.trans (keyEq.trans keyJ.symm))
  · intro index worker found live kept
    obtain ⟨before, old, keyEq, sameLive, undismissed⟩ := worker_of_dismiss found
    obtain ⟨keptBefore, notTarget⟩ := undismissed kept
    have entry := mirrors.mirrored index before old (sameLive.trans live) keptBefore
    rw [keyEq] at entry
    have different : worker.key ≠ key := fun same => notTarget (same ▸ entry)
    cases target : registry.entries.lookup key with
    | none => simpa [dismiss, target] using entry
    | some _ => simpa [dismiss, target, AList.lookup_erase_ne different] using entry
  · intro other finished index waiting entry
    rw [dismiss_pending] at waiting
    exact mirrors.ownCollection other finished index waiting (lookup_of_dismiss entry)

omit [DecidableEq Key] in
/-- A finished worker is the only one that changes, and it is not live any more. -/
theorem live_of_finish {registry : Registry Key Group} {target index : Nat} {key : Key}
    {worker : Worker Key Group}
    (found : (finish registry target key).workers[index]? = some worker)
    (live : worker.live = true) : registry.workers[index]? = some worker := by
  obtain ⟨before, old, rfl⟩ := modify_worker found
  by_cases hit : target = index
  · simp [hit] at live
  · rwa [if_neg hit]

theorem mirrors_finish {registry : Registry Key Group} {target : Nat}
    {worker : Worker Key Group} (settled : Settled registry) (mirrors : Mirrors registry)
    (found : registry.workers[target]? = some worker) (live : worker.live = true) :
    Mirrors (finish registry target worker.key) := by
  refine ⟨?_, ?_, ?_⟩
  · intro i j first second atI atJ liveI liveJ keyEq
    exact mirrors.exclusive i j first second (live_of_finish atI liveI)
      (live_of_finish atJ liveJ) liveI liveJ keyEq
  · intro index other at' live' kept
    exact mirrors.mirrored index other (live_of_finish at' live') live' kept
  · intro key finished index waiting entry
    rcases List.mem_append.mp waiting with earlier | new
    · exact mirrors.ownCollection key finished index earlier entry
    · cases List.mem_singleton.mp new
      exact settled target worker index found live entry

theorem lookup_of_collect {registry : Registry Key Group} {key other : Key}
    {finished index : Nat}
    (entry : (collect registry key finished).entries.lookup other = some index) :
    other ≠ key ∧ registry.entries.lookup other = some index := by
  have different : other ≠ key := by
    rintro rfl
    simp [collect, AList.lookup_erase] at entry
  simp only [collect, AList.lookup_erase_ne different] at entry
  exact ⟨different, entry⟩

/-- In a mirroring registry a collection takes out nothing but its own worker. -/
theorem mirrors_collect {registry : Registry Key Group} {key : Key} {finished : Nat}
    (formed : WellFormed registry) (mirrors : Mirrors registry)
    (waiting : (key, finished) ∈ registry.pending) : Mirrors (collect registry key finished) := by
  refine ⟨mirrors.exclusive, ?_, ?_⟩
  · intro index worker found live kept
    have entry := mirrors.mirrored index worker found live kept
    have different : worker.key ≠ key := by
      intro same
      rw [same] at entry
      obtain ⟨ended, at', _, stopped⟩ := formed.pending key finished waiting
      cases mirrors.ownCollection key finished index waiting entry
      have same' : some worker = some ended := found.symm.trans at'
      cases Option.some.inj same'
      rw [stopped] at live
      cases live
    simpa [collect, AList.lookup_erase_ne different] using entry
  · intro other finished' index waiting' entry
    exact mirrors.ownCollection other finished' index (List.mem_of_mem_erase waiting')
      (lookup_of_collect entry).2

theorem mirrors_step {registry next : Registry Key Group} {event : Event Key Group}
    (formed : WellFormed registry) (settled : Settled registry) (mirrors : Mirrors registry)
    (run : step registry event = some next) :
    Mirrors next ↔ Clear registry event := by
  rcases step_cases run with ⟨key, group, rfl, free, rfl⟩ | ⟨key, rfl, _, rfl⟩ |
    ⟨key, index, rfl, _, rfl⟩ | ⟨index, worker, rfl, found, live, rfl⟩ |
    ⟨key, index, rfl, waiting, rfl⟩
  · exact mirrors_hire group formed mirrors free
  · exact ⟨fun _ => trivial, fun _ => mirrors⟩
  · exact ⟨fun _ => trivial, fun _ => mirrors_dismiss key mirrors⟩
  · exact ⟨fun _ => trivial, fun _ => mirrors_finish settled mirrors found live⟩
  · exact ⟨fun _ => trivial, fun _ => mirrors_collect formed mirrors waiting⟩

theorem settled_step {registry next : Registry Key Group} {event : Event Key Group}
    (settled : Settled registry) (clear : Clear registry event)
    (run : step registry event = some next) : Settled next := by
  rcases step_cases run with ⟨key, group, rfl, free, rfl⟩ | ⟨key, rfl, _, rfl⟩ |
    ⟨key, index, rfl, _, rfl⟩ | ⟨index, worker, rfl, found, live, rfl⟩ |
    ⟨key, index, rfl, waiting, rfl⟩
  · intro index worker other found live entry
    rcases hire_worker found with old | ⟨rfl, rfl⟩
    · have different : worker.key ≠ key := by
        intro same
        rw [clear.1 index worker old same] at live
        cases live
      simp only [hire, AList.lookup_insert_ne different] at entry
      exact settled index worker other old live entry
    · simp only [hire, AList.lookup_insert] at entry
      exact (Option.some.inj entry).symm
  · exact settled
  · intro index' worker other found live entry
    obtain ⟨before, old, keyEq, sameLive, _⟩ := worker_of_dismiss found
    have earlier := lookup_of_dismiss entry
    rw [← keyEq] at earlier
    exact settled index' before other old (sameLive.trans live) earlier
  · intro index' worker' other found' live' entry
    exact settled index' worker' other (live_of_finish found' live') live' entry
  · intro index' worker other found live entry
    exact settled index' worker other found live (lookup_of_collect entry).2

/-! ## Registered workers that finished -/

/-- A registered worker that finished still waits for its collection. -/
def Awaited (registry : Registry Key Group) : Prop :=
  ∀ key index worker, registry.entries.lookup key = some index →
    registry.workers[index]? = some worker → worker.live = false → (key, index) ∈ registry.pending

theorem awaited_empty : Awaited (empty : Registry Key Group) := by
  intro key index worker entry
  cases entry

theorem awaited_step {registry next : Registry Key Group} {event : Event Key Group}
    (formed : WellFormed registry) (awaited : Awaited registry)
    (run : step registry event = some next) : Awaited next := by
  rcases step_cases run with ⟨key, group, rfl, free, rfl⟩ | ⟨key, rfl, _, rfl⟩ |
    ⟨key, index, rfl, _, rfl⟩ | ⟨index, worker, rfl, found, live, rfl⟩ |
    ⟨key, index, rfl, waiting, rfl⟩
  · intro other index worker entry found stopped
    by_cases same : other = key
    · subst same
      simp only [hire, AList.lookup_insert] at entry
      cases Option.some.inj entry
      simp only [hire, List.getElem?_concat_length] at found
      cases Option.some.inj found
      cases stopped
    · simp only [hire, AList.lookup_insert_ne same] at entry
      obtain ⟨earlier, old, _⟩ := formed.entries other index entry
      cases Option.some.inj ((hire_keeps_worker key group old).symm.trans found)
      exact awaited other index worker entry old stopped
  · exact awaited
  · intro other place worker entry found stopped
    obtain ⟨before, old, _, sameLive, _⟩ := worker_of_dismiss found
    rw [dismiss_pending]
    exact awaited other place before (lookup_of_dismiss entry) old (sameLive.trans stopped)
  · intro other place after entry found' stopped
    obtain ⟨before, old, shape⟩ := modify_worker found'
    by_cases hit : index = place
    · subst hit
      obtain ⟨registered, listed, keyEq, _⟩ := formed.entries other index entry
      cases Option.some.inj (found.symm.trans listed)
      subst keyEq
      exact List.mem_append_right _ (List.mem_singleton.mpr rfl)
    · rw [if_neg hit] at shape
      subst shape
      exact List.mem_append_left _ (awaited other place after entry old stopped)
  · intro other place worker entry found stopped
    obtain ⟨different, earlier⟩ := lookup_of_collect entry
    have listed := awaited other place worker earlier found stopped
    have apart : (other, place) ≠ (key, index) := fun same => different (congrArg Prod.fst same)
    exact (List.mem_erase_of_ne apart).mpr listed

theorem awaited_exec {registry final : Registry Key Group} {events : List (Event Key Group)}
    (formed : WellFormed registry) (awaited : Awaited registry)
    (run : exec step registry events = some final) : Awaited final := by
  refine (exec_invariant (fun registry => WellFormed registry ∧ Awaited registry) ?_
    ⟨formed, awaited⟩ run).2
  rintro registry event next ⟨formed, awaited⟩ stepped
  exact ⟨wellFormed_step formed stepped, awaited_step formed awaited stepped⟩

/-! ## Schedules without a hire -/

def Event.hires : Event Key Group → Bool
  | .hire _ _ => true
  | _ => false

omit [DecidableEq Key] in
theorem clear_of_noHire {registry : Registry Key Group} {event : Event Key Group}
    (noHire : event.hires = false) : Clear registry event := by
  cases event with
  | hire key group => cases noHire
  | dismiss key => trivial
  | finish index => trivial
  | collect key index => trivial

/-- The three facts that carry the mirror through a run. -/
def Kept (registry : Registry Key Group) : Prop :=
  WellFormed registry ∧ Settled registry ∧ Mirrors registry

theorem kept_noHire {registry final : Registry Key Group} {events : List (Event Key Group)}
    (noHire : ∀ event ∈ events, event.hires = false) (kept : Kept registry)
    (run : exec step registry events = some final) : Kept final := by
  refine exec_invariant_of Kept (fun event => event.hires = false)
    (fun state event next quiet held stepped => ?_) noHire kept run
  obtain ⟨formed, settled, mirrors⟩ := held
  have clear : Clear state event := clear_of_noHire quiet
  exact ⟨wellFormed_step formed stepped, settled_step settled clear stepped,
    (mirrors_step formed settled mirrors stepped).mpr clear⟩

theorem wellFormed_exec {registry final : Registry Key Group} {events : List (Event Key Group)}
    (formed : WellFormed registry) (run : exec step registry events = some final) :
    WellFormed final :=
  exec_invariant WellFormed (fun _ _ _ held stepped => wellFormed_step held stepped) formed run

end Keys

/-! ## When the live workers of a group stay within a cap -/

section Caps
variable [DecidableEq Key] [DecidableEq Group]

def select (registry : Registry Key Group) (keep : Nat → Worker Key Group → Bool) :
    Finset Nat :=
  (Finset.range registry.workers.length).filter fun index =>
    (registry.workers[index]?).any (keep index)

def registered (registry : Registry Key Group) (index : Nat) (worker : Worker Key Group) :
    Bool :=
  decide (registry.entries.lookup worker.key = some index)

/-- The live workers of the group. -/
def liveIn (registry : Registry Key Group) (group : Group) : Finset Nat :=
  select registry fun _ worker => worker.live && decide (worker.group = group)

/-- Those of them that left the registry before they stopped. -/
def strayIn (registry : Registry Key Group) (group : Group) : Finset Nat :=
  select registry fun index worker =>
    worker.live && !registered registry index worker && decide (worker.group = group)

/-- Registered workers of the group that stopped and wait for their collection. -/
def endedIn (registry : Registry Key Group) (group : Group) : Finset Nat :=
  select registry fun index worker =>
    !worker.live && registered registry index worker && decide (worker.group = group)

def listedIn (registry : Registry Key Group) (group : Group) : Finset Nat :=
  select registry fun index worker =>
    registered registry index worker && decide (worker.group = group)

/-- What a cap can see: the entries whose worker belongs to the group. -/
def entriesIn (registry : Registry Key Group) (group : Group) : Nat :=
  (registry.entries.entries.filter fun entry =>
    (registry.workers[entry.2]?).any fun worker => decide (worker.group = group)).length

omit [DecidableEq Key] [DecidableEq Group] in
theorem mem_select {registry : Registry Key Group} {keep : Nat → Worker Key Group → Bool}
    {index : Nat} :
    index ∈ select registry keep ↔
      ∃ worker, registry.workers[index]? = some worker ∧ keep index worker = true := by
  simp only [select, Finset.mem_filter, Finset.mem_range, Option.any_eq_true]
  constructor
  · rintro ⟨_, worker, found, kept⟩
    exact ⟨worker, found, kept⟩
  · rintro ⟨worker, found, kept⟩
    exact ⟨(List.getElem?_eq_some_iff.mp found).1, worker, found, kept⟩

theorem listedIn_eq_entries (registry : Registry Key Group) (group : Group)
    (formed : WellFormed registry) :
    entriesIn registry group = (listedIn registry group).card := by
  let listed := registry.entries.entries.filter fun entry =>
    (registry.workers[entry.2]?).any fun worker => decide (worker.group = group)
  have entryOf : ∀ entry ∈ listed, registry.entries.lookup entry.1 = some entry.2 :=
    fun entry member => AList.mem_lookup_iff.mpr (List.mem_of_mem_filter member)
  have distinct : (listed.map Sigma.snd).Nodup := by
    refine List.Nodup.map_on ?_ (registry.entries.nodupKeys.nodup.filter _)
    intro first memberFirst second memberSecond same
    obtain ⟨worker, found, keyFirst, _⟩ := formed.entries _ _ (entryOf first memberFirst)
    obtain ⟨worker', found', keySecond, _⟩ := formed.entries _ _ (entryOf second memberSecond)
    rw [← same, found] at found'
    cases Option.some.inj found'
    exact Sigma.ext (keyFirst.symm.trans keySecond) (heq_of_eq same)
  have members : (listed.map Sigma.snd).toFinset = listedIn registry group := by
    ext index
    simp only [List.mem_toFinset, List.mem_map, listedIn, mem_select]
    constructor
    · rintro ⟨entry, member, rfl⟩
      obtain ⟨worker, found, keyEq, _⟩ := formed.entries _ _ (entryOf entry member)
      have kept := (List.mem_filter.mp member).2
      rw [found] at kept
      refine ⟨worker, found, ?_⟩
      have looked := entryOf entry member
      rw [← keyEq] at looked
      simpa [registered, looked] using kept
    · rintro ⟨worker, found, kept⟩
      simp only [registered, Bool.and_eq_true, decide_eq_true_eq] at kept
      refine ⟨⟨worker.key, index⟩, List.mem_filter.mpr ⟨?_, ?_⟩, rfl⟩
      · exact AList.mem_lookup_iff.mp kept.1
      · simp [found, kept.2]
  calc entriesIn registry group
      = (listed.map Sigma.snd).length := (List.length_map ..).symm
    _ = (listed.map Sigma.snd).toFinset.card := (List.toFinset_card_of_nodup distinct).symm
    _ = (listedIn registry group).card := by rw [members]

/-- The cap's blind spot in numbers: what is live differs from what is listed
by the strays it misses and the ended workers it still counts. -/
theorem liveIn_add_endedIn (registry : Registry Key Group) (group : Group) :
    (liveIn registry group).card + (endedIn registry group).card =
      (listedIn registry group).card + (strayIn registry group).card := by
  have apartLeft : Disjoint (liveIn registry group) (endedIn registry group) := by
    rw [Finset.disjoint_left]
    intro index live ended
    obtain ⟨worker, found, kept⟩ := mem_select.mp live
    obtain ⟨worker', found', kept'⟩ := mem_select.mp ended
    rw [found] at found'
    cases Option.some.inj found'
    simp_all
  have apartRight : Disjoint (listedIn registry group) (strayIn registry group) := by
    rw [Finset.disjoint_left]
    intro index listed stray
    obtain ⟨worker, found, kept⟩ := mem_select.mp listed
    obtain ⟨worker', found', kept'⟩ := mem_select.mp stray
    rw [found] at found'
    cases Option.some.inj found'
    simp_all
  have same : liveIn registry group ∪ endedIn registry group =
      listedIn registry group ∪ strayIn registry group := by
    ext index
    simp only [Finset.mem_union, liveIn, endedIn, listedIn, strayIn, mem_select]
    constructor
    · rintro (⟨worker, found, kept⟩ | ⟨worker, found, kept⟩)
      · cases entry : registered registry index worker
        · exact Or.inr ⟨worker, found, by simpa [entry] using kept⟩
        · exact Or.inl ⟨worker, found, by simp_all⟩
      · exact Or.inl ⟨worker, found, by simp_all⟩
    · rintro (⟨worker, found, kept⟩ | ⟨worker, found, kept⟩)
      · cases live : worker.live
        · exact Or.inr ⟨worker, found, by simpa [live] using kept⟩
        · exact Or.inl ⟨worker, found, by simp_all⟩
      · exact Or.inl ⟨worker, found, by simp_all⟩
  rw [← Finset.card_union_of_disjoint apartLeft, ← Finset.card_union_of_disjoint apartRight, same]

/-- The entries show at least as many workers as are live when the ended ones
among them make up for the strays. -/
theorem liveIn_le_entriesIn {group : Group} {registry : Registry Key Group}
    (formed : WellFormed registry)
    (covered : (strayIn registry group).card ≤ (endedIn registry group).card) :
    (liveIn registry group).card ≤ entriesIn registry group := by
  have balance := liveIn_add_endedIn registry group
  rw [listedIn_eq_entries registry group formed]
  omega

theorem liveIn_hire (registry : Registry Key Group) (key : Key) (hired group : Group) :
    (liveIn (hire registry key hired) group).card =
      (liveIn registry group).card + if hired = group then 1 else 0 := by
  have newest : (hire registry key hired).workers[registry.workers.length]? =
      some ⟨key, hired, true, false⟩ := by simp [hire]
  have older : ∀ index, index ∈ liveIn registry group → index ≠ registry.workers.length := by
    rintro index member rfl
    obtain ⟨worker, found, _⟩ := mem_select.mp member
    simp at found
  by_cases own : hired = group
  · have grown : liveIn (hire registry key hired) group =
        insert registry.workers.length (liveIn registry group) := by
      ext index
      simp only [Finset.mem_insert, liveIn, mem_select]
      constructor
      · rintro ⟨worker, found, kept⟩
        rcases hire_worker found with old | ⟨rfl, _⟩
        · exact Or.inr ⟨worker, old, kept⟩
        · exact Or.inl rfl
      · rintro (rfl | ⟨worker, found, kept⟩)
        · exact ⟨_, newest, by simp [own]⟩
        · exact ⟨worker, hire_keeps_worker key hired found, kept⟩
    rw [grown, Finset.card_insert_of_notMem fun member => older _ member rfl, if_pos own]
  · have same : liveIn (hire registry key hired) group = liveIn registry group := by
      ext index
      simp only [liveIn, mem_select]
      constructor
      · rintro ⟨worker, found, kept⟩
        rcases hire_worker found with old | ⟨_, rfl⟩
        · exact ⟨worker, old, kept⟩
        · simp [own] at kept
      · rintro ⟨worker, found, kept⟩
        exact ⟨worker, hire_keeps_worker key hired found, kept⟩
    rw [same, if_neg own, Nat.add_zero]

omit [DecidableEq Key] in
theorem liveIn_modify_subset {registry next : Registry Key Group} (group : Group)
    {target : Nat} {change : Worker Key Group → Worker Key Group}
    (workers : next.workers = registry.workers.modify target change)
    (sameGroup : ∀ worker, (change worker).group = worker.group)
    (noLife : ∀ worker, (change worker).live = true → worker.live = true) :
    liveIn next group ⊆ liveIn registry group := by
  intro index member
  obtain ⟨worker, found, kept⟩ := mem_select.mp member
  rw [workers] at found
  obtain ⟨before, old, rfl⟩ := modify_worker found
  refine mem_select.mpr ⟨before, old, ?_⟩
  simp only [Bool.and_eq_true, decide_eq_true_eq] at kept ⊢
  by_cases hit : target = index
  · rw [if_pos hit] at kept
    exact ⟨noLife before kept.1, (sameGroup before).symm.trans kept.2⟩
  · rwa [if_neg hit] at kept

theorem liveIn_step_subset {registry next : Registry Key Group} {event : Event Key Group}
    (group : Group) (run : step registry event = some next) (noHire : event.hires = false) :
    liveIn next group ⊆ liveIn registry group := by
  rcases step_cases run with ⟨key, hired, rfl, _⟩ | ⟨_, _, _, rfl⟩ |
    ⟨key, index, _, found, rfl⟩ | ⟨index, worker, _, _, _, rfl⟩ | ⟨key, index, _, _, rfl⟩
  · cases noHire
  · exact Finset.Subset.refl _
  · rw [dismiss_eq found]
    exact liveIn_modify_subset group rfl (fun _ => rfl) fun _ live => live
  · exact liveIn_modify_subset group rfl (fun _ => rfl) fun _ live => by cases live
  · exact Finset.Subset.refl _

theorem liveIn_exec_subset {registry final : Registry Key Group}
    {events : List (Event Key Group)} (group : Group)
    (noHire : ∀ event ∈ events, event.hires = false)
    (run : exec step registry events = some final) :
    liveIn final group ⊆ liveIn registry group := by
  refine exec_invariant_of (fun state => liveIn state group ⊆ liveIn registry group)
    (fun event => event.hires = false)
    (fun state event next quiet held stepped => ?_) noHire (Finset.Subset.refl _) run
  exact (liveIn_step_subset group stepped quiet).trans held

/-- A hire keeps the cap that it was checked against when the strays are covered. -/
theorem liveIn_hire_le {cap : Nat} {group : Group} {registry : Registry Key Group} (key : Key)
    (hired : Group) (formed : WellFormed registry)
    (within : (liveIn registry group).card ≤ cap)
    (room : hired = group → entriesIn registry group < cap ∧
      (strayIn registry group).card ≤ (endedIn registry group).card) :
    (liveIn (hire registry key hired) group).card ≤ cap := by
  rw [liveIn_hire]
  by_cases own : hired = group
  · obtain ⟨checked, covered⟩ := room own
    have shown := liveIn_le_entriesIn formed covered
    rw [if_pos own]
    omega
  · rw [if_neg own]
    exact within

theorem listedIn_subset {registry next : Registry Key Group} (group : Group)
    (workers : ∀ (index : Nat) worker, next.workers[index]? = some worker →
      ∃ before, registry.workers[index]? = some before ∧ worker.key = before.key ∧
        worker.group = before.group)
    (entries : ∀ key index, next.entries.lookup key = some index →
      registry.entries.lookup key = some index) :
    listedIn next group ⊆ listedIn registry group := by
  intro index member
  obtain ⟨worker, found, kept⟩ := mem_select.mp member
  obtain ⟨before, old, sameKey, sameGroup⟩ := workers index worker found
  simp only [registered, Bool.and_eq_true, decide_eq_true_eq] at kept
  refine mem_select.mpr ⟨before, old, ?_⟩
  simp only [registered, Bool.and_eq_true, decide_eq_true_eq]
  exact ⟨entries _ _ (sameKey ▸ kept.1), sameGroup ▸ kept.2⟩

theorem listedIn_step_subset {registry next : Registry Key Group} {event : Event Key Group}
    (group : Group) (run : step registry event = some next) (noHire : event.hires = false) :
    listedIn next group ⊆ listedIn registry group := by
  have modified : ∀ (target : Nat) (change : Worker Key Group → Worker Key Group),
      (∀ worker, (change worker).key = worker.key ∧ (change worker).group = worker.group) →
      ∀ (index : Nat) worker, (registry.workers.modify target change)[index]? = some worker →
        ∃ before, registry.workers[index]? = some before ∧ worker.key = before.key ∧
          worker.group = before.group := by
    intro target change same index worker found
    obtain ⟨before, old, rfl⟩ := modify_worker found
    refine ⟨before, old, ?_⟩
    split
    · exact same before
    · exact ⟨rfl, rfl⟩
  have erased : ∀ erased key index, (registry.entries.erase erased).lookup key = some index →
      registry.entries.lookup key = some index := by
    intro erased key index found
    by_cases same : key = erased
    · subst same
      rw [AList.lookup_erase] at found
      cases found
    · rwa [AList.lookup_erase_ne same] at found
  rcases step_cases run with ⟨key, hired, rfl, _⟩ | ⟨_, _, _, rfl⟩ |
    ⟨key, index, _, found, rfl⟩ | ⟨index, worker, _, _, _, rfl⟩ | ⟨key, index, _, _, rfl⟩
  · cases noHire
  · exact Finset.Subset.refl _
  · rw [dismiss_eq found]
    exact listedIn_subset group (modified _ _ fun _ => ⟨rfl, rfl⟩) (erased key)
  · exact listedIn_subset group (modified _ _ fun _ => ⟨rfl, rfl⟩) fun _ _ same => same
  · exact listedIn_subset group (fun _ worker found => ⟨worker, found, rfl, rfl⟩) (erased key)

theorem entriesIn_exec_le {registry final : Registry Key Group}
    {events : List (Event Key Group)} (group : Group) (formed : WellFormed registry)
    (noHire : ∀ event ∈ events, event.hires = false)
    (run : exec step registry events = some final) :
    entriesIn final group ≤ entriesIn registry group := by
  rw [listedIn_eq_entries registry group formed,
    listedIn_eq_entries final group (wellFormed_exec formed run)]
  refine Finset.card_le_card ?_
  refine exec_invariant_of (fun state => listedIn state group ⊆ listedIn registry group)
    (fun event => event.hires = false)
    (fun state event next quiet held stepped => ?_) noHire (Finset.Subset.refl _) run
  exact (listedIn_step_subset group stepped quiet).trans held

theorem entriesIn_hire {registry : Registry Key Group} {key : Key} (hired group : Group)
    (formed : WellFormed registry) (free : registry.entries.lookup key = none) :
    entriesIn (hire registry key hired) group =
      entriesIn registry group + if hired = group then 1 else 0 := by
  rw [listedIn_eq_entries registry group formed,
    listedIn_eq_entries _ group (wellFormed_hire key hired formed)]
  have older : registry.workers.length ∉ listedIn registry group := by
    intro member
    obtain ⟨worker, found, _⟩ := mem_select.mp member
    simp at found
  have listed : ∀ index, index ∈ listedIn (hire registry key hired) group ↔
      (index = registry.workers.length ∧ hired = group) ∨ index ∈ listedIn registry group := by
    intro index
    constructor
    · intro member
      obtain ⟨worker, found, kept⟩ := mem_select.mp member
      simp only [registered, Bool.and_eq_true, decide_eq_true_eq] at kept
      rcases hire_worker found with old | ⟨rfl, rfl⟩
      · refine Or.inr (mem_select.mpr ⟨worker, old, ?_⟩)
        have differs : worker.key ≠ key := by
          rintro rfl
          have newest := kept.1
          simp only [hire, AList.lookup_insert] at newest
          have inside := (List.getElem?_eq_some_iff.mp old).1
          exact absurd (Option.some.inj newest) (Nat.ne_of_gt inside)
        have entry := kept.1
        simp only [hire, AList.lookup_insert_ne differs] at entry
        simp only [registered, entry, kept.2, decide_true, Bool.and_self]
      · exact Or.inl ⟨rfl, kept.2⟩
    · rintro (⟨rfl, own⟩ | member)
      · exact mem_select.mpr ⟨⟨key, hired, true, false⟩, by simp [hire], by simp [registered, hire, own]⟩
      · obtain ⟨worker, found, kept⟩ := mem_select.mp member
        simp only [registered, Bool.and_eq_true, decide_eq_true_eq] at kept
        have differs : worker.key ≠ key := by
          rintro rfl
          cases free.symm.trans kept.1
        refine mem_select.mpr ⟨worker, hire_keeps_worker key hired found, ?_⟩
        simp only [registered, hire, AList.lookup_insert_ne differs, kept, decide_true,
          Bool.and_self]
  by_cases own : hired = group
  · have grown : listedIn (hire registry key hired) group =
        insert registry.workers.length (listedIn registry group) := by
      ext index
      rw [listed, Finset.mem_insert, and_iff_left own]
    rw [grown, Finset.card_insert_of_notMem older, if_pos own]
  · have same : listedIn (hire registry key hired) group = listedIn registry group := by
      ext index
      rw [listed, or_iff_right fun both => own both.2]
    rw [same, if_neg own, Nat.add_zero]

end Caps

end LiveChat.Foundation.WorkerRegistry
