import LiveChat.Foundation.Places
import LiveChat.Foundation.Tables
import LiveChat.Repositories.ProjectRepo

/-!
# What a step of the project store can do

`step_moved` sorts the steps, and `config_source` says where the configurations come
from that the store, the cache and the calls hold: every one was read from a document
that `create` inserted or `update_one` changed.
-/

set_option autoImplicit false

namespace LiveChat.Repositories.ProjectRepo

open LiveChat.Core
open LiveChat.Foundation
open LiveChat.Foundation.TransitionSystem (RunsOn)

theorem lookup_erase_some {Value : Type} {entries : AList fun _ : String => Value}
    {erased key : String} {value : Value}
    (found : (entries.erase erased).lookup key = some value) :
    key ≠ erased ∧ entries.lookup key = some value := by
  by_cases same : key = erased
  · subst same
    rw [AList.lookup_erase] at found
    cases found
  · rw [AList.lookup_erase_ne same] at found
    exact ⟨same, found⟩

theorem getProjectConfig_some {store : Store} {projectId : String} {config : ProjectConfig}
    (hit : store.getProjectConfig projectId = some config) :
    ∃ entry, store.projectConfigs.lookup projectId = some entry ∧ entry.config = config := by
  simp only [Store.getProjectConfig] at hit
  split at hit
  · cases hit
  · rename_i entry listed
    split at hit
    · cases hit
      exact ⟨entry, listed, rfl⟩
    · cases hit

theorem getConfig_now (store : Store) (projectId tenantId : String) :
    (store.getConfig projectId tenantId).1.now = store.now := by
  unfold Store.getConfig
  split
  · rfl
  · split
    · rfl
    · split <;> rfl

/-- The configuration that a call has in its hands. -/
def ReadPhase.config : ReadPhase → Option ProjectConfig
  | .started | .missed => none
  | .found doc => some doc.toProjectConfig
  | .returned result => result

namespace State

/-- The steps of the project store. -/
inductive Moved (state : State) : RepoEvent → State → Prop where
  | created {doc : ProjectDoc} (free : state.store.projects.lookup doc.id = none) :
      Moved state (.create doc) (state.put doc.id doc)
  | asked (projectId tenantId : String) :
      Moved state (.getConfig projectId tenantId) (state.ask projectId tenantId)
  | hit {index : Nat} {read : ReadCall} {config : ProjectConfig}
      (found : state.reads[index]? = some read) (phase : read.phase = .started)
      (cached : state.store.getProjectConfig read.projectId = some config) :
      Moved state (.redisGet index) (state.setRead index (.returned (some config)))
  | missed {index : Nat} {read : ReadCall} (found : state.reads[index]? = some read)
      (phase : read.phase = .started) :
      Moved state (.redisGet index) (state.setRead index .missed)
  | refused {index : Nat} {read : ReadCall} (found : state.reads[index]? = some read)
      (phase : read.phase = .missed)
      (absent : ∀ doc, state.store.getById read.projectId (some read.tenantId) = some doc →
        doc.isActive = false) :
      Moved state (.findOne index) (state.setRead index (.returned none))
  | fetched {index : Nat} {read : ReadCall} {doc : ProjectDoc}
      (found : state.reads[index]? = some read) (phase : read.phase = .missed)
      (stored : state.store.getById read.projectId (some read.tenantId) = some doc)
      (active : doc.isActive = true) :
      Moved state (.findOne index) (state.setRead index (.found doc))
  | filled {index : Nat} {read : ReadCall} {doc : ProjectDoc}
      (found : state.reads[index]? = some read) (phase : read.phase = .found doc) :
      Moved state (.redisSet index)
        ((state.fill read.projectId doc.toProjectConfig).setRead index
          (.returned (some doc.toProjectConfig)))
  | unmodified {projectId tenantId : String} {write : Write} {updatedAt : Instant} :
      Moved state (.updateOne projectId tenantId write updatedAt) state
  | wrote {projectId tenantId : String} {write : Write} {updatedAt : Instant} {doc : ProjectDoc}
      (changed : state.store.modified projectId tenantId write.fields updatedAt = some doc) :
      Moved state (.updateOne projectId tenantId write updatedAt)
        ((state.put projectId doc).recordWrite projectId write)
  | updated {index : Nat} {write : WriteCall} (found : state.writes[index]? = some write)
      (phase : write.phase = .written) :
      Moved state (.redisDel index) ((state.invalidate write.projectId).setWrite index .updated)
  | returned {index : Nat} {write : WriteCall} (found : state.writes[index]? = some write) :
      Moved state (.redisDel index)
        (((state.invalidate write.projectId).complete write.projectId write.version).setWrite
          index .returned)
  | ticked (elapsed : Nat) :
      Moved state (.tick elapsed)
        { state with store := { state.store with now := state.store.now + elapsed } }

theorem step_moved {state next : State} {event : RepoEvent} (run : state.step event = some next) :
    Moved state event next := by
  cases event with
  | create doc =>
      simp only [step] at run
      split at run
      · rename_i free
        cases run
        exact .created free
      · cases run
  | getConfig projectId tenantId =>
      cases run
      exact .asked projectId tenantId
  | redisGet index =>
      simp only [step] at run
      split at run
      · rename_i found
        split at run
        · rename_i cached
          cases run
          exact .hit found rfl cached
        · cases run
          exact .missed found rfl
      · cases run
  | findOne index =>
      simp only [step] at run
      split at run
      · rename_i found
        split at run
        · rename_i absent
          cases run
          refine .refused found rfl fun doc stored => ?_
          exact absurd (absent.symm.trans stored) nofun
        · rename_i doc stored
          split at run
          · rename_i active
            cases run
            exact .fetched found rfl stored active
          · rename_i inactive
            cases run
            refine .refused found rfl fun other same => ?_
            cases Option.some.inj (stored.symm.trans same)
            exact Bool.eq_false_iff.mpr inactive
      · cases run
  | redisSet index =>
      simp only [step] at run
      split at run
      · rename_i found
        cases run
        exact .filled found rfl
      · cases run
  | updateOne projectId tenantId write updatedAt =>
      simp only [step] at run
      split at run
      · split at run
        · cases run
          exact .unmodified
        · rename_i changed
          cases run
          exact .wrote changed
      · cases run
  | redisDel index =>
      simp only [step] at run
      split at run
      · rename_i found
        cases run
        exact .updated found rfl
      · rename_i found
        cases run
        exact .returned found
      · rename_i found
        cases run
        exact .returned found
      · cases run
  | tick elapsed =>
      cases run
      exact .ticked elapsed

theorem now_moved {state next : State} {event : RepoEvent} (moved : Moved state event next)
    (other : ∀ elapsed, event ≠ .tick elapsed) : next.store.now = state.store.now := by
  cases moved with
  | ticked elapsed => exact absurd rfl (other elapsed)
  | _ => rfl

theorem forall_setRead {state : State} {kept : ReadCall → Prop} {index : Nat} {phase : ReadPhase}
    (all : ∀ read ∈ state.reads, kept read)
    (changed : ∀ read, state.reads[index]? = some read → kept { read with phase := phase }) :
    ∀ read ∈ (state.setRead index phase).reads, kept read :=
  Places.forall_modify all changed

theorem forall_setWrite {state : State} {kept : WriteCall → Prop} {index : Nat}
    {phase : WritePhase} (all : ∀ write ∈ state.writes, kept write)
    (changed : ∀ write, state.writes[index]? = some write → kept { write with phase := phase }) :
    ∀ write ∈ (state.setWrite index phase).writes, kept write :=
  Places.forall_modify all changed

/-! ## Where configurations come from -/

/-- The configurations that the store, the cache and the calls hold. -/
inductive Holds (state : State) : ProjectConfig → Prop where
  | stored {projectId : String} {doc : ProjectDoc} :
      state.store.projects.lookup projectId = some doc → Holds state doc.toProjectConfig
  | cached {projectId : String} {entry : CacheEntry} :
      state.store.projectConfigs.lookup projectId = some entry → Holds state entry.config
  | read {read : ReadCall} {config : ProjectConfig} : read ∈ state.reads →
      read.phase.config = some config → Holds state config

/-- The document that a step writes. -/
inductive Writes (state : State) : RepoEvent → ProjectDoc → Prop where
  | created {doc : ProjectDoc} (free : state.store.projects.lookup doc.id = none) :
      Writes state (.create doc) doc
  | updated {projectId tenantId : String} {write : Write} {updatedAt : Instant}
      {doc : ProjectDoc} (stored : state.store.projects.lookup projectId = some doc)
      (own : doc.tenantId = tenantId) :
      Writes state (.updateOne projectId tenantId write updatedAt)
        (write.fields.set updatedAt doc)

theorem modified_some {store : Store} {projectId tenantId : String} {fields : ProjectFields}
    {updatedAt : Instant} {doc : ProjectDoc}
    (changed : store.modified projectId tenantId fields updatedAt = some doc) :
    ∃ before, store.projects.lookup projectId = some before ∧ before.tenantId = tenantId ∧
      doc = fields.set updatedAt before := by
  simp only [Store.modified] at changed
  split at changed
  · cases changed
  · rename_i before stored
    split at changed
    · rename_i kept
      exact ⟨before, stored, kept.1, (Option.some.inj changed).symm⟩
    · cases changed

theorem lookup_put {state : State} {projectId other : String} {new doc : ProjectDoc}
    (found : (state.put projectId new).store.projects.lookup other = some doc) :
    (other = projectId ∧ doc = new) ∨ state.store.projects.lookup other = some doc := by
  by_cases same : other = projectId
  · subst same
    simp only [put, AList.lookup_insert] at found
    exact Or.inl ⟨rfl, (Option.some.inj found).symm⟩
  · simp only [put, AList.lookup_insert_ne same] at found
    exact Or.inr found

theorem stored_source {state next : State} {event : RepoEvent} (moved : Moved state event next)
    {projectId : String} {doc : ProjectDoc}
    (found : next.store.projects.lookup projectId = some doc) :
    state.store.projects.lookup projectId = some doc ∨ Writes state event doc := by
  cases moved with
  | created free =>
      rcases lookup_put found with ⟨rfl, rfl⟩ | old
      · exact Or.inr (.created free)
      · exact Or.inl old
  | wrote changed =>
      obtain ⟨before, stored, own, rfl⟩ := modified_some changed
      rcases lookup_put found with ⟨rfl, rfl⟩ | old
      · exact Or.inr (.updated stored own)
      · exact Or.inl old
  | _ => exact Or.inl found

theorem cached_source {state next : State} {event : RepoEvent} (moved : Moved state event next)
    {projectId : String} {entry : CacheEntry}
    (listed : next.store.projectConfigs.lookup projectId = some entry) :
    Holds state entry.config := by
  cases moved with
  | @filled index read doc found phase =>
      by_cases same : projectId = read.projectId
      · subst same
        simp only [setRead, fill, Store.setProjectConfig, AList.lookup_insert] at listed
        cases Option.some.inj listed
        exact .read (List.mem_of_getElem? found) (by simp [phase, ReadPhase.config])
      · simp only [setRead, fill, Store.setProjectConfig, AList.lookup_insert_ne same] at listed
        exact .cached listed
  | updated found phase => exact .cached (lookup_erase_some listed).2
  | returned found => exact .cached (lookup_erase_some listed).2
  | _ => exact .cached listed

theorem mem_setRead {state : State} {index : Nat} {phase : ReadPhase} {read : ReadCall}
    (member : read ∈ (state.setRead index phase).reads) :
    read ∈ state.reads ∨ read.phase = phase := by
  have all : ∀ read ∈ (state.setRead index phase).reads,
      read ∈ state.reads ∨ read.phase = phase :=
    forall_setRead (fun _ old => Or.inl old) fun _ _ => Or.inr rfl
  exact all read member

/-- A call that a step set to a phase holds what it held, or what the phase holds. -/
theorem read_source {state : State} {index : Nat} {phase : ReadPhase} {read : ReadCall}
    {config : ProjectConfig} (member : read ∈ (state.setRead index phase).reads)
    (carries : read.phase.config = some config)
    (new : phase.config = some config → Holds state config) : Holds state config := by
  rcases mem_setRead member with old | same
  · exact .read old carries
  · exact new (same ▸ carries)

/-- Every configuration after a step was there before, or is that of the document the
step wrote. -/
theorem config_source {state next : State} {event : RepoEvent} (moved : Moved state event next)
    {config : ProjectConfig} (holds : Holds next config) :
    Holds state config ∨ ∃ doc, Writes state event doc ∧ config = doc.toProjectConfig := by
  cases holds with
  | stored found =>
      rcases stored_source moved found with old | wrote
      · exact Or.inl (.stored old)
      · exact Or.inr ⟨_, wrote, rfl⟩
  | cached listed => exact Or.inl (cached_source moved listed)
  | read member carries =>
      refine Or.inl ?_
      cases moved with
      | asked projectId tenantId =>
          rcases List.mem_append.mp member with old | new
          · exact .read old carries
          · cases List.mem_singleton.mp new
            cases carries
      | hit found phase cached =>
          refine read_source member carries fun same => ?_
          obtain ⟨entry, listed, rfl⟩ := getProjectConfig_some cached
          cases same
          exact .cached listed
      | missed found phase => exact read_source member carries nofun
      | refused found phase absent => exact read_source member carries nofun
      | fetched found phase stored active =>
          refine read_source member carries fun same => ?_
          cases same
          exact .stored (Option.filter_eq_some_iff.mp stored).1
      | filled found phase =>
          refine read_source member carries fun same => ?_
          cases same
          exact .read (List.mem_of_getElem? found) (by simp [phase, ReadPhase.config])
      | _ => exact .read member carries

end State

/-! ## Configurations on their way -/

theorem getProjectConfig_eq_some {store : Store} {projectId : String} {config : ProjectConfig} :
    store.getProjectConfig projectId = some config ↔
      ∃ entry, store.projectConfigs.lookup projectId = some entry ∧
        store.now < entry.expiresAt ∧ entry.config = config := by
  unfold Store.getProjectConfig
  split
  · rename_i absent
    constructor
    · intro hit
      cases hit
    · rintro ⟨entry, listed, _⟩
      cases absent.symm.trans listed
  · rename_i entry listed
    rw [Option.ite_none_right_eq_some, Option.some.injEq]
    constructor
    · rintro ⟨live, same⟩
      exact ⟨entry, listed, live, same⟩
    · rintro ⟨other, listed', live, same⟩
      cases Option.some.inj (listed.symm.trans listed')
      exact ⟨live, same⟩

/-- The document that a call has read and is about to cache. -/
def ReadPhase.fetched : ReadPhase → Option ProjectDoc
  | .found doc => some doc
  | _ => none

namespace State

/-- The configurations that the cache answers with, and those about to be cached. -/
def underway (state : State) : List ProjectConfig :=
  ((Tables.rows state.store.projectConfigs).filter fun entry =>
      decide (state.store.now < entry.expiresAt)).map CacheEntry.config ++
    state.reads.filterMap fun read => read.phase.fetched.map ProjectDoc.toProjectConfig

theorem mem_underway {state : State} {config : ProjectConfig} :
    config ∈ state.underway ↔
      (∃ projectId, state.store.getProjectConfig projectId = some config) ∨
      ∃ read ∈ state.reads, ∃ doc, read.phase = .found doc ∧ doc.toProjectConfig = config := by
  simp only [underway, List.mem_append, List.mem_map, List.mem_filter, Tables.mem_rows,
    decide_eq_true_eq, List.mem_filterMap, Option.map_eq_some_iff]
  refine or_congr ?_ ?_
  · constructor
    · rintro ⟨entry, ⟨⟨projectId, listed⟩, live⟩, same⟩
      exact ⟨projectId, getProjectConfig_eq_some.mpr ⟨entry, listed, live, same⟩⟩
    · rintro ⟨projectId, hit⟩
      obtain ⟨entry, listed, live, same⟩ := getProjectConfig_eq_some.mp hit
      exact ⟨entry, ⟨⟨projectId, listed⟩, live⟩, same⟩
  · constructor
    · rintro ⟨read, member, doc, fetched, same⟩
      refine ⟨read, member, doc, ?_, same⟩
      cases phase : read.phase with
      | found other =>
          rw [phase] at fetched
          cases fetched
          rfl
      | _ =>
          rw [phase] at fetched
          cases fetched
    · rintro ⟨read, member, doc, phase, same⟩
      exact ⟨read, member, doc, by rw [phase]; rfl, same⟩

theorem hit_moved {state next : State} {event : RepoEvent} (moved : Moved state event next)
    {projectId : String} {config : ProjectConfig}
    (hit : next.store.getProjectConfig projectId = some config) : config ∈ state.underway := by
  obtain ⟨entry, listed, live, same⟩ := getProjectConfig_eq_some.mp hit
  have old : state.store.projectConfigs.lookup projectId = some entry →
      state.store.now < entry.expiresAt → config ∈ state.underway := fun listed live =>
    mem_underway.mpr (Or.inl ⟨projectId, getProjectConfig_eq_some.mpr ⟨entry, listed, live, same⟩⟩)
  cases moved with
  | @filled index read doc found phase =>
      by_cases here : projectId = read.projectId
      · subst here
        simp only [setRead, fill, Store.setProjectConfig, AList.lookup_insert] at listed
        cases Option.some.inj listed
        exact mem_underway.mpr (Or.inr ⟨read, List.mem_of_getElem? found, doc, phase, same⟩)
      · simp only [setRead, fill, Store.setProjectConfig, AList.lookup_insert_ne here] at listed
        exact old listed live
  | updated found phase => exact old (lookup_erase_some listed).2 live
  | returned found => exact old (lookup_erase_some listed).2 live
  | ticked elapsed => exact old listed (Nat.lt_of_le_of_lt (Nat.le_add_right _ _) live)
  | _ => exact old listed live

theorem underway_moved {state next : State} {event : RepoEvent} (moved : Moved state event next)
    {config : ProjectConfig} (member : config ∈ next.underway) :
    config ∈ state.underway ∨
      ∃ projectId doc, state.store.projects.lookup projectId = some doc ∧
        doc.toProjectConfig = config := by
  rcases mem_underway.mp member with ⟨projectId, hit⟩ | ⟨read, member, doc, phase, same⟩
  · exact Or.inl (hit_moved moved hit)
  · have old : read ∈ state.reads → config ∈ state.underway := fun member =>
      mem_underway.mpr (Or.inr ⟨read, member, doc, phase, same⟩)
    have changed : ∀ {place other}, read ∈ (state.setRead place other).reads →
        (∀ fetched, other ≠ .found fetched) → config ∈ state.underway := by
      intro place other member unlike
      rcases mem_setRead member with there | here
      · exact old there
      · exact absurd (here.symm.trans phase) (unlike doc)
    cases moved with
    | asked projectId tenantId =>
        rcases List.mem_append.mp member with there | new
        · exact Or.inl (old there)
        · cases List.mem_singleton.mp new
          cases phase
    | fetched found before stored active =>
        rcases mem_setRead member with there | here
        · exact Or.inl (old there)
        · cases here.symm.trans phase
          exact Or.inr ⟨_, doc, (Option.filter_eq_some_iff.mp stored).1, same⟩
    | hit found before cached => exact Or.inl (changed member fun _ same => by cases same)
    | missed found before => exact Or.inl (changed member fun _ same => by cases same)
    | refused found before absent => exact Or.inl (changed member fun _ same => by cases same)
    | filled found before => exact Or.inl (changed member fun _ same => by cases same)
    | _ => exact Or.inl (old member)

theorem returned_moved {state next : State} {event : RepoEvent} (moved : Moved state event next)
    {index : Nat} {read : ReadCall} {config : ProjectConfig}
    (found : next.reads[index]? = some read) (phase : read.phase = .returned (some config)) :
    state.reads[index]? = some read ∨ config ∈ state.underway := by
  have changed : ∀ {place other}, (state.setRead place other).reads[index]? = some read →
      (other = .returned (some config) → config ∈ state.underway) →
      state.reads[index]? = some read ∨ config ∈ state.underway := by
    intro place other there new
    rcases Places.modify_source there with ⟨_, old⟩ | ⟨_, before, _, rfl⟩
    · exact Or.inl old
    · exact Or.inr (new phase)
  cases moved with
  | asked projectId tenantId =>
      rcases Places.concat_source found with old | ⟨_, rfl⟩
      · exact Or.inl old
      · cases phase
  | hit there before cached =>
      refine changed found fun same => ?_
      cases same
      exact mem_underway.mpr (Or.inl ⟨_, cached⟩)
  | missed there before => exact changed found fun same => by cases same
  | refused there before absent => exact changed found fun same => by cases same
  | fetched there before stored active => exact changed found fun same => by cases same
  | filled there before =>
      refine changed found fun same => ?_
      cases same
      exact mem_underway.mpr (Or.inr ⟨_, List.mem_of_getElem? there, _, before, rfl⟩)
  | _ => exact Or.inl found

/-! ## Projects keep their id and their tenant -/

def Identified (state : State) : Prop :=
  ∀ projectId doc, state.store.projects.lookup projectId = some doc → doc.id = projectId

/-- Every configuration is one of a stored project and of its tenant. -/
def Owned (state : State) : Prop :=
  ∀ config, Holds state config → ∃ doc,
    state.store.projects.lookup config.projectId = some doc ∧ doc.tenantId = config.tenantId

theorem identified_moved {state next : State} {event : RepoEvent} (identified : Identified state)
    (moved : Moved state event next) : Identified next := by
  intro projectId doc found
  cases moved with
  | created free =>
      rcases lookup_put found with ⟨rfl, rfl⟩ | old
      · rfl
      · exact identified projectId doc old
  | wrote changed =>
      obtain ⟨before, stored, _, rfl⟩ := modified_some changed
      rcases lookup_put found with ⟨rfl, rfl⟩ | old
      · exact identified _ before stored
      · exact identified projectId doc old
  | _ => exact identified projectId doc found

theorem tenant_moved {state next : State} {event : RepoEvent} (moved : Moved state event next)
    {projectId : String} {doc : ProjectDoc}
    (stored : state.store.projects.lookup projectId = some doc) :
    ∃ after, next.store.projects.lookup projectId = some after ∧
      after.tenantId = doc.tenantId := by
  cases moved with
  | @created new free =>
      refine ⟨doc, ?_, rfl⟩
      by_cases same : projectId = new.id
      · rw [same, free] at stored
        cases stored
      · simpa only [put, AList.lookup_insert_ne same] using stored
  | @wrote changedId _ _ _ new changed =>
      obtain ⟨before, found, _, rfl⟩ := modified_some changed
      by_cases same : projectId = changedId
      · subst same
        cases Option.some.inj (stored.symm.trans found)
        exact ⟨_, AList.lookup_insert _, rfl⟩
      · exact ⟨doc, by simpa only [recordWrite, put, AList.lookup_insert_ne same] using stored, rfl⟩
  | _ => exact ⟨doc, stored, rfl⟩

theorem owned_moved {state next : State} {event : RepoEvent} (identified : Identified state)
    (owned : Owned state) (moved : Moved state event next) : Owned next := by
  intro config holds
  rcases config_source moved holds with old | ⟨doc, wrote, rfl⟩
  · obtain ⟨doc, stored, own⟩ := owned config old
    obtain ⟨after, found, same⟩ := tenant_moved moved stored
    exact ⟨after, found, same.trans own⟩
  · cases wrote with
    | created free =>
        cases moved with
        | created free => exact ⟨doc, AList.lookup_insert _, rfl⟩
    | @updated projectId _ _ _ before stored own =>
        have id : before.id = projectId := identified projectId before stored
        obtain ⟨after, found, same⟩ := tenant_moved moved stored
        refine ⟨after, ?_, same⟩
        rw [← id] at found
        exact found

/-! ## Configurations are cached under their project -/

/-- A configuration under a key of the cache, or in a call, is that of the project asked for. -/
structure Keyed (state : State) : Prop where
  cached : ∀ projectId entry, state.store.projectConfigs.lookup projectId = some entry →
    entry.config.projectId = projectId
  reads : ∀ read ∈ state.reads, ∀ config, read.phase.config = some config →
    config.projectId = read.projectId

theorem keyed_initial (now : Instant) : Keyed (initial now) := by
  refine ⟨?_, fun read member => absurd member List.not_mem_nil⟩
  intro projectId entry listed
  cases listed

/-- A call that moves to a phase whose configuration is that of its project. -/
theorem keyed_setRead {state : State} {index : Nat} {phase : ReadPhase} (keyed : Keyed state)
    (own : ∀ read, state.reads[index]? = some read → ∀ config, phase.config = some config →
      config.projectId = read.projectId) : Keyed (state.setRead index phase) :=
  ⟨keyed.cached, forall_setRead keyed.reads own⟩

theorem keyed_moved {state next : State} {event : RepoEvent} (identified : Identified state)
    (keyed : Keyed state) (moved : Moved state event next) : Keyed next := by
  cases moved with
  | asked projectId tenantId =>
      refine ⟨keyed.cached, fun read member config carries => ?_⟩
      rcases List.mem_append.mp member with old | new
      · exact keyed.reads read old config carries
      · cases List.mem_singleton.mp new
        cases carries
  | @hit index read config found phase cached =>
      refine keyed_setRead keyed fun other there result same => ?_
      cases Option.some.inj (found.symm.trans there)
      cases same
      obtain ⟨entry, listed, rfl⟩ := getProjectConfig_some cached
      exact keyed.cached read.projectId entry listed
  | missed found phase => exact keyed_setRead keyed fun _ _ _ same => by cases same
  | refused found phase absent => exact keyed_setRead keyed fun _ _ _ same => by cases same
  | @fetched index read doc found phase stored active =>
      refine keyed_setRead keyed fun other there result same => ?_
      cases Option.some.inj (found.symm.trans there)
      cases same
      exact identified read.projectId doc (Option.filter_eq_some_iff.mp stored).1
  | @filled index read doc found phase =>
      have own : doc.toProjectConfig.projectId = read.projectId :=
        keyed.reads read (List.mem_of_getElem? found) _ (by simp [phase, ReadPhase.config])
      refine ⟨fun projectId entry listed => ?_, (keyed_setRead keyed ?_).reads⟩
      · by_cases same : projectId = read.projectId
        · subst same
          simp only [setRead, fill, Store.setProjectConfig, AList.lookup_insert] at listed
          cases Option.some.inj listed
          exact own
        · simp only [setRead, fill, Store.setProjectConfig, AList.lookup_insert_ne same] at listed
          exact keyed.cached projectId entry listed
      · intro other there result same
        cases Option.some.inj (found.symm.trans there)
        cases same
        exact own
  | updated found phase =>
      exact ⟨fun projectId entry listed => keyed.cached projectId entry (lookup_erase_some listed).2,
        keyed.reads⟩
  | returned found =>
      exact ⟨fun projectId entry listed => keyed.cached projectId entry (lookup_erase_some listed).2,
        keyed.reads⟩
  | _ => exact ⟨keyed.cached, keyed.reads⟩

theorem read_kept {state next : State} {event : RepoEvent} (moved : Moved state event next)
    {index : Nat} {read : ReadCall} (found : state.reads[index]? = some read) :
    ∃ after, next.reads[index]? = some after ∧ after.projectId = read.projectId ∧
      after.tenantId = read.tenantId := by
  have changed : ∀ place phase, ∃ after, (state.setRead place phase).reads[index]? = some after ∧
      after.projectId = read.projectId ∧ after.tenantId = read.tenantId := by
    intro place phase
    simp only [setRead, List.getElem?_modify, found]
    refine ⟨_, rfl, ?_⟩
    split
    · exact ⟨rfl, rfl⟩
    · exact ⟨rfl, rfl⟩
  cases moved with
  | asked projectId tenantId =>
      exact ⟨read, Places.concat_keeps _ found, rfl, rfl⟩
  | hit there phase cached => exact changed _ _
  | missed there phase => exact changed _ _
  | refused there phase absent => exact changed _ _
  | fetched there phase stored active => exact changed _ _
  | filled there phase => exact changed _ _
  | _ => exact ⟨read, found, rfl, rfl⟩

/-- A call after a step is one from before, in some phase, or the one that was just made. -/
theorem read_moved {state next : State} {event : RepoEvent} (moved : Moved state event next)
    {read : ReadCall} (member : read ∈ next.reads) :
    (∃ before ∈ state.reads, read.projectId = before.projectId ∧
      read.tenantId = before.tenantId) ∨ event = .getConfig read.projectId read.tenantId := by
  have same : ∀ old ∈ state.reads, ∃ before ∈ state.reads, old.projectId = before.projectId ∧
      old.tenantId = before.tenantId := fun old member => ⟨old, member, rfl, rfl⟩
  have changed : ∀ place phase, ∀ read ∈ (state.setRead place phase).reads,
      ∃ before ∈ state.reads, read.projectId = before.projectId ∧
        read.tenantId = before.tenantId := by
    intro place phase
    refine forall_setRead same fun read found => ?_
    exact ⟨read, List.mem_of_getElem? found, rfl, rfl⟩
  cases moved with
  | asked projectId tenantId =>
      rcases List.mem_append.mp member with old | new
      · exact Or.inl (same read old)
      · cases List.mem_singleton.mp new
        exact Or.inr rfl
  | hit there phase cached => exact Or.inl (changed _ _ read member)
  | missed there phase => exact Or.inl (changed _ _ read member)
  | refused there phase absent => exact Or.inl (changed _ _ read member)
  | fetched there phase stored active => exact Or.inl (changed _ _ read member)
  | filled there phase => exact Or.inl (changed _ _ read member)
  | _ => exact Or.inl (same read member)

/-! ## A call that runs alone -/

/-- The commands of the call. -/
def ofRead (index : Nat) : RepoEvent → Bool
  | .redisGet read | .findOne read | .redisSet read => read == index
  | _ => false

theorem setRead_found {state : State} {index : Nat} {projectId tenantId : String} {floor : Nat}
    {before : ReadPhase} (phase : ReadPhase)
    (found : state.reads[index]? = some ⟨projectId, tenantId, floor, before⟩) :
    (state.setRead index phase).reads[index]? = some ⟨projectId, tenantId, floor, phase⟩ := by
  simp [setRead, found]

theorem getConfig_alone {state : State} {index : Nat} {projectId tenantId : String} {floor : Nat}
    (found : state.reads[index]? = some ⟨projectId, tenantId, floor, .started⟩) :
    ∃ final, RunsOn State.step (fun event => ofRead index event = true) state final ∧
      final.store = (state.store.getConfig projectId tenantId).1 ∧
      final.reads[index]? = some ⟨projectId, tenantId, floor,
        .returned (state.store.getConfig projectId tenantId).2⟩ := by
  have redisGet : ofRead index (.redisGet index) = true := beq_self_eq_true index
  have findOne : ofRead index (.findOne index) = true := beq_self_eq_true index
  have redisSet : ofRead index (.redisSet index) = true := beq_self_eq_true index
  unfold Store.getConfig
  cases cached : state.store.getProjectConfig projectId with
  | some config =>
      have hit : state.step (.redisGet index) =
          some (state.setRead index (.returned (some config))) := by
        simp [State.step, found, cached]
      exact ⟨state.setRead index (.returned (some config)), .single redisGet hit, rfl,
        setRead_found _ found⟩
  | none =>
      let missed := state.setRead index .missed
      have found' : missed.reads[index]? = some ⟨projectId, tenantId, floor, .missed⟩ :=
        setRead_found .missed found
      have first : state.step (.redisGet index) = some missed := by
        simp [State.step, found, cached, missed]
      have begun : RunsOn State.step (fun event => ofRead index event = true) state missed :=
        .single redisGet first
      have same : missed.store = state.store := rfl
      cases stored : state.store.getById projectId (some tenantId) with
      | none =>
          have second : missed.step (.findOne index) =
              some (missed.setRead index (.returned none)) := by
            simp [State.step, found', same, stored]
          exact ⟨missed.setRead index (.returned none), begun.trans (.single findOne second), rfl,
            setRead_found _ found'⟩
      | some doc =>
          by_cases active : doc.isActive = true
          · have found'' := setRead_found (.found doc) found'
            have second : missed.step (.findOne index) =
                some (missed.setRead index (.found doc)) := by
              simp [State.step, found', same, stored, active]
            let final := ((missed.setRead index (.found doc)).fill projectId
              doc.toProjectConfig).setRead index (.returned (some doc.toProjectConfig))
            have third : (missed.setRead index (.found doc)).step (.redisSet index) =
                some final := by
              simp [State.step, found'', final]
            simp only [if_pos active]
            exact ⟨final, (begun.trans (.single findOne second)).trans (.single redisSet third), rfl,
              setRead_found _ found''⟩
          · have second : missed.step (.findOne index) =
                some (missed.setRead index (.returned none)) := by
              simp [State.step, found', same, stored, active]
            simp only [if_neg active]
            exact ⟨missed.setRead index (.returned none), begun.trans (.single findOne second), rfl,
              setRead_found _ found'⟩

/-- A call that is under way can be run to its return. -/
theorem read_returns {state : State} {index : Nat} {read : ReadCall}
    (found : state.reads[index]? = some read) :
    ∃ final, RunsOn State.step (fun event => ofRead index event = true) state final ∧
      ∃ result, final.reads[index]? = some { read with phase := .returned result } := by
  obtain ⟨projectId, tenantId, floor, phase⟩ := read
  have findOne : ofRead index (.findOne index) = true := beq_self_eq_true index
  have redisSet : ofRead index (.redisSet index) = true := beq_self_eq_true index
  have fromFound : ∀ (middle : State) (doc : ProjectDoc),
      middle.reads[index]? = some ⟨projectId, tenantId, floor, .found doc⟩ →
      ∃ final, RunsOn State.step (fun event => ofRead index event = true) middle final ∧
        ∃ result, final.reads[index]? =
          some ⟨projectId, tenantId, floor, .returned result⟩ := by
    intro middle doc there
    let final := (middle.fill projectId doc.toProjectConfig).setRead index
      (.returned (some doc.toProjectConfig))
    have stepped : middle.step (.redisSet index) = some final := by
      simp [State.step, there, final]
    exact ⟨final, .single redisSet stepped, _, setRead_found _ there⟩
  cases phase with
  | started =>
      obtain ⟨final, ran, _, returned⟩ := getConfig_alone found
      exact ⟨final, ran, _, returned⟩
  | missed =>
      cases stored : state.store.getById projectId (some tenantId) with
      | none =>
          have stepped : state.step (.findOne index) =
              some (state.setRead index (.returned none)) := by
            simp [State.step, found, stored]
          exact ⟨_, .single findOne stepped, none, setRead_found _ found⟩
      | some doc =>
          by_cases active : doc.isActive = true
          · have stepped : state.step (.findOne index) =
                some (state.setRead index (.found doc)) := by
              simp [State.step, found, stored, active]
            have begun : RunsOn State.step (fun event => ofRead index event = true) state
                (state.setRead index (.found doc)) := .single findOne stepped
            obtain ⟨final, ran, returned⟩ := fromFound _ doc (setRead_found _ found)
            exact ⟨final, begun.trans ran, returned⟩
          · have stepped : state.step (.findOne index) =
                some (state.setRead index (.returned none)) := by
              simp [State.step, found, stored, active]
            exact ⟨_, .single findOne stepped, none, setRead_found _ found⟩
  | found doc => exact fromFound state doc found
  | returned result => exact ⟨state, .refl _ _, result, found⟩

end State

end LiveChat.Repositories.ProjectRepo
