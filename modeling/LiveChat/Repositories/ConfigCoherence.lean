import LiveChat.Repositories.ProjectSteps

/-!
# Coherence of the project config cache

A read that starts after a write has returned must see the document of that write or
a later one.  `Tracked` holds in every reachable state and ties the timelines to the
collection; `Fresh` says that no cache entry is older than a completed write.  Fills
of the cache are the only steps that can break it: a document read before a write may
reach Redis after that write's invalidation.
-/

set_option autoImplicit false

namespace LiveChat.Repositories.ProjectRepo

open LiveChat.Core
open LiveChat.Foundation
open LiveChat.Foundation.TransitionSystem

/-- A document read is one that the project has had since the call started. -/
structure ReadCall.Tracked (timeline : Timeline (Option ProjectDoc)) (read : ReadCall) : Prop where
  floor : read.floor ≤ timeline.floor
  found : ∀ doc, read.phase = .found doc →
    doc.isActive = true ∧ some doc ∈ timeline.since read.floor

/-- The floor counts every write that returned. -/
structure WriteCall.Tracked (timeline : Timeline (Option ProjectDoc)) (write : WriteCall) :
    Prop where
  version : write.version ≤ timeline.version
  returned : write.phase = .returned → write.version ≤ timeline.floor

theorem ReadCall.Tracked.extend {timeline later : Timeline (Option ProjectDoc)} {read : ReadCall}
    (tracked : read.Tracked timeline) (grown : timeline.Extends later) : read.Tracked later := by
  refine ⟨tracked.floor.trans grown.floor, fun doc phase => ?_⟩
  obtain ⟨active, since⟩ := tracked.found doc phase
  exact ⟨active, grown.since _ _ since⟩

theorem WriteCall.Tracked.extend {timeline later : Timeline (Option ProjectDoc)}
    {write : WriteCall} (tracked : write.Tracked timeline) (grown : timeline.Extends later) :
    write.Tracked later :=
  ⟨tracked.version.trans grown.version, fun phase => (tracked.returned phase).trans grown.floor⟩

namespace State

/-! ## Timelines only grow -/

theorem extends_put (state : State) (projectId : String) (doc : ProjectDoc) (other : String) :
    (state.timelines other).Extends ((state.put projectId doc).timelines other) := by
  by_cases same : other = projectId
  · subst same
    simp only [put, Function.update_self]
    exact Timeline.extends_write _ _
  · simp only [put, Function.update_of_ne same]
    exact .refl _

theorem extends_complete (state : State) (projectId : String) (version : Nat) (other : String) :
    (state.timelines other).Extends ((state.complete projectId version).timelines other) := by
  by_cases same : other = projectId
  · subst same
    simp only [complete, Function.update_self]
    exact Timeline.extends_complete _ _
  · simp only [complete, Function.update_of_ne same]
    exact .refl _

theorem extends_moved {state next : State} {event : RepoEvent} (moved : Moved state event next)
    (projectId : String) :
    (state.timelines projectId).Extends (next.timelines projectId) := by
  cases moved with
  | created free => exact extends_put state _ _ projectId
  | wrote changed => exact extends_put state _ _ projectId
  | returned found => exact extends_complete _ _ _ projectId
  | _ => exact .refl _

/-! ## What holds in every reachable state -/

structure Tracked (state : State) : Prop where
  current : ∀ projectId,
    (state.timelines projectId).current = state.store.projects.lookup projectId
  reads : ∀ read ∈ state.reads, read.Tracked (state.timelines read.projectId)
  writes : ∀ write ∈ state.writes, write.Tracked (state.timelines write.projectId)

theorem tracked_initial (now : Instant) : Tracked (initial now) := by
  refine ⟨fun projectId => rfl, ?_, ?_⟩ <;> simp [initial]

theorem current_put {state : State} (tracked : Tracked state) (projectId : String)
    (doc : ProjectDoc) (other : String) :
    ((state.put projectId doc).timelines other).current =
      (state.put projectId doc).store.projects.lookup other := by
  by_cases same : other = projectId
  · subst same
    simp [put]
  · simp [put, same, tracked.current other]

theorem current_complete {state : State} (tracked : Tracked state) (projectId : String)
    (version : Nat) (other : String) :
    ((state.complete projectId version).timelines other).current =
      state.store.projects.lookup other := by
  rw [← tracked.current other]
  by_cases same : other = projectId
  · subst same
    simp [complete]
  · simp [complete, same]

theorem getById_current {state : State} (tracked : Tracked state) {projectId : String}
    {tenantId : Option String} {doc : ProjectDoc}
    (stored : state.store.getById projectId tenantId = some doc) :
    (state.timelines projectId).current = some doc := by
  rw [tracked.current projectId]
  exact (Option.filter_eq_some_iff.mp stored).1

/-- Earlier calls stay tracked, whatever the step does to the timelines. -/
theorem reads_extend {state next : State} {event : RepoEvent} (tracked : Tracked state)
    (moved : Moved state event next) :
    ∀ read ∈ state.reads, read.Tracked (next.timelines read.projectId) :=
  fun read member => (tracked.reads read member).extend (extends_moved moved read.projectId)

theorem writes_extend {state next : State} {event : RepoEvent} (tracked : Tracked state)
    (moved : Moved state event next) :
    ∀ write ∈ state.writes, write.Tracked (next.timelines write.projectId) :=
  fun write member => (tracked.writes write member).extend (extends_moved moved write.projectId)

theorem tracked_moved {state next : State} {event : RepoEvent} (tracked : Tracked state)
    (moved : Moved state event next) : Tracked next := by
  have reads := reads_extend tracked moved
  have writes := writes_extend tracked moved
  cases moved with
  | created free => exact ⟨current_put tracked _ _, reads, writes⟩
  | asked projectId tenantId =>
      refine ⟨tracked.current, ?_, writes⟩
      intro read member
      rcases List.mem_append.mp member with old | new
      · exact reads read old
      · cases List.mem_singleton.mp new
        exact ⟨Nat.le_refl _, nofun⟩
  | hit found phase cached =>
      refine ⟨tracked.current, forall_setRead reads fun read at' => ?_, writes⟩
      exact ⟨(reads read (List.mem_of_getElem? at')).floor, nofun⟩
  | missed found phase =>
      refine ⟨tracked.current, forall_setRead reads fun read at' => ?_, writes⟩
      exact ⟨(reads read (List.mem_of_getElem? at')).floor, nofun⟩
  | refused found phase absent =>
      refine ⟨tracked.current, forall_setRead reads fun read at' => ?_, writes⟩
      exact ⟨(reads read (List.mem_of_getElem? at')).floor, nofun⟩
  | fetched found phase stored active =>
      refine ⟨tracked.current, forall_setRead reads fun read at' => ?_, writes⟩
      cases Option.some.inj (found.symm.trans at')
      have below := (tracked.reads _ (List.mem_of_getElem? found)).floor
      refine ⟨below, fun doc same => ?_⟩
      cases same
      have member := Timeline.mem_since_current below
      rw [getById_current tracked stored] at member
      exact ⟨active, member⟩
  | filled found phase =>
      refine ⟨tracked.current, forall_setRead reads fun read at' => ?_, writes⟩
      exact ⟨(reads read (List.mem_of_getElem? at')).floor, nofun⟩
  | unmodified => exact tracked
  | @wrote projectId _ write _ doc changed =>
      refine ⟨current_put tracked _ _, reads, ?_⟩
      intro call member
      rcases List.mem_append.mp member with old | new
      · exact writes call old
      · cases List.mem_singleton.mp new
        exact ⟨Nat.le_refl _, nofun⟩
  | updated found phase =>
      refine ⟨tracked.current, reads, forall_setWrite writes fun write at' => ?_⟩
      exact ⟨(writes write (List.mem_of_getElem? at')).version, nofun⟩
  | @returned index call found =>
      refine ⟨current_complete tracked _ _, reads, forall_setWrite writes fun write at' => ?_⟩
      cases Option.some.inj (found.symm.trans at')
      have written := (tracked.writes _ (List.mem_of_getElem? found)).version
      refine ⟨(writes _ (List.mem_of_getElem? found)).version, fun _ => ?_⟩
      simp only [setWrite, complete, invalidate, Function.update_self]
      exact Timeline.version_le_complete written
  | ticked elapsed => exact ⟨tracked.current, reads, writes⟩

/-! ## Coherence -/

/-- `result` answers a call for a project whose document is `value`. -/
def Reflects (tenantId : String) (value : Option ProjectDoc) : Option ProjectConfig → Prop
  | some config => ∃ doc, value = some doc ∧ doc.isActive = true ∧ doc.toProjectConfig = config
  | none => ∀ doc, value = some doc → doc.isActive = true →
      Store.inScope (some tenantId) doc = false

def Answered (timeline : Timeline (Option ProjectDoc)) (read : ReadCall) : Prop :=
  ∀ result, read.phase = .returned result →
    ∃ value ∈ timeline.since read.floor, Reflects read.tenantId value result

/-- Every call answers with the document of the last write that had returned when it
started, or of a later one. -/
def Coherent (state : State) : Prop :=
  ∀ read ∈ state.reads, Answered (state.timelines read.projectId) read

/-- A call that starts after a `soft_delete` has returned answers `None`, unless a later
write made the project active again. -/
def DeletedUnseen (state : State) : Prop :=
  ∀ read ∈ state.reads, ∀ result, read.phase = .returned result →
    ∀ write ∈ state.writes, write.projectId = read.projectId → write.write = .softDelete →
      write.version ≤ read.floor →
        (∀ doc, some doc ∈ (state.timelines read.projectId).since write.version →
          doc.isActive = false) →
        result = none

theorem deletedUnseen_of_coherent {state : State} (coherent : Coherent state) :
    DeletedUnseen state := by
  intro read member result returned write _ _ _ earlier inactive
  obtain ⟨value, since, reflects⟩ := coherent read member result returned
  cases result with
  | none => rfl
  | some config =>
      obtain ⟨doc, rfl, active, _⟩ := reflects
      have dead := inactive doc (Timeline.mem_since_mono earlier since)
      rw [active] at dead
      cases dead

/-- No cache entry is older than a completed write. -/
def Fresh (state : State) : Prop :=
  ∀ projectId entry, state.store.projectConfigs.lookup projectId = some entry →
    ∃ doc, some doc ∈ (state.timelines projectId).valid ∧ doc.isActive = true ∧
      doc.toProjectConfig = entry.config

/-- The project whose cache entry a step fills, and with which document. -/
def filling (state : State) : RepoEvent → Option (String × ProjectDoc)
  | .redisSet index =>
      state.reads[index]?.bind fun read =>
        match read.phase with
        | .found doc => some (read.projectId, doc)
        | _ => none
  | _ => none

/-- No write newer than the document that a call puts into Redis has returned. -/
def FillsInTime (state : State) (event : RepoEvent) : Prop :=
  ∀ fill ∈ state.filling event, some fill.2 ∈ (state.timelines fill.1).valid

instance (state : State) (event : RepoEvent) : Decidable (FillsInTime state event) :=
  inferInstanceAs (Decidable (∀ fill ∈ state.filling event, _ ∈ _))

theorem fresh_kept {state next : State} (fresh : Fresh state)
    (configs : ∀ projectId entry, next.store.projectConfigs.lookup projectId = some entry →
      state.store.projectConfigs.lookup projectId = some entry)
    (valid : ∀ projectId entry, next.store.projectConfigs.lookup projectId = some entry →
      ∀ value ∈ (state.timelines projectId).valid, value ∈ (next.timelines projectId).valid) :
    Fresh next := by
  intro projectId entry cached
  obtain ⟨doc, member, active, same⟩ := fresh projectId entry (configs projectId entry cached)
  exact ⟨doc, valid projectId entry cached _ member, active, same⟩

theorem valid_put (state : State) (projectId : String) (doc : ProjectDoc) (other : String)
    {value : Option ProjectDoc} (member : value ∈ (state.timelines other).valid) :
    value ∈ ((state.put projectId doc).timelines other).valid := by
  by_cases same : other = projectId
  · subst same
    simp only [put, Function.update_self]
    exact (Timeline.extends_write _ _).since _ _ member
  · simp only [put, Function.update_of_ne same]
    exact member

theorem valid_complete (state : State) {projectId other : String} (version : Nat)
    (differs : other ≠ projectId) {value : Option ProjectDoc}
    (member : value ∈ (state.timelines other).valid) :
    value ∈ ((state.complete projectId version).timelines other).valid := by
  simp only [complete, Function.update_of_ne differs]
  exact member

theorem fresh_moved {state next : State} {event : RepoEvent} (tracked : Tracked state)
    (fresh : Fresh state) (inTime : FillsInTime state event) (moved : Moved state event next) :
    Fresh next := by
  cases moved with
  | created free => exact fresh_kept fresh (fun _ _ cached => cached) fun _ _ _ _ => valid_put _ _ _ _
  | asked projectId tenantId => exact fresh
  | hit found phase cached => exact fresh
  | missed found phase => exact fresh
  | refused found phase absent => exact fresh
  | fetched found phase stored active => exact fresh
  | @filled index read doc found phase =>
      intro projectId entry cached
      by_cases same : projectId = read.projectId
      · subst same
        simp only [setRead, fill, Store.setProjectConfig, AList.lookup_insert] at cached
        cases Option.some.inj cached
        have active := ((tracked.reads _ (List.mem_of_getElem? found)).found doc phase).1
        refine ⟨doc, inTime (read.projectId, doc) ?_, active, rfl⟩
        simp [filling, found, phase]
      · simp only [setRead, fill, Store.setProjectConfig, AList.lookup_insert_ne same] at cached
        exact fresh projectId entry cached
  | unmodified => exact fresh
  | wrote changed => exact fresh_kept fresh (fun _ _ cached => cached) fun _ _ _ _ => valid_put _ _ _ _
  | updated found phase =>
      exact fresh_kept fresh (fun _ _ cached => (lookup_erase_some cached).2) fun _ _ _ _ member => member
  | returned found =>
      exact fresh_kept fresh (fun _ _ cached => (lookup_erase_some cached).2)
        fun _ _ cached _ => valid_complete _ _ (lookup_erase_some cached).1
  | ticked elapsed => exact fresh

theorem Answered.extend {timeline later : Timeline (Option ProjectDoc)} {read : ReadCall}
    (answered : Answered timeline read) (grown : timeline.Extends later) :
    Answered later read := by
  intro result phase
  obtain ⟨value, since, reflects⟩ := answered result phase
  exact ⟨value, grown.since _ _ since, reflects⟩

theorem answered_of_unreturned {timeline : Timeline (Option ProjectDoc)} {read : ReadCall}
    (unreturned : ∀ result, read.phase ≠ .returned result) : Answered timeline read :=
  fun result returned => absurd returned (unreturned result)

theorem coherent_moved {state next : State} {event : RepoEvent} (tracked : Tracked state)
    (fresh : Fresh state) (coherent : Coherent state) (moved : Moved state event next) :
    Coherent next := by
  have earlier : ∀ read ∈ state.reads, Answered (next.timelines read.projectId) read :=
    fun read member => (coherent read member).extend (extends_moved moved read.projectId)
  cases moved with
  | created free => exact earlier
  | asked projectId tenantId =>
      intro read member
      rcases List.mem_append.mp member with old | new
      · exact earlier read old
      · cases List.mem_singleton.mp new
        exact answered_of_unreturned (by simp)
  | @hit index read config found phase cached =>
      refine forall_setRead earlier fun other at' => ?_
      cases Option.some.inj (found.symm.trans at')
      intro result same
      cases same
      simp only [Store.getProjectConfig] at cached
      split at cached
      · cases cached
      · rename_i entry listed
        split at cached
        · obtain ⟨doc, valid, active, built⟩ := fresh _ _ listed
          cases Option.some.inj cached
          have below := (tracked.reads _ (List.mem_of_getElem? found)).floor
          exact ⟨some doc, Timeline.mem_since_mono below valid, doc, rfl, active, built⟩
        · cases cached
  | missed found phase => exact forall_setRead earlier fun _ _ => answered_of_unreturned (by simp)
  | @refused index read found phase absent =>
      refine forall_setRead earlier fun other at' => ?_
      cases Option.some.inj (found.symm.trans at')
      intro result same
      cases same
      have below := (tracked.reads _ (List.mem_of_getElem? found)).floor
      refine ⟨_, Timeline.mem_since_current below, fun doc current active => ?_⟩
      have stored := (tracked.current read.projectId).symm.trans current
      refine Bool.eq_false_iff.mpr fun inScope => ?_
      have inactive := absent doc (Option.filter_eq_some_iff.mpr ⟨stored, inScope⟩)
      rw [active] at inactive
      cases inactive
  | fetched found phase stored active =>
      exact forall_setRead earlier fun _ _ => answered_of_unreturned (by simp)
  | @filled index read doc found phase =>
      refine forall_setRead earlier fun other at' => ?_
      cases Option.some.inj (found.symm.trans at')
      intro result same
      cases same
      obtain ⟨active, since⟩ := (tracked.reads _ (List.mem_of_getElem? found)).found doc phase
      exact ⟨some doc, since, doc, rfl, active, rfl⟩
  | unmodified => exact coherent
  | wrote changed => exact earlier
  | updated found phase => exact earlier
  | returned found => exact earlier
  | ticked elapsed => exact earlier

/-- A run whose cache fills are all in time never answers a call with a superseded
configuration, nor with one of a deleted project. -/
theorem coherent_of_fillsInTime (now : Instant) (events : List RepoEvent)
    (inTime : Along step FillsInTime (initial now) events) :
    Always step (fun state => Coherent state ∧ DeletedUnseen state) (initial now) events := by
  have always : Always step (fun state => Tracked state ∧ Fresh state ∧ Coherent state)
      (initial now) events := by
    refine always_of_along _ ?_ ⟨tracked_initial now, ?_, ?_⟩ inTime
    · rintro state event next ⟨tracked, fresh, coherent⟩ met run
      have moved := step_moved run
      exact ⟨tracked_moved tracked moved, fresh_moved tracked fresh met moved,
        coherent_moved tracked fresh coherent moved⟩
    · intro projectId entry cached
      cases cached
    · intro read member
      cases member
  exact always.mono fun state held => ⟨held.2.2, deletedUnseen_of_coherent held.2.2⟩

/-- A fill that comes too late is harmful: whoever asks next for the project is answered
with the superseded configuration. -/
theorem stale_of_late_fill {state : State} {index : Nat} {read : ReadCall} {doc : ProjectDoc}
    (found : state.reads[index]? = some read) (phase : read.phase = .found doc)
    (late : ∀ other, some other ∈ (state.timelines read.projectId).valid →
      other.toProjectConfig ≠ doc.toProjectConfig) (tenantId : String) :
    ∃ final, exec step state [.redisSet index, .getConfig read.projectId tenantId,
      .redisGet state.reads.length] = some final ∧ ¬ Coherent final := by
  obtain ⟨projectId, ownTenantId, floor, _⟩ := read
  cases phase
  let config := doc.toProjectConfig
  let filled := (state.fill projectId config).setRead index (.returned (some config))
  let asked := filled.ask projectId tenantId
  let answer : ReadCall :=
    ⟨projectId, tenantId, (state.timelines projectId).floor, .returned (some config)⟩
  have fills : state.step (.redisSet index) = some filled := by
    simp only [step, found]
    rfl
  have newest : asked.reads[state.reads.length]? =
      some ⟨projectId, tenantId, (state.timelines projectId).floor, .started⟩ := by
    simp [asked, filled, ask, setRead, fill]
  have cached : asked.store.getProjectConfig projectId = some config := by
    simp [asked, filled, ask, setRead, fill, Store.setProjectConfig, Store.getProjectConfig,
      CACHE_TTL]
  have hits : asked.step (.redisGet state.reads.length) =
      some (asked.setRead state.reads.length (.returned (some config))) := by
    simp only [step, newest, cached]
  have answered : (asked.setRead state.reads.length (.returned (some config))).reads[
      state.reads.length]? = some answer := by
    simp only [setRead, List.getElem?_modify, newest, if_true]
    rfl
  have asks : filled.step (.getConfig projectId tenantId) = some asked := rfl
  refine ⟨asked.setRead state.reads.length (.returned (some config)), ?_, fun coherent => ?_⟩
  · simp only [exec_cons, fills, Option.bind_some]
    rw [asks, Option.bind_some, hits]
    rfl
  obtain ⟨value, member, other, rfl, _, same⟩ :=
    coherent answer (List.mem_of_getElem? answered) _ rfl
  exact late other member same

/-- A project of tenant `t`, and a call that read it before a write. -/
def sampleProject : ProjectDoc :=
  { id := "p", tenantId := "t", name := "bot", systemPrompt := "old", updatedAt := 0 }

def readBefore (write : Write) : List RepoEvent :=
  [.create sampleProject, .getConfig "p" "t", .redisGet 0, .findOne 0,
    .updateOne "p" "t" write 0]

/-- The call fills the cache before the invalidation, and the next call reads MongoDB. -/
theorem coherent_refilled :
    Always step (fun state => Coherent state ∧ DeletedUnseen state) (initial 0)
      (readBefore (.update { systemPrompt := some "new" }) ++
        [.redisSet 0, .redisDel 0, .getConfig "p" "t", .redisGet 1, .findOne 1, .redisSet 1]) :=
  coherent_of_fillsInTime 0 _ (by decide)

/-- The call puts a project back into the cache after its deletion, and the next call
takes it from there. -/
theorem coherent_fails :
    ¬ ∀ (now : Instant) (events : List RepoEvent),
      Always step (fun state => Coherent state ∧ DeletedUnseen state) (initial now) events := by
  intro always
  let events := readBefore .softDelete ++
    [.redisDel 0, .redisDel 0, .redisSet 0, .getConfig "p" "t", .redisGet 1]
  have shape : (exec step (initial 0) events).map (fun state =>
      (state.reads[1]?, (state.timelines "p").since 2)) =
      some (some ⟨"p", "t", 2, .returned (some sampleProject.toProjectConfig)⟩,
        [some { sampleProject with isActive := false }]) := by decide
  obtain ⟨final, run, facts⟩ := Option.map_eq_some_iff.mp shape
  obtain ⟨found, since⟩ := Prod.mk.inj facts
  obtain ⟨coherent, _⟩ := (always 0 events).last run
  obtain ⟨value, member, doc, rfl, active, _⟩ := coherent _ (List.mem_of_getElem? found) _ rfl
  rw [since] at member
  cases Option.some.inj (List.mem_singleton.mp member)
  cases active

end State

end LiveChat.Repositories.ProjectRepo
