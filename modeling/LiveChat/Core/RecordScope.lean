import LiveChat.Core.SessionRecords

/-!
# Whose session a record is about

A record names the session, project and tenant of the runner that wrote it, from the moment its
document is made up to the collection, where it stays under an id of its own.
-/

set_option autoImplicit false

namespace LiveChat.Core.SessionManager.Node

open LiveChat.Core.GeminiRunner

structure Names (session : Session) (doc : SessionDoc) : Prop where
  id : doc.id = session.state.sessionId
  projectId : doc.projectId = session.project.projectId
  tenantId : doc.tenantId = session.project.tenantId

theorem names_same {before after : Session} {doc : SessionDoc}
    (same : Session.SameSession before after) (names : Names before doc) : Names after doc :=
  ⟨names.id.trans same.sessionId.symm, names.projectId.trans (by rw [same.project]),
    names.tenantId.trans (by rw [same.project])⟩

/-- The document that a runner holds for its insert. -/
def HoldsOwn (session : Session) : Prop :=
  ∀ doc executed, session.await = .recording doc executed → Names session doc

theorem holdsOwn_elsewhere {session : Session}
    (elsewhere : ∀ doc executed, session.await ≠ .recording doc executed) : HoldsOwn session :=
  fun doc executed here => absurd here (elsewhere doc executed)

theorem holdsOwn_same {before after : Session} (same : Session.SameSession before after)
    (await : after.await = before.await) (holds : HoldsOwn before) : HoldsOwn after :=
  fun doc executed here => names_same same (holds doc executed (await.symm.trans here))

theorem holdsOwn_step {before after : Session} {clock : Clock} {event : RunnerEvent}
    (quiet : before.Quiet) (holds : HoldsOwn before)
    (run : before.step (clock, event) = some after) : HoldsOwn after := by
  obtain ⟨progress, resumed, rfl⟩ := Session.step_settles run
  cases Session.resume_moved quiet resumed with
  | inside inside stays after evolves =>
      refine holdsOwn_elsewhere fun doc executed here => ?_
      rw [Session.settle] at here
      simp [here, Await.inTry] at after
  | @left _ last moment inside leaves evolves outbox =>
      rw [Session.settle_enterFinally]
      split
      · rintro doc executed here
        cases here
        exact ⟨rfl, rfl, rfl⟩
      · exact holdsOwn_elsewhere fun doc executed here => by cases here
  | around outside surrounds await evolves stopped counters accepted =>
      exact holdsOwn_same evolves.same await holds
  | inserted doc here =>
      rintro other executed there
      cases there
      have same : Session.SameSession before (before.goto (.recording doc true)) :=
        ⟨rfl, rfl, rfl, rfl⟩
      exact names_same same (holds doc false here)
  | neverStarted here moved =>
      subst moved
      exact holdsOwn_elsewhere fun doc executed there => by cases there
  | interrupted doc written here moved =>
      subst moved
      exact holdsOwn_elsewhere fun doc executed there => by cases there
  | entered here => exact holdsOwn_elsewhere fun doc executed there => by cases there
  | setupRaised exc here => exact holdsOwn_elsewhere fun doc executed there => by cases there
  | insertReturned doc here => exact holdsOwn_elsewhere fun doc executed there => by cases there
  | insertFailed doc here => exact holdsOwn_elsewhere fun doc executed there => by cases there

/-! ## The collection -/

/-- What a step does to the collection. -/
theorem records_moved {node next : Node} {event : NodeEvent} (moved : Moved node event next) :
    next.records = node.records ∨ ∃ (index : Nat) (runner : Runner) (doc : SessionDoc),
      node.runners[index]? = some runner ∧ runner.session.await = .recording doc false ∧
        next.records = insertOne node.records ⟨doc, index⟩ := by
  cases moved with
  | managed manages managed => exact Or.inl (records_managed managed)
  | @advanced index event runner after found run =>
      simp only [advance]
      cases writes : inserts runner.session event with
      | none => exact Or.inl rfl
      | some doc =>
          simp only [inserts] at writes
          split at writes
          · rename_i here
            cases writes
            exact Or.inr ⟨index, runner, doc, found, here, rfl⟩
          · cases writes
  | _ => exact Or.inl rfl

/-- A rejected insert changes nothing. -/
theorem insertOne_cases (records : List Record) (record : Record) :
    insertOne records record = records ∨ insertOne records record = records ++ [record] ∧
      ∀ other ∈ records, other.doc.id ≠ record.doc.id := by
  unfold insertOne
  split
  · exact Or.inl rfl
  · rename_i absent
    exact Or.inr ⟨rfl, by simpa using absent⟩

/-- Records are only appended. -/
theorem records_prefix {node next : Node} {event : NodeEvent} (moved : Moved node event next) :
    node.records <+: next.records := by
  rcases records_moved moved with same | ⟨index, runner, doc, found, here, inserted⟩
  · exact ⟨[], by rw [same, List.append_nil]⟩
  · rcases insertOne_cases node.records ⟨doc, index⟩ with same | ⟨grown, _⟩
    · exact ⟨[], by rw [inserted, same, List.append_nil]⟩
    · exact ⟨[⟨doc, index⟩], by rw [inserted, grown]⟩

structure Scoped (node : Node) : Prop where
  /-- No two documents have one `_id`. -/
  ids : (node.records.map fun record => record.doc.id).Nodup
  holds : ∀ (index : Nat) runner, node.runners[index]? = some runner → HoldsOwn runner.session
  written : ∀ record ∈ node.records, ∃ runner, node.runners[record.writer]? = some runner ∧
    Names runner.session record.doc

theorem scoped_initial (clock : Clock) : Scoped (Node.initial clock) where
  ids := List.nodup_nil
  holds index runner found := by simp [Node.initial] at found
  written record member := absurd member List.not_mem_nil

theorem holds_moved {node next : Node} {event : NodeEvent} (quiet : Quiet node)
    (books : Scoped node) (moved : Moved node event next) :
    ∀ (index : Nat) runner, next.runners[index]? = some runner → HoldsOwn runner.session := by
  intro index after found
  rcases runner_before_moved moved found with ⟨before, found'⟩ | ⟨_, _, _, _, rfl⟩
  · have holds := books.holds index before found'
    obtain ⟨after', there, undisturbed | ⟨stepped, _, run⟩⟩ := runner_of_moved moved found'
    · cases Option.some.inj (there.symm.trans found)
      exact holdsOwn_same undisturbed.same undisturbed.await holds
    · cases Option.some.inj (there.symm.trans found)
      exact holdsOwn_step (quiet index before found') holds run
  · exact holdsOwn_elsewhere fun doc executed here => by cases here

theorem scoped_moved {node next : Node} {event : NodeEvent} (quiet : Quiet node)
    (books : Scoped node) (moved : Moved node event next) : Scoped next := by
  -- a runner keeps its session, so what named it still does
  have kept : ∀ (index : Nat) runner, node.runners[index]? = some runner →
      ∀ doc, Names runner.session doc →
        ∃ after, next.runners[index]? = some after ∧ Names after.session doc := by
    intro index runner found doc names
    obtain ⟨after, found', same⟩ := runner_same_moved quiet moved found
    exact ⟨after, found', names_same same names⟩
  have old : ∀ record ∈ node.records, ∃ runner,
      next.runners[record.writer]? = some runner ∧ Names runner.session record.doc := by
    intro record member
    obtain ⟨runner, found, names⟩ := books.written record member
    exact kept record.writer runner found record.doc names
  have holds := holds_moved quiet books moved
  rcases records_moved moved with same | ⟨index, runner, doc, found, here, inserted⟩
  · exact ⟨by rw [same]; exact books.ids, holds, by rw [same]; exact old⟩
  · rcases insertOne_cases node.records ⟨doc, index⟩ with same | ⟨grown, free⟩
    · rw [same] at inserted
      exact ⟨by rw [inserted]; exact books.ids, holds, by rw [inserted]; exact old⟩
    · rw [grown] at inserted
      refine ⟨?_, holds, ?_⟩
      · rw [inserted, List.map_append, List.nodup_append]
        refine ⟨books.ids, List.nodup_singleton _, ?_⟩
        intro id taken other new same
        obtain ⟨record, member, rfl⟩ := List.mem_map.mp taken
        cases List.mem_singleton.mp new
        exact free record member same
      · rw [inserted]
        refine List.forall_mem_append.mpr ⟨old, fun record member => ?_⟩
        cases List.mem_singleton.mp member
        exact kept index runner found doc (books.holds index runner found doc false here)

end LiveChat.Core.SessionManager.Node
